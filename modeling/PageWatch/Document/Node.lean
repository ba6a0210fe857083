import PageWatch.Text.Blank
import PageWatch.Text.Quoted

/-!
# Nodes of a page

A node is an element with its attributes and children, a piece of text, or a
comment. The descendants of a node are listed in document order: every node
before what is inside it, and siblings from first to last.
-/

set_option autoImplicit false

namespace PageWatch

inductive Node where
  | element (tag : String) (attributes : List (String × String)) (children : List Node)
  | text (content : String)
  | comment (content : String)
  deriving Repr

namespace Node

mutual

def decEq : (n n' : Node) → Decidable (n = n')
  | element tag attributes children, element tag' attributes' children' =>
    match decEqAll children children' with
    | isTrue same => decidable_of_iff (tag = tag' ∧ attributes = attributes') (by simp [same])
    | isFalse other => isFalse (by simp [other])
  | text content, text content' => decidable_of_iff (content = content') (by simp)
  | comment content, comment content' => decidable_of_iff (content = content') (by simp)
  | element .., text _ | element .., comment _ | text _, element .. | text _, comment _
  | comment _, element .. | comment _, text _ => isFalse nofun

def decEqAll : (ns ns' : List Node) → Decidable (ns = ns')
  | [], [] => isTrue rfl
  | n :: ns, n' :: ns' =>
    match decEq n n', decEqAll ns ns' with
    | isTrue first, isTrue rest => isTrue (by rw [first, rest])
    | isFalse other, _ => isFalse (by simp [other])
    | _, isFalse other => isFalse (by simp [other])
  | [], _ :: _ | _ :: _, [] => isFalse nofun

end

instance : DecidableEq Node := decEq

def tag : Node → String
  | element tag _ _ => tag
  | _ => ""

def attributes : Node → List (String × String)
  | element _ attributes _ => attributes
  | _ => []

def children : Node → List Node
  | element _ _ children => children
  | _ => []

def isElement : Node → Bool
  | element .. => true
  | _ => false

def attribute? (n : Node) (name : String) : Option String :=
  (n.attributes.find? (·.1 == name)).map (·.2)

mutual

/-- The node itself and then its descendants. -/
def preorder : Node → List Node
  | element tag attributes children =>
    element tag attributes children :: preorderAll children
  | text content => [text content]
  | comment content => [comment content]

def preorderAll : List Node → List Node
  | [] => []
  | n :: rest => n.preorder ++ preorderAll rest

end

def descendants (n : Node) : List Node := preorderAll n.children

def elements (n : Node) : List Node := n.descendants.filter isElement

def ownText : Node → String
  | text content => content
  | _ => ""

/-- All text below the node, as it stands in the page. -/
def rawText (n : Node) : String := String.join (n.descendants.map ownText)

def readableText (n : Node) : String := Text.collapsed n.rawText

def describe (n : Node) : String :=
  let class' := match n.attribute? "class" with
    | some c => "Some(" ++ Text.quoted c ++ ")"
    | none => "None"
  "Node \x7b tag: " ++ Text.quoted n.tag ++ ", class: " ++ class' ++ " \x7d"

end Node

end PageWatch
