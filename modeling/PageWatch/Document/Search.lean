import PageWatch.Document.Matcher
import PageWatch.Markup.Tree

/-!
# Documents and searches in them

A search lists its results in document order. From a node it sees the node's
descendants, never the node itself.
-/

set_option autoImplicit false

namespace PageWatch

structure Document where
  nodes : List Node
  deriving Repr, DecidableEq

namespace Document

def ofCell (forest : Markup.Forest) : Nat → Nat → List Node
  | 0, _ => []
  | fuel + 1, i =>
    match forest.content? i with
    | some (.element name attributes) =>
      [.element name.tag attributes
        ((forest.children i).toList.flatMap (ofCell forest fuel))]
    | some (.text content) => [.text content]
    | some (.comment content) => [.comment content]
    | _ => []

def parse (markup : String) : Document :=
  let forest := Markup.forestOf markup
  ⟨(forest.children 0).toList.flatMap (ofCell forest forest.cells.size)⟩

def elements (d : Document) : List Node := (Node.preorderAll d.nodes).filter Node.isElement

def find? (d : Document) (m : Matcher) : Option Node := d.elements.find? m.accepts

def findAll (d : Document) (m : Matcher) : List Node := d.elements.filter m.accepts

end Document

namespace Node

def find? (n : Node) (m : Matcher) : Option Node := n.elements.find? m.accepts

def findAll (n : Node) (m : Matcher) : List Node := n.elements.filter m.accepts

def findTag? (n : Node) (tag : String) : Option Node := n.elements.find? (·.tag == tag)

end Node

end PageWatch
