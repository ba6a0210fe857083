import PageWatch.Markup.Token

/-!
# The tree while it is built

Building moves subtrees about, so the tree under construction is a table of
cells that name their parent and children by number. Cell 0 is the document.
-/

set_option autoImplicit false

namespace PageWatch.Markup

inductive Space where
  | html
  | svg
  | math
  deriving Repr, DecidableEq

structure Name where
  space : Space
  tag : String
  deriving Repr, DecidableEq

inductive Content where
  | document
  | element (name : Name) (attributes : List Attribute)
  | text (content : String)
  | comment (content : String)
  deriving Repr

structure Cell where
  content : Content
  parent : Option Nat := none
  children : Array Nat := #[]
  deriving Repr

structure Forest where
  cells : Array Cell := #[{ content := .document }]
  deriving Repr

namespace Forest

def content? (f : Forest) (i : Nat) : Option Content := f.cells[i]?.map (·.content)

def name? (f : Forest) (i : Nat) : Option Name :=
  match f.content? i with
  | some (.element name _) => some name
  | _ => none

def parent? (f : Forest) (i : Nat) : Option Nat := f.cells[i]?.bind (·.parent)

def children (f : Forest) (i : Nat) : Array Nat := (f.cells[i]?.map (·.children)).getD #[]

def update (f : Forest) (i : Nat) (g : Cell → Cell) : Forest := ⟨f.cells.modify i g⟩

def add (f : Forest) (content : Content) : Nat × Forest :=
  (f.cells.size, ⟨f.cells.push { content }⟩)

def detach (f : Forest) (i : Nat) : Forest :=
  match f.parent? i with
  | none => f
  | some p =>
    (f.update p fun c => { c with children := c.children.filter (· != i) }).update i
      fun c => { c with parent := none }

def append (f : Forest) (p i : Nat) : Forest :=
  ((f.detach i).update p fun c => { c with children := c.children.push i }).update i
    fun c => { c with parent := some p }

def insertBefore (f : Forest) (sibling i : Nat) : Forest :=
  let f := f.detach i
  match f.parent? sibling with
  | none => f
  | some p =>
    let besides (k : Nat) : Array Nat := if k = sibling then #[i, k] else #[k]
    (f.update p fun c => { c with children := c.children.flatMap besides }).update i
      fun c => { c with parent := some p }

def moveChildren (f : Forest) (source target : Nat) : Forest :=
  (f.children source).foldl (fun f i => f.append target i) f

def addMissing (f : Forest) (i : Nat) (extra : List Attribute) : Forest :=
  f.update i fun c =>
    match c.content with
    | .element name attributes =>
      let missing := extra.filter fun a => !attributes.any (·.1 == a.1)
      { c with content := .element name (attributes ++ missing) }
    | _ => c

end Forest

end PageWatch.Markup
