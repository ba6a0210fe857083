import PageWatch.Markup.Builder

/-!
# End tags of formatting elements

When a formatting element is closed while blocks inside it are open, it is cut
in two: the part before the block stays, and a copy goes inside the block.
-/

set_option autoImplicit false

namespace PageWatch.Markup

def anyOtherEndTag (tag : String) : Build Unit := do
  let b ← get
  match nearest b b.opened with
  | none => pure ()
  | some i =>
    closeImplied [tag]
    popThroughId i
where
  nearest (b : Builder) : List Nat → Option Nat
    | [] => none
    | i :: outer =>
      match b.name? i with
      | none => none
      | some n => if n.isHtml tag then some i else if isSpecial n then none else nearest b outer

def Builder.waitingTag? (b : Builder) (id : Nat) : Option Tag :=
  b.formatting.findSome? fun
    | .marker => none
    | .element i t => if i = id then some t else none

def replaceFormatting (old new : Nat) : Build Unit :=
  modify fun b =>
    { b with formatting := b.formatting.map fun
        | .marker => .marker
        | .element i t => .element (if i = old then new else i) t }

def copyBetween (last : Nat) (first : Option Nat) :
    Nat → List Nat → Build (List Nat × Nat × Option Nat)
  | _, [] => return ([], last, first)
  | count, node :: outer => do
    match (← get).waitingTag? node with
    | none => copyBetween last first (count + 1) outer
    | some t =>
      if 3 < count then
        removeFormatting node
        copyBetween last first (count + 1) outer
      else
        let copy ← create (.element ⟨.html, t.name⟩ t.attributes)
        replaceFormatting node copy
        modify fun b => { b with forest := b.forest.append copy last }
        let (copies, last', first') ←
          copyBetween copy (some (first.getD copy)) (count + 1) outer
        return (copy :: copies, last', first')

/-- Enters the copy of the closed element: next to the first copy between, else in its place. -/
def moveEntry (old new : Nat) (tag : Tag) (bookmark : Option Nat) : Build Unit :=
  modify fun b =>
    match bookmark with
    | none =>
      { b with formatting := b.formatting.map fun e =>
          if e.has old then .element new tag else e }
    | some mark =>
      { b with formatting := (b.formatting.flatMap fun e =>
          if e.has mark then [.element new tag, e] else [e]).filter (!·.has old) }

/-- One round for the waiting element `id`; `true` asks for another round. -/
def adoptOnce (id : Nat) (tag : Tag) : Build Bool := do
  let b ← get
  if !b.opened.contains id then
    removeFormatting id
    return false
  else if !b.scopeHas boundsScope fun i _ => i == id then return false
  else
    let inner := b.opened.takeWhile (· != id)
    let outer := (b.opened.dropWhile (· != id)).drop 1
    match inner.reverse.find? fun i => (b.name? i).any isSpecial with
    | none =>
      popThroughId id
      removeFormatting id
      return false
    | some block =>
      let common := outer.head?.getD 0
      let between := (inner.dropWhile (· != block)).drop 1
      let (copies, last, first) ← copyBetween block none 1 between
      placeFor common last
      let copy ← create (.element ⟨.html, tag.name⟩ tag.attributes)
      modify fun b =>
        { b with forest := (b.forest.moveChildren block copy).append block copy }
      moveEntry id copy tag first
      let below := inner.takeWhile (· != block)
      modify fun b => { b with opened := below ++ copy :: block :: copies ++ outer }
      return true

def adopt (tag : String) : Nat → Build Unit
  | 0 => pure ()
  | rounds + 1 => do
    match (← get).waiting? tag with
    | none => anyOtherEndTag tag
    | some (id, t) => if ← adoptOnce id t then adopt tag rounds

def closeFormatting (tag : String) : Build Unit := do
  let b ← get
  let settled : Bool := match b.current? with
    | some i => (b.name? i).any (·.isHtml tag) && (b.waitingTag? i).isNone
    | none => false
  if settled then pop else adopt tag 8

end PageWatch.Markup
