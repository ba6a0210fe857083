import PageWatch.Markup.Names

/-!
# State and tools of tree building

The open elements are kept from the innermost outwards, and so are the
formatting elements that wait to be opened again.
-/

set_option autoImplicit false

namespace PageWatch.Markup

inductive Mode where
  | initial
  | beforeHtml
  | beforeHead
  | inHead
  | afterHead
  | inBody
  | text
  | inTable
  | inTableText
  | inCaption
  | inColumnGroup
  | inTableBody
  | inRow
  | inCell
  | inSelect
  | inSelectInTable
  | inTemplate
  | afterBody
  | inFrameset
  | afterFrameset
  | afterAfterBody
  | afterAfterFrameset
  deriving Repr, DecidableEq

inductive Formatting where
  | marker
  | element (id : Nat) (tag : Tag)
  deriving Repr

structure Builder where
  forest : Forest := {}
  mode : Mode := .initial
  returnMode : Mode := .initial
  templates : List Mode := []
  opened : List Nat := []
  formatting : List Formatting := []
  head : Option Nat := none
  form : Option Nat := none
  framesetOk : Bool := true
  skipNewline : Bool := false
  fostering : Bool := false
  tableText : List (Bool × String) := []
  legacy : Bool := false
  reading : Reading := .data
  readingTag : String := ""
  stopped : Bool := false
  deriving Repr

abbrev Build := StateM Builder

/-- Whether a rule is done with a token or hands it to the rules of the current mode. -/
inductive Step where
  | done
  | again
  deriving DecidableEq

namespace Builder

def current? (b : Builder) : Option Nat := b.opened.head?

def name? (b : Builder) (i : Nat) : Option Name := b.forest.name? i

def currentName? (b : Builder) : Option Name := b.current?.bind b.name?

def currentIs (b : Builder) (tags : List String) : Bool := b.currentName?.any (·.isOneOf tags)

def scopeHas (b : Builder) (bounds : Name → Bool) (target : Nat → Name → Bool) : Bool :=
  go b.opened
where
  go : List Nat → Bool
    | [] => false
    | i :: outer =>
      match b.name? i with
      | none => false
      | some n => target i n || (!bounds n && go outer)

def tagInScope (b : Builder) (bounds : Name → Bool) (tags : List String) : Bool :=
  b.scopeHas bounds fun _ n => n.isOneOf tags

def hasOpen (b : Builder) (tag : String) : Bool :=
  b.opened.any fun i => (b.name? i).any (·.isHtml tag)

end Builder

inductive Place where
  | inside (parent : Nat)
  | before (sibling : Nat)

/-- Where a node goes that is meant for `target`; inside a table that is in front of the table. -/
def Builder.place (b : Builder) (target : Nat) : Place :=
  if b.fostering && (b.name? target).any (·.isOneOf ("table" :: "tr" :: tableSections)) then
    match b.opened.dropWhile fun i => !(b.name? i).any (·.isOneOf ["template", "table"]) with
    | [] => .inside (b.opened.getLast?.getD target)
    | i :: outer =>
      if (b.name? i).any (·.isHtml "template") then .inside i
      else if (b.forest.parent? i).isSome then .before i
      else .inside (outer.head?.getD i)
  else .inside target

def Forest.put (f : Forest) (place : Place) (i : Nat) : Forest :=
  match place with
  | .inside p => f.append p i
  | .before s => f.insertBefore s i

def create (content : Content) : Build Nat :=
  modifyGet fun b => let (i, f) := b.forest.add content; (i, { b with forest := f })

def placeFor (target : Nat) (i : Nat) : Build Unit :=
  modify fun b => { b with forest := b.forest.put (b.place target) i }

def insertContent (content : Content) : Build Nat := do
  let i ← create content
  match (← get).current? with
  | some target => placeFor target i
  | none => modify fun b => { b with forest := b.forest.append 0 i }
  return i

def insertText (run : String) : Build Unit := discard (insertContent (.text run))

def insertComment (content : String) : Build Unit := discard (insertContent (.comment content))

def appendComment (parent : Nat) (content : String) : Build Unit := do
  let i ← create (.comment content)
  modify fun b => { b with forest := b.forest.append parent i }

def push (i : Nat) : Build Unit := modify fun b => { b with opened := i :: b.opened }

def pop : Build Unit := modify fun b => { b with opened := b.opened.drop 1 }

def insertVoid (t : Tag) : Build Unit :=
  discard (insertContent (.element ⟨.html, t.name⟩ t.attributes))

def insertElement (t : Tag) : Build Nat := do
  let i ← insertContent (.element ⟨.html, t.name⟩ t.attributes)
  push i
  return i

def insertTag (t : Tag) : Build Unit := discard (insertElement t)

def insertNamed (tag : String) : Build Unit := insertTag ⟨tag, [], false⟩

def setMode (m : Mode) : Build Unit := modify fun b => { b with mode := m }

def switchTo (m : Mode) : Build Step := do
  setMode m
  return .again

def done : Build Step := return .done

def framesetNotOk : Build Unit := modify fun b => { b with framesetOk := false }

def condition (p : Builder → Bool) : Build Bool := return p (← get)

def insertReading (t : Tag) (reading : Reading) : Build Step := do
  insertTag t
  modify fun b =>
    { b with reading, readingTag := t.name, returnMode := b.mode, mode := .text }
  done

def popWhile (p : Name → Bool) : Build Unit :=
  modify fun b => { b with opened := b.opened.dropWhile fun i => (b.name? i).any p }

def popThrough (tags : List String) : Build Unit := do
  popWhile fun n => !n.isOneOf tags
  pop

def popThroughId (id : Nat) : Build Unit :=
  modify fun b => { b with opened := (b.opened.dropWhile (· != id)).drop 1 }

def closeImplied (except : List String) : Build Unit :=
  popWhile fun n => n.isOneOf impliedEnds && !except.contains n.tag

def closeImpliedThoroughly : Build Unit := popWhile fun n => n.isOneOf impliedEndsInTemplate

def closeParagraph : Build Unit := do
  closeImplied ["p"]
  popThrough ["p"]

def closeParagraphInScope : Build Unit := do
  if ← condition (·.tagInScope boundsButtonScope ["p"]) then closeParagraph

def addMarker : Build Unit := modify fun b => { b with formatting := .marker :: b.formatting }

def clearToMarker : Build Unit :=
  modify fun b =>
    { b with formatting := (b.formatting.dropWhile fun e => e matches .element ..).drop 1 }

def sameTag (s t : Tag) : Bool :=
  s.name == t.name && s.attributes.length == t.attributes.length &&
    s.attributes.all (t.attributes.contains ·)

def dropThird (t : Tag) : Nat → List Formatting → List Formatting
  | _, [] => []
  | _, .marker :: r => .marker :: r
  | seen, .element i u :: r =>
    if sameTag t u then
      if seen = 2 then r else .element i u :: dropThird t (seen + 1) r
    else .element i u :: dropThird t seen r

/-- At most three equal elements wait after a marker; a further one replaces the oldest. -/
def addFormatting (i : Nat) (t : Tag) : Build Unit :=
  modify fun b => { b with formatting := .element i t :: dropThird t 0 b.formatting }

def Formatting.has (id : Nat) : Formatting → Bool
  | .marker => false
  | .element i _ => i == id

def removeFormatting (id : Nat) : Build Unit :=
  modify fun b => { b with formatting := b.formatting.filter (!·.has id) }

def removeOpened (id : Nat) : Build Unit :=
  modify fun b => { b with opened := b.opened.filter (· != id) }

def Builder.waiting? (b : Builder) (tag : String) : Option (Nat × Tag) :=
  go b.formatting
where
  go : List Formatting → Option (Nat × Tag)
    | [] | .marker :: _ => none
    | .element i t :: r => if t.name == tag then some (i, t) else go r

def reopen : List (Nat × Tag) → Build (List Formatting)
  | [] => return []
  | (_, t) :: rest => do
    let i ← insertElement t
    let later ← reopen rest
    return later ++ [.element i t]

/-- Opens again the formatting elements that were closed by the elements around them. -/
def reconstruct : Build Unit := do
  let b ← get
  let isClosed : Formatting → Bool
    | .marker => false
    | .element i _ => !b.opened.contains i
  let (closed, rest) := b.formatting.span isClosed
  unless closed.isEmpty do
    let tags := closed.reverse.filterMap fun
      | .marker => none
      | .element i t => some (i, t)
    let entries ← reopen tags
    modify fun b => { b with formatting := entries ++ rest }

def Builder.fittingMode (b : Builder) : Mode := go b.opened
where
  selectMode : List Nat → Mode
    | [] => .inSelect
    | i :: outer =>
      if (b.name? i).any (·.isHtml "template") then .inSelect
      else if (b.name? i).any (·.isHtml "table") then .inSelectInTable
      else selectMode outer
  go : List Nat → Mode
    | [] => .inBody
    | i :: outer =>
      let tag := match b.name? i with
        | some ⟨.html, tag⟩ => tag
        | _ => ""
      if tag == "html" then if b.head.isNone then .beforeHead else .afterHead
      else if outer.isEmpty then .inBody
      else if tag == "select" then selectMode outer
      else if tag == "td" || tag == "th" then .inCell
      else if tag == "tr" then .inRow
      else if tableSections.contains tag then .inTableBody
      else if tag == "caption" then .inCaption
      else if tag == "colgroup" then .inColumnGroup
      else if tag == "table" then .inTable
      else if tag == "template" then b.templates.head?.getD .inBody
      else if tag == "head" then .inHead
      else if tag == "body" then .inBody
      else if tag == "frameset" then .inFrameset
      else go outer

def resetMode : Build Unit := modify fun b => { b with mode := b.fittingMode }

end PageWatch.Markup
