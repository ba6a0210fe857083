import PageWatch.Text.Canonical
import PageWatch.Text.Marks
import PageWatch.Url.DirectionTables
import PageWatch.Url.DomainTables
import PageWatch.Url.JoiningTables
import PageWatch.Url.Punycode

/-!
# Host names in ASCII

A host name is first brought to one spelling. Labels beyond ASCII must obey the
rules on marks, joiners and writing directions, and are written in punycode.
-/

set_option autoImplicit false

namespace PageWatch.Url

open Text

structure MappingRow where
  low : Nat
  high : Nat
  step : Nat
  target : List Nat
  deriving Inhabited

def readMappingRow (cs : List Char) : Option MappingRow :=
  let source := cs.takeWhile fun c => isHexDigit c || c == '-'
  match cs.drop source.length with
  | mark :: target =>
    let (low, high) := Ranges.readRange source
    let target := if target.isEmpty then [] else (target.splitOn '+').map hexNumber
    some ⟨low, high, if mark = '/' then 2 else 1, target⟩
  | [] => none

def mappingRows : Array MappingRow :=
  (domainMappings.flatMap fun line => (line.toList.splitOn ' ').filterMap readMappingRow).toArray

def mappingRanges : Ranges := ⟨mappingRows.map fun row => (row.low, row.high)⟩

def mapped (c : Nat) : List Nat :=
  match mappingRanges.find? c with
  | none => [c]
  | some i =>
    let row := mappingRows[i]!
    if (c - row.low) % row.step ≠ 0 then [c]
    else match row.target with
      | [t] => [t + (c - row.low)]
      | target => target

def canonicalName (cs : List Nat) : List Nat := Canonical.normal (cs.flatMap mapped)

def isVirama (c : Nat) : Bool := Canonical.markClass c = 9

def joinsAcross (before after : List Nat) : Bool :=
  ((before.dropWhile joinsThrough.contains).head?.any joinsNext.contains) &&
    ((after.dropWhile joinsThrough.contains).head?.any joinsPrevious.contains)

/-- Joiners stand after a virama, and a non-joiner also where it keeps letters apart. `before` is
what has been passed, in reverse. -/
def joinersFit (before : List Nat) : List Nat → Bool
  | [] => true
  | c :: r =>
    (c != 0x200C && c != 0x200D || before.head?.any isVirama ||
        (c == 0x200C && joinsAcross before r)) &&
      joinersFit (c :: before) r

def isRightToLeft (c : Nat) : Bool := rightToLeft.contains c || arabicLetter.contains c

def isNeutral (c : Nat) : Bool :=
  [europeanSeparator, commonSeparator, europeanTerminator, otherNeutral, boundaryNeutral,
    nonspacingMark].any (·.contains c)

def isLeftToRight (c : Nat) : Bool :=
  !(isRightToLeft c || isNeutral c || arabicNumber.contains c || europeanNumber.contains c ||
    separatorsAndControls.contains c)

def needsDirections (label : List Nat) : Bool :=
  label.any fun c => isRightToLeft c || arabicNumber.contains c

/-- The rule for labels of a name in which something is written from right to left. -/
def directionsFit (label : List Nat) : Bool :=
  let last := (label.reverse.dropWhile nonspacingMark.contains).head?
  match label.head? with
  | none => true
  | some first =>
    if isRightToLeft first then
      label.all (fun c => isRightToLeft c || arabicNumber.contains c ||
          europeanNumber.contains c || isNeutral c) &&
        last.any (fun c => isRightToLeft c || arabicNumber.contains c ||
          europeanNumber.contains c) &&
        !(label.any arabicNumber.contains && label.any europeanNumber.contains)
    else if isLeftToRight first then
      label.all (fun c => isLeftToRight c || europeanNumber.contains c || isNeutral c) &&
        last.any fun c => isLeftToRight c || europeanNumber.contains c
    else false

def isAscii (label : List Nat) : Bool := label.all (· < 128)

def forbiddenInDomain : List Nat :=
  [0x20, 0x23, 0x25, 0x2F, 0x3A, 0x3C, 0x3E, 0x3F, 0x40, 0x5B, 0x5C, 0x5D, 0x5E, 0x7C, 0x7F]

def charactersFit (label : List Nat) : Bool :=
  label.all fun c => !disallowed.contains c && 0x20 ≤ c && !forbiddenInDomain.contains c

def labelFits (label : List Nat) : Bool :=
  charactersFit label && !label.head?.any marks.contains && joinersFit [] label

def encodedMark : List Nat := [0x78, 0x6E, 0x2D, 0x2D]

def shownLabel? (label : List Nat) : Option (List Nat) :=
  if encodedMark.isPrefixOf label then
    if !isAscii label || !charactersFit label then none
    else match Punycode.decode? ((label.drop 4).map Char.ofNat) with
      | none => none
      | some shown =>
        if isAscii shown || canonicalName shown != shown || encodedMark.isPrefixOf shown ||
          !labelFits shown then none
        else some shown
  else if labelFits label then some label
  else none

def asciiLabel (shown : List Nat) : List Char :=
  if isAscii shown then shown.map Char.ofNat
  else "xn--".toList ++ Punycode.encode shown

def domainToAscii? (name : List Char) : Option (List Char) := do
  let labels := (canonicalName (name.map Char.toNat)).splitOn 0x2E
  let shown ← labels.mapM shownLabel?
  if shown.any needsDirections && !shown.all directionsFit then none
  else some (['.'].intercalate (shown.map asciiLabel))

end PageWatch.Url
