import Std.Data.HashMap
import PageWatch.Text.Digits
import PageWatch.Markup.Token
import PageWatch.Markup.ReferenceNames

/-!
# Character references

A named reference is the longest listed name at that place. Inside an attribute
value a name without its semicolon is plain text when `=`, a letter or a digit
follows it.
-/

set_option autoImplicit false

namespace PageWatch.Markup

open Text

def readNameEntry (entry : List Char) : Option (String × List Char) :=
  match entry.splitOn '=' with
  | [name, codes] =>
    some (String.ofList name, (codes.splitOn '+').map fun h => Char.ofNat (hexNumber h))
  | _ => none

def referenceTable : Std.HashMap String (List Char) :=
  Std.HashMap.ofList <| referenceNames.flatMap fun line =>
    (line.toList.splitOn ' ').filterMap readNameEntry

/-- The code points that the numbers 128 to 159 stand for. -/
def controlNames : List Nat :=
  [0x20AC, 0x81, 0x201A, 0x0192, 0x201E, 0x2026, 0x2020, 0x2021, 0x02C6, 0x2030, 0x0160, 0x2039,
   0x0152, 0x8D, 0x017D, 0x8F, 0x90, 0x2018, 0x2019, 0x201C, 0x201D, 0x2022, 0x2013, 0x2014,
   0x02DC, 0x2122, 0x0161, 0x203A, 0x0153, 0x9D, 0x017E, 0x0178]

def numbered (n : Nat) : Char :=
  if n = 0 ∨ n > 0x10FFFF ∨ (0xD800 ≤ n ∧ n ≤ 0xDFFF) then replacement
  else if 0x80 ≤ n ∧ n ≤ 0x9F then Char.ofNat (controlNames.getD (n - 0x80) n)
  else Char.ofNat n

def isAlphanumeric (c : Char) : Bool := isLetter c || isDigit c

/-- The longest listed name that begins `cs`, tried from the longest candidate down. -/
def longestName? (cs : List Char) : Nat → Option (List Char × Nat)
  | 0 => none
  | n + 1 =>
    match referenceTable[String.ofList (cs.take (n + 1))]? with
    | some chars => some (chars, n + 1)
    | none => longestName? cs n

def namedReference? (inAttribute : Bool) (cs : List Char) : Option (List Char × Nat) := do
  let stem := (cs.take 33).takeWhile isAlphanumeric
  let (chars, n) ← longestName? cs (stem.length + 1)
  let closed := cs[n - 1]? == some ';'
  let runsOn := match cs[n]? with
    | some c => c == '=' || isAlphanumeric c
    | none => false
  if inAttribute && !closed && runsOn then none else some (chars, n)

def numericReference? (cs : List Char) : Option (List Char × Nat) :=
  let (mark, digit, value) := match cs with
    | 'x' :: _ | 'X' :: _ => (1, fun c => (hexValue? c).isSome, hexNumber)
    | _ => (0, isDigit, decimalNumber)
  let digits := (cs.drop mark).takeWhile digit
  if digits.isEmpty then none
  else
    let n := mark + digits.length
    let n := if cs[n]? == some ';' then n + 1 else n
    some ([numbered (value digits)], n)

def reference? (inAttribute : Bool) (cs : List Char) : Option (List Char × Nat) :=
  match cs with
  | '#' :: r => (numericReference? r).map fun (chars, n) => (chars, n + 1)
  | _ => namedReference? inAttribute cs

def resolveReferencesFrom (inAttribute : Bool) (done : List Char) : Nat → List Char → List Char
  | _, [] => done.reverse
  | skip + 1, _ :: r => resolveReferencesFrom inAttribute done skip r
  | 0, '&' :: r =>
    match reference? inAttribute r with
    | some (chars, n) => resolveReferencesFrom inAttribute (chars.reverse ++ done) n r
    | none => resolveReferencesFrom inAttribute ('&' :: done) 0 r
  | 0, c :: r => resolveReferencesFrom inAttribute (c :: done) 0 r

def resolveReferences (inAttribute : Bool) (cs : List Char) : List Char :=
  resolveReferencesFrom inAttribute [] 0 cs

end PageWatch.Markup
