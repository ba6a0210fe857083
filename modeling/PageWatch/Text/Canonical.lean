import Std.Data.HashMap
import PageWatch.Text.Digits
import PageWatch.Text.CanonicalTables

/-!
# Canonical composition

Texts that look alike get one spelling: characters are taken apart, marks are
sorted by class, and what joins is put together again. Hangul syllables are
computed, all else is looked up.
-/

set_option autoImplicit false

namespace PageWatch.Text.Canonical

structure Decomposition where
  code : Nat
  parts : List Nat
  joins : Bool

def readEntry (cs : List Char) : Option Decomposition :=
  let code := cs.takeWhile isHexDigit
  match cs.dropWhile isHexDigit with
  | mark :: parts => some ⟨hexNumber code, (parts.splitOn '+').map hexNumber, mark = '='⟩
  | [] => none

def entries : List Decomposition :=
  decompositions.flatMap fun line => (line.toList.splitOn ' ').filterMap readEntry

def partsTable : Std.HashMap Nat (List Nat) := .ofList (entries.map fun d => (d.code, d.parts))

def pairTable : Std.HashMap (Nat × Nat) Nat :=
  .ofList <| entries.filterMap fun d =>
    match d.joins, d.parts with
    | true, [a, b] => some ((a, b), d.code)
    | _, _ => none

def readRange (cs : List Char) : List Nat :=
  match cs.splitOn '-' with
  | [low, high] => List.range' (hexNumber low) (hexNumber high + 1 - hexNumber low)
  | _ => [hexNumber cs]

def classTable : Std.HashMap Nat Nat :=
  .ofList <| combiningClasses.flatMap fun (n, lines) =>
    lines.flatMap fun line =>
      (line.toList.splitOn ' ').flatMap fun range => (readRange range).map (·, n)

/-- Marks have a class above 0; marks of smaller class stand first. -/
def markClass (c : Nat) : Nat := classTable.getD c 0

def syllableParts (c : Nat) : List Nat :=
  let i := c - 0xAC00
  let tail := i % 28
  [0x1100 + i / 588, 0x1161 + i % 588 / 28] ++ if tail = 0 then [] else [0x11A7 + tail]

/-- Decompositions go at most four levels deep. -/
def takeApart : Nat → Nat → List Nat
  | 0, c => [c]
  | depth + 1, c =>
    if 0xAC00 ≤ c ∧ c < 0xD7A4 then syllableParts c
    else match partsTable[c]? with
      | some parts => parts.flatMap (takeApart depth)
      | none => [c]

def sortMarks (cs : List Nat) : List Nat :=
  (cs.splitBy fun a b => (markClass a != 0) == (markClass b != 0)).flatMap fun run =>
    run.mergeSort fun a b => markClass a ≤ markClass b

def joined? (a b : Nat) : Option Nat :=
  if 0x1100 ≤ a ∧ a < 0x1113 ∧ 0x1161 ≤ b ∧ b < 0x1176 then
    some (0xAC00 + ((a - 0x1100) * 21 + (b - 0x1161)) * 28)
  else if 0xAC00 ≤ a ∧ a < 0xD7A4 ∧ (a - 0xAC00) % 28 = 0 ∧ 0x11A7 < b ∧ b < 0x11C3 then
    some (a + (b - 0x11A7))
  else pairTable[(a, b)]?

/-- `marks` are those since `starter` that did not join it, in reverse, and `last` is the class of
the latest of them. -/
def compose (starter : Nat) (marks : List Nat) (last : Nat) : List Nat → List Nat
  | [] => starter :: marks.reverse
  | c :: r =>
    let n := markClass c
    let blocked := !marks.isEmpty && n ≤ last
    match if blocked then none else joined? starter c with
    | some s => compose s marks last r
    | none =>
      if n = 0 then starter :: marks.reverse ++ compose c [] 0 r
      else compose starter (c :: marks) n r

def composeAll : List Nat → List Nat
  | [] => []
  | c :: r => if markClass c = 0 then compose c [] 0 r else c :: composeAll r

def normal (cs : List Nat) : List Nat := composeAll (sortMarks (cs.flatMap (takeApart 4)))

end PageWatch.Text.Canonical
