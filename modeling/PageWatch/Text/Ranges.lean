import PageWatch.Text.Digits

/-!
# Sets of numbers written as ranges

A table lists its ranges in increasing order, so membership is found by halving.
-/

set_option autoImplicit false

namespace PageWatch.Text

structure Ranges where
  bounds : Array (Nat × Nat)

namespace Ranges

def readRange (cs : List Char) : Nat × Nat :=
  match cs.splitOn '-' with
  | [low, high] => (hexNumber low, hexNumber high)
  | _ => (hexNumber cs, hexNumber cs)

/-- Reads lines of ranges `low-high` and single numbers, all in hexadecimal. -/
def ofText (lines : List String) : Ranges :=
  ⟨(lines.flatMap fun line => (line.toList.splitOn ' ').map readRange).toArray⟩

/-- The number of ranges, from `low` up to `high`, that begin at or below `n`. -/
def countFrom (r : Ranges) (n : Nat) (low high : Nat) : Nat :=
  if low < high then
    let middle := (low + high) / 2
    if (r.bounds[middle]?.any (·.1 ≤ n)) then countFrom r n (middle + 1) high
    else countFrom r n low middle
  else low
termination_by high - low

def find? (r : Ranges) (n : Nat) : Option Nat :=
  match r.countFrom n 0 r.bounds.size with
  | 0 => none
  | i + 1 => if r.bounds[i]?.any (n ≤ ·.2) then some i else none

def contains (r : Ranges) (n : Nat) : Bool := (r.find? n).isSome

end Ranges

end PageWatch.Text
