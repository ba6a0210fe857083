/-!
# Decoders

A decoder reads one byte at a time. What it gives is a list of characters, where
`none` stands for bytes that make up no character.
-/

set_option autoImplicit false

namespace PageWatch.Charset

abbrev Output := List (Option Char)

structure Decoder where
  State : Type
  start : State
  step : State → UInt8 → State × Output
  finish : State → Output

namespace Decoder

def advance (d : Decoder) (s : d.State × Output) (b : UInt8) : d.State × Output :=
  let (next, out) := d.step s.1 b
  (next, out.reverse ++ s.2)

def run (d : Decoder) (bytes : List UInt8) : Output :=
  let (s, out) := bytes.foldl d.advance (d.start, [])
  out.reverse ++ d.finish s

end Decoder

def Output.text (out : Output) : String := String.ofList (out.map (·.getD '\uFFFD'))

/-- The text, with this behind each place where bytes make up no character. -/
def Output.marked (mark : List Char) (out : Output) : List Char :=
  out.flatMap fun
    | some c => [c]
    -- The character in front keeps the mark apart from what stands before the place.
    | none => '\uFFFD' :: mark

def Output.hasErrors (out : Output) : Bool := out.any (·.isNone)

def isAscii (b : UInt8) : Bool := b < 0x80

def asciiChar (b : UInt8) : Char := Char.ofNat b.toNat

def between (low high : UInt8) (b : UInt8) : Bool := low ≤ b && b ≤ high

structure Table where
  chars : Array Char

def Table.ofRows (rows : List String) : Table := ⟨(rows.flatMap String.toList).toArray⟩

def Table.get? (t : Table) (place : Nat) : Option Char :=
  t.chars[place]?.filter (· ≠ ' ')

/-- The end of a character of two bytes; a second byte that does not fit is read again if it is
ASCII. -/
def endPair (found : List Char) (b : UInt8) : Output :=
  if !found.isEmpty then found.map some
  else if isAscii b then [none, some (asciiChar b)]
  else [none]

def pairs (isLead : UInt8 → Bool) (single : UInt8 → Option Char)
    (pair : UInt8 → UInt8 → List Char) : Decoder where
  State := Option UInt8
  start := none
  step
    | none, b =>
      match single b with
      | some c => (none, [some c])
      | none => if isLead b then (some b, []) else (none, [none])
    | some lead, b => (none, endPair (pair lead b) b)
  finish
    | none => []
    | some _ => [none]

end PageWatch.Charset
