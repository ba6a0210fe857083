import PageWatch.Text.Digits

/-!
# Punycode

Code points beyond ASCII are written as differences in increasing order, each as
a number of digits of varying base. The thresholds of the digits follow the sizes
of the numbers before.
-/

set_option autoImplicit false

namespace PageWatch.Url.Punycode

def digitChar (d : Nat) : Char := if d < 26 then Char.ofNat (97 + d) else Char.ofNat (22 + d)

def digitValue? (c : Char) : Option Nat :=
  if 'a' ≤ c ∧ c ≤ 'z' then some (c.toNat - 97)
  else if 'A' ≤ c ∧ c ≤ 'Z' then some (c.toNat - 65)
  else if '0' ≤ c ∧ c ≤ '9' then some (c.toNat - 22)
  else none

def threshold (bias k : Nat) : Nat := min 26 (max 1 (36 * (k + 1) - bias))

def adaptFrom : Nat → Nat → Nat → Nat
  | 0, _, k => k
  | fuel + 1, delta, k =>
    if 455 < delta then adaptFrom fuel (delta / 35) (k + 36) else k + 36 * delta / (delta + 38)

/-- The bias after a difference; the first one is damped more. -/
def adapt (delta count : Nat) (first : Bool) : Nat :=
  let delta := if first then delta / 700 else delta / 2
  adaptFrom delta (delta + delta / count) 0

/-- The numbers while digits are read: position, weight and index of the next digit. -/
structure Reader where
  code : Nat := 128
  index : Nat := 0
  start : Nat := 0
  weight : Nat := 1
  k : Nat := 0
  bias : Nat := 72
  output : List Nat

def insertAt (x : Nat) : Nat → List Nat → List Nat
  | 0, xs => x :: xs
  | _ + 1, [] => [x]
  | i + 1, y :: ys => y :: insertAt x i ys

def Reader.place (s : Reader) (index : Nat) : Reader :=
  let count := s.output.length + 1
  let code := s.code + index / count
  let at' := index % count
  { code
    index := at' + 1
    start := at' + 1
    bias := adapt (index - s.start) count (s.start = 0)
    output := insertAt code at' s.output }

def readDigits (s : Reader) : List Char → Option (List Nat)
  | [] => if s.k = 0 then some s.output else none
  | c :: r =>
    match digitValue? c with
    | none => none
    | some d =>
      let index := s.index + d * s.weight
      let t := threshold s.bias s.k
      if d < t then
        let s' := s.place index
        if s'.code.isValidChar then readDigits s' r else none
      else readDigits { s with index, weight := s.weight * (36 - t), k := s.k + 1 } r

def decode? (cs : List Char) : Option (List Nat) :=
  let backwards := cs.reverse
  let digits := (backwards.takeWhile (· ≠ '-')).reverse
  let plain := ((backwards.dropWhile (· ≠ '-')).drop 1).reverse
  readDigits { output := plain.map Char.toNat } digits

def writeNumber (bias : Nat) : Nat → Nat → Nat → List Char
  | 0, _, _ => []
  | fuel + 1, q, k =>
    let t := threshold bias k
    if q < t then [digitChar q]
    else digitChar (t + (q - t) % (36 - t)) :: writeNumber bias fuel ((q - t) / (36 - t)) (k + 1)

structure Writer where
  delta : Nat := 0
  bias : Nat := 72
  first : Bool := true
  written : Nat
  output : List Char := []

def Writer.pass (code : Nat) (s : Writer) (c : Nat) : Writer :=
  if c < code then { s with delta := s.delta + 1 }
  else if c = code then
    { delta := 0
      bias := adapt s.delta (s.written + 1) s.first
      first := false
      written := s.written + 1
      output := s.output ++ writeNumber s.bias (s.delta + 1) s.delta 0 }
  else s

/-- Places all occurrences of `code`, where `previous` is the code point placed before. -/
def Writer.placeAll (text : List Nat) (s : Writer) (previous code : Nat) : Writer :=
  let s := { s with delta := s.delta + (code - previous) * (s.written + 1) }
  let s := text.foldl (Writer.pass code) s
  { s with delta := s.delta + 1 }

def Writer.run (text : List Nat) (s : Writer) (previous : Nat) : List Nat → Writer
  | [] => s
  | code :: rest => (s.placeAll text previous code).run text (code + 1) rest

def encode (text : List Nat) : List Char :=
  let plain := text.filter (· < 128)
  let others := ((text.filter (128 ≤ ·)).mergeSort).eraseDups
  let s := Writer.run text { written := plain.length } 128 others
  plain.map Char.ofNat ++ (if plain.isEmpty then [] else ['-']) ++ s.output

end PageWatch.Url.Punycode
