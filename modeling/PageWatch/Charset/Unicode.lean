import PageWatch.Charset.Decoder

/-!
# Unicode texts as bytes
-/

set_option autoImplicit false

namespace PageWatch.Charset

/-- How many bytes are missing, the range of the next one, and the code point so far. -/
structure Utf8State where
  missing : Nat := 0
  low : UInt8 := 0x80
  high : UInt8 := 0xBF
  code : Nat := 0
  deriving DecidableEq

def utf8First (b : UInt8) : Utf8State × Output :=
  let n := b.toNat
  if b < 0x80 then ({}, [some (asciiChar b)])
  else if between 0xC2 0xDF b then ({ missing := 1, code := n - 0xC0 }, [])
  else if between 0xE0 0xEF b then
    ({ missing := 2, code := n - 0xE0, low := if b = 0xE0 then 0xA0 else 0x80,
       high := if b = 0xED then 0x9F else 0xBF }, [])
  else if between 0xF0 0xF4 b then
    ({ missing := 3, code := n - 0xF0, low := if b = 0xF0 then 0x90 else 0x80,
       high := if b = 0xF4 then 0x8F else 0xBF }, [])
  else ({}, [none])

def utf8Step (s : Utf8State) (b : UInt8) : Utf8State × Output :=
  match s.missing with
  | 0 => utf8First b
  | missing + 1 =>
    if between s.low s.high b then
      let code := s.code * 64 + (b.toNat - 0x80)
      if missing = 0 then ({}, [some (Char.ofNat code)]) else ({ missing, code }, [])
    else
      let (next, out) := utf8First b
      (next, none :: out)

def utf8Decoder : Decoder where
  State := Utf8State
  start := {}
  step := utf8Step
  finish s := if s.missing = 0 then [] else [none]

structure Utf16State where
  lead : Option UInt8 := none
  high : Option Nat := none

def isHigh (n : Nat) : Bool := 0xD800 ≤ n && n < 0xDC00

def isLow (n : Nat) : Bool := 0xDC00 ≤ n && n < 0xE000

def utf16Unit (n : Nat) : Utf16State × Output :=
  if isHigh n then ({ high := some n }, [])
  else if isLow n then ({}, [none])
  else ({}, [some (Char.ofNat n)])

def utf16Step (bigEndian : Bool) (s : Utf16State) (b : UInt8) : Utf16State × Output :=
  match s.lead with
  | none => ({ s with lead := some b }, [])
  | some lead =>
    let n := if bigEndian then lead.toNat * 256 + b.toNat else b.toNat * 256 + lead.toNat
    match s.high with
    | none => utf16Unit n
    | some high =>
      if isLow n then
        ({}, [some (Char.ofNat (0x10000 + (high - 0xD800) * 0x400 + (n - 0xDC00)))])
      else
        let (next, out) := utf16Unit n
        (next, none :: out)

def utf16Decoder (bigEndian : Bool) : Decoder where
  State := Utf16State
  start := {}
  step := utf16Step bigEndian
  finish s := if s.lead.isSome || s.high.isSome then [none] else []

end PageWatch.Charset
