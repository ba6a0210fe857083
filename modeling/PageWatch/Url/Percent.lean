import PageWatch.Text.Digits

/-!
# Percent encoding

A byte can be written as a percent sign and two hexadecimal digits.
-/

set_option autoImplicit false

namespace PageWatch.Url

open Text

def bytes (cs : List Char) : List UInt8 := cs.flatMap String.utf8EncodeChar

def text? (bs : List UInt8) : Option (List Char) :=
  (String.fromUTF8? ⟨bs.toArray⟩).map String.toList

def byteValue? (a b : UInt8) : Option UInt8 :=
  match hexValue? (Char.ofNat a.toNat), hexValue? (Char.ofNat b.toNat) with
  | some m, some n => some (UInt8.ofNat (16 * m + n))
  | _, _ => none

def percentDecodeFrom : Nat → List UInt8 → List UInt8
  | _, [] => []
  | passed + 1, _ :: r => percentDecodeFrom passed r
  | 0, c :: r =>
    match if c = 37 then byteValue? (r.getD 0 0) (r.getD 1 0) else none with
    | some b => b :: percentDecodeFrom 2 r
    | none => c :: percentDecodeFrom 0 r

def percentDecode (bs : List UInt8) : List UInt8 := percentDecodeFrom 0 bs

def percentByte (b : UInt8) : List Char :=
  '%' :: [b.toNat / 16, b.toNat % 16].map fun d => upper (Nat.digitChar d)

def percentEncode (others : List Char) (cs : List Char) : List Char :=
  cs.flatMap fun c =>
    if c.toNat < 0x20 ∨ 0x7E < c.toNat ∨ others.contains c then
      (String.utf8EncodeChar c).flatMap percentByte
    else [c]

end PageWatch.Url
