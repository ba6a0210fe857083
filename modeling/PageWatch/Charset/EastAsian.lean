import PageWatch.Charset.ChineseTable
import PageWatch.Charset.Decoder
import PageWatch.Charset.JapaneseTable
import PageWatch.Charset.KoreanTable
import PageWatch.Charset.TaiwaneseTable
import PageWatch.Text.Digits

/-!
# East Asian texts as bytes
-/

set_option autoImplicit false

namespace PageWatch.Charset

open Text

def asciiOnly (b : UInt8) : Option Char := if isAscii b then some (asciiChar b) else none

def chinese : Table := .ofRows chineseRows

def readChineseRange (cs : List Char) : Nat × Nat :=
  let place := cs.takeWhile (· ≠ '=')
  (hexNumber place, hexNumber (cs.drop (place.length + 1)))

def chineseStarts : Array (Nat × Nat) :=
  (chineseRanges.flatMap fun line => (line.toList.splitOn ' ').map readChineseRange).toArray

def chineseQuadruple (place : Nat) : Option Char :=
  if (39419 < place ∧ place < 189000) ∨ 1237575 < place then none
  else if place = 7457 then some '\uE7C7'
  else match chineseStarts.findRev? (·.1 ≤ place) with
    | some (start, code) => some (Char.ofNat (code + (place - start)))
    | none => none

def chinesePair (lead b : UInt8) : Option Char :=
  if between 0x40 0x7E b || between 0x80 0xFE b then
    let offset := if b < 0x7F then 0x40 else 0x41
    chinese.get? ((lead.toNat - 0x81) * 190 + (b.toNat - offset))
  else none

inductive ChineseState where
  | start
  | one (first : UInt8)
  | two (first second : UInt8)
  | three (first second third : UInt8)

def chineseFirst (b : UInt8) : ChineseState × Output :=
  if isAscii b then (.start, [some (asciiChar b)])
  else if b = 0x80 then (.start, [some '€'])
  else if b = 0xFF then (.start, [none])
  else (.one b, [])

def chineseSecond (first b : UInt8) : ChineseState × Output :=
  if between 0x30 0x39 b then (.two first b, [])
  else (.start, endPair (chinesePair first b).toList b)

def chineseStep : ChineseState → UInt8 → ChineseState × Output
  | .start, b => chineseFirst b
  | .one first, b => chineseSecond first b
  | .two first second, b =>
    if between 0x81 0xFE b then (.three first second b, [])
    else
      let (next, out) := chineseFirst b
      (next, none :: some (asciiChar second) :: out)
  | .three first second third, b =>
    if between 0x30 0x39 b then
      let place := (((first.toNat - 0x81) * 10 + (second.toNat - 0x30)) * 126 +
        (third.toNat - 0x81)) * 10 + (b.toNat - 0x30)
      (.start, [chineseQuadruple place])
    else
      let (next, out) := chineseSecond third b
      (next, none :: some (asciiChar second) :: out)

def chineseDecoder : Decoder where
  State := ChineseState
  start := .start
  step := chineseStep
  finish
    | .start => []
    | _ => [none]

def taiwanese : Table := .ofRows taiwaneseRows

/-- Four places hold a letter with a mark. -/
def taiwaneseSpecial : Nat → List Char
  | 1133 => ['\u00CA', '\u0304']
  | 1135 => ['\u00CA', '\u030C']
  | 1164 => ['\u00EA', '\u0304']
  | 1166 => ['\u00EA', '\u030C']
  | _ => []

def taiwanesePair (lead b : UInt8) : List Char :=
  if between 0x40 0x7E b || between 0xA1 0xFE b then
    let offset := if b < 0x7F then 0x40 else 0x62
    let place := (lead.toNat - 0x81) * 157 + (b.toNat - offset)
    match taiwaneseSpecial place with
    | [] => if place < 942 then [] else (taiwanese.get? (place - 942)).toList
    | chars => chars
  else []

def taiwaneseDecoder : Decoder := pairs (between 0x81 0xFE) asciiOnly taiwanesePair

def korean : Table := .ofRows koreanRows

def koreanPair (lead b : UInt8) : List Char :=
  if between 0x41 0xFE b then
    (korean.get? ((lead.toNat - 0x81) * 190 + (b.toNat - 0x41))).toList
  else []

def koreanDecoder : Decoder := pairs (between 0x81 0xFE) asciiOnly koreanPair

def japanese : Table := .ofRows japaneseRows

def japaneseExtension : Table := .ofRows japaneseExtensionRows

def japaneseSupplement : Table := .ofRows japaneseSupplementRows

def japaneseAt (place : Nat) : Option Char :=
  if place < 10716 then japanese.get? place else japaneseExtension.get? (place - 10716)

def halfWidth (base : UInt8) (b : UInt8) : Char := Char.ofNat (0xFF61 + (b.toNat - base.toNat))

def shiftJisSingle (b : UInt8) : Option Char :=
  if b ≤ 0x80 then some (asciiChar b)
  else if between 0xA1 0xDF b then some (halfWidth 0xA1 b)
  else none

def shiftJisPair (lead b : UInt8) : List Char :=
  if between 0x40 0x7E b || between 0x80 0xFC b then
    let offset := if b < 0x7F then 0x40 else 0x41
    let leadOffset := if lead < 0xA0 then 0x81 else 0xC1
    let place := (lead.toNat - leadOffset) * 188 + (b.toNat - offset)
    if 8836 ≤ place ∧ place ≤ 10715 then [Char.ofNat (0xE000 + (place - 8836))]
    else (japaneseAt place).toList
  else []

def shiftJisDecoder : Decoder :=
  pairs (fun b => between 0x81 0x9F b || between 0xE0 0xFC b) shiftJisSingle shiftJisPair

def squarePlace (base : UInt8) (lead b : UInt8) : Nat :=
  (lead.toNat - base.toNat) * 94 + (b.toNat - base.toNat)

inductive EucJpState where
  | start
  | lead (first : UInt8)
  | supplement (first : UInt8)

def isEucByte (b : UInt8) : Bool := between 0xA1 0xFE b

def eucJpPair (t : Table) (lead b : UInt8) : Output :=
  let found := if isEucByte lead && isEucByte b then t.get? (squarePlace 0xA1 lead b) else none
  endPair found.toList b

def eucJpStep : EucJpState → UInt8 → EucJpState × Output
  | .start, b =>
    if isAscii b then (.start, [some (asciiChar b)])
    else if b = 0x8E || b = 0x8F || isEucByte b then (.lead b, [])
    else (.start, [none])
  | .lead first, b =>
    if first = 0x8E && between 0xA1 0xDF b then (.start, [some (halfWidth 0xA1 b)])
    else if first = 0x8F && isEucByte b then (.supplement b, [])
    else (.start, eucJpPair japanese first b)
  | .supplement first, b => (.start, eucJpPair japaneseSupplement first b)

def eucJpDecoder : Decoder where
  State := EucJpState
  start := .start
  step := eucJpStep
  finish
    | .start => []
    | _ => [none]

inductive JisSet where
  | ascii
  | roman
  | katakana
  | double

inductive JisPart where
  | plain
  | trail (lead : UInt8)
  | escapeStart
  | escape (first : UInt8)

structure JisState where
  set : JisSet := .ascii
  part : JisPart := .plain
  escaped : Bool := false

def isShift (b : UInt8) : Bool := b = 0x0E || b = 0x0F

def jisPlain (s : JisState) (b : UInt8) : JisState × Output :=
  let bad : JisState × Output := ({ s with part := .plain, escaped := false }, [none])
  let good (c : Char) : JisState × Output := ({ s with part := .plain, escaped := false }, [some c])
  match s.part with
  | .trail lead =>
    if b = 0x1B then ({ s with part := .escapeStart }, [none])
    else if between 0x21 0x7E b then
      ({ s with part := .plain }, [japanese.get? (squarePlace 0x21 lead b)])
    else ({ s with part := .plain }, [none])
  | _ =>
    if b = 0x1B then ({ s with part := .escapeStart }, [])
    else match s.set with
      | .ascii => if isAscii b && !isShift b then good (asciiChar b) else bad
      | .roman =>
        if b = 0x5C then good '¥'
        else if b = 0x7E then good '‾'
        else if isAscii b && !isShift b then good (asciiChar b)
        else bad
      | .katakana => if between 0x21 0x5F b then good (halfWidth 0x21 b) else bad
      | .double =>
        if between 0x21 0x7E b then ({ s with part := .trail b, escaped := false }, [])
        else bad

def jisSet? (first b : UInt8) : Option JisSet :=
  if first = 0x28 && b = 0x42 then some .ascii
  else if first = 0x28 && b = 0x4A then some .roman
  else if first = 0x28 && b = 0x49 then some .katakana
  else if first = 0x24 && (b = 0x40 || b = 0x42) then some .double
  else none

/-- The bytes of a broken escape sequence are read as plain ones. -/
def jisBroken (s : JisState) (bytes : List UInt8) : JisState × Output :=
  bytes.foldl
    (fun (s, out) b =>
      let (next, more) := jisPlain s b
      (next, out ++ more))
    ({ s with part := .plain, escaped := false }, [none])

def jisStep (s : JisState) (b : UInt8) : JisState × Output :=
  match s.part with
  | .escapeStart =>
    if b = 0x24 || b = 0x28 then ({ s with part := .escape b }, []) else jisBroken s [b]
  | .escape first =>
    match jisSet? first b with
    | some set => ({ set, part := .plain, escaped := true }, if s.escaped then [none] else [])
    | none => jisBroken s [first, b]
  | _ => jisPlain s b

def jisFinish (s : JisState) : Output :=
  match s.part with
  | .plain => []
  | .trail _ | .escapeStart => [none]
  | .escape first =>
    let (next, out) := jisBroken s [first]
    match next.part with
    | .plain => out
    | _ => out ++ [none]

def iso2022JpDecoder : Decoder where
  State := JisState
  start := {}
  step := jisStep
  finish := jisFinish

end PageWatch.Charset
