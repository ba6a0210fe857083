import PageWatch.Calendar.Specifier
import PageWatch.Calendar.Timestamp
import PageWatch.Text.Digits

/-!
# Reading dates by a pattern

The fields of a pattern are read one after the other. A field that is read twice
must have the same value both times, and at the end the fields must determine a
moment.
-/

set_option autoImplicit false

namespace PageWatch.Calendar

open Text

structure Fields where
  year : Option Int := none
  yearOfCentury : Option Nat := none
  month : Option Nat := none
  day : Option Nat := none
  weekday : Option Nat := none
  afternoon : Option Bool := none
  hour12 : Option Nat := none
  minute : Option Nat := none
  second : Option Nat := none
  nano : Option Nat := none
  offset : Option Int := none
  deriving Repr, DecidableEq

/-- A field takes a value unless it has another one already. -/
def agree {α : Type} [DecidableEq α] (old : Option α) (new : α) : Option (Option α) :=
  match old with
  | none => some (some new)
  | some v => if v = new then some (some v) else none

def guardRange (low high n : Nat) : Option Unit := if low ≤ n ∧ n ≤ high then some () else none

def readDigits (width : Nat) (cs : List Char) : Option (Nat × List Char) :=
  let digits := (cs.take width).takeWhile isDigit
  if digits.isEmpty then none else some (decimalNumber digits, cs.drop digits.length)

def readNumber (width low high : Nat) (cs : List Char) : Option (Nat × List Char) := do
  let (n, rest) ← readDigits width (trimStart cs)
  guardRange low high n
  return (n, rest)

def readYear (cs : List Char) : Option (Int × List Char) :=
  match trimStart cs with
  | '-' :: r => (readDigits r.length r).map fun (n, rest) => (-(n : Int), rest)
  | '+' :: r => (readDigits r.length r).map fun (n, rest) => ((n : Int), rest)
  | cs => (readDigits 4 cs).map fun (n, rest) => ((n : Int), rest)

def monthNames : List (List Char) :=
  ["january", "february", "march", "april", "may", "june", "july", "august", "september",
   "october", "november", "december"].map String.toList

def weekdayNames : List (List Char) :=
  ["monday", "tuesday", "wednesday", "thursday", "friday", "saturday", "sunday"].map String.toList

def readShort (names : List (List Char)) (cs : List Char) : Option (Nat × List Char) :=
  (names.findIdx? fun name => name.take 3 == (cs.take 3).map lower).map fun i => (i, cs.drop 3)

def readLong (names : List (List Char)) (cs : List Char) : Option (Nat × List Char) :=
  (readShort names cs).map fun (i, rest) =>
    let tail := (names.getD i []).drop 3
    (i, if tail == (rest.take tail.length).map lower then rest.drop tail.length else rest)

def readMeridiem (cs : List Char) : Option (Bool × List Char) :=
  match cs.map lower |>.take 2 with
  | ['a', 'm'] => some (false, cs.drop 2)
  | ['p', 'm'] => some (true, cs.drop 2)
  | _ => none

def readFraction (cs : List Char) : Option (Nat × List Char) :=
  (readDigits 9 cs).map fun (n, rest) =>
    (n * Nat.pow 10 (9 - (cs.length - rest.length)), rest.dropWhile isDigit)

def readFixedFraction (width : Nat) (cs : List Char) : Option (Nat × List Char) :=
  match readDigits width cs with
  | some (n, rest) =>
    if cs.length - rest.length = width then some (n * Nat.pow 10 (9 - width), rest) else none
  | none => none

def twoDigits? : List Char → Option Nat
  | a :: b :: _ => if isDigit a && isDigit b then some (10 * digitValue a + digitValue b) else none
  | _ => none

def readOffset (minutesOptional : Bool) (cs : List Char) : Option (Int × List Char) := do
  let (negative, r) ← match cs with
    | '+' :: r => some (false, r)
    | '-' :: r => some (true, r)
    | '\u2212' :: r => some (true, r)
    | _ => none
  let hours ← twoDigits? r
  let r := (r.drop 2).dropWhile fun c => c == ':' || isBlank c
  let minutes ← if r.isEmpty && minutesOptional then some 0 else twoDigits? r
  guardRange 0 59 minutes
  let seconds : Int := hours * 3600 + minutes * 60
  return (if negative then -seconds else seconds, r.drop 2)

def readOffsetOrZ (cs : List Char) : Option (Int × List Char) :=
  match trimStart cs with
  | 'Z' :: r | 'z' :: r => some (0, r)
  | cs => readOffset true cs

def Fields.setHour12 (f : Fields) (h : Nat) : Option Fields := do
  return { f with hour12 := ← agree f.hour12 (h % 12) }

def Fields.setHour (f : Fields) (h : Nat) : Option Fields := do
  let f := { f with afternoon := ← agree f.afternoon (decide (12 ≤ h)) }
  f.setHour12 h

def Fields.setNano (f : Fields) (n : Nat) : Option Fields := do
  return { f with nano := ← agree f.nano n }

/-- A fraction that is not there is no error. -/
def readOptionalFraction (read : List Char → Option (Nat × List Char)) (f : Fields)
    (cs : List Char) : Option (Fields × List Char) :=
  match cs with
  | '.' :: r => do
    let (n, rest) ← read r
    return (← f.setNano n, rest)
  | _ => some (f, cs)

def readField (f : Fields) (cs : List Char) : Specifier → Option (Fields × List Char)
  | .monthName => do
    let (i, rest) ← readLong monthNames cs
    return ({ f with month := ← agree f.month (i + 1) }, rest)
  | .monthShort => do
    let (i, rest) ← readShort monthNames cs
    return ({ f with month := ← agree f.month (i + 1) }, rest)
  | .weekdayName => do
    let (i, rest) ← readLong weekdayNames cs
    return ({ f with weekday := ← agree f.weekday i }, rest)
  | .weekdayShort => do
    let (i, rest) ← readShort weekdayNames cs
    return ({ f with weekday := ← agree f.weekday i }, rest)
  | .zoneName => some (f, cs.dropWhile (!isBlank ·))
  | .year => do
    let (y, rest) ← readYear cs
    return ({ f with year := ← agree f.year y }, rest)
  | .yearOfCentury => do
    let (n, rest) ← readNumber 2 0 99 cs
    return ({ f with yearOfCentury := ← agree f.yearOfCentury n }, rest)
  | .month => do
    let (n, rest) ← readNumber 2 1 12 cs
    return ({ f with month := ← agree f.month n }, rest)
  | .day | .dayOrBlank => do
    let (n, rest) ← readNumber 2 1 31 cs
    return ({ f with day := ← agree f.day n }, rest)
  | .hour => do
    let (n, rest) ← readNumber 2 0 23 cs
    return (← f.setHour n, rest)
  | .hour12 => do
    let (n, rest) ← readNumber 2 1 12 cs
    return (← f.setHour12 n, rest)
  | .minute => do
    let (n, rest) ← readNumber 2 0 59 cs
    return ({ f with minute := ← agree f.minute n }, rest)
  | .second => do
    let (n, rest) ← readNumber 2 0 60 cs
    return ({ f with second := ← agree f.second n }, rest)
  | .meridiem => do
    let (pm, rest) ← readMeridiem cs
    return ({ f with afternoon := ← agree f.afternoon pm }, rest)
  | .offset | .offsetColon => do
    let (n, rest) ← readOffset false (trimStart cs)
    return ({ f with offset := ← agree f.offset n }, rest)
  | .offsetOrZ => do
    let (n, rest) ← readOffsetOrZ cs
    return ({ f with offset := ← agree f.offset n }, rest)
  | .fraction => readOptionalFraction readFraction f cs
  | .fraction3 => readOptionalFraction (readFixedFraction 3) f cs
  | .fraction6 => readOptionalFraction (readFixedFraction 6) f cs
  | .fraction9 => readOptionalFraction (readFixedFraction 9) f cs

/-- A blank in a pattern stands for any number of blanks; other characters stand for themselves. -/
def readItem (f : Fields) (cs : List Char) : Item → Option (Fields × List Char)
  | .field s => readField f cs s
  | .blank _ => some (f, trimStart cs)
  | .literal c =>
    match cs with
    | d :: rest => if c = d then some (f, rest) else none
    | [] => none
  | .unknown => none

def readItems : List Item → Fields → List Char → Option (Fields × List Char)
  | [], f, cs => some (f, cs)
  | item :: rest, f, cs => do
    let (f, cs) ← readItem f cs item
    readItems rest f cs

def readAll? (pattern : List Char) (cs : List Char) : Option Fields :=
  match readItems (items pattern) {} cs with
  | some (f, []) => some f
  | _ => none

namespace Fields

/-- A year of a century alone is in 1970 to 2069. -/
def year? (f : Fields) : Option Int :=
  match f.year, f.yearOfCentury with
  | some y, none => some y
  | some y, some r => if 0 ≤ y ∧ y % 100 = r then some y else none
  | none, some r => some (if r < 70 then 2000 + r else 1900 + r)
  | none, none => none

def date? (f : Fields) : Option Date := do
  let date ← Date.ofYmd? (← f.year?) (← f.month) (← f.day)
  if f.weekday.all (· == date.weekday) then some date else none

def timestamp? (f : Fields) : Option Timestamp := do
  let date ← f.date?
  let hour := (if ← f.afternoon then 12 else 0) + (← f.hour12)
  let minute ← f.minute
  if f.second.isNone && f.nano.isSome then none
  else Timestamp.ofClock? date hour minute (f.second.getD 0) (f.nano.getD 0)

/-- The same moment without its offset, which is less than a day. -/
def universal? (f : Fields) : Option Timestamp := do
  let t ← f.timestamp?
  let offset ← f.offset
  if offset.natAbs < 86400 then t.minusSeconds? offset else none

end Fields

end PageWatch.Calendar
