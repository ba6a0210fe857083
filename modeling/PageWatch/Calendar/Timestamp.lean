import PageWatch.Calendar.Date

/-!
# Moments on a calendar day

A moment is a day, the second of the day, and a fraction in nanoseconds. A
fraction of a whole second or more is a leap second.
-/

set_option autoImplicit false

namespace PageWatch.Calendar

structure Timestamp where
  date : Date
  second : Nat
  nano : Nat
  second_lt : second < 86400 := by omega
  nano_lt : nano < 2000000000 := by omega
  deriving DecidableEq

namespace Timestamp

def midnight (d : Date) : Timestamp := { date := d, second := 0, nano := 0 }

def rank (t : Timestamp) : Int :=
  (((t.date.year * 13 + t.date.month) * 32 + t.date.day) * 86400 + t.second) * 2000000000 + t.nano

def isBefore (t u : Timestamp) : Bool := t.rank < u.rank

/-- The moment with the fields of a clock; second 60 is a leap second. -/
def ofClock? (d : Date) (hour minute second nano : Nat) : Option Timestamp :=
  let (s, n) := if second = 60 then (59, 1000000000 + nano) else (second, nano)
  if h : hour < 24 ∧ minute < 60 ∧ s < 60 ∧ n < 2000000000 then
    some
      { date := d
        second := hour * 3600 + minute * 60 + s
        nano := n
        second_lt := by omega
        nano_lt := h.2.2.2 }
  else none

def minusSeconds? (t : Timestamp) (offset : Int) : Option Timestamp :=
  let s := (t.second : Int) - offset
  let date := if s < 0 then t.date.previous? else if 86400 ≤ s then t.date.next? else some t.date
  let second := (s % 86400).toNat
  date.map fun d =>
    { date := d, second, nano := t.nano, second_lt := by omega, nano_lt := t.nano_lt }

def fractionText (nano : Nat) : List Char :=
  if nano = 0 then []
  else if nano % 1000000 = 0 then '.' :: Text.padded 3 (nano / 1000000)
  else if nano % 1000 = 0 then '.' :: Text.padded 6 (nano / 1000)
  else '.' :: Text.padded 9 nano

def clockText (t : Timestamp) : List Char :=
  let leap := t.nano / 1000000000
  Text.padded 2 (t.second / 3600) ++ ':' :: Text.padded 2 (t.second / 60 % 60) ++
    ':' :: Text.padded 2 (t.second % 60 + leap) ++ fractionText (t.nano % 1000000000)

def textWith (gap : Char) (t : Timestamp) : String :=
  String.ofList (t.date.text ++ gap :: t.clockText)

def toString (t : Timestamp) : String := t.textWith 'T'

end Timestamp

end PageWatch.Calendar
