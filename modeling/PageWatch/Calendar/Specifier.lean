import PageWatch.Text.Blank

/-!
# Patterns of dates

A pattern is a text in which each field of a date stands as a percent sign and a
specifier. A percent sign that stands for itself is written twice.
-/

set_option autoImplicit false

namespace PageWatch.Calendar

inductive Specifier where
  | monthName
  | monthShort
  | weekdayName
  | weekdayShort
  | zoneName
  | year
  | yearOfCentury
  | month
  | day
  | dayOrBlank
  | hour
  | hour12
  | minute
  | second
  | meridiem
  | offset
  | offsetColon
  | offsetOrZ
  | fraction
  | fraction3
  | fraction6
  | fraction9
  deriving Repr, DecidableEq

namespace Specifier

def all : List Specifier :=
  [monthName, monthShort, weekdayName, weekdayShort, zoneName, year, yearOfCentury, month, day,
   dayOrBlank, hour, hour12, minute, second, meridiem, offset, offsetColon, offsetOrZ, fraction,
   fraction3, fraction6, fraction9]

def code : Specifier → List Char
  | monthName => ['B']
  | monthShort => ['b']
  | weekdayName => ['A']
  | weekdayShort => ['a']
  | zoneName => ['Z']
  | year => ['Y']
  | yearOfCentury => ['y']
  | month => ['m']
  | day => ['d']
  | dayOrBlank => ['e']
  | hour => ['H']
  | hour12 => ['I']
  | minute => ['M']
  | second => ['S']
  | meridiem => ['p']
  | offset => ['z']
  | offsetColon => [':', 'z']
  | offsetOrZ => ['#', 'z']
  | fraction => ['.', 'f']
  | fraction3 => ['.', '3', 'f']
  | fraction6 => ['.', '6', 'f']
  | fraction9 => ['.', '9', 'f']

inductive Part where
  | date
  | time
  | offset
  deriving Repr, DecidableEq

def part : Specifier → Part
  | monthName | monthShort | weekdayName | weekdayShort | year | yearOfCentury | month | day
  | dayOrBlank => .date
  | offset | offsetColon | offsetOrZ => .offset
  | _ => .time

end Specifier

inductive Item where
  | field (s : Specifier)
  | blank (c : Char)
  | literal (c : Char)
  | unknown
  deriving Repr, DecidableEq

def plainItem (c : Char) : Item := if Text.isBlank c then .blank c else .literal c

def itemAfterPercent (cs : List Char) : Item × Nat :=
  if cs.head? = some '%' then (.literal '%', 1)
  else
    match Specifier.all.find? (·.code.isPrefixOf cs) with
    | some s => (.field s, s.code.length)
    | none => (.unknown, cs.length)

/-- Reads a pattern; `passed` counts characters of a specifier still to be passed over. -/
def itemsFrom : Nat → List Char → List Item
  | _, [] => []
  | passed + 1, _ :: r => itemsFrom passed r
  | 0, c :: r =>
    if c = '%' then (itemAfterPercent r).1 :: itemsFrom (itemAfterPercent r).2 r
    else plainItem c :: itemsFrom 0 r

def items (pattern : List Char) : List Item := itemsFrom 0 pattern

end PageWatch.Calendar
