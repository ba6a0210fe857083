import PageWatch.Calendar.Reading

/-!
# Layouts of dates

A layout shows how a site writes the reference moment, Monday, January 2, 2006,
at 15:04:05 with the offset -07:00. Where one of the tokens below begins, the
longest of them stands for its field; every other character stands for itself.
-/

set_option autoImplicit false

namespace PageWatch.Calendar

structure Reference where
  text : String
  field : Specifier
  deriving Repr, DecidableEq

/-- Of tokens that begin alike the longer comes first. -/
def references : List Reference :=
  [⟨"January", .monthName⟩, ⟨"Jan", .monthShort⟩, ⟨"Monday", .weekdayName⟩,
   ⟨"Mon", .weekdayShort⟩, ⟨"MST", .zoneName⟩, ⟨"2006", .year⟩, ⟨"Z07:00", .offsetOrZ⟩,
   ⟨"-07:00", .offsetColon⟩, ⟨"-0700", .offset⟩, ⟨".000000000", .fraction9⟩,
   ⟨".000000", .fraction6⟩, ⟨".000", .fraction3⟩, ⟨".999999999", .fraction⟩,
   ⟨".999999", .fraction⟩, ⟨".999", .fraction⟩, ⟨"_2", .dayOrBlank⟩, ⟨"01", .month⟩,
   ⟨"02", .day⟩, ⟨"03", .hour12⟩, ⟨"04", .minute⟩, ⟨"05", .second⟩, ⟨"06", .yearOfCentury⟩,
   ⟨"15", .hour⟩, ⟨"PM", .meridiem⟩, ⟨"pm", .meridiem⟩, ⟨"1", .month⟩, ⟨"2", .day⟩,
   ⟨"3", .hour12⟩, ⟨"4", .minute⟩, ⟨"5", .second⟩]

inductive Segment where
  | token (r : Reference)
  | literal (c : Char)
  deriving Repr, DecidableEq

namespace Segment

def text : Segment → List Char
  | token r => r.text.toList
  | literal c => [c]

def pattern : Segment → List Char
  | token r => '%' :: r.field.code
  | literal c => if c = '%' then ['%', '%'] else [c]

def part? : Segment → Option Specifier.Part
  | token r => some r.field.part
  | literal _ => none

def scanFrom : Nat → List Char → List Segment
  | _, [] => []
  | passed + 1, _ :: r => scanFrom passed r
  | 0, c :: r =>
    match references.find? (·.text.toList.isPrefixOf (c :: r)) with
    | some t => .token t :: scanFrom (t.text.length - 1) r
    | none => .literal c :: scanFrom 0 r

def scan (cs : List Char) : List Segment := scanFrom 0 cs

end Segment

/-- A layout has at least one field of a date. -/
structure Layout where
  segments : List Segment
  dated : segments.any (·.part? == some .date) = true
  deriving DecidableEq

namespace Layout

def ofText? (layout : String) : Option Layout :=
  let segments := Segment.scan layout.toList
  if h : segments.any (·.part? == some .date) = true then some ⟨segments, h⟩ else none

def text (l : Layout) : String := String.ofList (l.segments.flatMap Segment.text)

def pattern (l : Layout) : List Char := l.segments.flatMap Segment.pattern

def has (l : Layout) (part : Specifier.Part) : Bool := l.segments.any (·.part? == some part)

/-- Without any time the moment is midnight, and with an offset it is given without one. -/
def parse? (l : Layout) (raw : String) : Option Timestamp := do
  let fields ← readAll? l.pattern raw.toList
  if l.has .offset then fields.universal?
  else if l.has .time then fields.timestamp?
  else fields.date?.map .midnight

/-- The first layout that can read the text decides. -/
def parseFirst? (layouts : List Layout) (raw : String) : Option Timestamp :=
  layouts.findSome? (·.parse? raw)

end Layout

end PageWatch.Calendar
