import PageWatch.Calendar.Reading

/-!
# Reading written dates and moments

The forms in which days and moments are written elsewhere in the program.
-/

set_option autoImplicit false

namespace PageWatch.Calendar

/-- A day such as `2024-10-24`, with blanks allowed before a hyphen, a number and at the end. -/
def Date.ofText? (s : String) : Option Date :=
  (readAll? "%Y -%m -%d ".toList s.toList).bind Fields.date?

def Timestamp.ofText? (s : String) : Option Timestamp :=
  (readAll? "%Y-%m-%dT%H:%M:%S%.f".toList s.toList).bind Fields.timestamp?

end PageWatch.Calendar
