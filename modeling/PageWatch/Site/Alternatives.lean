import PageWatch.Text.Blank

/-!
# Lists in one text

Alternatives are separated by commas. Blanks around them do not count, and what
is empty without them is left out.
-/

set_option autoImplicit false

namespace PageWatch

def alternatives (cs : List Char) : List (List Char) :=
  ((cs.splitOn ',').map Text.trim).filter (· ≠ [])

def splitAlternatives (rule : String) : List String :=
  (alternatives rule.toList).map String.ofList

def nonBlank? (s : String) : Option String :=
  let t := Text.trimmed s
  if t.isEmpty then none else some t

end PageWatch
