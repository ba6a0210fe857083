/-!
# Occurrences inside a text

Replacement goes from left to right over occurrences that do not overlap, and
what was put in is not searched again.
-/

set_option autoImplicit false

namespace PageWatch.Text

def occursIn (pat : List Char) : List Char → Bool
  | [] => pat.isEmpty
  | c :: r => pat.isPrefixOf (c :: r) || occursIn pat r

def replaceFrom (pat new : List Char) : Nat → List Char → List Char
  | _, [] => []
  | skip + 1, _ :: r => replaceFrom pat new skip r
  | 0, c :: r =>
    if pat.isPrefixOf (c :: r) then new ++ replaceFrom pat new (pat.length - 1) r
    else c :: replaceFrom pat new 0 r

/-- Each occurrence of a non-empty `pat` becomes `new`. -/
def replaceAll (pat new cs : List Char) : List Char := replaceFrom pat new 0 cs

def replaced (pat new s : String) : String :=
  String.ofList (replaceAll pat.toList new.toList s.toList)

def splitOnce? (c : Char) : List Char → Option (List Char × List Char)
  | [] => none
  | d :: r => if d = c then some ([], r) else (splitOnce? c r).map fun (a, b) => (d :: a, b)

end PageWatch.Text
