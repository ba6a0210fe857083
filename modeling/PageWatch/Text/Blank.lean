/-!
# Blank characters, trimming and words

A character is blank when it has the Unicode property White_Space. Trimming
removes blanks at the ends, the words of a text are its longest runs without
blanks, and collapsing writes the words with one space between neighbours.
-/

set_option autoImplicit false

namespace PageWatch.Text

/-- The characters with the Unicode property White_Space. -/
def isBlank (c : Char) : Bool :=
  let n := c.toNat
  (0x9 ≤ n && n ≤ 0xD) || n == 0x20 || n == 0x85 || n == 0xA0 || n == 0x1680 ||
    (0x2000 ≤ n && n ≤ 0x200A) || n == 0x2028 || n == 0x2029 || n == 0x202F ||
    n == 0x205F || n == 0x3000

def trimStart (cs : List Char) : List Char := cs.dropWhile isBlank

def trimEnd (cs : List Char) : List Char := (cs.reverse.dropWhile isBlank).reverse

def trim (cs : List Char) : List Char := trimEnd (trimStart cs)

def words (cs : List Char) : List (List Char) :=
  (cs.splitOnP isBlank).filter (· ≠ [])

/-- The words with a single space between neighbours. -/
def collapse (cs : List Char) : List Char := [' '].intercalate (words cs)

def isBlankText (cs : List Char) : Bool := cs.all isBlank

def trimmed (s : String) : String := String.ofList (trim s.toList)

def collapsed (s : String) : String := String.ofList (collapse s.toList)

end PageWatch.Text
