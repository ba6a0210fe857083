import PageWatch.Charset.Unicode
import PageWatch.Text.Blank
import PageWatch.Text.Digits
import PageWatch.Text.Substring

/-!
# Declared charsets

A reply may name the charset of a page in a parameter of its content type, and a
page may name it in a `meta` tag near its start.
-/

set_option autoImplicit false

namespace PageWatch.Charset

open Text

def isQuote (c : Char) : Bool := c == '"' || c == '\''

def unquoted (cs : List Char) : List Char :=
  ((cs.dropWhile isQuote).reverse.dropWhile isQuote).reverse

def charsetParameter? (parameter : List Char) : Option (List Char) :=
  match splitOnce? '=' parameter with
  | none => none
  | some (key, value) =>
    if (trim key).map lower = "charset".toList then
      let label := unquoted (trim value)
      if label.isEmpty then none else some label
    else none

/-- The first charset among the parameters behind the media type. -/
def ofContentType? (value : String) : Option String :=
  ((value.toList.splitOn ';').drop 1).findSome? charsetParameter? |>.map String.ofList

/-- Small letters; two further characters count as letters. -/
def fold (c : Char) : Char := if c = 'ſ' then 's' else if c = '\u212A' then 'k' else lower c

def beginsWith (word : List Char) (cs : List Char) : Bool :=
  (cs.take word.length).map fold == word

def isLabelChar (c : Char) : Bool :=
  isLetter (fold c) || isDigit c || c == '_' || c == '-' || c == ':' || c == '.'

def labelAt? (cs : List Char) : Option (List Char) :=
  if beginsWith "charset".toList cs then
    match trimStart (cs.drop 7) with
    | '=' :: r =>
      let r := trimStart r
      let r := trimStart (if r.head?.any isQuote then r.drop 1 else r)
      let label := r.takeWhile isLabelChar
      if label.isEmpty then none else some label
    | _ => none
  else none

def lastLabel? : List Char → Option (List Char)
  | [] => none
  | c :: r =>
    if c = '>' then none
    else match lastLabel? r with
      | some label => some label
      | none => labelAt? (c :: r)

/-- The label in the tag that begins here; something must stand before it. -/
def metaLabel? (cs : List Char) : Option (List Char) :=
  if beginsWith "<meta".toList cs then
    match cs.drop 5 with
    | [] => none
    | c :: r => if c = '>' then none else lastLabel? r
  else none

def firstMetaLabel? : List Char → Option (List Char)
  | [] => none
  | c :: r =>
    match metaLabel? (c :: r) with
    | some label => some label
    | none => firstMetaLabel? r

/-- Only so many bytes of a page are searched. -/
def searchedBytes : Nat := 2048

def declaredIn? (page : List UInt8) : Option String :=
  (firstMetaLabel? (utf8Decoder.run (page.take searchedBytes)).text.toList).map String.ofList

end PageWatch.Charset
