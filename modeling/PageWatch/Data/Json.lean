import PageWatch.Data.Datum

/-!
# JSON texts

Reading accepts the JSON grammar and nothing else; entries keep their order and
repeated keys stay. Writing escapes quotes, backslashes and control characters
only, so every text reads back.
-/

set_option autoImplicit false

namespace PageWatch.Json

open Text

def isSpace (c : Char) : Bool := c == ' ' || c == '\n' || c == '\t' || c == '\r'

def skip (cs : List Char) : List Char := cs.dropWhile isSpace

def escape (c : Char) : List Char :=
  if c = '"' then ['\\', '"']
  else if c = '\\' then ['\\', '\\']
  else if c = '\n' then ['\\', 'n']
  else if c = '\r' then ['\\', 'r']
  else if c = '\t' then ['\\', 't']
  else if c = '\x08' then ['\\', 'b']
  else if c = '\x0c' then ['\\', 'f']
  else if c.toNat < 0x20 then
    ['\\', 'u', '0', '0'] ++ List.replicate (2 - (hex c.toNat).length) '0' ++ hex c.toNat
  else [c]

def writeString (s : String) : List Char := '"' :: s.toList.flatMap escape ++ ['"']

def unescape? (c : Char) : Option Char :=
  if c = '"' ∨ c = '\\' ∨ c = '/' then some c
  else if c = 'n' then some '\n'
  else if c = 'r' then some '\r'
  else if c = 't' then some '\t'
  else if c = 'b' then some '\x08'
  else if c = 'f' then some '\x0c'
  else none

def unit? (cs : List Char) : Option Nat :=
  let four := cs.take 4
  if four.length = 4 ∧ four.all isHexDigit then some (hexNumber four) else none

def isHighUnit (n : Nat) : Bool := 0xD800 ≤ n && n < 0xDC00

def isLowUnit (n : Nat) : Bool := 0xDC00 ≤ n && n < 0xE000

def joinUnits (high low : Nat) : Char :=
  Char.ofNat (0x10000 + (high - 0xD800) * 0x400 + (low - 0xDC00))

def escapedUnits? (cs : List Char) : Option (Char × Nat) :=
  match unit? cs with
  | none => none
  | some n =>
    if isHighUnit n then
      if ['\\', 'u'].isPrefixOf (cs.drop 4) then
        match unit? (cs.drop 6) with
        | some low => if isLowUnit low then some (joinUnits n low, 10) else none
        | none => none
      else none
    else if isLowUnit n then none
    else some (Char.ofNat n, 4)

/-- The string after its opening quote, and the text after its closing quote. `passed` counts
characters of an escape that are still to be passed over, and `done` is kept in reverse. -/
def readString (passed : Nat) (done : List Char) : List Char → Option (String × List Char)
  | [] => none
  | c :: r =>
    match passed with
    | n + 1 => readString n done r
    | 0 =>
      if c = '"' then some (String.ofList done.reverse, r)
      else if c = '\\' then
        match r with
        | [] => none
        | e :: r' =>
          if e = 'u' then
            match escapedUnits? r' with
            | some (d, n) => readString (n + 1) (d :: done) r
            | none => none
          else
            match unescape? e with
            | some d => readString 1 (d :: done) r
            | none => none
      else if c.toNat < 0x20 then none
      else readString 0 (c :: done) r

/-- Other whole numbers are read as floating-point numbers. -/
def inRange (n : Int) : Bool := Datum.isSigned n || Datum.isUnsigned n

def readExponent (cs : List Char) : Option (Option Int × List Char) :=
  match cs with
  | [] => some (none, [])
  | c :: r =>
    if c = 'e' ∨ c = 'E' then
      let (negative, r) := match r with
        | '-' :: r => (true, r)
        | '+' :: r => (false, r)
        | _ => (false, r)
      let (digits, rest) := r.span isDigit
      if digits.isEmpty then none
      else
        let n : Int := decimalNumber digits
        some (some (if negative then -n else n), rest)
    else some (none, cs)

def readFraction (cs : List Char) : Option (Option (List Char) × List Char) :=
  match cs with
  | '.' :: r =>
    let (digits, rest) := r.span isDigit
    if digits.isEmpty then none else some (some digits, rest)
  | _ => some (none, cs)

def readNumber (cs : List Char) : Option (Datum × List Char) := do
  let (negative, cs) := match cs with
    | '-' :: r => (true, r)
    | _ => (false, cs)
  let (digits, rest) := cs.span isDigit
  if digits.isEmpty ∨ (digits.head? = some '0' ∧ digits.length ≠ 1) then none
  else
    let (fraction, rest) ← readFraction rest
    let (exponent, rest) ← readExponent rest
    let whole : Int := decimalNumber digits
    let n := if negative then -whole else whole
    if fraction.isNone && exponent.isNone && inRange n && !(negative && n == 0) then
      some (.integer n, rest)
    else
      let places := fraction.getD []
      let shift := exponent.getD 0 - places.length
      some (.float (Double.ofDecimal negative (decimalNumber (digits ++ places)) shift), rest)

def readWord (word : String) (d : Datum) (cs : List Char) : Option (Datum × List Char) :=
  if word.toList.isPrefixOf cs then some (d, cs.drop word.length) else none

mutual

def readValue : Nat → List Char → Option (Datum × List Char)
  | 0, _ => none
  | fuel + 1, cs =>
    match skip cs with
    | [] => none
    | c :: r =>
      if c = '"' then (readString 0 [] r).map fun (s, rest) => (.text s, rest)
      else if c = '[' then
        match skip r with
        | ']' :: rest => some (.list [], rest)
        | r => (readItems fuel r).map fun (items, rest) => (.list items, rest)
      else if c = '\x7b' then
        match skip r with
        | '\x7d' :: rest => some (.table [], rest)
        | r => (readEntries fuel r).map fun (entries, rest) => (.table entries, rest)
      else if c = 't' then readWord "true" (.boolean true) (c :: r)
      else if c = 'f' then readWord "false" (.boolean false) (c :: r)
      else if c = 'n' then readWord "null" .null (c :: r)
      else readNumber (c :: r)

def readItems : Nat → List Char → Option (List Datum × List Char)
  | 0, _ => none
  | fuel + 1, cs =>
    match readValue fuel cs with
    | none => none
    | some (d, rest) =>
      match skip rest with
      | ']' :: rest => some ([d], rest)
      | ',' :: rest => (readItems fuel rest).map fun (items, rest) => (d :: items, rest)
      | _ => none

def readEntries : Nat → List Char → Option (List (String × Datum) × List Char)
  | 0, _ => none
  | fuel + 1, cs =>
    match skip cs with
    | '"' :: r =>
      match readString 0 [] r with
      | none => none
      | some (key, rest) =>
        match skip rest with
        | ':' :: rest =>
          match readValue fuel rest with
          | none => none
          | some (d, rest) =>
            match skip rest with
            | '\x7d' :: rest => some ([(key, d)], rest)
            | ',' :: rest =>
              (readEntries fuel rest).map fun (entries, rest) => ((key, d) :: entries, rest)
            | _ => none
        | _ => none
    | _ => none

end

def read? (cs : List Char) : Option Datum :=
  match readValue (2 * cs.length + 2) cs with
  | some (d, rest) => if (skip rest).isEmpty then some d else none
  | none => none

/-- An escape that stands for no character. -/
def unreadable : List Char := "\\uDC00".toList

/-- The text after a string, from its opening quote on. `passed` counts characters of an escape
that are still to be passed over. -/
def passString (passed : Nat) : List Char → Option (List Char)
  | [] => none
  | c :: r =>
    match passed with
    | n + 1 => passString n r
    | 0 =>
      if c = '"' then some r
      else if c = '\\' then
        match r with
        | [] => none
        | e :: r' =>
          if e = 'u' then if (unit? r').isSome then passString 5 r else none
          else if (unescape? e).isSome then passString 1 r
          else none
      else if c.toNat < 0x20 then none
      else passString 0 r

mutual

def passValue : Nat → List Char → Option (List Char)
  | 0, _ => none
  | fuel + 1, cs =>
    match skip cs with
    | [] => none
    | c :: r =>
      if c = '"' then passString 0 r
      else if c = '[' then
        match skip r with
        | ']' :: rest => some rest
        | r => passItems fuel r
      else if c = '\x7b' then
        match skip r with
        | '\x7d' :: rest => some rest
        | r => passEntries fuel r
      else if c = 't' then (readWord "true" .null (c :: r)).map (·.2)
      else if c = 'f' then (readWord "false" .null (c :: r)).map (·.2)
      else if c = 'n' then (readWord "null" .null (c :: r)).map (·.2)
      else (readNumber (c :: r)).map (·.2)

def passItems : Nat → List Char → Option (List Char)
  | 0, _ => none
  | fuel + 1, cs =>
    match passValue fuel cs with
    | none => none
    | some rest =>
      match skip rest with
      | ']' :: rest => some rest
      | ',' :: rest => passItems fuel rest
      | _ => none

def passEntries : Nat → List Char → Option (List Char)
  | 0, _ => none
  | fuel + 1, cs =>
    match skip cs with
    | '"' :: r =>
      match (passString 0 r).map skip with
      | some (':' :: rest) =>
        match (passValue fuel rest).map skip with
        | some ('\x7d' :: rest) => some rest
        | some (',' :: rest) => passEntries fuel rest
        | _ => none
      | _ => none
    | _ => none

end

abbrev Member := String × List Char

def readMembers : Nat → List Char → Option (List Member × List Char)
  | 0, _ => none
  | fuel + 1, cs =>
    match skip cs with
    | '"' :: r =>
      match readString 0 [] r with
      | none => none
      | some (name, rest) =>
        match skip rest with
        | ':' :: rest =>
          match passValue fuel rest with
          | none => none
          | some after =>
            let value := rest.take (rest.length - after.length)
            match skip after with
            | '\x7d' :: rest => some ([(name, value)], rest)
            | ',' :: rest =>
              (readMembers fuel rest).map fun (members, rest) => ((name, value) :: members, rest)
            | _ => none
        | _ => none
    | _ => none

def members? (cs : List Char) : Option (List Member) :=
  match skip cs with
  | '\x7b' :: r =>
    let found := match skip r with
      | '\x7d' :: rest => some ([], rest)
      | r => readMembers (2 * cs.length + 2) r
    match found with
    | some (members, rest) => if (skip rest).isEmpty then some members else none
    | none => none
  | _ => none

def Member.read? (m : Member) : Option (String × Datum) := (Json.read? m.2).map (m.1, ·)

/-- Reads one value, of an object only the members of some names. -/
def readOnly? (names : List String) (cs : List Char) : Option Datum :=
  match skip cs with
  | '\x7b' :: _ => do
    let members ← members? cs
    return .table (← (members.filter (names.contains ·.1)).mapM Member.read?)
  | _ => read? cs

def writeInteger (n : Int) : List Char :=
  if n < 0 then '-' :: decimal n.natAbs else decimal n.natAbs

def commaSeparated : List (List Char) → List Char
  | [] => []
  | [x] => x
  | x :: rest => x ++ ',' :: commaSeparated rest

mutual

def write : Datum → List Char
  | .null | .moment => "null".toList
  | .boolean true => "true".toList
  | .boolean false => "false".toList
  | .integer n => writeInteger n
  | .float d => d.text.toList
  | .text s => writeString s
  | .list items => '[' :: commaSeparated (writeItems items) ++ [']']
  | .table entries => '\x7b' :: commaSeparated (writeEntries entries) ++ ['\x7d']

def writeItems : List Datum → List (List Char)
  | [] => []
  | d :: rest => write d :: writeItems rest

def writeEntries : List (String × Datum) → List (List Char)
  | [] => []
  | (k, d) :: rest => (writeString k ++ ':' :: write d) :: writeEntries rest

end

end PageWatch.Json
