import PageWatch.Calendar.Date
import PageWatch.Data.Datum

/-!
# Keys and single values of TOML texts

Each reader takes the text from where a thing begins and gives the thing with the
text behind it, or nothing when the text breaks the grammar.
-/

set_option autoImplicit false

namespace PageWatch.Toml

open Text

def isSpace (c : Char) : Bool := c == ' ' || c == '\t'

def skip (cs : List Char) : List Char := cs.dropWhile isSpace

def isShown (c : Char) : Bool := c == '\t' || (0x20 ≤ c.toNat && c.toNat ≠ 0x7F)

def lineEnd? : List Char → Option (List Char)
  | '\n' :: r => some r
  | '\r' :: '\n' :: r => some r
  | _ => none

def skipComment : List Char → List Char
  | '#' :: r => r.dropWhile isShown
  | cs => cs

def nextLine? (cs : List Char) : Option (List Char) :=
  match skipComment (skip cs) with
  | [] => some []
  | cs => lineEnd? cs

def numbered? (size : Nat) (cs : List Char) : Option Char :=
  let digits := cs.take size
  let n := hexNumber digits
  if digits.length = size ∧ digits.all isHexDigit ∧ n.isValidChar then some (Char.ofNat n)
  else none

def escape? : List Char → Option (Char × Nat)
  | 'b' :: _ => some ('\x08', 1)
  | 't' :: _ => some ('\t', 1)
  | 'n' :: _ => some ('\n', 1)
  | 'f' :: _ => some ('\x0c', 1)
  | 'r' :: _ => some ('\r', 1)
  | '"' :: _ => some ('"', 1)
  | '\\' :: _ => some ('\\', 1)
  | 'u' :: r => (numbered? 4 r).map fun c => (c, 5)
  | 'U' :: r => (numbered? 8 r).map fun c => (c, 9)
  | _ => none

def readBasic (passed : Nat) (done : List Char) : List Char → Option (String × List Char)
  | [] => none
  | c :: r =>
    match passed with
    | n + 1 => readBasic n done r
    | 0 =>
      if c = '"' then some (String.ofList done.reverse, r)
      else if c = '\\' then
        match escape? r with
        | some (d, n) => readBasic n (d :: done) r
        | none => none
      else if isShown c then readBasic 0 (c :: done) r
      else none

def readLiteral (cs : List Char) : Option (String × List Char) :=
  let (body, rest) := cs.span fun c => isShown c && c != '\''
  match rest with
  | '\'' :: rest => some (String.ofList body, rest)
  | _ => none

/-- The end of a string of several lines, and its last quotes that belong to the string. Up to two
quotes may stand before the three that close it. -/
def closing? (quote : Char) (cs : List Char) : Option (List Char × List Char) :=
  let run := (cs.takeWhile (· == quote)).length
  if run < 3 then none
  else
    let extra := min (run - 3) 2
    some (List.replicate extra quote, cs.drop (extra + 3))

/-- How much of the text behind a backslash at the end of a line is passed over: everything up to
the next text. -/
def continuation? (cs : List Char) : Option Nat :=
  match lineEnd? (skip cs) with
  | none => none
  | some r =>
    let rest := r.dropWhile fun c => isSpace c || c == '\n' || c == '\r'
    some (cs.length - rest.length)

def readLongBasic (passed : Nat) (done : List Char) : List Char → Option (String × List Char)
  | [] => none
  | c :: r =>
    match passed with
    | n + 1 => readLongBasic n done r
    | 0 =>
      if c = '"' then
        match closing? '"' (c :: r) with
        | some (extra, rest) => some (String.ofList (done.reverse ++ extra), rest)
        | none => readLongBasic 0 (c :: done) r
      else if c = '\\' then
        match continuation? r with
        | some n => readLongBasic n done r
        | none =>
          match escape? r with
          | some (d, n) => readLongBasic n (d :: done) r
          | none => none
      else if c = '\n' then readLongBasic 0 (c :: done) r
      else if c = '\r' then if r.head? = some '\n' then readLongBasic 0 done r else none
      else if isShown c then readLongBasic 0 (c :: done) r
      else none

def readLongLiteral (done : List Char) : List Char → Option (String × List Char)
  | [] => none
  | c :: r =>
    if c = '\'' then
      match closing? '\'' (c :: r) with
      | some (extra, rest) => some (String.ofList (done.reverse ++ extra), rest)
      | none => readLongLiteral (c :: done) r
    else if c = '\r' then if r.head? = some '\n' then readLongLiteral done r else none
    else if c = '\n' ∨ isShown c then readLongLiteral (c :: done) r
    else none

def skipLineEnd (cs : List Char) : List Char := (lineEnd? cs).getD cs

def readText : List Char → Option (String × List Char)
  | '"' :: '"' :: '"' :: r => readLongBasic 0 [] (skipLineEnd r)
  | '"' :: r => readBasic 0 [] r
  | '\'' :: '\'' :: '\'' :: r => readLongLiteral [] (skipLineEnd r)
  | '\'' :: r => readLiteral r
  | _ => none

def isBare (c : Char) : Bool := isLetter c || isDigit c || c == '_' || c == '-'

def readName : List Char → Option (String × List Char)
  | '"' :: r => readBasic 0 [] r
  | '\'' :: r => readLiteral r
  | cs =>
    let (body, rest) := cs.span isBare
    if body.isEmpty then none else some (String.ofList body, rest)

def readNames : Nat → List Char → Option (List String × List Char)
  | 0, _ => none
  | fuel + 1, cs =>
    match readName (skip cs) with
    | none => none
    | some (name, rest) =>
      match skip rest with
      | '.' :: rest => (readNames fuel rest).map fun (names, rest) => (name :: names, rest)
      | rest => some ([name], rest)

def namesLimit : Nat := 80

def readKey (cs : List Char) : Option (List String × List Char) := readNames namesLimit cs

def digitRun (isDigit : Char → Bool) : List Char → List Char × List Char
  | [] => ([], [])
  | [c] => if isDigit c then ([c], []) else ([], [c])
  | c :: d :: r =>
    if isDigit c then
      if d == '_' && r.head?.any isDigit then
        let (digits, rest) := digitRun isDigit r
        (c :: digits, rest)
      else
        let (digits, rest) := digitRun isDigit (d :: r)
        (c :: digits, rest)
    else ([], c :: d :: r)

def ofInteger (n : Int) (rest : List Char) : Option (Datum × List Char) :=
  if Datum.isSigned n then some (.integer n, rest) else none

def digitsNumber (base : Nat) (cs : List Char) : Nat :=
  cs.foldl (fun n c => base * n + (hexValue? c).getD 0) 0

def readBased (base : Nat) (cs : List Char) : Option (Datum × List Char) :=
  let (digits, rest) := digitRun (fun c => (hexValue? c).any (· < base)) cs
  if digits.isEmpty then none else ofInteger (digitsNumber base digits) rest

def readExponent : List Char → Option (Int × List Char)
  | [] => none
  | c :: r =>
    if c = 'e' ∨ c = 'E' then
      let (negative, r) := match r with
        | '-' :: r => (true, r)
        | '+' :: r => (false, r)
        | _ => (false, r)
      let (digits, rest) := digitRun isDigit r
      let n : Int := decimalNumber digits
      if digits.isEmpty then none else some (if negative then -n else n, rest)
    else none

def ofDouble (d : Double) (rest : List Char) : Option (Datum × List Char) :=
  if d = .infinite false then none else some (.float d, rest)

/-- The number whose whole part was read; numbers that are too large are refused. -/
def readRest (negative : Bool) (whole : List Char) (cs : List Char) :
    Option (Datum × List Char) :=
  match cs with
  | '.' :: r =>
    let (places, rest) := digitRun isDigit r
    if places.isEmpty then none
    else
      let (exponent, rest) := (readExponent rest).getD (0, rest)
      ofDouble (.ofDecimal negative (decimalNumber (whole ++ places)) (exponent - places.length))
        rest
  | _ =>
    match readExponent cs with
    | some (exponent, rest) =>
      ofDouble (.ofDecimal negative (decimalNumber whole) exponent) rest
    | none =>
      let n : Int := decimalNumber whole
      ofInteger (if negative then -n else n) cs

def readUnsigned (negative : Bool) : List Char → Option (Datum × List Char)
  | 'i' :: 'n' :: 'f' :: rest => some (.float (.infinite negative), rest)
  | 'n' :: 'a' :: 'n' :: rest => some (.float .nan, rest)
  | '0' :: r => readRest negative ['0'] r
  | cs =>
    let (whole, rest) := digitRun isDigit cs
    if whole.isEmpty then none else readRest negative whole rest

def readNumber : List Char → Option (Datum × List Char)
  | '+' :: r => readUnsigned false r
  | '-' :: r => readUnsigned true r
  | '0' :: 'x' :: r => readBased 16 r
  | '0' :: 'o' :: r => readBased 8 r
  | '0' :: 'b' :: r => readBased 2 r
  | cs => readUnsigned false cs

def readFixed (size : Nat) (cs : List Char) : Option (Nat × List Char) :=
  let digits := cs.take size
  if digits.length = size ∧ digits.all isDigit then some (decimalNumber digits, cs.drop size)
  else none

def readMark (mark : Char) : List Char → Option (List Char)
  | [] => none
  | c :: r => if c = mark then some r else none

def afterDate? (cs : List Char) : Option (List Char) := do
  let (year, r) ← readFixed 4 cs
  let (month, r) ← readFixed 2 (← readMark '-' r)
  let (day, r) ← readFixed 2 (← readMark '-' r)
  if Calendar.isDate year month day then some r else none

def afterFraction : List Char → List Char
  | '.' :: r =>
    let (digits, rest) := r.span isDigit
    if digits.isEmpty then '.' :: r else rest
  | cs => cs

def afterTime? (cs : List Char) : Option (List Char) := do
  let (hour, r) ← readFixed 2 cs
  let (minute, r) ← readFixed 2 (← readMark ':' r)
  let (second, r) ← readFixed 2 (← readMark ':' r)
  if hour < 24 ∧ minute < 60 ∧ second ≤ 60 then some (afterFraction r) else none

def afterOffset? : List Char → Option (List Char)
  | [] => none
  | c :: r => do
    if c = 'Z' ∨ c = 'z' then return r
    else if c = '+' ∨ c = '-' then
      let (hour, r) ← readFixed 2 r
      let (minute, r) ← readFixed 2 (← readMark ':' r)
      if hour < 24 ∧ minute < 60 then some r else none
    else none

def afterTimeOfDate : List Char → List Char
  | [] => []
  | c :: r =>
    if c = 'T' ∨ c = 't' ∨ c = ' ' then
      match afterTime? r with
      | some rest => (afterOffset? rest).getD rest
      | none => c :: r
    else c :: r

def afterMoment? (cs : List Char) : Option (List Char) :=
  match afterDate? cs with
  | some rest => some (afterTimeOfDate rest)
  | none => afterTime? cs

def readWord (word : String) (d : Datum) (cs : List Char) : Option (Datum × List Char) :=
  if word.toList.isPrefixOf cs then some (d, cs.drop word.length) else none

def readScalar : List Char → Option (Datum × List Char)
  | [] => none
  | c :: r =>
    if c = '"' ∨ c = '\'' then (readText (c :: r)).map fun (s, rest) => (.text s, rest)
    else if c = 't' then readWord "true" (.boolean true) (c :: r)
    else if c = 'f' then readWord "false" (.boolean false) (c :: r)
    else
      match afterMoment? (c :: r) with
      | some rest => some (.moment, rest)
      | none => readNumber (c :: r)

end PageWatch.Toml
