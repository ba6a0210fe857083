import PageWatch.Text.Digits

/-!
# Numeric hosts

The four numbers of a short address may be written in base eight, ten or sixteen,
and the last may stand for several. Long addresses have eight pieces, of which
one run of zeros may be left out.
-/

set_option autoImplicit false

namespace PageWatch.Url

open Text

def isOctalDigit (c : Char) : Bool := '0' ≤ c && c ≤ '7'

def number? (cs : List Char) : Option Nat :=
  match cs with
  | [] => none
  | ['0'] => some 0
  | '0' :: x :: r =>
    if x = 'x' ∨ x = 'X' then if r.all isHexDigit then some (hexNumber r) else none
    else if (x :: r).all isOctalDigit then
      some ((x :: r).foldl (fun n c => 8 * n + digitValue c) 0)
    else none
  | _ => if cs.all isDigit then some (decimalNumber cs) else none

def significantLabels (name : List Char) : List (List Char) :=
  let labels := name.splitOn '.'
  if labels.getLast? = some [] then labels.dropLast else labels

def endsInNumber (name : List Char) : Bool :=
  match (significantLabels name).getLast? with
  | none => false
  | some last => (!last.isEmpty && last.all isDigit) || (number? last).isSome

def shortAddress? (name : List Char) : Option Nat := do
  let labels := significantLabels name
  if 4 < labels.length then none
  else
    let numbers ← labels.mapM number?
    let front := numbers.dropLast
    let last ← numbers.getLast?
    if front.any (255 < ·) || Nat.pow 256 (4 - front.length) ≤ last then none
    else some (front.zipIdx.foldl (fun n (x, i) => n + x * Nat.pow 256 (3 - i)) last)

def shortAddressText (n : Nat) : List Char :=
  ['.'].intercalate ([n / 16777216, n / 65536 % 256, n / 256 % 256, n % 256].map decimal)

/-- Two pieces from a short address of four plain numbers. -/
def embedded? (cs : List Char) : Option (List Nat) := do
  let numbers ← (cs.splitOn '.').mapM fun part =>
    if part.isEmpty || !part.all isDigit || (part.head? = some '0' && part.length != 1) ||
      3 < part.length || 255 < decimalNumber part then none
    else some (decimalNumber part)
  match numbers with
  | [a, b, c, d] => some [a * 256 + b, c * 256 + d]
  | _ => none

def piece? (cs : List Char) : Option Nat :=
  if cs.isEmpty || 4 < cs.length || !cs.all isHexDigit then none else some (hexNumber cs)

def pieces? : List (List Char) → Option (List Nat)
  | [] => some []
  | [last] => if last.contains '.' then embedded? last else (piece? last).map ([·])
  | part :: rest => do return (← piece? part) :: (← pieces? rest)

def splitDouble? : List Char → Option (List Char × List Char)
  | [] => none
  | [_] => none
  | a :: b :: r =>
    if a = ':' ∧ b = ':' then some ([], r)
    else (splitDouble? (b :: r)).map fun (x, y) => (a :: x, y)

def groups? (cs : List Char) : Option (List Nat) :=
  if cs.isEmpty then some [] else pieces? (cs.splitOn ':')

def longAddress? (cs : List Char) : Option (List Nat) :=
  match splitDouble? cs with
  | none => do
    let pieces ← groups? cs
    if pieces.length = 8 then some pieces else none
  | some (before, after) => do
    let front ← if before.contains '.' then none else groups? before
    let back ← groups? after
    if front.length + back.length < 8 then
      some (front ++ List.replicate (8 - front.length - back.length) 0 ++ back)
    else none

def zeroRuns : List Nat → List Nat
  | [] => []
  | n :: rest =>
    let runs := zeroRuns rest
    (if n = 0 then runs.headD 0 + 1 else 0) :: runs

/-- The first longest run of at least two zeros is left out. -/
def longAddressText (pieces : List Nat) : List Char :=
  let runs := zeroRuns pieces
  let longest := runs.foldl max 0
  let write (ps : List Nat) : List Char := [':'].intercalate (ps.map hex)
  if longest < 2 then write pieces
  else
    let start := runs.findIdx (· = longest)
    write (pieces.take start) ++ [':', ':'] ++ write (pieces.drop (start + longest))

end PageWatch.Url
