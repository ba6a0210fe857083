import PageWatch.Text.Digits

/-!
# Binary floating-point numbers

A finite number is `m * 2 ^ q` with `m` below `2 ^ 53`. A decimal is read as the
nearest such number, ties going to even `m`, and written with the fewest digits
that read back.
-/

set_option autoImplicit false

namespace PageWatch

inductive Double where
  | finite (negative : Bool) (m : Nat) (q : Int)
  | infinite (negative : Bool)
  | nan
  deriving Repr, DecidableEq

namespace Double

/-- The whole number nearest to `a / b`, a half going to the even one. -/
def roundDiv (a b : Nat) : Nat :=
  let n := a / b
  let r := 2 * (a % b)
  if r < b then n else if b < r then n + 1 else n + n % 2

def scaled (a b : Nat) (s : Int) : Nat × Nat :=
  if 0 ≤ s then (a * Nat.pow 2 s.toNat, b) else (a, b * Nat.pow 2 (-s).toNat)

def leadingBit : Nat := 0x10000000000000

def ofRatio (negative : Bool) (a b : Nat) : Double :=
  if a = 0 then finite negative 0 (-1074)
  else
    let guess : Int := (Nat.log2 a : Int) - Nat.log2 b - 52
    let (x, y) := scaled a b (-guess)
    let q := max (-1074) (if x < leadingBit * y then guess - 1 else guess)
    let (x, y) := scaled a b (-q)
    let m := roundDiv x y
    let (m, q) := if m = 2 * leadingBit then (leadingBit, q + 1) else (m, q)
    if 971 < q then infinite negative else finite negative m q

def ofDecimal (negative : Bool) (digits : Nat) (exponent : Int) : Double :=
  let size : Int := (Text.decimal digits).length + exponent
  if digits = 0 ∨ size < -330 then finite negative 0 (-1074)
  else if 310 < size then infinite negative
  else if 0 ≤ exponent then ofRatio negative (digits * Nat.pow 10 exponent.toNat) 1
  else ofRatio negative digits (Nat.pow 10 (-exponent).toNat)

def readsBack (m : Nat) (q : Int) (c : Nat) (g : Int) : Bool :=
  ofDecimal false c g == finite false m q

/-- Of the two neighbours of the number with digits from `10 ^ g` on, the nearer that reads
back. -/
def onGrid? (m : Nat) (q g : Int) : Option Nat :=
  let (a, b) := scaled m 1 q
  let (a, b) := if 0 ≤ g then (a, b * Nat.pow 10 g.toNat) else (a * Nat.pow 10 (-g).toNat, b)
  let low := a / b
  let nearer := if 2 * (a % b) ≤ b then low else low + 1
  let farther := if nearer = low then low + 1 else low
  [nearer, farther].find? fun c => 0 < c && readsBack m q c g

/-- The first grid, from coarse to fine, with a point that reads back. -/
def shortestFrom (m : Nat) (q : Int) (g : Int) : Nat → Nat × Int
  | 0 => (0, 0)
  | tries + 1 =>
    match onGrid? m q g with
    | some c => (c, g)
    | none => shortestFrom m q (g - 1) tries

def leading (m : Nat) (q : Int) : Int :=
  let (a, b) := scaled m 1 q
  if b ≤ a then (Text.decimal (a / b)).length else 1 - ((Text.decimal (b / a)).length : Int)

def shortest (m : Nat) (q : Int) : Nat × Int := shortestFrom m q (leading m q) 20

def positional (digits : Nat) (exponent : Int) : List Char :=
  if 0 ≤ exponent then Text.decimal digits ++ List.replicate exponent.toNat '0'
  else
    let places := (-exponent).toNat
    let ds := Text.padded (places + 1) digits
    ds.take (ds.length - places) ++ '.' :: ds.drop (ds.length - places)

def text : Double → String
  | nan => "NaN"
  | infinite negative => if negative then "-inf" else "inf"
  | finite negative m q =>
    let (c, g) := if m = 0 then (0, 0) else shortest m q
    let body := positional c g
    let body := if body.contains '.' then body else body ++ ['.', '0']
    String.ofList (if negative then '-' :: body else body)

/-- The number with a power of ten when its point is not within the first sixteen digits. -/
def scientific : Double → String
  | finite negative m q =>
    let (c, g) := if m = 0 then (0, 0) else shortest m q
    let ds := Text.decimal c
    let point : Int := ds.length + g
    let body :=
      if point ≤ -5 ∨ 16 < point then
        (match ds with
          | [d] => [d]
          | d :: rest => d :: '.' :: rest
          | [] => []) ++
          'e' :: (if point - 1 < 0 then ['-'] else []) ++ Text.decimal (point - 1).natAbs
      else if 0 ≤ g then positional c g ++ ['.', '0']
      else positional c g
    String.ofList (if negative then '-' :: body else body)
  | d => d.text

end Double

end PageWatch
