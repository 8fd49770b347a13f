/-!
# Floating-point numbers

Numbers of the binary format with 53 bits of precision, kept exactly as a whole number of units of
a power of two. `ofDecimal` rounds a decimal to the nearest such number, ties to the even one;
`digits` gives the fewest decimal digits that round back to a number, and of those the nearest.
-/

namespace UnsafeCensus

inductive Double
  | finite (negative : Bool) (units : Nat) (exponent : Int)
  | infinite (negative : Bool)
  | notANumber
deriving DecidableEq, Repr

namespace Double

/-- The quotient rounded to the nearest whole number, a half to the even one. -/
def roundDiv (num den : Nat) : Nat :=
  let q := num / den
  let twice := 2 * (num % den)
  if twice < den then q else if den < twice then q + 1 else if q % 2 = 0 then q else q + 1

/-- A ratio times a power of a base, as a ratio. -/
def scale (base num den : Nat) (e : Int) : Nat × Nat :=
  if 0 ≤ e then (num * base.pow e.toNat, den) else (num, den * base.pow (-e).toNat)

/-- The number of units of a normal number is at least this, and less than twice this. -/
def leastUnits : Nat := Nat.pow 2 52

def leastExponent : Int := -1074
def greatestExponent : Int := 971

/-- The exponent whose units express a positive ratio with 53 bits, or fewer near zero. -/
def exponentOf (num den : Nat) : Int :=
  let guess : Int := (num.log2 : Int) - den.log2 - 52
  let (n, d) := scale 2 num den (-guess)
  max (if n / d < leastUnits then guess - 1 else guess) leastExponent

/-- The number nearest to a ratio. -/
def ofRatio (negative : Bool) (num den : Nat) : Double :=
  if num = 0 then .finite negative 0 0
  else
    let e := exponentOf num den
    let (n, d) := scale 2 num den (-e)
    let units := roundDiv n d
    let (units, e) := if units = 2 * leastUnits then (leastUnits, e + 1) else (units, e)
    if greatestExponent < e then .infinite negative else .finite negative units e

/-- How many digits the text of a number takes. -/
def width (n : Nat) : Int := (Nat.toDigits 10 n).length

/-- The number nearest to `digits * 10 ^ exponent`. Exponents far outside the range need no
arithmetic. -/
def ofDecimal (negative : Bool) (digits : Nat) (exponent : Int) : Double :=
  if digits = 0 ∨ exponent + width digits < -400 then .finite negative 0 0
  else if 400 < exponent + width digits then .infinite negative
  else
    let (n, d) := scale 10 digits 1 exponent
    ofRatio negative n d

/-- The value as a ratio. -/
def ratio (units : Nat) (exponent : Int) : Nat × Nat :=
  scale 2 units 1 exponent

/-- How many decimal digits stand before the point of a positive ratio; less than one if zeros
follow the point. -/
def pointPlace (num den : Nat) : Int :=
  if den ≤ num then width (num / den) else 1 - width ((den - 1) / num)

/-- The candidates with a number of digits: the whole numbers around the ratio, scaled so that the
digits stand before the point. -/
def candidates (num den : Nat) (place : Int) (count : Nat) : List (Nat × Int) :=
  let e := place - count
  let (n, d) := scale 10 num den (-e)
  let nearest := roundDiv n d
  [(nearest, e), (n / d, e), (n / d + 1, e)]

/-- Search for the fewest digits that read back. -/
def search (negative : Bool) (units : Nat) (exponent : Int) (place : Int) :
    List Nat → Nat × Int
  | [] => (units, 0)
  | count :: more =>
    let (num, den) := ratio units exponent
    match (candidates num den place count).find? fun c =>
        ofDecimal negative c.1 c.2 == .finite negative units exponent with
    | some c => c
    | none => search negative units exponent place more

/-- The digits of a positive number and the power of ten of the last one. -/
def digits (negative : Bool) (units : Nat) (exponent : Int) : Nat × Int :=
  let (num, den) := ratio units exponent
  search negative units exponent (pointPlace num den) (List.range' 1 17)

/-- Digits without the zeros at their end, which the power of ten takes over. -/
def dropZeros (fuel : Nat) (d : Nat) (e : Int) : Nat × Int :=
  match fuel with
  | 0 => (d, e)
  | fuel + 1 => if d ≠ 0 ∧ d % 10 = 0 then dropZeros fuel (d / 10) (e + 1) else (d, e)

/-- Positional between 10^-4 and 10^16, always with a point; otherwise with an exponent of at least
two digits. -/
def layout (ds : List Char) (e : Int) : List Char :=
  let place : Int := e + ds.length
  if -4 < place ∧ place ≤ 16 then
    if place ≤ 0 then ['0', '.'] ++ List.replicate (-place).toNat '0' ++ ds
    else if (ds.length : Int) ≤ place then
      ds ++ List.replicate (place - ds.length).toNat '0' ++ ['.', '0']
    else ds.take place.toNat ++ '.' :: ds.drop place.toNat
  else
    let exponent := place - 1
    let shown := Nat.toDigits 10 exponent.natAbs
    let tail := if ds.length ≤ 1 then [] else '.' :: ds.drop 1
    ds.take 1 ++ tail ++ ['e', if exponent < 0 then '-' else '+'] ++
      (if shown.length < 2 then '0' :: shown else shown)

/-- The text of a number: the fewest digits that read back. -/
def render : Double → String
  | .notANumber => "nan"
  | .infinite negative => if negative then "-inf" else "inf"
  | .finite negative units exponent =>
    let sign := if negative then ['-'] else []
    if units = 0 then String.ofList (sign ++ ['0', '.', '0'])
    else
      let (d, e) := digits negative units exponent
      let (d, e) := dropZeros 20 d e
      String.ofList (sign ++ layout (Nat.toDigits 10 d) e)

def isZero : Double → Bool
  | .finite _ units _ => units == 0
  | _ => false

end Double

end UnsafeCensus
