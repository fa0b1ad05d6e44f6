/-!
# Binary floating-point numbers

A number of the 64-bit binary format is kept exactly: a significand below `2 ^ 53` times a power of
two.  Every finite number has the exponent `leastExponent` or a significand of 53 bits, so equal
numbers of one sign have equal fields.  All arithmetic is exact on naturals, rounded once.
-/

namespace AdSearch

inductive Binary64 where
  | nan
  | infinite (negative : Bool)
  | finite (negative : Bool) (significand : Nat) (exponent : Int)
deriving DecidableEq, Inhabited

namespace Binary64

/-- The exponent of the finest spacing. -/
def leastExponent : Int := -1074

/-- The exponent of the coarsest spacing. -/
def greatestExponent : Int := 971

/-- The quotient rounded to the nearest natural, a tie to the even one. -/
def roundQuotient (num den : Nat) : Nat :=
  let q := num / den
  let r := num % den
  if 2 * r < den then q else if den < 2 * r then q + 1 else q + q % 2

/-- The ratio of `num` to `den * 2 ^ e`, as a numerator and a denominator. -/
def scaleDown (num den : Nat) (e : Int) : Nat × Nat :=
  if 0 ≤ e then (num, den * Nat.pow 2 e.toNat) else (num * Nat.pow 2 (-e).toNat, den)

/-- The greatest `e` with `2 ^ e ≤ num / den`, for a positive ratio. -/
def floorLog2 (num den : Nat) : Int :=
  let e : Int := (num.log2 : Int) - den.log2
  let (n, d) := scaleDown num den e
  if d ≤ n then e else e - 1

/-- The number nearest to a positive ratio in lowest terms, or nothing beyond the range. -/
def ofLowestTerms (negative : Bool) (num den : Nat) : Option Binary64 :=
  let e := max (floorLog2 num den - 52) leastExponent
  let (n, d) := scaleDown num den e
  let m := roundQuotient n d
  if m < Nat.pow 2 53 then
    if e ≤ greatestExponent then some (finite negative m e) else none
  else if e + 1 ≤ greatestExponent then some (finite negative (Nat.pow 2 52) (e + 1)) else none

def zero (negative : Bool) : Binary64 := finite negative 0 leastExponent

/-- The number nearest to `num / den`, a tie to the even significand, or nothing beyond the
range.  The answer depends on the ratio alone. -/
def ofRatio (negative : Bool) (num den : Nat) : Option Binary64 :=
  let g := num.gcd den
  if num / g = 0 then some (zero negative) else ofLowestTerms negative (num / g) (den / g)

/-- The number nearest to an integer, or nothing beyond the range. -/
def ofInt? (i : Int) : Option Binary64 := ofRatio (i < 0) i.natAbs 1

/-- How many digits a natural has in base ten; zero has none. -/
def decimalLength (n : Nat) : Nat := if n = 0 then 0 else (Nat.toDigits 10 n).length

/-- The number nearest to `digits * 10 ^ exponent`; beyond the range it is infinite. -/
def ofDecimal (negative : Bool) (digits : Nat) (exponent : Int) : Binary64 :=
  let size : Int := decimalLength digits + exponent
  if digits = 0 ∨ size < -330 then zero negative
  else if 311 < size then infinite negative
  else
    let nearest :=
      if 0 ≤ exponent then ofRatio negative (digits * Nat.pow 10 exponent.toNat) 1
      else ofRatio negative digits (Nat.pow 10 (-exponent).toNat)
    nearest.getD (infinite negative)

/-- A finite magnitude as a numerator and a denominator. -/
def magnitude (significand : Nat) (exponent : Int) : Nat × Nat :=
  if 0 ≤ exponent then (significand * Nat.pow 2 exponent.toNat, 1)
  else (significand, Nat.pow 2 (-exponent).toNat)

/-- The place of a number in the order: first by infinity, then by multiples of the finest
spacing.  Only NaN has no place. -/
def rank? : Binary64 → Option (Int × Int)
  | nan => none
  | infinite negative => some (if negative then -1 else 1, 0)
  | finite negative m e =>
    let n : Int := (m * Nat.pow 2 (e - leastExponent).toNat : Nat)
    some (0, if negative then -n else n)

/-- Whether the first number is less than the second; NaN is on no side. -/
def lt (x y : Binary64) : Bool :=
  match x.rank?, y.rank? with
  | some a, some b => a.1 < b.1 || (a.1 == b.1 && a.2 < b.2)
  | _, _ => false

/-- Whether the first number is at most the second; NaN is on no side. -/
def le (x y : Binary64) : Bool :=
  match x.rank?, y.rank? with
  | some a, some b => a.1 < b.1 || (a.1 == b.1 && a.2 ≤ b.2)
  | _, _ => false

/-- Whether a number is zero, of either sign. -/
def isZero : Binary64 → Bool
  | finite _ m _ => m == 0
  | _ => false

/-- A finite number without its fraction. -/
def truncate (negative : Bool) (significand : Nat) (exponent : Int) : Int :=
  let (n, d) := magnitude significand exponent
  if negative then -((n / d : Nat) : Int) else (n / d : Nat)

/-- The value of a finite number without a fraction. -/
def toInt? : Binary64 → Option Int
  | finite negative m e =>
    let (n, d) := magnitude m e
    if n % d = 0 then some (truncate negative m e) else none
  | _ => none

/-- A number rounded to `places` decimal places, a tie of its exact value to the even digit. -/
def roundPlaces (places : Nat) : Binary64 → Binary64
  | finite negative m e =>
    let (n, d) := magnitude m e
    let unit := Nat.pow 10 places
    (ofRatio negative (roundQuotient (n * unit) d) unit).getD (finite negative m e)
  | x => x

end Binary64

end AdSearch
