import AdSearch.Number.Binary64

/-!
# Shortest decimal text of a number

Of all decimals that round to a number, the text has the fewest digits, and of those it is the
nearest.  It is positional from `0.0001` up to seventeen digits before the point, else scientific.
-/

namespace AdSearch.Binary64

/-- The ratio of `num / den` to `10 ^ e`, as a numerator and a denominator. -/
def scaleTen (num den : Nat) (e : Int) : Nat × Nat :=
  if 0 ≤ e then (num, den * Nat.pow 10 e.toNat) else (num * Nat.pow 10 (-e).toNat, den)

/-- The least `k` with `num / den < 10 ^ k`, for a positive ratio. -/
def decimalPoint (num den : Nat) : Int :=
  if den ≤ num then decimalLength (num / den)
  else 1 - (decimalLength ((den + num - 1) / num - 1) : Int)

/-- The closed or open interval of the reals that round to a number. -/
structure Interval where
  lo : Nat
  hi : Nat
  den : Nat
  closed : Bool

/-- The reals that round to a positive finite number, over the denominator `4 * d`. -/
def roundingInterval (significand : Nat) (exponent : Int) : Interval :=
  let (n, d) := magnitude 1 exponent
  let below := if significand = Nat.pow 2 52 ∧ leastExponent < exponent then 1 else 2
  ⟨(4 * significand - below) * n, (4 * significand + 2) * n, 4 * d, significand % 2 == 0⟩

/-- Whether `k * 10 ^ e` rounds to the number of the interval. -/
def Interval.hits (i : Interval) (k : Nat) (e : Int) : Bool :=
  let (p, q) := if 0 ≤ e then (k * Nat.pow 10 e.toNat, 1) else (k, Nat.pow 10 (-e).toNat)
  if i.closed then i.lo * q ≤ p * i.den && p * i.den ≤ i.hi * q
  else i.lo * q < p * i.den && p * i.den < i.hi * q

/-- The multiple of `10 ^ e` that rounds to the number and is nearest to it, a tie going to the
even multiple. -/
def nearestOnGrid? (i : Interval) (num den : Nat) (e : Int) : Option Nat :=
  let (n, d) := scaleTen num den e
  let k := n / d
  match i.hits k e, i.hits (k + 1) e with
  | true, true => some (roundQuotient n d)
  | true, false => some k
  | false, true => some (k + 1)
  | false, false => none

/-- The first grid, from the coarsest on, with a multiple that rounds to the number. -/
def shortestFrom (i : Interval) (num den : Nat) : Nat → Int → Nat × Int
  | 0, e => (num / den, e)
  | fuel + 1, e =>
    match nearestOnGrid? i num den e with
    | some k => (k, e)
    | none => shortestFrom i num den fuel (e - 1)

/-- The digits and the power of ten of the shortest decimal of a positive finite number. -/
def shortest (significand : Nat) (exponent : Int) : Nat × Int :=
  let (n, d) := magnitude significand exponent
  shortestFrom (roundingInterval significand exponent) n d 17 (decimalPoint n d - 1)

/-- The decimal digits of a natural, without the zeros at the end. -/
def significantDigits (k : Nat) : List Char :=
  ((Nat.toDigits 10 k).reverse.dropWhile (· == '0')).reverse

/-- Digits with a point after the first, and a power of ten of at least two digits. -/
def scientific (digits : List Char) (power : Int) : List Char :=
  let size := Nat.toDigits 10 power.natAbs
  digits.take 1 ++ (if digits.length ≤ 1 then [] else '.' :: digits.drop 1) ++
    ['e', if power < 0 then '-' else '+'] ++ (if size.length < 2 then '0' :: size else size)

/-- Digits with a point after the first `point` of them, and a digit on each side of it. -/
def positional (digits : List Char) (point : Int) : List Char :=
  if point ≤ 0 then '0' :: '.' :: List.replicate (-point).toNat '0' ++ digits
  else
    let whole := point.toNat
    if digits.length ≤ whole then
      digits ++ List.replicate (whole - digits.length) '0' ++ ['.', '0']
    else digits.take whole ++ '.' :: digits.drop whole

def magnitudeText (significand : Nat) (exponent : Int) : List Char :=
  if significand = 0 then ['0', '.', '0']
  else
    let (k, e) := shortest significand exponent
    let digits := significantDigits k
    let point : Int := (Nat.toDigits 10 k).length + e
    if -4 < point ∧ point ≤ 16 then positional digits point else scientific digits (point - 1)

def text : Binary64 → String
  | nan => "nan"
  | infinite negative => if negative then "-inf" else "inf"
  | finite negative m e =>
    String.ofList ((if negative then ['-'] else []) ++ magnitudeText m e)

end AdSearch.Binary64
