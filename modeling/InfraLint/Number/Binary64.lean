/-!
# Double-precision numbers

Finite double-precision numbers as a sign, a whole mantissa and a power of two. Every operation is
exact integer arithmetic followed by one rounding to the nearest representable number, a tie going
to the even mantissa, so the results are those of the standard arithmetic and can be computed by
the kernel.
-/

namespace InfraLint

/-- A power of two. -/
def pow2 (n : Nat) : Nat := Nat.pow 2 n

/-- A power of ten. -/
def pow10 (n : Nat) : Nat := Nat.pow 10 n

/-- The number `± mantissa * 2 ^ exponent`. Numbers built by `ofRatio?` are in standard form: the
mantissa is below `2 ^ 53`, and below `2 ^ 52` only at the least exponent. -/
structure Binary64 where
  negative : Bool
  mantissa : Nat
  exponent : Int
deriving Repr, DecidableEq, Inhabited

namespace Binary64

/-- The exponent of the smallest positive number. -/
def minExponent : Int := -1074

/-- The exponent of the largest finite number. -/
def maxExponent : Int := 971

/-- `num / den` rounded to a whole number, a tie going to the even one. -/
def roundQuotient (num den : Nat) : Nat :=
  let quotient := num / den
  let twice := 2 * (num % den)
  if den < twice || (den == twice && quotient % 2 == 1) then quotient + 1 else quotient

/-- The ratio `num / den` in units of `2 ^ exponent`, again as a ratio. -/
def inUnits (num den : Nat) : Int → Nat × Nat
  | .ofNat k => (num, den * pow2 k)
  | .negSucc k => (num * pow2 (k + 1), den)

/-- The exponent at which `num / den` has a mantissa of 53 bits, but never below the least one. -/
def unitExponent (num den : Nat) : Int :=
  let guess : Int := max ((num.log2 : Int) - den.log2 - 52) minExponent
  let scaled := inUnits num den guess
  if scaled.1 / scaled.2 < pow2 52 && minExponent < guess then guess - 1 else guess

/-- The representable number nearest to `± num / den`, or nothing when that is beyond the largest
one. -/
def ofRatio? (negative : Bool) (num den : Nat) : Option Binary64 :=
  if num == 0 then some ⟨negative, 0, minExponent⟩
  else
    let exponent := unitExponent num den
    let scaled := inUnits num den exponent
    let mantissa := roundQuotient scaled.1 scaled.2
    let rounded : Binary64 :=
      if mantissa == pow2 53 then ⟨negative, pow2 52, exponent + 1⟩
      else ⟨negative, mantissa, exponent⟩
    if maxExponent < rounded.exponent then none else some rounded

/-- The representable number nearest to `value * 2 ^ exponent`. -/
def ofScaled? (value exponent : Int) : Option Binary64 :=
  match exponent with
  | .ofNat k => ofRatio? (value < 0) (value.natAbs * pow2 k) 1
  | .negSucc k => ofRatio? (value < 0) value.natAbs (pow2 (k + 1))

/-- The number of decimal digits of `n`; zero has one. -/
def digitCount (n : Nat) : Nat :=
  (Nat.toDigits 10 n).length

/-- The representable number nearest to `± digits * 10 ^ exponent`. Magnitudes far outside the
range are told apart by their length alone. -/
def ofDecimal? (negative : Bool) (digits : Nat) (exponent : Int) : Option Binary64 :=
  let magnitude : Int := digitCount digits + exponent
  if digits == 0 || magnitude < -400 then some ⟨negative, 0, minExponent⟩
  else if 400 < magnitude then none
  else
    match exponent with
    | .ofNat k => ofRatio? negative (digits * pow10 k) 1
    | .negSucc k => ofRatio? negative digits (pow10 (k + 1))

/-- The mantissa with its sign. -/
def signedMantissa (x : Binary64) : Int :=
  if x.negative then -(x.mantissa : Int) else x.mantissa

/-- The values of two numbers as whole multiples of one power of two. -/
def aligned (x y : Binary64) : Int × Int × Int :=
  let exponent := min x.exponent y.exponent
  (x.signedMantissa * pow2 (x.exponent - exponent).toNat,
    y.signedMantissa * pow2 (y.exponent - exponent).toNat, exponent)

/-- The number with the other sign. -/
def neg (x : Binary64) : Binary64 :=
  { x with negative := !x.negative }

/-- The rounded sum, or nothing when it is too large. -/
def add? (x y : Binary64) : Option Binary64 :=
  let (a, b, exponent) := aligned x y
  ofScaled? (a + b) exponent

/-- The rounded difference, or nothing when it is too large. -/
def sub? (x y : Binary64) : Option Binary64 :=
  let (a, b, exponent) := aligned x y
  ofScaled? (a - b) exponent

/-- The rounded product, or nothing when it is too large. -/
def mul? (x y : Binary64) : Option Binary64 :=
  ofScaled? (x.signedMantissa * y.signedMantissa) (x.exponent + y.exponent)

/-- The rounded quotient, or nothing when `y` is zero or the quotient is too large. -/
def div? (x y : Binary64) : Option Binary64 :=
  if y.mantissa == 0 then none
  else
    let (a, b, _) := aligned x y
    ofRatio? (x.negative != y.negative) a.natAbs b.natAbs

/-- The remainder of the division that rounds toward zero, which has the sign of `x`, or nothing
when `y` is zero. -/
def rem? (x y : Binary64) : Option Binary64 :=
  if y.mantissa == 0 then none
  else
    let (a, b, exponent) := aligned x y
    ofScaled? (Int.tmod a b) exponent

/-- The order of two numbers by value. -/
def compare (x y : Binary64) : Ordering :=
  let (a, b, _) := aligned x y
  Ord.compare a b

/-- The whole number that `x` is, if it is one. -/
def toInt? (x : Binary64) : Option Int :=
  match x.exponent with
  | .ofNat k => some (x.signedMantissa * pow2 k)
  | .negSucc k =>
    if x.mantissa % pow2 (k + 1) == 0 then some (x.signedMantissa / pow2 (k + 1)) else none

end Binary64

end InfraLint
