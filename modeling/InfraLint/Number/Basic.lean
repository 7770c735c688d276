import InfraLint.Number.Shortest

/-!
# Numbers of the configuration language

A number is a natural number of 64 bits, a signed number of 64 bits or a double-precision number. A
double-precision result that is whole and in range becomes natural or signed, so `1.0` and `1` are
the same number. Arithmetic is exact within each of the two whole kinds and goes through double
precision between them. A negative number is always signed, but a signed one need not be negative:
a remainder of signed numbers stays signed when it is zero.
-/

namespace InfraLint

/-- A number. -/
inductive Number where
  /-- A whole number below `2 ^ 64`. -/
  | natural (value : Nat)
  /-- A whole number in `[-2 ^ 63, 2 ^ 63)`. -/
  | signed (value : Int)
  /-- A double-precision number. -/
  | real (value : Binary64)
deriving Repr, DecidableEq, Inhabited

namespace Number

/-- A whole number as a number: signed only if it is negative. Nothing when it does not fit. -/
def whole? (i : Int) : Option Number :=
  if 0 ≤ i && i < (pow2 64 : Int) then some (natural i.toNat)
  else if i < 0 && -(pow2 63 : Int) ≤ i then some (signed i)
  else none

/-- A double-precision number as a number: whole when it has no fraction and fits. -/
def ofReal (x : Binary64) : Number :=
  ((x.toInt?.bind whole?).getD (real x))

/-- A whole number as a number, rounded when it does not fit. -/
def ofInt? (i : Int) : Option Number :=
  (whole? i).orElse fun _ => (Binary64.ofScaled? i 0).map real

/-- A whole number that stays signed whatever its sign is, rounded when it does not fit. -/
def ofSigned? (i : Int) : Option Number :=
  if -(pow2 63 : Int) ≤ i && i < (pow2 63 : Int) then some (signed i)
  else (Binary64.ofScaled? i 0).map real

/-- The double-precision number nearest to a number. -/
def toReal? : Number → Option Binary64
  | natural n => Binary64.ofScaled? n 0
  | signed i => Binary64.ofScaled? i 0
  | real x => some x

/-- The number written as `± digits * 10 ^ exponent`, as a double-precision literal reads it. -/
def ofDecimal? (negative : Bool) (digits : Nat) (exponent : Int) : Option Number :=
  (Binary64.ofDecimal? negative digits exponent).map ofReal

/-- The negated number. A whole number whose negation does not fit is rounded and stays a
double-precision number even when the rounded value is whole. -/
def neg : Number → Number
  | natural n => (ofInt? (-(n : Int))).getD (natural n)
  | signed i => (ofInt? (-i)).getD (signed i)
  | real x => real x.neg

/-- Computes on double-precision values. -/
def viaReal (op : Binary64 → Binary64 → Option Binary64) (a b : Number) : Option Number := do
  let x ← a.toReal?
  let y ← b.toReal?
  return ofReal (← op x y)

/-- Computes on whole numbers when both are natural or both signed, and on double-precision values
otherwise. -/
def viaKind (onNatural : Nat → Nat → Option Number) (onSigned : Int → Int → Option Number)
    (onReal : Binary64 → Binary64 → Option Binary64) (a b : Number) : Option Number :=
  match a, b with
  | natural m, natural n => onNatural m n
  | signed i, signed j => onSigned i j
  | _, _ => viaReal onReal a b

/-- The sum, or nothing when it lies outside the range of numbers. -/
def add? : Number → Number → Option Number :=
  viaKind (fun m n => ofInt? (m + n)) (fun i j => ofSigned? (i + j)) Binary64.add?

/-- The difference, or nothing when it lies outside the range of numbers. The difference of two
natural numbers is signed if it falls below zero, and then taken modulo `2 ^ 64`. -/
def sub? : Number → Number → Option Number :=
  viaKind
    (fun m n =>
      if n ≤ m then some (natural (m - n))
      else some (signed (Int.bmod ((m : Int) - n) (pow2 64))))
    (fun i j => ofInt? (i - j)) Binary64.sub?

/-- The product, or nothing when it lies outside the range of numbers. -/
def mul? : Number → Number → Option Number :=
  viaKind (fun m n => ofInt? (m * n)) (fun i j => ofInt? (i * j)) Binary64.mul?

/-- The remainder, with the sign of the left side. That of two signed numbers stays signed. -/
def rem? : Number → Number → Option Number :=
  viaKind (fun m n => if n == 0 then none else some (natural (m % n)))
    (fun i j => if j == 0 then none else some (signed (Int.tmod i j))) Binary64.rem?

/-- The quotient, always a double-precision one. -/
def div? : Number → Number → Option Number :=
  viaReal Binary64.div?

/-- The order of two numbers by value: two natural or two signed ones are compared exactly, and any
other pair as double-precision numbers. -/
def compare (a b : Number) : Ordering :=
  match a, b with
  | natural m, natural n => Ord.compare m n
  | signed i, signed j => Ord.compare i j
  | _, _ =>
    match a.toReal?, b.toReal? with
    | some x, some y => x.compare y
    | _, _ => .eq

/-- How double-precision numbers are written: from `0.00001` up to sixteen digits before the point
in positional form, else with an exponent such as `e21` or `e-7`. -/
def layout : Layout := ⟨-5, 16, false⟩

/-- The text of a number. -/
def text : Number → String
  | natural n => toString n
  | signed i => toString i
  | real x => layout.text x

end Number

end InfraLint
