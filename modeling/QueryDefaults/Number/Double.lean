/-!
Double precision numbers as exact values. A finite double is a signed integer times a power of two;
`ofRatio` rounds an exact quotient to the nearest double, ties to the even mantissa, and is the only
way in which a finite double is made. Every other operation is exact arithmetic followed by `ofRatio`.
-/

namespace QueryDefaults

/-- A double: not a number, an infinity, or `± mantissa * 2 ^ exponent`. -/
inductive Double where
  | nan
  | inf (negative : Bool)
  | finite (negative : Bool) (mantissa : Nat) (exponent : Int)
  deriving DecidableEq, Repr, Inhabited

namespace Double

/-- The quotient rounded to the nearest integer, a half to the even neighbour. -/
def roundDiv (num den : Nat) : Nat :=
  let q := num / den
  let r := num % den
  if 2 * r > den ∨ (2 * r = den ∧ q % 2 = 1) then q + 1 else q

/-- Numerator and denominator of `num / den / 2 ^ e`. -/
def scaled (num den : Nat) (e : Int) : Nat × Nat :=
  (num * Nat.pow 2 (-e).toNat, den * Nat.pow 2 e.toNat)

/-- The least exponent of a double. -/
def minExponent : Int := -1074

/-- The greatest exponent of a double. -/
def maxExponent : Int := 971

/-- The exponent at which `num / den` has a mantissa of 53 bits, or the least exponent if it is too small. -/
def exponentFor (num den : Nat) : Int :=
  let guess : Int := (num.log2 : Int) - (den.log2 : Int) - 52
  let (n, d) := scaled num den guess
  max minExponent (if n < Nat.pow 2 52 * d then guess - 1 else guess)

/-- The double nearest to `± num / den`. -/
def ofRatio (negative : Bool) (num den : Nat) : Double :=
  if num = 0 then .finite negative 0 minExponent else
  let e := exponentFor num den
  let (n, d) := scaled num den e
  let m := roundDiv n d
  let (m, e) := if m = Nat.pow 2 53 then (Nat.pow 2 52, e + 1) else (m, e)
  if e > maxExponent then .inf negative else .finite negative m e

/-- The double nearest to an integer. -/
def ofInt (n : Int) : Double := ofRatio (n < 0) n.natAbs 1

/-- A finite double as numerator and denominator. -/
def ratio? : Double → Option (Int × Nat)
  | .finite negative m e =>
    let n := m * Nat.pow 2 e.toNat
    some (if negative then -(n : Int) else n, Nat.pow 2 (-e).toNat)
  | _ => none

/-- Whether a double is finite. -/
def isFinite : Double → Bool
  | .finite .. => true
  | _ => false

/-- The integer that a finite double is equal to, if it is whole. -/
def whole? (x : Double) : Option Int :=
  match x.ratio? with
  | some (n, d) => if n % d = 0 then some (n / d) else none
  | none => none

/-- Equality of numbers: not a number differs from itself, both zeros are equal. -/
def equals (x y : Double) : Bool :=
  match x, y with
  | .inf a, .inf b => a == b
  | _, _ => match x.ratio?, y.ratio? with
    | some (n, d), some (k, l) => n * l == k * d
    | _, _ => false

/-- Whether a double is equal to an integer. -/
def equalsInt (x : Double) (n : Int) : Bool := x.whole? == some n

/-- Whether a double lies below zero. -/
def isNegative : Double → Bool
  | .nan => false
  | .inf negative => negative
  | .finite negative m _ => negative && m != 0

/-- Whether a double is one of the two zeros. -/
def isZero : Double → Bool
  | .finite _ m _ => m == 0
  | _ => false

/-- Twice a double. -/
def twice : Double → Double
  | .finite negative m e =>
    ofRatio negative (2 * m * Nat.pow 2 e.toNat) (Nat.pow 2 (-e).toNat)
  | x => x

end Double

end QueryDefaults
