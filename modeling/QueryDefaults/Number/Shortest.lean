import QueryDefaults.Number.Double

/-!
The text of a double: the fewest digits that read back as the same double, and of those the nearest.
For 1, 2, … 17 digits the two neighbours of the value on the grid of that many digits are tested
against the interval of the reals that round to it; the first grid with a hit wins.
-/

namespace QueryDefaults.Double

/-- Least `k` with `num / den < 10 ^ k`, counting up from `-400`. -/
def decimalPoint (num den : Nat) : Int :=
  let guess : Int := (((num.log2 : Int) - (den.log2 : Int)) * 30103) / 100000 - 1
  let below (k : Int) : Bool := num * Nat.pow 10 (-k).toNat < den * Nat.pow 10 k.toNat
  if below guess then guess
  else if below (guess + 1) then guess + 1
  else if below (guess + 2) then guess + 2
  else guess + 3

/-- Whether `digits * 10 ^ scale` rounds to `m * 2 ^ e`. -/
def readsBack (m : Nat) (e : Int) (digits : Nat) (scale : Int) : Bool :=
  -- in units of 2 ^ (e - 2): the value, and the ends of its interval
  let low := if m = Nat.pow 2 52 ∧ e > minExponent then 4 * m - 1 else 4 * m - 2
  let high := 4 * m + 2
  let u := e - 2
  let x := digits * Nat.pow 10 scale.toNat * Nat.pow 2 (-u).toNat
  let unit := Nat.pow 10 (-scale).toNat * Nat.pow 2 u.toNat
  if m % 2 = 0 then low * unit ≤ x && x ≤ high * unit else low * unit < x && x < high * unit

/-- The neighbour of `num / den` on the grid of `count` digits that reads back and is nearest, with its scale. -/
def onGrid (m : Nat) (e : Int) (num den : Nat) (point : Int) (count : Nat) : Option (Nat × Int) :=
  let scale := point - count
  let n := num * Nat.pow 10 (-scale).toNat
  let d := den * Nat.pow 10 scale.toNat
  let q := n / d
  let r := n % d
  match readsBack m e q scale, readsBack m e (q + 1) scale with
  | true, false => some (q, scale)
  | false, true => some (q + 1, scale)
  | true, true =>
    if 2 * r < d ∨ (2 * r = d ∧ q % 2 = 0) then some (q, scale) else some (q + 1, scale)
  | false, false => none

/-- The shortest decimal `digits * 10 ^ scale` that reads back as `m * 2 ^ e`. -/
def shortest (m : Nat) (e : Int) : Nat × Int :=
  let num := m * Nat.pow 2 e.toNat
  let den := Nat.pow 2 (-e).toNat
  let point := decimalPoint num den
  ((List.range 17).findSome? fun i => onGrid m e num den point (i + 1)).getD (m, e)

/-- Digits without the zeros at their end; the point stays where it is. -/
def dropEndZeros (digits : List Char) : List Char :=
  (digits.reverse.dropWhile (· == '0')).reverse

/-- The decimal digits of a number. -/
def digitsOf (n : Nat) : List Char := Nat.toDigits 10 n

/-- Digits `d₁d₂…` standing for `0.d₁d₂… * 10 ^ point`: positional for points from -3 to 16, else
with an exponent of at least two digits. -/
def layout (digits : List Char) (point : Int) : List Char :=
  if point > 16 ∨ point < -3 then
    let e := point - 1
    let power := digitsOf e.natAbs
    digits.take 1 ++ (if digits.length > 1 then '.' :: digits.drop 1 else []) ++
      ['e', if e < 0 then '-' else '+'] ++ (if power.length < 2 then ['0'] else []) ++ power
  else if point ≤ 0 then
    ['0', '.'] ++ List.replicate (-point).toNat '0' ++ digits
  else
    let whole := digits.take point.toNat
    let rest := digits.drop point.toNat
    whole ++ List.replicate (point.toNat - whole.length) '0' ++ '.' :: (if rest.isEmpty then ['0'] else rest)

/-- The text of a double. -/
def text : Double → String
  | .nan => "nan"
  | .inf negative => if negative then "-inf" else "inf"
  | .finite negative m e =>
    let body :=
      if m = 0 then "0.0".toList else
      let (digits, scale) := shortest m e
      let written := digitsOf digits
      layout (dropEndZeros written) (written.length + scale)
    String.ofList (if negative then '-' :: body else body)

end QueryDefaults.Double
