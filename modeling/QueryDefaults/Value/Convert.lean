import QueryDefaults.Number.Numeral
import QueryDefaults.Value.Access

/-!
Reading values as numbers, and writing numbers. A text that spells no number fails as a value, an object that
cannot be a number fails as an operand, and a number that is too large overflows. An integer with too many
digits is not written.
-/

namespace QueryDefaults

/-- A text that cannot be read as the number asked for. -/
def Fault.unreadable : Fault := .unsupported .value ""

/-- A number that is too large. -/
def Fault.tooLarge : Fault := .unsupported .overflow ""

/-- Whether an integer has no text because it has too many digits. -/
def isUnwritable (n : Int) : Bool :=
  n.natAbs.log2 ≥ 3 * Numeral.digitLimit && n.natAbs ≥ Nat.pow 10 Numeral.digitLimit

/-- The digits of an integer, if it does not have too many of them. -/
def integerText (n : Int) : Except Fault String :=
  if isUnwritable n then throw .unreadable else return toString n

/-- A double without its fraction. -/
def Double.truncate : Double → Except Fault Int
  | .nan => .error .unreadable
  | .inf _ => .error .tooLarge
  | x => match x.ratio? with
    | some (n, d) => .ok (n.tdiv d)
    | none => .error .unreadable

/-- The double nearest to an integer, if it is not too large. -/
def Double.ofInt? (n : Int) : Except Fault Double :=
  match Double.ofInt n with
  | .inf _ => .error .tooLarge
  | x => .ok x

namespace Value

/-- A value as an integer. -/
def toInt : Value → Except Fault Int
  | int n _ => .ok n
  | bool b => .ok (if b then 1 else 0)
  | float x _ => x.truncate
  | str s _ => match Numeral.readInt? s with
    | some n => .ok n
    | none => .error .unreadable
  | foreign .bytes _ => .error .unreadable
  | _ => .error .operand

/-- The integer that a value is read as; an integer stays the object that it is. -/
def asInt (v : Value) : Except Fault Value :=
  match v with
  | int .. => .ok v
  | v => v.toInt.map fun n => .int n

/-- A value as a double. -/
def toDouble : Value → Except Fault Double
  | float x _ => .ok x
  | int n _ => Double.ofInt? n
  | bool b => .ok (.ofInt (if b then 1 else 0))
  | str s _ => match Numeral.readDouble? s with
    | some x => .ok x
    | none => .error .unreadable
  | foreign .bytes _ => .error .unreadable
  | _ => .error .operand

/-- The double that a value is read as; a double stays the object that it is. -/
def asDouble (v : Value) : Except Fault Value :=
  match v with
  | float .. => .ok v
  | v => v.toDouble.map fun x => .float x

/-- Whether a value is a number that is not infinite; booleans are no numbers. -/
def isFiniteNumber : Value → Bool
  | int .. => true
  | float x _ => x.isFinite
  | _ => false

/-- The whole number that a value is equal to; booleans are no numbers. -/
def whole? : Value → Option Int
  | int n _ => some n
  | float x _ => x.whole?
  | _ => none

/-- Whether a value is a whole number. -/
def isWholeNumber (v : Value) : Bool := v.whole?.isSome

end Value

end QueryDefaults
