import QueryDefaults.Value.Attribute
import QueryDefaults.Value.Convert

/-!
The coercion functions of the built-in scalars. Each takes native values of its own form only, and
literals of the kinds that spell such values; a literal of another kind gives `undefined`.
-/

namespace QueryDefaults

/-- A function from values to values that may fail. -/
abbrev Coerce := Value → Except Fault Value

/-- The greatest value of the scalar `Int`. -/
def maxInt : Int := 2147483647

/-- The least value of the scalar `Int`. -/
def minInt : Int := -2147483648

/-- Whether an integer has 32 bits. -/
def isIntRange (n : Int) : Bool := minInt ≤ n && n ≤ maxInt

/-- The stored value of a node of one of the given kinds. -/
def storedValue (kinds : List Kind) (v : Value) : Except Fault (Option Value) :=
  match v with
  | .node n => if kinds.contains n.kind.library then (n.attr "value").map some else .ok none
  | _ => .ok none

/-- A literal coerced from its stored value, if it is of one of the given kinds. -/
def literalOf (kinds : List Kind) (f : Coerce) : Coerce := fun v => do
  match ← storedValue kinds v with
  | some w => f w
  | none => return .undefined

namespace Scalar

/-- Whole numbers of 32 bits. -/
def int : Coerce := fun v =>
  match v.whole? with
  | none => throw (.refused .wholeNumber v)
  | some n => if isIntRange n then v.asInt else throw (.refused .smallNumber v)

/-- The whole number of 32 bits that an int literal spells. -/
def intLiteral : Coerce := literalOf [.intValue] fun v => do
  let n ← v.toInt
  if isIntRange n then v.asInt else return .undefined

/-- Numbers that are not infinite. -/
def float : Coerce := fun v =>
  if v.isFiniteNumber then v.asDouble else throw (.refused .finiteNumber v)

/-- The number that an int or float literal spells. -/
def floatLiteral : Coerce := literalOf [.floatValue, .intValue] Value.asDouble

/-- Texts. -/
def string : Coerce := fun v =>
  match v with
  | .str .. => return v
  | _ => throw (.refused .text v)

/-- The text of a string literal. -/
def stringLiteral : Coerce := literalOf [.stringValue] .ok

/-- Booleans. -/
def boolean : Coerce := fun v =>
  match v with
  | .bool _ => return v
  | _ => throw (.refused .boolean v)

/-- The boolean of a boolean literal. -/
def booleanLiteral : Coerce := literalOf [.booleanValue] .ok

/-- Texts, and whole numbers as texts. -/
def identifier : Coerce := fun v =>
  match v with
  | .str .. => return v
  | _ =>
    match v.whole? with
    | some n => do
      let digits ← integerText n
      return .str digits
    | none => throw (.refused .identifier v)

/-- The text of a string or int literal. -/
def identifierLiteral : Coerce := literalOf [.stringValue, .intValue] .ok

end Scalar

/-- What a built-in coercion function does. -/
def BuiltinFunction.coerce : BuiltinFunction → Coerce
  | .pass => .ok
  | .int => Scalar.int
  | .intLiteral => Scalar.intLiteral
  | .float => Scalar.float
  | .floatLiteral => Scalar.floatLiteral
  | .string => Scalar.string
  | .stringLiteral => Scalar.stringLiteral
  | .boolean => Scalar.boolean
  | .booleanLiteral => Scalar.booleanLiteral
  | .identifier => Scalar.identifier
  | .identifierLiteral => Scalar.identifierLiteral

end QueryDefaults
