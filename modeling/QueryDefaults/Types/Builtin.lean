import QueryDefaults.Types.Schema

/-!
The built-in scalars.
-/

namespace QueryDefaults

/-- What the scalar `String` is for. -/
def stringDescription : String := sentence [
  "The `String` scalar type represents textual data, represented as UTF-8 character sequences.",
  " The String type is most often used by GraphQL to represent free-form human-readable text."]

/-- What the scalar `Int` is for. -/
def intDescription : String := sentence [
  "The `Int` scalar type represents non-fractional signed whole numeric values.",
  " Int can represent values between -(2^31) and 2^31 - 1."]

/-- What the scalar `Float` is for. -/
def floatDescription : String := sentence [
  "The `Float` scalar type represents signed double-precision fractional values",
  " as specified by [IEEE 754](https://en.wikipedia.org/wiki/IEEE_floating_point)."]

/-- What the scalar `Boolean` is for. -/
def booleanDescription : String := "The `Boolean` scalar type represents `true` or `false`."

/-- What the scalar `ID` is for. -/
def identifierDescription : String := sentence [
  "The `ID` scalar type represents a unique identifier, often used to refetch an object or as key for a",
  " cache. The ID type appears in a JSON response as a String; however, it is not intended to be",
  " human-readable. When expected as an input type, any string (such as `\"4\"`) or integer (such as",
  " `4`) input value will be accepted as an ID."]

/-- A built-in scalar; its extensions are a mapping of its own. -/
def builtinScalar (index : Nat) (name description : String) (onValue onLiteral : BuiltinFunction) :
    TypeDef where
  name
  description := .word description
  extensions := .mapping [] (index + 10)
  body := .scalar (some (.builtin onValue)) (some (.builtin onLiteral))

/-- The built-in scalars, in the order in which every registry lists them. -/
def builtinDefs : List TypeDef := [
  builtinScalar 0 "String" stringDescription .string .stringLiteral,
  builtinScalar 1 "Int" intDescription .int .intLiteral,
  builtinScalar 2 "Float" floatDescription .float .floatLiteral,
  builtinScalar 3 "Boolean" booleanDescription .boolean .booleanLiteral,
  builtinScalar 4 "ID" identifierDescription .identifier .identifierLiteral]

/-- The references to the built-in scalars. -/
def builtinTypes : List NamedType :=
  builtinDefs.zipIdx.map fun (d, i) => ⟨i, d.name, .scalar, constant⟩

end QueryDefaults
