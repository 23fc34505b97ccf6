import QueryDefaults.Fault

/-!
The classes of values by their names, and failures whose texts tell the class of a value that lacks
something.
-/

namespace QueryDefaults

/-- The class that a type is described by. -/
def Ty.className : Ty → String
  | named n =>
    match n.sort with
    | .scalar => "GraphQLScalarType"
    | .enum => "GraphQLEnumType"
    | .inputObject => "GraphQLInputObjectType"
    | .other => "GraphQLNamedType"
  | list .. => "GraphQLList"
  | nonNull .. => "GraphQLNonNull"
  | wrapper .. => "GraphQLWrappingType"

/-- The class of an object that is not data. -/
def Foreign.className : Foreign → String
  | .lambda | .function | .generatorFunction | .coroutineFunction => "function"
  | .classObject | .exceptionClass => "type"
  | .instanceObject => "TestClass"
  | .generator => "generator"
  | .coroutine => "coroutine"
  | .customInspect => "CustomInspect"
  | .noncallableInspect => "NonCallableInspect"
  | .noName => ""
  | .set => "set"
  | .bytes => "bytes"
  | .builtin => "builtin_function_or_method"

namespace Value

/-- The name that every enumeration has. -/
def enumerationName : String := "PyEnum"

/-- The class of a value. -/
def className : Value → String
  | null => "NoneType"
  | undefined => "UndefinedType"
  | bool _ => "bool"
  | int .. => "int"
  | float .. => "float"
  | str .. => "str"
  | list .. => "list"
  | tuple .. => "tuple"
  | mapping .. => "dict"
  | record shape .. => shape.name
  | operation _ => "OperationType"
  | action _ => "VisitorActionEnum"
  | node n => n.kind.className
  | type t => t.className
  | inputField _ => "GraphQLInputField"
  | enumValue _ => "GraphQLEnumValue"
  | enumeration .. => "EnumType"
  | member .. => enumerationName
  | error _ => "GraphQLError"
  | exceptionOf e => e.cls
  | registry .. => "TypeRegistry"
  | context _ => "ValidationContext"
  | rule r => if r.checking then "VariableDefaultValuesAreCorrectlyTypedRule" else "ValidationRule"
  | visitor .. => "DriverVisitor"
  | function .. | builtin _ => "function"
  | method .. => "method"
  | foreign f _ => f.className

/-- The class of a value in quotes. -/
def quotedClass (v : Value) : String := sentence ["'", v.className, "'"]

/-- How a value is spoken of that lacks an attribute: an instance by its class, a class by its own name. -/
def spokenOf (v : Value) : String :=
  match v with
  | foreign .classObject _ => "type object 'TestClass'"
  | foreign .exceptionClass _ => "type object 'ValueError'"
  | v => v.quotedClass ++ " object"

end Value

namespace Fault

/-- An attribute that a value does not have. Enumerations say this in words of their own. -/
def lacks (v : Value) (name : String) : Fault :=
  match v with
  | .enumeration .. => custom .attribute name
  | v => unsupported .attribute (sentence [v.spokenOf, " has no attribute '", name, "'"])

/-- A value that has no items. -/
def notIterable (v : Value) : Fault :=
  unsupported .type (v.quotedClass ++ " object is not iterable")

/-- A value that has no length. -/
def noLength (v : Value) : Fault :=
  unsupported .type (sentence ["object of type ", v.quotedClass, " has no len()"])

/-- A value that names no attribute because it is no text. -/
def noAttributeName (v : Value) : Fault :=
  unsupported .type (sentence ["attribute name must be string, not ", v.quotedClass])

end Fault

end QueryDefaults
