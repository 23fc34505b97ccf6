import QueryDefaults.Session.Objects
import QueryDefaults.Types.Define
import QueryDefaults.Types.Reference

/-!
The operations of a session on types: defining them, telling them apart, wrapping and unwrapping them,
and looking them up in a registry.
-/

namespace QueryDefaults

/-- The tests on types. -/
inductive TypeTest where
  | any | scalar | enum | inputObject | list | nonNull | input | leaf | wrapping | nullable | named | builtin
  deriving DecidableEq, Repr

/-- Whether a type is a named type of one of the given sorts. -/
def isNamedOf (sorts : List TypeSort) : Ty → Bool
  | .named n => sorts.contains n.sort
  | _ => false

/-- Whether a type is a list. -/
def isList : Ty → Bool
  | .list .. => true
  | _ => false

/-- Whether a type is not below any wrapper. -/
def isNamed : Ty → Bool
  | .named _ => true
  | _ => false

/-- Whether a type passes a test. -/
def TypeTest.holds : TypeTest → Ty → Bool
  | any, _ => true
  | scalar, t => isNamedOf [.scalar] t
  | enum, t => isNamedOf [.enum] t
  | inputObject, t => isNamedOf [.inputObject] t
  | list, t => isList t
  | nonNull, t => t.isNonNull
  | input, t => t.isInput
  | leaf, t => isNamedOf [.scalar, .enum] t
  | wrapping, t => !isNamed t
  | nullable, t => isList t || isNamedOf [.scalar, .enum, .inputObject] t
  | named, t => isNamed t
  | builtin, t => builtinTypes.any fun n => t == .named n

namespace SessionM

/-- Whether a value is a type that passes a test. -/
def isTypeWith (v : Value) (test : TypeTest) : Bool :=
  match v with
  | .type t => test.holds t
  | _ => false

/-- What a coercion function of a scalar, or of an object that has one, makes of an argument. -/
def coerceWith (role : String) (scalar v : Value) : SessionM Value :=
  traced fun s => do
    let f ← s.attr scalar role
    s.applyTo f v

/-- Whether a field must be given. -/
def requiresField (v : Value) : SessionM Bool := do
  let t ← attrOf v "type"
  if t.isNonNullType then
    let hasDefault ← attrOf v "has_default"
    return !hasDefault.truthy
  else return false

/-- Makes a wrapper around a type. -/
def wrap (f : Value → Except Fault Ty) (v : Value) : SessionM Answer := do
  let t ← f v
  answer (.type t)

/-- Numbers for the values of an enum and for their names. -/
def numberBody : TypeBody → SessionM TypeBody
  | .enum values ids => do
    let values ← mapNamed (fun u => do
      let id ← numbering (numbered u.id)
      return { u with id }) values
    let names ← ids.names.mapM fun id => numbering (numbered id)
    let own ← freshId
    return .enum values { own, names }
  | body => return body

/-- Adds a definition, and gives the type. -/
def defineNew (d : TypeDef) : SessionM Answer := do
  let body ← numberBody d.body
  define { d with body } >>= answer

end SessionM

/-- Operations that make types and parts of types. -/
inductive DefineOperation where
  | scalar | enum | enumValue | inputObject | inputField | namedType | registry
  deriving DecidableEq, Repr

open SessionM in
/-- Performs an operation that makes a type. -/
def DefineOperation.perform (op : DefineOperation) (args : List Value) : SessionM Answer := do
  match op, args with
  | .scalar, [name, onValue, onLiteral, description, extensions] => do
    let d ← defineScalar name onValue onLiteral description extensions
    defineNew d
  | .enum, [name, values, description, extensions] => do
    let d ← traced (·.defineEnum name values description extensions)
    defineNew d
  | .enumValue, [v, description, deprecation] => answer (.enumValue ⟨0, v, description, deprecation⟩)
  | .inputObject, [name, fields, description, extensions] => do
    let d ← defineInputObject name fields description extensions
    defineNew d
  | .inputField, [t, initial, description, deprecation] => do
    let f ← inputFieldOf t initial description deprecation
    answer (.inputField f)
  | .namedType, [name, description, extensions] => do
    let d ← defineOther name description extensions
    defineNew d
  | .registry, [types] => do
    let types ← traced (·.register types)
    answer (.registry types)
  | _, _ => throw .operand

/-- Operations on types and names. -/
inductive TypeOperation where
  | test (t : TypeTest)
  | listOf | nonNullOf | wrapperOf | nullable | named | lookUp | resolve | parseValue | parseLiteral
  | isRegistry | isRequired | assertInput | assertRegistry | assertName | assertEnumValueName
  deriving DecidableEq, Repr

open SessionM in
/-- Performs an operation on types. -/
def TypeOperation.perform (op : TypeOperation) (args : List Value) : SessionM Answer := do
  match op, args with
  | .test check, [t] => answerBool (isTypeWith t check)
  | .listOf, [t] => wrap QueryDefaults.listOf t
  | .nonNullOf, [t] => wrap QueryDefaults.nonNullOf t
  | .wrapperOf, [t] => wrap QueryDefaults.wrapperOf t
  | .nullable, [t] =>
    match t with
    | .type (.nonNull of _) => answer (.type of)
    | v => answer v
  | .named, [t] =>
    match t with
    | .type u => answer (.type (.named u.base))
    | v => answer (if v.truthy then v else .null)
  | .lookUp, [registry, name] => do
    let found ← traced (·.lookup registry name)
    answer found
  | .resolve, [registry, node] => do
    let t ← traced (·.resolve registry node)
    answer t
  | .parseValue, [scalar, v] => coerceWith "parse_value" scalar v >>= answer
  | .parseLiteral, [scalar, node] => coerceWith "parse_literal" scalar node >>= answer
  | .isRegistry, [r] => answerBool (r matches .registry ..)
  | .isRequired, [field] => do
    let required ← requiresField field
    answerBool required
  | .assertInput, [t] =>
    if isTypeWith t .input then answer t else throw (.refused .inputType t)
  | .assertRegistry, [r] => do
    let _ ← checkRegistry r
    answer r
  | .assertName, [name] => do
    let _ ← checkName name
    answer name
  | .assertEnumValueName, [name] => do
    let _ ← checkEnumValueName name
    answer name
  | _, _ => throw .operand

end QueryDefaults
