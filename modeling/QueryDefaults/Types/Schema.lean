import QueryDefaults.Fault.Wording
import QueryDefaults.Node.Native
import QueryDefaults.Types.Name
import QueryDefaults.Types.Scalar
import QueryDefaults.Value.Rebuild

/-!
Definitions of named types. A scalar is a pair of coercion functions, an enum a list of named values,
an input object a mapping of fields, or a function that gives one, so that input objects can refer to
each other. The fields of an input object are resolved when they are first asked for; a failure is not
remembered.
-/

namespace QueryDefaults

/-- The numbers of the mapping that holds the parts of a type by their names: its own, and those of the
names, in their order. -/
structure MapIds where
  own : Nat := 0
  names : List Nat := []
  deriving Inhabited

/-- What a named type consists of. A scalar without a function of its own for native values passes them
on; without one for literals it takes their native values. -/
inductive TypeBody where
  | scalar (onValue onLiteral : Option Value)
  | enum (values : List (String × EnumValue)) (ids : MapIds)
  | inputObject (source : Value) (resolved : Option (List (String × InputField))) (ids : MapIds)
  | other

/-- The mapping of parts by their names. -/
def MapIds.mapping (ids : MapIds) (parts : List (String × Value)) : Value :=
  .mapping (parts.zipIdx.map fun ((name, v), i) =>
    ⟨.ofText name, .str name (ids.names.getD i constant), v⟩) ids.own

/-- The sort of a definition. -/
def TypeBody.sort : TypeBody → TypeSort
  | scalar .. => .scalar
  | enum .. => .enum
  | inputObject .. => .inputObject
  | other => .other

/-- The definition of a named type. -/
structure TypeDef where
  name : String
  nameId : Nat := constant
  description : Value
  extensions : Value
  body : TypeBody

/-- The named type of a definition at a place. -/
def TypeDef.typeAt (d : TypeDef) (place : Nat) : NamedType := ⟨place, d.name, d.body.sort, d.nameId⟩

/-- All definitions, and what the functions of the values in them do: what one gives without arguments,
and what it makes of an argument. New objects get numbers from `next` on. -/
structure Schema where
  defs : List TypeDef
  call : Value → Traced Value
  apply : Value → Value → Traced Value
  next : Nat := firstNumber

/-! ### Types from values -/

/-- A value as a type. -/
def Value.type? : Value → Option Ty
  | .type t => some t
  | _ => none

/-- Whether a value is a type that does not have null. -/
def Value.isNonNullType : Value → Bool
  | .type t => t.isNonNull
  | _ => false

/-- A value as an input type. -/
def Value.inputType? : Value → Option Ty
  | .type t => if t.isInput then some t else none
  | _ => none

/-- A list of a type. -/
def listOf : Value → Except Fault Ty
  | .type t => return .list t
  | v => do
    let shown ← v.display
    throw (.wrapsNoType shown)

/-- A plain wrapper around a type. -/
def wrapperOf : Value → Except Fault Ty
  | .type t => return .wrapper t
  | v => do
    let shown ← v.display
    throw (.wrapsNoType shown)

/-- The non-null form of a type, which must not be non-null itself. -/
def nonNullOf : Value → Except Fault Ty
  | .type t => if t.isNonNull then throw (.wrapsNonNull t.text) else return .nonNull t
  | v => do
    let shown ← v.display
    throw (.wrapsNoType shown)

/-- An input field of a type. -/
def inputFieldOf (type default description deprecation : Value) : Except Fault InputField :=
  match type.inputType? with
  | some t => return ⟨0, t, default, description, deprecation⟩
  | none => do
    let shown ← type.display
    throw (.fieldTypeNotInput shown)

/-- Whether a field must be given: it is non-null and has no default. -/
def InputFieldOf.isRequired (f : InputField) : Bool := f.type.isNonNull && f.default.isUndefined

/-! ### Fields of input objects -/

/-- An entry of a mapping as a field: a field stays what it is, a type becomes a field of that type. -/
def fieldOf (v : Value) : Except Fault InputField :=
  match v with
  | .inputField f => return f
  | v => inputFieldOf v .undefined .null .null

/-- The fields that a mapping gives. All names and all types must be in order. -/
def fieldsOfMapping : List Entry → Except Fault (List (String × InputField))
  | [] => return []
  | ⟨_, k, v⟩ :: es => do
    let name ← checkName k
    let field ← fieldOf v
    let fields ← fieldsOfMapping es
    return (name, field) :: fields

/-- The fields of an input object, from what its source gave. -/
def resolveFields (call : Value → Except Fault Value) (owner : String) (given : Except Fault Value) :
    Except Fault (List (String × InputField)) :=
  match given with
  | .error f => do
    let cause ← f.display call
    throw (.fieldsUnresolved owner cause (f.cls == .graphql))
  | .ok (.mapping es _) => fieldsOfMapping es
  | .ok _ => throw (.fieldsNotMapping owner)

namespace Schema

/-- The definition of a type. -/
def def? (s : Schema) (n : NamedType) : Option TypeDef := s.defs[n.id]?

/-- What a function gives without arguments. -/
def called (s : Schema) (f : Value) : Except Fault Value := (s.call f).result

/-- What the source of an input object's fields gives at present. -/
def given (s : Schema) (source : Value) : Traced Value :=
  if source.callable then s.call source else return source

/-- The fields of an input object as they are asked for. -/
def fieldsOf (s : Schema) (d : TypeDef) : Traced (List (String × InputField)) :=
  match d.body with
  | .inputObject _ (some fields) _ => return fields
  | .inputObject source none _ =>
    let given := s.given source
    { given with result := resolveFields s.called d.name given.result }
  | _ => throw .noAttribute

/-- The fields of a type. -/
def fields (s : Schema) (n : NamedType) : Traced (List (String × InputField)) := do
  Traced.ask n.id
  match s.def? n with
  | some d => s.fieldsOf d
  | none => throw .noAttribute

/-- The fields of an input object with the numbers that they get when they are remembered. -/
def numberFields (fields : List (String × InputField)) : StateM Nat (List (String × InputField)) :=
  fields.mapM fun (name, f) => do
    match ← (Value.inputField f).number with
    | .inputField f => return (name, f)
    | _ => return (name, f)

/-- The numbers of the mapping of an input object's fields, and of the names that its source gives. -/
def numberMap (s : Schema) (source : Value) : StateM Nat MapIds := do
  let names ← match (s.given source).result with
    | .ok (.mapping es _) => es.mapM fun e => numbered e.key.textId
    | _ => pure []
  let own ← numbered 0
  return { own, names }

/-- Remembers the fields of a type, if they can be resolved. -/
def remember (s : Schema) (id : Nat) : Schema :=
  match s.defs[id]? with
  | none => s
  | some d =>
    match d.body with
    | .inputObject source none _ =>
      match (s.fieldsOf d).result with
      | .ok fields =>
        let numbering : StateM Nat TypeBody := do
          let fields ← numberFields fields
          let ids ← s.numberMap source
          return .inputObject source (some fields) ids
        let (body, next) := numbering.run s.next
        { s with defs := s.defs.set id { d with body }, next }
      | .error _ => s
    | _ => s

/-- The schema after a computation that asked for the fields of types. -/
def after {α : Type} (s : Schema) (t : Traced α) : Schema :=
  t.asked.foldl remember { s with next := max s.next t.used }

/-- The values of an enum type. -/
def enumValues (s : Schema) (n : NamedType) : List (String × EnumValue) :=
  match s.def? n with
  | some { body := .enum values _, .. } => values
  | _ => []

/-! ### Coercion functions -/

/-- The functions of a scalar: that for native values, and that for literals. -/
def coercions? (s : Schema) (id : Nat) : Option (Value × Value) :=
  match s.defs[id]? with
  | some { body := .scalar onValue onLiteral, .. } =>
    some (onValue.getD (.builtin .pass), onLiteral.getD (.method (.scalar id)))
  | _ => none

/-- Applies a function to an argument. A scalar without a function of its own for literals applies that
for native values, which may be the method of another scalar, and so on for `steps` scalars. -/
def applyWithin (s : Schema) : Nat → Value → Value → Traced Value
  | _, .builtin f, v => f.coerce v
  | 0, .method (.scalar _) _, _ => throw .operand
  | steps + 1, .method (.scalar place) _, v => do
    match s.coercions? place with
    | some (onValue, _) =>
      let native ← v.native
      s.applyWithin steps onValue native
    | none => throw .operand
  | _, f, v => s.apply f v

/-- Applies a function to an argument. A function of a scalar is older than the scalar, so a method of
one hands on to methods of older ones only. -/
def applyTo (s : Schema) (f v : Value) : Traced Value := s.applyWithin (s.defs.length + 1) f v

/-! ### Attributes -/

/-- The attributes of types, with those that only the definitions know. -/
def typeAttr (s : Schema) (t : Ty) (name : String) : Traced Value :=
  match t with
  | .list of _ | .nonNull of _ | .wrapper of _ =>
    if name = "of_type" then return .type of else throw (.lacks (.type t) name)
  | .named n =>
    match s.def? n with
    | none => throw (.lacks (.type t) name)
    | some d =>
      match name, d.body with
      | "name", _ => return n.label
      | "description", _ => return d.description
      | "extensions", _ => return d.extensions
      | "values", .enum values ids =>
        return ids.mapping (values.map fun (k, v) => (k, .enumValue v))
      | "fields", .inputObject _ _ ids => do
        let fields ← s.fields n
        return ids.mapping (fields.map fun (k, f) => (k, .inputField f))
      | "parse_value", .scalar onValue _ => return onValue.getD (.builtin .pass)
      | "parse_literal", .scalar _ onLiteral => return onLiteral.getD (.method (.scalar n.id))
      | _, _ => throw (.lacks (.type t) name)

/-- An attribute of a value, of a type also what only its definition knows. -/
def attr (s : Schema) (v : Value) (name : String) : Traced Value :=
  match v with
  | .type t => s.typeAttr t name
  | v => v.attr name

/-- The attribute of an object that gives its pairs of keys and values. -/
def pairsName : String := "items"

/-- The pairs of keys and values of a mapping, or of an object with a function that gives them. -/
def pairsIn (s : Schema) (v : Value) : Traced (List (Value × Value)) :=
  match v with
  | .mapping es _ => return pairsOf es
  | v => do
    let f ← s.attr v pairsName
    let rows ← s.call f
    let rows ← rows.toList
    rows.mapM fun row => do
      match ← row.toList with
      | [key, value] => return (key, value)
      | _ => throw (.unsupported .value "")

end Schema

end QueryDefaults
