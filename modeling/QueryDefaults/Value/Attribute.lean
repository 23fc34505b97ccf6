import QueryDefaults.Value.Formatted

/-!
Attributes of values by name. Types know only what their text shows; descriptions, values and fields
of named types are looked up in the schema.
-/

namespace QueryDefaults

/-- The attributes of an error. -/
def ErrorOf.attr (e : GraphQLError) (name : String) : Except Fault Value :=
  match name with
  | "message" => .ok e.message
  | "nodes" => .ok e.nodes
  | "locations" => .ok e.locations
  | "path" => .ok e.path
  | "original_error" => .ok e.underlying
  | "extensions" => .ok e.extensions
  | "__cause__" => .ok e.cause
  | "__context__" => .ok e.context
  | "formatted" => e.formatted
  | _ => .error (.lacks (.error e) name)

/-- An attribute that an exception has besides what is behind it. -/
def ExceptionOf.own (e : Exception) (name : String) : Except Fault Value :=
  match e.attrs.lookup name with
  | some v => .ok v
  | none => .error (.lacks (.exceptionOf e) name)

/-- An exception as an error of the library, as far as its formatted form shows it. -/
def ExceptionOf.asError (e : Exception) : Except Fault GraphQLError := do
  let message ← e.own "message"
  let locations ← e.own "locations"
  let path ← e.own "path"
  let extensions ← e.own "extensions"
  return {
    message, locations, path, extensions
    nodes := .null
    underlying := .null
    cause := e.cause
    context := e.context }

/-- The attributes of an exception: what is behind it, and those that its class gives to it. -/
def ExceptionOf.attr (e : Exception) (name : String) : Except Fault Value :=
  match name with
  | "__cause__" => .ok e.cause
  | "__context__" => .ok e.context
  | "formatted" => if e.kind = .graphql then e.asError >>= (·.formatted) else e.own name
  | name => e.own name

/-- The attributes of an input field. -/
def InputFieldOf.attr (f : InputField) (name : String) : Except Fault Value :=
  match name with
  | "type" => .ok (.type f.type)
  | "default_value" => .ok f.default
  | "has_default" => .ok (.bool !f.default.isUndefined)
  | "description" => .ok f.description
  | "deprecation_reason" => .ok f.deprecation
  | _ => .error (.lacks (.inputField f) name)

/-- The attributes of an enum value. -/
def EnumValueOf.attr (v : EnumValue) (name : String) : Except Fault Value :=
  match name with
  | "value" => .ok v.value
  | "description" => .ok v.description
  | "deprecation_reason" => .ok v.deprecation
  | _ => .error (.lacks (.enumValue v) name)

/-- The attributes of a record: its fields, and what is derived from them. -/
def recordAttr (shape : Record) (items : List Value) (name : String) : Except Fault Value :=
  match (shape.fields.zip items).lookup name with
  | some v => .ok v
  | none =>
    match shape, items, name with
    | .result, [_, fatal], "is_fatal" => .ok (.bool !fatal.isNull)
    | .location, _, "formatted" | .result, _, "formatted" => formattedRecord shape items
    | _, _, _ => .error (.lacks (.record shape items) name)

/-- A constant among others of its sort: its name, its value, its place, and what it has from the sort by
names, such as the other constants. Functions of the sort are methods of the constant. -/
structure Constant where
  self : Value
  label : String
  value : Value
  place : Nat
  shared : List (String × Value)
  methods : List (String × Value) := []

/-- The attributes of a constant. -/
def Constant.attr (c : Constant) (name : String) : Except Fault Value :=
  match c.methods.lookup name with
  | some m => .ok m
  | none =>
    match name with
    | "value" | "_value_" => .ok c.value
    | "name" | "_name_" => .ok (.word c.label)
    | "_sort_order_" => .ok (.int c.place)
    | name =>
      match c.shared.lookup name with
      | some v => .ok v
      | none => .error (.lacks c.self name)

/-- An operation as a constant. -/
def OperationType.constant (o : OperationType) : Constant where
  self := .operation o
  label := o.name
  value := .word o.text
  place := all.idxOf o
  shared := all.map fun o => (o.name, .operation o)

/-- A control value as a constant. -/
def Action.constant (a : Action) : Constant where
  self := .action a
  label := a.name
  value := .bool a.stops
  place := all.idxOf a
  shared := all.map fun a => (a.name, .action a)

/-- A member of an enumeration as a constant. -/
def memberConstant (enumeration m : Value) : Constant :=
  let label := match m with | .member _ label _ => label | _ => ""
  match enumeration with
  | .enumeration members others i =>
    { self := m
      label
      value := m.memberValue
      place := (Value.distinct members).findIdx (m.same ·)
      shared := members ++ [("__objclass__", enumeration), ("__class__", enumeration)] ++ others
      methods := (others.filter (·.2.isFunction)).map fun (name, _) => (name, .method (.object i)) }
  | _ => { self := m, label, value := m.memberValue, place := 0, shared := [] }

/-- The attributes of a context. -/
def ContextOf.attr (c : Context) (name : String) : Except Fault Value :=
  match name with
  | "registry" => .ok c.registry
  | "document" => .ok c.document
  | "errors" => .ok (.list c.errors c.errorsId)
  | "fatal_error" => .ok c.fatal
  | "reported" => .ok (.list c.reported c.reportedId)
  | _ => .error (.lacks (.context c) name)

/-- The attributes of a rule. -/
def RuleOf.attr (r : RuleObject) (name : String) : Except Fault Value :=
  match name with
  | "context" => .ok r.context
  | "path" => if r.checking then .ok r.path else .error (.lacks (.rule r) name)
  | _ => .error (.lacks (.rule r) name)

/-- The mapping of a registry's types by their names. -/
def typeMap (types : List NamedType) (mapId : Nat) : Value :=
  .mapping (types.map fun t => ⟨.ofText t.name, t.label, .type (.named t)⟩) mapId

/-- The attributes of an enumeration: its members, by their names and all in one mapping, and others. -/
def enumerationAttr (members others : List (String × Value)) (name : String) : Except Fault Value :=
  if name = "__members__" then .ok (.ofEntries members)
  else match (members.lookup name).orElse fun _ => others.lookup name with
    | some m => .ok m
    | none => .error (.lacks (.enumeration members others) name)

/-- An attribute of a value. -/
def Value.attr (v : Value) (name : String) : Except Fault Value :=
  match v with
  | .node n => n.attr name
  | .record shape items _ => recordAttr shape items name
  | .error e => e.attr name
  | .inputField f => f.attr name
  | .enumValue u => u.attr name
  | .exceptionOf e => e.attr name
  | .undefined => if name = "__cause__" ∨ name = "__context__" then .ok .null else .error (.lacks v name)
  | .operation o => o.constant.attr name
  | .action a => a.constant.attr name
  | .enumeration members others _ => enumerationAttr members others name
  | .member .. => (memberConstant .null v).attr name
  | .registry types mapId _ => if name = "type_map" then .ok (typeMap types mapId) else .error (.lacks v name)
  | .context c => c.attr name
  | .rule r => r.attr name
  | .type (.list t _) | .type (.nonNull t _) | .type (.wrapper t _) =>
    if name = "of_type" then .ok (.type t) else .error (.lacks v name)
  | .type (.named n) => if name = "name" then .ok n.label else .error (.lacks v name)
  | v => .error (.lacks v name)

/-- The value of the name of a node, such as an object field or a variable. -/
def Value.nameValue (v : Value) : Except Fault Value := do
  let name ← v.attr "name"
  name.attr "value"

end QueryDefaults
