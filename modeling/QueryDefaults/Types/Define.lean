import QueryDefaults.Types.Schema

/-!
Defining named types from values, with every check on names, functions and enum values.
-/

namespace QueryDefaults

/-- The extensions of a type or an error: a value that is false counts as none given. -/
def extensionsOf (v : Value) : Value := if v.truthy then v else .mapping []

/-- A definition; a name that was checked stays the object that it is. -/
def definitionOf (name : Value) (owner : String) (description extensions : Value) (body : TypeBody) :
    TypeDef where
  name := owner
  nameId := name.textId
  description
  extensions := extensionsOf extensions
  body

/-- A coercion function; `null` stands for none. -/
def coercionOf (owner role : String) (v : Value) : Except Fault (Option Value) :=
  if v.isNull then .ok none
  else if v.callable then .ok (some v)
  else .error (.coercionNotCallable owner role)

/-- A scalar type. -/
def defineScalar (name onValue onLiteral description extensions : Value) : Except Fault TypeDef := do
  let owner ← checkName name
  let onValue ← coercionOf owner "parse_value" onValue
  let onLiteral ← coercionOf owner "parse_literal" onLiteral
  return definitionOf name owner description extensions (.scalar onValue onLiteral)

/-- An entry as an enum value: an enum value stays what it is, anything else becomes the value of one. -/
def enumValueOf (v : Value) : EnumValue :=
  match v with
  | .enumValue u => u
  | v => ⟨0, v, .null, .null⟩

/-- The pairs of names and values that enum values are given by: the members of an enumeration, a
mapping, or a collection of names that stand for themselves. -/
def Schema.enumEntries (s : Schema) (owner : String) (values : Value) : Traced (List (Value × Value)) := do
  let malformed : Fault := .enumValuesMalformed owner
  match values.attr "__members__" with
  | .ok members => do
    let pairs ← s.pairsIn members
    pairs.mapM fun (k, m) => do
      let v ← memberAttr m
      return (k, v)
  | .error f =>
    if f.cls ≠ .attribute then throw f else
    match values with
    | .str .. => throw malformed
    | .mapping es _ => texts malformed (pairsOf es)
    | v => do
      let names ← orMalformed malformed v.toList
      let es ← orMalformed malformed (mappingOf (names.map fun k => (k, k)))
      texts malformed (pairsOf es)
where
  /-- The value of a member. -/
  memberAttr (m : Value) : Traced Value :=
    match m with
    | .member .. => (memberConstant values m).attr "value"
    | m => s.attr m "value"
  /-- An operand that does not fit means that the values do not have the form of enum values. -/
  orMalformed {α : Type} (malformed : Fault) (t : Traced α) : Traced α :=
    try t catch f => throw (if f.cls = .type then malformed else f)
  /-- Pairs whose names must be texts. -/
  texts (malformed : Fault) (pairs : List (Value × Value)) : Traced (List (Value × Value)) :=
    if pairs.all fun (k, _) => k matches .str .. then return pairs else throw malformed

/-- Enum values by name. -/
def enumValuesOf : List (Value × Value) → Except Fault (List (String × EnumValue))
  | [] => return []
  | (k, v) :: es => do
    let name ← checkEnumValueName k
    let values ← enumValuesOf es
    return (name, enumValueOf v) :: values

/-- An enum type. -/
def Schema.defineEnum (s : Schema) (name values description extensions : Value) : Traced TypeDef := do
  let owner ← checkName name
  let entries ← s.enumEntries owner values
  let values ← enumValuesOf entries
  let ids : MapIds := { names := entries.map fun (k, _) => k.textId }
  return definitionOf name owner description extensions (.enum values ids)

/-- An input object type. Its fields are not looked at yet. -/
def defineInputObject (name fields description extensions : Value) : Except Fault TypeDef := do
  let owner ← checkName name
  return definitionOf name owner description extensions (.inputObject fields none {})

/-- A named type that defines nothing that a literal could be checked against. -/
def defineOther (name description extensions : Value) : Except Fault TypeDef := do
  let owner ← checkName name
  return definitionOf name owner description extensions .other

end QueryDefaults
