import QueryDefaults.Literal.Coercion
import QueryDefaults.Value.Mapping

/-!
Whether a literal conforms to an input type. `check` goes down the literal and the type together and
gives the first part that does not conform: items in order; in an object first the unknown fields in
the order of the literal, then the declared fields in the order of the type, the last of several
entries with one name counting.
-/

namespace QueryDefaults

/-- Why a literal does not conform: the part of it that fails, the reason, and the message that a
scalar rejected it with, if any. -/
structure InvalidLiteral where
  node : Value
  reason : String
  message : Value := .null

/-- A failed check as a record. -/
def InvalidLiteral.toValue (i : InvalidLiteral) : Value :=
  .record .invalidLiteral [i.node, .str i.reason, i.message]

/-- The result of a check: nothing if the literal conforms. -/
abbrev Verdict := Option InvalidLiteral

/-- The first failure among checks. -/
def firstInvalid {α : Type} (f : α → Traced Verdict) : List α → Traced Verdict
  | [] => return none
  | x :: xs => do
    match ← f x with
    | some invalid => return some invalid
    | none => firstInvalid f xs

/-- A literal of the wrong kind for a type. -/
def mismatch (literal : Value) (t : Ty) : Except Fault Verdict := do
  let printed ← literal.print
  let found ← printed.display
  return some ⟨literal, sentence ["Expected value of type '", t.text, "', found ", found, "."], .null⟩

/-- A variable where a constant is expected. -/
def unexpectedVariable (literal : Value) : Except Fault Verdict := do
  let printed ← literal.print
  let found ← printed.display
  return some ⟨literal, sentence ["Unexpected variable ", found, " in constant value."], .null⟩

/-- A null for a type: only nullable types have it. -/
def nullFor (literal : Value) (t : Ty) : Verdict :=
  if t.isNonNull then
    some ⟨literal, sentence ["Expected value of non-null type '", t.text, "', found null."], .null⟩
  else none

/-- A literal for an enum type. -/
def checkEnum (owner : NamedType) (values : List (String × EnumValue)) (literal : Value) :
    Traced Verdict := do
  if literal.isA .enumValue then
    let value ← literal.attr "value"
    let _ ← Traced.keyDigest value
    let known := match value with
      | .str name _ => (values.lookup name).isSome
      | _ => false
    if known then return none
    let shown ← value.display
    return some ⟨literal, sentence ["Value '", shown, "' does not exist in '", owner.name, "' enum."], .null⟩
  else
    let printed ← literal.print
    let found ← printed.display
    return some ⟨literal,
      sentence ["Enum '", owner.name, "' cannot represent non-enum value: ", found, "."], .null⟩

/-- A literal for a scalar type. -/
def Schema.checkScalar (s : Schema) (scalar : NamedType) (literal : Value) : Traced Verdict := do
  match outcomeOf (← s.coerceLiteral (.type (.named scalar)) literal) with
  | .accepted _ => return none
  | .rejected message =>
    let printed ← literal.print
    let found ← printed.display
    return some ⟨literal,
      sentence ["Expected value of type '", scalar.name, "', found ", found, "."], message⟩

/-- The first entry of an object literal whose name is not that of a declared field. -/
def unknownField (owner : NamedType) (fields : List (String × InputField)) :
    List Value → Traced Verdict
  | [] => return none
  | entry :: entries => do
    let name ← entry.nameValue
    let _ ← Traced.keyDigest name
    let known := match name with
      | .str k _ => (fields.lookup k).isSome
      | _ => false
    if known then unknownField owner fields entries else
      let value ← entry.attr "value"
      let shown ← name.display
      return some ⟨value, sentence ["Field '", shown, "' is not defined by type '", owner.name, "'."], .null⟩

/-- A required field that an object literal does not have. -/
def missingField (owner : NamedType) (name : String) (field : InputField) (literal : Value) : Verdict :=
  if field.isRequired then
    some ⟨literal, sentence ["Field '", owner.name, ".", name, "' of required type '", field.type.text,
      "' was not provided."], .null⟩
  else none

/-- The last entry of a name. -/
def lastNamed? {p : Value → Prop} (name : String) (entries : List { v : Value // p v }) :
    Option { v : Value // p v } :=
  entries.reverse.find? fun e =>
    match e.val.nameValue with
    | .ok (.str k _) => k == name
    | _ => false

/-- Checks a literal against an input type. -/
def Schema.check (s : Schema) (literal : Value) (t : Ty) : Traced Verdict :=
  if literal.isA .variableUse then unexpectedVariable literal
  else if literal.isA .nullValue then return nullFor literal t
  else
    match t.core with
    | .list item _ =>
      if literal.isA .listValue then do
        let ⟨values, _⟩ ← literal.part "values"
        let items ← values.items
        firstInvalid (fun ⟨v, _⟩ => s.check v item) items
      else mismatch literal t.core
    | .named n =>
      match n.sort with
      | .inputObject =>
        if literal.isA .objectValue then do
          let declared ← s.fields n
          let ⟨fields, _⟩ ← literal.part "fields"
          let entries ← fields.items
          match ← unknownField n declared (entries.map (·.val)) with
          | some invalid => return some invalid
          | none =>
            firstInvalid (fun (name, field) =>
              match lastNamed? name entries with
              | none => return missingField n name field literal
              | some ⟨entry, _⟩ => do
                let ⟨value, _⟩ ← entry.part "value"
                s.check value field.type) declared
        else mismatch literal t.core
      | .enum => checkEnum n (s.enumValues n) literal
      | .scalar => s.checkScalar n literal
      | .other => throw (.refused .checkedType (.type t.core))
    | core => throw (.refused .checkedType (.type core))
termination_by literal.height

/-- Checks a literal against a value that should be an input type. -/
def Schema.checkValue (s : Schema) (literal type : Value) : Traced Verdict :=
  match type with
  | .type t => s.check literal t
  | v =>
    if literal.isA .variableUse then unexpectedVariable literal
    else if literal.isA .nullValue then return none
    else throw (.refused .checkedType v)

end QueryDefaults
