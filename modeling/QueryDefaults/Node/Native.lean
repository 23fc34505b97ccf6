import QueryDefaults.Trace
import QueryDefaults.Value.Attribute
import QueryDefaults.Value.Convert

/-!
The native value that a literal spells: numbers for numerals, texts for strings and enum values, lists
and mappings for lists and objects. A numeral that cannot be read is not a number. A variable has no
native value. What is spelled depends on the kind that a node goes by; no other object goes by the kind of a
literal.
-/

namespace QueryDefaults

/-- A numeral that cannot be read is not a number; other failures stay. -/
def orNaN (r : Except Fault Value) : Except Fault Value :=
  match r with
  | .error (.unsupported .value _) => .ok .notANumber
  | r => r

/-- The native value of a literal, without regard to a type. -/
def Value.native (v : Value) : Traced Value :=
  match v with
  | .node n => do
    match ← n.role with
    | some .nullValue => return .null
    | some .intValue => do
      let value ← n.attr "value"
      orNaN value.asInt
    | some .floatValue => do
      let value ← n.attr "value"
      orNaN value.asDouble
    | some .stringValue | some .enumValue | some .booleanValue => n.attr "value"
    | some .listValue => do
      let ⟨values, _⟩ ← n.part "values"
      let items ← values.items
      let natives ← items.mapM fun ⟨item, _⟩ => item.native
      return .list natives
    | some .objectValue => do
      let ⟨fields, _⟩ ← n.part "fields"
      let items ← fields.items
      let entries ← items.foldlM (fun es ⟨field, _⟩ => do
        let key ← field.nameValue
        let ⟨value, _⟩ ← field.part "value"
        let native ← value.native
        let digest ← Traced.keyDigest key
        putAt digest key native es) []
      return .mapping entries
    | _ => throw (.refused .literal v)
  | v => do
    let kind ← v.attr "kind"
    let _ ← Traced.keyDigest kind
    throw (.refused .literal v)
termination_by v.height
decreasing_by
  all_goals simp only [height_node] at *
  all_goals omega

end QueryDefaults
