import QueryDefaults.Value.Attribute
import QueryDefaults.Value.Digest
import QueryDefaults.Value.Inspect
import QueryDefaults.Value.Json

/-!
The texts of value literals and type references. Numerals, enum values and names stand as they are
stored, strings as JSON strings; lists and objects are written on one line. What is written depends on
the kind that a node goes by.
-/

namespace QueryDefaults

/-- The text of a value literal, a type reference or one of their parts. A numeral or a name that is
stored as something other than a text is given as it is. -/
def Value.print (v : Value) : Except Fault Value :=
  match v with
  | .node n => do
    match ← n.role with
    | some .name | some .intValue | some .floatValue | some .enumValue => n.attr "value"
    | some .variableUse => do
      let name ← v.nameValue
      let text ← name.display
      return .str ("$" ++ text)
    | some .stringValue => do
      let value ← n.attr "value"
      let text ← value.json
      return .str text
    | some .booleanValue => do
      let value ← n.attr "value"
      return .word (if value.truthy then "true" else "false")
    | some .nullValue => return .word "null"
    | some .listValue => do
      let ⟨values, _⟩ ← n.part "values"
      let items ← values.items
      let texts ← items.mapM fun ⟨item, _⟩ => item.print
      let texts ← textsOf texts
      return .str ("[" ++ Value.commas texts ++ "]")
    | some .objectValue => do
      let ⟨fields, _⟩ ← n.part "fields"
      let items ← fields.items
      let texts ← items.mapM fun ⟨item, _⟩ => item.print
      let texts ← textsOf texts
      return .str ("\x7b" ++ Value.commas texts ++ "\x7d")
    | some .objectField => do
      let name ← v.nameValue
      let label ← name.display
      let ⟨value, _⟩ ← n.part "value"
      let printed ← value.print
      let text ← printed.display
      return .str (label ++ ": " ++ text)
    | some .namedType => v.nameValue
    | some .listType => do
      let ⟨of, _⟩ ← n.part "type"
      let printed ← of.print
      let text ← printed.display
      return .str ("[" ++ text ++ "]")
    | some .nonNullType => do
      let ⟨of, _⟩ ← n.part "type"
      let printed ← of.print
      let text ← printed.display
      return .str (text ++ "!")
    | _ => do
      let shown ← v.repr
      throw (.notPrintable shown)
  | v => do
    let shown ← v.repr
    throw (.notPrintable shown)
termination_by v.height
decreasing_by
  all_goals simp only [height_node]
  all_goals omega

end QueryDefaults
