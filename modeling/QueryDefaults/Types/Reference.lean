import QueryDefaults.Types.Registry
import QueryDefaults.Value.Attribute

/-!
Type references. A reference names a type of a registry below lists and non-nulls; it resolves to the
type that is written the same way, or to nothing if the registry has no type of that name.
-/

namespace QueryDefaults

/-- What a registry has for a key: a type, or `null`. Another object may have a function that looks keys
up. -/
def Schema.lookup (s : Schema) (registry key : Value) : Traced Value :=
  match registry with
  | .registry types .. => do
    match ← registeredAt types key with
    | some n => return .type (.named n)
    | none => return .null
  | v => do
    let f ← s.attr v "get_type"
    s.applyTo f key

/-- The type that a reference stands for, or `null`. -/
def Schema.resolve (s : Schema) (registry v : Value) : Traced Value :=
  match v with
  | .node n =>
    match n.kind.library with
    | .listType => do
      let ⟨of, _⟩ ← n.part "type"
      let inner ← s.resolve registry of
      if inner.truthy then
        let t ← listOf inner
        return .type t
      else return .null
    | .nonNullType => do
      let ⟨of, _⟩ ← n.part "type"
      let inner ← s.resolve registry of
      if inner.truthy then
        let t ← nonNullOf inner
        return .type t
      else return .null
    | .namedType => do
      let name ← v.nameValue
      s.lookup registry name
    | _ => throw (.refused .reference v)
  | _ => throw (.refused .reference v)
termination_by v.height
decreasing_by
  all_goals simp only [Value.height_node]
  all_goals omega

/-- The named reference below lists and non-nulls, or below anything else that has a type. -/
def Value.namedReference (v : Value) : Except Fault Value :=
  if v.isA .namedType then return v else do
    let ⟨of, _⟩ ← v.part "type"
    of.namedReference
termination_by v.height

end QueryDefaults
