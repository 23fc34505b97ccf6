import QueryDefaults.Proofs.Literal
import QueryDefaults.Proofs.Sequence
import QueryDefaults.Types.Builtin

/-!
What scalars reject. The functions of a scalar may give anything and fail with anything. A failure rejects the
literal, with the message of an error of the library or without one (`Schema.Rejects`); the one failure that gets
out is that of asking an error of the library for a message that it does not have (`rejection?_fails_iff`).
-/

namespace QueryDefaults

/-! ### What a scalar rejects -/

/-- What the function of a scalar for literals makes of a literal. -/
def Schema.onLiteral (s : Schema) (n : NamedType) (v : Value) : Except Fault Value :=
  (do
    let onLiteral ← s.attr (.type (.named n)) "parse_literal"
    s.applyTo onLiteral v : Traced Value).result

/-- Whether a scalar rejects a literal with a message: with the one of an outcome that it gives, or of an
error of the library that it raises. Without an outcome and without such an error there is no message.
A failure counts as what it is once the value that it quotes has been described. -/
inductive Schema.Rejects (s : Schema) (n : NamedType) (v : Value) : Value → Prop where
  | outcome {message : Value} {i : Nat}
      (gives : s.onLiteral n v = .ok (.record .rejected [message] i)) : Rejects s n v message
  | undefined (gives : s.onLiteral n v = .ok .undefined) : Rejects s n v .null
  | library {f : Fault} {message : Value} (raises : s.onLiteral n v = .error f)
      (own : (f.settle s.called).cls = .graphql) (said : (f.settle s.called).said s.called = .ok message) :
      Rejects s n v message
  | failure {f : Fault} (raises : s.onLiteral n v = .error f)
      (foreign : (f.settle s.called).cls ≠ .graphql) : Rejects s n v .null

theorem outcomeOf_eq_rejected {r message : Value} (h : outcomeOf r = .rejected message) :
    (∃ i, r = .record .rejected [message] i) ∨ r = .undefined ∧ message = .null := by
  unfold outcomeOf at h
  split at h
  · cases h
  · cases h
    exact .inl ⟨_, rfl⟩
  · cases h
    exact .inr ⟨rfl, rfl⟩
  · cases h

/-- A result of a function of a scalar rejects only as an outcome that says so, or as undefined. -/
theorem outcomeRecord_rejected {r message : Value} (h : outcomeOf (outcomeRecord r) = .rejected message) :
    (∃ i, r = .record .rejected [message] i) ∨ r = .undefined ∧ message = .null := by
  unfold outcomeRecord at h
  split at h
  · exact outcomeOf_eq_rejected h
  · exact outcomeOf_eq_rejected h
  · cases h
    exact .inr ⟨rfl, rfl⟩
  · cases h

/-! ### The messages of failures -/

/-- An error of the library without a message: a caller derived its class, and the class did not set the message. -/
def Fault.IsMute (f : Fault) : Prop :=
  ∃ e : Exception, f = .thrown e ∧ e.kind = .graphql ∧ e.attrs.lookup "message" = none

section Rejection

variable {call : Value → Except Fault Value} {f : Fault}

/-- Every error of the library has a message but those that are mute. -/
theorem Fault.said_fails_iff (own : f.cls = .graphql) : (∃ g, f.said call = .error g) ↔ f.IsMute := by
  have attr (e : Exception) : e.attr "message" = e.own "message" := rfl
  constructor
  · rintro ⟨g, fails⟩
    unfold said at fails
    split at fails
    · cases fails
    · next e =>
      rw [attr, ExceptionOf.own] at fails
      cases told : e.attrs.lookup "message" with
      | none => exact ⟨e, rfl, own, told⟩
      | some m =>
        rw [told] at fails
        cases fails
    · split at fails <;> cases fails
  · rintro ⟨e, rfl, _, untold⟩
    refine ⟨.lacks (.exceptionOf e) "message", ?_⟩
    rw [said, attr, ExceptionOf.own, untold]

theorem Fault.IsMute.own (mute : f.IsMute) : f.cls = .graphql := by
  obtain ⟨e, rfl, own, _⟩ := mute
  exact own

/-- Nothing but an error without a message fails to reject. -/
theorem rejection?_fails_iff : (∃ g, rejection? call f = .error g) ↔ f.IsMute := by
  by_cases own : f.cls = .graphql
  · rw [← Fault.said_fails_iff own, rejection?, if_pos own]
    cases f.said call with
    | ok m => exact ⟨nofun, nofun⟩
    | error g => exact ⟨fun _ => ⟨g, rfl⟩, fun _ => ⟨g, rfl⟩⟩
  · rw [rejection?, if_neg own]
    exact ⟨nofun, fun mute => absurd mute.own own⟩

theorem rejection?_ends (spoken : ¬ f.IsMute) : ∃ m, rejection? call f = .ok m := by
  cases rejected : rejection? call f with
  | ok m => exact ⟨m, rfl⟩
  | error g => exact absurd (rejection?_fails_iff.1 ⟨g, rejected⟩) spoken

/-- Every error of the library rejects with a message, if it can be asked for it. -/
theorem rejection?_eq_none (h : rejection? call f = .ok none) : f.cls ≠ .graphql := by
  intro own
  rw [rejection?, if_pos own] at h
  cases said : f.said call with
  | ok m =>
    rw [said] at h
    cases h
  | error g =>
    rw [said] at h
    cases h

/-- Nothing but an error of the library has a message to reject with. -/
theorem rejection?_eq_some {message : Value} (h : rejection? call f = .ok (some message)) :
    f.cls = .graphql ∧ f.said call = .ok message := by
  rw [rejection?] at h
  split at h
  · next own =>
    refine ⟨own, ?_⟩
    cases said : f.said call with
    | ok m =>
      rw [said] at h
      cases h
      rfl
    | error g =>
      rw [said] at h
      cases h
  · cases h

end Rejection

/-! ### The message of a rejection -/

/-- What is coerced of a literal before failures count is the outcome of what the scalar makes of it. -/
theorem Schema.outcome_onLiteral (s : Schema) (n : NamedType) (v : Value) : (do
    let onLiteral ← s.attr (.type (.named n)) "parse_literal"
    let result ← s.applyTo onLiteral v
    return outcomeRecord result : Traced Value).result = (s.onLiteral n v).map outcomeRecord := by
  rw [Schema.onLiteral, Traced.result_bind, Traced.result_bind]
  cases (s.attr (.type (.named n)) "parse_literal").result with
  | error f => rfl
  | ok onLiteral => exact Traced.result_bind ..

/-- The message of a rejected literal is one that the scalar rejects it with. -/
theorem Schema.rejects_of_coerced {s : Schema} {n : NamedType} {v r message : Value}
    (coerced : (s.coerceLiteral (.type (.named n)) v).result = .ok r)
    (rejected : outcomeOf r = .rejected message) : s.Rejects n v message := by
  have result := s.outcome_onLiteral n v
  rw [coerceLiteral] at coerced
  cases given : s.onLiteral n v with
  | ok a =>
    rw [given] at result
    rw [Traced.result_tryCatch_ok result] at coerced
    cases coerced
    rcases outcomeRecord_rejected rejected with ⟨i, rfl⟩ | ⟨rfl, rfl⟩
    · exact .outcome given
    · exact .undefined given
  | error f =>
    rw [given] at result
    rw [Traced.result_tryCatch_error result, reject] at coerced
    obtain ⟨name, _, coerced⟩ := Traced.bind_result_ok coerced
    obtain ⟨printed, _, coerced⟩ := Traced.bind_result_ok coerced
    obtain ⟨m, said, coerced⟩ := Traced.bind_result_ok coerced
    cases m with
    | some m =>
      cases coerced
      cases rejected
      obtain ⟨own, said⟩ := rejection?_eq_some said
      exact .library given own said
    | none =>
      cases coerced
      cases rejected
      exact .failure given (rejection?_eq_none said)

/-! ### The built-in scalars -/

/-- A failure of an operation that the value at hand does not support. -/
def Fault.IsUnsupported (f : Fault) : Prop := ∃ c t, f = .unsupported c t

theorem Fault.IsUnsupported.not_mute {call : Value → Except Fault Value} {f : Fault} (h : f.IsUnsupported) :
    ¬ (f.settle call).IsMute := by
  obtain ⟨c, t, rfl⟩ := h
  rintro ⟨e, ⟨⟩, _⟩

section Builtin

variable {v : Value} {f : Fault}

theorem Double.truncate_fails {x : Double} (h : x.truncate = .error f) : f.IsUnsupported := by
  unfold Double.truncate at h
  split at h
  · cases h; exact ⟨_, _, rfl⟩
  · cases h; exact ⟨_, _, rfl⟩
  · split at h
    · cases h
    · cases h; exact ⟨_, _, rfl⟩

theorem Value.toInt_fails (h : v.toInt = .error f) : f.IsUnsupported := by
  unfold toInt at h
  split at h
  · cases h
  · cases h
  · exact Double.truncate_fails h
  · split at h
    · cases h
    · cases h; exact ⟨_, _, rfl⟩
  · cases h; exact ⟨_, _, rfl⟩
  · cases h; exact ⟨_, _, rfl⟩

theorem map_fails {α β : Type} {g : α → β} {x : Except Fault α} (h : x.map g = .error f) : x = .error f := by
  cases x with
  | ok a => cases h
  | error e => exact congrArg Except.error (Except.error.inj h)

theorem Value.asInt_fails (h : v.asInt = .error f) : f.IsUnsupported := by
  unfold asInt at h
  split at h
  · cases h
  · exact toInt_fails (map_fails h)

theorem Value.toDouble_fails (h : v.toDouble = .error f) : f.IsUnsupported := by
  unfold toDouble at h
  split at h
  · cases h
  · unfold Double.ofInt? at h
    split at h
    · cases h; exact ⟨_, _, rfl⟩
    · cases h
  · cases h
  · split at h
    · cases h
    · cases h; exact ⟨_, _, rfl⟩
  · cases h; exact ⟨_, _, rfl⟩
  · cases h; exact ⟨_, _, rfl⟩

theorem Value.asDouble_fails (h : v.asDouble = .error f) : f.IsUnsupported := by
  unfold asDouble at h
  split at h
  · cases h
  · exact toDouble_fails (map_fails h)

theorem NodeOf.attr_fails {n : Node} {name : String} (h : n.attr name = .error f) : f.IsUnsupported := by
  unfold NodeOf.attr at h
  split at h
  · cases h
  · cases h
    unfold NodeOf.lack
    split
    · exact ⟨_, _, rfl⟩
    · exact ⟨_, _, rfl⟩

/-- What reads the stored values of literals fails only where it does so for what is stored. -/
theorem literalOf_fails {kinds : List Kind} {g : Coerce} (each : ∀ w, g w = .error f → f.IsUnsupported)
    (h : literalOf kinds g v = .error f) : f.IsUnsupported := by
  rw [literalOf] at h
  cases stored : storedValue kinds v with
  | ok w =>
    rw [stored, ok_bind] at h
    cases w with
    | none => cases h
    | some w => exact each w h
  | error e =>
    rw [stored] at h
    obtain rfl : e = f := Except.error.inj h
    unfold storedValue at stored
    split at stored
    · split at stored
      · exact NodeOf.attr_fails (map_fails stored)
      · cases stored
    · cases stored

theorem Scalar.intLiteral_fails : Scalar.intLiteral v = .error f → f.IsUnsupported := by
  refine literalOf_fails fun w h => ?_
  cases read : w.toInt with
  | error e =>
    rw [read] at h
    obtain rfl : e = f := Except.error.inj h
    exact Value.toInt_fails read
  | ok n =>
    rw [read, ok_bind] at h
    split at h
    · exact Value.asInt_fails h
    · cases h

theorem Scalar.floatLiteral_fails : Scalar.floatLiteral v = .error f → f.IsUnsupported :=
  literalOf_fails fun _ => Value.asDouble_fails

/-- A function that gives what is stored of a literal of some kinds fails only if nothing is stored. -/
theorem Scalar.storedLiteral_fails {kinds : List Kind} : literalOf kinds .ok v = .error f → f.IsUnsupported :=
  literalOf_fails fun _ => nofun

end Builtin

namespace Schema

variable {s : Schema} {rest : List TypeDef}

theorem onLiteral_builtin {n : NamedType} {index : Nat} {name description : String}
    {onValue onLiteral : BuiltinFunction}
    (defined : s.def? n = some (builtinScalar index name description onValue onLiteral)) (v : Value) :
    s.onLiteral n v = onLiteral.coerce v := by
  have found : (s.attr (.type (.named n)) "parse_literal").result = .ok (.builtin onLiteral) := by
    rw [Schema.attr, Schema.typeAttr, defined]
    rfl
  rw [Schema.onLiteral, Traced.result_bind_ok found]
  rfl

/-- Whether the definitions of a schema begin with those of the built-in scalars. -/
def HasBuiltins (s : Schema) : Prop := ∀ (i : Nat) (d : TypeDef), builtinDefs[i]? = some d → s.defs[i]? = some d

theorem hasBuiltins_append (defs : s.defs = builtinDefs ++ rest) : s.HasBuiltins := by
  intro i d there
  rw [defs, List.getElem?_append_left (List.getElem?_eq_some_iff.1 there).1, there]

theorem def?_builtin (defs : s.defs = builtinDefs ++ rest) {n : NamedType} {d : TypeDef}
    (there : builtinDefs[n.id]? = some d) : s.def? n = some d := hasBuiltins_append defs _ _ there

/-- No built-in scalar raises an error of the library when it is given a literal. -/
theorem onLiteral_builtin_fails (builtins : s.HasBuiltins) {n : NamedType} (hn : n ∈ builtinTypes)
    {v : Value} {f : Fault} (fails : s.onLiteral n v = .error f) : f.IsUnsupported := by
  simp only [builtinTypes, builtinDefs, List.zipIdx, List.map_cons, List.map_nil, List.mem_cons,
    List.not_mem_nil, or_false] at hn
  rcases hn with rfl | rfl | rfl | rfl | rfl
  · have same := onLiteral_builtin (n := ⟨0, "String", .scalar, constant⟩) (builtins _ _ rfl) v
    exact Scalar.storedLiteral_fails (same.symm.trans fails)
  · have same := onLiteral_builtin (n := ⟨1, "Int", .scalar, constant⟩) (builtins _ _ rfl) v
    exact Scalar.intLiteral_fails (same.symm.trans fails)
  · have same := onLiteral_builtin (n := ⟨2, "Float", .scalar, constant⟩) (builtins _ _ rfl) v
    exact Scalar.floatLiteral_fails (same.symm.trans fails)
  · have same := onLiteral_builtin (n := ⟨3, "Boolean", .scalar, constant⟩) (builtins _ _ rfl) v
    exact Scalar.storedLiteral_fails (same.symm.trans fails)
  · have same := onLiteral_builtin (n := ⟨4, "ID", .scalar, constant⟩) (builtins _ _ rfl) v
    exact Scalar.storedLiteral_fails (same.symm.trans fails)

end Schema

end QueryDefaults
