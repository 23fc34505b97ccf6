import QueryDefaults.Proofs.Formatted

/-!
Registries with more types. A registry extends another one if it has all of its types, each under the name
that it has there (`Extends`). What is found at a variable depends on the registry through the type of its
reference alone, so the diagnostics that are met before a type is missing are met with more types as well
(`met_grows`), and only where a missing type has been added the survey goes on (`surveyed_extended`). A
validation that is not fatal therefore comes to the same with every larger registry, whatever the limit of
errors, and one that is fatal stays so unless the name that is missing has been added
(`Schema.validate_extended`).
-/

namespace QueryDefaults

/-- Whether a registry has all types of another one under the names that they have there. -/
def Extends (types more : List NamedType) : Prop :=
  ∀ name n, registered? types name = some n → registered? more name = some n

/-- Types that are added behind those that are there extend them. -/
theorem extends_append (types more : List NamedType) : Extends types (types ++ more) := by
  intro name n found
  rw [registered?] at found ⊢
  rw [List.find?_append, found, Option.some_or]

/-! ### What is found with more types -/

section Found

variable {s : Schema} {types more : List NamedType} {x : Variable}

/-- A reference that stands for a type stands for the same one with more types. -/
theorem Extends.type? (h : Extends types more) :
    ∀ {r : TypeRef} {t : Ty}, r.type? types = some t → r.type? more = some t
  | .named name, t, stands => by
    obtain ⟨n, found, rfl⟩ := Option.map_eq_some_iff.1 stands
    exact Option.map_eq_some_iff.2 ⟨n, h name n found, rfl⟩
  | .list r, t, stands => by
    obtain ⟨u, found, rfl⟩ := Option.map_eq_some_iff.1 stands
    exact Option.map_eq_some_iff.2 ⟨u, h.type? found, rfl⟩
  | .nonNull r, t, stands => by
    obtain ⟨u, found, rfl⟩ := Option.map_eq_some_iff.1 stands
    exact Option.map_eq_some_iff.2 ⟨u, h.type? found, rfl⟩

/-- At a variable whose type is not registered just this is found. -/
theorem Variable.finding_of_undefined (undefined : x.isUndefined types = true) :
    x.finding s types = .undefined x.undefinedError := by
  rw [finding, TypeRef.type?_eq_none.2 (Option.isNone_iff_eq_none.1 undefined)]

/-- At a variable whose type is registered the same is found with more types. -/
theorem Extends.finding (h : Extends types more) (defined : x.isUndefined types = false) :
    x.finding s more = x.finding s types := by
  cases stands : x.type.type? types with
  | none =>
    rw [Variable.isUndefined, TypeRef.type?_eq_none.1 stands] at defined
    cases defined
  | some t => rw [Variable.finding, Variable.finding, h.type? stands, stands]

/-- A type that is found to be missing is not registered. -/
theorem Variable.undefined_of_finding {e : GraphQLError} (h : x.finding s types = .undefined e) :
    x.isUndefined types = true := by
  cases stands : x.type.type? types with
  | none => rw [isUndefined, TypeRef.type?_eq_none.1 stands, Option.isNone_none]
  | some t =>
    rw [finding, stands] at h
    cases default : x.default with
    | none =>
      rw [default] at h
      cases h
    | some v =>
      rw [default] at h
      simp only at h
      split at h
      · cases h
      · split at h <;> cases h

theorem Variable.ends_of_undefined (undefined : x.isUndefined types = true) : x.ends s types = true := by
  rw [ends, finding_of_undefined undefined]

theorem Variable.defined_of_going (going : x.ends s types = false) : x.isUndefined types = false := by
  cases undefined : x.isUndefined types with
  | false => rfl
  | true =>
    rw [ends_of_undefined undefined] at going
    cases going

theorem Extends.ends (h : Extends types more) (defined : x.isUndefined types = false) :
    x.ends s more = x.ends s types := by
  rw [Variable.ends, Variable.ends, h.finding defined]

theorem Extends.diagnosis? (h : Extends types more) (defined : x.isUndefined types = false) :
    x.diagnosis? s more = x.diagnosis? s types := by
  rw [Variable.diagnosis?, Variable.diagnosis?, h.finding defined]

end Found

/-! ### Surveys with more types -/

section Surveys

variable {s : Schema} {types more : List NamedType}

/-- The diagnostics of the variables that a survey goes through are the same with more types. -/
theorem Extends.diagnoses_surveyed (h : Extends types more) (xs : List Variable) :
    diagnoses s more (surveyed s types xs) = diagnoses s types (surveyed s types xs) := by
  refine List.filterMap_congr fun x hx => ?_
  have going : x.ends s types = false := by simpa using List.mem_takeWhile_imp hx
  rw [h.diagnosis? (Variable.defined_of_going going)]

/-- A survey goes at least as far with more types. -/
theorem surveyed_grows (h : Extends types more) :
    ∀ xs : List Variable, surveyed s types xs <+: surveyed s more xs
  | [] => List.prefix_rfl
  | x :: xs => by
    rw [surveyed, surveyed, List.takeWhile_cons, List.takeWhile_cons]
    cases going : x.ends s types with
    | true => exact List.nil_prefix
    | false =>
      rw [h.ends (Variable.defined_of_going going), going]
      exact List.cons_prefix_cons.2 ⟨rfl, surveyed_grows h xs⟩

/-- With more types at least the same diagnostics are met, and in the same order. -/
theorem met_grows (h : Extends types more) (os : List Signature) : met s types os <+: met s more os := by
  rw [met, ← h.diagnoses_surveyed]
  exact (surveyed_grows h _).filterMap _

/-- Unless a survey ends at a missing type that has been added, it ends at the same variable with more types,
and comes to the same there. -/
theorem surveyed_extended (h : Extends types more) :
    ∀ {xs : List Variable}, (∀ x, xs.find? (·.ends s types) = some x → x.isUndefined types = true →
        x.isUndefined more = true) →
      surveyed s more xs = surveyed s types xs ∧
        ∀ c, final s more c (xs.find? (·.ends s more)) = final s types c (xs.find? (·.ends s types))
  | [], _ => ⟨rfl, fun _ => rfl⟩
  | x :: xs, missing => by
    have same : x.finding s more = x.finding s types := by
      cases undefined : x.isUndefined types with
      | false => exact h.finding undefined
      | true =>
        have ended := Variable.ends_of_undefined (s := s) undefined
        have still := missing x (List.find?_cons_of_pos ended) undefined
        rw [Variable.finding_of_undefined still, Variable.finding_of_undefined undefined]
    have ends : x.ends s more = x.ends s types := by rw [Variable.ends, Variable.ends, same]
    rw [surveyed, surveyed, List.takeWhile_cons, List.takeWhile_cons, List.find?_cons, List.find?_cons, ends]
    cases going : x.ends s types with
    | true => exact ⟨rfl, fun c => congrArg (Finding.enter c) same⟩
    | false =>
      obtain ⟨before, after⟩ := @surveyed_extended h xs fun y first =>
        missing y (by rw [List.find?_cons, going, first])
      exact ⟨congrArg (x :: ·) before, after⟩

/-- The same diagnostics are met, unless the survey ends at a missing type that has been added. -/
theorem met_extended (h : Extends types more) {os : List Signature}
    (missing : ∀ x, (variablesOf s.next os).find? (·.ends s types) = some x → x.isUndefined types = true →
      x.isUndefined more = true) : met s more os = met s types os := by
  rw [met, (surveyed_extended h missing).1]
  exact h.diagnoses_surveyed _

end Surveys

/-! ### Validations with more types -/

/-- A survey that ends at a missing type ends at the first one. -/
theorem find?_undefined {s : Schema} {types : List NamedType} {xs : List Variable} {x : Variable}
    (first : xs.find? (·.ends s types) = some x) (undefined : x.isUndefined types = true) :
    xs.find? (·.isUndefined types) = some x := by
  obtain ⟨_, before, after, rfl, going⟩ := List.find?_eq_some_iff_append.1 first
  refine List.find?_eq_some_iff_append.2 ⟨undefined, before, after, rfl, fun y hy => ?_⟩
  have defined := Variable.defined_of_going (by simpa using going y hy)
  rw [defined, Bool.not_false]

/-- Whether a validation gives a fatal result. -/
def IsFatal (r : Except Fault Value) : Prop := ∃ errors e, r = .ok (resultOf errors (.error e))

section Validations

variable {s : Schema} {types more : List NamedType} {document : Value} {os : List Signature}
  {mapId id : Nat}

/-- A validation without a limit is fatal if its survey ends at a missing type. -/
theorem Schema.validate_missing (doc : document.IsDocument os) {x : Variable}
    (first : (variablesOf s.next os).find? (·.ends s types) = some x) (undefined : x.isUndefined types = true) :
    IsFatal (s.validate (.registry types mapId id) document .null).result := by
  rw [validate_unlimited doc, first, final, Variable.finding_of_undefined undefined]
  exact ⟨[], x.undefinedError, rfl⟩

/-- A validation without a limit is fatal only if its survey ends at a missing type, and this is what the
fatal error is about. -/
theorem Schema.validate_fatal (doc : document.IsDocument os) {errors : List Value} {e : GraphQLError}
    (h : (s.validate (.registry types mapId id) document .null).result = .ok (resultOf errors (.error e))) :
    ∃ x, (variablesOf s.next os).find? (·.ends s types) = some x ∧ x.isUndefined types = true ∧
      errors = [] ∧ e = x.undefinedError := by
  rw [validate_unlimited doc] at h
  cases first : (variablesOf s.next os).find? (·.ends s types) with
  | none =>
    rw [first] at h
    cases h
  | some x =>
    rw [first, final] at h
    rcases Variable.ends_cases (List.find?_some first) with ⟨e', found⟩ | ⟨f, found⟩
    · obtain rfl := Variable.finding_undefined found
      rw [found] at h
      cases h
      exact ⟨x, rfl, Variable.undefined_of_finding found, rfl, rfl⟩
    · rw [found] at h
      cases f <;> cases h

/-- A validation without a limit comes to the same with more types, unless it ends at a missing type that has
been added. -/
theorem Schema.validate_unlimited_extended (h : Extends types more) (doc : document.IsDocument os)
    (mapId' id' : Nat)
    (missing : ∀ x, (variablesOf s.next os).find? (·.ends s types) = some x → x.isUndefined types = true →
      x.isUndefined more = true) :
    (s.validate (.registry more mapId' id') document .null).result =
      (s.validate (.registry types mapId id) document .null).result := by
  obtain ⟨_, ended⟩ := surveyed_extended h missing
  have same := met_extended h missing
  rw [met, met] at same
  rw [validate_unlimited doc, validate_unlimited doc, ended, same]
  exact @closing_final s types
    ((Context.begin (.registry more mapId' id') document none).keeping (met s types os))
    ((Context.begin (.registry types mapId id) document none).keeping (met s types os)) rfl rfl _

/-- A limit that is none lets a validation fail before it looks at a registry. -/
theorem Schema.validate_refused (doc : document.IsDocument os) {limit : Value} {f : Fault}
    (refused : errorLimit limit = .error f) :
    (s.validate (.registry types mapId id) document limit).result = .error f := by
  cases doc with
  | mk kind =>
    rw [validate, validationContext, if_neg (by rw [kind.isA]; decide), refused]
    rfl

/-- With a limit a validation is fatal only if it is so without one, and gives the same then. -/
theorem Schema.validate_fatal_unlimited (doc : document.IsDocument os) {limit : Value} {errors : List Value}
    {e : GraphQLError} (h : (s.validate (.registry types mapId id) document limit).result =
      .ok (resultOf errors (.error e))) :
    (s.validate (.registry types mapId id) document .null).result = .ok (resultOf errors (.error e)) := by
  rcases errorLimit_of_validate doc h with rfl | ⟨m, i, rfl⟩
  · exact h
  · rcases Nat.lt_or_ge m.toNat (met s types os).length with more | fits
    · rw [validate_beyond doc more] at h
      cases h
    · rw [← validate_within doc fits]
      exact h

/-- A validation that is not fatal comes to the same result or failure with every registry that extends the one
that it is made with, whatever the limit; it is enough that it is not fatal without a limit. One that is
fatal is so because of the first variable with a missing type; with a registry that extends the one and
without a limit it is fatal with the same error, unless a type of the missing name has been added. -/
theorem Schema.validate_extended (h : Extends types more) (doc : document.IsDocument os)
    (mapId id mapId' id' : Nat) (limit : Value) :
    (¬ IsFatal (s.validate (.registry types mapId id) document limit).result ∨
        ¬ IsFatal (s.validate (.registry types mapId id) document .null).result →
      (s.validate (.registry more mapId' id') document limit).result =
        (s.validate (.registry types mapId id) document limit).result) ∧
    ∀ errors e, (s.validate (.registry types mapId id) document limit).result =
        .ok (resultOf errors (.error e)) →
      ∃ x, (variablesOf s.next os).find? (·.isUndefined types) = some x ∧ e = x.undefinedError ∧
        ((s.validate (.registry more mapId' id') document .null).result = .ok (resultOf errors (.error e)) ∨
          ∃ n, registered? more x.type.name = some n) := by
  have added (notFatal : ¬ IsFatal (s.validate (.registry types mapId id) document .null).result) (x : Variable)
      (first : (variablesOf s.next os).find? (·.ends s types) = some x)
      (undefined : x.isUndefined types = true) : x.isUndefined more = true :=
    absurd (validate_missing doc first undefined) notFatal
  constructor
  · intro notFatal
    cases limit with
    | null =>
      rw [or_self] at notFatal
      exact validate_unlimited_extended h doc mapId' id' (added notFatal)
    | int m i =>
      rcases Nat.lt_or_ge m.toNat (met s types os).length with beyond | fits
      · obtain ⟨rest, extended⟩ := met_grows (s := s) h os
        have beyond' : m.toNat < (met s more os).length := by
          rw [← extended, List.length_append]
          omega
        rw [validate_beyond doc beyond, validate_beyond doc beyond', ← extended,
          List.take_append_of_le_length (Nat.le_of_lt beyond)]
      · rw [validate_within doc fits, or_self] at notFatal
        have fits' : (met s more os).length ≤ m.toNat := by
          rw [met_extended h (added notFatal)]
          exact fits
        rw [validate_within doc fits, validate_within doc fits']
        exact validate_unlimited_extended h doc mapId' id' (added notFatal)
    | _ => rw [validate_refused doc rfl, validate_refused doc rfl]
  · intro errors e fatal
    have unlimited := validate_fatal_unlimited doc fatal
    obtain ⟨x, first, undefined, _, rfl⟩ := validate_fatal doc unlimited
    refine ⟨x, find?_undefined first undefined, rfl, ?_⟩
    cases still : x.isUndefined more with
    | true =>
      refine .inl ((validate_unlimited_extended h doc mapId' id' fun y ended _ => ?_).trans unlimited)
      obtain rfl := Option.some.inj (first.symm.trans ended)
      exact still
    | false => exact .inr (Option.isSome_iff_exists.1 (Option.isNone_eq_false_iff.1 still))

end Validations

/-- Without the tree among the types the query for labels is not fatal, and comes to the same with it; the
query for trees is fatal, because of the tree. -/
theorem validate_extended_trees :
    ¬ IsFatal (treeSchema.validate (.registry builtinTypes) (documentNode labelOperations) .null).result ∧
    (treeSchema.validate (.registry treeTypes) (documentNode labelOperations) (.int 0)).result =
      (treeSchema.validate (.registry builtinTypes) (documentNode labelOperations) (.int 0)).result ∧
    ∃ x, (variablesOf treeSchema.next treeOperations).find? (·.isUndefined builtinTypes) = some x ∧
      x.type.name = "Tree" ∧
      ((treeSchema.validate (.registry treeTypes) (documentNode treeOperations) .null).result =
          .ok (resultOf [] (.error x.undefinedError)) ∨
        ∃ n, registered? treeTypes x.type.name = some n) := by
  have larger : Extends builtinTypes treeTypes := extends_append _ [objectType "Tree"]
  have labels : ¬ IsFatal
      (treeSchema.validate (.registry builtinTypes) (documentNode labelOperations) .null).result := by
    rintro ⟨errors, e, fatal⟩
    obtain ⟨x, first, undefined, _⟩ := Schema.validate_fatal labelOperations_isDocument fatal
    cases find?_undefined first undefined
  have document := documentNode_isDocument treeOperations_sound
  obtain ⟨x, first, missing, tree⟩ : ∃ x,
      (variablesOf treeSchema.next treeOperations).find? (·.ends treeSchema builtinTypes) = some x ∧
      x.isUndefined builtinTypes = true ∧ x.type.name = "Tree" := ⟨_, rfl, rfl, rfl⟩
  obtain ⟨errors, e, fatal⟩ := @Schema.validate_missing treeSchema builtinTypes _ _ 0 0 document x first missing
  refine ⟨labels, (Schema.validate_extended larger labelOperations_isDocument 0 0 0 0 _).1 (.inr labels), ?_⟩
  obtain ⟨y, undefined, rfl, still⟩ :=
    (Schema.validate_extended larger document 0 0 0 0 _).2 errors e fatal
  obtain rfl := Option.some.inj ((find?_undefined first missing).symm.trans undefined)
  obtain ⟨_, _, _, rfl, _⟩ := Schema.validate_fatal document fatal
  exact ⟨x, undefined, tree, still⟩

end QueryDefaults
