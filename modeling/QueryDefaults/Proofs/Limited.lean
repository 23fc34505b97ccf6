import QueryDefaults.Proofs.Diagnoses

/-!
Limits of errors. With a limit a survey reports the same diagnostics in the same order, only that the
first one beyond the limit is replaced by a notice and ends the validation. As long as they fit, a
validation with a limit and one without come to the same; once they do not, nothing that follows counts,
not even a fatal error. A limit below zero leaves as much room as zero.
-/

namespace QueryDefaults

/-! ### Reports up to a limit -/

theorem ContextOf.isFull_iff {c : Context} (own : c.handedId = 0) {limit : Int} :
    c.isFull (some limit) = true ↔ limit ≤ c.reported.length := by
  rw [isFull, receiving, if_pos own, decide_eq_true_iff]

/-- Errors are kept as long as there is room for them; the first one beyond the limit gives a notice. -/
theorem ContextOf.reportAll_limited {limit : Int} : ∀ {c : Context}, c.sink = .handOn (some limit) →
    c.handedId = 0 → c.reported.length ≤ limit.toNat → ∀ es : List Value,
      c.reportAll es =
        if c.reported.length + es.length ≤ limit.toNat then (.ok false, c.keeping es)
        else (.error .limitReached,
          c.keeping (es.take (limit.toNat - c.reported.length) ++ [.error tooManyErrors]))
  | c, _, _, fits, [] => by
    rw [reportAll, List.length_nil, Nat.add_zero, if_pos fits, keeping_nil]
  | c, sink, own, fits, e :: es => by
    rw [reportAll, List.length_cons]
    by_cases full : c.isFull (some limit) = true
    · have none : limit.toNat - c.reported.length = 0 := by
        have := (isFull_iff own).1 full
        omega
      rw [report_full sink own full, none, if_neg (by omega), List.take_zero, List.nil_append]
    · have room : (c.keeping [e]).reported.length = c.reported.length + 1 := List.length_append ..
      have more : limit.toNat - c.reported.length = limit.toNat - (c.reported.length + 1) + 1 := by
        have := mt (isFull_iff own).2 full
        omega
      have fits' : (c.keeping [e]).reported.length ≤ limit.toNat := by omega
      rw [report_room sink own (Bool.eq_false_iff.2 full)]
      simp only
      rw [reportAll_limited (c := c.keeping [e]) sink own fits' es, room, more, keeping_keeping,
        keeping_keeping, List.take_succ_cons, Nat.add_assoc, Nat.add_comm 1]
      rfl

section Limited

variable {s : Schema} {types : List NamedType} {mapId id : Nat} {document : Value} {os : List Signature}

theorem takeWhile_congr {α : Type} {p q : α → Bool} :
    ∀ {xs : List α}, (∀ x ∈ xs, p x = q x) → xs.takeWhile p = xs.takeWhile q
  | [], _ => rfl
  | x :: xs, h => by
    rw [List.takeWhile_cons, List.takeWhile_cons, h x (List.mem_cons_self ..),
      takeWhile_congr fun y hy => h y (List.mem_cons_of_mem _ hy)]

/-- The diagnostics that a validation of operations meets: those of the variables before the first one at
which the survey ends. -/
def met (s : Schema) (types : List NamedType) (os : List Signature) : List Value :=
  diagnoses s types (surveyed s types (variablesOf s.next os))

theorem ContextOf.outcome_congr {c d : Context} (fatal : c.fatal = d.fatal)
    (reported : c.reported = d.reported) : c.outcome = d.outcome := by
  rw [outcome, outcome, fatal, reported]

theorem ContextOf.reportFatal_congr {c d : Context} (fatal : c.fatal = d.fatal)
    (reported : c.reported = d.reported) (e : Value) :
    (c.reportFatal e).outcome = (d.reportFatal e).outcome := by
  rw [reportFatal, reportFatal, fatal]
  split
  · exact outcome_congr rfl reported
  · exact outcome_congr fatal reported

/-- What the end of a survey makes of a context depends on its errors alone. -/
theorem closing_final {c d : Context} (fatal : c.fatal = d.fatal) (reported : c.reported = d.reported)
    {xs : List Variable} :
    closing (final s types c (xs.find? (·.ends s types))) =
      closing (final s types d (xs.find? (·.ends s types))) := by
  have outcome := ContextOf.outcome_congr fatal reported
  cases first : xs.find? (·.ends s types) with
  | none => exact congrArg Except.ok outcome
  | some x =>
    rw [final, final]
    rcases Variable.ends_cases (List.find?_some first) with ⟨e, found⟩ | ⟨f, found⟩
    · rw [found]
      exact congrArg Except.ok (ContextOf.reportFatal_congr fatal reported _)
    · rw [found]
      cases f with
      | limitReached => exact congrArg Except.ok outcome
      | _ => rfl

/-- As long as the diagnostics fit, a limit changes nothing. -/
theorem Schema.validate_within (doc : document.IsDocument os) {limit : Int} {limitId : Nat}
    (fits : (met s types os).length ≤ limit.toNat) :
    (s.validate (.registry types mapId id) document (.int limit limitId)).result =
      (s.validate (.registry types mapId id) document .null).result := by
  have room : (Context.begin (.registry types mapId id) document (some limit)).reported.length +
      (met s types os).length ≤ limit.toNat := by
    rw [Context.begin, List.length_nil, Nat.zero_add]
    exact fits
  rw [validate_result doc rfl, survey_split, ContextOf.reportAll_limited rfl rfl (Nat.zero_le _),
    ← met, if_pos room, validate_unlimited doc]
  exact @closing_final s types
    ((Context.begin (.registry types mapId id) document (some limit)).keeping (met s types os))
    ((Context.begin (.registry types mapId id) document none).keeping (met s types os)) rfl rfl _

/-- When the diagnostics do not fit, those that do are kept, and a notice. -/
theorem Schema.validate_beyond (doc : document.IsDocument os) {limit : Int} {limitId : Nat}
    (more : limit.toNat < (met s types os).length) :
    (s.validate (.registry types mapId id) document (.int limit limitId)).result =
      .ok (resultOf ((met s types os).take limit.toNat ++ [.error tooManyErrors]) .null) := by
  have full : ¬ (Context.begin (.registry types mapId id) document (some limit)).reported.length +
      (met s types os).length ≤ limit.toNat := by
    rw [Context.begin, List.length_nil, Nat.zero_add]
    exact Nat.not_le.2 more
  rw [validate_result doc rfl, survey_split, ContextOf.reportAll_limited rfl rfl (Nat.zero_le _),
    ← met, if_neg full]
  rfl

/-- What a context comes to: the errors that it keeps, or none beside a fatal error. -/
theorem ContextOf.outcome_errors {c : Context} {errors : List Value} {fatal : Value}
    (h : c.outcome = resultOf errors fatal) : errors = [] ∨ errors = c.reported := by
  rw [outcome] at h
  split at h
  · cases h
    exact .inl rfl
  · cases h
    exact .inr rfl

theorem ContextOf.reportFatal_reported (c : Context) (e : Value) :
    (c.reportFatal e).reported = c.reported := by
  rw [reportFatal]
  split <;> rfl

/-- A validation without a limit gives the diagnostics that it meets, or none beside a fatal error. -/
theorem Schema.validate_errors (doc : document.IsDocument os) {errors : List Value} {fatal : Value}
    (h : (s.validate (.registry types mapId id) document .null).result = .ok (resultOf errors fatal)) :
    errors = [] ∨ errors = met s types os := by
  rw [validate_unlimited doc, ← met] at h
  cases first : (variablesOf s.next os).find? (·.ends s types) with
  | none =>
    rw [first] at h
    exact ContextOf.outcome_errors (Except.ok.inj h)
  | some x =>
    rw [first, final] at h
    rcases Variable.ends_cases (List.find?_some first) with ⟨e, found⟩ | ⟨f, found⟩
    · rw [found, Finding.enter, closing] at h
      rcases ContextOf.outcome_errors (Except.ok.inj h) with none | all
      · exact .inl none
      · exact .inr (all.trans (ContextOf.reportFatal_reported ..))
    · rw [found] at h
      cases f with
      | limitReached => exact ContextOf.outcome_errors (Except.ok.inj h)
      | _ => cases h

/-- The notice is none of the diagnostics: these have a path. -/
theorem tooManyErrors_not_mem_met : .error tooManyErrors ∉ met s types os := by
  intro mem
  obtain ⟨x, hx, found⟩ := List.mem_filterMap.1 mem
  obtain ⟨e, diagnosis, same⟩ := Option.map_eq_some_iff.1 found
  cases same
  obtain ⟨o, _, i, j, path⟩ := variablesOf_path ((List.takeWhile_sublist _).subset hx)
  have none : tooManyErrors.path = .null := rfl
  rw [Variable.diagnosis?_path diagnosis, path] at none
  cases none

/-- Where all types are registered ones, the diagnostics met are those of the variables before the first
one whose type is not registered. -/
theorem met_eq (reg : s.Registers types) (spelled : s.Spells types) (coerces : s.Coerces types)
    (doc : document.IsDocument os) :
    met s types os =
      diagnoses s types ((variablesOf s.next os).takeWhile fun x => !x.isUndefined types) := by
  rw [met, surveyed]
  refine congrArg _ (takeWhile_congr fun x hx => ?_)
  rw [Variable.ends_eq reg spelled coerces fun v => doc.literal hx]

/-- A validation with a limit gives what one without a limit gives if its diagnostics fit, and otherwise
those that fit and a notice. So there is at most one error more than the limit allows, and the notice is
there exactly if a diagnostic was left out. -/
theorem Schema.validate_limited (doc : document.IsDocument os) (mapId id limitId : Nat) (limit : Int) :
    ((met s types os).length ≤ limit.toNat →
      (s.validate (.registry types mapId id) document (.int limit limitId)).result =
        (s.validate (.registry types mapId id) document .null).result) ∧
    (limit.toNat < (met s types os).length →
      (s.validate (.registry types mapId id) document (.int limit limitId)).result =
        .ok (resultOf ((met s types os).take limit.toNat ++ [.error tooManyErrors]) .null)) ∧
    (∀ errors fatal, (s.validate (.registry types mapId id) document (.int limit limitId)).result =
        .ok (resultOf errors fatal) → errors.length ≤ limit.toNat + 1 ∧
          (.error tooManyErrors ∈ errors ↔ limit.toNat < (met s types os).length)) ∧
    (tooManyErrors.locations = .null ∧ tooManyErrors.path = .null ∧
      tooManyErrors.extensions = .mapping []) ∧
    (s.Registers types → s.Spells types → s.Speaks types → met s types os =
      diagnoses s types ((variablesOf s.next os).takeWhile fun x => !x.isUndefined types)) := by
  refine ⟨validate_within doc, validate_beyond doc, fun errors fatal h => ?_, ⟨rfl, rfl, rfl⟩,
    fun reg spelled speaks => met_eq reg spelled (speaks.coerces reg) doc⟩
  rcases Nat.lt_or_ge limit.toNat (met s types os).length with more | fits
  · rw [validate_beyond doc more] at h
    cases h
    refine ⟨?_, fun _ => more, fun _ => List.mem_append_right _ (List.mem_singleton.2 rfl)⟩
    rw [List.length_append, List.length_take, List.length_singleton]
    omega
  · rw [validate_within doc fits] at h
    rcases validate_errors doc h with rfl | rfl
    · exact ⟨Nat.zero_le _, fun mem => (List.not_mem_nil mem).elim, fun more => by omega⟩
    · exact ⟨by omega, fun mem => (tooManyErrors_not_mem_met mem).elim, fun more => by omega⟩

end Limited

/-- Without room for any error the validation of the query for trees gives the notice alone. -/
theorem validate_limited_trees :
    0 < (met treeSchema treeTypes treeOperations).length ∧
    (treeSchema.validate (.registry treeTypes) (documentNode treeOperations) (.int (-1))).result =
      .ok (resultOf [.error tooManyErrors] .null) := by
  obtain ⟨e, es, first⟩ : ∃ e es, met treeSchema treeTypes treeOperations = e :: es := ⟨_, _, rfl⟩
  have more : 0 < (met treeSchema treeTypes treeOperations).length := by
    rw [first]
    exact Nat.succ_pos _
  refine ⟨more, ?_⟩
  exact (Schema.validate_limited (documentNode_isDocument treeOperations_sound) 0 0 0 (-1)).2.1 more

/-! ### Plain wrappers -/

/-- A query with a default for the box and one for a label that must not have any. -/
def labelledBox : List Signature := [⟨.query, none, [
  { name := "box", type := .named "Box", default := some boxLiteral },
  { name := "label", type := .nonNull (.named "String"), default := some (.textNode .stringValue "a") }]⟩]

theorem labelledBox_sound : ∀ o ∈ labelledBox, ∀ d ∈ o.declared, d.IsSound := by
  refine List.forall_mem_singleton.2 (List.forall_mem_cons.2 ⟨⟨rfl, rfl, rfl, ?_⟩,
    List.forall_mem_singleton.2 ⟨rfl, rfl, rfl, ?_⟩⟩)
  · rintro v ⟨⟩
    exact boxLiteral_isLiteral
  · rintro v ⟨⟩
    exact Value.textNode_isLiteral (by decide) "a"

/-- All types are registered and the label has a diagnostic, but the validation fails before it gets there:
there is no notice. -/
theorem validate_limited_box :
    boxSchema.Registers (objectTypes "Box") ∧ (documentNode labelledBox).IsDocument labelledBox ∧
      (0 : Int).toNat < (diagnoses boxSchema (objectTypes "Box")
        ((variablesOf boxSchema.next labelledBox).takeWhile
          fun x => !x.isUndefined (objectTypes "Box"))).length ∧
      (boxSchema.validate (.registry (objectTypes "Box")) (documentNode labelledBox) (.int 0)).result =
        .error (.refused .checkedType (.type (.wrapper textType))) := by
  have doc := documentNode_isDocument labelledBox_sound
  obtain ⟨x, y, both, type, default, e, diagnosis, known⟩ : ∃ x y,
      variablesOf boxSchema.next labelledBox = [x, y] ∧ x.type = .named "Box" ∧
      x.default = some boxLiteral ∧ ∃ e, y.diagnosis? boxSchema (objectTypes "Box") = some e ∧
      [x, y].takeWhile (fun x => !x.isUndefined (objectTypes "Box")) = [x, y] :=
    ⟨_, _, rfl, rfl, rfl, _, rfl, rfl⟩
  refine ⟨objectSchema_registers (by decide), doc, ?_, ?_⟩
  · have told : (y.diagnosis? boxSchema (objectTypes "Box")).map Value.error = some (.error e) := by
      rw [diagnosis]
      rfl
    have mem : .error e ∈ diagnoses boxSchema (objectTypes "Box") [x, y] :=
      List.mem_filterMap.2 ⟨y, by simp, told⟩
    rw [both, known]
    exact List.length_pos_of_mem mem
  · rw [Schema.validate_result doc rfl, both, survey, boxSchema_finding type default]
    rfl

end QueryDefaults
