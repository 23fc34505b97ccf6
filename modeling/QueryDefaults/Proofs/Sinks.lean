import QueryDefaults.Proofs.Returns

/-!
Where the errors of a walk go. A plain context keeps the errors itself, one with a listener hands each of
them on, and a validation listens too and makes a result of what it was told. One step of the rule treats
all of them alike (`Context.Mirrors.enter`), so the same is found out in the same order
(`Schema.visit_agrees`): what a listener is told is what a plain context collects, also the errors before a
fatal one, which a validation drops in the end.
-/

namespace QueryDefaults

/-! ### Contexts that are told the same -/

/-- A context that keeps the errors itself, as it is in the beginning. -/
def Context.plain (registry document : Value) : Context :=
  { registry, document, sink := .keep, fatal := .null }

/-- The fatal error of a context is an error or there is none. -/
def Value.IsFatal (v : Value) : Prop := v = .null ∨ ∃ e, v = .error e

theorem Value.IsFatal.truthy_eq {v : Value} (h : v.IsFatal) : v.truthy = !v.isNull := by
  rcases h with rfl | ⟨e, rfl⟩
  · rfl
  · rfl

/-- A context that hands all errors on has been told the same as one that keeps them. -/
structure Context.Mirrors (noting plain : Context) : Prop where
  keeps : plain.sink = .keep
  hands : noting.sink = .handOn none
  own : noting.handedId = 0
  reported : noting.reported = plain.errors
  errors : noting.errors = []
  fatal : noting.fatal = plain.fatal
  whole : plain.fatal.IsFatal

namespace Context.Mirrors

variable {noting plain : Context}

/-- In the beginning no context has been told anything. -/
theorem begin (registry document : Value) :
    (Context.begin registry document none).Mirrors (Context.plain registry document) where
  keeps := rfl
  hands := rfl
  own := rfl
  reported := rfl
  errors := rfl
  fatal := rfl
  whole := .inl rfl

/-- An error is kept by the one and handed on by the other. -/
theorem report (h : noting.Mirrors plain) (e : Value) :
    ∃ noting' plain', noting.report e = (.ok (), noting') ∧ plain.report e = (.ok (), plain') ∧
      noting'.Mirrors plain' := by
  have kept : plain.report e = (.ok (), { plain with errors := plain.errors ++ [e] }) := by
    rw [ContextOf.report, h.keeps]
  refine ⟨_, _, ContextOf.report_room h.hands h.own rfl e, kept, { h with reported := ?_ }⟩
  rw [ContextOf.keeping, h.reported]

/-- Both have the same fatal error, the first one. -/
theorem reportFatal (h : noting.Mirrors plain) (e : GraphQLError) :
    (noting.reportFatal (.error e)).Mirrors (plain.reportFatal (.error e)) := by
  rw [ContextOf.reportFatal, ContextOf.reportFatal, h.fatal]
  cases plain.fatal.isNull with
  | true => exact { h with fatal := rfl, whole := .inr ⟨e, rfl⟩ }
  | false => exact h

/-- What is found at a variable makes the same of both, and fails only if it is no verdict. -/
theorem enter (h : noting.Mirrors plain) (found : Finding) :
    ∃ r noting' plain', found.enter noting = (r, noting') ∧ found.enter plain = (r, plain') ∧
      noting'.Mirrors plain' ∧ ((∀ f, found ≠ .broken f) → ∃ stopped, r = .ok stopped) := by
  cases found with
  | passes => exact ⟨_, _, _, rfl, rfl, h, fun _ => ⟨false, rfl⟩⟩
  | undefined e => exact ⟨_, _, _, rfl, rfl, h.reportFatal e, fun _ => ⟨true, rfl⟩⟩
  | broken f => exact ⟨_, _, _, rfl, rfl, h, fun verdict => absurd rfl (verdict f)⟩
  | faulty e =>
    obtain ⟨noting', plain', noted, kept, after⟩ := h.report (.error e)
    refine ⟨_, noting', plain', ?_, ?_, after, fun _ => ⟨false, rfl⟩⟩
    · rw [Finding.enter, noted]
      rfl
    · rw [Finding.enter, kept]
      rfl

/-- So a survey of variables goes the same way with both and ends alike. With verdicts alone it does not
fail. -/
theorem survey (s : Schema) (types : List NamedType) : ∀ (xs : List Variable) {noting plain : Context},
    noting.Mirrors plain → ∃ r noting' plain',
      QueryDefaults.survey s types xs noting = (r, noting') ∧
      QueryDefaults.survey s types xs plain = (r, plain') ∧ noting'.Mirrors plain' ∧
      ((∀ x ∈ xs, ∀ f, x.finding s types ≠ .broken f) → ∃ stopped, r = .ok stopped)
  | [], noting, plain, h => ⟨_, noting, plain, rfl, rfl, h, fun _ => ⟨false, rfl⟩⟩
  | x :: xs, noting, plain, h => by
    obtain ⟨r, noting', plain', noted, kept, after, total⟩ := h.enter (x.finding s types)
    rw [QueryDefaults.survey, QueryDefaults.survey, noted, kept]
    rcases r with f | _ | _
    · exact ⟨_, _, _, rfl, rfl, after, fun verdicts => total (verdicts x (List.mem_cons_self ..))⟩
    · obtain ⟨r, last, last', noted, kept, after, total⟩ := survey s types xs after
      exact ⟨r, last, last', noted, kept, after, fun verdicts =>
        total fun y hy => verdicts y (List.mem_cons_of_mem _ hy)⟩
    · exact ⟨_, _, _, rfl, rfl, after, fun _ => ⟨true, rfl⟩⟩

/-- A result has the fatal error alone, or else the errors that were collected. -/
theorem outcome (h : noting.Mirrors plain) :
    noting.outcome = resultOf (if plain.fatal.isNull then plain.errors else []) plain.fatal := by
  rw [ContextOf.outcome, h.fatal, h.reported, h.whole.truthy_eq]
  rcases h.whole with none | ⟨e, some⟩
  · rw [none]
    rfl
  · rw [some]
    rfl

end Context.Mirrors

/-! ### Visits of documents -/

/-- What a visit of a document by the rule with a context comes to: its answer, and the context then. -/
def Schema.visitWith (s : Schema) (document : Value) (c : Context) : Except Fault Value × Value :=
  let (answer, st) := (visit (Rule.visitor s true) documentKeys document).exec
    { context := .context c, next := s.next }
  (answer, st.context)

section Visits

variable {s : Schema} {types : List NamedType} {mapId id : Nat} {document : Value} {os : List Signature}

/-- A visit surveys the variables of the document. -/
theorem Schema.visitWith_eq (doc : document.IsDocument os) {c : Context}
    (registry : c.registry = .registry types mapId id) :
    s.visitWith document c =
      ((survey s types (variablesOf s.next os) c).1.map fun stopped =>
          if stopped then .action .stop else .null,
        .context (survey s types (variablesOf s.next os) c).2) := by
  obtain ⟨st, run, context⟩ := @visit_survey s types mapId id document os doc
    { context := .context c, next := s.next } c rfl registry
  rw [visitWith, run, ← context]

/-- A visit of a document with a plain context and one with a listener answer the same. The listener is
told just the errors that the plain context collects, in the same order, and the context that it belongs to
keeps none; both have the same fatal error. A validation gives this fatal error alone, or else these errors,
unless the visits fail: then it fails as well. Where all types are registered ones
and no scalar raises an error of the library without a message, no visit fails. -/
theorem Schema.visit_agrees (doc : document.IsDocument os) (mapId id : Nat) :
    ∃ (answer : Except Fault Value) (plain noting : Context),
      s.visitWith document (.plain (.registry types mapId id) document) = (answer, .context plain) ∧
      s.visitWith document (.begin (.registry types mapId id) document none) =
        (answer, .context noting) ∧
      noting.reported = plain.errors ∧ noting.errors = [] ∧ noting.fatal = plain.fatal ∧
      (∀ v, answer = .ok v →
        (s.validate (.registry types mapId id) document .null).result =
          .ok (resultOf (if plain.fatal.isNull then plain.errors else []) plain.fatal)) ∧
      (∀ f, answer = .error f → f ≠ .limitReached →
        (s.validate (.registry types mapId id) document .null).result = .error f) ∧
      (s.Registers types → s.Spells types → s.Speaks types → ∃ v, answer = .ok v) := by
  obtain ⟨r, noting, plain, noted, kept, after, total⟩ :=
    (Context.Mirrors.begin (.registry types mapId id) document).survey s types (variablesOf s.next os)
  have keeping := visitWith_eq (s := s) doc
    (c := Context.plain (.registry types mapId id) document) rfl
  have listening := visitWith_eq (s := s) doc
    (c := Context.begin (.registry types mapId id) document none) rfl
  have validated : (s.validate (.registry types mapId id) document .null).result = closing (r, noting) := by
    rw [validate_result doc rfl, noted]
  rw [kept] at keeping
  rw [noted] at listening
  refine ⟨_, plain, noting, keeping, listening, after.reported, after.errors, after.fatal, ?_, ?_, ?_⟩
  · intro v answered
    rw [validated]
    cases r with
    | error f => cases answered
    | ok stopped => exact congrArg Except.ok after.outcome
  · intro f answered other
    rw [validated]
    cases r with
    | ok stopped => cases answered
    | error g =>
      obtain rfl : g = f := Except.error.inj answered
      rw [closing]
      exact other
  · intro reg spelled speaks
    obtain ⟨stopped, rfl⟩ := total fun x hx =>
      Variable.finding_ne_broken reg spelled (speaks.coerces reg) fun v => doc.literal hx
    exact ⟨_, rfl⟩

end Visits

/-- A query with a default for a label that must not have any, before a variable whose type nobody knows. -/
def strayOperations : List Signature := [⟨.query, some "Trees", [
  { name := "label", type := .nonNull (.named "String"), default := some (.textNode .stringValue "a") },
  { name := "stray", type := .named "Stray", default := none },
  { name := "tree", type := .named "Tree", default := some treeLiteral }]⟩]

theorem strayOperations_sound : ∀ o ∈ strayOperations, ∀ d ∈ o.declared, d.IsSound := by
  refine List.forall_mem_singleton.2 (List.forall_mem_cons.2 ⟨⟨rfl, rfl, rfl, ?_⟩,
    List.forall_mem_cons.2 ⟨⟨rfl, rfl, rfl, ?_⟩, List.forall_mem_singleton.2 ⟨rfl, rfl, rfl, ?_⟩⟩⟩)
  · rintro v ⟨⟩
    exact Value.textNode_isLiteral (by decide) "a"
  · rintro v ⟨⟩
  · rintro v ⟨⟩
    exact treeLiteral_isLiteral

/-- Both contexts have the error about the label when the visits stop at the unknown type; the validation
has dropped it. -/
theorem visit_agrees_stray :
    let document := documentNode strayOperations
    ∃ plain noting : Context,
      treeSchema.visitWith document (.plain (.registry treeTypes) document) =
        (.ok (.action .stop), .context plain) ∧
      treeSchema.visitWith document (.begin (.registry treeTypes) document none) =
        (.ok (.action .stop), .context noting) ∧
      plain.errors.length = 1 ∧ noting.reported = plain.errors ∧
      (treeSchema.validate (.registry treeTypes) document .null).result = .ok (resultOf [] plain.fatal) := by
  have doc := documentNode_isDocument strayOperations_sound
  obtain ⟨answer, plain, noting, keeping, listening, reported, _, _, result, _, _⟩ :=
    @Schema.visit_agrees treeSchema treeTypes _ _ doc 0 0
  obtain ⟨c, ended, one, fatal⟩ : ∃ c,
      survey treeSchema treeTypes (variablesOf treeSchema.next strayOperations)
        (.plain (.registry treeTypes) (documentNode strayOperations)) = (.ok true, c) ∧
      c.errors.length = 1 ∧ c.fatal.isNull = false := ⟨_, rfl, rfl, rfl⟩
  have visited := @Schema.visitWith_eq treeSchema treeTypes _ _ _ _ doc
    (.plain (.registry treeTypes) (documentNode strayOperations)) rfl
  rw [ended, keeping] at visited
  obtain ⟨rfl, same⟩ := Prod.mk.inj visited
  obtain rfl := Value.context.inj same
  refine ⟨plain, noting, keeping, listening, one, reported, ?_⟩
  rw [result _ rfl, fatal]
  rfl

/-! ### Plain wrappers -/

/-- With a plain wrapper as the type of a field a visit can fail, and there is no result of a validation. -/
theorem visit_box :
    let document := documentNode boxOperations
    boxSchema.Registers (objectTypes "Box") ∧ document.IsDocument boxOperations ∧
      (boxSchema.visitWith document (.plain (.registry (objectTypes "Box")) document)).1 =
        .error (.refused .checkedType (.type (.wrapper textType))) ∧
      ¬ ∃ errors fatal,
        (boxSchema.validate (.registry (objectTypes "Box")) document .null).result =
          .ok (resultOf errors fatal) := by
  refine ⟨objectSchema_registers (by decide), boxOperations_isDocument, ?_, ?_⟩
  · obtain ⟨x, box, type, default⟩ : ∃ x, variablesOf boxSchema.next boxOperations = [x] ∧
        x.type = .named "Box" ∧ x.default = some boxLiteral := ⟨_, rfl, rfl, rfl⟩
    rw [Schema.visitWith_eq boxOperations_isDocument rfl, box, survey, boxSchema_finding type default]
    rfl
  · rintro ⟨errors, fatal, result⟩
    rw [boxOperations_fails] at result
    cases result

end QueryDefaults
