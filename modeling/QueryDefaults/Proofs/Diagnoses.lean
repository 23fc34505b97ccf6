import Mathlib.Data.List.Find
import Mathlib.Data.List.TakeWhile
import QueryDefaults.Proofs.Survey

/-!
The diagnostics of a document. A survey reports the diagnostics of the variables before the first one at
which it ends, and then comes to what is found there (`survey_split`). Without a limit all of these
diagnostics are kept, so a validation gives either the first fatal error alone, or one error for each
variable whose default is at fault (`Schema.validate_reports`). Where the errors of all scalars have messages,
every check of a registered type comes to a verdict, so the only thing that ends a validation early is a type
that is not registered.
-/

namespace QueryDefaults

/-! ### Where a survey ends -/

namespace Variable

variable (s : Schema) (types : List NamedType) (x : Variable)

/-- Whether there is no type of the name that the reference of a variable ends in. -/
def isUndefined : Bool := (registered? types x.type.name).isNone

/-- The error that is reported about a variable, if its default is at fault. -/
def diagnosis? : Option GraphQLError :=
  match x.finding s types with
  | .faulty e => some e
  | _ => none

/-- Whether a survey ends at a variable: its type is not registered, or its check gives no verdict. -/
def ends : Bool :=
  match x.finding s types with
  | .undefined _ | .broken _ => true
  | _ => false

end Variable

theorem Variable.ends_cases {s : Schema} {types : List NamedType} {x : Variable}
    (h : x.ends s types = true) :
    (∃ e, x.finding s types = .undefined e) ∨ ∃ f, x.finding s types = .broken f := by
  rw [ends] at h
  cases found : x.finding s types with
  | undefined e => exact .inl ⟨e, rfl⟩
  | broken f => exact .inr ⟨f, rfl⟩
  | passes =>
    rw [found] at h
    cases h
  | faulty e =>
    rw [found] at h
    cases h

/-- The diagnostics of variables, in their order. -/
def diagnoses (s : Schema) (types : List NamedType) (xs : List Variable) : List Value :=
  xs.filterMap fun x => (x.diagnosis? s types).map .error

/-- A diagnostic has the path of its variable. -/
theorem Variable.diagnosis?_path {s : Schema} {types : List NamedType} {x : Variable} {e : GraphQLError}
    (h : x.diagnosis? s types = some e) : e.path = x.path := by
  rw [diagnosis?] at h
  cases found : x.finding s types with
  | faulty e' =>
    rw [found] at h
    cases h
    exact Variable.finding_path found
  | passes =>
    rw [found] at h
    cases h
  | undefined _ =>
    rw [found] at h
    cases h
  | broken _ =>
    rw [found] at h
    cases h

/-- The variables before the first one at which a survey ends. -/
def surveyed (s : Schema) (types : List NamedType) (xs : List Variable) : List Variable :=
  xs.takeWhile fun x => !x.ends s types

/-- Reports errors one after the other, as long as there is room for them. -/
def ContextOf.reportAll : Context → List Value → Except Fault Bool × Context
  | c, [] => (.ok false, c)
  | c, e :: es =>
    match c.report e with
    | (.ok (), c') => c'.reportAll es
    | (.error f, c') => (.error f, c')

section Split

variable (s : Schema) (types : List NamedType)

/-- What a survey comes to at the variable at which it ends, if there is one. -/
def final (c : Context) : Option Variable → Except Fault Bool × Context
  | none => (.ok false, c)
  | some x => (x.finding s types).enter c

/-- A survey reports the diagnostics of the variables before the first one at which it ends, and then
comes to what is found there. -/
theorem survey_split : ∀ (xs : List Variable) (c : Context),
    survey s types xs c =
      match c.reportAll (diagnoses s types (surveyed s types xs)) with
      | (.ok false, c') => final s types c' (xs.find? (·.ends s types))
      | ended => ended
  | [], _ => rfl
  | x :: xs, c => by
    have rest := survey_split xs
    cases found : x.finding s types with
    | passes =>
      have goes : x.ends s types = false := by rw [Variable.ends, found]
      have clear : x.diagnosis? s types = none := by rw [Variable.diagnosis?, found]
      simp only [survey, found, Finding.enter, surveyed, List.takeWhile_cons, goes, List.find?_cons,
        diagnoses, Bool.not_false, if_true, List.filterMap_cons, clear, Option.map_none]
      exact rest c
    | faulty e =>
      have goes : x.ends s types = false := by rw [Variable.ends, found]
      have faulty : x.diagnosis? s types = some e := by rw [Variable.diagnosis?, found]
      simp only [survey, found, Finding.enter, surveyed, List.takeWhile_cons, goes, List.find?_cons,
        diagnoses, Bool.not_false, if_true, List.filterMap_cons, faulty, Option.map_some,
        ContextOf.reportAll]
      rcases c.report (.error e) with ⟨_ | _, c'⟩
      · rfl
      · exact rest c'
    | undefined e =>
      have ends : x.ends s types = true := by rw [Variable.ends, found]
      simp only [survey, surveyed, List.takeWhile_cons, ends, List.find?_cons, Bool.not_true,
        Bool.false_eq_true, if_false, diagnoses, List.filterMap_nil, ContextOf.reportAll, final, found]
      rfl
    | broken f =>
      have ends : x.ends s types = true := by rw [Variable.ends, found]
      simp only [survey, surveyed, List.takeWhile_cons, ends, List.find?_cons, Bool.not_true,
        Bool.false_eq_true, if_false, diagnoses, List.filterMap_nil, ContextOf.reportAll, final, found]
      rfl

end Split

/-! ### Reports to a context -/

namespace ContextOf

/-- A context that keeps some more errors than another one. -/
def keeping (c : Context) (es : List Value) : Context := { c with reported := c.reported ++ es }

theorem keeping_keeping (c : Context) (es fs : List Value) :
    (c.keeping es).keeping fs = c.keeping (es ++ fs) := by
  rw [keeping, keeping, keeping, List.append_assoc]

theorem keeping_nil (c : Context) : c.keeping [] = c := by rw [keeping, List.append_nil]

variable {c : Context} {limit : Option Int}

/-- While there is room for it, an error is kept. -/
theorem report_room (sink : c.sink = .handOn limit) (own : c.handedId = 0) (room : c.isFull limit = false)
    (e : Value) : c.report e = (.ok (), c.keeping [e]) := by
  rw [report, sink]
  simp only [room, handOn, own, keeping, if_true, Bool.false_eq_true, if_false]

/-- When there is no room left, a notice is kept in the place of the error, and the validation ends. -/
theorem report_full (sink : c.sink = .handOn limit) (own : c.handedId = 0) (full : c.isFull limit = true)
    (e : Value) : c.report e = (.error .limitReached, c.keeping [.error tooManyErrors]) := by
  rw [report, sink]
  simp only [full, handOn, own, keeping, if_true]

/-- Without a limit every error is kept. -/
theorem reportAll_unlimited : ∀ {c : Context}, c.sink = .handOn none → c.handedId = 0 →
    ∀ es : List Value, c.reportAll es = (.ok false, c.keeping es)
  | c, _, _, [] => by rw [reportAll, keeping_nil]
  | c, sink, own, e :: es => by
    rw [reportAll, report_room sink own rfl]
    simp only
    rw [reportAll_unlimited (c := c.keeping [e]) sink own es, keeping_keeping]
    rfl

end ContextOf

/-! ### Without a limit -/

section Unlimited

variable {s : Schema} {types : List NamedType} {mapId id : Nat} {document : Value} {os : List Signature}

/-- A validation without a limit keeps the diagnostics of the variables before the first one at which the
survey ends, and comes to what is found there. -/
theorem Schema.validate_unlimited (doc : document.IsDocument os) :
    (s.validate (.registry types mapId id) document .null).result =
      closing (final s types
        ((Context.begin (.registry types mapId id) document none).keeping
          (diagnoses s types (surveyed s types (variablesOf s.next os))))
        ((variablesOf s.next os).find? (·.ends s types))) := by
  rw [validate_result doc rfl, survey_split, ContextOf.reportAll_unlimited rfl rfl]

/-- A survey of registered types ends only at a type that is not registered: every check of a literal comes
to a verdict. -/
theorem Variable.ends_eq (reg : s.Registers types) (spelled : s.Spells types) (coerces : s.Coerces types)
    {x : Variable} (literal : ∀ v, x.default = some v → v.IsLiteral) : x.ends s types = x.isUndefined types := by
  rw [ends, isUndefined, finding]
  cases stands : x.type.type? types with
  | none => rw [TypeRef.type?_eq_none.1 stands]; rfl
  | some t =>
    have registered : (registered? types x.type.name).isNone = false := by
      rw [Option.isNone_eq_false_iff, Option.isSome_iff_ne_none]
      intro none
      rw [TypeRef.type?_eq_none.2 none] at stands
      cases stands
    rw [registered]
    cases default : x.default with
    | none => rfl
    | some v =>
      obtain ⟨verdict, ended⟩ := Schema.check_ends reg spelled coerces (literal v default) t
        (TypeRef.type?_base stands) (TypeRef.type?_isSpelled stands)
      simp only [ended]
      cases x.type.isNonNull <;> cases verdict <;> rfl

/-- An error is reported about a variable whose type is registered exactly if it has a default and either
is non-null or has a default that the check finds a failure in. -/
theorem Variable.diagnosis?_isSome {x : Variable} (registered : x.isUndefined types = false) :
    (x.diagnosis? s types).isSome = true ↔ ∃ v, x.default = some v ∧ (x.type.isNonNull = true ∨
      ∃ t invalid, x.type.type? types = some t ∧ (s.check v t).result = .ok (some invalid)) := by
  rw [diagnosis?, finding]
  cases stands : x.type.type? types with
  | none =>
    rw [isUndefined, TypeRef.type?_eq_none.1 stands] at registered
    cases registered
  | some t =>
    cases x.default with
    | none => simp
    | some v =>
      cases nonNull : x.type.isNonNull with
      | true => simp
      | false =>
        cases verdict : (s.check v t).result with
        | error f => simp [verdict]
        | ok verdict' => cases verdict' <;> simp [verdict]

/-- A validation without a limit gives the first variable with a type that is not registered as a fatal
error and nothing else, or else one error for every variable whose default is at fault, in their order. -/
theorem Schema.validate_reports (reg : s.Registers types) (spelled : s.Spells types) (speaks : s.Speaks types)
    (doc : document.IsDocument os) (mapId id : Nat) :
    (s.validate (.registry types mapId id) document .null).result = .ok
      (match (variablesOf s.next os).find? (·.isUndefined types) with
        | some x => resultOf [] (.error x.undefinedError)
        | none => resultOf ((variablesOf s.next os).filterMap fun x =>
            (x.diagnosis? s types).map Value.error) .null) ∧
    ∀ x : Variable, x.isUndefined types = false →
      ((x.diagnosis? s types).isSome = true ↔ ∃ v, x.default = some v ∧ (x.type.isNonNull = true ∨
        ∃ t invalid, x.type.type? types = some t ∧ (s.check v t).result = .ok (some invalid))) := by
  refine ⟨?_, fun x => Variable.diagnosis?_isSome⟩
  have ends : ∀ x ∈ variablesOf s.next os, x.ends s types = x.isUndefined types := fun x hx =>
    Variable.ends_eq reg spelled (speaks.coerces reg) fun v => doc.literal hx
  rw [validate_unlimited doc, List.find?_congr ends]
  cases first : (variablesOf s.next os).find? (·.isUndefined types) with
  | some x =>
    have undefined : x.finding s types = .undefined x.undefinedError := by
      have unknown : x.isUndefined types = true := List.find?_some first
      rw [Variable.finding, TypeRef.type?_eq_none.2 (Option.isNone_iff_eq_none.1 unknown)]
    rw [final, undefined]
    rfl
  | none =>
    have all : surveyed s types (variablesOf s.next os) = variablesOf s.next os :=
      List.takeWhile_eq_self_iff.2 fun x hx => by
        rw [ends x hx]
        simpa using List.find?_eq_none.1 first x hx
    rw [all]
    rfl

/-- A check of the first variable that comes to no verdict ends the validation with its failure. -/
theorem Schema.validate_broken (doc : document.IsDocument os) {x : Variable} {xs : List Variable} {f : Fault}
    (first : variablesOf s.next os = x :: xs) (broken : x.finding s types = .broken f)
    (escapes : f ≠ .limitReached) :
    (s.validate (.registry types mapId id) document .null).result = .error f := by
  rw [Schema.validate_result doc rfl, first, survey, broken, Finding.enter, closing]
  exact escapes

end Unlimited

/-- A query for trees: a label that must not have a default, and a tree with a default. -/
def treeOperations : List Signature := [⟨.query, some "Trees", [
  { name := "label", type := .nonNull (.named "String"), default := some (.textNode .stringValue "a") },
  { name := "tree", type := .named "Tree", default := some treeLiteral }]⟩]

theorem treeOperations_sound : ∀ o ∈ treeOperations, ∀ d ∈ o.declared, d.IsSound := by
  refine List.forall_mem_singleton.2 (List.forall_mem_cons.2 ⟨⟨rfl, rfl, rfl, ?_⟩,
    List.forall_mem_singleton.2 ⟨rfl, rfl, rfl, ?_⟩⟩)
  · rintro v ⟨⟩
    exact Value.textNode_isLiteral (by decide) "a"
  · rintro v ⟨⟩
    exact treeLiteral_isLiteral

/-- The validation of the query for trees. -/
theorem validate_reports_trees :
    (treeSchema.validate (.registry treeTypes) (documentNode treeOperations) .null).result =
      .ok (resultOf ((variablesOf treeSchema.next treeOperations).filterMap fun x =>
        (x.diagnosis? treeSchema treeTypes).map Value.error) .null) :=
  (Schema.validate_reports treeSchema_registers treeSchema_spells treeSchema_speaks
    (documentNode_isDocument treeOperations_sound) 0 0).1

/-! ### Plain wrappers -/

/-- The field of an input object whose type is a plain wrapper. -/
def boxFields : List (String × InputField) := [("value", ⟨0, .wrapper textType, .undefined, .null, .null⟩)]

/-- A schema with a plain wrapper as the type of a field. -/
def boxSchema : Schema := objectSchema "Box" boxFields

/-- A literal for the box. -/
def boxLiteral : Value := .objectNode [("value", .textNode .stringValue "a")]

theorem boxLiteral_isLiteral : boxLiteral.IsLiteral :=
  Value.objectNode_isLiteral (List.forall_mem_singleton.2 (Value.textNode_isLiteral (by decide) "a"))

/-- The check of the literal fails at the field. -/
theorem boxSchema_check : (boxSchema.check boxLiteral (.named (objectType "Box"))).result =
    .error (.refused .checkedType (.type (.wrapper textType))) := by
  have field : (boxSchema.checkField (objectType "Box") boxLiteral
      ("value", ⟨0, .wrapper textType, .undefined, .null, .null⟩)).result =
      .error (.refused .checkedType (.type (.wrapper textType))) := boxSchema.check_wrapper ⟨rfl, rfl⟩
  have declared : (boxSchema.fields (objectType "Box")).result = .ok boxFields := rfl
  rw [boxLiteral, boxSchema.check_objectNode rfl declared (by decide), boxFields, firstInvalid]
  exact Traced.result_bind_error field _

/-- So nothing can be told about a variable that has the literal as its default. -/
theorem boxSchema_finding {x : Variable} (type : x.type = .named "Box")
    (default : x.default = some boxLiteral) :
    x.finding boxSchema (objectTypes "Box") =
      .broken (.refused .checkedType (.type (.wrapper textType))) := by
  have stands : x.type.type? (objectTypes "Box") = some (.named (objectType "Box")) := by
    rw [type]
    rfl
  have nullable : x.type.isNonNull = false := by
    rw [type]
    rfl
  rw [Variable.finding_of_default stands default nullable, boxSchema_check]

/-- A query with a default for the box. -/
def boxOperations : List Signature := [⟨.query, none, [
  { name := "box", type := .named "Box", default := some boxLiteral }]⟩]

theorem boxOperations_isDocument : (documentNode boxOperations).IsDocument boxOperations :=
  documentNode_isDocument (List.forall_mem_singleton.2 (List.forall_mem_singleton.2
    ⟨rfl, rfl, rfl, fun v h => by cases h; exact boxLiteral_isLiteral⟩))

/-- The validation of the query fails where the check does. -/
theorem boxOperations_fails :
    (boxSchema.validate (.registry (objectTypes "Box")) (documentNode boxOperations) .null).result =
      .error (.refused .checkedType (.type (.wrapper textType))) := by
  obtain ⟨x, box, type, default⟩ : ∃ x, variablesOf boxSchema.next boxOperations = [x] ∧
      x.type = .named "Box" ∧ x.default = some boxLiteral := ⟨_, rfl, rfl, rfl⟩
  exact Schema.validate_broken boxOperations_isDocument box (boxSchema_finding type default) nofun

/-- A plain wrapper makes the validation fail: there is neither a fatal error nor a list of errors. -/
theorem validate_box :
    boxSchema.Registers (objectTypes "Box") ∧ (documentNode boxOperations).IsDocument boxOperations ∧
      (boxSchema.validate (.registry (objectTypes "Box")) (documentNode boxOperations) .null).result =
        .error (.refused .checkedType (.type (.wrapper textType))) :=
  ⟨objectSchema_registers (by decide), boxOperations_isDocument, boxOperations_fails⟩

end QueryDefaults
