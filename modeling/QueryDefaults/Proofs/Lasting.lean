import Mathlib
import QueryDefaults.Proofs.Notation
import QueryDefaults.Session.Request

/-!
What lasts in a session. The definitions of a session do not stay what they are: there come new ones and copies of
old ones, the fields of input objects are resolved, and the values in all of them are kept and viewed. A property of
the names in a definition lasts (`Lasting`) if definitions have it when they are made, and still have it when their
fields were resolved. No computation of a session can take it away (`SessionM.Keeps`), whatever functions do and
whether it fails or not. This is shown for each of them from those that it is made of, so in every session that
requests lead to, all definitions have the property (`Session.IsReached.all`).
-/

set_option mvcgen.warning false

namespace QueryDefaults

open Std.Do

/-! ### Names in a definition -/

/-- The names of the parts of a type: of its enum values, or of the fields that it holds. -/
def TypeBody.parts : TypeBody → List String
  | enum values _ => values.map Prod.fst
  | inputObject _ (some fields) _ => fields.map Prod.fst
  | _ => []

/-- What a definition is called, of which sort it is, and what its parts are called. -/
structure Labels where
  name : String
  sort : TypeSort
  parts : List String

/-- The names in a definition. -/
def TypeDef.labels (d : TypeDef) : Labels := ⟨d.name, d.body.sort, d.body.parts⟩

section Parts

-- A computation that looks at a definition part by part keeps `inv` while it does so, in whatever monad it runs.
variable {m : Type → Type} {ps : PostShape} [Monad m] [WPMonad m ps] {inv : Assertion ps} {err : ExceptConds ps}
  {α β : Type}

theorem with_pure {φ : Prop} (h : φ) : inv ⊢ₛ spred(inv ∧ ⌜φ⌝) := SPred.and_intro .rfl (SPred.pure_intro h)

/-- What each result of a row of computations is like, if it is like that for each of them. -/
theorem mapM_spec {f : α → m β} {p : β → Prop} :
    ∀ {xs : List α}, (∀ x ∈ xs, ⦃inv⦄ f x ⦃(fun b => spred(inv ∧ ⌜p b⌝), err)⦄) →
      ⦃inv⦄ xs.mapM f ⦃(fun bs => spred(inv ∧ ⌜∀ b ∈ bs, p b⌝), err)⦄
  | [], _ => by
    rw [List.mapM_nil]
    mvcgen
    exact with_pure (List.forall_mem_nil _)
  | x :: xs, step => by
    obtain ⟨first, others⟩ := List.forall_mem_cons.1 step
    have rest := mapM_spec others
    rw [List.mapM_cons]
    mvcgen [first, rest]
    next here _ there => exact with_pure (List.forall_mem_cons.2 ⟨here, there⟩)

/-- Named things keep their names. -/
theorem mapNamed_spec {f : α → m β} (step : ∀ a, ⦃inv⦄ f a ⦃(fun _ => inv, err)⦄) :
    ∀ named : List (String × α),
      ⦃inv⦄ mapNamed f named ⦃(fun given => spred(inv ∧ ⌜given.map Prod.fst = named.map Prod.fst⌝), err)⦄
  | [] => by
    rw [mapNamed, List.mapM_nil]
    mvcgen
    exact with_pure rfl
  | (name, a) :: named => by
    have rest := mapNamed_spec step named
    rw [mapNamed] at rest ⊢
    rw [List.mapM_cons]
    mvcgen [step, rest]
    next same => exact with_pure (congrArg (name :: ·) same)

variable {f : Value → m Value}

theorem mapM_option_spec (step : ∀ v, ⦃inv⦄ f v ⦃(fun _ => inv, err)⦄) (given : Option Value) :
    ⦃inv⦄ given.mapM f ⦃(fun _ => inv, err)⦄ := by
  cases given <;> mvcgen [Option.mapM_none, Option.mapM_some, step]

theorem EnumValueOf.mapParts_spec (step : ∀ v, ⦃inv⦄ f v ⦃(fun _ => inv, err)⦄) (u : EnumValue) :
    ⦃inv⦄ u.mapParts f ⦃(fun _ => inv, err)⦄ := by
  mvcgen [EnumValueOf.mapParts, step]

theorem InputFieldOf.mapParts_spec (step : ∀ v, ⦃inv⦄ f v ⦃(fun _ => inv, err)⦄) (x : InputField) :
    ⦃inv⦄ x.mapParts f ⦃(fun _ => inv, err)⦄ := by
  mvcgen [InputFieldOf.mapParts, step]

theorem TypeBody.mapParts_spec (step : ∀ v, ⦃inv⦄ f v ⦃(fun _ => inv, err)⦄) (b : TypeBody) :
    ⦃inv⦄ b.mapParts f ⦃(fun c => spred(inv ∧ ⌜c.sort = b.sort ∧ c.parts = b.parts⌝), err)⦄ := by
  cases b with
  | scalar onValue onLiteral =>
    mvcgen [TypeBody.mapParts, mapM_option_spec, step]
    exact with_pure ⟨rfl, rfl⟩
  | enum values ids =>
    have mapped := mapNamed_spec (EnumValueOf.mapParts_spec step) values
    mvcgen [TypeBody.mapParts, mapped]
    next same => exact with_pure ⟨rfl, same⟩
  | inputObject source held ids =>
    cases held with
    | none =>
      mvcgen [TypeBody.mapParts, Option.mapM_none, step]
      exact with_pure ⟨rfl, rfl⟩
    | some fields =>
      have mapped := mapNamed_spec (InputFieldOf.mapParts_spec step) fields
      mvcgen [TypeBody.mapParts, Option.mapM_some, step, mapped]
      next same => exact with_pure ⟨rfl, same⟩
  | other =>
    mvcgen [TypeBody.mapParts]
    exact with_pure trivial

/-- A definition with other values has the same names in it. -/
theorem TypeDef.mapParts_spec (step : ∀ v, ⦃inv⦄ f v ⦃(fun _ => inv, err)⦄) (d : TypeDef) :
    ⦃inv⦄ d.mapParts f ⦃(fun e => spred(inv ∧ ⌜e.labels = d.labels⌝), err)⦄ := by
  mvcgen [TypeDef.mapParts, step, TypeBody.mapParts_spec]
  next same => exact with_pure (congrArg₂ (Labels.mk d.name) same.1 same.2)

end Parts

/-- Computations see definitions with their names. -/
theorem Session.viewedDefs_labels (st : Session) :
    st.viewedDefs.map TypeDef.labels = st.defs.map TypeDef.labels := by
  rw [viewedDefs, List.map_map]
  refine List.map_congr_left fun d _ => ?_
  have viewed : ⦃⌜True⌝⦄ d.mapParts (m := Id) (fun v => return st.store.view v)
      ⦃⇓ e => spred(⌜True⌝ ∧ ⌜e.labels = d.labels⌝)⦄ := TypeDef.mapParts_spec (fun v => by mvcgen) d
  exact (viewed trivial).2

/-! ### Copies of definitions -/

/-- A copy that fails gives nothing, and one that does not gives something. -/
theorem CopyM.any_spec {α : Type} (x : CopyM α) : ⦃⌜True⌝⦄ x ⦃⇓? _ => ⌜True⌝⦄ := by
  intro met _
  show (wp⟦x met⟧ _).down
  cases x met with
  | error => trivial
  | ok => trivial

/-- What a copy gives that does not fail. -/
theorem CopyM.of_spec {α : Type} {x : CopyM α} {p : α → Prop} (h : ⦃⌜True⌝⦄ x ⦃⇓? a => ⌜p a⌝⦄)
    {met : Copied} {r : α × Copied} (run : x.run met = .ok r) : p r.1 := by
  have after : (wp⟦x.run met⟧ (fun r => ⌜p r.1⌝, ExceptConds.true)).down := h met trivial
  rw [run] at after
  exact after

section Copies

variable (apply : Application) (s : Shift)

theorem TypeBody.deepCopy_spec (b : TypeBody) :
    ⦃⌜True⌝⦄ b.deepCopy apply s ⦃⇓? c => ⌜c.sort = b.sort ∧ c.parts = b.parts⌝⦄ := by
  cases b with
  | scalar onValue onLiteral =>
    have first := CopyM.any_spec (onValue.mapM (·.deepCopy apply s))
    have second := CopyM.any_spec (onLiteral.mapM (·.deepCopy apply s))
    mvcgen [TypeBody.deepCopy, first, second]
  | enum values ids =>
    have copied := mapNamed_spec (fun u : EnumValue => CopyM.any_spec (u.deepCopy apply s)) values
    mvcgen [TypeBody.deepCopy, copied]
    next same => exact ⟨rfl, same.2⟩
  | inputObject source held ids =>
    have source := CopyM.any_spec (source.deepCopy apply s)
    cases held with
    | none =>
      mvcgen [TypeBody.deepCopy, Option.mapM_none, source]
    | some fields =>
      have copied := mapNamed_spec (fun x : InputField => CopyM.any_spec (x.deepCopy apply s)) fields
      mvcgen [TypeBody.deepCopy, Option.mapM_some, source, copied]
      next same => exact ⟨rfl, same.2⟩
  | other =>
    mvcgen [TypeBody.deepCopy]

/-- A copy of a definition has the same names in it. -/
theorem TypeDef.deepCopy_spec (d : TypeDef) :
    ⦃⌜True⌝⦄ d.deepCopy apply s ⦃⇓? e => ⌜e.labels = d.labels⌝⦄ := by
  have description := CopyM.any_spec (d.description.deepCopy apply s)
  have extensions := CopyM.any_spec (d.extensions.deepCopy apply s)
  mvcgen [TypeDef.deepCopy, description, extensions, TypeBody.deepCopy_spec]
  next same => exact congrArg₂ (Labels.mk d.name) same.1 same.2

/-- Copies of definitions have names that are as good as theirs, however many steps there are for them. -/
theorem copyDefs_spec {good : Labels → Prop} {defs : List TypeDef} (all : ∀ d ∈ defs, good d.labels) :
    ∀ (steps : Nat) {copies : List TypeDef}, (∀ d ∈ copies, good d.labels) →
      ⦃⌜True⌝⦄ copyDefs apply s defs steps copies ⦃⇓? es => ⌜∀ e ∈ es, good e.labels⌝⦄
  | 0, copies, before => by
    mvcgen [copyDefs]
  | steps + 1, copies, before => by
    have later (copies : List TypeDef) (h : ∀ d ∈ copies, good d.labels) := copyDefs_spec all steps h
    -- The general rule for `throw` leaves it open which monad is below the state, so there is one for this place.
    have stuck : ⦃⌜True⌝⦄ (throw .operand : CopyM (List TypeDef)) ⦃⇓? es => ⌜∀ e ∈ es, good e.labels⌝⦄ :=
      fun _ _ => trivial
    mvcgen [copyDefs, TypeDef.deepCopy_spec, later, stuck, -Spec.throw_MonadExcept]
    next d found copy =>
      have good := all d (List.mem_of_getElem? found)
      exact fun _ same => List.forall_mem_append.2 ⟨before, List.forall_mem_singleton.2 (same ▸ good)⟩

/-- What was met on the way to a copy is copied too. -/
theorem copied_spec {good : Labels → Prop} {defs : List TypeDef} (all : ∀ d ∈ defs, good d.labels) (steps : Nat)
    (v : Value) :
    ⦃⌜True⌝⦄
    (do
      let w ← v.deepCopy apply s
      let met ← get
      let copies ← copyDefs apply s (if met.types.isEmpty then [] else defs) steps []
      return (w, copies) : CopyM (Value × List TypeDef))
    ⦃⇓? r => ⌜∀ d ∈ r.2, good d.labels⌝⦄ := by
  have value := CopyM.any_spec (v.deepCopy apply s)
  have copies (some : List TypeDef) (h : ∀ d ∈ some, good d.labels) :=
    copyDefs_spec apply s h steps (List.forall_mem_nil _)
  mvcgen [value, copies]
  split
  · exact List.forall_mem_nil _
  · exact all

end Copies

/-! ### Properties that last -/

/-- A property of the names in a definition that lasts: definitions have it when they are made, and have it still
when their fields were resolved. -/
structure Lasting where
  holds : Labels → Prop
  defined {s : Schema} {d : TypeDef} (made : d.IsDefined s) : holds d.labels
  settles {s : Schema} {d e : TypeDef} (settled : s.Settles d e) (before : holds d.labels) : holds e.labels

/-- What a definition has become after a computation. -/
theorem Schema.settles_of_mem {α : Type} {s : Schema} (t : Traced α) {e : TypeDef} (mem : e ∈ (s.after t).defs) :
    ∃ d ∈ s.defs, s.Settles d e := by
  obtain ⟨i, bound, rfl⟩ := List.mem_iff_getElem.1 mem
  have before : i < s.defs.length := after_length t ▸ bound
  have defined : s.def? (s.defs[i].typeAt i) = some s.defs[i] := List.getElem?_eq_getElem before
  obtain ⟨e, there, settles, -⟩ := after_settles t defined
  obtain rfl : (s.after t).defs[i] = e := Option.some.inj ((List.getElem?_eq_getElem bound).symm.trans there)
  exact ⟨s.defs[i], List.getElem_mem before, settles⟩

/-- Whether all definitions of a session have a property. -/
def Session.All (p : Lasting) (st : Session) : Prop := ∀ d ∈ st.defs, p.holds d.labels

section Views

variable {p : Lasting} {st : Session}

theorem Session.All.viewedDefs (h : st.All p) : ∀ d ∈ st.viewedDefs, p.holds d.labels := by
  have all : ∀ names ∈ st.defs.map TypeDef.labels, p.holds names := List.forall_mem_map.2 h
  rw [← st.viewedDefs_labels] at all
  exact List.forall_mem_map.1 all

/-- Definitions have a property that lasts also after a computation on them. -/
theorem Session.All.after (h : st.All p) {α : Type} (t : Traced α) :
    ∀ d ∈ (st.schema.after t).defs, p.holds d.labels := fun e he => by
  obtain ⟨d, hd, settles⟩ := Schema.settles_of_mem t he
  exact p.settles settles (h.viewedDefs d hd)

end Views

namespace SessionM

variable {p : Lasting} {α : Type}

/-- Whether definitions still have a property after a computation, and its result has one, if there is any. -/
abbrev Ensures (p : Lasting) (m : SessionM α) (q : α → Prop) : Prop :=
  ⦃fun st => ⌜st.All p⌝⦄ m ⦃post⟨fun a st => ⌜st.All p ∧ q a⌝, fun _ st => ⌜st.All p⌝⟩⦄

/-- Whether definitions still have a property after a computation. -/
abbrev Keeps (p : Lasting) (m : SessionM α) : Prop :=
  ⦃fun st => ⌜st.All p⌝⦄ m ⦃post⟨fun _ st => ⌜st.All p⌝, fun _ st => ⌜st.All p⌝⟩⦄

theorem Ensures.keeps {m : SessionM α} {q : α → Prop} (h : Ensures p m q) : Keeps p m := by
  mvcgen [h]
  exact fun kept _ => kept

/-- A session after a computation still has a property that the computation keeps, also when it fails. -/
theorem Keeps.run {m : SessionM α} (h : Keeps p m) {st : Session} (before : st.All p) :
    (m.run.run st).2.All p := by
  cases ended : m.run.run st with
  | mk result later =>
    have after := h st before
    simp only [wp, PredTrans.apply_pushExcept, PredTrans.apply_pushArg, ended] at after
    cases result with
    | ok | error => exact after

/-- A computation apart from the session ends as it does, and leaves the session alone. -/
theorem lift_ensures {x : Except Fault α} {q : α → Prop} (h : ∀ a, x = .ok a → q a) :
    Ensures p (MonadLift.monadLift x : SessionM α) q := by
  intro st kept
  cases x with
  | ok a => exact ⟨kept, h a rfl⟩
  | error e => exact kept

@[spec]
theorem lift_spec (x : Except Fault α) : Keeps p (MonadLift.monadLift x : SessionM α) :=
  (lift_ensures (q := fun _ => True) fun _ _ => trivial).keeps

theorem mapM_keeps {β : Type} {f : α → SessionM β} (step : ∀ a, Keeps p (f a)) (xs : List α) :
    Keeps p (xs.mapM f) := by
  induction xs with
  | nil =>
    rw [List.mapM_nil]
    mvcgen
  | cons x xs ih =>
    rw [List.mapM_cons]
    mvcgen [step, ih]

theorem forM_keeps {f : α → SessionM Unit} (step : ∀ a, Keeps p (f a)) (xs : List α) :
    Keeps p (xs.forM f) := by
  induction xs with
  | nil => mvcgen [List.forM]
  | cons x xs ih => mvcgen [List.forM, step, ih]

/-! ### What is kept, and what is noted -/

@[spec]
theorem keep_spec (v : Value) : Keeps p (keep v) := by
  mvcgen [keep]

@[spec]
theorem view_spec (v : Value) : Keeps p (view v) := by
  mvcgen [view]

@[spec]
theorem present_spec (v : Value) : Keeps p (present v) := by
  mvcgen [present]

@[spec]
theorem numbering_spec (f : StateM Nat α) : Keeps p (numbering f) := by
  mvcgen [numbering]

theorem keepDef_spec (d : TypeDef) : Ensures p (keepDef d) fun e => e.labels = d.labels :=
  TypeDef.mapParts_spec keep_spec d

theorem keepDefs_spec {defs : List TypeDef} (h : ∀ d ∈ defs, p.holds d.labels) :
    Ensures p (defs.mapM keepDef) fun es => ∀ e ∈ es, p.holds e.labels :=
  mapM_spec fun d hd => by
    mvcgen [keepDef_spec]
    exact fun _ kept same => ⟨kept, same ▸ h d hd⟩

@[spec]
theorem change_spec (c : Change) : Keeps p (change c) := by
  have kept : Keeps p (keepChange c) := by
    cases c <;> mvcgen [keepChange, mapM_keeps]
  mvcgen [change, kept]

@[spec]
theorem changes_spec (cs : List Change) : Keeps p (cs.forM change) := forM_keeps change_spec cs

@[spec]
theorem noteDigests_spec (taken : Digests) : Keeps p (noteDigests taken) := by
  mvcgen [noteDigests]

@[spec]
theorem noteKey_spec (key : Value) : Keeps p (noteKey key) := by
  mvcgen [noteKey]

@[spec]
theorem noteTrace_spec (t : Traced α) : Keeps p (noteTrace t) := by
  mvcgen [noteTrace]

/-! ### Expressions -/

@[spec]
theorem newNode_spec (kind : Kind) (attrs : List (String × Value)) : Keeps p (newNode kind attrs) := by
  mvcgen [newNode]

@[spec]
theorem object_spec (name : String) : Keeps p (object name) := by
  mvcgen [object]

@[spec]
theorem ownAttr_spec (v : Value) (name : String) : Keeps p (ownAttr v name) := by
  mvcgen [ownAttr]

@[spec]
theorem typeOf_spec (t : TypeNotation) : Keeps p (typeOf t) := by
  induction t with
  | name => mvcgen [typeOf]
  | list of ih | nonNull of ih => mvcgen [typeOf, ih]

@[spec]
theorem referenceOf_spec (t : TypeNotation) : Keeps p (referenceOf t) := by
  induction t with
  | name => mvcgen [referenceOf]
  | list of ih | nonNull of ih => mvcgen [referenceOf, ih]

mutual

@[spec]
theorem eval_spec : ∀ e : Expr, Keeps p (eval e)
  | .data v => by mvcgen [eval]
  | .integer digits => by mvcgen [eval]
  | .decimal text => by mvcgen [eval]
  | .list es => by
    have all := evalAll_spec es
    mvcgen [eval, all]
  | .tuple es => by
    have all := evalAll_spec es
    mvcgen [eval, all]
  | .mapping es => by
    have all := evalEntries_spec es []
    mvcgen [eval, all]
  | .location es => by
    have all := evalAll_spec es
    mvcgen [eval, all]
  | .control name => by mvcgen [eval]
  | .named name => by mvcgen [eval]
  | .type text => by mvcgen [eval]
  | .reference text => by mvcgen [eval]
  | .node kind attrs => by
    have all := evalAttrs_spec attrs
    mvcgen [eval, all]
  | .exception kind message cause context => by
    have message := eval_spec message
    have cause := eval_spec cause
    have context := eval_spec context
    mvcgen [eval, message, cause, context]
  | .enumeration members => by
    have all := evalMembers_spec members
    have noted (members : List (String × Value)) : Keeps p (members.forM fun (_, v) => noteKey v) :=
      forM_keeps (fun (_, v) => noteKey_spec v) members
    mvcgen [eval, all, freshId, noted]
  | .delayed body => by mvcgen [eval]
  | .failing kind message => by mvcgen [eval]
  | .coercion c => by mvcgen [eval]
  | .made code => by mvcgen [eval]
  | .attribute name attr => by mvcgen [eval]

theorem evalAll_spec : ∀ es : List Expr, Keeps p (evalAll es)
  | [] => by mvcgen [evalAll]
  | e :: es => by
    have first := eval_spec e
    have rest := evalAll_spec es
    mvcgen [evalAll, first, rest]

theorem evalEntries_spec : ∀ (es : List (Expr × Expr)) (before : List Entry), Keeps p (evalEntries before es)
  | [], _ => by mvcgen [evalEntries]
  | (k, e) :: es, before => by
    have key := eval_spec k
    have value := eval_spec e
    have rest := evalEntries_spec es
    mvcgen [evalEntries, key, value, rest]

theorem evalAttrs_spec : ∀ es : List (String × Expr), Keeps p (evalAttrs es)
  | [] => by mvcgen [evalAttrs]
  | (k, e) :: es => by
    have first := eval_spec e
    have rest := evalAttrs_spec es
    mvcgen [evalAttrs, first, rest]

theorem evalMembers_spec : ∀ es : List (String × Expr), Keeps p (evalMembers es)
  | [] => by mvcgen [evalMembers]
  | (k, e) :: es => by
    have first := eval_spec e
    have rest := evalMembers_spec es
    mvcgen [evalMembers, first, rest]

end

/-! ### Definitions -/

/-- A definition can be added that has the property. -/
theorem define_spec {d : TypeDef} (h : p.holds d.labels) : Keeps p (define d) := by
  mvcgen [define, keepDef_spec]
  next kept => exact List.forall_mem_append.2 ⟨kept.1, List.forall_mem_singleton.2 (kept.2 ▸ h)⟩

@[spec]
theorem copyOf_spec (v : Value) : Keeps p (copyOf v) := by
  mvcgen [copyOf, define_spec]
  next kept d found => exact kept d (List.mem_of_getElem? found)

@[spec]
theorem deepCopyOf_spec (v : Value) : Keeps p (deepCopyOf v) := by
  have result (x : Except Fault ((Value × List TypeDef) × Copied)) :
      Ensures p (MonadLift.monadLift x : SessionM _) (x = .ok ·) := lift_ensures fun _ ended => ended
  mvcgen [deepCopyOf, result, -lift_spec, keepDefs_spec]
  · next before _ _ _ _ _ ended _ => exact CopyM.of_spec (copied_spec _ _ before.viewedDefs _ v) ended.2
  · next ended _ => exact ended.1
  · next kept _ => exact List.forall_mem_append.2 kept

/-- Numbers for objects change no names. -/
theorem numberBody_spec (b : TypeBody) :
    Ensures p (numberBody b) fun c => c.sort = b.sort ∧ c.parts = b.parts := by
  cases b with
  | enum values ids =>
    have numbered (u : EnumValue) : Keeps p (do
        let id ← numbering (numbered u.id)
        return { u with id }) := by mvcgen
    have named := mapNamed_spec numbered values
    mvcgen [numberBody, named, mapM_keeps, freshId]
    · next given => exact given.1
    · next given _ _ _ _ _ kept => exact ⟨kept, rfl, given.2⟩
  | _ => mvcgen [numberBody]

theorem defineNew_spec {d : TypeDef} (h : p.holds d.labels) : Keeps p (defineNew d) := by
  mvcgen [defineNew, numberBody_spec, define_spec, answer]
  · next body _ numbered =>
    have same : TypeDef.labels { d with body } = d.labels :=
      congrArg₂ (Labels.mk d.name) numbered.2.1 numbered.2.2
    exact same ▸ h
  · next numbered => exact numbered.1

/-- A definition is added that was made. -/
theorem defineMade_spec {m : SessionM TypeDef} (made : Ensures p m fun d => p.holds d.labels) :
    Keeps p (m >>= defineNew) := by
  mvcgen [made, defineNew_spec]
  · next kept => exact kept.1
  · exact fun _ _ good => good

/-! ### Marks of nodes -/

@[spec]
theorem marksOf_spec (node : Nat) : Keeps p (marksOf node) := by
  mvcgen [marksOf, freshId]

@[spec]
theorem digestOf_spec (v : Value) : Keeps p (digestOf v) := by
  mvcgen [digestOf]

@[spec]
theorem mark_spec (node : Nat) (name : String) (value : Value) : Keeps p (mark node name value) := by
  mvcgen [mark]

@[spec]
theorem replaceMarks_spec (node : Nat) (marks : Value) : Keeps p (replaceMarks node marks) := by
  mvcgen [replaceMarks]

/-! ### Computations on definitions -/

/-- A computation on definitions can resolve fields, and that is all that it does to them. -/
theorem traced_ensures {f : Schema → Traced α} {q : α → Prop} (h : ∀ s a, (f s).result = .ok a → q a) :
    Ensures p (traced f) q := by
  mvcgen [traced, keepDefs_spec, lift_ensures, -lift_spec]
  · next before _ _ _ _ _ _ => exact before.after _
  · next kept _ => exact kept.2
  · exact fun _ _ => h _
  · exact fun _ _ => h _

@[spec]
theorem traced_spec (f : Schema → Traced α) : Keeps p (traced f) :=
  (traced_ensures (q := fun _ => True) fun _ _ _ => trivial).keeps

@[spec]
theorem attrOf_spec (v : Value) (name : String) : Keeps p (attrOf v name) := by
  mvcgen [attrOf]

@[spec]
theorem holds_spec (v key : Value) : Keeps p (holds v key) := by
  mvcgen [holds]

@[spec]
theorem entryAt_spec (v key : Value) : Keeps p (entryAt v key) := by
  mvcgen [entryAt]

@[spec]
theorem assign_spec (v : Value) (name : String) (value : Value) : Keeps p (assign v name value) := by
  mvcgen [assign]

@[spec]
theorem keyMapOf_spec (v : Value) : Keeps p (keyMapOf v) := by
  mvcgen [keyMapOf, mapM_keeps]

@[spec]
theorem visitRule_spec (r : RuleObject) (root : Value) (keys : KeyMap) (brief : Bool) :
    Keeps p (visitRule r root keys brief) := by
  mvcgen [visitRule]

@[spec]
theorem visitWith_spec (root visitor keys : Value) (brief : Bool) :
    Keeps p (visitWith root visitor keys brief) := by
  mvcgen [visitWith, visitScripted]

@[spec]
theorem reportTo_spec (target error : Value) (fatal : Bool) : Keeps p (reportTo target error fatal) := by
  mvcgen [reportTo]

@[spec]
theorem coerceWith_spec (role : String) (scalar v : Value) : Keeps p (coerceWith role scalar v) :=
  traced_spec _

@[spec]
theorem requiresField_spec (v : Value) : Keeps p (requiresField v) := by
  mvcgen [requiresField]

end SessionM

/-! ### Operations -/

section Operations

open SessionM

variable {p : Lasting} (args : List Value)

theorem DataOperation.perform_spec (op : DataOperation) : Keeps p (op.perform args) := by
  mvcgen [DataOperation.perform]

theorem ObjectOperation.perform_spec (op : ObjectOperation) : Keeps p (op.perform args) := by
  mvcgen [ObjectOperation.perform]

theorem NodeOperation.perform_spec (op : NodeOperation) : Keeps p (op.perform args) := by
  mvcgen [NodeOperation.perform]

/-- Types are defined from definitions that were made, so they have every property that lasts. -/
theorem DefineOperation.perform_spec (op : DefineOperation) : Keeps p (op.perform args) := by
  unfold DefineOperation.perform
  split
  · exact defineMade_spec (lift_ensures fun d made => p.defined (s := Session.new.schema) (.scalar made))
  · exact defineMade_spec (traced_ensures fun s d made => p.defined (.enum made))
  · mvcgen [answer]
  · exact defineMade_spec (lift_ensures fun d made => p.defined (s := Session.new.schema) (.inputObject made))
  · mvcgen [answer]
  · exact defineMade_spec (lift_ensures fun d made => p.defined (s := Session.new.schema) (.other made))
  · mvcgen [answer]
  · mvcgen

theorem TypeOperation.perform_spec (op : TypeOperation) : Keeps p (op.perform args) := by
  mvcgen [TypeOperation.perform, wrap]

theorem ValidationOperation.perform_spec (op : ValidationOperation) : Keeps p (op.perform args) := by
  mvcgen [ValidationOperation.perform, newRule]

@[spec]
theorem Operation.perform_spec : ∀ op : Operation, Keeps p (op.perform args)
  | .object op => op.perform_spec args
  | .data op => op.perform_spec args
  | .node op => op.perform_spec args
  | .define op => op.perform_spec args
  | .type op => op.perform_spec args
  | .validation op => op.perform_spec args

end Operations

/-! ### Sessions -/

section Sessions

open SessionM

variable {p : Lasting}

/-- Nothing that a request does takes a property away: neither its arguments, nor its operation, nor its result. -/
theorem Request.run_spec (r : Request) : Keeps p r.run := by
  mvcgen [Request.run, evalAll_spec, evalNamed, mapM_keeps, settle, bindName]

/-- A session after requests, one after the other. -/
def Session.run (st : Session) (requests : List Request) : Session :=
  requests.foldl (fun st r => (st.step r).2.2) st

/-- Whether there are requests that lead from a new session to this one. -/
def Session.IsReached (st : Session) : Prop := ∃ requests, st = Session.new.run requests

/-- A request cannot take away a property that lasts. -/
theorem Session.All.step {st : Session} (h : st.All p) (r : Request) : (st.step r).2.2.All p :=
  (Request.run_spec r).run h

theorem Session.All.run {st : Session} (h : st.All p) (requests : List Request) : (st.run requests).All p := by
  induction requests generalizing st with
  | nil => exact h
  | cons r requests ih => exact ih (h.step r)

/-- All definitions of a session have a property that lasts, whatever requests led to it. -/
theorem Session.IsReached.all {st : Session} (h : st.IsReached) : st.All p := by
  obtain ⟨requests, rfl⟩ := h
  have new : Session.new.All p := fun _ mem => p.defined (s := Session.new.schema) (.builtin mem)
  exact new.run requests

end Sessions

end QueryDefaults
