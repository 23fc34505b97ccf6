import QueryDefaults.Proofs.Survey

/-!
The two ways through a document. One walk visits the whole document and ends when the rule stops it; the
other one goes through operations and variables by hand and ends when it sees a fatal error. From an open
state both make the same calls in the same order, because a walk of the rule is stopped exactly if it
leaves a fatal error (`Rule.through_settles`). Nothing is assumed of what stands in variable definitions:
what a walk does there is the same walk in both.
-/

namespace QueryDefaults

/-! ### Outlines of documents -/

/-- A definition. An operation goes by its kind, has a name or none, and nodes as variables; any other definition
goes by a kind without nodes below. -/
inductive Value.IsDefinition : Value → Prop where
  | other {n : Node} (kind : n.kind.library ≠ .operationDefinition) (leaf : n.IsLeaf) : IsDefinition (.node n)
  | operation {n : Node} {u v : Value} {vs : List Value} (kind : n.GoesBy .operationDefinition)
      (name : n.attrs.lookup "name" = some u) (named : u = .null ∨ ∃ m, u = .node m ∧ m.GoesBy .name)
      (declared : n.attrs.lookup "variable_definitions" = some v) (row : v.IsRow vs)
      (nodes : ∀ x ∈ vs, ∃ m, x = .node m) : IsDefinition (.node n)

/-- A document that goes by its kind, with definitions. -/
inductive Value.IsOutline : Value → Prop where
  | mk {n : Node} {v : Value} {ds : List Value} (kind : n.GoesBy .document)
      (definitions : n.attrs.lookup "definitions" = some v) (row : v.IsRow ds)
      (each : ∀ d ∈ ds, d.IsDefinition) : IsOutline (.node n)

theorem DeclareAll.nodes : ∀ {vs : List Value} {ds : List Declaration}, DeclareAll vs ds →
    ∀ v ∈ vs, ∃ n, v = .node n
  | _, _, .nil, _, mem => (List.not_mem_nil mem).elim
  | _, _, .cons first rest, v, mem => by
    rcases List.mem_cons.1 mem with rfl | mem
    · cases first with
      | mk => exact ⟨_, rfl⟩
    · exact rest.nodes v mem

theorem Value.Operates.isDefinition {v : Value} {o : Signature} (h : v.Operates o) : v.IsDefinition := by
  cases h with
  | mk kind _ name named declared row each =>
    exact .operation kind name named.null_or_node declared row each.nodes

/-- Every well-formed document has an outline. -/
theorem Value.IsDocument.isOutline {v : Value} {os : List Signature} (h : v.IsDocument os) :
    v.IsOutline := by
  have each : ∀ {ds : List Value} {os : List Signature}, OperateAll ds os → ∀ d ∈ ds, d.IsDefinition := by
    intro ds os operate
    induction operate with
    | nil => exact fun d mem => (List.not_mem_nil mem).elim
    | other kind leaf _ ih => exact List.forall_mem_cons.2 ⟨.other kind leaf, ih⟩
    | cons first _ ih => exact List.forall_mem_cons.2 ⟨first.isDefinition, ih⟩
  cases h with
  | mk kind definitions row operate => exact .mk kind definitions row (each operate)

/-- The items of a row are those that the walk by hand goes through. -/
theorem Value.IsRow.optionalItems {v : Value} {xs : List Value} (h : v.IsRow xs) :
    QueryDefaults.optionalItems v = .ok xs := by
  cases h with
  | none => rfl
  | tuple xs i =>
    cases xs with
    | nil => rfl
    | cons x xs =>
      obtain ⟨items, hitems, hxs⟩ := Value.items_tuple (x :: xs) i
      rw [QueryDefaults.optionalItems, if_pos (by rfl), Value.toList, hitems, ok_bind]
      exact congrArg Except.ok hxs

/-! ### The loops -/

section Loops

open RuleState (IsOpen IsClosed)

variable (s : Schema)

/-- Whether a fatal error was met is seen from a settled state. -/
theorem hasFatal_exec {stopped : Bool} {st : RuleState} (h : Settled stopped st) :
    hasFatal.exec st = (.ok stopped, st) := by
  obtain ⟨c, context, fatal⟩ : ∃ c, st.context = .context c ∧ c.fatal.truthy = stopped := by
    cases stopped with
    | true => exact h
    | false =>
      obtain ⟨c, context, fatal⟩ := h
      exact ⟨c, context, by rw [fatal]; rfl⟩
  rw [hasFatal, Walk.exec_get_bind, context]
  exact congrArg (fun b => (Except.ok b, st)) fatal

/-- The walk through values one after the other, whether it is stopped or not. -/
def throughAll (vs : List Value) : RuleM Ending := do
  let _ ← untilStopped (Rule.through s) vs
  return .done

/-- What the walk through values does at the first of them. -/
theorem throughAll_cons (v : Value) (vs : List Value) (st : RuleState) :
    (throughAll s (v :: vs)).exec st =
      match (Rule.through s v).exec st with
      | (.ok true, st') => (.ok .done, st')
      | (.ok false, st') => (throughAll s vs).exec st'
      | (.error e, st') => (.error e, st') := by
  rw [throughAll, untilStopped, bind_assoc, Walk.exec_bind]
  rcases (Rule.through s v).exec st with ⟨_ | _ | _, st'⟩ <;> rfl

/-- Variable by variable the rule goes through nodes as in one walk. -/
theorem walkVariables_exec : ∀ {vs : List Value}, (∀ v ∈ vs, ∃ n, v = .node n) →
    ∀ {st : RuleState}, st.IsOpen → (walkVariables s false vs).exec st = (throughAll s vs).exec st
  | [], _, _, _ => rfl
  | v :: vs, nodes, st, open_ => by
    obtain ⟨n, rfl⟩ := nodes v (List.mem_cons_self ..)
    rw [walkVariables, if_neg nofun, Rule.visit_node, bind_assoc, throughAll_cons, Walk.exec_bind]
    rcases run : (Rule.through s (.node n)).exec st with ⟨_ | stopped, st'⟩
    · rfl
    · have settled := Rule.through_settles s (.node n) st open_ stopped st' run
      simp only [pure_bind]
      rw [Walk.exec_bind_ok (hasFatal_exec settled)]
      cases stopped with
      | true => rfl
      | false => exact walkVariables_exec (fun v hv => nodes v (List.mem_cons_of_mem _ hv)) settled

/-- At an operation the walk by hand enters it and goes through its variables, and ends if the rule was stopped. -/
theorem walkOperation_exec {n : Node} {v : Value} {vs : List Value} (kind : n.kind.library = .operationDefinition)
    (declared : n.attrs.lookup "variable_definitions" = some v) (row : v.IsRow vs)
    (nodes : ∀ x ∈ vs, ∃ m, x = .node m) (ds : List Value) {st : RuleState} (open_ : st.IsOpen) :
    (walkOperations s false (.node n :: ds)).exec st =
      match Walk.exec (do Rule.enterOperation n; untilStopped (Rule.through s) vs) st with
      | (.ok true, st') => (.ok .done, st')
      | (.ok false, st') => (walkOperations s false ds).exec st'
      | (.error e, st') => (.error e, st') := by
  rw [walkOperations, if_pos kind, Walk.exec_bind, Walk.exec_bind]
  rcases entered : (Rule.enterOperation n).exec st with ⟨_ | _, st'⟩
  · rfl
  · have open' := Rule.enterOperation_leads n st open_ _ st' entered
    simp only [NodeOf.attr_of_lookup declared, row.optionalItems, liftM_ok, pure_bind]
    rw [Walk.exec_bind, walkVariables_exec s nodes open', throughAll, Walk.exec_bind]
    rcases run : (untilStopped (Rule.through s) vs).exec st' with ⟨_ | stopped, st''⟩
    · rfl
    · have settled : Settled stopped st'' :=
        untilStopped_settles (fun v _ => Rule.through_settles s v) st' open' stopped st'' run
      simp only [Walk.exec_pure]
      rw [Walk.exec_bind_ok (hasFatal_exec settled)]
      cases stopped <;> rfl

/-- Operation by operation the rule goes through definitions as in one walk. -/
theorem walkOperations_exec : ∀ {ds : List Value}, (∀ d ∈ ds, d.IsDefinition) →
    ∀ {st : RuleState}, st.IsOpen → (walkOperations s false ds).exec st = (throughAll s ds).exec st
  | [], _, _, _ => rfl
  | d :: ds, each, st, open_ => by
    have rest : ∀ {st' : RuleState}, st'.IsOpen →
        (walkOperations s false ds).exec st' = (throughAll s ds).exec st' :=
      walkOperations_exec fun d hd => each d (List.mem_cons_of_mem _ hd)
    rw [throughAll_cons]
    cases each d (List.mem_cons_self ..) with
    | @other n kind leaf =>
      rw [walkOperations, if_neg kind, Rule.through_leaf s leaf]
      exact rest open_
    | @operation n u v vs kind name named declared row nodes =>
      rw [walkOperation_exec s kind.kind_library declared row nodes ds open_,
        ← Rule.through_operation s kind name named declared row]
      rcases run : (Rule.through s (.node n)).exec st with ⟨_ | _ | _, st'⟩
      · rfl
      · exact rest (Rule.through_settles s (.node n) st open_ false st' run)
      · rfl

end Loops

/-! ### The two validations -/

/-- How a walk ends does not depend on what it gives. -/
theorem conclude_map {α β γ : Type} (limit : Value) (r : Except Fault α) (g : α → β) (st : RuleState)
    (f : Option β × RuleState → Traced γ) :
    conclude limit (r.map g, st) >>= f = conclude limit (r, st) >>= fun (a, st) => f (a.map g, st) := by
  cases r with
  | ok a => rw [Except.map, conclude, conclude, Traced.followedBy_bind, Traced.followedBy_bind]; rfl
  | error e => cases e <;> rfl

/-- The walk by hand through a document is the walk through its definitions. -/
theorem walkDocument_exec (s : Schema) {n : Node} {v : Value} {ds : List Value}
    (definitions : n.attrs.lookup "definitions" = some v) (row : v.IsRow ds)
    (each : ∀ d ∈ ds, d.IsDefinition) {st : RuleState} (open_ : st.IsOpen) :
    Walk.exec (do
      let definitions ← (Value.node n).attr "definitions"
      let ds ← optionalItems definitions
      walkOperations s false ds) st = (throughAll s ds).exec st := by
  have attr : (Value.node n).attr "definitions" = .ok v := NodeOf.attr_of_lookup definitions
  simp only [attr, row.optionalItems, liftM_ok, pure_bind]
  exact walkOperations_exec s each open_

/-- Walking by hand the rule comes to the same as in one walk through the document: it ends well or with
the same failure, and leaves the same state. -/
theorem walks_agree (s : Schema) {n : Node} {v : Value} {ds : List Value} (kind : n.GoesBy .document)
    (definitions : n.attrs.lookup "definitions" = some v) (row : v.IsRow ds)
    (each : ∀ d ∈ ds, d.IsDefinition) {st : RuleState} (open_ : st.IsOpen) :
    ∃ r : Except Fault Bool, ∃ st',
      (visit (Rule.visitor s true) documentKeys (.node n)).exec st =
        (r.map fun stopped => if stopped then .action .stop else .null, st') ∧
      Walk.exec (do
        let definitions ← (Value.node n).attr "definitions"
        let ds ← optionalItems definitions
        walkOperations s false ds) st = (r.map fun _ => .done, st') := by
  refine ⟨((untilStopped (Rule.through s) ds).exec st).1, ((untilStopped (Rule.through s) ds).exec st).2,
    ?_, ?_⟩
  · rw [Rule.visit_node, Rule.through_document s kind definitions row, Walk.exec_bind]
    rcases (untilStopped (Rule.through s) ds).exec st with ⟨_ | _, _⟩ <;> rfl
  · rw [walkDocument_exec s definitions row each open_, throughAll, Walk.exec_bind]
    rcases (untilStopped (Rule.through s) ds).exec st with ⟨_ | _, _⟩ <;> rfl

/-- A validation begins with an open state. -/
theorem validationContext_open {registry document limit : Value} {c : Context}
    (h : validationContext registry document limit = .ok c) (next : Nat) :
    RuleState.IsOpen { context := .context c, next } := by
  rw [validationContext] at h
  split at h
  · cases h
  · cases types : checkRegistry registry with
    | error e =>
      rw [types] at h
      cases h
    | ok _ =>
      cases bound : errorLimit limit with
      | error e =>
        rw [types, bound] at h
        cases h
      | ok _ =>
        rw [types, bound] at h
        cases h
        exact ⟨_, rfl, rfl⟩

/-- A validation that is not cancelled comes variable by variable to exactly what it comes to in one walk:
to the same result or the same failure, with the same records on the way. -/
theorem Schema.validateStepwise_eq (s : Schema) (registry limit : Value) {document : Value}
    (outline : document.IsOutline) :
    s.validateStepwise false registry document limit = (some ·) <$> s.validate registry document limit := by
  obtain ⟨kind, definitions, row, each⟩ := outline
  rw [map_eq_pure_bind, validateStepwise, validate]
  cases context : validationContext registry _ limit with
  | error e => rfl
  | ok c =>
    obtain ⟨r, st, visited, walked⟩ :=
      walks_agree s kind definitions row each (validationContext_open context s.next)
    rw [Walk.exec] at visited walked
    have begun : (liftM (Except.ok c : Except Fault Context) : Traced Context) = pure c := rfl
    simp only [begun, pure_bind, bind_assoc]
    rw [visited, walked, conclude_map, conclude_map]
    refine bind_congr fun ended => ?_
    rcases ended with ⟨_ | _, _⟩ <;> rfl

/-- An operation with a label that must not have a default. -/
def labelOperation : Signature := ⟨.query, none, [
  { name := "label", type := .nonNull (.named "String"), default := some (.textNode .stringValue "a") }]⟩

theorem labelOperation_sound : ∀ d ∈ labelOperation.declared, d.IsSound := by
  refine List.forall_mem_singleton.2 ⟨rfl, rfl, rfl, ?_⟩
  rintro v ⟨⟩
  exact Value.textNode_isLiteral (by decide) "a"

/-- Without room for any error both validations of the label stop at its error. -/
theorem validateStepwise_label :
    treeSchema.validateStepwise false (.registry treeTypes) (documentNode [labelOperation]) (.int 0) =
      (some ·) <$> treeSchema.validate (.registry treeTypes) (documentNode [labelOperation]) (.int 0) :=
  Schema.validateStepwise_eq _ _ _
    (documentNode_isDocument (List.forall_mem_singleton.2 labelOperation_sound)).isOutline

/-! ### Documents and operations under other names -/

/-- The node of that operation if it is of a kind. -/
def labelNode (k : Kind) : Node :=
  .made k [("operation", .operation .query), ("name", .null),
    ("variable_definitions", .tuple (labelOperation.declared.map (·.node)))]

/-- The walk by hand finds the error in a document with this operation, whatever the kinds of both are called. -/
theorem validateStepwise_labelNode {n : Node} {k : Kind} (operation : k.library = .operationDefinition)
    (definitions : n.attrs.lookup "definitions" = some (.tuple [.node (labelNode k)]))
    (begun : validationContext (.registry treeTypes) (.node n) .null =
      .ok (Context.begin (.registry treeTypes) (.node n) none)) :
    ∃ e, (treeSchema.validateStepwise false (.registry treeTypes) (.node n) .null).result =
      .ok (some (resultOf [e] .null)) := by
  have declare := declareAll_nodes labelOperation_sound
  obtain ⟨c, e, surveyed, outcome⟩ : ∃ c : Context, ∃ e,
      survey treeSchema treeTypes (labelOperation.declared.map (⟨·, (labelOperation.path treeSchema.next).1⟩))
        (Context.begin (.registry treeTypes) (.node n) none) = (.ok false, c) ∧
      c.outcome = resultOf [e] .null := ⟨_, _, rfl, rfl⟩
  obtain ⟨i, j, path⟩ := labelOperation.path_eq treeSchema.next
  obtain ⟨st, run, context, _⟩ := @throughVariables_comes treeSchema treeTypes 0 0 _ j _ _ declare
    { context := .context (Context.begin (.registry treeTypes) (.node n) none),
      path := (labelOperation.path treeSchema.next).1, next := (labelOperation.path treeSchema.next).2 }
    _ rfl path rfl
  rw [surveyed] at run context
  have opened := validationContext_open begun treeSchema.next
  have walked := walkOperation_exec treeSchema (n := labelNode k) operation rfl (.tuple _ _) declare.nodes [] opened
  rw [Walk.exec_bind, enterOperation_exec (o := labelOperation) rfl rfl .none] at walked
  dsimp only at walked
  rw [run] at walked
  have attr : (Value.node n).attr "definitions" = .ok (.tuple [.node (labelNode k)]) :=
    NodeOf.attr_of_lookup definitions
  have items : optionalItems (.tuple [.node (labelNode k)]) = .ok [.node (labelNode k)] :=
    Value.IsRow.optionalItems (.tuple _ _)
  have going : ¬ (some Ending.done = some .cancelled) := by decide
  refine ⟨e, ?_⟩
  rw [Schema.validateStepwise, Traced.result_bind_ok begun]
  simp only [attr, items, liftM_ok, pure_bind]
  have ended : (conclude .null ((Except.ok Ending.done : Except Fault Ending), st)).result =
    .ok (some .done, st) := rfl
  rw [Walk.exec] at walked
  rw [walked]
  dsimp only
  rw [walkOperations, Walk.exec_pure, Traced.result_bind_ok ended, if_neg going, context]
  exact (Traced.result_bind_ok (concludeWith_result c) _).trans (congrArg (Except.ok ∘ some) outcome)

/-- A document with that operation whose attribute `kind` says that it is a name. -/
def renamedDocument : Node :=
  .made .document [("definitions", .tuple [.node (labelNode .operationDefinition)]), ("kind", .word "name")]

/-- The kind of a class that a caller derived from that of operations. -/
def persistedKind : Kind := .derived .operationDefinition "PersistedOperationNode"

/-- A document with that operation, of the derived class. -/
def persistedDocument : Node := .made .document [("definitions", .tuple [.node (labelNode persistedKind)])]

/-- One walk goes by what nodes are called, and finds nothing in a document that is called a name, nor in an operation
of a derived class; the walk by hand goes by what they are. -/
theorem validateStepwise_renamed :
    ((treeSchema.validate (.registry treeTypes) (.node renamedDocument) .null).result =
        .ok (resultOf [] .null) ∧
      ∃ e, (treeSchema.validateStepwise false (.registry treeTypes) (.node renamedDocument) .null).result =
        .ok (some (resultOf [e] .null))) ∧
    (treeSchema.validate (.registry treeTypes) (.node persistedDocument) .null).result =
        .ok (resultOf [] .null) ∧
      ∃ e, (treeSchema.validateStepwise false (.registry treeTypes) (.node persistedDocument) .null).result =
        .ok (some (resultOf [e] .null)) := by
  have begun : validationContext (.registry treeTypes) (.node renamedDocument) .null =
    .ok (Context.begin (.registry treeTypes) (.node renamedDocument) none) := rfl
  have begun' : validationContext (.registry treeTypes) (.node persistedDocument) .null =
    .ok (Context.begin (.registry treeTypes) (.node persistedDocument) none) := rfl
  refine ⟨⟨?_, validateStepwise_labelNode rfl rfl begun⟩, ?_, validateStepwise_labelNode rfl rfl begun'⟩
  · have named : renamedDocument.IsLeaf := ⟨"name", _, rfl, fun k known => by cases known; rfl⟩
    rw [Schema.validate, Traced.result_bind_ok begun, Rule.visit_node, Rule.through_leaf treeSchema named]
    rfl
  · have unknown : (labelNode persistedKind).IsLeaf := ⟨"persisted_operation", _, rfl, fun k known => by cases known⟩
    have passed : Rule.through treeSchema (.node persistedDocument) = pure false := by
      rw [Rule.through_document treeSchema (n := persistedDocument) ⟨rfl, rfl, rfl⟩ rfl (.tuple _ _)]
      exact (untilStopped_singleton _).trans (Rule.through_leaf treeSchema unknown)
    rw [Schema.validate, Traced.result_bind_ok begun', Rule.visit_node, passed]
    rfl

end QueryDefaults
