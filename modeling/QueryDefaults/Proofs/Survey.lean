import QueryDefaults.Proofs.Declared
import QueryDefaults.Proofs.Stops

/-!
What the rule finds in a document. At each variable there is one of four things to find (`finding`): its
type is not registered, its default is at fault, its check fails without a verdict, or it passes. `survey`
goes through the variables with the context alone, and a walk of the rule does just that
(`visit_survey`): what it logs, the numbers that it uses and all else in its state have no part in it.
-/

namespace QueryDefaults

/-! ### Errors about variables -/

/-- The places of a literal as an error keeps them: a list of its own one, or null if it has none. -/
def Value.places (v : Value) : Value :=
  match v.attr "loc" with
  | .ok place => if place.truthy then .list [place] else .null
  | .error _ => .null

namespace Variable

/-- The error that the type of a variable is not registered. -/
def undefinedError (x : Variable) : GraphQLError :=
  .ofMessage (.str (sentence [x.type.name, " isn't a defined input type (on $", x.name, ")"]))

/-- An error about the default of a variable. -/
def errorAt (x : Variable) (v message : Value) (details : List (String × Value)) : GraphQLError where
  message
  nodes := .list [v]
  locations := v.places
  path := x.path
  underlying := .null
  extensions := .ofEntries details
  cause := .null
  context := .null

/-- The error that a non-null variable has a default. -/
def nonNullError (x : Variable) (v : Value) : GraphQLError :=
  x.errorAt v (.str (sentence ["Non-null variable $", x.name, " can't have a default value"]))
    [("code", .word ErrorCode.invalidOnNonNullVariable.text), ("variableName", .str x.name x.nameId)]

/-- The error that a default does not conform, with the message of the scalar if there is one. -/
def invalidError (x : Variable) (v : Value) (invalid : InvalidLiteral) : GraphQLError :=
  x.errorAt v
    (if invalid.message.truthy then invalid.message
      else .str (sentence ["Default value for $", x.name, " doesn't match type ", x.type.text]))
    [("code", .word ErrorCode.invalidType.text), ("variableName", .str x.name x.nameId),
      ("typeName", .str x.type.text x.typeId)]

end Variable

/-! ### Findings -/

/-- What there is to find at a variable. -/
inductive Finding where
  | passes
  | undefined (e : GraphQLError)
  | faulty (e : GraphQLError)
  | broken (f : Fault)

/-- What is found at a variable. -/
def Variable.finding (s : Schema) (types : List NamedType) (x : Variable) : Finding :=
  match x.type.type? types, x.default with
  | none, _ => .undefined x.undefinedError
  | some _, none => .passes
  | some t, some v =>
    if x.type.isNonNull then .faulty (x.nonNullError v) else
      match (s.check v t).result with
      | .ok none => .passes
      | .ok (some invalid) => .faulty (x.invalidError v invalid)
      | .error f => .broken f

theorem Variable.finding_of_default {s : Schema} {types : List NamedType} {x : Variable} {t : Ty}
    {v : Value} (stands : x.type.type? types = some t) (default : x.default = some v)
    (nullable : x.type.isNonNull = false) :
    x.finding s types =
      match (s.check v t).result with
      | .ok none => .passes
      | .ok (some invalid) => .faulty (x.invalidError v invalid)
      | .error f => .broken f := by
  rw [finding, stands, default]
  simp only [nullable, Bool.false_eq_true, if_false]

theorem Variable.finding_path {s : Schema} {types : List NamedType} {x : Variable} {e : GraphQLError}
    (h : x.finding s types = .faulty e) : e.path = x.path := by
  rw [finding] at h
  split at h
  · cases h
  · cases h
  · split at h
    · cases h
      rfl
    · split at h
      · cases h
      · cases h
        rfl
      · cases h

/-- What a finding makes of a context: whether the walk goes on after it, and the context then. -/
def Finding.enter (c : Context) : Finding → Except Fault Bool × Context
  | passes => (.ok false, c)
  | undefined e => (.ok true, c.reportFatal (.error e))
  | faulty e => ((c.report (.error e)).1.map fun _ => false, (c.report (.error e)).2)
  | broken f => (.error f, c)

/-- Goes through variables with a context up to the first one that stops or fails. -/
def survey (s : Schema) (types : List NamedType) : List Variable → Context → Except Fault Bool × Context
  | [], c => (.ok false, c)
  | x :: xs, c =>
    match (x.finding s types).enter c with
    | (.ok false, c') => survey s types xs c'
    | ended => ended

/-! ### The rule at a variable -/

/-- The places of a well-formed node can be told. -/
theorem locationsOf_made {n : Node} {k : Kind} (made : n.IsMade k) :
    locationsOf (.list [.node n]) = .ok (Value.node n).places := by
  have attr : ∀ {v : Value}, n.attrs.lookup "loc" = some v → (Value.node n).attr "loc" = .ok v :=
    fun h => NodeOf.attr_of_lookup h
  rcases made.placed with h | ⟨line, column, id, h⟩
  · rw [locationsOf, List.mapM_cons, attr h, Value.places, attr h]
    rfl
  · rw [locationsOf, List.mapM_cons, attr h, Value.places, attr h]
    rfl

/-- An error about a default is made as it is described. -/
theorem make_errorAt {n : Node} {k : Kind} (made : n.IsMade k) (x : Variable) {p : Value} {j : Nat}
    (path : x.path = .list [p] j) (message : Value) (d : String × Value) (ds : List (String × Value)) :
    GraphQLError.make message (.node n) x.path .null (.ofEntries (d :: ds)) =
      .ok (x.errorAt (.node n) message (d :: ds)) := by
  have nodes : nodeList (.node n) = .list [.node n] := rfl
  have kept : pathList x.path = .ok x.path := by rw [path]; rfl
  rw [GraphQLError.make, nodes, locationsOf_made made, kept, Variable.errorAt]
  rfl

namespace Rule

variable {s : Schema} {types : List NamedType} {x : Variable} {st : RuleState} {c : Context} {n : Node}

/-- What a step of the rule comes to: a result, and a state with a context that has the path and the next
number of the state before. -/
def Comes {α : Type} (m : RuleM α) (st : RuleState) (r : Except Fault α) (c : Context) : Prop :=
  ∃ st', m.exec st = (r, st') ∧ st'.context = .context c ∧ st'.path = st.path ∧ st'.next = st.next

theorem Comes.lift {α β : Type} {e : Except Fault α} {a : α} {f : α → RuleM β} {r : Except Fault β}
    (h : e = .ok a) (rest : Comes (f a) st r c) : Comes (liftM e >>= f) st r c := by
  rw [h, liftM_ok, pure_bind]
  exact rest

theorem Comes.trace {α β : Type} {t : Traced α} {a : α} {f : α → RuleM β} {r : Except Fault β}
    (h : t.result = .ok a) (rest : Comes (f a) (st.add t) r c) : Comes (Rule.trace t >>= f) st r c := by
  rw [Comes, Walk.exec_bind, exec_trace, h]
  exact rest

/-- What comes after a step that has come to a result. -/
theorem Comes.map {α β : Type} {m : RuleM α} {r : Except Fault α} (h : Comes m st r c) (f : α → β) :
    Comes (m >>= fun a => pure (f a)) st (r.map f) c := by
  obtain ⟨st', run, rest⟩ := h
  refine ⟨st', ?_, rest⟩
  rw [Walk.exec_bind, run]
  cases r <;> rfl

theorem Comes.bind {α β : Type} {m : RuleM α} {a : α} {f : α → RuleM β} {r : Except Fault β}
    {c' : Context} (h : Comes m st (.ok a) c)
    (rest : ∀ st' : RuleState, st'.context = .context c → st'.path = st.path → st'.next = st.next →
      Comes (f a) st' r c') : Comes (m >>= f) st r c' := by
  obtain ⟨st', run, context, path, next⟩ := h
  obtain ⟨st'', run', context', path', next'⟩ := rest st' context path next
  exact ⟨st'', (Walk.exec_bind_ok run f).trans run', context', path'.trans path, next'.trans next⟩

theorem Comes.bind_error {α β : Type} {m : RuleM α} {e : Fault} {f : α → RuleM β}
    (h : Comes m st (.error e) c) : Comes (m >>= f) st (.error e) c := by
  obtain ⟨st', run, rest⟩ := h
  exact ⟨st', Walk.exec_bind_error run f, rest⟩

/-- A computation that fails ends a step, and the state keeps its context. -/
theorem Comes.trace_error {α β : Type} {t : Traced α} {e : Fault} {f : α → RuleM β}
    (h : t.result = .error e) (context : st.context = .context c) :
    Comes (Rule.trace t >>= f) st (.error e) c := by
  rw [Comes, Walk.exec_bind, exec_trace, h]
  exact ⟨_, rfl, context, rfl, rfl⟩

theorem Comes.trans_eq {α : Type} {m : RuleM α} {r r' : Except Fault α} (h : Comes m st r c)
    (same : r = r') : Comes m st r' c := same ▸ h

/-- The answer after a report: the walk goes on without what is below. -/
theorem skips (r : Except Fault Unit) :
    (r.map fun _ => Value.action .skip) =
      (r.map fun _ => false).map fun stopped => if stopped then .action .stop else .action .skip := by
  cases r <;> rfl

theorem display_text (text : String) (i : Nat) : (Value.str text i).display = .ok text := rfl

/-- A state in which the rule is at a variable: it has a context and the path of the variable. -/
structure IsAt (x : Variable) (c : Context) (st : RuleState) : Prop where
  context : st.context = .context c
  path : st.path = x.path

theorem IsAt.add {α : Type} (here : IsAt x c st) (t : Traced α) : IsAt x c (st.add t) :=
  ⟨here.context, here.path⟩

theorem diagnose_comes {k : Kind} (made : n.IsMade k) {p : Value} {j : Nat} (path : x.path = .list [p] j)
    (here : IsAt x c st) (message : Value) (d : String × Value) (ds : List (String × Value)) :
    Comes (diagnose s message (.node n) (d :: ds)) st
      (c.report (.error (x.errorAt (.node n) message (d :: ds)))).1
      (c.report (.error (x.errorAt (.node n) message (d :: ds)))).2 := by
  have made := make_errorAt made x path message d ds
  rw [← here.path] at made
  refine ⟨{ st with context := .context (c.report (.error (x.errorAt (.node n) message (d :: ds)))).2 },
    ?_, rfl, rfl, rfl⟩
  rw [diagnose, Walk.exec_get_bind, made, liftM_ok, pure_bind, exec_report, here.context]
  rfl

theorem undefinedType_comes {r : Value} {i : Nat} (reference : r.IsReference x.type)
    (here : IsAt x c st) :
    Comes (undefinedType s (.str x.name i) r) st (.ok (.action .stop))
      (c.reportFatal (.error x.undefinedError)) := by
  obtain ⟨base, j, hbase, hname⟩ := reference.namedReference
  refine .lift hbase (.lift hname (.trace rfl (.lift (display_text _ _) (.lift (display_text _ _) ?_))))
  rw [Comes, Walk.exec_bind, exec_report, RuleState.add, here.context]
  exact ⟨_, rfl, rfl, rfl, rfl⟩

theorem nonNullDefault_comes {k : Kind} (made : n.IsMade k) {p : Value} {j : Nat}
    (path : x.path = .list [p] j) (here : IsAt x c st) :
    Comes (nonNullDefault s (.str x.name x.nameId) (.node n)) st
      ((c.report (.error (x.nonNullError (.node n)))).1.map fun _ => .action .skip)
      (c.report (.error (x.nonNullError (.node n)))).2 :=
  .lift (display_text _ _) ((diagnose_comes made path here ..).map _)

theorem invalidDefault_comes {r : Value} {k : Kind} (made : n.IsMade k) {p : Value} {j : Nat}
    (path : x.path = .list [p] j) (written : r.print = .ok (.str x.type.text x.typeId))
    (here : IsAt x c st) (invalid : InvalidLiteral) :
    Comes (invalidDefault s (.str x.name x.nameId) (.node n) r invalid) st
      (c.report (.error (x.invalidError (.node n) invalid))).1
      (c.report (.error (x.invalidError (.node n) invalid))).2 := by
  refine .lift written (.trace rfl ?_)
  rw [Variable.invalidError]
  dsimp only
  split
  · rw [pure_bind]
    exact diagnose_comes made path (here.add _) ..
  · refine .lift (display_text _ _) (.lift (display_text _ _) ?_)
    rw [pure_bind]
    exact diagnose_comes made path (here.add _) ..

/-- What the rule answers at a variable definition, and what it leaves, is told by what there is to find. -/
theorem enterVariable_comes (declares : (Value.node n).Declares x.toDeclaration) {p : Value} {j : Nat}
    (path : x.path = .list [p] j) (here : IsAt x c st) {mapId id : Nat}
    (registry : c.registry = .registry types mapId id) :
    Comes (enterVariable s n) st
      (((x.finding s types).enter c).1.map fun stopped => if stopped then .action .stop else .action .skip)
      ((x.finding s types).enter c).2 := by
  cases declares with
  | @mk _ m k r w _ kind target label name type reference written initial literal =>
    have named : (Value.node m).nameValue = .ok (.str x.name x.nameId) := by
      rw [Value.nameValue, Value.attr, NodeOf.attr_of_lookup label]
      exact NodeOf.attr_of_lookup name
    have asked : (s.attr st.context "registry").result = .ok (.registry types mapId id) := by
      rw [here.context, ← registry]
      rfl
    refine .lift (NodeOf.attr_of_lookup target) (.lift named ?_)
    refine .trace asked (.lift (NodeOf.attr_of_lookup type) (.trace reference.resolve ?_))
    have here := (here.add (s.attr st.context "registry")).add (s.resolve (.registry types mapId id) r)
    rw [Variable.finding]
    cases stands : x.type.type? types with
    | none => exact undefinedType_comes reference here
    | some t =>
      have defined : (!(typeOrNull (some t)).truthy) = false := rfl
      rw [defined, if_neg Bool.false_ne_true]
      refine .lift (NodeOf.attr_of_lookup initial) ?_
      rcases literal.none_or_literal with ⟨none, rfl⟩ | ⟨some, literal⟩
      · rw [none]
        exact ⟨_, rfl, here.context, rfl, rfl⟩
      · rw [some]
        obtain ⟨l, kl, rfl, made⟩ := literal.made
        have given : (Value.node l).isNull = false := rfl
        rw [given, if_neg Bool.false_ne_true]
        refine .trace rfl ?_
        have here := here.add (Traced.log ⟨.rule, sentence ["Checking default value of variable $",
          logText (.str x.name x.nameId), "."], Option.none⟩)
        have nonNull : (typeOrNull (Option.some t)).isNonNullType = x.type.isNonNull :=
          TypeRef.type?_isNonNull stands
        rw [nonNull]
        simp only
        split
        · exact (nonNullDefault_comes made path here).trans_eq (skips _)
        · have checked : s.checkValue (.node l) (typeOrNull (Option.some t)) = s.check (.node l) t := rfl
          rw [checked]
          cases verdict : (s.check (.node l) t).result with
          | error f => exact .trace_error verdict here.context
          | ok verdict' =>
            refine .trace verdict ?_
            cases verdict' with
            | none => exact ⟨_, rfl, here.context, rfl, rfl⟩
            | some invalid =>
              exact ((invalidDefault_comes made path written (here.add _) invalid).map _).trans_eq (skips _)

/-- The walk through a variable definition. -/
theorem through_variable_comes {v : Value} (declares : v.Declares x.toDeclaration) {p : Value} {j : Nat}
    (path : x.path = .list [p] j) (here : IsAt x c st) {mapId id : Nat}
    (registry : c.registry = .registry types mapId id) :
    Comes (through s v) st ((x.finding s types).enter c).1 ((x.finding s types).enter c).2 := by
  obtain ⟨n, rfl, kind⟩ : ∃ n, v = .node n ∧ n.GoesBy .variableDefinition := by
    cases declares with
    | mk kind => exact ⟨_, rfl, kind⟩
  obtain ⟨st', run, rest⟩ := enterVariable_comes (s := s) declares path here registry
  refine ⟨st', ?_, rest⟩
  rw [through, walk_node (visitor_still s), reply_variable s kind, bind_assoc, Walk.exec_bind, run]
  rcases ((x.finding s types).enter c).1 with _ | _ | _ <;> rfl

end Rule

/-! ### Runs through documents -/

theorem ContextOf.report_registry (c : Context) (e : Value) : (c.report e).2.registry = c.registry := by
  rw [ContextOf.report]
  cases c.sink with
  | keep => rfl
  | handOn limit =>
    simp only
    split <;> rw [ContextOf.handOn] <;> split <;> rfl

theorem Finding.enter_registry (c : Context) (f : Finding) : (f.enter c).2.registry = c.registry := by
  cases f with
  | passes => rfl
  | undefined e => rw [Finding.enter, ContextOf.reportFatal]; split <;> rfl
  | faulty e => exact c.report_registry (.error e)
  | broken f => rfl

theorem survey_append (s : Schema) (types : List NamedType) :
    ∀ (xs ys : List Variable) (c : Context), survey s types (xs ++ ys) c =
      match survey s types xs c with
      | (.ok false, c') => survey s types ys c'
      | ended => ended
  | [], _, _ => rfl
  | x :: xs, ys, c => by
    rw [List.cons_append, survey, survey]
    rcases (x.finding s types).enter c with ⟨_ | _ | _, c'⟩
    · rfl
    · exact survey_append s types xs ys c'
    · rfl

theorem survey_registry (s : Schema) (types : List NamedType) :
    ∀ (xs : List Variable) (c : Context), (survey s types xs c).2.registry = c.registry
  | [], _ => rfl
  | x :: xs, c => by
    have entered := (x.finding s types).enter_registry c
    rw [survey]
    rcases h : (x.finding s types).enter c with ⟨_ | _ | _, c'⟩
    · rw [h] at entered
      exact entered
    · rw [h] at entered
      exact (survey_registry s types xs c').trans entered
    · rw [h] at entered
      exact entered

section Runs

variable {s : Schema} {types : List NamedType} {mapId id : Nat}

/-- The walk through the variables of an operation surveys them. -/
theorem throughVariables_comes {p : Value} {j : Nat} {vs : List Value} {ds : List Declaration}
    (declare : DeclareAll vs ds) {st : RuleState} {c : Context} (context : st.context = .context c)
    (path : st.path = .list [p] j) (registry : c.registry = .registry types mapId id) :
    Rule.Comes (untilStopped (Rule.through s) vs) st (survey s types (ds.map (⟨·, st.path⟩)) c).1
      (survey s types (ds.map (⟨·, st.path⟩)) c).2 := by
  induction declare generalizing st c with
  | nil => exact ⟨st, rfl, context, rfl, rfl⟩
  | @cons _ _ d _ first rest ih =>
    have came := @Rule.through_variable_comes s types ⟨d, st.path⟩ st c _ first _ _ path ⟨context, rfl⟩ _ _
      registry
    have kept := Finding.enter_registry c (Variable.finding s types ⟨d, st.path⟩)
    rw [List.map_cons, survey, untilStopped]
    rcases h : (Variable.finding s types ⟨d, st.path⟩).enter c with ⟨_ | _ | _, c'⟩
    · rw [h] at came
      exact came.bind_error
    · rw [h] at came kept
      refine came.bind fun st' context' path' _ => ?_
      have later := ih context' (path'.trans path) (kept.trans registry)
      rw [path'] at later
      exact later
    · rw [h] at came
      exact came.bind fun st' context' _ _ => ⟨st', rfl, context', rfl, rfl⟩

/-- Entering an operation sets the path, and touches nothing else but the next number. -/
theorem enterOperation_exec {n : Node} {u : Value} {o : Signature}
    (type : n.attrs.lookup "operation" = some (.operation o.type)) (name : n.attrs.lookup "name" = some u)
    (named : u.IsNameOf o.name) (st : RuleState) :
    (Rule.enterOperation n).exec st =
      (.ok (), { st with path := (o.path st.next).1, next := (o.path st.next).2 }) := by
  have label : Rule.operationName n = .ok o.label := by
    have keyword : (Value.operation o.type).attr "value" = .ok (.word o.type.text) := rfl
    rw [Rule.operationName, NodeOf.attr_of_lookup type, ok_bind, keyword, ok_bind,
      NodeOf.attr_of_lookup name, ok_bind, Signature.label]
    cases o with
    | mk type name declared =>
      cases named with
      | none => rfl
      | some named =>
        obtain ⟨i, hi⟩ := named.value
        rw [hi]
        cases named with
        | mk => rfl
  rw [Rule.enterOperation, label, liftM_ok, pure_bind]
  rfl

/-- The walk through an operation surveys its variables. -/
theorem throughOperation_exec {v : Value} {o : Signature} (operates : v.Operates o) {st : RuleState}
    {c : Context} (context : st.context = .context c) (registry : c.registry = .registry types mapId id) :
    ∃ st', (Rule.through s v).exec st =
        ((survey s types (o.declared.map (⟨·, (o.path st.next).1⟩)) c).1, st') ∧
      st'.context = .context (survey s types (o.declared.map (⟨·, (o.path st.next).1⟩)) c).2 ∧
      st'.next = (o.path st.next).2 := by
  cases operates with
  | mk kind type name named declared row each =>
    obtain ⟨i, j, path⟩ := o.path_eq st.next
    rw [Rule.through_operation s kind name named.null_or_node declared row, Walk.exec_bind,
      enterOperation_exec type name named]
    obtain ⟨st', run, context', _, next'⟩ := @throughVariables_comes s types mapId id _ j _ _ each
      { st with path := (o.path st.next).1, next := (o.path st.next).2 } c context path registry
    exact ⟨st', run, context', next'⟩

/-- The walk through definitions surveys the variables of the operations among them. -/
theorem throughDefinitions_exec {vs : List Value} {os : List Signature} (operate : OperateAll vs os)
    {st : RuleState} {c : Context} (context : st.context = .context c)
    (registry : c.registry = .registry types mapId id) :
    ∃ st', (untilStopped (Rule.through s) vs).exec st =
        ((survey s types (variablesOf st.next os) c).1, st') ∧
      st'.context = .context (survey s types (variablesOf st.next os) c).2 := by
  induction operate generalizing st c with
  | nil => exact ⟨st, rfl, context⟩
  | other _ leaf _ ih =>
    rw [untilStopped, Rule.through_leaf s leaf, pure_bind]
    exact ih context registry
  | @cons v _ o _ first _ ih =>
    obtain ⟨st', run, context', next'⟩ := throughOperation_exec (s := s) first context registry
    have kept := survey_registry s types (o.declared.map (⟨·, (o.path st.next).1⟩)) c
    rw [untilStopped, Walk.exec_bind, run, variablesOf, survey_append]
    rcases h : survey s types (o.declared.map (⟨·, (o.path st.next).1⟩)) c with ⟨_ | _ | _, c'⟩
    · rw [h] at context'
      exact ⟨st', rfl, context'⟩
    · rw [h] at context' kept
      rw [← next']
      exact ih context' (kept.trans registry)
    · rw [h] at context'
      exact ⟨st', rfl, context'⟩

/-- A visit of a document surveys its variables. -/
theorem visit_survey {document : Value} {os : List Signature} (doc : document.IsDocument os)
    {st : RuleState} {c : Context} (context : st.context = .context c)
    (registry : c.registry = .registry types mapId id) :
    ∃ st', (visit (Rule.visitor s true) documentKeys document).exec st =
        ((survey s types (variablesOf st.next os) c).1.map fun stopped =>
          if stopped then .action .stop else .null, st') ∧
      st'.context = .context (survey s types (variablesOf st.next os) c).2 := by
  cases doc with
  | @mk n _ _ _ kind definitions row each =>
    obtain ⟨st', run, context'⟩ := throughDefinitions_exec (s := s) each context registry
    refine ⟨st', ?_, context'⟩
    rw [Rule.visit_node, Rule.through_document s kind definitions row, Walk.exec_bind, run]
    rcases (survey s types (variablesOf st.next os) c).1 with _ | _ <;> rfl

/-! ### Validations -/

/-- The context that a validation begins with. -/
def Context.begin (registry document : Value) (bound : Option Int) : Context :=
  { registry, document, sink := .handOn bound, fatal := .null }

/-- What a validation comes to with a context: a fatal error drops all others. -/
def ContextOf.outcome (c : Context) : Value :=
  if c.fatal.truthy then resultOf [] c.fatal else resultOf c.reported .null

/-- What a validation comes to after a survey: reaching the limit is no failure. -/
def closing : Except Fault Bool × Context → Except Fault Value
  | (.ok _, c) | (.error .limitReached, c) => .ok c.outcome
  | (.error f, _) => .error f

theorem validationContext_document {document : Value} {os : List Signature}
    (doc : document.IsDocument os) {limit : Value} {bound : Option Int} (h : errorLimit limit = .ok bound) :
    validationContext (.registry types mapId id) document limit =
      .ok (Context.begin (.registry types mapId id) document bound) := by
  cases doc with
  | mk kind =>
    rw [validationContext, if_neg (by rw [kind.isA]; decide), h]
    rfl

theorem concludeWith_result (c : Context) : (concludeWith c).result = .ok c.outcome := by
  rw [concludeWith, ContextOf.outcome]
  cases c.fatal.truthy <;> rfl

/-- The end of a walk that leaves a context gives what the validation comes to. -/
theorem conclude_result {α : Type} (limit : Value) (r : Except Fault Bool) (g : Bool → α) {c : Context}
    {st : RuleState} (context : st.context = .context c) (d : Context) :
    (conclude limit (r.map g, st) >>= fun (_, st) => concludeWith (st.context.context?.getD d)).result =
      closing (r, c) := by
  have left : (concludeWith (st.context.context?.getD d)).result = .ok c.outcome := by
    rw [context]
    exact concludeWith_result c
  cases r with
  | ok b =>
    have ended : (conclude limit ((Except.ok b : Except Fault Bool).map g, st)).result =
      .ok (some (g b), st) := rfl
    rw [Traced.result_bind_ok ended]
    exact left
  | error f =>
    cases f with
    | limitReached =>
      have ended : (conclude limit ((Except.error .limitReached : Except Fault Bool).map g, st)).result =
        .ok (none, st) := rfl
      rw [Traced.result_bind_ok ended]
      exact left
    | _ => rfl

/-- A validation comes to what a survey of the variables of its document comes to. -/
theorem Schema.validate_result {document : Value} {os : List Signature} (doc : document.IsDocument os)
    {limit : Value} {bound : Option Int} (h : errorLimit limit = .ok bound) :
    (s.validate (.registry types mapId id) document limit).result =
      closing (survey s types (variablesOf s.next os)
        (Context.begin (.registry types mapId id) document bound)) := by
  have begun := @validationContext_document types mapId id document os doc limit bound h
  obtain ⟨st, run, context⟩ := @visit_survey s types mapId id document os doc
    { context := .context (Context.begin (.registry types mapId id) document bound), next := s.next }
    (Context.begin (.registry types mapId id) document bound) rfl rfl
  rw [Walk.exec] at run
  rw [validate, Traced.result_bind_ok begun]
  dsimp only
  rw [run]
  exact conclude_result limit _ _ context _

end Runs

end QueryDefaults
