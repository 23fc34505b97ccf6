import QueryDefaults.Proofs.Walk

/-!
When a walk of the rule stops. The state is open as long as no fatal error was reported, and closed
afterwards. The invariant of the rule is that the two ways to see the end agree: from an open state a walk
is stopped exactly if it leaves the state closed (`through_settles`). It is stated as a triple (`Leads`),
once for each step of the rule, and carried through a walk of any tree by induction on its height.
-/

namespace QueryDefaults

/-! ### Triples -/

section Leads

variable {α β : Type}

/-- From a state with one property a walk leads to an answer and a state with another one, unless it
fails. -/
def Leads (p : RuleState → Prop) (m : RuleM α) (q : α → RuleState → Prop) : Prop :=
  ∀ st, p st → ∀ a st', m.exec st = (.ok a, st') → q a st'

theorem Leads.pure {p : RuleState → Prop} {q : α → RuleState → Prop} (a : α) (h : ∀ st, p st → q a st) :
    Leads p (pure a) q := by
  intro st hp b st' run
  cases run
  exact h st hp

theorem Leads.throw {p : RuleState → Prop} {q : α → RuleState → Prop} (e : Fault) :
    Leads p (throw e : RuleM α) q := by
  intro st hp b st' run
  cases run

theorem Leads.bind {p : RuleState → Prop} {m : RuleM α} {q : α → RuleState → Prop} {f : α → RuleM β}
    {r : β → RuleState → Prop} (hm : Leads p m q) (hf : ∀ a, Leads (q a) (f a) r) :
    Leads p (m >>= f) r := by
  intro st hp b st'' run
  rw [Walk.exec_bind] at run
  rcases h : m.exec st with ⟨_ | a, st'⟩
  · rw [h] at run
    cases run
  · rw [h] at run
    exact hf a st' (hm st hp a st' h) b st'' run

theorem Leads.mono {p : RuleState → Prop} {m : RuleM α} {q r : α → RuleState → Prop} (hm : Leads p m q)
    (h : ∀ a st, q a st → r a st) : Leads p m r :=
  fun st hp a st' run => h a st' (hm st hp a st' run)

/-- A computation that does not touch the state keeps what holds of it. -/
theorem Leads.lift_ok {p : RuleState → Prop} (r : Except Fault α) :
    Leads p (liftM r) fun a st => r = .ok a ∧ p st := by
  intro st hp a st' run
  rw [Walk.exec_liftM] at run
  cases run
  exact ⟨rfl, hp⟩

theorem Leads.lift {p : RuleState → Prop} (r : Except Fault α) : Leads p (liftM r) fun _ => p :=
  (Leads.lift_ok r).mono fun _ _ h => h.2

end Leads

/-! ### Open and closed states -/

/-- A state to which a trace was added. Nothing else of it changes. -/
def RuleState.add {α : Type} (st : RuleState) (t : Traced α) : RuleState :=
  { st with logs := st.logs ++ t.logs, asked := st.asked ++ t.asked, taken := st.taken ++ t.taken }

/-- No fatal error was reported so far. -/
def RuleState.IsOpen (st : RuleState) : Prop := ∃ c, st.context = .context c ∧ c.fatal = .null

/-- A fatal error was reported. -/
def RuleState.IsClosed (st : RuleState) : Prop := ∃ c, st.context = .context c ∧ c.fatal.truthy = true

/-- What a walk leaves: a closed state if it was stopped, an open one if not. -/
def Settled (stopped : Bool) (st : RuleState) : Prop := if stopped then st.IsClosed else st.IsOpen

/-- What a reply leaves. -/
def Replied (reply : Reply) (st : RuleState) : Prop := if reply = .stop then st.IsClosed else st.IsOpen

theorem ContextOf.report_fatal (c : Context) (e : Value) : (c.report e).2.fatal = c.fatal := by
  rw [ContextOf.report]
  cases c.sink with
  | keep => rfl
  | handOn limit =>
    simp only
    split <;> rw [ContextOf.handOn] <;> split <;> rfl

namespace Rule

open RuleState (IsOpen IsClosed)

variable (s : Schema)

/-- A computation that leaves a trace adds it to the state. -/
theorem exec_trace {α : Type} (t : Traced α) (st : RuleState) :
    (trace t).exec st = (t.result, st.add t) := by
  rw [trace]
  exact (Walk.exec_bind_ok rfl _).trans (Walk.exec_liftM ..)

theorem exec_report (fatal : Bool) (e : GraphQLError) (st : RuleState) :
    (report s fatal e).exec st = ((s.reportTo fatal (.error e) st.context).outcome,
      { st with context := (s.reportTo fatal (.error e) st.context).target }) := by
  rw [report]
  exact (Walk.exec_bind_ok rfl _).trans ((Walk.exec_bind_ok rfl _).trans (Walk.exec_liftM ..))

theorem trace_leads {α : Type} (t : Traced α) : Leads IsOpen (trace t) fun _ => IsOpen := by
  intro st open_ a st' run
  rw [exec_trace] at run
  obtain ⟨_, rfl⟩ := Prod.mk.inj run
  exact open_

/-- A diagnostic leaves an open state open. -/
theorem report_leads (e : GraphQLError) : Leads IsOpen (report s false e) fun _ => IsOpen := by
  rintro st ⟨c, context, fatal⟩ a st' run
  rw [exec_report, context] at run
  obtain ⟨_, rfl⟩ := Prod.mk.inj run
  exact ⟨(c.report (.error e)).2, rfl, (c.report_fatal _).trans fatal⟩

/-- A fatal error closes an open state. -/
theorem reportFatal_leads (e : GraphQLError) : Leads IsOpen (report s true e) fun _ => IsClosed := by
  rintro st ⟨c, context, fatal⟩ a st' run
  rw [exec_report, context] at run
  obtain ⟨_, rfl⟩ := Prod.mk.inj run
  refine ⟨c.reportFatal (.error e), rfl, ?_⟩
  rw [ContextOf.reportFatal, fatal]
  rfl

theorem enterOperation_leads (n : Node) : Leads IsOpen (enterOperation n) fun _ => IsOpen := by
  refine (Leads.lift _).bind fun name => ?_
  intro st open_ a st' run
  cases run
  exact open_

theorem diagnose_leads (message default : Value) (details : List (String × Value)) :
    Leads IsOpen (diagnose s message default details) fun _ => IsOpen := by
  refine Leads.bind (q := fun _ => IsOpen) ?_ fun st => (Leads.lift _).bind fun e => report_leads s e
  intro st open_ a st' run
  cases run
  exact open_

/-- What an answer of the rule leaves: a closed state if it stops the walk, an open one if not. -/
def Answered (answer : Value) : RuleState → Prop := Replied answer.reply

theorem undefinedType_leads (variableName reference : Value) :
    Leads IsOpen (undefinedType s variableName reference) Answered := by
  refine (Leads.lift _).bind fun base => (Leads.lift _).bind fun typeName => ?_
  refine (trace_leads _).bind fun _ => (Leads.lift _).bind fun type => (Leads.lift _).bind fun name => ?_
  exact (reportFatal_leads s _).bind fun _ => Leads.pure _ fun _ closed => closed

theorem nonNullDefault_leads (variableName default : Value) :
    Leads IsOpen (nonNullDefault s variableName default) Answered := by
  refine (Leads.lift _).bind fun name => ?_
  exact (diagnose_leads s _ _ _).bind fun _ => Leads.pure _ fun _ open_ => open_

theorem invalidDefault_leads (variableName default reference : Value) (invalid : InvalidLiteral) :
    Leads IsOpen (invalidDefault s variableName default reference invalid) fun _ => IsOpen := by
  refine (Leads.lift _).bind fun typeName => (trace_leads _).bind fun _ => ?_
  dsimp only
  split
  · exact (Leads.pure _ fun _ open_ => open_).bind fun message => diagnose_leads s _ _ _
  · refine (Leads.lift _).bind fun name => (Leads.lift _).bind fun type => ?_
    exact (Leads.pure _ fun _ open_ => open_).bind fun message => diagnose_leads s _ _ _

theorem get_leads : Leads IsOpen (get : RuleM RuleState) fun _ => IsOpen := by
  intro st open_ a st' run
  cases run
  exact open_

theorem enterVariable_leads (n : Node) : Leads IsOpen (enterVariable s n) Answered := by
  refine (Leads.lift _).bind fun variableNode => (Leads.lift _).bind fun variableName => ?_
  refine get_leads.bind fun st => (trace_leads _).bind fun registry => ?_
  refine (Leads.lift _).bind fun reference => (trace_leads _).bind fun type => ?_
  split
  · exact undefinedType_leads s _ _
  · refine (Leads.lift _).bind fun default => ?_
    split
    · exact Leads.pure _ fun _ open_ => open_
    · refine (trace_leads _).bind fun _ => ?_
      split
      · exact nonNullDefault_leads s _ _
      · refine (trace_leads _).bind fun verdict => ?_
        cases verdict with
        | some invalid =>
          exact (invalidDefault_leads s _ _ _ _).bind fun _ => Leads.pure _ fun _ open_ => open_
        | none => exact Leads.pure _ fun _ open_ => open_

/-! ### Walks settle -/

theorem reply_leads (side : Side) (n : Node) :
    Leads IsOpen ((visitor s true).reply side n .root) Replied := by
  refine (Leads.lift _).bind fun kind => ?_
  cases (visitor s true).method? side kind with
  | none => exact Leads.pure _ fun _ open_ => open_
  | some name =>
    refine Leads.bind (q := Answered) ?_ fun answer => Leads.pure _ fun _ answered => answered
    show Leads IsOpen (if name = _ then _ else _) Answered
    split
    · exact (enterOperation_leads n).bind fun _ => Leads.pure _ fun _ open_ => open_
    · exact enterVariable_leads s n

end Rule

/-- Walks in a row settle if each of them does. -/
theorem untilStopped_settles {α : Type} {f : α → RuleM Bool} :
    ∀ {xs : List α}, (∀ x ∈ xs, Leads RuleState.IsOpen (f x) Settled) →
      Leads RuleState.IsOpen (untilStopped f xs) Settled
  | [], _ => Leads.pure _ fun _ open_ => open_
  | x :: xs, h => by
    refine (h x (List.mem_cons_self ..)).bind fun stopped => ?_
    cases stopped with
    | true => exact Leads.pure _ fun _ closed => closed
    | false => exact untilStopped_settles fun y hy => h y (List.mem_cons_of_mem _ hy)

/-- From an open state a walk of the rule is stopped exactly if it leaves the state closed. The induction
is on the height of what is walked through. -/
theorem Rule.through_settles (s : Schema) (v : Value) : Leads RuleState.IsOpen (through s v) Settled := by
  induction height : v.height using Nat.strongRecOn generalizing v with
  | ind height' ih =>
    subst height
    cases v with
    | node n =>
      rw [through, walk_node (visitor_still s)]
      refine (reply_leads s .enter n).bind fun entered => ?_
      cases entered with
      | stop => exact Leads.pure _ fun _ closed => closed
      | skip => exact Leads.pure _ fun _ open_ => open_
      | go =>
        refine Leads.bind (q := fun _ => RuleState.IsOpen) (Leads.lift _) fun names => ?_
        refine Leads.bind (q := Settled) (untilStopped_settles fun name _ => ?_) fun stopped => ?_
        · refine (Leads.lift_ok _).bind fun vs st open_ => ?_
          exact untilStopped_settles
            (fun v hv => ih v.height (NodeOf.branch_height open_.1 hv) v rfl) st open_.2
        · cases stopped with
          | true => exact Leads.pure _ fun _ closed => closed
          | false =>
            refine Leads.bind (q := Replied) (reply_leads s .leave n) fun left => ?_
            refine Leads.pure _ fun st h => ?_
            cases left <;> exact h
    | _ =>
      rw [through, walk]
      · exact Leads.throw _
      · intro n h
        cases h

end QueryDefaults
