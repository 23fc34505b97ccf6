import QueryDefaults.Proofs.Walk

/-!
Walks that keep their way in two lists. `walk` gives every node a place of its own. The same walk can be made with
one path and one row of ancestors for all nodes: both grow at the end on the way down and shrink there on the way
back, also if a method of the visitor fails or the walk is stopped, and a method is told what is in them when it is
called. Every step takes away again just what it added (`Carries.within`). So both walks make the same calls with the
same places, and come to the same, and the lists are in the end what they were before (`walkAlong_carries`,
`visitAlong_exec`).
-/

namespace QueryDefaults

variable {σ α β : Type}

/-! ### Two lists -/

/-- The steps from the root to where a walk is, and the nodes and tuples above. -/
structure Trail where
  path : List Step
  ancestors : List Value

namespace Trail

/-- One more step at the end of the path. -/
def push (step : Step) (t : Trail) : Trail := { t with path := t.path ++ [step] }

/-- Without the last step of the path. -/
def pop (t : Trail) : Trail := { t with path := t.path.dropLast }

/-- One more ancestor. -/
def cover (v : Value) (t : Trail) : Trail := { t with ancestors := t.ancestors ++ [v] }

/-- Without the last ancestor. -/
def uncover (t : Trail) : Trail := { t with ancestors := t.ancestors.dropLast }

theorem pop_push (step : Step) (t : Trail) : (t.push step).pop = t := by
  rw [push, pop, List.dropLast_concat]

theorem uncover_cover (v : Value) (t : Trail) : (t.cover v).uncover = t := by
  rw [cover, uncover, List.dropLast_concat]

end Trail

/-- The path and the ancestors of a place. -/
def Position.trail (p : Position) : Trail := ⟨p.path, p.ancestors⟩

namespace Walk

/-- What is done in the end is also done after a failure. -/
theorem exec_finally (m : Walk σ α) (g : σ → σ) (st : σ) :
    exec (try m finally modify g : Walk σ α) st = ((exec m st).1, g (exec m st).2) := by
  rw [exec, exec, tryFinally]
  simp only [tryFinally', ExceptT.run_map, ExceptT.run_mk, StateT.run_map, StateT.run_bind]
  rcases run : (ExceptT.run m).run st with ⟨_ | _, st'⟩
  · have run' : m st = (.error _, st') := run
    simp only [StateT.run, run']
    rfl
  · have run' : m st = (.ok _, st') := run
    simp only [StateT.run, run']
    rfl

/-- Does something after a change of the trail, and changes it back in the end, also after a failure. -/
def within (change back : Trail → Trail) (m : Walk (σ × Trail) α) : Walk (σ × Trail) α := do
  modify fun (st, t) => (st, change t)
  try m finally modify fun (st, t) => (st, back t)

/-- Does something one step further. -/
def onStep (step : Step) (m : Walk (σ × Trail) α) : Walk (σ × Trail) α := m.within (·.push step) (·.pop)

/-- Does something below one more ancestor. -/
def under (v : Value) (m : Walk (σ × Trail) α) : Walk (σ × Trail) α := m.within (·.cover v) (·.uncover)

/-- Does something below what the last step was made from, unless that is where the walk begins. -/
def underParent (parent : Option Value) (m : Walk (σ × Trail) α) : Walk (σ × Trail) α :=
  match parent with
  | none => m
  | some v => m.under v

/-- Does something that knows nothing of the trail. -/
def beside (m : Walk σ α) : Walk (σ × Trail) α :=
  ExceptT.mk fun (st, t) =>
    let (r, st') := m.exec st
    (r, st', t)

end Walk

/-! ### Walks along the lists -/

/-- Calls the method for a side of a node, with the lists as they are. -/
def Visitor.replyAlong (vis : Visitor σ) (side : Side) (n : Node) (key : Option Step) (parent : Option Value) :
    Walk (σ × Trail) Reply := do
  let (_, t) ← get
  (vis.reply side n ⟨key, parent, t.path, t.ancestors⟩).beside

/-- Walks through a value that the last step leads to; tells whether the walk was stopped. -/
def walkAlong (vis : Visitor σ) (keys : KeyMap) (v : Value) (key : Option Step) (parent : Option Value) :
    Walk (σ × Trail) Bool :=
  match v with
  | .node n => do
    let entered ← vis.replyAlong .enter n key parent
    match entered with
    | .stop => return true
    | .skip => return false
    | .go =>
      let stopped ← Walk.underParent parent do
        let children ← keys n.kindValue
        untilStopped (fun name => do
          let key ← name.attributeName
          match n.part? key with
          | none => match n.attr? key with
            | some v => throw (.refused .node v)
            | none => return false
          | some ⟨child, _⟩ =>
            if child.isNull then return false else
            Walk.onStep (.key key) <| match child.tupleItems? with
            | some items => Walk.under (.node n) <|
              untilStopped (fun (⟨item, _⟩, i) =>
                Walk.onStep (.index i) (walkAlong vis keys item (some (.index i)) (some child))) items.zipIdx
            | none => walkAlong vis keys child (some (.key key)) (some (.node n))) children
      if stopped then return true else
      let left ← vis.replyAlong .leave n key parent
      return left == .stop
  | _ => throw (.refused .node v)
termination_by v.height
decreasing_by
  all_goals simp only [Value.height_node] at *
  all_goals omega

/-! ### What is carried along -/

/-- Whether something with a trail comes to the same as something without one, and leaves the trail as it is. -/
def Carries (t : Trail) (m : Walk σ α) (m' : Walk (σ × Trail) α) : Prop :=
  ∀ st, m'.exec (st, t) = ((m.exec st).1, (m.exec st).2, t)

namespace Carries

variable {t : Trail}

theorem pure (a : α) : Carries t (Pure.pure a : Walk σ α) (Pure.pure a) := fun _ => rfl

theorem liftM (r : Except Fault α) : Carries t (MonadLiftT.monadLift r : Walk σ α) (MonadLiftT.monadLift r) :=
  fun _ => by cases r <;> rfl

theorem bind {m : Walk σ α} {m' : Walk (σ × Trail) α} {f : α → Walk σ β} {f' : α → Walk (σ × Trail) β}
    (first : Carries t m m') (second : ∀ a, Carries t (f a) (f' a)) : Carries t (m >>= f) (m' >>= f') := by
  intro st
  have run := first st
  rw [Walk.exec_bind m]
  rcases h : m.exec st with ⟨e | a, st'⟩
  · rw [h] at run
    exact Walk.exec_bind_error run f'
  · rw [h] at run
    exact (Walk.exec_bind_ok run f').trans (second a st')

theorem regroup {γ : Type} {x : Walk σ γ} {f : γ → Walk σ α} {g : α → Walk σ β} {m' : Walk (σ × Trail) β}
    (h : Carries t ((x >>= f) >>= g) m') : Carries t (x >>= fun c => f c >>= g) m' := by
  rwa [bind_assoc] at h

theorem untilStopped {f : α → Walk σ Bool} {f' : α → Walk (σ × Trail) Bool} :
    ∀ {xs : List α}, (∀ x ∈ xs, Carries t (f x) (f' x)) →
      Carries t (QueryDefaults.untilStopped f xs) (QueryDefaults.untilStopped f' xs)
  | [], _ => .pure false
  | x :: xs, each => by
    refine (each x (List.mem_cons_self ..)).bind fun stopped => ?_
    cases stopped with
    | true => exact .pure true
    | false => exact untilStopped fun y hy => each y (List.mem_cons_of_mem _ hy)

variable {m : Walk σ α} {m' : Walk (σ × Trail) α}

/-- What is changed back in the end is as it was, whether it went well or not. -/
theorem within {change back : Trail → Trail} (undone : back (change t) = t) (h : Carries (change t) m m') :
    Carries t m (m'.within change back) := by
  intro st
  have changed : Walk.exec (modify fun (st, t) => (st, change t) : Walk (σ × Trail) PUnit) (st, t) =
    (.ok ⟨⟩, st, change t) := rfl
  rw [Walk.within, Walk.exec_bind_ok changed, Walk.exec_finally, h st]
  dsimp only
  rw [undone]

theorem onStep {step : Step} (h : Carries (t.push step) m m') : Carries t m (m'.onStep step) :=
  h.within (t.pop_push step)

theorem under {v : Value} (h : Carries (t.cover v) m m') : Carries t m (m'.under v) :=
  h.within (t.uncover_cover v)

theorem underParent {p : Position} (h : Carries ⟨p.path, p.above⟩ m m') :
    Carries p.trail m (m'.underParent p.parent) := by
  obtain ⟨key, parent, path, ancestors⟩ := p
  cases parent with
  | none =>
    rw [Position.above, Option.toList_none, List.append_nil] at h
    exact h
  | some v => exact under h

theorem reply (vis : Visitor σ) (side : Side) (n : Node) (p : Position) :
    Carries p.trail (vis.reply side n p) (vis.replyAlong side n p.key p.parent) := fun _ => rfl

end Carries

/-- A walk along the lists does what the walk does that gives every node its place, and leaves the lists as they are.
The induction is on the height of what is walked through. -/
theorem walkAlong_carries (vis : Visitor σ) (keys : KeyMap) (v : Value) (p : Position) :
    Carries p.trail (walk vis keys v p) (walkAlong vis keys v p.key p.parent) := by
  induction height : v.height using Nat.strongRecOn generalizing v p with
  | ind height' ih =>
    subst height
    cases v with
    | node n =>
      rw [walk, walkAlong]
      refine (Carries.reply vis .enter n p).bind fun entered => ?_
      cases entered with
      | stop => exact .pure true
      | skip => exact .pure false
      | go =>
        refine Carries.regroup (Carries.bind (Carries.underParent ?_) fun stopped => ?_)
        · refine (Carries.liftM (keys n.kindValue)).bind fun names => Carries.untilStopped fun name _ => ?_
          refine (Carries.liftM name.attributeName).bind fun key => ?_
          cases part : n.part? key with
          | none =>
            dsimp only
            cases n.attr? key with
            | none => exact .pure false
            | some w => exact .liftM (.error _)
          | some child =>
            obtain ⟨child, lower⟩ := child
            dsimp only
            cases child.isNull with
            | true => exact .pure false
            | false =>
              refine Carries.onStep ?_
              cases tuple : child.tupleItems? with
              | some items =>
                refine Carries.under (Carries.untilStopped fun c _ => Carries.onStep ?_)
                exact ih c.1.val.height (Nat.lt_of_le_of_lt c.1.property lower) c.1.val
                  ((p.down (.node n) (.key key)).down child (.index c.2)) rfl
              | none => exact ih child.height lower child (p.down (.node n) (.key key)) rfl
        · cases stopped with
          | true => exact .pure true
          | false => exact (Carries.reply vis .leave n p).bind fun left => .pure _
    | _ =>
      rw [walk, walkAlong]
      · exact .liftM (.error _)
      all_goals
        intro n h
        cases h

/-- Visits a tree from its root. -/
def visitAlong (vis : Visitor σ) (keys : KeyMap) (root : Value) : Walk (σ × Trail) Value :=
  match root with
  | .node _ => do
    let stopped ← walkAlong vis keys root none none
    return if stopped then .action .stop else .null
  | _ => throw (.refused .root root)

/-- From empty lists a visit along them comes to the same as one that gives every node its place, whatever the visitor
does and even if the visit fails, and the lists are empty again afterwards. -/
theorem visitAlong_exec (vis : Visitor σ) (keys : KeyMap) (root : Value) (st : σ) :
    (visitAlong vis keys root).exec (st, ⟨[], []⟩) =
      (((visit vis keys root).exec st).1, ((visit vis keys root).exec st).2, ⟨[], []⟩) := by
  have carries : Carries ⟨[], []⟩ (visit vis keys root) (visitAlong vis keys root) := by
    cases root with
    | node n => exact (walkAlong_carries vis keys (.node n) .root).bind fun stopped => .pure _
    | _ => exact .liftM (.error _)
  exact carries st

end QueryDefaults
