import QueryDefaults.Node.ScriptedVisitor
import QueryDefaults.Proofs.Walk

/-!
Where the nodes of a visit are. A visitor is told the place of every node. Following the path of the place
from the root leads to the node, the nodes and tuples on the way are those that the place has above it, and
the call on leaving a node has the same place as the call on entering it (`visit_places`). Nothing is asked
of the visitor: it may have a state of its own, and its calls may fail. Its calls are noted beside that
state, which changes nothing (`Notes`).
-/

namespace QueryDefaults

variable {σ α β : Type}

/-! ### Calls that are noted -/

/-- The calls made on one side of a node: that of the method for just the kind of the node, or else that of
the general one, or none. -/
def callsOn (defines : String → Bool) (side : Side) (n : Node) (p : Position) : List Event :=
  match n.kindValue.display with
  | .error _ => []
  | .ok kind =>
    if defines (side.text ++ "_" ++ kind) then [⟨side.text ++ "_" ++ kind, n, p⟩]
    else if defines side.text then [⟨side.text, n, p⟩]
    else []

/-- The visitor that also notes its calls. -/
def Visitor.noted (vis : Visitor σ) : Visitor (σ × List Event) where
  defines := vis.defines
  call name n p := ExceptT.mk fun (st, events) =>
    let (answer, st') := (vis.call name n p).exec st
    (answer, st', events ++ [⟨name, n, p⟩])

/-- Whether a walk comes to the same as another one and also notes calls, of which something holds. -/
def Notes (Q : List Event → Prop) (m : Walk σ α) (m' : Walk (σ × List Event) α) : Prop :=
  ∀ st events, ∃ new, m'.exec (st, events) = ((m.exec st).1, (m.exec st).2, events ++ new) ∧ Q new

namespace Notes

variable {P Q R : List Event → Prop}

theorem mono {m : Walk σ α} {m' : Walk (σ × List Event) α} (h : Notes P m m')
    (le : ∀ events, P events → Q events) : Notes Q m m' := fun st events => by
  obtain ⟨new, run, hP⟩ := h st events
  exact ⟨new, run, le new hP⟩

theorem pure (a : α) (h : Q []) : Notes Q (Pure.pure a : Walk σ α) (Pure.pure a) := fun st events =>
  ⟨[], by rw [List.append_nil]; rfl, h⟩

theorem liftM (r : Except Fault α) (h : Q []) :
    Notes Q (MonadLiftT.monadLift r : Walk σ α) (MonadLiftT.monadLift r) := fun st events =>
  ⟨[], by rw [List.append_nil]; cases r <;> rfl, h⟩

/-- What is noted in two walks behind each other; the second may not take place. -/
theorem bind {m : Walk σ α} {m' : Walk (σ × List Event) α} {f : α → Walk σ β}
    {f' : α → Walk (σ × List Event) β} (first : Notes P m m') (second : ∀ a, Notes Q (f a) (f' a))
    (alone : ∀ x, P x → R x) (both : ∀ x y, P x → Q y → R (x ++ y)) :
    Notes R (m >>= f) (m' >>= f') := by
  intro st events
  obtain ⟨x, run, hx⟩ := first st events
  rw [Walk.exec_bind m]
  cases h : m.exec st with
  | mk r st' =>
    rw [h] at run
    cases r with
    | error e => exact ⟨x, Walk.exec_bind_error run f', alone x hx⟩
    | ok a =>
      obtain ⟨y, run', hy⟩ := second a st' (events ++ x)
      refine ⟨x ++ y, ?_, both x y hx hy⟩
      rw [Walk.exec_bind_ok run f', run', List.append_assoc]

/-- What is noted after a check that may fail. -/
theorem check (r : Except Fault α) {f : α → Walk σ β} {f' : α → Walk (σ × List Event) β} (none : Q [])
    (second : ∀ a, Notes Q (f a) (f' a)) :
    Notes Q (MonadLiftT.monadLift r >>= f) (MonadLiftT.monadLift r >>= f') := by
  cases r with
  | error e => exact .liftM (.error e) none
  | ok a => exact second a

theorem untilStopped {f : α → Walk σ Bool} {f' : α → Walk (σ × List Event) Bool} (none : Q [])
    (both : ∀ x y, Q x → Q y → Q (x ++ y)) : ∀ {xs : List α}, (∀ x ∈ xs, Notes Q (f x) (f' x)) →
      Notes Q (untilStopped f xs) (untilStopped f' xs)
  | [], _ => .pure false none
  | x :: xs, each => by
    refine (each x (List.mem_cons_self ..)).bind (Q := Q) (fun stopped => ?_) (fun _ h => h) both
    cases stopped with
    | true => exact .pure true none
    | false => exact untilStopped none both fun y hy => each y (List.mem_cons_of_mem _ hy)

/-- On a side of a node just its calls are noted, even if they fail. -/
theorem reply (vis : Visitor σ) (side : Side) (n : Node) (p : Position) :
    Notes (· = callsOn vis.defines side n p) (vis.reply side n p) (vis.noted.reply side n p) := by
  rw [Visitor.reply, Visitor.reply, callsOn]
  cases n.kindValue.display with
  | error e => exact .liftM (.error e) rfl
  | ok kind =>
    have call (name : String) : Notes (· = [⟨name, n, p⟩])
        (do return (← vis.call name n p).reply) (do return (← vis.noted.call name n p).reply) := by
      refine bind (P := (· = [⟨name, n, p⟩])) (Q := (· = [])) (fun st events => ⟨_, rfl, rfl⟩)
        (fun answer => .pure _ rfl) (fun _ h => h) ?_
      rintro _ _ rfl rfl
      rfl
    have same : vis.noted.method? side kind = vis.method? side kind := rfl
    rw [liftM_ok, liftM_ok, pure_bind, pure_bind, same, Visitor.method?]
    by_cases special : vis.defines (side.text ++ "_" ++ kind) = true
    · simp only [if_pos special]
      exact call _
    · simp only [if_neg special]
      by_cases general : vis.defines side.text = true
      · simp only [if_pos general]
        exact call _
      · simp only [if_neg general]
        exact .pure Reply.go rfl

end Notes

/-! ### Ways to a place -/

/-- What a step leads to: one of the attributes that a node has itself, or an item of a tuple. -/
def Value.stepTo? (v : Value) (s : Step) : Option Value :=
  match v, s with
  | .node n, .key name => n.attrs.lookup name
  | .tuple xs _, .index i | .record _ xs _, .index i => xs[i]?
  | _, _ => none

/-- All that one passes through on a path, from its beginning to its end. -/
def Value.along? (v : Value) : List Step → Option (List Value)
  | [] => some [v]
  | s :: path => do
    let w ← v.stepTo? s
    let passed ← w.along? path
    return v :: passed

/-- Whether a value is at a place of a tree: the path leads to it, past all that the place has above it; the
last step is the key of the place, and the parent is where that step begins. -/
structure Value.IsAt (root v : Value) (p : Position) : Prop where
  way : root.along? p.path = some (p.above ++ [v])
  key : p.key = p.path.getLast?
  parent : p.parent = p.above.getLast?

/-- Whether a path goes on where another one ends. -/
def Position.IsAbove (p q : Position) : Prop := p.path <+: q.path ∧ p.path.length < q.path.length

/-- The values below a value at a place, and that value itself, with their places. -/
inductive Below (v : Value) (p : Position) : Value → Position → Prop where
  | here : Below v p v p
  | step {w u : Value} {q : Position} {s : Step} (way : Below v p w q) (next : w.stepTo? s = some u) :
    Below v p u (q.down w s)

theorem Value.stepTo?_height {v w : Value} {s : Step} (h : v.stepTo? s = some w) : w.height < v.height := by
  unfold stepTo? at h
  split at h
  · exact NodeOf.height_lt_of_lookup h
  · exact Nat.lt_succ_of_le (height_le_of_mem (List.mem_of_getElem? h))
  · exact Nat.lt_succ_of_le (height_le_of_mem (List.mem_of_getElem? h))
  · cases h

theorem Value.along?_concat {s : Step} {u w : Value} (next : w.stepTo? s = some u) :
    ∀ {v : Value} {path : List Step} {passed : List Value}, v.along? path = some (passed ++ [w]) →
      v.along? (path ++ [s]) = some (passed ++ [w] ++ [u])
  | v, [], passed, h => by
    obtain ⟨rfl, rfl⟩ : passed = [] ∧ w = v := by simpa [along?, List.singleton_eq_append_iff] using h
    simp [along?, next]
  | v, t :: path, passed, h => by
    obtain ⟨x, first, rest, way, eq⟩ : ∃ x, v.stepTo? t = some x ∧
        ∃ rest, x.along? path = some rest ∧ v :: rest = passed ++ [w] := by
      simpa [along?, Option.bind_eq_some_iff] using h
    -- a way ends with what it leads to, so it is not empty
    cases passed with
    | nil =>
      obtain ⟨rfl, rfl⟩ : v = w ∧ rest = [] := by simpa using eq
      cases path <;> simp [along?, Option.bind_eq_some_iff] at way
    | cons y passed =>
      obtain ⟨rfl, rfl⟩ : v = y ∧ rest = passed ++ [w] := by simpa using eq
      simp [along?, first, along?_concat next way]

theorem Position.above_down (p : Position) (v : Value) (s : Step) : (p.down v s).above = p.above ++ [v] := rfl

namespace Below

variable {v w u : Value} {p q r : Position}

theorem trans (h : Below v p w q) (h' : Below w q u r) : Below v p u r := by
  induction h' with
  | here => exact h
  | step _ next ih => exact ih.step next

/-- The places below a place have longer paths that begin like its own. -/
theorem path (h : Below v p w q) : p.path <+: q.path := by
  induction h with
  | here => exact List.prefix_rfl
  | step _ _ ih => exact ih.trans (List.prefix_append _ _)

theorem height (h : Below v p w q) : w.height ≤ v.height ∧ (w.height = v.height → q = p) := by
  induction h with
  | here => exact ⟨Nat.le_refl _, fun _ => rfl⟩
  | step _ next ih =>
    have lower := Value.stepTo?_height next
    exact ⟨by omega, fun same => by omega⟩

/-- What is reached from the root of a tree is at its place in the tree. -/
theorem isAt {root : Value} (h : Below root .root v p) : root.IsAt v p := by
  induction h with
  | here => exact ⟨rfl, rfl, rfl⟩
  | step _ next ih =>
    refine ⟨?_, ?_, ?_⟩
    · rw [Position.above_down]
      exact Value.along?_concat next ih.way
    · exact (List.getLast?_concat ..).symm
    · rw [Position.above_down, List.getLast?_concat]
      rfl

end Below

/-- What a walk goes on to from a place is there or below. -/
theorem Value.stepsFrom_below {v : Value} {q : Position} {c : Value × Position} (h : c ∈ v.stepsFrom q) :
    Below v q c.1 c.2 := by
  cases v with
  | null => cases h
  | tuple xs i =>
    obtain ⟨⟨x, j⟩, mem, rfl⟩ := List.mem_map.1 h
    exact .step .here (List.mk_mem_zipIdx_iff_getElem?.1 mem)
  | record shape xs i =>
    obtain ⟨⟨x, j⟩, mem, rfl⟩ := List.mem_map.1 h
    exact .step .here (List.mk_mem_zipIdx_iff_getElem?.1 mem)
  | _ =>
    obtain rfl := List.mem_singleton.1 h
    exact .here

/-- What a walk goes on to at a node is below it. -/
theorem NodeOf.steps_below {n : Node} {p : Position} {name : Value} {vs : List (Value × Position)}
    (h : n.steps p name = .ok vs) {c : Value × Position} (hc : c ∈ vs) :
    Below (.node n) p c.1 c.2 ∧ p.IsAbove c.2 := by
  rcases NodeOf.steps_cases h with rfl | ⟨key, w, attr, rfl⟩
  · cases hc
  · have first : (Value.node n).stepTo? (.key key) = some w := attr
    have below := Value.stepsFrom_below hc
    have longer := below.path.length_le
    rw [Position.down, List.length_append, List.length_singleton] at longer
    have way := (Below.step .here first).trans below
    exact ⟨way, way.path, longer⟩

/-! ### Calls on entering and leaving -/

/-- Whether every call on leaving a node at a place comes after the call on entering the node at this very
place, if there is one, and between the two are only calls further down. -/
def Paired (defines : String → Bool) (events : List Event) : Prop :=
  ∀ before e after, events = before ++ e :: after → e ∈ callsOn defines .leave e.node e.place →
    ∀ e' ∈ callsOn defines .enter e.node e.place, ∃ front between, before = front ++ e' :: between ∧
      ∀ f ∈ between, e.place.IsAbove f.place

variable {defines : String → Bool}

theorem callsOn_cases (defines : String → Bool) (side : Side) (n : Node) (p : Position) :
    callsOn defines side n p = [] ∨
      ∃ word, callsOn defines side n p = [⟨side.text ++ word, n, p⟩] := by
  unfold callsOn
  split
  · exact .inl rfl
  · next kind _ =>
    split
    · exact .inr ⟨"_" ++ kind, by rw [String.append_assoc]⟩
    · split
      · exact .inr ⟨"", by rw [String.append_empty]⟩
      · exact .inl rfl

/-- A call is for the node and the place that it is told. -/
theorem callsOn_own {side : Side} {n : Node} {p : Position} {e : Event} (h : e ∈ callsOn defines side n p) :
    e.node = n ∧ e.place = p := by
  rcases callsOn_cases defines side n p with none | ⟨word, one⟩
  · rw [none] at h
    cases h
  · rw [one] at h
    obtain rfl := List.mem_singleton.1 h
    exact ⟨rfl, rfl⟩

/-- No call is made both on entering and on leaving: the names begin differently. -/
theorem callsOn_apart {n m : Node} {p q : Position} {e : Event} (enter : e ∈ callsOn defines .enter n p) :
    e ∉ callsOn defines .leave m q := by
  intro leave
  rcases callsOn_cases defines .enter n p with none | ⟨word, one⟩
  · rw [none] at enter
    cases enter
  rcases callsOn_cases defines .leave m q with none | ⟨word', one'⟩
  · rw [none] at leave
    cases leave
  rw [one, List.mem_singleton] at enter
  rw [one', List.mem_singleton] at leave
  have names : Side.enter.text ++ word = Side.leave.text ++ word' :=
    congrArg Event.method (enter.symm.trans leave)
  have first := congrArg (fun s : String => s.toList.head?) names
  simp [Side.text] at first

namespace Paired

theorem append {x y : List Event} (hx : Paired defines x) (hy : Paired defines y) :
    Paired defines (x ++ y) := by
  intro before e after split leave e' enter
  rcases List.append_eq_append_iff.1 split with ⟨mid, rfl, rest⟩ | ⟨mid, rfl, rest⟩
  · obtain ⟨front, between, rfl, inside⟩ := hy mid e after rest leave e' enter
    exact ⟨x ++ front, between, (List.append_assoc ..).symm, inside⟩
  · cases mid with
    | nil =>
      -- the call is the first one of the second part, which has none before it
      obtain ⟨front, between, nothing, _⟩ := hy [] e after rest.symm leave e' enter
      simp at nothing
    | cons f mid =>
      obtain ⟨rfl, rfl⟩ := List.cons.inj rest
      exact hx before e mid rfl leave e' enter

/-- The calls on entering a node. -/
theorem entering (n : Node) (p : Position) : Paired defines (callsOn defines .enter n p) := by
  intro before e after split leave
  have mem : e ∈ callsOn defines .enter n p := by
    rw [split]
    exact List.mem_append_right _ (List.mem_cons_self ..)
  exact absurd leave (callsOn_apart mem)

/-- One more call, if it is none on leaving a node or the call on entering this node came before. -/
theorem concat {x : List Event} (h : Paired defines x) {e : Event}
    (last : e ∈ callsOn defines .leave e.node e.place → ∀ e' ∈ callsOn defines .enter e.node e.place,
      ∃ front between, x = front ++ e' :: between ∧
        ∀ f ∈ between, e.place.IsAbove f.place) :
    Paired defines (x ++ [e]) := by
  intro before d after split
  rcases List.eq_nil_or_concat after with rfl | ⟨after, z, rfl⟩
  · obtain ⟨rfl, same⟩ := List.append_inj' split rfl
    obtain rfl := List.singleton_inj.1 same
    exact last
  · rw [List.concat_eq_append, ← List.cons_append, ← List.append_assoc] at split
    exact h before d after (List.append_inj' split rfl).1

/-- The calls on leaving a node, after those on entering it and calls further down. -/
theorem leaving {n : Node} {p : Position} {x : List Event} (h : Paired defines x)
    (below : ∀ f ∈ x, p.IsAbove f.place) :
    Paired defines (callsOn defines .enter n p ++ x ++ callsOn defines .leave n p) := by
  have earlier := (entering n p).append h
  rcases callsOn_cases defines .leave n p with none | ⟨word, one⟩
  · rwa [none, List.append_nil]
  · rw [one]
    refine earlier.concat fun _ e' enter => ?_
    rcases callsOn_cases defines .enter n p with none | ⟨word', one'⟩
    · rw [none] at enter
      cases enter
    · rw [one'] at enter ⊢
      obtain rfl := List.mem_singleton.1 enter
      exact ⟨[], x, rfl, below⟩

end Paired

/-- What is known of the calls of a walk from a place: each is on a side of a node at a place that the walk
reaches, and those on leaving follow those on entering. -/
structure Tracked (defines : String → Bool) (v : Value) (p : Position) (events : List Event) : Prop where
  placed : ∀ e ∈ events, (∃ side, e ∈ callsOn defines side e.node e.place) ∧
    Below v p (.node e.node) e.place
  paired : Paired defines events

/-- What is known of the calls between entering and leaving a node: they are also further down. -/
structure Inside (defines : String → Bool) (n : Node) (p : Position) (events : List Event) : Prop extends
    Tracked defines (.node n) p events where
  below : ∀ f ∈ events, p.IsAbove f.place

/-- What is known of the calls after those on entering a node: the node may come to be left. -/
def AfterEnter (defines : String → Bool) (n : Node) (p : Position) (events : List Event) : Prop :=
  ∃ x z, events = x ++ z ∧ Inside defines n p x ∧ (z = [] ∨ z = callsOn defines .leave n p)

theorem Tracked.nil {v : Value} {p : Position} : Tracked defines v p [] where
  placed := nofun
  paired before e after split := by simp at split

theorem Tracked.append {v : Value} {p : Position} {x y : List Event} (hx : Tracked defines v p x)
    (hy : Tracked defines v p y) : Tracked defines v p (x ++ y) where
  placed e he := (List.mem_append.1 he).elim (hx.placed e) (hy.placed e)
  paired := hx.paired.append hy.paired

namespace Inside

variable {n : Node} {p : Position} {x y : List Event}

theorem nil : Inside defines n p [] := ⟨.nil, nofun⟩

theorem append (hx : Inside defines n p x) (hy : Inside defines n p y) : Inside defines n p (x ++ y) :=
  ⟨hx.toTracked.append hy.toTracked, fun f hf => (List.mem_append.1 hf).elim (hx.below f) (hy.below f)⟩

/-- The calls of a walk that starts further down. -/
theorem of_tracked {w : Value} {q : Position} (h : Tracked defines w q x) (way : Below (.node n) p w q)
    (above : p.IsAbove q) : Inside defines n p x where
  placed e he := ⟨(h.placed e he).1, way.trans (h.placed e he).2⟩
  paired := h.paired
  below f hf :=
    have further := (h.placed f hf).2.path
    ⟨above.1.trans further, Nat.lt_of_lt_of_le above.2 further.length_le⟩

end Inside

theorem AfterEnter.nil {n : Node} {p : Position} : AfterEnter defines n p [] := ⟨[], [], rfl, .nil, .inl rfl⟩

/-- The calls of a walk at a node. -/
theorem AfterEnter.tracked {n : Node} {p : Position} {y : List Event} (h : AfterEnter defines n p y) :
    Tracked defines (.node n) p (callsOn defines .enter n p ++ y) := by
  obtain ⟨x, z, rfl, inside, hz⟩ := h
  have own {side : Side} {e : Event} (he : e ∈ callsOn defines side n p) :
      (∃ side, e ∈ callsOn defines side e.node e.place) ∧ Below (.node n) p (.node e.node) e.place := by
    obtain ⟨node, place⟩ := callsOn_own he
    rw [node, place]
    exact ⟨⟨side, he⟩, .here⟩
  constructor
  case placed =>
    intro e he
    simp only [List.mem_append] at he
    rcases he with enter | between | leave
    · exact own enter
    · exact inside.placed e between
    · rcases hz with rfl | rfl
      · cases leave
      · exact own leave
  case paired =>
    rcases hz with rfl | rfl
    · rw [List.append_nil]
      exact (Paired.entering n p).append inside.paired
    · rw [← List.append_assoc]
      exact inside.paired.leaving inside.below

/-! ### Walks -/

/-- A walk that enters a node, goes on below it and leaves it. -/
theorem node_tracked (vis : Visitor σ) (n : Node) (p : Position) (names : Except Fault α)
    {f : α → Walk σ Bool} {f' : α → Walk (σ × List Event) Bool}
    (below : ∀ names, Notes (Inside vis.defines n p) (f names) (f' names)) :
    Notes (Tracked vis.defines (.node n) p)
      (do
        match ← vis.reply .enter n p with
        | .stop => return true
        | .skip => return false
        | .go => do
          let names ← names
          let stopped ← f names
          if stopped then return true else
            let left ← vis.reply .leave n p
            return left == .stop)
      (do
        match ← vis.noted.reply .enter n p with
        | .stop => return true
        | .skip => return false
        | .go => do
          let names ← names
          let stopped ← f' names
          if stopped then return true else
            let left ← vis.noted.reply .leave n p
            return left == .stop) := by
  refine (Notes.reply vis .enter n p).bind (Q := AfterEnter vis.defines n p) (fun entered => ?_) ?_ ?_
  · cases entered with
    | stop => exact .pure true .nil
    | skip => exact .pure false .nil
    | go =>
      refine .check names .nil fun names => ?_
      refine (below names).bind (Q := fun z => z = [] ∨ z = callsOn vis.defines .leave n p)
        (fun stopped => ?_) (fun x inside => ⟨x, [], (List.append_nil x).symm, inside, .inl rfl⟩)
        (fun x z inside hz => ⟨x, z, rfl, inside, hz⟩)
      cases stopped with
      | true => exact .pure true (.inl rfl)
      | false =>
        refine (Notes.reply vis .leave n p).bind (Q := (· = [])) (fun left => .pure _ rfl)
          (fun _ leave => .inr leave) ?_
        rintro _ _ rfl rfl
        exact .inr (List.append_nil _)
  · rintro _ rfl
    simpa using AfterEnter.nil.tracked (n := n) (p := p)
  · rintro _ y rfl left
    exact left.tracked

/-- What is noted on a walk. The induction is on the height of what is walked through. -/
theorem walk_tracked (vis : Visitor σ) (keys : KeyMap) (v : Value) (p : Position) :
    Notes (Tracked vis.defines v p) (walk vis keys v p) (walk vis.noted keys v p) := by
  induction height : v.height using Nat.strongRecOn generalizing v p with
  | ind height' ih =>
    subst height
    cases v with
    | node n =>
      rw [walk_at, walk_at]
      refine node_tracked vis n p (keys n.kindValue) fun names => ?_
      refine .untilStopped .nil (fun _ _ => .append) fun name _ => ?_
      cases steps : n.steps p name with
      | error e => exact .liftM (.error e) .nil
      | ok vs =>
        refine .untilStopped .nil (fun _ _ => .append) fun c hc => ?_
        obtain ⟨way, above⟩ := NodeOf.steps_below steps hc
        exact (ih c.1.height (NodeOf.steps_height steps hc) c.1 c.2 rfl).mono fun _ h =>
          .of_tracked h way above
    | _ =>
      rw [walk, walk]
      · exact .liftM (.error _) .nil
      all_goals
        intro n h
        cases h

/-- The calls of a visit, whatever the visitor does and even if the visit fails: they can be noted without
changing the visit, and then each of them is on entering or on leaving a node that is at its place in the
tree, the root being at the place without a path. A call on leaving a node comes after the call on entering
it, with the same place, and between the two are only calls at places below. -/
theorem visit_places (vis : Visitor σ) (keys : KeyMap) (root : Value) (st : σ) :
    ∃ events, (visit vis.noted keys root).exec (st, []) =
        (((visit vis keys root).exec st).1, ((visit vis keys root).exec st).2, events) ∧
      (∀ e ∈ events, (∃ side, e ∈ callsOn vis.defines side e.node e.place) ∧
        root.IsAt (.node e.node) e.place ∧ (.node e.node = root → e.place = .root)) ∧
      Paired vis.defines events := by
  have noted : Notes (Tracked vis.defines root .root) (visit vis keys root) (visit vis.noted keys root) := by
    cases root with
    | node n =>
      refine (walk_tracked vis keys (.node n) .root).bind (Q := (· = [])) (fun stopped => .pure _ rfl)
        (fun _ h => h) ?_
      rintro x _ h rfl
      rwa [List.append_nil]
    | _ => exact .liftM (.error _) .nil
  obtain ⟨events, run, tracked⟩ := noted st []
  refine ⟨events, run, fun e he => ⟨(tracked.placed e he).1, (tracked.placed e he).2.isAt, fun same => ?_⟩,
    tracked.paired⟩
  exact (tracked.placed e he).2.height.2 (congrArg Value.height same)

end QueryDefaults
