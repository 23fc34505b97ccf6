import Mathlib.Data.List.Nodup
import QueryDefaults.Proofs.Places
import QueryDefaults.Proofs.Tour

/-!
Which calls a visitor gets. The visitors here answer a call by all calls so far, so nothing is known of what
they will answer. A walk of one of them makes the visits of the tour of the tree, without those that are
hidden below a node whose entering was answered with `skip`, up to the first answer that stops the walk
(`visit_traverses`). Nothing else has an effect: a visit without a method makes no call, other answers let
the walk go on, and so does `skip` on leaving. The walk is put together from parts that stand behind each
other in the tour and do not hide anything in each other (`Traverses.append`).
-/

namespace QueryDefaults

/-! ### Visitors that answer by all calls so far -/

/-- The visitor with methods of some names that notes its calls and answers by those made so far, the present
one last. -/
def answeringVisitor (defines : String → Bool) (answer : List Event → Value) : Visitor (List Event) where
  defines := defines
  call name n p := do
    modify (· ++ [⟨name, n, p⟩])
    let events ← get
    return answer events

/-- What a visitor with fixed answers says to the last one of some calls. -/
def scriptedAnswer (methods : List (String × Method)) (events : List Event) : Value :=
  match events.getLast? with
  | none => .null
  | some e =>
    match methods.lookup e.method with
    | none => .null
    | some m => m.answerTo (callCount events e.method)

/-- Visitors with fixed answers are such visitors. -/
theorem scriptedVisitor_eq (methods : List (String × Method)) :
    scriptedVisitor methods =
      answeringVisitor (fun name => (methods.lookup name).isSome) (scriptedAnswer methods) := by
  rw [scriptedVisitor, answeringVisitor]
  congr 1
  funext name n p st
  show _ = (_, _)
  simp only [scriptedAnswer, List.getLast?_concat]
  cases methods.lookup name <;> rfl

/-- The calls made on a visit. -/
def Visit.calls (defines : String → Bool) (x : Visit) : List Event := callsOn defines x.side x.node x.place

/-- What a walk makes of a visit after some calls. -/
def Visit.replyAfter (defines : String → Bool) (answer : List Event → Value) (events : List Event)
    (x : Visit) : Reply :=
  match x.calls defines with
  | [] => .go
  | calls => (answer (events ++ calls)).reply

/-- The answers that stop a walk. -/
def Value.Stops (v : Value) : Prop := v = .action .stop ∨ v = .bool true

theorem reply_eq_stop {v : Value} : v.reply = .stop ↔ v.Stops := by
  unfold Value.reply Value.Stops
  split <;> simp_all

variable {defines : String → Bool} {answer : List Event → Value}

theorem reply_exec (x : Visit) {kind : String} (shown : x.node.kindValue.display = .ok kind)
    (events : List Event) :
    ((answeringVisitor defines answer).reply x.side x.node x.place).exec events =
      (.ok (x.replyAfter defines answer events), events ++ x.calls defines) := by
  rw [Visitor.reply, shown, liftM_ok, pure_bind, Visit.replyAfter, Visit.calls, callsOn, shown]
  have method : (answeringVisitor defines answer).method? x.side kind =
      if defines (x.side.text ++ "_" ++ kind) then some (x.side.text ++ "_" ++ kind)
      else if defines x.side.text then some x.side.text else none := rfl
  rw [method]
  by_cases special : defines (x.side.text ++ "_" ++ kind) = true
  · simp only [if_pos special]
    rfl
  · simp only [if_neg special]
    by_cases general : defines x.side.text = true
    · simp only [if_pos general]
      rfl
    · simp only [if_neg general, List.append_nil]
      rfl

/-! ### Visits that took place -/

/-- A visit that took place, and what came of it. -/
structure Visited where
  visit : Visit
  reply : Reply

/-- Whether a visit lies below a node that was skipped when it was entered, or leaves that node. -/
def Visited.Hides (y : Visited) (x : Visit) : Prop :=
  y.reply = .skip ∧ y.visit.side = .enter ∧ y.visit.address <+: x.address ∧ x.key ≠ y.visit.key

instance (y : Visited) (x : Visit) : Decidable (y.Hides x) :=
  inferInstanceAs (Decidable (_ ∧ _ ∧ _ ∧ _))

/-- The visits of a tour that are not hidden. -/
def visible (made : List Visited) (tour : List Visit) : List Visit :=
  tour.filter fun x => ∀ y ∈ made, ¬ y.Hides x

/-- Whether a walk was stopped. -/
def wasStopped (made : List Visited) : Bool := made.any (·.reply == .stop)

/-- All calls made on visits. -/
def callsOf (defines : String → Bool) (made : List Visited) : List Event :=
  made.flatMap (·.visit.calls defines)

/-- Whether what came of visits is what the answers to the calls on them say, after some other calls. -/
def Answered (defines : String → Bool) (answer : List Event → Value) : List Event → List Visited → Prop
  | _, [] => True
  | events, y :: ys =>
    y.reply = y.visit.replyAfter defines answer events ∧
      Answered defines answer (events ++ y.visit.calls defines) ys

/-- Visits go through a tour: what came of them is what their calls say; they are the visits of the tour that
are not hidden, in the order of the tour, all of them or those up to the one that stopped the walk. -/
structure Traverses (defines : String → Bool) (answer : List Event → Value) (events : List Event)
    (tour : List Visit) (made : List Visited) : Prop where
  answered : Answered defines answer events made
  begun : made.map (·.visit) <+: visible made tour
  whole : wasStopped made = false → made.map (·.visit) = visible made tour
  last : wasStopped made.dropLast = false

theorem Visited.not_hides {y : Visited} {x : Visit} (outside : ¬ y.visit.address <+: x.address) :
    ¬ y.Hides x := fun hides => outside hides.2.2.1

theorem mem_visible {made : List Visited} {tour : List Visit} {x : Visit} :
    x ∈ visible made tour ↔ x ∈ tour ∧ ∀ y ∈ made, ¬ y.Hides x := by
  simp [visible]

/-- Visits that hide nothing in each other's tours are visible side by side. -/
theorem visible_append {made made' : List Visited} {tour tour' : List Visit}
    (apart : ∀ y ∈ made, ∀ x ∈ tour', ¬ y.Hides x) (apart' : ∀ y ∈ made', ∀ x ∈ tour, ¬ y.Hides x) :
    visible (made ++ made') (tour ++ tour') = visible made tour ++ visible made' tour' := by
  rw [visible, visible, visible, List.filter_append]
  congr 1
  · refine List.filter_congr fun x hx => ?_
    simp only [List.mem_append, decide_eq_decide]
    exact ⟨fun h y hy => h y (.inl hy), fun h y hy => hy.elim (h y) fun hy => apart' y hy x hx⟩
  · refine List.filter_congr fun x hx => ?_
    simp only [List.mem_append, decide_eq_decide]
    exact ⟨fun h y hy => h y (.inr hy), fun h y hy => hy.elim (fun hy => apart y hy x hx) (h y)⟩

theorem wasStopped_cons (y : Visited) (made : List Visited) :
    wasStopped (y :: made) = (y.reply == .stop || wasStopped made) :=
  List.any_cons

theorem wasStopped_append (made made' : List Visited) :
    wasStopped (made ++ made') = (wasStopped made || wasStopped made') :=
  List.any_append

theorem callsOf_cons (y : Visited) (made : List Visited) :
    callsOf defines (y :: made) = y.visit.calls defines ++ callsOf defines made :=
  List.flatMap_cons

theorem callsOf_singleton (y : Visited) : callsOf defines [y] = y.visit.calls defines :=
  List.flatMap_singleton _ _

theorem callsOf_append (made made' : List Visited) :
    callsOf defines (made ++ made') = callsOf defines made ++ callsOf defines made' :=
  List.flatMap_append

theorem Answered.append : ∀ {events : List Event} {made made' : List Visited},
    Answered defines answer events made → Answered defines answer (events ++ callsOf defines made) made' →
      Answered defines answer events (made ++ made')
  | events, [], made', _, h' => by
    rw [callsOf, List.flatMap_nil, List.append_nil] at h'
    exact h'
  | events, y :: made, made', h, h' => by
    rw [callsOf_cons, ← List.append_assoc] at h'
    exact ⟨h.1, h.2.append h'⟩

theorem Visit.calls_cases (d : String → Bool) (x : Visit) : x.calls d = [] ∨ ∃ e, x.calls d = [e] := by
  rcases callsOn_cases d x.side x.node x.place with none | ⟨word, one⟩
  · exact .inl none
  · exact .inr ⟨_, one⟩

/-- Every call is made on a visit, and what came of the visit is what the answer to the call says. -/
theorem Answered.visit_of_call : ∀ {events : List Event} {made : List Visited},
    Answered defines answer events made → ∀ {front back : List Event} {e : Event},
      callsOf defines made = front ++ e :: back → ∃ before y after, made = before ++ y :: after ∧
        y.reply = (answer (events ++ front ++ [e])).reply ∧ callsOf defines after = back
  | events, [], _, front, back, e, h => by simp [callsOf] at h
  | events, y :: made, answered, front, back, e, h => by
    obtain ⟨own, others⟩ := answered
    rw [callsOf_cons] at h
    rcases y.visit.calls_cases defines with none | ⟨c, one⟩
    · rw [none, List.append_nil] at others
      rw [none, List.nil_append] at h
      obtain ⟨before, z, after, rfl, reply, rest⟩ := others.visit_of_call h
      exact ⟨y :: before, z, after, rfl, reply, rest⟩
    · rw [one] at others
      rw [one, List.singleton_append] at h
      cases front with
      | nil =>
        obtain ⟨rfl, rest⟩ := List.cons.inj h
        refine ⟨[], y, made, rfl, ?_, rest⟩
        rw [own, Visit.replyAfter, one, List.append_nil]
      | cons d front =>
        rw [List.cons_append, List.cons.injEq] at h
        obtain ⟨rfl, later⟩ := h
        obtain ⟨before, z, after, rfl, reply, rest⟩ := others.visit_of_call later
        refine ⟨y :: before, z, after, rfl, ?_, rest⟩
        rwa [List.append_assoc events, List.singleton_append] at reply

/-- What comes of a visit is due to a call, if it is not just that the walk goes on. -/
theorem Answered.call_of_visit {events : List Event} {made : List Visited}
    (answered : Answered defines answer events made) {y : Visited} (hy : y ∈ made) (notable : y.reply ≠ .go) :
    ∃ front e back, callsOf defines made = front ++ e :: back ∧
      y.reply = (answer (events ++ front ++ [e])).reply := by
  induction made generalizing events with
  | nil => cases hy
  | cons x made ih =>
    obtain ⟨own, others⟩ := answered
    rw [callsOf_cons]
    rcases List.mem_cons.1 hy with rfl | later
    · rcases y.visit.calls_cases defines with none | ⟨c, one⟩
      · rw [Visit.replyAfter, none] at own
        exact absurd own notable
      · refine ⟨[], c, callsOf defines made, by rw [one]; rfl, ?_⟩
        rw [own, Visit.replyAfter, one, List.append_nil]
    · obtain ⟨front, e, back, split, reply⟩ := ih others later
      refine ⟨x.visit.calls defines ++ front, e, back, by rw [split, List.append_assoc], ?_⟩
      rwa [← List.append_assoc]

namespace Traverses

variable {events : List Event} {tour tour' : List Visit} {made made' : List Visited}

/-- The visits that took place belong to the tour. -/
theorem mem (h : Traverses defines answer events tour made) {y : Visited} (hy : y ∈ made) :
    y.visit ∈ tour :=
  (mem_visible.1 (h.begun.subset (List.mem_map_of_mem hy))).1

theorem nil : Traverses defines answer events [] [] := ⟨trivial, List.prefix_rfl, fun _ => rfl, rfl⟩

/-- A tour of one visit. -/
theorem single (x : Visit) :
    Traverses defines answer events [x] [⟨x, x.replyAfter defines answer events⟩] := by
  have seen : visible [⟨x, x.replyAfter defines answer events⟩] [x] = [x] := by
    simp [visible, Visited.Hides]
  exact ⟨⟨rfl, trivial⟩, by rw [seen]; exact List.prefix_rfl, fun _ => seen.symm, rfl⟩

/-- A tour whose node is skipped: nothing else of it is visible. -/
theorem skip {x : Visit} {rest : List Visit} (enter : x.side = .enter)
    (skipped : x.replyAfter defines answer events = .skip)
    (below : ∀ z ∈ rest, x.address <+: z.address ∧ z.key ≠ x.key) :
    Traverses defines answer events (x :: rest) [⟨x, .skip⟩] := by
  have seen : visible [⟨x, .skip⟩] (x :: rest) = [x] := by
    have hidden : rest.filter (fun z => ∀ y ∈ [(⟨x, .skip⟩ : Visited)], ¬ y.Hides z) = [] := by
      refine List.filter_eq_nil_iff.2 fun z hz => ?_
      simp only [List.mem_singleton, forall_eq, decide_eq_true_eq, Classical.not_not]
      exact ⟨rfl, enter, below z hz⟩
    rw [visible, List.filter_cons_of_pos (by simp [Visited.Hides]), hidden]
  exact ⟨⟨skipped.symm, trivial⟩, by rw [seen]; exact List.prefix_rfl, fun _ => seen.symm, rfl⟩

/-- A walk that was stopped does not see what follows in the tour. -/
theorem stopped (h : Traverses defines answer events tour made) (stop : wasStopped made = true)
    (rest : List Visit) : Traverses defines answer events (tour ++ rest) made := by
  refine ⟨h.answered, h.begun.trans ?_, fun go => ?_, h.last⟩
  · rw [visible, visible, List.filter_append]
    exact List.prefix_append _ _
  · rw [stop] at go
    cases go

/-- Two tours behind each other, the second after a walk through the first that was not stopped. -/
theorem append (h : Traverses defines answer events tour made) (go : wasStopped made = false)
    (h' : Traverses defines answer (events ++ callsOf defines made) tour' made')
    (apart : ∀ y ∈ made, ∀ x ∈ tour', ¬ y.Hides x) (apart' : ∀ y ∈ made', ∀ x ∈ tour, ¬ y.Hides x) :
    Traverses defines answer events (tour ++ tour') (made ++ made') := by
  have seen := visible_append apart apart'
  refine ⟨h.answered.append h'.answered, ?_, fun none => ?_, ?_⟩
  · rw [seen, List.map_append, h.whole go]
    exact (List.prefix_append_right_inj _).2 h'.begun
  · rw [wasStopped_append, go, Bool.false_or] at none
    rw [seen, List.map_append, h.whole go, h'.whole none]
  · rcases List.eq_nil_or_concat made' with rfl | ⟨init, y, rfl⟩
    · rw [List.append_nil]
      exact h.last
    · have last := h'.last
      rw [List.concat_eq_append, List.dropLast_concat] at last
      rw [List.concat_eq_append, ← List.append_assoc, List.dropLast_concat, wasStopped_append, go, last]
      rfl

/-- A node that is entered, without a skip, before a walk through what follows. -/
theorem enter {x : Visit} (go : x.replyAfter defines answer events = .go)
    (h : Traverses defines answer (events ++ x.calls defines) tour made)
    (apart : ∀ y ∈ made, ¬ y.Hides x) :
    Traverses defines answer events (x :: tour) (⟨x, .go⟩ :: made) := by
  have first : Traverses defines answer events [x] _ := single x
  rw [go] at first
  have through : Traverses defines answer (events ++ callsOf defines [⟨x, .go⟩]) tour made := by
    rwa [callsOf_singleton]
  refine first.append rfl through (fun y hy z hz => ?_) fun y hy z hz => ?_
  · rw [List.mem_singleton.1 hy]
    rintro ⟨skip, _⟩
    cases skip
  · rw [List.mem_singleton.1 hz]
    exact apart y hy

/-- A node that is left after a walk through what comes before. -/
theorem leave {x : Visit} (h : Traverses defines answer events tour made) (go : wasStopped made = false)
    (side : x.side = .leave) (apart : ∀ y ∈ made, ¬ y.visit.address <+: x.address) :
    Traverses defines answer events (tour ++ [x])
      (made ++ [⟨x, x.replyAfter defines answer (events ++ callsOf defines made)⟩]) := by
  refine h.append go (single x) (fun y hy z hz => ?_) fun y hy z _ => ?_
  · rw [List.mem_singleton.1 hz]
    exact Visited.not_hides (apart y hy)
  · rw [List.mem_singleton.1 hy]
    rintro ⟨_, enter, _⟩
    rw [side] at enter
    cases enter

end Traverses

/-! ### Walks -/

/-- Whether a walk, after whatever calls, makes visits that go through a tour. -/
def GoesThrough (defines : String → Bool) (answer : List Event → Value) (m : Walk (List Event) Bool)
    (tour : List Visit) : Prop :=
  ∀ events, ∃ made, m.exec events = (.ok (wasStopped made), events ++ callsOf defines made) ∧
    Traverses defines answer events tour made

/-- The walks through children in a row go through their tours if each of them does. -/
theorem children_goThrough {f : Node × Position → Walk (List Event) Bool} {o : Node × Position → Outline}
    (a : List Nat) : ∀ {cs : List (Node × Position)},
      (∀ c ∈ cs, ∀ a, GoesThrough defines answer (f c) ((o c).tour a)) → ∀ i,
      GoesThrough defines answer (untilStopped f cs) (tourAll a i (cs.map o))
  | [], _, _, events => ⟨[], by rw [callsOf, List.flatMap_nil, List.append_nil]; rfl, by
      rw [List.map_nil, tourAll]
      exact .nil⟩
  | c :: cs, each, i, events => by
    obtain ⟨made, run, h⟩ := each c (List.mem_cons_self ..) (a ++ [i]) events
    rw [untilStopped, List.map_cons, tourAll]
    cases stop : wasStopped made with
    | true =>
      refine ⟨made, ?_, h.stopped stop _⟩
      rw [Walk.exec_bind_ok run, stop]
      rfl
    | false =>
      obtain ⟨made', run', h'⟩ := children_goThrough a (fun d hd => each d (List.mem_cons_of_mem _ hd))
        (i + 1) (events ++ callsOf defines made)
      refine ⟨made ++ made', ?_, h.append stop h' (fun y hy x hx => ?_) fun y hy x hx => ?_⟩
      · rw [Walk.exec_bind_ok run, stop, wasStopped_append, stop, callsOf_append, ← List.append_assoc]
        exact run'
      · exact Visited.not_hides (not_prefix_sibling ((o c).tour_address _ _ (h.mem hy)) hx).1
      · exact Visited.not_hides (not_prefix_sibling ((o c).tour_address _ _ hx) (h'.mem hy)).2

/-- A walk that enters a node, goes through what lies below it and leaves it goes through the tour of the
node. -/
theorem node_goesThrough (x : Visit) (side : x.side = .enter) {kind : String}
    (shown : x.node.kindValue.display = .ok kind) {m : Walk (List Event) Bool} {tour : List Visit}
    (below : ∀ y ∈ tour, x.address <+: y.address ∧ ¬ y.address <+: x.address)
    (h : GoesThrough defines answer m tour) :
    GoesThrough defines answer (do
      match ← (answeringVisitor defines answer).reply .enter x.node x.place with
      | .stop => return true
      | .skip => return false
      | .go => do
        let stopped ← m
        if stopped then return true else
          let left ← (answeringVisitor defines answer).reply .leave x.node x.place
          return left == .stop) (x :: (tour ++ [x.leaving])) := by
  intro events
  have entered : ((answeringVisitor defines answer).reply x.side x.node x.place).exec events = _ :=
    reply_exec x shown events
  rw [side] at entered
  rw [Walk.exec_bind_ok entered]
  cases reply : x.replyAfter defines answer events with
  | stop =>
    have alone : Traverses defines answer events [x] _ := .single x
    rw [reply] at alone
    refine ⟨[⟨x, .stop⟩], ?_, alone.stopped rfl _⟩
    rw [callsOf_singleton]
    rfl
  | skip =>
    refine ⟨[⟨x, .skip⟩], ?_, .skip side reply fun y hy => ?_⟩
    · rw [callsOf_singleton]
      rfl
    · rcases List.mem_append.1 hy with hy | hy
      · refine ⟨(below y hy).1, fun same => (below y hy).2 ?_⟩
        have level : y.address = x.address := congrArg Prod.fst same
        exact level ▸ List.prefix_rfl
      · rw [List.mem_singleton.1 hy]
        refine ⟨List.prefix_rfl, fun same => ?_⟩
        have leave : Side.leave = x.side := congrArg Prod.snd same
        rw [side] at leave
        cases leave
  | go =>
    obtain ⟨made, run, through⟩ := h (events ++ x.calls defines)
    have apart : ∀ y ∈ made, ¬ y.visit.address <+: x.address := fun y hy => (below _ (through.mem hy)).2
    simp only
    rw [Walk.exec_bind_ok run]
    cases stop : wasStopped made with
    | true =>
      refine ⟨⟨x, .go⟩ :: made, ?_, (through.stopped stop _).enter reply fun y hy =>
        Visited.not_hides (apart y hy)⟩
      rw [callsOf_cons, ← List.append_assoc, wasStopped_cons, stop]
      rfl
    | false =>
      have left : ((answeringVisitor defines answer).reply .leave x.node x.place).exec _ = _ :=
        reply_exec x.leaving shown (events ++ x.calls defines ++ callsOf defines made)
      have rest := through.leave (x := x.leaving) stop rfl apart
      refine ⟨_, ?_, rest.enter reply fun y hy => ?_⟩
      · rw [if_neg Bool.false_ne_true, Walk.exec_bind_ok left, callsOf_cons, callsOf_append,
          callsOf_singleton, wasStopped_cons, wasStopped_append, stop, wasStopped_cons, wasStopped,
          List.any_nil, Bool.or_false, Bool.false_or, ← List.append_assoc, ← List.append_assoc]
        rfl
      · rcases List.mem_append.1 hy with hy | hy
        · exact Visited.not_hides (apart y hy)
        · rw [List.mem_singleton.1 hy]
          rintro ⟨_, enter, _⟩
          cases enter

/-- A walk through a syntax tree goes through its tour. The induction is on the height of the tree. -/
theorem walk_goesThrough {keys : KeyMap} {n : Node} (h : n.IsSyntax keys) (p : Position) (a : List Nat) :
    GoesThrough defines answer (walk (answeringVisitor defines answer) keys (.node n) p)
      ((n.outline keys p).tour a) := by
  induction height : n.height using Nat.strongRecOn generalizing n p a with
  | ind height' ih =>
    subst height
    obtain ⟨kind, shown⟩ := h.shown
    rw [h.walk_eq, n.outline_eq, Outline.tour]
    refine node_goesThrough ⟨a, .enter, n, p⟩ rfl shown (fun y hy => ?_) (children_goThrough a ?_ 0)
    · obtain ⟨j, _, hj⟩ := tourAll_address _ a 0 y hy
      exact ⟨(List.prefix_append a [j]).trans hj, not_prefix_parent hj⟩
    · intro c hc b
      exact ih c.1.height (NodeOf.children_height hc) (h.children p c hc) c.2 b rfl

/-! ### Visits -/

theorem Visit.IsEnclosed.filter {x : Visit} {tour : List Visit} (h : x.IsEnclosed tour) {p : Visit → Bool}
    (entered : p x = true) (left : p x.leaving = true) : x.IsEnclosed (tour.filter p) := by
  obtain ⟨front, between, back, rfl, inside, around⟩ := h
  refine ⟨front.filter p, between.filter p, back.filter p, ?_, fun y hy => inside y (List.mem_filter.1 hy).1,
    fun y hy => around y ?_⟩
  · rw [List.filter_append, List.filter_cons_of_pos entered, List.filter_append, List.filter_cons_of_pos left]
  · rw [← List.filter_append] at hy
    exact (List.mem_filter.1 hy).1

namespace Traverses

variable {events : List Event} {tour : List Visit} {made : List Visited}

/-- No visit takes place twice. -/
theorem once (h : Traverses defines answer events tour made) (apart : (tour.map Visit.key).Nodup) :
    (made.map (·.visit.key)).Nodup := by
  have part : (made.map (·.visit)).Sublist tour := h.begun.sublist.trans List.filter_sublist
  have keys := (part.map Visit.key).nodup apart
  rwa [List.map_map] at keys

/-- The visit that stopped a walk is the last one. -/
theorem stop_last {y : Visited} {before after : List Visited}
    (h : Traverses defines answer events tour (before ++ y :: after)) (stop : y.reply = .stop) :
    after = [] := by
  rcases List.eq_nil_or_concat after with rfl | ⟨init, z, rfl⟩
  · rfl
  · have last := h.last
    rw [List.concat_eq_append, ← List.cons_append, ← List.append_assoc, List.dropLast_concat,
      wasStopped_append, wasStopped_cons, stop] at last
    simp at last

/-- A node that was skipped is not met again, neither is anything below it. -/
theorem skipped (h : Traverses defines answer events tour made) (apart : (tour.map Visit.key).Nodup)
    {y : Visited} (hy : y ∈ made) (skip : y.reply = .skip) (enter : y.visit.side = .enter) {z : Visited}
    (hz : z ∈ made) (below : y.visit.address <+: z.visit.address) : z = y := by
  have seen := (mem_visible.1 (h.begun.subset (List.mem_map_of_mem hz))).2 y hy
  refine List.inj_on_of_nodup_map (h.once apart) hz hy ?_
  exact Classical.not_not.1 fun other => seen ⟨skip, enter, below, other⟩

/-- A node that was entered and not skipped is left once, after all that was visited below it. -/
theorem left (h : Traverses defines answer events tour made) (apart : (tour.map Visit.key).Nodup)
    (encloses : ∀ x ∈ tour, x.side = .enter → x.IsEnclosed tour) (go : wasStopped made = false)
    {y : Visited} (hy : y ∈ made) (noSkip : y.reply ≠ .skip) (enter : y.visit.side = .enter) :
    y.visit.IsEnclosed (made.map (·.visit)) := by
  rw [h.whole go]
  have seen : y.visit ∈ visible made tour := h.begun.subset (List.mem_map_of_mem hy)
  refine (encloses y.visit (h.mem hy) enter).filter (decide_eq_true (mem_visible.1 seen).2)
    (decide_eq_true fun z hz hides => ?_)
  -- what hides the leaving of a node either hides its entering or is its entering
  obtain ⟨skip, entered, above, _⟩ := hides
  by_cases same : z.visit.key = y.visit.key
  · obtain rfl := List.inj_on_of_nodup_map (h.once apart) hz hy same
    exact noSkip skip
  · exact (mem_visible.1 seen).2 z hz ⟨skip, entered, above, Ne.symm same⟩

end Traverses

/-- A visit of a syntax tree by a visitor that may answer by all calls so far. The calls are those on visits
that go through the tour of the tree in its order, and what came of every visit is what the answer to its call
says. All visits of the tour take place, except that nothing below a skipped node does and that node is not
left, up to the visit that stopped the walk, which is the last one. No visit takes place twice, and a node
that is entered and not skipped is left after all that is visited below it. The visit gives `stop` if one of
the answers stops, and the call that got such an answer is the last one; otherwise it gives null. -/
theorem visit_traverses {keys : KeyMap} {root : Node} (h : root.IsSyntax keys) (defines : String → Bool)
    (answer : List Event → Value) :
    ∃ (made : List Visited) (stopped : Bool),
      (visit (answeringVisitor defines answer) keys (.node root)).exec [] =
        (.ok (if stopped then .action .stop else .null), callsOf defines made) ∧
      (stopped = true ↔ ∃ front e back, callsOf defines made = front ++ e :: back ∧
        (answer (front ++ [e])).Stops) ∧
      (∀ front e back, callsOf defines made = front ++ e :: back → (answer (front ++ [e])).Stops →
        back = []) ∧
      Traverses defines answer [] ((root.outline keys .root).tour []) made ∧
      (made.map (·.visit.key)).Nodup ∧
      (∀ y ∈ made, y.reply = .skip → y.visit.side = .enter →
        ∀ z ∈ made, y.visit.address <+: z.visit.address → z = y) ∧
      (stopped = false → ∀ y ∈ made, y.reply ≠ .skip → y.visit.side = .enter →
        y.visit.IsEnclosed (made.map (·.visit))) := by
  have walk : GoesThrough defines answer _ _ := walk_goesThrough h .root []
  obtain ⟨made, run, traverses⟩ := walk []
  have apart := (root.outline keys .root).tour_apart []
  have stopping {front back : List Event} {e : Event} (split : callsOf defines made = front ++ e :: back)
      (stops : (answer (front ++ [e])).Stops) : wasStopped made = true ∧ back = [] := by
    obtain ⟨before, y, after, rfl, reply, rest⟩ := traverses.answered.visit_of_call split
    have stop : y.reply = .stop := by rw [reply, List.nil_append, reply_eq_stop.2 stops]
    obtain rfl := traverses.stop_last stop
    refine ⟨?_, rest.symm⟩
    rw [wasStopped_append, wasStopped_cons, stop]
    simp
  refine ⟨made, wasStopped made, ?_, ⟨fun stop => ?_, ?_⟩, fun front e back split stops =>
    (stopping split stops).2, traverses, traverses.once apart, fun y hy skip enter z hz below =>
    traverses.skipped apart hy skip enter hz below, fun go y hy noSkip enter =>
    traverses.left apart ((root.outline keys .root).tour_encloses []) go hy noSkip enter⟩
  · rw [visit, Walk.exec_bind_ok run, List.nil_append]
    rfl
  · obtain ⟨y, hy, reply⟩ := List.any_eq_true.1 stop
    have stops : y.reply = .stop := eq_of_beq reply
    obtain ⟨front, e, back, split, told⟩ := traverses.answered.call_of_visit hy (by rw [stops]; decide)
    rw [stops, List.nil_append] at told
    exact ⟨front, e, back, split, reply_eq_stop.1 told.symm⟩
  · rintro ⟨front, e, back, split, stops⟩
    exact (stopping split stops).1

/-- The list literal `[[1], 2]`. -/
def nestedList : Node :=
  .made .listValue [("values", .tuple [
    .node (.made .listValue [("values", .tuple [.textNode .intValue "1"])]),
    .textNode .intValue "2"])]

theorem textNode_isSyntax (s : String) :
    (NodeOf.made .intValue [("value", .str s)]).IsSyntax documentKeys :=
  NodeOf.GoesBy.isSyntax ⟨rfl, rfl, rfl⟩ fun _ none => nomatch none

theorem nestedList_isSyntax : nestedList.IsSyntax documentKeys := by
  refine NodeOf.GoesBy.isSyntax ⟨rfl, rfl, rfl⟩ (List.forall_mem_singleton.2 ⟨[_, _], rfl, ?_⟩)
  refine List.forall_mem_cons.2 ⟨?_, List.forall_mem_singleton.2 (textNode_isSyntax "2")⟩
  refine NodeOf.GoesBy.isSyntax ⟨rfl, rfl, rfl⟩ (List.forall_mem_singleton.2 ⟨[_], rfl, ?_⟩)
  exact List.forall_mem_singleton.2 (textNode_isSyntax "1")

/-- Methods that skip the second node that is entered, and that are told when integers are left. -/
def skipSecond : List (String × Method) :=
  [("enter", ⟨.action .skip, some 2⟩), ("leave_int_value", ⟨.null, none⟩)]

/-- A visit that skips the inner list. -/
theorem visit_traverses_nested :
    nestedList.IsSyntax documentKeys ∧ ∃ (made : List Visited) (stopped : Bool),
      (visit (scriptedVisitor skipSecond) documentKeys (.node nestedList)).exec [] =
        (.ok (if stopped then .action .stop else .null),
          callsOf (fun name => (skipSecond.lookup name).isSome) made) ∧
      Traverses (fun name => (skipSecond.lookup name).isSome) (scriptedAnswer skipSecond) []
        ((nestedList.outline documentKeys .root).tour []) made := by
  rw [scriptedVisitor_eq]
  obtain ⟨made, stopped, run, _, _, traverses, _⟩ := visit_traverses nestedList_isSyntax
    (fun name => (skipSecond.lookup name).isSome) (scriptedAnswer skipSecond)
  exact ⟨nestedList_isSyntax, made, stopped, run, traverses⟩

end QueryDefaults
