import QueryDefaults.Proofs.Assigned

/-!
Steps that leave nodes alone. To make a node puts one into the store under a number that was free, and to assign
an attribute touches one node only. So any number of such steps leave all other nodes what they are
(`Session.afterAll_node`), and a tree of such nodes is seen as before (`Session.afterAll_view`).
-/

namespace QueryDefaults

/-! ### New nodes -/

namespace Store

section Making

variable {s : Store} {next : Nat}

theorem IsKept.items {xs : List Value} {i : Nat} {v : Value} (h : s.IsKept next v)
    (row : v = .list xs i ∨ v = .tuple xs i ∨ ∃ shape, v = .record shape xs i) : ∀ x ∈ xs, s.IsKept next x := by
  cases h with
  | simple plain => rcases row with rfl | rfl | ⟨shape, rfl⟩ <;> cases plain
  | object number => rcases row with rfl | rfl | ⟨shape, rfl⟩ <;> cases number
  | list i items =>
    rcases row with same | same | ⟨shape, same⟩ <;> cases same
    exact items
  | tuple i items =>
    rcases row with same | same | ⟨shape, same⟩ <;> cases same
    exact items
  | record shape i items =>
    rcases row with same | same | ⟨shape, same⟩ <;> cases same
    exact items
  | _ => rcases row with same | same | ⟨shape, same⟩ <;> cases same

/-- The form in which a node keeps a kept value is a kept value. -/
theorem IsKept.keptForm {v w : Value} {name : String} (h : s.IsKept next v) (form : keptForm name v = .ok w) :
    s.IsKept next w := by
  have place : ∀ {xs : List Value}, (∀ x ∈ xs, s.IsKept next x) → placeOf xs = .ok w → s.IsKept next w := by
    intro xs items made
    unfold placeOf at made
    split at made
    · cases made
      exact .record .location 0 items
    · cases made
  unfold QueryDefaults.keptForm at form
  split at form
  · cases form
    exact .tuple 0 (h.items (.inl rfl))
  · split at form
    · exact place (h.items (.inr (.inl rfl))) form
    · cases form
      exact h
  · split at form
    · exact place (h.items (.inr (.inr ⟨_, rfl⟩))) form
    · cases form
      exact h
  · cases form
    exact h

/-- The attributes of a new node are kept one by one. -/
theorem IsKept.keeps_named (low : ∀ i, s.contains i = true → 0 < i) {as : List (String × Value)}
    (parts : ∀ a ∈ as, s.IsKept next a.2) (first : Nat) (le : next ≤ first) :
    ∃ bs later, (rebuildNamed s.known (fun _ w => keepHere w) as).run ⟨s, first⟩ = (bs, ⟨s, later⟩) ∧
      first ≤ later ∧ bs.map Prod.fst = as.map Prod.fst := by
  induction as generalizing first with
  | nil => exact ⟨[], first, rfl, Nat.le_refl first, rfl⟩
  | cons a as ih =>
    obtain ⟨name, v⟩ := a
    obtain ⟨w, middle, run, le', -⟩ := (parts (name, v) (List.mem_cons_self ..)).keeps low first le
    obtain ⟨bs, later, rest, le'', names⟩ :=
      ih (fun b hb => parts b (List.mem_cons_of_mem _ hb)) middle (Nat.le_trans le le')
    refine ⟨(name, w) :: bs, later, ?_, Nat.le_trans le' le'', congrArg (name :: ·) names⟩
    rw [rebuildNamed]
    exact run_bind_eq run (run_bind_eq rest rfl)

/-- A new node is put under a number that was not given out before. -/
theorem IsKept.keep_node (low : ∀ i, s.contains i = true → 0 < i) {kind : Kind} {attrs : List (String × Value)}
    (built : attrs.map Prod.fst = kind.keys) (parts : ∀ a ∈ attrs, s.IsKept next a.2) :
    ∃ i bs, s.keep next (.node ⟨0, kind, attrs, none⟩) =
        (.node ⟨i, kind, [], none⟩, ⟨s.insert i (.node ⟨i, kind, bs, none⟩), i + 1⟩) ∧ next ≤ i ∧
      bs.map Prod.fst = kind.keys := by
  obtain ⟨first, le, same⟩ := s.keep_eq next (.node ⟨0, kind, attrs, none⟩)
  obtain ⟨bs, i, run, le', names⟩ := IsKept.keeps_named low parts first le
  refine ⟨i, bs, ?_, Nat.le_trans le le', names.trans built⟩
  have new : s.known (.node ⟨0, kind, attrs, none⟩) = none := rfl
  have again : (rebuildNode s.known (fun _ w => keepHere w) ⟨0, kind, attrs, none⟩).run ⟨s, first⟩ =
      (⟨0, kind, bs, none⟩, ⟨s, i⟩) := run_bind_eq run rfl
  rw [same, Value.rebuild, new]
  exact run_bind_eq again (keepHere_node s i (names.trans built))

/-- A store with a new node in it is orderly, and has all nodes that it had. -/
theorem IsOrderly.insert_node (h : s.IsOrderly next) {i : Nat} (le : next ≤ i) {kind : Kind}
    {bs : List (String × Value)} (built : bs.map Prod.fst = kind.keys) :
    IsOrderly (s.insert i (.node ⟨i, kind, bs, none⟩)) (i + 1) ∧
      s.Grows next (s.insert i (.node ⟨i, kind, bs, none⟩)) (i + 1) ∧
      ∀ (j : Nat) v, s[j]? = some v → (s.insert i (.node ⟨i, kind, bs, none⟩))[j]? = some v := by
  have old : ∀ (j : Nat) v, s[j]? = some v →
      (s.insert i (.node ⟨i, kind, bs, none⟩))[j]? = some v := fun j v found => by
    have low := (h.below j (contains_of_getElem? found)).2
    exact (getElem?_insert_of_ne (by omega) _).trans found
  have grows : s.Grows next (s.insert i (.node ⟨i, kind, bs, none⟩)) (i + 1) := by
    refine ⟨by omega, fun j hj => by simp [hj], fun j m low found => ⟨m, ?_⟩⟩
    exact (getElem?_insert_of_ne (by omega) _).symm.trans found
  refine ⟨⟨Nat.succ_pos i, fun j hj => ?_, fun j v found => ?_, fun j m es l found marked => ?_⟩, grows, old⟩
  · have positive := h.positive
    rw [Std.TreeMap.contains_insert] at hj
    rcases Bool.or_eq_true_iff.1 hj with same | old
    · obtain rfl : i = j := Std.LawfulEqCmp.eq_of_compare (beq_iff_eq.1 same)
      exact ⟨by omega, Nat.lt_succ_self i⟩
    · have bounds := h.below j old
      exact ⟨bounds.1, by omega⟩
  · rw [Std.TreeMap.getElem?_insert] at found
    split at found
    · next same =>
      cases found
      exact congrArg some (Std.LawfulEqCmp.eq_of_compare same)
    · exact (h.whole j v found).mono grows
  · rw [Std.TreeMap.getElem?_insert] at found
    split at found
    · cases found
      have unmarked : marksName ∉ bs.map Prod.fst := by
        rw [built]
        exact kind.marksName_notMem
      rw [lookup_eq_none unmarked] at marked
      cases marked
    · exact (h.marks j m es l found marked).elim fun fs there => ⟨fs, old l _ there⟩

end Making
end Store

/-! ### Steps -/

/-- Whether a step makes a node or assigns an attribute, with values of objects that the session has, and leaves
alone the nodes with certain numbers. -/
def NodeStep.Spares (st : Session) (spared : Nat → Prop) : NodeStep → Prop
  | .make _ attrs => ∀ a ∈ attrs, st.store.IsKept st.nextId a.2
  | .assign target _ value => ∃ n m, target = .node n ∧ st.store[n.id]? = some (.node m) ∧ ¬ spared n.id ∧
      st.store.IsKept st.nextId value
  | .hash _ => False

namespace Session.IsOrderly

open SessionM

variable {st : Session} {spared : Nat → Prop}

/-- A node is made, and all other nodes stay what they are. -/
theorem make (h : st.IsOrderly) {kind : Kind} {attrs : List (String × Value)}
    (kept : ∀ a ∈ attrs, st.store.IsKept st.nextId a.2) :
    (st.after (.make kind attrs)).IsOrderly ∧
      ∀ (j : Nat) v, st.store[j]? = some v → (st.after (.make kind attrs)).store[j]? = some v := by
  cases made : NodeOf.build kind attrs with
  | error e =>
    have failed : (newNode kind attrs).run.run st = (.error e, st) :=
      run_bind_error (by rw [made]; rfl) _
    have same : st.after (.make kind attrs) = st := congrArg Prod.snd (run_bind_error failed _)
    rw [same]
    exact ⟨h, fun _ _ found => found⟩
  | ok n =>
    rw [NodeOf.build] at made
    cases attributes : kind.attributes attrs with
    | error e =>
      rw [attributes] at made
      cases made
    | ok as =>
      rw [attributes] at made
      cases made
      obtain ⟨names, each⟩ := Store.named_of_mapM attributes
      have parts : ∀ a ∈ as, st.store.IsKept st.nextId a.2 := fun a ha => by
        refine Store.IsKept.keptForm ?_ (each a ha)
        cases found : attrs.lookup a.1 with
        | none => exact .simple rfl
        | some v =>
          obtain ⟨before, after, whole, -⟩ := List.lookup_eq_some_iff.1 found
          refine kept (a.1, v) ?_
          rw [whole]
          exact List.mem_append_right _ (List.mem_cons_self ..)
      obtain ⟨i, bs, keeps, le, built⟩ :=
        Store.IsKept.keep_node (fun i hi => (Store.IsOrderly.below h i hi).1) names parts
      have build : NodeOf.build kind attrs = .ok ⟨0, kind, as, none⟩ := by
        rw [NodeOf.build, attributes]
        rfl
      have run : (newNode kind attrs).run.run st = _ :=
        (run_bind_ok (run_lift build st) _).trans (run_keep keeps)
      have same : st.after (.make kind attrs) =
          { st with store := st.store.insert i (.node ⟨i, kind, bs, none⟩), nextId := i + 1 } :=
        congrArg Prod.snd (run_bind_ok run _)
      obtain ⟨orderly, -, old⟩ := Store.IsOrderly.insert_node h le built
      rw [same]
      exact ⟨orderly, old⟩

/-- A step keeps a session orderly, and leaves alone what it spares. -/
theorem step (h : st.IsOrderly) {step : NodeStep} (spares : step.Spares st spared) :
    (st.after step).IsOrderly ∧ ∀ j m, spared j → st.store[j]? = some (.node m) →
      (st.after step).store[j]? = some (.node m) := by
  cases step with
  | make kind attrs =>
    obtain ⟨orderly, old⟩ := h.make spares
    exact ⟨orderly, fun j m _ found => old j _ found⟩
  | assign target name value =>
    obtain ⟨n, m, rfl, found, apart, kept⟩ := spares
    obtain ⟨k, seen, id⟩ := Store.IsOrderly.view_node h found
    rw [← id] at found apart
    have touches := Session.Touches.assign h found kept name
    have same : (st.after (.assign (.node n) name value)) =
        ((SessionM.assign (.node k) name value).run.run st).2 := by
      rw [Session.after, NodeStep.perform, run_bind_ok (run_view _), seen]
      cases run : (SessionM.assign (.node k) name value).run.run st with
      | mk result last =>
        cases result with
        | error e => rw [run_bind_error run]
        | ok w => rw [run_bind_ok run]; rfl
    rw [same]
    refine ⟨touches.orderly, fun j l spare there => touches.other ?_ there⟩
    rintro rfl
    exact apart spare
  | hash v => exact spares.elim

end Session.IsOrderly

/-- Whether each step leaves alone the nodes with certain numbers. -/
def Session.AllSpare (spared : Nat → Prop) (st : Session) : List NodeStep → Prop
  | [] => True
  | step :: steps => step.Spares st spared ∧ (st.after step).AllSpare spared steps

/-- Any number of steps leave alone the nodes that each of them spares. -/
theorem Session.afterAll_node {spared : Nat → Prop} {steps : List NodeStep} : ∀ {st : Session}, st.IsOrderly →
    st.AllSpare spared steps → (st.afterAll steps).IsOrderly ∧ ∀ j m, spared j →
      st.store[j]? = some (.node m) → (st.afterAll steps).store[j]? = some (.node m) := by
  induction steps with
  | nil => exact fun h _ => ⟨h, fun _ _ _ found => found⟩
  | cons step steps ih =>
    intro st h all
    obtain ⟨orderly, now⟩ := h.step all.1
    obtain ⟨last, later⟩ := ih orderly all.2
    exact ⟨last, fun j m spare found => later j m spare (now j m spare found)⟩

/-! ### What is seen afterwards -/

namespace Store

section Frame

variable {s t : Store} {v w : Value} {i j : Nat}

/-- Of a node only the number counts. -/
theorem Reaches.renamed {n m : Node} (h : s.Reaches (.node n) i) (same : n.id = m.id) :
    s.Reaches (.node m) i := by
  cases h with
  | here => exact same ▸ .here m
  | attr kept mem below => exact .attr (same ▸ kept) mem below

theorem Reaches.trans (h : s.Reaches v i) (further : s.Reaches (nodeAt i) j) : s.Reaches v j := by
  induction h with
  | here n => exact further.renamed rfl
  | item k mem _ ih => exact .item k mem (ih further)
  | part shape k mem _ ih => exact .part shape k mem (ih further)
  | attr kept mem _ ih => exact .attr kept mem (ih further)

/-- What a tree leads to are trees. -/
theorem Shows.unfolds (h : s.Shows v w) (reached : s.Reaches v i) : s.Unfolds i := by
  induction reached generalizing w with
  | here n => exact ⟨w, h.renamed rfl⟩
  | item _ mem _ ih =>
    cases h with
    | atom plain => cases plain
    | tuple _ items => exact ih (items _ mem)
  | part _ _ mem _ ih =>
    cases h with
    | atom plain => cases plain
    | record _ _ items => exact ih (items _ mem)
  | attr kept mem _ ih =>
    cases h with
    | atom plain => cases plain
    | node again parts =>
      cases kept.symm.trans again
      exact ih (parts _ mem)

/-- A value unfolds to the same tree as long as the nodes that it leads to stay what they are. -/
theorem Shows.congr (h : s.Shows v w) : (∀ j m, s.Reaches v j → s[j]? = some (.node m) →
    t[j]? = some (.node m)) → t.Shows v w := by
  induction h with
  | atom plain => exact fun _ => .atom plain
  | tuple i _ ih => exact fun same => .tuple i fun x hx => ih x hx fun j m hj => same j m (.item i hx hj)
  | record shape i _ ih =>
    exact fun same => .record shape i fun x hx => ih x hx fun j m hj => same j m (.part shape i hx hj)
  | @node n m f kept _ ih =>
    intro same
    exact .node (same n.id m (.here n) kept) fun a ha =>
      ih a ha fun j k hj => same j k (.attr kept ha hj)

end Frame
end Store

/-- A tree is seen as before after steps that leave its nodes alone, and so is each node that it leads to. -/
theorem Session.afterAll_view {st : Session} (h : st.IsOrderly) {v w : Value} (shows : st.store.Shows v w)
    {steps : List NodeStep} (spare : st.AllSpare (st.store.Reaches v) steps) :
    (st.afterAll steps).store.view v = st.store.view v ∧ ∀ i, st.store.Reaches v i →
      (st.afterAll steps).store.view (Store.nodeAt i) = st.store.view (Store.nodeAt i) := by
  obtain ⟨-, same⟩ := Session.afterAll_node h spare
  refine ⟨(shows.congr same).view.trans shows.view.symm, fun i reached => ?_⟩
  obtain ⟨u, tree⟩ := shows.unfolds reached
  exact (tree.congr fun j m hj => same j m (reached.trans hj)).view.trans tree.view.symm

end QueryDefaults
