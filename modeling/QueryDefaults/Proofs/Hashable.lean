import QueryDefaults.Proofs.Digests
import QueryDefaults.Session.Objects
import Mathlib.Tactic.Choose

/-!
Values with digests, and what is kept of them. A value that is made of data and of nodes that unfold to trees
has a digest by its content (`Store.IsHashable`). To keep such a value puts nothing into the store: only the
numbers of its data and rows are new, and it leads to no other nodes than before (`IsHashable.keep`). To keep
a new node with such attributes puts just this node there (`keep_node`).
-/

namespace QueryDefaults

namespace Store

/-- Whether a value has a digest by its content: it is made of data and of nodes that unfold to trees. -/
def IsHashable (s : Store) (v : Value) : Prop := ∃ d, s.DigestsTo v d

section IsHashable

variable {s : Store} {xs : List Value}

theorem IsHashable.atom {v : Value} (plain : v.isAtom = true) : s.IsHashable v := by
  cases v with
  | null | undefined | bool | int | str | operation | action => exact ⟨_, .atom plain rfl⟩
  | _ => cases plain

theorem IsHashable.tuple (i : Nat) (flat : ∀ x ∈ xs, x.isSingle = true) (items : ∀ x ∈ xs, s.IsHashable x) :
    s.IsHashable (.tuple xs i) := by
  choose! g hg using items
  exact ⟨_, .tuple i flat hg⟩

theorem IsHashable.record (shape : Record) (i : Nat) (flat : ∀ x ∈ xs, x.isSingle = true)
    (items : ∀ x ∈ xs, s.IsHashable x) : s.IsHashable (.record shape xs i) := by
  choose! g hg using items
  exact ⟨_, .record shape i flat hg⟩

theorem IsHashable.node {n m : Node} (kept : s[n.id]? = some (.node m)) (own : m.id = n.id)
    (built : m.IsBuilt) (parts : ∀ a ∈ m.attrs, s.IsHashable a.2) : s.IsHashable (.node n) := by
  have values : ∀ v ∈ m.attrs.map Prod.snd, s.IsHashable v := fun v hv => by
    obtain ⟨a, ha, rfl⟩ := List.mem_map.1 hv
    exact parts a ha
  choose! g hg using values
  exact ⟨_, .node kept own built fun a ha => hg a.2 (List.mem_map_of_mem ha)⟩

end IsHashable

/-! ### Keeping values -/

/-- Two computations after each other, from what each of them gives. -/
theorem run_bind_eq {σ α β : Type} {m : StateM σ α} {f : α → StateM σ β} {x y z : σ} {a : α} {b : β}
    (first : m.run x = (a, y)) (second : (f a).run y = (b, z)) : (m >>= f).run x = (b, z) := by
  rw [StateT.run_bind, first]
  exact second

/-- The same data or the same row, perhaps with another number. -/
inductive Renumbers : Value → Value → Prop where
  | same {v : Value} (plain : v.isAtom = true) : Renumbers v v
  | int (n : Int) (i j : Nat) : Renumbers (.int n i) (.int n j)
  | str (text : String) (i j : Nat) : Renumbers (.str text i) (.str text j)
  | tuple (xs : List Value) (i j : Nat) : Renumbers (.tuple xs i) (.tuple xs j)
  | record (shape : Record) (xs : List Value) (i j : Nat) :
      Renumbers (.record shape xs i) (.record shape xs j)

theorem numbered_run (i next : Nat) : ∃ j later, (numbered i).run next = (j, later) ∧ next ≤ later := by
  by_cases new : i = 0
  · rw [numbered, if_pos new]
    exact ⟨next, next + 1, rfl, Nat.le_succ next⟩
  · rw [numbered, if_neg new]
    exact ⟨i, next, rfl, Nat.le_refl next⟩

theorem numberHere_loose {v : Value} (loose : v.isAtom = true ∨ v.isSingle = false) (next : Nat) :
    ∃ w later, v.numberHere.run next = (w, later) ∧ next ≤ later ∧ Renumbers v w := by
  cases v with
  | null | undefined | bool | operation | action => exact ⟨_, next, rfl, Nat.le_refl next, .same rfl⟩
  | int _ i =>
    obtain ⟨j, later, run, le⟩ := numbered_run i next
    refine ⟨_, later, ?_, le, .int _ i j⟩
    rw [Value.numberHere, Value.renumberHere, StateT.run_bind, run]
    rfl
  | str _ i =>
    obtain ⟨j, later, run, le⟩ := numbered_run i next
    refine ⟨_, later, ?_, le, .str _ i j⟩
    rw [Value.numberHere, Value.renumberHere, StateT.run_bind, run]
    rfl
  | tuple _ i =>
    obtain ⟨j, later, run, le⟩ := numbered_run i next
    refine ⟨_, later, ?_, le, .tuple _ i j⟩
    rw [Value.numberHere, Value.renumberHere, StateT.run_bind, run]
    rfl
  | record _ _ i =>
    obtain ⟨j, later, run, le⟩ := numbered_run i next
    refine ⟨_, later, ?_, le, .record _ _ i j⟩
    rw [Value.numberHere, Value.renumberHere, StateT.run_bind, run]
    rfl
  | _ => rcases loose with plain | row <;> contradiction

/-- Data and rows are kept without a change of the store. -/
theorem keepHere_loose {v : Value} (loose : v.isAtom = true ∨ v.isSingle = false) (s : Store) (next : Nat) :
    ∃ w later, (keepHere v).run ⟨s, next⟩ = (w, ⟨s, later⟩) ∧ next ≤ later ∧ Renumbers v w := by
  obtain ⟨w, later, run, le, same⟩ := numberHere_loose loose next
  refine ⟨w, later, ?_, le, same⟩
  rw [keepHere]
  simp only [StateT.run_bind, StateT.run_modifyGet, run, pure_bind]
  cases same with
  | same plain =>
    cases v with
    | null | undefined | bool | int | str | operation | action => rfl
    | _ => cases plain
  | _ => rfl

section Renumbers

variable {s : Store} {v w : Value}

theorem Renumbers.digestsTo (h : Renumbers v w) {d : Digest} (given : s.DigestsTo v d) : s.DigestsTo w d := by
  cases h with
  | same => exact given
  | int | str =>
    cases given with
    | atom plain digest => exact .atom rfl digest
  | tuple _ _ j =>
    cases given with
    | atom plain => cases plain
    | tuple _ flat items => exact .tuple j flat items
  | record shape _ _ j =>
    cases given with
    | atom plain => cases plain
    | record _ _ flat items => exact .record shape j flat items

theorem Renumbers.isSingle (h : Renumbers v w) : w.isSingle = v.isSingle := by cases h <;> rfl

theorem Renumbers.reaches (h : Renumbers v w) {i : Nat} (reached : s.Reaches w i) : s.Reaches v i := by
  cases h with
  | same => exact reached
  | int | str => cases reached
  | tuple _ j =>
    cases reached with
    | item _ mem below => exact .item j mem below
  | record shape _ j =>
    cases reached with
    | part _ _ mem below => exact .part shape j mem below

end Renumbers

/-- What a value becomes that is kept: it has a digest as before, and leads to no more nodes. -/
structure Stays (s : Store) (v w : Value) : Prop where
  single : w.isSingle = v.isSingle
  hashable : s.IsHashable w
  reaches : ∀ i, s.Reaches w i → s.Reaches v i

/-- A computation keeps a value and puts nothing into the store. -/
def Keeps (s : Store) (v : Value) (m : Grow Value) : Prop :=
  ∀ next, ∃ w later, m.run ⟨s, next⟩ = (w, ⟨s, later⟩) ∧ next ≤ later ∧ s.Stays v w

section Keeps

variable {s : Store}

theorem keeps_atom {v : Value} (plain : v.isAtom = true) : s.Keeps v (keepHere v) := fun next => by
  obtain ⟨w, later, run, le, same⟩ := keepHere_loose (.inl plain) s next
  obtain ⟨d, hd⟩ := IsHashable.atom (s := s) plain
  exact ⟨w, later, run, le, same.isSingle, ⟨d, same.digestsTo hd⟩, fun i hi => same.reaches hi⟩

theorem keeps_all {xs : List Value}
    (items : ∀ x ∈ xs, s.Keeps x (x.rebuild s.known fun _ w => keepHere w)) (next : Nat) :
    ∃ ys later, (rebuildAll s.known (fun _ w => keepHere w) xs).run ⟨s, next⟩ = (ys, ⟨s, later⟩) ∧
      next ≤ later ∧ ∀ y ∈ ys, ∃ x ∈ xs, s.Stays x y := by
  induction xs generalizing next with
  | nil => exact ⟨[], next, rfl, Nat.le_refl next, fun y hy => nomatch hy⟩
  | cons x xs ih =>
    obtain ⟨y, middle, run, le, stays⟩ := items x (List.mem_cons_self ..) next
    obtain ⟨ys, later, rest, le', all⟩ := ih (fun z hz => items z (List.mem_cons_of_mem _ hz)) middle
    refine ⟨y :: ys, later, ?_, Nat.le_trans le le', fun z hz => ?_⟩
    · rw [rebuildAll]
      exact run_bind_eq run (run_bind_eq rest rfl)
    · rcases List.mem_cons.1 hz with rfl | hz
      · exact ⟨x, List.mem_cons_self .., stays⟩
      · obtain ⟨u, hu, same⟩ := all z hz
        exact ⟨u, List.mem_cons_of_mem _ hu, same⟩

theorem Stays.all_single {xs ys : List Value} (flat : ∀ x ∈ xs, x.isSingle = true)
    (all : ∀ y ∈ ys, ∃ x ∈ xs, s.Stays x y) : ∀ y ∈ ys, y.isSingle = true := fun y hy => by
  obtain ⟨x, hx, stays⟩ := all y hy
  rw [stays.single, flat x hx]

/-- Data, rows and nodes that the store has are kept as they are, but for numbers. -/
theorem IsHashable.keeps (zero : s.contains 0 = false) {v : Value} (h : s.IsHashable v) :
    s.Keeps v (v.rebuild s.known fun _ w => keepHere w) := by
  obtain ⟨d, h⟩ := h
  induction h with
  | @atom v _ plain digest =>
    have here : v.rebuild s.known (fun _ w => keepHere w) = keepHere v := by
      cases v with
      | null | undefined | bool | int | str | operation | action => rfl
      | _ => cases plain
    rw [here]
    exact keeps_atom plain
  | @tuple xs g i flat items ih =>
    intro next
    obtain ⟨ys, middle, run, le, all⟩ := keeps_all ih next
    obtain ⟨w, later, rest, le', same⟩ := keepHere_loose (v := .tuple ys i) (.inr rfl) s middle
    obtain ⟨e, he⟩ := IsHashable.tuple i (Stays.all_single flat all) fun y hy =>
      (all y hy).elim fun x hx => hx.2.hashable
    refine ⟨w, later, run_bind_eq run rest, Nat.le_trans le le', same.isSingle, ⟨e, same.digestsTo he⟩, ?_⟩
    intro j hj
    cases same.reaches hj with
    | item _ mem below =>
      obtain ⟨x, hx, stays⟩ := all _ mem
      exact .item i hx (stays.reaches j below)
  | @record xs g shape i flat items ih =>
    intro next
    obtain ⟨ys, middle, run, le, all⟩ := keeps_all ih next
    obtain ⟨w, later, rest, le', same⟩ := keepHere_loose (v := .record shape ys i) (.inr rfl) s middle
    obtain ⟨e, he⟩ := IsHashable.record shape i (Stays.all_single flat all) fun y hy =>
      (all y hy).elim fun x hx => hx.2.hashable
    refine ⟨w, later, run_bind_eq run rest, Nat.le_trans le le', same.isSingle, ⟨e, same.digestsTo he⟩, ?_⟩
    intro j hj
    cases same.reaches hj with
    | part _ _ mem below =>
      obtain ⟨x, hx, stays⟩ := all _ mem
      exact .part shape i hx (stays.reaches j below)
  | @node n m g kept own built parts ih =>
    intro next
    have there : s.contains n.id = true := by
      rw [Std.TreeMap.contains_eq_isSome_getElem?, kept]
      rfl
    have positive : n.id ≠ 0 := fun h => by
      rw [h, zero] at there
      cases there
    have known : s.known (.node n) = some (.node ⟨n.id, n.kind, [], none⟩) := by
      simp [Store.known, Value.numberedAs, Value.objectNumber?, positive, there, Value.reference]
    refine ⟨.node ⟨n.id, n.kind, [], none⟩, next, ?_, Nat.le_refl next, rfl, ?_, fun i hi => ?_⟩
    · rw [Value.rebuild, known]
      rfl
    · exact ⟨_, .node (n := ⟨n.id, n.kind, [], none⟩) kept own built parts⟩
    · cases hi with
      | here => exact .here n
      | attr kept' mem below => exact .attr kept' mem below

theorem keep_eq (s : Store) (next : Nat) (v : Value) : ∃ first, next ≤ first ∧
    s.keep next v = (v.rebuild s.known fun _ w => keepHere w).run ⟨s, first⟩ :=
  ⟨_, Nat.le_max_left .., rfl⟩

theorem IsHashable.keep (zero : s.contains 0 = false) {v : Value} (h : s.IsHashable v) (next : Nat) :
    ∃ w later, s.keep next v = (w, ⟨s, later⟩) ∧ next ≤ later ∧ s.Stays v w := by
  obtain ⟨first, le, same⟩ := s.keep_eq next v
  obtain ⟨w, later, run, le', stays⟩ := h.keeps zero first
  exact ⟨w, later, same.trans run, Nat.le_trans le le', stays⟩

/-- The attributes of a new node are kept one by one. -/
theorem keeps_named (zero : s.contains 0 = false) {as : List (String × Value)}
    (parts : ∀ a ∈ as, s.IsHashable a.2) (next : Nat) :
    ∃ bs later, (rebuildNamed s.known (fun _ w => keepHere w) as).run ⟨s, next⟩ = (bs, ⟨s, later⟩) ∧
      next ≤ later ∧ bs.map Prod.fst = as.map Prod.fst ∧ ∀ b ∈ bs, s.IsHashable b.2 := by
  induction as generalizing next with
  | nil => exact ⟨[], next, rfl, Nat.le_refl next, rfl, fun b hb => nomatch hb⟩
  | cons a as ih =>
    obtain ⟨name, v⟩ := a
    obtain ⟨w, middle, run, le, stays⟩ := (parts (name, v) (List.mem_cons_self ..)).keeps zero next
    obtain ⟨bs, later, rest, le', names, all⟩ := ih (fun b hb => parts b (List.mem_cons_of_mem _ hb)) middle
    refine ⟨(name, w) :: bs, later, ?_, Nat.le_trans le le', congrArg (name :: ·) names, fun b hb => ?_⟩
    · rw [rebuildNamed]
      exact run_bind_eq run (run_bind_eq rest rfl)
    · rcases List.mem_cons.1 hb with rfl | hb
      · exact stays.hashable
      · exact all b hb

theorem keepHere_node (s : Store) (i : Nat) {kind : Kind} {bs : List (String × Value)}
    (built : bs.map Prod.fst = kind.keys) :
    (keepHere (.node ⟨0, kind, bs, none⟩)).run ⟨s, i⟩ =
      (.node ⟨i, kind, [], none⟩, ⟨s.insert i (.node ⟨i, kind, bs, none⟩), i + 1⟩) := by
  have all : bs.filter (fun b => kind.hasPlaceFor b.1 || b.1 == marksName) = bs :=
    List.filter_eq_self.2 fun b hb => by
      have known : b.1 ∈ kind.keys := built ▸ List.mem_map_of_mem hb
      simp [Kind.hasPlaceFor, known]
  have run : (keepHere (.node ⟨0, kind, bs, none⟩)).run ⟨s, i⟩ = (.node ⟨i, kind, [], none⟩,
      ⟨s.insert i (.node ⟨i, kind, bs.filter (fun b => kind.hasPlaceFor b.1 || b.1 == marksName),
        none⟩), i + 1⟩) := rfl
  rw [run, all]

/-- A new node gets a number that is not taken, and is put into the store. -/
theorem keep_node (zero : s.contains 0 = false) {kind : Kind} {attrs : List (String × Value)}
    (built : attrs.map Prod.fst = kind.keys) (parts : ∀ a ∈ attrs, s.IsHashable a.2) (next : Nat) :
    ∃ i bs, s.keep next (.node ⟨0, kind, attrs, none⟩) =
        (.node ⟨i, kind, [], none⟩, ⟨s.insert i (.node ⟨i, kind, bs, none⟩), i + 1⟩) ∧ next ≤ i ∧
      bs.map Prod.fst = kind.keys ∧ ∀ b ∈ bs, s.IsHashable b.2 := by
  obtain ⟨first, le, same⟩ := s.keep_eq next (.node ⟨0, kind, attrs, none⟩)
  obtain ⟨bs, i, run, le', names, all⟩ := keeps_named zero parts first
  refine ⟨i, bs, ?_, Nat.le_trans le le', names.trans built, all⟩
  have new : s.known (.node ⟨0, kind, attrs, none⟩) = none := rfl
  rw [same, Value.rebuild, new]
  have again : (rebuildNode s.known (fun _ w => keepHere w) ⟨0, kind, attrs, none⟩).run ⟨s, first⟩ =
      (⟨0, kind, bs, none⟩, ⟨s, i⟩) := run_bind_eq run rfl
  exact run_bind_eq again (keepHere_node s i (names.trans built))

end Keeps

/-! ### Making nodes -/

/-- Whether a value can be given for an attribute of a new node: it has a digest, or it is a list that becomes
such a row. -/
def IsGiven (s : Store) (v : Value) : Prop :=
  s.IsHashable v ∨ ∃ xs i, v = .list xs i ∧ s.IsHashable (.tuple xs 0)

section Making

variable {s : Store}

theorem IsHashable.items {xs : List Value} {i : Nat} (h : s.IsHashable (.tuple xs i)) :
    (∀ x ∈ xs, x.isSingle = true) ∧ ∀ x ∈ xs, s.IsHashable x := by
  obtain ⟨d, h⟩ := h
  cases h with
  | atom plain => cases plain
  | tuple _ flat items => exact ⟨flat, fun x hx => ⟨_, items x hx⟩⟩

theorem IsHashable.fields {shape : Record} {xs : List Value} {i : Nat}
    (h : s.IsHashable (.record shape xs i)) :
    (∀ x ∈ xs, x.isSingle = true) ∧ ∀ x ∈ xs, s.IsHashable x := by
  obtain ⟨d, h⟩ := h
  cases h with
  | atom plain => cases plain
  | record _ _ flat items => exact ⟨flat, fun x hx => ⟨_, items x hx⟩⟩

theorem placeOf_hashable {xs : List Value} {w : Value} (flat : ∀ x ∈ xs, x.isSingle = true)
    (items : ∀ x ∈ xs, s.IsHashable x) (h : placeOf xs = .ok w) : s.IsHashable w := by
  unfold placeOf at h
  split at h
  · cases h
    exact .record .location 0 flat items
  · cases h

/-- The form in which a node keeps what is given has a digest. -/
theorem IsGiven.keptForm {v w : Value} {name : String} (h : s.IsGiven v) (kept : keptForm name v = .ok w) :
    s.IsHashable w := by
  unfold QueryDefaults.keptForm at kept
  rcases h with h | ⟨xs, i, rfl, row⟩
  · split at kept
    · obtain ⟨d, h⟩ := h
      cases h with
      | atom plain => cases plain
    · split at kept
      · exact placeOf_hashable h.items.1 h.items.2 kept
      · cases kept
        exact h
    · split at kept
      · exact placeOf_hashable h.fields.1 h.fields.2 kept
      · cases kept
        exact h
    · cases kept
      exact h
  · cases kept
    exact row

/-- Names with what is made for each of them. -/
theorem named_of_mapM {f : String → Except Fault Value} {keys : List String} :
    ∀ {attrs : List (String × Value)},
      (keys.mapM fun key => do
        let v ← f key
        return (key, v)) = .ok attrs →
        attrs.map Prod.fst = keys ∧ ∀ a ∈ attrs, f a.1 = .ok a.2 := by
  induction keys with
  | nil =>
    intro attrs made
    cases made
    exact ⟨rfl, fun a ha => nomatch ha⟩
  | cons key keys ih =>
    intro attrs made
    rw [List.mapM_cons] at made
    cases given : f key with
    | error =>
      rw [given] at made
      cases made
    | ok v =>
      rw [given] at made
      cases rest : keys.mapM fun key => do
          let v ← f key
          return (key, v) with
      | error =>
        rw [rest] at made
        cases made
      | ok others =>
        rw [rest] at made
        cases made
        obtain ⟨names, each⟩ := ih rest
        refine ⟨congrArg (key :: ·) names, fun a ha => ?_⟩
        rcases List.mem_cons.1 ha with rfl | ha
        · exact given
        · exact each a ha

/-- A new node has the attributes of its kind, and each of them has a digest. -/
theorem build_hashable {kind : Kind} {given : List (String × Value)} {n : Node}
    (all : ∀ a ∈ given, s.IsGiven a.2) (made : NodeOf.build kind given = .ok n) :
    n = ⟨0, kind, n.attrs, none⟩ ∧ n.attrs.map Prod.fst = kind.keys ∧ ∀ a ∈ n.attrs, s.IsHashable a.2 := by
  rw [NodeOf.build] at made
  cases attributes : kind.attributes given with
  | error =>
    rw [attributes] at made
    cases made
  | ok attrs =>
    rw [attributes] at made
    cases made
    obtain ⟨names, each⟩ := named_of_mapM attributes
    refine ⟨rfl, names, fun a ha => IsGiven.keptForm ?_ (each a ha)⟩
    cases found : given.lookup a.1 with
    | none => exact .inl (.atom rfl)
    | some v =>
      obtain ⟨before, after, whole, -⟩ := List.lookup_eq_some_iff.1 found
      refine all (a.1, v) ?_
      rw [whole]
      exact List.mem_append_right _ (List.mem_cons_self ..)

end Making

end Store
end QueryDefaults
