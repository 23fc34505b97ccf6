import QueryDefaults.Proofs.Copied

/-!
Deep copies in a store. To keep the deep copy of a tree puts a node into the store for each node of the tree,
with a number that is greater by the first one that was free. Objects that were in the store stay what they
are (`Store.Copying`), and all nodes of the copy are there in the end, since none is ever taken out. So the
copy mirrors the tree (`IsTree.deepCopy`), and a session stays orderly when it is made (`deepCopyOf_tree`).
-/

namespace QueryDefaults

namespace Store

/-! ### Stores with copies -/

/-- What is kept of an attribute of a copied node. -/
abbrev Shifted (k : Nat) : Value → Value → Prop := Value.Matches fun n c => c.id = n.id + k

/-- Whether a store has what another one has below a number, and from this number on copies of nodes. -/
structure Copying (s : Store) (k : Nat) (g : Store) : Prop where
  old : ∀ j < k, g[j]? = s[j]?
  copies : ∀ j v, k ≤ j → g[j]? = some v → ∃ i m bs, j = i + k ∧ s[i]? = some (.node m) ∧ m.IsBuilt ∧
    v = .node ⟨i + k, m.kind, bs, none⟩ ∧ Aligned (Shifted k) m.attrs bs

/-- What a store becomes when the copies of all nodes are put into it that a value leads to. -/
structure Covers (s : Store) (k : Nat) (below : Nat → Prop) (g g' : Store) : Prop where
  copying : s.Copying k g'
  keeps : ∀ j, g.contains j = true → g'.contains j = true
  covers : ∀ j, below j → g'.contains (j + k) = true

/-- Whether to keep a value, a copy of an attribute, puts the copies of the nodes below this into a store. -/
def Settles (s : Store) (k : Nat) (v w : Value) : Prop :=
  ∀ g first, s.Copying k g → ∃ r g' later,
    (w.rebuild s.known fun _ w => keepHere w).run ⟨g, first⟩ = (r, ⟨g', later⟩) ∧ first ≤ later ∧
      s.Covers k (s.Reaches v) g g' ∧ Shifted k v r

section Settles

variable {s g : Store} {k i : Nat} {v w : Value}

theorem Covers.refl {below : Nat → Prop} (h : s.Copying k g) (none : ∀ j, ¬ below j) :
    s.Covers k below g g :=
  ⟨h, fun _ hj => hj, fun j hj => absurd hj (none j)⟩

/-- Data gets a number, if it has none. -/
theorem rebuild_atom (plain : v.isAtom = true) (g : Store) (first : Nat) : ∃ w later,
    (v.rebuild s.known fun _ w => keepHere w).run ⟨g, first⟩ = (w, ⟨g, later⟩) ∧ first ≤ later ∧
      Renumbers v w := by
  rw [(rebuild_simple (Value.isSimple_atom plain)).2]
  exact keepHere_loose (.inl plain) g first

theorem settles_atom (plain : v.isAtom = true) : s.Settles k v v := fun g first copying => by
  obtain ⟨w, later, run, le, same⟩ := rebuild_atom (s := s) plain g first
  refine ⟨w, g, later, run, le, .refl copying fun j reached => ?_, .atom plain same⟩
  cases reached <;> cases plain

theorem settles_location {line column : Value} (i j : Nat) (first : line.isAtom = true)
    (second : column.isAtom = true) :
    s.Settles k (.record .location [line, column] i) (.record .location [line, column] j) :=
  fun g next copying => by
    obtain ⟨row, middle, run, le, rows⟩ := rebuild_atom (s := s) first g next
    obtain ⟨place, last, rerun, le', places⟩ := rebuild_atom (s := s) second g middle
    obtain ⟨l, later, here, le''⟩ := keepHere_row (s := g)
      (fun i => .record .location [row, place] i) (fun _ => rfl) (fun _ => rfl) j last
    have items : (rebuildAll s.known (fun _ w => keepHere w) [line, column]).run ⟨g, next⟩ =
        ([row, place], ⟨g, last⟩) :=
      run_bind_eq run (run_bind_eq (run_bind_eq rerun (run_bind_eq rfl rfl)) rfl)
    refine ⟨_, g, later, run_bind_eq items here, Nat.le_trans le (Nat.le_trans le' le''),
      .refl copying (not_reaches_location i first second), .location i l first second rows places⟩

/-- Nodes in a row are kept one by one. -/
theorem settles_row {ns cs : List Node}
    (items : List.Forall₂ (fun n c => s.Settles k (.node n) (.node c)) ns cs) (g : Store) (first : Nat)
    (copying : s.Copying k g) : ∃ ds g' later,
      (rebuildAll s.known (fun _ w => keepHere w) (cs.map .node)).run ⟨g, first⟩ =
        (ds.map .node, ⟨g', later⟩) ∧ first ≤ later ∧
        s.Covers k (fun j => ∃ n ∈ ns, s.Reaches (.node n) j) g g' ∧
        List.Forall₂ (fun n (d : Node) => d.id = n.id + k) ns ds := by
  induction items generalizing g first with
  | nil => exact ⟨[], g, first, rfl, Nat.le_refl first, .refl copying (fun _ ⟨_, hn, _⟩ => nomatch hn), .nil⟩
  | @cons n c ns cs settles _ ih =>
    obtain ⟨r, middle, next, run, le, covers, same⟩ := settles g first copying
    cases same with
    | atom plain => cases plain
    | @node _ d number =>
      obtain ⟨ds, last, later, rest, le', others, numbers⟩ := ih middle next covers.copying
      refine ⟨d :: ds, last, later, run_bind_eq run (run_bind_eq rest rfl), Nat.le_trans le le', ?_,
        .cons number numbers⟩
      refine ⟨others.copying, fun j hj => others.keeps j (covers.keeps j hj), fun j ⟨l, hl, reached⟩ => ?_⟩
      rcases List.mem_cons.1 hl with rfl | hl
      · exact others.keeps _ (covers.covers j reached)
      · exact others.covers j ⟨l, hl, reached⟩

theorem settles_nodes {ns cs : List Node}
    (items : List.Forall₂ (fun n c => s.Settles k (.node n) (.node c)) ns cs) (i j : Nat) :
    s.Settles k (.tuple (ns.map .node) i) (.tuple (cs.map .node) j) := fun g first copying => by
  obtain ⟨ds, g', middle, run, le, covers, numbers⟩ := settles_row items g first copying
  obtain ⟨l, later, here, le'⟩ := keepHere_row (s := g')
    (fun i => .tuple (ds.map .node) i) (fun _ => rfl) (fun _ => rfl) j middle
  refine ⟨_, g', later, run_bind_eq run here, Nat.le_trans le le', ?_, .nodes i l numbers⟩
  refine ⟨covers.copying, covers.keeps, fun j reached => covers.covers j ?_⟩
  cases reached with
  | item _ mem below =>
    obtain ⟨n, hn, rfl⟩ := List.mem_map.1 mem
    exact ⟨n, hn, below⟩

/-- The attributes of a copy are kept one by one. -/
theorem settles_named {as bs : List (String × Value)} (pairs : Aligned (s.Settles k) as bs) (g : Store)
    (first : Nat) (copying : s.Copying k g) : ∃ cs g' later,
      (rebuildNamed s.known (fun _ w => keepHere w) bs).run ⟨g, first⟩ = (cs, ⟨g', later⟩) ∧ first ≤ later ∧
        s.Covers k (fun j => ∃ a ∈ as, s.Reaches a.2 j) g g' ∧ Aligned (Shifted k) as cs := by
  induction pairs generalizing g first with
  | nil => exact ⟨[], g, first, rfl, Nat.le_refl first, .refl copying (fun _ ⟨_, ha, _⟩ => nomatch ha), .nil⟩
  | @cons a b as bs both _ ih =>
    obtain ⟨name, v⟩ := a
    obtain ⟨label, w⟩ := b
    obtain ⟨rfl, settles⟩ := both
    obtain ⟨r, middle, next, run, le, covers, same⟩ := settles g first copying
    obtain ⟨cs, last, later, rest, le', others, pairs⟩ := ih middle next covers.copying
    refine ⟨(name, r) :: cs, last, later, run_bind_eq run (run_bind_eq rest rfl), Nat.le_trans le le', ?_,
      .cons ⟨rfl, same⟩ pairs⟩
    refine ⟨others.copying, fun j hj => others.keeps j (covers.keeps j hj), fun j ⟨a, ha, reached⟩ => ?_⟩
    rcases List.mem_cons.1 ha with rfl | ha
    · exact others.keeps _ (covers.covers j reached)
    · exact others.covers j ⟨a, ha, reached⟩

/-- A node with a number of its own is put under it. -/
theorem keepHere_numbered {n : Node} (built : n.IsBuilt) (positive : 0 < n.id) (g : Store) (next : Nat) :
    (keepHere (.node n)).run ⟨g, next⟩ =
      (.node ⟨n.id, n.kind, [], none⟩, ⟨g.insert n.id (.node n), next⟩) := by
  have all : n.attrs.filter (fun b => n.kind.hasPlaceFor b.1 || b.1 == marksName) = n.attrs :=
    List.filter_eq_self.2 fun b hb => by
      have known : b.1 ∈ n.kind.keys := built.names ▸ List.mem_map_of_mem hb
      simp [Kind.hasPlaceFor, known]
  have here : (Value.node n).numberHere.run next = (.node n, next) := by
    have same : (numbered n.id).run next = (n.id, next) := by
      rw [numbered, if_neg (Nat.ne_of_gt positive)]
      rfl
    rw [Value.numberHere, Value.renumberHere, StateT.run_bind, same]
    rfl
  have run : (keepHere (.node n)).run ⟨g, next⟩ = (.node ⟨n.id, n.kind, [], none⟩,
      ⟨g.insert n.id (.node { n with
        attrs := n.attrs.filter fun b => n.kind.hasPlaceFor b.1 || b.1 == marksName }), next⟩) := by
    rw [keepHere]
    simp only [StateT.run_bind, StateT.run_modifyGet, here, pure_bind]
    rfl
  rw [run, all]

/-- A store has the copy of one more node. -/
theorem Copying.put (h : s.Copying k g) {m : Node} (found : s[i]? = some (.node m)) (built : m.IsBuilt)
    {bs : List (String × Value)} (pairs : Aligned (Shifted k) m.attrs bs) :
    s.Copying k (g.insert (i + k) (.node ⟨i + k, m.kind, bs, none⟩)) := by
  refine ⟨fun j low => (getElem?_insert_of_ne (by omega) _).trans (h.old j low), fun j v high there => ?_⟩
  by_cases here : j = i + k
  · subst here
    rw [Std.TreeMap.getElem?_insert_self] at there
    cases there
    exact ⟨i, m, bs, rfl, found, built, rfl, pairs⟩
  · exact h.copies j v high ((getElem?_insert_of_ne (Ne.symm here) _).symm.trans there)

/-- A copy of a node whose attributes are kept as copies is kept as one. -/
theorem settles_node (low : ∀ j, s.contains j = true → j < k) (positive : 0 < k) {m : Node}
    (found : s[i]? = some (.node m)) (built : m.IsBuilt) {bs : List (String × Value)}
    (pairs : Aligned (s.Settles k) m.attrs bs) :
    s.Settles k (nodeAt i) (.node ⟨i + k, m.kind, bs, none⟩) := fun g first copying => by
  obtain ⟨cs, g', later, run, le, covers, same⟩ := settles_named pairs g first copying
  have new : s.known (.node ⟨i + k, m.kind, bs, none⟩) = none := by
    have free : s.contains (i + k) = false := Bool.eq_false_iff.2 fun there => by
      have bound := low (i + k) there
      omega
    simp [Store.known, Value.numberedAs, Value.objectNumber?, free]
  have whole : NodeOf.IsBuilt ⟨i + k, m.kind, cs, none⟩ := same.names.symm.trans built
  have here := keepHere_numbered whole (by show 0 < i + k; omega) g' later
  refine ⟨.node ⟨i + k, m.kind, [], none⟩, g'.insert (i + k) (.node ⟨i + k, m.kind, cs, none⟩), later, ?_, le,
    ⟨covers.copying.put found built same, fun j hj => ?_, fun j reached => ?_⟩, .node rfl⟩
  · rw [Value.rebuild, new]
    exact run_bind_eq (run_bind_eq run rfl) here
  · rw [Std.TreeMap.contains_insert, covers.keeps j hj, Bool.or_true]
  · rw [Std.TreeMap.contains_insert]
    cases reached with
    | here => simp
    | attr kept mem below =>
      cases found.symm.trans kept
      rw [covers.covers j ⟨_, mem, below⟩, Bool.or_true]

theorem Settles.renamed {n m : Node} (h : s.Settles k (.node n) w) (same : n.id = m.id) :
    s.Settles k (.node m) w := fun g first copying => by
  obtain ⟨r, g', later, run, le, covers, shifted⟩ := h g first copying
  refine ⟨r, g', later, run, le, ⟨covers.copying, covers.keeps, fun j reached => ?_⟩, ?_⟩
  · exact covers.covers j (reached.renamed same.symm)
  · cases shifted with
    | atom plain => cases plain
    | node number => exact .node (same ▸ number)

end Settles

/-! ### Deep copies of trees -/

section Trees

variable {s : Store} {k t i : Nat} {apply : Application} {v : Value} {name : String}

/-- Whether the deep copy of the node with a number is a node with a number that is greater by `k`, and can be
kept. -/
def CopiesTo (s : Store) (apply : Application) (k t i : Nat) (c : Node) : Prop :=
  c.id = i + k ∧ (∀ met, ((s.view (nodeAt i)).deepCopy apply ⟨k, t⟩).run met = .ok (.node c, met)) ∧
    s.Settles k (nodeAt i) (.node c)

theorem deepCopy_atom (plain : v.isAtom = true) (shift : Shift) (met : Copied) :
    (v.deepCopy apply shift).run met = .ok (v, met) := by
  cases v <;> first | rfl | cases plain

/-- Deep copies of nodes are others, and so is a row of them, unless it is empty. -/
theorem deepCopy_row (positive : 0 < k) {ns cs : List Node}
    (copies : List.Forall₂ (fun n c => s.IsTree n.id ∧ s.CopiesTo apply k t n.id c) ns cs) (met : Copied) :
    (deepCopyAll apply ⟨k, t⟩ ((ns.map .node).map s.view)).run met = .ok (cs.map .node, met) ∧
      (sameItems ((ns.map .node).map s.view) (cs.map .node) = true → ns = []) := by
  induction copies with
  | nil => exact ⟨rfl, fun _ => rfl⟩
  | @cons n c ns cs both _ ih =>
    obtain ⟨tree, number, run, -⟩ := both
    obtain ⟨m, -, own, -, -, seen⟩ := tree.view
    have here : s.view (.node n) = s.view (nodeAt n.id) := (tree.shows.renamed (m := n) rfl).view
    refine ⟨?_, fun same => ?_⟩
    · rw [List.map_cons, List.map_cons, deepCopyAll, here]
      exact (run_bind_met (run met) _).trans ((run_bind_met ih.1 _).trans rfl)
    · rw [List.map_cons, List.map_cons, List.map_cons, here, seen, sameItems, List.zip_cons_cons, List.all_cons,
        Bool.and_eq_true] at same
      have one : oneObject m.id c.id = true := same.1
      rw [oneObject, Bool.and_eq_true, beq_iff_eq] at one
      omega

/-- A deep copy of an attribute is one that a new node keeps, and that can be kept. -/
theorem deepCopy_constructed (positive : 0 < k) (constructed : v.IsConstructed name)
    (children : ∀ n ∈ v.nodes, s.IsTree n.id ∧ ∃ c, s.CopiesTo apply k t n.id c) :
    ∃ w, (∀ met, ((s.view v).deepCopy apply ⟨k, t⟩).run met = .ok (w, met)) ∧ w.IsConstructed name ∧
      ∀ w', w.Reforms w' → s.Settles k v w' := by
  cases constructed with
  | atom plain =>
    rw [view_atom plain]
    refine ⟨v, deepCopy_atom plain ⟨k, t⟩, .atom plain, fun w' same => ?_⟩
    cases same with
    | same => exact settles_atom plain
    | location => cases plain
  | @location line column i first second =>
    rw [(Shows.location i first second).view]
    refine ⟨.record .location [line, column] (i + k), fun met => ?_, .location _ first second,
      fun w' same => ?_⟩
    · have items : (deepCopyAll apply ⟨k, t⟩ [line, column]).run met = .ok ([line, column], met) :=
        (run_bind_met (deepCopy_atom first _ _) _).trans
          ((run_bind_met ((run_bind_met (deepCopy_atom second _ _) _).trans rfl) _).trans rfl)
      exact (run_bind_met items _).trans rfl
    · cases same with
      | same => exact settles_location i _ first second
      | location _ _ _ j => exact settles_location i j first second
  | node n =>
    obtain ⟨tree, c, number, run, settles⟩ := children n (List.mem_singleton.2 rfl)
    rw [(tree.shows.renamed (m := n) rfl).view]
    refine ⟨.node c, run, .node c, fun w' same => ?_⟩
    cases same
    exact settles.renamed rfl
  | nodes ns i other =>
    rw [Value.nodes_tuple] at children
    obtain ⟨cs, copies⟩ := exists_forall₂ (R := fun n c => s.IsTree n.id ∧ s.CopiesTo apply k t n.id c)
      fun n hn => (children n hn).2.imp fun c hc => ⟨(children n hn).1, hc⟩
    have items : List.Forall₂ (fun n c => s.Settles k (.node n) (.node c)) ns cs :=
      copies.imp fun n c both => both.2.2.2.renamed rfl
    rw [view_tuple i fun x hx => by
      obtain ⟨n, hn, rfl⟩ := List.mem_map.1 hx
      have tree := (children n hn).1.shows.renamed (m := n) rfl
      exact tree.view.symm ▸ tree]
    have row : ∃ j, ∀ met, ((Value.tuple ((ns.map .node).map s.view) i).deepCopy apply ⟨k, t⟩).run met =
        .ok (.tuple (cs.map .node) j, met) := by
      cases same : sameItems ((ns.map Value.node).map s.view) (cs.map .node) with
      | true =>
        obtain rfl := (deepCopy_row positive copies {}).2 same
        cases copies
        exact ⟨i, fun met => rfl⟩
      | false =>
        refine ⟨i + k, fun met => ?_⟩
        refine (run_bind_met (deepCopy_row positive copies met).1 _).trans ?_
        rw [same]
        rfl
    obtain ⟨j, run⟩ := row
    refine ⟨_, run, .nodes cs j other, fun w' same => ?_⟩
    cases same
    exact settles_nodes items i j

/-- The deep copy of a tree is one of its root, and can be kept. -/
theorem IsTree.deepCopy (low : ∀ j, s.contains j = true → j < k) (positive : 0 < k) (apply : Application)
    (t : Nat) (h : s.IsTree i) : ∃ c, s.CopiesTo apply k t i c := by
  induction h with
  | @node i m kept own built constructed children ih =>
    obtain ⟨copies, each⟩ := exists_forall₂ (R := fun (a : String × Value) (b : String × Value) => a.1 = b.1 ∧
        (∀ met, ((s.view a.2).deepCopy apply ⟨k, t⟩).run met = .ok (b.2, met)) ∧ b.2.IsConstructed b.1 ∧
          ∀ w, b.2.Reforms w → s.Settles k a.2 w) fun a ha => by
      obtain ⟨w, run⟩ := deepCopy_constructed positive (constructed a ha) fun n hn =>
        ⟨children a ha n hn, ih a ha n hn⟩
      exact ⟨(a.1, w), rfl, run⟩
    have names : copies.map Prod.fst = m.kind.keys := by
      rw [← Aligned.names (R := fun _ _ => True) (each.imp fun _ _ both => ⟨both.1, trivial⟩)]
      exact built
    obtain ⟨bs, made, forms⟩ := NodeOf.again_constructed names fun b hb => by
      obtain ⟨a, -, -, -, kept, -⟩ := exists_related each hb
      exact kept
    refine ⟨⟨i + k, m.kind, bs, none⟩, rfl, fun met => ?_, settles_node low positive kept built ?_⟩
    · rw [view_seen kept constructed children, ← own]
      refine deepCopy_node (seen_isBuilt built) ?_ made
      exact List.forall₂_map_left_iff.2 (each.imp fun _ _ both => ⟨both.1, both.2.1 met⟩)
    · have settled : Aligned (fun v w => ∀ w', w.Reforms w' → s.Settles k v w') m.attrs copies :=
        each.imp fun _ _ both => ⟨both.1, both.2.2.2⟩
      exact settled.comp forms fun _ _ w settles same => settles w same

end Trees
end Store
end QueryDefaults
