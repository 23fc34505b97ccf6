import QueryDefaults.Proofs.Mirrored

/-!
Trees and their copies. A copy of a tree equals it. A shallow copy has the children of the tree; a deep copy has
no node of it, since all of its nodes have numbers that were free (`IsTree.reaches_mirror`). So whatever is
assigned to nodes of the one leaves the other one and all nodes below it what they are
(`Session.copies_apart`).
-/

namespace QueryDefaults

namespace Store

section Copying

variable {s g : Store} {next later k i j : Nat}

/-- The copies of the nodes that a tree leads to mirror it. -/
theorem Covers.mirrors {t : Store} (h : s.Covers k (s.Reaches (nodeAt i)) g t) : s.Mirrors t k i := by
  intro j m reached found
  have there := h.covers j reached
  rw [Std.TreeMap.contains_eq_isSome_getElem?] at there
  obtain ⟨v, hv⟩ := Option.isSome_iff_exists.1 there
  obtain ⟨l, n, bs, number, kept, -, rfl, pairs⟩ := h.copying.copies (j + k) v (by omega) hv
  obtain rfl : j = l := by omega
  cases found.symm.trans kept
  exact ⟨bs, none, hv, pairs⟩

/-- A store is orderly with copies of its nodes in it. -/
theorem Copying.isOrderly (h : s.IsOrderly next) (copying : s.Copying next g) (le : 2 * next ≤ later) :
    g.IsOrderly later := by
  have positive := h.positive
  have bound : ∀ {j v}, s[j]? = some v → j < next := fun found => (h.below _ (contains_of_getElem? found)).2
  have old : ∀ {j v}, s[j]? = some v → g[j]? = some v := fun found =>
    (copying.old _ (bound found)).trans found
  have grows : s.Grows next g later := by
    refine ⟨by omega, fun j hj => ?_, fun j m low there => ⟨m, (copying.old j low).symm.trans there⟩⟩
    rw [Std.TreeMap.contains_eq_isSome_getElem?] at hj
    obtain ⟨v, hv⟩ := Option.isSome_iff_exists.1 hj
    exact contains_of_getElem? (old hv)
  refine ⟨by omega, fun j hj => ?_, fun j v there => ?_, fun j m es l there marked => ?_⟩
  · rw [Std.TreeMap.contains_eq_isSome_getElem?] at hj
    obtain ⟨v, hv⟩ := Option.isSome_iff_exists.1 hj
    by_cases low : j < next
    · have range := h.below j (contains_of_getElem? ((copying.old j low).symm.trans hv))
      omega
    · obtain ⟨l, n, bs, rfl, kept, -⟩ := copying.copies j v (by omega) hv
      have range := bound kept
      omega
  · by_cases low : j < next
    · exact (h.whole j v ((copying.old j low).symm.trans there)).mono grows
    · obtain ⟨l, n, bs, rfl, -, -, rfl, -⟩ := copying.copies j v (by omega) there
      exact rfl
  · by_cases low : j < next
    · obtain ⟨fs, mapping⟩ := h.marks j m es l ((copying.old j low).symm.trans there) marked
      exact ⟨fs, old mapping⟩
    · obtain ⟨l, n, bs, rfl, -, built, same, pairs⟩ := copying.copies j _ (by omega) there
      cases same
      have unmarked : marksName ∉ bs.map Prod.fst := by
        rw [← pairs.names, built.names]
        exact n.kind.marksName_notMem
      rw [lookup_eq_none unmarked] at marked
      cases marked

/-! ### What copies lead to -/

/-- What mirrors a tree leads to the copies of its nodes only. -/
theorem IsTree.reaches_mirror (h : s.IsTree i) (mirrors : s.Mirrors g k i)
    (reached : g.Reaches (nodeAt (i + k)) j) : ∃ l, s.Reaches (nodeAt i) l ∧ j = l + k := by
  induction h with
  | @node i m kept own built constructed children ih =>
    obtain ⟨bs, d, there, pairs⟩ := mirrors i m (.root s i) kept
    cases reached with
    | here => exact ⟨i, .root s i, rfl⟩
    | @attr _ _ b _ again mem below =>
      cases there.symm.trans again
      obtain ⟨a, ha, name, same⟩ := exists_related pairs mem
      obtain ⟨c, hc, further⟩ := reaches_nodes (same.isConstructed (constructed a ha)) below
      obtain ⟨n, hn, number⟩ := same.of_mem hc
      rw [number] at further
      obtain ⟨l, inside, rfl⟩ := ih a ha n hn (mirrors.child kept ha hn) further
      exact ⟨l, inside.of_child kept ha hn, rfl⟩

end Copying

/-! ### Attributes of trees -/

section Attributes

variable {s : Store} {next i : Nat} {v w : Value} {name : String}

/-- The objects in an attribute of trees are in the store. -/
theorem isKept_constructed (constructed : v.IsConstructed name) (children : ∀ n ∈ v.nodes, s.IsTree n.id) :
    s.IsKept next v := by
  have child : ∀ n ∈ v.nodes, s.IsKept next (.node n) := fun n hn => by
    obtain ⟨m, kept, -⟩ := (children n hn).view
    exact .object rfl (contains_of_getElem? kept)
  cases constructed with
  | atom plain => exact .simple (Value.isSimple_atom plain)
  | location i first second =>
    refine .record .location i fun x hx => ?_
    rcases List.mem_pair.1 hx with rfl | rfl
    · exact .simple (Value.isSimple_atom first)
    · exact .simple (Value.isSimple_atom second)
  | node n => exact child n (List.mem_singleton.2 rfl)
  | nodes ns i =>
    refine .tuple i fun x hx => ?_
    obtain ⟨n, hn, rfl⟩ := List.mem_map.1 hx
    exact child n ((Value.nodes_tuple ns i).symm ▸ hn)

theorem IsKept.reforms (h : s.IsKept next v) (same : v.Reforms w) : s.IsKept next w := by
  cases same with
  | same => exact h
  | location line column i j => exact .record .location j (h.items (.inr (.inr ⟨_, rfl⟩)))

/-- The objects in the attributes that are seen of a tree are in the store. -/
theorem IsTree.isKept_attr (h : s.IsTree i) (orderly : s.IsOrderly next) {n : Node}
    (seen : s.view (nodeAt i) = .node n) : ∀ a ∈ n.attrs, s.IsKept next a.2 := by
  obtain ⟨m, -, -, -, parts, whole⟩ := h.view
  cases seen.symm.trans whole
  intro b hb
  obtain ⟨a, ha, rfl⟩ := List.mem_map.1 hb
  exact (isKept_constructed (parts a ha).1 (parts a ha).2).view orderly

end Attributes
end Store

/-! ### Copies in a session -/

namespace SessionM

variable {st : Session} {i : Nat}

/-- A session keeps a new node under a number that it has not given out before. -/
theorem present_node (h : st.IsOrderly) {kind : Kind} {bs : List (String × Value)}
    (built : bs.map Prod.fst = kind.keys) (parts : ∀ b ∈ bs, st.store.IsKept st.nextId b.2) :
    ∃ (k : Node) (later : Session), (present (.node ⟨0, kind, bs, none⟩)).run.run st = (.ok (.node k), later) ∧
      later.IsOrderly ∧ st.store.contains k.id = false ∧ later.store.contains k.id = true ∧
      ∀ (j : Nat) v, st.store[j]? = some v → later.store[j]? = some v := by
  obtain ⟨j, cs, run, le, names⟩ :=
    Store.IsKept.keep_node (fun i hi => (Store.IsOrderly.below h i hi).1) built parts
  obtain ⟨orderly, -, old⟩ := Store.IsOrderly.insert_node h le names
  obtain ⟨k, seen, rfl⟩ := orderly.view_node (n := ⟨j, kind, [], none⟩) Std.TreeMap.getElem?_insert_self
  refine ⟨k, { st with store := st.store.insert k.id (.node ⟨k.id, kind, cs, none⟩), nextId := k.id + 1 },
    (run_bind_ok (run_keep run) _).trans ?_, orderly, ?_, Std.TreeMap.contains_insert_self, old⟩
  · rw [run_view, seen]
  · refine Bool.eq_false_iff.2 fun taken => ?_
    have low := (Store.IsOrderly.below h k.id taken).2
    omega

/-- A shallow copy of a tree becomes an object of its own. -/
theorem copyOf_apart (h : st.IsOrderly) (tree : st.store.IsTree i) :
    ∃ n c : Node, st.store.view (Store.nodeAt i) = .node n ∧
      (copyOf (.node n)).run.run st = (.ok (.node c), st) ∧ c.kind = n.kind ∧
      Aligned Value.Reforms n.attrs c.attrs ∧ (Value.node n).Agree (.node c) ∧
      ∃ (k : Node) (later : Session), (present (.node c)).run.run st = (.ok (.node k), later) ∧
        later.IsOrderly ∧ later.store.view (Store.nodeAt i) = .node n ∧
        st.store.contains k.id = false ∧ later.store.contains k.id = true ∧
        (Value.node n).same (.node k) = false := by
  obtain ⟨n, bs, seen, built, copied, pairs, equal⟩ := copyOf_tree tree st
  have attrs := tree.isKept_attr h seen
  have parts : ∀ b ∈ bs, st.store.IsKept st.nextId b.2 := fun b hb => by
    obtain ⟨a, ha, -, same⟩ := exists_related pairs hb
    exact (attrs a ha).reforms same
  obtain ⟨k, later, run, orderly, free, taken, old⟩ := present_node h (pairs.names.symm.trans built.names) parts
  refine ⟨n, ⟨0, n.kind, bs, none⟩, seen, copied, rfl, pairs, equal, k, later, run, orderly, ?_, free, taken, ?_⟩
  · exact (tree.shows.congr fun j m _ found => old j _ found).view.trans seen
  · obtain ⟨m, kept, own, -, -, whole⟩ := tree.view
    cases seen.symm.trans whole
    have there := Store.contains_of_getElem? kept
    refine Bool.eq_false_iff.2 fun one => ?_
    obtain ⟨-, same⟩ := Bool.and_eq_true_iff.1 (show oneObject m.id k.id = true from one)
    rw [← own, beq_iff_eq.1 same, free] at there
    cases there

/-- A deep copy of a tree mirrors it in a session that is orderly and has all objects that it had. -/
theorem deepCopyOf_tree (h : st.IsOrderly) (tree : st.store.IsTree i) : ∃ later,
    (deepCopyOf (st.store.view (Store.nodeAt i))).run.run st =
      (.ok (later.store.view (Store.nodeAt (i + st.nextId))), later) ∧ later.IsOrderly ∧
      (∀ (j : Nat) v, st.store[j]? = some v → later.store[j]? = some v) ∧
      st.store.Mirrors later.store st.nextId i := by
  have low : ∀ j, st.store.contains j = true → j < st.nextId := fun j hj => (Store.IsOrderly.below h j hj).2
  obtain ⟨c, number, copied, settles⟩ := tree.deepCopy low (Store.IsOrderly.positive h)
    (fun f w => (st.apply f w).result) st.defs.length
  have start : st.store.Copying st.nextId st.store := by
    refine ⟨fun _ _ => rfl, fun j v high found => ?_⟩
    have bound := low j (Store.contains_of_getElem? found)
    omega
  obtain ⟨first, le, same⟩ := st.store.keep_eq (2 * st.nextId) (.node c)
  obtain ⟨r, g, later, run, le', covers, shifted⟩ := settles st.store first start
  have mirrors := covers.mirrors
  refine ⟨{ st with store := g, nextId := later, defs := st.defs ++ [] }, ?_,
    covers.copying.isOrderly h (Nat.le_trans le le'), fun j v found => ?_, mirrors⟩
  · have view : g.view r = g.view (Store.nodeAt (i + st.nextId)) := by
      cases shifted with
      | atom plain => cases plain
      | node same => exact (((tree.agree mirrors).1).renamed same.symm).view
    rw [← view, deepCopyOf, run_bind_ok (run_get st)]
    dsimp only
    refine (run_bind_ok (run_lift (a := ((Value.node c, []), ({} : Copied))) ?_ st) _).trans ?_
    · exact (run_bind_met (copied {}) _).trans rfl
    · have keeps : ({ st with nextId := 2 * st.nextId, defs := st.defs ++ [] } : Session).store.keep
          (2 * st.nextId) (.node c) = (r, ⟨g, later⟩) := same.trans run
      refine (run_bind_ok (run_modify _ st) _).trans ((run_bind_ok (a := []) rfl _).trans ?_)
      refine (run_bind_ok (run_modify _ _) _).trans ((run_bind_ok (run_keep keeps) _).trans ?_)
      exact (run_bind_ok (a := ()) rfl _).trans (run_view r)
  · exact (covers.copying.old j (low j (Store.contains_of_getElem? found))).trans found

end SessionM

/-- A shallow copy of a tree has the attributes of its root, but for the source location, and a deep copy is a
tree that has no node with it in common. Both are equal to it, and it stays what it is. The shallow copy is an
object of its own, under a number that no object had before. After any steps that assign to no node of the tree,
so to nodes of the deep copy only or to new ones, its nodes are seen as before; and so are those of the deep copy
after steps that assign to none of them. -/
theorem Session.copies_apart {st : Session} (h : st.IsOrderly) {i : Nat} (tree : st.store.IsTree i) :
    (∃ n c : Node, st.store.view (Store.nodeAt i) = .node n ∧
      (SessionM.copyOf (.node n)).run.run st = (.ok (.node c), st) ∧ c.kind = n.kind ∧
      Aligned Value.Reforms n.attrs c.attrs ∧ (Value.node n).Agree (.node c) ∧
      ∃ (k : Node) (later : Session), (SessionM.present (.node c)).run.run st = (.ok (.node k), later) ∧
        later.IsOrderly ∧ later.store.view (Store.nodeAt i) = .node n ∧
        st.store.contains k.id = false ∧ later.store.contains k.id = true ∧
        (Value.node n).same (.node k) = false) ∧
    ∃ j later, (SessionM.deepCopyOf (st.store.view (Store.nodeAt i))).run.run st =
        (.ok (later.store.view (Store.nodeAt j)), later) ∧
      later.IsOrderly ∧ later.store.IsTree i ∧ later.store.IsTree j ∧
      later.store.view (Store.nodeAt i) = st.store.view (Store.nodeAt i) ∧
      (later.store.view (Store.nodeAt i)).Agree (later.store.view (Store.nodeAt j)) ∧
      (∀ l, later.store.Reaches (Store.nodeAt i) l → ¬ later.store.Reaches (Store.nodeAt j) l) ∧
      ∀ root, root = i ∨ root = j → ∀ steps,
        later.AllSpare (later.store.Reaches (Store.nodeAt root)) steps →
          ∀ l, later.store.Reaches (Store.nodeAt root) l →
            (later.afterAll steps).store.view (Store.nodeAt l) = later.store.view (Store.nodeAt l) := by
  refine ⟨SessionM.copyOf_apart h tree, i + st.nextId, ?_⟩
  obtain ⟨later, run, orderly, old, mirrors⟩ := SessionM.deepCopyOf_tree h tree
  have same : st.store.Mirrors later.store 0 i := tree.mirrors fun j m _ found => old j _ found
  have here := tree.mirror same
  have there := tree.mirror mirrors
  have seen : later.store.view (Store.nodeAt i) = st.store.view (Store.nodeAt i) :=
    (tree.shows.congr fun j m _ found => old j _ found).view
  refine ⟨later, run, orderly, here, there, seen, seen ▸ (tree.agree mirrors).2, fun l first second => ?_, ?_⟩
  · obtain ⟨p, inside, here⟩ := tree.reaches_mirror same first
    obtain ⟨q, -, number⟩ := tree.reaches_mirror mirrors second
    obtain ⟨m, kept, -⟩ := (tree.reaches inside).view
    have low := (Store.IsOrderly.below h p (Store.contains_of_getElem? kept)).2
    omega
  · rintro root (rfl | rfl) steps spare l reached
    · exact (Session.afterAll_view orderly here.shows spare).2 l reached
    · exact (Session.afterAll_view orderly there.shows spare).2 l reached

/-! ### A list and its copies -/

theorem Session.new_isOrderly : Session.new.IsOrderly where
  positive := by decide
  below := fun i hi => by simp [Session.new] at hi
  whole := fun i v found => by simp [Session.new] at found
  marks := fun i m es j found => by simp [Session.new] at found

/-- A session with a list, the node 102, and a text in it, the node 100. -/
def listSession : Session := Session.new.afterAll [makeText "a", makeList 100]

theorem listSession_isOrderly : listSession.IsOrderly := by
  have spare : Session.new.AllSpare (fun _ => False) [makeText "a", makeList 100] := by
    refine ⟨fun a ha => ?_, fun a ha => ?_, trivial⟩
    · obtain rfl := List.mem_singleton.1 ha
      exact .simple rfl
    · obtain rfl := List.mem_singleton.1 ha
      refine .list 0 fun x hx => ?_
      obtain rfl := List.mem_singleton.1 hx
      exact .object (i := 100) rfl rfl
  exact (Session.afterAll_node Session.new_isOrderly spare).1

theorem listSession_isTree : listSession.store.IsTree 102 := by
  have text : listSession.store.IsTree 100 := by
    refine .node (m := ⟨100, .stringValue, [("loc", .null), ("value", .word "a"), ("block", .null)], none⟩)
      rfl rfl rfl ?_ ?_
    · simp only [List.forall_mem_cons]
      exact ⟨.atom rfl, .atom rfl, .atom rfl, fun a ha => nomatch ha⟩
    · intro a ha n hn
      simp only [List.mem_cons, List.not_mem_nil, or_false] at ha
      rcases ha with rfl | rfl | rfl <;> cases hn
  refine .node (m := ⟨102, .listValue, [("loc", .null), ("values", .tuple [Store.nodeAt 100] 101)], none⟩)
    rfl rfl rfl ?_ ?_
  · simp only [List.forall_mem_cons]
    exact ⟨.atom rfl, .nodes [⟨100, .ast, [], none⟩] 101 (by decide), fun a ha => nomatch ha⟩
  · intro a ha n hn
    simp only [List.mem_cons, List.not_mem_nil, or_false] at ha
    rcases ha with rfl | rfl
    · cases hn
    · obtain rfl := List.mem_singleton.1 hn
      exact text

/-- The root of the deep copy gets other values, and the text in the list is seen as before. -/
theorem copies_apart_list : listSession.IsOrderly ∧ listSession.store.IsTree 102 ∧ ∃ j later,
    (SessionM.deepCopyOf (listSession.store.view (Store.nodeAt 102))).run.run listSession =
      (.ok (later.store.view (Store.nodeAt j)), later) ∧
      (later.store.view (Store.nodeAt 102)).Agree (later.store.view (Store.nodeAt j)) ∧
      (later.after (.assign (Store.nodeAt j) "values" .null)).store.view (Store.nodeAt 102) =
        listSession.store.view (Store.nodeAt 102) := by
  refine ⟨listSession_isOrderly, listSession_isTree, ?_⟩
  obtain ⟨-, j, later, run, -, -, copy, seen, agree, apart, frame⟩ :=
    Session.copies_apart listSession_isOrderly listSession_isTree
  obtain ⟨m, kept, -⟩ := copy.view
  have spare : later.AllSpare (later.store.Reaches (Store.nodeAt 102))
      [.assign (Store.nodeAt j) "values" .null] :=
    ⟨⟨_, m, rfl, kept, fun reached => apart j reached (.root _ j), .simple rfl⟩, trivial⟩
  exact ⟨j, later, run, agree, (frame 102 (.inl rfl) _ spare 102 (.root _ 102)).trans seen⟩

end QueryDefaults
