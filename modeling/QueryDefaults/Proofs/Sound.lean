import QueryDefaults.Proofs.Hashable

/-!
Stores whose nodes keep the right digests. A store is sound if all its nodes have digests by their content and
keep no others (`Store.IsSound`). It stays sound when a node without a digest is put into it, as long as no
other node that leads to this one keeps a digest (`Puts.isSound`): this goes for a node that is made, for one
that forgets its digest and for one that is assigned to. It also stays sound when nodes keep the digests that
are taken of them (`IsSound.digests`).
-/

namespace QueryDefaults

namespace Store

/-- All nodes of a store have digests by their content, and those that they keep are these. -/
structure IsSound (s : Store) : Prop where
  hashable : ∀ (i : Nat) (m : Node), s[i]? = some (.node m) → s.IsHashable (nodeAt i)
  fresh : s.IsFresh

section IsSound

variable {s t : Store} {i : Nat}

theorem IsSound.node (h : s.IsSound) {m : Node} (found : s[i]? = some (.node m)) :
    m.id = i ∧ m.IsBuilt ∧ ∀ a ∈ m.attrs, s.IsHashable a.2 := by
  obtain ⟨d, hd⟩ := h.hashable i m found
  cases hd with
  | atom plain => cases plain
  | node kept own built parts =>
    cases kept.symm.trans found
    exact ⟨own, built, fun a ha => ⟨_, parts a ha⟩⟩

/-- What is seen of a node has the number, the kind and the digest of what is kept of it. -/
theorem IsSound.view_node (h : s.IsSound) {n m : Node} (found : s[n.id]? = some (.node m)) :
    ∃ w : Node, s.view (.node n) = .node w ∧ w.id = m.id ∧ w.kind = m.kind ∧ w.digest = m.digest ∧
      w.IsBuilt := by
  obtain ⟨-, built, parts⟩ := h.node found
  refine ⟨_, Store.view_node found fun a ha => ?_, rfl, rfl, rfl, ?_⟩
  · obtain ⟨d, hd⟩ := parts a ha
    exact hd.shows
  · rw [NodeOf.IsBuilt, List.map_map]
    exact built

theorem IsHashable.congr {v : Value} (h : s.IsHashable v) (same : ∀ i m, s.Reaches v i →
    s[i]? = some (.node m) → ∃ kept, t[i]? = some (.node { m with digest := kept })) : t.IsHashable v :=
  h.elim fun d hd => ⟨d, hd.congr same⟩

/-- What a value leads to is in the store. -/
theorem IsHashable.reaches {v : Value} (h : s.IsHashable v) (reached : s.Reaches v i) :
    ∃ m, s[i]? = some (.node m) := by
  obtain ⟨d, h⟩ := h
  induction h with
  | atom plain => cases reached <;> cases plain
  | tuple _ _ _ ih =>
    cases reached with
    | item _ mem below => exact ih _ mem below
  | record _ _ _ _ ih =>
    cases reached with
    | part _ _ mem below => exact ih _ mem below
  | node kept _ _ _ ih =>
    cases reached with
    | here => exact ⟨_, kept⟩
    | attr again mem below =>
      cases kept.symm.trans again
      exact ih _ mem below

/-- What a value leads to depends on the attributes of nodes only. -/
theorem Reaches.congr {v : Value} (h : s.Reaches v i) (same : ∀ (j : Nat) (l : Node), s[j]? = some (.node l) →
    ∃ k : Node, t[j]? = some (.node k) ∧ k.attrs = l.attrs) : t.Reaches v i := by
  induction h with
  | here n => exact .here n
  | item j mem _ ih => exact .item j mem ih
  | part shape j mem _ ih => exact .part shape j mem ih
  | attr kept mem _ ih =>
    obtain ⟨k, there, attrs⟩ := same _ _ kept
    exact .attr there (attrs ▸ mem) ih

/-! ### Putting a node into a store -/

/-- The second store is the first one with a node put into it, new or in the place of one with the same number.
The node keeps no digest, and its parts are parts that it had or do not lead to it. -/
structure Puts (s t : Store) (k : Node) : Prop where
  others : ∀ j, j ≠ k.id → t[j]? = s[j]?
  there : t[k.id]? = some (.node k)
  built : k.IsBuilt
  anew : k.digest = none
  parts : ∀ a ∈ k.attrs, (∃ m, s[k.id]? = some (.node m) ∧ a ∈ m.attrs) ∨
    s.IsHashable a.2 ∧ ¬ s.Reaches a.2 k.id

section Puts

variable {k : Node}

/-- Nothing changes below a value that does not lead to the node. -/
theorem Puts.frame (h : s.Puts t k) {v : Value} (apart : ¬ s.Reaches v k.id) : ∀ j m, s.Reaches v j →
    s[j]? = some (.node m) → ∃ kept, t[j]? = some (.node { m with digest := kept }) := by
  intro j m reached found
  have other : j ≠ k.id := fun same => apart (same ▸ reached)
  exact ⟨m.digest, (h.others j other).trans found⟩

/-- A value keeps a digest when a node is put into the store, perhaps another one. -/
theorem Puts.hashable (h : s.Puts t k) {v : Value} (hv : s.IsHashable v) : t.IsHashable v := by
  obtain ⟨d, hv⟩ := hv
  induction hv with
  | atom plain => exact .atom plain
  | tuple j flat _ ih => exact .tuple j flat ih
  | record shape j flat _ ih => exact .record shape j flat ih
  | @node n m g kept own whole _ ih =>
    by_cases here : n.id = k.id
    · refine .node (here ▸ h.there) here.symm h.built fun a ha => ?_
      rcases h.parts a ha with ⟨m', found, old⟩ | ⟨hashable, apart⟩
      · rw [here, found] at kept
        cases kept
        exact ih a old
      · exact hashable.congr (h.frame apart)
    · exact .node ((h.others n.id here).trans kept) own whole ih

theorem Puts.hashable_node (h : s.Puts t k) (sound : s.IsSound) : t.IsHashable (nodeAt k.id) := by
  refine .node (n := ⟨k.id, .ast, [], none⟩) h.there rfl h.built fun a ha => ?_
  rcases h.parts a ha with ⟨m, found, old⟩ | ⟨hashable, -⟩
  · exact h.hashable ((sound.node found).2.2 a old)
  · exact h.hashable hashable

/-- A store stays sound if no other node that leads to the one that is put keeps a digest. -/
theorem Puts.isSound (h : s.Puts t k) (sound : s.IsSound) (free : ∀ j l, s[j]? = some (.node l) →
    l.digest.isSome = true → s.Reaches (nodeAt j) k.id → j = k.id) : t.IsSound := by
  refine ⟨fun j l found => ?_, fun j l d found digest => ?_⟩
  · by_cases here : j = k.id
    · exact here ▸ h.hashable_node sound
    · exact h.hashable (sound.hashable j l ((h.others j here).symm.trans found))
  · by_cases here : j = k.id
    · rw [here] at found
      cases h.there.symm.trans found
      cases h.anew.symm.trans digest
    · have old := (h.others j here).symm.trans found
      refine (sound.fresh j l d old digest).congr (h.frame fun reached => here ?_)
      exact free j l old (by rw [digest]; rfl) reached

/-- A node is put into the store that no part of it leads to. -/
theorem Puts.insert (built : k.IsBuilt) (anew : k.digest = none)
    (parts : ∀ a ∈ k.attrs, s.IsHashable a.2 ∧ ¬ s.Reaches a.2 k.id) :
    s.Puts (s.insert k.id (.node k)) k where
  others := fun _ other => Store.getElem?_insert_of_ne (Ne.symm other) _
  there := Std.TreeMap.getElem?_insert_self
  built := built
  anew := anew
  parts := fun a ha => .inr (parts a ha)

/-- An attribute is assigned to a node that keeps no digest, and the value does not lead to the node. -/
theorem Puts.attr {m : Node} {name : String} {v : Value} (found : s[m.id]? = some (.node m))
    (built : m.IsBuilt) (anew : m.digest = none) (known : name ∈ m.kind.keys) (hashable : s.IsHashable v)
    (apart : ¬ s.Reaches v m.id) : s.Puts (s.change (.attr m.id name v)) (m.assign name v) where
  others := fun j (other : j ≠ m.id) => Store.getElem?_change (by simpa [Change.objects] using other)
  there := by
    show (s.modify m.id (·.mapNode (·.assign name v)))[m.id]? = _
    rw [Std.TreeMap.getElem?_modify_self, found]
    rfl
  built := by
    have names : m.attrs.map Prod.fst = m.kind.keys := built
    show (putNamed name v m.attrs).map Prod.fst = m.kind.keys
    rw [keys_putNamed, if_pos (names ▸ known), names]
  anew := by
    show (if name = digestName then none else m.digest) = none
    rw [anew, ite_self]
  parts := fun a ha => by
    rcases mem_putNamed ha with rfl | old
    · exact .inr ⟨hashable, apart⟩
    · exact .inl ⟨m, found, old⟩

end Puts

/-! ### Forgetting a digest -/

/-- The second store is the first one with a node that has forgotten the digest that it keeps, if any. -/
structure Forgets (s t : Store) (m : Node) : Prop where
  before : s[m.id]? = some (.node m)
  now : t[m.id]? = some (.node { m with digest := none })
  others : ∀ j, j ≠ m.id → t[j]? = s[j]?

section Forgets

variable {m : Node}

theorem Forgets.refl (found : s[m.id]? = some (.node m)) (none : m.digest = none) : s.Forgets s m where
  before := found
  now := by
    obtain ⟨id, kind, attrs, kept⟩ := m
    cases none
    exact found
  others := fun _ _ => rfl

theorem Forgets.change (found : s[m.id]? = some (.node m)) (built : m.IsBuilt) :
    s.Forgets (s.change (.forget m.id)) m where
  before := found
  now := by
    have names : m.attrs.map Prod.fst = m.kind.keys := built
    have all : m.attrs.filter (fun a => a.1 != digestName) = m.attrs :=
      List.filter_eq_self.2 fun a ha => bne_iff_ne.2 fun same =>
        Kind.keys_own.2 (same ▸ names ▸ List.mem_map_of_mem ha)
    show (s.modify m.id (·.mapNode NodeOf.forget))[m.id]? = _
    rw [Std.TreeMap.getElem?_modify_self, found]
    show some (Value.node ⟨_, _, m.attrs.filter _, _⟩) = _
    rw [all]
  others := fun j other => Store.getElem?_change (by simpa [Change.objects] using other)

theorem Forgets.puts (h : s.Forgets t m) (built : m.IsBuilt) : s.Puts t { m with digest := none } where
  others := h.others
  there := h.now
  built := built
  anew := rfl
  parts := fun _ ha => .inl ⟨m, h.before, ha⟩

theorem Forgets.same (h : s.Forgets t m) (i : Nat) (k : Node) (found : s[i]? = some (.node k)) :
    ∃ kept, t[i]? = some (.node { k with digest := kept }) := by
  by_cases here : i = m.id
  · rw [here] at found
    cases h.before.symm.trans found
    exact ⟨none, here ▸ h.now⟩
  · exact ⟨k.digest, (h.others i here).trans found⟩

theorem Forgets.attrs (h : s.Forgets t m) (i : Nat) (l : Node) (found : t[i]? = some (.node l)) :
    ∃ k : Node, s[i]? = some (.node k) ∧ k.attrs = l.attrs := by
  by_cases here : i = m.id
  · rw [here] at found
    cases h.now.symm.trans found
    exact ⟨m, here ▸ h.before, rfl⟩
  · exact ⟨l, (h.others i here).symm.trans found, rfl⟩

end Forgets

/-! ### Keeping digests -/

/-- A node keeps the first digest that was taken of it, unless it keeps one already. -/
theorem getElem?_digests (taken : Digests) : ∀ (s : Store) (i : Nat), (s.change (.digests taken))[i]? =
    s[i]?.map (·.mapNode fun m => { m with digest := m.digest.orElse fun _ => taken.lookup i }) := by
  induction taken with
  | nil =>
    intro s i
    have still : (fun v : Value =>
        v.mapNode fun m => { m with digest := m.digest.orElse fun _ => none }) = id := by
      funext v
      cases v with
      | node m =>
        cases m with
        | mk _ _ _ kept => cases kept <;> rfl
      | _ => rfl
    exact (congrFun (congrArg Option.map still) s[i]?).symm ▸ (Option.map_id_apply ..).symm
  | cons p taken ih =>
    obtain ⟨j, d⟩ := p
    intro s i
    have step : s.change (.digests ((j, d) :: taken)) =
        Store.change (s.modify j (·.mapNode (·.keep d))) (.digests taken) := rfl
    rw [step, ih, Std.TreeMap.getElem?_modify]
    split
    · next same =>
      obtain rfl : j = i := Std.LawfulEqCmp.eq_of_compare same
      rw [Option.map_map, List.lookup_cons_self]
      congr 1
      funext v
      cases v with
      | node m =>
        cases m with
        | mk _ _ _ kept => cases kept <;> rfl
      | _ => rfl
    · next other =>
      have apart : (i == j) = false :=
        beq_eq_false_iff_ne.2 fun same => other (by rw [same]; exact Std.ReflCmp.compare_self)
      rw [List.lookup_cons, apart]

/-- Nodes keep digests that are theirs. -/
theorem IsSound.digests (h : s.IsSound) {taken : Digests} (good : ∀ p ∈ taken, s.DigestsTo (nodeAt p.1) p.2) :
    (s.change (.digests taken)).IsSound := by
  have same : ∀ {v : Value} (i : Nat) (m : Node), s.Reaches v i → s[i]? = some (.node m) →
      ∃ kept, (s.change (.digests taken))[i]? = some (.node { m with digest := kept }) := by
    intro v i m _ found
    rw [getElem?_digests, found]
    exact ⟨_, rfl⟩
  have before : ∀ (i : Nat) (k : Node), (s.change (.digests taken))[i]? = some (.node k) →
      ∃ m, s[i]? = some (.node m) ∧ k = { m with digest := m.digest.orElse fun _ => taken.lookup i } := by
    intro i k found
    rw [getElem?_digests] at found
    obtain ⟨v, hv, whole⟩ := Option.map_eq_some_iff.1 found
    cases v with
    | node m =>
      cases whole
      exact ⟨m, hv, rfl⟩
    | _ => cases whole
  refine ⟨fun i k found => ?_, fun i k d found digest => ?_⟩
  · obtain ⟨m, old, -⟩ := before i k found
    exact (h.hashable i m old).congr same
  · obtain ⟨m, old, rfl⟩ := before i k found
    cases kept : m.digest with
    | some e =>
      rw [kept] at digest
      cases digest
      exact (h.fresh i m d old kept).congr same
    | none =>
      rw [kept] at digest
      obtain ⟨first, rest, whole, -⟩ := List.lookup_eq_some_iff.1 digest
      have among : (i, d) ∈ taken := by
        rw [whole]
        exact List.mem_append_right _ (List.mem_cons_self ..)
      exact (good _ among).congr same

end IsSound

end Store
end QueryDefaults
