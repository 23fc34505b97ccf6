import QueryDefaults.Value.Change
import Mathlib.Data.List.Induction
import Mathlib.Data.List.Perm.Subperm

/-!
What a store shows. The nodes of a store lead to each other by their numbers. As long as none leads back to
itself, a value unfolds to one tree (`Shows`), in which a whole node stands in the place of each number. The
view of the value is this tree (`Shows.view`): all nodes below it are collected, since fewer of them are
missing in each round, and all of them are revealed, since in each round there is one whose parts are
revealed already.
-/

namespace QueryDefaults

/-- Data without parts that is the same in every store. -/
def Value.isAtom : Value → Bool
  | .null | .undefined | .bool _ | .int .. | .str .. | .operation _ | .action _ => true
  | _ => false

/-! ### References and what takes their place -/

theorem mem_referencesOfAll {i : Nat} {xs : List Value} :
    i ∈ referencesOfAll xs ↔ ∃ x ∈ xs, i ∈ x.references := by
  induction xs with
  | nil => simp [referencesOfAll]
  | cons x xs ih => simp [referencesOfAll, ih]

theorem referencesOfAll_eq_nil {xs : List Value} :
    referencesOfAll xs = [] ↔ ∀ x ∈ xs, x.references = [] := by
  induction xs with
  | nil => simp [referencesOfAll]
  | cons x xs ih => simp [referencesOfAll, ih]

theorem fillAll_eq_map (find : Nat → Option Value) (xs : List Value) :
    fillAll find xs = xs.map (·.fill find) := by
  induction xs with
  | nil => rfl
  | cons x xs ih => simp [fillAll, ih]

theorem Value.fill_node {find : Nat → Option Value} {n : Node} {w : Value} (h : find n.id = some w) :
    (Value.node n).fill find = w := by
  simp [fill, objectNumber?, h]

theorem Value.references_atom {v : Value} (h : v.isAtom = true) : v.references = [] := by
  cases v <;> first | rfl | cases h

theorem Value.fill_atom {v : Value} (h : v.isAtom = true) (find : Nat → Option Value) :
    v.fill find = v := by
  cases v <;> first | rfl | cases h

/-- Without marks a node is seen as it is. -/
theorem NodeOf.spread_eq {n : Node} (h : ∀ a ∈ n.attrs, ∀ es i, a.2 ≠ .mapping es i) : n.spread = n := by
  have each : ∀ as : List (String × Value), (∀ a ∈ as, ∀ es i, a.2 ≠ .mapping es i) →
      ({ n with attrs := as } : Node).spread.attrs = as := by
    intro as none
    induction as with
    | nil => rfl
    | cons a as ih =>
      obtain ⟨name, v⟩ := a
      have rest := ih fun b hb => none b (List.mem_cons_of_mem _ hb)
      simp only [spread, List.flatMap_cons] at rest ⊢
      rw [rest]
      split
      · next es i => exact absurd rfl (none _ (List.mem_cons_self ..) es i)
      · rfl
  exact congrArg (fun as => ({ n with attrs := as } : Node)) (each n.attrs h)

namespace Store

section Values

variable {β : Type} {t : Std.TreeMap Nat β}

theorem values_eq : t.values = t.toList.map Prod.snd := by
  have h : t.values = t.foldr (fun _ v l => v :: l) [] := rfl
  rw [h, Std.TreeMap.foldr_eq_foldr_toList]
  induction t.toList with
  | nil => rfl
  | cons a as ih => simp [ih]

theorem mem_values {b : β} : b ∈ t.values ↔ ∃ i : Nat, t[i]? = some b := by
  simp [values_eq]

theorem length_values : t.values.length = t.size := by
  rw [values_eq, List.length_map, Std.TreeMap.length_toList]

end Values

/-! ### Trees -/

/-- What a value unfolds to: each node in it gives way to the one that the store keeps, whose attributes
unfold in turn. Only the number of a node counts, whatever else the value has of it. -/
inductive Shows (s : Store) : Value → Value → Prop where
  | atom {v : Value} (plain : v.isAtom = true) : Shows s v v
  | tuple {xs : List Value} {f : Value → Value} (i : Nat) (items : ∀ x ∈ xs, Shows s x (f x)) :
      Shows s (.tuple xs i) (.tuple (xs.map f) i)
  | record {xs : List Value} {f : Value → Value} (shape : Record) (i : Nat)
      (items : ∀ x ∈ xs, Shows s x (f x)) : Shows s (.record shape xs i) (.record shape (xs.map f) i)
  | node {n m : Node} {f : Value → Value} (kept : s[n.id]? = some (.node m))
      (parts : ∀ a ∈ m.attrs, Shows s a.2 (f a.2)) :
      Shows s (.node n) (.node { m with attrs := m.attrs.map fun (name, v) => (name, f v) })

/-- The node with a number, without its parts. -/
def nodeAt (i : Nat) : Value := .node ⟨i, .ast, [], none⟩

/-- Whether the node with a number unfolds to a tree: it does not lead back to itself. -/
def Unfolds (s : Store) (i : Nat) : Prop := ∃ w, s.Shows (nodeAt i) w

section Shows

variable {s : Store} {v w : Value}

theorem Shows.unique (h : s.Shows v w) : ∀ {u : Value}, s.Shows v u → u = w := by
  induction h with
  | atom plain =>
    intro u other
    cases other with
    | atom => rfl
    | _ => cases plain
  | tuple i items ih =>
    intro u other
    cases other with
    | atom plain => cases plain
    | tuple _ others => rw [List.map_congr_left fun x hx => ih x hx (others x hx)]
  | record shape i items ih =>
    intro u other
    cases other with
    | atom plain => cases plain
    | record _ _ others => rw [List.map_congr_left fun x hx => ih x hx (others x hx)]
  | @node n m f kept parts ih =>
    intro u other
    cases other with
    | atom plain => cases plain
    | @node _ k g there others =>
      cases kept.symm.trans there
      have same := List.map_congr_left (g := fun a : String × Value => (a.1, f a.2))
        fun a ha => congrArg (Prod.mk a.1) (ih a ha (others a ha))
      rw [same]

/-- Of a node only the number counts. -/
theorem Shows.renamed {n m : Node} (h : s.Shows (.node n) w) (same : n.id = m.id) :
    s.Shows (.node m) w := by
  cases h with
  | atom plain => cases plain
  | node kept parts => exact .node (same ▸ kept) parts

/-- What a value refers to unfolds as well. -/
theorem Shows.reference (h : s.Shows v w) :
    ∀ {i : Nat}, i ∈ v.references → s.contains i = true ∧ s.Unfolds i := by
  induction h with
  | atom plain =>
    intro i hi
    rw [Value.references_atom plain] at hi
    cases hi
  | tuple _ _ ih =>
    intro i hi
    obtain ⟨x, hx, hi⟩ := mem_referencesOfAll.1 hi
    exact ih x hx hi
  | record _ _ _ ih =>
    intro i hi
    obtain ⟨x, hx, hi⟩ := mem_referencesOfAll.1 hi
    exact ih x hx hi
  | @node n m f kept parts =>
    intro i hi
    obtain rfl : i = n.id := List.mem_singleton.1 hi
    refine ⟨?_, _, .node (n := ⟨n.id, .ast, [], none⟩) kept parts⟩
    rw [Std.TreeMap.contains_eq_isSome_getElem?, kept]
    rfl

/-- With whole nodes in the place of its references a value is the tree that it unfolds to. -/
theorem Shows.fill (h : s.Shows v w) {find : Nat → Option Value} :
    (∀ i ∈ v.references, ∀ u, s.Shows (nodeAt i) u → find i = some u) → v.fill find = w := by
  induction h with
  | atom plain => exact fun _ => Value.fill_atom plain find
  | @tuple xs f i items ih =>
    intro found
    have each : ∀ x ∈ xs, x.fill find = f x := fun x hx =>
      ih x hx fun j hj => found j (mem_referencesOfAll.2 ⟨x, hx, hj⟩)
    rw [Value.fill, fillAll_eq_map, List.map_congr_left each]
  | @record xs f shape i items ih =>
    intro found
    have each : ∀ x ∈ xs, x.fill find = f x := fun x hx =>
      ih x hx fun j hj => found j (mem_referencesOfAll.2 ⟨x, hx, hj⟩)
    rw [Value.fill, fillAll_eq_map, List.map_congr_left each]
  | @node n m f kept parts =>
    intro found
    exact Value.fill_node (found n.id (List.mem_singleton.2 rfl) _ (.node kept parts))

/-- A value without references unfolds to itself. -/
theorem Shows.eq_of_references (h : s.Shows v w) : v.references = [] → w = v := by
  induction h with
  | atom => exact fun _ => rfl
  | @tuple xs f i items ih =>
    intro none
    have each : ∀ x ∈ xs, f x = x := fun x hx => ih x hx (referencesOfAll_eq_nil.1 none x hx)
    rw [List.map_congr_left each, List.map_id']
  | @record xs f shape i items ih =>
    intro none
    have each : ∀ x ∈ xs, f x = x := fun x hx => ih x hx (referencesOfAll_eq_nil.1 none x hx)
    rw [List.map_congr_left each, List.map_id']
  | node => exact fun none => nomatch none

end Shows

/-! ### Collecting -/

/-- One number looked at while pieces are collected: its piece, if it is new, and what this one needs. -/
def gather (s : Store) (state : Std.TreeMap Nat Piece × List Nat) (id : Nat) :
    Std.TreeMap Nat Piece × List Nat :=
  if state.1.contains id then state else
    match s.piece? id with
    | some p => (state.1.insert id p, p.needs ++ state.2)
    | none => state

theorem collect_succ (s : Store) (steps : Nat) (ids : List Nat) (found : Std.TreeMap Nat Piece) :
    s.collect (steps + 1) ids found =
      if (ids.foldl s.gather (found, [])).2.isEmpty then (ids.foldl s.gather (found, [])).1
      else s.collect steps (ids.foldl s.gather (found, [])).2 (ids.foldl s.gather (found, [])).1 :=
  rfl

/-- Pieces are those of the store, and unfold to trees. -/
def Collects (s : Store) (found : Std.TreeMap Nat Piece) : Prop :=
  ∀ (i : Nat) (p : Piece), found[i]? = some p → s.piece? i = some p ∧ s.Unfolds i

/-- What pieces need is among them, or among other numbers. -/
def Closes (found : Std.TreeMap Nat Piece) (others : List Nat) : Prop :=
  ∀ (i : Nat) (p : Piece), found[i]? = some p → ∀ j ∈ p.needs, found.contains j = true ∨ j ∈ others

section Collect

variable {s : Store} {found : Std.TreeMap Nat Piece}

theorem piece?_needs {i : Nat} {p : Piece} (h : s.piece? i = some p) :
    ∀ j ∈ p.needs, s.contains j = true := by
  obtain ⟨content, -, rfl⟩ := Option.map_eq_some_iff.1 h
  exact fun j hj => (List.mem_filter.1 hj).2

/-- What a piece needs unfolds as the piece does. -/
theorem Unfolds.needs {i : Nat} {p : Piece} (h : s.Unfolds i) (hp : s.piece? i = some p) :
    ∀ j ∈ p.needs, s.Unfolds j := by
  obtain ⟨w, shows⟩ := h
  intro j hj
  cases shows with
  | atom plain => cases plain
  | @node _ m f kept parts =>
    obtain ⟨content, there, rfl⟩ := Option.map_eq_some_iff.1 hp
    cases kept.symm.trans there
    obtain ⟨x, hx, referred⟩ := mem_referencesOfAll.1 (List.mem_filter.1 hj).1
    obtain ⟨a, ha, rfl⟩ := List.mem_map.1 hx
    exact ((parts a ha).reference referred).2

theorem piece?_isSome {i : Nat} : (s.piece? i).isSome = s.contains i := by
  rw [piece?, Option.isSome_map, Std.TreeMap.contains_eq_isSome_getElem?]

/-- There are no more pieces than objects. -/
theorem Collects.size_le (h : s.Collects found) : found.size ≤ s.size := by
  rw [← Std.TreeMap.length_keys, ← Std.TreeMap.length_keys]
  refine (List.Nodup.subperm Std.TreeMap.nodup_keys fun i hi => ?_).length_le
  rw [Std.TreeMap.mem_keys, ← Std.TreeMap.contains_iff_mem, Std.TreeMap.contains_eq_isSome_getElem?] at hi
  obtain ⟨p, hp⟩ := Option.isSome_iff_exists.1 hi
  rw [Std.TreeMap.mem_keys, ← Std.TreeMap.contains_iff_mem, ← piece?_isSome, (h i p hp).1]
  rfl

/-- What came of a round in which pieces were added to those that were found before, and numbers noted that
are to be looked at next. -/
structure Gathers (s : Store) (found : Std.TreeMap Nat Piece)
    (state : Std.TreeMap Nat Piece × List Nat) : Prop where
  collects : s.Collects state.1
  keeps : ∀ i, found.contains i = true → state.1.contains i = true
  notes : ∀ (i : Nat) (p : Piece), state.1[i]? = some p → found[i]? = some p ∨ ∀ j ∈ p.needs, j ∈ state.2
  unfolds : ∀ j ∈ state.2, s.Unfolds j
  size : found.size ≤ state.1.size
  grows : state.2 = [] ∨ found.size < state.1.size

theorem Collects.start (h : s.Collects found) : s.Gathers found (found, []) where
  collects := h
  keeps := fun _ hi => hi
  notes := fun _ _ hp => .inl hp
  unfolds := fun _ hj => nomatch hj
  size := Nat.le_refl _
  grows := .inl rfl

theorem gather_keeps (s : Store) (state : Std.TreeMap Nat Piece × List Nat) (id : Nat) {i : Nat}
    (h : state.1.contains i = true) : (s.gather state id).1.contains i = true := by
  unfold gather
  split
  · exact h
  · split
    · simp [h]
    · exact h

theorem gather_finds (s : Store) (state : Std.TreeMap Nat Piece × List Nat) {id : Nat}
    (h : s.contains id = true) : (s.gather state id).1.contains id = true := by
  unfold gather
  split
  · next there => exact there
  · split
    · simp
    · next missing =>
      rw [← piece?_isSome, missing] at h
      cases h

theorem Gathers.gather {state : Std.TreeMap Nat Piece × List Nat} (h : s.Gathers found state) {id : Nat}
    (unfolds : s.Unfolds id) : s.Gathers found (s.gather state id) := by
  have keeps := fun i hi => s.gather_keeps state id (h.keeps i hi)
  unfold Store.gather at keeps ⊢
  split at keeps
  · next there => rwa [if_pos there]
  · next new =>
    rw [if_neg new]
    split at keeps
    · next p hp =>
      have size : (state.1.insert id p).size = state.1.size + 1 := by
        simp [Std.TreeMap.size_insert, new]
      have before := h.size
      refine ⟨fun i q hq => ?_, keeps, fun i q hq => ?_, fun j hj => ?_, ?_, .inr ?_⟩
      · rw [Std.TreeMap.getElem?_insert] at hq
        split at hq
        · next same =>
          cases hq
          exact Std.LawfulEqCmp.eq_of_compare same ▸ ⟨hp, unfolds⟩
        · exact h.collects i q hq
      · rw [Std.TreeMap.getElem?_insert] at hq
        split at hq
        · cases hq
          exact .inr fun j hj => List.mem_append_left _ hj
        · exact (h.notes i q hq).imp_right fun noted j hj => List.mem_append_right _ (noted j hj)
      · rcases List.mem_append.1 hj with needed | noted
        · exact unfolds.needs hp j needed
        · exact h.unfolds j noted
      · show found.size ≤ (state.1.insert id p).size
        omega
      · show found.size < (state.1.insert id p).size
        omega
    · exact h

/-- A round finds all objects that it looks for. -/
theorem Gathers.round (ids : List Nat) : ∀ {state : Std.TreeMap Nat Piece × List Nat},
    s.Gathers found state → (∀ i ∈ ids, s.Unfolds i) → s.Gathers found (ids.foldl s.gather state) ∧
      (∀ i, state.1.contains i = true → (ids.foldl s.gather state).1.contains i = true) ∧
      ∀ i ∈ ids, s.contains i = true → (ids.foldl s.gather state).1.contains i = true := by
  induction ids with
  | nil => exact fun h _ => ⟨h, fun _ hi => hi, fun _ hi => nomatch hi⟩
  | cons id ids ih =>
    intro state h unfolds
    obtain ⟨gathers, keeps, finds⟩ :=
      ih (h.gather (unfolds id (List.mem_cons_self ..))) fun i hi => unfolds i (List.mem_cons_of_mem _ hi)
    refine ⟨gathers, fun i hi => keeps i (s.gather_keeps state id hi), fun i hi there => ?_⟩
    rcases List.mem_cons.1 hi with rfl | hi
    · exact keeps i (s.gather_finds state there)
    · exact finds i hi there

/-- Collecting ends when nothing is missing: each round but the last finds an object. -/
theorem collect_closes : ∀ (steps : Nat) (ids : List Nat) {found : Std.TreeMap Nat Piece},
    s.Collects found → Closes found ids → (∀ i ∈ ids, s.Unfolds i) → s.size < steps + found.size →
      s.Collects (s.collect steps ids found) ∧ Closes (s.collect steps ids found) [] ∧
        (∀ i, found.contains i = true → (s.collect steps ids found).contains i = true) ∧
        ∀ i ∈ ids, s.contains i = true → (s.collect steps ids found).contains i = true
  | 0, _, _, collects, _, _, room => absurd collects.size_le (by omega)
  | steps + 1, ids, found, collects, closes, unfolds, room => by
    obtain ⟨gathers, keeps, finds⟩ := Gathers.round ids collects.start unfolds
    rw [collect_succ]
    generalize ids.foldl s.gather (found, []) = state at gathers keeps finds ⊢
    have closed : Closes state.1 state.2 := fun i p hp j hj => by
      rcases gathers.notes i p hp with old | noted
      · rcases closes i p old j hj with there | next
        · exact .inl (keeps j there)
        · exact .inl (finds j next (piece?_needs (collects i p old).1 j hj))
      · exact .inr (noted j hj)
    split
    · next done =>
      rw [List.isEmpty_iff] at done
      exact ⟨gathers.collects, done ▸ closed, keeps, finds⟩
    · next more =>
      rw [List.isEmpty_iff] at more
      have grown := gathers.grows.resolve_left more
      obtain ⟨last, shut, keeps', -⟩ :=
        collect_closes steps state.2 gathers.collects closed gathers.unfolds (by omega)
      exact ⟨last, shut, fun i hi => keeps' i (keeps i hi), fun i hi there => keeps' i (finds i hi there)⟩

end Collect

/-! ### Revealing -/

/-- Trees that are shown are those that the store unfolds to. -/
def Faithful (s shown : Store) : Prop :=
  ∀ (i : Nat) (w : Value), shown[i]? = some w → s.Shows (nodeAt i) w

/-- A piece of the store that unfolds to a tree. -/
def Stands (s : Store) (p : Piece) : Prop := s.piece? p.id = some p ∧ s.Unfolds p.id

/-- Whether all that a piece needs is shown. -/
def Piece.isReady (p : Piece) (shown : Store) : Bool := p.needs.all shown.contains

/-- One piece looked at while those are shown that are ready. -/
def offer (state : Store × List Piece) (p : Piece) : Store × List Piece :=
  if p.isReady state.1 then (reveal state.1 p, state.2) else (state.1, p :: state.2)

theorem revealReady_eq (shown : Store) (ps : List Piece) :
    revealReady shown ps = ((ps.foldl offer (shown, [])).1, (ps.foldl offer (shown, [])).2.reverse) := rfl

theorem revealAll_succ (rounds : Nat) (shown : Store) (ps : List Piece) :
    revealAll (rounds + 1) shown ps =
      if (revealReady shown ps).2.isEmpty || (revealReady shown ps).2.length == ps.length then
        ((revealReady shown ps).1, (revealReady shown ps).2)
      else revealAll rounds (revealReady shown ps).1 (revealReady shown ps).2 := rfl

section Reveal

variable {s shown : Store} {p : Piece} {ps : List Piece}

theorem Shows.ne_mapping {v w : Value} (h : s.Shows v w) (es : List Entry) (i : Nat) : w ≠ .mapping es i := by
  rintro rfl
  cases h with
  | atom plain => cases plain

/-- A piece with all that it needs is the tree that its node unfolds to. -/
theorem Stands.tree (h : s.Stands p) (known : s.Faithful shown) (ready : p.isReady shown = true) :
    s.Shows (nodeAt p.id) (p.content.mapParts (·.fill (shown[·]?))) := by
  obtain ⟨here, w, shows⟩ := h
  cases shows with
  | @node _ m f kept parts =>
    obtain ⟨content, there, whole⟩ := Option.map_eq_some_iff.1 here
    cases kept.symm.trans there
    have filled : ∀ a ∈ m.attrs, a.2.fill (shown[·]?) = f a.2 := fun a ha => by
      refine (parts a ha).fill fun j hj u hu => ?_
      have needed : j ∈ p.needs := by
        rw [← whole]
        exact List.mem_filter.2
          ⟨mem_referencesOfAll.2 ⟨a.2, List.mem_map_of_mem ha, hj⟩, ((parts a ha).reference hj).1⟩
      have shown' := List.all_eq_true.1 ready j needed
      rw [Std.TreeMap.contains_eq_isSome_getElem?] at shown'
      obtain ⟨t, ht⟩ := Option.isSome_iff_exists.1 shown'
      rw [ht, (known j t ht).unique hu]
    have content : p.content = .node m := by rw [← whole]
    have attrs := List.map_congr_left (g := fun a : String × Value => (a.1, f a.2))
      fun a ha => congrArg (Prod.mk a.1) (filled a ha)
    rw [content]
    show s.Shows _ (.node (NodeOf.spread { m with attrs := _ }))
    rw [attrs, NodeOf.spread_eq]
    · exact .node (n := ⟨p.id, .ast, [], none⟩) kept parts
    · intro a ha
      obtain ⟨b, hb, rfl⟩ := List.mem_map.1 ha
      exact (parts b hb).ne_mapping
  | atom plain => cases plain

theorem Faithful.reveal (known : s.Faithful shown) (h : s.Stands p) (ready : p.isReady shown = true) :
    s.Faithful (reveal shown p) := by
  intro i w hw
  rw [Store.reveal, Std.TreeMap.getElem?_insert] at hw
  split at hw
  · next same =>
    cases hw
    exact Std.LawfulEqCmp.eq_of_compare same ▸ h.tree known ready
  · exact known i w hw

/-- What came of a round in which the pieces that are ready are revealed and the others put aside. -/
structure Reveals (s shown : Store) (ps : List Piece) (state : Store × List Piece) : Prop where
  faithful : s.Faithful state.1
  keeps : ∀ i, shown.contains i = true → state.1.contains i = true
  covers : ∀ p ∈ ps, state.1.contains p.id = true ∨ p ∈ state.2
  rest : ∀ p ∈ state.2, p ∈ ps
  moves : state.2.length < ps.length ∨ state.2.length = ps.length ∧ ∀ p ∈ ps, p.isReady shown = false

theorem Reveals.nil (known : s.Faithful shown) : s.Reveals shown [] (shown, []) where
  faithful := known
  keeps := fun _ hi => hi
  covers := fun _ hp => nomatch hp
  rest := fun _ hp => nomatch hp
  moves := .inr ⟨rfl, fun _ hp => nomatch hp⟩

theorem Reveals.concat {state : Store × List Piece} (h : s.Reveals shown ps state) (stands : s.Stands p) :
    s.Reveals shown (ps ++ [p]) (offer state p) := by
  obtain ⟨now, rest⟩ := state
  have covers : ∀ q ∈ ps, now.contains q.id = true ∨ q ∈ rest := h.covers
  unfold offer
  split
  · next ready =>
    refine ⟨h.faithful.reveal stands ready, fun i hi => ?_, fun q hq => ?_, fun q hq => ?_, .inl ?_⟩
    · simp [Store.reveal, h.keeps i hi]
    · rcases List.mem_append.1 hq with hq | hq
      · exact (covers q hq).imp_left fun there => by simp [Store.reveal, there]
      · obtain rfl := List.mem_singleton.1 hq
        exact .inl (by simp [Store.reveal])
    · exact List.mem_append_left _ (h.rest q hq)
    · have moves := h.moves
      simp only [List.length_append, List.length_singleton] at moves ⊢
      omega
  · next waits =>
    refine ⟨h.faithful, h.keeps, fun q hq => ?_, fun q hq => ?_, ?_⟩
    · rcases List.mem_append.1 hq with hq | hq
      · exact (covers q hq).imp_right (List.mem_cons_of_mem _)
      · exact .inr (List.mem_cons.2 (.inl (List.mem_singleton.1 hq)))
    · rcases List.mem_cons.1 hq with rfl | hq
      · exact List.mem_append_right _ (List.mem_singleton.2 rfl)
      · exact List.mem_append_left _ (h.rest q hq)
    · refine h.moves.imp (fun less => by simpa using less) fun ⟨same, idle⟩ => ⟨by simpa using same, ?_⟩
      intro q hq
      rcases List.mem_append.1 hq with hq | hq
      · exact idle q hq
      · -- What was ready at first would be ready by now.
        obtain rfl := List.mem_singleton.1 hq
        refine Bool.eq_false_iff.2 fun ready => waits (List.all_eq_true.2 fun j hj => ?_)
        exact h.keeps j (List.all_eq_true.1 ready j hj)

theorem Reveals.round (known : s.Faithful shown) :
    ∀ {ps : List Piece}, (∀ p ∈ ps, s.Stands p) → s.Reveals shown ps (ps.foldl offer (shown, [])) := by
  intro ps
  induction ps using List.reverseRecOn with
  | nil => exact fun _ => .nil known
  | append_singleton ps p ih =>
    intro stands
    rw [List.foldl_concat]
    exact (ih fun q hq => stands q (List.mem_append_left _ hq)).concat
      (stands p (List.mem_append_right _ (List.mem_singleton.2 rfl)))

/-- What pieces need is shown, or is among them. -/
def Supplied (shown : Store) (ps : List Piece) : Prop :=
  ∀ p ∈ ps, ∀ j ∈ p.needs, shown.contains j = true ∨ ∃ q ∈ ps, q.id = j

/-- Since no node leads back to itself, one of the pieces that are left is ready. -/
theorem exists_ready (stands : ∀ p ∈ ps, s.Stands p) (supplied : Supplied shown ps)
    (idle : ∀ p ∈ ps, p.isReady shown = false) : ps = [] := by
  -- By induction on the tree of a value, none of the pieces is one of the nodes that it refers to.
  have absent : ∀ {v w : Value}, s.Shows v w → ∀ i ∈ v.references, ∀ p ∈ ps, p.id ≠ i := by
    intro v w h
    induction h with
    | atom plain =>
      intro i hi
      rw [Value.references_atom plain] at hi
      cases hi
    | tuple _ _ ih =>
      intro i hi
      obtain ⟨x, hx, hi⟩ := mem_referencesOfAll.1 hi
      exact ih x hx i hi
    | record _ _ _ ih =>
      intro i hi
      obtain ⟨x, hx, hi⟩ := mem_referencesOfAll.1 hi
      exact ih x hx i hi
    | @node n m f kept parts ih =>
      rintro i hi p hp rfl
      replace hi : p.id = n.id := List.mem_singleton.1 hi
      obtain ⟨content, there, whole⟩ := Option.map_eq_some_iff.1 (stands p hp).1
      rw [hi] at there
      cases kept.symm.trans there
      refine Bool.eq_false_iff.1 (idle p hp) (List.all_eq_true.2 fun j hj => ?_)
      refine (supplied p hp j hj).resolve_right fun ⟨q, hq, same⟩ => ?_
      have referred : j ∈ referencesOfAll (m.attrs.map Prod.snd) := by
        rw [← whole] at hj
        exact (List.mem_filter.1 hj).1
      obtain ⟨x, hx, hj⟩ := mem_referencesOfAll.1 referred
      obtain ⟨a, ha, rfl⟩ := List.mem_map.1 hx
      exact ih a ha j hj q hq same
  refine List.eq_nil_iff_forall_not_mem.2 fun p hp => ?_
  obtain ⟨w, shows⟩ := (stands p hp).2
  exact absent shows p.id (List.mem_singleton.2 rfl) p hp rfl

/-- In as many rounds as there are pieces all of them are revealed. -/
theorem revealAll_covers : ∀ (rounds : Nat) {shown : Store} {ps : List Piece}, s.Faithful shown →
    (∀ p ∈ ps, s.Stands p) → Supplied shown ps → ps.length ≤ rounds →
      (revealAll rounds shown ps).2 = [] ∧ s.Faithful (revealAll rounds shown ps).1 ∧
        (∀ i, shown.contains i = true → (revealAll rounds shown ps).1.contains i = true) ∧
        ∀ p ∈ ps, (revealAll rounds shown ps).1.contains p.id = true
  | 0, shown, ps, known, _, _, room => by
    obtain rfl := List.length_eq_zero_iff.1 (Nat.le_zero.1 room)
    exact ⟨rfl, known, fun _ hi => hi, fun _ hp => nomatch hp⟩
  | rounds + 1, shown, ps, known, stands, supplied, room => by
    have round := Reveals.round known stands
    rw [revealAll_succ, revealReady_eq]
    generalize ps.foldl offer (shown, []) = state at round ⊢
    obtain ⟨now, rest⟩ := state
    have covers : ∀ q ∈ ps, now.contains q.id = true ∨ q ∈ rest := round.covers
    by_cases done : rest = []
    · subst done
      refine ⟨rfl, round.faithful, round.keeps, fun p hp => ?_⟩
      exact (covers p hp).resolve_right (List.not_mem_nil)
    · have fewer : rest.length < ps.length := by
        refine round.moves.resolve_right fun ⟨same, idle⟩ => ?_
        have ended := exists_ready stands supplied idle
        rw [ended] at same
        exact done (List.length_eq_zero_iff.1 same)
      have later : Supplied now rest.reverse := fun p hp j hj => by
        rcases supplied p (round.rest p (List.mem_reverse.1 hp)) j hj with there | ⟨q, hq, rfl⟩
        · exact .inl (round.keeps j there)
        · exact (covers q hq).imp_right fun waits => ⟨q, List.mem_reverse.2 waits, rfl⟩
      have more : ¬ (rest.reverse.isEmpty || rest.reverse.length == ps.length) = true := by
        simp [done, Nat.ne_of_lt fewer]
      rw [if_neg more]
      have left : ∀ p ∈ rest.reverse, s.Stands p := fun p hp =>
        stands p (round.rest p (List.mem_reverse.1 hp))
      obtain ⟨ended, faithful, keeps, all⟩ :=
        revealAll_covers rounds round.faithful left later (by rw [List.length_reverse]; omega)
      refine ⟨ended, faithful, fun i hi => keeps i (round.keeps i hi), fun p hp => ?_⟩
      rcases covers p hp with there | waits
      · exact keeps p.id there
      · exact all p (List.mem_reverse.2 waits)

end Reveal

/-! ### Views -/

/-- A view is the tree that a value unfolds to. -/
theorem Shows.view {s : Store} {v w : Value} (h : s.Shows v w) : s.view v = w := by
  have inside : v.references.filter s.contains = v.references :=
    List.filter_eq_self.2 fun i hi => (h.reference hi).1
  unfold Store.view
  rw [inside]
  split
  · next none => exact (h.eq_of_references none).symm
  · have start : s.Collects ∅ := fun i p hp => by simp at hp
    obtain ⟨collects, closes, -, finds⟩ := collect_closes (s.size + 1) v.references start
      (fun i p hp => by simp at hp) (fun i hi => (h.reference hi).2) (by simp)
    generalize s.collect (s.size + 1) v.references ∅ = found at collects closes finds ⊢
    have stands : ∀ p ∈ found.values, s.Stands p := fun p hp => by
      obtain ⟨i, hi⟩ := mem_values.1 hp
      obtain ⟨here, unfolds⟩ := collects i p hi
      obtain ⟨content, -, rfl⟩ := Option.map_eq_some_iff.1 here
      exact ⟨here, unfolds⟩
    have among : ∀ i, found.contains i = true → ∃ p ∈ found.values, p.id = i := fun i hi => by
      rw [Std.TreeMap.contains_eq_isSome_getElem?] at hi
      obtain ⟨p, hp⟩ := Option.isSome_iff_exists.1 hi
      obtain ⟨content, -, rfl⟩ := Option.map_eq_some_iff.1 (collects i p hp).1
      exact ⟨_, mem_values.2 ⟨i, hp⟩, rfl⟩
    have supplied : Supplied ∅ found.values := fun p hp j hj => by
      obtain ⟨i, hi⟩ := mem_values.1 hp
      exact .inr (among j ((closes i p hi j hj).resolve_right List.not_mem_nil))
    obtain ⟨ended, faithful, -, covers⟩ := revealAll_covers found.size
      (fun i w hw => by simp at hw) stands supplied (Nat.le_of_eq length_values)
    dsimp only
    generalize revealAll found.size ∅ found.values = result at ended faithful covers ⊢
    obtain ⟨shown, rest⟩ := result
    obtain rfl : rest = [] := ended
    refine h.fill fun i hi u hu => ?_
    obtain ⟨p, hp, rfl⟩ := among i (finds i hi (h.reference hi).1)
    have there : shown.contains p.id = true := covers p hp
    rw [Std.TreeMap.contains_eq_isSome_getElem?] at there
    obtain ⟨t, ht⟩ := Option.isSome_iff_exists.1 there
    exact ((faithful p.id t ht).unique hu) ▸ ht

section Equations

variable {s : Store} {xs : List Value}

theorem view_atom {v : Value} (plain : v.isAtom = true) : s.view v = v := (Shows.atom plain).view

theorem view_tuple (i : Nat) (items : ∀ x ∈ xs, s.Shows x (s.view x)) :
    s.view (.tuple xs i) = .tuple (xs.map s.view) i := (Shows.tuple i items).view

theorem view_record (shape : Record) (i : Nat) (items : ∀ x ∈ xs, s.Shows x (s.view x)) :
    s.view (.record shape xs i) = .record shape (xs.map s.view) i := (Shows.record shape i items).view

theorem view_node {n m : Node} (kept : s[n.id]? = some (.node m))
    (parts : ∀ a ∈ m.attrs, s.Shows a.2 (s.view a.2)) :
    s.view (.node n) = .node { m with attrs := m.attrs.map fun (name, v) => (name, s.view v) } :=
  (Shows.node kept parts).view

end Equations

end Store
end QueryDefaults
