import QueryDefaults.Proofs.Conforms
import QueryDefaults.Proofs.Views
import QueryDefaults.Value.Equality

/-!
Digests by content. The digest of a node is the one that it keeps, or else it is taken of its attributes.
`Store.DigestsTo` is the digest that a value has by the content that a store has of it, whatever its nodes
keep. As long as all digests that are kept agree with it (`Store.IsFresh`), it is the digest that is taken of
a view, and digests that are noted on the way agree with it too (`DigestsTo.takes`). Values whose views are
equal have one digest by content (`DigestsTo.eq_of_equals`).
-/

namespace QueryDefaults

/-- Whether a value is no row of values. -/
def Value.isSingle : Value → Bool
  | .tuple .. | .record .. => false
  | _ => true

/-- A node with the attributes of its kind, in their order, and no others. -/
def NodeOf.IsBuilt (n : Node) : Prop := n.attrs.map Prod.fst = n.kind.keys

namespace Store

/-- The digest that a value has by its content. Its rows hold no rows. -/
inductive DigestsTo (s : Store) : Value → Digest → Prop where
  | atom {v : Value} {d : Digest} (plain : v.isAtom = true) (digest : v.digest = .ok d) : DigestsTo s v d
  | tuple {xs : List Value} {g : Value → Digest} (i : Nat) (flat : ∀ x ∈ xs, x.isSingle = true)
      (items : ∀ x ∈ xs, DigestsTo s x (g x)) : DigestsTo s (.tuple xs i) (.ofRow (xs.map g))
  | record {xs : List Value} {g : Value → Digest} (shape : Record) (i : Nat)
      (flat : ∀ x ∈ xs, x.isSingle = true) (items : ∀ x ∈ xs, DigestsTo s x (g x)) :
      DigestsTo s (.record shape xs i) (.ofRow (xs.map g))
  | node {n m : Node} {g : Value → Digest} (kept : s[n.id]? = some (.node m)) (own : m.id = n.id)
      (built : m.IsBuilt) (parts : ∀ a ∈ m.attrs, DigestsTo s a.2 (g a.2)) :
      DigestsTo s (.node n) (.ofRow (m.attrs.map fun a => g a.2))

/-- Whether the digests that nodes keep are those that they have by their content. -/
def IsFresh (s : Store) : Prop :=
  ∀ (i : Nat) (m : Node) (d : Digest), s[i]? = some (.node m) → m.digest = some d → s.DigestsTo (nodeAt i) d

section DigestsTo

variable {s : Store} {v : Value} {d : Digest}

theorem DigestsTo.unique (h : s.DigestsTo v d) : ∀ {e : Digest}, s.DigestsTo v e → e = d := by
  induction h with
  | atom plain digest =>
    intro e other
    cases other with
    | atom _ again => exact Except.ok.inj (again.symm.trans digest)
    | _ => cases plain
  | tuple i flat items ih =>
    intro e other
    cases other with
    | atom plain => cases plain
    | tuple _ _ others => rw [List.map_congr_left fun x hx => ih x hx (others x hx)]
  | record shape i flat items ih =>
    intro e other
    cases other with
    | atom plain => cases plain
    | record _ _ _ others => rw [List.map_congr_left fun x hx => ih x hx (others x hx)]
  | node kept own built parts ih =>
    intro e other
    cases other with
    | atom plain => cases plain
    | node there _ _ others =>
      cases kept.symm.trans there
      rw [List.map_congr_left fun a ha => ih a ha (others a ha)]

/-- Of a node only the number counts. -/
theorem DigestsTo.renamed {n m : Node} (h : s.DigestsTo (.node n) d) (same : n.id = m.id) :
    s.DigestsTo (.node m) d := by
  cases h with
  | atom plain => cases plain
  | node kept own built parts => exact .node (same ▸ kept) (same ▸ own) built parts

/-- A value with a digest by its content unfolds to its view. -/
theorem DigestsTo.shows (h : s.DigestsTo v d) : s.Shows v (s.view v) := by
  have tree : ∃ w, s.Shows v w := by
    induction h with
    | atom plain => exact ⟨_, .atom plain⟩
    | tuple i _ _ ih =>
      exact ⟨_, .tuple (f := s.view) i fun x hx => (ih x hx).elim fun w hw => hw.view ▸ hw⟩
    | record shape i _ _ ih =>
      exact ⟨_, .record (f := s.view) shape i fun x hx => (ih x hx).elim fun w hw => hw.view ▸ hw⟩
    | node kept _ _ _ ih =>
      exact ⟨_, .node (f := s.view) kept fun a ha => (ih a ha).elim fun w hw => hw.view ▸ hw⟩
  obtain ⟨w, hw⟩ := tree
  exact hw.view ▸ hw

/-! ### Which nodes a value leads to -/

/-- Whether a value leads to the node with a number: it is the node, or a part of it leads there. -/
inductive Reaches (s : Store) : Value → Nat → Prop where
  | here (n : Node) : Reaches s (.node n) n.id
  | item {xs : List Value} {x : Value} {j : Nat} (i : Nat) (mem : x ∈ xs) (below : Reaches s x j) :
      Reaches s (.tuple xs i) j
  | part {xs : List Value} {x : Value} {j : Nat} (shape : Record) (i : Nat) (mem : x ∈ xs)
      (below : Reaches s x j) : Reaches s (.record shape xs i) j
  | attr {n m : Node} {a : String × Value} {j : Nat} (kept : s[n.id]? = some (.node m)) (mem : a ∈ m.attrs)
      (below : Reaches s a.2 j) : Reaches s (.node n) j

/-- A digest by content stays what it is as long as the nodes that the value leads to stay what they are, but
for the digests that they keep. -/
theorem DigestsTo.congr {t : Store} (h : s.DigestsTo v d) :
    (∀ i m, s.Reaches v i → s[i]? = some (.node m) →
      ∃ kept, t[i]? = some (.node { m with digest := kept })) → t.DigestsTo v d := by
  induction h with
  | atom plain digest => exact fun _ => .atom plain digest
  | tuple i flat _ ih =>
    intro same
    exact .tuple i flat fun x hx => ih x hx fun j m hj => same j m (.item i hx hj)
  | record shape i flat _ ih =>
    intro same
    exact .record shape i flat fun x hx => ih x hx fun j m hj => same j m (.part shape i hx hj)
  | @node n m g there own built _ ih =>
    intro same
    obtain ⟨kept, now⟩ := same n.id m (.here n) there
    exact .node (m := { m with digest := kept }) now own built fun a ha =>
      ih a ha fun j k hj => same j k (.attr there ha hj)

end DigestsTo
end Store

/-! ### Names of attributes -/

section Names

variable {kind : Kind}

theorem Kind.keys_ne_nil : kind.keys ≠ [] := forall_keys (P := (· ≠ [])) (by decide) kind

theorem Kind.keys_nodup : kind.keys.Nodup := forall_keys (P := List.Nodup) (by decide) kind

/-- No kind has an attribute that lists attributes, or one for a digest. -/
theorem Kind.keys_own : "keys" ∉ kind.keys ∧ digestName ∉ kind.keys :=
  forall_keys (P := fun keys => "keys" ∉ keys ∧ digestName ∉ keys) (by decide) kind

theorem lookup_eq_none {α : Type} {as : List (String × α)} {name : String}
    (h : name ∉ as.map Prod.fst) : as.lookup name = none := by
  rw [← Option.not_isSome_iff_eq_none, lookup_isSome_iff]
  exact h

end Names

/-! ### Taking digests -/

/-- A computation gives a result and notes digests that are good. -/
def Takes {α : Type} (good : Nat × Digest → Prop) (m : DigestM α) (a : α) : Prop :=
  ∀ taken, ∃ new, m.run.run taken = (.ok a, new ++ taken) ∧ ∀ p ∈ new, good p

namespace Takes

variable {α β : Type} {good : Nat × Digest → Prop}

theorem pure (a : α) : Takes good (pure a) a := fun _ => ⟨[], rfl, fun _ hp => nomatch hp⟩

theorem bind {m : DigestM α} {a : α} {f : α → DigestM β} {b : β} (h : Takes good m a)
    (g : Takes good (f a) b) : Takes good (m >>= f) b := by
  intro taken
  obtain ⟨first, run, all⟩ := h taken
  obtain ⟨second, rerun, others⟩ := g (first ++ taken)
  refine ⟨second ++ first, ?_, fun p hp => (List.mem_append.1 hp).elim (others p) (all p)⟩
  rw [ExceptT.run_bind, StateT.run_bind, run]
  rw [← List.append_assoc] at rerun
  exact rerun

theorem note {p : Nat × Digest} (h : good p) : Takes good (modify (p :: ·)) PUnit.unit := fun _ =>
  ⟨[p], rfl, fun q hq => by
    rw [List.mem_singleton.1 hq]
    exact h⟩

theorem all {xs : List Value} {f : Value → Value} {g : Value → Digest} :
    (∀ x ∈ xs, Takes good (f x).takeDigest (g x)) → Takes good (takeDigests (xs.map f)) (xs.map g) := by
  induction xs with
  | nil => exact fun _ => pure []
  | cons x xs ih =>
    intro items
    have rest := ih fun y hy => items y (List.mem_cons_of_mem _ hy)
    exact (items x (List.mem_cons_self ..)).bind (rest.bind (pure _))

theorem attrs {kind : Kind} {as : List (String × Value)} {f : Value → Value} {g : Value → Digest} :
    (∀ a ∈ as, a.1 ∈ kind.keys) → (∀ a ∈ as, Takes good (f a.2).takeDigest (g a.2)) →
      Takes good (takeAttrDigests kind (as.map fun (name, v) => (name, f v))) (as.map fun a => g a.2) := by
  induction as with
  | nil => exact fun _ _ => pure []
  | cons a as ih =>
    intro own parts
    have rest := ih (fun b hb => own b (List.mem_cons_of_mem _ hb))
      fun b hb => parts b (List.mem_cons_of_mem _ hb)
    have known : kind.keys.contains a.1 = true := List.contains_iff_mem.2 (own a (List.mem_cons_self ..))
    rw [List.map_cons, takeAttrDigests, if_pos known]
    exact (parts a (List.mem_cons_self ..)).bind (rest.bind (pure _))

theorem kept {n : Node} {d : Digest} (h : n.digest = some d) : Takes good (takeNodeDigest n) d := by
  obtain ⟨id, kind, attrs, kept⟩ := n
  obtain rfl : kept = some d := h
  exact pure d

/-- The digest of a node that keeps none is taken of its attributes, and noted. -/
theorem node {n : Node} {ds : List Digest} (anew : n.digest = none) (built : n.IsBuilt)
    (parts : Takes good (takeAttrDigests n.kind n.attrs) ds) (noted : good (n.id, .ofRow ds)) :
    Takes good (takeNodeDigest n) (.ofRow ds) := by
  obtain ⟨id, kind, attrs, kept⟩ := n
  obtain rfl : kept = none := anew
  have names : attrs.map Prod.fst = kind.keys := built
  have filled : attrs.isEmpty = false := by
    cases attrs with
    | nil => exact absurd names.symm Kind.keys_ne_nil
    | cons => rfl
  have ungiven : digestGiven attrs = .ok none := by
    rw [digestGiven, lookup_eq_none (names ▸ Kind.keys_own.2)]
  have unlisted : attrs.lookup "keys" = none := lookup_eq_none (names ▸ Kind.keys_own.1)
  rw [takeNodeDigest]
  simp only [filled, ungiven, unlisted]
  rw [if_neg Bool.false_ne_true]
  refine bind (pure none) (bind parts ?_)
  split
  · exact bind (note noted) (pure _)
  · exact pure _

end Takes

namespace Store

section Taking

variable {s : Store} {v : Value} {d : Digest}

theorem takes_atom {good : Nat × Digest → Prop} (plain : v.isAtom = true) (digest : v.digest = .ok d) :
    Takes good v.takeDigest d := by
  cases v with
  | null | undefined | bool | int | str | operation | action =>
    cases Except.ok.inj digest
    exact .pure _
  | _ => cases plain

/-- The digest that is taken of a view is the one by content if those that are kept are, and then those that
are noted on the way are as well. -/
theorem DigestsTo.takes (fresh : s.IsFresh) (h : s.DigestsTo v d) :
    Takes (fun p => s.DigestsTo (nodeAt p.1) p.2) (s.view v).takeDigest d := by
  induction h with
  | atom plain digest =>
    rw [view_atom plain]
    exact takes_atom plain digest
  | @tuple xs g i flat items ih =>
    rw [view_tuple i fun x hx => (items x hx).shows]
    exact (Takes.all ih).bind (.pure _)
  | @record xs g shape i flat items ih =>
    rw [view_record shape i fun x hx => (items x hx).shows]
    exact (Takes.all ih).bind (.pure _)
  | @node n m g kept own built parts ih =>
    rw [view_node kept fun a ha => (parts a ha).shows]
    have whole : s.DigestsTo (nodeAt n.id) _ := .node (n := ⟨n.id, .ast, [], none⟩) kept own built parts
    cases digest : m.digest with
    | some e =>
      rw [← whole.unique (fresh n.id m e kept digest)]
      exact Takes.kept rfl
    | none =>
      have names : m.attrs.map Prod.fst = m.kind.keys := built
      refine Takes.node rfl ?_ (Takes.attrs (fun a ha => ?_) ih) ?_
      · rw [NodeOf.IsBuilt, List.map_map]
        exact names
      · exact names ▸ List.mem_map_of_mem ha
      · rw [own]
        exact whole

theorem DigestsTo.digest (fresh : s.IsFresh) (h : s.DigestsTo v d) : (s.view v).digest = .ok d := by
  obtain ⟨new, run, -⟩ := h.takes fresh []
  rw [Value.digest, run]

theorem DigestsTo.newDigests (fresh : s.IsFresh) (h : s.DigestsTo v d) :
    ∀ p ∈ (s.view v).newDigests, s.DigestsTo (nodeAt p.1) p.2 := by
  obtain ⟨new, run, good⟩ := h.takes fresh []
  rw [Value.newDigests, run]
  simpa using good

end Taking

/-! ### Equal views -/

section Equal

variable {s : Store} {v w : Value} {d e : Digest}

theorem andThen_eq_true {a b : Except Fault Bool} (h : Value.andThen a b = .ok true) :
    a = .ok true ∧ b = .ok true := by
  cases a with
  | error => cases h
  | ok x =>
    cases x with
    | false => cases h
    | true => exact ⟨rfl, h⟩

/-- Data that is equal has one digest. -/
theorem digest_atom (plain : v.isAtom = true) (other : w.isAtom = true) (equal : v.equals w = .ok true) :
    v.digest = w.digest := by
  cases v with
  | null | undefined | bool | int | str | operation | action =>
    cases w with
    | null | undefined | bool | int | str | operation | action =>
      simp_all [Value.equals, Value.same, Value.isInt, Value.isText, Value.digest, Value.takeDigest, pure,
        Except.pure]
    | _ => cases other
  | _ => cases plain

theorem equals_of_same (plain : v.isAtom = true) (same : v.same w = true) : v.equals w = .ok true := by
  cases v with
  | null | undefined | bool | int | str | operation | action =>
    cases w <;> simp_all [Value.equals, Value.same, Value.isInt, Value.isText, pure, Except.pure]
  | _ => cases plain

/-- Data equals no row of values and no node. -/
theorem isAtom_of_equals {u : Value} (plain : v.isAtom = true) (shows : s.Shows u w)
    (equal : v.equals w = .ok true) : w.isAtom = true := by
  cases v with
  | null | undefined | bool | int | str | operation | action =>
    cases shows with
    | atom other => exact other
    | _ => cases equal
  | _ => cases plain

/-- A value whose view is data is this data. -/
theorem DigestsTo.atom_of_view (h : s.DigestsTo v d) (plain : (s.view v).isAtom = true) :
    v.isAtom = true ∧ v.digest = .ok d := by
  cases h with
  | atom own digest => exact ⟨own, digest⟩
  | tuple i _ items =>
    rw [view_tuple i fun x hx => (items x hx).shows] at plain
    cases plain
  | record shape i _ items =>
    rw [view_record shape i fun x hx => (items x hx).shows] at plain
    cases plain
  | node kept _ _ parts =>
    rw [view_node kept fun a ha => (parts a ha).shows] at plain
    cases plain

/-- Values that are one object have one digest. -/
theorem DigestsTo.eq_of_same (h : s.DigestsTo v d) (single : v.isSingle = true) (g : s.DigestsTo w e)
    (same : (s.view v).same (s.view w) = true) (equal : (s.view v).equals (s.view w) = .ok true → d = e) :
    d = e := by
  cases h with
  | atom plain digest =>
    rw [view_atom plain] at same equal
    exact equal (equals_of_same plain same)
  | tuple => cases single
  | record => cases single
  | @node n m f kept own built parts =>
    rw [view_node kept fun a ha => (parts a ha).shows] at same
    cases g with
    | atom other digest =>
      rw [view_atom other] at same
      cases w <;> first | cases same | cases other
    | tuple i _ items =>
      rw [view_tuple i fun x hx => (items x hx).shows] at same
      cases same
    | record shape i _ items =>
      rw [view_record shape i fun x hx => (items x hx).shows] at same
      cases same
    | @node k l f' kept' own' built' parts' =>
      rw [view_node kept' fun a ha => (parts' a ha).shows] at same
      have ids : m.id = l.id := beq_iff_eq.1 (Bool.and_eq_true_iff.1 same).2
      have whole : s.DigestsTo (.node n) _ := .node kept own built parts
      have other : s.DigestsTo (.node k) _ := .node kept' own' built' parts'
      exact ((whole.renamed (own.symm.trans (ids.trans own'))).unique other).symm

/-- Rows are equal item by item. -/
theorem digests_of_equalsAll {xs ys : List Value} {g k : Value → Digest}
    (flat : ∀ x ∈ xs, x.isSingle = true) (items : ∀ x ∈ xs, s.DigestsTo x (g x))
    (others : ∀ y ∈ ys, s.DigestsTo y (k y))
    (each : ∀ x ∈ xs, ∀ y e, s.DigestsTo y e → (s.view x).equals (s.view y) = .ok true → g x = e)
    (equal : Value.equalsAll (xs.map s.view) (ys.map s.view) = .ok true) : xs.map g = ys.map k := by
  induction xs generalizing ys with
  | nil =>
    cases ys with
    | nil => rfl
    | cons => cases equal
  | cons x xs ih =>
    cases ys with
    | nil => cases equal
    | cons y ys =>
      have both := andThen_eq_true equal
      have hx := List.mem_cons_self (a := x) (l := xs)
      have hy := List.mem_cons_self (a := y) (l := ys)
      have first : g x = k y := by
        have head := both.1
        split at head
        · next same =>
          exact (items x hx).eq_of_same (flat x hx) (others y hy) same (each x hx y _ (others y hy))
        · exact each x hx y _ (others y hy) head
      have rest := ih (fun z hz => flat z (List.mem_cons_of_mem _ hz))
        (fun z hz => items z (List.mem_cons_of_mem _ hz)) (fun z hz => others z (List.mem_cons_of_mem _ hz))
        (fun z hz => each z (List.mem_cons_of_mem _ hz)) both.2
      rw [List.map_cons, List.map_cons, first, rest]

theorem lookup_map {α β : Type} (f : α → β) (as : List (String × α)) (name : String) :
    (as.map fun (k, a) => (k, f a)).lookup name = (as.lookup name).map f := by
  induction as with
  | nil => rfl
  | cons a as ih =>
    obtain ⟨k, a⟩ := a
    simp only [List.map_cons, List.lookup_cons, ih]
    split <;> rfl

/-- Nodes are equal attribute by attribute. -/
theorem equals_of_equalsAttrs {kind : Kind} {as bs : List (String × Value)}
    (own : ∀ a ∈ as, a.1 ∈ kind.keys)
    (equal : Value.equalsAttrs kind (as.map fun (name, v) => (name, s.view v))
      (bs.map fun (name, v) => (name, s.view v)) = .ok true) :
    ∀ a ∈ as, ∃ w, bs.lookup a.1 = some w ∧ (s.view a.2).equals (s.view w) = .ok true := by
  induction as with
  | nil => exact fun a ha => nomatch ha
  | cons a as ih =>
    have known : kind.keys.contains a.1 = true := List.contains_iff_mem.2 (own a (List.mem_cons_self ..))
    rw [List.map_cons, Value.equalsAttrs, if_pos known, lookup_map] at equal
    cases found : bs.lookup a.1 with
    | none =>
      rw [found] at equal
      cases equal
    | some w =>
      rw [found] at equal
      have both := andThen_eq_true equal
      intro b hb
      rcases List.mem_cons.1 hb with rfl | hb
      · exact ⟨w, found, both.1⟩
      · exact ih (fun c hc => own c (List.mem_cons_of_mem _ hc)) both.2 b hb

/-- Two lists with the same names have the same at each name, if they do where a name is looked up. -/
theorem map_eq_of_lookup {as bs : List (String × Value)} {g k : Value → Digest}
    (names : as.map Prod.fst = bs.map Prod.fst) (apart : (as.map Prod.fst).Nodup)
    (each : ∀ a ∈ as, ∃ w, bs.lookup a.1 = some w ∧ g a.2 = k w) :
    as.map (fun a => g a.2) = bs.map fun b => k b.2 := by
  induction as generalizing bs with
  | nil =>
    cases bs with
    | nil => rfl
    | cons => cases names
  | cons a as ih =>
    cases bs with
    | nil => cases names
    | cons b bs =>
      obtain ⟨name, v⟩ := a
      obtain ⟨label, w⟩ := b
      obtain ⟨rfl, rest⟩ : name = label ∧ as.map Prod.fst = bs.map Prod.fst := by simpa using names
      rw [List.map_cons, List.nodup_cons] at apart
      obtain ⟨u, found, first⟩ := each (name, v) (List.mem_cons_self ..)
      obtain rfl : w = u := by simpa using found
      have later := ih rest apart.2 fun c hc => by
        obtain ⟨u, found, same⟩ := each c (List.mem_cons_of_mem _ hc)
        have other : (c.1 == name) = false :=
          beq_eq_false_iff_ne.2 fun h => apart.1 (List.mem_map.2 ⟨c, hc, h⟩)
        exact ⟨u, by simpa [List.lookup_cons, other] using found, same⟩
      rw [List.map_cons, List.map_cons, later]
      exact congrArg (· :: _) first

/-- Nodes with the attributes of their kinds are equal if they are of one kind and equal at each attribute. -/
theorem parts_of_equalsNode {m k : Node} (built : m.IsBuilt)
    (equal : Value.equalsNode { m with attrs := m.attrs.map fun (name, v) => (name, s.view v) }
      { k with attrs := k.attrs.map fun (name, v) => (name, s.view v) } = .ok true) :
    m.kind = k.kind ∧
      ∀ a ∈ m.attrs, ∃ w, k.attrs.lookup a.1 = some w ∧ (s.view a.2).equals (s.view w) = .ok true := by
  have names : m.attrs.map Prod.fst = m.kind.keys := built
  have unlisted : (m.attrs.map fun (name, v) => (name, s.view v)).lookup "keys" = none := by
    rw [lookup_map, lookup_eq_none (names ▸ Kind.keys_own.1)]
    rfl
  rw [Value.equalsNode] at equal
  split at equal
  · next kinds =>
    split at equal
    · cases equal
    · rw [unlisted] at equal
      exact ⟨kinds, equals_of_equalsAttrs (fun a ha => names ▸ List.mem_map_of_mem ha) equal⟩
  · cases equal

/-- What equals a row of values is a row of values, and they are equal item by item. -/
theorem DigestsTo.row_of_equals {xs : List Value} (h : s.DigestsTo w e)
    (row : (∃ i, v = .tuple xs i) ∨ ∃ shape i, v = .record shape xs i)
    (equal : v.equals (s.view w) = .ok true) :
    ∃ (ys : List Value) (k : Value → Digest), (∀ y ∈ ys, s.DigestsTo y (k y)) ∧ e = .ofRow (ys.map k) ∧
      Value.equalsAll xs (ys.map s.view) = .ok true := by
  cases h with
  | atom plain =>
    rw [view_atom plain] at equal
    rcases row with ⟨i, rfl⟩ | ⟨shape, i, rfl⟩ <;> cases w <;> first | cases equal | cases plain
  | @tuple ys k j _ items =>
    rw [view_tuple j fun x hx => (items x hx).shows] at equal
    refine ⟨ys, k, items, rfl, ?_⟩
    rcases row with ⟨i, rfl⟩ | ⟨shape, i, rfl⟩ <;> exact equal
  | @record ys k other j _ items =>
    rw [view_record other j fun x hx => (items x hx).shows] at equal
    refine ⟨ys, k, items, rfl, ?_⟩
    rcases row with ⟨i, rfl⟩ | ⟨shape, i, rfl⟩ <;> exact equal
  | node kept _ _ parts =>
    rw [view_node kept fun a ha => (parts a ha).shows] at equal
    rcases row with ⟨i, rfl⟩ | ⟨shape, i, rfl⟩ <;> cases equal

/-- What equals a node is a node. -/
theorem DigestsTo.node_of_equals {m : Node} (h : s.DigestsTo w e)
    (equal : (Value.node m).equals (s.view w) = .ok true) :
    ∃ (k : Node) (g : Value → Digest), k.IsBuilt ∧ (∀ a ∈ k.attrs, s.DigestsTo a.2 (g a.2)) ∧
      e = .ofRow (k.attrs.map fun a => g a.2) ∧
      Value.equalsNode m { k with attrs := k.attrs.map fun (name, v) => (name, s.view v) } = .ok true := by
  cases h with
  | atom plain =>
    rw [view_atom plain] at equal
    cases w <;> first | cases equal | cases plain
  | tuple j _ items =>
    rw [view_tuple j fun x hx => (items x hx).shows] at equal
    cases equal
  | record shape j _ items =>
    rw [view_record shape j fun x hx => (items x hx).shows] at equal
    cases equal
  | @node _ k g kept _ built parts =>
    rw [view_node kept fun a ha => (parts a ha).shows] at equal
    exact ⟨k, g, built, parts, rfl, equal⟩

/-- Values whose views are equal have one digest by content. -/
theorem DigestsTo.eq_of_equals (h : s.DigestsTo v d) : ∀ {w : Value} {e : Digest}, s.DigestsTo w e →
    (s.view v).equals (s.view w) = .ok true → d = e := by
  induction h with
  | atom plain digest =>
    intro w e other equal
    rw [view_atom plain] at equal
    obtain ⟨data, again⟩ := other.atom_of_view (isAtom_of_equals plain other.shows equal)
    rw [view_atom data] at equal
    rw [digest_atom plain data equal, again] at digest
    exact (Except.ok.inj digest).symm
  | tuple i flat items ih =>
    intro w e other equal
    rw [view_tuple i fun x hx => (items x hx).shows] at equal
    obtain ⟨ys, k, others, rfl, all⟩ := other.row_of_equals (.inl ⟨i, rfl⟩) equal
    rw [digests_of_equalsAll flat items others (fun x hx y e hy => ih x hx hy) all]
  | record shape i flat items ih =>
    intro w e other equal
    rw [view_record shape i fun x hx => (items x hx).shows] at equal
    obtain ⟨ys, k, others, rfl, all⟩ := other.row_of_equals (.inr ⟨shape, i, rfl⟩) equal
    rw [digests_of_equalsAll flat items others (fun x hx y e hy => ih x hx hy) all]
  | @node n m g kept own built parts ih =>
    intro w e other equal
    rw [view_node kept fun a ha => (parts a ha).shows] at equal
    obtain ⟨k, l, again, others, rfl, all⟩ := other.node_of_equals equal
    obtain ⟨kinds, each⟩ := parts_of_equalsNode built all
    have names : m.attrs.map Prod.fst = k.attrs.map Prod.fst := built.trans (kinds ▸ again.symm)
    have apart : (m.attrs.map Prod.fst).Nodup := by
      rw [show m.attrs.map Prod.fst = m.kind.keys from built]
      exact Kind.keys_nodup
    refine congrArg Digest.ofRow (map_eq_of_lookup names apart fun a ha => ?_)
    obtain ⟨w, found, same⟩ := each a ha
    obtain ⟨before, after, whole, -⟩ := List.lookup_eq_some_iff.1 found
    have among : (a.1, w) ∈ k.attrs := by
      rw [whole]
      exact List.mem_append_right _ (List.mem_cons_self ..)
    exact ⟨w, found, ih a ha (others _ among) same⟩

end Equal

end Store

end QueryDefaults
