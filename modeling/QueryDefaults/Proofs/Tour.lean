import QueryDefaults.Proofs.Walk

/-!
Tours of syntax trees. A tour is a full depth-first traversal: a node is entered, then its children are
toured in the order of the key map and of the items of tuples, and then it is left again. Every visit has an
address, the numbers of the children on the way to it, since one node may be met several times in a tree.
In a tour no visit comes twice (`Outline.tour_apart`), and between entering a node and leaving it there are
exactly the visits below it (`Outline.tour_encloses`).
-/

namespace QueryDefaults

variable {σ : Type}

/-! ### Tours -/

/-- A node with the place where it is met, and its children in order. -/
inductive Outline where
  | node (n : Node) (place : Position) (below : List Outline)

/-- One side of the visit of a node at an address and a place. -/
structure Visit where
  address : List Nat
  side : Side
  node : Node
  place : Position

/-- What tells the visits of a tour apart. -/
def Visit.key (x : Visit) : List Nat × Side := (x.address, x.side)

/-- The visit that leaves the same node again. -/
def Visit.leaving (x : Visit) : Visit := { x with side := .leave }

mutual

/-- All visits of a node and below it. -/
def Outline.tour (address : List Nat) : Outline → List Visit
  | .node n p below => ⟨address, .enter, n, p⟩ :: (tourAll address 0 below ++ [⟨address, .leave, n, p⟩])
termination_by structural o => o

/-- All visits of the children of a node, from the one with a number on. -/
def tourAll (address : List Nat) (i : Nat) : List Outline → List Visit
  | [] => []
  | o :: os => o.tour (address ++ [i]) ++ tourAll address (i + 1) os
termination_by structural os => os

end

/-! ### Addresses -/

theorem siblings_eq {a l : List Nat} {i j : Nat} (hi : a ++ [i] <+: l) (hj : a ++ [j] <+: l) : i = j := by
  have same : a ++ [i] = a ++ [j] :=
    (List.prefix_of_prefix_length_le hi hj (by simp)).eq_of_length (by simp)
  simpa using same

theorem not_prefix_parent {a l : List Nat} {i : Nat} (h : a ++ [i] <+: l) : ¬ l <+: a := by
  intro up
  have longer := h.length_le
  have shorter := up.length_le
  simp only [List.length_append, List.length_singleton] at longer
  omega

mutual

/-- The addresses of a tour begin with that of its node. -/
theorem Outline.tour_address : ∀ (o : Outline) (a : List Nat), ∀ x ∈ o.tour a, a <+: x.address
  | .node n p below, a, x, hx => by
    rw [Outline.tour, List.mem_cons, List.mem_append, List.mem_singleton] at hx
    rcases hx with rfl | hx | rfl
    · exact List.prefix_rfl
    · obtain ⟨j, _, hj⟩ := tourAll_address below a 0 x hx
      exact (List.prefix_append a [j]).trans hj
    · exact List.prefix_rfl

/-- Those of the children begin with the numbers of the children. -/
theorem tourAll_address : ∀ (os : List Outline) (a : List Nat) (i : Nat), ∀ x ∈ tourAll a i os,
    ∃ j, i ≤ j ∧ a ++ [j] <+: x.address
  | [], _, _, _, hx => by
    rw [tourAll] at hx
    cases hx
  | o :: os, a, i, x, hx => by
    rw [tourAll, List.mem_append] at hx
    rcases hx with hx | hx
    · exact ⟨i, Nat.le_refl i, o.tour_address (a ++ [i]) x hx⟩
    · obtain ⟨j, hj, below⟩ := tourAll_address os a (i + 1) x hx
      exact ⟨j, by omega, below⟩

end

/-- Addresses below a child do not stand above those below its later siblings. -/
theorem not_prefix_sibling {os : List Outline} {a : List Nat} {i : Nat} {x y : Visit}
    (hx : a ++ [i] <+: x.address) (hy : y ∈ tourAll a (i + 1) os) :
    ¬ x.address <+: y.address ∧ ¬ y.address <+: x.address := by
  obtain ⟨j, later, hj⟩ := tourAll_address os a (i + 1) y hy
  constructor
  · intro down
    have same := siblings_eq (hx.trans down) hj
    omega
  · intro up
    have same := siblings_eq hx (hj.trans up)
    omega

/-! ### No visit comes twice -/

mutual

/-- The visits of a tour are told apart by their addresses and sides. -/
theorem Outline.tour_apart : ∀ (o : Outline) (a : List Nat), ((o.tour a).map Visit.key).Nodup
  | .node n p below, a => by
    have longer : ∀ x ∈ tourAll a 0 below, x.address ≠ a := by
      rintro x hx rfl
      obtain ⟨j, _, hj⟩ := tourAll_address below x.address 0 x hx
      exact not_prefix_parent hj List.prefix_rfl
    rw [Outline.tour, List.map_cons, List.map_append, List.nodup_cons, List.nodup_append]
    refine ⟨?_, tourAll_apart below a 0, by simp, ?_⟩
    · simp only [List.mem_append, List.mem_map, List.map_cons, List.map_nil, List.mem_singleton]
      rintro (⟨x, hx, same⟩ | same)
      · exact longer x hx (congrArg Prod.fst same)
      · cases congrArg Prod.snd same
    · simp only [List.mem_map, List.map_cons, List.map_nil, List.mem_singleton]
      rintro _ ⟨x, hx, rfl⟩ _ rfl same
      exact longer x hx (congrArg Prod.fst same)

theorem tourAll_apart : ∀ (os : List Outline) (a : List Nat) (i : Nat),
    ((tourAll a i os).map Visit.key).Nodup
  | [], _, _ => by
    rw [tourAll]
    exact List.nodup_nil
  | o :: os, a, i => by
    rw [tourAll, List.map_append, List.nodup_append]
    refine ⟨o.tour_apart (a ++ [i]), tourAll_apart os a (i + 1), ?_⟩
    simp only [List.mem_map]
    rintro _ ⟨x, hx, rfl⟩ _ ⟨y, hy, rfl⟩ same
    have level : x.address = y.address := congrArg Prod.fst same
    exact (not_prefix_sibling (o.tour_address (a ++ [i]) x hx) hy).1 (level ▸ List.prefix_rfl)

end

/-! ### What lies between entering and leaving -/

/-- In a tour a node is left after it was entered, and the visits between are exactly those below it. -/
def Visit.IsEnclosed (x : Visit) (tour : List Visit) : Prop :=
  ∃ front between back, tour = front ++ x :: (between ++ x.leaving :: back) ∧
    (∀ y ∈ between, x.address <+: y.address ∧ y.address ≠ x.address) ∧
    ∀ y ∈ front ++ back, ¬ x.address <+: y.address

/-- It stays so if visits that are not below the node are put before and behind. -/
theorem Visit.IsEnclosed.among {x : Visit} {tour : List Visit} (h : x.IsEnclosed tour)
    (before after : List Visit) (outside : ∀ y ∈ before ++ after, ¬ x.address <+: y.address) :
    x.IsEnclosed (before ++ (tour ++ after)) := by
  obtain ⟨front, between, back, rfl, inside, around⟩ := h
  refine ⟨before ++ front, between, back ++ after, by simp, inside, fun y hy => ?_⟩
  simp only [List.mem_append] at hy outside around
  rcases hy with (hy | hy) | hy | hy
  · exact outside y (.inl hy)
  · exact around y (.inl hy)
  · exact around y (.inr hy)
  · exact outside y (.inr hy)

mutual

/-- Every node of a tree is entered once and left once, and what lies below it is visited in between. -/
theorem Outline.tour_encloses : ∀ (o : Outline) (a : List Nat), ∀ x ∈ o.tour a, x.side = .enter →
    x.IsEnclosed (o.tour a)
  | .node n p below, a, x, hx, enter => by
    rw [Outline.tour] at hx ⊢
    rw [List.mem_cons, List.mem_append, List.mem_singleton] at hx
    rcases hx with rfl | hx | rfl
    · refine ⟨[], tourAll a 0 below, [], by simp [Visit.leaving], fun y hy => ?_, by simp⟩
      obtain ⟨j, _, hj⟩ := tourAll_address below a 0 y hy
      refine ⟨(List.prefix_append a [j]).trans hj, fun same => ?_⟩
      exact not_prefix_parent hj (same ▸ List.prefix_rfl)
    · obtain ⟨j, _, hj⟩ := tourAll_address below a 0 x hx
      refine (tourAll_encloses below a 0 x hx enter).among [_] _ fun y hy => ?_
      simp only [List.mem_append, List.mem_singleton] at hy
      rcases hy with rfl | rfl
      · exact not_prefix_parent hj
      · exact not_prefix_parent hj
    · cases enter

theorem tourAll_encloses : ∀ (os : List Outline) (a : List Nat) (i : Nat), ∀ x ∈ tourAll a i os,
    x.side = .enter → x.IsEnclosed (tourAll a i os)
  | [], _, _, _, hx, _ => by
    rw [tourAll] at hx
    cases hx
  | o :: os, a, i, x, hx, enter => by
    rw [tourAll] at hx ⊢
    rcases List.mem_append.1 hx with hx | hx
    · refine (o.tour_encloses (a ++ [i]) x hx enter).among [] _ fun y hy => ?_
      exact (not_prefix_sibling (o.tour_address (a ++ [i]) x hx) hy).1
    · have enclosed := (tourAll_encloses os a (i + 1) x hx enter).among _ [] fun y hy =>
        (not_prefix_sibling (o.tour_address (a ++ [i]) y (by simpa using hy)) hx).2
      rwa [List.append_nil] at enclosed

end

/-! ### Tours of syntax trees -/

/-- A node among the values that a walk goes on to. -/
def nodeAt? : Value × Position → Option (Node × Position)
  | (.node n, q) => some (n, q)
  | _ => none

/-- The nodes that a walk goes on to at a node, in order, with their places. -/
def NodeOf.children (keys : KeyMap) (n : Node) (p : Position) : List (Node × Position) :=
  match keys n.kindValue with
  | .ok names => names.flatMap fun name =>
    match n.steps p name with
    | .ok vs => vs.filterMap nodeAt?
    | .error _ => []
  | .error _ => []

theorem NodeOf.children_height {keys : KeyMap} {n : Node} {p : Position} {c : Node × Position}
    (h : c ∈ n.children keys p) : c.1.height < n.height := by
  rw [children] at h
  split at h
  · obtain ⟨name, _, h⟩ := List.mem_flatMap.1 h
    split at h
    · next vs steps =>
      obtain ⟨⟨v, q⟩, mem, found⟩ := List.mem_filterMap.1 h
      have lower := steps_height steps mem
      cases v with
      | node m =>
        cases found
        rw [Value.height_node] at lower
        omega
      | _ => cases found
    · cases h
  · cases h

/-- The tree below a node at a place, as a key map shows it. -/
def NodeOf.outline (keys : KeyMap) (n : Node) (p : Position) : Outline :=
  .node n p ((n.children keys p).attach.map fun c => c.val.1.outline keys c.val.2)
termination_by n.height
decreasing_by exact NodeOf.children_height c.property

theorem NodeOf.outline_eq (keys : KeyMap) (n : Node) (p : Position) :
    n.outline keys p = .node n p ((n.children keys p).map fun c => c.1.outline keys c.2) := by
  rw [outline]
  exact congrArg _ (List.attach_map_val (f := fun c : Node × Position => c.1.outline keys c.2))

/-- A syntax tree: its nodes have kinds that have texts and that the key map knows, and every attribute named
by the key map is missing or null, a node, or a tuple of nodes, which are syntax trees again. -/
inductive NodeOf.IsSyntax (keys : KeyMap) : Node → Prop where
  | mk {n : Node} {kind : String} {names : List Value} (shown : n.kindValue.display = .ok kind)
      (found : keys n.kindValue = .ok names)
      (nodes : ∀ name ∈ names, ∃ ms : List Node, n.branch name = .ok (ms.map .node))
      (each : ∀ name ∈ names, ∀ ms : List Node, n.branch name = .ok (ms.map .node) →
        ∀ m ∈ ms, IsSyntax keys m) : IsSyntax keys n

/-- Walks through lists that stand behind each other are one walk. -/
theorem untilStopped_append {α : Type} (f : α → Walk σ Bool) : ∀ xs ys : List α,
    untilStopped f (xs ++ ys) = do
      let stopped ← untilStopped f xs
      if stopped then return true else untilStopped f ys
  | [], ys => by
    rw [List.nil_append, untilStopped, pure_bind]
    rfl
  | x :: xs, ys => by
    rw [List.cons_append, untilStopped, untilStopped, bind_assoc]
    refine bind_congr fun stopped => ?_
    cases stopped with
    | true => rfl
    | false => exact untilStopped_append f xs ys

theorem untilStopped_flatMap {α β : Type} {f : α → List β} {g : β → Walk σ Bool} : ∀ xs : List α,
    untilStopped g (xs.flatMap f) = untilStopped (fun x => untilStopped g (f x)) xs
  | [] => rfl
  | x :: xs => by
    rw [List.flatMap_cons, untilStopped_append, untilStopped, untilStopped_flatMap xs]

/-- Values that are nodes are all among the nodes. -/
theorem filterMap_nodeAt? : ∀ {vs : List (Value × Position)} {ms : List Node},
    vs.map Prod.fst = ms.map Value.node →
      (vs.filterMap nodeAt?).map Prod.fst = ms ∧
      vs = (vs.filterMap nodeAt?).map fun c => (Value.node c.1, c.2)
  | [], [], _ => ⟨rfl, rfl⟩
  | (v, q) :: vs, m :: ms, h => by
    rw [List.map_cons, List.map_cons] at h
    obtain ⟨rfl, rest⟩ := List.cons.inj h
    obtain ⟨nodes, same⟩ := filterMap_nodeAt? rest
    rw [List.filterMap_cons_some (rfl : nodeAt? (Value.node m, q) = some (m, q))]
    exact ⟨congrArg _ nodes, congrArg _ same⟩

namespace NodeOf.IsSyntax

variable {keys : KeyMap} {n : Node}

theorem shown (h : n.IsSyntax keys) : ∃ kind, n.kindValue.display = .ok kind := by
  obtain ⟨shown, _, _, _⟩ := h
  exact ⟨_, shown⟩

theorem found (h : n.IsSyntax keys) : ∃ names, keys n.kindValue = .ok names := by
  obtain ⟨_, found, _, _⟩ := h
  exact ⟨_, found⟩

/-- What a walk goes on to at an attribute of a syntax tree are nodes. -/
theorem steps (h : n.IsSyntax keys) {names : List Value} (found : keys n.kindValue = .ok names)
    {name : Value} (mem : name ∈ names) (p : Position) :
    ∃ vs, n.steps p name = .ok vs ∧ (∀ c ∈ vs.filterMap nodeAt?, c.1.IsSyntax keys) ∧
      vs = (vs.filterMap nodeAt?).map fun c => (Value.node c.1, c.2) := by
  obtain ⟨_, found', nodes, each⟩ := h
  obtain rfl := Except.ok.inj (found.symm.trans found')
  obtain ⟨ms, branch⟩ := nodes name mem
  have values := n.steps_values p name
  rw [branch] at values
  cases given : n.steps p name with
  | error e =>
    rw [given] at values
    cases values
  | ok vs =>
    rw [given] at values
    obtain ⟨here, same⟩ := filterMap_nodeAt? (Except.ok.inj values)
    refine ⟨vs, rfl, fun c hc => each name mem ms branch c.1 ?_, same⟩
    rw [← here]
    exact List.mem_map_of_mem hc

/-- The children in a syntax tree are syntax trees. -/
theorem children (h : n.IsSyntax keys) (p : Position) : ∀ c ∈ n.children keys p, c.1.IsSyntax keys := by
  intro c hc
  obtain ⟨names, found⟩ := h.found
  rw [NodeOf.children, found] at hc
  obtain ⟨name, mem, hc⟩ := List.mem_flatMap.1 hc
  obtain ⟨vs, given, below, _⟩ := h.steps found mem p
  rw [given] at hc
  exact below c hc

/-- What a walk does at a node of a syntax tree: it enters it, goes on to its children, and leaves it. -/
theorem walk_eq (h : n.IsSyntax keys) (vis : Visitor σ) (p : Position) :
    walk vis keys (.node n) p = do
      match ← vis.reply .enter n p with
      | .stop => return true
      | .skip => return false
      | .go => do
        let stopped ← untilStopped (fun c => walk vis keys (.node c.1) c.2) (n.children keys p)
        if stopped then return true else
          let left ← vis.reply .leave n p
          return left == .stop := by
  rw [walk_at]
  refine bind_congr fun entered => ?_
  cases entered with
  | stop => rfl
  | skip => rfl
  | go =>
    obtain ⟨names, found⟩ := h.found
    rw [found, liftM_ok, pure_bind, NodeOf.children, found]
    refine congrArg (· >>= _) ?_
    rw [untilStopped_flatMap]
    refine untilStopped_congr fun name mem => ?_
    obtain ⟨vs, given, _, same⟩ := h.steps found mem p
    rw [given]
    show untilStopped _ vs = untilStopped _ (vs.filterMap nodeAt?)
    rw [same, untilStopped_map, ← same]

end NodeOf.IsSyntax

/-- A node that goes by a kind is a syntax tree for the usual key map if it holds syntax trees where its kind
has nodes. -/
theorem NodeOf.GoesBy.isSyntax {n : Node} {k : Kind} (kind : n.GoesBy k)
    (holds : ∀ key ∈ k.childKeys, ∃ ms : List Node, n.branch (.word key) = .ok (ms.map .node) ∧
      ∀ m ∈ ms, m.IsSyntax documentKeys) : n.IsSyntax documentKeys := by
  refine .mk kind.kindText (documentKeys_goesBy kind) (fun name mem => ?_) fun name mem ms branch m hm => ?_
  · obtain ⟨key, hkey, rfl⟩ := List.mem_map.1 mem
    obtain ⟨ms, branch, _⟩ := holds key hkey
    exact ⟨ms, branch⟩
  · obtain ⟨key, hkey, rfl⟩ := List.mem_map.1 mem
    obtain ⟨ms', branch', each⟩ := holds key hkey
    have same : ms'.map Value.node = ms.map Value.node := Except.ok.inj (branch'.symm.trans branch)
    obtain rfl := (List.map_inj_right fun _ _ => Value.node.inj).1 same
    exact each m hm

end QueryDefaults
