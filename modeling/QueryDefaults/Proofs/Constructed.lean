import QueryDefaults.Proofs.Spared

/-!
Nodes as they are made. Of what is given for the attributes of a node, data, nodes, rows of nodes and source
locations are kept (`Value.IsConstructed`). A node of such attributes all the way down is a finite tree
(`Store.IsTree`). A tree elsewhere whose nodes have the same attributes, but for the numbers of their data and
by how much those of the nodes differ, equals it (`IsTree.agree`).
-/

namespace QueryDefaults

/-! ### Attributes as they are kept -/

/-- Whether a value is what a new node keeps for an attribute: data, a source location, a node or a row of
nodes. The location of the node itself is no row of nodes. -/
inductive Value.IsConstructed (name : String) : Value → Prop where
  | atom {v : Value} (plain : v.isAtom = true) : IsConstructed name v
  | location {line column : Value} (i : Nat) (first : line.isAtom = true) (second : column.isAtom = true) :
      IsConstructed name (.record .location [line, column] i)
  | node (n : Node) : IsConstructed name (.node n)
  | nodes (ns : List Node) (i : Nat) (other : name ≠ "loc") : IsConstructed name (.tuple (ns.map .node) i)

/-- The nodes that stand in an attribute. -/
def Value.nodes : Value → List Node
  | .node n => [n]
  | .tuple xs _ => xs.filterMap fun
    | .node n => some n
    | _ => none
  | _ => []

theorem Value.nodes_atom {v : Value} (plain : v.isAtom = true) : v.nodes = [] := by
  cases v <;> first | rfl | cases plain

theorem Value.nodes_tuple (ns : List Node) (i : Nat) : (Value.tuple (ns.map .node) i).nodes = ns := by
  induction ns with
  | nil => rfl
  | cons n ns ih => exact congrArg (n :: ·) ih

/-! ### Attributes in pairs -/

theorem exists_related {α β : Type} {R : α → β → Prop} {xs : List α} {ys : List β} (h : List.Forall₂ R xs ys)
    {y : β} (mem : y ∈ ys) : ∃ x ∈ xs, R x y := by
  induction h with
  | nil => cases mem
  | @cons x z _ _ related _ ih =>
    rcases List.mem_cons.1 mem with rfl | mem
    · exact ⟨x, List.mem_cons_self .., related⟩
    · obtain ⟨u, hu, same⟩ := ih mem
      exact ⟨u, List.mem_cons_of_mem _ hu, same⟩

/-- Whether two lists have the same names in the same order, and related values under them. -/
def Aligned (R : Value → Value → Prop) : List (String × Value) → List (String × Value) → Prop :=
  List.Forall₂ fun a b => a.1 = b.1 ∧ R a.2 b.2

section Aligned

variable {R : Value → Value → Prop} {as bs : List (String × Value)}

theorem Aligned.names (h : Aligned R as bs) : as.map Prod.fst = bs.map Prod.fst := by
  induction h with
  | nil => rfl
  | cons both _ ih => rw [List.map_cons, List.map_cons, ih, both.1]

theorem Aligned.mono {Q : Value → Value → Prop} (h : Aligned R as bs)
    (each : ∀ a ∈ as, ∀ w, R a.2 w → Q a.2 w) : Aligned Q as bs := by
  induction h with
  | nil => exact .nil
  | @cons a b _ _ both _ ih =>
    exact .cons ⟨both.1, each a (List.mem_cons_self ..) b.2 both.2⟩
      (ih fun c hc => each c (List.mem_cons_of_mem _ hc))

theorem Aligned.flip (h : Aligned R as bs) : Aligned (fun w v => R v w) bs as := by
  induction h with
  | nil => exact .nil
  | cons both _ ih => exact .cons ⟨both.1.symm, both.2⟩ ih

theorem Aligned.map {Q : Value → Value → Prop} {f g : Value → Value} (h : Aligned R as bs)
    (each : ∀ a ∈ as, ∀ b ∈ bs, R a.2 b.2 → Q (f a.2) (g b.2)) :
    Aligned Q (as.map fun (name, v) => (name, f v)) (bs.map fun (name, v) => (name, g v)) := by
  induction h with
  | nil => exact .nil
  | @cons a b _ _ both _ ih =>
    exact .cons ⟨both.1, each a (List.mem_cons_self ..) b (List.mem_cons_self ..) both.2⟩
      (ih fun c hc d hd => each c (List.mem_cons_of_mem _ hc) d (List.mem_cons_of_mem _ hd))

theorem Aligned.comp {Q S : Value → Value → Prop} {cs : List (String × Value)} (h : Aligned R as bs)
    (g : Aligned S bs cs) (both : ∀ u v w, R u v → S v w → Q u w) : Aligned Q as cs := by
  induction h generalizing cs with
  | nil =>
    cases g
    exact .nil
  | cons first _ ih =>
    cases g with
    | cons second rest => exact .cons ⟨first.1.trans second.1, both _ _ _ first.2 second.2⟩ (ih rest)

theorem Aligned.lookup (h : Aligned R as bs) {name : String} {v : Value} (found : as.lookup name = some v) :
    ∃ w, bs.lookup name = some w ∧ R v w := by
  induction h with
  | nil => cases found
  | @cons a b _ _ both _ ih =>
    obtain ⟨label, w⟩ := b
    obtain ⟨rfl, related⟩ := both
    rw [List.lookup_cons] at found ⊢
    split at found
    · cases found
      exact ⟨w, rfl, related⟩
    · exact ih found

theorem lookup_of_mem {α : Type} {as : List (String × α)} (apart : (as.map Prod.fst).Nodup) {a : String × α}
    (mem : a ∈ as) : as.lookup a.1 = some a.2 := by
  induction as with
  | nil => cases mem
  | cons b as ih =>
    rw [List.map_cons, List.nodup_cons] at apart
    rcases List.mem_cons.1 mem with rfl | mem
    · exact List.lookup_cons_self
    · have other : (a.1 == b.1) = false :=
        beq_eq_false_iff_ne.2 fun same => apart.1 (same ▸ List.mem_map_of_mem mem)
      rw [List.lookup_cons, other]
      exact ih apart.2 mem

end Aligned

theorem NodeOf.IsBuilt.names {n : Node} (built : n.IsBuilt) : n.attrs.map Prod.fst = n.kind.keys := built

/-! ### Values that are equal either way -/

/-- Whether two values are equal, whichever of them is asked. -/
def Value.Agree (v w : Value) : Prop := v.equals w = .ok true ∧ w.equals v = .ok true

namespace Value

variable {v w : Value}

theorem isAtom_renumbered (plain : v.isAtom = true) (same : Store.Renumbers v w) : w.isAtom = true := by
  cases same with
  | same => exact plain
  | int | str => rfl
  | _ => cases plain

theorem equals_renumbered (plain : v.isAtom = true) (same : Store.Renumbers v w) : v.equals w = .ok true := by
  cases same with
  | same => cases v <;> first
    | cases plain; done
    | simp [equals, Value.same, isInt, isText, pure, Except.pure]
  | int | str => simp [equals, isInt, isText, pure, Except.pure]
  | _ => cases plain

theorem Renumbers.symm (h : Store.Renumbers v w) : Store.Renumbers w v := by
  cases h with
  | same plain => exact .same plain
  | int n i j => exact .int n j i
  | str s i j => exact .str s j i
  | tuple xs i j => exact .tuple xs j i
  | record shape xs i j => exact .record shape xs j i

theorem agree_atom (plain : v.isAtom = true) (same : Store.Renumbers v w) : v.Agree w :=
  ⟨equals_renumbered plain same, equals_renumbered (isAtom_renumbered plain same) (Renumbers.symm same)⟩

/-- Rows are equal item by item. -/
theorem equalsAll_ok {xs ys : List Value} (items : List.Forall₂ (fun x y => x.equals y = .ok true) xs ys) :
    equalsAll xs ys = .ok true := by
  induction items with
  | nil => rfl
  | @cons x y xs ys equal _ ih =>
    have first : (if x.same y then return true else x.equals y : Except Fault Bool) = .ok true := by
      split
      · rfl
      · exact equal
    rw [equalsAll, first]
    exact ih

theorem agree_tuple {xs ys : List Value} (items : List.Forall₂ Agree xs ys) (i j : Nat) :
    (Value.tuple xs i).Agree (.tuple ys j) :=
  ⟨equalsAll_ok (items.imp fun _ _ both => both.1), equalsAll_ok (items.flip.imp fun _ _ both => both.2)⟩

theorem agree_record {xs ys : List Value} (items : List.Forall₂ Agree xs ys) (shape : Record) (i j : Nat) :
    (Value.record shape xs i).Agree (.record shape ys j) :=
  ⟨equalsAll_ok (items.imp fun _ _ both => both.1), equalsAll_ok (items.flip.imp fun _ _ both => both.2)⟩

theorem equalsAttrs_ok {kind : Kind} {bs as : List (String × Value)} (each : ∀ a ∈ as, ∃ w,
    bs.lookup a.1 = some w ∧ a.2.equals w = .ok true) : equalsAttrs kind as bs = .ok true := by
  induction as with
  | nil => rfl
  | cons a as ih =>
    have rest := ih fun b hb => each b (List.mem_cons_of_mem _ hb)
    obtain ⟨w, found, equal⟩ := each a (List.mem_cons_self ..)
    rw [equalsAttrs]
    split
    · rw [found]
      show andThen (a.2.equals w) _ = _
      rw [equal]
      exact rest
    · exact rest

/-- Nodes of one kind are equal if their attributes are. -/
theorem equalsNode_ok {n m : Node} (kinds : n.kind = m.kind) (built : n.IsBuilt)
    (parts : Aligned (fun v w => v.equals w = .ok true) n.attrs m.attrs) : equalsNode n m = .ok true := by
  have names := built.names
  have filled : ∀ {as : List (String × Value)}, as.map Prod.fst = n.kind.keys → as.isEmpty = false := by
    intro as same
    cases as with
    | nil => exact absurd same.symm Kind.keys_ne_nil
    | cons => rfl
  have unlisted : n.attrs.lookup "keys" = none := lookup_eq_none (names ▸ Kind.keys_own.1)
  have none : ¬ (n.attrs.isEmpty || m.attrs.isEmpty) = true := by
    simp [filled names, filled (parts.names.symm.trans names)]
  rw [equalsNode, if_pos kinds, if_neg none, unlisted]
  refine equalsAttrs_ok fun a ha => parts.lookup (lookup_of_mem ?_ ha)
  rw [names]
  exact Kind.keys_nodup

theorem agree_node {n m : Node} (kinds : n.kind = m.kind) (built : n.IsBuilt)
    (parts : Aligned Agree n.attrs m.attrs) : (Value.node n).Agree (.node m) := by
  have other : m.IsBuilt := parts.names.symm.trans (built.names.trans (congrArg Kind.keys kinds))
  refine ⟨equalsNode_ok kinds built (parts.mono fun _ _ _ both => both.1), ?_⟩
  exact equalsNode_ok kinds.symm other (parts.flip.mono fun _ _ _ both => both.2)

/-! ### Values that match -/

/-- Whether two values are made alike, but for the numbers of data and rows, with related nodes. -/
inductive Matches (R : Node → Node → Prop) : Value → Value → Prop where
  | atom {v w : Value} (plain : v.isAtom = true) (same : Store.Renumbers v w) : Matches R v w
  | location {line column row place : Value} (i j : Nat) (first : line.isAtom = true)
      (second : column.isAtom = true) (rows : Store.Renumbers line row)
      (places : Store.Renumbers column place) :
      Matches R (.record .location [line, column] i) (.record .location [row, place] j)
  | node {n m : Node} (same : R n m) : Matches R (.node n) (.node m)
  | nodes {ns ms : List Node} (i j : Nat) (same : List.Forall₂ R ns ms) :
      Matches R (.tuple (ns.map .node) i) (.tuple (ms.map .node) j)

theorem IsConstructed.placed {name : String} {xs : List Value} {i : Nat}
    (h : (Value.tuple xs i).IsConstructed name) : name ≠ "loc" := by
  cases h with
  | atom plain => cases plain
  | nodes _ _ other => exact other

theorem Matches.isConstructed {R : Node → Node → Prop} {name : String} (h : v.Matches R w)
    (constructed : v.IsConstructed name) : w.IsConstructed name := by
  cases h with
  | atom plain same => exact .atom (isAtom_renumbered plain same)
  | location i j first second rows places =>
    exact .location j (isAtom_renumbered first rows) (isAtom_renumbered second places)
  | @node n m => exact .node m
  | @nodes ns ms i j => exact .nodes ms j constructed.placed

/-- Each node in what matches a value is related to one in the value. -/
theorem Matches.of_mem {R : Node → Node → Prop} (h : v.Matches R w) {m : Node} (mem : m ∈ w.nodes) :
    ∃ n ∈ v.nodes, R n m := by
  cases h with
  | atom plain same =>
    rw [nodes_atom (isAtom_renumbered plain same)] at mem
    cases mem
  | location => cases mem
  | @node n _ same =>
    obtain rfl := List.mem_singleton.1 mem
    exact ⟨n, List.mem_singleton.2 rfl, same⟩
  | nodes i j same =>
    rw [nodes_tuple] at mem ⊢
    exact exists_related same mem

theorem IsConstructed.matches {name : String} (h : v.IsConstructed name) :
    v.Matches (fun n c => c.id = n.id + 0) v := by
  cases h with
  | atom plain => exact .atom plain (.same plain)
  | location i first second => exact .location i i first second (.same first) (.same second)
  | node n => exact .node rfl
  | nodes ns i => exact .nodes i i (List.forall₂_same.2 fun _ _ => rfl)

end Value

/-! ### Trees -/

namespace Store

/-- Whether the node with a number is a finite tree of nodes with attributes as they are made. -/
inductive IsTree (s : Store) : Nat → Prop where
  | node {i : Nat} {m : Node} (kept : s[i]? = some (.node m)) (own : m.id = i) (built : m.IsBuilt)
      (constructed : ∀ a ∈ m.attrs, a.2.IsConstructed a.1)
      (children : ∀ a ∈ m.attrs, ∀ n ∈ a.2.nodes, IsTree s n.id) : IsTree s i

section IsTree

variable {s g : Store} {i j k : Nat} {v w : Value} {name : String}

/-- A source location leads to no node. -/
theorem not_reaches_location {line column : Value} (i : Nat) (first : line.isAtom = true)
    (second : column.isAtom = true) (j : Nat) : ¬ s.Reaches (.record .location [line, column] i) j := by
  rintro (_ | _ | ⟨_, _, mem, below⟩)
  rcases List.mem_pair.1 mem with rfl | rfl
  · cases below <;> cases first
  · cases below <;> cases second

/-- An attribute leads to what its nodes lead to. -/
theorem reaches_nodes (constructed : v.IsConstructed name) (reached : s.Reaches v j) :
    ∃ n ∈ v.nodes, s.Reaches (nodeAt n.id) j := by
  cases constructed with
  | atom plain => cases reached <;> cases plain
  | location i first second => exact absurd reached (not_reaches_location i first second j)
  | node n => exact ⟨n, List.mem_singleton.2 rfl, reached.renamed rfl⟩
  | nodes ns i =>
    cases reached with
    | item _ mem below =>
      obtain ⟨n, hn, rfl⟩ := List.mem_map.1 mem
      exact ⟨n, (Value.nodes_tuple ns i).symm ▸ hn, below.renamed rfl⟩

/-- What the nodes of an attribute lead to, the attribute leads to. -/
theorem Reaches.of_nodes {n : Node} (mem : n ∈ v.nodes) (reached : s.Reaches (nodeAt n.id) j) :
    s.Reaches v j := by
  cases v with
  | node m =>
    obtain rfl := List.mem_singleton.1 mem
    exact reached.renamed rfl
  | tuple xs i =>
    obtain ⟨x, hx, same⟩ := List.mem_filterMap.1 mem
    cases x with
    | node m =>
      cases same
      exact .item i hx (reached.renamed rfl)
    | _ => cases same
  | _ => cases mem

/-- A source location is the same everywhere. -/
theorem Shows.location {line column : Value} (i : Nat) (first : line.isAtom = true)
    (second : column.isAtom = true) :
    s.Shows (.record .location [line, column] i) (.record .location [line, column] i) := by
  refine .record (f := id) _ _ fun x hx => ?_
  rcases List.mem_pair.1 hx with rfl | rfl
  · exact .atom first
  · exact .atom second

theorem Reaches.root (s : Store) (i : Nat) : s.Reaches (nodeAt i) i := .here ⟨i, .ast, [], none⟩

/-- A node leads to what the nodes in its attributes lead to. -/
theorem Reaches.of_child {m n : Node} {a : String × Value} (kept : s[i]? = some (.node m)) (mem : a ∈ m.attrs)
    (child : n ∈ a.2.nodes) (reached : s.Reaches (nodeAt n.id) j) : s.Reaches (nodeAt i) j :=
  .attr (n := ⟨i, .ast, [], none⟩) kept mem (.of_nodes child reached)

/-- An attribute of trees unfolds. -/
theorem Shows.constructed (constructed : v.IsConstructed name)
    (children : ∀ n ∈ v.nodes, s.Shows (nodeAt n.id) (s.view (nodeAt n.id))) : s.Shows v (s.view v) := by
  have whole : ∀ {w}, s.Shows v w → s.Shows v (s.view v) := fun h => h.view.symm ▸ h
  cases constructed with
  | atom plain => exact whole (.atom plain)
  | location i first second => exact whole (.location i first second)
  | node n => exact whole ((children n (List.mem_singleton.2 rfl)).renamed rfl)
  | nodes ns i =>
    refine whole (.tuple (f := s.view) i fun x hx => ?_)
    obtain ⟨n, hn, rfl⟩ := List.mem_map.1 hx
    have shows := (children n ((Value.nodes_tuple ns i).symm ▸ hn)).renamed (m := n) rfl
    exact shows.view.symm ▸ shows

theorem IsTree.shows (h : s.IsTree i) : s.Shows (nodeAt i) (s.view (nodeAt i)) := by
  induction h with
  | @node i m kept own built constructed _ ih =>
    have tree : s.Shows (nodeAt i) _ := .node (n := ⟨i, .ast, [], none⟩) (f := s.view) kept fun a ha =>
      .constructed (constructed a ha) (ih a ha)
    exact tree.view.symm ▸ tree

/-- A node with its attributes as they are seen. -/
def seen (s : Store) (m : Node) : Node := { m with attrs := m.attrs.map fun (name, v) => (name, s.view v) }

theorem seen_isBuilt {m : Node} (built : m.IsBuilt) : (s.seen m).IsBuilt := by
  rw [NodeOf.IsBuilt, Store.seen, List.map_map]
  exact built

theorem view_seen {m : Node} (kept : s[i]? = some (.node m))
    (constructed : ∀ a ∈ m.attrs, a.2.IsConstructed a.1)
    (children : ∀ a ∈ m.attrs, ∀ n ∈ a.2.nodes, s.IsTree n.id) : s.view (nodeAt i) = .node (s.seen m) :=
  view_node (n := ⟨i, .ast, [], none⟩) kept fun a ha =>
    .constructed (constructed a ha) fun n hn => (children a ha n hn).shows

/-- What is seen of a tree. -/
theorem IsTree.view (h : s.IsTree i) : ∃ m : Node, s[i]? = some (.node m) ∧ m.id = i ∧ m.IsBuilt ∧
    (∀ a ∈ m.attrs, a.2.IsConstructed a.1 ∧ ∀ n ∈ a.2.nodes, s.IsTree n.id) ∧
    s.view (nodeAt i) = .node (s.seen m) := by
  cases h with
  | @node _ m kept own built constructed children =>
    exact ⟨m, kept, own, built, fun a ha => ⟨constructed a ha, children a ha⟩,
      view_seen kept constructed children⟩

/-- A tree leads to nodes of the store. -/
theorem IsTree.reaches (h : s.IsTree i) (reached : s.Reaches (nodeAt i) j) : s.IsTree j := by
  induction h with
  | node kept own built constructed children ih =>
    cases reached with
    | here => exact .node kept own built constructed children
    | attr again mem below =>
      cases kept.symm.trans again
      obtain ⟨n, hn, further⟩ := reaches_nodes (constructed _ mem) below
      exact ih _ mem n hn further

theorem exists_nodes {xs : List Value} (each : ∀ x ∈ xs, ∃ n, x = .node n) :
    ∃ ns : List Node, xs = ns.map .node := by
  induction xs with
  | nil => exact ⟨[], rfl⟩
  | cons x xs ih =>
    obtain ⟨n, rfl⟩ := each x (List.mem_cons_self ..)
    obtain ⟨ns, rfl⟩ := ih fun y hy => each y (List.mem_cons_of_mem _ hy)
    exact ⟨n :: ns, rfl⟩

/-- An attribute of trees is seen as what a new node keeps. -/
theorem view_constructed (constructed : v.IsConstructed name) (children : ∀ n ∈ v.nodes, s.IsTree n.id) :
    (s.view v).IsConstructed name := by
  have child : ∀ n ∈ v.nodes, s.Shows (.node n) (s.view (.node n)) ∧ ∃ k, s.view (.node n) = .node k := by
    intro n hn
    have tree := (children n hn).shows.renamed (m := n) rfl
    obtain ⟨m, -, -, -, -, seen⟩ := (children n hn).view
    exact ⟨tree.view.symm ▸ tree, _, tree.view.trans seen⟩
  cases constructed with
  | atom plain =>
    rw [view_atom plain]
    exact .atom plain
  | location i first second =>
    rw [(Shows.location i first second).view]
    exact .location i first second
  | node n =>
    obtain ⟨-, k, seen⟩ := child n (List.mem_singleton.2 rfl)
    rw [seen]
    exact .node k
  | nodes ns i other =>
    rw [Value.nodes_tuple] at child
    rw [view_tuple i fun x hx => by
      obtain ⟨n, hn, rfl⟩ := List.mem_map.1 hx
      exact (child n hn).1]
    have each : ∀ x ∈ (ns.map Value.node).map s.view, ∃ k, x = .node k := fun x hx => by
      rw [List.map_map] at hx
      obtain ⟨n, hn, rfl⟩ := List.mem_map.1 hx
      exact (child n hn).2
    obtain ⟨ks, same⟩ := exists_nodes each
    rw [same]
    exact .nodes ks i other

/-! ### Trees that match -/

/-- Whether each node below a number has one that matches it elsewhere, with a greater number by `k`. -/
def Mirrors (s g : Store) (k i : Nat) : Prop :=
  ∀ j m, s.Reaches (nodeAt i) j → s[j]? = some (.node m) → ∃ bs d,
    g[j + k]? = some (.node ⟨j + k, m.kind, bs, d⟩) ∧
      Aligned (Value.Matches fun n c => c.id = n.id + k) m.attrs bs

theorem Mirrors.child (h : s.Mirrors g k i) {m n : Node} {a : String × Value} (kept : s[i]? = some (.node m))
    (mem : a ∈ m.attrs) (child : n ∈ a.2.nodes) : s.Mirrors g k n.id :=
  fun j l reached found => h j l (reached.of_child kept mem child) found

/-- Attributes that match are equal if their nodes are. -/
theorem agree_matches (same : v.Matches (fun n c => c.id = n.id + k) w)
    (children : ∀ n ∈ v.nodes, s.Shows (nodeAt n.id) (s.view (nodeAt n.id)) ∧
      g.Shows (nodeAt (n.id + k)) (g.view (nodeAt (n.id + k))) ∧
        (s.view (nodeAt n.id)).Agree (g.view (nodeAt (n.id + k)))) :
    g.Shows w (g.view w) ∧ (s.view v).Agree (g.view w) := by
  have whole : ∀ {x u}, g.Shows x u → g.Shows x (g.view x) := fun h => h.view.symm ▸ h
  -- A node stands for the one with its number.
  have child : ∀ {n c : Node}, n ∈ v.nodes → c.id = n.id + k →
      g.Shows (.node c) (g.view (.node c)) ∧ (s.view (.node n)).Agree (g.view (.node c)) := by
    intro n c hn number
    obtain ⟨shows, other, agree⟩ := children n hn
    have there := shows.renamed (m := n) rfl
    have here := other.renamed (m := c) number.symm
    rw [there.view, here.view]
    exact ⟨here, agree⟩
  cases same with
  | atom plain same =>
    have other := Value.isAtom_renumbered plain same
    rw [view_atom plain, view_atom other]
    exact ⟨.atom other, Value.agree_atom plain same⟩
  | location i j first second rows places =>
    have here := Shows.location (s := s) i first second
    have there := Shows.location (s := g) j (Value.isAtom_renumbered first rows)
      (Value.isAtom_renumbered second places)
    rw [here.view, there.view]
    exact ⟨there, Value.agree_record
      (.cons (Value.agree_atom first rows) (.cons (Value.agree_atom second places) .nil)) _ i j⟩
  | node same => exact child (List.mem_singleton.2 rfl) same
  | @nodes ns cs i j same =>
    rw [Value.nodes_tuple] at child children
    have each : List.Forall₂ (fun n c => g.Shows (.node c) (g.view (.node c)) ∧
        (s.view (.node n)).Agree (g.view (.node c))) ns cs :=
      ((List.forall₂_and_left _ _).2 ⟨fun _ hn => hn, same⟩).imp fun _ _ both => child both.1 both.2
    have here : ∀ x ∈ ns.map Value.node, s.Shows x (s.view x) := fun x hx => by
      obtain ⟨n, hn, rfl⟩ := List.mem_map.1 hx
      have shows := (children n hn).1.renamed (m := n) rfl
      exact shows.view.symm ▸ shows
    have there : ∀ x ∈ cs.map Value.node, g.Shows x (g.view x) := fun x hx => by
      obtain ⟨c, hc, rfl⟩ := List.mem_map.1 hx
      obtain ⟨n, -, shows, -⟩ := exists_related each hc
      exact shows
    rw [view_tuple i here, view_tuple j there]
    refine ⟨view_tuple (s := g) j there ▸ .tuple j there, Value.agree_tuple ?_ i j⟩
    rw [List.map_map, List.map_map, List.forall₂_map_left_iff, List.forall₂_map_right_iff]
    exact each.imp fun _ _ both => both.2

/-- A tree equals one that mirrors it. -/
theorem IsTree.agree (h : s.IsTree i) (mirrors : s.Mirrors g k i) :
    g.Shows (nodeAt (i + k)) (g.view (nodeAt (i + k))) ∧
      (s.view (nodeAt i)).Agree (g.view (nodeAt (i + k))) := by
  induction h with
  | @node i m kept own built constructed children ih =>
    obtain ⟨bs, d, there, pairs⟩ := mirrors i m (.root s i) kept
    have below : ∀ a ∈ m.attrs, ∀ w, a.2.Matches (fun n c => c.id = n.id + k) w →
        g.Shows w (g.view w) ∧ (s.view a.2).Agree (g.view w) := fun a ha w same =>
      agree_matches same fun n hn => ⟨(children a ha n hn).shows, ih a ha n hn (mirrors.child kept ha hn)⟩
    have shown : ∀ b ∈ bs, g.Shows b.2 (g.view b.2) := fun b hb => by
      obtain ⟨a, ha, -, same⟩ := exists_related pairs hb
      exact (below a ha b.2 same).1
    have tree : g.Shows (nodeAt (i + k)) _ := .node (n := ⟨i + k, .ast, [], none⟩) (f := g.view) there shown
    rw [tree.view]
    refine ⟨tree, ?_⟩
    rw [view_seen kept constructed children]
    exact Value.agree_node rfl (seen_isBuilt built) (pairs.map fun a ha b hb same => (below a ha b.2 same).2)

/-- What mirrors a tree is a tree. -/
theorem IsTree.mirror (h : s.IsTree i) (mirrors : s.Mirrors g k i) : g.IsTree (i + k) := by
  induction h with
  | @node i m kept own built constructed children ih =>
    obtain ⟨bs, d, there, pairs⟩ := mirrors i m (.root s i) kept
    refine .node there rfl (pairs.names.symm.trans built) (fun b hb => ?_) fun b hb c hc => ?_
    · obtain ⟨a, ha, name, same⟩ := exists_related pairs hb
      exact name ▸ same.isConstructed (constructed a ha)
    · obtain ⟨a, ha, -, same⟩ := exists_related pairs hb
      obtain ⟨n, hn, number⟩ := same.of_mem hc
      rw [number]
      exact ih a ha n hn (mirrors.child kept ha hn)

/-- A tree mirrors itself wherever its nodes are the same. -/
theorem IsTree.mirrors (h : s.IsTree i) (same : ∀ j m, s.Reaches (nodeAt i) j → s[j]? = some (.node m) →
    g[j]? = some (.node m)) : s.Mirrors g 0 i := by
  intro j m reached found
  obtain ⟨m', kept, own, built, parts, -⟩ := (h.reaches reached).view
  cases found.symm.trans kept
  refine ⟨m.attrs, m.digest, own ▸ same j m reached found, ?_⟩
  have refl : ∀ {as : List (String × Value)}, (∀ a ∈ as, a.2.IsConstructed a.1) →
      Aligned (Value.Matches fun n c => c.id = n.id + 0) as as := by
    intro as
    induction as with
    | nil => exact fun _ => .nil
    | cons a as ih =>
      intro constructed
      exact .cons ⟨rfl, (constructed a (List.mem_cons_self ..)).matches⟩
        (ih fun b hb => constructed b (List.mem_cons_of_mem _ hb))
  exact refl fun a ha => (parts a ha).1

/-- An attribute of trees equals itself. -/
theorem agree_self (constructed : v.IsConstructed name) (children : ∀ n ∈ v.nodes, s.IsTree n.id) :
    (s.view v).Agree (s.view v) :=
  (agree_matches constructed.matches fun n hn => by
    obtain ⟨shows, agree⟩ := (children n hn).agree ((children n hn).mirrors fun _ _ _ found => found)
    exact ⟨(children n hn).shows, shows, agree⟩).2

end IsTree
end Store
end QueryDefaults
