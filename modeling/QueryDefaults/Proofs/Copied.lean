import QueryDefaults.Proofs.Constructed
import QueryDefaults.Session.Copies

/-!
Copies of nodes. A copy is a node made anew from the attributes of another one, so each of them has to be one
that making a node keeps as it is (`NodeOf.again_constructed`). A deep copy of a tree goes through all of its
nodes; each gets a number that is greater by one and the same amount, so what is put into the store mirrors
the tree (`IsTree.deepCopy`).
-/

namespace QueryDefaults

/-! ### Nodes made anew -/

/-- Whether a value is another one, or the same source location made anew. -/
inductive Value.Reforms : Value → Value → Prop where
  | same (v : Value) : Reforms v v
  | location (line column : Value) (i j : Nat) :
      Reforms (.record .location [line, column] i) (.record .location [line, column] j)

theorem keptForm_constructed {name : String} {v : Value} (h : v.IsConstructed name) :
    ∃ w, keptForm name v = .ok w ∧ v.Reforms w := by
  cases h with
  | atom plain =>
    refine ⟨v, ?_, .same v⟩
    cases v <;> first | rfl | cases plain
  | @location line column i =>
    by_cases place : name = "loc"
    · exact ⟨_, by rw [keptForm, if_pos place]; rfl, .location line column i 0⟩
    · exact ⟨_, by rw [keptForm, if_neg place], .same _⟩
  | node n => exact ⟨_, rfl, .same _⟩
  | nodes ns i other => exact ⟨_, by rw [keptForm, if_neg other], .same _⟩

/-- The names that arguments of a constructor and methods of a copy go by are not those of attributes. -/
theorem Kind.keys_free {kind : Kind} : "self" ∉ kind.keys ∧ "__deepcopy__" ∉ kind.keys :=
  forall_keys (P := fun keys => "self" ∉ keys ∧ "__deepcopy__" ∉ keys) (by decide) kind

namespace NodeOf

variable {kind : Kind} {given : List (String × Value)} {n : Node}

/-- The attributes of a new node, one by one. -/
theorem attributes_constructed {as : List (String × Value)} (constructed : ∀ a ∈ as, a.2.IsConstructed a.1)
    (found : ∀ a ∈ as, given.lookup a.1 = some a.2) : ∃ bs, (as.map Prod.fst).mapM (fun key => do
        let v ← keptForm key ((given.lookup key).getD .null)
        return (key, v)) = .ok bs ∧ Aligned Value.Reforms as bs := by
  induction as with
  | nil => exact ⟨[], rfl, .nil⟩
  | cons a as ih =>
    obtain ⟨bs, rest, pairs⟩ := ih (fun b hb => constructed b (List.mem_cons_of_mem _ hb))
      fun b hb => found b (List.mem_cons_of_mem _ hb)
    obtain ⟨w, form, same⟩ := keptForm_constructed (constructed a (List.mem_cons_self ..))
    refine ⟨(a.1, w) :: bs, ?_, .cons ⟨rfl, same⟩ pairs⟩
    rw [List.map_cons, List.mapM_cons, found a (List.mem_cons_self ..), Option.getD_some, form, rest]
    rfl

/-- A node is made anew from what a node of its kind keeps. -/
theorem again_constructed (names : given.map Prod.fst = kind.keys)
    (constructed : ∀ a ∈ given, a.2.IsConstructed a.1) :
    ∃ bs, NodeOf.again kind given = .ok ⟨0, kind, bs, none⟩ ∧ Aligned Value.Reforms given bs := by
  obtain ⟨bs, made, pairs⟩ :=
    attributes_constructed constructed fun a ha => lookup_of_mem (names ▸ Kind.keys_nodup) ha
  refine ⟨bs, ?_, pairs⟩
  rw [again, lookup_eq_none (names ▸ Kind.keys_free.1)]
  show NodeOf.build kind given = _
  rw [NodeOf.build, Kind.attributes, ← names, made]
  rfl

theorem keysValue_toList (built : n.IsBuilt) : n.keysValue.toList = .ok (n.kind.keys.map .word) := by
  rw [keysValue, lookup_eq_none (built.names ▸ Kind.keys_own.1)]
  exact congrArg Except.ok (val_pmap _)

theorem attr_of_mem (built : n.IsBuilt) {a : String × Value} (mem : a ∈ n.attrs) : n.attr a.1 = .ok a.2 :=
  attr_of_lookup (lookup_of_mem (built.names ▸ Kind.keys_nodup) mem)

theorem listed_attrs {as : List (String × Value)} (found : ∀ a ∈ as, n.attr a.1 = .ok a.2) :
    ((as.map Prod.fst).map Value.word).mapM (fun key => do
      let name ← key.attributeName
      let v ← n.attr name
      return (name, v)) = .ok as := by
  induction as with
  | nil => rfl
  | cons a as ih =>
    have rest := ih fun b hb => found b (List.mem_cons_of_mem _ hb)
    rw [List.map_cons, List.map_cons, List.mapM_cons, rest]
    show ((n.attr a.1 >>= fun v => pure (a.1, v)) >>= fun b => pure (b :: as)) = _
    rw [found a (List.mem_cons_self ..)]
    rfl

/-- A node lists all attributes of its kind. -/
theorem listed_built (built : n.IsBuilt) : n.listed = .ok n.attrs := by
  rw [listed, keysValue_toList built, ok_bind, ← built.names]
  exact listed_attrs fun a ha => attr_of_mem built ha

end NodeOf

/-! ### Shallow copies -/

/-- A shallow copy of a tree is a new node with the very attributes of its root, but for the source location,
and is equal to it. -/
theorem SessionM.copyOf_tree {s : Store} {i : Nat} (h : s.IsTree i) (st : Session) :
    ∃ (n : Node) (bs : List (String × Value)), s.view (Store.nodeAt i) = .node n ∧ n.IsBuilt ∧
      (copyOf (.node n)).run.run st = (.ok (.node ⟨0, n.kind, bs, none⟩), st) ∧
      Aligned Value.Reforms n.attrs bs ∧ (Value.node n).Agree (.node ⟨0, n.kind, bs, none⟩) := by
  obtain ⟨m, -, -, built, parts, seen⟩ := h.view
  have whole := Store.seen_isBuilt (s := s) built
  have constructed : ∀ a ∈ (s.seen m).attrs, a.2.IsConstructed a.1 ∧ a.2.Agree a.2 := fun b hb => by
    obtain ⟨a, ha, rfl⟩ := List.mem_map.1 hb
    obtain ⟨kept, children⟩ := parts a ha
    exact ⟨Store.view_constructed kept children, Store.agree_self kept children⟩
  obtain ⟨bs, made, pairs⟩ := NodeOf.again_constructed whole fun a ha => (constructed a ha).1
  have copied : (s.seen m).copy = .ok ⟨0, m.kind, bs, none⟩ := by
    rw [NodeOf.copy, NodeOf.listed_built whole, ok_bind]
    exact made
  refine ⟨_, bs, seen, whole, ?_, pairs,
    Value.agree_node rfl whole (pairs.mono fun a ha w same => ?_)⟩
  · rw [copyOf, copied]
    rfl
  · obtain ⟨kept, self⟩ := constructed a ha
    generalize a.2 = v at same kept self
    cases same with
    | same => exact self
    | location line column i j =>
      cases kept with
      | atom plain => cases plain
      | location _ first second =>
        exact Value.agree_record (.cons (Value.agree_atom first (.same first))
          (.cons (Value.agree_atom second (.same second)) .nil)) _ i j

/-! ### Deep copies -/

section Deep

variable {apply : Application} {shift : Shift} {met : Copied}

theorem run_bind_met {α β : Type} {m : CopyM α} {a : α} (h : m.run met = .ok (a, met)) (f : α → CopyM β) :
    (m >>= f).run met = (f a).run met := by
  rw [StateT.run_bind, h]
  rfl

theorem copiersOf_eq_map (as : List (String × Value)) :
    copiersOf apply shift as = as.map fun (name, v) => (name, v.deepCopy apply shift) := by
  induction as with
  | nil => rfl
  | cons a as ih =>
    obtain ⟨name, v⟩ := a
    rw [copiersOf, ih]
    rfl

/-- The attributes of a node are copied one by one. -/
theorem deepCopy_attrs {n : Node} (built : n.IsBuilt) {as ws : List (String × Value)}
    (pairs : Aligned (fun v w => (v.deepCopy apply shift).run met = .ok (w, met)) as ws)
    (among : ∀ a ∈ as, a ∈ n.attrs) : (((as.map Prod.fst).map Value.word).mapM (fun key => do
      let name ← key.attributeName
      let v ← n.attr name
      let w ← ((copiersOf apply shift n.attrs).lookup name).getD (pure v)
      return (name, w) : Value → CopyM (String × Value))).run met = .ok (ws, met) := by
  induction pairs with
  | nil => rfl
  | @cons a b as ws both _ ih =>
    obtain ⟨name, w⟩ := b
    obtain ⟨rfl, run⟩ := both
    have mem := among a (List.mem_cons_self ..)
    have rest := ih fun c hc => among c (List.mem_cons_of_mem _ hc)
    have attr : (liftM (n.attr a.1) : CopyM Value).run met = .ok (a.2, met) := by
      rw [NodeOf.attr_of_mem built mem]
      rfl
    have copy : (copiersOf apply shift n.attrs).lookup a.1 = some (a.2.deepCopy apply shift) := by
      rw [copiersOf_eq_map, Store.lookup_map, lookup_of_mem (built.names ▸ Kind.keys_nodup) mem]
      rfl
    have first : (do
        let name ← (Value.word a.1).attributeName
        let v ← n.attr name
        let w ← ((copiersOf apply shift n.attrs).lookup name).getD (pure v)
        return (name, w) : CopyM (String × Value)).run met = .ok ((a.1, w), met) := by
      refine (run_bind_met (a := a.1) rfl _).trans ((run_bind_met attr _).trans ?_)
      rw [copy]
      exact (run_bind_met run _).trans rfl
    rw [List.map_cons, List.map_cons, List.mapM_cons]
    exact (run_bind_met first _).trans ((run_bind_met rest _).trans rfl)

/-- A deep copy of a node is made anew from the copies of its attributes. -/
theorem deepCopy_node {n : Node} (built : n.IsBuilt) {copies bs : List (String × Value)}
    (pairs : Aligned (fun v w => (v.deepCopy apply shift).run met = .ok (w, met)) n.attrs copies)
    (made : NodeOf.again n.kind copies = .ok ⟨0, n.kind, bs, none⟩) :
    ((Value.node n).deepCopy apply shift).run met =
      .ok (.node ⟨n.id + shift.objects, n.kind, bs, none⟩, met) := by
  have again : (liftM (NodeOf.again n.kind copies) : CopyM Node).run met =
      .ok (⟨0, n.kind, bs, none⟩, met) := by
    rw [made]
    rfl
  have keys : (liftM n.keysValue.toList : CopyM (List Value)).run met =
      .ok ((n.attrs.map Prod.fst).map .word, met) := by
    rw [NodeOf.keysValue_toList built, ← built.names]
    rfl
  have given := deepCopy_attrs built pairs fun _ ha => ha
  have copier : n.copier? = none := by
    rw [NodeOf.copier?, lookup_eq_none (built.names ▸ Kind.keys_free.2)]
  obtain ⟨id, kind, attrs, digest⟩ := n
  rw [Value.deepCopy, deepCopyNode]
  dsimp only
  rw [copier]
  exact (run_bind_met keys _).trans ((run_bind_met given _).trans ((run_bind_met again _).trans rfl))

end Deep

end QueryDefaults
