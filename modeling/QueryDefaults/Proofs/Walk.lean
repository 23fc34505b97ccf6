import QueryDefaults.Proofs.Literal
import QueryDefaults.Validation.Document

/-!
Walks step by step. What a walk does at a node is what the visitor answers there and the walks through the
values of its attributes, each from a place of its own (`walk_at`). The answers of the rule do not depend on
where a node is, so a walk of it is the same from every place (`walk_still`, `walk_node`). For the nodes of a
document this comes to very little: a definition is passed over, an operation is entered and its variable
definitions are walked through, and a document is walked through definition by definition
(`through_document`).
-/

namespace QueryDefaults

variable {σ α β : Type}

/-! ### Runs -/

namespace Walk

/-- What a walk comes to from a state: its result, and the state that it leaves. -/
def exec (m : Walk σ α) (st : σ) : Except Fault α × σ := m.run.run st

theorem exec_pure (a : α) (st : σ) : exec (pure a : Walk σ α) st = (.ok a, st) := rfl

theorem exec_liftM (r : Except Fault α) (st : σ) : exec (liftM r : Walk σ α) st = (r, st) := by
  cases r <;> rfl

theorem exec_bind (m : Walk σ α) (f : α → Walk σ β) (st : σ) :
    exec (m >>= f) st =
      match exec m st with
      | (.ok a, st') => exec (f a) st'
      | (.error e, st') => (.error e, st') := by
  rw [exec, exec, ExceptT.run_bind, StateT.run_bind]
  show (match (ExceptT.run m).run st with | (r, st') => _) = _
  rcases (ExceptT.run m).run st with ⟨_ | _, _⟩ <;> rfl

theorem exec_bind_ok {m : Walk σ α} {st st' : σ} {a : α} (h : exec m st = (.ok a, st'))
    (f : α → Walk σ β) : exec (m >>= f) st = exec (f a) st' := by
  rw [exec_bind, h]

theorem exec_bind_error {m : Walk σ α} {st st' : σ} {e : Fault} (h : exec m st = (.error e, st'))
    (f : α → Walk σ β) : exec (m >>= f) st = (.error e, st') := by
  rw [exec_bind, h]

theorem exec_get_bind (f : σ → Walk σ α) (st : σ) : exec (get >>= f) st = exec (f st) st := rfl

end Walk

/-! ### Going through lists -/

theorem untilStopped_congr {f g : α → Walk σ Bool} :
    ∀ {xs : List α}, (∀ x ∈ xs, f x = g x) → untilStopped f xs = untilStopped g xs
  | [], _ => rfl
  | x :: xs, h => by
    rw [untilStopped, untilStopped, h x (List.mem_cons_self ..),
      untilStopped_congr fun y hy => h y (List.mem_cons_of_mem _ hy)]

theorem untilStopped_map {f : β → Walk σ Bool} {g : α → β} :
    ∀ xs : List α, untilStopped f (xs.map g) = untilStopped (fun x => f (g x)) xs
  | [] => rfl
  | x :: xs => by
    rw [List.map_cons, untilStopped, untilStopped, untilStopped_map xs]

theorem untilStopped_singleton {f : α → Walk σ Bool} (x : α) : untilStopped f [x] = f x := by
  rw [untilStopped]
  refine Eq.trans (bind_congr fun stopped => ?_) (bind_pure (f x))
  cases stopped <;> rfl

/-- The items of a tuple are walked through in their order. -/
theorem untilStopped_items {p : Value → Prop} {f : { v : Value // p v } × Nat → Walk σ Bool}
    {g : Value × Nat → Walk σ Bool} {items : List { v : Value // p v }} {xs : List Value}
    (all : items.map (·.val) = xs) (h : ∀ v hv i, f (⟨v, hv⟩, i) = g (v, i)) :
    untilStopped f items.zipIdx = untilStopped g xs.zipIdx := by
  rw [← all, List.zipIdx_map, untilStopped_map]
  exact untilStopped_congr fun x _ => h x.1.val x.1.property x.2

/-! ### Walks from any place -/

theorem liftM_ok (a : α) : (liftM (Except.ok a : Except Fault α) : Walk σ α) = pure a := rfl

/-- The values that a walk goes on to at an attribute: nothing if it is null, the items of a tuple, or the
attribute itself. -/
def Value.branches : Value → List Value
  | .null => []
  | .tuple xs _ | .record _ xs _ => xs
  | v => [v]

/-- The values that a walk goes on to at the attribute of a name. -/
def NodeOf.branch (n : Node) (name : Value) : Except Fault (List Value) := do
  let key ← name.attributeName
  match n.attrs.lookup key with
  | some v => return v.branches
  | none =>
    match n.attr? key with
    | some v => throw (.refused .node v)
    | none => return []

theorem NodeOf.branch_of_lookup {n : Node} {name : String} {v : Value}
    (h : n.attrs.lookup name = some v) : n.branch (.word name) = .ok v.branches := by
  rw [NodeOf.branch, Value.word, Value.attributeName, ok_bind, h]
  rfl

theorem NodeOf.part?_eq_none {n : Node} {name : String} (h : n.attrs.lookup name = none) :
    n.part? name = none := by
  unfold NodeOf.part?
  split
  · next v hv =>
    rw [h] at hv
    cases hv
  · rfl

/-- The values that a walk goes on to from an attribute at a place, with their own places. -/
def Value.stepsFrom (v : Value) (q : Position) : List (Value × Position) :=
  match v with
  | .null => []
  | .tuple xs _ | .record _ xs _ => xs.zipIdx.map fun (x, i) => (x, q.down v (.index i))
  | v => [(v, q)]

/-- The values that a walk goes on to at the attribute of a name of a node at a place, with their places. -/
def NodeOf.steps (n : Node) (p : Position) (name : Value) : Except Fault (List (Value × Position)) := do
  let key ← name.attributeName
  match n.attrs.lookup key with
  | some v => return v.stepsFrom (p.down (.node n) (.key key))
  | none =>
    match n.attr? key with
    | some v => throw (.refused .node v)
    | none => return []

theorem Value.stepsFrom_values (v : Value) (q : Position) : (v.stepsFrom q).map Prod.fst = v.branches := by
  cases v with
  | null => rfl
  | tuple xs i =>
    rw [stepsFrom, List.map_map]
    exact List.zipIdx_map_fst 0 xs
  | record shape xs i =>
    rw [stepsFrom, List.map_map]
    exact List.zipIdx_map_fst 0 xs
  | _ => rfl

/-- Without their places, these are the branches of the node. -/
theorem NodeOf.steps_values (n : Node) (p : Position) (name : Value) :
    (n.steps p name).map (List.map Prod.fst) = n.branch name := by
  rw [NodeOf.steps, NodeOf.branch]
  cases name.attributeName with
  | error e => rfl
  | ok key =>
    rw [ok_bind, ok_bind]
    cases n.attrs.lookup key with
    | some v => exact congrArg Except.ok (v.stepsFrom_values _)
    | none => cases n.attr? key <;> rfl

/-- What a walk does at a node: it enters it, goes on to every value at the attributes in the order of the
key map, and leaves it. -/
theorem walk_at {vis : Visitor σ} {keys : KeyMap} (n : Node) (p : Position) :
    walk vis keys (.node n) p = do
      match ← vis.reply .enter n p with
      | .stop => return true
      | .skip => return false
      | .go => do
        let names ← keys n.kindValue
        let stopped ← untilStopped (fun name => do
          let vs ← n.steps p name
          untilStopped (fun c => walk vis keys c.1 c.2) vs) names
        if stopped then return true else
          let left ← vis.reply .leave n p
          return left == .stop := by
  rw [walk]
  refine bind_congr fun entered => ?_
  cases entered with
  | stop => rfl
  | skip => rfl
  | go =>
    refine bind_congr fun names => ?_
    refine congrArg (· >>= _) (untilStopped_congr fun name _ => ?_)
    rw [NodeOf.steps]
    cases name.attributeName with
    | error e => rfl
    | ok key =>
      simp only [liftM_ok, pure_bind, ok_bind]
      cases h : n.attrs.lookup key with
      | none =>
        rw [NodeOf.part?_eq_none h]
        cases n.attr? key <;> rfl
      | some child =>
        rw [NodeOf.part?_eq_some h]
        cases child with
        | null => rfl
        | tuple xs i =>
          refine Eq.trans ?_
            (untilStopped_map (f := fun c : Value × Position => walk vis keys c.1 c.2) xs.zipIdx).symm
          exact untilStopped_items (val_pmap _) fun v hv i => rfl
        | record shape xs i =>
          refine Eq.trans ?_
            (untilStopped_map (f := fun c : Value × Position => walk vis keys c.1 c.2) xs.zipIdx).symm
          exact untilStopped_items (val_pmap _) fun v hv i => rfl
        | _ => exact (untilStopped_singleton _).symm

/-- What a walk goes on to at a node comes from one of its attributes. -/
theorem NodeOf.steps_cases {n : Node} {p : Position} {name : Value} {vs : List (Value × Position)}
    (h : n.steps p name = .ok vs) :
    vs = [] ∨ ∃ key w, n.attrs.lookup key = some w ∧ vs = w.stepsFrom (p.down (.node n) (.key key)) := by
  rw [NodeOf.steps] at h
  cases key : name.attributeName with
  | error e =>
    rw [key] at h
    cases h
  | ok key' =>
    rw [key, ok_bind] at h
    cases attr : n.attrs.lookup key' with
    | some w =>
      rw [attr] at h
      exact .inr ⟨key', w, attr, (Except.ok.inj h).symm⟩
    | none =>
      rw [attr] at h
      cases own : n.attr? key' with
      | some w =>
        rw [own] at h
        cases h
      | none =>
        rw [own] at h
        exact .inl (Except.ok.inj h).symm

theorem Value.branches_height {v w : Value} (h : w ∈ v.branches) : w.height ≤ v.height := by
  cases v with
  | null => cases h
  | tuple xs i => exact Nat.le_succ_of_le (height_le_of_mem h)
  | record shape xs i => exact Nat.le_succ_of_le (height_le_of_mem h)
  | _ =>
    obtain rfl := List.mem_singleton.1 h
    exact Nat.le_refl _

/-- What a walk goes on to at a node is lower than the node. -/
theorem NodeOf.steps_height {n : Node} {p : Position} {name : Value} {vs : List (Value × Position)}
    (h : n.steps p name = .ok vs) {c : Value × Position} (hc : c ∈ vs) : c.1.height < n.height := by
  rcases NodeOf.steps_cases h with rfl | ⟨key, w, attr, rfl⟩
  · cases hc
  · have branch : c.1 ∈ w.branches := w.stepsFrom_values _ ▸ List.mem_map_of_mem hc
    exact Nat.lt_of_le_of_lt (Value.branches_height branch) (NodeOf.height_lt_of_lookup attr)

theorem NodeOf.branch_height {n : Node} {name v : Value} {vs : List Value} (h : n.branch name = .ok vs)
    (hv : v ∈ vs) : v.height < n.height := by
  rw [← n.steps_values .root] at h
  cases steps : n.steps .root name with
  | error e =>
    rw [steps] at h
    cases h
  | ok cs =>
    rw [steps] at h
    obtain rfl : cs.map Prod.fst = vs := Except.ok.inj h
    obtain ⟨c, hc, rfl⟩ := List.mem_map.1 hv
    exact NodeOf.steps_height steps hc

/-- What a walk does at a node, if below the node it does not depend on the place. -/
theorem walk_below {vis : Visitor σ} {keys : KeyMap} {n : Node}
    (below : ∀ v, v.height < n.height → ∀ p, walk vis keys v p = walk vis keys v .root) (p : Position) :
    walk vis keys (.node n) p = do
      match ← vis.reply .enter n p with
      | .stop => return true
      | .skip => return false
      | .go => do
        let names ← keys n.kindValue
        let stopped ← untilStopped (fun name => do
          let vs ← n.branch name
          untilStopped (fun v => walk vis keys v .root) vs) names
        if stopped then return true else
          let left ← vis.reply .leave n p
          return left == .stop := by
  rw [walk_at]
  refine bind_congr fun entered => ?_
  cases entered with
  | stop => rfl
  | skip => rfl
  | go =>
    refine bind_congr fun names => ?_
    refine congrArg (· >>= _) (untilStopped_congr fun name _ => ?_)
    rw [← n.steps_values p name]
    cases steps : n.steps p name with
    | error e => rfl
    | ok vs =>
      refine Eq.trans ?_ (untilStopped_map (f := fun v => walk vis keys v .root) vs).symm
      exact untilStopped_congr fun c hc => below c.1 (NodeOf.steps_height steps hc) c.2

/-- A visitor whose answers do not depend on where a node is. -/
def Visitor.IsStill (vis : Visitor σ) : Prop := ∀ name n p q, vis.call name n p = vis.call name n q

section Still

variable {vis : Visitor σ} (still : vis.IsStill) (keys : KeyMap)

include still

theorem Visitor.IsStill.reply (side : Side) (n : Node) (p q : Position) :
    vis.reply side n p = vis.reply side n q := by
  rw [Visitor.reply, Visitor.reply]
  refine bind_congr fun kind => ?_
  cases vis.method? side kind with
  | none => rfl
  | some name => exact congrArg (· >>= _) (still name n p q)

/-- A walk of a still visitor is the same from every place. The induction is on the height of what is
walked through: below a node all walks may be taken to begin at the root. -/
theorem walk_still : ∀ (v : Value) (p : Position), walk vis keys v p = walk vis keys v .root := by
  intro v
  induction height : v.height using Nat.strongRecOn generalizing v with
  | ind height' ih =>
    subst height
    intro p
    cases v with
    | node n =>
      have below := fun v (lower : v.height < n.height) => ih v.height lower v rfl
      rw [walk_below below p, walk_below below .root, still.reply .enter n p .root,
        still.reply .leave n p .root]
    | _ =>
      rw [walk, walk]
      all_goals
        intro n h
        cases h

/-- What a walk of a still visitor does at a node. -/
theorem walk_node (n : Node) :
    walk vis keys (.node n) .root = do
      match ← vis.reply .enter n .root with
      | .stop => return true
      | .skip => return false
      | .go => do
        let names ← keys n.kindValue
        let stopped ← untilStopped (fun name => do
          let vs ← n.branch name
          untilStopped (fun v => walk vis keys v .root) vs) names
        if stopped then return true else
          let left ← vis.reply .leave n .root
          return left == .stop :=
  walk_below (fun v _ p => walk_still still keys v p) .root

end Still

/-! ### Walks of the rule -/

theorem Value.IsRow.branches {v : Value} {xs : List Value} (h : v.IsRow xs) : v.branches = xs := by
  cases h <;> rfl

theorem NodeOf.GoesBy.kindText {n : Node} {k : Kind} (h : n.GoesBy k) :
    n.kindValue.display = .ok k.text := by
  rw [h.kindValue]
  rfl

theorem documentKeys_goesBy {n : Node} {k : Kind} (h : n.GoesBy k) :
    documentKeys n.kindValue = .ok (k.childKeys.map .word) := by
  rw [documentKeys, h.kindValue, Value.word, Value.kind?, Kind.ofText?_text h.library]
  rfl

/-- A node without nodes below: the kind that it goes by has none, or is no kind of the library. -/
def NodeOf.IsLeaf (n : Node) : Prop :=
  ∃ text i, n.kindValue = .str text i ∧ ∀ k, Kind.ofText? text = some k → k.childKeys = []

theorem NodeOf.GoesBy.isLeaf {n : Node} {k : Kind} (h : n.GoesBy k) (leaf : k.childKeys = []) : n.IsLeaf := by
  refine ⟨k.text, _, h.kindValue, fun l same => ?_⟩
  rw [Kind.ofText?_text h.library] at same
  cases same
  exact leaf

namespace Rule

variable (s : Schema)

theorem visitor_still : (visitor s true).IsStill := fun _ _ _ _ => rfl

/-- The walk of the rule through a value. -/
def through (v : Value) : RuleM Bool := walk (visitor s true) documentKeys v .root

/-- A visit from a node walks through it. -/
theorem visit_node (n : Node) :
    visit (visitor s true) documentKeys (.node n) = do
      let stopped ← through s (.node n)
      return if stopped then .action .stop else .null := rfl

variable {n : Node} {k : Kind}

/-- Without a method of its name a side of a node is passed without a call, for the rule has no general methods. -/
theorem reply_unnamed {side : Side} {text : String} (kind : n.kindValue.display = .ok text)
    (unnamed : side.text ++ "_" ++ text ∉ methods) : (visitor s true).reply side n .root = pure .go := by
  have special : (visitor s true).defines (side.text ++ "_" ++ text) = false := by
    simpa [visitor] using unnamed
  have general : (visitor s true).defines side.text = false := by cases side <;> rfl
  rw [Visitor.reply, kind, liftM_ok, pure_bind, Visitor.method?]
  simp only [special, general, Bool.false_eq_true, if_false]

theorem leave_unnamed (text : String) : Side.leave.text ++ "_" ++ text ∉ methods := by
  simp [methods, Side.text, ← String.toList_inj]

theorem enter_unnamed {text : String} (operation : text ≠ Kind.operationDefinition.text)
    (variable_ : text ≠ Kind.variableDefinition.text) : Side.enter.text ++ "_" ++ text ∉ methods := by
  simpa [methods, Side.text, Kind.text, ← String.toList_inj] using And.intro operation variable_

theorem reply_leave (kind : n.GoesBy k) : (visitor s true).reply .leave n .root = pure .go :=
  reply_unnamed s kind.kindText (leave_unnamed k.text)

theorem reply_operation (kind : n.GoesBy .operationDefinition) :
    (visitor s true).reply .enter n .root = do enterOperation n; return .go := by
  have call : (visitor s true).call "enter_operation_definition" n .root =
      (do enterOperation n; return .null) := rfl
  have method : (visitor s true).method? .enter Kind.operationDefinition.text =
      some "enter_operation_definition" := rfl
  rw [Visitor.reply, kind.kindText, liftM_ok, pure_bind, method]
  simp only [call, bind_assoc, pure_bind]
  rfl

theorem reply_variable (kind : n.GoesBy .variableDefinition) :
    (visitor s true).reply .enter n .root = do
      let answer ← enterVariable s n
      return answer.reply := by
  rw [Visitor.reply, kind.kindText, liftM_ok, pure_bind]
  rfl

/-- Nodes of other kinds are entered without a call. -/
theorem reply_other (kind : n.GoesBy k) (operation : k ≠ .operationDefinition)
    (variable_ : k ≠ .variableDefinition) : (visitor s true).reply .enter n .root = pure .go :=
  reply_unnamed s kind.kindText (enter_unnamed
    (fun same => operation (Kind.text_inj kind.library rfl same))
    (fun same => variable_ (Kind.text_inj kind.library rfl same)))

/-- The walk through a node that is entered without a call goes through its attributes. -/
theorem through_other (kind : n.GoesBy k) (operation : k ≠ .operationDefinition)
    (variable_ : k ≠ .variableDefinition) :
    through s (.node n) = untilStopped (fun name => do
      let vs ← n.branch name
      untilStopped (through s) vs) (k.childKeys.map .word) := by
  rw [through, walk_node (visitor_still s), reply_other s kind operation variable_,
    documentKeys_goesBy kind, reply_leave s kind]
  simp only [pure_bind, liftM_ok]
  refine Eq.trans (bind_congr fun stopped => ?_) (bind_pure _)
  cases stopped <;> rfl

/-- Names and definitions without variables are passed over. -/
theorem through_leaf (leaf : n.IsLeaf) : through s (.node n) = pure false := by
  obtain ⟨text, i, kind, none⟩ := leaf
  have shown : n.kindValue.display = .ok text := by
    rw [kind]
    rfl
  have keys : documentKeys n.kindValue = .ok [] := by
    rw [documentKeys, kind, Value.kind?]
    cases known : Kind.ofText? text with
    | none => rfl
    | some k => exact congrArg (fun keys => Except.ok (keys.map Value.word)) (none k known)
  have operation : text ≠ Kind.operationDefinition.text := by
    rintro rfl
    cases none .operationDefinition rfl
  have variable_ : text ≠ Kind.variableDefinition.text := by
    rintro rfl
    cases none .variableDefinition rfl
  rw [through, walk_node (visitor_still s), reply_unnamed s shown (enter_unnamed operation variable_), keys,
    reply_unnamed s shown (leave_unnamed text)]
  rfl

/-- A document is walked through definition by definition. -/
theorem through_document {v : Value} {ds : List Value} (kind : n.GoesBy .document)
    (definitions : n.attrs.lookup "definitions" = some v) (row : v.IsRow ds) :
    through s (.node n) = untilStopped (through s) ds := by
  rw [through_other s kind nofun nofun]
  refine (untilStopped_singleton _).trans ?_
  rw [NodeOf.branch_of_lookup definitions, row.branches, liftM_ok, pure_bind]

/-- An operation is entered, and then its variable definitions are walked through. -/
theorem through_operation {u v : Value} {vs : List Value} (kind : n.GoesBy .operationDefinition)
    (name : n.attrs.lookup "name" = some u) (named : u = .null ∨ ∃ m, u = .node m ∧ m.GoesBy .name)
    (declared : n.attrs.lookup "variable_definitions" = some v) (row : v.IsRow vs) :
    through s (.node n) = (do enterOperation n; untilStopped (through s) vs) := by
  have passed : untilStopped (fun v => walk (visitor s true) documentKeys v .root) u.branches =
      pure false := by
    rcases named with rfl | ⟨m, rfl, hm⟩
    · rfl
    · exact (untilStopped_singleton _).trans (through_leaf s (hm.isLeaf rfl))
  rw [through, walk_node (visitor_still s), reply_operation s kind, documentKeys_goesBy kind,
    reply_leave s kind]
  simp only [bind_assoc, pure_bind, liftM_ok, Kind.childKeys, List.map_cons, List.map_nil, untilStopped,
    NodeOf.branch_of_lookup name, NodeOf.branch_of_lookup declared, row.branches]
  refine bind_congr fun _ => ?_
  rw [passed]
  simp only [pure_bind, bind_assoc, Bool.false_eq_true, if_false]
  refine Eq.trans (bind_congr fun stopped => ?_) (bind_pure _)
  cases stopped <;> rfl

end Rule

end QueryDefaults
