import QueryDefaults.Proofs.Literal
import QueryDefaults.GraphQLError

/-!
Errors about nodes. An error that is given a node or a list of nodes keeps them in their order, and besides them
the locations of those that have one; its text is its message followed by the places. What is not a list is
taken for a single node, and so is a tuple that is not empty: it has no location to be asked for, so no error can
be made of it. The locations are found by one pass over the nodes (`locationsOf_list`), and told by one over the
locations (`renderEach_locations`); `GraphQLError.make_located` is about all ways of giving nodes.
-/

namespace QueryDefaults

/-! ### Places of nodes -/

/-- A line and a column. -/
inductive Value.IsLocation : Value → Prop where
  | mk (line column : Int) (i j k : Nat) : IsLocation (.record .location [.int line i, .int column j] k)

/-- A node that has a location, or none. -/
def Value.IsPlaced (v : Value) : Prop :=
  ∃ n loc, v = .node n ∧ n.attrs.lookup "loc" = some loc ∧ (loc = .null ∨ loc.IsLocation)

/-- The location of a node, if it has one. -/
def Value.place? : Value → Option Value
  | .node n =>
    match n.attrs.lookup "loc" with
    | some (.record .location parts i) => some (.record .location parts i)
    | _ => none
  | _ => none

/-- A location as it is told. -/
def placeText : Value → String
  | .record .location [.int line _, .int column _] _ =>
    "(" ++ (toString line ++ ":" ++ toString column) ++ ")"
  | _ => ""

/-- Whether the numbers of a location do not have too many digits to be written. -/
def Value.IsTold : Value → Prop
  | .record .location [.int line _, .int column _] _ =>
    isUnwritable line = false ∧ isUnwritable column = false
  | _ => False

/-- What is kept of values in a row: a list of them, or null if there are none. -/
inductive Value.Lists : Value → List Value → Prop where
  | none : Lists .null []
  | some (x : Value) (xs : List Value) (i : Nat) : Lists (.list (x :: xs) i) (x :: xs)

/-- The ways in which an error can be given nodes. -/
inductive GivesNodes : Value → List Value → Prop where
  | nothing : GivesNodes .null []
  | single (n : Node) : GivesNodes (.node n) [.node n]
  | list (ns : List Value) (i : Nat) : GivesNodes (.list ns i) ns
  | empty (i : Nat) : GivesNodes (.tuple [] i) []

/-! ### Making an error -/

theorem GivesNodes.nodeList {given : Value} {ns : List Value} (h : GivesNodes given ns) :
    (nodeList given).Lists ns := by
  cases h with
  | nothing => exact .none
  | single n => exact .some _ _ 0
  | list _ i =>
    cases ns with
    | nil => exact .none
    | cons n ns => exact .some n ns i
  | empty i => exact .none

/-- The locations of nodes, one after the other. -/
theorem mapM_loc {ns : List Value} (placed : ∀ n ∈ ns, n.IsPlaced) :
    ∃ locs, ns.mapM (·.attr "loc") = (.ok locs : Except Fault (List Value)) ∧
      locs.filter (·.truthy) = ns.filterMap Value.place? := by
  induction ns with
  | nil => exact ⟨[], rfl, rfl⟩
  | cons v ns ih =>
    obtain ⟨locs, rest, located⟩ := ih fun n hn => placed n (List.mem_cons_of_mem _ hn)
    obtain ⟨n, loc, rfl, has, form⟩ := placed v (List.mem_cons_self ..)
    have attr : (Value.node n).attr "loc" = .ok loc := NodeOf.attr_of_lookup has
    refine ⟨loc :: locs, ?_, ?_⟩
    · rw [List.mapM_cons, attr, rest]
      rfl
    · rcases form with rfl | ⟨line, column, i, j, k⟩
      · rw [List.filter_cons_of_neg (by simp [Value.truthy]), List.filterMap_cons_none, located]
        rw [Value.place?, has]
      · rw [List.filter_cons_of_pos (by rfl), located, List.filterMap_cons_some]
        rw [Value.place?, has]

theorem locationsOf_list {kept : Value} {ns : List Value} (lists : kept.Lists ns)
    (placed : ∀ n ∈ ns, n.IsPlaced) :
    ∃ locations, locationsOf kept = .ok locations ∧ locations.Lists (ns.filterMap Value.place?) := by
  cases lists with
  | none => exact ⟨.null, rfl, .none⟩
  | some n ns i =>
    obtain ⟨locs, attrs, located⟩ := mapM_loc placed
    rw [locationsOf, attrs, ok_bind, located]
    cases (n :: ns).filterMap Value.place? with
    | nil => exact ⟨.null, rfl, .none⟩
    | cons p ps => exact ⟨.list (p :: ps), rfl, .some p ps 0⟩

/-! ### The text of an error -/

theorem render_int {n : Int} {i : Nat} (told : isUnwritable n = false) (around : List Nat) :
    (Value.int n i).render .sentence around = .ok (toString n) := by
  rw [Value.render, integerText, told]
  rfl

theorem renderEach_locations {ps : List Value} (told : ∀ p ∈ ps, p.IsTold) (around : List Nat) :
    Value.renderEach around ps = .ok (ps.map placeText) := by
  induction ps with
  | nil => rfl
  | cons p ps ih =>
    have rest := ih fun q hq => told q (List.mem_cons_of_mem _ hq)
    have first := told p (List.mem_cons_self ..)
    unfold Value.IsTold at first
    split at first
    · next line i column j k =>
      have place : Value.renderPlace around (.record .location [.int line i, .int column j] k) =
          .ok (toString line ++ ":" ++ toString column) := by
        rw [Value.renderPlace, Value.renderPair, render_int first.1, render_int first.2]
        rfl
      rw [Value.renderEach, place, rest]
      rfl
    · exact first.elim

/-- Texts after a first one, each of them after a blank. -/
theorem intercalate_eq_foldl (s : String) (ts : List String) :
    " ".intercalate (s :: ts) = ts.foldl (fun text t => text ++ " " ++ t) s := by
  induction ts generalizing s with
  | nil => rfl
  | cons t ts ih => exact ih (s ++ " " ++ t)

theorem renderPlaces_lists {locations : Value} {ps : List Value} (lists : locations.Lists ps)
    (told : ∀ p ∈ ps, p.IsTold) : Value.renderPlaces [] locations = .ok (ps.map placeText) := by
  cases lists with
  | none => rfl
  | some p ps i => exact renderEach_locations told []

/-- An error is told by its message and, after it, its places. -/
theorem caption_error {e : GraphQLError} {message : String} {m : Nat} {ps : List Value}
    (said : e.message = .str message m) (lists : e.locations.Lists ps) (told : ∀ p ∈ ps, p.IsTold) :
    Gives ((Value.error e).caption .sentence)
      (ps.foldl (fun text p => text ++ " " ++ placeText p) message) := by
  obtain ⟨text, _, locations, _, _, _, _, _, _⟩ := e
  obtain rfl : text = .str message m := said
  rw [Value.caption, Value.renderError, if_neg (by decide), renderPlaces_lists lists told, ok_bind,
    ← List.foldl_map (f := placeText) (g := fun text t => text ++ " " ++ t), ← intercalate_eq_foldl]
  replace lists : locations.Lists ps := lists
  cases lists with
  | none => exact ⟨m, rfl⟩
  | some p ps i => exact ⟨0, rfl⟩

/-- An error that is given nodes in a list, a single one, or none, is made, whatever nodes they are. It has these
nodes in their order, and the locations of those that have one in the same order; its text is the message
followed by the places, as long as their numbers can be written. But a tuple that is not empty is asked for a
location itself, and fails because it has no attributes. -/
theorem GraphQLError.make_located (message : String) (m : Nat) :
    (∀ given ns, GivesNodes given ns → (∀ n ∈ ns, n.IsPlaced) →
      ∃ e, GraphQLError.make (.str message m) given .null .null .null = .ok e ∧ e.nodes.Lists ns ∧
        e.locations.Lists (ns.filterMap Value.place?) ∧
        ((∀ p ∈ ns.filterMap Value.place?, p.IsTold) → Gives ((Value.error e).caption .sentence)
          ((ns.filterMap Value.place?).foldl (fun text p => text ++ " " ++ placeText p) message))) ∧
    ∀ n ns i, ∃ f, GraphQLError.make (.str message m) (.tuple (n :: ns) i) .null .null .null = .error f ∧
      f.cls = .attribute := by
  refine ⟨fun given ns gives placed => ?_, fun n ns i => ⟨_, rfl, rfl⟩⟩
  have kept := gives.nodeList
  obtain ⟨locations, found, located⟩ := locationsOf_list kept placed
  refine ⟨⟨.str message m, nodeList given, locations, .null, .null, .mapping [], .null, .null, 0⟩, ?_, kept,
    located, caption_error rfl located⟩
  rw [GraphQLError.make, found]
  rfl

/-- A name with a location. -/
def placedName (name : String) (line column : Int) : Node :=
  ⟨0, .name, [("loc", .location (.int line) (.int column)), ("value", .str name)], none⟩

theorem placedName_isPlaced (name : String) (line column : Int) :
    (Value.node (placedName name line column)).IsPlaced :=
  ⟨_, _, rfl, rfl, .inr (.mk ..)⟩

/-- Two of three nodes have a location. -/
theorem make_located_mixed : ∃ e,
    GraphQLError.make (.str "msg")
      (.list [.node (placedName "a" 2 7), .nameNode "b", .node (placedName "c" 5 11)]) .null .null .null = .ok e ∧
    e.nodes.Lists [.node (placedName "a" 2 7), .nameNode "b", .node (placedName "c" 5 11)] ∧
    Gives ((Value.error e).caption .sentence) "msg (2:7) (5:11)" := by
  have placed : ∀ n ∈ [Value.node (placedName "a" 2 7), .nameNode "b", .node (placedName "c" 5 11)],
      n.IsPlaced :=
    List.forall_mem_cons.2 ⟨placedName_isPlaced "a" 2 7, List.forall_mem_cons.2
      ⟨⟨_, _, rfl, rfl, .inl rfl⟩, List.forall_mem_singleton.2 (placedName_isPlaced "c" 5 11)⟩⟩
  obtain ⟨e, made, nodes, _, text⟩ := (GraphQLError.make_located "msg" 0).1 _ _ (.list _ 0) placed
  have told : ∀ p ∈ [Value.location (.int 2) (.int 7), .location (.int 5) (.int 11)], p.IsTold :=
    List.forall_mem_cons.2 ⟨⟨by decide, by decide⟩, List.forall_mem_singleton.2 ⟨by decide, by decide⟩⟩
  exact ⟨e, made, nodes, text told⟩

/-- No error can be made of a node in a tuple. -/
theorem make_located_tuple :
    ¬ ∃ e, GraphQLError.make (.str "msg") (.tuple [.node (placedName "a" 1 2)]) .null .null .null = .ok e := by
  rintro ⟨e, made⟩
  cases made

end QueryDefaults
