import QueryDefaults.Value.Mapping
import QueryDefaults.Value.Store

/-!
Objects that change. A change of an object is made once, where a store keeps it, and is seen in all views.
`getElem?_change` says that a change leaves all other objects as they are.
-/

namespace QueryDefaults

/-- One change of an object, which is known by its number. -/
inductive Change where
  /-- A node gets an attribute. -/
  | attr (node : Nat) (name : String) (value : Value)
  /-- A node forgets its digest. -/
  | forget (node : Nat)
  /-- A mapping has these entries from now on. -/
  | entries (mapping : Nat) (entries : List Entry)
  /-- A list, perhaps one of the two lists of a context, has these items from now on. -/
  | items (list : Nat) (items : List Value)
  /-- A context gets a fatal error. -/
  | fatal (context : Nat) (error : Value)
  /-- A rule gets a path. -/
  | path (rule : Nat) (path : Value)
  /-- Nodes keep the digests that were taken of them. -/
  | digests (taken : Digests)
  deriving Inhabited

/-- The numbers of the objects that a change is about. -/
def Change.objects : Change → List Nat
  | .attr i _ _ | .forget i | .entries i _ | .items i _ | .fatal i _ | .path i _ => [i]
  | .digests taken => taken.map Prod.fst

/-- A node with an attribute assigned. A digest that is given takes the place of one that was taken. -/
def NodeOf.assign (n : Node) (name : String) (value : Value) : Node :=
  { n with
    attrs := putNamed name value n.attrs
    digest := if name = digestName then none else n.digest }

/-- A node that has forgotten its digest. -/
def NodeOf.forget (n : Node) : Node :=
  { n with
    attrs := n.attrs.filter fun (name, _) => name != digestName
    digest := none }

/-- A node with a digest that was taken of it, unless it keeps one already. -/
def NodeOf.keep (n : Node) (digest : Digest) : Node :=
  { n with digest := n.digest.orElse fun _ => some digest }

/-- A node with a function applied to it. -/
def Value.mapNode (f : Node → Node) : Value → Value
  | .node n => .node (f n)
  | v => v

/-- A context with another fatal error. -/
def Value.withFatal (v error : Value) : Value :=
  match v with
  | .context c => .context { c with fatal := error }
  | v => v

/-- A rule with another path. -/
def Value.withPath (v path : Value) : Value :=
  match v with
  | .rule r => .rule { r with path }
  | v => v

namespace Store

/-- A store after a change of an object in it. -/
def change (s : Store) : Change → Store
  | .attr id name value => s.modify id (·.mapNode (·.assign name value))
  | .forget id => s.modify id (·.mapNode NodeOf.forget)
  | .entries id es => s.insert id (.mapping es id)
  | .items id xs => s.insert id (.list xs id)
  | .fatal id error => s.modify id (·.withFatal error)
  | .path id steps => s.modify id (·.withPath steps)
  | .digests taken => taken.foldl (fun s (id, d) => s.modify id (·.mapNode (·.keep d))) s

theorem getElem?_modify_of_ne {s : Store} {i j : Nat} (h : i ≠ j) (f : Value → Value) :
    (s.modify i f)[j]? = s[j]? := by
  simp [Std.TreeMap.getElem?_modify, h]

theorem getElem?_insert_of_ne {s : Store} {i j : Nat} (h : i ≠ j) (v : Value) :
    (s.insert i v)[j]? = s[j]? := by
  simp [Std.TreeMap.getElem?_insert, h]

theorem getElem?_foldl_modify (f : Digest → Value → Value) {j : Nat} :
    ∀ {taken : Digests} {s : Store}, j ∉ taken.map Prod.fst →
      (taken.foldl (fun s (id, d) => s.modify id (f d)) s)[j]? = s[j]?
  | [], _, _ => rfl
  | (i, d) :: taken, s, h => by
    simp only [List.map_cons, List.mem_cons, not_or] at h
    rw [List.foldl_cons, getElem?_foldl_modify f h.2, getElem?_modify_of_ne (Ne.symm h.1)]

/-- A change leaves all objects as they are that it does not name. -/
theorem getElem?_change {s : Store} {c : Change} {j : Nat} (h : j ∉ c.objects) :
    (s.change c)[j]? = s[j]? := by
  cases c with
  | attr i name v => exact getElem?_modify_of_ne (by simpa [Change.objects, eq_comm] using h) _
  | forget i => exact getElem?_modify_of_ne (by simpa [Change.objects, eq_comm] using h) _
  | entries i es => exact getElem?_insert_of_ne (by simpa [Change.objects, eq_comm] using h) _
  | items i xs => exact getElem?_insert_of_ne (by simpa [Change.objects, eq_comm] using h) _
  | fatal i e => exact getElem?_modify_of_ne (by simpa [Change.objects, eq_comm] using h) _
  | path i p => exact getElem?_modify_of_ne (by simpa [Change.objects, eq_comm] using h) _
  | digests taken => exact getElem?_foldl_modify (fun d v => v.mapNode (·.keep d)) h

/-- The number of the mapping of a node's marks, if it has one. -/
def marks? (s : Store) (node : Nat) : Option Nat :=
  match s[node]? with
  | some (.node n) =>
    match n.attrs.lookup marksName with
    | some (.mapping _ id) => some id
    | _ => none
  | _ => none

end Store

end QueryDefaults
