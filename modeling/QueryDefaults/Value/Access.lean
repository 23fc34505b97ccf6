import QueryDefaults.Text.Point
import QueryDefaults.Value.ClassName
import QueryDefaults.Value.Identity

/-!
Looking into values: attributes, items, truth, lengths. `part` and `items` carry the proof that what
they give is not higher than where it comes from, so that a recursion through them ends.
-/

namespace QueryDefaults

/-! ### Height -/

mutual

/-- How many nodes and containers lie on top of each other in a value. -/
def Value.height : Value → Nat
  | .list xs _ | .tuple xs _ | .record _ xs _ => heightOfAll xs + 1
  | .mapping es _ => heightOfKeys es + 1
  | .enumeration ms _ _ => heightOfAttrs ms + 1
  | .node n => heightOfNode n
  | _ => 0
termination_by structural v => v

/-- The greatest height of values in a row. -/
def heightOfAll : List Value → Nat
  | [] => 0
  | x :: xs => max x.height (heightOfAll xs)
termination_by structural xs => xs

/-- The greatest height of the keys of a mapping. -/
def heightOfKeys : List Entry → Nat
  | [] => 0
  | ⟨_, k, _⟩ :: es => max k.height (heightOfKeys es)
termination_by structural es => es

/-- One more than the greatest height of a node's attributes. -/
def heightOfNode : Node → Nat
  | ⟨_, _, attrs, _⟩ => heightOfAttrs attrs + 1
termination_by structural n => n

/-- The greatest height of attributes. -/
def heightOfAttrs : List (String × Value) → Nat
  | [] => 0
  | (_, v) :: as => max v.height (heightOfAttrs as)
termination_by structural as => as

end

/-- The height of a node. -/
abbrev NodeOf.height (n : Node) : Nat := heightOfNode n

@[simp]
theorem Value.height_node (n : Node) : (Value.node n).height = n.height := rfl

theorem Value.height_le_of_mem {x : Value} {xs : List Value} (h : x ∈ xs) :
    x.height ≤ heightOfAll xs := by
  induction xs with
  | nil => cases h
  | cons y ys ih =>
    rcases List.mem_cons.1 h with rfl | h
    · simp only [heightOfAll]; omega
    · have := ih h
      simp only [heightOfAll]; omega

theorem Value.height_le_of_mem_keys {x : Value} {es : List Entry}
    (h : x ∈ es.map EntryOf.key) : x.height ≤ heightOfKeys es := by
  induction es with
  | nil => cases h
  | cons e es ih =>
    obtain ⟨_, k, v⟩ := e
    rcases List.mem_cons.1 h with rfl | h
    · simp only [heightOfKeys]; omega
    · have := ih h
      simp only [heightOfKeys]; omega

theorem heightOfAttrs_lookup {as : List (String × Value)} {name : String} {v : Value}
    (h : as.lookup name = some v) : v.height ≤ heightOfAttrs as := by
  induction as with
  | nil => cases h
  | cons a as ih =>
    obtain ⟨k, w⟩ := a
    simp only [List.lookup_cons, heightOfAttrs] at h ⊢
    split at h
    · cases h; omega
    · have := ih h
      omega

theorem Value.height_le_of_mem_values {x : Value} {as : List (String × Value)}
    (h : x ∈ as.map Prod.snd) : x.height ≤ heightOfAttrs as := by
  induction as with
  | nil => cases h
  | cons a as ih =>
    obtain ⟨k, v⟩ := a
    rcases List.mem_cons.1 h with rfl | h
    · simp only [heightOfAttrs]; omega
    · have := ih h
      simp only [heightOfAttrs]; omega

/-! ### Attributes of nodes -/

/-- The attribute of a node that a digest is given to it by. -/
def digestName : String := "_hash"

/-- The names of a kind's attributes as a value; there is one list of them for each kind of the library. -/
def Kind.keyList (kind : Kind) : Value :=
  .list (kind.keys.map .word) (if kind.library = kind then kind.index + 20 else 0)

namespace NodeOf

/-- An attribute of a node, of its own or one that every node of its kind has. The digest that was taken of a
node is an attribute if it is a number. -/
def attr? (n : Node) (name : String) : Option Value :=
  match n.attrs.lookup name with
  | some v => some v
  | none =>
    if name = "kind" then some (.word n.kind.text)
    else if name = "keys" then some n.kind.keyList
    else if name = digestName then
      match n.digest with
      | some (.number residue) => some (.int residue)
      | _ => none
    else none

/-- The kind that a node goes by: an attribute of that name takes the place of its own kind. -/
def kindValue (n : Node) : Value := (n.attrs.lookup "kind").getD (.word n.kind.text)

/-- The names of the attributes that count for a node: an attribute `keys` takes the place of the list of
its kind. -/
def keysValue (n : Node) : Value := (n.attrs.lookup "keys").getD n.kind.keyList

/-- What is wrong if a node lacks an attribute. A node without any stands for one that it lies in itself. -/
def lack (n : Node) (name : String) : Fault := if n.attrs.isEmpty then .endless else .lacks (.node n) name

/-- An attribute that must be there. -/
def attr (n : Node) (name : String) : Except Fault Value :=
  match n.attr? name with
  | some v => .ok v
  | none => .error (n.lack name)

/-- A value inside a node. -/
abbrev Part (n : Node) := { v : Value // v.height < n.height }

theorem height_lt_of_lookup {n : Node} {name : String} {v : Value}
    (h : n.attrs.lookup name = some v) : v.height < n.height := by
  cases n
  exact Nat.lt_succ_of_le (heightOfAttrs_lookup h)

/-- One of a node's own attributes, together with the fact that it lies inside the node. -/
def part? (n : Node) (name : String) : Option n.Part :=
  match h : n.attrs.lookup name with
  | some v => some ⟨v, height_lt_of_lookup h⟩
  | none => none

/-- An attribute of its own that a node must have. -/
def part (n : Node) (name : String) : Except Fault n.Part :=
  match n.part? name with
  | some v => .ok v
  | none => .error (n.lack name)

theorem part?_eq_some {n : Node} {name : String} {v : Value} (h : n.attrs.lookup name = some v) :
    n.part? name = some ⟨v, height_lt_of_lookup h⟩ := by
  unfold part?
  split
  · next w hw =>
    obtain rfl : v = w := Option.some.inj (h.symm.trans hw)
    rfl
  · next hw =>
    rw [h] at hw
    cases hw

theorem part_eq_ok {n : Node} {name : String} {v : Value} (h : n.attrs.lookup name = some v) :
    n.part name = .ok ⟨v, height_lt_of_lookup h⟩ := by
  simp [part, part?_eq_some h]

end NodeOf

namespace Value

/-- A value inside another one. -/
abbrev Part (v : Value) := { w : Value // w.height < v.height }

/-- An attribute that a node has of its own, together with the fact that it lies inside the node. -/
def part (v : Value) (name : String) : Except Fault v.Part :=
  match v with
  | node n => n.part name
  | v => .error (.lacks v name)

/-! ### Truth, items, length -/

/-- Whether a value is `null`. -/
def isNull : Value → Bool
  | null => true
  | _ => false

/-- Whether a value is `undefined`. -/
def isUndefined : Value → Bool
  | undefined => true
  | _ => false

/-- The truth of a value: nothing, zero and what is empty are false, and of exceptions those whose class says so. -/
def truthy : Value → Bool
  | null | undefined | foreign .set _ | foreign .bytes _ => false
  | bool b => b
  | int n _ => n != 0
  | float x _ => !x.isZero
  | str s _ => !s.isEmpty
  | list xs _ | tuple xs _ | record _ xs _ => !xs.isEmpty
  | mapping es _ => !es.isEmpty
  | registry types .. => !types.isEmpty
  | exceptionOf e => e.truth
  | _ => true

/-- Whether a value is a node of the given kind of the library, or of one that is derived from it. -/
def isA (v : Value) (k : Kind) : Bool :=
  match v with
  | node n => n.kind.library == k
  | _ => false

/-- A code point as a text. -/
def ofPoint (p : Text.Point) : Value := str (Text.ofPoint p)

/-- The members of an enumeration; an alias stands for a member that is there already. -/
def distinct (members : List (String × Value)) : List Value :=
  (members.filter fun (name, m) => match m with | member _ own _ => own == name | _ => true).map Prod.snd

theorem mem_values_of_mem_distinct {x : Value} {ms : List (String × Value)} (h : x ∈ distinct ms) :
    x ∈ ms.map Prod.snd := by
  obtain ⟨m, hm, rfl⟩ := List.mem_map.1 h
  exact List.mem_map_of_mem (List.mem_filter.1 hm).1

/-- What iterating a value gives, if it can be iterated. No item is higher than the value. -/
def items (v : Value) : Except Fault (List { w : Value // w.height ≤ v.height }) :=
  match v with
  | list xs _ | tuple xs _ | record _ xs _ =>
    .ok (xs.pmap Subtype.mk fun x h => by
      have := height_le_of_mem h
      simp only [height]; omega)
  | mapping es _ =>
    .ok ((es.map EntryOf.key).pmap Subtype.mk fun x h => by
      have := height_le_of_mem_keys h
      simp only [height]; omega)
  | str s _ => .ok ((Text.pointsOf s).map fun p => ⟨ofPoint p, by simp [ofPoint, height]⟩)
  | registry types .. => .ok (types.map fun t => ⟨t.label, by simp [NamedType.label, height]⟩)
  | enumeration ms _ _ =>
    .ok ((distinct ms).pmap Subtype.mk fun x h => by
      have := height_le_of_mem_values (mem_values_of_mem_distinct h)
      simp only [height]; omega)
  | foreign .set _ | foreign .bytes _ | foreign .generator _ => .ok []
  | v => .error (.notIterable v)

/-- What iterating a value gives. -/
def toList (v : Value) : Except Fault (List Value) := do
  let xs ← v.items
  return xs.map Subtype.val

/-- The number of things in a value. -/
def length : Value → Except Fault Nat
  | str s _ => .ok (Text.pointCount s)
  | list xs _ | tuple xs _ | record _ xs _ => .ok xs.length
  | mapping es _ => .ok es.length
  | registry types .. => .ok types.length
  | enumeration ms _ _ => .ok (distinct ms).length
  | foreign .set _ | foreign .bytes _ => .ok 0
  | v => .error (.noLength v)

/-- Whether a value can be called. -/
def callable : Value → Bool
  | function .. | builtin _ | method .. | enumeration .. => true
  | foreign f _ =>
    match f with
    | .lambda | .function | .classObject | .exceptionClass | .generatorFunction | .coroutineFunction
    | .builtin => true
    | _ => false
  | _ => false

/-- Whether a value is a function that becomes a method where an object has it from its class. -/
def isFunction : Value → Bool
  | function .. | builtin _ => true
  | foreign f _ =>
    match f with
    | .lambda | .function | .generatorFunction | .coroutineFunction => true
    | _ => false
  | _ => false

/-- The value of a member of an enumeration. -/
def memberValue : Value → Value
  | member _ _ v => v
  | v => v

/-- A value as the name of an attribute, which is a text. -/
def attributeName : Value → Except Fault String
  | str s _ => .ok s
  | v => .error (.noAttributeName v)

/-- The entry of a mapping from texts. -/
def valueFor? (es : List Entry) (name : String) : Option Value :=
  (es.find? fun e => match e.key with | str s _ => s == name | _ => false).map EntryOf.value

/-- An entry with a text of this library as its key. -/
def entryOf (name : String) (v : Value) : Entry := ⟨.ofText name, word name, v⟩

/-- A mapping with texts as keys. -/
def ofEntries (es : List (String × Value)) : Value := mapping (es.map fun (k, v) => entryOf k v)

end Value

/-- The attributes that count for a node, in the order in which they are listed. All of them must be there. -/
def NodeOf.listed (n : Node) : Except Fault (List (String × Value)) := do
  let keys ← n.keysValue.toList
  keys.mapM fun key => do
    let name ← key.attributeName
    let v ← n.attr name
    return (name, v)

end QueryDefaults
