import QueryDefaults.Node.Print
import QueryDefaults.Proofs.Registered
import QueryDefaults.Types.Reference

/-!
Type references as they are written. A reference is a name below lists and non-nulls. It stands for the type
that is written the same way (`type?`), which there is exactly if the registry has a type of that name, and
a type must not have two non-nulls directly on top of each other (`doubled?`). The name comes first: a name
that is not registered stands for nothing, however it is wrapped. `Schema.resolve_written` says what every
reference resolves to, and that it is shown by the text of its type. What the rule does with a reference is
stated for those without doubled non-nulls: what it resolves to and the name that it ends in.
-/

namespace QueryDefaults

/-- A type reference as it is written. -/
inductive TypeRef where
  | named (name : String)
  | list (of : TypeRef)
  | nonNull (of : TypeRef)
  deriving DecidableEq, Repr

namespace TypeRef

/-- The name that a reference ends in. -/
def name : TypeRef → String
  | named name => name
  | list r | nonNull r => r.name

/-- Whether null is not a value of the type that is referred to. -/
def isNonNull : TypeRef → Bool
  | nonNull _ => true
  | _ => false

/-- Whether no two non-nulls of a reference are directly on top of each other. -/
def isSingle : TypeRef → Bool
  | named _ => true
  | list r => r.isSingle
  | nonNull r => !r.isNonNull && r.isSingle

/-- The innermost non-null that another one stands on, if there is one. -/
def doubled? : TypeRef → Option TypeRef
  | named _ => none
  | list r => r.doubled?
  | nonNull r => r.doubled?.or (if r.isNonNull then some r else none)

/-- The text that a reference is written as. -/
def text : TypeRef → String
  | named name => name
  | list r => "[" ++ r.text ++ "]"
  | nonNull r => r.text ++ "!"

/-- The type that a reference stands for among the types of a registry. -/
def type? (types : List NamedType) : TypeRef → Option Ty
  | named name => (registered? types name).map .named
  | list r => (r.type? types).map (.list ·)
  | nonNull r => (r.type? types).map (.nonNull ·)

/-- What the types of a registry make of a reference. -/
def meaning (types : List NamedType) (r : TypeRef) : Except Fault Value :=
  match r.type? types, r.doubled? with
  | none, _ => .ok .null
  | some t, none => .ok (.type t)
  | some _, some inner => .error (.wrapsNonNull inner.text)

theorem doubled?_eq_none : ∀ {r : TypeRef}, r.doubled? = none ↔ r.isSingle = true
  | named _ => by simp [doubled?, isSingle]
  | list r => by rw [doubled?, isSingle, doubled?_eq_none]
  | nonNull r => by
    rw [doubled?, isSingle, Option.or_eq_none_iff, doubled?_eq_none, Bool.and_eq_true, and_comm]
    cases r.isNonNull <;> simp

variable {types : List NamedType}

/-- A reference stands for a type exactly if there is a type of its name. -/
theorem type?_eq_none : ∀ {r : TypeRef}, r.type? types = none ↔ registered? types r.name = none
  | named _ => Option.map_eq_none_iff
  | list _ => Option.map_eq_none_iff.trans type?_eq_none
  | nonNull _ => Option.map_eq_none_iff.trans type?_eq_none

theorem type?_isNonNull {t : Ty} : ∀ {r : TypeRef}, r.type? types = some t → t.isNonNull = r.isNonNull
  | named _, h => by
    obtain ⟨n, _, rfl⟩ := Option.map_eq_some_iff.1 h
    rfl
  | list _, h => by
    obtain ⟨t, _, rfl⟩ := Option.map_eq_some_iff.1 h
    rfl
  | nonNull _, h => by
    obtain ⟨t, _, rfl⟩ := Option.map_eq_some_iff.1 h
    rfl

/-- The type that a reference stands for ends in the type that is registered for its name. -/
theorem type?_registered : ∀ {r : TypeRef} {t : Ty}, r.type? types = some t →
    registered? types r.name = some t.base
  | named _, _, h => by
    obtain ⟨n, hn, rfl⟩ := Option.map_eq_some_iff.1 h
    exact hn
  | list _, _, h => by
    obtain ⟨t, ht, rfl⟩ := Option.map_eq_some_iff.1 h
    rw [name, Ty.base]
    exact type?_registered ht
  | nonNull _, _, h => by
    obtain ⟨t, ht, rfl⟩ := Option.map_eq_some_iff.1 h
    rw [name, Ty.base]
    exact type?_registered ht

/-- The type that a reference stands for is written like the reference. -/
theorem type?_text : ∀ {r : TypeRef} {t : Ty}, r.type? types = some t → t.text = r.text
  | named name, _, h => by
    obtain ⟨n, hn, rfl⟩ := Option.map_eq_some_iff.1 h
    have same := List.find?_some (p := fun m : NamedType => m.name == name) hn
    exact eq_of_beq same
  | list _, _, h => by
    obtain ⟨t, ht, rfl⟩ := Option.map_eq_some_iff.1 h
    rw [Ty.text, text, type?_text ht]
  | nonNull _, _, h => by
    obtain ⟨t, ht, rfl⟩ := Option.map_eq_some_iff.1 h
    rw [Ty.text, text, type?_text ht]

/-- The type that a reference stands for ends in a registered type. -/
theorem type?_base {r : TypeRef} {t : Ty} (h : r.type? types = some t) : t.base ∈ types :=
  List.mem_of_find?_eq_some (type?_registered h)

/-- The type that a reference stands for is spelled like the reference. -/
theorem type?_isSpelled : ∀ {r : TypeRef} {t : Ty}, r.type? types = some t → t.isSpelled = true
  | named _, _, h => by
    obtain ⟨n, _, rfl⟩ := Option.map_eq_some_iff.1 h
    rfl
  | list _, _, h => by
    obtain ⟨t, ht, rfl⟩ := Option.map_eq_some_iff.1 h
    rw [Ty.isSpelled]
    exact type?_isSpelled ht
  | nonNull _, _, h => by
    obtain ⟨t, ht, rfl⟩ := Option.map_eq_some_iff.1 h
    rw [Ty.isSpelled]
    exact type?_isSpelled ht

end TypeRef

/-- Whether a value is the node of a reference, however its wrappers stand on each other. -/
inductive Value.IsTypeNode : Value → TypeRef → Prop where
  | named {n : Node} {m : Value} {name : String} (kind : n.GoesBy .namedType)
      (label : n.attrs.lookup "name" = some m) (named : m.IsName name) : IsTypeNode (.node n) (.named name)
  | list {n : Node} {v : Value} {r : TypeRef} (kind : n.GoesBy .listType)
      (of : n.attrs.lookup "type" = some v) (below : v.IsTypeNode r) : IsTypeNode (.node n) (.list r)
  | nonNull {n : Node} {v : Value} {r : TypeRef} (kind : n.GoesBy .nonNullType)
      (of : n.attrs.lookup "type" = some v) (below : v.IsTypeNode r) : IsTypeNode (.node n) (.nonNull r)

/-- Whether a value is the node of a reference without doubled non-nulls. -/
inductive Value.IsReference : Value → TypeRef → Prop where
  | named {n : Node} {m : Value} {name : String} (kind : n.GoesBy .namedType)
      (label : n.attrs.lookup "name" = some m) (named : m.IsName name) : IsReference (.node n) (.named name)
  | list {n : Node} {v : Value} {r : TypeRef} (kind : n.GoesBy .listType)
      (of : n.attrs.lookup "type" = some v) (below : v.IsReference r) : IsReference (.node n) (.list r)
  | nonNull {n : Node} {v : Value} {r : TypeRef} (kind : n.GoesBy .nonNullType)
      (of : n.attrs.lookup "type" = some v) (below : v.IsReference r) (single : r.isNonNull = false) :
      IsReference (.node n) (.nonNull r)

/-- What a registry gives for a reference: a type, or null. -/
def typeOrNull (t : Option Ty) : Value := (t.map Value.type).getD .null

namespace Value.IsTypeNode

variable {v : Value} {r : TypeRef}

/-- What is made of a wrapper: nothing if nothing is made of what it wraps, an error if that is one, and
else the wrapped type, if it can be wrapped. -/
theorem wrap_meaning {types : List NamedType} {m : Traced Value} (h : m.result = r.meaning types)
    (wrap : Value → Except Fault Ty) :
    (do
      let inner ← m
      if inner.truthy then do
        let t ← wrap inner
        return .type t
      else return .null : Traced Value).result =
      match r.type? types, r.doubled? with
      | none, _ => .ok .null
      | some t, none => (wrap (.type t)).map .type
      | some _, some inner => .error (.wrapsNonNull inner.text) := by
  rw [TypeRef.meaning] at h
  cases type : r.type? types with
  | none =>
    rw [type] at h
    rw [Traced.result_bind_ok h]
    rfl
  | some t =>
    cases doubled : r.doubled? with
    | none =>
      rw [type, doubled] at h
      rw [Traced.result_bind_ok h]
      show _ = (wrap (.type t)).map Value.type
      cases wrap (.type t) <;> rfl
    | some inner =>
      rw [type, doubled] at h
      rw [Traced.result_bind_error h]

/-- A reference resolves to what the types of the registry make of it. The induction is on the reference,
from the name outwards: what is not there stays away, and the first doubled non-null ends it. -/
theorem resolve {s : Schema} {types : List NamedType} {mapId id : Nat} (h : v.IsTypeNode r) :
    (s.resolve (.registry types mapId id) v).result = r.meaning types := by
  induction h with
  | @named n m name kind label named =>
    obtain ⟨i, hi⟩ := Value.nameValue_of_lookup label named
    have found : (registeredAt types (.str name i)).result = .ok (registered? types name) := rfl
    rw [Schema.resolve, kind.kind_library, Traced.result_bind_ok hi, Schema.lookup, Traced.result_bind_ok found,
      TypeRef.meaning, TypeRef.type?, TypeRef.doubled?]
    cases registered? types name <;> rfl
  | @list n v r kind of below ih =>
    rw [Schema.resolve, kind.kind_library, Traced.result_bind_ok (NodeOf.part_eq_ok of), TypeRef.meaning,
      TypeRef.type?, TypeRef.doubled?]
    refine (wrap_meaning ih listOf).trans ?_
    cases r.type? types <;> cases r.doubled? <;> rfl
  | @nonNull n v r kind of below ih =>
    rw [Schema.resolve, kind.kind_library, Traced.result_bind_ok (NodeOf.part_eq_ok of), TypeRef.meaning,
      TypeRef.type?, TypeRef.doubled?]
    refine (wrap_meaning ih nonNullOf).trans ?_
    cases type : r.type? types with
    | none => rfl
    | some t =>
      have wrapped : nonNullOf (.type t) =
          if r.isNonNull then .error (.wrapsNonNull r.text) else .ok (.nonNull t) := by
        rw [nonNullOf, TypeRef.type?_isNonNull type, TypeRef.type?_text type]
        rfl
      cases r.doubled? with
      | some inner => rfl
      | none =>
        simp only [wrapped]
        cases r.isNonNull <;> rfl

/-- A reference is shown as it is written. -/
theorem print (h : v.IsTypeNode r) : ∃ i, v.print = .ok (.str r.text i) := by
  induction h with
  | @named n m name kind label named =>
    obtain ⟨i, hi⟩ := Value.nameValue_of_lookup label named
    refine ⟨i, ?_⟩
    rw [Value.print, kind.role]
    exact hi
  | @list n v r kind of below ih =>
    obtain ⟨i, hi⟩ := ih
    refine ⟨0, ?_⟩
    rw [Value.print, kind.role]
    simp only [ok_bind, NodeOf.part_eq_ok of, hi]
    rfl
  | @nonNull n v r kind of below ih =>
    obtain ⟨i, hi⟩ := ih
    refine ⟨0, ?_⟩
    rw [Value.print, kind.role]
    simp only [ok_bind, NodeOf.part_eq_ok of, hi]
    rfl

end Value.IsTypeNode

namespace Value.IsReference

variable {v : Value} {r : TypeRef}

theorem typeNode (h : v.IsReference r) : v.IsTypeNode r := by
  induction h with
  | named kind label named => exact .named kind label named
  | list kind of _ ih => exact .list kind of ih
  | nonNull kind of _ _ ih => exact .nonNull kind of ih

theorem single (h : v.IsReference r) : r.isSingle = true := by
  induction h with
  | named => rfl
  | list _ _ _ ih => exact ih
  | nonNull _ _ _ single ih =>
    rw [TypeRef.isSingle, single, ih]
    rfl

/-- A reference resolves to the type that it stands for. -/
theorem resolve {s : Schema} {types : List NamedType} {mapId id : Nat} (h : v.IsReference r) :
    (s.resolve (.registry types mapId id) v).result = .ok (typeOrNull (r.type? types)) := by
  rw [h.typeNode.resolve, TypeRef.meaning, TypeRef.doubled?_eq_none.2 h.single]
  cases r.type? types <;> rfl

/-- The named reference that a reference ends in has its name. -/
theorem namedReference (h : v.IsReference r) :
    ∃ base i, v.namedReference = .ok base ∧ base.nameValue = .ok (.str r.name i) := by
  induction h with
  | @named n m name kind label named =>
    obtain ⟨i, hi⟩ := Value.nameValue_of_lookup label named
    refine ⟨.node n, i, ?_, hi⟩
    rw [Value.namedReference, if_pos (by rw [kind.isA]; rfl)]
    rfl
  | @list n v r kind of below ih =>
    obtain ⟨base, i, hbase, hi⟩ := ih
    refine ⟨base, i, ?_, hi⟩
    rw [Value.namedReference, if_neg (by rw [kind.isA]; decide), Value.part_of_lookup of]
    exact hbase
  | @nonNull n v r kind of below single ih =>
    obtain ⟨base, i, hbase, hi⟩ := ih
    refine ⟨base, i, ?_, hi⟩
    rw [Value.namedReference, if_neg (by rw [kind.isA]; decide), Value.part_of_lookup of]
    exact hbase

/-- A reference is shown as it is written. -/
theorem print (h : v.IsReference r) : ∃ i, v.print = .ok (.str r.text i) := h.typeNode.print

end Value.IsReference

/-! ### Making references -/

namespace TypeRef

/-- The node of a reference. -/
def node : TypeRef → Value
  | named name => .node (.made .namedType [("name", .nameNode name)])
  | list r => .node (.made .listType [("type", r.node)])
  | nonNull r => .node (.made .nonNullType [("type", r.node)])

theorem node_isTypeNode : ∀ r : TypeRef, r.node.IsTypeNode r
  | named name => .named ⟨rfl, rfl, rfl⟩ rfl (Value.nameNode_isName name)
  | list r => .list ⟨rfl, rfl, rfl⟩ rfl (node_isTypeNode r)
  | nonNull r => .nonNull ⟨rfl, rfl, rfl⟩ rfl (node_isTypeNode r)

theorem node_isReference : ∀ {r : TypeRef}, r.isSingle = true → r.node.IsReference r
  | named name, _ => .named ⟨rfl, rfl, rfl⟩ rfl (Value.nameNode_isName name)
  | list _, h => .list ⟨rfl, rfl, rfl⟩ rfl (node_isReference h)
  | nonNull r, h => by
    rw [isSingle, Bool.and_eq_true, Bool.not_eq_true'] at h
    exact .nonNull ⟨rfl, rfl, rfl⟩ rfl (node_isReference h.2) h.1

/-- The text of a new node is a new object. -/
theorem node_print : ∀ r : TypeRef, r.node.print = .ok (.str r.text)
  | named name => by
    rw [node, Value.print, NodeOf.GoesBy.role ⟨rfl, rfl, rfl⟩]
    rfl
  | list r => by
    have of : (NodeOf.made .listType [("type", r.node)]).attrs.lookup "type" = some r.node := rfl
    rw [node, Value.print, NodeOf.GoesBy.role ⟨rfl, rfl, rfl⟩]
    simp only [ok_bind, NodeOf.part_eq_ok of, node_print r]
    rfl
  | nonNull r => by
    have of : (NodeOf.made .nonNullType [("type", r.node)]).attrs.lookup "type" = some r.node := rfl
    rw [node, Value.print, NodeOf.GoesBy.role ⟨rfl, rfl, rfl⟩]
    simp only [ok_bind, NodeOf.part_eq_ok of, node_print r]
    rfl

end TypeRef

/-! ### What references resolve to -/

/-- A reference resolves to nothing if no type of its name is registered, whatever stands on what in it.
Otherwise it is refused if one of its non-nulls stands directly on another one, and if none does, it resolves
to a type that is shown by the text of the reference and ends in the very type that is registered. -/
theorem Schema.resolve_written (s : Schema) (types : List NamedType) (mapId id : Nat) {v : Value}
    {r : TypeRef} (h : v.IsTypeNode r) :
    (registered? types r.name = none →
      (s.resolve (.registry types mapId id) v).result = .ok .null) ∧
    ∀ n, registered? types r.name = some n →
      (r.isSingle = false → ∃ inner, r.doubled? = some inner ∧
        (s.resolve (.registry types mapId id) v).result = .error (.wrapsNonNull inner.text) ∧
        (Fault.wrapsNonNull inner.text).cls = .type) ∧
      (r.isSingle = true → ∃ t text i, (s.resolve (.registry types mapId id) v).result = .ok (.type t) ∧
        (Value.type t).display = .ok text ∧ v.print = .ok (.str text i) ∧ t.base = n) := by
  rw [h.resolve, TypeRef.meaning]
  constructor
  · intro unknown
    rw [TypeRef.type?_eq_none.2 unknown]
  · intro n known
    cases type : r.type? types with
    | none =>
      rw [TypeRef.type?_eq_none.1 type] at known
      cases known
    | some t =>
      constructor
      · intro stacked
        cases doubled : r.doubled? with
        | none =>
          rw [TypeRef.doubled?_eq_none.1 doubled] at stacked
          cases stacked
        | some inner => exact ⟨inner, rfl, rfl, rfl⟩
      · intro single
        rw [TypeRef.doubled?_eq_none.2 single]
        obtain ⟨i, printed⟩ := h.print
        rw [← TypeRef.type?_text type] at printed
        have base : t.base = n := Option.some.inj ((TypeRef.type?_registered type).symm.trans known)
        exact ⟨t, t.text, i, rfl, rfl, printed, base⟩

/-- Among the built-in scalars: a name that is not there, below doubled non-nulls; doubled non-nulls around
one that is; and a list of it with non-nulls on both sides. -/
theorem Schema.resolve_written_builtin :
    (treeSchema.resolve (.registry builtinTypes 0 0)
        (TypeRef.nonNull (.nonNull (.named "Dairy"))).node).result = .ok .null ∧
    (∃ inner, (TypeRef.list (.nonNull (.nonNull (.named "Int")))).doubled? = some inner ∧
      (treeSchema.resolve (.registry builtinTypes 0 0)
        (TypeRef.list (.nonNull (.nonNull (.named "Int")))).node).result =
        .error (.wrapsNonNull inner.text) ∧ (Fault.wrapsNonNull inner.text).cls = .type) ∧
    ∃ t text i, (treeSchema.resolve (.registry builtinTypes 0 0)
        (TypeRef.nonNull (.list (.nonNull (.named "Int")))).node).result = .ok (.type t) ∧
      (Value.type t).display = .ok text ∧
      (TypeRef.nonNull (.list (.nonNull (.named "Int")))).node.print = .ok (.str text i) ∧
      t.base = ⟨1, "Int", .scalar, constant⟩ :=
  ⟨(resolve_written treeSchema builtinTypes 0 0 (TypeRef.node_isTypeNode _)).1 rfl,
    ((resolve_written treeSchema builtinTypes 0 0 (TypeRef.node_isTypeNode _)).2 _ rfl).1 rfl,
    ((resolve_written treeSchema builtinTypes 0 0 (TypeRef.node_isTypeNode _)).2 _ rfl).2 rfl⟩

end QueryDefaults
