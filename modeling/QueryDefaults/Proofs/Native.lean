import QueryDefaults.Proofs.Coerced

/-!
Native values of lists and objects. A list has the native values of its items in their order, and an object
the mapping that comes of putting those of its entries one after the other (`native_list`, `native_object`).
Names are texts, so putting a value never fails: a name that is there already keeps its place, a new one
comes to the end (`putAt_named`).
-/

namespace QueryDefaults

/-! ### Runs through lists -/

namespace Traced

variable {α β : Type}

theorem result_mapM (f : α → Traced β) : ∀ xs : List α,
    (xs.mapM f).result = xs.mapM fun x => (f x).result
  | [] => rfl
  | x :: xs => by
    rw [List.mapM_cons, List.mapM_cons, result_bind]
    cases (f x).result with
    | error e => rfl
    | ok y =>
      show ((xs.mapM f >>= fun ys => pure (y :: ys)) : Traced (List β)).result = _
      rw [result_bind, result_mapM f xs]
      rfl

theorem result_foldlM (f : β → α → Traced β) : ∀ (xs : List α) (b : β),
    (xs.foldlM f b).result = xs.foldlM (fun b x => (f b x).result) b
  | [], _ => rfl
  | x :: xs, b => by
    rw [List.foldlM_cons, List.foldlM_cons, result_bind]
    cases (f b x).result with
    | error e => rfl
    | ok c => exact result_foldlM f xs c

end Traced

/-! ### Entries of mappings -/

/-- Whether an entry has a text as its key, with the digest of this text. -/
def EntryOf.IsNamed (e : Entry) (name : String) : Prop :=
  e.digest = .ofText name ∧ ∃ i, e.key = .str name i

theorem Value.isItem_text (name other : String) (i j : Nat) :
    (Value.str name i).isItem (.str other j) = .ok (name == other) := by
  cases same : name == other <;> simp [isItem, Value.same, equals, isText, same] <;> rfl

/-- The key of an entry is one text only. -/
theorem EntryOf.IsNamed.unique {e : Entry} {a b : String} (ha : e.IsNamed a) (hb : e.IsNamed b) : a = b := by
  obtain ⟨_, i, key⟩ := ha
  obtain ⟨_, j, key'⟩ := hb
  exact (Value.str.inj (key.symm.trans key')).1

theorem Value.isItem_of_equals {v w : Value} (equal : v.equals w = .ok true) : v.isItem w = .ok true := by
  rw [isItem, equal]
  exact ite_self _

/-- A test that different texts do not pass comes out the same if their digests are compared before it. -/
theorem Digest.ofText_guard {name other : String} {test : Bool} (passes : test = true → name = other) :
    (if Digest.ofText name == .ofText other then .ok test else .ok false : Except Fault Bool) = .ok test := by
  cases test with
  | true =>
    rw [passes rfl, BEq.rfl]
    rfl
  | false => exact ite_self _

/-- Whether an entry with a text as its key has a given text as its key is told by the texts. -/
theorem Value.isKeyOf_named {e : Entry} {name : String} (named : e.IsNamed name) (other : String) (i : Nat) :
    (Value.str other i).isKeyOf (.ofText other) e = .ok (name == other) := by
  obtain ⟨digest, j, key⟩ := named
  rw [isKeyOf, digest, key, isItem_text]
  exact Digest.ofText_guard fun same => (eq_of_beq same).symm

/-- Among entries with different texts as their keys one is found by its text. -/
theorem Value.firstEntry_named {name : String} (i : Nat) {e : Entry} (here : e.IsNamed name) :
    ∀ {es : List Entry}, (∀ f ∈ es, ∃ k, f.IsNamed k) →
      (es.Pairwise fun f g => ∀ k, f.IsNamed k → ¬ g.IsNamed k) → e ∈ es →
      firstEntry (fun f => if Digest.ofText name == f.digest then
          (if (Value.str name i).same f.key then return true else (Value.str name i).equals f.key)
        else return false) es = .ok (some e)
  | f :: es, named, distinct, mem => by
    obtain ⟨⟨k, there⟩, namedRest⟩ := List.forall_mem_cons.1 named
    obtain ⟨apart, distinctRest⟩ := List.pairwise_cons.1 distinct
    have test : (if Digest.ofText name == f.digest then
        (if (Value.str name i).same f.key then return true else (Value.str name i).equals f.key)
        else return false : Except Fault Bool) = .ok (name == k) := by
      obtain ⟨digest, j, key⟩ := there
      rw [digest, key]
      refine Eq.trans ?_ (Digest.ofText_guard fun same => eq_of_beq same)
      rw [← isItem_text name k i j]
      rfl
    rw [firstEntry, test, ok_bind]
    rcases List.mem_cons.1 mem with rfl | later
    · rw [here.unique there, BEq.rfl]
      rfl
    · have ne : name ≠ k := by
        rintro rfl
        exact apart e later name there here
      rw [beq_eq_false_iff_ne.2 ne]
      exact firstEntry_named i here namedRest distinctRest later

/-- Among entries with texts as their keys a value can be put at a text, and the keys remain texts. -/
theorem putAt_named (name : String) (i : Nat) (v : Value) : ∀ {es : List Entry},
    (∀ e ∈ es, ∃ k, e.IsNamed k) → ∃ fs, putAt (.ofText name) (.str name i) v es = .ok fs ∧
      ∀ f ∈ fs, ∃ k, f.IsNamed k
  | [], _ => ⟨_, rfl, List.forall_mem_singleton.2 ⟨name, rfl, i, rfl⟩⟩
  | e :: es, named => by
    obtain ⟨⟨k, here⟩, rest⟩ := List.forall_mem_cons.1 named
    obtain ⟨fs, put, after⟩ := putAt_named name i v rest
    rw [putAt, Value.isKeyOf_named here, ok_bind]
    cases k == name with
    | true => exact ⟨_, rfl, List.forall_mem_cons.2 ⟨⟨k, here⟩, rest⟩⟩
    | false =>
      refine ⟨e :: fs, ?_, List.forall_mem_cons.2 ⟨⟨k, here⟩, after⟩⟩
      simp only [Bool.false_eq_true, if_false]
      rw [put]
      rfl

/-- A value that is put at a new text comes to the end. -/
theorem putAt_new (name : String) (i : Nat) (v : Value) : ∀ {es : List Entry},
    (∀ e ∈ es, ∃ k, e.IsNamed k ∧ k ≠ name) →
      putAt (.ofText name) (.str name i) v es = .ok (es ++ [⟨.ofText name, .str name i, v⟩])
  | [], _ => rfl
  | e :: es, named => by
    obtain ⟨⟨k, here, ne⟩, rest⟩ := List.forall_mem_cons.1 named
    rw [putAt, Value.isKeyOf_named here, ok_bind, beq_eq_false_iff_ne.2 ne]
    simp only [Bool.false_eq_true, if_false]
    rw [putAt_new name i v rest]
    rfl

/-! ### Native values of lists and objects -/

/-- Puts the native value of an entry into the mapping that there is so far, at the name of the entry. -/
def putNative (es : List Entry) (field : Value) : Except Fault (List Entry) := do
  let key ← field.nameValue
  let value ← field.part "value"
  let native ← value.val.native.result
  let digest ← key.digest
  putAt digest key native es

/-- The name of an entry is a text. -/
theorem Value.IsEntry.putNative {e v : Value} {name : String} (h : e.IsEntry name v) :
    ∃ i, ∀ es, putNative es e = v.native.result >>= fun w => putAt (.ofText name) (.str name i) w es := by
  obtain ⟨i, key⟩ := h.nameValue
  obtain ⟨lt, value⟩ := h.part
  refine ⟨i, fun es => ?_⟩
  rw [QueryDefaults.putNative, key, ok_bind, value, ok_bind]
  rfl

section Containers

variable {n : Node} {xs : List Value} {i : Nat}

/-- A list has the native values of its items, in their order. -/
theorem native_list (goesBy : n.GoesBy .listValue) (values : n.attrs.lookup "values" = some (.tuple xs i)) :
    (Value.node n).native.result = (xs.mapM fun x => (Value.native x).result).map fun ws => .list ws := by
  obtain ⟨items, found, all⟩ := Value.items_tuple xs i
  rw [Value.native, Traced.result_bind_ok (a := some Kind.listValue) goesBy.role]
  dsimp only
  rw [Traced.result_bind_ok (Value.part_of_lookup values)]
  dsimp only
  rw [Traced.result_bind_ok found, Traced.result_bind, Traced.result_mapM,
    List.mapM_subtype (g := fun x => (Value.native x).result) fun _ _ => rfl, List.unattach, all]
  rfl

/-- An object has the mapping that comes of its entries, one after the other. -/
theorem native_object (goesBy : n.GoesBy .objectValue)
    (fields : n.attrs.lookup "fields" = some (.tuple xs i)) :
    (Value.node n).native.result = (xs.foldlM putNative []).map fun es => .mapping es := by
  obtain ⟨items, found, all⟩ := Value.items_tuple xs i
  rw [Value.native, Traced.result_bind_ok (a := some Kind.objectValue) goesBy.role]
  dsimp only
  rw [Traced.result_bind_ok (Value.part_of_lookup fields)]
  dsimp only
  rw [Traced.result_bind_ok found, Traced.result_bind, Traced.result_foldlM,
    List.foldlM_subtype (g := putNative) fun es x _ => ?_, List.unattach, all]
  · rfl
  · simp only [Traced.result_bind, putNative]
    rfl

/-- A variable has no native value. -/
theorem native_variable (goesBy : n.GoesBy .variableUse) :
    (Value.node n).native.result = .error (.refused .literal (.node n)) := by
  rw [Value.native, Traced.result_bind_ok (a := some Kind.variableUse) goesBy.role]
  rfl

/-- The native value of null is null. -/
theorem native_null (goesBy : n.GoesBy .nullValue) : (Value.node n).native.result = .ok .null := by
  rw [Value.native, Traced.result_bind_ok (a := some Kind.nullValue) goesBy.role]
  rfl

/-- An enum value is stored as its native value. -/
theorem native_enum {w : Value} (goesBy : n.GoesBy .enumValue)
    (value : n.attrs.lookup "value" = some w) : (Value.node n).native.result = .ok w := by
  rw [Value.native, Traced.result_bind_ok (a := some Kind.enumValue) goesBy.role]
  exact NodeOf.attr_of_lookup value

end Containers

end QueryDefaults
