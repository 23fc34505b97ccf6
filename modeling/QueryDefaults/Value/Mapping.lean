import QueryDefaults.Value.Equality

/-!
Mappings keep the order in which their keys came in; a key that comes again keeps its place and takes
the later value. A key is found by the digest that it had when it was put there; it is compared with keys
of the same digest only, which may fail.
-/

namespace QueryDefaults

namespace Value

/-- Whether a key with a digest is that of an entry: of one digest, and one object or equal. -/
def isKeyOf (digest : Digest) (key : Value) (e : Entry) : Except Fault Bool :=
  if digest == e.digest then e.key.isItem key else return false

/-- The value at a key of an ordered mapping. -/
def valueAt? (digest : Digest) (key : Value) : List Entry → Except Fault (Option Value)
  | [] => return none
  | e :: es => do
    if ← key.isKeyOf digest e then return some e.value
    valueAt? digest key es

end Value

/-- The pairs in a mapping. -/
def pairsOf (es : List Entry) : List (Value × Value) := es.map fun e => (e.key, e.value)

/-- Puts a value at a key: in the place of an equal key, or at the end. -/
def putAt (digest : Digest) (key v : Value) : List Entry → Except Fault (List Entry)
  | [] => return [⟨digest, key, v⟩]
  | e :: es => do
    if ← key.isKeyOf digest e then return { e with value := v } :: es
    let es ← putAt digest key v es
    return e :: es

/-- Puts a value at a name: in the place of that name, or at the end. -/
def putNamed {α : Type} (name : String) (a : α) : List (String × α) → List (String × α)
  | [] => [(name, a)]
  | (k, b) :: es => if k = name then (k, a) :: es else (k, b) :: putNamed name a es

@[simp]
theorem lookup_putNamed_self {α : Type} (name : String) (a : α) (es : List (String × α)) :
    (putNamed name a es).lookup name = some a := by
  induction es with
  | nil => simp [putNamed]
  | cons e es ih =>
    obtain ⟨k, b⟩ := e
    by_cases h : k = name
    · simp [putNamed, h]
    · have hk : (name == k) = false := beq_eq_false_iff_ne.2 (Ne.symm h)
      simp only [putNamed, if_neg h, List.lookup_cons, hk, ih]

theorem lookup_putNamed_of_ne {α : Type} {k name : String} (h : k ≠ name) (a : α)
    (es : List (String × α)) : (putNamed name a es).lookup k = es.lookup k := by
  induction es with
  | nil => simp [putNamed, List.lookup_cons, beq_eq_false_iff_ne.2 h]
  | cons e es ih =>
    obtain ⟨l, b⟩ := e
    by_cases hl : l = name
    · have hk : (k == l) = false := beq_eq_false_iff_ne.2 (hl ▸ h)
      simp only [putNamed, if_pos hl, List.lookup_cons, hk]
    · simp only [putNamed, if_neg hl, List.lookup_cons, ih]

theorem mem_putNamed {α : Type} {name : String} {a : α} {es : List (String × α)} {e : String × α}
    (h : e ∈ putNamed name a es) : e = (name, a) ∨ e ∈ es := by
  induction es with
  | nil => exact .inl (List.mem_singleton.1 h)
  | cons f es ih =>
    obtain ⟨k, b⟩ := f
    by_cases same : k = name
    · rw [putNamed, if_pos same, same] at h
      exact (List.mem_cons.1 h).imp_right (List.mem_cons_of_mem _)
    · rw [putNamed, if_neg same] at h
      rcases List.mem_cons.1 h with rfl | h
      · exact .inr (List.mem_cons_self ..)
      · exact (ih h).imp_right (List.mem_cons_of_mem _)

/-- Putting a value keeps the order of the names; only a new name comes to the end. -/
theorem keys_putNamed {α : Type} (name : String) (a : α) (es : List (String × α)) :
    (putNamed name a es).map Prod.fst =
      if name ∈ es.map Prod.fst then es.map Prod.fst else es.map Prod.fst ++ [name] := by
  induction es with
  | nil => simp [putNamed]
  | cons e es ih =>
    obtain ⟨k, b⟩ := e
    by_cases h : k = name
    · simp [putNamed, h]
    · have hn : name ≠ k := Ne.symm h
      by_cases hm : name ∈ es.map Prod.fst
      · rw [if_pos hm] at ih
        rw [if_pos (by rw [List.map_cons]; exact List.mem_cons_of_mem _ hm)]
        simp only [putNamed, if_neg h, List.map_cons, ih]
      · rw [if_neg hm] at ih
        rw [if_neg (by rw [List.map_cons, List.mem_cons]; exact not_or.2 ⟨hn, hm⟩)]
        simp only [putNamed, if_neg h, List.map_cons, ih, List.cons_append]

end QueryDefaults
