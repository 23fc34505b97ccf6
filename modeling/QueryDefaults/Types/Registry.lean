import QueryDefaults.Types.Builtin

/-!
Registries. A registry lists the built-in scalars, the named types below the given types, and the
types of the fields of all input objects among them. It holds input types only, one of each name.
-/

namespace QueryDefaults

/-! ### Collecting types -/

/-- Whether a type is among those collected so far. -/
def isCollected (seen : List NamedType) (id : Nat) : Bool := seen.any (·.id == id)

/-- The number of definitions that are not among the types collected so far. -/
def Schema.uncollected (s : Schema) (seen : List NamedType) : Nat :=
  (List.range s.defs.length).countP fun id => !isCollected seen id

theorem countP_lt_countP {α : Type} {p q : α → Bool} {x : α} {l : List α} (hx : x ∈ l)
    (hp : p x = false) (hq : q x = true) (h : ∀ y, p y = true → q y = true) :
    l.countP p < l.countP q := by
  induction l with
  | nil => cases hx
  | cons y l ih =>
    have le : l.countP p ≤ l.countP q := List.countP_mono_left fun y _ => h y
    rcases List.mem_cons.1 hx with rfl | hx
    · simp only [List.countP_cons, hp, hq]
      simp only [Bool.false_eq_true, if_false, if_true]
      omega
    · have := ih hx
      have step : (if p y = true then 1 else 0) ≤ (if q y = true then 1 else 0) := by
        by_cases hy : p y = true
        · simp [hy, h y hy]
        · simp [hy]
      simp only [List.countP_cons]
      omega

theorem isCollected_of_cons {seen : List NamedType} {n : NamedType} {id : Nat}
    (h : (!isCollected (n :: seen) id) = true) : (!isCollected seen id) = true := by
  simp only [isCollected, List.any_cons, Bool.not_or, Bool.and_eq_true] at h ⊢
  exact h.2

theorem Schema.uncollected_cons_le (s : Schema) (seen : List NamedType) (n : NamedType) :
    s.uncollected (n :: seen) ≤ s.uncollected seen :=
  List.countP_mono_left fun _ _ => isCollected_of_cons

theorem Schema.uncollected_cons_lt {s : Schema} {seen : List NamedType} {n : NamedType}
    (hn : n.id < s.defs.length) (hs : isCollected seen n.id = false) :
    s.uncollected (n :: seen) < s.uncollected seen :=
  countP_lt_countP (List.mem_range.2 hn) (by simp [isCollected]) (by simp [hs])
    fun _ => isCollected_of_cons

/-- Collects named types in the order in which a search that goes down first meets them: the types
still to be looked at stand in `todo`, those already met in `seen`, latest first. -/
def Schema.collect (s : Schema) (seen : List NamedType) : List Ty → Traced (List NamedType)
  | [] => return seen.reverse
  | t :: todo =>
    let n := t.base
    if isCollected seen n.id then s.collect seen todo
    else if n.sort = .inputObject then
      if n.id < s.defs.length then do
        let fields ← s.fields n
        s.collect (n :: seen) (fields.map (·.2.type) ++ todo)
      else throw .noAttribute
    else s.collect (n :: seen) todo
termination_by todo => (s.uncollected seen, todo.length)
decreasing_by
  · exact Prod.Lex.right _ (Nat.lt_succ_self _)
  · rename_i hs _ hn
    exact Prod.Lex.left _ _ (s.uncollected_cons_lt hn (by simpa using hs))
  · rcases Nat.lt_or_eq_of_le (s.uncollected_cons_le seen t.base) with h | h
    · exact Prod.Lex.left _ _ h
    · rw [h]
      exact Prod.Lex.right _ (Nat.lt_succ_self _)

/-! ### Registries -/

/-- Checks that types are input types with names of their own; `before` stands before them. -/
def checkRegistered (before : List NamedType) : List NamedType → Except Fault (List NamedType)
  | [] => return before.reverse
  | n :: ns =>
    if n.sort = .other then throw (.refused .registeredType (.type (.named n)))
    else if before.any (·.name == n.name) then throw (.registersTwice n.name)
    else checkRegistered (n :: before) ns

/-- A collection of types. -/
def typeCollection (v : Value) : Except Fault (List Ty) :=
  match v with
  | .null => return []
  | .str .. | .mapping .. | .foreign .bytes _ => throw .typesNotCollection
  | v => do
    let items ← v.toList
    match items.mapM Value.type? with
    | some types => return types
    | none => throw .typesNotCollection

/-- The types of a registry for a collection of types. -/
def Schema.register (s : Schema) (types : Value) : Traced (List NamedType) := do
  let types ← typeCollection types
  let all ← s.collect builtinTypes.reverse types
  checkRegistered [] all

/-- The type of a name in a registry. -/
def registered? (types : List NamedType) (name : String) : Option NamedType :=
  types.find? (·.name == name)

/-- The type that a registry has for a key; what cannot be a key is refused. -/
def registeredAt (types : List NamedType) (key : Value) : Traced (Option NamedType) := do
  let _ ← Traced.keyDigest key
  match key with
  | .str name _ => return registered? types name
  | _ => return none

/-- A value as a registry. -/
def checkRegistry (v : Value) : Except Fault (List NamedType) :=
  match v with
  | .registry types .. => return types
  | v => throw (.refused .registry v)

end QueryDefaults
