import Mathlib.Logic.Relation
import QueryDefaults.Proofs.Parts

/-!
Relaxed types. One input type relaxes another if non-nulls are dropped, fields become nullable or get a
default, fields that are not required and enum values are added, and nothing else changes, down to the types
of the fields (`Schema.Relaxes`). Types refer to each other in circles, so this is no relation by recursion on
types: it is stated of two schemas and a relation of their named types that is kept from each type to the
types of its fields. What conforms to a type conforms to every type that relaxes it (`Conforms.relax`); the
induction is on conformance, which goes down the literal and so comes to an end where the types do not.
-/

namespace QueryDefaults

/-! ### The relation -/

section Relation

variable (R : NamedType → NamedType → Prop)

/-- Whether a type is written as another one with some of its non-nulls dropped, the named types being
related. -/
inductive Ty.Relaxes : Ty → Ty → Prop where
  | named {n m : NamedType} (related : R n m) : Relaxes (.named n) (.named m)
  | list {t u : Ty} {i j : Nat} (item : Relaxes t u) : Relaxes (.list t i) (.list u j)
  | nonNull {t u : Ty} {i j : Nat} (below : Relaxes t u) : Relaxes (.nonNull t i) (.nonNull u j)
  | wrapper {t u : Ty} {i j : Nat} (below : Relaxes t u) : Relaxes (.wrapper t i) (.wrapper u j)
  | drop {t u : Ty} {i : Nat} (below : Relaxes t u) : Relaxes (.nonNull t i) u

/-- Whether a field relaxes another one: its type does, and a default may be given but not taken away. -/
structure InputFieldOf.Relaxes (f g : InputField) : Prop where
  type : f.type.Relaxes R g.type
  default : f.default.isUndefined = false → g.default.isUndefined = false

/-- Whether the fields of an input object relax those of another one: all names stay declared, and a field
either relaxes the one of its name or is added and not required. -/
structure FieldsRelax (declared relaxed : List (String × InputField)) : Prop where
  kept : ∀ f ∈ declared, f.1 ∈ relaxed.map Prod.fst
  each : ∀ g ∈ relaxed, (∃ f ∈ declared, f.1 = g.1 ∧ f.2.Relaxes R g.2) ∨
    g.1 ∉ declared.map Prod.fst ∧ g.2.isRequired = false

/-- Whether the named types of a schema relax those of another one that they are related to. -/
structure Schema.Relaxes (s s' : Schema) : Prop where
  sort : ∀ {n m}, R n m → m.sort = n.sort
  fields : ∀ {n m declared}, R n m → n.sort = .inputObject → (s.fields n).result = .ok declared →
    ∃ relaxed, (s'.fields m).result = .ok relaxed ∧ FieldsRelax R declared relaxed
  values : ∀ {n m name}, R n m → n.sort = .enum → name ∈ (s.enumValues n).map Prod.fst →
    name ∈ (s'.enumValues m).map Prod.fst
  scalar : ∀ {n m}, R n m → n.sort = .scalar → ∀ v,
    (s'.coerceLiteral (.type (.named m)) v).result = (s.coerceLiteral (.type (.named n)) v).result

end Relation

section Kept

variable {R : NamedType → NamedType → Prop} {s s' : Schema}

/-- Every type relaxes itself. -/
theorem Ty.Relaxes.refl (same : ∀ n, R n n) : ∀ t : Ty, t.Relaxes R t
  | .named n => .named (same n)
  | .list t _ => .list (refl same t)
  | .nonNull t _ => .nonNull (refl same t)
  | .wrapper t _ => .wrapper (refl same t)

/-- A nullable type stays nullable. -/
theorem Ty.Relaxes.nullable {t u : Ty} (h : t.Relaxes R u) (nullable : t.isNonNull = false) :
    u.isNonNull = false := by
  cases h with
  | nonNull => cases nullable
  | drop => cases nullable
  | _ => rfl

/-- A field that is not required stays so. -/
theorem InputFieldOf.Relaxes.optional {f g : InputField} (h : f.Relaxes R g)
    (optional : f.type.isNonNull = false ∨ f.default.isUndefined = false) :
    g.type.isNonNull = false ∨ g.default.isUndefined = false :=
  optional.imp h.type.nullable h.default

theorem InputFieldOf.isRequired_eq_false {f : InputField} :
    f.isRequired = false ↔ f.type.isNonNull = false ∨ f.default.isUndefined = false :=
  Bool.and_eq_false_iff

/-! ### Relaxing in several steps -/

theorem Ty.Relaxes.comp {Q : NamedType → NamedType → Prop} {t u w : Ty} (h : t.Relaxes R u)
    (g : u.Relaxes Q w) : t.Relaxes (Relation.Comp R Q) w := by
  induction h generalizing w with
  | named related =>
    cases g with
    | named next => exact .named ⟨_, related, next⟩
  | list _ ih =>
    cases g with
    | list item => exact .list (ih item)
  | nonNull _ ih =>
    cases g with
    | nonNull below => exact .nonNull (ih below)
    | drop below => exact .drop (ih below)
  | wrapper _ ih =>
    cases g with
    | wrapper below => exact .wrapper (ih below)
  | drop _ ih => exact .drop (ih g)

theorem FieldsRelax.comp {Q : NamedType → NamedType → Prop} {a b c : List (String × InputField)}
    (h : FieldsRelax R a b) (g : FieldsRelax Q b c) : FieldsRelax (Relation.Comp R Q) a c := by
  constructor
  · intro f hf
    obtain ⟨f', hf', same⟩ := List.mem_map.1 (h.kept f hf)
    exact same ▸ g.kept f' hf'
  · intro f'' hf''
    rcases g.each f'' hf'' with ⟨f', hf', same', relaxed'⟩ | ⟨added, optional⟩
    · rcases h.each f' hf' with ⟨f, hf, same, relaxed⟩ | ⟨added, optional⟩
      · exact .inl ⟨f, hf, same.trans same', relaxed.type.comp relaxed'.type,
          relaxed'.default ∘ relaxed.default⟩
      · refine .inr ⟨same' ▸ added, ?_⟩
        rw [InputFieldOf.isRequired_eq_false] at optional ⊢
        exact relaxed'.optional optional
    · refine .inr ⟨fun mem => added ?_, optional⟩
      obtain ⟨f, hf, same⟩ := List.mem_map.1 mem
      exact same ▸ h.kept f hf

/-- Relaxing a schema step by step, in any combination, is relaxing it. -/
theorem Schema.Relaxes.comp {Q : NamedType → NamedType → Prop} {s'' : Schema} (h : s.Relaxes R s')
    (g : s'.Relaxes Q s'') : s.Relaxes (Relation.Comp R Q) s'' where
  sort := by
    rintro n k ⟨m, related, next⟩
    exact (g.sort next).trans (h.sort related)
  fields := by
    rintro n k declared ⟨m, related, next⟩ sort fields
    obtain ⟨relaxed, fields', first⟩ := h.fields related sort fields
    obtain ⟨twice, fields'', second⟩ := g.fields next ((h.sort related).trans sort) fields'
    exact ⟨twice, fields'', first.comp second⟩
  values := by
    rintro n k name ⟨m, related, next⟩ sort known
    exact g.values next ((h.sort related).trans sort) (h.values related sort known)
  scalar := by
    rintro n k ⟨m, related, next⟩ sort v
    exact (g.scalar next ((h.sort related).trans sort) v).trans (h.scalar related sort v)

/-! ### What conforms still does -/

/-- What conforms to a type conforms to every type that relaxes it. The induction is on conformance, with one
case for each of its clauses; the relaxed type is read off the form of the type. -/
theorem Conforms.relax (relaxes : s.Relaxes R s') {v : Value} {t u : Ty} (h : Conforms s v t)
    (relaxed : t.Relaxes R u) : Conforms s' v u := by
  induction h generalizing u with
  | null literal nullable => exact .null literal (relaxed.nullable nullable)
  | nonNull literal _ ih =>
    cases relaxed with
    | nonNull below => exact .nonNull literal (ih below)
    | drop below => exact ih below
  | list literal _ ih =>
    cases relaxed with
    | list item => exact .list literal fun x hx => ih x hx item
  | @object v n declared sort literal fields known _ absent ih =>
    cases relaxed with
    | named related =>
      obtain ⟨fields', resolved, declares⟩ := relaxes.fields related sort fields
      refine .object ((relaxes.sort related).trans sort) literal resolved ?_ ?_ ?_
      · intro e he
        obtain ⟨f, hf, same⟩ := List.mem_map.1 (known e he)
        exact same ▸ declares.kept f hf
      · intro g hg w given
        rcases declares.each g hg with ⟨f, hf, same, relaxed⟩ | ⟨added, _⟩
        · exact ih f hf w (same ▸ given) relaxed.type
        · exact absurd (known _ (Value.mem_of_lastEntry? given)) added
      · intro g hg none
        rcases declares.each g hg with ⟨f, hf, same, relaxed⟩ | ⟨_, optional⟩
        · exact relaxed.optional (absent f hf (same ▸ none))
        · exact InputFieldOf.isRequired_eq_false.1 optional
  | enum sort literal stored known =>
    cases relaxed with
    | named related =>
      exact .enum ((relaxes.sort related).trans sort) literal stored (relaxes.values related sort known)
  | scalar sort literal coerced accepted =>
    cases relaxed with
    | named related =>
      exact .scalar ((relaxes.sort related).trans sort) literal
        ((relaxes.scalar related sort _).trans coerced) accepted

/-- A literal that is valid for a type is valid for every type that relaxes it. -/
theorem Schema.check_relaxed (relaxes : s.Relaxes R s') {v : Value} (h : v.IsLiteral) {t u : Ty}
    (relaxed : t.Relaxes R u) (accepted : (s.check v t).result = .ok none) :
    (s'.check v u).result = .ok none :=
  (Schema.check_iff h u).2 (((Schema.check_iff h t).1 accepted).relax relaxes relaxed)

end Kept

/-! ### A tree with looser fields -/

/-- The scalars of a schema with one input object do not depend on its fields. -/
theorem objectSchema_coerceLiteral {name : String} {n : NamedType} (hn : n ∈ objectTypes name)
    (sort : n.sort = .scalar) (fields others : List (String × InputField)) (v : Value) :
    ((objectSchema name others).coerceLiteral (.type (.named n)) v).result =
      ((objectSchema name fields).coerceLiteral (.type (.named n)) v).result := by
  simp only [objectTypes, builtinTypes, builtinDefs, List.zipIdx, List.map_cons, List.map_nil,
    List.cons_append, List.nil_append, List.mem_cons, List.not_mem_nil, or_false] at hn
  rcases hn with rfl | rfl | rfl | rfl | rfl | rfl
  · rfl
  · rfl
  · rfl
  · rfl
  · rfl
  · cases sort

/-- Relaxing the fields of its one input object relaxes a schema. -/
theorem objectSchema_relaxes {name : String} {fields relaxed : List (String × InputField)}
    (h : FieldsRelax (fun n m => n = m ∧ n ∈ objectTypes name) fields relaxed) :
    (objectSchema name fields).Relaxes (fun n m => n = m ∧ n ∈ objectTypes name)
      (objectSchema name relaxed) where
  sort := by
    rintro n _ ⟨rfl, _⟩
    rfl
  fields := by
    rintro n _ declared ⟨rfl, hn⟩ sort resolved
    rcases @objectTypes_cases name fields n hn with rfl | ⟨_, scalar, _⟩
    · rw [objectSchema_fields] at resolved
      cases resolved
      exact ⟨relaxed, objectSchema_fields, h⟩
    · rw [scalar] at sort
      cases sort
  values := by
    rintro n _ _ ⟨rfl, hn⟩ sort _
    rcases @objectTypes_cases name fields n hn with rfl | ⟨_, scalar, _⟩
    · cases sort
    · rw [scalar] at sort
      cases sort
  scalar := by
    rintro n _ ⟨rfl, hn⟩ sort v
    exact objectSchema_coerceLiteral hn sort fields relaxed v

/-- The fields of the tree with a label that is not required, and a note that has a default. -/
def looseFields : List (String × InputField) := [
  ("note", ⟨0, .nonNull textType, .str "", .null, .null⟩),
  ("label", ⟨0, textType, .undefined, .null, .null⟩),
  ("below", ⟨0, .named (objectType "Tree"), .undefined, .null, .null⟩)]

theorem looseFields_relax : FieldsRelax (fun n m => n = m ∧ n ∈ treeTypes) treeFields looseFields where
  kept := by decide
  each := by
    intro g hg
    simp only [looseFields, List.mem_cons, List.not_mem_nil, or_false] at hg
    rcases hg with rfl | rfl | rfl
    · exact .inr ⟨by decide, rfl⟩
    · exact .inl ⟨_, List.mem_cons_self .., rfl, .drop (.named ⟨rfl, by decide⟩), nofun⟩
    · exact .inl ⟨_, List.mem_cons_of_mem _ (List.mem_cons_self ..), rfl,
        .named ⟨rfl, by decide⟩, nofun⟩

/-- A leaf is valid for the tree, and so for the tree with looser fields. -/
theorem leafLiteral_relaxed :
    (treeSchema.check leafLiteral (.named (objectType "Tree"))).result = .ok none ∧
      ((objectSchema "Tree" looseFields).check leafLiteral (.named (objectType "Tree"))).result =
        .ok none := by
  have literal : leafLiteral.IsLiteral := Value.objectNode_isLiteral
    (List.forall_mem_singleton.2 (Value.textNode_isLiteral (by decide) "a"))
  have accepted : (treeSchema.check leafLiteral (.named (objectType "Tree"))).result = .ok none :=
    @treeSchema_check_label [("label", .textNode .stringValue "a")] "a" (by decide) rfl rfl
  exact ⟨accepted, Schema.check_relaxed (objectSchema_relaxes looseFields_relax) literal
    (.named ⟨rfl, by decide⟩) accepted⟩

end QueryDefaults
