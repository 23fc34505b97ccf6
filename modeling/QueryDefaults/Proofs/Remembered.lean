import QueryDefaults.Proofs.Registered

/-!
Fields that are remembered. The fields of an input object are resolved when they are first asked for, and
the definition then holds them, with numbers for the objects that were new. Numbers do not change what a
field has as its type (`numberFields_outline`), so the types that exist stay what they are and every input
object has fields with the same names and types as before (`Schema.fields_after`); and after a computation
that asked for them they are held (`Schema.held_after`). From then on they are only looked up: nothing is
called, and nothing can fail (`Schema.fields_of_held`).
-/

namespace QueryDefaults

/-! ### Numbers of new objects -/

theorem Ty.plain_base : ∀ t : Ty, t.plain.base = t.base
  | .named _ => rfl
  | .list t _ => plain_base t
  | .nonNull t _ => plain_base t
  | .wrapper t _ => plain_base t

/-- New numbers leave a type as it is otherwise. -/
theorem Ty.renumber_plain (f : Nat → StateM Nat Nat) :
    ∀ (t : Ty) (n : Nat), ((t.renumber f).run n).1.plain = t.plain
  | .named _, _ => rfl
  | .list t _, n => congrArg Ty.list (renumber_plain f t n)
  | .nonNull t _, n => congrArg Ty.nonNull (renumber_plain f t n)
  | .wrapper t _, n => congrArg Ty.wrapper (renumber_plain f t n)

theorem Value.numberedAs_eq_some {p : Nat → Bool} {v w : Value} (h : v.numberedAs p = some w) : w = v := by
  rw [numberedAs] at h
  split at h
  · split at h
    · exact (Option.some.inj h).symm
    · cases h
  · cases h

/-- A field with numbers is a field of the same type. -/
theorem number_inputField (f : InputField) (n : Nat) :
    ∃ g, ((Value.inputField f).number.run n).1 = .inputField g ∧ g.type.plain = f.type.plain := by
  obtain ⟨id, t, initial, description, deprecation⟩ := f
  rw [Value.number, Value.rebuild]
  cases known : Value.numberedAs (fun _ => true) (.inputField ⟨id, t, initial, description, deprecation⟩) with
  | some v => exact ⟨_, Value.numberedAs_eq_some known, rfl⟩
  | none => exact ⟨_, rfl, Ty.renumber_plain ..⟩

/-- The names of fields with their types, without the numbers in them. -/
def outline (fields : List (String × InputField)) : List (String × Ty) :=
  fields.map fun f => (f.1, f.2.type.plain)

theorem mem_outline {fields others : List (String × InputField)} (alike : outline fields = outline others)
    {f : String × InputField} (hf : f ∈ fields) :
    ∃ g ∈ others, g.1 = f.1 ∧ g.2.type.plain = f.2.type.plain := by
  have mem : (f.1, f.2.type.plain) ∈ outline others := alike ▸ List.mem_map_of_mem hf
  obtain ⟨g, hg, same⟩ := List.mem_map.1 mem
  obtain ⟨name, type⟩ := Prod.ext_iff.1 same
  exact ⟨g, hg, name, type⟩

theorem numberFields_outline : ∀ (fields : List (String × InputField)) (n : Nat),
    outline ((Schema.numberFields fields).run n).1 = outline fields
  | [], _ => rfl
  | (name, f) :: fields, n => by
    obtain ⟨g, numbered, same⟩ := number_inputField f n
    have first : (Value.inputField f).number.run n =
        (.inputField g, ((Value.inputField f).number.run n).2) := Prod.ext numbered rfl
    have rest := numberFields_outline fields ((Value.inputField f).number.run n).2
    rw [Schema.numberFields, List.mapM_cons]
    simp only [bind_assoc, StateT.run_bind]
    rw [first]
    show (name, g.type.plain) :: outline _ = (name, f.type.plain) :: outline fields
    rw [same]
    exact congrArg _ rest

/-! ### What becomes of a definition -/

/-- The fields that a definition holds, if they have been resolved. -/
def TypeDef.held? (d : TypeDef) : Option (List (String × InputField)) :=
  match d.body with
  | .inputObject _ held _ => held
  | _ => none

namespace Schema

/-- What becomes of a definition when fields are remembered: it stays what it is, or it is that of an input
object that had not been resolved, and holds the fields now. -/
inductive Settles (s : Schema) (d : TypeDef) : TypeDef → Prop where
  | same : Settles s d d
  | resolved {source : Value} {fields numbered : List (String × InputField)} {ids numbers : MapIds}
      (body : d.body = .inputObject source none ids) (given : (s.fieldsOf d).result = .ok fields)
      (alike : outline numbered = outline fields) :
      Settles s d { d with body := .inputObject source (some numbered) numbers }

section Settles

variable {s : Schema} {d e : TypeDef}

theorem fieldsOf_congr {later : Schema} (same : later.call = s.call) : later.fieldsOf d = s.fieldsOf d := by
  unfold fieldsOf Schema.given called
  rw [same]

/-- What a definition holds is what it has as its fields, whatever functions do. -/
theorem fieldsOf_held {fields : List (String × InputField)} (held : d.held? = some fields) :
    s.fieldsOf d = pure fields := by
  unfold TypeDef.held? at held
  split at held
  · next source found ids body =>
    subst held
    rw [fieldsOf, body]
  · cases held

/-- A definition that holds its fields stays what it is. -/
theorem Settles.eq_of_held (h : s.Settles d e) {fields : List (String × InputField)}
    (held : d.held? = some fields) : e = d := by
  cases h with
  | same => rfl
  | resolved body =>
    rw [TypeDef.held?, body] at held
    cases held

theorem Settles.typeAt (h : s.Settles d e) (place : Nat) : e.typeAt place = d.typeAt place := by
  cases h with
  | same => rfl
  | resolved body =>
    rw [TypeDef.typeAt, TypeDef.typeAt, body]
    rfl

/-- The fields stay the same but for numbers. -/
theorem Settles.fields (h : s.Settles d e) :
    (s.fieldsOf e).result.map outline = (s.fieldsOf d).result.map outline := by
  cases h with
  | same => rfl
  | resolved body given alike =>
    rw [given, fieldsOf_held rfl]
    exact congrArg Except.ok alike

theorem Settles.trans {later : Schema} {f : TypeDef} (h : s.Settles d e) (g : later.Settles e f)
    (call : later.call = s.call) : s.Settles d f := by
  cases h with
  | same =>
    cases g with
    | same => exact .same
    | resolved body given alike => exact .resolved body (fieldsOf_congr call ▸ given) alike
  | resolved body given alike =>
    rw [g.eq_of_held rfl]
    exact .resolved body given alike

end Settles

/-! ### Remembering fields -/

section Remember

variable {s : Schema} {d : TypeDef} {n : NamedType}

theorem remember_call (id : Nat) : (s.remember id).call = s.call := by
  unfold remember
  split
  · rfl
  · split
    · split <;> rfl
    · rfl

theorem remember_length (id : Nat) : (s.remember id).defs.length = s.defs.length := by
  unfold remember
  split
  · rfl
  · split
    · split
      · exact List.length_set
      · rfl
    · rfl

/-- To remember the fields of one type settles all definitions, and that of the type holds its fields if
they can be resolved. -/
theorem remember_settles (id : Nat) (defined : s.def? n = some d) :
    ∃ e, (s.remember id).def? n = some e ∧ s.Settles d e ∧
      (n.id = id → ∀ fields, (s.fieldsOf d).result = .ok fields → e.held?.isSome = true) := by
  unfold remember
  split
  · next missing =>
    refine ⟨d, defined, .same, fun here => ?_⟩
    subst here
    cases missing.symm.trans defined
  · next other found =>
    have same : n.id = id → d = other := by
      rintro rfl
      exact Option.some.inj (defined.symm.trans found)
    split
    · next source ids body =>
      split
      · next fields given =>
        by_cases here : n.id = id
        · subst here
          cases same rfl
          have bound := (List.getElem?_eq_some_iff.1 found).1
          exact ⟨_, List.getElem?_set_self bound,
            .resolved body given (numberFields_outline fields s.next), fun _ _ _ => rfl⟩
        · exact ⟨d, (List.getElem?_set_ne (Ne.symm here)).trans defined, .same, fun h => absurd h here⟩
      · next failed =>
        refine ⟨d, defined, .same, fun here fields given => ?_⟩
        rw [same here, failed] at given
        cases given
    · next resolved =>
      refine ⟨d, defined, .same, fun here fields given => ?_⟩
      rw [fieldsOf] at given
      split at given
      · next source held ids body =>
        rw [TypeDef.held?, body]
        rfl
      · next source ids body => exact absurd (same here ▸ body) (resolved source ids)
      · cases given

theorem rememberAll_call : ∀ (ids : List Nat) (s : Schema), (ids.foldl remember s).call = s.call
  | [], _ => rfl
  | id :: ids, _ => (rememberAll_call ids _).trans (remember_call id)

theorem rememberAll_length :
    ∀ (ids : List Nat) (s : Schema), (ids.foldl remember s).defs.length = s.defs.length
  | [], _ => rfl
  | id :: ids, _ => (rememberAll_length ids _).trans (remember_length id)

/-- To remember the fields of several types settles all definitions, and those of the types hold their
fields if they can be resolved. -/
theorem rememberAll_settles (ids : List Nat) : ∀ {s : Schema} {d : TypeDef}, s.def? n = some d →
    ∃ e, (ids.foldl remember s).def? n = some e ∧ s.Settles d e ∧
      (n.id ∈ ids → ∀ fields, (s.fieldsOf d).result = .ok fields → e.held?.isSome = true) := by
  induction ids with
  | nil => exact fun defined => ⟨_, defined, .same, fun mem => (List.not_mem_nil mem).elim⟩
  | cons id ids ih =>
    intro s d defined
    obtain ⟨e, there, settles, holds⟩ := remember_settles id defined
    obtain ⟨f, last, later, held⟩ := ih there
    have call := @remember_call s id
    refine ⟨f, last, settles.trans later call, fun mem fields given => ?_⟩
    by_cases here : n.id = id
    · obtain ⟨now, hnow⟩ := Option.isSome_iff_exists.1 (holds here fields given)
      rw [later.eq_of_held hnow, hnow]
      rfl
    · have mem : n.id ∈ ids := (List.mem_cons.1 mem).resolve_left here
      have again := settles.fields
      rw [given] at again
      cases found : (s.fieldsOf e).result with
      | error fault =>
        rw [found] at again
        cases again
      | ok numbered =>
        rw [← fieldsOf_congr call] at found
        exact held mem numbered found

end Remember

/-! ### After a computation -/

section After

variable {α : Type} {s : Schema} {d : TypeDef} {n : NamedType}

theorem after_call (t : Traced α) : (s.after t).call = s.call := rememberAll_call t.asked _

theorem after_length (t : Traced α) : (s.after t).defs.length = s.defs.length :=
  rememberAll_length t.asked _

theorem after_settles (t : Traced α) (defined : s.def? n = some d) :
    ∃ e, (s.after t).def? n = some e ∧ s.Settles d e ∧
      (n.id ∈ t.asked → ∀ fields, (s.fieldsOf d).result = .ok fields → e.held?.isSome = true) := by
  obtain ⟨e, there, settles, holds⟩ :=
    @rememberAll_settles n t.asked { s with next := max s.next t.used } d defined
  exact ⟨e, there, Settles.same.trans settles rfl, holds⟩

/-- Types that exist stay. -/
theorem Defines.after (t : Traced α) (h : s.Defines n) : (s.after t).Defines n := by
  obtain ⟨d, defined, same⟩ := h
  obtain ⟨e, there, settles, _⟩ := after_settles t defined
  exact ⟨e, there, (settles.typeAt n.id).trans same⟩

/-- The built-in scalars stay what they are. -/
theorem HasBuiltins.after (t : Traced α) (h : s.HasBuiltins) : (s.after t).HasBuiltins := by
  intro i d there
  obtain ⟨e, later, settles, _⟩ := @after_settles α s d ⟨i, "", .scalar, 0⟩ t (h i d there)
  have scalar : ∀ d ∈ builtinDefs, ∃ f g, d.body = .scalar f g := by
    simp [builtinDefs, builtinScalar]
  obtain ⟨f, g, kind⟩ := scalar d (List.mem_of_getElem? there)
  cases settles with
  | same => exact later
  | resolved body =>
    rw [kind] at body
    cases body

theorem fields_defined (defined : s.def? n = some d) : (s.fields n).result = (s.fieldsOf d).result := by
  rw [fields, Traced.result_bind_ok (Traced.result_ask n.id), defined]

/-- Fields stay the same but for numbers. -/
theorem fields_after (t : Traced α) (n : NamedType) :
    ((s.after t).fields n).result.map outline = (s.fields n).result.map outline := by
  cases defined : s.def? n with
  | some d =>
    obtain ⟨e, there, settles, _⟩ := after_settles t defined
    rw [fields_defined defined, fields_defined there, fieldsOf_congr (after_call t), settles.fields]
  | none =>
    have missing : (s.after t).def? n = none := by
      rw [def?, List.getElem?_eq_none_iff] at defined ⊢
      rw [after_length]
      exact defined
    rw [fields, fields, defined, missing]

/-- A definition that holds its fields stays what it is. -/
theorem def?_after_of_held (t : Traced α) {fields : List (String × InputField)}
    (defined : s.def? n = some d) (held : d.held? = some fields) : (s.after t).def? n = some d := by
  obtain ⟨e, there, settles, _⟩ := after_settles t defined
  rw [there, settles.eq_of_held held]

/-- Fields that are held are looked up: no function is called for them, and nothing can fail. -/
theorem fields_of_held {fields : List (String × InputField)} (defined : s.def? n = some d)
    (held : d.held? = some fields) : s.fields n = (do
      Traced.ask n.id
      return fields) := by
  rw [Schema.fields, defined]
  exact congrArg (Traced.ask n.id >>= ·) (funext fun _ => fieldsOf_held held)

/-- After a computation that asked for the fields of a type, its definition holds them. -/
theorem held_after (t : Traced α) {fields : List (String × InputField)} (asked : n.id ∈ t.asked)
    (found : (s.fields n).result = .ok fields) :
    ∃ e held, (s.after t).def? n = some e ∧ e.held? = some held ∧ outline held = outline fields := by
  cases defined : s.def? n with
  | none =>
    rw [Schema.fields, defined] at found
    cases found
  | some d =>
    obtain ⟨e, there, settles, holds⟩ := after_settles t defined
    rw [fields_defined defined] at found
    obtain ⟨held, hheld⟩ := Option.isSome_iff_exists.1 (holds asked fields found)
    have same := settles.fields
    rw [found, fieldsOf_held hheld] at same
    exact ⟨e, held, there, hheld, Except.ok.inj same⟩

end After

/-! ### Sound schemas -/

/-- Whether all types are there that a schema refers to: the built-in scalars, and the types of fields. -/
structure IsSound (s : Schema) : Prop where
  builtin : ∀ n ∈ builtinTypes, s.Defines n
  fields : ∀ n declared, (s.fields n).result = .ok declared → ∀ f ∈ declared, s.Defines f.2.type.base

/-- The built-in scalars are there in every schema that begins with them. -/
theorem builtin_defined {s : Schema} {rest : List TypeDef} (defs : s.defs = builtinDefs ++ rest) :
    ∀ n ∈ builtinTypes, s.Defines n := by
  intro n hn
  simp only [builtinTypes, builtinDefs, List.zipIdx, List.map_cons, List.map_nil, List.mem_cons,
    List.not_mem_nil, or_false] at hn
  rcases hn with rfl | rfl | rfl | rfl | rfl
  · exact ⟨_, by rw [def?, defs]; rfl, rfl⟩
  · exact ⟨_, by rw [def?, defs]; rfl, rfl⟩
  · exact ⟨_, by rw [def?, defs]; rfl, rfl⟩
  · exact ⟨_, by rw [def?, defs]; rfl, rfl⟩
  · exact ⟨_, by rw [def?, defs]; rfl, rfl⟩

/-- A sound schema stays sound. -/
theorem IsSound.after {α : Type} {s : Schema} (h : s.IsSound) (t : Traced α) : (s.after t).IsSound := by
  refine ⟨fun n hn => (h.builtin n hn).after t, fun n numbered found f hf => ?_⟩
  have alike := fields_after (s := s) t n
  rw [found] at alike
  cases before : (s.fields n).result with
  | error fault =>
    rw [before] at alike
    cases alike
  | ok declared =>
    rw [before] at alike
    obtain ⟨g, hg, _, same⟩ := mem_outline (Except.ok.inj alike) hf
    have base : g.2.type.base = f.2.type.base := by
      rw [← Ty.plain_base, same, Ty.plain_base]
    exact base ▸ (h.fields n declared before g hg).after t

end Schema

end QueryDefaults
