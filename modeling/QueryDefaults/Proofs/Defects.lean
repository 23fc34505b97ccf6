import Mathlib.Data.List.Nodup
import QueryDefaults.Proofs.Closure

/-!
Registries that cannot be made. A defect of a collection of types is an input object whose fields cannot be
resolved, a type that no literal has, or two types with one name, anywhere among what is reachable
(`Schema.Defect`). The first kind is met by the search, the others are seen in what it has met, and what it
meets depends on the order of the types; still a registration fails exactly if there is a defect
(`Schema.register_iff`), since a search that comes to an end has met all that is reachable, each type once
(`collect_apart`), and one that fails has met an input object without fields (`collect_fails`). What a
registry is made for therefore matters only by what is reachable from it (`Schema.register_defects`): not the
order, nor how often a type is given, nor lists and non-nulls around it, nor types that are reachable
anyway.
-/

namespace QueryDefaults

namespace Schema

/-! ### Defects -/

/-- What keeps a registry from being made out of types. -/
inductive Defect (s : Schema) (ts : List Ty) : Prop where
  | unresolved {n : NamedType} {f : Fault} (reachable : s.Reachable ts n) (object : n.sort = .inputObject)
      (fails : (s.fields n).result = .error f)
  | noInput {n : NamedType} (reachable : s.Reachable ts n) (other : n.sort = .other)
  | ambiguous {n m : NamedType} (first : s.Reachable ts n) (second : s.Reachable ts m) (apart : n ≠ m)
      (name : n.name = m.name)

/-- A collection of types that a registry may be made for, whether or not this succeeds. -/
structure Offers (s : Schema) (given : Value) (ts : List Ty) : Prop where
  sound : s.IsSound
  collection : typeCollection given = .ok ts
  defined : ∀ t ∈ ts, s.Defines t.base

variable {s : Schema} {given : Value} {ts us : List Ty} {types : List NamedType}

theorem Offers.makes (h : s.Offers given ts) (registered : (s.register given).result = .ok types) :
    s.Makes given ts types :=
  ⟨h.sound, h.collection, h.defined, registered⟩

/-! ### What is reachable -/

/-- What is reachable from reachable types is reachable. -/
theorem Reachable.trans (all : ∀ t ∈ ts, s.Reachable us t.base) {n : NamedType} (h : s.Reachable ts n) :
    s.Reachable us n := by
  induction h with
  | builtin mem => exact .builtin mem
  | given mem => exact all _ mem
  | field _ object fields mem ih => exact .field ih object fields mem

/-- A defect remains one if what it was found in is reachable. -/
theorem Defect.mono (all : ∀ t ∈ ts, s.Reachable us t.base) (h : s.Defect ts) : s.Defect us := by
  cases h with
  | unresolved reachable object fails => exact .unresolved (reachable.trans all) object fails
  | noInput reachable other => exact .noInput (reachable.trans all) other
  | ambiguous first second apart name => exact .ambiguous (first.trans all) (second.trans all) apart name

namespace Makes

/-- A registry has everything that is reachable. -/
theorem mem_of_reachable (h : s.Makes given ts types) {n : NamedType} (reachable : s.Reachable ts n) :
    n ∈ types := by
  induction reachable with
  | builtin mem => exact h.collects.kept _ (List.mem_reverse.2 mem)
  | given mem => exact h.collects.met _ mem
  | field _ object found mem ih =>
    obtain ⟨declared, found', closed⟩ := h.registers.closed _ ih object
    obtain rfl := Except.ok.inj (found.symm.trans found')
    exact closed _ mem

/-- Everything in a registry is reachable. -/
theorem reachable_of_mem (h : s.Makes given ts types) : ∀ n ∈ types, s.Reachable ts n :=
  h.search.1.least (fun _ _ reachable object found _ hf => .field reachable object found hf)
    (fun _ hn => .builtin (List.mem_reverse.1 hn)) fun _ ht => .given ht

/-- Where a registry has been made there was no defect. -/
theorem not_defect (h : s.Makes given ts types) : ¬ s.Defect ts := by
  rintro (⟨reachable, object, fails⟩ | ⟨reachable, other⟩ | ⟨first, second, apart, name⟩)
  · obtain ⟨declared, found, _⟩ := h.registers.closed _ (h.mem_of_reachable reachable) object
    cases found.symm.trans fails
  · exact h.registers.input _ (h.mem_of_reachable reachable) other
  · exact apart (List.inj_on_of_nodup_map h.search.2 (h.mem_of_reachable first) (h.mem_of_reachable second)
      name)

end Makes

/-! ### What a search that fails has met -/

/-- A type without a definition has no fields. -/
theorem fields_of_outside {n : NamedType} (outside : ¬ n.id < s.defs.length) :
    (s.fields n).result = .error .noAttribute := by
  rw [fields, Traced.result_bind_ok (Traced.result_ask n.id), def?,
    List.getElem?_eq_none (Nat.le_of_not_lt outside)]
  rfl

/-- A search fails only at an input object whose fields cannot be resolved. Whatever holds of the types to be
looked at, and of the types of the fields of an input object with the input object, holds of this one. -/
theorem collect_fails {P : NamedType → Prop}
    (closed : ∀ n declared, P n → n.sort = .inputObject → (s.fields n).result = .ok declared →
      ∀ f ∈ declared, P f.2.type.base)
    {seen : List NamedType} {todo : List Ty} {fault : Fault}
    (h : (s.collect seen todo).result = .error fault) (given : ∀ t ∈ todo, P t.base) :
    ∃ n f, P n ∧ n.sort = .inputObject ∧ (s.fields n).result = .error f := by
  induction seen, todo using Schema.collect.induct s with
  | case1 seen =>
    rw [collect] at h
    cases h
  | case2 seen t todo n collected ih =>
    rw [collect, if_pos collected] at h
    exact ih h (List.forall_mem_cons.1 given).2
  | case3 seen t todo n fresh sort bound ih =>
    rw [collect, if_neg fresh, if_pos sort, if_pos bound] at h
    obtain ⟨first, rest⟩ := List.forall_mem_cons.1 given
    cases found : (s.fields n).result with
    | error f => exact ⟨n, f, first, sort, found⟩
    | ok declared =>
      rw [Traced.result_bind_ok found] at h
      exact ih declared h (List.forall_mem_append.2
        ⟨List.forall_mem_map.2 (closed n declared first sort found), rest⟩)
  | case4 seen t todo n fresh sort bound =>
    exact ⟨n, _, (List.forall_mem_cons.1 given).1, sort, fields_of_outside bound⟩
  | case5 seen t todo n fresh sort ih =>
    rw [collect, if_neg fresh, if_neg sort] at h
    exact ih h (List.forall_mem_cons.1 given).2

/-! ### What a search that ends has met -/

/-- A search meets each type once. -/
theorem collect_apart {seen : List NamedType} {todo : List Ty} {all : List NamedType}
    (h : (s.collect seen todo).result = .ok all) (apart : (seen.map (·.id)).Nodup) :
    (all.map (·.id)).Nodup := by
  have cons {n : NamedType} {seen : List NamedType} (fresh : ¬ isCollected seen n.id = true)
      (apart : (seen.map (·.id)).Nodup) : ((n :: seen).map (·.id)).Nodup := by
    refine List.nodup_cons.2 ⟨fun mem => fresh ?_, apart⟩
    obtain ⟨m, hm, same⟩ := List.mem_map.1 mem
    exact List.any_eq_true.2 ⟨m, hm, beq_iff_eq.2 same⟩
  induction seen, todo using Schema.collect.induct s with
  | case1 seen =>
    rw [collect] at h
    cases h
    rw [List.map_reverse]
    exact List.nodup_reverse.2 apart
  | case2 seen t todo n collected ih =>
    rw [collect, if_pos collected] at h
    exact ih h apart
  | case3 seen t todo n fresh sort bound ih =>
    rw [collect, if_neg fresh, if_pos sort, if_pos bound] at h
    obtain ⟨declared, _, h⟩ := Traced.bind_result_ok h
    exact ih declared h (cons fresh apart)
  | case4 seen t todo n fresh sort bound =>
    rw [collect, if_neg fresh, if_pos sort, if_neg bound] at h
    cases h
  | case5 seen t todo n fresh sort ih =>
    rw [collect, if_neg fresh, if_neg sort] at h
    exact ih h (cons fresh apart)

/-- Types are registered unless one of them is of the sort that no literal has or two have one name. -/
theorem checkRegistered_eq_ok : ∀ {before all : List NamedType}, (∀ n ∈ all, n.sort ≠ .other) →
    ((before.reverse ++ all).map (·.name)).Nodup → checkRegistered before all = .ok (before.reverse ++ all)
  | before, [], _, _ => by
    rw [checkRegistered, List.append_nil]
    rfl
  | before, n :: all, input, apart => by
    obtain ⟨first, rest⟩ := List.forall_mem_cons.1 input
    have fresh : ¬ before.any (·.name == n.name) = true := by
      intro twice
      obtain ⟨m, hm, same⟩ := List.any_eq_true.1 twice
      rw [List.map_append] at apart
      exact List.disjoint_of_nodup_append apart (List.mem_map_of_mem (List.mem_reverse.2 hm))
        (beq_iff_eq.1 same ▸ List.mem_cons_self ..)
    rw [List.append_cons, ← List.reverse_cons] at apart ⊢
    rw [checkRegistered, if_neg first, if_neg fresh]
    exact checkRegistered_eq_ok rest apart

/-! ### Registrations -/

/-- The built-in scalars are different types. -/
theorem builtinTypes_apart : (builtinTypes.reverse.map (·.id)).Nodup := by decide

/-- A registration succeeds if there is no defect. -/
theorem Offers.register_ok (h : s.Offers given ts) (sane : ¬ s.Defect ts) :
    ∃ types, (s.register given).result = .ok types := by
  have begun : (liftM (typeCollection given) : Traced (List Ty)).result = .ok ts := h.collection
  have closed : ∀ n declared, s.Reachable ts n → n.sort = .inputObject →
      (s.fields n).result = .ok declared → ∀ f ∈ declared, s.Reachable ts f.2.type.base :=
    fun _ _ reachable object found _ hf => .field reachable object found hf
  rw [register, Traced.result_bind_ok begun]
  cases collected : (s.collect builtinTypes.reverse ts).result with
  | error fault =>
    obtain ⟨n, f, reachable, object, fails⟩ := collect_fails closed collected fun t ht => .given ht
    exact absurd (.unresolved reachable object fails) sane
  | ok all =>
    have reachable : ∀ n ∈ all, s.Reachable ts n := (search_of_collect collected).least closed
      (fun n hn => .builtin (List.mem_reverse.1 hn)) fun t ht => .given ht
    have input : ∀ n ∈ all, n.sort ≠ .other := fun n hn other => sane (.noInput (reachable n hn) other)
    have once : all.Nodup := (collect_apart collected builtinTypes_apart).of_map _
    have apart : (all.map (·.name)).Nodup := by
      refine once.map_on fun n hn m hm name => ?_
      by_contra different
      exact sane (.ambiguous (reachable n hn) (reachable m hm) different name)
    rw [Traced.result_bind_ok collected]
    exact ⟨all, @checkRegistered_eq_ok [] all input apart⟩

/-- A registration fails exactly if there is a defect. -/
theorem register_iff (h : s.Offers given ts) :
    (∃ fault, (s.register given).result = .error fault) ↔ s.Defect ts := by
  constructor
  · rintro ⟨fault, fails⟩
    by_contra sane
    obtain ⟨types, registered⟩ := h.register_ok sane
    cases registered.symm.trans fails
  · intro defect
    cases registered : (s.register given).result with
    | error fault => exact ⟨fault, rfl⟩
    | ok types => exact absurd defect (h.makes registered).not_defect

/-- A registration comes to an end, and fails exactly if there is a defect among what is reachable. Out of
another collection from which the same is reachable it also fails, or it gives a registry with the same type
under every name. -/
theorem register_defects (h : s.Offers given ts) :
    ((∃ fault, (s.register given).result = .error fault) ↔ s.Defect ts) ∧
    ∀ {given' : Value} {us : List Ty}, s.Offers given' us → (∀ t ∈ ts, s.Reachable us t.base) →
      (∀ t ∈ us, s.Reachable ts t.base) →
      (∃ fault fault', (s.register given).result = .error fault ∧
          (s.register given').result = .error fault') ∨
        ∃ types types', (s.register given).result = .ok types ∧ (s.register given').result = .ok types' ∧
          ∀ name, registered? types name = registered? types' name := by
  refine ⟨register_iff h, fun {given' us} h' there back => ?_⟩
  by_cases defect : s.Defect ts
  · obtain ⟨fault, fails⟩ := (register_iff h).2 defect
    obtain ⟨fault', fails'⟩ := (register_iff h').2 (defect.mono there)
    exact .inl ⟨fault, fault', fails, fails'⟩
  · obtain ⟨types, registered⟩ := h.register_ok defect
    obtain ⟨types', registered'⟩ := h'.register_ok fun other => defect (other.mono back)
    have makes := h.makes registered
    have makes' := h'.makes registered'
    refine .inr ⟨types, types', registered, registered', fun name => Option.ext fun n => ?_⟩
    rw [registered?_eq_some_iff makes.search.2, registered?_eq_some_iff makes'.search.2]
    refine and_congr_left fun _ => ⟨fun hn => ?_, fun hn => ?_⟩
    · exact makes'.mem_of_reachable ((makes.reachable_of_mem n hn).trans there)
    · exact makes.mem_of_reachable ((makes'.reachable_of_mem n hn).trans back)

end Schema

/-! ### The circle, and a namesake of a built-in scalar -/

/-- The types of the circle in another order, one of them twice. -/
def turnedTypes : List Ty :=
  [.nonNull (.named rightType), .named leftType, .list (.nonNull (.named rightType))]

/-- A schema with an input object that is called like the scalar `ID`. -/
def namesakeSchema : Schema := objectSchema "ID" []

theorem namesakeSchema_isSound : namesakeSchema.IsSound := by
  refine ⟨Schema.builtin_defined rfl, fun n declared found => ?_⟩
  obtain ⟨id, name, sort, nameId⟩ := n
  match id with
  | 0 | 1 | 2 | 3 | 4 => cases found
  | 5 =>
    cases found
    exact List.forall_mem_nil _
  | _ + 6 => cases found

/-- The circle has no defect, and in another order its types make the same registry; next to its namesake the
scalar is one. -/
theorem circleSchema_defects :
    (¬ circleSchema.Defect [.list (.named leftType)] ∧
      ∃ types, (circleSchema.register (.list (turnedTypes.map .type))).result = .ok types ∧
        registered? types "Left" = some leftType ∧ registered? types "Right" = some rightType) ∧
    ∃ fault, (namesakeSchema.register (.list [.type (.named (objectType "ID"))])).result = .error fault := by
  constructor
  · have offers : circleSchema.Offers circleGiven [.list (.named leftType)] :=
      ⟨circleSchema_isSound, rfl, List.forall_mem_singleton.2 ⟨_, rfl, rfl⟩⟩
    have turned : circleSchema.Offers (.list (turnedTypes.map .type)) turnedTypes := by
      refine ⟨circleSchema_isSound, rfl, ?_⟩
      simp only [turnedTypes, List.forall_mem_cons]
      exact ⟨⟨_, rfl, rfl⟩, ⟨_, rfl, rfl⟩, ⟨_, rfl, rfl⟩, List.forall_mem_nil _⟩
    have left : circleSchema.Reachable [.list (.named leftType)] leftType := .given (List.mem_singleton_self _)
    have right : circleSchema.Reachable [.list (.named leftType)] rightType :=
      .field left rfl leftType_fields (List.mem_singleton_self _)
    have there : ∀ t ∈ [Ty.list (.named leftType)], circleSchema.Reachable turnedTypes t.base :=
      List.forall_mem_singleton.2 (.given (t := .named leftType) (by decide))
    have back : ∀ t ∈ turnedTypes, circleSchema.Reachable [.list (.named leftType)] t.base := by
      simp only [turnedTypes, List.forall_mem_cons]
      exact ⟨right, left, right, List.forall_mem_nil _⟩
    obtain ⟨decided, others⟩ := Schema.register_defects offers
    constructor
    · intro defect
      obtain ⟨fault, fails⟩ := decided.2 defect
      cases circleSchema_register.symm.trans fails
    · rcases others turned there back with ⟨_, _, fails, _⟩ | ⟨types, types', registered, registered', same⟩
      · cases circleSchema_register.symm.trans fails
      · cases circleSchema_register.symm.trans registered
        exact ⟨types', registered', (same "Left").symm.trans rfl, (same "Right").symm.trans rfl⟩
  · have offers : namesakeSchema.Offers (.list [.type (.named (objectType "ID"))])
        [.named (objectType "ID")] :=
      ⟨namesakeSchema_isSound, rfl, List.forall_mem_singleton.2 ⟨_, rfl, rfl⟩⟩
    have scalar : ⟨4, "ID", .scalar, constant⟩ ∈ builtinTypes := by decide
    exact (Schema.register_defects offers).1.2 (.ambiguous (.builtin scalar)
      (.given (t := .named (objectType "ID")) (List.mem_singleton_self _)) (by decide) rfl)

end QueryDefaults
