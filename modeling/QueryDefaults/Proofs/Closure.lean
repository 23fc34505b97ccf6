import QueryDefaults.Proofs.Remembered

/-!
Registries hold what is reachable, and nothing else. A type is reachable from given types if it is a
built-in scalar, the named type below a given type, or that of a field of a reachable input object; input
objects may refer to each other in circles, through functions that give their fields. A search meets all
of them and only them, each once (`Search.least`, `collects_of_search`), and asks every input object that it
meets for its fields (`Search.asks`), so that they are held when the registry is there.
-/

namespace QueryDefaults

/-- A type is found by its own name, if the names are different. -/
theorem registered?_eq_some_iff {name : String} {n : NamedType} :
    ∀ {types : List NamedType}, (types.map (·.name)).Nodup →
      (registered? types name = some n ↔ n ∈ types ∧ n.name = name)
  | [], _ => by simp [registered?]
  | m :: types, apart => by
    obtain ⟨fresh, rest⟩ := List.nodup_cons.1 apart
    rw [registered?, List.find?_cons]
    by_cases same : m.name = name
    · rw [beq_iff_eq.2 same]
      constructor
      · intro found
        cases found
        exact ⟨List.mem_cons_self .., same⟩
      · rintro ⟨mem, named⟩
        rcases List.mem_cons.1 mem with rfl | mem
        · rfl
        · have repeated := List.mem_map_of_mem (f := (·.name)) mem
          rw [named, ← same] at repeated
          exact absurd repeated fresh
    · rw [beq_eq_false_iff_ne.2 same]
      refine Iff.trans (registered?_eq_some_iff rest) ?_
      constructor
      · rintro ⟨mem, named⟩
        exact ⟨List.mem_cons_of_mem _ mem, named⟩
      · rintro ⟨mem, named⟩
        rcases List.mem_cons.1 mem with rfl | mem
        · exact absurd named same
        · exact ⟨mem, named⟩

namespace Schema

/-- Whether a type is reachable from given types: it is a built-in scalar, the named type below one of
them, or that of a field of a reachable input object. -/
inductive Reachable (s : Schema) (ts : List Ty) : NamedType → Prop where
  | builtin {n : NamedType} (mem : n ∈ builtinTypes) : Reachable s ts n
  | given {t : Ty} (mem : t ∈ ts) : Reachable s ts t.base
  | field {n : NamedType} {declared : List (String × InputField)} {f : String × InputField}
      (owner : Reachable s ts n) (sort : n.sort = .inputObject)
      (fields : (s.fields n).result = .ok declared) (mem : f ∈ declared) : Reachable s ts f.2.type.base

variable {s : Schema}

/-! ### What a search meets -/

theorem fields_asked (n : NamedType) : n.id ∈ (s.fields n).asked := by
  rw [Schema.fields, Traced.bind_ok (Traced.result_ask n.id)]
  exact List.mem_cons_self ..

/-- Whatever holds of the types that a search begins with, and of the types of the fields of an input object
with the input object, holds of all types that it meets. -/
theorem Search.least {P : NamedType → Prop}
    (closed : ∀ n declared, P n → n.sort = .inputObject → (s.fields n).result = .ok declared →
      ∀ f ∈ declared, P f.2.type.base)
    {seen : List NamedType} {todo : List Ty} {all : List NamedType} {asked : List Nat}
    (h : s.Search seen todo all asked) (met : ∀ n ∈ seen, P n) (given : ∀ t ∈ todo, P t.base) :
    ∀ n ∈ all, P n := by
  induction h with
  | done seen => exact fun n hn => met n (List.mem_reverse.1 hn)
  | known _ _ ih => exact ih met (List.forall_mem_cons.1 given).2
  | object sort fields _ ih =>
    obtain ⟨first, rest⟩ := List.forall_mem_cons.1 given
    exact ih (List.forall_mem_cons.2 ⟨first, met⟩) (List.forall_mem_append.2
      ⟨List.forall_mem_map.2 (closed _ _ first sort fields), rest⟩)
  | leaf _ _ ih =>
    obtain ⟨first, rest⟩ := List.forall_mem_cons.1 given
    exact ih (List.forall_mem_cons.2 ⟨first, met⟩) rest

/-- Every input object that a search meets is asked for its fields. -/
theorem Search.asks {seen : List NamedType} {todo : List Ty} {all : List NamedType} {asked : List Nat}
    (h : s.Search seen todo all asked) :
    ∀ n ∈ all, n.sort = .inputObject → n ∈ seen ∨ n.id ∈ asked := by
  induction h with
  | done seen => exact fun n hn _ => .inl (List.mem_reverse.1 hn)
  | known _ _ ih => exact ih
  | @object seen all t todo asked declared _ _ _ ih =>
    intro n hn object
    rcases ih n hn object with met | later
    · rcases List.mem_cons.1 met with rfl | met
      · exact .inr (List.mem_append_left _ (fields_asked t.base))
      · exact .inl met
    · exact .inr (List.mem_append_right _ later)
  | leaf sort _ ih =>
    intro n hn object
    rcases ih n hn object with met | later
    · rcases List.mem_cons.1 met with rfl | met
      · exact absurd object sort
      · exact .inl met
    · exact .inr later

/-- Registered types have names of their own. -/
theorem checkRegistered_names : ∀ {before all types : List NamedType},
    checkRegistered before all = .ok types → (before.map (·.name)).Nodup → (types.map (·.name)).Nodup
  | before, [], types, h, apart => by
    obtain rfl : before.reverse = types := Except.ok.inj h
    rw [List.map_reverse]
    exact List.pairwise_reverse.2 (apart.imp Ne.symm)
  | before, n :: all, types, h, apart => by
    rw [checkRegistered] at h
    split at h
    · cases h
    · split at h
      · cases h
      · next fresh =>
        refine checkRegistered_names h (List.nodup_cons.2 ⟨fun mem => fresh ?_, apart⟩)
        obtain ⟨m, hm, same⟩ := List.mem_map.1 mem
        exact List.any_eq_true.2 ⟨m, hm, beq_iff_eq.2 same⟩

/-! ### What a registry holds -/

/-- Whether a registry of types can be made out of a collection: the schema is sound, all given types are
there, and the registration succeeds. -/
structure Makes (s : Schema) (given : Value) (ts : List Ty) (types : List NamedType) : Prop where
  sound : s.IsSound
  collection : typeCollection given = .ok ts
  defined : ∀ t ∈ ts, s.Defines t.base
  registered : (s.register given).result = .ok types

namespace Makes

variable {given : Value} {ts : List Ty} {types : List NamedType}

/-- What stands in a registry was met by a search that began with the built-in scalars, and has a name of
its own. -/
theorem search (h : s.Makes given ts types) :
    s.Search builtinTypes.reverse ts types (s.register given).asked ∧ (types.map (·.name)).Nodup := by
  have begun : (liftM (typeCollection given) : Traced (List Ty)).result = .ok ts := h.collection
  have registered := h.registered
  rw [register, Traced.result_bind_ok begun] at registered
  obtain ⟨all, collected, checked⟩ := Traced.bind_result_ok registered
  obtain ⟨same, _⟩ := checkRegistered_ok checked
  obtain rfl : types = all := same
  refine ⟨?_, checkRegistered_names checked List.nodup_nil⟩
  have asked : (s.register given).asked = (s.collect builtinTypes.reverse ts).asked := by
    rw [register, Traced.bind_ok begun, Traced.bind_ok collected]
    exact List.append_nil _
  exact asked ▸ search_of_collect collected

/-- All that was given is met, and nothing is missing. -/
theorem collects (h : s.Makes given ts types) : s.Collects builtinTypes.reverse ts types :=
  collects_of_search h.sound.fields h.search.1
    (fun n hn => h.sound.builtin n (List.mem_reverse.1 hn)) h.defined

theorem registers (h : s.Makes given ts types) : s.Registers types := by
  refine registers_of_register h.sound.builtin (fun us collection => ?_) h.sound.fields h.registered
  cases h.collection.symm.trans collection
  exact h.defined

/-- The input objects of a registry hold their fields once it is there, and have types of the registry as
those of their fields. -/
theorem held (h : s.Makes given ts types) {n : NamedType} (hn : n ∈ types) (object : n.sort = .inputObject) :
    ∃ d held declared, (s.after (s.register given)).def? n = some d ∧ d.held? = some held ∧
      (s.fields n).result = .ok declared ∧ outline held = outline declared ∧
      ∀ f ∈ held, f.2.type.base ∈ types := by
  obtain ⟨declared, found, closed⟩ := h.registers.closed n hn object
  have asked : n.id ∈ (s.register given).asked := by
    rcases h.search.1.asks n hn object with builtin | asked
    · obtain ⟨d, _, rfl⟩ := List.mem_map.1 (List.mem_reverse.1 builtin)
      cases object
    · exact asked
  obtain ⟨d, held, there, hheld, alike⟩ := held_after (s.register given) asked found
  refine ⟨d, held, declared, there, hheld, found, alike, fun f hf => ?_⟩
  obtain ⟨g, hg, _, same⟩ := mem_outline alike hf
  rw [← Ty.plain_base, ← same, Ty.plain_base]
  exact closed g hg

/-- A registry stays closed, as long as the definitions of its types stay. -/
theorem registers_later (h : s.Makes given ts types) {later : Schema}
    (agree : ∀ n ∈ types, later.def? n = (s.after (s.register given)).def? n) : later.Registers types := by
  refine ⟨fun n hn => ?_, h.registers.input, fun n hn object => ?_⟩
  · obtain ⟨d, there, same⟩ := (h.registers.defined n hn).after (s.register given)
    exact ⟨d, (agree n hn).trans there, same⟩
  · obtain ⟨d, held, _, there, hheld, _, _, closed⟩ := h.held hn object
    refine ⟨held, ?_, closed⟩
    rw [fields_of_held ((agree n hn).trans there) hheld]
    rfl

/-- A registry holds what is reachable, and nothing else. -/
theorem mem_iff (h : s.Makes given ts types) (n : NamedType) :
    n ∈ types ↔ (s.after (s.register given)).Reachable ts n := by
  constructor
  · refine h.search.1.least ?_ (fun n hn => .builtin (List.mem_reverse.1 hn)) (fun t ht => .given ht) n
    intro n declared reachable object found f hf
    have alike := fields_after (s := s) (s.register given) n
    rw [found] at alike
    cases again : ((s.after (s.register given)).fields n).result with
    | error fault =>
      rw [again] at alike
      cases alike
    | ok fields =>
      rw [again] at alike
      obtain ⟨g, hg, _, same⟩ := mem_outline (Except.ok.inj alike).symm hf
      rw [← Ty.plain_base, ← same, Ty.plain_base]
      exact .field reachable object again hg
  · have registers := h.registers_later fun _ _ => rfl
    intro reachable
    induction reachable with
    | builtin mem => exact h.collects.kept _ (List.mem_reverse.2 mem)
    | given mem => exact h.collects.met _ mem
    | field _ object found mem ih =>
      obtain ⟨declared, found', closed⟩ := registers.closed _ ih object
      obtain rfl := Except.ok.inj (found.symm.trans found')
      exact closed _ mem

end Makes

/-- A registry has exactly the types that are reachable from the given ones, each by its own name, and none
of the sort that no literal has. Its input objects hold their fields: these have types of the registry, and
to look them up calls no function and cannot fail, then and at any later time. -/
theorem register_closure {given : Value} {ts : List Ty} {types : List NamedType}
    (h : s.Makes given ts types) :
    (∀ n, n ∈ types ↔ (s.after (s.register given)).Reachable ts n) ∧
    (∀ name n, registered? types name = some n ↔ n ∈ types ∧ n.name = name) ∧
    (∀ n ∈ types, n.sort ≠ .other) ∧
    ∀ n ∈ types, n.sort = .inputObject → ∃ declared,
      (∀ f ∈ declared, registered? types f.2.type.base.name = some f.2.type.base) ∧
      ∀ later : Schema, later.def? n = (s.after (s.register given)).def? n →
        (later.fields n = do
          Traced.ask n.id
          return declared) ∧
        ∀ {α : Type} (t : Traced α), (later.after t).def? n = later.def? n := by
  have names : ∀ name n, registered? types name = some n ↔ n ∈ types ∧ n.name = name :=
    fun _ _ => registered?_eq_some_iff h.search.2
  refine ⟨h.mem_iff, names, h.registers.input, fun n hn object => ?_⟩
  obtain ⟨d, held, _, there, hheld, _, _, closed⟩ := h.held hn object
  refine ⟨held, fun f hf => (names _ _).2 ⟨closed f hf, rfl⟩, fun later same => ?_⟩
  have defined := same.trans there
  exact ⟨fields_of_held defined hheld, fun t => (def?_after_of_held t defined hheld).trans defined.symm⟩

end Schema

/-! ### A circle of two input objects -/

/-- Two input objects that refer to each other, through functions that give their fields. -/
def leftType : NamedType := ⟨5, "Left", .inputObject, constant⟩

@[inherit_doc leftType]
def rightType : NamedType := ⟨6, "Right", .inputObject, constant⟩

/-- A mapping with one field. -/
def oneField (name : String) (n : NamedType) : Value :=
  .mapping [⟨.ofText name, .str name, .type (.named n)⟩]

/-- The schema with both, and the functions that they are given by. -/
def circleSchema : Schema where
  defs := builtinDefs ++ [
    ⟨"Left", constant, .null, .mapping [], .inputObject (.function 1) none {}⟩,
    ⟨"Right", constant, .null, .mapping [], .inputObject (.function 2) none {}⟩]
  call
    | .function 1 _ => return oneField "right" rightType
    | .function 2 _ => return oneField "left" leftType
    | _ => throw .operand
  apply _ _ := throw .operand

/-- The collection of a list of the one. -/
def circleGiven : Value := .list [.type (.list (.named leftType))]

/-- The types of its registry. -/
def circleTypes : List NamedType := builtinTypes ++ [leftType, rightType]

theorem leftType_fields : (circleSchema.fields leftType).result =
    .ok [("right", ⟨0, .named rightType, .undefined, .null, .null⟩)] := rfl

theorem rightType_fields : (circleSchema.fields rightType).result =
    .ok [("left", ⟨0, .named leftType, .undefined, .null, .null⟩)] := rfl

/-- Each of the two has one field, for the other; nothing else has any. -/
theorem circleSchema_fields {n : NamedType} {declared : List (String × InputField)}
    (found : (circleSchema.fields n).result = .ok declared) :
    ∃ name, ∃ m ∈ [leftType, rightType],
      declared = [(name, ⟨0, .named m, .undefined, .null, .null⟩)] := by
  obtain ⟨id, name, sort, nameId⟩ := n
  match id with
  | 0 | 1 | 2 | 3 | 4 => cases found
  | 5 =>
    cases leftType_fields.symm.trans found
    exact ⟨_, rightType, by decide, rfl⟩
  | 6 =>
    cases rightType_fields.symm.trans found
    exact ⟨_, leftType, by decide, rfl⟩
  | _ + 7 => cases found

theorem circleSchema_isSound : circleSchema.IsSound := by
  refine ⟨Schema.builtin_defined rfl, fun n declared found => ?_⟩
  obtain ⟨name, m, hm, rfl⟩ := circleSchema_fields found
  refine List.forall_mem_singleton.2 ?_
  simp only [List.mem_cons, List.not_mem_nil, or_false] at hm
  rcases hm with rfl | rfl
  · exact ⟨_, rfl, rfl⟩
  · exact ⟨_, rfl, rfl⟩

/-- The search meets the one, from there the other, and ends where it began. -/
theorem circleSchema_register : (circleSchema.register circleGiven).result = .ok circleTypes := by
  have back : (circleSchema.collect (rightType :: leftType :: builtinTypes.reverse)
      [.named leftType]).result = .ok circleTypes := by
    rw [Schema.collect, if_pos (by decide), Schema.collect]
    rfl
  have right : (circleSchema.collect (leftType :: builtinTypes.reverse) [.named rightType]).result =
      .ok circleTypes := by
    rw [Schema.collect, if_neg (by decide), if_pos (by decide), if_pos (by decide)]
    exact (Traced.result_bind_ok rightType_fields _).trans back
  have left : (circleSchema.collect builtinTypes.reverse [.list (.named leftType)]).result =
      .ok circleTypes := by
    rw [Schema.collect, if_neg (by decide), if_pos (by decide), if_pos (by decide)]
    exact (Traced.result_bind_ok leftType_fields _).trans right
  have begun : (liftM (typeCollection circleGiven) : Traced (List Ty)).result =
      .ok [.list (.named leftType)] := rfl
  rw [Schema.register, Traced.result_bind_ok begun, Traced.result_bind_ok left]
  rfl

theorem circleSchema_makes :
    circleSchema.Makes circleGiven [.list (.named leftType)] circleTypes where
  sound := circleSchema_isSound
  collection := rfl
  defined := List.forall_mem_singleton.2 ⟨_, rfl, rfl⟩
  registered := circleSchema_register

/-- Its registry has what is reachable from the one, and the one holds its fields from then on. -/
theorem circleSchema_closure :
    (∀ n, n ∈ circleTypes ↔
      (circleSchema.after (circleSchema.register circleGiven)).Reachable [.list (.named leftType)] n) ∧
    ∃ declared, ∀ later : Schema,
      later.def? leftType = (circleSchema.after (circleSchema.register circleGiven)).def? leftType →
        later.fields leftType = do
          Traced.ask leftType.id
          return declared := by
  obtain ⟨reachable, _, _, held⟩ := Schema.register_closure circleSchema_makes
  obtain ⟨declared, _, looked⟩ := held leftType (by decide) rfl
  exact ⟨reachable, declared, fun later same => (looked later same).1⟩

end QueryDefaults
