import QueryDefaults.Proofs.Conforms
import QueryDefaults.Proofs.Rejected
import QueryDefaults.Types.Registry

/-!
Registries are closed: whatever a registered type refers to is registered as well. A registry is collected
by a search through fields, so the invariant is that of the search: what has been met is kept, and all
fields of what has been met are met or still to be looked at. Below a registered type a check therefore
never runs into a type that it cannot handle, and comes to a verdict (`check_ends`). There are two exceptions:
plain wrappers, which a field may have as its type although no literal can be checked against them, and scalars
that raise an error of the library without a message (`coerceLiteral_ends_iff`).
-/

namespace QueryDefaults

/-- Whether a type is written with names, lists and non-nulls alone. -/
def Ty.isSpelled : Ty → Bool
  | named _ => true
  | list t _ | nonNull t _ => t.isSpelled
  | wrapper .. => false

theorem Ty.core_base : ∀ t : Ty, t.core.base = t.base
  | .nonNull t _ => core_base t
  | .named _ => rfl
  | .list .. => rfl
  | .wrapper .. => rfl

theorem Ty.core_isSpelled : ∀ t : Ty, t.core.isSpelled = t.isSpelled
  | .nonNull t _ => core_isSpelled t
  | .named _ => rfl
  | .list .. => rfl
  | .wrapper .. => rfl

namespace Schema

/-- Whether a named type is the one that is defined at its place. -/
def Defines (s : Schema) (n : NamedType) : Prop := ∃ d, s.def? n = some d ∧ d.typeAt n.id = n

/-- Two named types that are defined at one place are the same. -/
theorem Defines.unique {s : Schema} {n m : NamedType} (hn : s.Defines n) (hm : s.Defines m)
    (same : n.id = m.id) : n = m := by
  obtain ⟨d, hd, rn⟩ := hn
  obtain ⟨e, he, rm⟩ := hm
  rw [def?, ← same, ← def?, hd] at he
  cases he
  rw [← rn, ← rm, same]

/-- Whether the fields of a type, if it is an input object, have types in a list. -/
def Closes (s : Schema) (types : List NamedType) (n : NamedType) : Prop :=
  n.sort = .inputObject → ∃ declared, (s.fields n).result = .ok declared ∧
    ∀ f ∈ declared, f.2.type.base ∈ types

/-- A list of named types that is closed: all of them are defined, none of them is of the sort that no
literal has, and input objects have fields whose types are in the list. -/
structure Registers (s : Schema) (types : List NamedType) : Prop where
  defined : ∀ n ∈ types, s.Defines n
  input : ∀ n ∈ types, n.sort ≠ .other
  closed : ∀ n ∈ types, s.Closes types n

/-- All fields of the input objects in a list have types that are spelled. -/
def Spells (s : Schema) (types : List NamedType) : Prop :=
  ∀ n ∈ types, ∀ declared, (s.fields n).result = .ok declared → ∀ f ∈ declared, f.2.type.isSpelled = true

/-! ### Registries are closed -/

/-- A search that comes to an end, step by step: out of the types met and those still to be looked at, the
types that it ends with, and the input objects that it asks for their fields. -/
inductive Search (s : Schema) : List NamedType → List Ty → List NamedType → List Nat → Prop where
  | done (seen : List NamedType) : Search s seen [] seen.reverse []
  | known {seen all : List NamedType} {t : Ty} {todo : List Ty} {asked : List Nat}
      (met : isCollected seen t.base.id = true) (rest : Search s seen todo all asked) :
      Search s seen (t :: todo) all asked
  | object {seen all : List NamedType} {t : Ty} {todo : List Ty} {asked : List Nat}
      {declared : List (String × InputField)} (sort : t.base.sort = .inputObject)
      (fields : (s.fields t.base).result = .ok declared)
      (rest : Search s (t.base :: seen) (declared.map (·.2.type) ++ todo) all asked) :
      Search s seen (t :: todo) all ((s.fields t.base).asked ++ asked)
  | leaf {seen all : List NamedType} {t : Ty} {todo : List Ty} {asked : List Nat}
      (sort : t.base.sort ≠ .inputObject) (rest : Search s (t.base :: seen) todo all asked) :
      Search s seen (t :: todo) all asked

theorem search_of_collect {s : Schema} {seen : List NamedType} {todo : List Ty} {all : List NamedType}
    (h : (s.collect seen todo).result = .ok all) :
    s.Search seen todo all (s.collect seen todo).asked := by
  induction seen, todo using Schema.collect.induct s generalizing all with
  | case1 seen =>
    rw [collect] at h ⊢
    cases h
    exact .done seen
  | case2 seen t todo n collected =>
    rename_i ih
    rw [collect, if_pos collected] at h ⊢
    exact .known collected (ih h)
  | case3 seen t todo n fresh sort bound =>
    rename_i ih
    rw [collect, if_neg fresh, if_pos sort, if_pos bound] at h ⊢
    obtain ⟨declared, fields, h⟩ := Traced.bind_result_ok h
    rw [Traced.bind_ok fields]
    exact .object sort fields (ih declared h)
  | case4 seen t todo n fresh sort =>
    rename_i bound
    rw [collect, if_neg fresh, if_pos sort, if_neg bound] at h
    cases h
  | case5 seen t todo n fresh sort =>
    rename_i ih
    rw [collect, if_neg fresh, if_neg sort] at h ⊢
    exact .leaf sort (ih h)

/-- What a collection of types comes to, out of the types met and those still to be looked at. -/
structure Collects (s : Schema) (seen : List NamedType) (todo : List Ty) (all : List NamedType) : Prop where
  kept : ∀ n ∈ seen, n ∈ all
  met : ∀ t ∈ todo, t.base ∈ all
  defined : ∀ n ∈ all, s.Defines n
  closed : ∀ n ∈ all, n ∈ seen ∨ s.Closes all n

theorem isCollected_iff {s : Schema} {seen : List NamedType} {n : NamedType}
    (known : ∀ m ∈ seen, s.Defines m) (hn : s.Defines n) : isCollected seen n.id = true ↔ n ∈ seen := by
  rw [isCollected, List.any_eq_true]
  constructor
  · rintro ⟨m, hm, same⟩
    exact (known m hm).unique hn (beq_iff_eq.1 same) ▸ hm
  · intro h
    exact ⟨n, h, BEq.rfl⟩

/-- The search keeps its invariant: it ends with a list that holds all it has met and all that was to be
looked at, and is closed but for what had been met before. -/
theorem collects_of_search {s : Schema}
    (sound : ∀ n declared, (s.fields n).result = .ok declared → ∀ f ∈ declared, s.Defines f.2.type.base)
    {seen : List NamedType} {todo : List Ty} {all : List NamedType} {asked : List Nat}
    (h : s.Search seen todo all asked) (known : ∀ n ∈ seen, s.Defines n)
    (given : ∀ t ∈ todo, s.Defines t.base) : s.Collects seen todo all := by
  induction h with
  | done seen =>
    exact ⟨fun n hn => List.mem_reverse.2 hn, fun t ht => (List.not_mem_nil ht).elim,
      fun n hn => known n (List.mem_reverse.1 hn), fun n hn => .inl (List.mem_reverse.1 hn)⟩
  | @known seen all t todo asked met _ ih =>
    have rest := ih known fun u hu => given u (List.mem_cons_of_mem _ hu)
    have mem : t.base ∈ seen := (isCollected_iff known (given t (List.mem_cons_self ..))).1 met
    exact ⟨rest.kept, List.forall_mem_cons.2 ⟨rest.kept _ mem, rest.met⟩, rest.defined, rest.closed⟩
  | @object seen all t todo asked declared sort fields _ ih =>
    have hn : s.Defines t.base := given t (List.mem_cons_self ..)
    have rest := ih (List.forall_mem_cons.2 ⟨hn, known⟩) (List.forall_mem_append.2
      ⟨List.forall_mem_map.2 (sound t.base declared fields),
        fun u hu => given u (List.mem_cons_of_mem _ hu)⟩)
    have met := List.forall_mem_append.1 rest.met
    refine ⟨fun m hm => rest.kept m (List.mem_cons_of_mem _ hm),
      List.forall_mem_cons.2 ⟨rest.kept t.base (List.mem_cons_self ..), met.2⟩, rest.defined,
      fun m hm => ?_⟩
    rcases rest.closed m hm with hm | hm
    · rcases List.mem_cons.1 hm with rfl | hm
      · exact .inr fun _ => ⟨declared, fields, fun f hf => met.1 _ (List.mem_map_of_mem hf)⟩
      · exact .inl hm
    · exact .inr hm
  | @leaf seen all t todo asked sort _ ih =>
    have hn : s.Defines t.base := given t (List.mem_cons_self ..)
    have rest := ih (List.forall_mem_cons.2 ⟨hn, known⟩) fun u hu => given u (List.mem_cons_of_mem _ hu)
    refine ⟨fun m hm => rest.kept m (List.mem_cons_of_mem _ hm),
      List.forall_mem_cons.2 ⟨rest.kept t.base (List.mem_cons_self ..), rest.met⟩, rest.defined,
      fun m hm => ?_⟩
    rcases rest.closed m hm with hm | hm
    · rcases List.mem_cons.1 hm with rfl | hm
      · exact .inr fun object => absurd object sort
      · exact .inl hm
    · exact .inr hm

/-- The check of registered types gives them back, and none of them is of the sort that no literal has. -/
theorem checkRegistered_ok : ∀ {before all types : List NamedType},
    checkRegistered before all = .ok types → types = before.reverse ++ all ∧ ∀ n ∈ all, n.sort ≠ .other
  | before, [], types, h => by
    rw [checkRegistered] at h
    obtain rfl : before.reverse = types := Except.ok.inj h
    simp
  | before, n :: all, types, h => by
    rw [checkRegistered] at h
    by_cases other : n.sort = .other
    · rw [if_pos other] at h
      cases h
    · rw [if_neg other] at h
      split at h
      · cases h
      · obtain ⟨same, input⟩ := checkRegistered_ok h
        rw [List.reverse_cons, List.append_assoc] at same
        exact ⟨same, List.forall_mem_cons.2 ⟨other, input⟩⟩

/-- Every registry is closed, whatever types it is made for. -/
theorem registers_of_register {s : Schema} {given : Value} {types : List NamedType}
    (builtin : ∀ n ∈ builtinTypes, s.Defines n)
    (refs : ∀ ts, typeCollection given = .ok ts → ∀ t ∈ ts, s.Defines t.base)
    (sound : ∀ n declared, (s.fields n).result = .ok declared → ∀ f ∈ declared, s.Defines f.2.type.base)
    (h : (s.register given).result = .ok types) : s.Registers types := by
  rw [register] at h
  cases collection : typeCollection given with
  | error e =>
    rw [Traced.result_bind_error collection] at h
    cases h
  | ok ts =>
    rw [Traced.result_bind_ok collection] at h
    cases collected : (s.collect builtinTypes.reverse ts).result with
    | error e =>
      rw [Traced.result_bind_error collected] at h
      cases h
    | ok all =>
      rw [Traced.result_bind_ok collected] at h
      obtain ⟨rfl, input⟩ := checkRegistered_ok h
      have rest := collects_of_search sound (search_of_collect collected)
        (fun n hn => builtin n (List.mem_reverse.1 hn)) (refs ts collection)
      refine ⟨rest.defined, input, fun n hn => ?_⟩
      rcases rest.closed n hn with hn | hn
      · intro object
        obtain ⟨d, _, rfl⟩ := List.mem_map.1 (List.mem_reverse.1 hn)
        cases object
      · exact hn

/-! ### Checks come to a verdict -/

variable {s : Schema} {types : List NamedType} {v : Value}

/-- What a scalar that is defined makes of a literal that has a text: the outcome of what its function for literals
gives, or a rejection if this fails. -/
theorem coerceLiteral_result {n : NamedType} (defined : s.Defines n) (printed : GivesText v.print) :
    (s.coerceLiteral (.type (.named n)) v).result =
      match s.onLiteral n v with
      | .ok r => .ok (outcomeRecord r)
      | .error f =>
        (rejection? s.called (f.settle s.called)).map fun m => (Outcome.rejected (m.getD .null)).toValue := by
  obtain ⟨d, hd, _⟩ := defined
  obtain ⟨text, i, printed⟩ := printed
  have named : (s.attr (.type (.named n)) "name").result = .ok n.label := by
    rw [attr, typeAttr, hd]
    rfl
  have result := s.outcome_onLiteral n v
  rw [coerceLiteral]
  cases given : s.onLiteral n v with
  | ok r =>
    rw [given] at result
    rw [Traced.result_tryCatch_ok result]
  | error f =>
    rw [given] at result
    rw [Traced.result_tryCatch_error result, reject, Traced.result_bind_ok named, Traced.result_bind_ok printed]
    dsimp only
    cases rejection? s.called (f.settle s.called) with
    | error g => rfl
    | ok m => cases m <;> rfl

/-- A scalar that is defined makes something of a literal that has a text, whatever its functions do, unless they
raise an error of the library without a message. -/
theorem coerceLiteral_ends_iff {n : NamedType} (defined : s.Defines n) (printed : GivesText v.print) :
    (∃ r, (s.coerceLiteral (.type (.named n)) v).result = .ok r) ↔
      ∀ f, s.onLiteral n v = .error f → ¬ (f.settle s.called).IsMute := by
  rw [coerceLiteral_result defined printed]
  cases s.onLiteral n v with
  | ok r => exact ⟨fun _ => nofun, fun _ => ⟨_, rfl⟩⟩
  | error f =>
    dsimp only
    constructor
    · rintro ⟨r, ends⟩ _ ⟨⟩ mute
      obtain ⟨g, fails⟩ := (@rejection?_fails_iff s.called _).2 mute
      rw [fails] at ends
      cases ends
    · intro spoken
      obtain ⟨m, rejects⟩ := @rejection?_ends s.called _ (spoken f rfl)
      rw [rejects]
      exact ⟨_, rfl⟩

/-- No function of a scalar among types raises an error of the library without a message when it is given a
literal. -/
def Speaks (s : Schema) (types : List NamedType) : Prop :=
  ∀ n ∈ types, n.sort = .scalar → ∀ v : Value, v.IsLiteral → ∀ f, s.onLiteral n v = .error f →
    ¬ (f.settle s.called).IsMute

/-- The built-in scalars never do so. -/
theorem speaks_builtin (builtins : s.HasBuiltins) {ns : List NamedType} (others : ∀ n ∈ ns, n.sort ≠ .scalar) :
    s.Speaks (builtinTypes ++ ns) := by
  intro n hn sort v _ f fails
  rcases List.mem_append.1 hn with builtin | other
  · exact (onLiteral_builtin_fails builtins builtin fails).not_mute
  · exact absurd sort (others n other)

/-- Every scalar among types makes something of every literal. -/
def Coerces (s : Schema) (types : List NamedType) : Prop :=
  ∀ n ∈ types, n.sort = .scalar → ∀ v : Value, v.IsLiteral →
    ∃ r, (s.coerceLiteral (.type (.named n)) v).result = .ok r

theorem Speaks.coerces (speaks : s.Speaks types) (reg : s.Registers types) : s.Coerces types :=
  fun n hn sort v h => (coerceLiteral_ends_iff (reg.defined n hn) h.print).2 (speaks n hn sort v h)

theorem checkScalar_ends {n : NamedType} (coerced : ∃ r, (s.coerceLiteral (.type (.named n)) v).result = .ok r)
    (printed : GivesText v.print) : ∃ verdict, (s.checkScalar n v).result = .ok verdict := by
  obtain ⟨r, coerced⟩ := coerced
  obtain ⟨text, i, printed⟩ := printed
  rw [checkScalar, Traced.result_bind_ok coerced]
  cases outcomeOf r with
  | accepted w => exact ⟨none, rfl⟩
  | rejected message =>
    simp only
    rw [Traced.result_bind_ok printed]
    exact ⟨_, rfl⟩

/-- A literal that is neither a variable nor null has to be looked into only as a list at a list type and
as an object at an input object type; everywhere else its check ends at once. -/
theorem check_ends_of_parts (reg : s.Registers types) (coerces : s.Coerces types) (h : v.IsLiteral)
    (constant : v.IsConstant)
    (lists : v.isA .listValue = true → ∀ item i, item.base ∈ types → item.isSpelled = true →
      ∃ verdict, (s.check v (.list item i)).result = .ok verdict)
    (objects : v.isA .objectValue = true → ∀ n ∈ types, n.sort = .inputObject →
      ∃ verdict, (s.check v (.named n)).result = .ok verdict)
    (t : Ty) (ht : t.base ∈ types) (spelled : t.isSpelled = true) :
    ∃ verdict, (s.check v t).result = .ok verdict := by
  rw [s.check_core constant]
  rw [← Ty.core_base] at ht
  rw [← Ty.core_isSpelled] at spelled
  cases form : t.core with
  | nonNull u i => exact absurd form (Ty.core_ne_nonNull t)
  | wrapper u i =>
    rw [form] at spelled
    cases spelled
  | list item i =>
    rw [form] at ht spelled
    cases kind : v.isA .listValue with
    | true => exact lists kind item i ht spelled
    | false =>
      obtain ⟨invalid, fails⟩ := mismatch_fails h.print (.list item i)
      exact ⟨_, (s.check_noList constant kind).trans fails⟩
  | named n =>
    rw [form] at ht
    cases sort : n.sort with
    | other => exact absurd sort (reg.input n ht)
    | scalar =>
      rw [s.check_scalar constant sort]
      exact checkScalar_ends (coerces n ht sort v h) h.print
    | enum =>
      obtain ⟨verdict, ends, _⟩ := checkEnum_ends h n (s.enumValues n)
      exact ⟨verdict, (congrArg Traced.result (s.check_enum constant sort)).trans ends⟩
    | inputObject =>
      cases kind : v.isA .objectValue with
      | true => exact objects kind n ht sort
      | false =>
        obtain ⟨invalid, fails⟩ := mismatch_fails h.print (.named n)
        exact ⟨_, (s.check_noObject constant sort kind).trans fails⟩

theorem check_ends_of_plain (reg : s.Registers types) (coerces : s.Coerces types) (h : v.IsLiteral)
    (plain : v.IsPlain) (t : Ty) (ht : t.base ∈ types) (spelled : t.isSpelled = true) :
    ∃ verdict, (s.check v t).result = .ok verdict := by
  refine check_ends_of_parts reg coerces h plain.toIsConstant ?_ ?_ t ht spelled
  · intro list
    rw [plain.noList] at list
    cases list
  · intro object
    rw [plain.noObject] at object
    cases object

/-- The fields of an object literal come to a verdict if all values do. -/
theorem checkEntries_ends {owner : NamedType} {es : List Value} {declared : List (String × InputField)}
    (entries : v.entries = es.filterMap Value.pair?) (named : ∀ e ∈ es, ∃ k w, e.IsEntry k w)
    (each : ∀ e ∈ es, ∀ k w, e.IsEntry k w → ∀ f ∈ declared,
      ∃ verdict, (s.check w f.2.type).result = .ok verdict) :
    ∃ verdict, (s.checkEntries owner v es declared).result = .ok verdict := by
  obtain ⟨_, verdict, ends⟩ := @unknownField_eq_none owner declared es named
  rw [checkEntries, Traced.result_bind_ok ends]
  cases verdict with
  | some invalid => exact ⟨_, rfl⟩
  | none =>
    refine firstInvalid_ends fun f hf => ?_
    rw [checkField]
    cases last : v.lastEntry? f.1 with
    | none => exact ⟨_, rfl⟩
    | some w =>
      rw [Value.lastEntry?, entries] at last
      obtain ⟨e, he, hw⟩ := entry_of_lookup named last
      exact each e he f.1 w hw f hf

/-- Below a registered type every check of a literal comes to a verdict. -/
theorem check_ends (reg : s.Registers types) (spelled : s.Spells types) (coerces : s.Coerces types)
    (h : v.IsLiteral) :
    ∀ t : Ty, t.base ∈ types → t.isSpelled = true → ∃ verdict, (s.check v t).result = .ok verdict := by
  induction h with
  | null made => exact fun t _ _ => ⟨_, s.check_null made.kind⟩
  | @variableUse n m name made label named =>
    intro t _ _
    obtain ⟨text, i, printed⟩ := (Value.IsLiteral.variableUse made label named).print
    rw [s.check_variable made.kind, unexpectedVariable, printed]
    exact ⟨_, rfl⟩
  | text kind made value =>
    exact check_ends_of_plain reg coerces (.text kind made value) (made.isPlain (List.mem_cons_of_mem _ kind))
  | boolean made value =>
    exact check_ends_of_plain reg coerces (.boolean made value) (made.isPlain (List.mem_cons_self ..))
  | @list n xs i made values each ih =>
    refine check_ends_of_parts reg coerces (.list made values each)
      (made.isConstant (by decide) (by decide)) ?_ ?_
    · intro _ item j ht hs
      rw [s.check_list made.kind values]
      exact firstInvalid_ends fun x hx => ih x hx item ht hs
    · intro object
      rw [made.isA] at object
      cases object
  | @object n es i made fields named each ih =>
    have entries : (Value.node n).entries = es.filterMap Value.pair? := by rw [Value.entries, fields]
    have constant := made.isConstant (by decide) (by decide)
    refine check_ends_of_parts reg coerces (.object made fields named each) constant ?_ ?_
    · intro list
      rw [made.isA] at list
      cases list
    · intro _ owner ho sort
      obtain ⟨declared, resolved, closed⟩ := reg.closed owner ho sort
      rw [s.check_object sort made.kind fields named, Traced.result_bind_ok resolved]
      exact checkEntries_ends entries named fun e he k w hw f hf =>
        ih e he k w hw f.2.type (closed f hf) (spelled owner ho declared resolved f hf)

/-- The check decides conformance: it finds no failure exactly at the literals that conform to a type, and
below the types of a registry it finds one everywhere else, unless a scalar raises an error of the library without
a message. -/
theorem check_decides (s : Schema) {v : Value} (h : v.IsLiteral) :
    (∀ t, (s.check v t).result = .ok none ↔ Conforms s v t) ∧
      ∀ types, s.Registers types → s.Spells types → s.Speaks types → ∀ t : Ty, t.base ∈ types →
        t.isSpelled = true → ∃ verdict, (s.check v t).result = .ok verdict :=
  ⟨check_iff h, fun _ reg spelled speaks => check_ends reg spelled (speaks.coerces reg) h⟩

end Schema

/-! ### Schemas with one input object -/

/-- An input object that is defined after the built-in scalars. -/
def objectType (name : String) : NamedType := ⟨5, name, .inputObject, constant⟩

/-- The built-in scalars and one input object with the given fields. -/
def objectSchema (name : String) (fields : List (String × InputField)) : Schema where
  defs := builtinDefs ++ [⟨name, constant, .null, .mapping [], .inputObject .null (some fields) {}⟩]
  call _ := throw .operand
  apply _ _ := throw .operand

/-- The types of its registry. -/
def objectTypes (name : String) : List NamedType := builtinTypes ++ [objectType name]

section ObjectSchema

variable {name : String} {fields : List (String × InputField)}

theorem objectTypes_cases {n : NamedType} (hn : n ∈ objectTypes name) :
    n = objectType name ∨ (objectSchema name fields).Defines n ∧ n.sort = .scalar ∧
      ((objectSchema name fields).fields n).result = .error .noAttribute := by
  simp only [objectTypes, builtinTypes, builtinDefs, List.zipIdx, List.map_cons, List.map_nil,
    List.cons_append, List.nil_append, List.mem_cons, List.not_mem_nil, or_false] at hn
  rcases hn with rfl | rfl | rfl | rfl | rfl | rfl
  · exact .inr ⟨⟨_, rfl, rfl⟩, rfl, rfl⟩
  · exact .inr ⟨⟨_, rfl, rfl⟩, rfl, rfl⟩
  · exact .inr ⟨⟨_, rfl, rfl⟩, rfl, rfl⟩
  · exact .inr ⟨⟨_, rfl, rfl⟩, rfl, rfl⟩
  · exact .inr ⟨⟨_, rfl, rfl⟩, rfl, rfl⟩
  · exact .inl rfl

theorem objectSchema_fields :
    ((objectSchema name fields).fields (objectType name)).result = .ok fields := rfl

theorem objectSchema_registers (closed : ∀ f ∈ fields, f.2.type.base ∈ objectTypes name) :
    (objectSchema name fields).Registers (objectTypes name) where
  defined n hn := by
    rcases objectTypes_cases hn with rfl | ⟨defined, _⟩
    · exact ⟨_, rfl, rfl⟩
    · exact defined
  input n hn := by
    rcases @objectTypes_cases name fields n hn with rfl | ⟨_, scalar, _⟩
    · nofun
    · rw [scalar]
      nofun
  closed n hn sort := by
    rcases @objectTypes_cases name fields n hn with rfl | ⟨_, scalar, _⟩
    · exact ⟨fields, objectSchema_fields, closed⟩
    · rw [scalar] at sort
      cases sort

theorem objectSchema_spells (spelled : ∀ f ∈ fields, f.2.type.isSpelled = true) :
    (objectSchema name fields).Spells (objectTypes name) := by
  intro n hn declared h
  rcases @objectTypes_cases name fields n hn with rfl | ⟨_, _, none⟩
  · rw [objectSchema_fields] at h
    cases h
    exact spelled
  · rw [none] at h
    cases h

theorem objectSchema_speaks : (objectSchema name fields).Speaks (objectTypes name) :=
  Schema.speaks_builtin (Schema.hasBuiltins_append rfl) (List.forall_mem_singleton.2 nofun)

end ObjectSchema

/-- The type of texts. -/
def textType : Ty := .named ⟨0, "String", .scalar, constant⟩

/-- The fields of an input object that has itself as the type of a field: a label that is required, and
the tree below. -/
def treeFields : List (String × InputField) := [
  ("label", ⟨0, .nonNull textType, .undefined, .null, .null⟩),
  ("below", ⟨0, .named (objectType "Tree"), .undefined, .null, .null⟩)]

/-- A schema whose input object refers to itself. -/
def treeSchema : Schema := objectSchema "Tree" treeFields

/-- The types of its registry. -/
def treeTypes : List NamedType := objectTypes "Tree"

theorem treeSchema_registers : treeSchema.Registers treeTypes := objectSchema_registers (by decide)

theorem treeSchema_spells : treeSchema.Spells treeTypes := objectSchema_spells (by decide)

theorem treeSchema_speaks : treeSchema.Speaks treeTypes := objectSchema_speaks

/-- An object with declared names only is checked for a tree field by field. -/
theorem treeSchema_check {es : List (String × Value)} (known : ∀ e ∈ es, e.1 ∈ treeFields.map Prod.fst) :
    (treeSchema.check (.objectNode es) (.named (objectType "Tree"))).result =
      (firstInvalid (treeSchema.checkField (objectType "Tree") (.objectNode es)) treeFields).result :=
  treeSchema.check_objectNode rfl objectSchema_fields known

/-- Every text is a label. -/
theorem treeSchema_check_text (text : String) :
    (treeSchema.check (.textNode .stringValue text) (.nonNull textType)).result = .ok none := by
  have constant : (Value.textNode .stringValue text).IsConstant := ⟨rfl, rfl⟩
  rw [treeSchema.check_core constant]
  exact congrArg Traced.result (treeSchema.check_scalar constant rfl)

/-- A literal for the tree. The tree below it has no label. -/
def treeLiteral : Value :=
  .objectNode [("label", .textNode .stringValue "a"), ("below", .objectNode [])]

theorem treeLiteral_isLiteral : treeLiteral.IsLiteral :=
  Value.objectNode_isLiteral (List.forall_mem_cons.2 ⟨Value.textNode_isLiteral (by decide) "a",
    List.forall_mem_cons.2 ⟨Value.objectNode_isLiteral (List.forall_mem_nil _), List.forall_mem_nil _⟩⟩)

/-- The check of the literal for the tree decides whether it conforms, and comes to a verdict. -/
theorem treeLiteral_decided :
    ((treeSchema.check treeLiteral (.named (objectType "Tree"))).result = .ok none ↔
      Conforms treeSchema treeLiteral (.named (objectType "Tree"))) ∧
    ∃ verdict, (treeSchema.check treeLiteral (.named (objectType "Tree"))).result = .ok verdict :=
  have decided := treeSchema.check_decides treeLiteral_isLiteral
  ⟨decided.1 _,
    decided.2 treeTypes treeSchema_registers treeSchema_spells treeSchema_speaks _ (by decide) rfl⟩

end QueryDefaults
