import QueryDefaults.Proofs.Literal
import QueryDefaults.Proofs.Sequence

/-!
Conformance. `Conforms` says which literals an input type has, clause by clause: null belongs to the
nullable types, lists and objects go by their parts, enum values by their names and everything else by
what the scalar makes of it. `check` finds no failure exactly at the literals that conform, for every
type, also one whose fields refer back to it: the induction is on the literal alone. What `check` does
at each form of a type and a literal is stated once (`check_null`, `check_list`, `check_object`, ...)
and not looked up in its definition again.
-/

namespace QueryDefaults

/-! ### The relation -/

/-- Whether a literal conforms to a type. No variable does. -/
inductive Conforms (s : Schema) : Value → Ty → Prop where
  /-- Null conforms to every nullable type. -/
  | null {v : Value} {t : Ty} (literal : v.isA .nullValue = true) (nullable : t.isNonNull = false) :
      Conforms s v t
  /-- Everything but null conforms to a non-null type if it conforms to the type below. -/
  | nonNull {v : Value} {t : Ty} {i : Nat} (literal : v.isA .nullValue = false)
      (wrapped : Conforms s v t) : Conforms s v (.nonNull t i)
  /-- A list conforms if all of its items do; nothing else stands for a list of one item. -/
  | list {v : Value} {t : Ty} {i : Nat} (literal : v.isA .listValue = true)
      (each : ∀ x ∈ v.literalItems, Conforms s x t) : Conforms s v (.list t i)
  /-- An object conforms if all of its names are declared, the last entry of each declared name
  conforms, and fields without an entry are nullable or have a default. -/
  | object {v : Value} {n : NamedType} {declared : List (String × InputField)}
      (sort : n.sort = .inputObject) (literal : v.isA .objectValue = true)
      (fields : (s.fields n).result = .ok declared)
      (known : ∀ e ∈ v.entries, e.1 ∈ declared.map Prod.fst)
      (given : ∀ f ∈ declared, ∀ w, v.lastEntry? f.1 = some w → Conforms s w f.2.type)
      (absent : ∀ f ∈ declared, v.lastEntry? f.1 = none →
        f.2.type.isNonNull = false ∨ f.2.default.isUndefined = false) : Conforms s v (.named n)
  /-- An enum value conforms if it is one of the values of the type. -/
  | enum {v : Value} {n : NamedType} {name : String} (sort : n.sort = .enum)
      (literal : v.isA .enumValue = true) (stored : v.storedText? = some name)
      (known : name ∈ (s.enumValues n).map Prod.fst) : Conforms s v (.named n)
  /-- A literal conforms to a scalar type if the scalar accepts it. -/
  | scalar {v w r : Value} {n : NamedType} (sort : n.sort = .scalar)
      (literal : v.isA .variableUse = false)
      (coerced : (s.coerceLiteral (.type (.named n)) v).result = .ok r)
      (accepted : outcomeOf r = .accepted w) : Conforms s v (.named n)

/-! ### The first failure among checks -/

theorem firstInvalid_val {α : Type} {p : α → Prop} {f : { a : α // p a } → Traced Verdict}
    {g : α → Traced Verdict} (h : ∀ a, f a = g a.val) :
    ∀ xs : List { a : α // p a }, firstInvalid f xs = firstInvalid g (xs.map (·.val))
  | [] => rfl
  | x :: xs => by
    rw [List.map_cons, firstInvalid, firstInvalid, h, firstInvalid_val h xs]

theorem firstInvalid_congr {α : Type} {f g : α → Traced Verdict} :
    ∀ {xs : List α}, (∀ x ∈ xs, (f x).result = (g x).result) →
      (firstInvalid f xs).result = (firstInvalid g xs).result
  | [], _ => rfl
  | x :: xs, h => by
    have hx := h x (List.mem_cons_self ..)
    have ih := firstInvalid_congr fun y hy => h y (List.mem_cons_of_mem _ hy)
    rw [firstInvalid, firstInvalid, Traced.result_bind, Traced.result_bind, hx]
    congr 1
    funext verdict
    cases verdict with
    | none => exact ih
    | some invalid => rfl

/-- There is no failure exactly if each check finds none. -/
theorem firstInvalid_eq_none {α : Type} {f : α → Traced Verdict} :
    ∀ {xs : List α}, (firstInvalid f xs).result = .ok none ↔ ∀ x ∈ xs, (f x).result = .ok none
  | [] => by simp [firstInvalid]
  | x :: xs => by
    rw [firstInvalid, List.forall_mem_cons]
    cases hx : (f x).result with
    | error e => rw [Traced.result_bind_error hx]; simp
    | ok verdict =>
      rw [Traced.result_bind_ok hx]
      cases verdict with
      | some invalid => simp
      | none => rw [firstInvalid_eq_none]; simp

/-- If each check comes to an end, so do all of them together. -/
theorem firstInvalid_ends {α : Type} {f : α → Traced Verdict} :
    ∀ {xs : List α}, (∀ x ∈ xs, ∃ verdict, (f x).result = .ok verdict) →
      ∃ verdict, (firstInvalid f xs).result = .ok verdict
  | [], _ => ⟨none, rfl⟩
  | x :: xs, h => by
    obtain ⟨verdict, hx⟩ := h x (List.mem_cons_self ..)
    rw [firstInvalid, Traced.result_bind_ok hx]
    cases verdict with
    | some invalid => exact ⟨some invalid, rfl⟩
    | none => exact firstInvalid_ends fun y hy => h y (List.mem_cons_of_mem _ hy)

/-! ### The check at each form of a literal and a type -/

theorem Ty.core_core : ∀ t : Ty, t.core.core = t.core
  | .nonNull t _ => t.core_core
  | .named _ => rfl
  | .list .. => rfl
  | .wrapper .. => rfl

section Check

variable (s : Schema) {n : Node} {t : Ty}

theorem Schema.check_variable (kind : n.kind = .variableUse) :
    (s.check (.node n) t).result = unexpectedVariable (.node n) := by
  rw [Schema.check, if_pos (by rw [Value.isA, kind]; rfl)]
  rfl

theorem Schema.check_null (kind : n.kind = .nullValue) :
    (s.check (.node n) t).result = .ok (nullFor (.node n) t) := by
  rw [Schema.check, if_neg (by rw [Value.isA, kind]; decide), if_pos (by rw [Value.isA, kind]; rfl)]
  rfl

/-- A literal that is neither a variable nor null is checked against the type below the non-nulls. -/
theorem Schema.check_core {v : Value} (constant : v.IsConstant) :
    (s.check v t).result = (s.check v t.core).result := by
  rw [Schema.check, Schema.check]
  simp only [constant.noVariable, constant.noNull, Bool.false_eq_true, if_false, Ty.core_core]

theorem Schema.check_list {item : Ty} {xs : List Value} {i j : Nat} (kind : n.kind = .listValue)
    (values : n.attrs.lookup "values" = some (.tuple xs j)) :
    (s.check (.node n) (.list item i)).result = (firstInvalid (fun v => s.check v item) xs).result := by
  obtain ⟨items, hitems, hxs⟩ := Value.items_tuple xs j
  have isA : ∀ k, (Value.node n).isA k = (Kind.listValue == k) := fun k => by rw [Value.isA, kind]; rfl
  rw [Schema.check]
  simp only [isA, Ty.core]
  rw [if_neg (by decide), if_neg (by decide), if_pos (by decide)]
  rw [Traced.result_bind_ok (Value.part_of_lookup values), Traced.result_bind_ok hitems,
    @firstInvalid_val _ _ _ (fun v => s.check v item) fun _ => rfl, hxs]

/-! #### Objects -/

/-- A name is looked up with success if it is among the keys. -/
theorem lookup_isSome_iff {α : Type} {xs : List (String × α)} {name : String} :
    (xs.lookup name).isSome = true ↔ name ∈ xs.map Prod.fst := by
  rw [List.lookup_isSome_iff, List.mem_map]
  constructor
  · rintro ⟨p, hp, same⟩
    exact ⟨p, hp, (beq_iff_eq.1 same).symm⟩
  · rintro ⟨p, hp, rfl⟩
    exact ⟨p, hp, BEq.rfl⟩

/-- A name that is declared is passed over; one that is not gives the failure of its value. -/
theorem unknownField_cons {owner : NamedType} {declared : List (String × InputField)} {e v : Value}
    {name : String} (h : e.IsEntry name v) (es : List Value) :
    (unknownField owner declared (e :: es)).result =
      if name ∈ declared.map Prod.fst then (unknownField owner declared es).result
      else .ok (some
        ⟨v, sentence ["Field '", name, "' is not defined by type '", owner.name, "'."], .null⟩) := by
  obtain ⟨i, hi⟩ := h.nameValue
  have digest : (Traced.keyDigest (.str name i)).result = .ok (.ofText name) := rfl
  rw [unknownField, Traced.result_bind_ok hi, Traced.result_bind_ok digest]
  by_cases known : name ∈ declared.map Prod.fst
  · simp only [lookup_isSome_iff.2 known, if_pos known, if_true]
  · have unknown : (declared.lookup name).isSome = false :=
      Bool.eq_false_iff.2 fun h => known (lookup_isSome_iff.1 h)
    simp only [unknown, if_neg known, Bool.false_eq_true, if_false]
    rw [Traced.result_bind_ok h.attr]
    rfl

/-- All names are declared, or the first one that is not gives the failure. -/
theorem unknownField_eq_none {owner : NamedType} {declared : List (String × InputField)} :
    ∀ {es : List Value}, (∀ e ∈ es, ∃ name v, e.IsEntry name v) →
      (((unknownField owner declared es).result = .ok none ↔
          ∀ e ∈ es.filterMap Value.pair?, e.1 ∈ declared.map Prod.fst) ∧
        ∃ verdict, (unknownField owner declared es).result = .ok verdict)
  | [], _ => ⟨by simp [unknownField], none, rfl⟩
  | e :: es, h => by
    obtain ⟨name, v, he⟩ := h e (List.mem_cons_self ..)
    have ih := @unknownField_eq_none owner declared es fun e he => h e (List.mem_cons_of_mem _ he)
    rw [unknownField_cons he, List.filterMap_cons_some he.pair?, List.forall_mem_cons]
    by_cases known : name ∈ declared.map Prod.fst
    · rw [if_pos known]
      exact ⟨by rw [ih.1]; simp [known], ih.2⟩
    · rw [if_neg known]
      exact ⟨by simp [known], _, rfl⟩

/-- The first entry that is found by a name is the one that the name is looked up with. -/
theorem find?_entry {p : Value → Prop} {name : String} {isNamed : { v : Value // p v } → Bool} :
    ∀ {items : List { v : Value // p v }}, (∀ e ∈ items, ∃ k v, e.val.IsEntry k v) →
      (∀ e k v, e.val.IsEntry k v → isNamed e = (k == name)) →
      (items.find? isNamed = none ∧ ((items.map (·.val)).filterMap Value.pair?).lookup name = none) ∨
        ∃ e v, items.find? isNamed = some e ∧ e.val.IsEntry name v ∧
          ((items.map (·.val)).filterMap Value.pair?).lookup name = some v
  | [], _, _ => .inl ⟨rfl, rfl⟩
  | e :: items, h, hn => by
    obtain ⟨k, v, he⟩ := h e (List.mem_cons_self ..)
    rw [List.find?_cons, hn e k v he, List.map_cons, List.filterMap_cons_some he.pair?]
    by_cases same : k = name
    · subst same
      refine .inr ⟨e, v, ?_, he, ?_⟩
      · rw [BEq.rfl]
      · rw [List.lookup_cons_self]
    · have later : (name == k) = false := beq_eq_false_iff_ne.2 (Ne.symm same)
      rw [beq_eq_false_iff_ne.2 same, List.lookup_cons, later]
      exact find?_entry (fun e he => h e (List.mem_cons_of_mem _ he)) hn

/-- The last entry of a name among the items of an object literal. -/
theorem lastNamed?_entry {p : Value → Prop} {items : List { v : Value // p v }} (name : String)
    (h : ∀ e ∈ items, ∃ k v, e.val.IsEntry k v) :
    (lastNamed? name items = none ∧
        ((items.map (·.val)).filterMap Value.pair?).reverse.lookup name = none) ∨
      ∃ e v, lastNamed? name items = some e ∧ e.val.IsEntry name v ∧
        ((items.map (·.val)).filterMap Value.pair?).reverse.lookup name = some v := by
  rw [← List.filterMap_reverse, ← List.map_reverse]
  refine find?_entry (fun e he => h e (List.mem_reverse.1 he)) fun e k v he => ?_
  obtain ⟨i, hi⟩ := he.nameValue
  rw [hi]

/-- What a declared field comes to: its last entry is checked, and without one it must not be required. -/
def Schema.checkField (owner : NamedType) (literal : Value) (f : String × InputField) : Traced Verdict :=
  match literal.lastEntry? f.1 with
  | none => return missingField owner f.1 f.2 literal
  | some v => s.check v f.2.type

/-- The first failure of an object: an unknown name, or else that of a declared field. -/
def Schema.checkEntries (owner : NamedType) (literal : Value) (es : List Value)
    (declared : List (String × InputField)) : Traced Verdict := do
  match ← unknownField owner declared es with
  | some invalid => return some invalid
  | none => firstInvalid (s.checkField owner literal) declared

theorem Schema.check_object {owner : NamedType} {es : List Value} {j : Nat}
    (sort : owner.sort = .inputObject) (kind : n.kind = .objectValue)
    (fields : n.attrs.lookup "fields" = some (.tuple es j))
    (named : ∀ e ∈ es, ∃ name v, e.IsEntry name v) :
    (s.check (.node n) (.named owner)).result =
      (s.fields owner >>= s.checkEntries owner (.node n) es).result := by
  obtain ⟨items, hitems, hes⟩ := Value.items_tuple es j
  have isA : ∀ k, (Value.node n).isA k = (Kind.objectValue == k) := fun k => by rw [Value.isA, kind]; rfl
  have entries : (Value.node n).entries = es.filterMap Value.pair? := by rw [Value.entries, fields]
  rw [Schema.check]
  simp only [isA, Ty.core, sort]
  rw [if_neg (by decide), if_neg (by decide), if_pos (by decide)]
  cases declared : (s.fields owner).result with
  | error e => rw [Traced.result_bind_error declared, Traced.result_bind_error declared]
  | ok fs =>
    rw [Traced.result_bind_ok declared, Traced.result_bind_ok declared,
      Traced.result_bind_ok (Value.part_of_lookup fields), Traced.result_bind_ok hitems, hes,
      Schema.checkEntries, Traced.result_bind, Traced.result_bind]
    congr 1
    funext verdict
    cases verdict with
    | some invalid => rfl
    | none =>
      refine firstInvalid_congr fun f _ => ?_
      have found := lastNamed?_entry f.1 fun e he => named e.val (val_mem hes he)
      rw [hes, ← entries] at found
      rw [Schema.checkField, Value.lastEntry?]
      rcases found with ⟨none, absent⟩ | ⟨e, v, some, he, given⟩
      · rw [none, absent]
      · obtain ⟨_, hpart⟩ := he.part
        simp only [some, given]
        rw [Traced.result_bind_ok hpart]

/-- An object whose names are all declared is checked field by field. -/
theorem Schema.check_objectNode {owner : NamedType} {declared : List (String × InputField)}
    {es : List (String × Value)} (sort : owner.sort = .inputObject)
    (fields : (s.fields owner).result = .ok declared) (known : ∀ e ∈ es, e.1 ∈ declared.map Prod.fst) :
    (s.check (.objectNode es) (.named owner)).result =
      (firstInvalid (s.checkField owner (.objectNode es)) declared).result := by
  have named : ∀ e ∈ es.map Value.entryNode, ∃ k v, e.IsEntry k v :=
    List.forall_mem_map.2 fun e _ => ⟨e.1, e.2, Value.entryNode_isEntry e⟩
  have all : (unknownField owner declared (es.map Value.entryNode)).result = .ok none := by
    rw [(unknownField_eq_none named).1, Value.filterMap_entryNode]
    exact known
  refine (s.check_object sort rfl rfl named).trans ?_
  rw [Traced.result_bind_ok fields, Schema.checkEntries, Traced.result_bind_ok all]
  rfl

/-! #### Everything else -/

theorem Value.isA_ne {v : Value} {k l : Kind} (h : v.isA k = true) (ne : k ≠ l) : v.isA l = false := by
  cases v with
  | node n =>
    obtain rfl : n.kind.library = k := beq_iff_eq.1 h
    exact beq_eq_false_iff_ne.2 ne
  | _ => rfl

theorem mismatch_fails {v : Value} (printed : GivesText v.print) (t : Ty) :
    ∃ invalid, mismatch v t = .ok (some invalid) := by
  obtain ⟨text, i, h⟩ := printed
  rw [mismatch, h]
  exact ⟨_, rfl⟩

theorem Schema.check_noList {v : Value} {item : Ty} {i : Nat} (constant : v.IsConstant)
    (kind : v.isA .listValue = false) :
    (s.check v (.list item i)).result = mismatch v (.list item i) := by
  rw [Schema.check]
  simp only [constant.noVariable, constant.noNull, kind, Ty.core, Bool.false_eq_true, if_false]
  rfl

theorem Schema.check_noObject {v : Value} {owner : NamedType} (constant : v.IsConstant)
    (sort : owner.sort = .inputObject) (kind : v.isA .objectValue = false) :
    (s.check v (.named owner)).result = mismatch v (.named owner) := by
  rw [Schema.check]
  simp only [constant.noVariable, constant.noNull, kind, sort, Ty.core, Bool.false_eq_true, if_false]
  rfl

theorem Schema.check_enum {v : Value} {owner : NamedType} (constant : v.IsConstant)
    (sort : owner.sort = .enum) :
    s.check v (.named owner) = checkEnum owner (s.enumValues owner) v := by
  rw [Schema.check]
  simp only [constant.noVariable, constant.noNull, sort, Ty.core, Bool.false_eq_true, if_false]

theorem Schema.check_scalar {v : Value} {scalar : NamedType} (constant : v.IsConstant)
    (sort : scalar.sort = .scalar) :
    s.check v (.named scalar) = s.checkScalar scalar v := by
  rw [Schema.check]
  simp only [constant.noVariable, constant.noNull, sort, Ty.core, Bool.false_eq_true, if_false]

theorem Schema.check_other {v : Value} {n : NamedType} (constant : v.IsConstant) (sort : n.sort = .other) :
    (s.check v (.named n)).result = .error (.refused .checkedType (.type (.named n))) := by
  rw [Schema.check]
  simp only [constant.noVariable, constant.noNull, sort, Ty.core, Bool.false_eq_true, if_false]
  rfl

theorem Schema.check_wrapper {v : Value} {i : Nat} (constant : v.IsConstant) :
    (s.check v (.wrapper t i)).result = .error (.refused .checkedType (.type (.wrapper t i))) := by
  rw [Schema.check]
  simp only [constant.noVariable, constant.noNull, Ty.core, Bool.false_eq_true, if_false]
  rfl

end Check

/-! ### Enums and scalars -/

/-- A literal of the kind for enum values holds a text. -/
theorem Value.IsLiteral.enumText {v : Value} (h : v.IsLiteral) (kind : v.isA .enumValue = true) :
    ∃ name i, v.attr "value" = .ok (.str name i) ∧ v.storedText? = some name := by
  cases h with
  | @text n k name i _ _ value =>
    refine ⟨name, i, NodeOf.attr_of_lookup value, ?_⟩
    rw [Value.storedText?, value]
  | null made => rw [made.isA] at kind; cases kind
  | variableUse made => rw [made.isA] at kind; cases kind
  | boolean made => rw [made.isA] at kind; cases kind
  | list made => rw [made.isA] at kind; cases kind
  | object made => rw [made.isA] at kind; cases kind

/-- A literal of the kind for enum values is looked up among the values by its text. -/
theorem checkEnum_value {v : Value} (h : v.IsLiteral) (kind : v.isA .enumValue = true) (owner : NamedType)
    (values : List (String × EnumValue)) :
    ∃ name, v.storedText? = some name ∧ (checkEnum owner values v).result =
      if name ∈ values.map Prod.fst then .ok none
      else .ok (some
        ⟨v, sentence ["Value '", name, "' does not exist in '", owner.name, "' enum."], .null⟩) := by
  obtain ⟨name, i, value, stored⟩ := h.enumText kind
  have digest : (Traced.keyDigest (.str name i)).result = .ok (.ofText name) := rfl
  refine ⟨name, stored, ?_⟩
  rw [checkEnum, if_pos kind, Traced.result_bind_ok value, Traced.result_bind_ok digest]
  by_cases known : name ∈ values.map Prod.fst
  · simp only [lookup_isSome_iff.2 known, if_pos known, if_true]
    rfl
  · have unknown : (values.lookup name).isSome = false :=
      Bool.eq_false_iff.2 fun h => known (lookup_isSome_iff.1 h)
    simp only [unknown, if_neg known, Bool.false_eq_true, if_false]
    rfl

/-- No other literal stands for a value of an enum. -/
theorem checkEnum_noEnum {v : Value} {text : String} {i : Nat} (kind : v.isA .enumValue = false)
    (printed : v.print = .ok (.str text i)) (owner : NamedType) (values : List (String × EnumValue)) :
    (checkEnum owner values v).result = .ok (some
      ⟨v, sentence ["Enum '", owner.name, "' cannot represent non-enum value: ", text, "."], .null⟩) := by
  rw [checkEnum, if_neg (Bool.eq_false_iff.1 kind), Traced.result_bind_ok printed]
  rfl

/-- The check of an enum type finds no failure at the names of its values, and one everywhere else. -/
theorem checkEnum_ends {v : Value} (h : v.IsLiteral) (owner : NamedType)
    (values : List (String × EnumValue)) :
    ∃ verdict, (checkEnum owner values v).result = .ok verdict ∧
      (verdict = none ↔ v.isA .enumValue = true ∧ ∃ name, v.storedText? = some name ∧
        name ∈ values.map Prod.fst) := by
  cases kind : v.isA .enumValue with
  | true =>
    obtain ⟨name, stored, found⟩ := checkEnum_value h kind owner values
    rw [found]
    by_cases known : name ∈ values.map Prod.fst
    · exact ⟨none, if_pos known, fun _ => ⟨rfl, name, stored, known⟩, fun _ => rfl⟩
    · refine ⟨_, if_neg known, ?_⟩
      constructor
      · intro none
        cases none
      · rintro ⟨_, other, same, mem⟩
        obtain rfl : other = name := Option.some.inj (same.symm.trans stored)
        exact absurd mem known
  | false =>
    obtain ⟨text, i, printed⟩ := h.print
    refine ⟨_, checkEnum_noEnum kind printed owner values, ?_⟩
    constructor
    · intro none
      cases none
    · rintro ⟨other, _⟩
      cases other

/-- A scalar finds no failure exactly at the literals that it accepts. -/
theorem Schema.checkScalar_eq_none {s : Schema} {scalar : NamedType} {v : Value} :
    (s.checkScalar scalar v).result = .ok none ↔
      ∃ r w, (s.coerceLiteral (.type (.named scalar)) v).result = .ok r ∧ outcomeOf r = .accepted w := by
  rw [Schema.checkScalar]
  cases coerced : (s.coerceLiteral (.type (.named scalar)) v).result with
  | error e => rw [Traced.result_bind_error coerced]; simp
  | ok r =>
    rw [Traced.result_bind_ok coerced]
    cases outcome : outcomeOf r with
    | accepted w => simp [outcome]
    | rejected message =>
      simp only [Traced.result_bind, Traced.result_liftM, Traced.result_pure]
      cases v.print with
      | error e => simp [Except.bind, outcome]
      | ok printed => cases h : printed.display <;> simp [Except.bind, outcome, h]

/-! ### The relation at each form of a type -/

section Forms

variable {s : Schema} {v : Value}

/-- No variable conforms to any type. -/
theorem Conforms.notVariable {t : Ty} (h : Conforms s v t) : v.isA .variableUse = false := by
  induction h with
  | null literal _ => exact Value.isA_ne literal (by decide)
  | nonNull _ _ ih => exact ih
  | list literal _ => exact Value.isA_ne literal (by decide)
  | object _ literal _ _ _ _ => exact Value.isA_ne literal (by decide)
  | enum _ literal _ _ => exact Value.isA_ne literal (by decide)
  | scalar _ literal _ _ => exact literal

/-- Null conforms to the nullable types. -/
theorem conforms_null_iff {t : Ty} (literal : v.isA .nullValue = true) :
    Conforms s v t ↔ t.isNonNull = false := by
  constructor
  · intro h
    cases h with
    | nonNull other _ => rw [literal] at other; cases other
    | null _ nullable => exact nullable
    | _ => rfl
  · exact Conforms.null literal

/-- Everything but null conforms to a type if it conforms to the type below the non-nulls. -/
theorem conforms_core_iff (literal : v.isA .nullValue = false) :
    ∀ t : Ty, Conforms s v t ↔ Conforms s v t.core
  | .nonNull t i => by
    rw [Ty.core, ← conforms_core_iff literal t]
    constructor
    · intro h
      cases h with
      | nonNull _ wrapped => exact wrapped
      | null other _ => rw [literal] at other; cases other
    · exact Conforms.nonNull literal
  | .named _ => .rfl
  | .list .. => .rfl
  | .wrapper .. => .rfl

theorem conforms_list_iff {item : Ty} {i : Nat} (literal : v.isA .nullValue = false) :
    Conforms s v (.list item i) ↔ v.isA .listValue = true ∧ ∀ x ∈ v.literalItems, Conforms s x item := by
  constructor
  · intro h
    cases h with
    | list kind each => exact ⟨kind, each⟩
    | null other _ => rw [literal] at other; cases other
  · rintro ⟨kind, each⟩
    exact .list kind each

theorem conforms_object_iff {n : NamedType} (literal : v.isA .nullValue = false)
    (sort : n.sort = .inputObject) :
    Conforms s v (.named n) ↔ v.isA .objectValue = true ∧ ∃ declared, (s.fields n).result = .ok declared ∧
      (∀ e ∈ v.entries, e.1 ∈ declared.map Prod.fst) ∧
      ∀ f ∈ declared, (∀ w, v.lastEntry? f.1 = some w → Conforms s w f.2.type) ∧
        (v.lastEntry? f.1 = none → f.2.type.isNonNull = false ∨ f.2.default.isUndefined = false) := by
  constructor
  · intro h
    cases h with
    | object _ kind fields known given absent =>
      exact ⟨kind, _, fields, known, fun f hf => ⟨given f hf, absent f hf⟩⟩
    | null other _ => rw [literal] at other; cases other
    | enum other => rw [sort] at other; cases other
    | scalar other => rw [sort] at other; cases other
  · rintro ⟨kind, _, fields, known, each⟩
    exact .object sort kind fields known (fun f hf => (each f hf).1) fun f hf => (each f hf).2

theorem conforms_enum_iff {n : NamedType} (literal : v.isA .nullValue = false) (sort : n.sort = .enum) :
    Conforms s v (.named n) ↔ v.isA .enumValue = true ∧ ∃ name, v.storedText? = some name ∧
      name ∈ (s.enumValues n).map Prod.fst := by
  constructor
  · intro h
    cases h with
    | enum _ kind stored known => exact ⟨kind, _, stored, known⟩
    | null other _ => rw [literal] at other; cases other
    | object other => rw [sort] at other; cases other
    | scalar other => rw [sort] at other; cases other
  · rintro ⟨kind, _, stored, known⟩
    exact .enum sort kind stored known

theorem conforms_scalar_iff {n : NamedType} (constant : v.IsConstant) (sort : n.sort = .scalar) :
    Conforms s v (.named n) ↔ ∃ r w, (s.coerceLiteral (.type (.named n)) v).result = .ok r ∧
      outcomeOf r = .accepted w := by
  constructor
  · intro h
    cases h with
    | scalar _ _ coerced accepted => exact ⟨_, _, coerced, accepted⟩
    | null other _ => rw [constant.noNull] at other; cases other
    | object other => rw [sort] at other; cases other
    | enum other => rw [sort] at other; cases other
  · rintro ⟨_, _, coerced, accepted⟩
    exact .scalar sort constant.noVariable coerced accepted

theorem not_conforms_other {n : NamedType} (literal : v.isA .nullValue = false) (sort : n.sort = .other) :
    ¬ Conforms s v (.named n) := by
  intro h
  cases h with
  | null other _ => rw [literal] at other; cases other
  | object other => rw [sort] at other; cases other
  | enum other => rw [sort] at other; cases other
  | scalar other => rw [sort] at other; cases other

theorem not_conforms_wrapper {t : Ty} {i : Nat} (literal : v.isA .nullValue = false) :
    ¬ Conforms s v (.wrapper t i) := by
  intro h
  cases h with
  | null other _ => rw [literal] at other; cases other

end Forms

/-! ### The check decides the relation -/

theorem Ty.core_ne_nonNull {t : Ty} {i : Nat} : ∀ u : Ty, u.core ≠ .nonNull t i
  | .nonNull u _ => core_ne_nonNull u
  | .named _ => by simp [Ty.core]
  | .list .. => by simp [Ty.core]
  | .wrapper .. => by simp [Ty.core]

/-- A literal that is neither a variable nor null has to be looked into only as a list at a list type and
as an object at an input object type. -/
theorem Schema.check_iff_of_parts {s : Schema} {v : Value} (h : v.IsLiteral) (constant : v.IsConstant)
    (lists : v.isA .listValue = true → ∀ item i,
      (s.check v (.list item i)).result = .ok none ↔ Conforms s v (.list item i))
    (objects : v.isA .objectValue = true → ∀ n : NamedType, n.sort = .inputObject →
      ((s.check v (.named n)).result = .ok none ↔ Conforms s v (.named n))) (t : Ty) :
    (s.check v t).result = .ok none ↔ Conforms s v t := by
  rw [s.check_core constant, conforms_core_iff constant.noNull]
  cases form : t.core with
  | nonNull u i => exact absurd form (Ty.core_ne_nonNull t)
  | wrapper u i =>
    rw [s.check_wrapper constant]
    simp [not_conforms_wrapper constant.noNull]
  | list item i =>
    cases kind : v.isA .listValue with
    | true => exact lists kind item i
    | false =>
      obtain ⟨invalid, fails⟩ := mismatch_fails h.print (.list item i)
      rw [s.check_noList constant kind, fails, conforms_list_iff constant.noNull, kind]
      simp
  | named n =>
    cases sort : n.sort with
    | other =>
      rw [s.check_other constant sort]
      simp [not_conforms_other constant.noNull sort]
    | scalar =>
      rw [s.check_scalar constant sort, conforms_scalar_iff constant sort]
      exact Schema.checkScalar_eq_none
    | enum =>
      obtain ⟨verdict, ends, decided⟩ := checkEnum_ends h n (s.enumValues n)
      rw [s.check_enum constant sort, conforms_enum_iff constant.noNull sort, ends, ← decided]
      simp
    | inputObject =>
      cases kind : v.isA .objectValue with
      | true => exact objects kind n sort
      | false =>
        obtain ⟨invalid, fails⟩ := mismatch_fails h.print (.named n)
        rw [s.check_noObject constant sort kind, fails, conforms_object_iff constant.noNull sort, kind]
        simp

/-- A plain literal has not to be looked into at all. -/
theorem Schema.check_iff_of_plain {s : Schema} {v : Value} (h : v.IsLiteral) (plain : v.IsPlain) (t : Ty) :
    (s.check v t).result = .ok none ↔ Conforms s v t := by
  refine Schema.check_iff_of_parts h plain.toIsConstant ?_ ?_ t
  · intro list
    rw [plain.noList] at list
    cases list
  · intro object
    rw [plain.noObject] at object
    cases object

/-- A value that is looked up in an object literal is that of one of its entries. -/
theorem entry_of_lookup {es : List Value} {name : String} {w : Value}
    (named : ∀ e ∈ es, ∃ k v, e.IsEntry k v)
    (h : (es.filterMap Value.pair?).reverse.lookup name = some w) : ∃ e ∈ es, e.IsEntry name w := by
  obtain ⟨before, after, parts, _⟩ := List.lookup_eq_some_iff.1 h
  have mem : (name, w) ∈ es.filterMap Value.pair? := by
    rw [← List.mem_reverse, parts]
    simp
  obtain ⟨e, he, same⟩ := List.mem_filterMap.1 mem
  obtain ⟨k, v, hk⟩ := named e he
  rw [hk.pair?] at same
  cases same
  exact ⟨e, he, hk⟩

/-- What the check finds for a declared field is decided by the last entry of its name. -/
theorem Schema.checkField_iff {s : Schema} {owner : NamedType} {literal : Value} {es : List Value}
    (entries : literal.entries = es.filterMap Value.pair?) (named : ∀ e ∈ es, ∃ k v, e.IsEntry k v)
    (each : ∀ e ∈ es, ∀ k v, e.IsEntry k v → ∀ t, (s.check v t).result = .ok none ↔ Conforms s v t)
    (f : String × InputField) :
    (s.checkField owner literal f).result = .ok none ↔
      (∀ w, literal.lastEntry? f.1 = some w → Conforms s w f.2.type) ∧
        (literal.lastEntry? f.1 = none →
          f.2.type.isNonNull = false ∨ f.2.default.isUndefined = false) := by
  rw [Schema.checkField]
  cases last : literal.lastEntry? f.1 with
  | none =>
    cases h : f.2.type.isNonNull <;> cases d : f.2.default.isUndefined <;>
      simp [missingField, InputFieldOf.isRequired, h, d]
  | some w =>
    rw [Value.lastEntry?, entries] at last
    obtain ⟨e, he, hw⟩ := entry_of_lookup named last
    simp [each e he f.1 w hw f.2.type]

/-- What the check finds for the entries of an object literal is decided by their names and values. -/
theorem Schema.checkEntries_iff {s : Schema} {owner : NamedType} {literal : Value} {es : List Value}
    {declared : List (String × InputField)} (entries : literal.entries = es.filterMap Value.pair?)
    (named : ∀ e ∈ es, ∃ k v, e.IsEntry k v)
    (each : ∀ e ∈ es, ∀ k v, e.IsEntry k v → ∀ t, (s.check v t).result = .ok none ↔ Conforms s v t) :
    (s.checkEntries owner literal es declared).result = .ok none ↔
      (∀ e ∈ literal.entries, e.1 ∈ declared.map Prod.fst) ∧
      ∀ f ∈ declared, (∀ w, literal.lastEntry? f.1 = some w → Conforms s w f.2.type) ∧
        (literal.lastEntry? f.1 = none →
          f.2.type.isNonNull = false ∨ f.2.default.isUndefined = false) := by
  obtain ⟨decided, verdict, ends⟩ := @unknownField_eq_none owner declared es named
  rw [Schema.checkEntries, Traced.result_bind_ok ends, entries, ← decided, ends]
  cases verdict with
  | some invalid => simp
  | none => simp [firstInvalid_eq_none, Schema.checkField_iff entries named each]

/-- The check finds no failure exactly at the literals that conform. -/
theorem Schema.check_iff {s : Schema} {v : Value} (h : v.IsLiteral) :
    ∀ t : Ty, (s.check v t).result = .ok none ↔ Conforms s v t := by
  induction h with
  | @null n made =>
    intro t
    have literal : (Value.node n).isA .nullValue = true := by rw [made.isA]; rfl
    rw [s.check_null made.kind, conforms_null_iff literal, nullFor]
    cases t.isNonNull <;> simp
  | @variableUse n m name made label named =>
    intro t
    have constant : (Value.node n).isA .variableUse = true := by rw [made.isA]; rfl
    obtain ⟨text, i, printed⟩ := (Value.IsLiteral.variableUse made label named).print
    rw [s.check_variable made.kind, unexpectedVariable, printed]
    constructor
    · intro none
      cases none
    · intro conforms
      rw [conforms.notVariable] at constant
      cases constant
  | text kind made value =>
    exact Schema.check_iff_of_plain (.text kind made value) (made.isPlain (List.mem_cons_of_mem _ kind))
  | boolean made value =>
    exact Schema.check_iff_of_plain (.boolean made value) (made.isPlain (List.mem_cons_self ..))
  | @list n xs i made values each ih =>
    have constant := made.isConstant (by decide) (by decide)
    have kind : (Value.node n).isA .listValue = true := by rw [made.isA]; rfl
    have items : (Value.node n).literalItems = xs := by rw [Value.literalItems, values]
    refine Schema.check_iff_of_parts (.list made values each) constant ?_ ?_
    · intro _ item j
      rw [s.check_list made.kind values, firstInvalid_eq_none, conforms_list_iff constant.noNull, items]
      simp only [kind, true_and]
      exact forall₂_congr fun x hx => ih x hx item
    · intro object
      rw [made.isA] at object
      cases object
  | @object n es i made fields named each ih =>
    have constant := made.isConstant (by decide) (by decide)
    have kind : (Value.node n).isA .objectValue = true := by rw [made.isA]; rfl
    have entries : (Value.node n).entries = es.filterMap Value.pair? := by rw [Value.entries, fields]
    refine Schema.check_iff_of_parts (.object made fields named each) constant ?_ ?_
    · intro list
      rw [made.isA] at list
      cases list
    · intro _ owner sort
      rw [s.check_object sort made.kind fields named, conforms_object_iff constant.noNull sort]
      simp only [kind, true_and]
      cases declared : (s.fields owner).result with
      | error e =>
        rw [Traced.result_bind_error declared]
        simp
      | ok fs =>
        rw [Traced.result_bind_ok declared, Schema.checkEntries_iff entries named ih]
        simp

end QueryDefaults
