import QueryDefaults.Proofs.Positions

/-!
Which failure a check reports. A check that finds a failure reports the one of the first position that does
not fit (`Schema.check_reports`), however many others fail and however deep it lies; and a message in it is
the one that the scalar there gave for the literal (`Schema.Rejects`).
-/

namespace QueryDefaults

/-! ### The first position that does not fit -/

/-- Whether a position is one that fails in a given way, while everything before it fits. -/
structure FailsFirst (s : Schema) (v : Value) (t : Ty) (invalid : InvalidLiteral) (p : List Descent)
    (spot : Spot) : Prop where
  reached : Reaches s v t p spot
  fails : spot.Fails s invalid
  before : ∀ q other, Earlier q p → Reaches s v t q other → other.Fits s

namespace FailsFirst

variable {s : Schema} {v : Value} {t : Ty} {invalid : InvalidLiteral} {p : List Descent} {spot : Spot}

/-- A literal that fails where it stands fails first, since nothing comes before it. -/
theorem here (fails : (Spot.literal v t).Fails s invalid) : FailsFirst s v t invalid [] (.literal v t) := by
  refine ⟨.here v t, fails, fun q other earlier _ => ?_⟩
  cases earlier

/-- The first failure of an item is that of the list if all items before it conform. -/
theorem item {x : Value} {item : Ty} {i k : Nat} (core : t.core = .list item i)
    (literal : v.isA .listValue = true) (nth : v.literalItems[k]? = some x)
    (h : FailsFirst s x item invalid p spot)
    (before : ∀ j y, j < k → v.literalItems[j]? = some y → Conforms s y item) :
    FailsFirst s v t invalid (.item k :: p) spot := by
  refine ⟨.item core literal nth h.reached, h.fails, fun q other earlier reached => ?_⟩
  have constant : v.IsConstant := ⟨Value.isA_ne literal (by decide), Value.isA_ne literal (by decide)⟩
  cases reached with
  | here => exact .container (congrArg Ty.container? core) literal
  | item core' _ nth' below =>
    obtain ⟨rfl, _⟩ := Ty.list.inj (core.symm.trans core')
    cases earlier with
    | cons later =>
      obtain rfl := Option.some.inj (nth.symm.trans nth')
      exact h.before _ _ later below
    | rel less =>
      cases less with
      | items less => exact (before _ _ less nth').fits_below below
  | entry opens => cases core.symm.trans opens.core
  | absent opens => cases core.symm.trans opens.core
  | field opens => cases core.symm.trans opens.core

variable {owner : NamedType} {declared : List (String × InputField)} {k : Nat}

/-- An entry of an unknown name fails first if all names before it are declared. -/
theorem entry {e : String × Value} (opens : Opens s v t owner declared) (nth : v.entries[k]? = some e)
    (fails : (Spot.entry owner declared e.1 e.2).Fails s invalid)
    (before : ∀ j d, j < k → v.entries[j]? = some d → d.1 ∈ declared.map Prod.fst) :
    FailsFirst s v t invalid [.entry k] (.entry owner declared e.1 e.2) := by
  refine ⟨.entry opens nth, fails, fun q other earlier reached => ?_⟩
  cases reached with
  | here => exact opens.fits
  | item core => cases core.symm.trans opens.core
  | entry opens' nth' =>
    obtain ⟨rfl, rfl⟩ := opens.unique opens'
    cases earlier with
    | cons later => cases later
    | rel less =>
      cases less with
      | entries less => exact .entry (before _ _ less nth')
  | absent =>
    cases earlier with
    | rel less => cases less
  | field =>
    cases earlier with
    | rel less => cases less

/-- What comes before a declared field of an object fits if all names are declared and the object is in
order at the fields before it; nothing is said of what comes before in the field itself. -/
theorem before_field {f : String × InputField} (opens : Opens s v t owner declared)
    (nth : declared[k]? = some f) (known : ∀ e ∈ v.entries, e.1 ∈ declared.map Prod.fst)
    (before : ∀ j g, j < k → declared[j]? = some g → FitsField s v g)
    (leaf : v.lastEntry? f.1 = none → p = []) {q : List Descent} {other : Spot}
    (earlier : Earlier q (.field k :: p)) (reached : Reaches s v t q other) :
    other.Fits s ∨
      ∃ w r, v.lastEntry? f.1 = some w ∧ Earlier r p ∧ Reaches s w f.2.type r other := by
  cases reached with
  | here => exact .inl opens.fits
  | item core => cases core.symm.trans opens.core
  | entry opens' nth' =>
    obtain ⟨rfl, rfl⟩ := opens.unique opens'
    exact .inl (.entry (known _ (List.mem_of_getElem? nth')))
  | absent opens' nth' none =>
    obtain ⟨rfl, rfl⟩ := opens.unique opens'
    cases earlier with
    | cons later =>
      obtain rfl := Option.some.inj (nth.symm.trans nth')
      rw [leaf none] at later
      cases later
    | rel less =>
      cases less with
      | fields less => exact .inl (.absent ((before _ _ less nth').optional none))
  | field opens' nth' given below =>
    obtain ⟨rfl, rfl⟩ := opens.unique opens'
    cases earlier with
    | cons later =>
      obtain rfl := Option.some.inj (nth.symm.trans nth')
      exact .inr ⟨_, _, given, later, below⟩
    | rel less =>
      cases less with
      | fields less => exact .inl (((before _ _ less nth').given _ given).fits_below below)

/-- A required field without an entry fails first if all names are declared and the object is in order at
the fields before it. -/
theorem absent {f : String × InputField} (opens : Opens s v t owner declared) (nth : declared[k]? = some f)
    (none : v.lastEntry? f.1 = none) (fails : (Spot.absent owner v f.1 f.2).Fails s invalid)
    (known : ∀ e ∈ v.entries, e.1 ∈ declared.map Prod.fst)
    (before : ∀ j g, j < k → declared[j]? = some g → FitsField s v g) :
    FailsFirst s v t invalid [.field k] (.absent owner v f.1 f.2) := by
  refine ⟨.absent opens nth none, fails, fun q other earlier reached => ?_⟩
  rcases before_field opens nth known before (fun _ => rfl) earlier reached with fits | ⟨w, r, given, _⟩
  · exact fits
  · rw [none] at given
    cases given

/-- The first failure of a field is that of the object if all names are declared and the object is in
order at the fields before it. -/
theorem field {w : Value} {f : String × InputField} (opens : Opens s v t owner declared)
    (nth : declared[k]? = some f) (given : v.lastEntry? f.1 = some w)
    (h : FailsFirst s w f.2.type invalid p spot)
    (known : ∀ e ∈ v.entries, e.1 ∈ declared.map Prod.fst)
    (before : ∀ j g, j < k → declared[j]? = some g → FitsField s v g) :
    FailsFirst s v t invalid (.field k :: p) spot := by
  refine ⟨.field opens nth given h.reached, h.fails, fun q other earlier reached => ?_⟩
  have leaf : v.lastEntry? f.1 = none → p = [] := fun none => by
    rw [given] at none
    cases none
  rcases before_field opens nth known before leaf earlier reached with fits | ⟨x, r, given', later, below⟩
  · exact fits
  · obtain rfl := Option.some.inj (given.symm.trans given')
    exact h.before _ _ later below

end FailsFirst

/-! ### What the parts of a check report -/

section Parts

variable {s : Schema} {v : Value} {invalid : InvalidLiteral}

/-- The first failure among checks is that of one of them, and those before it find none. -/
theorem firstInvalid_eq_some {α : Type} {f : α → Traced Verdict} :
    ∀ {xs : List α}, (firstInvalid f xs).result = .ok (some invalid) →
      ∃ (k : Nat) (x : α), xs[k]? = some x ∧ (f x).result = .ok (some invalid) ∧
        ∀ (j : Nat) (y : α), j < k → xs[j]? = some y → (f y).result = .ok none
  | [], h => by cases h
  | x :: xs, h => by
    rw [firstInvalid] at h
    cases hx : (f x).result with
    | error e =>
      rw [Traced.result_bind_error hx] at h
      cases h
    | ok verdict =>
      rw [Traced.result_bind_ok hx] at h
      cases verdict with
      | some other =>
        cases h
        refine ⟨0, x, rfl, hx, fun j y less _ => ?_⟩
        exact absurd less (Nat.not_lt_zero j)
      | none =>
        obtain ⟨k, y, nth, hy, before⟩ := firstInvalid_eq_some h
        refine ⟨k + 1, y, nth, hy, fun j z less hz => ?_⟩
        cases j with
        | zero =>
          cases hz
          exact hx
        | succ j => exact before j z (Nat.lt_of_succ_lt_succ less) hz

/-- The failure of an unknown name is that of the first entry whose name is not declared. -/
theorem unknownField_eq_some {owner : NamedType} {declared : List (String × InputField)} :
    ∀ {es : List Value}, (∀ e ∈ es, ∃ name v, e.IsEntry name v) →
      (unknownField owner declared es).result = .ok (some invalid) →
      ∃ (k : Nat) (e : String × Value), (es.filterMap Value.pair?)[k]? = some e ∧
        (Spot.entry owner declared e.1 e.2).Fails s invalid ∧
        ∀ (j : Nat) (d : String × Value), j < k → (es.filterMap Value.pair?)[j]? = some d →
          d.1 ∈ declared.map Prod.fst
  | [], _, h => by cases h
  | e :: es, named, h => by
    obtain ⟨name, v, he⟩ := named e (List.mem_cons_self ..)
    rw [unknownField_cons he] at h
    rw [List.filterMap_cons_some he.pair?]
    by_cases known : name ∈ declared.map Prod.fst
    · rw [if_pos known] at h
      obtain ⟨k, d, nth, fails, before⟩ :=
        unknownField_eq_some (fun e he => named e (List.mem_cons_of_mem _ he)) h
      refine ⟨k + 1, d, nth, fails, fun j d less hd => ?_⟩
      cases j with
      | zero =>
        cases hd
        exact known
      | succ j => exact before j d (Nat.lt_of_succ_lt_succ less) hd
    · rw [if_neg known] at h
      cases h
      refine ⟨0, (name, v), rfl, .entry known, fun j d less _ => ?_⟩
      exact absurd less (Nat.not_lt_zero j)

/-- A literal of the wrong kind fails where it stands. -/
theorem fails_of_mismatch (h : v.IsLiteral) (constant : v.IsConstant) {t : Ty} {k : Kind}
    (wanted : t.core.container? = some k) (literal : v.isA k = false)
    (found : mismatch v t.core = .ok (some invalid)) : (Spot.literal v t).Fails s invalid := by
  obtain ⟨text, i, printed⟩ := h.print
  rw [mismatch, printed] at found
  cases found
  exact .container constant wanted literal printed

/-- What the check of an enum type reports is a failure of the literal where it stands. -/
theorem fails_of_checkEnum (h : v.IsLiteral) (constant : v.IsConstant) {t : Ty} {n : NamedType}
    (core : t.core = .named n) (sort : n.sort = .enum)
    (found : (checkEnum n (s.enumValues n) v).result = .ok (some invalid)) :
    (Spot.literal v t).Fails s invalid := by
  cases kind : v.isA .enumValue with
  | true =>
    obtain ⟨name, stored, result⟩ := checkEnum_value h kind n (s.enumValues n)
    rw [result] at found
    by_cases known : name ∈ (s.enumValues n).map Prod.fst
    · rw [if_pos known] at found
      cases found
    · rw [if_neg known] at found
      cases found
      exact .enumValue core sort kind stored known
  | false =>
    obtain ⟨text, i, printed⟩ := h.print
    rw [checkEnum_noEnum kind printed] at found
    cases found
    exact .noEnum constant core sort kind printed

/-- What the check of a scalar type reports is a failure of the literal where it stands. -/
theorem fails_of_checkScalar (h : v.IsLiteral) (constant : v.IsConstant) {t : Ty} {n : NamedType}
    (core : t.core = .named n) (sort : n.sort = .scalar)
    (found : (s.checkScalar n v).result = .ok (some invalid)) : (Spot.literal v t).Fails s invalid := by
  obtain ⟨text, i, printed⟩ := h.print
  rw [Schema.checkScalar] at found
  cases coerced : (s.coerceLiteral (.type (.named n)) v).result with
  | error e =>
    rw [Traced.result_bind_error coerced] at found
    cases found
  | ok r =>
    rw [Traced.result_bind_ok coerced] at found
    cases outcome : outcomeOf r with
    | accepted w =>
      rw [outcome] at found
      cases found
    | rejected message =>
      simp only [outcome] at found
      rw [Traced.result_bind_ok printed] at found
      cases found
      exact .scalar core sort constant coerced outcome printed

end Parts

/-! ### Positions of scalars -/

/-- Where a constant fails at a scalar type, the scalar rejects it with the message that is reported. -/
theorem Spot.Fails.rejects {s : Schema} {v : Value} {t : Ty} {n : NamedType} {invalid : InvalidLiteral}
    (h : (Spot.literal v t).Fails s invalid) (core : t.core = .named n) (sort : n.sort = .scalar)
    (constant : v.IsConstant) : s.Rejects n v invalid.message := by
  cases h with
  | scalar core' _ _ coerced rejected =>
    cases core.symm.trans core'
    exact Schema.rejects_of_coerced coerced rejected
  | variableUse literal =>
    rw [constant.noVariable] at literal
    cases literal
  | null literal =>
    rw [constant.noNull] at literal
    cases literal
  | container _ wanted =>
    rw [Ty.sort_of_container? wanted core] at sort
    cases sort
  | noEnum _ core' sort' =>
    cases core.symm.trans core'
    rw [sort] at sort'
    cases sort'
  | enumValue core' sort' =>
    cases core.symm.trans core'
    rw [sort] at sort'
    cases sort'

/-! ### The check reports the first failure -/

section Report

variable {s : Schema} {v : Value} {invalid : InvalidLiteral}

/-- A literal that is neither a variable nor null fails where it stands, but for lists at list types and
objects at input object types. -/
theorem failsFirst_of_parts (h : v.IsLiteral) (constant : v.IsConstant) {t : Ty}
    (lists : v.isA .listValue = true → ∀ item i, t.core = .list item i →
      (s.check v (.list item i)).result = .ok (some invalid) → ∃ p spot, FailsFirst s v t invalid p spot)
    (objects : v.isA .objectValue = true → ∀ n : NamedType, t.core = .named n → n.sort = .inputObject →
      (s.check v (.named n)).result = .ok (some invalid) → ∃ p spot, FailsFirst s v t invalid p spot)
    (found : (s.check v t).result = .ok (some invalid)) : ∃ p spot, FailsFirst s v t invalid p spot := by
  rw [s.check_core constant] at found
  cases form : t.core with
  | nonNull u i => exact absurd form (Ty.core_ne_nonNull t)
  | wrapper u i =>
    rw [form, s.check_wrapper constant] at found
    cases found
  | list item i =>
    rw [form] at found
    cases kind : v.isA .listValue with
    | true => exact lists kind item i form found
    | false =>
      rw [s.check_noList constant kind, ← form] at found
      exact ⟨_, _, .here (fails_of_mismatch h constant (congrArg Ty.container? form) kind found)⟩
  | named n =>
    rw [form] at found
    cases sort : n.sort with
    | other =>
      rw [s.check_other constant sort] at found
      cases found
    | scalar =>
      rw [s.check_scalar constant sort] at found
      exact ⟨_, _, .here (fails_of_checkScalar h constant form sort found)⟩
    | enum =>
      rw [s.check_enum constant sort] at found
      exact ⟨_, _, .here (fails_of_checkEnum h constant form sort found)⟩
    | inputObject =>
      cases kind : v.isA .objectValue with
      | true => exact objects kind n form sort found
      | false =>
        have wanted : t.core.container? = some .objectValue := by
          rw [form, Ty.container?, if_pos sort]
        rw [s.check_noObject constant sort kind, ← form] at found
        exact ⟨_, _, .here (fails_of_mismatch h constant wanted kind found)⟩

theorem failsFirst_of_plain (h : v.IsLiteral) (plain : v.IsPlain) (t : Ty)
    (found : (s.check v t).result = .ok (some invalid)) : ∃ p spot, FailsFirst s v t invalid p spot := by
  refine failsFirst_of_parts h plain.toIsConstant ?_ ?_ found
  · intro list
    rw [plain.noList] at list
    cases list
  · intro object
    rw [plain.noObject] at object
    cases object

/-- The first failure of an object is that of its first unknown name, or if it has none that of the first
declared field at which it is not in order. -/
theorem failsFirst_of_entries {t : Ty} {owner : NamedType} {es : List Value}
    {declared : List (String × InputField)} (opens : Opens s v t owner declared)
    (entries : v.entries = es.filterMap Value.pair?) (named : ∀ e ∈ es, ∃ k w, e.IsEntry k w)
    (literals : ∀ e ∈ es, ∀ k w, e.IsEntry k w → w.IsLiteral)
    (each : ∀ e ∈ es, ∀ k w, e.IsEntry k w → ∀ u, (s.check w u).result = .ok (some invalid) →
      ∃ p spot, FailsFirst s w u invalid p spot)
    (found : (s.checkEntries owner v es declared).result = .ok (some invalid)) :
    ∃ p spot, FailsFirst s v t invalid p spot := by
  obtain ⟨known, verdict, ends⟩ := @unknownField_eq_none owner declared es named
  rw [Schema.checkEntries, Traced.result_bind_ok ends] at found
  cases verdict with
  | some other =>
    cases found
    obtain ⟨k, e, nth, fails, before⟩ := unknownField_eq_some named ends
    rw [← entries] at nth before
    exact ⟨_, _, .entry opens nth fails before⟩
  | none =>
    have declaredOnly := known.1 ends
    rw [← entries] at declaredOnly
    obtain ⟨k, f, nth, hf, before⟩ := firstInvalid_eq_some found
    have inOrder : ∀ j g, j < k → declared[j]? = some g → FitsField s v g := by
      intro j g less hg
      obtain ⟨given, absent⟩ := (Schema.checkField_iff entries named
        (fun e he k w hw => Schema.check_iff (literals e he k w hw)) g).1 (before j g less hg)
      exact ⟨given, absent⟩
    rw [Schema.checkField] at hf
    cases last : v.lastEntry? f.1 with
    | none =>
      rw [last] at hf
      have missing : missingField owner f.1 f.2 v = some invalid := Except.ok.inj hf
      rw [missingField] at missing
      split at missing
      · next required =>
        cases missing
        exact ⟨_, _, .absent opens nth last (.absent required) declaredOnly inOrder⟩
      · cases missing
    | some w =>
      rw [last] at hf
      have mem := last
      rw [Value.lastEntry?, entries] at mem
      obtain ⟨e, he, hw⟩ := entry_of_lookup named mem
      obtain ⟨p, spot, first⟩ := each e he f.1 w hw f.2.type hf
      exact ⟨_, _, .field opens nth last first declaredOnly inOrder⟩

/-- A failure that the check finds is the first one. The induction is on the literal: the parts of a list
and of an object report the first failure below them. -/
theorem exists_failsFirst (h : v.IsLiteral) :
    ∀ t, (s.check v t).result = .ok (some invalid) → ∃ p spot, FailsFirst s v t invalid p spot := by
  induction h with
  | @null n made =>
    intro t found
    rw [s.check_null made.kind, nullFor] at found
    cases required : t.isNonNull with
    | true =>
      rw [required] at found
      cases found
      exact ⟨_, _, .here (.null (by rw [made.isA]; rfl) required)⟩
    | false =>
      rw [required] at found
      cases found
  | @variableUse n m name made label named =>
    intro t found
    obtain ⟨text, i, printed⟩ := (Value.IsLiteral.variableUse made label named).print
    rw [s.check_variable made.kind, unexpectedVariable, printed] at found
    cases found
    exact ⟨_, _, .here (.variableUse (by rw [made.isA]; rfl) printed)⟩
  | text kind made value =>
    exact failsFirst_of_plain (.text kind made value) (made.isPlain (List.mem_cons_of_mem _ kind))
  | boolean made value =>
    exact failsFirst_of_plain (.boolean made value) (made.isPlain (List.mem_cons_self ..))
  | @list n xs i made values each ih =>
    intro t
    have items : (Value.node n).literalItems = xs := by rw [Value.literalItems, values]
    refine failsFirst_of_parts (.list made values each) (made.isConstant (by decide) (by decide)) ?_ ?_
    · intro kind item j core found
      rw [s.check_list made.kind values] at found
      obtain ⟨k, x, nth, hx, before⟩ := firstInvalid_eq_some found
      obtain ⟨p, spot, first⟩ := ih x (List.mem_of_getElem? nth) item hx
      rw [← items] at nth
      refine ⟨_, _, first.item core kind nth fun j y less hy => ?_⟩
      rw [items] at hy
      exact (Schema.check_iff (each y (List.mem_of_getElem? hy)) item).1 (before j y less hy)
    · intro object
      rw [made.isA] at object
      cases object
  | @object n es i made fields named each ih =>
    intro t
    have entries : (Value.node n).entries = es.filterMap Value.pair? := by rw [Value.entries, fields]
    refine failsFirst_of_parts (.object made fields named each) (made.isConstant (by decide) (by decide))
      ?_ ?_
    · intro list
      rw [made.isA] at list
      cases list
    · intro kind owner core sort found
      rw [s.check_object sort made.kind fields named] at found
      obtain ⟨declared, resolved, found⟩ := Traced.bind_result_ok found
      exact failsFirst_of_entries ⟨core, sort, kind, resolved⟩ entries named each ih found

/-- What a check reports is the failure of the first position that does not fit, about the part of the
literal that stands there. A message comes from the scalar that rejected this part, as it gave it. -/
theorem Schema.check_reports {t : Ty} (h : v.IsLiteral)
    (found : (s.check v t).result = .ok (some invalid)) :
    ∃ p spot, Reaches s v t p spot ∧ spot.Fails s invalid ∧ ¬ spot.Fits s ∧ invalid.node = spot.node ∧
      (∀ q other, Earlier q p → Reaches s v t q other → other.Fits s) ∧
      (invalid.message ≠ .null → ∃ w u n, spot = .literal w u ∧ u.core = .named n ∧ n.sort = .scalar ∧
        s.Rejects n w invalid.message) ∧
      ∀ w u n, spot = .literal w u → u.core = .named n → n.sort = .scalar → w.IsConstant →
        s.Rejects n w invalid.message := by
  obtain ⟨p, spot, first⟩ := exists_failsFirst h t found
  refine ⟨p, spot, first.reached, first.fails, first.fails.not_fits, first.fails.node, first.before,
    ?_, ?_⟩
  · intro message
    cases first.fails with
    | scalar core sort _ coerced rejected =>
      exact ⟨_, _, _, rfl, core, sort, Schema.rejects_of_coerced coerced rejected⟩
    | _ => exact absurd rfl message
  · intro w u n same core sort constant
    subst same
    exact first.fails.rejects core sort constant

end Report

/-- An empty tree has no label. -/
theorem treeSchema_check_empty :
    (treeSchema.check (.objectNode []) (.named (objectType "Tree"))).result = .ok (some
      ⟨.objectNode [], "Field 'Tree.label' of required type 'String!' was not provided.", .null⟩) := by
  rw [treeSchema_check (List.forall_mem_nil _)]
  rfl

/-- The literal for the tree has a label, but the tree below it has none. -/
theorem treeLiteral_check :
    (treeSchema.check treeLiteral (.named (objectType "Tree"))).result = .ok (some
      ⟨.objectNode [], "Field 'Tree.label' of required type 'String!' was not provided.", .null⟩) := by
  have label : (treeSchema.checkField (objectType "Tree") treeLiteral
      ("label", ⟨0, .nonNull textType, .undefined, .null, .null⟩)).result = .ok none :=
    treeSchema_check_text "a"
  have below := treeSchema_check_empty
  rw [treeLiteral] at label ⊢
  rw [treeSchema_check (by decide), treeFields, firstInvalid, Traced.result_bind_ok label]
  simp only
  rw [firstInvalid]
  exact Traced.result_bind_ok below _

/-- The failure is that of the tree below, and everything before it fits. -/
theorem treeLiteral_reports :
    ∃ p spot, Reaches treeSchema treeLiteral (.named (objectType "Tree")) p spot ∧
      spot.node = .objectNode [] ∧ ¬ spot.Fits treeSchema ∧
      ∀ q other, Earlier q p → Reaches treeSchema treeLiteral (.named (objectType "Tree")) q other →
        other.Fits treeSchema := by
  obtain ⟨p, spot, reached, _, unfit, about, before, _⟩ :=
    Schema.check_reports treeLiteral_isLiteral treeLiteral_check
  exact ⟨p, spot, reached, about.symm, unfit, before⟩

end QueryDefaults
