import QueryDefaults.Proofs.FirstFailure
import QueryDefaults.Proofs.Relaxed

/-!
Orders that a check does not depend on. It goes through the entries of an object twice: for unknown names in
the order of the literal, and for everything else in the order of the declaration. Rearranging the entries
where an input object is expected (`Rearranged`), in one object or in several on top of each other, keeps the
verdict, and as long as all names are declared also what is told about a failure; only of several unknown
names another one may be met first. Reordering the fields of a declaration (`Schema.Reorders`) keeps the
verdict as well, since it relaxes a schema both ways.
-/

namespace QueryDefaults

/-! ### Agreeing verdicts -/

/-- Whether two checks have the same verdict, with the same reason and message if that is asked for. The
parts of the literals that fail may differ. -/
inductive Agrees (told : Prop) : Except Fault Verdict → Except Fault Verdict → Prop where
  | fault (e : Fault) : Agrees told (.error e) (.error e)
  | valid : Agrees told (.ok none) (.ok none)
  | invalid {i j : InvalidLiteral} (same : told → i.reason = j.reason ∧ i.message = j.message) :
      Agrees told (.ok (some i)) (.ok (some j))

namespace Agrees

variable {told : Prop}

theorem refl : ∀ r : Except Fault Verdict, Agrees told r r
  | .error e => .fault e
  | .ok none => .valid
  | .ok (some _) => .invalid fun _ => ⟨rfl, rfl⟩

theorem mono {more : Prop} {r r' : Except Fault Verdict} (h : Agrees told r r') (imp : more → told) :
    Agrees more r r' := by
  cases h with
  | fault e => exact .fault e
  | valid => exact .valid
  | invalid same => exact .invalid (same ∘ imp)

/-- If checks agree one by one, so do the first failures among them. -/
theorem firstInvalid {α β : Type} {f : α → Traced Verdict} {g : β → Traced Verdict} {xs : List α}
    {ys : List β} (h : List.Forall₂ (fun x y => Agrees told (f x).result (g y).result) xs ys) :
    Agrees told (firstInvalid f xs).result (firstInvalid g ys).result := by
  induction h with
  | nil => exact .valid
  | @cons x y xs ys head _ ih =>
    rw [QueryDefaults.firstInvalid, QueryDefaults.firstInvalid]
    generalize hx : (f x).result = r at head
    generalize hy : (g y).result = r' at head
    cases head with
    | fault e =>
      rw [Traced.result_bind_error hx, Traced.result_bind_error hy]
      exact .fault e
    | valid =>
      rw [Traced.result_bind_ok hx, Traced.result_bind_ok hy]
      exact ih
    | invalid same =>
      rw [Traced.result_bind_ok hx, Traced.result_bind_ok hy]
      exact .invalid same

end Agrees

/-! ### Rearranging entries -/

/-- Whether one literal is another one with the entries of some of its objects rearranged, these objects
standing where input objects are expected and having no name twice. Values of undeclared names do not
matter. -/
inductive Rearranged (s : Schema) : Ty → Value → Value → Prop where
  | same {t : Ty} (v : Value) : Rearranged s t v v
  | list {t item : Ty} {i : Nat} {v w : Value} (core : t.core = .list item i)
      (literal : v.isA .listValue = true) (other : w.isA .listValue = true)
      (length : v.literalItems.length = w.literalItems.length)
      (each : ∀ (k : Nat) x y, v.literalItems[k]? = some x → w.literalItems[k]? = some y →
        Rearranged s item x y) : Rearranged s t v w
  | object {t : Ty} {owner : NamedType} {declared : List (String × InputField)} {v w : Value}
      (opens : Opens s v t owner declared) (other : w.isA .objectValue = true) (apart : v.NamesApart)
      (names : (v.entries.map Prod.fst).Perm (w.entries.map Prod.fst))
      (each : ∀ f ∈ declared, ∀ x y, (f.1, x) ∈ v.entries → (f.1, y) ∈ w.entries →
        Rearranged s f.2.type x y) : Rearranged s t v w

/-- Whether all names in the objects that stand where input objects are expected are declared. -/
def DeclaresNames (s : Schema) (v : Value) (t : Ty) : Prop :=
  ∀ p owner declared name value, Reaches s v t p (.entry owner declared name value) →
    name ∈ declared.map Prod.fst

section Lookup

variable {v w : Value} {name : String}

theorem Value.lastEntry?_isSome : (v.lastEntry? name).isSome = true ↔ name ∈ v.entries.map Prod.fst := by
  rw [Value.lastEntry?, lookup_isSome_iff, List.map_reverse, List.mem_reverse]

theorem Value.NamesApart.unique {x y : Value} (h : v.NamesApart) (hx : (name, x) ∈ v.entries)
    (hy : (name, y) ∈ v.entries) : x = y :=
  Option.some.inj ((h.lastEntry? hx).symm.trans (h.lastEntry? hy))

end Lookup

/-- A literal whose entries are those of another one in another order is rearranged. -/
theorem Rearranged.of_perm {s : Schema} {v w : Value} {t : Ty} {owner : NamedType}
    {declared : List (String × InputField)} (opens : Opens s v t owner declared)
    (other : w.isA .objectValue = true) (apart : v.NamesApart) (perm : v.entries.Perm w.entries) :
    Rearranged s t v w := by
  refine .object opens other apart (perm.map _) fun f _ x y hx hy => ?_
  obtain rfl := apart.unique hx (perm.mem_iff.2 hy)
  exact .same x

section Rearrange

variable {s : Schema} {v w : Value}

/-- A list literal is checked item by item. -/
theorem Schema.check_items (h : v.IsLiteral) (kind : v.isA .listValue = true) (item : Ty) (i : Nat) :
    (s.check v (.list item i)).result = (firstInvalid (fun x => s.check x item) v.literalItems).result := by
  obtain ⟨n, xs, j, rfl, made, values, _⟩ := h.isList kind
  rw [s.check_list made.kind values, Value.literalItems, values]

/-- An object literal is checked field by field if all of its names are declared, and fails otherwise. -/
theorem Schema.check_fields {owner : NamedType} {declared : List (String × InputField)} (h : v.IsLiteral)
    (kind : v.isA .objectValue = true) (sort : owner.sort = .inputObject)
    (fields : (s.fields owner).result = .ok declared) :
    ((∀ e ∈ v.entries, e.1 ∈ declared.map Prod.fst) ∧
        (s.check v (.named owner)).result = (firstInvalid (s.checkField owner v) declared).result) ∨
      (¬ ∀ e ∈ v.entries, e.1 ∈ declared.map Prod.fst) ∧
        ∃ invalid, (s.check v (.named owner)).result = .ok (some invalid) := by
  obtain ⟨n, es, i, rfl, made, parts, named, _⟩ := h.isObject kind
  have entries : (Value.node n).entries = es.filterMap Value.pair? := by rw [Value.entries, parts]
  obtain ⟨known, verdict, ends⟩ := @unknownField_eq_none owner declared es named
  rw [s.check_object sort made.kind parts named, Traced.result_bind_ok fields, Schema.checkEntries,
    Traced.result_bind_ok ends, entries, ← known, ends]
  cases verdict with
  | none => exact .inl ⟨rfl, rfl⟩
  | some invalid => exact .inr ⟨by rintro ⟨⟩, invalid, rfl⟩

/-- The checks of a declared field agree if its values do: a rearranged object has an entry of the same
name, or none as well. -/
theorem Agrees.checkField {told : Prop} {owner : NamedType}
    (names : (v.entries.map Prod.fst).Perm (w.entries.map Prod.fst)) {f : String × InputField}
    (values : ∀ x y, (f.1, x) ∈ v.entries → (f.1, y) ∈ w.entries →
      Agrees told (s.check x f.2.type).result (s.check y f.2.type).result) :
    Agrees told (s.checkField owner v f).result (s.checkField owner w f).result := by
  have both : (v.lastEntry? f.1).isSome = (w.lastEntry? f.1).isSome := by
    rw [Bool.eq_iff_iff, Value.lastEntry?_isSome, Value.lastEntry?_isSome, names.mem_iff]
  rw [Schema.checkField, Schema.checkField]
  cases hx : v.lastEntry? f.1 with
  | some x =>
    cases hy : w.lastEntry? f.1 with
    | some y => exact values x y (Value.mem_of_lastEntry? hx) (Value.mem_of_lastEntry? hy)
    | none =>
      rw [hx, hy] at both
      cases both
  | none =>
    cases hy : w.lastEntry? f.1 with
    | some y =>
      rw [hx, hy] at both
      cases both
    | none =>
      -- The reason of a missing field tells about its declaration only.
      simp only [missingField]
      split
      · exact .invalid fun _ => ⟨rfl, rfl⟩
      · exact .valid

/-- The checks of a literal and of a rearranged one agree, if all names are declared also in what they tell.
The induction is on the rearrangement; below an item or a field the same names are declared. -/
theorem Rearranged.agrees {t : Ty} (h : Rearranged s t v w) (hv : v.IsLiteral) (hw : w.IsLiteral) :
    Agrees (DeclaresNames s v t) (s.check v t).result (s.check w t).result := by
  induction h with
  | same v => exact .refl _
  | @list t item i v w core literal other length each ih =>
    have constant {u : Value} (list : u.isA .listValue = true) : u.IsConstant :=
      ⟨Value.isA_ne list (by decide), Value.isA_ne list (by decide)⟩
    rw [s.check_core (constant literal), s.check_core (constant other), core,
      Schema.check_items hv literal, Schema.check_items hw other]
    refine .firstInvalid (List.forall₂_iff_get.2 ⟨length, fun k hk hk' => ?_⟩)
    have hx := List.getElem?_eq_getElem hk
    have hy := List.getElem?_eq_getElem hk'
    refine (ih k _ _ hx hy (hv.item literal _ (List.getElem_mem hk))
      (hw.item other _ (List.getElem_mem hk'))).mono ?_
    exact fun declares p owner declared name value reaches =>
      declares _ owner declared name value (.item core literal hx reaches)
  | @object t owner declared v w opens other apart names each ih =>
    have constant : w.IsConstant := ⟨Value.isA_ne other (by decide), Value.isA_ne other (by decide)⟩
    have known : (∀ e ∈ v.entries, e.1 ∈ declared.map Prod.fst) ↔
        ∀ e ∈ w.entries, e.1 ∈ declared.map Prod.fst := by
      rw [← List.forall_mem_map (f := Prod.fst) (P := (· ∈ declared.map Prod.fst)),
        ← List.forall_mem_map (f := Prod.fst) (P := (· ∈ declared.map Prod.fst))]
      exact ⟨fun h n hn => h n (names.mem_iff.2 hn), fun h n hn => h n (names.mem_iff.1 hn)⟩
    rw [s.check_core opens.isConstant, s.check_core constant, opens.core]
    rcases Schema.check_fields hv opens.literal opens.sort opens.fields with
      ⟨declares, hv'⟩ | ⟨unknown, i, hv'⟩
    · rcases Schema.check_fields hw other opens.sort opens.fields with ⟨_, hw'⟩ | ⟨unknown, _⟩
      · rw [hv', hw']
        refine .firstInvalid (List.forall₂_same.2 fun f hf => ?_)
        refine .checkField names fun x y hx hy => ?_
        refine (ih f hf x y hx hy (hv.entry opens.literal _ hx) (hw.entry other _ hy)).mono ?_
        intro declares p owner' declared' name value reaches
        obtain ⟨k, nth⟩ := List.getElem?_of_mem hf
        exact declares _ owner' declared' name value
          (.field opens nth (apart.lastEntry? hx) reaches)
      · exact absurd (known.1 declares) unknown
    · rcases Schema.check_fields hw other opens.sort opens.fields with ⟨declares, _⟩ | ⟨_, j, hw'⟩
      · exact absurd (known.2 declares) unknown
      · rw [hv', hw']
        refine .invalid fun declares => absurd (fun e he => ?_) unknown
        obtain ⟨k, nth⟩ := List.getElem?_of_mem he
        exact declares _ owner declared e.1 e.2 (.entry opens nth)

/-- Nothing has to be declared in a literal without parts. -/
theorem declaresNames_of_bare {t : Ty} (items : v.literalItems = []) (entries : v.entries = []) :
    DeclaresNames s v t := by
  intro p owner declared name value reaches
  cases reaches with
  | item _ _ nth =>
    rw [items] at nth
    cases nth
  | entry _ nth =>
    rw [entries] at nth
    cases nth
  | field _ _ given =>
    rw [Value.lastEntry?, entries] at given
    cases given

/-- The names in an object are declared if its own are and those in its fields are. -/
theorem Opens.declaresNames {t : Ty} {owner : NamedType} {declared : List (String × InputField)}
    (opens : Opens s v t owner declared) (known : ∀ e ∈ v.entries, e.1 ∈ declared.map Prod.fst)
    (each : ∀ f ∈ declared, ∀ x, v.lastEntry? f.1 = some x → DeclaresNames s x f.2.type) :
    DeclaresNames s v t := by
  intro p owner' declared' name value reaches
  cases reaches with
  | item core => cases core.symm.trans opens.core
  | entry opens' nth =>
    obtain ⟨rfl, rfl⟩ := opens.unique opens'
    exact known _ (List.mem_of_getElem? nth)
  | field opens' nth given below =>
    obtain ⟨rfl, rfl⟩ := opens.unique opens'
    exact each _ (List.mem_of_getElem? nth) _ given _ _ _ _ _ below

end Rearrange

/-! ### Reordering fields -/

/-- Whether a schema differs from another one only in the order of the fields of its input objects. -/
structure Schema.Reorders (s s' : Schema) : Prop where
  fields : ∀ n, (∃ e, (s.fields n).result = .error e ∧ (s'.fields n).result = .error e) ∨
    ∃ declared reordered, (s.fields n).result = .ok declared ∧ (s'.fields n).result = .ok reordered ∧
      declared.Perm reordered
  values : ∀ n, s'.enumValues n = s.enumValues n
  scalar : ∀ n v,
    (s'.coerceLiteral (.type (.named n)) v).result = (s.coerceLiteral (.type (.named n)) v).result
  defined : ∀ n, s'.Defines n ↔ s.Defines n

namespace Schema.Reorders

variable {s s' : Schema}

theorem symm (h : s.Reorders s') : s'.Reorders s where
  fields n := (h.fields n).imp (fun ⟨e, left, right⟩ => ⟨e, right, left⟩)
    fun ⟨declared, reordered, left, right, perm⟩ => ⟨reordered, declared, right, left, perm.symm⟩
  values n := (h.values n).symm
  scalar n v := (h.scalar n v).symm
  defined n := (h.defined n).symm

theorem resolved (h : s.Reorders s') {n : NamedType} {declared : List (String × InputField)}
    (fields : (s.fields n).result = .ok declared) :
    ∃ reordered, (s'.fields n).result = .ok reordered ∧ declared.Perm reordered := by
  rcases h.fields n with ⟨e, fails, _⟩ | ⟨_, reordered, resolves, fields', perm⟩
  · cases fails.symm.trans fields
  · cases resolves.symm.trans fields
    exact ⟨reordered, fields', perm⟩

/-- A schema with fields in another order relaxes the schema. -/
theorem relaxes (h : s.Reorders s') : s.Relaxes Eq s' where
  sort := by
    rintro n _ rfl
    rfl
  fields := by
    rintro n _ declared rfl _ fields
    obtain ⟨reordered, fields', perm⟩ := h.resolved fields
    refine ⟨reordered, fields', fun f hf => List.mem_map_of_mem (perm.mem_iff.1 hf), fun f hf => ?_⟩
    exact .inl ⟨f, perm.mem_iff.2 hf, rfl, .refl (fun _ => rfl) f.2.type, id⟩
  values := by
    rintro n _ name rfl _ known
    exact h.values n ▸ known
  scalar := by
    rintro n _ rfl _ v
    exact h.scalar n v

theorem registers (h : s.Reorders s') {types : List NamedType} (reg : s.Registers types) :
    s'.Registers types where
  defined n hn := (h.defined n).2 (reg.defined n hn)
  input := reg.input
  closed n hn sort := by
    obtain ⟨declared, fields, closed⟩ := reg.closed n hn sort
    obtain ⟨reordered, fields', perm⟩ := h.resolved fields
    exact ⟨reordered, fields', fun f hf => closed f (perm.mem_iff.2 hf)⟩

theorem spells (h : s.Reorders s') {types : List NamedType} (spelled : s.Spells types) :
    s'.Spells types := by
  intro n hn reordered fields' f hf
  obtain ⟨declared, fields, perm⟩ := h.symm.resolved fields'
  exact spelled n hn declared fields f (perm.mem_iff.1 hf)

theorem coerces (h : s.Reorders s') {types : List NamedType} (coerces : s.Coerces types) :
    s'.Coerces types := by
  intro n hn sort v literal
  obtain ⟨r, coerced⟩ := coerces n hn sort v literal
  exact ⟨r, (h.scalar n v).trans coerced⟩

/-- The same literals are valid, in whatever order the fields are declared. -/
theorem check_iff (h : s.Reorders s') {v : Value} (literal : v.IsLiteral) (t : Ty) :
    (s.check v t).result = .ok none ↔ (s'.check v t).result = .ok none := by
  have same := Ty.Relaxes.refl (R := Eq) (fun _ => rfl) t
  rw [Schema.check_iff literal, Schema.check_iff literal]
  exact ⟨fun conforms => conforms.relax h.relaxes same, fun conforms => conforms.relax h.symm.relaxes same⟩

end Schema.Reorders

/-- The verdict on a literal does not depend on the order of its entries nor on the order of the declared
fields. Rearranged entries give the same verdict, and the same reason and message if all names are declared.
Reordered fields accept the same literals at all, and give the same verdict below every registered type as long as
no scalar raises an error of the library without a message. -/
theorem Schema.check_order (s : Schema) {v : Value} (h : v.IsLiteral) (t : Ty) :
    (∀ w, w.IsLiteral → Rearranged s t v w →
      Agrees (DeclaresNames s v t) (s.check v t).result (s.check w t).result) ∧
    ∀ s', s.Reorders s' →
      ((s.check v t).result = .ok none ↔ (s'.check v t).result = .ok none) ∧
      ∀ types, s.Registers types → s.Spells types → s.Speaks types → t.base ∈ types → t.isSpelled = true →
        ∃ verdict verdict', (s.check v t).result = .ok verdict ∧ (s'.check v t).result = .ok verdict' ∧
          verdict.isSome = verdict'.isSome := by
  refine ⟨fun w hw rearranged => rearranged.agrees h hw, fun s' reorders => ⟨reorders.check_iff h t, ?_⟩⟩
  intro types reg spells speaks ht spelled
  have coerces := speaks.coerces reg
  obtain ⟨verdict, ends⟩ := s.check_ends reg spells coerces h t ht spelled
  obtain ⟨verdict', ends'⟩ :=
    s'.check_ends (reorders.registers reg) (reorders.spells spells) (reorders.coerces coerces) h t ht spelled
  refine ⟨verdict, verdict', ends, ends', ?_⟩
  have same := reorders.check_iff h t
  rw [ends, ends', Except.ok.injEq, Except.ok.injEq] at same
  rw [Bool.eq_iff_iff, Option.isSome_iff_ne_none, Option.isSome_iff_ne_none, ne_eq, ne_eq, same]

/-! ### Trees in another order -/

/-- Putting the fields of its one input object into another order reorders a schema. -/
theorem objectSchema_reorders {name : String} {fields others : List (String × InputField)}
    (perm : fields.Perm others) : (objectSchema name fields).Reorders (objectSchema name others) where
  fields
    | ⟨0, _, _, _⟩ => .inl ⟨_, rfl, rfl⟩
    | ⟨1, _, _, _⟩ => .inl ⟨_, rfl, rfl⟩
    | ⟨2, _, _, _⟩ => .inl ⟨_, rfl, rfl⟩
    | ⟨3, _, _, _⟩ => .inl ⟨_, rfl, rfl⟩
    | ⟨4, _, _, _⟩ => .inl ⟨_, rfl, rfl⟩
    | ⟨5, _, _, _⟩ => .inr ⟨fields, others, rfl, rfl, perm⟩
    | ⟨_ + 6, _, _, _⟩ => .inl ⟨_, rfl, rfl⟩
  values
    | ⟨0, _, _, _⟩ | ⟨1, _, _, _⟩ | ⟨2, _, _, _⟩ | ⟨3, _, _, _⟩ | ⟨4, _, _, _⟩ | ⟨5, _, _, _⟩
    | ⟨_ + 6, _, _, _⟩ => rfl
  scalar
    | ⟨0, _, _, _⟩, _ | ⟨1, _, _, _⟩, _ | ⟨2, _, _, _⟩, _ | ⟨3, _, _, _⟩, _ | ⟨4, _, _, _⟩, _
    | ⟨5, _, _, _⟩, _ | ⟨_ + 6, _, _, _⟩, _ => rfl
  defined
    | ⟨0, _, _, _⟩ | ⟨1, _, _, _⟩ | ⟨2, _, _, _⟩ | ⟨3, _, _, _⟩ | ⟨4, _, _, _⟩ | ⟨_ + 6, _, _, _⟩ => .rfl
    | ⟨5, _, _, _⟩ => by
      constructor
      · rintro ⟨_, ⟨⟩, same⟩
        exact ⟨_, rfl, same⟩
      · rintro ⟨_, ⟨⟩, same⟩
        exact ⟨_, rfl, same⟩

/-- The literal for the tree with its entries the other way round. -/
def turnedLiteral : Value :=
  .objectNode [("below", .objectNode []), ("label", .textNode .stringValue "a")]

theorem treeLiteral_turned :
    Rearranged treeSchema (.named (objectType "Tree")) treeLiteral turnedLiteral := by
  refine .of_perm (treeSchema_opens _) rfl ?_ ?_
  · rw [Value.NamesApart, treeLiteral, Value.objectNode_entries]
    decide
  · rw [treeLiteral, turnedLiteral, Value.objectNode_entries, Value.objectNode_entries]
    exact .swap ..

/-- All names in the literal for the tree are declared. -/
theorem treeLiteral_declaresNames :
    DeclaresNames treeSchema treeLiteral (.named (objectType "Tree")) := by
  refine (treeSchema_opens _).declaresNames (by decide) fun f _ w given => ?_
  have mem := Value.mem_of_lastEntry? given
  rw [Value.objectNode_entries] at mem
  simp only [List.mem_cons, List.not_mem_nil, or_false, Prod.mk.injEq] at mem
  rcases mem with ⟨_, rfl⟩ | ⟨_, rfl⟩
  · exact declaresNames_of_bare rfl rfl
  · exact declaresNames_of_bare rfl rfl

/-- The same failure is told of the literal for the tree with its entries the other way round, and there is
one as well if the fields are declared the other way round. -/
theorem turnedLiteral_check :
    Agrees True (treeSchema.check treeLiteral (.named (objectType "Tree"))).result
      (treeSchema.check turnedLiteral (.named (objectType "Tree"))).result ∧
    ∃ invalid, ((objectSchema "Tree" treeFields.reverse).check treeLiteral
      (.named (objectType "Tree"))).result = .ok (some invalid) := by
  obtain ⟨entries, fields⟩ := treeSchema.check_order treeLiteral_isLiteral (.named (objectType "Tree"))
  constructor
  · have literal : turnedLiteral.IsLiteral := Value.objectNode_isLiteral (List.forall_mem_cons.2
      ⟨Value.objectNode_isLiteral (List.forall_mem_nil _),
        List.forall_mem_singleton.2 (Value.textNode_isLiteral (by decide) "a")⟩)
    exact (entries turnedLiteral literal treeLiteral_turned).mono fun _ => treeLiteral_declaresNames
  · obtain ⟨_, both⟩ := fields _ (objectSchema_reorders (List.reverse_perm treeFields).symm)
    obtain ⟨verdict, verdict', found, found', same⟩ :=
      both treeTypes treeSchema_registers treeSchema_spells treeSchema_speaks (by decide) rfl
    cases treeLiteral_check.symm.trans found
    obtain ⟨invalid, rfl⟩ := Option.isSome_iff_exists.1 same.symm
    exact ⟨invalid, found'⟩

end QueryDefaults
