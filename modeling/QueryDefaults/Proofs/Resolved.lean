import QueryDefaults.Proofs.Form
import QueryDefaults.Proofs.Notation
import QueryDefaults.Proofs.Numbered

/-!
Fields that are resolved once. An access asks an input object for the mapping of its fields, and reads it once
more when they were resolved. What functions do may change from one access to the next, so an access may fail
and a later one succeed. A failure leaves the definition as it is (`access_fails`); the first success has it
hold the fields (`access_resolves`), and then every access gives one and the same mapping whatever functions
do (`access_held`). `accesses_resolve` puts this together for any number of accesses. The mapping has a number of
its own because numbers are given out in ascending order (`Advances`).
-/

namespace QueryDefaults

/-! ### What declares fields -/

/-- A name is a text that begins with a letter or an underscore and goes on with these or digits. -/
theorem checkName_eq_ok {k : Value} {name : String} :
    checkName k = .ok name ↔ (∃ i, k = .str name i) ∧ IsNameText name.toList := by
  constructor
  · intro passes
    have named := IsTypeName.chars ⟨k, passes⟩
    unfold checkName at passes
    split at passes
    · cases passes
    · next s i =>
      split at passes
      · cases passes
      · next p ps points =>
        split at passes
        · cases passes
        · next rest =>
          split at passes
          · cases passes
          · next start =>
            obtain rfl : s = name := Except.ok.inj passes
            have unmarked : Text.mark ∉ s.toList := fun mem => absurd (named _ mem) (by decide)
            rw [Text.pointsOf, Text.points_of_unmarked unmarked] at points
            obtain ⟨c, cs, chars, rfl, -⟩ := List.map_eq_cons_iff.1 points
            rw [chars] at named ⊢
            refine ⟨⟨i, rfl⟩, c, cs, rfl, ?_, fun d hd => named d (List.mem_cons_of_mem _ hd)⟩
            simpa [Text.Point.holds] using start
    · cases passes
  · rintro ⟨⟨i, rfl⟩, text⟩
    have unmarked : Text.mark ∉ name.toList := fun mem => absurd (text.continues _ mem) (by decide)
    obtain ⟨c, cs, chars, start, continues⟩ := text
    have points : Text.pointsOf name = .char c :: cs.map .char := by
      rw [Text.pointsOf, Text.points_of_unmarked unmarked, chars, List.map_cons]
    have rest : (cs.map Text.Point.char).all (·.holds isNameContinue) = true := by
      simpa [Text.Point.holds] using continues
    have first : (Text.Point.char c).holds isNameStart = true := start
    simp only [checkName, points, rest, first]
    rfl

/-- The name and the type of the field that an entry of a mapping declares: it is given as a field, or as the
type of one. -/
def EntryOf.declared? (e : Entry) : Option (String × Ty) :=
  match e.key, e.value with
  | .str name _, .inputField f => some (name, f.type.plain)
  | .str name _, .type t => some (name, t.plain)
  | _, _ => none

/-- Whether an entry of a mapping declares a field: its key is a name, and its value is an input field or an
input type. -/
def EntryOf.IsField (e : Entry) : Prop :=
  (∃ name i, e.key = .str name i ∧ IsNameText name.toList) ∧
    ((∃ f, e.value = .inputField f) ∨ ∃ t, e.value = .type t ∧ t.isInput = true)

/-- Whether what a source gave is a mapping of fields. -/
def DeclaresFields (given : Except Fault Value) : Prop :=
  ∃ es i, given = .ok (.mapping es i) ∧ ∀ e ∈ es, e.IsField

/-- The type of an input field that was made is an input type. -/
theorem inputFieldOf_eq_ok {type initial description deprecation : Value} {f : InputField}
    (h : inputFieldOf type initial description deprecation = .ok f) :
    type = .type f.type ∧ f.type.isInput = true := by
  unfold inputFieldOf at h
  split at h
  · next t input =>
    cases h
    unfold Value.inputType? at input
    split at input
    · next u =>
      split at input
      · next isInput =>
        cases input
        exact ⟨rfl, isInput⟩
      · cases input
    · cases input
  · obtain ⟨shown, -, failed⟩ := exists_of_bind_ok h
    cases failed

/-- Whether an input field was made, perhaps with other numbers. -/
def InputFieldOf.IsMade (f : InputField) : Prop :=
  ∃ type initial description deprecation g,
    inputFieldOf type initial description deprecation = .ok g ∧ g.type.plain = f.type.plain

theorem fieldOf_eq_ok {v : Value} {f : InputField} (h : fieldOf v = .ok f) :
    v = .inputField f ∨ v = .type f.type ∧ f.type.isInput = true := by
  unfold fieldOf at h
  split at h
  · exact .inl (congrArg _ (Except.ok.inj h))
  · exact .inr (inputFieldOf_eq_ok h)

theorem exists_fieldOf {v : Value}
    (h : (∃ f, v = .inputField f) ∨ ∃ t, v = .type t ∧ t.isInput = true) : ∃ f, fieldOf v = .ok f := by
  obtain ⟨f, rfl⟩ | ⟨t, rfl, input⟩ := h
  · exact ⟨f, rfl⟩
  · refine ⟨⟨0, t, .undefined, .null, .null⟩, ?_⟩
    rw [fieldOf, inputFieldOf, Value.inputType?, if_pos input]
    · rfl
    · exact fun _ h => nomatch h

/-- All or nothing: the entries give fields, with the names and types that they declare, if each of them declares
a field, and fail otherwise. -/
theorem fieldsOfMapping_eq_ok {es : List Entry} : ∀ {fields : List (String × InputField)},
    fieldsOfMapping es = .ok fields → (∀ e ∈ es, e.IsField) ∧
      (outline fields).map some = es.map EntryOf.declared? := by
  induction es with
  | nil =>
    intro fields h
    cases h
    exact ⟨List.forall_mem_nil _, rfl⟩
  | cons e es ih =>
    intro fields h
    obtain ⟨digest, k, v⟩ := e
    rw [fieldsOfMapping] at h
    obtain ⟨name, named, h⟩ := exists_of_bind_ok h
    obtain ⟨f, field, h⟩ := exists_of_bind_ok h
    obtain ⟨rest, others, h⟩ := exists_of_bind_ok h
    cases h
    obtain ⟨all, same⟩ := ih others
    obtain ⟨⟨i, rfl⟩, text⟩ := checkName_eq_ok.1 named
    rcases fieldOf_eq_ok field with rfl | ⟨rfl, input⟩
    · exact ⟨List.forall_mem_cons.2 ⟨⟨⟨name, i, rfl, text⟩, .inl ⟨f, rfl⟩⟩, all⟩,
        congrArg (some (name, f.type.plain) :: ·) same⟩
    · exact ⟨List.forall_mem_cons.2 ⟨⟨⟨name, i, rfl, text⟩, .inr ⟨_, rfl, input⟩⟩, all⟩,
        congrArg (some (name, f.type.plain) :: ·) same⟩

theorem exists_fieldsOfMapping {es : List Entry} (h : ∀ e ∈ es, e.IsField) :
    ∃ fields, fieldsOfMapping es = .ok fields := by
  induction es with
  | nil => exact ⟨[], rfl⟩
  | cons e es ih =>
    obtain ⟨digest, k, v⟩ := e
    obtain ⟨⟨⟨name, i, key, text⟩, value⟩, all⟩ := List.forall_mem_cons.1 h
    obtain ⟨f, field⟩ := exists_fieldOf value
    obtain ⟨fields, rest⟩ := ih all
    refine ⟨(name, f) :: fields, ?_⟩
    rw [fieldsOfMapping, checkName_eq_ok.2 ⟨⟨i, key⟩, text⟩, field, rest]
    rfl

/-- Numbers do not count for whether a type is an input type. -/
theorem Ty.isInput_of_plain {t u : Ty} (same : t.plain = u.plain) (input : t.isInput = true) :
    u.isInput = true := by
  rwa [isInput, ← plain_base, ← same, plain_base, ← isInput]

/-- Fields that are declared have input types. -/
theorem isInput_of_declared {es : List Entry} {fields : List (String × InputField)}
    (alike : (outline fields).map some = es.map EntryOf.declared?) (declared : ∀ e ∈ es, e.IsField)
    (made : ∀ e ∈ es, ∀ f, e.value = .inputField f → f.IsMade) :
    ∀ f ∈ fields, f.2.type.isInput = true := by
  intro f hf
  have mem : some (f.1, f.2.type.plain) ∈ es.map EntryOf.declared? :=
    alike ▸ List.mem_map_of_mem (List.mem_map_of_mem hf)
  obtain ⟨e, he, same⟩ := List.mem_map.1 mem
  obtain ⟨⟨name, i, key, -⟩, ⟨g, value⟩ | ⟨t, value, input⟩⟩ := declared e he
  · obtain ⟨_, _, _, _, h, ok, plain⟩ := made e he g value
    rw [EntryOf.declared?, key, value] at same
    have types : g.type.plain = f.2.type.plain := congrArg Prod.snd (Option.some.inj same)
    exact Ty.isInput_of_plain (plain.trans types) (inputFieldOf_eq_ok ok).2
  · rw [EntryOf.declared?, key, value] at same
    exact Ty.isInput_of_plain (congrArg Prod.snd (Option.some.inj same)) input

/-- The mapping of fields has an entry for each field, in their order. -/
theorem MapIds.mapping_fields (ids : MapIds) (fields : List (String × InputField)) : ∃ es,
    ids.mapping (fields.map fun (name, f) => (name, .inputField f)) = .mapping es ids.own ∧
      es.map EntryOf.declared? = (outline fields).map some ∧
      ∀ e ∈ es, ∃ f ∈ fields, e.value = .inputField f.2 := by
  refine ⟨_, rfl, ?_, fun e he => ?_⟩
  · generalize 0 = first
    induction fields generalizing first with
    | nil => rfl
    | cons f fields ih => exact congrArg (some (f.1, f.2.type.plain) :: ·) (ih (first + 1))
  · obtain ⟨p, hp, rfl⟩ := List.mem_map.1 he
    obtain ⟨f, hf, part⟩ := List.mem_map.1 (List.fst_mem_of_mem_zipIdx hp)
    exact ⟨f, hf, congrArg Prod.snd part.symm⟩

namespace Schema

/-! ### One access -/

/-- An access to the fields of a type at a time when functions do what is given, and the schema after it. Like
all attributes of a type the fields are read once more after they were resolved. -/
def access (s : Schema) (n : NamedType) (call : Value → Traced Value) : Traced Value × Schema :=
  let s := { s with call }
  let asked := s.typeAttr (.named n) "fields"
  let later := s.after asked
  ({ asked with result := asked.result.bind fun _ => (later.typeAttr (.named n) "fields").result }, later)

/-- What the source of fields gives at a time when functions do what is given. -/
def givenBy (call : Value → Traced Value) (source : Value) : Except Fault Value :=
  (if source.callable then call source else return source : Traced Value).result

/-- Whether numbers are given out, and the mapping of a type's fields has one if there is one. -/
structure IsNumbered (s : Schema) (n : NamedType) : Prop where
  positive : 0 < s.next
  own : ∀ d source fields ids, s.def? n = some d → d.body = .inputObject source (some fields) ids →
    ids.own ≠ 0

section Numbered

variable {s : Schema} {n : NamedType}

theorem numberFields_advances (fields : List (String × InputField)) : Advances (numberFields fields) :=
  Advances.mapM (fun (_, f) => (Advances.value (.inputField f)).bind fun v => by split <;> exact .pure _) fields

/-- A new mapping gets a number, if those before it did. -/
theorem numberMap_own (source : Value) {next : Nat} (positive : 0 < next) :
    ((s.numberMap source).run next).1.own ≠ 0 ∧ next ≤ ((s.numberMap source).run next).2 := by
  unfold numberMap
  split
  · next es i _ =>
    have names := Advances.mapM (fun e : Entry => .one e.key.textId) es next
    exact ⟨Nat.ne_of_gt (Nat.lt_of_lt_of_le positive names), Nat.le_succ_of_le names⟩
  · exact ⟨Nat.ne_of_gt positive, Nat.le_succ next⟩

theorem IsNumbered.remember (h : s.IsNumbered n) (id : Nat) : (s.remember id).IsNumbered n := by
  unfold Schema.remember
  split
  · exact h
  · next d found =>
    split
    · next source ids body =>
      split
      · next fields given =>
        have grown := numberFields_advances fields s.next
        have positive := Nat.lt_of_lt_of_le h.positive grown
        obtain ⟨own, more⟩ := numberMap_own (s := s) source positive
        refine ⟨Nat.lt_of_lt_of_le positive more, fun e source' fields' ids' defined body' => ?_⟩
        by_cases here : n.id = id
        · subst here
          have bound := (List.getElem?_eq_some_iff.1 found).1
          have same : some _ = some e := (List.getElem?_set_self bound).symm.trans defined
          cases same
          cases body'
          exact own
        · exact h.own e source' fields' ids' ((List.getElem?_set_ne (Ne.symm here)).symm.trans defined) body'
      · exact h
    · exact h

theorem IsNumbered.after (h : s.IsNumbered n) {α : Type} (t : Traced α) : (s.after t).IsNumbered n := by
  unfold Schema.after
  have start : ({ s with next := max s.next t.used } : Schema).IsNumbered n :=
    ⟨Nat.lt_of_lt_of_le h.positive (Nat.le_max_left ..), h.own⟩
  generalize ({ s with next := max s.next t.used } : Schema) = s at start
  induction t.asked generalizing s with
  | nil => exact start
  | cons id ids ih => exact ih _ (start.remember id)

end Numbered

section Access

variable {s : Schema} {d : TypeDef} {n : NamedType} {call : Value → Traced Value}

theorem typeAttr_fields {source : Value} {held : Option (List (String × InputField))} {ids : MapIds}
    (defined : s.def? n = some d) (body : d.body = .inputObject source held ids) :
    s.typeAttr (.named n) "fields" = (do
      let fields ← s.fields n
      return ids.mapping (fields.map fun (k, f) => (k, .inputField f))) := by
  obtain ⟨name, nameId, description, extensions, body'⟩ := d
  obtain rfl : body' = _ := body
  rw [typeAttr, defined]
  rfl

theorem resolveFields_eq_ok {called : Value → Except Fault Value} {owner : String} {given : Except Fault Value}
    {fields : List (String × InputField)} (h : resolveFields called owner given = .ok fields) :
    ∃ es i, given = .ok (.mapping es i) ∧ fieldsOfMapping es = .ok fields := by
  unfold resolveFields at h
  split at h
  · obtain ⟨cause, -, failed⟩ := exists_of_bind_ok h
    cases failed
  · next es i => exact ⟨es, i, rfl, h⟩
  · cases h

theorem fieldsOf_unresolved {source : Value} {ids : MapIds} (body : d.body = .inputObject source none ids) :
    (s.fieldsOf d).result = resolveFields s.called d.name (s.given source).result := by
  rw [fieldsOf, body]

/-- What an access asks for are the fields. -/
theorem typeAttr_result {source : Value} {held : Option (List (String × InputField))} {ids : MapIds}
    (defined : s.def? n = some d) (body : d.body = .inputObject source held ids) :
    (s.typeAttr (.named n) "fields").result =
        (s.fieldsOf d).result.map (fun fields => ids.mapping (fields.map fun (k, f) => (k, .inputField f))) ∧
      n.id ∈ (s.typeAttr (.named n) "fields").asked := by
  rw [typeAttr_fields defined body]
  refine ⟨?_, ?_⟩
  · rw [Traced.result_bind, fields_defined defined]
    rfl
  · have first := fields_asked (s := s) n
    show _ ∈ (Traced.bind _ _).asked
    unfold Traced.bind
    split <;> exact List.mem_append_left _ first

/-- An access gives the mapping of fields that are held, and leaves the definition as it is. Whatever functions
do, none of them is called. -/
theorem access_held (call : Value → Traced Value) {source : Value} {fields : List (String × InputField)}
    {ids : MapIds} (defined : s.def? n = some d) (body : d.body = .inputObject source (some fields) ids) :
    (s.access n call).1 = (do
        Traced.ask n.id
        return ids.mapping (fields.map fun (k, f) => (k, .inputField f))) ∧
      (s.access n call).2.def? n = some d := by
  have held : d.held? = some fields := by rw [TypeDef.held?, body]
  have there : ({ s with call } : Schema).def? n = some d := defined
  have asked : ({ s with call } : Schema).typeAttr (.named n) "fields" = (do
      Traced.ask n.id
      return ids.mapping (fields.map fun (k, f) => (k, .inputField f))) := by
    rw [typeAttr_fields there body, fields_of_held there held]
    rfl
  have later := def?_after_of_held (({ s with call } : Schema).typeAttr (.named n) "fields") there held
  refine ⟨?_, later⟩
  rw [access, (typeAttr_result later body).1, fieldsOf_held held, asked]
  rfl

/-- An access fails if the source does not give a mapping of fields, and the definition stays as it is. -/
theorem access_fails {source : Value} {ids : MapIds} (defined : s.def? n = some d)
    (body : d.body = .inputObject source none ids) (not : ¬ DeclaresFields (givenBy call source)) :
    (∃ f, (s.access n call).1.result = .error f) ∧ (s.access n call).2.def? n = some d := by
  have there : ({ s with call } : Schema).def? n = some d := defined
  have failed : ∀ fields, (({ s with call } : Schema).fieldsOf d).result ≠ .ok fields := fun fields found => by
    rw [fieldsOf_unresolved body] at found
    obtain ⟨es, i, given, ok⟩ := resolveFields_eq_ok found
    exact not ⟨es, i, given, (fieldsOfMapping_eq_ok ok).1⟩
  constructor
  · rw [access, (typeAttr_result there body).1]
    cases found : (({ s with call } : Schema).fieldsOf d).result with
    | error f => exact ⟨f, rfl⟩
    | ok fields => exact absurd found (failed fields)
  · obtain ⟨e, later, settles, -⟩ :=
      after_settles (({ s with call } : Schema).typeAttr (.named n) "fields") there
    cases settles with
    | same => exact later
    | resolved _ given => exact absurd given (failed _)

/-- An access succeeds if the source gives a mapping of fields, and then the definition holds them. -/
theorem access_resolves {source : Value} {ids : MapIds} {es : List Entry} {i : Nat}
    (defined : s.def? n = some d) (body : d.body = .inputObject source none ids)
    (given : givenBy call source = .ok (.mapping es i)) (declared : ∀ e ∈ es, e.IsField) :
    ∃ e fields numbers, (s.access n call).2.def? n = some e ∧
      e.body = .inputObject source (some fields) numbers ∧
      (outline fields).map some = es.map EntryOf.declared? ∧
      (s.access n call).1.result =
        .ok (numbers.mapping (fields.map fun (k, f) => (k, .inputField f))) := by
  have there : ({ s with call } : Schema).def? n = some d := defined
  obtain ⟨fields, ok⟩ := exists_fieldsOfMapping declared
  have found : (({ s with call } : Schema).fieldsOf d).result = .ok fields := by
    rw [fieldsOf_unresolved body]
    show resolveFields _ _ (givenBy call source) = _
    rw [given]
    exact ok
  obtain ⟨result, asked⟩ := typeAttr_result there body
  obtain ⟨e, later, settles, holds⟩ :=
    after_settles (({ s with call } : Schema).typeAttr (.named n) "fields") there
  have held := holds asked fields found
  cases settles with
  | same =>
    rw [TypeDef.held?, body] at held
    cases held
  | @resolved source' fields' numbered ids' numbers body' given' alike =>
    cases body.symm.trans body'
    cases found.symm.trans given'
    refine ⟨_, numbered, numbers, later, rfl, ?_, ?_⟩
    · rw [alike, (fieldsOfMapping_eq_ok ok).2]
    · rw [access, result, found, (typeAttr_result later rfl).1, fieldsOf_held rfl]
      rfl

theorem access_isNumbered (call : Value → Traced Value) (h : s.IsNumbered n) :
    (s.access n call).2.IsNumbered n :=
  IsNumbered.after (s := { s with call }) ⟨h.positive, h.own⟩ _

end Access

/-! ### Accesses one after the other -/

/-- What accesses one after the other give, and the schema after them. -/
def accesses (s : Schema) (n : NamedType) : List (Value → Traced Value) → List (Traced Value) × Schema
  | [] => ([], s)
  | call :: calls =>
    let (first, later) := s.access n call
    let (rest, last) := later.accesses n calls
    (first :: rest, last)

section Accesses

variable {s : Schema} {d : TypeDef} {n : NamedType} {source : Value} {ids : MapIds}

theorem accesses_held {fields : List (String × InputField)} :
    ∀ (calls : List (Value → Traced Value)) {s : Schema}, s.def? n = some d →
      d.body = .inputObject source (some fields) ids →
      (s.accesses n calls).1 = List.replicate calls.length (do
        Traced.ask n.id
        return ids.mapping (fields.map fun (k, f) => (k, .inputField f)))
  | [], _, _, _ => rfl
  | call :: calls, s, defined, body => by
    obtain ⟨first, later⟩ := access_held call defined body
    exact congrArg₂ List.cons first (accesses_held calls later body)

theorem accesses_fail : ∀ (calls : List (Value → Traced Value)) {s : Schema}, s.def? n = some d →
    d.body = .inputObject source none ids → (∀ call ∈ calls, ¬ DeclaresFields (givenBy call source)) →
      (s.accesses n calls).1.length = calls.length ∧
      (∀ a ∈ (s.accesses n calls).1, ∃ f, a.result = .error f) ∧ (s.accesses n calls).2.def? n = some d
  | [], _, defined, _, _ => ⟨rfl, List.forall_mem_nil _, defined⟩
  | call :: calls, s, defined, body, not => by
    obtain ⟨now, others⟩ := List.forall_mem_cons.1 not
    obtain ⟨failed, later⟩ := access_fails defined body now
    obtain ⟨length, all, last⟩ := accesses_fail calls later body others
    exact ⟨congrArg (· + 1) length, List.forall_mem_cons.2 ⟨failed, all⟩, last⟩

theorem accesses_append : ∀ (before after : List (Value → Traced Value)) (s : Schema),
    (s.accesses n (before ++ after)).1 =
      (s.accesses n before).1 ++ ((s.accesses n before).2.accesses n after).1
  | [], _, _ => rfl
  | call :: before, after, s => congrArg ((s.access n call).1 :: ·) (accesses_append before after _)

theorem accesses_isNumbered : ∀ (calls : List (Value → Traced Value)) {s : Schema}, s.IsNumbered n →
    (s.accesses n calls).2.IsNumbered n
  | [], _, h => h
  | _ :: calls, _, h => accesses_isNumbered calls (access_isNumbered _ h)

/-- Whether a value is the mapping of the fields that entries declare. It is an object with a number, it has the
declared names and types in their order, and all values in it are input fields with input types. -/
def IsFieldMap (declared : List Entry) (map : Value) : Prop :=
  map.same map = true ∧ ∃ fields i, map = .mapping fields i ∧
    fields.map EntryOf.declared? = declared.map EntryOf.declared? ∧
    ∀ e ∈ fields, ∃ f, e.value = .inputField f ∧ f.type.isInput = true

/-- The fields of an input object are resolved all at once or not at all, and only once. Accesses fail, and leave
its definition as it is, as long as its source does not give a mapping of fields when they are made. The first
access that finds such a mapping gives the map of its fields, and so do all accesses after it; they do nothing
but note that the type was asked, whatever functions do by then. -/
theorem accesses_resolve (defined : s.def? n = some d) (body : d.body = .inputObject source none ids)
    (positive : 0 < s.next)
    (failing : List (Value → Traced Value))
    (fails : ∀ call ∈ failing, ¬ DeclaresFields (givenBy call source)) :
    (s.accesses n failing).1.length = failing.length ∧
    (∀ a ∈ (s.accesses n failing).1, ∃ f, a.result = .error f) ∧
    (s.accesses n failing).2.def? n = some d ∧
    ∀ call later es i, givenBy call source = .ok (.mapping es i) → (∀ e ∈ es, e.IsField) →
      (∀ e ∈ es, ∀ f, e.value = .inputField f → f.IsMade) →
        ∃ first map, first.result = .ok map ∧ IsFieldMap es map ∧
        (s.accesses n (failing ++ call :: later)).1 = (s.accesses n failing).1 ++ first ::
          List.replicate later.length (do
            Traced.ask n.id
            return map) := by
  obtain ⟨length, errors, same⟩ := accesses_fail failing defined body fails
  refine ⟨length, errors, same, fun call later es i given declared made => ?_⟩
  have unresolved : s.IsNumbered n := ⟨positive, fun e source' fields ids' there held => by
    cases defined.symm.trans there
    cases body.symm.trans held⟩
  have numbered := accesses_isNumbered failing unresolved
  rw [accesses_append]
  generalize (s.accesses n failing).2 = t at same numbered
  obtain ⟨e, fields, numbers, there, held, alike, found⟩ := access_resolves same body given declared
  have own := (access_isNumbered call numbered).own e source fields numbers there held
  obtain ⟨entries, map, names, values⟩ := numbers.mapping_fields fields
  have inputs := isInput_of_declared alike declared made
  refine ⟨_, _, found, ⟨?_, entries, _, map, names.trans alike, fun f hf => ?_⟩, ?_⟩
  · rw [map]
    simp [Value.same, oneObject, own]
  · obtain ⟨g, hg, value⟩ := values f hf
    exact ⟨g.2, value, inputs g hg⟩
  · exact congrArg (_ ++ _ :: ·) (accesses_held later there held)

end Accesses

end Schema

/-- A schema with an input object whose fields come from a function. -/
def crateSchema : Schema where
  defs := [⟨"Crate", constant, .null, .null, .inputObject (.function 0 firstNumber) none {}⟩]
  call := fun _ => throw .operand
  apply := fun _ _ => throw .operand

/-- The fields of the input object as its function gives them at some time: one is given as a type, the other one
as a field of that type. -/
def crateFields : List Entry :=
  [⟨.ofText "width", .str "width", .type (.named ⟨0, "Crate", .inputObject, constant⟩)⟩,
    ⟨.ofText "height", .str "height",
      .inputField ⟨0, .list (.named ⟨0, "Crate", .inputObject, constant⟩), .null, .null, .null⟩⟩]

/-- The function fails, gives the fields, and fails again. -/
theorem accesses_resolve_crate : ∃ failed first map,
    (∃ f, failed.result = .error f) ∧ first.result = .ok map ∧ Schema.IsFieldMap crateFields map ∧
      (crateSchema.accesses ⟨0, "Crate", .inputObject, constant⟩
        [fun _ => throw .operand, fun _ => return .mapping crateFields, fun _ => throw .operand]).1 =
      [failed, first, do
        Traced.ask 0
        return map] := by
  have fails : ∀ call ∈ [fun _ => (throw .operand : Traced Value)],
      ¬ DeclaresFields (Schema.givenBy call (.function 0 firstNumber)) := by
    rintro call mem ⟨es, i, given, -⟩
    obtain rfl := List.mem_singleton.1 mem
    cases given
  have named : ∀ s : String, checkName (.str s) = .ok s → IsNameText s.toList := fun s passes =>
    (checkName_eq_ok.1 passes).2
  have declared : ∀ e ∈ crateFields, e.IsField :=
    List.forall_mem_cons.2 ⟨⟨⟨_, _, rfl, named "width" rfl⟩, .inr ⟨_, rfl, rfl⟩⟩,
      List.forall_mem_singleton.2 ⟨⟨_, _, rfl, named "height" rfl⟩, .inl ⟨_, rfl⟩⟩⟩
  have made : ∀ e ∈ crateFields, ∀ f, e.value = .inputField f → f.IsMade :=
    List.forall_mem_cons.2 ⟨fun f h => (nomatch h), List.forall_mem_singleton.2 fun f h => by
      cases h
      exact ⟨.type (.list (.named ⟨0, "Crate", .inputObject, constant⟩)), .null, .null, .null, _, rfl, rfl⟩⟩
  obtain ⟨length, errors, -, resolves⟩ := Schema.accesses_resolve (s := crateSchema)
    (n := ⟨0, "Crate", .inputObject, constant⟩) rfl rfl (by decide) [fun _ => throw .operand] fails
  obtain ⟨first, map, found, isMap, all⟩ := resolves (fun _ => return .mapping crateFields)
    [fun _ => throw .operand] crateFields 0 rfl declared made
  obtain ⟨failed, only⟩ := List.length_eq_one_iff.1 length
  rw [only] at all errors
  exact ⟨failed, first, map, errors failed (List.mem_singleton.2 rfl), found, isMap, all⟩

end QueryDefaults
