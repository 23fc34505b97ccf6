import QueryDefaults.Proofs.Conforms
import QueryDefaults.Types.Builtin

/-!
Details that a check does not look at. Two types resemble each other if they are written alike and the named
types below them have the same names, the same fields in the same order, each with or without a default, and
the same names of enum values, and if their scalars reject the same literals with the same messages, null and
variables left aside (`Schema.Resembles`). What else there is to them, values of enums and defaults,
descriptions, what a scalar makes of a literal that it accepts, tells them apart but makes no difference to a
check: every literal comes to the same at both (`Schema.check_resembling`). Types refer to each other in
circles, so resembling is a relation of the named types of two schemas that is kept from each type to the
types of its fields, and the induction is on the literal.
-/

namespace QueryDefaults

/-! ### Computations with two schemas -/

section Same

variable (s s' : Schema)

/-- Whether two computations, one with each schema, come to the same: to results that are related, or to
failures that cannot be told apart by class and wording. -/
inductive SameResult {α β : Type} (A : α → β → Prop) : Except Fault α → Except Fault β → Prop where
  | ok {a : α} {b : β} (same : A a b) : SameResult A (.ok a) (.ok b)
  | error {f g : Fault} (cls : f.cls = g.cls) (wording : f.message s.called = g.message s'.called) :
      SameResult A (.error f) (.error g)

variable {s s'}

/-- Sequences come to the same if their first parts do, and the others do whatever the first ones give. -/
theorem SameResult.bind {α β γ δ : Type} {A : α → β → Prop} {B : γ → δ → Prop} {x : Traced α}
    {y : Traced β} {f : α → Traced γ} {g : β → Traced δ} (h : SameResult s s' A x.result y.result)
    (next : ∀ a b, A a b → SameResult s s' B (f a).result (g b).result) :
    SameResult s s' B (x >>= f).result (y >>= g).result := by
  rw [Traced.result_bind, Traced.result_bind]
  generalize x.result = r, y.result = r' at h ⊢
  cases h with
  | ok same => exact next _ _ same
  | error cls wording => exact .error cls wording

end Same

/-! ### The relation -/

section Relation

variable (R : NamedType → NamedType → Prop)

/-- Whether two types are written alike, the named types below them being related. -/
inductive Ty.Resembles : Ty → Ty → Prop where
  | named {n m : NamedType} (related : R n m) : Resembles (.named n) (.named m)
  | list {t u : Ty} {i j : Nat} (item : Resembles t u) : Resembles (.list t i) (.list u j)
  | nonNull {t u : Ty} {i j : Nat} (below : Resembles t u) : Resembles (.nonNull t i) (.nonNull u j)
  | wrapper {t u : Ty} {i j : Nat} (below : Resembles t u) : Resembles (.wrapper t i) (.wrapper u j)

/-- Whether two declared fields have one name, types that are written alike, and both have a default or
none. -/
structure FieldResembles (f g : String × InputField) : Prop where
  name : f.1 = g.1
  type : f.2.type.Resembles R g.2.type
  default : f.2.default.isUndefined = g.2.default.isUndefined

variable (M : Value → Value → Prop)

/-- Whether two outcomes are both acceptances, of whatever values, or rejections with messages that are the
same. -/
inductive Outcome.Resembles : Outcome → Outcome → Prop where
  | accepted (v w : Value) : Resembles (.accepted v) (.accepted w)
  | rejected {m m' : Value} (same : M m m') : Resembles (.rejected m) (.rejected m')

/-- Whether two failures of a check have the same node, reason and message. -/
structure InvalidLiteral.Same (i j : InvalidLiteral) : Prop where
  node : i.node = j.node
  reason : i.reason = j.reason
  message : M i.message j.message

/-- Whether two checks come to the same. -/
abbrev SameVerdict (s s' : Schema) : Except Fault Verdict → Except Fault Verdict → Prop :=
  SameResult s s' (Option.Rel (InvalidLiteral.Same M))

/-- Whether the named types of two schemas that are related can only be told apart by details. Of scalars
only what they make of constants counts. -/
structure Schema.Resembles (s s' : Schema) : Prop where
  name : ∀ {n m}, R n m → n.name = m.name
  sort : ∀ {n m}, R n m → n.sort = m.sort
  fields : ∀ {n m}, R n m → n.sort = .inputObject →
    SameResult s s' (List.Forall₂ (FieldResembles R)) (s.fields n).result (s'.fields m).result
  values : ∀ {n m}, R n m → n.sort = .enum → ∀ name : String,
    name ∈ (s.enumValues n).map Prod.fst ↔ name ∈ (s'.enumValues m).map Prod.fst
  scalar : ∀ {n m}, R n m → n.sort = .scalar → ∀ v : Value, v.IsLiteral → v.IsConstant →
    SameResult s s' (fun r r' => (outcomeOf r).Resembles M (outcomeOf r'))
      (s.coerceLiteral (.type (.named n)) v).result (s'.coerceLiteral (.type (.named m)) v).result

end Relation

/-! ### Types that are written alike -/

section Resembling

variable {R : NamedType → NamedType → Prop} {M : Value → Value → Prop} {s s' : Schema} {t u : Ty}

theorem Ty.Resembles.core (h : t.Resembles R u) : t.core.Resembles R u.core := by
  induction h with
  | named related => exact .named related
  | list item => exact .list item
  | nonNull _ ih => exact ih
  | wrapper below => exact .wrapper below

theorem Ty.Resembles.isNonNull (h : t.Resembles R u) : t.isNonNull = u.isNonNull := by
  cases h <;> rfl

theorem Schema.Resembles.repr (h : s.Resembles R M s') (alike : t.Resembles R u) : t.repr = u.repr := by
  induction alike with
  | named related => simp [Ty.repr, NamedType.repr, Ty.className, h.name related, h.sort related]
  | list _ ih => simp [Ty.repr, ih]
  | nonNull _ ih => simp [Ty.repr, ih]
  | wrapper _ ih => simp [Ty.repr, ih]

/-- Types that are written alike have one text. -/
theorem Schema.Resembles.text (h : s.Resembles R M s') (alike : t.Resembles R u) : t.text = u.text := by
  induction alike with
  | named related => exact h.name related
  | list _ ih => simp [Ty.text, ih]
  | nonNull _ ih => simp [Ty.text, ih]
  | wrapper below => simp [Ty.text, Ty.repr, h.repr below]

theorem FieldResembles.isRequired {f g : String × InputField} (h : FieldResembles R f g) :
    f.2.isRequired = g.2.isRequired := by
  simp [InputFieldOf.isRequired, h.type.isNonNull, h.default]

/-- Fields that resemble each other have the same names. -/
theorem FieldResembles.names {declared others : List (String × InputField)}
    (h : List.Forall₂ (FieldResembles R) declared others) :
    declared.map Prod.fst = others.map Prod.fst := by
  induction h with
  | nil => rfl
  | cons first _ ih => simp [first.name, ih]

/-! ### Checks that come to the same -/

theorem SameVerdict.valid : SameVerdict M s s' (.ok none) (.ok none) := .ok .none

/-- If messages are the same only if they are equal, then a verdict is. -/
theorem SameVerdict.eq_of_ok {verdict : Verdict} {r : Except Fault Verdict}
    (h : SameVerdict Eq s s' (.ok verdict) r) : r = .ok verdict := by
  cases h with
  | ok same =>
    cases same with
    | none => rfl
    | @some i j failure =>
      obtain ⟨node, reason, message⟩ := failure
      cases i
      cases j
      cases node
      cases reason
      cases message
      rfl

/-- A failure without a message is the same at both types if its reason is. -/
theorem SameVerdict.invalid (same : M .null .null) (v : Value) {reason reason' : String}
    (h : reason = reason') :
    SameVerdict M s s' (.ok (some ⟨v, reason, .null⟩)) (.ok (some ⟨v, reason', .null⟩)) :=
  .ok (.some ⟨rfl, h, same⟩)

/-- A refused type is named by its text. -/
theorem Refusal.wording_type (r : Refusal) (call : Value → Except Fault Value) (t : Ty) :
    r.wording call (.type t) = .ok (r.words.1 ++ t.text ++ r.words.2) := by
  cases t <;> rfl

/-- Types that are written alike are refused with the same words. -/
theorem Schema.Resembles.refused (h : s.Resembles R M s') (alike : t.Resembles R u) :
    SameVerdict M s s' (.error (.refused .checkedType (.type t)))
      (.error (.refused .checkedType (.type u))) := by
  refine .error rfl ?_
  rw [Fault.message, Fault.message, Refusal.wording_type, Refusal.wording_type, h.text alike]

/-- The first failures among checks are the same if the checks come to the same one by one. -/
theorem SameVerdict.firstInvalid {α β : Type} {f : α → Traced Verdict} {g : β → Traced Verdict} {xs : List α}
    {ys : List β} (h : List.Forall₂ (fun x y => SameVerdict M s s' (f x).result (g y).result) xs ys) :
    SameVerdict M s s' (firstInvalid f xs).result (firstInvalid g ys).result := by
  induction h with
  | nil => exact .valid
  | cons first _ ih =>
    rw [QueryDefaults.firstInvalid, QueryDefaults.firstInvalid]
    refine first.bind fun a b same => ?_
    cases same with
    | none => exact ih
    | some failure => exact .ok (.some failure)

theorem SameVerdict.nullFor (same : M .null .null) (h : s.Resembles R M s') (alike : t.Resembles R u)
    (v : Value) : SameVerdict M s s' (.ok (nullFor v t)) (.ok (nullFor v u)) := by
  rw [QueryDefaults.nullFor, QueryDefaults.nullFor, ← alike.isNonNull, ← h.text alike]
  cases t.isNonNull with
  | true => exact .invalid same v rfl
  | false => exact .valid

/-- A literal of the wrong kind fails at both types alike. -/
theorem SameVerdict.mismatch (same : M .null .null) (h : s.Resembles R M s') (alike : t.Resembles R u)
    {v : Value} (printed : GivesText v.print) :
    SameVerdict M s s' (mismatch v t) (mismatch v u) := by
  obtain ⟨text, i, hp⟩ := printed
  rw [QueryDefaults.mismatch, QueryDefaults.mismatch, hp]
  refine .invalid same v ?_
  rw [h.text alike]

/-- Enums are looked into for the names of their values alone. -/
theorem SameVerdict.checkEnum (same : M .null .null) (h : s.Resembles R M s') {n m : NamedType}
    (related : R n m) (sort : n.sort = .enum) {v : Value} (literal : v.IsLiteral) :
    SameVerdict M s s' (checkEnum n (s.enumValues n) v).result (checkEnum m (s'.enumValues m) v).result := by
  cases kind : v.isA .enumValue with
  | true =>
    obtain ⟨name, stored, found⟩ := checkEnum_value literal kind n (s.enumValues n)
    obtain ⟨name', stored', found'⟩ := checkEnum_value literal kind m (s'.enumValues m)
    obtain rfl := Option.some.inj (stored.symm.trans stored')
    rw [found, found', h.name related]
    by_cases known : name ∈ (s.enumValues n).map Prod.fst
    · rw [if_pos known, if_pos ((h.values related sort name).1 known)]
      exact .valid
    · rw [if_neg known, if_neg (known ∘ (h.values related sort name).2)]
      exact .invalid same v rfl
  | false =>
    obtain ⟨text, i, printed⟩ := literal.print
    rw [checkEnum_noEnum kind printed, checkEnum_noEnum kind printed, h.name related]
    exact .invalid same v rfl

/-- Scalars are asked whether they accept a literal, and for their message if they do not. -/
theorem SameVerdict.checkScalar (h : s.Resembles R M s') {n m : NamedType} (related : R n m)
    (sort : n.sort = .scalar) {v : Value} (literal : v.IsLiteral) (constant : v.IsConstant) :
    SameVerdict M s s' (s.checkScalar n v).result (s'.checkScalar m v).result := by
  rw [Schema.checkScalar, Schema.checkScalar]
  refine (h.scalar related sort v literal constant).bind fun r r' outcome => ?_
  revert outcome
  generalize outcomeOf r = o, outcomeOf r' = o'
  rintro (_ | same)
  · exact SameVerdict.valid
  · obtain ⟨text, i, printed⟩ := literal.print
    simp only [printed, h.name related]
    exact .ok (.some ⟨rfl, rfl, same⟩)

/-! ### Objects -/

section Objects

variable {n m : NamedType} {declared others : List (String × InputField)} {es : List Value} {literal : Value}

/-- The same entry is found to be unknown. -/
theorem SameVerdict.unknownField (same : M .null .null) (name : n.name = m.name)
    (fields : List.Forall₂ (FieldResembles R) declared others) :
    ∀ {es : List Value}, (∀ e ∈ es, ∃ k v, e.IsEntry k v) →
      SameVerdict M s s' (unknownField n declared es).result (unknownField m others es).result
  | [], _ => .valid
  | e :: es, named => by
    obtain ⟨k, v, he⟩ := named e (List.mem_cons_self ..)
    have ih := unknownField same name fields fun e he => named e (List.mem_cons_of_mem _ he)
    rw [unknownField_cons he, unknownField_cons he, ← FieldResembles.names fields, name]
    by_cases known : k ∈ declared.map Prod.fst
    · rw [if_pos known, if_pos known]
      exact ih
    · rw [if_neg known, if_neg known]
      exact .invalid same v rfl

/-- A declared field comes to the same if what is given for it does. -/
theorem SameVerdict.checkField (same : M .null .null) (h : s.Resembles R M s') (related : R n m)
    (entries : literal.entries = es.filterMap Value.pair?) (named : ∀ e ∈ es, ∃ k v, e.IsEntry k v)
    (each : ∀ e ∈ es, ∀ k v, e.IsEntry k v → ∀ {t u : Ty}, t.Resembles R u →
      SameVerdict M s s' (s.check v t).result (s'.check v u).result)
    {f g : String × InputField} (alike : FieldResembles R f g) :
    SameVerdict M s s' (s.checkField n literal f).result (s'.checkField m literal g).result := by
  rw [Schema.checkField, Schema.checkField, ← alike.name]
  cases last : literal.lastEntry? f.1 with
  | none =>
    show SameVerdict M s s' (.ok (missingField n f.1 f.2 literal)) (.ok (missingField m f.1 g.2 literal))
    rw [missingField, missingField, ← alike.isRequired, h.name related, h.text alike.type]
    cases f.2.isRequired with
    | true => exact .invalid same literal rfl
    | false => exact .valid
  | some w =>
    rw [Value.lastEntry?, entries] at last
    obtain ⟨e, he, hw⟩ := entry_of_lookup named last
    exact each e he f.1 w hw alike.type

/-- An object comes to the same if its values do. -/
theorem SameVerdict.checkEntries (same : M .null .null) (h : s.Resembles R M s') (related : R n m)
    (fields : List.Forall₂ (FieldResembles R) declared others)
    (entries : literal.entries = es.filterMap Value.pair?) (named : ∀ e ∈ es, ∃ k v, e.IsEntry k v)
    (each : ∀ e ∈ es, ∀ k v, e.IsEntry k v → ∀ {t u : Ty}, t.Resembles R u →
      SameVerdict M s s' (s.check v t).result (s'.check v u).result) :
    SameVerdict M s s' (s.checkEntries n literal es declared).result
      (s'.checkEntries m literal es others).result := by
  rw [Schema.checkEntries, Schema.checkEntries]
  refine (SameVerdict.unknownField same (h.name related) fields named).bind fun a b verdict => ?_
  cases verdict with
  | some failure => exact .ok (.some failure)
  | none => exact SameVerdict.firstInvalid (fields.imp fun _ _ => .checkField same h related entries named each)

end Objects

/-! ### The check -/

/-- A literal that is neither a variable nor null has to be looked into only as a list at list types and as
an object at input object types. -/
theorem Schema.check_resembling_of_parts (same : M .null .null) (h : s.Resembles R M s') {v : Value}
    (literal : v.IsLiteral) (constant : v.IsConstant)
    (lists : v.isA .listValue = true → ∀ {t u : Ty} (i j : Nat), t.Resembles R u →
      SameVerdict M s s' (s.check v (.list t i)).result (s'.check v (.list u j)).result)
    (objects : v.isA .objectValue = true → ∀ {n m : NamedType}, R n m → n.sort = .inputObject →
      SameVerdict M s s' (s.check v (.named n)).result (s'.check v (.named m)).result)
    (alike : t.Resembles R u) : SameVerdict M s s' (s.check v t).result (s'.check v u).result := by
  rw [s.check_core constant, s'.check_core constant]
  have core := alike.core
  have printed := literal.print
  have below : ∀ b i, t.core ≠ .nonNull b i := fun _ _ => Ty.core_ne_nonNull t
  revert core below
  generalize t.core = c, u.core = d
  intro core below
  cases core with
  | @nonNull b _ i => exact absurd rfl (below b i)
  | wrapper inner =>
    rw [s.check_wrapper constant, s'.check_wrapper constant]
    exact h.refused (.wrapper inner)
  | @list a b i j item =>
    cases kind : v.isA .listValue with
    | true => exact lists kind i j item
    | false =>
      rw [s.check_noList constant kind, s'.check_noList constant kind]
      exact .mismatch same h (.list item) printed
  | @named n m related =>
    have sort' := h.sort related
    cases sort : n.sort with
    | other =>
      rw [s.check_other constant sort, s'.check_other constant (sort' ▸ sort)]
      exact h.refused (.named related)
    | scalar =>
      rw [s.check_scalar constant sort, s'.check_scalar constant (sort' ▸ sort)]
      exact .checkScalar h related sort literal constant
    | enum =>
      rw [s.check_enum constant sort, s'.check_enum constant (sort' ▸ sort)]
      exact .checkEnum same h related sort literal
    | inputObject =>
      cases kind : v.isA .objectValue with
      | true => exact objects kind related sort
      | false =>
        rw [s.check_noObject constant sort kind, s'.check_noObject constant (sort' ▸ sort) kind]
        exact .mismatch same h (.named related) printed

/-- A plain literal has not to be looked into at all. -/
theorem Schema.check_resembling_of_plain (same : M .null .null) (h : s.Resembles R M s') {v : Value}
    (literal : v.IsLiteral) (plain : v.IsPlain) (alike : t.Resembles R u) :
    SameVerdict M s s' (s.check v t).result (s'.check v u).result := by
  refine Schema.check_resembling_of_parts same h literal plain.toIsConstant ?_ ?_ alike
  · intro list
    rw [plain.noList] at list
    cases list
  · intro object
    rw [plain.noObject] at object
    cases object

/-- A literal comes to the same at types that can only be told apart by details: to no failure, to one with
the same node, reason and message, or to a failure of the check itself with the same class and wording. When
messages of scalars are the same is left open; the message that is none has to be the same as itself. -/
theorem Schema.check_resembling (same : M .null .null) (h : s.Resembles R M s') {v : Value}
    (literal : v.IsLiteral) (alike : t.Resembles R u) :
    SameVerdict M s s' (s.check v t).result (s'.check v u).result := by
  induction literal generalizing t u with
  | @null n made =>
    rw [s.check_null made.kind, s'.check_null made.kind]
    exact .nullFor same h alike _
  | @variableUse n m name made label named =>
    obtain ⟨text, i, printed⟩ := (Value.IsLiteral.variableUse made label named).print
    rw [s.check_variable made.kind, s'.check_variable made.kind, unexpectedVariable, printed]
    exact .invalid same _ rfl
  | text kind made value =>
    exact Schema.check_resembling_of_plain same h (.text kind made value)
      (made.isPlain (List.mem_cons_of_mem _ kind)) alike
  | boolean made value =>
    exact Schema.check_resembling_of_plain same h (.boolean made value)
      (made.isPlain (List.mem_cons_self ..)) alike
  | @list n xs i made values each ih =>
    refine Schema.check_resembling_of_parts same h (.list made values each)
      (made.isConstant (by decide) (by decide)) ?_ ?_ alike
    · intro _ t u _ _ item
      rw [s.check_list made.kind values, s'.check_list made.kind values]
      exact .firstInvalid (List.forall₂_same.2 fun x hx => ih x hx item)
    · intro object
      rw [made.isA] at object
      cases object
  | @object n es i made fields named each ih =>
    have entries : (Value.node n).entries = es.filterMap Value.pair? := by rw [Value.entries, fields]
    refine Schema.check_resembling_of_parts same h (.object made fields named each)
      (made.isConstant (by decide) (by decide)) ?_ ?_ alike
    · intro list
      rw [made.isA] at list
      cases list
    · intro _ owner owner' related sort
      rw [s.check_object sort made.kind fields named,
        s'.check_object ((h.sort related).symm.trans sort) made.kind fields named]
      exact (h.fields related sort).bind fun declared others alike =>
        SameVerdict.checkEntries same h related alike entries named ih

end Resembling

/-! ### Events with other details -/

/-- What events may differ in: the value that stands for red, what a day comes to, what null and variables
do as a day, what an event is due to if nothing is given, and a description. -/
structure Details where
  red : Value
  day : Int
  nothing : Value
  due : Int
  note : Value

def dayType : NamedType := ⟨5, "Day", .scalar, constant⟩

def colourType : NamedType := ⟨6, "Colour", .enum, constant⟩

def eventType : NamedType := ⟨7, "Event", .inputObject, constant⟩

/-- The fields of an event: a day that is required, one that it is due to, a colour, and events after it. -/
def eventFields (d : Details) : List (String × InputField) := [
  ("day", ⟨0, .nonNull (.named dayType), .undefined, d.note, .null⟩),
  ("due", ⟨0, .nonNull (.named dayType), .int d.due, d.note, .null⟩),
  ("colour", ⟨0, .named colourType, .undefined, .null, d.note⟩),
  ("then", ⟨0, .list (.nonNull (.named eventType)), .undefined, .null, .null⟩)]

/-- A schema with events. A day is written as a string; all else is rejected with a message. -/
def eventSchema (d : Details) : Schema where
  defs := builtinDefs ++ [
    ⟨"Day", constant, d.note, .mapping [], .scalar none (some (.function 0))⟩,
    ⟨"Colour", constant, d.note, .mapping [], .enum [("RED", ⟨0, d.red, d.note, .null⟩)] {}⟩,
    ⟨"Event", constant, d.note, .mapping [], .inputObject .null (some (eventFields d)) {}⟩]
  call _ := throw .operand
  apply _ v :=
    if v.isA .nullValue || v.isA .variableUse then return d.nothing
    else if v.isA .stringValue then return .int d.day
    else return .record .rejected [.word "No day."]

/-- Strings are days. -/
theorem eventSchema_coerceLiteral (d : Details) {v : Value} (constant : v.IsConstant) :
    ((eventSchema d).coerceLiteral (.type (.named dayType)) v).result =
      .ok (if v.isA .stringValue then .record .accepted [.int d.day]
        else .record .rejected [.word "No day."]) := by
  have applied : ((eventSchema d).applyTo (.function 0) v).result =
      .ok (if v.isA .stringValue then .int d.day else .record .rejected [.word "No day."]) := by
    show ((eventSchema d).apply (.function 0) v).result = _
    rw [eventSchema]
    simp only [constant.noNull, constant.noVariable, Bool.or_self, Bool.false_eq_true, if_false]
    cases v.isA .stringValue <;> rfl
  have onLiteral : ((eventSchema d).attr (.type (.named dayType)) "parse_literal").result =
      .ok (.function 0) := rfl
  refine Traced.result_tryCatch_ok ?_ _
  rw [Traced.result_bind_ok onLiteral, Traced.result_bind_ok applied]
  cases v.isA .stringValue <;> rfl

/-- Events resemble each other whatever their details are. -/
theorem eventSchema_resembles (d d' : Details) :
    (eventSchema d).Resembles (fun n m => n = m ∧ n ∈ [dayType, colourType, eventType]) Eq
      (eventSchema d') where
  name := by
    rintro n _ ⟨rfl, _⟩
    rfl
  sort := by
    rintro n _ ⟨rfl, _⟩
    rfl
  fields := by
    rintro n _ ⟨rfl, hn⟩ sort
    obtain rfl : n = eventType := by
      simp only [List.mem_cons, List.not_mem_nil, or_false] at hn
      rcases hn with rfl | rfl | rfl
      · cases sort
      · cases sort
      · rfl
    exact .ok (.cons ⟨rfl, .nonNull (.named (by decide)), rfl⟩ (.cons ⟨rfl, .nonNull (.named (by decide)), rfl⟩
      (.cons ⟨rfl, .named (by decide), rfl⟩ (.cons ⟨rfl, .list (.nonNull (.named (by decide))), rfl⟩ .nil))))
  values := by
    rintro n _ ⟨rfl, hn⟩ sort name
    simp only [List.mem_cons, List.not_mem_nil, or_false] at hn
    rcases hn with rfl | rfl | rfl
    · cases sort
    · exact Iff.rfl
    · cases sort
  scalar := by
    rintro n _ ⟨rfl, hn⟩ sort v _ constant
    obtain rfl : n = dayType := by
      simp only [List.mem_cons, List.not_mem_nil, or_false] at hn
      rcases hn with rfl | rfl | rfl
      · rfl
      · cases sort
      · cases sort
    rw [eventSchema_coerceLiteral d constant, eventSchema_coerceLiteral d' constant]
    refine .ok ?_
    cases v.isA .stringValue with
    | true => exact .accepted _ _
    | false => exact .rejected rfl

/-- An event with a number as its day. -/
def eventLiteral : Value := .objectNode [("day", .textNode .intValue "1")]

def plainDetails : Details := ⟨.word "RED", 1, .undefined, 1, .null⟩

def otherDetails : Details := ⟨.int 255, 2, .int 0, 7, .word "Colours go by their channels."⟩

/-- The number is found not to be a day. -/
theorem eventSchema_check : ((eventSchema plainDetails).check eventLiteral (.named eventType)).result =
    .ok (some ⟨.textNode .intValue "1", "Expected value of type 'Day', found 1.", .word "No day."⟩) := by
  have constant : (Value.textNode .intValue "1").IsConstant := ⟨rfl, rfl⟩
  have printed : (liftM (Value.textNode .intValue "1").print : Traced Value).result = .ok (.str "1") := by
    rw [Value.textNode, Value.print]
    rfl
  have day : ((eventSchema plainDetails).checkField eventType eventLiteral
      ("day", ⟨0, .nonNull (.named dayType), .undefined, plainDetails.note, .null⟩)).result =
      .ok (some ⟨.textNode .intValue "1", "Expected value of type 'Day', found 1.", .word "No day."⟩) := by
    refine ((eventSchema plainDetails).check_core constant).trans ?_
    show ((eventSchema plainDetails).check (.textNode .intValue "1") (.named dayType)).result = _
    rw [(eventSchema plainDetails).check_scalar constant rfl, Schema.checkScalar,
      Traced.result_bind_ok (eventSchema_coerceLiteral plainDetails constant)]
    exact Traced.result_bind_ok printed _
  have declared : ((eventSchema plainDetails).fields eventType).result = .ok (eventFields plainDetails) := rfl
  rw [eventLiteral, (eventSchema plainDetails).check_objectNode rfl declared (by decide), eventFields,
    firstInvalid, ← eventLiteral, Traced.result_bind_ok day]
  rfl

/-- And so it is with other details, in the same words and with the same message. -/
theorem eventLiteral_resembling :
    ((eventSchema otherDetails).check eventLiteral (.named eventType)).result =
      .ok (some ⟨.textNode .intValue "1", "Expected value of type 'Day', found 1.", .word "No day."⟩) := by
  have literal : eventLiteral.IsLiteral := Value.objectNode_isLiteral
    (List.forall_mem_singleton.2 (Value.textNode_isLiteral (by decide) "1"))
  have same := Schema.check_resembling rfl (eventSchema_resembles plainDetails otherDetails) literal
    (.named (n := eventType) ⟨rfl, by decide⟩)
  rw [eventSchema_check] at same
  exact same.eq_of_ok

end QueryDefaults
