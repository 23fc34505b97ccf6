import Mathlib.Computability.Language
import QueryDefaults.Proofs.Lasting
import QueryDefaults.Proofs.Resolved

/-!
Names of types and of their parts. The check of a name looks at all characters but the first one, and then at the
first one; so it lets exactly those texts pass that match `[_a-zA-Z][_a-zA-Z0-9]*` (`nameLanguage`) from their
beginning to their end. Every function that makes a definition checks the name in it, and the names of enum values,
and names of fields are checked when fields are resolved. That all names were checked is a property that lasts
(`checked`), so it holds in every session, and no name in it can be taken for the notation of a list or a non-null
(`Session.names_match`).
-/

namespace QueryDefaults

open scoped Computability

/-! ### The language of names -/

/-- Whether a character is in one of some ranges. -/
def IsIn (ranges : List (Char × Char)) (c : Char) : Prop := ∃ r ∈ ranges, r.1 ≤ c ∧ c ≤ r.2

/-- The words that are one character of some ranges. -/
def oneOf (ranges : List (Char × Char)) : Language Char := {cs | ∃ c, cs = [c] ∧ IsIn ranges c}

/-- The words that match `[_a-zA-Z][_a-zA-Z0-9]*`. -/
def nameLanguage : Language Char :=
  oneOf [('_', '_'), ('a', 'z'), ('A', 'Z')] * (oneOf [('_', '_'), ('a', 'z'), ('A', 'Z'), ('0', '9')])∗

/-- Any number of characters of some ranges. -/
theorem mem_kstar_oneOf {ranges : List (Char × Char)} {cs : List Char} :
    cs ∈ (oneOf ranges)∗ ↔ ∀ c ∈ cs, IsIn ranges c := by
  rw [Language.mem_kstar]
  constructor
  · rintro ⟨words, rfl, each⟩ c hc
    obtain ⟨word, hword, mem⟩ := List.mem_flatten.1 hc
    obtain ⟨d, rfl, inside⟩ := each word hword
    obtain rfl := List.mem_singleton.1 mem
    exact inside
  · intro each
    refine ⟨cs.map ([·]), ?_, List.forall_mem_map.2 fun c hc => ⟨c, rfl, each c hc⟩⟩
    rw [← List.flatMap_def, List.flatMap_singleton']

theorem isIn_cons {r : Char × Char} {ranges : List (Char × Char)} {c : Char} :
    IsIn (r :: ranges) c ↔ (r.1 ≤ c ∧ c ≤ r.2) ∨ IsIn ranges c := List.exists_mem_cons_iff ..

theorem not_isIn_nil {c : Char} : ¬ IsIn [] c := fun ⟨_, mem, _⟩ => List.not_mem_nil mem

theorem isNameStart_iff {c : Char} : isNameStart c = true ↔ IsIn [('_', '_'), ('a', 'z'), ('A', 'Z')] c := by
  have underscore : c = '_' ↔ '_' ≤ c ∧ c ≤ '_' := eq_comm.trans le_antisymm_iff
  have small : c.isLower = true ↔ 'a' ≤ c ∧ c ≤ 'z' := by simp [Char.isLower, Char.le_def]
  have capital : c.isUpper = true ↔ 'A' ≤ c ∧ c ≤ 'Z' := by simp [Char.isUpper, Char.le_def]
  simp only [isNameStart, Char.isAlpha, isIn_cons, not_isIn_nil, or_false, Bool.or_eq_true, decide_eq_true_eq,
    underscore, small, capital]
  exact or_congr_right or_comm

theorem isNameContinue_iff {c : Char} :
    isNameContinue c = true ↔ IsIn [('_', '_'), ('a', 'z'), ('A', 'Z'), ('0', '9')] c := by
  have digit : c.isDigit = true ↔ '0' ≤ c ∧ c ≤ '9' := by simp [Char.isDigit, Char.le_def]
  simp only [isNameContinue, isIn_cons, not_isIn_nil, or_false, or_assoc, Bool.or_eq_true, isNameStart_iff, digit]

/-- A text is in the language of names if it begins as a name may begin and goes on as a name may go on. -/
theorem isNameText_iff {cs : List Char} : IsNameText cs ↔ cs ∈ nameLanguage := by
  rw [nameLanguage, Language.mem_mul]
  constructor
  · rintro ⟨c, rest, rfl, start, continues⟩
    exact ⟨[c], ⟨c, rfl, isNameStart_iff.1 start⟩, rest,
      mem_kstar_oneOf.2 fun d hd => isNameContinue_iff.1 (continues d hd), rfl⟩
  · rintro ⟨first, ⟨c, rfl, start⟩, rest, continues, rfl⟩
    exact ⟨c, rest, rfl, isNameStart_iff.2 start,
      fun d hd => isNameContinue_iff.2 (mem_kstar_oneOf.1 continues d hd)⟩

/-! ### Checks -/

/-- If the check of a text fails, it is with an error of the library. -/
theorem checkName_error {s : String} {i : Nat} {f : Fault} (failed : checkName (.str s i) = .error f) :
    f.cls = .graphql := by
  simp only [checkName] at failed
  split at failed
  · cases failed
    rfl
  · split at failed
    · cases failed
      rfl
    · split at failed
      · cases failed
        rfl
      · cases failed

theorem checkName_iff {s : String} {i : Nat} : checkName (.str s i) = .ok s ↔ s.toList ∈ nameLanguage := by
  rw [checkName_eq_ok, isNameText_iff]
  exact and_iff_right ⟨i, rfl⟩

theorem exists_checkName_error {s : String} (i : Nat) (not : s.toList ∉ nameLanguage) :
    ∃ f, checkName (.str s i) = .error f ∧ f.cls = .graphql := by
  cases checked : checkName (.str s i) with
  | error f => exact ⟨f, rfl, checkName_error checked⟩
  | ok name =>
    obtain ⟨⟨_, same⟩, text⟩ := checkName_eq_ok.1 checked
    cases same
    exact absurd (isNameText_iff.1 text) not

/-- The name of an enum value is a name, and none of the literals. -/
theorem checkEnumValueName_eq_ok {v : Value} {name : String} :
    checkEnumValueName v = .ok name ↔ checkName v = .ok name ∧ name ∉ reservedNames := by
  rw [checkEnumValueName]
  cases checkName v with
  | error f => exact ⟨fun failed => (nomatch failed), fun h => (nomatch h.1)⟩
  | ok s =>
    rw [ok_bind]
    by_cases mem : s ∈ reservedNames
    · rw [if_pos (List.contains_iff_mem.2 mem)]
      refine ⟨fun failed => (nomatch failed), fun h => ?_⟩
      obtain rfl := Except.ok.inj h.1
      exact absurd mem h.2
    · rw [if_neg (mt List.contains_iff_mem.1 mem)]
      refine ⟨fun passes => ⟨passes, ?_⟩, fun h => h.1⟩
      obtain rfl := Except.ok.inj passes
      exact mem

theorem exists_checkEnumValueName_error {s : String} (i : Nat)
    (not : ¬ (s.toList ∈ nameLanguage ∧ s ∉ reservedNames)) :
    ∃ f, checkEnumValueName (.str s i) = .error f ∧ f.cls = .graphql := by
  by_cases named : s.toList ∈ nameLanguage
  · have reserved : reservedNames.contains s = true := by
      by_contra free
      exact not ⟨named, fun mem => free (List.contains_iff_mem.2 mem)⟩
    refine ⟨.nameReserved s, ?_, rfl⟩
    rw [checkEnumValueName, checkName_iff.2 named]
    simp only [ok_bind, reserved]
    rfl
  · obtain ⟨f, failed, cls⟩ := exists_checkName_error i named
    refine ⟨f, ?_, cls⟩
    rw [checkEnumValueName, failed]
    rfl

/-! ### Names in a definition -/

/-- Enum values have names. -/
theorem enumValuesOf_names : ∀ {es : List (Value × Value)} {values : List (String × EnumValue)},
    enumValuesOf es = .ok values → ∀ u ∈ values, IsNameText u.1.toList ∧ u.1 ∉ reservedNames
  | [], _, made => by
    cases made
    exact List.forall_mem_nil _
  | (k, v) :: es, _, made => by
    obtain ⟨name, passes, made⟩ := exists_of_bind_ok made
    obtain ⟨values, rest, made⟩ := exists_of_bind_ok made
    cases made
    obtain ⟨named, free⟩ := checkEnumValueName_eq_ok.1 passes
    exact List.forall_mem_cons.2 ⟨⟨(checkName_eq_ok.1 named).2, free⟩, enumValuesOf_names rest⟩

/-- Fields that a mapping gives have names. -/
theorem fieldsOfMapping_names : ∀ {es : List Entry} {fields : List (String × InputField)},
    fieldsOfMapping es = .ok fields → ∀ f ∈ fields, IsNameText f.1.toList
  | [], _, given => by
    cases given
    exact List.forall_mem_nil _
  | ⟨_, k, v⟩ :: es, _, given => by
    obtain ⟨name, passes, given⟩ := exists_of_bind_ok given
    obtain ⟨field, _, given⟩ := exists_of_bind_ok given
    obtain ⟨fields, rest, given⟩ := exists_of_bind_ok given
    cases given
    exact List.forall_mem_cons.2 ⟨(checkName_eq_ok.1 passes).2, fieldsOfMapping_names rest⟩

/-- Fields that are resolved have names, and so have those that were resolved before. -/
theorem Schema.fieldsOf_names {s : Schema} {d : TypeDef} {fields : List (String × InputField)}
    (found : (s.fieldsOf d).result = .ok fields) (held : ∀ name ∈ d.body.parts, IsNameText name.toList) :
    ∀ f ∈ fields, IsNameText f.1.toList := by
  unfold fieldsOf at found
  split at found
  · next resolved ids body =>
    cases found
    rw [body] at held
    exact fun f hf => held f.1 (List.mem_map_of_mem hf)
  · obtain ⟨es, i, -, given⟩ := resolveFields_eq_ok found
    exact fieldsOfMapping_names given
  · cases found

/-- Whether all names were checked: that of a definition, and those of its parts. That of an enum value is none of
the literals. -/
structure Labels.AreChecked (names : Labels) : Prop where
  name : IsNameText names.name.toList
  parts : ∀ part ∈ names.parts, IsNameText part.toList
  free : names.sort = .enum → ∀ part ∈ names.parts, part ∉ reservedNames

/-- A definition without parts has checked names if it has a name. -/
theorem TypeDef.areChecked_of_parts {d : TypeDef} (named : IsTypeName d.name) (bare : d.body.parts = []) :
    d.labels.AreChecked := by
  obtain ⟨v, passes⟩ := named
  have bare : d.labels.parts = [] := bare
  refine ⟨(checkName_eq_ok.1 passes).2, ?_, fun _ => ?_⟩
  · rw [bare]
    exact List.forall_mem_nil _
  · rw [bare]
    exact List.forall_mem_nil _

/-- All names in a definition are checked when it is made. -/
theorem TypeDef.IsDefined.areChecked {s : Schema} {d : TypeDef} (h : d.IsDefined s) : d.labels.AreChecked := by
  have named := h.named
  cases h with
  | builtin mem =>
    refine areChecked_of_parts named ?_
    simp only [builtinDefs, List.mem_cons, List.not_mem_nil, or_false] at mem
    rcases mem with rfl | rfl | rfl | rfl | rfl <;> rfl
  | scalar made =>
    obtain ⟨owner, _, made⟩ := exists_of_bind_ok made
    obtain ⟨onValue, _, made⟩ := exists_of_bind_ok made
    obtain ⟨onLiteral, _, made⟩ := exists_of_bind_ok made
    cases made
    exact areChecked_of_parts named rfl
  | enum made =>
    obtain ⟨owner, _, made⟩ := Traced.bind_result_ok made
    obtain ⟨entries, _, made⟩ := Traced.bind_result_ok made
    obtain ⟨values, given, made⟩ := Traced.bind_result_ok made
    cases made
    obtain ⟨v, passes⟩ := named
    have names := enumValuesOf_names given
    exact ⟨(checkName_eq_ok.1 passes).2, List.forall_mem_map.2 fun u hu => (names u hu).1,
      fun _ => List.forall_mem_map.2 fun u hu => (names u hu).2⟩
  | inputObject made =>
    obtain ⟨owner, _, made⟩ := exists_of_bind_ok made
    cases made
    exact areChecked_of_parts named rfl
  | other made =>
    obtain ⟨owner, _, made⟩ := exists_of_bind_ok made
    cases made
    exact areChecked_of_parts named rfl

/-- All names in a definition are still checked ones when its fields were resolved. -/
theorem Schema.Settles.areChecked {s : Schema} {d e : TypeDef} (h : s.Settles d e) (before : d.labels.AreChecked) :
    e.labels.AreChecked := by
  cases h with
  | same => exact before
  | @resolved source fields numbered ids numbers body given alike =>
    have names := fieldsOf_names given before.parts
    refine ⟨before.name, List.forall_mem_map.2 fun f hf => ?_, fun sort => (nomatch sort)⟩
    obtain ⟨g, hg, same, -⟩ := mem_outline alike hf
    exact same ▸ names g hg

/-- That all names were checked lasts. -/
def checked : Lasting where
  holds := Labels.AreChecked
  defined := TypeDef.IsDefined.areChecked
  settles := Schema.Settles.areChecked

section Checked

variable {s : Schema} {n : NamedType} (all : ∀ d, s.def? n = some d → d.labels.AreChecked)
include all

theorem enumValues_names {u : String × EnumValue} (hu : u ∈ s.enumValues n) :
    IsNameText u.1.toList ∧ u.1 ∉ reservedNames := by
  unfold Schema.enumValues at hu
  split at hu
  · next values _ defined =>
    have checked := all _ defined
    have mem : u.1 ∈ values.map Prod.fst := List.mem_map_of_mem hu
    exact ⟨checked.parts _ mem, checked.free rfl _ mem⟩
  · cases hu

theorem fields_names {fields : List (String × InputField)} (found : (s.fields n).result = .ok fields) :
    ∀ f ∈ fields, IsNameText f.1.toList := by
  cases defined : s.def? n with
  | none =>
    rw [Schema.fields, defined] at found
    cases found
  | some d =>
    rw [Schema.fields_defined defined] at found
    exact Schema.fieldsOf_names found (all d defined).parts

end Checked

/-! ### Printed types -/

/-- A type whose text has the characters of a name only is a named type: there is a bracket around a list or a
wrapper, and an exclamation mark behind a non-null. -/
theorem Ty.named_of_text {t : Ty} (plain : ∀ c ∈ t.text.toList, isNameContinue c = true) : ∃ n, t = .named n := by
  have apart {c : Char} (mem : c ∈ t.text.toList) (no : isNameContinue c = false) : False := by
    rw [plain c mem] at no
    cases no
  cases t with
  | named n => exact ⟨n, rfl⟩
  | list t i => exact (apart (c := '[') (by simp [text]) (by decide)).elim
  | nonNull t i => exact (apart (c := '!') (by simp [text]) (by decide)).elim
  | wrapper t i => exact (apart (c := '<') (by simp [text, repr, sentence]) (by decide)).elim

/-! ### Sessions -/

namespace Session

/-- The check of a name lets exactly those texts pass that match `[_a-zA-Z][_a-zA-Z0-9]*`, and fails with an error
of the library for others; that of the name of an enum value does so for those that are no literal. In every session
all types have such names, whether they are scalars, enums or input objects, and so have all enum values, and all
fields that are resolved, whatever functions do. So a type that is printed like one of these is a named type. -/
theorem names_match :
    (∀ (s : String) (i : Nat), (checkName (.str s i) = .ok s ↔ s.toList ∈ nameLanguage) ∧
      (s.toList ∉ nameLanguage → ∃ f, checkName (.str s i) = .error f ∧ f.cls = .graphql)) ∧
    (∀ (s : String) (i : Nat),
      (checkEnumValueName (.str s i) = .ok s ↔ s.toList ∈ nameLanguage ∧ s ∉ ["true", "false", "null"]) ∧
      (¬ (s.toList ∈ nameLanguage ∧ s ∉ ["true", "false", "null"]) →
        ∃ f, checkEnumValueName (.str s i) = .error f ∧ f.cls = .graphql)) ∧
    ∀ st : Session, st.IsReached → ∀ s : Schema, s.defs = st.schema.defs → ∀ n : NamedType,
      (s.Defines n → n.name.toList ∈ nameLanguage ∧
        ∀ t text, (Value.type (.named n)).display = .ok text → (Value.type t).display = .ok text →
          ∃ m, t = .named m ∧ m.name = n.name) ∧
      (∀ u ∈ s.enumValues n, u.1.toList ∈ nameLanguage ∧ u.1 ∉ ["true", "false", "null"]) ∧
      ∀ fields, (s.fields n).result = .ok fields → ∀ f ∈ fields, f.1.toList ∈ nameLanguage := by
  refine ⟨fun s i => ⟨checkName_iff, exists_checkName_error i⟩,
    fun s i => ⟨checkEnumValueName_eq_ok.trans (and_congr_left' checkName_iff),
      exists_checkEnumValueName_error i⟩, fun st reached s same n => ?_⟩
  have all : ∀ d, s.def? n = some d → d.labels.AreChecked := fun d defined => by
    have there : d ∈ s.defs := List.mem_of_getElem? defined
    rw [same] at there
    exact (reached.all (p := checked)).viewedDefs d there
  refine ⟨?_, ?_, ?_⟩
  · rintro ⟨d, defined, place⟩
    have named : IsNameText n.name.toList := congrArg NamedType.name place ▸ (all d defined).name
    refine ⟨isNameText_iff.1 named, fun t text shown same => ?_⟩
    cases shown
    have alike : t.text = n.name := Except.ok.inj same
    obtain ⟨m, rfl⟩ := Ty.named_of_text (alike ▸ named.continues)
    exact ⟨m, rfl, alike⟩
  · intro u hu
    obtain ⟨named, free⟩ := enumValues_names all hu
    exact ⟨isNameText_iff.1 named, free⟩
  · intro fields found f hf
    exact isNameText_iff.1 (fields_names all found f hf)

end Session

/-- Requests that define an enum, define an input object whose fields a function gives, and ask for these fields. -/
def paintRequests : List Request := [
  { operation := .define .enum
    arguments := [.data (.str "Color"), .list [.data (.str "RED")]]
    result := some "Color" },
  { operation := .define .inputObject
    arguments := [.data (.str "Paint"), .delayed (.mapping [(.data (.str "color"), .named "Color")])]
    result := some "Paint" },
  { operation := .object .get, arguments := [.named "Paint", .data (.str "fields")] }]

/-- The session after these requests. -/
def paintSession : Session := Session.new.run paintRequests

theorem paintSession_isReached : paintSession.IsReached := ⟨paintRequests, rfl⟩

/-- The enum and its value have names, and so have the input object and its field. No line break can come after a
name, and no other type is printed like the enum. -/
theorem names_match_paint :
    (∃ f, checkName (.str "RED\n") = .error f ∧ f.cls = .graphql) ∧
    (∀ t, (Value.type t).display = .ok "Color" → ∃ m, t = .named m) ∧
    (∃ u ∈ paintSession.schema.enumValues ⟨5, "Color", .enum, 100⟩,
      u.1 = "RED" ∧ u.1.toList ∈ nameLanguage ∧ u.1 ∉ ["true", "false", "null"]) ∧
    ∃ f fields, (paintSession.schema.fields ⟨6, "Paint", .inputObject, 106⟩).result = .ok (f :: fields) ∧
      f.1 = "color" ∧ f.1.toList ∈ nameLanguage := by
  obtain ⟨names, -, sessions⟩ := Session.names_match
  have color := sessions paintSession paintSession_isReached paintSession.schema rfl ⟨5, "Color", .enum, 100⟩
  have paint := sessions paintSession paintSession_isReached paintSession.schema rfl ⟨6, "Paint", .inputObject, 106⟩
  refine ⟨?_, ?_, ?_, ?_⟩
  · refine (names "RED\n" 0).2 fun mem => ?_
    have continues := (isNameText_iff.2 mem).continues '\n' (by decide)
    cases continues
  · intro t shown
    have defined : (paintSession.schema.def? ⟨5, "Color", .enum, 100⟩).map (·.typeAt 5) =
        some ⟨5, "Color", .enum, 100⟩ := by decide +kernel
    obtain ⟨d, found, place⟩ := Option.map_eq_some_iff.1 defined
    obtain ⟨m, named, -⟩ := (color.1 ⟨d, found, place⟩).2 t "Color" rfl shown
    exact ⟨m, named⟩
  · have values : (paintSession.schema.enumValues ⟨5, "Color", .enum, 100⟩).map Prod.fst = ["RED"] := by
      decide +kernel
    obtain ⟨u, others, eq, red, -⟩ := List.map_eq_cons_iff.1 values
    have mem : u ∈ paintSession.schema.enumValues ⟨5, "Color", .enum, 100⟩ := eq ▸ List.mem_cons_self ..
    exact ⟨u, mem, red, color.2.1 u mem⟩
  · have names : (paintSession.schema.fields ⟨6, "Paint", .inputObject, 106⟩).result.toOption.map
        (·.map Prod.fst) = some ["color"] := by decide +kernel
    cases found : (paintSession.schema.fields ⟨6, "Paint", .inputObject, 106⟩).result with
    | error f =>
      rw [found] at names
      cases names
    | ok fields =>
      rw [found] at names
      obtain ⟨f, others, rfl, name, -⟩ := List.map_eq_cons_iff.1 (Option.some.inj names)
      exact ⟨f, others, rfl, name, paint.2.2 _ found f (List.mem_cons_self ..)⟩

end QueryDefaults
