import QueryDefaults.Proofs.Closure
import QueryDefaults.Proofs.Reference
import QueryDefaults.Types.Define

/-!
The notation of types. A type that a reference resolves to is written like the reference: a name inside
brackets and in front of exclamation marks. No name has any of these characters in it, since all definitions
check their names (`TypeDef.IsDefined.named`), so a notation can be read in one way only
(`TypeRef.text_injective`), and two references that are resolved with one registry give equal types exactly
if they are written alike (`Schema.resolved_equals_iff`).
-/

namespace QueryDefaults

/-! ### Names of types -/

/-- A text that begins with the mark begins with a half, or with the mark itself. -/
theorem Text.points_mark (cs : List Char) :
    ∃ p rest, points (mark :: cs) = p :: rest ∧ (p = .char mark ∨ ∃ i, p = .half i) := by
  cases cs with
  | nil => exact ⟨_, _, rfl, .inl rfl⟩
  | cons d cs =>
    rw [points, if_pos rfl]
    cases privateHalf? d with
    | none => exact ⟨_, _, rfl, .inl rfl⟩
    | some i => exact ⟨_, _, rfl, .inr ⟨i, rfl⟩⟩

/-- If all code points of a text pass a test that the mark does not pass, all of its characters do. -/
theorem Text.forall_chars {test : Char → Bool} (unmarked : test mark = false) : ∀ {cs : List Char},
    (∀ p ∈ points cs, p.holds test = true) → ∀ c ∈ cs, test c = true
  | [], _ => List.forall_mem_nil _
  | c :: cs, h => by
    by_cases marked : c = mark
    · obtain ⟨p, rest, eq, char | ⟨i, half⟩⟩ := points_mark cs
      all_goals
        have passes := h p (by rw [marked, eq]; exact List.mem_cons_self ..)
        subst p
        simp [Point.holds, unmarked] at passes
    · rw [points_cons marked] at h
      obtain ⟨first, rest⟩ := List.forall_mem_cons.1 h
      exact List.forall_mem_cons.2 ⟨first, forall_chars unmarked rest⟩

/-- Whether a text can be the name of a type: there is a value that passes as this name. -/
def IsTypeName (name : String) : Prop := ∃ v, checkName v = .ok name

/-- A name has none but the characters of names. -/
theorem IsTypeName.chars {name : String} (h : IsTypeName name) :
    ∀ c ∈ name.toList, isNameContinue c = true := by
  obtain ⟨v, passes⟩ := h
  unfold checkName at passes
  split at passes
  · cases passes
  · next s _ =>
    split at passes
    · cases passes
    · next p ps points =>
      split at passes
      · cases passes
      · next rest =>
        split at passes
        · cases passes
        · next first =>
          obtain rfl : s = name := Except.ok.inj passes
          simp only [Bool.not_eq_true', Bool.not_eq_false, List.all_eq_true] at rest first
          refine Text.forall_chars (by decide) fun q mem => ?_
          rw [← Text.pointsOf, points] at mem
          rcases List.mem_cons.1 mem with rfl | later
          · cases q <;> simp_all [Text.Point.holds, isNameContinue]
          · exact rest q later
  · cases passes

/-- The brackets and the exclamation mark are not in a name. -/
theorem IsTypeName.unwrapped {name : String} (h : IsTypeName name) :
    '[' ∉ name.toList ∧ '!' ∉ name.toList :=
  ⟨fun mem => absurd (h.chars _ mem) (by decide), fun mem => absurd (h.chars _ mem) (by decide)⟩

/-- Whether a definition was made by one of the functions that define types, or is built in. -/
inductive TypeDef.IsDefined (s : Schema) : TypeDef → Prop where
  | builtin {d : TypeDef} (mem : d ∈ builtinDefs) : IsDefined s d
  | scalar {name onValue onLiteral description extensions : Value} {d : TypeDef}
      (made : defineScalar name onValue onLiteral description extensions = .ok d) : IsDefined s d
  | enum {name values description extensions : Value} {d : TypeDef}
      (made : (s.defineEnum name values description extensions).result = .ok d) : IsDefined s d
  | inputObject {name fields description extensions : Value} {d : TypeDef}
      (made : defineInputObject name fields description extensions = .ok d) : IsDefined s d
  | other {name description extensions : Value} {d : TypeDef}
      (made : defineOther name description extensions = .ok d) : IsDefined s d

/-- The name of a definition was checked, whatever it defines. -/
theorem TypeDef.IsDefined.named {s : Schema} {d : TypeDef} (h : d.IsDefined s) : IsTypeName d.name := by
  cases h with
  | builtin mem =>
    simp only [builtinDefs, List.mem_cons, List.not_mem_nil, or_false] at mem
    rcases mem with rfl | rfl | rfl | rfl | rfl
    · exact ⟨.str "String", rfl⟩
    · exact ⟨.str "Int", rfl⟩
    · exact ⟨.str "Float", rfl⟩
    · exact ⟨.str "Boolean", rfl⟩
    · exact ⟨.str "ID", rfl⟩
  | scalar made =>
    obtain ⟨owner, passes, rest⟩ := exists_of_bind_ok made
    obtain ⟨onValue, _, rest⟩ := exists_of_bind_ok rest
    obtain ⟨onLiteral, _, rest⟩ := exists_of_bind_ok rest
    cases rest
    exact ⟨_, passes⟩
  | enum made =>
    obtain ⟨owner, passes, rest⟩ := Traced.bind_result_ok made
    obtain ⟨entries, _, rest⟩ := Traced.bind_result_ok rest
    obtain ⟨values, _, rest⟩ := Traced.bind_result_ok rest
    cases rest
    exact ⟨_, passes⟩
  | inputObject made =>
    obtain ⟨owner, passes, rest⟩ := exists_of_bind_ok made
    cases rest
    exact ⟨_, passes⟩
  | other made =>
    obtain ⟨owner, passes, rest⟩ := exists_of_bind_ok made
    cases rest
    exact ⟨_, passes⟩

namespace Schema

/-- Whether all definitions have names of types. -/
def IsNamed (s : Schema) : Prop := ∀ d ∈ s.defs, IsTypeName d.name

/-- A schema stays named with one more definition. -/
theorem IsNamed.define {s : Schema} (h : s.IsNamed) {d : TypeDef} (defined : d.IsDefined s) :
    IsNamed { s with defs := s.defs ++ [d] } :=
  List.forall_mem_append.2 ⟨h, List.forall_mem_singleton.2 defined.named⟩

/-- A schema stays named when it remembers fields. -/
theorem IsNamed.after {α : Type} {s : Schema} (h : s.IsNamed) (t : Traced α) : (s.after t).IsNamed := by
  intro e mem
  obtain ⟨i, bound, rfl⟩ := List.mem_iff_getElem.1 mem
  have before : i < s.defs.length := after_length t ▸ bound
  have defined : s.def? (s.defs[i].typeAt i) = some s.defs[i] := List.getElem?_eq_getElem before
  obtain ⟨e, there, settles, _⟩ := after_settles t defined
  obtain rfl : (s.after t).defs[i] = e := Option.some.inj ((List.getElem?_eq_getElem bound).symm.trans there)
  have same : (s.after t).defs[i].name = s.defs[i].name := congrArg NamedType.name (settles.typeAt i)
  rw [same]
  exact h _ (List.getElem_mem before)

/-- The types of a registry have names of types. -/
theorem Makes.isTypeName {s : Schema} {given : Value} {ts : List Ty} {types : List NamedType}
    (h : s.Makes given ts types) (named : s.IsNamed) {n : NamedType} (hn : n ∈ types) :
    IsTypeName n.name := by
  obtain ⟨d, there, same⟩ := h.registers.defined n hn
  rw [← same]
  exact named d (List.mem_of_getElem? there)

/-- A reference that stands for a type of a registry ends in the name of a type. -/
theorem Makes.name_of_type? {s : Schema} {given : Value} {ts : List Ty} {types : List NamedType}
    (h : s.Makes given ts types) (named : s.IsNamed) {r : TypeRef} {t : Ty} (ht : r.type? types = some t) :
    IsTypeName r.name := by
  have known := TypeRef.type?_registered ht
  obtain ⟨mem, same⟩ := (registered?_eq_some_iff h.search.2).1 known
  exact same ▸ h.isTypeName named mem

end Schema

/-! ### Reading a notation -/

/-- What stands around a type. -/
inductive Wrapper where
  | list
  | nonNull
  deriving DecidableEq, Repr

namespace TypeRef

/-- What stands around the name of a reference, from the outside inwards. -/
def wrappers : TypeRef → List Wrapper
  | named _ => []
  | list r => .list :: r.wrappers
  | nonNull r => .nonNull :: r.wrappers

/-- A reference is what stands around a name, and the name. -/
theorem eq_of_wrappers : ∀ {r q : TypeRef}, r.wrappers = q.wrappers → r.name = q.name → r = q
  | named _, named _, _, same => congrArg named same
  | list _, list _, around, same => congrArg list (eq_of_wrappers (List.cons.inj around).2 same)
  | nonNull _, nonNull _, around, same => congrArg nonNull (eq_of_wrappers (List.cons.inj around).2 same)
  | named _, list _, around, _ | named _, nonNull _, around, _ | list _, named _, around, _
  | list _, nonNull _, around, _ | nonNull _, named _, around, _ | nonNull _, list _, around, _ => by
    simp [wrappers] at around

/-- A list ends in a bracket, and a non-null in an exclamation mark. -/
theorem text_list_ne {r q : TypeRef} : (list r).text ≠ (nonNull q).text := by
  intro same
  have last := congrArg (fun t => t.toList.getLast?) same
  simp only [text, String.toList_append, List.getLast?_append] at last
  cases last

/-- A notation can be read in one way only. The induction is on the one reference; the other one has the
same mark outermost, because a name has neither of the two and a text ends in one character. -/
theorem text_injective : ∀ {r q : TypeRef}, IsTypeName r.name → IsTypeName q.name → r.text = q.text → r = q
  | named _, named _, _, _, same => congrArg named same
  | named n, list q, bare, _, same => by
    refine absurd ?_ bare.unwrapped.1
    rw [name, show n = (list q).text from same]
    simp [text]
  | named n, nonNull q, bare, _, same => by
    refine absurd ?_ bare.unwrapped.2
    rw [name, show n = (nonNull q).text from same]
    simp [text]
  | list r, named n, _, bare, same => by
    refine absurd ?_ bare.unwrapped.1
    rw [name, show n = (list r).text from same.symm]
    simp [text]
  | nonNull r, named n, _, bare, same => by
    refine absurd ?_ bare.unwrapped.2
    rw [name, show n = (nonNull r).text from same.symm]
    simp [text]
  | list _, nonNull _, _, _, same => absurd same text_list_ne
  | nonNull _, list _, _, _, same => absurd same.symm text_list_ne
  | list r, list q, here, there, same => by
    rw [text, text, String.append_left_inj, String.append_right_inj] at same
    exact congrArg list (text_injective here there same)
  | nonNull r, nonNull q, here, there, same => by
    rw [text, text, String.append_left_inj] at same
    exact congrArg nonNull (text_injective here there same)

variable {types : List NamedType}

/-- A type that a reference stands for is without numbers. -/
theorem type?_plain : ∀ {r : TypeRef} {t : Ty}, r.type? types = some t → t.plain = t
  | named _, _, h => by
    obtain ⟨n, _, rfl⟩ := Option.map_eq_some_iff.1 h
    rfl
  | list _, _, h => by
    obtain ⟨t, ht, rfl⟩ := Option.map_eq_some_iff.1 h
    rw [Ty.plain, type?_plain ht]
  | nonNull _, _, h => by
    obtain ⟨t, ht, rfl⟩ := Option.map_eq_some_iff.1 h
    rw [Ty.plain, type?_plain ht]

end TypeRef

/-- A reference that resolves to a type is one that stands for it. -/
theorem Value.IsTypeNode.type?_of_resolve {s : Schema} {types : List NamedType} {mapId id : Nat} {v : Value}
    {r : TypeRef} {t : Ty} (h : v.IsTypeNode r)
    (found : (s.resolve (.registry types mapId id) v).result = .ok (.type t)) : r.type? types = some t := by
  rw [h.resolve, TypeRef.meaning] at found
  cases type : r.type? types with
  | none =>
    rw [type] at found
    cases found
  | some u =>
    cases doubled : r.doubled? with
    | none =>
      rw [type, doubled] at found
      cases found
      rfl
    | some inner =>
      rw [type, doubled] at found
      cases found

/-! ### Equal types -/

/-- Two types that references resolve to with one registry, at whatever time, are equal exactly if they are
shown by the same text, and that is so exactly if the references have the same wrappers around the same
name. Equal types have one digest. -/
theorem Schema.resolved_equals_iff {s : Schema} {given : Value} {ts : List Ty} {types : List NamedType}
    (h : s.Makes given ts types) (named : s.IsNamed) {v w : Value} {r q : TypeRef} (hv : v.IsTypeNode r)
    (hw : w.IsTypeNode q) {early late : Schema} {mapId id : Nat} {t u : Ty}
    (ht : (early.resolve (.registry types mapId id) v).result = .ok (.type t))
    (hu : (late.resolve (.registry types mapId id) w).result = .ok (.type u)) :
    ∃ x y, (Value.type t).display = .ok x ∧ (Value.type u).display = .ok y ∧
      ((Value.type t).equals (.type u) = .ok true ↔ x = y) ∧
      (x = y ↔ r.wrappers = q.wrappers ∧ r.name = q.name) ∧
      ((Value.type t).equals (.type u) = .ok true →
        ∃ d, (Value.type t).digest = .ok d ∧ (Value.type u).digest = .ok d) := by
  have typeV := hv.type?_of_resolve ht
  have typeW := hw.type?_of_resolve hu
  have equal : (Value.type t).equals (.type u) = .ok true ↔ t = u := by
    have compared : (Value.type t).equals (.type u) = .ok (t.plain == u.plain) := rfl
    rw [compared, TypeRef.type?_plain typeV, TypeRef.type?_plain typeW]
    simp
  -- the text of a type is that of its reference, which can be read back
  have read : t.text = u.text ↔ r = q := by
    rw [TypeRef.type?_text typeV, TypeRef.type?_text typeW]
    exact ⟨TypeRef.text_injective (h.name_of_type? named typeV) (h.name_of_type? named typeW),
      congrArg TypeRef.text⟩
  refine ⟨t.text, u.text, rfl, rfl, equal.trans ⟨congrArg Ty.text, fun same => ?_⟩,
    read.trans ⟨?_, fun same => TypeRef.eq_of_wrappers same.1 same.2⟩, fun same => ?_⟩
  · rw [read.1 same] at typeV
    exact Option.some.inj (typeV.symm.trans typeW)
  · rintro rfl
    exact ⟨rfl, rfl⟩
  · rw [equal.1 same]
    exact ⟨.type u.plain, rfl, rfl⟩

/-- All definitions of the circle have names. -/
theorem circleSchema_isNamed : circleSchema.IsNamed := by
  refine List.forall_mem_append.2 ⟨fun d mem => (TypeDef.IsDefined.builtin (s := circleSchema) mem).named, ?_⟩
  simp only [List.forall_mem_cons]
  exact ⟨⟨.str "Left", rfl⟩, ⟨.str "Right", rfl⟩, List.forall_mem_nil _⟩

/-- What a reference to the one type of the circle resolves to: a list of non-nulls of it. -/
theorem circleTypes_list :
    (circleSchema.resolve (.registry circleTypes 0 0)
      (TypeRef.list (.nonNull (.named "Left"))).node).result =
      .ok (.type (.list (.nonNull (.named leftType)))) :=
  (TypeRef.node_isTypeNode _).resolve

/-- What another one resolves to, with one more non-null around it. -/
theorem circleTypes_nonNull :
    (circleSchema.resolve (.registry circleTypes 0 0)
      (TypeRef.nonNull (.list (.nonNull (.named "Left")))).node).result =
      .ok (.type (.nonNull (.list (.nonNull (.named leftType))))) :=
  (TypeRef.node_isTypeNode _).resolve

/-- The one is equal to itself with one digest when it is resolved again; the two are shown by different
texts, and are not equal. -/
theorem circleTypes_equals :
    (Value.type (.list (.nonNull (.named leftType)))).equals
      (.type (.list (.nonNull (.named leftType)))) = .ok true ∧
    (∃ x y, (Value.type (.list (.nonNull (.named leftType)))).display = .ok x ∧
      (Value.type (.nonNull (.list (.nonNull (.named leftType))))).display = .ok y ∧ x ≠ y) ∧
    (Value.type (.list (.nonNull (.named leftType)))).equals
      (.type (.nonNull (.list (.nonNull (.named leftType))))) ≠ .ok true := by
  have left := TypeRef.node_isTypeNode (.list (.nonNull (.named "Left")))
  have around := TypeRef.node_isTypeNode (.nonNull (.list (.nonNull (.named "Left"))))
  obtain ⟨_, _, _, _, shown, alike, _⟩ := Schema.resolved_equals_iff circleSchema_makes
    circleSchema_isNamed left left circleTypes_list circleTypes_list
  obtain ⟨x, y, hx, hy, apart, unlike, _⟩ := Schema.resolved_equals_iff circleSchema_makes
    circleSchema_isNamed left around circleTypes_list circleTypes_nonNull
  have differ : x ≠ y := fun same => absurd (unlike.1 same).1 (by decide)
  exact ⟨shown.2 (alike.2 ⟨rfl, rfl⟩), ⟨x, y, hx, hy, differ⟩, fun equal => differ (apart.1 equal)⟩

end QueryDefaults
