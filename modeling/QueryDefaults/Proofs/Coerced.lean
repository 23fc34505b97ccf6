import QueryDefaults.Proofs.FirstFailure
import QueryDefaults.Proofs.Numerals

/-!
Literals and native values. A built-in scalar has one function for literals and one for native values, and a
literal has a native value without regard to any type. What the one function makes of a literal the other one
makes of its native value (`Schema.coercions_agree`), with two exceptions: an infinite double, which a literal
may be read as but no native value coerced to, and identifiers that are written as integers, which keep their
texts as literals, while the integer minus zero is written without its sign and one with too many digits is
not read at all.
-/

namespace QueryDefaults

/-! ### Literals that a function looks into -/

/-- The kind of the nodes that a form is written with. -/
def Form.kind : Form → Kind
  | null => .nullValue
  | boolean _ => .booleanValue
  | int _ => .intValue
  | float _ => .floatValue
  | string _ => .stringValue
  | enum _ => .enumValue
  | variableUse _ => .variableUse
  | list _ => .listValue
  | object _ => .objectValue

theorem Value.HasForm.goesBy {v : Value} {f : Form} (h : v.HasForm f) :
    ∃ n, v = .node n ∧ n.GoesBy f.kind := by
  cases h with
  | null kind => exact ⟨_, rfl, kind⟩
  | boolean kind _ => exact ⟨_, rfl, kind⟩
  | int kind _ => exact ⟨_, rfl, kind⟩
  | float kind _ => exact ⟨_, rfl, kind⟩
  | string kind _ => exact ⟨_, rfl, kind⟩
  | enum kind _ => exact ⟨_, rfl, kind⟩
  | variableUse kind _ _ => exact ⟨_, rfl, kind⟩
  | list kind _ _ _ => exact ⟨_, rfl, kind⟩
  | object kind _ _ _ _ => exact ⟨_, rfl, kind⟩

section LiteralOf

variable {kinds : List Kind} {g : Coerce}

/-- A literal of another kind is not looked into. -/
theorem literalOf_outside {v : Value} {f : Form} (form : v.HasForm f) (outside : f.kind ∉ kinds) :
    literalOf kinds g v = .ok .undefined := by
  obtain ⟨n, rfl, goesBy⟩ := form.goesBy
  have other : kinds.contains n.kind.library = false := by
    rw [goesBy.kind_library]
    simpa using outside
  rw [literalOf, storedValue, other]
  rfl

/-- A literal of one of the kinds goes by what it holds. -/
theorem literalOf_stored {n : Node} {k : Kind} {w : Value} (goesBy : n.GoesBy k)
    (value : n.attrs.lookup "value" = some w) (mem : k ∈ kinds) : literalOf kinds g (.node n) = g w := by
  have known : kinds.contains n.kind.library = true := by
    rw [goesBy.kind_library]
    simpa using mem
  rw [literalOf, storedValue, known, NodeOf.attr_of_lookup value]
  rfl

end LiteralOf

/-! ### Native values -/

section Native

variable {n : Node} {w : Value}

theorem native_int (goesBy : n.GoesBy .intValue) (value : n.attrs.lookup "value" = some w) :
    (Value.node n).native.result = orNaN w.asInt := by
  rw [Value.native, Traced.result_bind_ok (a := some Kind.intValue) goesBy.role]
  exact Traced.result_bind_ok (NodeOf.attr_of_lookup value) _

theorem native_float (goesBy : n.GoesBy .floatValue) (value : n.attrs.lookup "value" = some w) :
    (Value.node n).native.result = orNaN w.asDouble := by
  rw [Value.native, Traced.result_bind_ok (a := some Kind.floatValue) goesBy.role]
  exact Traced.result_bind_ok (NodeOf.attr_of_lookup value) _

/-- A string or a boolean is stored as its native value. -/
theorem native_stored {k : Kind} (stored : k = .stringValue ∨ k = .booleanValue) (goesBy : n.GoesBy k)
    (value : n.attrs.lookup "value" = some w) : (Value.node n).native.result = .ok w := by
  rw [Value.native, Traced.result_bind_ok (a := some k) goesBy.role]
  rcases stored with rfl | rfl
  · exact NodeOf.attr_of_lookup value
  · exact NodeOf.attr_of_lookup value

end Native

/-! ### The built-in scalars, one by one -/

/-- Whether a function makes of the native value of a literal what is equal to a given value. -/
def Reproduces (onValue : Coerce) (v x : Value) : Prop :=
  ∃ w y, v.native.result = .ok w ∧ onValue w = .ok y ∧ y.equals x = .ok true

section Scalars

variable {v x : Value} {f : Form}

/-- What makes something of a literal looks into it. -/
theorem mem_of_literalOf {kinds : List Kind} {g : Coerce} (form : v.HasForm f)
    (gives : literalOf kinds g v = .ok x) (made : x ≠ .undefined) : f.kind ∈ kinds := by
  by_contra outside
  rw [literalOf_outside form outside] at gives
  exact made (Except.ok.inj gives).symm

/-- A function that keeps what is stored gives it back. -/
theorem reproduces_stored {onValue : Coerce} {n : Node} {k : Kind} {w : Value}
    (stored : k = .stringValue ∨ k = .booleanValue) (goesBy : n.GoesBy k)
    (value : n.attrs.lookup "value" = some w) (keeps : onValue w = .ok w) (same : w.equals w = .ok true) :
    Reproduces onValue (.node n) w :=
  ⟨w, w, native_stored stored goesBy value, keeps, same⟩

theorem Value.equals_text (text : String) (i j : Nat) :
    (Value.str text i).equals (.str text j) = .ok true := by
  simp [Value.equals, Value.isText]
  rfl

theorem Scalar.string_reproduces (form : v.HasForm f) (gives : Scalar.stringLiteral v = .ok x)
    (made : x ≠ .undefined) : Reproduces Scalar.string v x := by
  have kind := mem_of_literalOf form gives made
  cases form with
  | string goesBy value =>
    rw [Scalar.stringLiteral, literalOf_stored goesBy value (by decide)] at gives
    cases gives
    exact reproduces_stored (.inl rfl) goesBy value rfl (Value.equals_text ..)
  | _ => simp [Form.kind] at kind

theorem Scalar.boolean_reproduces (form : v.HasForm f) (gives : Scalar.booleanLiteral v = .ok x)
    (made : x ≠ .undefined) : Reproduces Scalar.boolean v x := by
  have kind := mem_of_literalOf form gives made
  cases form with
  | boolean goesBy value =>
    rw [Scalar.booleanLiteral, literalOf_stored goesBy value (by decide)] at gives
    cases gives
    exact reproduces_stored (.inr rfl) goesBy value rfl (congrArg Except.ok BEq.rfl)
  | _ => simp [Form.kind] at kind

/-- The literal and the native value are read in the same way, and are checked for the same range. -/
theorem Scalar.int_reproduces (form : v.HasForm f) (gives : Scalar.intLiteral v = .ok x)
    (made : x ≠ .undefined) : Reproduces Scalar.int v x := by
  have kind := mem_of_literalOf form gives made
  cases form with
  | @int n text i goesBy value =>
    rw [Scalar.intLiteral, literalOf_stored goesBy value (by decide)] at gives
    cases read : (Value.str text i).toInt with
    | error fault =>
      rw [read] at gives
      cases gives
    | ok k =>
      have asInt : (Value.str text i).asInt = .ok (.int k) :=
        congrArg (Except.map fun k => Value.int k) read
      rw [read, ok_bind, asInt] at gives
      by_cases range : isIntRange k = true
      · rw [if_pos range] at gives
        cases gives
        refine ⟨.int k, .int k, ?_, if_pos range, congrArg Except.ok BEq.rfl⟩
        rw [native_int goesBy value, asInt]
        rfl
      · rw [if_neg range] at gives
        exact absurd (Except.ok.inj gives).symm made
  | _ => simp [Form.kind] at kind

/-- A text that is read as a double spells one. -/
theorem readDouble?_of_asDouble {text : String} {i : Nat} (read : (Value.str text i).asDouble = .ok x) :
    ∃ d, Numeral.readDouble? text = some d ∧ x = .float d := by
  have mapped : (Value.str text i).toDouble.map (fun d => Value.float d) = .ok x := read
  rw [Value.toDouble] at mapped
  cases spelled : Numeral.readDouble? text with
  | none =>
    rw [spelled] at mapped
    cases mapped
  | some d =>
    rw [spelled] at mapped
    cases mapped
    exact ⟨d, rfl, rfl⟩

/-- A double that is not infinite is kept as it is; where it is spelled as an integer, it is that of the
integer, up to the sign of zero. -/
theorem Scalar.float_reproduces (form : v.HasForm f) (lexical : f.IsLexical)
    (gives : Scalar.floatLiteral v = .ok x) (made : x ≠ .undefined)
    (finite : ∀ d i, x = .float d i → d.isFinite = true) : Reproduces Scalar.float v x := by
  have kind := mem_of_literalOf form gives made
  cases form with
  | float goesBy value =>
    rw [Scalar.floatLiteral, literalOf_stored goesBy value (by decide)] at gives
    obtain ⟨d, _, rfl⟩ := readDouble?_of_asDouble gives
    have bounded := finite d 0 rfl
    refine ⟨.float d, .float d, ?_, if_pos bounded, congrArg Except.ok (Double.equals_self bounded)⟩
    rw [native_float goesBy value, gives]
    rfl
  | @int n text i goesBy value =>
    rw [Scalar.floatLiteral, literalOf_stored goesBy value (by decide)] at gives
    obtain ⟨d, spelled, rfl⟩ := readDouble?_of_asDouble gives
    cases lexical with
    | int number =>
      obtain ⟨negative, ds, numeral⟩ := number.numeral
      obtain ⟨few, y, double, same⟩ := numeral.ofInt? spelled (finite d 0 rfl)
      have integer := numeral.asInt (Nat.le_trans few (by decide)) i
      refine ⟨_, .float y, by rw [native_int goesBy value, integer]; rfl, ?_, congrArg Except.ok same⟩
      exact congrArg (Except.map fun y => Value.float y) double
  | _ => simp [Form.kind] at kind

/-- A text is kept as it is, and an integer is written with the text that it was read from. -/
theorem Scalar.identifier_reproduces (form : v.HasForm f) (lexical : f.IsLexical)
    (gives : Scalar.identifierLiteral v = .ok x) (made : x ≠ .undefined)
    (plain : ∀ text, f = .int text →
      text ≠ "-0" ∧ Numeral.digitCount text ≤ Numeral.digitLimit) :
    Reproduces Scalar.identifier v x := by
  have kind := mem_of_literalOf form gives made
  cases form with
  | string goesBy value =>
    rw [Scalar.identifierLiteral, literalOf_stored goesBy value (by decide)] at gives
    cases gives
    exact reproduces_stored (.inl rfl) goesBy value rfl (Value.equals_text ..)
  | @int n text i goesBy value =>
    rw [Scalar.identifierLiteral, literalOf_stored goesBy value (by decide)] at gives
    cases gives
    cases lexical with
    | int number =>
      obtain ⟨negative, ds, numeral⟩ := number.numeral
      obtain ⟨nonzero, few⟩ := plain text rfl
      rw [numeral.digitCount] at few
      have integer := numeral.asInt few i
      refine ⟨_, .str text, by rw [native_int goesBy value, integer]; rfl, ?_, Value.equals_text ..⟩
      exact congrArg (Except.map fun digits => Value.str digits) (numeral.integerText few nonzero)
  | _ => simp [Form.kind] at kind

end Scalars

/-! ### The functions of a schema -/

/-- What the function of a scalar for values makes of a value. -/
def Schema.onValue (s : Schema) (n : NamedType) (w : Value) : Except Fault Value :=
  (do
    let onValue ← s.attr (.type (.named n)) "parse_value"
    s.applyTo onValue w : Traced Value).result

section Functions

variable {s : Schema} {n : NamedType} {index : Nat} {name description : String}
  {onValue onLiteral : BuiltinFunction}

theorem Schema.onValue_builtin
    (defined : s.def? n = some (builtinScalar index name description onValue onLiteral)) (w : Value) :
    s.onValue n w = onValue.coerce w := by
  have found : (s.attr (.type (.named n)) "parse_value").result = .ok (.builtin onValue) := by
    rw [Schema.attr, Schema.typeAttr, defined]
    rfl
  rw [Schema.onValue, Traced.result_bind_ok found]
  rfl

theorem Schema.reproduces
    (defined : s.def? n = some (builtinScalar index name description onValue onLiteral)) {v x : Value}
    (each : onLiteral.coerce v = .ok x → Reproduces onValue.coerce v x) (gives : s.onLiteral n v = .ok x) :
    ∃ w y, v.native.result = .ok w ∧ s.onValue n w = .ok y ∧ y.equals x = .ok true := by
  rw [Schema.onLiteral_builtin defined] at gives
  obtain ⟨w, y, native, again, same⟩ := each gives
  exact ⟨w, y, native, (Schema.onValue_builtin defined w).trans again, same⟩

end Functions

/-- What a built-in scalar makes of a literal, if it makes anything of it, it also makes of its native value, up
to equality: for the scalar `Float` as long as it is not infinite, and for the scalar `ID` as long as the
literal is no integer that is minus zero or has too many digits. -/
theorem Schema.coercions_agree {s : Schema} {rest : List TypeDef} (defs : s.defs = builtinDefs ++ rest)
    {n : NamedType} (hn : n ∈ builtinTypes) {v x : Value} {f : Form} (form : v.HasForm f)
    (lexical : f.IsLexical) (gives : s.onLiteral n v = .ok x) (made : x ≠ .undefined)
    (finite : ∀ d i, x = .float d i → d.isFinite = true)
    (plain : n.name = "ID" → ∀ text, f = .int text →
      text ≠ "-0" ∧ Numeral.digitCount text ≤ Numeral.digitLimit) :
    ∃ w y, v.native.result = .ok w ∧ s.onValue n w = .ok y ∧ y.equals x = .ok true := by
  simp only [builtinTypes, builtinDefs, List.zipIdx, List.map_cons, List.map_nil, List.mem_cons,
    List.not_mem_nil, or_false] at hn
  rcases hn with rfl | rfl | rfl | rfl | rfl
  · refine Schema.reproduces (Schema.def?_builtin defs rfl) (fun given => ?_) gives
    exact Scalar.string_reproduces form given made
  · refine Schema.reproduces (Schema.def?_builtin defs rfl) (fun given => ?_) gives
    exact Scalar.int_reproduces form given made
  · refine Schema.reproduces (Schema.def?_builtin defs rfl) (fun given => ?_) gives
    exact Scalar.float_reproduces form lexical given made finite
  · refine Schema.reproduces (Schema.def?_builtin defs rfl) (fun given => ?_) gives
    exact Scalar.boolean_reproduces form given made
  · refine Schema.reproduces (Schema.def?_builtin defs rfl) (fun given => ?_) gives
    exact Scalar.identifier_reproduces form lexical given made (plain rfl)

/-- The scalars `Float` and `ID`. -/
def floatType : NamedType := ⟨2, "Float", .scalar, constant⟩

@[inherit_doc floatType]
def identifierType : NamedType := ⟨4, "ID", .scalar, constant⟩

theorem areDigits_of_all {cs : List Char} (nonempty : cs ≠ []) (all : cs.all Char.isDigit = true) :
    AreDigits cs :=
  ⟨nonempty, List.all_eq_true.1 all⟩

/-- Minus seventeen is an identifier, and the same one if it is read as an integer. -/
theorem coercions_agree_negative : ∃ w y,
    (Value.textNode .intValue "-17").native.result = .ok w ∧ treeSchema.onValue identifierType w = .ok y ∧
      y.equals (.str "-17") = .ok true :=
  Schema.coercions_agree (s := treeSchema) rfl (by decide) (.int ⟨rfl, rfl, rfl⟩ rfl)
    (.int ⟨['-'], ['1', '7'], rfl, .inr rfl, areDigits_of_all nofun rfl, by decide⟩) rfl nofun nofun
    fun _ text same => by cases same; decide

/-! ### The exceptions -/

/-- Whether a scalar makes something of a literal but nothing that is equal of its native value. -/
def Schema.Differs (s : Schema) (n : NamedType) (v : Value) : Prop :=
  ∃ f x, v.HasForm f ∧ f.IsLexical ∧ s.onLiteral n v = .ok x ∧ x ≠ .undefined ∧
    ¬ ∃ w y, v.native.result = .ok w ∧ s.onValue n w = .ok y ∧ y.equals x = .ok true

/-- A numeral with one digit too many. -/
def manyOnes : String := String.ofList (List.replicate (Numeral.digitLimit + 1) '1')

theorem manyOnes_isNumeral : IsNumeral manyOnes false (List.replicate (Numeral.digitLimit + 1) '1') where
  text := String.toList_ofList
  digits := by
    refine ⟨by rw [List.replicate_succ]; exact List.cons_ne_nil _ _, fun c hc => ?_⟩
    rw [List.eq_of_mem_replicate hc]
    rfl
  canonical := by
    intro zero
    rw [List.replicate_succ] at zero
    cases zero

/-- Minus zero is another identifier than zero; what is too large for a double is infinite as a literal and
refused as a value; and a numeral with too many digits is an identifier of its own, but no integer. -/
theorem coercions_differ :
    treeSchema.Differs identifierType (.textNode .intValue "-0") ∧
    treeSchema.Differs floatType (.textNode .floatValue "1e999") ∧
    treeSchema.Differs identifierType (.textNode .intValue manyOnes) := by
  refine ⟨?_, ?_, ?_⟩
  · refine ⟨.int "-0", .str "-0", .int ⟨rfl, rfl, rfl⟩ rfl,
      .int ⟨['-'], ['0'], rfl, .inr rfl, areDigits_of_all nofun rfl, fun _ => rfl⟩, rfl, nofun, ?_⟩
    rintro ⟨w, y, native, again, same⟩
    have zero : (Value.textNode .intValue "-0").native.result = .ok (.int 0) :=
      (native_int (w := .str "-0") ⟨rfl, rfl, rfl⟩ rfl).trans rfl
    cases zero.symm.trans native
    have text : treeSchema.onValue identifierType (.int 0) = .ok (.str "0") := rfl
    cases text.symm.trans again
    cases same
  · refine ⟨.float "1e999", .float (.inf false), .float ⟨rfl, rfl, rfl⟩ rfl, .float ⟨['1'], [], ['e', '9', '9', '9'],
      rfl, ⟨[], ['1'], rfl, .inl rfl, areDigits_of_all nofun rfl, by decide⟩, .inl rfl,
      .inr ⟨'e', [], ['9', '9', '9'], rfl, .inl rfl, .inl rfl, areDigits_of_all nofun rfl⟩, by decide⟩, rfl, nofun, ?_⟩
    rintro ⟨w, y, native, again, same⟩
    have infinite : (Value.textNode .floatValue "1e999").native.result = .ok (.float (.inf false)) :=
      (native_float (w := .str "1e999") ⟨rfl, rfl, rfl⟩ rfl).trans rfl
    cases infinite.symm.trans native
    cases again
  · have integer : IsIntText manyOnes.toList :=
      ⟨[], _, manyOnes_isNumeral.text, .inl rfl, manyOnes_isNumeral.digits, manyOnes_isNumeral.canonical⟩
    refine ⟨.int manyOnes, .str manyOnes, .int ⟨rfl, rfl, rfl⟩ rfl, .int integer, rfl, nofun, ?_⟩
    rintro ⟨w, y, native, again, same⟩
    have unread : (Value.textNode .intValue manyOnes).native.result = .ok .notANumber := by
      refine (native_int (w := .str manyOnes) ⟨rfl, rfl, rfl⟩ rfl).trans ?_
      rw [manyOnes_isNumeral.asInt_unreadable (by rw [List.length_replicate]; exact Nat.lt_succ_self _)]
      rfl
    cases unread.symm.trans native
    cases again

end QueryDefaults
