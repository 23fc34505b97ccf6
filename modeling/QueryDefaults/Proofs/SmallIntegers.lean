import QueryDefaults.Proofs.Remembered
import QueryDefaults.Proofs.Spelled
import QueryDefaults.Proofs.Variables

/-!
Integers of 32 bits. The scalar `Int` reads the text of an int literal as an integer of any size and accepts the
integer if it has 32 bits (`Schema.coerceLiteral_int`). A text that is read as no integer fails, one out of the
range gives `undefined`, and both come out as a rejection without a message. The decimal text of an integer
with 32 bits has few digits, so it is read (`readInt?_toString`); that of an integer with too many digits is not,
but then the integer is out of the range anyway. So literals and native values are taken up to the very same
bounds (`Schema.int_bounds`).
-/

namespace QueryDefaults

/-! ### The range -/

/-- Whether an integer has 32 bits with its sign: it is at least -2³¹ and less than 2³¹. -/
abbrev IsSmall (n : Int) : Prop := -2147483648 ≤ n ∧ n ≤ 2147483647

theorem isIntRange_iff {n : Int} : isIntRange n = true ↔ IsSmall n := by
  rw [isIntRange, Bool.and_eq_true, decide_eq_true_eq, decide_eq_true_eq, minInt, maxInt]

/-- An integer with 32 bits has at most ten digits. -/
theorem IsSmall.few {n : Int} (h : IsSmall n) :
    (Nat.toDigits 10 n.natAbs).length ≤ Numeral.digitLimit := by
  have ten : (Nat.toDigits 10 n.natAbs).length ≤ 10 := by
    refine (Nat.length_toDigits_le_iff (b := 10) (by decide) (by decide)).2 ?_
    obtain ⟨low, high⟩ := h
    have size : n.natAbs ≤ 2 ^ 31 := by omega
    exact Nat.lt_of_le_of_lt size (by decide)
  exact Nat.le_trans ten (by decide)

/-- The decimal text of an integer is read as this integer, unless it has too many digits. -/
theorem readInt?_toString (n : Int) : Numeral.readInt? (toString n) =
    if (Nat.toDigits 10 n.natAbs).length ≤ Numeral.digitLimit then some n else none := by
  rw [(toString_isNumeral n).readInt?, signed_natAbs]

/-! ### What is made of an integer -/

/-- What comes of the integer that a text is read as, if it is read as one. -/
def smallOutcome : Option Int → Outcome
  | some n => if IsSmall n then .accepted (.int n) else .rejected .null
  | none => .rejected .null

/-- What is not read because it has too many digits is too large in any case. -/
theorem smallOutcome_readInt? (n : Int) :
    smallOutcome (Numeral.readInt? (toString n)) = smallOutcome (some n) := by
  rw [readInt?_toString]
  by_cases few : (Nat.toDigits 10 n.natAbs).length ≤ Numeral.digitLimit
  · rw [if_pos few]
  · have large : ¬ IsSmall n := fun small => few small.few
    rw [if_neg few, smallOutcome, smallOutcome, if_neg large]

/-- The integer is taken if it has 32 bits, a text that is read as none is refused. -/
theorem Scalar.intLiteral_eq {n : Node} {text : String} {i : Nat} (goesBy : n.GoesBy .intValue)
    (value : n.attrs.lookup "value" = some (.str text i)) : Scalar.intLiteral (.node n) =
      match Numeral.readInt? text with
      | some k => .ok (if IsSmall k then .int k else .undefined)
      | none => .error .unreadable := by
  rw [Scalar.intLiteral, literalOf_stored goesBy value (by decide)]
  cases read : Numeral.readInt? text with
  | none =>
    rw [Value.toInt, read]
    rfl
  | some k =>
    have toInt : (Value.str text i).toInt = .ok k := by rw [Value.toInt, read]
    have asInt : (Value.str text i).asInt = .ok (.int k) := congrArg (Except.map fun k => Value.int k) toInt
    rw [toInt, ok_bind, asInt]
    by_cases small : IsSmall k
    · rw [if_pos (isIntRange_iff.2 small)]
      simp only [if_pos small]
    · rw [if_neg (isIntRange_iff.not.2 small)]
      simp only [if_neg small]
      rfl

theorem Scalar.intLiteral_outside {v : Value} (other : v.isA .intValue = false) :
    Scalar.intLiteral v = .ok .undefined := by
  cases v with
  | node n =>
    have outside : [Kind.intValue].contains n.kind.library = false := by simpa [Value.isA] using other
    rw [Scalar.intLiteral, literalOf, storedValue, outside]
    rfl
  | _ => rfl

/-! ### The scalar -/

/-- The scalar `Int`. -/
def intType : NamedType := ⟨1, "Int", .scalar, constant⟩

namespace Schema

variable {s : Schema} {rest : List TypeDef}

/-- What the function for literals gives without a failure is what the scalar makes of the literal. -/
theorem coerceLiteral_made {n : NamedType} {v r : Value} (made : s.onLiteral n v = .ok r) :
    (s.coerceLiteral (.type (.named n)) v).result = .ok (outcomeRecord r) := by
  have result := s.outcome_onLiteral n v
  rw [made] at result
  rw [coerceLiteral, Traced.result_tryCatch_ok result]

theorem intType_defined (defs : s.defs = builtinDefs ++ rest) :
    s.def? intType = some (builtinScalar 1 "Int" intDescription .int .intLiteral) := by
  rw [def?, defs]
  rfl

/-- An int literal is accepted or rejected by the integer that it is read as. -/
theorem coerceLiteral_int (defs : s.defs = builtinDefs ++ rest) {v : Value} {text : String}
    (form : v.HasForm (.int text)) : (s.coerceLiteral (.type (.named intType)) v).result =
      .ok (smallOutcome (Numeral.readInt? text)).toValue := by
  have printed := form.print
  cases form with
  | @int n _ i goesBy value =>
    have given := onLiteral_builtin (intType_defined defs) (.node n)
    rw [BuiltinFunction.coerce, Scalar.intLiteral_eq goesBy value] at given
    cases read : Numeral.readInt? text with
    | none =>
      rw [read] at given
      exact coerceLiteral_failure (builtin_defined defs intType (by decide)) ⟨_, printed⟩ given rfl
    | some k =>
      rw [read] at given
      rw [coerceLiteral_made given, smallOutcome]
      by_cases small : IsSmall k
      · rw [if_pos small, if_pos small]
        rfl
      · rw [if_neg small, if_neg small]
        rfl

/-- What is no int literal is rejected. -/
theorem coerceLiteral_noInt (defs : s.defs = builtinDefs ++ rest) {v : Value}
    (other : v.isA .intValue = false) : (s.coerceLiteral (.type (.named intType)) v).result =
      .ok (Outcome.rejected .null).toValue := by
  have given := onLiteral_builtin (intType_defined defs) v
  rw [BuiltinFunction.coerce, Scalar.intLiteral_outside other] at given
  rw [coerceLiteral_made given]
  rfl

/-- The scalar `Int` accepts the literal of an integer of any size, with this integer, if it has 32 bits, and
rejects it without a message if not; it also rejects an int literal that is read as no integer, and every other
literal. No failure leaves the coercion of a literal. As a native value an integer is taken, as the object that
it is, within the same bounds, and refused outside of them. -/
theorem int_bounds (defs : s.defs = builtinDefs ++ rest) :
    (∀ (n : Int) (v : Value), v.HasForm (.int (toString n)) →
      (s.coerceLiteral (.type (.named intType)) v).result = .ok (Outcome.toValue
        (if -2147483648 ≤ n ∧ n ≤ 2147483647 then .accepted (.int n) else .rejected .null))) ∧
    (∀ (text : String) (v : Value), v.HasForm (.int text) → Numeral.readInt? text = none →
      (s.coerceLiteral (.type (.named intType)) v).result = .ok (Outcome.rejected .null).toValue) ∧
    (∀ v : Value, v.isA .intValue = false →
      (s.coerceLiteral (.type (.named intType)) v).result = .ok (Outcome.rejected .null).toValue) ∧
    (∀ (v : Value) (f : Form), v.HasForm f →
      ∃ o : Outcome, (s.coerceLiteral (.type (.named intType)) v).result = .ok o.toValue) ∧
    ∀ (n : Int) (i : Nat), s.onValue intType (.int n i) =
      if -2147483648 ≤ n ∧ n ≤ 2147483647 then .ok (.int n i) else .error (.refused .smallNumber (.int n i)) := by
  refine ⟨fun n v form => ?_, fun text v form unread => ?_, fun v other => coerceLiteral_noInt defs other,
    fun v f form => ?_, fun n i => ?_⟩
  · rw [coerceLiteral_int defs form, smallOutcome_readInt?, smallOutcome]
  · rw [coerceLiteral_int defs form, unread]
    rfl
  · by_cases int : ∃ text, f = .int text
    · obtain ⟨text, rfl⟩ := int
      exact ⟨_, coerceLiteral_int defs form⟩
    · refine ⟨_, coerceLiteral_noInt defs ?_⟩
      obtain ⟨n, rfl, goesBy⟩ := form.goesBy
      rw [goesBy.isA]
      cases f with
      | int text => exact absurd ⟨text, rfl⟩ int
      | _ => rfl
  · rw [onValue_builtin (intType_defined defs), BuiltinFunction.coerce, Scalar.int]
    by_cases small : IsSmall n
    · rw [if_pos small]
      exact if_pos (isIntRange_iff.2 small)
    · rw [if_neg small]
      exact if_neg (isIntRange_iff.not.2 small)

/-- The greatest integer with 32 bits is accepted, the next one rejected, as is a numeral with one digit too
many. -/
theorem int_bounds_greatest :
    (treeSchema.coerceLiteral (.type (.named intType)) (.textNode .intValue "2147483647")).result =
      .ok (Outcome.accepted (.int 2147483647)).toValue ∧
    (treeSchema.coerceLiteral (.type (.named intType)) (.textNode .intValue "2147483648")).result =
      .ok (Outcome.rejected .null).toValue ∧
    (treeSchema.coerceLiteral (.type (.named intType)) (.textNode .intValue manyOnes)).result =
      .ok (Outcome.rejected .null).toValue ∧
    treeSchema.onValue intType (.int 2147483647) = .ok (.int 2147483647) := by
  obtain ⟨decimals, unread, _, _, native⟩ := int_bounds (s := treeSchema) rfl
  have form (text : String) : (Value.textNode .intValue text).HasForm (.int text) := .int ⟨rfl, rfl, rfl⟩ rfl
  refine ⟨decimals 2147483647 _ (form _), decimals 2147483648 _ (form _), unread _ _ (form _) ?_,
    native 2147483647 0⟩
  rw [manyOnes_isNumeral.readInt?, if_neg]
  rw [List.length_replicate]
  exact Nat.not_succ_le_self _

end Schema

end QueryDefaults
