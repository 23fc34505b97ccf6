import QueryDefaults.Proofs.Form
import QueryDefaults.Value.Convert

/-!
Integers as the language writes them, and how they are read. Such a numeral is a minus sign or none and
digits of ASCII without a zero before them (`IsNumeral`), so nothing has to be taken off before it is read. It
is read as an integer unless it has too many digits (`IsNumeral.readInt?`), and the integer is written with
the same text unless this is minus zero (`IsNumeral.integerText`). It is also read as a double; where this is
finite, the number has few digits and the double is that of the integer, up to the sign of zero
(`IsNumeral.ofInt?`).
-/

namespace QueryDefaults

/-! ### Digits -/

namespace Text

theorem digitValue?_of_isDigit {c : Char} (h : c.isDigit = true) :
    digitValue? c = some (c.toNat - '0'.toNat) := by
  obtain ⟨low, high⟩ : 0x30 ≤ c.toNat ∧ c.toNat ≤ 0x39 := Char.isDigit_iff_toNat.1 h
  simp [digitValue?, decimalZeros, low, Nat.lt_succ_of_le high]

theorem isBlank_of_isDigit {c : Char} (h : c.isDigit = true) : isBlank c = false := by
  obtain ⟨low, high⟩ : 0x30 ≤ c.toNat ∧ c.toNat ≤ 0x39 := Char.isDigit_iff_toNat.1 h
  have apart : ∀ r ∈ blankRuns, r.last < 0x30 ∨ 0x39 < r.first := by decide
  refine List.any_eq_false.2 fun r hr contained => ?_
  simp only [Run.contains, Bool.and_eq_true, decide_eq_true_eq] at contained
  have := apart r hr
  omega

/-- A text without white space stays as it is. -/
theorem trimBlanks_eq {cs : List Char} (h : ∀ c ∈ cs, isBlank c = false) : trimBlanks cs = cs := by
  have front : ∀ {ds : List Char}, (∀ c ∈ ds, isBlank c = false) → ds.dropWhile isBlank = ds := by
    intro ds hds
    cases ds with
    | nil => rfl
    | cons d ds => simp [hds d (List.mem_cons_self ..)]
  rw [trimBlanks, front h, front fun c hc => h c (List.mem_reverse.1 hc), List.reverse_reverse]

end Text

namespace Numeral

/-- What digits of ASCII stand for, one by one. -/
def digitValues (ds : List Char) : List Nat := ds.map fun c => c.toNat - '0'.toNat

/-- What digits of ASCII stand for together. -/
def natural (ds : List Char) : Nat := ofDigits (digitValues ds)

theorem digits_cons {c : Char} {ds : List Char} (digit : c.isDigit = true)
    (rest : ∀ d ∈ ds, d.isDigit = true) :
    digits (c :: ds) = ((c.toNat - '0'.toNat) :: (digits ds).1, (digits ds).2) := by
  rw [digits.eq_4]
  · rw [Text.digitValue?_of_isDigit digit]
  · rintro rfl
    cases digit
  · rintro d others rfl
    cases rest '_' (List.mem_cons_self ..)

/-- Digits of ASCII are read to the end. -/
theorem digits_eq : ∀ {ds : List Char}, (∀ d ∈ ds, d.isDigit = true) → digits ds = (digitValues ds, [])
  | [], _ => by
    rw [digits]
    rfl
  | c :: ds, h => by
    obtain ⟨digit, rest⟩ := List.forall_mem_cons.1 h
    rw [digits_cons digit rest, digits_eq rest]
    rfl

theorem toNat_lt {c : Char} (digit : c.isDigit = true) : c.toNat - '0'.toNat < 10 := by
  obtain ⟨_, high⟩ : 0x30 ≤ c.toNat ∧ c.toNat ≤ 0x39 := Char.isDigit_iff_toNat.1 digit
  have zero : '0'.toNat = 0x30 := rfl
  omega

/-- A digit is the character of its value. -/
theorem digitChar_toNat {c : Char} (digit : c.isDigit = true) : (c.toNat - '0'.toNat).digitChar = c := by
  obtain ⟨low, _⟩ : 0x30 ≤ c.toNat ∧ c.toNat ≤ 0x39 := Char.isDigit_iff_toNat.1 digit
  refine Char.toNat_inj.1 ?_
  rw [Nat.toNat_digitChar_of_lt_ten (toNat_lt digit)]
  have zero : '0'.toNat = 0x30 := rfl
  omega

theorem toLower_of_isDigit {c : Char} (digit : c.isDigit = true) : c.toLower = c := by
  refine dif_neg ?_
  rintro ⟨upper, _⟩
  have high : c.toNat ≤ 0x39 := (Char.isDigit_iff_toNat.1 digit).2
  have low : 0x41 ≤ c.toNat := UInt32.le_iff_toNat_le.1 upper
  omega

theorem natural_eq (ds : List Char) : natural ds = Nat.ofDigitChars 10 ds 0 := by
  rw [natural, ofDigits, digitValues, List.foldl_map, Nat.ofDigitChars_eq_foldl]
  congr 1
  funext n c
  rw [Nat.mul_comm]

/-- The digits of a number that goes on with more digits. -/
theorem toDigits_ofDigitChars : ∀ {ds : List Char} {n : Nat}, 0 < n → (∀ d ∈ ds, d.isDigit = true) →
    Nat.toDigits 10 (Nat.ofDigitChars 10 ds n) = Nat.toDigits 10 n ++ ds
  | [], n, _, _ => by rw [Nat.ofDigitChars_nil, List.append_nil]
  | c :: ds, n, pos, h => by
    obtain ⟨digit, rest⟩ := List.forall_mem_cons.1 h
    have small : c.toNat - '0'.toNat < 10 := toNat_lt digit
    rw [Nat.ofDigitChars_cons, toDigits_ofDigitChars (by omega) rest,
      ← Nat.toDigits_append_toDigits (by decide) pos small, Nat.toDigits_of_lt_base small,
      digitChar_toNat digit, List.append_assoc]
    rfl

end Numeral

/-! ### Integers -/

open Numeral

/-- Whether a text is a minus sign or none and digits, without a zero before others. -/
structure IsNumeral (text : String) (negative : Bool) (ds : List Char) : Prop where
  text : text.toList = (if negative then ['-'] else []) ++ ds
  digits : AreDigits ds
  canonical : ds.head? = some '0' → ds = ['0']

theorem IsIntText.numeral {text : String} (h : IsIntText text.toList) :
    ∃ negative ds, IsNumeral text negative ds := by
  obtain ⟨sign, ds, eq, rfl | rfl, digits, canonical⟩ := h
  · exact ⟨false, ds, eq, digits, canonical⟩
  · exact ⟨true, ds, eq, digits, canonical⟩

namespace IsNumeral

variable {text : String} {negative : Bool} {ds : List Char}

/-- Either there is just a zero, or the first digit is none. -/
theorem zero_or_pos (h : IsNumeral text negative ds) :
    ds = ['0'] ∨ ∃ c rest, ds = c :: rest ∧ 0 < c.toNat - '0'.toNat := by
  obtain ⟨c, rest, rfl⟩ := List.exists_cons_of_ne_nil h.digits.1
  by_cases zero : c = '0'
  · exact .inl (h.canonical (by rw [zero]; rfl))
  · refine .inr ⟨c, rest, rfl, Nat.pos_of_ne_zero fun none => zero ?_⟩
    rw [← digitChar_toNat (h.digits.2 c (List.mem_cons_self ..)), none]
    rfl

/-- The sign and the digits are told apart. -/
theorem sign (h : IsNumeral text negative ds) : Numeral.sign (Text.trimBlanks text.toList) = (negative, ds) := by
  have blank : ∀ c ∈ text.toList, Text.isBlank c = false := by
    intro c hc
    rw [h.text] at hc
    rcases List.mem_append.1 hc with hc | hc
    · cases negative with
      | true => rw [List.mem_singleton.1 hc]; decide
      | false => cases hc
    · exact Text.isBlank_of_isDigit (h.digits.2 c hc)
  rw [Text.trimBlanks_eq blank, h.text]
  cases negative with
  | true => rfl
  | false =>
    show Numeral.sign ds = (false, ds)
    rw [Numeral.sign.eq_3]
    · rintro rest rfl
      cases h.digits.2 '-' (List.mem_cons_self ..)
    · rintro rest rfl
      cases h.digits.2 '+' (List.mem_cons_self ..)

/-- A numeral is read as an integer if it does not have too many digits. -/
theorem readInt? (h : IsNumeral text negative ds) :
    Numeral.readInt? text = if ds.length ≤ digitLimit then some (signed negative (natural ds)) else none := by
  obtain ⟨c, rest, rfl⟩ := List.exists_cons_of_ne_nil h.digits.1
  have read : Numeral.digits (c :: rest) = (digitValues (c :: rest), []) := digits_eq h.digits.2
  rw [Numeral.readInt?, h.sign]
  simp only [read]
  have length : (digitValues rest).length = rest.length := by simp [digitValues]
  show (if (digitValues rest).length < digitLimit then _ else none) = _
  rw [length]
  rfl

theorem digitCount (h : IsNumeral text negative ds) : Numeral.digitCount text = ds.length := by
  simp [Numeral.digitCount, h.sign, digits_eq h.digits.2, digitValues]

/-- As a value, a numeral that does not have too many digits is read as an integer. -/
theorem asInt (h : IsNumeral text negative ds) (few : ds.length ≤ digitLimit) (i : Nat) :
    (Value.str text i).asInt = .ok (.int (signed negative (natural ds))) := by
  have read : (Value.str text i).toInt = .ok (signed negative (natural ds)) := by
    rw [Value.toInt, h.readInt?, if_pos few]
  exact congrArg (Except.map fun n => Value.int n) read

/-- One that has too many digits is no integer. -/
theorem asInt_unreadable (h : IsNumeral text negative ds) (many : digitLimit < ds.length) (i : Nat) :
    (Value.str text i).asInt = .error .unreadable := by
  have read : (Value.str text i).toInt = .error .unreadable := by
    rw [Value.toInt, h.readInt?, if_neg (Nat.not_le_of_lt many)]
  exact congrArg (Except.map fun n => Value.int n) read

/-- The digits are those that the number is written with. -/
theorem toDigits (h : IsNumeral text negative ds) : Nat.toDigits 10 (natural ds) = ds := by
  rw [natural_eq]
  rcases h.zero_or_pos with rfl | ⟨c, rest, rfl, pos⟩
  · rfl
  · obtain ⟨digit, others⟩ := List.forall_mem_cons.1 h.digits.2
    rw [Nat.ofDigitChars_cons, Nat.mul_zero, Nat.zero_add, toDigits_ofDigitChars pos others,
      Nat.toDigits_of_lt_base (toNat_lt digit), digitChar_toNat digit]
    rfl

theorem natural_lt (h : IsNumeral text negative ds) : natural ds < Nat.pow 10 ds.length := by
  have length := (Nat.length_toDigits_le_iff (b := 10) (n := natural ds) (k := ds.length) (by decide)
    (List.length_pos_iff.2 h.digits.1)).1
  exact length (Nat.le_of_eq (congrArg List.length h.toDigits))

theorem natural_pos (h : IsNumeral text negative ds) (nonzero : ds ≠ ['0']) : 0 < natural ds := by
  refine Nat.pos_of_ne_zero fun zero => nonzero ?_
  rw [← h.toDigits, zero]
  rfl

/-- A numeral is written as it was read, unless it is minus zero. -/
theorem toString_signed (h : IsNumeral text negative ds) (nonzero : text ≠ "-0") :
    toString (signed negative (natural ds)) = text := by
  refine String.toList_inj.1 ?_
  rw [h.text]
  cases negative with
  | false =>
    show (toString (natural ds)).toList = ds
    rw [Nat.toString_eq_ofList_toDigits, String.toList_ofList, h.toDigits]
  | true =>
    have negative : ds ≠ ['0'] := by
      rintro rfl
      exact nonzero (String.toList_inj.1 h.text)
    obtain ⟨k, hk⟩ := Nat.exists_eq_add_of_lt (h.natural_pos negative)
    rw [Nat.zero_add] at hk
    have digits : (toString (k + 1)).toList = ds := by
      rw [← hk, Nat.toString_eq_ofList_toDigits, String.toList_ofList, h.toDigits]
    rw [hk]
    show ("-" ++ toString (k + 1)).toList = '-' :: ds
    rw [String.toList_append, digits]
    rfl

theorem natAbs_signed (negative : Bool) (n : Nat) : (signed negative n).natAbs = n := by
  cases negative <;> simp [signed]

/-- If it does not have too many digits, the number has a text, and this is the numeral. -/
theorem integerText (h : IsNumeral text negative ds) (few : ds.length ≤ digitLimit) (nonzero : text ≠ "-0") :
    integerText (signed negative (natural ds)) = .ok text := by
  have short : natural ds < 10 ^ ds.length := h.natural_lt
  have small : natural ds < 10 ^ digitLimit :=
    Nat.lt_of_lt_of_le short (Nat.pow_le_pow_right (by decide) few)
  have writable : isUnwritable (signed negative (natural ds)) = false := by
    rw [isUnwritable, natAbs_signed, Nat.pow_eq]
    generalize 10 ^ digitLimit = bound at small ⊢
    rw [decide_eq_false (Nat.not_le_of_lt small), Bool.and_false]
  rw [QueryDefaults.integerText, writable, h.toString_signed nonzero]
  rfl

/-! ### Integers as doubles -/

/-- A numeral is read as the decimal without a fraction and an exponent. -/
theorem readDouble? (h : IsNumeral text negative ds) :
    Numeral.readDouble? text = some (decimal negative (digitValues ds) 0) := by
  obtain ⟨c, rest, rfl⟩ := List.exists_cons_of_ne_nil h.digits.1
  have read : Numeral.digits (c :: rest) = (digitValues (c :: rest), []) := digits_eq h.digits.2
  have digit := h.digits.2 c (List.mem_cons_self ..)
  have word {d : Char} {w : List Char} (same : (c :: rest).map Char.toLower = d :: w) : c = d :=
    (toLower_of_isDigit digit).symm.trans (List.cons.inj same).1
  rw [Numeral.readDouble?, h.sign]
  simp only
  rw [if_neg, if_neg, readDecimal?, read]
  · simp [exponent?, digitValues]
  · intro nan
    cases word (w := ['a', 'n']) nan
    cases digit
  · rintro (inf | infinity)
    · cases word (w := ['n', 'f']) inf
      cases digit
    · cases word (w := ['n', 'f', 'i', 'n', 'i', 't', 'y']) infinity
      cases digit

/-- Unless it is far too large, the decimal is the quotient of the number by one. -/
theorem decimal_eq (h : IsNumeral text negative ds) : decimal negative (digitValues ds) 0 =
    if 400 < ds.length then .inf negative else .ofRatio negative (natural ds) 1 := by
  have length : (digitValues ds).length = ds.length := by simp [digitValues]
  rcases h.zero_or_pos with rfl | ⟨c, rest, rfl, pos⟩
  · rfl
  · have first : (digitValues (c :: rest)).dropWhile (· == 0) = digitValues (c :: rest) := by
      refine List.dropWhile_cons_of_neg ?_
      rw [beq_iff_eq]
      exact Nat.ne_of_gt pos
    have some : (digitValues (c :: rest)).isEmpty = false := rfl
    have whole : ofDigits (digitValues (c :: rest)) * Nat.pow 10 (Int.toNat 0) = natural (c :: rest) :=
      Nat.mul_one _
    have notSmall : ¬ (false = true ∨ ((c :: rest).length : Int) + 0 < -400) := by
      rintro (empty | small)
      · cases empty
      · omega
    rw [decimal, first]
    simp only [some, length, whole]
    rw [if_neg notSmall]
    by_cases large : 400 < (c :: rest).length
    · rw [if_pos (by omega), if_pos large]
    · rw [if_neg (by omega), if_neg large]
      rfl

end IsNumeral

theorem Double.equals_self {x : Double} (finite : x.isFinite = true) : x.equals x = true := by
  cases x with
  | finite negative m e => exact beq_iff_eq.2 rfl
  | _ => cases finite

/-- Both zeros are equal. -/
theorem Double.equals_zero (a b : Bool) (e : Int) : (finite a 0 e).equals (finite b 0 e) = true := by
  cases a <;> cases b <;> simp [equals, ratio?]

/-- Where a numeral is read as a finite double, it has few digits, and the integer that it is read as has a
double that is equal. -/
theorem IsNumeral.ofInt? {text : String} {negative : Bool} {ds : List Char} (h : IsNumeral text negative ds)
    {x : Double} (read : Numeral.readDouble? text = some x) (finite : x.isFinite = true) :
    ds.length ≤ 400 ∧
      ∃ y, Double.ofInt? (signed negative (natural ds)) = .ok y ∧ y.equals x = true := by
  rw [h.readDouble?, h.decimal_eq] at read
  by_cases large : 400 < ds.length
  · rw [if_pos large] at read
    cases read
    cases finite
  · rw [if_neg large] at read
    obtain rfl := Option.some.inj read
    refine ⟨Nat.le_of_not_lt large, ?_⟩
    by_cases zero : natural ds = 0
    · rw [zero]
      refine ⟨.finite false 0 Double.minExponent, ?_, Double.equals_zero ..⟩
      cases negative <;> rfl
    · have sign : decide (signed negative (natural ds) < 0) = negative := by
        cases negative
        · exact decide_eq_false (Int.not_lt.2 (Int.natCast_nonneg _))
        · exact decide_eq_true (by show -(natural ds : Int) < 0; omega)
      refine ⟨_, ?_, Double.equals_self finite⟩
      rw [Double.ofInt?, Double.ofInt, sign, natAbs_signed]
      revert finite
      generalize Double.ofRatio negative (natural ds) 1 = x
      intro finite
      cases x with
      | finite => rfl
      | _ => cases finite

end QueryDefaults
