import QueryDefaults.Proofs.Spelled
import QueryDefaults.Version

/-!
Versions and their texts. The text of a version is three decimal numbers with points between them and, unless the
version is final, a letter for its level and one more number. `Version.IsSpelled` says part by part which text a
version has. Reading takes as many digits as there are, so each number ends where a point, a letter or nothing
follows it (`Version.split?_append`), and the parts give the version again (`Version.IsSpelled.read`); writing puts
them together (`Version.IsSpelled.text`). Every regular version has such parts, and so has every text of the right
form, so each of reading and writing undoes the other one (`Version.read_written`).
-/

namespace QueryDefaults

/-! ### Numbers -/

/-- Digits of ASCII without a zero before others, and not too many of them for an integer. -/
structure IsDecimal (ds : List Char) : Prop where
  digits : AreDigits ds
  canonical : ds.head? = some '0' → ds = ['0']
  few : ds.length ≤ Numeral.digitLimit

/-- The digits of an integer. -/
structure IsDecimalOf (n : Int) (ds : List Char) : Prop extends IsDecimal ds where
  value : n = Numeral.natural ds

theorem IsDecimal.isNumeral {ds : List Char} (h : IsDecimal ds) : IsNumeral (String.ofList ds) false ds :=
  ⟨String.toList_ofList, h.digits, h.canonical⟩

/-- An integer that is not negative and does not have too many digits has its digits. -/
theorem isDecimalOf_toDigits {n : Int} (natural : 0 ≤ n)
    (few : (Nat.toDigits 10 n.natAbs).length ≤ Numeral.digitLimit) :
    IsDecimalOf n (Nat.toDigits 10 n.natAbs) := by
  have numeral := toString_isNumeral n
  refine ⟨⟨numeral.digits, numeral.canonical, few⟩, ?_⟩
  have value := signed_natAbs n
  rw [decide_eq_false (Int.not_lt.2 natural)] at value
  exact value.symm

namespace IsDecimalOf

variable {n : Int} {ds : List Char}

theorem nonneg (h : IsDecimalOf n ds) : 0 ≤ n := h.value ▸ Int.natCast_nonneg _

/-- The digits are those that the integer is written with, so there are not too many of them. -/
theorem few_digits (h : IsDecimalOf n ds) : (Nat.toDigits 10 n.natAbs).length ≤ Numeral.digitLimit := by
  rw [h.value, Int.natAbs_natCast, h.isNumeral.toDigits]
  exact h.few

theorem toString_eq (h : IsDecimalOf n ds) : toString n = String.ofList ds := by
  have nonzero : String.ofList ds ≠ "-0" := by
    intro same
    have minus : ds = ['-', '0'] := String.ofList_injective same
    have first := h.digits.2 '-' (minus ▸ List.mem_cons_self ..)
    cases first
  rw [h.value]
  exact h.isNumeral.toString_signed nonzero

/-- The integer is read from its digits. -/
theorem read (h : IsDecimalOf n ds) : Version.value ds = .ok n := by
  rw [Version.value, h.isNumeral.readInt?, if_pos h.few, h.value]
  rfl

/-- The integer is written with its digits. -/
theorem render (h : IsDecimalOf n ds) (i : Nat) (around : List Nat) :
    (Value.int n i).render .sentence around = .ok (toString n) :=
  (integerText_asInt h.few_digits).1

end IsDecimalOf

namespace Version

open Text

/-! ### Parts of a version text -/

/-- The letters of version texts, with the release levels that they stand for. -/
def levelLetters : List (Char × String) := [('a', "alpha"), ('b', "beta"), ('c', "candidate")]

/-- What comes after the three numbers: nothing if the version is final, else a letter and a number. -/
inductive IsEnding (level : String) (serial : Int) : List Char → Prop where
  | final (last : level = "final") (none : serial = 0) : IsEnding level serial []
  | before {letter : Char} {ds : List Char} (mem : (letter, level) ∈ levelLetters)
      (number : IsDecimalOf serial ds) : IsEnding level serial (letter :: ds)

/-- Whether these are the parts of the text of a version. -/
structure IsSpelled (v : Version) (major minor micro ending : List Char) : Prop where
  major : IsDecimalOf v.major major
  minor : IsDecimalOf v.minor minor
  micro : IsDecimalOf v.micro micro
  ending : IsEnding v.level v.serial ending

/-- Three numbers with points between them, and what comes after them. -/
def joined (major minor micro ending : List Char) : List Char :=
  major ++ '.' :: (minor ++ '.' :: (micro ++ ending))

/-- A letter is no digit. It stands for its level, and is what the level is abbreviated to. -/
theorem letter_of_mem {letter : Char} {level : String} (mem : (letter, level) ∈ levelLetters) :
    isDigit letter = false ∧ (∀ rest, levelOf (letter :: rest) = level) ∧
      (level.isEmpty || level == "final") = false ∧ firstPoint level = String.ofList [letter] := by
  simp only [levelLetters, List.mem_cons, Prod.mk.injEq, List.not_mem_nil, or_false] at mem
  rcases mem with ⟨rfl, rfl⟩ | ⟨rfl, rfl⟩ | ⟨rfl, rfl⟩
  · exact ⟨by decide, fun _ => rfl, by decide, by decide⟩
  · exact ⟨by decide, fun _ => rfl, by decide, by decide⟩
  · exact ⟨by decide, fun _ => rfl, by decide, by decide⟩

/-! ### Reading -/

/-- Whether no digit comes first. -/
def StopsDigits (cs : List Char) : Prop := ∀ c ∈ cs.head?, isDigit c = false

theorem takeWhile_digits {ds rest : List Char} (digits : ∀ d ∈ ds, d.isDigit = true) (stops : StopsDigits rest) :
    (ds ++ rest).takeWhile isDigit = ds ∧ (ds ++ rest).dropWhile isDigit = rest := by
  have all : ∀ d ∈ ds, isDigit d = true := fun d hd => isDigit_of_isDigit (digits d hd)
  rw [List.takeWhile_append_of_pos all, List.dropWhile_append_of_pos all]
  cases rest with
  | nil => exact ⟨List.append_nil ds, rfl⟩
  | cons c rest =>
    have none : isDigit c = false := stops c rfl
    simp [none]

/-- A number is read as far as there are digits. -/
theorem number?_append {ds rest : List Char} (digits : AreDigits ds) (stops : StopsDigits rest) :
    number? (ds ++ rest) = some (ds, rest) := by
  obtain ⟨taken, left⟩ := takeWhile_digits digits.2 stops
  obtain ⟨d, others, rfl⟩ := List.exists_cons_of_ne_nil digits.1
  rw [number?, taken, left]

/-- Three numbers between points are told apart from each other and from what comes after them. -/
theorem split?_append {major minor micro ending : List Char} (hmajor : AreDigits major) (hminor : AreDigits minor)
    (hmicro : AreDigits micro) (stops : StopsDigits ending) :
    split? (joined major minor micro ending) =
      some (major, minor, micro, ending.takeWhile fun c => !isDigit c,
        (ending.dropWhile fun c => !isDigit c).takeWhile isDigit) := by
  have point : ∀ rest, StopsDigits ('.' :: rest) := by
    rintro rest c hc
    cases hc
    decide
  rw [split?, joined, number?_append hmajor (point _)]
  simp only [Option.bind_eq_bind, Option.bind_some, point?]
  rw [number?_append hminor (point _)]
  simp only [Option.bind_some]
  rw [number?_append hmicro stops]
  rfl

/-- What comes after the three numbers is read as the level and the serial number that it is for. -/
theorem IsEnding.read {level : String} {serial : Int} {ending : List Char} (h : IsEnding level serial ending) :
    StopsDigits ending ∧ levelOf (ending.takeWhile fun c => !isDigit c) = level ∧
      ∃ ds, (ending.dropWhile fun c => !isDigit c).takeWhile isDigit = ds ∧
        (ds.isEmpty = true ∧ serial = 0 ∨ ds.isEmpty = false ∧ value ds = .ok serial) := by
  cases h with
  | final last none => exact ⟨fun c hc => (nomatch hc), last.symm, [], rfl, .inl ⟨rfl, none⟩⟩
  | @before letter ds mem number =>
    obtain ⟨noDigit, level, -⟩ := letter_of_mem mem
    obtain ⟨d, others, rfl⟩ := List.exists_cons_of_ne_nil number.digits.1
    have first : isDigit d = true := isDigit_of_isDigit (number.digits.2 d (List.mem_cons_self ..))
    refine ⟨?_, ?_, d :: others, ?_, .inr ⟨rfl, number.read⟩⟩
    · rintro c hc
      cases hc
      exact noDigit
    · simp only [List.takeWhile_cons, noDigit, Bool.not_false, if_true]
      exact level _
    · have left : (letter :: d :: others).dropWhile (fun c => !isDigit c) = d :: others := by
        simp [noDigit, first]
      have last : StopsDigits [] := fun c hc => (nomatch hc)
      have all := (takeWhile_digits number.digits.2 last).1
      rw [List.append_nil] at all
      rw [left, all]

section Spelled

variable {v : Version} {major minor micro ending : List Char}

/-- The version is read from the parts of its text. -/
theorem IsSpelled.read (h : v.IsSpelled major minor micro ending) :
    Version.read (String.ofList (joined major minor micro ending)) = .ok v := by
  obtain ⟨stops, level, ds, digits, serial⟩ := h.ending.read
  have split := split?_append h.major.digits h.minor.digits h.micro.digits stops
  rw [Version.read, String.toList_ofList, split, digits]
  simp only [h.major.read, h.minor.read, h.micro.read, ok_bind, level]
  rcases serial with ⟨none, zero⟩ | ⟨some, number⟩
  · rw [none, if_pos rfl, ← zero]
    rfl
  · rw [some, if_neg Bool.false_ne_true, number]
    rfl

/-! ### Writing -/

/-- The numbers of a version as they are written, with points between them. -/
def numbers (v : Version) : String := toString v.major ++ "." ++ toString v.minor ++ "." ++ toString v.micro

/-- What comes after the three numbers is what is written for the level and the serial number. -/
theorem IsEnding.text {level : String} {serial : Int} (h : IsEnding level serial ending) (before : String) :
    (if level.isEmpty || level == "final" then before else before ++ firstPoint level ++ toString serial) =
      before ++ String.ofList ending := by
  cases h with
  | final last =>
    rw [last]
    exact String.append_empty.symm
  | before mem number =>
    obtain ⟨-, -, abbreviated, first⟩ := letter_of_mem mem
    rw [abbreviated, if_neg Bool.false_ne_true, first, number.toString_eq, String.append_assoc,
      ← String.ofList_append]
    rfl

/-- The parts are put together to the text of the version. -/
theorem IsSpelled.text (h : v.IsSpelled major minor micro ending) :
    v.text = String.ofList (joined major minor micro ending) := by
  have parts : v.text = v.numbers ++ String.ofList ending := h.ending.text v.numbers
  rw [parts, numbers, h.major.toString_eq, h.minor.toString_eq, h.micro.toString_eq]
  refine String.toList_inj.1 ?_
  simp [joined]

/-- Whether a value is the record of a version, whatever objects its parts are. -/
def IsRecord (v : Version) (x : Value) : Prop :=
  ∃ i j k l m n, x =
    .record .version [.int v.major i, .int v.minor j, .int v.micro k, .str v.level l, .int v.serial m] n

/-- The serial number is written unless the version is final, and then it has digits. -/
theorem IsEnding.number {level : String} {serial : Int} (h : IsEnding level serial ending)
    (going : (level.isEmpty || level == "final") = false) : ∃ ds, IsDecimalOf serial ds := by
  cases h with
  | final last =>
    rw [last] at going
    cases going
  | before _ number => exact ⟨_, number⟩

/-- The record of a version is written with the text of the version. -/
theorem IsSpelled.caption (h : v.IsSpelled major minor micro ending) {x : Value} (record : v.IsRecord x) :
    Gives (x.caption .sentence) v.text := by
  obtain ⟨i, j, k, l, m, n, rfl⟩ := record
  have rendered : Value.renderVersion []
      [.int v.major i, .int v.minor j, .int v.micro k, .str v.level l, .int v.serial m] = .ok v.text := by
    rw [Value.renderVersion, h.major.render, h.minor.render, h.micro.render, Version.text]
    cases going : v.level.isEmpty || v.level == "final" with
    | true =>
      have final : Value.isFinal (.str v.level l) = true := going
      rw [final]
      rfl
    | false =>
      have notFinal : Value.isFinal (.str v.level l) = false := going
      obtain ⟨ds, serial⟩ := h.ending.number going
      rw [notFinal, serial.render]
      rfl
  exact ⟨0, congrArg (Except.map Value.str) rendered⟩

/-- The record that a version is given as is equal to every record of it. -/
theorem IsRecord.equals {x : Value} (record : v.IsRecord x) : v.toValue.equals x = .ok true := by
  obtain ⟨i, j, k, l, m, n, rfl⟩ := record
  have int (a : Int) (i : Nat) : (Value.int a).equals (.int a i) = .ok true :=
    congrArg Except.ok (beq_self_eq_true a)
  have word : (Value.word v.level).equals (.str v.level l) = .ok true := Value.equals_text ..
  show Value.equalsAll _ _ = _
  simp only [Value.equalsAll, int, word, pure, Except.pure, ite_self]
  rfl

end Spelled

/-! ### Versions and texts that fit -/

/-- A version of natural numbers that do not have too many digits. If it is final it has no serial number, and
otherwise one of the levels before that. -/
structure IsRegular (v : Version) : Prop where
  numbers : ∀ n ∈ [v.major, v.minor, v.micro, v.serial],
    0 ≤ n ∧ (Nat.toDigits 10 n.natAbs).length ≤ Numeral.digitLimit
  level : v.level = "final" ∧ v.serial = 0 ∨ v.level ∈ ["alpha", "beta", "candidate"]

/-- A version text: three numbers with points between them, and perhaps a letter and a number. -/
def IsVersionText (cs : List Char) : Prop :=
  ∃ major minor micro ending, cs = major ++ '.' :: (minor ++ '.' :: (micro ++ ending)) ∧
    IsDecimal major ∧ IsDecimal minor ∧ IsDecimal micro ∧
    (ending = [] ∨ ∃ letter serial, ending = letter :: serial ∧ letter ∈ ['a', 'b', 'c'] ∧ IsDecimal serial)

/-- A regular version has the parts of a text. -/
theorem IsRegular.spelled {v : Version} (h : v.IsRegular) :
    ∃ major minor micro ending, v.IsSpelled major minor micro ending := by
  obtain ⟨numbers, level⟩ := h
  have digits : ∀ n ∈ [v.major, v.minor, v.micro, v.serial], IsDecimalOf n (Nat.toDigits 10 n.natAbs) :=
    fun n hn => isDecimalOf_toDigits (numbers n hn).1 (numbers n hn).2
  simp only [List.forall_mem_cons] at digits
  obtain ⟨major, minor, micro, serial, -⟩ := digits
  have ending : ∃ ending, IsEnding v.level v.serial ending := by
    rcases level with ⟨last, none⟩ | (named : v.level ∈ levelLetters.map Prod.snd)
    · exact ⟨_, .final last none⟩
    · obtain ⟨⟨letter, _⟩, pair, rfl⟩ := List.mem_map.1 named
      exact ⟨_, .before pair serial⟩
  obtain ⟨ending, h⟩ := ending
  exact ⟨_, _, _, ending, major, minor, micro, h⟩

/-- A version text has the parts of a version. -/
theorem IsVersionText.spelled {cs : List Char} (h : IsVersionText cs) :
    ∃ (v : Version) (major minor micro ending : List Char),
      cs = joined major minor micro ending ∧ v.IsSpelled major minor micro ending := by
  obtain ⟨major, minor, micro, ending, rfl, hmajor, hminor, hmicro, tail⟩ := h
  have level : ∃ level serial, IsEnding level serial ending := by
    rcases tail with rfl | ⟨letter, serial, rfl, (mem : letter ∈ levelLetters.map Prod.fst), number⟩
    · exact ⟨_, _, .final rfl rfl⟩
    · obtain ⟨⟨_, level⟩, pair, rfl⟩ := List.mem_map.1 mem
      exact ⟨level, _, .before pair ⟨number, rfl⟩⟩
  obtain ⟨level, serial, h⟩ := level
  exact ⟨⟨_, _, _, level, serial⟩, major, minor, micro, ending, rfl, ⟨hmajor, rfl⟩, ⟨hminor, rfl⟩, ⟨hmicro, rfl⟩, h⟩

section Fitting

variable {v : Version} {major minor micro ending : List Char}

/-- Only regular versions have parts. -/
theorem IsSpelled.isRegular (h : v.IsSpelled major minor micro ending) : v.IsRegular := by
  have natural {n : Int} {ds : List Char} (number : IsDecimalOf n ds) :
      0 ≤ n ∧ (Nat.toDigits 10 n.natAbs).length ≤ Numeral.digitLimit := ⟨number.nonneg, number.few_digits⟩
  have serial : 0 ≤ v.serial ∧ (Nat.toDigits 10 v.serial.natAbs).length ≤ Numeral.digitLimit := by
    cases h.ending with
    | final _ none =>
      rw [none]
      decide
    | before _ number => exact natural number
  refine ⟨?_, ?_⟩
  · simp only [List.forall_mem_cons]
    exact ⟨natural h.major, natural h.minor, natural h.micro, serial, List.forall_mem_nil _⟩
  · cases h.ending with
    | final last none => exact .inl ⟨last, none⟩
    | before mem => exact .inr (List.mem_map_of_mem (f := Prod.snd) mem)

/-- The parts of a version make up a version text. -/
theorem IsSpelled.isVersionText (h : v.IsSpelled major minor micro ending) :
    IsVersionText (joined major minor micro ending) := by
  refine ⟨major, minor, micro, ending, rfl, h.major.toIsDecimal, h.minor.toIsDecimal, h.micro.toIsDecimal, ?_⟩
  cases h.ending with
  | final => exact .inl rfl
  | before mem number =>
    exact .inr ⟨_, _, rfl, List.mem_map_of_mem (f := Prod.fst) mem, number.toIsDecimal⟩

end Fitting

/-- Reading a version text undoes writing it, and the other way round. A regular version is written as a version
text, from which it is read again; and from every version text a regular version is read, which is written as this
very text. -/
theorem read_written :
    (∀ v : Version, v.IsRegular → ∀ x, v.IsRecord x → ∃ text, Gives (x.caption .sentence) text ∧
      IsVersionText text.toList ∧ Version.read text = .ok v ∧ v.toValue.equals x = .ok true) ∧
    ∀ text : String, IsVersionText text.toList → ∃ v, Version.read text = .ok v ∧ v.IsRegular ∧
      ∀ x, v.IsRecord x → Gives (x.caption .sentence) text := by
  refine ⟨fun v regular x record => ?_, fun text form => ?_⟩
  · obtain ⟨major, minor, micro, ending, h⟩ := regular.spelled
    refine ⟨v.text, h.caption record, ?_, ?_, record.equals⟩
    · rw [h.text, String.toList_ofList]
      exact h.isVersionText
    · rw [h.text]
      exact h.read
  · obtain ⟨v, major, minor, micro, ending, chars, h⟩ := form.spelled
    have same : text = String.ofList (joined major minor micro ending) := by
      rw [← chars, String.ofList_toList]
    refine ⟨v, same ▸ h.read, h.isRegular, fun x record => ?_⟩
    rw [same, ← h.text]
    exact h.caption record

/-- A candidate with zeros in its numbers is written and read again, and so is the text of a final version. -/
theorem read_written_candidate :
    Gives ((toValue ⟨10, 0, 56, "candidate", 700⟩).caption .sentence) "10.0.56c700" ∧
    Version.read "10.0.56c700" = .ok ⟨10, 0, 56, "candidate", 700⟩ ∧
    Version.read "0.1.0" = .ok ⟨0, 1, 0, "final", 0⟩ ∧
    Gives ((toValue ⟨0, 1, 0, "final", 0⟩).caption .sentence) "0.1.0" := by
  obtain ⟨write, read⟩ := read_written
  have regular : IsRegular ⟨10, 0, 56, "candidate", 700⟩ := ⟨by decide, by decide⟩
  have form : IsVersionText "0.1.0".toList := by
    refine ⟨['0'], ['1'], ['0'], [], rfl, ?_, ?_, ?_, .inl rfl⟩
    all_goals exact ⟨⟨by decide, by simp⟩, by decide, by decide⟩
  obtain ⟨text, written, -, again, -⟩ := write _ regular _ ⟨0, 0, 0, constant, 0, 0, rfl⟩
  obtain rfl : text = "10.0.56c700" := written.unique ⟨0, rfl⟩
  obtain ⟨v, found, -, back⟩ := read "0.1.0" form
  obtain rfl : v = ⟨0, 1, 0, "final", 0⟩ := Except.ok.inj (found.symm.trans rfl)
  exact ⟨written, again, found, back _ ⟨0, 0, 0, constant, 0, 0, rfl⟩⟩

end Version

end QueryDefaults
