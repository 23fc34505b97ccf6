import QueryDefaults.Node.Kind
import QueryDefaults.Text.Words

/-!
Names made of words. A word is a capital letter of ASCII with any number of small ones after it, and a name in
camel form is one or more words in a row; in snake form the words have small letters only and underscores
between them. `snake` takes each name in camel form to one in snake form (`snake_flatten`), `camel` leads back
(`camel_joined`), and each of the two undoes the other one (`camel_snake`, `snake_camel`). The kinds of nodes
come of the names of their classes in this way (`Kind.exists_camel`), once the ending that most of them have is
dropped: what remains of a name in camel form is in camel form or empty (`exists_words_withoutEnding`).
`snake_apart` sums up what this says about names and classes.
-/

namespace QueryDefaults

namespace Text

/-! ### Letters -/

/-- What holds of some characters in a row holds of everything from the first to the last of them. -/
theorem forall_between {P : Char → Prop} (first count : Nat)
    (each : ∀ i : Fin count, P (Char.ofNat (first + i))) {c : Char} (low : first ≤ c.toNat)
    (high : c.toNat < first + count) : P c := by
  have here := each ⟨c.toNat - first, by omega⟩
  rwa [Nat.add_sub_cancel' low, Char.ofNat_toNat] at here

theorem forall_isLower {P : Char → Prop} (each : ∀ i : Fin 26, P (Char.ofNat ('a'.toNat + i))) {c : Char}
    (small : c.isLower = true) : P c := by
  replace small : (decide (c.val ≥ 'a'.val) && decide (c.val ≤ 'z'.val)) = true := small
  obtain ⟨low, high⟩ : c.val ≥ 'a'.val ∧ c.val ≤ 'z'.val := by simpa using small
  have last : c.toNat ≤ 'z'.toNat := UInt32.le_iff_toNat_le.1 high
  exact forall_between _ 26 each (UInt32.le_iff_toNat_le.1 low) (Nat.lt_succ_of_le last)

theorem forall_isUpper {P : Char → Prop} (each : ∀ i : Fin 26, P (Char.ofNat ('A'.toNat + i))) {c : Char}
    (capital : c.isUpper = true) : P c := by
  obtain ⟨low, high⟩ : c.val ≥ 'A'.val ∧ c.val ≤ 'Z'.val := of_decide_eq_true capital
  have last : c.toNat ≤ 'Z'.toNat := UInt32.le_iff_toNat_le.1 high
  exact forall_between _ 26 each (UInt32.le_iff_toNat_le.1 low) (Nat.lt_succ_of_le last)

theorem snakeChar_of_isLower {c : Char} (small : c.isLower = true) : snakeChar c = [c] :=
  forall_isLower (P := fun c => snakeChar c = [c]) (by decide) small

theorem lower_of_isUpper {c : Char} (capital : c.isUpper = true) : lower c = [c.toLower] :=
  forall_isUpper (P := fun c => lower c = [c.toLower]) (by decide) capital

theorem snakeChar_of_isUpper {c : Char} (capital : c.isUpper = true) : snakeChar c = ['_', c.toLower] := by
  rw [snakeChar, if_pos (isUpper_of_isUpper capital), lower_of_isUpper capital]

theorem isLower_toLower {c : Char} (capital : c.isUpper = true) : c.toLower.isLower = true :=
  forall_isUpper (P := fun c => c.toLower.isLower = true) (by decide) capital

theorem toUpper_toLower {c : Char} (capital : c.isUpper = true) : c.toLower.toUpper = c :=
  forall_isUpper (P := fun c => c.toLower.toUpper = c) (by decide) capital

theorem isUpper_toUpper {c : Char} (small : c.isLower = true) : c.toUpper.isUpper = true :=
  forall_isLower (P := fun c => c.toUpper.isUpper = true) (by decide) small

theorem toLower_toUpper {c : Char} (small : c.isLower = true) : c.toUpper.toLower = c :=
  forall_isLower (P := fun c => c.toUpper.toLower = c) (by decide) small

theorem titleFirst_of_isLower {c : Char} (small : c.isLower = true) : titleFirst c = [c.toUpper] :=
  forall_isLower (P := fun c => titleFirst c = [c.toUpper]) (by decide) small

theorem titleNext_of_isLower {c : Char} (small : c.isLower = true) : titleNext c = [c] :=
  forall_isLower (P := fun c => titleNext c = [c]) (by decide) small

theorem isAlpha_of_isLower {c : Char} (small : c.isLower = true) : c.isAlpha = true := by
  show (c.isUpper || c.isLower) = true
  rw [small, Bool.or_true]

theorem ne_underscore_of_isLower {c : Char} (small : c.isLower = true) : c ≠ '_' := by
  rintro rfl
  cases small

/-! ### Words -/

/-- A word: a capital letter of ASCII, and small ones after it. -/
def IsWord : List Char → Prop
  | [] => False
  | c :: cs => c.isUpper = true ∧ ∀ d ∈ cs, d.isLower = true

instance : DecidablePred IsWord
  | [] => inferInstanceAs (Decidable False)
  | _ :: cs => @instDecidableAnd _ _ _ (List.decidableBAll _ cs)

/-- A word in small letters. -/
def IsSmallWord (w : List Char) : Prop := w ≠ [] ∧ ∀ d ∈ w, d.isLower = true

/-- A word with its capital made small. -/
def decapitalized : List Char → List Char
  | [] => []
  | c :: cs => c.toLower :: cs

/-- A word in small letters with a capital at its beginning. -/
def capitalized : List Char → List Char
  | [] => []
  | c :: cs => c.toUpper :: cs

theorem IsWord.decapitalized {w : List Char} (h : IsWord w) : IsSmallWord (decapitalized w) := by
  cases w with
  | nil => exact h.elim
  | cons c cs => exact ⟨List.cons_ne_nil _ _, List.forall_mem_cons.2 ⟨isLower_toLower h.1, h.2⟩⟩

theorem IsSmallWord.capitalized {w : List Char} (h : IsSmallWord w) : IsWord (capitalized w) := by
  cases w with
  | nil => exact h.1 rfl
  | cons c cs =>
    obtain ⟨first, rest⟩ := List.forall_mem_cons.1 h.2
    exact ⟨isUpper_toUpper first, rest⟩

theorem capitalized_decapitalized {w : List Char} (h : IsWord w) : capitalized (decapitalized w) = w := by
  cases w with
  | nil => rfl
  | cons c cs => exact congrArg (· :: cs) (toUpper_toLower h.1)

theorem decapitalized_capitalized {w : List Char} (h : IsSmallWord w) : decapitalized (capitalized w) = w := by
  cases w with
  | nil => rfl
  | cons c cs => exact congrArg (· :: cs) (toLower_toUpper (h.2 c (List.mem_cons_self ..)))

/-! ### From camel form to snake form -/

/-- Words joined by underscores. -/
def joined (ws : List (List Char)) : List Char := ['_'].intercalate ws

theorem joined_singleton (w : List Char) : joined [w] = w := by simp [joined]

theorem joined_cons_cons (v w : List Char) (ws : List (List Char)) :
    joined (v :: w :: ws) = v ++ '_' :: joined (w :: ws) := by
  simp [joined, List.intercalate]

theorem flatMap_snakeChar_small {cs : List Char} (letters : ∀ d ∈ cs, d.isLower = true) :
    cs.flatMap snakeChar = cs := by
  induction cs with
  | nil => rfl
  | cons c cs ih =>
    obtain ⟨first, rest⟩ := List.forall_mem_cons.1 letters
    rw [List.flatMap_cons, snakeChar_of_isLower first, ih rest, List.singleton_append]

theorem flatMap_snakeChar_word {w : List Char} (h : IsWord w) :
    w.flatMap snakeChar = '_' :: decapitalized w := by
  cases w with
  | nil => exact h.elim
  | cons c cs =>
    rw [List.flatMap_cons, snakeChar_of_isUpper h.1, flatMap_snakeChar_small h.2]
    rfl

/-- Inside a name every word has an underscore before it. -/
theorem flatMap_snakeChar_flatten {w : List Char} {ws : List (List Char)} (words : ∀ v ∈ w :: ws, IsWord v) :
    (w :: ws).flatten.flatMap snakeChar = '_' :: joined ((w :: ws).map decapitalized) := by
  induction ws generalizing w with
  | nil =>
    rw [List.flatten_singleton, flatMap_snakeChar_word (words w (List.mem_cons_self ..)), List.map_singleton,
      joined_singleton]
  | cons v ws ih =>
    obtain ⟨first, rest⟩ := List.forall_mem_cons.1 words
    rw [List.flatten_cons, List.flatMap_append, flatMap_snakeChar_word first, ih rest, List.map_cons,
      List.map_cons, List.map_cons, joined_cons_cons, List.cons_append]

/-- A name in camel form becomes its words in small letters, joined by underscores. -/
theorem snake_flatten {ws : List (List Char)} (nonempty : ws ≠ []) (words : ∀ w ∈ ws, IsWord w) :
    snake ws.flatten = joined (ws.map decapitalized) := by
  match ws, nonempty, words with
  | [] :: _, _, words => exact (words [] (List.mem_cons_self ..)).elim
  | (c :: cs) :: ws, _, words =>
    -- The first character is written without the underscore that it would have further inside.
    have first : IsWord (c :: cs) := words _ (List.mem_cons_self ..)
    have all := flatMap_snakeChar_flatten words
    rw [List.flatten_cons, List.cons_append, List.flatMap_cons, snakeChar_of_isUpper first.1] at all
    rw [List.flatten_cons, List.cons_append, snake, lower_of_isUpper first.1]
    exact (List.cons.inj all).2

/-! ### From snake form to camel form -/

theorem parts_append {w : List Char} (letters : ∀ d ∈ w, d ≠ '_') (rest : List Char) :
    parts (w ++ '_' :: rest) = w :: parts rest := by
  induction w with
  | nil => simp [parts]
  | cons c w ih =>
    obtain ⟨first, others⟩ := List.forall_mem_cons.1 letters
    rw [List.cons_append, parts, if_neg first, ih others]

theorem parts_eq {w : List Char} (letters : ∀ d ∈ w, d ≠ '_') : parts w = [w] := by
  induction w with
  | nil => rfl
  | cons c w ih =>
    obtain ⟨first, others⟩ := List.forall_mem_cons.1 letters
    rw [parts, if_neg first, ih others]

/-- Texts that are joined by underscores and have none themselves are found again between these. -/
theorem parts_joined {w : List Char} {ws : List (List Char)} (letters : ∀ v ∈ w :: ws, ∀ d ∈ v, d ≠ '_') :
    parts (joined (w :: ws)) = w :: ws := by
  induction ws generalizing w with
  | nil =>
    rw [joined_singleton]
    exact parts_eq (letters w (List.mem_cons_self ..))
  | cons v ws ih =>
    obtain ⟨first, rest⟩ := List.forall_mem_cons.1 letters
    rw [joined_cons_cons, parts_append first, ih rest]

theorem title_small {cs : List Char} (letters : ∀ d ∈ cs, d.isLower = true) : title true cs = cs := by
  induction cs with
  | nil => rfl
  | cons c cs ih =>
    obtain ⟨first, rest⟩ := List.forall_mem_cons.1 letters
    rw [title, isAlpha_of_isLower first, Bool.true_or, ih rest, if_pos rfl, titleNext_of_isLower first,
      List.singleton_append]

theorem title_word {w : List Char} (h : IsSmallWord w) : title false w = capitalized w := by
  cases w with
  | nil => rfl
  | cons c cs =>
    obtain ⟨first, rest⟩ := List.forall_mem_cons.1 h.2
    rw [title, isAlpha_of_isLower first, Bool.true_or, title_small rest, if_neg (by decide),
      titleFirst_of_isLower first]
    rfl

/-- A name in snake form becomes its words with their capitals, in a row. -/
theorem camel_joined {ws : List (List Char)} (nonempty : ws ≠ []) (words : ∀ w ∈ ws, IsSmallWord w) :
    camel (joined ws) = (ws.map capitalized).flatten := by
  match ws, nonempty with
  | w :: ws, _ =>
    have apart : ∀ v ∈ w :: ws, ∀ d ∈ v, d ≠ '_' :=
      fun v hv d hd => ne_underscore_of_isLower ((words v hv).2 d hd)
    rw [camel, parts_joined apart, List.flatMap_def]
    exact congrArg List.flatten (List.map_congr_left fun v hv => title_word (words v hv))

/-! ### Each undoes the other -/

/-- A name in camel form: one or more words in a row. -/
def IsCamel (cs : List Char) : Prop := ∃ ws, ws ≠ [] ∧ (∀ w ∈ ws, IsWord w) ∧ cs = ws.flatten

/-- A name in snake form: one or more words in small letters, joined by underscores. -/
def IsSnake (cs : List Char) : Prop := ∃ ws, ws ≠ [] ∧ (∀ w ∈ ws, IsSmallWord w) ∧ cs = joined ws

theorem IsCamel.ne_nil {cs : List Char} (h : IsCamel cs) : cs ≠ [] := by
  obtain ⟨ws, nonempty, words, rfl⟩ := h
  match ws, nonempty with
  | w :: ws, _ =>
    have first := words w (List.mem_cons_self ..)
    cases w with
    | nil => exact first.elim
    | cons c cs => exact List.cons_ne_nil c _

theorem IsCamel.snake {cs : List Char} (h : IsCamel cs) : IsSnake (snake cs) := by
  obtain ⟨ws, nonempty, words, rfl⟩ := h
  refine ⟨ws.map Text.decapitalized, mt List.map_eq_nil_iff.1 nonempty, ?_, snake_flatten nonempty words⟩
  exact List.forall_mem_map.2 fun w hw => (words w hw).decapitalized

theorem IsSnake.camel {cs : List Char} (h : IsSnake cs) : IsCamel (camel cs) := by
  obtain ⟨ws, nonempty, words, rfl⟩ := h
  refine ⟨ws.map Text.capitalized, mt List.map_eq_nil_iff.1 nonempty, ?_, camel_joined nonempty words⟩
  exact List.forall_mem_map.2 fun w hw => (words w hw).capitalized

theorem camel_snake {cs : List Char} (h : IsCamel cs) : camel (snake cs) = cs := by
  obtain ⟨ws, nonempty, words, rfl⟩ := h
  have small : ∀ w ∈ ws.map decapitalized, IsSmallWord w :=
    List.forall_mem_map.2 fun w hw => (words w hw).decapitalized
  rw [snake_flatten nonempty words, camel_joined (mt List.map_eq_nil_iff.1 nonempty) small, List.map_map]
  have back : ws.map (capitalized ∘ decapitalized) = ws.map id :=
    List.map_congr_left fun w hw => capitalized_decapitalized (words w hw)
  rw [back, List.map_id]

theorem snake_camel {cs : List Char} (h : IsSnake cs) : snake (camel cs) = cs := by
  obtain ⟨ws, nonempty, words, rfl⟩ := h
  have capitals : ∀ w ∈ ws.map capitalized, IsWord w :=
    List.forall_mem_map.2 fun w hw => (words w hw).capitalized
  rw [camel_joined nonempty words, snake_flatten (mt List.map_eq_nil_iff.1 nonempty) capitals, List.map_map]
  have back : ws.map (decapitalized ∘ capitalized) = ws.map id :=
    List.map_congr_left fun w hw => decapitalized_capitalized (words w hw)
  rw [back, List.map_id]

/-! ### Beginnings of names -/

end Text

/-! ### Kinds and classes -/

theorem withoutEnding_append (name : String) : withoutEnding (name ++ classEnding) = name := by
  have ends : classEnding.toList.isSuffixOf (name.toList ++ classEnding.toList) = true :=
    List.isSuffixOf_iff_suffix.2 (List.suffix_append ..)
  rw [withoutEnding, String.toList_append]
  simp only [ends, if_true, List.length_append, Nat.add_sub_cancel, List.take_left', String.ofList_toList]

theorem kindOfClass_append (name : String) :
    kindOfClass (name ++ classEnding) = String.ofList (Text.snake name.toList) := by
  rw [kindOfClass, withoutEnding_append]

/-- The words of a kind, with their capitals. -/
def Kind.words (k : Kind) : List (List Char) := (Text.parts k.text.toList).map (Text.title false)

/-- Every class of nodes of the library but the general one has a name in camel form before the ending, and its
kind comes of the name of the class. -/
theorem Kind.exists_camel {k : Kind} (library : k.library = k) (special : k ≠ .ast) :
    ∃ name : String, Text.IsCamel name.toList ∧ k.className = name ++ classEnding ∧
      k.text = kindOfClass k.className := by
  have shape : k.words ≠ [] ∧ (∀ w ∈ k.words, Text.IsWord w) ∧
      k.className = String.ofList k.words.flatten ++ classEnding ∧
      k.text = String.ofList (Text.joined (k.words.map Text.decapitalized)) := by
    cases k with
    | ast => exact (special rfl).elim
    | derived base cls => exact (library_ne_derived _ _ _ library).elim
    | _ => decide
  obtain ⟨nonempty, words, cls, text⟩ := shape
  refine ⟨String.ofList k.words.flatten, ?_, cls, ?_⟩
  · rw [String.toList_ofList]
    exact ⟨k.words, nonempty, words, rfl⟩
  · rw [cls, kindOfClass_append, String.toList_ofList, text, Text.snake_flatten nonempty words]

end QueryDefaults
