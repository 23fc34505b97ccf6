import QueryDefaults.Proofs.Escaped
import QueryDefaults.Types.Name
import QueryDefaults.Value.Display

/-!
Forms of value literals, and their texts. A form is what is left of a literal without places in a source and
without the flag of block strings. Its text can be told from that of any other form, also if more follows
(`IsLexical.separates`): words end where a character follows that is in no word, strings at their closing
quote, and lists and objects at their brackets. That words are told from each other is due to their first
characters, to the signs that only floats have, and to the names that enum values must not have
(`IsLexical.ofWord_text`).
-/

namespace QueryDefaults

/-- A value literal or variable without places and flags. -/
inductive Form where
  | null
  | boolean (b : Bool)
  | int (text : String)
  | float (text : String)
  | string (value : String)
  | enum (name : String)
  | variableUse (name : String)
  | list (items : List Form)
  | object (entries : List (String × Form))

/-- The text of a form on one line. -/
def Form.text : Form → String
  | null => "null"
  | boolean b => if b then "true" else "false"
  | int text | float text => text
  | string value => Text.json value
  | enum name => name
  | variableUse name => "$" ++ name
  | list items => "[" ++ Value.commas (items.map text) ++ "]"
  | object entries => "\x7b" ++ Value.commas (entries.map fun e => e.1 ++ ": " ++ e.2.text) ++ "\x7d"
termination_by f => sizeOf f
decreasing_by
  · have := List.sizeOf_lt_of_mem ‹_ ∈ items›
    simp only [list.sizeOf_spec]
    omega
  · have := List.sizeOf_lt_of_mem ‹_ ∈ entries›
    obtain ⟨name, f⟩ := e
    simp only [object.sizeOf_spec, Prod.mk.sizeOf_spec] at *
    omega

/-! ### Words -/

/-- A letter or an underscore, and then letters, underscores and digits. -/
def IsNameText (cs : List Char) : Prop :=
  ∃ c rest, cs = c :: rest ∧ isNameStart c = true ∧ ∀ d ∈ rest, isNameContinue d = true

/-- Digits in a row, at least one. -/
def AreDigits (cs : List Char) : Prop := cs ≠ [] ∧ ∀ c ∈ cs, c.isDigit = true

/-- A minus sign or none, and then digits that do not begin with a zero, or just a zero. -/
def IsIntText (cs : List Char) : Prop :=
  ∃ sign ds, cs = sign ++ ds ∧ (sign = [] ∨ sign = ['-']) ∧ AreDigits ds ∧
    (ds.head? = some '0' → ds = ['0'])

/-- A point and digits. -/
def IsFraction (cs : List Char) : Prop := ∃ ds, cs = '.' :: ds ∧ AreDigits ds

/-- An `e` of either case, a sign or none, and digits. -/
def IsExponent (cs : List Char) : Prop :=
  ∃ e sign ds, cs = e :: (sign ++ ds) ∧ (e = 'e' ∨ e = 'E') ∧ (sign = [] ∨ sign = ['+'] ∨ sign = ['-']) ∧
    AreDigits ds

/-- An integer with a fraction, an exponent or both behind it. -/
def IsFloatText (cs : List Char) : Prop :=
  ∃ whole fraction exponent, cs = whole ++ fraction ++ exponent ∧ IsIntText whole ∧
    (fraction = [] ∨ IsFraction fraction) ∧ (exponent = [] ∨ IsExponent exponent) ∧
    ¬ (fraction = [] ∧ exponent = [])

/-- A form with numbers and names as the language has them. -/
inductive Form.IsLexical : Form → Prop where
  | null : IsLexical .null
  | boolean (b : Bool) : IsLexical (.boolean b)
  | int {text : String} (number : IsIntText text.toList) : IsLexical (.int text)
  | float {text : String} (number : IsFloatText text.toList) : IsLexical (.float text)
  | string (value : String) : IsLexical (.string value)
  | enum {name : String} (named : IsNameText name.toList) (free : name ∉ reservedNames) :
      IsLexical (.enum name)
  | variableUse {name : String} (named : IsNameText name.toList) : IsLexical (.variableUse name)
  | list {items : List Form} (each : ∀ f ∈ items, IsLexical f) : IsLexical (.list items)
  | object {entries : List (String × Form)} (named : ∀ e ∈ entries, IsNameText e.1.toList)
      (each : ∀ e ∈ entries, IsLexical e.2) : IsLexical (.object entries)

/-- Whether a character stands in names, numbers or variables. -/
def isWordChar (c : Char) : Bool := isNameContinue c || ['+', '-', '.', '$'].contains c

/-- The form that a word is the text of. -/
def Form.ofWord : List Char → Form
  | [] => .null
  | c :: rest =>
    if c = '$' then .variableUse (String.ofList rest)
    else if c = '-' ∨ c.isDigit then
      if (c :: rest).any ['.', 'e', 'E'].contains then .float (String.ofList (c :: rest))
      else .int (String.ofList (c :: rest))
    else
      match String.ofList (c :: rest) with
      | "null" => .null
      | "true" => .boolean true
      | "false" => .boolean false
      | name => .enum name

/-- The sign that a form begins with if it is no word. -/
def Form.sign? : Form → Option Char
  | string _ => some '"'
  | list _ => some '['
  | object _ => some '\x7b'
  | _ => none

theorem IsNameText.continues {cs : List Char} (h : IsNameText cs) : ∀ c ∈ cs, isNameContinue c = true := by
  obtain ⟨c, rest, rfl, start, continues⟩ := h
  intro d hd
  rcases List.mem_cons.1 hd with rfl | hd
  · simp [isNameContinue, start]
  · exact continues d hd

theorem isWordChar_of_continue {c : Char} (h : isNameContinue c = true) : isWordChar c = true := by
  simp [isWordChar, h]

theorem isWordChar_of_digit {c : Char} (h : c.isDigit = true) : isWordChar c = true :=
  isWordChar_of_continue (by simp [isNameContinue, h])

/-- No letter is a digit: all letters come after the digits. -/
theorem not_isDigit_of_isAlpha {c : Char} (alpha : c.isAlpha = true) : ¬ c.isDigit = true := by
  intro digit
  have upTo : c.toNat ≤ 57 := (Char.isDigit_iff_toNat.1 digit).2
  have from65 : 65 ≤ c.toNat := by
    have either : (c.isUpper || c.isLower) = true := alpha
    rcases Bool.or_eq_true_iff.1 either with upper | lower
    · have range : 'A'.val ≤ c.val ∧ c.val ≤ 'Z'.val := of_decide_eq_true upper
      exact UInt32.le_iff_toNat_le.1 range.1
    · have from97 : 'a'.val ≤ c.val := of_decide_eq_true (Bool.and_eq_true_iff.1 lower).1
      exact Nat.le_trans (by decide) (UInt32.le_iff_toNat_le.1 from97)
  omega

/-- What a name begins with begins no variable and no number. -/
theorem isNameStart_apart {c : Char} (h : isNameStart c = true) :
    c ≠ '$' ∧ ¬ (c = '-' ∨ c.isDigit = true) := by
  have letter : c = '_' ∨ c.isAlpha = true := by simpa [isNameStart] using h
  rcases letter with rfl | alpha
  · decide
  · refine ⟨?_, ?_⟩
    · rintro rfl
      revert alpha
      decide
    · rintro (rfl | digit)
      · revert alpha
        decide
      · exact not_isDigit_of_isAlpha alpha digit

/-- Numbers begin with a minus sign or a digit. -/
def StartsNumber (cs : List Char) : Prop := ∃ c rest, cs = c :: rest ∧ (c = '-' ∨ c.isDigit = true)

/-- An integer has nothing but a minus sign and digits. -/
theorem IsIntText.chars {cs : List Char} (h : IsIntText cs) :
    StartsNumber cs ∧ ∀ c ∈ cs, c = '-' ∨ c.isDigit = true := by
  obtain ⟨sign, ds, rfl, hsign, ⟨some, digits⟩, _⟩ := h
  have each : ∀ c ∈ sign ++ ds, c = '-' ∨ c.isDigit = true := by
    intro c hc
    rcases List.mem_append.1 hc with hc | hc
    · rcases hsign with rfl | rfl
      · cases hc
      · exact .inl (List.mem_singleton.1 hc)
    · exact .inr (digits c hc)
  obtain ⟨c, rest, eq⟩ := List.exists_cons_of_ne_nil (List.append_ne_nil_of_right_ne_nil sign some)
  exact ⟨⟨c, rest, eq, each c (eq ▸ List.mem_cons_self ..)⟩, each⟩

/-- A float begins like an integer, has characters of words only, and one that no integer has. -/
theorem IsFloatText.chars {cs : List Char} (h : IsFloatText cs) :
    StartsNumber cs ∧ cs.any ['.', 'e', 'E'].contains = true ∧ ∀ c ∈ cs, isWordChar c = true := by
  obtain ⟨whole, fraction, exponent, rfl, number, hfraction, hexponent, both⟩ := h
  obtain ⟨⟨c, rest, rfl, first⟩, digits⟩ := number.chars
  refine ⟨⟨c, rest ++ fraction ++ exponent, rfl, first⟩, ?_, ?_⟩
  · rw [List.any_eq_true]
    rcases hfraction with rfl | ⟨ds, rfl, _⟩
    · rcases hexponent with rfl | ⟨e, sign, ds, rfl, he, _⟩
      · exact absurd ⟨rfl, rfl⟩ both
      · exact ⟨e, by simp, by rcases he with rfl | rfl <;> decide⟩
    · exact ⟨'.', by simp, by decide⟩
  · intro d hd
    simp only [List.mem_append] at hd
    rcases hd with (hd | hd) | hd
    · rcases digits d hd with rfl | digit
      · decide
      · exact isWordChar_of_digit digit
    · rcases hfraction with rfl | ⟨ds, rfl, _, digits⟩
      · cases hd
      · rcases List.mem_cons.1 hd with rfl | hd
        · decide
        · exact isWordChar_of_digit (digits d hd)
    · rcases hexponent with rfl | ⟨e, sign, ds, rfl, he, hsign, _, digits⟩
      · cases hd
      · simp only [List.mem_cons, List.mem_append] at hd
        rcases hd with rfl | hd | hd
        · rcases he with rfl | rfl <;> decide
        · have signs : ∀ c ∈ sign, isWordChar c = true := by
            rcases hsign with rfl | rfl | rfl <;> exact List.all_eq_true.1 (by decide)
          exact signs d hd
        · exact isWordChar_of_digit (digits d hd)

/-- What a number is read as depends on the signs that only floats have. -/
theorem Form.ofWord_number {cs : List Char} (h : StartsNumber cs) :
    ofWord cs =
      if cs.any ['.', 'e', 'E'].contains then .float (String.ofList cs) else .int (String.ofList cs) := by
  obtain ⟨c, rest, rfl, first⟩ := h
  have noVariable : c ≠ '$' := by
    rintro rfl
    revert first
    decide
  rw [ofWord, if_neg noVariable, if_pos first]

/-- What a name is read as depends on the names that have a meaning of their own. -/
theorem Form.ofWord_name {cs : List Char} (h : IsNameText cs) :
    ofWord cs = match String.ofList cs with
      | "null" => .null
      | "true" => .boolean true
      | "false" => .boolean false
      | name => .enum name := by
  obtain ⟨c, rest, rfl, start, _⟩ := h
  obtain ⟨noVariable, noNumber⟩ := isNameStart_apart start
  rw [ofWord, if_neg noVariable, if_neg noNumber]

namespace Form.IsLexical

variable {f g : Form}

/-- A word is read back from its text. -/
theorem ofWord_text (h : f.IsLexical) (word : f.sign? = none) : ofWord f.text.toList = f := by
  cases h with
  | null => rw [text]; rfl
  | boolean b => cases b <;> rw [text] <;> rfl
  | @int number valid =>
    obtain ⟨start, digits⟩ := valid.chars
    have plain : ¬ number.toList.any ['.', 'e', 'E'].contains = true := by
      rw [List.any_eq_true]
      rintro ⟨c, hc, other⟩
      simp only [List.contains_iff_mem, List.mem_cons, List.not_mem_nil, or_false] at other
      have digit := digits c hc
      rcases other with rfl | rfl | rfl <;> revert digit <;> decide
    rw [text, ofWord_number start, if_neg plain, String.ofList_toList]
  | @float number valid =>
    obtain ⟨start, other, _⟩ := valid.chars
    rw [text, ofWord_number start, if_pos other, String.ofList_toList]
  | @enum name named free =>
    rw [text, ofWord_name named, String.ofList_toList]
    split
    · exact absurd (by decide) free
    · exact absurd (by decide) free
    · exact absurd (by decide) free
    · rfl
  | @variableUse name named =>
    rw [text, String.toList_append]
    show Form.variableUse (String.ofList name.toList) = _
    rw [String.ofList_toList]
  | _ => cases word

/-- Words have characters of words only. -/
theorem word_chars (h : f.IsLexical) (word : f.sign? = none) : ∀ c ∈ f.text.toList, isWordChar c = true := by
  cases h with
  | null => rw [text]; exact List.all_eq_true.1 (by decide)
  | boolean b => cases b <;> rw [text] <;> exact List.all_eq_true.1 (by decide)
  | int valid =>
    rw [text]
    intro c hc
    rcases valid.chars.2 c hc with rfl | digit
    · decide
    · exact isWordChar_of_digit digit
  | float valid =>
    rw [text]
    exact valid.chars.2.2
  | enum named =>
    rw [text]
    exact fun c hc => isWordChar_of_continue (named.continues c hc)
  | variableUse named =>
    rw [text, String.toList_append]
    intro c hc
    rcases List.mem_append.1 hc with hc | hc
    · rw [List.mem_singleton.1 hc]
      decide
    · exact isWordChar_of_continue (named.continues c hc)
  | _ => cases word

/-- A text begins with the sign of its form, or with a character of a word. -/
theorem opens (h : f.IsLexical) : ∃ c rest, f.text.toList = c :: rest ∧
    (f.sign? = none ∧ isWordChar c = true ∨ f.sign? = some c) := by
  by_cases word : f.sign? = none
  · cases eq : f.text.toList with
    | nil =>
      -- the empty text would be read as null, which has another one
      have null := h.ofWord_text word
      rw [eq] at null
      obtain rfl : Form.null = f := null
      rw [text] at eq
      cases eq
    | cons c rest => exact ⟨c, rest, rfl, .inl ⟨word, h.word_chars word c (eq ▸ List.mem_cons_self ..)⟩⟩
  · cases f with
    | string value => exact ⟨'"', _, by rw [text, Text.json, String.toList_ofList]; rfl, .inr rfl⟩
    | list items => exact ⟨'[', _, by rw [text, String.toList_append, String.toList_append]; rfl, .inr rfl⟩
    | object entries =>
      exact ⟨'\x7b', _, by rw [text, String.toList_append, String.toList_append]; rfl, .inr rfl⟩
    | _ => exact absurd rfl word

end Form.IsLexical

/-! ### Texts that more follows -/

/-- Whether a text ends where another one begins: with nothing, or with no character of a word. -/
def Ends (r : List Char) : Prop := ∀ c rest, r = c :: rest → isWordChar c = false

theorem Ends.nil : Ends [] := nofun

theorem Ends.cons {c : Char} {r : List Char} (h : isWordChar c = false) : Ends (c :: r) := by
  intro d rest eq
  obtain ⟨rfl, -⟩ := List.cons.inj eq
  exact h

/-- Words are told from what follows. -/
theorem words_separate {u v r s : List Char} (hu : ∀ c ∈ u, isWordChar c = true)
    (hv : ∀ c ∈ v, isWordChar c = true) (hr : Ends r) (hs : Ends s) (h : u ++ r = v ++ s) :
    u = v ∧ r = s := by
  have front {w t : List Char} (hw : ∀ c ∈ w, isWordChar c = true) (ht : Ends t) :
      (w ++ t).takeWhile isWordChar = w := by
    rw [List.takeWhile_append_of_pos hw]
    cases t with
    | nil => simp
    | cons c rest => simp [ht c rest rfl]
  have same : u = v := by rw [← front hu hr, h, front hv hs]
  exact ⟨same, List.append_cancel_left (same ▸ h)⟩

variable {α : Type} {text : α → String} {ok : α → Prop} {close : Char} {r s : List Char}

/-- Whether a text can be told from all others of some sort if both are followed by what ends them. -/
def Separates (text : α → String) (ok : α → Prop) (x : α) : Prop :=
  ∀ y r s, ok y → Ends r → Ends s → (text x).toList ++ r = (text y).toList ++ s → x = y ∧ r = s

/-- A row of texts, from its first comma on. -/
def commaTail (text : α → String) (xs : List α) : List Char :=
  xs.flatMap fun x => ',' :: ' ' :: (text x).toList

theorem commas_cons (x : α) (xs : List α) :
    (Value.commas ((x :: xs).map text)).toList = (text x).toList ++ commaTail text xs := by
  rw [Value.commas, String.toList_intercalate, List.map_map]
  induction xs generalizing x with
  | nil => simp [commaTail]
  | cons y ys ih =>
    rw [List.map_cons, List.map_cons, List.intercalate_cons_cons, ← List.map_cons, ih]
    simp [commaTail]

theorem commaTail_ends (noWord : isWordChar close = false) (xs : List α) :
    Ends (commaTail text xs ++ close :: r) := by
  cases xs with
  | nil => exact .cons noWord
  | cons y ys => exact .cons (by decide)

/-- Rows are told from each other and from what follows, from the first comma on. -/
theorem commaTail_separates (noWord : isWordChar close = false) (noComma : close ≠ ',') :
    ∀ {xs ys : List α}, (∀ x ∈ xs, Separates text ok x) → (∀ y ∈ ys, ok y) →
      commaTail text xs ++ close :: r = commaTail text ys ++ close :: s → xs = ys ∧ r = s
  | [], [], _, _, h => ⟨rfl, (List.cons.inj h).2⟩
  | [], _ :: _, _, _, h => absurd (List.cons.inj h).1 noComma
  | _ :: _, [], _, _, h => absurd (List.cons.inj h).1.symm noComma
  | x :: xs, y :: ys, each, valid, h => by
    simp only [commaTail, List.flatMap_cons, List.cons_append, List.cons.injEq, true_and,
      List.append_assoc] at h
    obtain ⟨rfl, rest⟩ := each x (List.mem_cons_self ..) y _ _ (valid y (List.mem_cons_self ..))
      (commaTail_ends noWord xs) (commaTail_ends noWord ys) h
    obtain ⟨rfl, rfl⟩ := commaTail_separates noWord noComma (fun z hz => each z (List.mem_cons_of_mem _ hz))
      (fun z hz => valid z (List.mem_cons_of_mem _ hz)) rest
    exact ⟨rfl, rfl⟩

/-- Rows are told from each other up to the sign that closes them, if no text begins with it. -/
theorem commas_separate (noWord : isWordChar close = false) (noComma : close ≠ ',')
    (begins : ∀ x, ok x → ∃ c rest, (text x).toList = c :: rest ∧ c ≠ close) {xs ys : List α}
    (each : ∀ x ∈ xs, ok x ∧ Separates text ok x) (valid : ∀ y ∈ ys, ok y)
    (h : (Value.commas (xs.map text)).toList ++ close :: r =
      (Value.commas (ys.map text)).toList ++ close :: s) : xs = ys ∧ r = s := by
  have other {x : α} (hx : ok x) {xs : List α} {r s : List Char} :
      close :: r ≠ (Value.commas ((x :: xs).map text)).toList ++ s := by
    obtain ⟨c, rest, eq, ne⟩ := begins x hx
    rw [commas_cons, eq]
    exact fun same => ne (List.cons.inj same).1.symm
  cases xs with
  | nil =>
    cases ys with
    | nil => exact ⟨rfl, (List.cons.inj h).2⟩
    | cons y ys => exact absurd h (other (valid y (List.mem_cons_self ..)))
  | cons x xs =>
    obtain ⟨hx, separates⟩ := each x (List.mem_cons_self ..)
    cases ys with
    | nil => exact absurd h.symm (other hx)
    | cons y ys =>
      rw [commas_cons, commas_cons, List.append_assoc, List.append_assoc] at h
      obtain ⟨rfl, rest⟩ := separates y _ _ (valid y (List.mem_cons_self ..))
        (commaTail_ends noWord xs) (commaTail_ends noWord ys) h
      obtain ⟨rfl, rfl⟩ := commaTail_separates noWord noComma
        (fun z hz => (each z (List.mem_cons_of_mem _ hz)).2)
        (fun z hz => valid z (List.mem_cons_of_mem _ hz)) rest
      exact ⟨rfl, rfl⟩

/-! ### Texts of forms -/

/-- The text of an entry of an object. -/
def entryText (e : String × Form) : String := e.1 ++ ": " ++ e.2.text

/-- An entry with a name and a value as the language has them. -/
def IsLexicalEntry (e : String × Form) : Prop := IsNameText e.1.toList ∧ e.2.IsLexical

/-- Entries are told from each other by their names, which end at the colon, and then by their values. -/
theorem entryText_separates {e : String × Form} (named : IsNameText e.1.toList)
    (value : Separates Form.text Form.IsLexical e.2) : Separates entryText IsLexicalEntry e := by
  intro e' r s h' hr hs h
  have colon : ": ".toList = [':', ' '] := rfl
  simp only [entryText, String.toList_append, List.append_assoc, colon, List.cons_append,
    List.nil_append] at h
  obtain ⟨names, rest⟩ := words_separate
    (fun c hc => isWordChar_of_continue (named.continues c hc))
    (fun c hc => isWordChar_of_continue (h'.1.continues c hc)) (.cons (by decide)) (.cons (by decide)) h
  obtain ⟨values, rfl⟩ := value e'.2 r s h'.2 hr hs (List.cons.inj (List.cons.inj rest).2).2
  exact ⟨Prod.ext (String.toList_inj.1 names) values, rfl⟩

namespace Form.IsLexical

variable {f g : Form}

/-- Texts that begin alike are those of words, or of forms with one sign. -/
theorem sign?_eq (hf : f.IsLexical) (hg : g.IsLexical) (h : f.text.toList ++ r = g.text.toList ++ s) :
    f.sign? = g.sign? := by
  have noWord {f : Form} {c : Char} (sign : f.sign? = some c) : isWordChar c ≠ true := by
    cases f <;> cases sign <;> decide
  obtain ⟨c, rest, eq, first⟩ := hf.opens
  obtain ⟨d, rest', eq', first'⟩ := hg.opens
  rw [eq, eq'] at h
  obtain rfl : c = d := (List.cons.inj h).1
  rcases first with ⟨none, word⟩ | some
  · rcases first' with ⟨none', _⟩ | some'
    · rw [none, none']
    · exact absurd word (noWord some')
  · rcases first' with ⟨_, word'⟩ | some'
    · exact absurd word' (noWord some)
    · rw [some, some']

/-- Words are told from all other forms. -/
theorem word_separates (hf : f.IsLexical) (word : f.sign? = none) : Separates Form.text IsLexical f := by
  intro g r s hg hr hs h
  have word' : g.sign? = none := (hf.sign?_eq hg h).symm.trans word
  obtain ⟨same, rfl⟩ := words_separate (hf.word_chars word) (hg.word_chars word') hr hs h
  exact ⟨by rw [← hf.ofWord_text word, same, hg.ofWord_text word'], rfl⟩

/-- Texts of forms are told from each other, also if more follows. The induction is on the form. -/
theorem separates (hf : f.IsLexical) : Separates Form.text IsLexical f := by
  induction hf with
  | string value =>
    intro g r s hg _ _ h
    have sign := (IsLexical.string value).sign?_eq hg h
    cases hg with
    | string value' =>
      rw [text, text] at h
      obtain ⟨rfl, rfl⟩ := Text.json_separates h
      exact ⟨rfl, rfl⟩
    | _ => cases sign
  | @list items each ih =>
    intro g r s hg _ _ h
    have sign := (IsLexical.list each).sign?_eq hg h
    cases hg with
    | @list items' each' =>
      have begins (f : Form) (hf : f.IsLexical) : ∃ c rest, f.text.toList = c :: rest ∧ c ≠ ']' := by
        obtain ⟨c, rest, eq, first⟩ := hf.opens
        refine ⟨c, rest, eq, ?_⟩
        rintro rfl
        rcases first with ⟨_, word⟩ | sign
        · revert word
          decide
        · cases f <;> cases sign
      rw [text, text] at h
      simp only [String.toList_append, List.append_assoc] at h
      obtain ⟨rfl, rfl⟩ := commas_separate (by decide) (by decide) begins (fun x hx => ⟨each x hx, ih x hx⟩)
        each' (List.append_cancel_left h)
      exact ⟨rfl, rfl⟩
    | _ => cases sign
  | @object entries named each ih =>
    intro g r s hg _ _ h
    have sign := (IsLexical.object named each).sign?_eq hg h
    cases hg with
    | @object entries' named' each' =>
      have begins (e : String × Form) (he : IsLexicalEntry e) :
          ∃ c rest, (entryText e).toList = c :: rest ∧ c ≠ '\x7d' := by
        obtain ⟨c, rest, eq, start, _⟩ := he.1
        refine ⟨c, _, by rw [entryText, String.toList_append, String.toList_append, eq]; rfl, ?_⟩
        rintro rfl
        revert start
        decide
      rw [text, text] at h
      simp only [String.toList_append, List.append_assoc] at h
      have rows : (Value.commas (entries.map entryText)).toList ++ '\x7d' :: r =
          (Value.commas (entries'.map entryText)).toList ++ '\x7d' :: s := List.append_cancel_left h
      obtain ⟨rfl, rfl⟩ := commas_separate (by decide) (by decide) begins
        (fun e he => ⟨⟨named e he, each e he⟩, entryText_separates (named e he) (ih e he)⟩)
        (fun e he => ⟨named' e he, each' e he⟩) rows
      exact ⟨rfl, rfl⟩
    | _ => cases sign
  | _ => exact word_separates (by constructor <;> assumption) rfl

end Form.IsLexical

end QueryDefaults
