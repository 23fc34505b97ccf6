import QueryDefaults.Node.ScriptedVisitor
import QueryDefaults.Proofs.Native
import QueryDefaults.Proofs.Words

/-!
Handlers of visitors. A method whose name is a side and a kind is called for nodes of just this kind. When a
visitor is made the kind is looked up among the classes of nodes: `camel` gives its words their capitals, and the
result has to be the name of a class without its ending. This does not see letter case nor underscores at the
wrong places, while a call is chosen by the kind as it is spelled. So the handlers that pass are those whose kind
becomes that of a special node when it is spelled as kinds are (`isClassKind_iff`), and those of nothing but
underscores; among these only the ones that are spelled so already are ever called. `visitorOf_handlers` puts the
two sides together.
-/

namespace QueryDefaults

namespace Text

/-! ### Spelling a text as kinds are -/

/-- Whether all characters of a text belong to ASCII. -/
def IsAscii (cs : List Char) : Prop := ∀ c ∈ cs, c.toNat < 128

theorem forall_ascii {P : Char → Prop} (each : ∀ i : Fin 128, P (Char.ofNat (0 + i))) {c : Char}
    (ascii : c.toNat < 128) : P c :=
  forall_between 0 128 each (Nat.zero_le _) (by omega)

theorem titleFirst_of_ascii {c : Char} (ascii : c.toNat < 128) : titleFirst c = [c.toUpper] :=
  forall_ascii (P := fun c => titleFirst c = [c.toUpper]) (by decide) ascii

theorem titleNext_of_ascii {c : Char} (ascii : c.toNat < 128) : titleNext c = [c.toLower] :=
  forall_ascii (P := fun c => titleNext c = [c.toLower]) (by decide) ascii

/-- In ASCII capitals are told from small letters by nothing but the case. -/
theorem toLower_of_ascii {c : Char} (ascii : c.toNat < 128) :
    c.toLower.toNat < 128 ∧ c.toLower.toLower = c.toLower ∧ c.toLower.toUpper = c.toUpper ∧
      c.toUpper.toLower = c.toLower ∧ c.toLower.isAlpha = c.isAlpha ∧ (c.toLower = '_' ↔ c = '_') :=
  forall_ascii (P := fun c => c.toLower.toNat < 128 ∧ c.toLower.toLower = c.toLower ∧
    c.toLower.toUpper = c.toUpper ∧ c.toUpper.toLower = c.toLower ∧ c.toLower.isAlpha = c.isAlpha ∧
      (c.toLower = '_' ↔ c = '_')) (by decide) ascii

/-- A text with small letters only. -/
def lowered (cs : List Char) : List Char := cs.map Char.toLower

/-- Capitals at the beginnings of words come to the same, whatever letters were capitals before. -/
theorem title_lowered {cs : List Char} (ascii : IsAscii cs) (inWord : Bool) :
    title inWord (lowered cs) = title inWord cs := by
  induction cs generalizing inWord with
  | nil => rfl
  | cons c cs ih =>
    obtain ⟨first, rest⟩ := List.forall_mem_cons.1 ascii
    obtain ⟨small, again, upper, _, alpha, _⟩ := toLower_of_ascii first
    have outside : decide (c.toNat > 0x7f) = false := decide_eq_false (by omega)
    have outside' : decide (c.toLower.toNat > 0x7f) = false := decide_eq_false (by omega)
    rw [lowered, List.map_cons, title, title, titleFirst_of_ascii first, titleNext_of_ascii first,
      titleFirst_of_ascii small, titleNext_of_ascii small, again, upper, alpha, outside, outside']
    exact congrArg _ (ih rest _)

/-- Capitals at the beginnings of words change nothing but letter case. -/
theorem lowered_title {cs : List Char} (ascii : IsAscii cs) (inWord : Bool) :
    lowered (title inWord cs) = lowered cs := by
  induction cs generalizing inWord with
  | nil => rfl
  | cons c cs ih =>
    obtain ⟨first, rest⟩ := List.forall_mem_cons.1 ascii
    obtain ⟨_, again, _, upper, _, _⟩ := toLower_of_ascii first
    rw [title, lowered, List.map_append]
    refine (congrArg _ (ih rest _)).trans ?_
    cases inWord with
    | true => rw [if_pos rfl, titleNext_of_ascii first, List.map_singleton, again]; rfl
    | false => rw [if_neg (by decide), titleFirst_of_ascii first, List.map_singleton, upper]; rfl

/-- The parts of a text have its characters, but no underscores. -/
theorem mem_of_mem_parts {cs p : List Char} (part : p ∈ parts cs) : ∀ c ∈ p, c ∈ cs ∧ c ≠ '_' := by
  induction cs generalizing p with
  | nil =>
    obtain rfl := List.mem_singleton.1 part
    exact fun c hc => absurd hc List.not_mem_nil
  | cons d cs ih =>
    have later {p : List Char} (part : p ∈ parts cs) : ∀ c ∈ p, c ∈ d :: cs ∧ c ≠ '_' :=
      fun c hc => ⟨List.mem_cons_of_mem _ (ih part c hc).1, (ih part c hc).2⟩
    rw [parts] at part
    split at part
    · rcases List.mem_cons.1 part with rfl | part
      · exact fun c hc => absurd hc List.not_mem_nil
      · exact later part
    · next ne =>
      have here : d ∈ d :: cs ∧ d ≠ '_' := ⟨List.mem_cons_self .., ne⟩
      split at part
      · obtain rfl := List.mem_singleton.1 part
        exact List.forall_mem_singleton.2 here
      · next q qs found =>
        rcases List.mem_cons.1 part with rfl | part
        · exact List.forall_mem_cons.2 ⟨here, later (found ▸ List.mem_cons_self ..)⟩
        · exact later (found ▸ List.mem_cons_of_mem _ part)

/-- The words of a text: what stands between its underscores, in small letters. -/
def loweredWords (cs : List Char) : List (List Char) := ((parts cs).filter (· ≠ [])).map lowered

/-- A text in small letters, with single underscores between its words. -/
def respelled (cs : List Char) : List Char := joined (loweredWords cs)

theorem mem_loweredWords {cs w : List Char} (ascii : IsAscii cs) (word : w ∈ loweredWords cs) :
    w ≠ [] ∧ IsAscii w ∧ lowered w = w ∧ ∀ c ∈ w, c ≠ '_' := by
  obtain ⟨p, part, rfl⟩ := List.mem_map.1 word
  obtain ⟨part, nonempty⟩ := List.mem_filter.1 part
  have chars (c : Char) (hc : c ∈ p) : c.toNat < 128 := ascii c (mem_of_mem_parts part c hc).1
  refine ⟨mt List.map_eq_nil_iff.1 (by simpa using nonempty), ?_, ?_, ?_⟩
  · exact List.forall_mem_map.2 fun c hc => (toLower_of_ascii (chars c hc)).1
  · rw [lowered, lowered, List.map_map]
    exact List.map_congr_left fun c hc => (toLower_of_ascii (chars c hc)).2.1
  · refine List.forall_mem_map.2 fun c hc => ?_
    obtain ⟨_, _, _, _, _, same⟩ := toLower_of_ascii (chars c hc)
    exact mt same.1 (mem_of_mem_parts part c hc).2

/-- Words that are joined by underscores get their capitals one by one. -/
theorem camel_joined_words {ws : List (List Char)} (letters : ∀ w ∈ ws, ∀ c ∈ w, c ≠ '_') :
    camel (joined ws) = ws.flatMap (title false) := by
  cases ws with
  | nil => rfl
  | cons w ws => rw [camel, parts_joined letters]

theorem flatMap_title_filter (ps : List (List Char)) :
    (ps.filter (· ≠ [])).flatMap (title false) = ps.flatMap (title false) := by
  induction ps with
  | nil => rfl
  | cons p ps ih =>
    cases p with
    | nil => simpa [title] using ih
    | cons c cs => simpa using ih

/-- Neither the case of letters nor underscores at the wrong places matter to the words with capitals. -/
theorem camel_respelled {cs : List Char} (ascii : IsAscii cs) : camel (respelled cs) = camel cs := by
  rw [respelled, camel_joined_words fun w hw => (mem_loweredWords ascii hw).2.2.2, loweredWords,
    List.flatMap_map, camel, ← flatMap_title_filter (parts cs)]
  refine List.flatMap_congr fun p hp => title_lowered (fun c hc => ?_) false
  exact ascii c (mem_of_mem_parts (List.mem_filter.1 hp).1 c hc).1

theorem IsCamel.letters {cs : List Char} (h : IsCamel cs) : ∀ c ∈ cs, c.toLower.isLower = true := by
  obtain ⟨ws, _, words, rfl⟩ := h
  intro c hc
  obtain ⟨w, hw, inside⟩ := List.mem_flatten.1 hc
  cases w with
  | nil => exact absurd inside List.not_mem_nil
  | cons d ds =>
    obtain ⟨first, rest⟩ := words _ hw
    rcases List.mem_cons.1 inside with rfl | inside
    · exact isLower_toLower first
    · exact forall_isLower (P := fun c => c.toLower.isLower = true) (by decide) (rest c inside)

/-- If the words of a text make a name in camel form with their capitals, they make one in snake form without. -/
theorem isSnake_respelled {cs : List Char} (ascii : IsAscii cs) (name : IsCamel (camel cs)) :
    IsSnake (respelled cs) := by
  have words := fun w hw => mem_loweredWords (w := w) ascii hw
  have all : camel cs = (loweredWords cs).flatMap (title false) := by
    rw [← camel_respelled ascii, respelled, camel_joined_words fun w hw => (words w hw).2.2.2]
  refine ⟨loweredWords cs, fun none => name.ne_nil (by rw [all, none]; rfl), fun w hw => ?_, rfl⟩
  obtain ⟨nonempty, chars, small, _⟩ := words w hw
  refine ⟨nonempty, ?_⟩
  rw [← small, ← lowered_title chars false]
  refine List.forall_mem_map.2 fun c hc => name.letters c ?_
  rw [all]
  exact List.mem_flatMap.2 ⟨w, hw, hc⟩

/-- Where no word is left there was none. -/
theorem respelled_eq_nil {cs : List Char} (ascii : IsAscii cs) (none : camel cs = []) : respelled cs = [] := by
  have words := fun w hw => mem_loweredWords (w := w) ascii hw
  rw [← camel_respelled ascii, respelled, camel_joined_words fun w hw => (words w hw).2.2.2,
    List.flatMap_eq_nil_iff] at none
  have empty : loweredWords cs = [] := List.eq_nil_iff_forall_not_mem.2 fun w hw => by
    obtain ⟨nonempty, chars, small, _⟩ := words w hw
    refine nonempty ?_
    rw [← small, ← lowered_title chars false, none w hw]
    rfl
  rw [respelled, empty]
  rfl

end Text

/-! ### Kinds that belong to classes -/

/-- Whether a kind becomes the name of a class of nodes: with capitals, without underscores, and with the
ending of such names. -/
def IsClassKind (kind : String) : Prop :=
  ∃ k ∈ Kind.all, String.ofList (Text.camel kind.toList) ++ classEnding = k.className

theorem Kind.library_of_mem {k : Kind} (mem : k ∈ all) : k.library = k :=
  (by decide : ∀ k ∈ all, library k = k) k mem

theorem isNodeKind_iff (kind : String) : isNodeKind kind.toList = true ↔ IsClassKind kind := by
  simp only [isNodeKind, List.any_eq_true, beq_iff_eq]
  constructor
  · rintro ⟨k, mem, same⟩
    exact ⟨k, mem, same.symm⟩
  · rintro ⟨k, mem, same⟩
    exact ⟨k, mem, same.symm⟩

theorem Kind.camel_text {k : Kind} (mem : k ∈ all) (special : k ≠ .ast) :
    String.ofList (Text.camel k.text.toList) ++ classEnding = k.className := by
  obtain ⟨name, camel, cls, text⟩ := exists_camel (library_of_mem mem) special
  rw [text, cls, kindOfClass_append, String.toList_ofList, Text.camel_snake camel, String.ofList_toList]

/-- In ASCII a kind belongs to a class of nodes if it becomes a special one when it is spelled as these are, or
if nothing is left of it. -/
theorem isClassKind_iff {kind : String} (ascii : Text.IsAscii kind.toList) :
    IsClassKind kind ↔ Text.respelled kind.toList = [] ∨
      ∃ k ∈ Kind.all, k ≠ .ast ∧ k.text.toList = Text.respelled kind.toList := by
  constructor
  · rintro ⟨k, mem, same⟩
    by_cases special : k = .ast
    · refine .inl (Text.respelled_eq_nil ascii ?_)
      rw [special] at same
      exact String.ofList_injective (String.append_left_inj classEnding |>.1 same)
    · obtain ⟨name, camel, cls, text⟩ := Kind.exists_camel (Kind.library_of_mem mem) special
      rw [cls, String.append_left_inj] at same
      have words : Text.camel kind.toList = name.toList := by rw [← same, String.toList_ofList]
      refine .inr ⟨k, mem, special, ?_⟩
      rw [text, cls, kindOfClass_append, String.toList_ofList, ← words, ← Text.camel_respelled ascii]
      exact Text.snake_camel (Text.isSnake_respelled ascii (words ▸ camel))
  · rintro (none | ⟨k, mem, special, same⟩)
    · refine ⟨.ast, by decide, ?_⟩
      rw [← Text.camel_respelled ascii, none]
      rfl
    · refine ⟨k, mem, ?_⟩
      rw [← Text.camel_respelled ascii, ← same, Kind.camel_text mem special]

/-! ### Names of methods -/

/-- The name of the method for one side of nodes of one kind. -/
def handlerName (side : Side) (kind : String) : String := side.text ++ "_" ++ kind

theorem methodKind?_handlerName (side : Side) {kind : String} (nonempty : kind ≠ "") :
    methodKind? (handlerName side kind).toList = some kind.toList := by
  rw [handlerName, String.toList_append]
  match given : kind.toList with
  | [] => exact absurd (String.toList_eq_nil_iff.1 given) nonempty
  | c :: cs => cases side <;> rfl

theorem exists_handlerName {name : String} {cs : List Char} (h : methodKind? name.toList = some cs) :
    ∃ side kind, kind ≠ "" ∧ name = handlerName side kind ∧ kind.toList = cs := by
  unfold methodKind? at h
  dsimp only at h
  split at h
  · next word =>
    split at h
    · next d c kind rest =>
      cases h
      -- What is left after the characters that are no underscores begins with one.
      have stop := List.head?_dropWhile_not (fun c => c != '_') name.toList
      rw [rest] at stop
      obtain rfl : d = '_' := by simpa using stop
      have whole := List.takeWhile_append_dropWhile (p := fun c => c != '_') (l := name.toList)
      have side : ∃ side : Side, name.toList.takeWhile (· != '_') = side.text.toList := by
        rcases word with word | word
        · exact ⟨.enter, by rw [← word, String.toList_ofList]⟩
        · exact ⟨.leave, by rw [← word, String.toList_ofList]⟩
      obtain ⟨side, first⟩ := side
      refine ⟨side, String.ofList (c :: kind), by simp, String.toList_inj.1 ?_, String.toList_ofList⟩
      rw [← whole, first, rest]
      simp [handlerName]
    · cases h
  · cases h

theorem checkMethodName_eq_ok_iff {name : String} (i : Nat) :
    checkMethodName (.str name i) = .ok () ↔
      ∀ side kind, kind ≠ "" → name = handlerName side kind → IsClassKind kind := by
  unfold checkMethodName
  dsimp only
  constructor
  · rintro ok side kind nonempty rfl
    rw [methodKind?_handlerName side nonempty] at ok
    by_contra unknown
    rw [← isNodeKind_iff, Bool.not_eq_true] at unknown
    simp only [unknown] at ok
    cases ok
  · intro each
    split
    · next cs found =>
      obtain ⟨side, kind, nonempty, same, rfl⟩ := exists_handlerName found
      rw [if_pos ((isNodeKind_iff kind).2 (each side kind nonempty same))]
      rfl
    · rfl

/-! ### Making a visitor -/

/-- Whether a method is kept under a text, with the digest of this text. -/
def NamedMethod.IsNamed (m : NamedMethod) (name : String) : Prop :=
  m.digest = .ofText name ∧ ∃ i, m.name = .str name i

/-- Putting a method at a text adds this text to the names that there are. -/
theorem putMethod_named {m : NamedMethod} {name : String} (new : m.IsNamed name) {ms : List NamedMethod}
    {names : List String} (named : List.Forall₂ NamedMethod.IsNamed ms names) :
    ∃ after others, putMethod m ms = .ok after ∧ List.Forall₂ NamedMethod.IsNamed after others ∧
      ∀ n, n ∈ others ↔ n = name ∨ n ∈ names := by
  induction named with
  | nil => exact ⟨[m], [name], rfl, .cons new .nil, by simp⟩
  | @cons k other ms names here rest ih =>
    obtain ⟨digest, i, key⟩ := new
    have test : m.name.isKeyOf m.digest ⟨k.digest, k.name, .null⟩ = .ok (other == name) := by
      obtain ⟨digest', j, key'⟩ := here
      rw [digest, key]
      exact Value.isKeyOf_named ⟨digest', j, key'⟩ name i
    rw [putMethod, test, ok_bind]
    cases same : other == name with
    | true =>
      obtain rfl := eq_of_beq same
      exact ⟨{ k with method := m.method } :: ms, other :: names, rfl, .cons here rest, by simp⟩
    | false =>
      obtain ⟨after, others, put, all, mem⟩ := ih
      refine ⟨k :: after, other :: others, ?_, .cons here all, fun n => ?_⟩
      · rw [put]
        rfl
      · rw [List.mem_cons, List.mem_cons, mem]
        tauto

/-- Methods that are given under texts are all kept, under these texts. -/
theorem foldlM_putMethod {given : List (Value × Method)} {names : List String}
    (texts : List.Forall₂ (fun g n => ∃ i, g.1 = Value.str n i) given names) {ms : List NamedMethod}
    {kept : List String} (named : List.Forall₂ NamedMethod.IsNamed ms kept) :
    ∃ after others,
      (given.foldlM (fun ms (name, method) => do
        let digest ← Traced.keyDigest name
        putMethod { digest, name, method } ms : List NamedMethod → Value × Method → Traced (List NamedMethod))
          ms).result = .ok after ∧
      List.Forall₂ NamedMethod.IsNamed after others ∧ ∀ n, n ∈ others ↔ n ∈ names ∨ n ∈ kept := by
  induction texts generalizing ms kept with
  | nil => exact ⟨ms, kept, rfl, named, by simp⟩
  | @cons g name given names text texts ih =>
    obtain ⟨i, text⟩ := text
    obtain ⟨after, others, put, all, mem⟩ :=
      putMethod_named (m := ⟨.ofText name, g.1, g.2⟩) ⟨rfl, i, text⟩ named
    obtain ⟨last, names', folded, allLast, memLast⟩ := ih all
    refine ⟨last, names', ?_, allLast, fun n => ?_⟩
    · have digest : g.1.digest = .ok (.ofText name) := by
        rw [text]
        rfl
      rw [List.foldlM_cons, Traced.result_bind, Traced.result_bind, Traced.result_keyDigest, digest]
      show (putMethod ⟨.ofText name, g.1, g.2⟩ ms).bind _ = _
      rw [put]
      exact folded
    · rw [memLast, mem, List.mem_cons]
      tauto

theorem Traced.result_forM {α : Type} (f : α → Traced Unit) (xs : List α) :
    (xs.forM f).result = xs.forM fun x => (f x).result := by
  induction xs with
  | nil => rfl
  | cons x xs ih =>
    show (f x >>= fun _ => xs.forM f).result = ((f x).result >>= fun _ => xs.forM fun x => (f x).result)
    rw [Traced.result_bind, ← ih]
    rfl

theorem forM_eq_ok_iff {α : Type} (f : α → Except Fault Unit) (xs : List α) :
    xs.forM f = .ok () ↔ ∀ x ∈ xs, f x = .ok () := by
  induction xs with
  | nil => exact ⟨fun _ x hx => absurd hx List.not_mem_nil, fun _ => rfl⟩
  | cons x xs ih =>
    rw [List.forall_mem_cons, ← ih]
    show (f x >>= fun _ => xs.forM f) = .ok () ↔ f x = .ok () ∧ xs.forM f = .ok ()
    cases f x with
    | error e =>
      constructor
      · rintro ⟨⟩
      · rintro ⟨⟨⟩, _⟩
    | ok _ => exact ⟨fun h => ⟨rfl, h⟩, fun h => h.2⟩

/-- A name for everybody: one that does not begin with an underscore. -/
def IsPublic (name : String) : Prop := name.toList.head? ≠ some '_'

instance : DecidablePred IsPublic := fun name => inferInstanceAs (Decidable (name.toList.head? ≠ some '_'))

/-- What is asked of the methods is asked of the texts that they are kept under. -/
theorem forall_named {ms : List NamedMethod} {names : List String} {p : Value → Prop} {q : String → Prop}
    (same : ∀ n i, p (.str n i) ↔ q n) (named : List.Forall₂ NamedMethod.IsNamed ms names) :
    (∀ m ∈ ms, p m.name) ↔ ∀ n ∈ names, q n := by
  induction named with
  | nil => simp
  | @cons m n ms names here _ ih =>
    obtain ⟨_, i, key⟩ := here
    rw [List.forall_mem_cons, List.forall_mem_cons, ih, key, same]

/-- No method for everybody has one of the names that mean something to classes. -/
theorem hasMethod_public {ms : List NamedMethod} {names special : List String}
    (named : List.Forall₂ NamedMethod.IsNamed ms names) (pub : ∀ n ∈ names, IsPublic n)
    (reserved : ∀ n ∈ special, ¬ IsPublic n) : hasMethod ms special = false := by
  have text (n : String) (i : Nat) :
      ¬ special.any ((Value.str n i).isText ·) = true ↔ n ∉ special := by
    simp [Value.isText]
  rw [hasMethod, List.any_eq_false]
  exact (forall_named (p := fun v => ¬ special.any (v.isText ·) = true) text named).2
    fun n hn mem => reserved n mem (pub n hn)

/-- A method as a visitor has it: with its name, if this is a text. -/
def NamedMethod.kept? (m : NamedMethod) : Option (String × Method) :=
  match m.name with
  | .str name _ => some (name, m.method)
  | _ => none

theorem fst_filterMap_named {ms : List NamedMethod} {names : List String}
    (named : List.Forall₂ NamedMethod.IsNamed ms names) :
    (ms.filterMap NamedMethod.kept?).map Prod.fst = names := by
  induction named with
  | nil => rfl
  | @cons m n ms names here _ ih =>
    obtain ⟨_, i, key⟩ := here
    rw [List.filterMap_cons_some (b := (n, m.method)) (by rw [NamedMethod.kept?, key]), List.map_cons, ih]

/-- Whether the kinds of all handlers among some names belong to classes of nodes. -/
def AllBelong (names : List String) : Prop :=
  ∀ side kind, kind ≠ "" → handlerName side kind ∈ names → IsClassKind kind

theorem forall_checkMethodName {ms : List NamedMethod} {names : List String}
    (named : List.Forall₂ NamedMethod.IsNamed ms names) :
    (∀ m ∈ ms, checkMethodName m.name = .ok ()) ↔ AllBelong names := by
  refine (forall_named (p := fun v => checkMethodName v = .ok ()) (fun n i => checkMethodName_eq_ok_iff i)
    named).trans ⟨fun h side kind nonempty mem => h _ mem side kind nonempty rfl, ?_⟩
  rintro h n mem side kind nonempty rfl
  exact h side kind nonempty mem

/-- Of methods for everybody a visitor is made that has just these, or none is made because of a handler. -/
theorem visitorOf_texts {given : List (Value × Method)} {names : List String}
    (texts : List.Forall₂ (fun g n => ∃ i, g.1 = Value.str n i) given names) (pub : ∀ n ∈ names, IsPublic n) :
    ∃ methods : List (String × Method), (∀ n, n ∈ methods.map Prod.fst ↔ n ∈ names) ∧
      ((visitorOf given).result = .ok (.visitor methods) ∧ AllBelong names ∨
        (∃ f, (visitorOf given).result = .error f) ∧ ¬ AllBelong names) := by
  obtain ⟨ms, kept, folded, named, mem⟩ := foldlM_putMethod texts .nil
  have same (n : String) : n ∈ kept ↔ n ∈ names := by simp [mem n]
  have pubKept : ∀ n ∈ kept, IsPublic n := fun n hn => pub n ((same n).1 hn)
  have belong : AllBelong kept ↔ AllBelong names := by simp only [AllBelong, same]
  refine ⟨_, fun n => by rw [fst_filterMap_named named, same], ?_⟩
  have run : (visitorOf given).result =
      (ms.forM fun m => checkMethodName m.name).bind fun _ =>
        .ok (.visitor (ms.filterMap NamedMethod.kept?)) := by
    have noClass : hasMethod ms classNames = false := hasMethod_public named pubKept (by decide)
    have noMaker : hasMethod ms makerNames = false := hasMethod_public named pubKept (by decide)
    rw [visitorOf, Traced.result_bind, folded]
    simp only [Except.bind, noClass, noMaker, Bool.false_eq_true, if_false]
    rw [Traced.result_bind, Traced.result_forM]
    rfl
  rw [run, ← belong, ← forall_checkMethodName named, ← forM_eq_ok_iff]
  cases checked : ms.forM fun m => checkMethodName m.name with
  | ok _ => exact .inl ⟨rfl, rfl⟩
  | error f => exact .inr ⟨⟨f, rfl⟩, fun h => nomatch h⟩

/-! ### Calls -/

theorem handlerName_injective {side : Side} {kind kind' : String}
    (same : handlerName side kind = handlerName side kind') : kind = kind' :=
  String.append_right_inj _ |>.1 same

/-- A handler that a visitor has is called for nodes of a kind if its own kind is spelled like this one. -/
theorem method?_handlerName {methods : List (String × Method)} {side : Side} {kind : String}
    (has : handlerName side kind ∈ methods.map Prod.fst) (nonempty : kind ≠ "") (k : Kind) :
    (scriptedVisitor methods).method? side k.text = some (handlerName side kind) ↔ k.text = kind := by
  have defined : (scriptedVisitor methods).defines (handlerName side kind) = true := lookup_isSome_iff.2 has
  have apart : side.text ≠ handlerName side kind := fun same => by
    have read := methodKind?_handlerName side nonempty
    rw [← same] at read
    cases side <;> cases read
  constructor
  · intro chosen
    unfold Visitor.method? at chosen
    dsimp only at chosen
    split at chosen
    · exact handlerName_injective (Option.some.inj chosen)
    · split at chosen
      · exact (apart (Option.some.inj chosen)).elim
      · cases chosen
  · rintro rfl
    exact if_pos defined

/-! ### Handlers that pass and handlers that are called -/

/-- Of methods for everybody a visitor is made if the kinds of all handlers among them become names of classes of
nodes, and in ASCII these are the kinds that are special kinds as soon as they are spelled as such, and those of
nothing but underscores. A handler that the visitor has is chosen for the nodes whose kind is spelled as its own
is, and for no others. -/
theorem visitorOf_handlers {given : List (Value × Method)} {names : List String}
    (texts : List.Forall₂ (fun g n => ∃ i, g.1 = Value.str n i) given names) (pub : ∀ n ∈ names, IsPublic n) :
    ((∃ v, (visitorOf given).result = .ok v) ↔
      ∀ side kind, kind ≠ "" → handlerName side kind ∈ names → IsClassKind kind) ∧
    (∀ kind : String, Text.IsAscii kind.toList → (IsClassKind kind ↔ Text.respelled kind.toList = [] ∨
      ∃ k ∈ Kind.all, k ≠ .ast ∧ k.text.toList = Text.respelled kind.toList)) ∧
    ∀ methods i, (visitorOf given).result = .ok (.visitor methods i) →
      ∀ side kind, kind ≠ "" → handlerName side kind ∈ names →
        ∀ k : Kind, (scriptedVisitor methods).method? side k.text = some (handlerName side kind) ↔
          k.text = kind := by
  obtain ⟨methods, same, outcome⟩ := visitorOf_texts texts pub
  refine ⟨?_, fun kind ascii => isClassKind_iff ascii, fun others i made side kind nonempty mem => ?_⟩
  · rcases outcome with ⟨made, belong⟩ | ⟨⟨f, failed⟩, stray⟩
    · exact ⟨fun _ => belong, fun _ => ⟨_, made⟩⟩
    · refine ⟨fun ⟨v, made⟩ => ?_, fun belong => (stray belong).elim⟩
      rw [failed] at made
      cases made
  · rcases outcome with ⟨made', _⟩ | ⟨⟨f, failed⟩, _⟩
    · rw [made'] at made
      cases made
      exact method?_handlerName ((same _).2 mem) nonempty
    · rw [failed] at made
      cases made

/-- A method that lets a walk go on. -/
def idle : Method := ⟨.null, none⟩

/-- Methods under names. -/
def idleMethods (names : List String) : List (Value × Method) := names.map fun name => (.str name, idle)

theorem idleMethods_texts (names : List String) :
    List.Forall₂ (fun g n => ∃ i, g.1 = Value.str n i) (idleMethods names) names := by
  rw [idleMethods, List.forall₂_map_left_iff]
  exact List.forall₂_same.2 fun n _ => ⟨0, rfl⟩

/-- A general method stands beside two handlers that pass, and only one of these is ever called. -/
theorem visitorOf_handlers_object :
    (∃ v, (visitorOf (idleMethods ["leave", "leave_object_value", "enter_OBJECT__value"])).result = .ok v) ∧
    ∀ methods i, (visitorOf (idleMethods ["leave", "leave_object_value", "enter_OBJECT__value"])).result =
        .ok (.visitor methods i) →
      (∃ k ∈ Kind.all, (scriptedVisitor methods).method? .leave k.text = some "leave_object_value") ∧
      ¬ ∃ k ∈ Kind.all, (scriptedVisitor methods).method? .enter k.text = some "enter_OBJECT__value" := by
  have pub : ∀ n ∈ ["leave", "leave_object_value", "enter_OBJECT__value"], IsPublic n := by decide
  obtain ⟨passes, _, chosen⟩ := visitorOf_handlers (idleMethods_texts _) pub
  refine ⟨passes.2 fun side kind nonempty mem => ?_, fun methods i made => ⟨?_, ?_⟩⟩
  · have read := methodKind?_handlerName side nonempty
    simp only [List.mem_cons, List.not_mem_nil, or_false] at mem
    rcases mem with name | name | name
    · rw [name] at read
      cases read
    · rw [name] at read
      obtain rfl : "object_value" = kind := String.toList_inj.1 (Option.some.inj read)
      exact ⟨.objectValue, by decide, by decide⟩
    · rw [name] at read
      obtain rfl : "OBJECT__value" = kind := String.toList_inj.1 (Option.some.inj read)
      exact ⟨.objectValue, by decide, by decide⟩
  · exact ⟨.objectValue, by decide,
      (chosen methods i made .leave "object_value" (by decide) (by decide) _).2 rfl⟩
  · rintro ⟨k, mem, called⟩
    exact (by decide : ∀ k ∈ Kind.all, k.text ≠ "OBJECT__value") k mem
      ((chosen methods i made .enter "OBJECT__value" (by decide) (by decide) k).1 called)

/-- A handler can pass although its kind is none in capitals, and fail although its kind is one. -/
theorem visitorOf_handlers_capitals :
    ¬ ((∃ v, (visitorOf (idleMethods ["enter_NAME"])).result = .ok v) ↔
      ∀ side kind, kind ≠ "" → handlerName side kind ∈ ["enter_NAME"] → ∃ k ∈ Kind.all, k.text = kind) ∧
    ¬ ((∃ v, (visitorOf (idleMethods ["enter_ast"])).result = .ok v) ↔
      ∀ side kind, kind ≠ "" → handlerName side kind ∈ ["enter_ast"] → ∃ k ∈ Kind.all, k.text = kind) := by
  refine ⟨fun h => ?_, fun h => ?_⟩
  · obtain ⟨k, mem, same⟩ := h.1 ⟨_, rfl⟩ .enter "NAME" (by decide) (by decide)
    exact (by decide : ∀ k ∈ Kind.all, k.text ≠ "NAME") k mem same
  · have known : ∀ side kind, kind ≠ "" → handlerName side kind ∈ ["enter_ast"] →
        ∃ k ∈ Kind.all, k.text = kind := by
      intro side kind nonempty mem
      have read := methodKind?_handlerName side nonempty
      rw [List.mem_singleton.1 mem] at read
      exact ⟨.ast, by decide, String.toList_inj.1 (Option.some.inj read)⟩
    obtain ⟨v, made⟩ := h.2 known
    cases made

end QueryDefaults
