import QueryDefaults.Text.Json

/-!
JSON strings can be read back. `readJson` reads a JSON string behind its first quote: it undoes the escapes up
to the quote that closes the string. That quote is found in any text that goes on behind it, since the quotes
of the string itself are escaped (`readJson_flatMap`). So two strings are the same if the texts that begin
with them are (`json_separates`).
-/

namespace QueryDefaults.Text

/-- The number that hexadecimal digits stand for. -/
def ofHex (cs : List Char) : Nat :=
  cs.foldl (fun n c => 16 * n + if c.isDigit then c.toNat - '0'.toNat else c.toNat - 'a'.toNat + 10) 0

/-- The character that a letter or a sign behind a backslash stands for. -/
def unescaped (c : Char) : Char :=
  if c = 'n' then '\n'
  else if c = 'r' then '\r'
  else if c = 't' then '\t'
  else if c = 'f' then '\x0c'
  else if c = 'b' then '\x08'
  else c

/-- Reads the rest of a JSON string up to the closing quote: its characters, and what follows. -/
def readJson : List Char → Option (List Char × List Char)
  | [] => none
  | '"' :: rest => some ([], rest)
  | '\\' :: 'u' :: a :: b :: c :: d :: rest =>
    (readJson rest).map fun (s, left) => (Char.ofNat (ofHex [a, b, c, d]) :: s, left)
  | '\\' :: c :: rest => (readJson rest).map fun (s, left) => (unescaped c :: s, left)
  | c :: rest => (readJson rest).map fun (s, left) => (c :: s, left)

/-- Control characters have four hexadecimal digits, which stand for them. -/
theorem hex_control : ∀ i : Fin 32, ∃ c d, hex 4 i = ['0', '0', c, d] ∧ ofHex ['0', '0', c, d] = i := by
  intro i
  refine ⟨Nat.digitChar (i / 16), Nat.digitChar (i % 16), ?_, ?_⟩
  · revert i
    decide
  · revert i
    decide

/-- A character is read back from its place inside a JSON string. -/
theorem readJson_jsonChar (c : Char) (rest : List Char) :
    readJson (jsonChar c ++ rest) = (readJson rest).map fun (s, left) => (c :: s, left) := by
  by_cases short : c ∈ ['"', '\\', '\n', '\r', '\t', '\x0c', '\x08']
  · simp only [List.mem_cons, List.not_mem_nil, or_false] at short
    rcases short with rfl | rfl | rfl | rfl | rfl | rfl | rfl <;> rfl
  simp only [List.mem_cons, List.not_mem_nil, or_false, not_or] at short
  by_cases control : c.toNat < 0x20
  · obtain ⟨x, y, digits, value⟩ := hex_control ⟨c.toNat, control⟩
    have shown : jsonChar c = '\\' :: 'u' :: '0' :: '0' :: x :: [y] := by
      simp [jsonChar, short, control, digits]
    rw [shown]
    simp only [List.cons_append, List.nil_append, readJson, value, Char.ofNat_toNat]
  · have shown : jsonChar c = [c] := by simp [jsonChar, short, control]
    rw [shown, List.singleton_append, readJson]
    all_goals simp_all

/-- What stands between the quotes of a JSON string is read back, whatever follows the closing quote. -/
theorem readJson_flatMap (s rest : List Char) :
    readJson (s.flatMap jsonChar ++ '"' :: rest) = some (s, rest) := by
  induction s with
  | nil => rfl
  | cons c s ih => rw [List.flatMap_cons, List.append_assoc, readJson_jsonChar, ih, Option.map_some]

/-- A JSON string at the beginning of a text can only be one, and ends at one place. -/
theorem json_separates {s t : String} {r r' : List Char}
    (h : (json s).toList ++ r = (json t).toList ++ r') : s = t ∧ r = r' := by
  have read (u : String) (rest : List Char) :
      readJson (((json u).toList ++ rest).drop 1) = some (u.toList, rest) := by
    rw [json, String.toList_ofList, List.cons_append, List.cons_append, List.drop_one, List.tail_cons,
      List.append_assoc, List.singleton_append]
    exact readJson_flatMap u.toList rest
  have same : some (s.toList, r) = some (t.toList, r') := by rw [← read s r, h, read t r']
  obtain ⟨chars, rests⟩ := Prod.mk.inj (Option.some.inj same)
  exact ⟨String.toList_inj.1 chars, rests⟩

end QueryDefaults.Text
