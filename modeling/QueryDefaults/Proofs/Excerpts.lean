import Mathlib.Tactic.SplitIfs
import QueryDefaults.Text.Quoted

/-!
Quoted texts and their excerpts. A quoted text consists of characters only (`mark_notMem_quoted`): halves of
surrogate pairs are escaped, so its size can be counted in characters. Its excerpt is the whole text or has
exactly as many characters as the limit allows (`excerpt_short`, `excerpt_long`).
-/

namespace QueryDefaults.Text

theorem digitChar_ne_mark (n : Nat) (small : n < 16) : n.digitChar ≠ mark := by
  revert n
  decide

theorem mark_notMem_toDigits (n : Nat) : mark ∉ Nat.toDigits 16 n := by
  induction n using Nat.strongRecOn with
  | ind n ih =>
    rw [Nat.toDigits_eq_if (by decide)]
    split
    · next small => exact fun mem => digitChar_ne_mark n small (List.mem_singleton.1 mem).symm
    · next large =>
      intro mem
      rcases List.mem_append.1 mem with mem | mem
      · exact ih (n / 16) (by omega) mem
      · exact digitChar_ne_mark (n % 16) (Nat.mod_lt _ (by decide)) (List.mem_singleton.1 mem).symm

theorem mark_notMem_hex (width n : Nat) : mark ∉ hex width n := by
  intro mem
  rcases List.mem_append.1 mem with mem | mem
  · exact absurd (List.eq_of_mem_replicate mem) (by decide)
  · exact mark_notMem_toDigits n mem

theorem isPrintable_mark : isPrintable mark = false := by decide +kernel

theorem quoteFor_ne_mark (cs : List Char) : quoteFor cs ≠ mark := by
  rw [quoteFor]
  split <;> decide

theorem mark_notMem_escape {letter : Char} (unlike : letter ≠ mark) (width n : Nat) :
    mark ∉ '\\' :: letter :: hex width n := by
  intro mem
  rcases List.mem_cons.1 mem with backslash | mem
  · exact absurd backslash (by decide)
  · rcases List.mem_cons.1 mem with same | mem
    · exact unlike same.symm
    · exact mark_notMem_hex width n mem

theorem mark_notMem_quotedChar {quote : Char} (unlike : quote ≠ mark) (c : Char) :
    mark ∉ quotedChar quote c := by
  unfold quotedChar
  split_ifs with plain _ _ _ _ shown
  · intro mem
    rcases List.mem_cons.1 mem with backslash | mem
    · exact absurd backslash (by decide)
    · obtain rfl := List.mem_singleton.1 mem
      exact plain.elim (fun same => unlike same.symm) (absurd · (by decide))
  · decide
  · decide
  · decide
  · exact mark_notMem_escape (by decide) 2 c.toNat
  · intro mem
    obtain rfl := List.mem_singleton.1 mem
    rw [isPrintable_mark] at shown
    exact absurd shown (by decide)
  · exact mark_notMem_escape (by decide) 2 c.toNat
  · exact mark_notMem_escape (by decide) 4 c.toNat
  · exact mark_notMem_escape (by decide) 8 c.toNat

/-- A quoted text has no halves of surrogate pairs: they are escaped, and so is the character that marks them. -/
theorem mark_notMem_quoted (s : String) : mark ∉ (quoted s).toList := by
  intro mem
  have unlike := quoteFor_ne_mark s.toList
  rw [quoted, String.toList_ofList] at mem
  rcases List.mem_append.1 mem with mem | mem
  · rcases List.mem_cons.1 mem with same | mem
    · exact unlike same.symm
    · obtain ⟨point, _, mem⟩ := List.mem_flatMap.1 mem
      cases point with
      | char c => exact mark_notMem_quotedChar unlike c mem
      | half i => exact mark_notMem_escape (by decide) 4 _ mem
  · exact unlike (List.mem_singleton.1 mem).symm

/-- The number of code points of a text. -/
def size (s : String) : Nat := (pointsOf s).length

theorem size_ofList {cs : List Char} (unmarked : mark ∉ cs) : size (String.ofList cs) = cs.length := by
  rw [size, pointsOf, String.toList_ofList, points_of_unmarked unmarked, List.length_map]

theorem size_quoted (s : String) : size (quoted s) = (quoted s).toList.length := by
  rw [size, pointsOf, points_of_unmarked (mark_notMem_quoted s), List.length_map]

theorem quotedPoint_ne_nil (quote : Char) (p : Point) : quotedPoint quote p ≠ [] := by
  cases p with
  | char c =>
    rw [quotedPoint, quotedChar]
    split_ifs <;> exact List.cons_ne_nil _ _
  | half i => exact List.cons_ne_nil _ _

theorem length_le_length_flatMap {α β : Type} {f : α → List β} (each : ∀ x, f x ≠ []) (xs : List α) :
    xs.length ≤ (xs.flatMap f).length := by
  induction xs with
  | nil => exact Nat.zero_le _
  | cons x xs ih =>
    have first := List.length_pos_iff.2 (each x)
    rw [List.flatMap_cons, List.length_append, List.length_cons]
    omega

/-- The quoted form of a text is longer than the text. -/
theorem size_lt_size_quoted (s : String) : size s < size (quoted s) := by
  have inside := length_le_length_flatMap (quotedPoint_ne_nil (quoteFor s.toList)) (pointsOf s)
  rw [size_quoted, size, quoted, String.toList_ofList, List.length_append, List.length_cons]
  omega

/-- A quoted text that does not have more characters than the limit is told as a whole. -/
theorem excerpt_short {s : String} (short : size (quoted s) ≤ 240) : excerpt (quoted s) = quoted s := by
  rw [size_quoted] at short
  exact if_neg (Nat.not_lt.2 short)

/-- A longer one is cut down to as many characters as the limit, and keeps its two ends. -/
theorem excerpt_long {s : String} (long : 240 < size (quoted s)) :
    ∃ front middle back, quoted s = front ++ middle ++ back ∧ size front = 118 ∧ size back = 119 ∧
      excerpt (quoted s) = front ++ "..." ++ back ∧ size (excerpt (quoted s)) = 240 := by
  rw [size_quoted] at long
  have unmarked := mark_notMem_quoted s
  have whole : quoted s = String.ofList (quoted s).toList := String.ofList_toList.symm
  have cut : excerpt (quoted s) = String.ofList ((quoted s).toList.take 118 ++ ['.', '.', '.'] ++
      (quoted s).toList.drop ((quoted s).toList.length - 119)) := if_pos long
  generalize (quoted s).toList = cs at long unmarked whole cut
  have front : mark ∉ cs.take 118 := fun mem => unmarked (List.mem_of_mem_take mem)
  have back : mark ∉ cs.drop (cs.length - 119) := fun mem => unmarked (List.mem_of_mem_drop mem)
  refine ⟨.ofList (cs.take 118), .ofList ((cs.drop 118).take (cs.length - 237)),
    .ofList (cs.drop (cs.length - 119)), ?_, ?_, ?_, ?_, ?_⟩
  · have gap : 118 + (cs.length - 237) = cs.length - 119 := by omega
    rw [whole, ← String.ofList_append, ← String.ofList_append, List.append_assoc, ← gap, ← List.drop_drop,
      List.take_append_drop, List.take_append_drop]
  · rw [size_ofList front, List.length_take]
    omega
  · rw [size_ofList back, List.length_drop]
    omega
  · rw [cut, String.ofList_append, String.ofList_append]
  · rw [cut, size_ofList]
    · simp only [List.length_append, List.length_take, List.length_drop, List.length_cons, List.length_nil]
      omega
    · intro mem
      rcases List.mem_append.1 mem with mem | mem
      · rcases List.mem_append.1 mem with mem | mem
        · exact front mem
        · exact absurd mem (by decide)
      · exact back mem

end QueryDefaults.Text
