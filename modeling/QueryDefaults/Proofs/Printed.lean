import QueryDefaults.Proofs.Literal

/-!
What printed literals tell. What is printed of a literal is the text of its form, so places and the flag of
block strings do not show; as the texts of forms can be told from each other, nothing else is lost. Two
literals with numbers and names as the language has them are printed alike just if they are the same
(`print_eq_iff`).
-/

namespace QueryDefaults

/-- Whether two literals are the same but for places and flags: both have one form. -/
def Value.SameLiteral (v w : Value) : Prop := ∃ f, v.HasForm f ∧ w.HasForm f

/-- A literal or variable with numbers and names as the language has them. -/
def Value.IsLexical (v : Value) : Prop := ∃ f, v.HasForm f ∧ f.IsLexical

/-- Different forms have different texts. -/
theorem Form.IsLexical.text_inj {f g : Form} (hf : f.IsLexical) (hg : g.IsLexical) (h : f.text = g.text) :
    f = g :=
  (hf.separates g [] [] hg .nil .nil (by rw [h])).1

/-- Literals and variables with numbers and names as the language has them are always printed, and two of them
are printed alike just if they are the same but for their places and the flag of block strings. -/
theorem print_eq_iff {v w : Value} (hv : v.IsLexical) (hw : w.IsLexical) :
    ∃ s i t j, v.print = .ok (.str s i) ∧ w.print = .ok (.str t j) ∧ (s = t ↔ v.SameLiteral w) := by
  obtain ⟨f, formV, lexicalV⟩ := hv
  obtain ⟨g, formW, lexicalW⟩ := hw
  obtain ⟨i, printV⟩ := formV.print
  obtain ⟨j, printW⟩ := formW.print
  refine ⟨f.text, i, g.text, j, printV, printW, ?_, ?_⟩
  · intro same
    obtain rfl := lexicalV.text_inj lexicalW same
    exact ⟨f, formV, formW⟩
  · rintro ⟨k, formV', formW'⟩
    rw [Gives.unique ⟨i, printV⟩ formV'.print, Gives.unique ⟨j, printW⟩ formW'.print]

/-- The list literal `["a, b", YAK]` at a place, its string with or without the flag of block strings. -/
def separatorList (place : Value) (block : Bool) : Value :=
  .node ⟨0, .listValue, [("loc", place), ("values", .tuple [
    .node ⟨0, .stringValue, [("loc", place), ("value", .str "a, b"), ("block", .bool block)], none⟩,
    .textNode .enumValue "YAK"])], none⟩

theorem separatorList_isLexical (place : Value) (block : Bool) : (separatorList place block).IsLexical := by
  refine ⟨.list [.string "a, b", .enum "YAK"], .list ⟨rfl, rfl, rfl⟩ rfl rfl fun x f mem => ?_,
    .list fun f mem => ?_⟩
  · simp only [List.zip_cons_cons, List.zip_nil_left, List.mem_cons, Prod.mk.injEq, List.not_mem_nil,
      or_false] at mem
    rcases mem with ⟨rfl, rfl⟩ | ⟨rfl, rfl⟩
    · exact .string ⟨rfl, rfl, rfl⟩ rfl
    · exact .enum ⟨rfl, rfl, rfl⟩ rfl
  · simp only [List.mem_cons, List.not_mem_nil, or_false] at mem
    rcases mem with rfl | rfl
    · exact .string "a, b"
    · exact .enum ⟨'Y', ['A', 'K'], rfl, by decide, List.all_eq_true.1 (by decide)⟩ (by decide)

/-- A literal from the beginning of a source, with the flag of block strings, and the same one without. -/
theorem print_eq_iff_placed :
    (separatorList (.record .location [.int 1, .int 1]) true).IsLexical ∧
      (separatorList .null false).IsLexical ∧
      ∃ s i t j, (separatorList (.record .location [.int 1, .int 1]) true).print = .ok (.str s i) ∧
        (separatorList .null false).print = .ok (.str t j) ∧
        (s = t ↔ (separatorList (.record .location [.int 1, .int 1]) true).SameLiteral
          (separatorList .null false)) :=
  ⟨separatorList_isLexical _ true, separatorList_isLexical .null false,
    print_eq_iff (separatorList_isLexical _ true) (separatorList_isLexical .null false)⟩

end QueryDefaults
