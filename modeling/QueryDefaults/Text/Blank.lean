import QueryDefaults.Text.Run

/-!
White space as it may stand around a numeral: the 25 characters of the `White_Space` property. Words are
also kept apart by the four separators of ASCII.
-/

namespace QueryDefaults.Text

/-- The runs of white space. -/
def blankRuns : List Run := [
  ⟨0x9, 0xd, 1⟩, ⟨0x20, 0x20, 1⟩, ⟨0x85, 0x85, 1⟩, ⟨0xa0, 0xa0, 1⟩, ⟨0x1680, 0x1680, 1⟩,
  ⟨0x2000, 0x200a, 1⟩, ⟨0x2028, 0x2029, 1⟩, ⟨0x202f, 0x202f, 1⟩, ⟨0x205f, 0x205f, 1⟩,
  ⟨0x3000, 0x3000, 1⟩]

/-- Whether a character is white space. -/
def isBlank (c : Char) : Bool := blankRuns.any (·.contains c)

/-- Whether a character keeps words apart. -/
def isSeparator (c : Char) : Bool := isBlank c || (0x1c ≤ c.toNat && c.toNat ≤ 0x1f)

/-- The words of a text. -/
def words (cs : List Char) : List (List Char) :=
  (cs.splitBy fun c d => isSeparator c == isSeparator d).filter fun w => !w.all isSeparator

/-- A text without the white space at its ends. -/
def trimBlanks (cs : List Char) : List Char :=
  ((cs.dropWhile isBlank).reverse.dropWhile isBlank).reverse

end QueryDefaults.Text
