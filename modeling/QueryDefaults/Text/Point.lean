/-!
Code points of texts. A text may hold a half of a surrogate pair without the other one, although no
character is one. In a `String` such a half stands as a mark, the last code point of all, and a private
character; the mark itself stands there twice. `points_flatMap_chars` says that nothing is lost by this.
-/

namespace QueryDefaults.Text

/-- A code point of a text: a character, or one of the 2048 halves of surrogate pairs. -/
inductive Point where
  | char (c : Char)
  | half (i : Fin 2048)
  deriving DecidableEq, Repr

/-- The first half of a surrogate pair. -/
def firstHalf : Nat := 0xd800

/-- The half that a number is, if it is one. -/
def half? (n : Nat) : Option Point :=
  if h : firstHalf ≤ n ∧ n < firstHalf + 2048 then some (.half ⟨n - firstHalf, by omega⟩) else none

/-- The character that is no part of any script and marks a half. -/
def mark : Char := Char.ofNat 0x10ffff

/-- The first of the private characters that stand for halves behind a mark. -/
def firstPrivate : Nat := 0xe000

/-- The private character for a half. -/
def privateChar (i : Fin 2048) : Char := Char.ofNat (firstPrivate + i)

/-- The half that a private character is for. -/
def privateHalf? (c : Char) : Option (Fin 2048) :=
  if h : firstPrivate ≤ c.toNat ∧ c.toNat < firstPrivate + 2048 then
    some ⟨c.toNat - firstPrivate, by omega⟩
  else none

namespace Point

/-- The number of a code point. -/
def toNat : Point → Nat
  | char c => c.toNat
  | half i => firstHalf + i

/-- Whether a code point is a character that passes a test. -/
def holds (test : Char → Bool) : Point → Bool
  | char c => test c
  | half _ => false

/-- A code point as it stands in a `String`. -/
def chars : Point → List Char
  | char c => if c = mark then [mark, mark] else [c]
  | half i => [mark, privateChar i]

end Point

/-- The code points that stand in a row of characters. -/
def points : List Char → List Point
  | [] => []
  | [c] => [.char c]
  | c :: d :: rest =>
    if c = mark then
      match privateHalf? d with
      | some i => .half i :: points rest
      | none => .char mark :: points rest
    else .char c :: points (d :: rest)

theorem points_cons {c : Char} (h : c ≠ mark) (cs : List Char) :
    points (c :: cs) = .char c :: points cs := by
  cases cs with
  | nil => rfl
  | cons d rest => rw [points, if_neg h]

/-- A text without the mark has no halves: its code points are its characters. -/
theorem points_of_unmarked : ∀ {cs : List Char}, mark ∉ cs → points cs = cs.map Point.char
  | [], _ => rfl
  | c :: cs, h => by
    rw [List.mem_cons, not_or] at h
    rw [points_cons (Ne.symm h.1), points_of_unmarked h.2, List.map_cons]

theorem privateHalf?_privateChar (i : Fin 2048) : privateHalf? (privateChar i) = some i := by
  have valid : (firstPrivate + i).isValidChar := Or.inr (by unfold firstPrivate; omega)
  have code : (privateChar i).toNat = firstPrivate + i := by
    rw [privateChar, Char.ofNat, dif_pos valid]
    rfl
  simp [privateHalf?, code]

theorem privateHalf?_mark : privateHalf? mark = none := by decide

/-- Code points are read as they were written. -/
theorem points_flatMap_chars (ps : List Point) : points (ps.flatMap Point.chars) = ps := by
  induction ps with
  | nil => rfl
  | cons p ps ih =>
    rw [List.flatMap_cons]
    cases p with
    | char c =>
      by_cases h : c = mark
      · simp [Point.chars, h, points, privateHalf?_mark, ih]
      · simp [Point.chars, h, points_cons h, ih]
    | half i => simp [Point.chars, points, privateHalf?_privateChar, ih]

/-- The code points of a text. -/
def pointsOf (s : String) : List Point := points s.toList

/-- The text of code points. -/
def ofPoints (ps : List Point) : String := String.ofList (ps.flatMap Point.chars)

/-- The number of code points of a text. -/
def pointCount (s : String) : Nat := (pointsOf s).length

/-- The text of one code point. -/
def ofPoint (p : Point) : String := String.ofList p.chars

/-- A text up to its first code point. -/
def firstPoint (s : String) : String := ofPoints ((pointsOf s).take 1)

/-- Whether code points stand side by side in a row of others. -/
def standsIn (part : List Point) : List Point → Bool
  | [] => part.isEmpty
  | p :: ps => part.isPrefixOf (p :: ps) || standsIn part ps

/-- Whether one text stands inside another one. -/
def isInside (part whole : String) : Bool := standsIn (pointsOf part) (pointsOf whole)

end QueryDefaults.Text
