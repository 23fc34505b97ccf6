/-!
Runs of code points, the rows of the character tables.
-/

namespace QueryDefaults.Text

/-- The code points `first, first + step, …` up to `last`. -/
structure Run where
  first : Nat
  last : Nat
  step : Nat

/-- Whether a character lies in the run. -/
def Run.contains (r : Run) (c : Char) : Bool :=
  r.first ≤ c.toNat && c.toNat ≤ r.last && (c.toNat - r.first) % r.step == 0

end QueryDefaults.Text
