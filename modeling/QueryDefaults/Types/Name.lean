import QueryDefaults.Fault
import QueryDefaults.Text.Quoted

/-!
Names. A name is a letter or an underscore followed by letters, digits and underscores, all of them
ASCII; an enum value must not be called like one of the literals `true`, `false` and `null`.
-/

namespace QueryDefaults

/-- Whether a name may begin with a character. -/
def isNameStart (c : Char) : Bool := c = '_' || c.isAlpha

/-- Whether a name may go on with a character. -/
def isNameContinue (c : Char) : Bool := isNameStart c || c.isDigit

/-- The literals that cannot name an enum value. -/
def reservedNames : List String := ["true", "false", "null"]

/-- A value as a name. -/
def checkName : Value → Except Fault String
  | .null => throw .nameMissing
  | .str s _ =>
    match Text.pointsOf s with
    | [] => throw .nameEmpty
    | p :: ps =>
      if !ps.all (·.holds isNameContinue) then throw (.nameCharacters (Text.quoted s))
      else if !p.holds isNameStart then throw (.nameStart (Text.quoted s))
      else return s
  | _ => throw .nameNotText

/-- A value as the name of an enum value. -/
def checkEnumValueName (v : Value) : Except Fault String := do
  let name ← checkName v
  if reservedNames.contains name then throw (.nameReserved name)
  return name

end QueryDefaults
