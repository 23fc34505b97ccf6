import QueryDefaults.Text.Quoted

/-!
Texts as JSON strings. Quotes, backslashes and control characters are escaped, everything else stands
as it is.
-/

namespace QueryDefaults.Text

/-- A character as it stands inside a JSON string. -/
def jsonChar (c : Char) : List Char :=
  if c = '"' ∨ c = '\\' then ['\\', c]
  else if c = '\n' then ['\\', 'n']
  else if c = '\r' then ['\\', 'r']
  else if c = '\t' then ['\\', 't']
  else if c = '\x0c' then ['\\', 'f']
  else if c = '\x08' then ['\\', 'b']
  else if c.toNat < 0x20 then '\\' :: 'u' :: hex 4 c.toNat
  else [c]

/-- A text as a JSON string. -/
def json (s : String) : String := String.ofList ('"' :: s.toList.flatMap jsonChar ++ ['"'])

end QueryDefaults.Text
