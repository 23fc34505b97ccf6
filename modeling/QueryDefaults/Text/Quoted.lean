import QueryDefaults.Text.Point
import QueryDefaults.Text.Printable

/-!
Texts in quotes, as diagnostics show them. Single quotes are used unless the text holds single quotes
and no double ones; the quote, the backslash and whatever is not printable are escaped. `excerpt`
keeps the two ends of a text that is too long.
-/

namespace QueryDefaults.Text

/-- A number in hexadecimal, filled up with zeros to `width` digits. -/
def hex (width n : Nat) : List Char :=
  let digits := Nat.toDigits 16 n
  List.replicate (width - digits.length) '0' ++ digits

/-- The quote to put around a text. -/
def quoteFor (cs : List Char) : Char :=
  if cs.contains '\'' && !cs.contains '"' then '"' else '\''

/-- A character as it stands between the given quotes. -/
def quotedChar (quote c : Char) : List Char :=
  if c = quote ∨ c = '\\' then ['\\', c]
  else if c = '\t' then ['\\', 't']
  else if c = '\n' then ['\\', 'n']
  else if c = '\r' then ['\\', 'r']
  else if c.toNat < 0x20 ∨ c.toNat = 0x7f then '\\' :: 'x' :: hex 2 c.toNat
  else if c.toNat < 0x7f ∨ isPrintable c then [c]
  else if c.toNat ≤ 0xff then '\\' :: 'x' :: hex 2 c.toNat
  else if c.toNat ≤ 0xffff then '\\' :: 'u' :: hex 4 c.toNat
  else '\\' :: 'U' :: hex 8 c.toNat

/-- A code point as it stands between the given quotes. -/
def quotedPoint (quote : Char) : Point → List Char
  | .char c => quotedChar quote c
  | .half i => '\\' :: 'u' :: hex 4 (Point.half i).toNat

/-- A text in quotes. -/
def quoted (s : String) : String :=
  let quote := quoteFor s.toList
  String.ofList (quote :: (pointsOf s).flatMap (quotedPoint quote) ++ [quote])

/-- The greatest length of an excerpt. -/
def excerptLimit : Nat := 240

/-- A text of more than `excerptLimit` characters is cut down to its two ends around three dots. -/
def excerpt (s : String) : String :=
  let cs := s.toList
  if cs.length > excerptLimit then
    let front := (excerptLimit - 3) / 2
    let back := excerptLimit - 3 - front
    String.ofList (cs.take front ++ ['.', '.', '.'] ++ cs.drop (cs.length - back))
  else s

end QueryDefaults.Text
