import QueryDefaults.Number.Double
import QueryDefaults.Text.Blank
import QueryDefaults.Text.Digit

/-!
Reading numerals. White space may surround a numeral, a sign may precede it, and single underscores
may stand between its digits, which may come from any script. `readInt?` reads integers of at most
`digitLimit` digits; `readDouble?` reads decimals, infinities and not-a-numbers, correctly rounded.
-/

namespace QueryDefaults.Numeral

open Text

/-- The greatest number of digits that an integer numeral may have. -/
def digitLimit : Nat := 4300

/-- The sign at the front of a numeral, and what follows it. -/
def sign : List Char → Bool × List Char
  | '-' :: rest => (true, rest)
  | '+' :: rest => (false, rest)
  | rest => (false, rest)

/-- The digits at the front of a text, single underscores between them left out, and what follows. -/
def digits : List Char → List Nat × List Char
  | [] => ([], [])
  | '_' :: rest => ([], '_' :: rest)
  | c :: '_' :: d :: rest =>
    match digitValue? c with
    | none => ([], c :: '_' :: d :: rest)
    | some n =>
      if isDigit d then
        let (ns, left) := digits (d :: rest)
        (n :: ns, left)
      else ([n], '_' :: d :: rest)
  | c :: rest =>
    match digitValue? c with
    | none => ([], c :: rest)
    | some n =>
      let (ns, left) := digits rest
      (n :: ns, left)

/-- The number that decimal digits stand for. -/
def ofDigits (ns : List Nat) : Nat := ns.foldl (fun acc d => acc * 10 + d) 0

/-- Applies a sign. -/
def signed (negative : Bool) (n : Nat) : Int := if negative then -(n : Int) else n

/-- The integer that a text spells. -/
def readInt? (text : String) : Option Int :=
  let (negative, body) := sign (trimBlanks text.toList)
  match digits body with
  | (d :: ds, []) =>
    if ds.length < digitLimit then some (signed negative (ofDigits (d :: ds))) else none
  | _ => none

/-- How many digits a text begins with, after white space and a sign. None of them counts if an underscore
comes after them that may not stand there. -/
def digitCount (text : String) : Nat :=
  match digits (sign (trimBlanks text.toList)).2 with
  | (_, '_' :: _) => 0
  | (ns, _) => ns.length

/-- The exponent at the end of a decimal: `e` or `E`, a sign and digits; or nothing. -/
def exponent? : List Char → Option Int
  | [] => some 0
  | e :: rest =>
    if e = 'e' ∨ e = 'E' then
      let (negative, body) := sign rest
      match digits body with
      | (d :: ds, []) => some (signed negative (ofDigits (d :: ds)))
      | _ => none
    else none

/-- The double nearest to `± d₁d₂… * 10 ^ scale`. Decimals far outside the range of doubles are
settled by their magnitude alone. -/
def decimal (negative : Bool) (ns : List Nat) (scale : Int) : Double :=
  let ns := ns.dropWhile (· == 0)
  let magnitude : Int := ns.length + scale
  if ns.isEmpty ∨ magnitude < -400 then .ofRatio negative 0 1
  else if magnitude > 400 then .inf negative
  else .ofRatio negative (ofDigits ns * Nat.pow 10 scale.toNat) (Nat.pow 10 (-scale).toNat)

/-- The decimal that a text without sign and white space spells. -/
def readDecimal? (negative : Bool) (body : List Char) : Option Double :=
  let (whole, rest) := digits body
  let (fraction, rest) := match rest with
    | '.' :: rest => digits rest
    | rest => ([], rest)
  if whole.isEmpty && fraction.isEmpty then none
  else (exponent? rest).map fun e => decimal negative (whole ++ fraction) (e - fraction.length)

/-- The double that a text spells. -/
def readDouble? (text : String) : Option Double :=
  let (negative, body) := sign (trimBlanks text.toList)
  let word := body.map Char.toLower
  if word = "inf".toList ∨ word = "infinity".toList then some (.inf negative)
  else if word = "nan".toList then some .nan
  else readDecimal? negative body

end QueryDefaults.Numeral
