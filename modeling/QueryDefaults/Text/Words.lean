import QueryDefaults.Text.Cased

/-!
Names made of words. `snake` puts an underscore before every capital letter but the first character
and writes all in lower case; `camel` title-cases the parts between underscores and joins them. On
words of a capital letter followed by small ones the second undoes the first.
-/

namespace QueryDefaults.Text

/-- A character in lower case, with an underscore before it if it is upper case. -/
def snakeChar (c : Char) : List Char := if isUpper c then '_' :: lower c else lower c

/-- A name of joined words as words joined by underscores. -/
def snake : List Char → List Char
  | [] => []
  | c :: cs => lower c ++ cs.flatMap snakeChar

/-- A row of texts as words joined by underscores: as `snake` does it with characters. -/
def snakeTexts : List (List Char) → List Char
  | [] => []
  | t :: ts => lowerText t ++ ts.flatMap fun t => if isUpperText t then '_' :: lowerText t else lowerText t

/-- The characters outside ASCII whose title case form lies inside it. -/
def asciiTitles : List (Char × List Char) := [
  ('\u00df', ['S', 's']), ('\u0131', ['I']), ('\u017f', ['S']), ('\ufb00', ['F', 'f']),
  ('\ufb01', ['F', 'i']), ('\ufb02', ['F', 'l']), ('\ufb03', ['F', 'f', 'i']),
  ('\ufb04', ['F', 'f', 'l']), ('\ufb05', ['S', 't']), ('\ufb06', ['S', 't'])]

/-- A character at the beginning of a word. Forms outside ASCII are left as they are. -/
def titleFirst (c : Char) : List Char :=
  match asciiTitles.lookup c with
  | some cs => cs
  | none => [c.toUpper]

/-- A character inside a word. Forms outside ASCII are left as they are. -/
def titleNext (c : Char) : List Char := if c = '\u212a' then ['k'] else [c.toLower]

/-- Words with a capital at the beginning; a word begins after everything that is not a letter. -/
def title (inWord : Bool) : List Char → List Char
  | [] => []
  | c :: cs =>
    (if inWord then titleNext c else titleFirst c) ++ title (c.isAlpha || c.toNat > 0x7f) cs

/-- The parts of a name between underscores. -/
def parts : List Char → List (List Char)
  | [] => [[]]
  | c :: cs =>
    if c = '_' then [] :: parts cs
    else match parts cs with
      | [] => [[c]]
      | p :: ps => (c :: p) :: ps

/-- A name of words joined by underscores as joined words. -/
def camel (cs : List Char) : List Char := (parts cs).flatMap (title false)

end QueryDefaults.Text
