import QueryDefaults.Number.Shortest
import QueryDefaults.Text.Quoted
import QueryDefaults.Value.Convert

/-!
The texts of values. `repr` is the form for developers: texts in quotes, records with the names of
their fields, nodes with their place. `display` is the form inside sentences: a text stands as it is.
Both fail on a value whose parts do not have the attributes that the form needs. A container inside itself is
elided.
-/

namespace QueryDefaults

/-- A named type as developers see it. -/
def NamedType.repr (n : NamedType) : String :=
  sentence ["<", (Ty.named n).className, " ", Text.quoted n.name, ">"]

namespace Ty

/-- A type as developers see it. -/
def repr : Ty → String
  | named n => n.repr
  | list t _ => sentence ["<GraphQLList ", t.repr, ">"]
  | nonNull t _ => sentence ["<GraphQLNonNull ", t.repr, ">"]
  | wrapper t _ => sentence ["<GraphQLWrappingType ", t.repr, ">"]

/-- The text of a type, as a type reference spells it; a plain wrapper has no spelling. -/
def text : Ty → String
  | named n => n.name
  | list t _ => "[" ++ t.text ++ "]"
  | nonNull t _ => t.text ++ "!"
  | wrapper t _ => (wrapper t).repr

end Ty

/-- An operation inside a sentence. -/
def OperationType.display (o : OperationType) : String := "OperationType." ++ o.name

/-- An operation as developers see it: its name and its keyword. -/
def OperationType.repr (o : OperationType) : String :=
  sentence ["<", o.display, ": ", Text.quoted o.text, ">"]

/-- A control value inside a sentence. -/
def Action.display (a : Action) : String := "VisitorActionEnum." ++ a.name

/-- A boolean as developers see it. -/
def boolText (b : Bool) : String := if b then "True" else "False"

/-- A control value as developers see it: its name and what it stands for. -/
def Action.repr (a : Action) : String := sentence ["<", a.display, ": ", boolText a.stops, ">"]

namespace Value

/-- Texts separated by commas. -/
def commas (ts : List String) : String := ", ".intercalate ts

/-- How objects are shown that have no text of their own. -/
def plain : Value → String
  | null => "None"
  | undefined => "Undefined"
  | bool b => boolText b
  | int n _ => toString n
  | float x _ => x.text
  | str s _ => Text.quoted s
  | operation o => o.repr
  | action a => a.repr
  | type t => t.repr
  | registry types .. => sentence ["<TypeRegistry ", toString types.length, " types>"]
  | context c => sentence ["<ValidationContext errors=", toString c.errors.length, ">"]
  | enumeration .. => sentence ["<enum ", Text.quoted enumerationName, ">"]
  | member _ name _ => enumerationName ++ "." ++ name
  | foreign .set _ => "set()"
  | foreign .bytes _ => "b''"
  | foreign .exceptionClass _ => "<class 'ValueError'>"
  | foreign .builtin _ => "<built-in function len>"
  | _ => "<object>"

/-- The two ways of showing a value: for developers, with texts in quotes, or inside a sentence. -/
inductive Style where
  | quoted | sentence
  deriving DecidableEq

/-- Texts in square brackets. -/
def bracketed (ts : List String) : String := "[" ++ commas ts ++ "]"

/-- Texts in round brackets; a comma follows one that stands alone. -/
def tupled : List String → String
  | [t] => "(" ++ t ++ ",)"
  | ts => "(" ++ commas ts ++ ")"

/-- A text with a label before it. -/
def labelled (label : String) (t : Except Fault String) : Except Fault (List String) := do
  let t ← t
  return [label ++ t]

/-- Whether a release level is left out of a version. -/
def isFinal : Value → Bool
  | str s _ => s.isEmpty || s == "final"
  | v => !v.truthy

mutual

/-- The text of a value; the numbers of the containers around it are given. -/
def render (style : Style) (around : List Nat) : Value → Except Fault String
  | str s _ => return if style = .quoted then Text.quoted s else s
  | int n _ => integerText n
  | type t => return if style = .quoted then t.repr else t.text
  | operation o => return if style = .quoted then o.repr else o.display
  | action a => return if style = .quoted then a.repr else a.display
  | list xs i =>
    if isAround around i then return "[...]" else do
      let ts ← renderAll (i :: around) xs
      return bracketed ts
  | tuple xs i =>
    if isAround around i then return "(...)" else do
      let ts ← renderAll (i :: around) xs
      return tupled ts
  | mapping es i =>
    if isAround around i then return "\x7b...\x7d" else do
      let ts ← renderEntries (i :: around) es
      return "\x7b" ++ commas ts ++ "\x7d"
  | record shape xs _ =>
    if shape = .version ∧ style = .sentence then renderVersion around xs else do
      let ts ← renderAll around xs
      return shape.name ++ "(" ++ commas (shape.fields.zipWith (fun f t => f ++ "=" ++ t) ts) ++ ")"
  | node n => renderNode around n
  | member e name v =>
    if style = .quoted then do
      let t ← render .quoted around v
      return "<" ++ (member e name v).plain ++ ": " ++ t ++ ">"
    else return (member e name v).plain
  | error e => renderError style around e
  | exceptionOf e => renderException style around e
  | v => return v.plain
termination_by structural v => v

/-- The texts of values in a row. -/
def renderAll (around : List Nat) : List Value → Except Fault (List String)
  | [] => return []
  | x :: xs => do
    let t ← render .quoted around x
    let ts ← renderAll around xs
    return t :: ts
termination_by structural xs => xs

/-- The texts of the entries of a mapping. -/
def renderEntries (around : List Nat) : List Entry → Except Fault (List String)
  | [] => return []
  | ⟨_, k, v⟩ :: es => do
    let t ← render .quoted around k
    let u ← render .quoted around v
    let ts ← renderEntries around es
    return (t ++ ": " ++ u) :: ts
termination_by structural es => es

/-- A version: numbers and points, then the first letter of its level and the serial number, unless
the level is `final` or empty. -/
def renderVersion (around : List Nat) : List Value → Except Fault String
  | [major, minor, micro, level, serial] => do
    let a ← render .sentence around major
    let b ← render .sentence around minor
    let c ← render .sentence around micro
    let number := a ++ "." ++ b ++ "." ++ c
    if isFinal level then return number
    else do
      let first ← renderFirst around level
      let n ← render .sentence around serial
      return number ++ first ++ n
  | _ => throw .operand
termination_by structural xs => xs

/-- The first character or item of a release level. -/
def renderFirst (around : List Nat) : Value → Except Fault String
  | str s _ => return Text.firstPoint s
  | list xs _ => do
    let ts ← renderHead around xs
    return bracketed ts
  | tuple xs _ | record _ xs _ => do
    let ts ← renderHead around xs
    return tupled ts
  | _ => throw .operand
termination_by structural v => v

/-- The text of the first of the values in a row. -/
def renderHead (around : List Nat) : List Value → Except Fault (List String)
  | [] => return []
  | x :: _ => do
    let t ← render .quoted around x
    return [t]
termination_by structural xs => xs

/-- A node's class, and its place if it has one. -/
def renderNode (around : List Nat) : Node → Except Fault String
  | ⟨_, kind, attrs, _⟩ => renderPlaced around kind attrs
termination_by structural n => n

/-- A class, and the place among the attributes if there is one. -/
def renderPlaced (around : List Nat) (kind : Kind) : List (String × Value) → Except Fault String
  | [] => return kind.className
  | (k, v) :: as =>
    if k = "loc" then
      if v.truthy then do
        let place ← renderPlace around v
        return kind.className ++ " at " ++ place
      else return kind.className
    else renderPlaced around kind as
termination_by structural as => as

/-- Line and column of a location, or of a node that has such attributes. -/
def renderPlace (around : List Nat) : Value → Except Fault String
  | record .location xs _ => renderPair around xs
  | node n => renderNodePlace around n
  | v => throw (.lacks v "line")
termination_by structural v => v

/-- Line and column. -/
def renderPair (around : List Nat) : List Value → Except Fault String
  | [line, column] => do
    let l ← render .sentence around line
    let c ← render .sentence around column
    return l ++ ":" ++ c
  | _ => throw .noAttribute
termination_by structural xs => xs

/-- Line and column of a node. -/
def renderNodePlace (around : List Nat) : Node → Except Fault String
  | ⟨_, _, attrs, _⟩ => do
    let l ← renderAttr .sentence around "line" attrs
    let c ← renderAttr .sentence around "column" attrs
    return l ++ ":" ++ c
termination_by structural n => n

/-- The attribute of a name. -/
def renderAttr (style : Style) (around : List Nat) (name : String) : List (String × Value) → Except Fault String
  | [] => throw .noAttribute
  | (k, v) :: as => if k = name then render style around v else renderAttr style around name as
termination_by structural as => as

/-- The attribute of a name with a label before it, unless it is false. -/
def renderGiven (around : List Nat) (name : String) : List (String × Value) → Except Fault (List String)
  | [] => throw .noAttribute
  | (k, v) :: as =>
    if k = name then if v.truthy then labelled (name ++ "=") (render .quoted around v) else return []
    else renderGiven around name as
termination_by structural as => as

/-- The attribute of a name as the places of an error. -/
def renderGivenPlaces (around : List Nat) (name : String) : List (String × Value) → Except Fault (List String)
  | [] => throw .noAttribute
  | (k, v) :: as => if k = name then renderPlaces around v else renderGivenPlaces around name as
termination_by structural as => as

/-- The places of an error, in brackets. -/
def renderPlaces (around : List Nat) : Value → Except Fault (List String)
  | list xs _ => renderEach around xs
  | v => if v.truthy then throw .operand else return []
termination_by structural v => v

/-- Places in brackets. -/
def renderEach (around : List Nat) : List Value → Except Fault (List String)
  | [] => return []
  | x :: xs => do
    let t ← renderPlace around x
    let ts ← renderEach around xs
    return ("(" ++ t ++ ")") :: ts
termination_by structural xs => xs

/-- An error: its message and places, or all its parts that are there. -/
def renderError (style : Style) (around : List Nat) : GraphQLError → Except Fault String
  | ⟨message, _, locations, path, _, extensions, _, _, _⟩ =>
    if style = .quoted then do
      let m ← render .quoted around message
      let ls ← if locations.truthy then labelled "locations=" (render .quoted around locations) else pure []
      let ps ← if path.truthy then labelled "path=" (render .quoted around path) else pure []
      let xs ←
        if extensions.truthy then labelled "extensions=" (render .quoted around extensions) else pure []
      return "GraphQLError(" ++ commas (m :: ls ++ ps ++ xs) ++ ")"
    else do
      let places ← renderPlaces around locations
      match message with
      | .str s _ => return " ".intercalate (s :: places)
      | _ => throw .operand
termination_by structural e => e

/-- An exception: what it says, or its class with that. If its class comes from that of the errors of the library, it
is shown as one of these, and needs their attributes. -/
def renderException (style : Style) (around : List Nat) : Exception → Except Fault String
  | ⟨kind, message, _, _, _, derived, _, attrs⟩ =>
    let cls := derived.getD kind.name
    if kind = .graphql then
      if style = .quoted then do
        let m ← renderAttr .quoted around "message" attrs
        let ls ← renderGiven around "locations" attrs
        let ps ← renderGiven around "path" attrs
        let xs ← renderGiven around "extensions" attrs
        return cls ++ "(" ++ commas (m :: ls ++ ps ++ xs) ++ ")"
      else do
        let places ← renderGivenPlaces around "locations" attrs
        match attrs.lookup "message" with
        | some (.str s _) => return " ".intercalate (s :: places)
        | some _ => throw .operand
        | none => throw .noAttribute
    else if style = .quoted then do
      let t ← render .quoted around message
      return cls ++ "(" ++ t ++ ")"
    else render (if kind = .key then .quoted else .sentence) around message
termination_by structural e => e

end

/-- A value as developers see it. -/
def repr (v : Value) : Except Fault String := v.render .quoted []

/-- A value as it stands inside a sentence. -/
def display (v : Value) : Except Fault String := v.render .sentence []

/-- The text of a value as an object. Much has a text of its own, which is the same object every time: a
text is its own, a named type goes by its name, an error by its message if it has no places, an exception by
that of its message, and a node without a place by its class. -/
def caption (style : Style) : Value → Except Fault Value
  | str s i => return if style = .quoted then .str (Text.quoted s) else .str s i
  | type (.named n) => return if style = .quoted then .str n.repr else n.label
  | undefined => return word undefined.plain
  | bool b => return word (boolText b)
  | node n => do
    let t ← renderNode [] n
    return if t = n.kind.className then word t else .str t
  | error e => do
    let t ← renderError style [] e
    return if style = .sentence ∧ !e.locations.truthy then e.message else .str t
  | exceptionOf ⟨kind, message, cause, handled, i, cls, truth, attrs⟩ =>
    if style = .sentence ∧ kind ≠ .key ∧ kind ≠ .graphql then message.caption style
    else do
      let t ← renderException style [] ⟨kind, message, cause, handled, i, cls, truth, attrs⟩
      return .str t
  | v => do
    let t ← v.render style []
    return .str t

end Value

/-- An error's message, followed by its places. -/
def ErrorOf.display (e : GraphQLError) : Except Fault String := (Value.error e).display

end QueryDefaults
