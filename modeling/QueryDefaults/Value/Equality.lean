import QueryDefaults.Value.Digest
import QueryDefaults.Value.Formatted

/-!
Equality of values. Numbers and booleans are equal if they denote the same number; lists, tuples and
mappings are equal by content, records like tuples, mappings in any order. Nodes are equal if they have one
kind and equal attributes for it, or for the names that the first of them lists by itself. A location also
equals the mapping of its line and column, and an error the mapping that it is formatted as, which may fail.
All other objects are equal only to themselves. Inside lists, tuples and mappings an object equals itself
also if it would not by its content, as one that is no number.
-/

namespace QueryDefaults.Value

/-- Whether a value is the number `n`. -/
def isInt (n : Int) : Value → Bool
  | bool b => boolInt b == n
  | int k _ => k == n
  | float x _ => x.equalsInt n
  | _ => false

/-- Whether a value is the given text. -/
def isText (s : String) : Value → Bool
  | str t _ => s == t
  | _ => false

/-- Both of two tests, the second of them only if the first holds. -/
def andThen (a b : Except Fault Bool) : Except Fault Bool := do
  if ← a then b else return false

/-- The first entry that passes a test, which may fail. -/
def firstEntry (test : Entry → Except Fault Bool) : List Entry → Except Fault (Option Entry)
  | [] => return none
  | e :: es => do
    if ← test e then return some e
    firstEntry test es

/-- Whether the attributes are equal that a node of the given kind lists by itself; for all attributes that
it has it is known whether they are. -/
def agreeOn (kind : Kind) (other : Node) (verdicts : List (String × Except Fault Bool)) :
    List Value → Except Fault Bool
  | [] => return true
  | key :: keys => do
    let name ← key.attributeName
    andThen (match verdicts.lookup name with
      | some verdict => verdict
      | none =>
        if name = "kind" then return (other.kindValue.isText kind.text)
        else throw (.lacks (.node other) name))
      (agreeOn kind other verdicts keys)

mutual

/-- Whether two values are equal. -/
def equals : Value → Value → Except Fault Bool
  | bool b, w => return w.isInt (boolInt b)
  | int n _, w => return w.isInt n
  | float x _, w => return match w with
    | float y _ => x.equals y
    | bool b => x.equalsInt (boolInt b)
    | int n _ => x.equalsInt n
    | _ => false
  | str s _, w => return w.isText s
  | list xs _, w => match w with
    | list ys _ => if xs.length = ys.length then equalsAll xs ys else return false
    | _ => return false
  | tuple xs _, w => match w with
    | tuple ys _ | record _ ys _ => equalsAll xs ys
    | _ => return false
  | record shape xs _, w => match w with
    | tuple ys _ | record _ ys _ => equalsAll xs ys
    | mapping fs _ => if shape = .location then equalsPlace xs fs else return false
    | _ => return false
  | mapping es _, w => match w with
    | mapping fs _ => if es.length = fs.length then equalsEntries es fs else return false
    | record .location [l, c] _ =>
      if es.length = 2 then equalsEntries es (placeEntries l c) else return false
    | error e => do
      let fs ← errorEntries e
      if es.length = fs.length then equalsEntries es fs else return false
    | _ => return false
  | node n, w => match w with
    | node m => equalsNode n m
    | _ => return false
  | type t, w => return match w with
    | type u => t.plain == u.plain
    | _ => false
  | inputField f, w => match w with
    | inputField g => equalsField f g
    | _ => return false
  | enumValue v, w => match w with
    | enumValue u => equalsEnumValue v u
    | _ => return false
  | error e, w => match w with
    | error d => equalsError e d
    | mapping fs _ => do
      let _ ← errorEntries e
      equalsFormatted e fs
    | _ => return false
  | method owner _, w => return match w with
    | method other _ => owner == other
    | _ => false
  | foreign f i, w => return match w with
    | foreign g j => f == g && (f == .set || (foreign f i).same (foreign g j))
    | _ => false
  | v, w => return v.same w
termination_by structural v => v

/-- Whether the values in two rows are equal. -/
def equalsAll : List Value → List Value → Except Fault Bool
  | [], ys => return ys.isEmpty
  | x :: xs, ys => match ys with
    | [] => return false
    | y :: ys => andThen (if x.same y then return true else x.equals y) (equalsAll xs ys)
termination_by structural xs => xs

/-- Whether each entry has an equal one in the other mapping. -/
def equalsEntries : List Entry → List Entry → Except Fault Bool
  | [], _ => return true
  | ⟨digest, k, v⟩ :: es, fs => do
    let found ← firstEntry (fun f =>
      if digest == f.digest then (if k.same f.key then return true else k.equals f.key) else return false) fs
    match found with
    | some f => andThen (if v.same f.value then return true else v.equals f.value) (equalsEntries es fs)
    | none => return false
termination_by structural es => es

/-- Whether a mapping is that of a line and a column. -/
def equalsPlace : List Value → List Entry → Except Fault Bool
  | [l, c], fs =>
    if fs.length = 2 then
      match valueFor? fs "line", valueFor? fs "column" with
      | some x, some y =>
        andThen (if l.same x then return true else l.equals x) (if c.same y then return true else c.equals y)
      | _, _ => return false
    else return false
  | _, _ => return false
termination_by structural xs => xs

/-- Whether a value lists the formatted forms of the given places. -/
def equalsPlaces : Value → Value → Except Fault Bool
  | list xs _, w => match w with
    | list ys _ => if xs.length = ys.length then equalsEachFormatted xs ys else return false
    | _ => return false
  | _, _ => return false
termination_by structural v => v

/-- Whether values in a row are the formatted forms of others. -/
def equalsEachFormatted : List Value → List Value → Except Fault Bool
  | [], ys => return ys.isEmpty
  | x :: xs, ys => match ys with
    | [] => return false
    | y :: ys => andThen (equalsFormattedOf x y) (equalsEachFormatted xs ys)
termination_by structural xs => xs

/-- Whether a value is the formatted form of a location, an error or a node. -/
def equalsFormattedOf : Value → Value → Except Fault Bool
  | record _ xs _, w => match w with
    | mapping fs _ => equalsPlace xs fs
    | record .location ys _ => equalsAll xs ys
    | _ => return false
  | error e, w => match w with
    | mapping fs _ => equalsFormatted e fs
    | error d => do
      let fs ← errorEntries d
      equalsFormatted e fs
    | _ => return false
  | node n, w => equalsFormattedNode n w
  | _, _ => return false
termination_by structural v => v

/-- Whether a value is the formatted form of a node. -/
def equalsFormattedNode : Node → Value → Except Fault Bool
  | ⟨_, _, attrs, _⟩, w => equalsNamed "formatted" attrs w
termination_by structural n => n

/-- Whether a value is that of a name. -/
def equalsNamed (name : String) : List (String × Value) → Value → Except Fault Bool
  | [], _ => return false
  | (k, v) :: as, w =>
    if k = name then (if v.same w then return true else v.equals w) else equalsNamed name as w
termination_by structural as => as

/-- Whether two nodes have one kind and equal attributes for it, or for the names that the first lists. -/
def equalsNode : Node → Node → Except Fault Bool
  | ⟨_, kind, attrs, _⟩, m =>
    if kind = m.kind then
      if attrs.isEmpty || m.attrs.isEmpty then throw .endless else
      match attrs.lookup "keys" with
      | none => equalsAttrs kind attrs m.attrs
      | some keys => do
        let keys ← keys.toList
        agreeOn kind m (attrVerdicts attrs m) keys
    else return false
termination_by structural n => n

/-- For all attributes, whether they are equal to those of a node. -/
def attrVerdicts : List (String × Value) → Node → List (String × Except Fault Bool)
  | [], _ => []
  | (k, v) :: as, m =>
    (k, match m.attr? k with
      | some w => v.equals w
      | none => .error (.lacks (.node m) k)) :: attrVerdicts as m
termination_by structural as => as

/-- Whether the attributes of a kind are equal to those in another list. -/
def equalsAttrs (kind : Kind) : List (String × Value) → List (String × Value) → Except Fault Bool
  | [], _ => return true
  | (k, v) :: as, bs =>
    if kind.keys.contains k then
      match bs.lookup k with
      | some w => andThen (v.equals w) (equalsAttrs kind as bs)
      | none => return false
    else equalsAttrs kind as bs
termination_by structural as => as

/-- Whether two input fields are one, or have the same parts. -/
def equalsField : InputField → InputField → Except Fault Bool
  | ⟨id, t, initial, description, deprecation⟩, g =>
    if oneObject id g.id then return true
    else if t.plain = g.type.plain then
      andThen (initial.equals g.default)
        (andThen (description.equals g.description) (deprecation.equals g.deprecation))
    else return false
termination_by structural f => f

/-- Whether two enum values are one, or have the same parts. -/
def equalsEnumValue : EnumValue → EnumValue → Except Fault Bool
  | ⟨id, value, description, deprecation⟩, u =>
    if oneObject id u.id then return true
    else andThen (value.equals u.value)
      (andThen (description.equals u.description) (deprecation.equals u.deprecation))
termination_by structural v => v

/-- Whether two errors have the same message, nodes, locations, path and extensions. -/
def equalsError : GraphQLError → GraphQLError → Except Fault Bool
  | ⟨message, nodes, locations, path, _, extensions, _, _, _⟩, d =>
    andThen (message.equals d.message) (andThen (nodes.equals d.nodes)
      (andThen (locations.equals d.locations) (andThen (path.equals d.path)
        (extensions.equals d.extensions))))
termination_by structural e => e

/-- Whether a mapping is the formatted form of an error. -/
def equalsFormatted : GraphQLError → List Entry → Except Fault Bool
  | ⟨message, _, locations, path, _, extensions, _, _, _⟩, fs =>
    let count := 1 + (if locations.isNull then 0 else 1) + (if path.isNull then 0 else 1) +
      (if extensions.truthy then 1 else 0)
    if fs.length ≠ count then return false else
    andThen (match valueFor? fs "message" with
      | some w =>
        if !message.truthy then return w.isText unknownMessage
        else if message.same w then return true else message.equals w
      | none => return false)
    (andThen (if locations.isNull then return true else
      match valueFor? fs "locations" with
      | some w => equalsPlaces locations w
      | none => return false)
    (andThen (if path.isNull then return true else
      match valueFor? fs "path" with
      | some w => if path.same w then return true else path.equals w
      | none => return false)
    (if !extensions.truthy then return true else
      match valueFor? fs "extensions" with
      | some w => if extensions.same w then return true else extensions.equals w
      | none => return false)))
termination_by structural e => e

end

/-- Whether an item is equal to a value, as it is asked inside a container. -/
def isItem (x y : Value) : Except Fault Bool := if x.same y then return true else x.equals y

end QueryDefaults.Value
