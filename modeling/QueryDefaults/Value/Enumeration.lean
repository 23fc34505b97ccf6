import QueryDefaults.Text.Blank
import QueryDefaults.Trace
import QueryDefaults.Value.Inspect

/-!
Enumerations. They are made from named values: a value that came before makes its name an alias of the
member that has it, a function becomes no member, and some names are not allowed. Some names do not stand
for members but say which names are none, what order the members must have, and what is to be done about
a value that no member has. A member is found again by its value.
-/

namespace QueryDefaults

/-- Whether a name lies between two runs of `n` underscores, and not of more. -/
def isWrapped (n : Nat) (name : String) : Bool :=
  let line := List.replicate n '_'
  let inner := (name.toList.drop n).take (name.length - 2 * n)
  name.length > 2 * n && name.toList.take n == line && name.toList.drop (name.length - n) == line &&
    inner.head? != some '_' && inner.getLast? != some '_'

/-- Whether a name belongs to the enumeration alone: it begins with the name of the enumeration between
underscores. -/
def isPrivate (name : String) : Bool :=
  let front := ("_" ++ Value.enumerationName ++ "__").toList
  front.isPrefixOf name.toList && name.length > front.length &&
    name.toList.drop (name.length - 2) != ['_', '_']

/-- The attributes of an object that is asked for the values of attributes which it stands for. -/
def bindingNames : List String := ["__get__", "__set__", "__delete__"]

/-- Whether a value belongs to a class rather than to its members: it is a function, or a node with marks
that make it one. -/
def Value.isBound : Value → Bool
  | method .. => true
  | node n => n.attrs.any fun (name, _) => bindingNames.contains name
  | v => v.isFunction

/-- An enumeration that is being made: the values of its names so far, its members, the names that become
no members, and the order that the members should have. -/
structure EnumerationDraft where
  values : List (String × Value) := []
  members : List (String × Value) := []
  ignored : List Value := []
  order : Option Value := none

/-- The member that has a value, if there is one: it is looked up as a key, or compared with the values of
all members if it cannot be a key. -/
def memberFor? (members : List (String × Value)) (v : Value) : Except Fault (Option Value) :=
  match byDigest with
  | .error f =>
    if f.cls = .type then first (fun own => own.equals v) members
    else if f.cls = .key then .ok none
    else .error f
  | found => found
where
  /-- The first member whose value passes a test. -/
  first (test : Value → Except Fault Bool) : List (String × Value) → Except Fault (Option Value)
    | [] => return none
    | (_, m) :: ms => do
      if ← test m.memberValue then return some m
      first test ms
  /-- The member that is found by the digest of the value. -/
  byDigest : Except Fault (Option Value) := do
    let d ← v.digest
    first (fun own => match own.digest with
      | .ok e => v.isKeyOf d ⟨e, own, own⟩
      | .error _ => return false) members

/-- The name of the function of an enumeration for values that no member has. -/
def missingName : String := "_missing_"

/-- The names in a text, which are separated by blanks and commas. -/
def namesIn (s : String) : List Value :=
  let spaced := s.toList.map fun c => if c = ',' then ' ' else c
  (Text.words spaced).map fun w => .str (String.ofList w)

/-- Names that are given as a text or in a row. -/
def namesOf (v : Value) : Except Fault (List Value) :=
  match v with
  | .str s _ => .ok (namesIn s)
  | v => v.toList

/-- Whether one of the values is equal to a text. -/
def containsText (vs : List Value) (name : String) : Bool := vs.any (·.isText name)

namespace EnumerationDraft

/-- A name that has a value already. -/
def taken (name : String) (v : Value) : Except Fault EnumerationDraft := do
  let shown ← v.repr
  throw (.custom .type (sentence [Text.quoted name, " already defined as ", shown]))

/-- Sets the names that become no members; no member may have one of them already. -/
def ignore (d : EnumerationDraft) (v : Value) : Except Fault EnumerationDraft := do
  let names ← namesOf v
  let _ ← names.mapM Value.digest
  match d.members.filter fun (name, _) => containsText names name with
  | [] => return { d with ignored := names }
  | clashes =>
    throw (.custom .value (sentence ["_ignore_ cannot specify already set names: \x7b",
      ", ".intercalate (clashes.map fun (name, _) => Text.quoted name), "\x7d"]))

/-- Names between underscores that mean something to an enumeration once it is made. -/
def controlNames : List String :=
  [missingName, "_generate_next_value_", "_numeric_repr_", "_iter_member_", "_iter_member_by_value_",
    "_iter_member_by_def_"]

/-- The name of the order that members should have. -/
def orderName : String := "_order_"

/-- Gives a value to a name between underscores. -/
def control (d : EnumerationDraft) (name : String) (v : Value) : Except Fault EnumerationDraft :=
  match name with
  | "_order_" => return { d with order := some v }
  | "_ignore_" => d.ignore v
  | name =>
    if controlNames.contains name then return { d with values := putNamed name v d.values } else
      throw (.custom .value
        (sentence ["_sunder_ names, such as ", Text.quoted name, ", are reserved for future Enum use"]))

/-- Gives a value to a name. -/
def add (id : Nat) (d : EnumerationDraft) (name : String) (v : Value) : Except Fault EnumerationDraft :=
  let named : EnumerationDraft := { d with values := putNamed name v d.values }
  if isPrivate name then return named
  else if isWrapped 1 name then d.control name v
  else if name = "__order__" then d.control orderName v
  else if isWrapped 2 name then return named
  else
    match d.members.lookup name, d.values.lookup name with
    | some _, some w => taken name w
    | none, some w =>
      if v.isBound || containsText d.ignored name then return named else taken name w
    | _, none =>
      if v.isBound || containsText d.ignored name then return named
      else do
        let known ← memberFor? d.members v
        return { named with members := d.members ++ [(name, known.getD (.member id name v))] }

/-- The names of the members, without aliases. -/
def memberNames (d : EnumerationDraft) : List String :=
  (d.members.filter fun (name, m) => match m with | .member _ own _ => own == name | _ => true).map Prod.fst

/-- Fails if the members are not in the order that they should have. Aliases do not count. -/
def checkOrder (d : EnumerationDraft) : Except Fault Unit := do
  let v := if containsText d.ignored orderName then .null else d.order.getD .null
  if v.truthy then
    let given ← namesOf v
    let _ ← given.mapM Value.digest
    let names := d.memberNames
    let aliases := (d.members.map Prod.fst).filter fun name => !names.contains name
    let counted := given.filter fun o => !aliases.any (o.isText ·)
    if counted.length ≠ names.length || !(counted.zip names).all fun (o, name) => o.isText name then
      let actual ← (Value.list (names.map .word)).repr
      let expected ← (Value.list counted).repr
      throw (.custom .type (sentence ["member order does not match _order_:\n  ", actual, "\n  ", expected]))

end EnumerationDraft

/-- The names that no member can have. -/
def reservedMembers : List String := ["", "mro"]

/-- The enumeration with a number made from named values. -/
def enumerationOf (id : Nat) (given : List (String × Value)) : Except Fault Value := do
  let d ← given.foldlM (fun d (name, v) => d.add id name v) ({} : EnumerationDraft)
  match reservedMembers.filter fun name => (d.members.lookup name).isSome with
  | [] =>
    d.checkOrder
    let others := d.values.filter fun (name, _) =>
      (d.members.lookup name).isNone && !containsText d.ignored name
    return .enumeration d.members others id
  | names =>
    throw (.custom .value
      (sentence ["invalid enum member name(s) ", ",".intercalate (names.map Text.quoted)]))

/-- The member of an enumeration for a value, which may be a member already. If no member has the value, a
function of the enumeration may name one; `apply` says what functions make of arguments. An enumeration
without members is not asked. -/
def enumerationAt (apply : Value → Value → Traced Value) (id : Nat) (members others : List (String × Value))
    (v : Value) : Traced Value :=
  match v with
  | .member e _ _ => if e = id then return v else find
  | _ => find
where
  /-- What comes of a value that no member has: the function for such values may name a member, or say by
  `null` that there is none. Whatever it says, the value must have a text. -/
  missing (f : Value) : Traced Value := do
    let outcome : Except Fault Value ← try pure (.ok (← apply f v)) catch failure => pure (.error failure)
    match outcome with
    | .ok (.member e name own) => if e = id then return .member e name own else unfit (.member e name own)
    | .ok .null => unknown
    | .ok w => unfit w
    | .error failure => do
      let _ ← v.repr
      throw failure
  /-- The failure of a value that no member has. -/
  unknown : Traced Value := do
    let shown ← v.repr
    throw (.custom .value (sentence [shown, " is not a valid ", Value.enumerationName]))
  /-- The failure of a function that named something else than a member. -/
  unfit (w : Value) : Traced Value := do
    let _ ← v.repr
    let shown ← w.repr
    throw (.custom .type (sentence ["error in ", Value.enumerationName, ".", missingName, ": returned ", shown,
      " instead of None or a valid member"]))
  /-- The member that has the value. -/
  find : Traced Value := do
    Traced.useAsKey v
    match ← memberFor? members v with
    | some m => return m
    | none =>
      if members.isEmpty then
        throw (.custom .type ((Value.enumeration members others).plain ++ " has no members defined"))
      match others.lookup missingName with
      | none => unknown
      | some f => missing f

end QueryDefaults
