import QueryDefaults.Session.Answer
import QueryDefaults.Session.Copies
import QueryDefaults.Text.Words
import QueryDefaults.Validation.Rule
import QueryDefaults.Version

/-!
What can be asked of any object of a session: its attributes, items and length, whether it equals
another one and whether it is the very same one; and the operations on plain data.
-/

namespace QueryDefaults

namespace SessionM

/-- The number of the mapping of a node's marks. A node that has none yet gets an empty one. -/
def marksOf (node : Nat) : SessionM Nat := do
  let st ← get
  match st.store.marks? node with
  | some id => return id
  | none => do
    let id ← freshId
    change (.entries id [])
    change (.attr node marksName (.mapping [] id))
    return id

/-- An attribute of an object. Those of a type are read once more after its fields were resolved. -/
def attrOf (v : Value) (name : String) : SessionM Value := do
  match v with
  | .type t => do
    let _ ← traced (·.typeAttr t name)
    let st ← get
    (st.schema.typeAttr t name).result
  | .node n =>
    if name = marksName then do
      let id ← marksOf n.id
      view (.mapping [] id)
    else n.attr name
  | v => ownAttr v name

/-- The digest of a value; nodes on the way to it keep theirs. -/
def digestOf (v : Value) : SessionM Digest := do
  noteKey v
  v.digest

/-- Whether a value is one of the items. -/
def isAmong (key : Value) : List Value → Except Fault Bool
  | [] => return false
  | x :: xs => do
    if ← x.isItem key then return true
    isAmong key xs

/-- Whether a value holds a key or an item. -/
def holds (v key : Value) : SessionM Bool := do
  match v with
  | .registry types .. => do
    let t ← traced fun _ => registeredAt types key
    return t.isSome
  | .mapping es _ => do
    let d ← digestOf key
    let found ← Value.valueAt? d key es
    return found.isSome
  | .list xs _ | .tuple xs _ | .record _ xs _ => isAmong key xs
  | .str s _ =>
    match key with
    | .str t _ => return Text.isInside t s
    | _ => throw .operand
  | .enumeration _ _ id =>
    match key with
    | .member e _ _ => return e = id
    | .operation _ | .action _ => return false
    | key => throw (.custom .type (sentence ["unsupported operand type(s) for 'in': ", key.quotedClass, " and ",
        v.quotedClass]))
  | .foreign .set _ =>
    match key with
    | .foreign .set _ => return false
    | key => do
      let _ ← digestOf key
      return false
  | .foreign .bytes _ =>
    match key with
    | .foreign .bytes _ => return true
    | .int n _ => if 0 ≤ n ∧ n < 256 then return false else throw (.unsupported .value "")
    | .bool _ => return false
    | _ => throw .operand
  | .foreign .generator _ => return false
  | _ => throw .operand

/-- An item by its number, counted from the end if it is negative. -/
def itemAt (xs : List Value) (key : Value) : Except Fault Value :=
  match Coercions.integer? key with
  | none => throw .operand
  | some i =>
    let k := if i < 0 then i + xs.length else i
    if k < 0 then throw (.unsupported .index "")
    else match xs[k.toNat]? with
      | some x => return x
      | none => throw (.unsupported .index "")

/-- What a value has at a key. -/
def entryAt (v key : Value) : SessionM Value := do
  let missing : Fault := .unsupported .key ""
  match v with
  | .registry types .. => do
    match ← traced fun _ => registeredAt types key with
    | some t => return .type (.named t)
    | none => throw missing
  | .mapping es _ => do
    let d ← digestOf key
    match ← Value.valueAt? d key es with
    | some x => return x
    | none => throw missing
  | .enumeration ms _ _ => do
    let _ ← digestOf key
    match key with
    | .str name _ =>
      match ms.lookup name with
      | some m => return m
      | none => throw missing
    | _ => throw missing
  | .list xs _ | .tuple xs _ | .record _ xs _ => itemAt xs key
  | .str s _ => itemAt ((Text.pointsOf s).map .ofPoint) key
  | .foreign .bytes _ => itemAt [] key
  | _ => throw .operand

/-- Marks a node. -/
def mark (node : Nat) (name : String) (value : Value) : SessionM Unit := do
  let id ← marksOf node
  let st ← get
  match st.store[id]? with
  | some (.mapping es _) => do
    let es ← putAt (.ofText name) (.word name) value es
    change (.entries id es)
  | _ => return

/-- Gives a node other marks, those in a mapping. -/
def replaceMarks (node : Nat) (marks : Value) : SessionM Unit := do
  match ← present marks with
  | .mapping es id => do
    change (.entries id es)
    change (.attr node marksName (.mapping [] id))
  | _ => throw .operand

/-- Whether a digest was taken of a node or given to it. -/
def hasDigest (n : Node) : Bool := n.digest.isSome || (n.attrs.lookup digestName).isSome

/-- Assigns an attribute of a node. The node forgets its digest if the attribute counts for it. -/
def assign (v : Value) (name : String) (value : Value) : SessionM Value := do
  match v with
  | .node n => do
    if hasDigest n then
      if ← holds n.keysValue (.word name) then change (.forget n.id)
    if n.kind.hasPlaceFor name then change (.attr n.id name value)
    else if name = marksName then replaceMarks n.id value
    else if name = "__class__" then throw .operand
    else if name = "__weakref__" then throw .noAttribute
    else mark n.id name value
    return v
  | _ => throw .noAttribute

/-- A text, or a row of texts, as words joined by underscores. -/
def snakeOf (v : Value) : Except Fault (List Char) :=
  match v with
  | .str s _ => return Text.snake s.toList
  | v => do
    let items ← v.toList
    let texts ← items.mapM fun x =>
      match x with
      | .str s _ => return s.toList
      | _ => throw .noAttribute
    return Text.snakeTexts texts

/-- A text; what is no text is no operand. -/
def textArgument (v : Value) : Except Fault String :=
  match v with
  | .str s _ => return s
  | _ => throw .operand

end SessionM

/-- Operations on any object. -/
inductive ObjectOperation where
  | value | text | repr | truth | equal | unequal | same | digestEqual | get | set | copy | deepCopy
  | length | items | contains | item
  deriving DecidableEq, Repr

open SessionM in
/-- Performs an operation on objects. -/
def ObjectOperation.perform (op : ObjectOperation) (args : List Value) : SessionM Answer := do
  match op, args with
  | .value, [v] => answer v
  | .text, [v] => do
    let text ← v.caption .sentence
    answer text
  | .repr, [v] => do
    let text ← v.caption .quoted
    answer text
  | .truth, [v] => answerBool v.truthy
  | .equal, [a, b] => do
    let equal ← a.equals b
    answerBool equal
  | .unequal, [a, b] => do
    let equal ← a.equals b
    answerBool !equal
  | .same, [a, b] => answerBool (a.same b)
  | .digestEqual, [a, b] => do
    let d ← digestOf a
    let b ← present b
    let e ← digestOf b
    answerBool (d == e)
  | .get, [v, name] => do
    let name ← name.attributeName
    attrOf v name >>= answer
  | .set, [v, name, w] => do
    let name ← name.attributeName
    assign v name w >>= answer
  | .copy, [v] => copyOf v >>= answer
  | .deepCopy, [v] => deepCopyOf v >>= answer
  | .length, [x] => do
    let n ← x.length
    answer (.int n)
  | .items, [x] => do
    let items ← x.toList
    answer (.list items)
  | .contains, [x, key] => do
    let found ← holds x key
    answerBool found
  | .item, [x, key] => entryAt x key >>= answer
  | _, _ => throw .operand

/-- Operations on plain data: descriptions, numbers, versions and errors. -/
inductive DataOperation where
  | inspect | isFinite | isInteger | remakeUndefined | reduceUndefined
  | readVersion | makeVersion | version | makeError | errorCodes | snake
  deriving DecidableEq, Repr

open SessionM in
/-- Performs an operation on data. -/
def DataOperation.perform (op : DataOperation) (args : List Value) : SessionM Answer := do
  match op, args with
  | .inspect, [v] => do
    let st ← get
    let description ← v.inspect st.called
    answer description
  | .isFinite, [v] => answerBool v.isFiniteNumber
  | .isInteger, [v] => answerBool v.isWholeNumber
  | .remakeUndefined, [] =>
    answer (.list [.bool true, .list [.str "RuntimeWarning: Redefinition of 'Undefined'"]])
  | .reduceUndefined, [] => answer (.word Value.undefined.plain)
  | .readVersion, [v] => do
    let s ← textArgument v
    let version ← Version.read s
    answer version.toValue
  | .makeVersion, [major, minor, micro, level, serial] =>
    answer (.record .version [major, minor, micro, level, serial])
  | .version, [] =>
    answer (.list [.word Version.current.text, Version.own, .str Version.current.text])
  | .makeError, [message, nodes, path, underlying, extensions] => do
    let e ← GraphQLError.make message nodes path underlying extensions
    answer (.error e)
  | .errorCodes, [] => answer (.list (ErrorCode.all.map fun c => .list [.word c.name, .word c.text]))
  | .snake, [v] => do
    let cs ← snakeOf v
    answerText (String.ofList cs)
  | _, _ => throw .operand

end QueryDefaults
