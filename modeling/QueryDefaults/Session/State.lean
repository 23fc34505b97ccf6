import QueryDefaults.Node.Build
import QueryDefaults.Session.Functions
import QueryDefaults.Types.Builtin
import QueryDefaults.Value.Change
import QueryDefaults.Value.Enumeration

/-!
Sessions. A session names objects, numbers the new ones and keeps them in a store, and holds the definitions
of types and what functions do. Its state survives failures. Names and definitions stand for what is kept in
the store; a computation gets views of it.
-/

namespace QueryDefaults

/-- The state of a session, with the digests that were noted since the last step began. -/
structure Session where
  names : List (String × Value)
  defs : List TypeDef := builtinDefs
  functions : List (Nat × Callable) := []
  store : Store := ∅
  nextId : Nat := firstNumber
  logs : List LogRecord := []
  noted : Digests := []

/-- A new session knows the built-in scalars by their names. -/
def Session.new : Session where
  names := builtinTypes.map fun n => (n.name, .type (.named n))

/-! ### Parts of definitions -/

section Parts

variable {m : Type → Type} [Monad m]

/-- An input field with a function applied to its parts. -/
def InputFieldOf.mapParts (f : Value → m Value) (x : InputField) : m InputField := do
  let initial ← f x.default
  let description ← f x.description
  let deprecation ← f x.deprecation
  return { x with default := initial, description, deprecation }

/-- An enum value with a function applied to its parts. -/
def EnumValueOf.mapParts (f : Value → m Value) (u : EnumValue) : m EnumValue := do
  let value ← f u.value
  let description ← f u.description
  let deprecation ← f u.deprecation
  return { u with value, description, deprecation }

/-- Named things with a function applied to each. -/
def mapNamed {α β : Type} (f : α → m β) (named : List (String × α)) : m (List (String × β)) :=
  named.mapM fun (name, a) => do
    let b ← f a
    return (name, b)

/-- A body with a function applied to the values in it. -/
def TypeBody.mapParts (f : Value → m Value) : TypeBody → m TypeBody
  | scalar onValue onLiteral => do
    let onValue ← onValue.mapM f
    let onLiteral ← onLiteral.mapM f
    return scalar onValue onLiteral
  | enum values ids => do
    let values ← mapNamed (·.mapParts f) values
    return enum values ids
  | inputObject source resolved ids => do
    let source ← f source
    let resolved ← resolved.mapM (mapNamed (·.mapParts f))
    return inputObject source resolved ids
  | other => return other

/-- A definition with a function applied to the values in it. -/
def TypeDef.mapParts (f : Value → m Value) (d : TypeDef) : m TypeDef := do
  let description ← f d.description
  let extensions ← f d.extensions
  let body ← d.body.mapParts f
  return { d with description, extensions, body }

end Parts

/-- The definitions of a session as computations see them. -/
def Session.viewedDefs (st : Session) : List TypeDef :=
  st.defs.map fun d => Id.run (d.mapParts fun v => return st.store.view v)

/-! ### Computations in a session -/

/-- A computation in a session. -/
abbrev SessionM := ExceptT Fault (StateM Session)

namespace SessionM

/-- A value as the session keeps it: its new objects get numbers and are put into the store. -/
def keep (v : Value) : SessionM Value :=
  modifyGet fun st =>
    let (v, ⟨store, nextId⟩) := st.store.keep st.nextId v
    (v, { st with store, nextId })

/-- A kept value as computations see it. -/
def view (v : Value) : SessionM Value := do
  let st ← get
  return st.store.view v

/-- A value as computations see it at present. -/
def present (v : Value) : SessionM Value := do
  let v ← keep v
  view v

/-- A computation that gives out numbers. -/
def numbering {α : Type} (f : StateM Nat α) : SessionM α :=
  modifyGet fun st =>
    let (a, nextId) := f.run st.nextId
    (a, { st with nextId })

/-- A number that was not given before. -/
def freshId : SessionM Nat := numbering (numbered 0)

/-- A definition as the session keeps it. -/
def keepDef (d : TypeDef) : SessionM TypeDef := d.mapParts keep

/-- A change as the session makes it: what it puts in is kept. -/
def keepChange : Change → SessionM Change
  | .attr node name v => do
    let v ← keep v
    return .attr node name v
  | .forget node => return .forget node
  | .entries mapping es => do
    let es ← es.mapM fun e => do
      let key ← keep e.key
      let value ← keep e.value
      return { e with key, value }
    return .entries mapping es
  | .items list xs => do
    let xs ← xs.mapM keep
    return .items list xs
  | .fatal id v => do
    let v ← keep v
    return .fatal id v
  | .path id v => do
    let v ← keep v
    return .path id v
  | .digests taken => return .digests taken

/-- Makes a change. -/
def change (c : Change) : SessionM Unit := do
  let c ← keepChange c
  modify fun st => { st with store := st.store.change c }

/-- Has nodes keep the digests that were taken of them. -/
def noteDigests (taken : Digests) : SessionM Unit := do
  if !taken.isEmpty then
    change (.digests taken)
    modify fun st => { st with noted := st.noted ++ taken }

/-- Has nodes keep the digests that are taken of them on the way to the digest of a key. -/
def noteKey (key : Value) : SessionM Unit := noteDigests key.newDigests

/-- Notes what a computation logged and which digests it took. -/
def noteTrace {α : Type} (t : Traced α) : SessionM Unit := do
  modify fun st => { st with logs := st.logs ++ t.logs }
  noteDigests t.taken

/-- A node of the given kind with the given attributes. -/
def newNode (kind : Kind) (attrs : List (String × Value)) : SessionM Value := do
  let n ← NodeOf.build kind attrs
  keep (.node n)

/-- A new function that an expression describes. -/
def newFunction (e : Expr) : SessionM Value := do
  let st ← get
  let (e, w) := e.prepare.run { next := st.nextId }
  set { st with nextId := w.next, functions := st.functions ++ w.functions }
  match e with
  | .made code => keep (.function code)
  | _ => throw .operand

/-- The object of a name. -/
def object (name : String) : SessionM Value := do
  let st ← get
  match st.names.lookup name with
  | some v => return v
  | none => throw .unbound

/-- The type that a notation stands for. -/
def typeOf : TypeNotation → SessionM Value
  | .name text => object text
  | .list of => do
    let inner ← typeOf of
    let inner ← view inner
    let t ← listOf inner
    keep (.type t)
  | .nonNull of => do
    let inner ← typeOf of
    let inner ← view inner
    let t ← nonNullOf inner
    keep (.type t)

/-- The type reference that a notation stands for. -/
def referenceOf : TypeNotation → SessionM Value
  | .name text => do
    let name ← newNode .name [("value", .str text)]
    newNode .namedType [("name", name)]
  | .list of => do
    let inner ← referenceOf of
    newNode .listType [("type", inner)]
  | .nonNull of => do
    let inner ← referenceOf of
    newNode .nonNullType [("type", inner)]

/-- An attribute of a node as it is written: the source location is written as a list, the operation
as its keyword. -/
def writtenForm (name : String) (e : Expr) (v : Value) : Except Fault Value :=
  match name, e, v with
  | "loc", .list _, .list xs _ => return .tuple xs
  | "operation", .data _, .str s _ =>
    match OperationType.ofText? s with
    | some o => return .operation o
    | none =>
      throw (.custom .value (sentence [Text.quoted s, " is not a valid OperationType"]))
  | _, _, v => return v

/-- An exception can only have exceptions behind it. -/
def checkBehind (role : String) (v : Value) : Except Fault Value :=
  match v with
  | .null | .undefined | .exceptionOf _ | .error _ => return v
  | _ => throw (.unsupported .type
      (sentence ["exception ", role, " must be None or derive from BaseException"]))

/-- A text that spells no integer. -/
def noInteger (text : String) : Fault :=
  let count := Numeral.digitCount text
  .unsupported .value (if count > Numeral.digitLimit then
    sentence ["Exceeds the limit (", toString Numeral.digitLimit,
      " digits) for integer string conversion: value has ", toString count,
      " digits; use sys.set_int_max_str_digits() to increase the limit"]
  else "invalid literal for int() with base 10: " ++ ((Text.quoted text).take 200).copy)

/-- The integer that digits spell. -/
def integerOf (digits : String) : Except Fault Value :=
  match Numeral.readInt? digits with
  | some n => return .int n
  | none => throw (noInteger digits)

/-- The control value of a name. -/
def controlOf (name : String) : Except Fault Value :=
  match name with
  | "BREAK" => return .action .stop
  | "SKIP" => return .action .skip
  | name => throw (.unsupported .key (Text.quoted name))

/-- The double that a text spells. -/
def decimalOf (text : String) : Except Fault Value :=
  match Numeral.readDouble? text with
  | some x => return .float x
  | none => throw (.unsupported .value
      (sentence ["could not convert string to float: ", Text.quoted text]))

/-- An attribute of an object that can be had without calling a function. -/
def ownAttr (v : Value) (name : String) : SessionM Value := do
  match v with
  | .member enumeration .. => do
    let enumeration ← view (.enumeration [] [] enumeration)
    (memberConstant enumeration v).attr name
  | v => do
    let st ← get
    let s : Schema :=
      { defs := st.defs, call := fun _ => throw .operand, apply := fun _ _ => throw .operand }
    (s.attr v name).result

mutual

/-- Evaluates an expression to a kept value. -/
def eval : Expr → SessionM Value
  | .data v => keep v
  | .integer digits => do
    let v ← integerOf digits
    keep v
  | .decimal text => do
    let v ← decimalOf text
    keep v
  | .list es => do
    let vs ← evalAll es
    keep (.list vs)
  | .tuple es => do
    let vs ← evalAll es
    keep (.tuple vs)
  | .mapping es => do
    let entries ← evalEntries [] es
    keep (.mapping entries)
  | .location es => do
    let vs ← evalAll es
    let place ← placeOf vs
    keep place
  | .control name => do
    let a ← controlOf name
    keep a
  | .named name => object name
  | .type text => typeOf (TypeNotation.read text.toList)
  | .reference text => referenceOf (TypeNotation.read text.toList)
  | .node kind attrs => do
    let attrs ← evalAttrs attrs
    match Kind.ofText? kind with
    | some kind => newNode kind attrs
    | none => throw (.unsupported .key (Text.quoted kind))
  | .exception kind message cause context => do
    let message ← eval message
    let cause ← eval cause
    let cause ← checkBehind "cause" cause
    let context ← eval context
    let context ← checkBehind "context" context
    keep (.exception 0 kind message cause context)
  | .enumeration members => do
    let members ← evalMembers members
    members.forM fun (_, v) => noteKey v
    let id ← freshId
    let enumeration ← enumerationOf id members
    keep enumeration
  | .delayed body => newFunction (.delayed body)
  | .failing kind message => newFunction (.failing kind message)
  | .coercion c => newFunction (.coercion c)
  | .made code => keep (.function code)
  | .attribute name attr => do
    let v ← object name
    let v ← view v
    let f ← ownAttr v attr
    keep f
termination_by structural e => e

/-- Evaluates expressions from left to right. -/
def evalAll : List Expr → SessionM (List Value)
  | [] => return []
  | e :: es => do
    let v ← eval e
    let vs ← evalAll es
    return v :: vs
termination_by structural es => es

/-- Evaluates the entries of a mapping and puts them behind those that it has already, one after the
other; a key is seen as it is at present. -/
def evalEntries (before : List Entry) : List (Expr × Expr) → SessionM (List Entry)
  | [] => return before
  | (k, e) :: es => do
    let key ← eval k
    let v ← eval e
    let key ← view key
    let t := Traced.keyDigest key
    noteTrace t
    let digest ← t.result
    let entries ← putAt digest key v before
    evalEntries entries es
termination_by structural es => es

/-- Evaluates the attributes of a node. A list is seen with the items that it has at present. -/
def evalAttrs : List (String × Expr) → SessionM (List (String × Value))
  | [] => return []
  | (k, e) :: es => do
    let v ← eval e
    let v ← match v with
      | .list .. => view v
      | v => pure v
    let v ← writtenForm k e v
    let vs ← evalAttrs es
    return (k, v) :: vs
termination_by structural es => es

/-- Evaluates the members of an enumeration; their values are seen as they are at present. -/
def evalMembers : List (String × Expr) → SessionM (List (String × Value))
  | [] => return []
  | (k, e) :: es => do
    let v ← eval e
    let vs ← evalMembers es
    let v ← view v
    return (k, v) :: vs
termination_by structural es => es

end

end SessionM

end QueryDefaults
