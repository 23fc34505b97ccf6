import QueryDefaults.Value.Attribute

/-!
Making errors. The locations of an error are those of its nodes; an underlying error hands on its cause,
or what was being handled when it came up, and its extensions unless the new error has some of its own.
-/

namespace QueryDefaults

/-- The nodes of an error as they are kept: a single node becomes a list. -/
def nodeList (nodes : Value) : Value :=
  if nodes.truthy then
    match nodes with
    | .list .. => nodes
    | v => .list [v]
  else .null

/-- The locations of those nodes that have one. -/
def locationsOf (nodes : Value) : Except Fault Value :=
  match nodes with
  | .list ns _ => do
    let places ← ns.mapM (·.attr "loc")
    match places.filter (·.truthy) with
    | [] => return .null
    | located => return .list located
  | _ => return .null

/-- A path as it is kept: a list of its items. -/
def pathList (path : Value) : Except Fault Value :=
  if path.truthy then
    match path with
    | .list .. => return path
    | v => do
      let items ← v.toList
      return if items.isEmpty then .null else .list items
  else return .null

/-- Whether a value is an error or an exception. -/
def Value.isFailure : Value → Bool
  | error _ | exceptionOf _ => true
  | _ => false

/-- What a node hands on that is given as the underlying error. It must have the attributes of one, and
only errors and exceptions can be behind it. -/
def NodeOf.handedOn (n : Node) : Except Fault (Value × Value × Value) := do
  let trace ← n.attr "__traceback__"
  if !trace.isNull then throw .operand
  let cause ← n.attr "__cause__"
  let handled ← if cause.truthy then pure .null else n.attr "__context__"
  let extensions := (n.attr? "extensions").getD .null
  if cause.truthy then
    if cause.isFailure then return (cause, .null, extensions) else throw .operand
  else if handled.truthy then
    if handled.isFailure then return (.null, handled, extensions) else throw .operand
  else return (.null, .null, extensions)

/-- What an underlying error hands on: its cause, the failure behind it and its extensions. One that is false hands
on nothing. -/
def handedOn (underlying : Value) : Except Fault (Value × Value × Value) :=
  if underlying.truthy then
    match underlying with
    | .error e =>
      let (cause, handled) := chain e.cause e.context
      .ok (cause, handled, e.extensions)
    | .exceptionOf e =>
      let (cause, handled) := chain e.cause e.context
      .ok (cause, handled, (e.attrs.lookup "extensions").getD .null)
    | .node n => n.handedOn
    | .foreign .exceptionClass _ => .error .operand
    | _ => .error .noAttribute
  else .ok (.null, .null, .null)
where
  /-- A cause comes before a failure that was being handled. -/
  chain (cause handled : Value) : Value × Value :=
    if cause.truthy then (cause, .null)
    else if handled.truthy then (.null, handled)
    else (.null, .null)

/-- An error about nodes. -/
def GraphQLError.make (message nodes path underlying extensions : Value) : Except Fault GraphQLError := do
  let nodes := nodeList nodes
  let locations ← locationsOf nodes
  let path ← pathList path
  let (cause, handled, inherited) ← handedOn underlying
  let extensions := if extensions.truthy then extensions else inherited
  return {
    message, nodes, locations, path, underlying,
    extensions := if extensions.truthy then extensions else .mapping []
    cause
    context := handled }

/-- An error that has a message only. -/
def GraphQLError.ofMessage (message : Value) : GraphQLError :=
  { message, nodes := .null, locations := .null, path := .null, underlying := .null,
    extensions := .mapping [], cause := .null, context := .null }

end QueryDefaults
