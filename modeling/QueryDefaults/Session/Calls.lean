import QueryDefaults.Session.State

/-!
Calling functions in a session. A call leaves no trace in the session, and the objects that it makes are
new. Computations on the definitions may call functions; afterwards the session remembers the fields
that were resolved on the way.
-/

namespace QueryDefaults

/-- What an object that is not data gives when it is called. -/
def Foreign.call : Foreign → Except Fault Value
  | .lambda => .ok (.int 0)
  | .function => .ok .null
  | .classObject => .ok (.foreign .instanceObject)
  | .generatorFunction => .ok (.foreign .generator)
  | .coroutineFunction => .ok (.foreign .coroutine)
  | .exceptionClass => .ok (.exceptionOf (.bare .value (.word "")))
  | .builtin => .error (.unsupported .type "len() takes exactly one argument (0 given)")
  | _ => .error .operand

/-- A call without the one argument that a function needs. -/
def Fault.missingArgument (function parameter : String) : Fault :=
  .unsupported .type
    (sentence [function, "() missing 1 required positional argument: '", parameter, "'"])

/-- What the parameter of a built-in coercion function is called. -/
def BuiltinFunction.parameter : BuiltinFunction → String
  | .intLiteral | .floatLiteral | .stringLiteral | .booleanLiteral | .identifierLiteral => "value_node"
  | _ => "value"

namespace Session

/-- What an expression stands for at present, with the digests that are taken on the way of nodes that the
session knows. -/
def evaluate (st : Session) (e : Expr) : Traced Value :=
  let evaluated : SessionM Value := do
    let v ← SessionM.eval e
    SessionM.view v
  let (result, after) := evaluated.run.run { st with noted := [] }
  { result := result.map (·.release st.nextId)
    taken := after.noted.filter fun (id, _) => id < st.nextId }

/-- What calling a function without arguments gives at present. -/
def call (st : Session) (f : Value) : Traced Value :=
  match f with
  | .function code _ =>
    match st.functions.lookup code with
    | some (.body e) => st.evaluate e
    | some (.fails f) => throw f
    | _ => throw .operand
  | .builtin .pass => throw (.missingArgument "GraphQLScalarType.parse_value" "value")
  | .builtin f => throw (.missingArgument f.name f.parameter)
  | .method (.scalar _) _ => throw (.missingArgument "GraphQLScalarType.parse_literal" "node")
  | .method (.object _) _ => return .null
  | .enumeration .. => throw (.missingArgument "EnumType.__call__" "value")
  | .foreign f _ => f.call
  | _ => throw .operand

/-- What calling a function without arguments gives, without a trace. -/
def called (st : Session) (f : Value) : Except Fault Value := (st.call f).result

/-- What a function that is no enumeration makes of an argument at present. -/
def applyFunction (st : Session) (f v : Value) : Traced Value :=
  match f with
  | .function code _ =>
    match st.functions.lookup code with
    | some (.coerces c) => c.apply st.evaluate st.called st.nextId v
    | _ => throw .operand
  | .builtin f => f.coerce v
  | .foreign .builtin _ => Coercions.length v
  | .foreign .exceptionClass _ => return .exceptionOf (.bare .value v)
  | _ => throw .operand

/-- What a function makes of an argument at present. -/
def apply (st : Session) (f v : Value) : Traced Value :=
  match f with
  | .enumeration members others id => enumerationAt st.applyFunction id members others v
  | f => st.applyFunction f v

/-- The definitions of the session. -/
def schema (st : Session) : Schema :=
  { defs := st.viewedDefs, call := st.call, apply := st.apply, next := st.nextId }

end Session

namespace SessionM

/-- Runs a computation on the definitions, and remembers what it logged and resolved. -/
def traced {α : Type} (f : Schema → Traced α) : SessionM α := do
  let st ← get
  let s := st.schema
  let t := f s
  let after := s.after t
  modify fun st => { st with nextId := after.next }
  if !t.asked.isEmpty then
    let defs ← after.defs.mapM keepDef
    modify fun st => { st with defs }
  noteTrace t
  t.result

/-- Adds a definition, and gives the type. -/
def define (d : TypeDef) : SessionM Value := do
  let d ← keepDef d
  let st ← get
  set { st with defs := st.defs ++ [d] }
  return .type (.named (d.typeAt st.defs.length))

end SessionM

end QueryDefaults
