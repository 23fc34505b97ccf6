import QueryDefaults.Literal.Conformance
import QueryDefaults.Node.Visit
import QueryDefaults.Types.Reference
import QueryDefaults.Validation.Context

/-!
The rule for default values of variables: a variable whose type is not in the registry makes the whole
document invalid; a non-null variable must not have a default; every other default must conform to the
declared type. The rule is a visitor that remembers the operation it is in.
-/

namespace QueryDefaults

/-- The codes of diagnostics. -/
inductive ErrorCode where
  | invalidType | invalidOnNonNullVariable
  deriving DecidableEq, Repr

/-- The name of a code. -/
def ErrorCode.name : ErrorCode → String
  | .invalidType => "DEFAULT_VALUE_INVALID_TYPE"
  | .invalidOnNonNullVariable => "DEFAULT_VALUE_INVALID_ON_NON_NULL_VARIABLE"

/-- A code as it stands in the extensions of a diagnostic. -/
def ErrorCode.text : ErrorCode → String
  | .invalidType => "defaultValueInvalidType"
  | .invalidOnNonNullVariable => "defaultValueInvalidOnNonNullVariable"

/-- All codes. -/
def ErrorCode.all : List ErrorCode := [.invalidType, .invalidOnNonNullVariable]

/-- What a rule knows while it walks: its context, the operation it is in, and what happened so far. New
paths get numbers from `next` on. -/
structure RuleState where
  context : Value
  path : Value := .list []
  next : Nat := firstNumber
  logs : List LogRecord := []
  asked : List Nat := []
  taken : Digests := []
  deriving Inhabited

/-- What happened in a walk of a rule. -/
def RuleState.trace (st : RuleState) : Traced Unit where
  result := .ok ()
  logs := st.logs
  asked := st.asked
  taken := st.taken
  used := st.next

/-- A step of a rule. -/
abbrev RuleM := Walk RuleState

namespace Rule

/-- Runs a computation that leaves a trace. -/
def trace {α : Type} (t : Traced α) : RuleM α := do
  modify fun st => { st with
    logs := st.logs ++ t.logs, asked := st.asked ++ t.asked, taken := st.taken ++ t.taken }
  t.result

/-- Logs a record. -/
def log (words : List String) : RuleM Unit := trace (Traced.log ⟨.rule, sentence words, none⟩)

/-- Reports an error to the context of the rule. -/
def report (s : Schema) (fatal : Bool) (e : GraphQLError) : RuleM Unit := do
  let st ← get
  let r := s.reportTo fatal (.error e) st.context
  set { st with context := r.target }
  r.outcome

/-- The display name of an operation: its keyword and its name if it has one. -/
def operationName (n : Node) : Except Fault Value := do
  let operation ← n.attr "operation"
  let keyword ← operation.attr "value"
  let name ← n.attr "name"
  if name.truthy then
    let word ← keyword.display
    let value ← name.attr "value"
    let rest ← value.display
    return .str (word ++ " " ++ rest)
  else return keyword

/-- Enters an operation: its display name becomes the path of the diagnostics to come. -/
def enterOperation (n : Node) : RuleM Unit := do
  let name ← operationName n
  modify fun st =>
    let (path, next) := (Value.list [name]).number.run st.next
    { st with path, next }

/-- Reports a diagnostic about the default value of a variable. -/
def diagnose (s : Schema) (message : Value) (default : Value) (details : List (String × Value)) :
    RuleM Unit := do
  let st ← get
  let e ← GraphQLError.make message default st.path .null (.ofEntries details)
  report s false e

/-- Checks a variable whose type is not in the registry: this is fatal. -/
def undefinedType (s : Schema) (variableName reference : Value) : RuleM Value := do
  let base ← reference.namedReference
  let typeName ← base.nameValue
  log ["Variable $", logText variableName, " has undefined type ", logText typeName, "."]
  let type ← typeName.display
  let name ← variableName.display
  report s true (GraphQLError.ofMessage (.str (sentence [type, " isn't a defined input type (on $", name, ")"])))
  return .action .stop

/-- Checks the default of a variable with a non-null type: there must be none. -/
def nonNullDefault (s : Schema) (variableName default : Value) : RuleM Value := do
  let name ← variableName.display
  diagnose s (.str (sentence ["Non-null variable $", name, " can't have a default value"])) default
    [("code", .word ErrorCode.invalidOnNonNullVariable.text), ("variableName", variableName)]
  return .action .skip

/-- Reports a default that does not conform to the declared type, with the message of the scalar that
rejected it, if it has one. -/
def invalidDefault (s : Schema) (variableName default reference : Value) (invalid : InvalidLiteral) :
    RuleM Unit := do
  let typeName ← reference.print
  log ["Default value of variable $", logText variableName, " is invalid: ", invalid.reason]
  let message ←
    if invalid.message.truthy then pure invalid.message else do
      let name ← variableName.display
      let type ← typeName.display
      pure (.str (sentence ["Default value for $", name, " doesn't match type ", type]))
  diagnose s message default
    [("code", .word ErrorCode.invalidType.text), ("variableName", variableName), ("typeName", typeName)]

/-- Checks a variable definition. -/
def enterVariable (s : Schema) (n : Node) : RuleM Value := do
  let variableNode ← n.attr "variable"
  let variableName ← variableNode.nameValue
  let registry ← trace (s.attr (← get).context "registry")
  let reference ← n.attr "type"
  let type ← trace (s.resolve registry reference)
  if !type.truthy then undefinedType s variableName reference else
  let default ← n.attr "default_value"
  if default.isNull then return .action .skip
  log ["Checking default value of variable $", logText variableName, "."]
  if type.isNonNullType then nonNullDefault s variableName default
  else
    match ← trace (s.checkValue default type) with
    | some invalid =>
      invalidDefault s variableName default reference invalid
      return .action .skip
    | none => return .action .skip

/-- The names of the rule's methods. -/
def methods : List String := ["enter_operation_definition", "enter_variable_definition"]

/-- The rule as a visitor. A rule that checks nothing has no methods. -/
def visitor (s : Schema) (checking : Bool) : Visitor RuleState where
  defines name := checking && methods.contains name
  call name n _ :=
    if name = "enter_operation_definition" then do
      enterOperation n
      return .null
    else enterVariable s n

end Rule

end QueryDefaults
