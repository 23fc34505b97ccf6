import QueryDefaults.Session.Nodes
import QueryDefaults.Session.Parameters
import QueryDefaults.Session.Types
import QueryDefaults.Session.Validations

/-!
All operations of a session, with their parameters.
-/

namespace QueryDefaults

open Parameter

/-- The parameters of an operation on objects. -/
def ObjectOperation.parameters : ObjectOperation → List Parameter
  | value | text | repr | truth => [required "v"]
  | equal | unequal | same | digestEqual => [required "a", required "b"]
  | get => [required "obj", required "name"]
  | set => [required "obj", required "name", required "v"]
  | copy | deepCopy => [required "obj"]
  | length | items => [required "x"]
  | contains | item => [required "x", required "key"]

/-- The parameters of an operation on data. -/
def DataOperation.parameters : DataOperation → List Parameter
  | inspect | isFinite | isInteger => [required "v"]
  | remakeUndefined | reduceUndefined | version | errorCodes => []
  | readVersion | snake => [required "s"]
  | makeVersion =>
    [required "major", required "minor", required "micro", required "level", required "serial"]
  | makeError =>
    [required "message", optional "nodes", optional "path", optional "original_error",
      optional "extensions"]

/-- The parameters of an operation on nodes. -/
def NodeOperation.parameters : NodeOperation → List Parameter
  | keys | className => [required "kind"]
  | print | native => [required "node"]
  | makeVisitor => [required "methods"]
  | visit => [required "root", required "visitor", optional "visitor_keys", optional "brief"]

/-- The parameters of an operation that makes a type. -/
def DefineOperation.parameters : DefineOperation → List Parameter
  | scalar =>
    [required "name", optional "parse_value", optional "parse_literal", optional "description",
      optional "extensions"]
  | enum => [required "name", required "values", optional "description", optional "extensions"]
  | enumValue => [optional "value", optional "description", optional "deprecation_reason"]
  | inputObject => [required "name", required "fields", optional "description", optional "extensions"]
  | inputField =>
    [required "type", ⟨"default_value", some .undefined⟩, optional "description",
      optional "deprecation_reason"]
  | namedType => [required "name", optional "description", optional "extensions"]
  | registry => [optional "types"]

/-- The parameters of an operation on types. -/
def TypeOperation.parameters : TypeOperation → List Parameter
  | test _ | listOf | nonNullOf | wrapperOf | nullable | named | assertInput => [required "t"]
  | lookUp => [required "registry", required "name"]
  | resolve => [required "registry", required "type_node"]
  | parseValue => [required "scalar", required "v"]
  | parseLiteral => [required "scalar", required "node"]
  | isRegistry | assertRegistry => [required "v"]
  | isRequired => [required "field"]
  | assertName | assertEnumValueName => [required "name"]

/-- The parameters of an operation on literals and documents. -/
def ValidationOperation.parameters : ValidationOperation → List Parameter
  | coerce => [required "type", required "node"]
  | check => [required "node", required "type"]
  | validate | validateStepwise | validateCancelled =>
    [required "registry", required "document", optional "max_errors"]
  | result => [required "errors", optional "fatal_error"]
  | context => [required "registry", required "document", optional "collect"]
  | report => [required "context", required "error", optional "fatal"]
  | rule _ => [required "context"]

/-- All operations. -/
inductive Operation where
  | object (op : ObjectOperation)
  | data (op : DataOperation)
  | node (op : NodeOperation)
  | define (op : DefineOperation)
  | type (op : TypeOperation)
  | validation (op : ValidationOperation)
  deriving DecidableEq, Repr

/-- The parameters of an operation. -/
def Operation.parameters : Operation → List Parameter
  | object op => op.parameters
  | data op => op.parameters
  | node op => op.parameters
  | define op => op.parameters
  | type op => op.parameters
  | validation op => op.parameters

/-- Performs an operation on the arguments for its parameters. -/
def Operation.perform : Operation → List Value → SessionM Answer
  | object op => op.perform
  | data op => op.perform
  | node op => op.perform
  | define op => op.perform
  | type op => op.perform
  | validation op => op.perform

end QueryDefaults
