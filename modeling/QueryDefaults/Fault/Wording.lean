import QueryDefaults.Value.Inspect

/-!
The wording of failures, word for word as callers see it. A failure that refuses a value describes it;
if describing it fails, that failure takes its place.
-/

namespace QueryDefaults

/-- The words before and after the description of a refused value. -/
def Refusal.words : Refusal → String × String
  | inputType => ("Expected ", " to be a GraphQL input type.")
  | registeredType => ("Registry can only contain input types, but got: ", ".")
  | registry => ("Expected ", " to be a type registry.")
  | wholeNumber => ("Int cannot represent non-integer value: ", "")
  | smallNumber => ("Int cannot represent non 32-bit signed integer value: ", "")
  | finiteNumber => ("Float cannot represent non numeric value: ", "")
  | text => ("String cannot represent a non string value: ", "")
  | boolean => ("Boolean cannot represent a non boolean value: ", "")
  | identifier => ("ID cannot represent value: ", "")
  | checkedType => ("Unexpected input type: ", ".")
  | reference => ("Unexpected type node: ", ".")
  | literal => ("Unexpected value node: ", ".")
  | root => ("Not an AST Node: ", ".")
  | visitor => ("Not an AST Visitor: ", ".")
  | node => ("Invalid AST Node: ", ".")

/-- The wording of a refusal. -/
def Refusal.wording (call : Value → Except Fault Value) (r : Refusal) (v : Value) :
    Except Fault String := do
  let description ← v.inspect call
  let shown ← description.display
  return r.words.1 ++ shown ++ r.words.2

namespace Fault

/-- The failure that counts: that of describing a refused value, if there is one. -/
def settle (call : Value → Except Fault Value) (f : Fault) : Fault :=
  match f with
  | refused r v =>
    match r.wording call v with
    | .error g => g
    | .ok _ => f
  | _ => f

/-- The wording of a failure, if it has one; an error that has no text, since its message is none, has
`null`. -/
def message (call : Value → Except Fault Value) (f : Fault) : Except Fault (Option Value) :=
  match f with
  | refused r v => do
    let t ← r.wording call v
    text t
  | nameMissing => text "Must provide name."
  | nameNotText => text "Expected name to be a string."
  | nameEmpty => text "Expected name to be a non-empty string."
  | nameCharacters quoted => text s!"Names must only contain [_a-zA-Z0-9] but {quoted} does not."
  | nameStart quoted => text s!"Names must start with [_a-zA-Z] but {quoted} does not."
  | nameReserved name => text s!"Enum values cannot be named: {name}."
  | wrapsNoType shown => text s!"Can only create a wrapper for a GraphQLType, but got: {shown}."
  | wrapsNonNull shown => text s!"Can only create NonNull of a Nullable GraphQLType but got: {shown}."
  | fieldTypeNotInput shown => text s!"Input field type must be a GraphQL input type: {shown}."
  | coercionNotCallable scalar function =>
    text (sentence [scalar, " must provide '", function, "' as a function."])
  | enumValuesMalformed owner =>
    text (owner ++ " values must be an Enum, a mapping with value names as keys or a collection of value names.")
  | fieldsUnresolved owner cause _ => text s!"{owner} fields cannot be resolved. {cause}"
  | fieldsNotMapping owner =>
    text s!"{owner} fields must be specified as a mapping with field names as keys."
  | typesNotCollection => text "Registry types must be specified as a collection of GraphQL types."
  | registersTwice name =>
    text (sentence ["Registry must contain uniquely named types but contains multiple types named '", name, "'."])
  | notPrintable shown => text s!"Cannot print node: {shown}."
  | unknownKind kind => text s!"Invalid AST node kind: {kind}."
  | documentMissing => text "Must provide document."
  | limitNotInt => text "The maximum number of errors must be passed as an int."
  | limitReached => text ""
  | raised e => shown (.error e)
  | thrown e => shown (.exceptionOf e)
  | custom _ m => text m
  | unsupported .. | unbound => return none
where
  /-- A wording that is a text. -/
  text (s : String) : Except Fault (Option Value) := return some (.str s)
  /-- The text of an error or an exception, if it has one. -/
  shown (v : Value) : Except Fault (Option Value) :=
    match v.display with
    | .ok t => text t
    | .error _ => return some .null

/-- A failure as it is quoted inside another one. An error that has no text cannot be quoted. -/
def display (call : Value → Except Fault Value) (f : Fault) : Except Fault String := do
  match f with
  | unsupported _ text => return text
  | raised e => e.display
  | thrown e => (Value.exceptionOf e).display
  | f =>
    match ← f.message call with
    | some (.str s _) => return s
    | _ => return ""

end Fault

end QueryDefaults
