import QueryDefaults.Value.Basic

/-!
What makes a computation fail. A cause is a constructor and has a class; its wording is in
`QueryDefaults.Fault.Wording`. Operations that the values at hand do not support (a missing attribute,
a key that cannot be looked up) have a class only; a text of theirs is seen where another failure quotes
them.
-/

namespace QueryDefaults

/-- A text put together from parts. -/
def sentence (parts : List String) : String := "".intercalate parts

/-- What a value was refused as. Each of these failures describes the value that it refuses. -/
inductive Refusal where
  -- types and registries
  | inputType | registeredType | registry
  -- values of the built-in scalars
  | wholeNumber | smallNumber | finiteNumber | text | boolean | identifier
  -- literals, references and walks
  | checkedType | reference | literal | root | visitor | node
  deriving DecidableEq, Repr, Inhabited

/-- The causes of failure. Texts in them are already in the form in which they are shown. -/
inductive Fault where
  | refused (what : Refusal) (v : Value)
  -- names
  | nameMissing
  | nameNotText
  | nameEmpty
  | nameCharacters (quoted : String)
  | nameStart (quoted : String)
  | nameReserved (name : String)
  -- types
  | wrapsNoType (shown : String)
  | wrapsNonNull (shown : String)
  | fieldTypeNotInput (shown : String)
  | coercionNotCallable (scalar function : String)
  | enumValuesMalformed (owner : String)
  | fieldsUnresolved (owner cause : String) (graphql : Bool)
  | fieldsNotMapping (owner : String)
  | typesNotCollection
  | registersTwice (name : String)
  -- nodes and visitors
  | notPrintable (shown : String)
  | unknownKind (kind : String)
  -- validation
  | documentMissing
  | limitNotInt
  | limitReached
  -- from outside
  | raised (e : GraphQLError)
  | thrown (e : Exception)
  | custom (cls : ErrorClass) (message : String)
  | unsupported (cls : ErrorClass) (text : String)
  | unbound
  deriving Inhabited

namespace Fault

/-- An operation on a value that has no such operation. -/
def operand : Fault := unsupported .type ""

/-- An attribute that a value does not have. -/
def noAttribute : Fault := unsupported .attribute ""

/-- A way through a value that leads back to itself. -/
def endless : Fault := unsupported .recursion "maximum recursion depth exceeded"

/-- The class of a failure. -/
def cls : Fault → ErrorClass
  | nameEmpty | nameCharacters _ | nameStart _ | nameReserved _ | raised _ => .graphql
  | fieldsUnresolved _ _ graphql => if graphql then .graphql else .type
  | limitReached => .runtime
  | thrown e => e.kind
  | custom c _ | unsupported c _ => c
  | unbound => .unbound
  | _ => .type

end Fault

end QueryDefaults
