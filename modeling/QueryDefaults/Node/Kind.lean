import QueryDefaults.Text.Words

/-!
The kinds of syntax nodes, which are their classes. A kind fixes the attributes that a node is made with
(`keys`), its name in visitors and maps of attributes (`text`) and the name it is described by (`className`).
Callers can derive kinds from those of the library. A node of such a kind still counts as one of the kind of the
library (`library`), but the name of its kind is made from the name of its own class.
-/

namespace QueryDefaults

/-- The operations of a query document. -/
inductive OperationType where
  | query | mutation | subscription
  deriving DecidableEq, Repr, Inhabited

/-- The keyword of an operation. -/
def OperationType.text : OperationType → String
  | .query => "query"
  | .mutation => "mutation"
  | .subscription => "subscription"

/-- The name of an operation. -/
def OperationType.name : OperationType → String
  | .query => "QUERY"
  | .mutation => "MUTATION"
  | .subscription => "SUBSCRIPTION"

/-- All operations. -/
def OperationType.all : List OperationType := [.query, .mutation, .subscription]

/-- The operation that a keyword names. -/
def OperationType.ofText? (s : String) : Option OperationType := all.find? (·.text == s)

/-- What the names of classes of nodes end with. -/
def classEnding : String := "Node"

/-- The name of a class of nodes without the ending, if it has that. -/
def withoutEnding (cls : String) : String :=
  let name := cls.toList
  let ending := classEnding.toList
  String.ofList (if ending.isSuffixOf name then name.take (name.length - ending.length) else name)

/-- The kind of a class of nodes: its name without the ending, in snake form. -/
def kindOfClass (cls : String) : String := String.ofList (Text.snake (withoutEnding cls).toList)

/-- The kinds of nodes: `ast`, `definition`, `value` and `type` are the general ones. A derived kind is that of a
class with a name of its own, which adds no attributes. -/
inductive Kind where
  | ast | name | document | definition | operationDefinition | variableDefinition
  | value | variableUse | intValue | floatValue | stringValue | booleanValue | nullValue | enumValue
  | listValue | objectValue | objectField
  | type | namedType | listType | nonNullType
  | derived (base : Kind) (cls : String)
  deriving DecidableEq, Repr, Inhabited

namespace Kind

/-- The kind of the library that a kind comes from. -/
def library : Kind → Kind
  | derived base _ => base.library
  | k => k

theorem library_ne_derived (k base : Kind) (cls : String) : k.library ≠ derived base cls := by
  induction k with
  | derived _ _ ih => exact ih
  | _ => nofun

/-- All kinds of the library. -/
def all : List Kind :=
  [ast, name, document, definition, operationDefinition, variableDefinition, value, variableUse, intValue,
    floatValue, stringValue, booleanValue, nullValue, enumValue, listValue, objectValue, objectField,
    type, namedType, listType, nonNullType]

/-- The place of a kind of the library among all of them. -/
def index (kind : Kind) : Nat := all.idxOf kind

/-- The name of a kind, words joined by underscores. -/
def text : Kind → String
  | ast => "ast"
  | name => "name"
  | document => "document"
  | definition => "definition"
  | operationDefinition => "operation_definition"
  | variableDefinition => "variable_definition"
  | value => "value"
  | variableUse => "variable"
  | intValue => "int_value"
  | floatValue => "float_value"
  | stringValue => "string_value"
  | booleanValue => "boolean_value"
  | nullValue => "null_value"
  | enumValue => "enum_value"
  | listValue => "list_value"
  | objectValue => "object_value"
  | objectField => "object_field"
  | type => "type"
  | namedType => "named_type"
  | listType => "list_type"
  | nonNullType => "non_null_type"
  | derived _ cls => kindOfClass cls

/-- The kind of the library that has a name. -/
def ofText? (s : String) : Option Kind := all.find? (·.text == s)

/-- The name that nodes of a kind are described by. -/
def className : Kind → String
  | ast => "Node"
  | name => "NameNode"
  | document => "DocumentNode"
  | definition => "DefinitionNode"
  | operationDefinition => "OperationDefinitionNode"
  | variableDefinition => "VariableDefinitionNode"
  | value => "ValueNode"
  | variableUse => "VariableNode"
  | intValue => "IntValueNode"
  | floatValue => "FloatValueNode"
  | stringValue => "StringValueNode"
  | booleanValue => "BooleanValueNode"
  | nullValue => "NullValueNode"
  | enumValue => "EnumValueNode"
  | listValue => "ListValueNode"
  | objectValue => "ObjectValueNode"
  | objectField => "ObjectFieldNode"
  | type => "TypeNode"
  | namedType => "NamedTypeNode"
  | listType => "ListTypeNode"
  | nonNullType => "NonNullTypeNode"
  | derived _ cls => cls

/-- The attributes of a kind in order; the source location always comes first. -/
def keys : Kind → List String
  | ast | definition | value | type | nullValue => ["loc"]
  | name | intValue | floatValue | booleanValue | enumValue => ["loc", "value"]
  | document => ["loc", "definitions"]
  | operationDefinition => ["loc", "operation", "name", "variable_definitions"]
  | variableDefinition => ["loc", "variable", "type", "default_value"]
  | variableUse | namedType => ["loc", "name"]
  | stringValue => ["loc", "value", "block"]
  | listValue => ["loc", "values"]
  | objectValue => ["loc", "fields"]
  | objectField => ["loc", "name", "value"]
  | listType | nonNullType => ["loc", "type"]
  | derived base _ => base.keys

/-- What holds of the attributes of the kinds of the library holds of those of all kinds. -/
theorem forall_keys {P : List String → Prop} (each : ∀ k ∈ all, P k.keys) (kind : Kind) : P kind.keys := by
  induction kind with
  | derived _ _ ih => exact ih
  | _ => exact each _ (by decide)

end Kind

end QueryDefaults
