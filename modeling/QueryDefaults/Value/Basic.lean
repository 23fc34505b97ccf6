import QueryDefaults.Number.Double
import QueryDefaults.Node.Kind

/-!
Values. Attributes of nodes, results of coercion functions and everything a caller hands over is a
`Value`: native data, syntax nodes, references to input types, records, errors, and objects that are
known by a number only. A value is a tree. Objects that can be told apart although they look alike carry
a number; an object that has just been made has the number 0 until somebody keeps it.
-/

namespace QueryDefaults

/-- What a named type defines. -/
inductive TypeSort where
  | scalar | enum | inputObject | other
  deriving DecidableEq, Repr, Inhabited

/-- A named type: its place in the schema, its name with the number of that text, and what it defines. -/
structure NamedType where
  id : Nat
  name : String
  sort : TypeSort
  nameId : Nat
  deriving DecidableEq, Repr, Inhabited

/-- A type: a named type below lists, non-nulls and plain wrappers. -/
inductive Ty where
  | named (n : NamedType)
  | list (of : Ty) (id : Nat := 0)
  | nonNull (of : Ty) (id : Nat := 0)
  | wrapper (of : Ty) (id : Nat := 0)
  deriving DecidableEq, Repr, Inhabited

/-- The control values of a visitor: end the walk, or leave out a node's descendants. -/
inductive Action where
  | stop | skip
  deriving DecidableEq, Repr, Inhabited

/-- The name of a control value. -/
def Action.name : Action → String
  | .stop => "BREAK"
  | .skip => "SKIP"

/-- Both control values. -/
def Action.all : List Action := [.stop, .skip]

/-- Whether a control value ends the walk. -/
def Action.stops : Action → Bool
  | .stop => true
  | .skip => false

/-- The classes of errors. -/
inductive ErrorClass where
  | graphql | type | value | key | attribute | overflow | index | arithmetic | runtime | recursion | unbound
  deriving DecidableEq, Repr, Inhabited

/-- The name that an error class is described by. -/
def ErrorClass.name : ErrorClass → String
  | .graphql => "GraphQLError"
  | .type => "TypeError"
  | .value => "ValueError"
  | .key => "KeyError"
  | .attribute => "AttributeError"
  | .overflow => "OverflowError"
  | .index => "IndexError"
  | .arithmetic => "ArithmeticError"
  | .runtime => "RuntimeError"
  | .recursion => "RecursionError"
  | .unbound => "Unbound"

/-- Tuples whose items have names. -/
inductive Record where
  | location | accepted | rejected | invalidLiteral | result | version
  deriving DecidableEq, Repr, Inhabited

/-- Objects that are not data and are known only by how they are described. -/
inductive Foreign where
  | lambda | function | classObject | instanceObject | exceptionClass | generatorFunction | generator
  | coroutineFunction | coroutine | customInspect | noncallableInspect | noName | set | bytes | builtin
  deriving DecidableEq, Repr, Inhabited

/-- What a method belongs to: the scalar at a place, or an object that is not data, by its number. -/
inductive MethodOwner where
  | scalar (place : Nat)
  | object (id : Nat)
  deriving DecidableEq, Repr, Inhabited

/-- The coercion functions of the built-in scalars, and the one that a scalar has if none is given. -/
inductive BuiltinFunction where
  | pass
  | int | intLiteral | float | floatLiteral | string | stringLiteral | boolean | booleanLiteral
  | identifier | identifierLiteral
  deriving DecidableEq, Repr, Inhabited

/-- What a digest depends on. Equal values have equal digests, whatever their form: numbers go by a
residue of what they denote, every row of values by its items, and an object that equals only itself by
its number. The digest of a row is a number again if those of its items are. A few values that differ have one
digest nevertheless. -/
inductive Digest where
  | null | undefined
  | number (residue : Int)
  | text (s : String)
  | row (items : List Digest)
  | type (t : Ty)
  | builtin (f : BuiltinFunction)
  | foreign (f : Foreign)
  | method (owner : MethodOwner)
  | object (id : Nat)
  deriving Inhabited

mutual

/-- Whether two digests are the same. -/
def Digest.same : Digest → Digest → Bool
  | .null, .null | .undefined, .undefined => true
  | .number m, .number n => m == n
  | .text s, .text t => s == t
  | .row ds, .row es => sameDigests ds es
  | .type t, .type u => t == u
  | .builtin f, .builtin g => f == g
  | .foreign f, .foreign g => f == g
  | .method o, .method p => o == p
  | .object i, .object j => i == j
  | _, _ => false
termination_by structural d => d

/-- Whether the digests in two rows are the same. -/
def sameDigests : List Digest → List Digest → Bool
  | [], [] => true
  | d :: ds, e :: es => d.same e && sameDigests ds es
  | _, _ => false
termination_by structural ds => ds

end

instance : BEq Digest := ⟨Digest.same⟩

mutual

theorem Digest.eq_of_same {d e : Digest} (h : d.same e = true) : d = e := by
  cases d with
  | row ds =>
    cases e with
    | row es => exact congrArg Digest.row (eq_of_sameDigests h)
    | _ => cases h
  | _ =>
    -- Apart from rows, digests are the same if they are of one sort and have the same content.
    cases e with
    | _ => first | rfl | cases h | rw [beq_iff_eq.1 h]
termination_by structural d

theorem eq_of_sameDigests {ds es : List Digest} (h : sameDigests ds es = true) : ds = es := by
  cases ds with
  | nil =>
    cases es with
    | nil => rfl
    | cons => cases h
  | cons d ds =>
    cases es with
    | nil => cases h
    | cons e es =>
      have both := Bool.and_eq_true_iff.1 h
      rw [Digest.eq_of_same both.1, eq_of_sameDigests both.2]
termination_by structural ds

end

mutual

theorem Digest.same_self (d : Digest) : d.same d = true := by
  cases d with
  | row ds => exact sameDigests_self ds
  | null => rfl
  | undefined => rfl
  | _ => exact BEq.rfl
termination_by structural d

theorem sameDigests_self (ds : List Digest) : sameDigests ds ds = true := by
  cases ds with
  | nil => rfl
  | cons d ds => exact Bool.and_eq_true_iff.2 ⟨d.same_self, sameDigests_self ds⟩
termination_by structural ds

end

/-- Two digests are the same if they are equal. -/
instance : LawfulBEq Digest where
  eq_of_beq := Digest.eq_of_same
  rfl := Digest.same_self _

/-- The digest of a text; the empty one has that of zero. -/
def Digest.ofText (s : String) : Digest := if s.isEmpty then .number 0 else .text s

/-- The length of the Mersenne prime that digests of numbers are taken modulo. -/
def digestBits : Nat := 61

/-- The digest of a number with a sign and a residue. Minus one has that of minus two. -/
def Digest.signed (negative : Bool) (residue : Nat) : Digest :=
  if negative then .number (if residue = 1 then -2 else -residue) else .number residue

/-- The digest of a quotient whose denominator is a power of two: its residue modulo a Mersenne prime. For
such a prime, halving is multiplying by a power of two. -/
def Digest.ofRatio (n : Int) (d : Nat) : Digest :=
  let g := Nat.gcd n.natAbs d
  let turns := digestBits - (d / g).log2 % digestBits
  .signed (n < 0) (n.natAbs / g * Nat.pow 2 turns % (Nat.pow 2 digestBits - 1))

/-- The digest of an infinity. -/
def Digest.infinity (negative : Bool) : Digest := .signed negative 314159

/-- What becomes of an error that is reported to a context: the context keeps it, or hands it on up to a
limit, if any. -/
inductive Sink where
  | keep
  | handOn (limit : Option Int)
  deriving DecidableEq, Repr, Inhabited

/-- An entry of a mapping, with the digest that its key had when it was put there. -/
structure EntryOf (α : Type) where
  digest : Digest
  key : α
  value : α

/-- A syntax node with attributes in `α`, and the digest that was taken of it, if any. -/
structure NodeOf (α : Type) where
  id : Nat
  kind : Kind
  attrs : List (String × α)
  digest : Option Digest := none

/-- An error of the library with parts in `α`. -/
structure ErrorOf (α : Type) where
  message : α
  nodes : α
  locations : α
  path : α
  underlying : α
  extensions : α
  cause : α
  context : α
  id : Nat := 0

/-- An exception with parts in `α`. Its class is one of the classes of errors, or a caller derived it from one and
gave it a name, a truth value and attributes of its own. An exception whose class comes from that of the errors of the
library has the attributes of one only if they are among these. -/
structure ExceptionOf (α : Type) where
  kind : ErrorClass
  message : α
  cause : α
  context : α
  id : Nat := 0
  derived : Option String := none
  truth : Bool := true
  attrs : List (String × α) := []

/-- A field of an input object type with a default and texts in `α`. -/
structure InputFieldOf (α : Type) where
  id : Nat
  type : Ty
  default : α
  description : α
  deprecation : α

/-- A value of an enum type with its parts in `α`. -/
structure EnumValueOf (α : Type) where
  id : Nat
  value : α
  description : α
  deprecation : α

/-- The state of a validation with its parts in `α`. The errors that it keeps and those that it handed on
are two lists that grow; each of them has a number of its own. A copy of a context hands on to a third list,
that of the first context, whatever it shows itself; the number of that list is 0 if a context hands on to
the list that it shows. -/
structure ContextOf (α : Type) where
  registry : α
  document : α
  sink : Sink
  fatal : α
  errors : List α := []
  reported : List α := []
  handed : List α := []
  id : Nat := 0
  errorsId : Nat := 0
  reportedId : Nat := 0
  handedId : Nat := 0

/-- A rule with a context and a path in `α`; one that checks nothing has no path. -/
structure RuleOf (α : Type) where
  context : α
  checking : Bool
  path : α
  id : Nat := 0

/-- A method of a visitor: its answer, and the number of the only call that gets it, if not all do. -/
structure MethodOf (α : Type) where
  answer : α
  onCall : Option Int := none

/-- All values. An enumeration has attributes besides its members, and a function has a code that says what
it does. -/
inductive Value where
  | null
  | undefined
  | bool (b : Bool)
  | int (n : Int) (id : Nat := 0)
  | float (x : Double) (id : Nat := 0)
  | str (s : String) (id : Nat := 0)
  | list (items : List Value) (id : Nat := 0)
  | tuple (items : List Value) (id : Nat := 0)
  | mapping (entries : List (EntryOf Value)) (id : Nat := 0)
  | record (shape : Record) (items : List Value) (id : Nat := 0)
  | operation (o : OperationType)
  | action (a : Action)
  | node (n : NodeOf Value)
  | type (t : Ty)
  | inputField (f : InputFieldOf Value)
  | enumValue (v : EnumValueOf Value)
  | enumeration (members others : List (String × Value)) (id : Nat := 0)
  | member (enumeration : Nat) (name : String) (value : Value)
  | error (e : ErrorOf Value)
  | exceptionOf (e : ExceptionOf Value)
  | registry (types : List NamedType) (mapId : Nat := 0) (id : Nat := 0)
  | context (c : ContextOf Value)
  | rule (r : RuleOf Value)
  | visitor (methods : List (String × MethodOf Value)) (id : Nat := 0)
  | function (code : Nat) (id : Nat := 0)
  | builtin (f : BuiltinFunction)
  | method (owner : MethodOwner) (id : Nat := 0)
  | foreign (f : Foreign) (id : Nat := 0)
  deriving Inhabited

/-- A syntax node. -/
abbrev Node := NodeOf Value

/-- An entry of a mapping. -/
abbrev Entry := EntryOf Value

/-- An error with a message, locations, a path and extensions. -/
abbrev GraphQLError := ErrorOf Value

/-- An exception. -/
abbrev Exception := ExceptionOf Value

/-- A field of an input object type. -/
abbrev InputField := InputFieldOf Value

/-- A value of an enum type. -/
abbrev EnumValue := EnumValueOf Value

/-- The state of a validation. -/
abbrev Context := ContextOf Value

/-- A rule. -/
abbrev RuleObject := RuleOf Value

/-- A method of a visitor. -/
abbrev Method := MethodOf Value

/-- The name of the class of an exception. -/
def ExceptionOf.cls (e : Exception) : String := e.derived.getD e.kind.name

/-- An exception of one of the classes of errors. -/
@[match_pattern]
def Value.exception (id : Nat) (kind : ErrorClass) (message cause context : Value) : Value :=
  .exceptionOf ⟨kind, message, cause, context, id, none, true, []⟩

/-- An exception of one of the classes of errors with nothing behind it. -/
def ExceptionOf.bare (kind : ErrorClass) (message : Value) : Exception :=
  { kind, message, cause := .null, context := .null }

/-- A place in a source text. -/
def Value.location (line column : Value) : Value := .record .location [line, column]

/-- What a location's parts, and those of the other records, are called. -/
def Record.fields : Record → List String
  | .location => ["line", "column"]
  | .accepted => ["value"]
  | .rejected => ["message"]
  | .invalidLiteral => ["node", "reason", "message"]
  | .result => ["errors", "fatal_error"]
  | .version => ["major", "minor", "micro", "releaselevel", "serial"]

/-- The name that a record is described by. -/
def Record.name : Record → String
  | .location => "SourceLocation"
  | .accepted => "Accepted"
  | .rejected => "Rejected"
  | .invalidLiteral => "InvalidLiteral"
  | .result => "DefaultValuesResult"
  | .version => "VersionInfo"

namespace Ty

/-- The named type below all wrappers. -/
def base : Ty → NamedType
  | named n => n
  | list t _ | nonNull t _ | wrapper t _ => t.base

/-- The type below its non-null wrappers. -/
def core : Ty → Ty
  | nonNull t _ => t.core
  | t => t

/-- Whether null is not a value of the type. -/
def isNonNull : Ty → Bool
  | nonNull .. => true
  | _ => false

/-- Whether literals can have the type: all but the types of sort `other` below any wrappers. -/
def isInput (t : Ty) : Bool := t.base.sort != .other

/-- A type without the numbers of its wrappers: types that are written alike and have one named type
below are the same without them. -/
def plain : Ty → Ty
  | named n => named n
  | list t _ => list t.plain
  | nonNull t _ => nonNull t.plain
  | wrapper t _ => wrapper t.plain

end Ty

end QueryDefaults
