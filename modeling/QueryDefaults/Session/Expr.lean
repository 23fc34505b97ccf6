import QueryDefaults.Value.Basic

/-!
Expressions that name or describe values. A session evaluates them among its named objects; a delayed
expression is evaluated each time it is called.
-/

namespace QueryDefaults

/-- The coercion functions that there are, those with parts of their own having them in `α`. -/
inductive CoercionName (α : Type) where
  | identity | undefined | odd | toFloat | nonNegative | double | length
  | raiseValueError
  | raiseGraphQL (message : α)
  | raiseLocated (message : α)
  | const (value : α)
  | accept (value : α)
  | reject (message : α)
  | nodeKind | nodePrint | nodeValue
  deriving Inhabited

/-- An expression. -/
inductive Expr where
  | data (v : Value)
  | integer (digits : String)
  | decimal (text : String)
  | list (items : List Expr)
  | tuple (items : List Expr)
  | mapping (entries : List (Expr × Expr))
  | location (items : List Expr)
  | control (name : String)
  | named (name : String)
  | type (text : String)
  | reference (text : String)
  | node (kind : String) (attrs : List (String × Expr))
  | exception (kind : ErrorClass) (message cause context : Expr)
  | enumeration (members : List (String × Expr))
  | delayed (body : Expr)
  | failing (kind : ErrorClass) (message : Value)
  | coercion (c : CoercionName Expr)
  | made (code : Nat)
  | attribute (object name : String)
  deriving Inhabited

/-- The notation of a type: a name, a list in brackets, a non-null with an exclamation mark. -/
inductive TypeNotation where
  | name (text : String)
  | list (of : TypeNotation)
  | nonNull (of : TypeNotation)

/-- Reads the notation of a type. An exclamation mark at the end comes off first. -/
def TypeNotation.read (cs : List Char) : TypeNotation :=
  if cs.getLast? = some '!' then nonNull (read cs.dropLast)
  else if cs.head? = some '[' ∧ cs.getLast? = some ']' then list (read (cs.drop 1).dropLast)
  else name (String.ofList cs)
termination_by cs.length
decreasing_by
  · next h =>
    have := List.length_pos_of_mem (List.mem_of_getLast? h)
    rw [List.length_dropLast]
    omega
  · next h =>
    have := List.length_pos_of_mem (List.mem_of_getLast? h.2)
    rw [List.length_dropLast, List.length_drop]
    omega

end QueryDefaults
