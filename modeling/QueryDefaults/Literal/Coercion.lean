import QueryDefaults.Node.Print
import QueryDefaults.Types.Schema

/-!
Coercing a literal with the functions of a scalar. The scalar accepts the literal with a value or
rejects it, perhaps with a message of its own; a failure of its functions does not get out, only the
message of an error of the library is kept. If there is none, since the class of the error did not set it,
asking for it fails, and this failure gets out.
-/

namespace QueryDefaults

/-- What a scalar makes of a literal. -/
inductive Outcome where
  | accepted (value : Value)
  | rejected (message : Value)
  deriving Inhabited

/-- An outcome as a record. -/
def Outcome.toValue : Outcome → Value
  | accepted v => .record .accepted [v]
  | rejected m => .record .rejected [m]

/-- A result of a coercion function as the record of an outcome: an outcome stands for itself,
`undefined` rejects, and any other value is accepted. -/
def outcomeRecord (result : Value) : Value :=
  match result with
  | .record .accepted .. | .record .rejected .. => result
  | .undefined => (Outcome.rejected .null).toValue
  | v => (Outcome.accepted v).toValue

/-- The outcome that a record stands for. -/
def outcomeOf (result : Value) : Outcome :=
  match result with
  | .record .accepted [v] _ => .accepted v
  | .record .rejected [m] _ => .rejected m
  | .undefined => .rejected .null
  | v => .accepted v

/-- The message of an error of the library. Asking for it fails if the error has none. -/
def Fault.said (call : Value → Except Fault Value) (f : Fault) : Except Fault Value :=
  match f with
  | raised e => return e.message
  | thrown e => e.attr "message"
  | f =>
    match f.message call with
    | .ok (some m) => return m
    | _ => return .null

/-- The message that a failure rejects a literal with, if it is an error of the library. -/
def rejection? (call : Value → Except Fault Value) (f : Fault) : Except Fault (Option Value) :=
  if f.cls = .graphql then (f.said call).map some else return none

/-- A value as it stands in a record of the log. -/
def logText (v : Value) : String :=
  match v.display with
  | .ok s => s
  | .error _ => ""

/-- Rejects a literal because of a failure, and logs it. For the record the scalar is asked for its name,
the literal is printed, and an error of the library is asked for its message. -/
def Schema.reject (s : Schema) (scalar literal : Value) (f : Fault) : Traced Value := do
  let f := f.settle s.called
  let name ← s.attr scalar "name"
  let printed ← literal.print
  match ← rejection? s.called f with
  | some m =>
    Traced.log ⟨.coercion,
      sentence ["Scalar ", logText name, " rejected ", logText printed, ": ", logText m], none⟩
    return (Outcome.rejected m).toValue
  | none =>
    Traced.log ⟨.coercion,
      sentence ["Scalar ", logText name, " failed to coerce ", logText printed, "."], some f.cls⟩
    return (Outcome.rejected .null).toValue

/-- Coerces a literal with the function for literals of a scalar, or of an object that has one. -/
def Schema.coerceLiteral (s : Schema) (scalar literal : Value) : Traced Value :=
  let coerced : Traced Value := do
    let onLiteral ← s.attr scalar "parse_literal"
    let result ← s.applyTo onLiteral literal
    return outcomeRecord result
  tryCatch coerced (s.reject scalar literal)

end QueryDefaults
