import QueryDefaults.Session.Operation

/-!
Requests. A request performs an operation on arguments that are evaluated from left to right, and may
give its result a name. A failing request leaves the session as far changed as it came.
-/

namespace QueryDefaults

/-- One step of a session: an operation, its arguments by place and by name, and the name for its
result, if any. -/
structure Request where
  operation : Operation
  arguments : List Expr
  named : List (String × Expr) := []
  result : Option String := none

namespace SessionM

/-- The present form of an answer, and what is kept of it. It must be possible to show it. -/
def settle (a : Answer) : SessionM (Answer × Option Value) := do
  match a with
  | .object v => do
    let kept ← keep v
    let v ← view kept
    v.checkShown
    return (.object v, some kept)
  | .stepwise (some v) => do
    let v ← present v
    return (.stepwise (some v), none)
  | a => return (a, none)

/-- Gives a name to an object. -/
def bindName (name : String) (v : Value) : SessionM Unit :=
  modify fun st => { st with names := putNamed name v st.names }

/-- Evaluates arguments with names. -/
def evalNamed (named : List (String × Expr)) : SessionM (List (String × Value)) :=
  named.mapM fun (name, e) => do
    let v ← eval e
    return (name, v)

end SessionM

open SessionM in
/-- Carries out a request. -/
def Request.run (r : Request) : SessionM Answer := do
  let args ← evalAll r.arguments
  let named ← evalNamed r.named
  let args ← bindArguments r.operation.parameters args named
  let args ← args.mapM view
  let a ← r.operation.perform args
  let (a, kept) ← settle a
  match r.result, kept with
  | some name, some v => bindName name v
  | _, _ => pure ()
  return a

/-- Carries out one step: what it gives or why it fails, what it logs, and the session after it. -/
def Session.step (st : Session) (r : Request) : Except Failure Answer × List LogRecord × Session :=
  let (outcome, st) := r.run.run { st with logs := [], noted := [] }
  (outcome.mapError st.failure, st.logs, st)

end QueryDefaults
