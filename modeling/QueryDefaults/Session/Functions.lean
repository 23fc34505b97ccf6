import QueryDefaults.Session.Coercions

/-!
Functions that expressions describe. What a function does is kept under a number, its code; a function that
is made anew whenever another one is called has one code all the same. The data inside a function gets its
numbers before the first call: it is the same data in every call.
-/

namespace QueryDefaults

/-- What a function of a session does. Its parts are evaluated whenever it is called. -/
inductive Callable where
  | body (e : Expr)
  | fails (f : Fault)
  | coerces (c : CoercionName Expr)

/-- The functions that were met in an expression, by their codes, and the next number. -/
structure Workshop where
  next : Nat
  functions : List (Nat × Callable) := []

/-- A computation that meets functions. -/
abbrev WorkshopM := StateM Workshop

/-- Keeps what a function does. -/
def keepFunction (f : Callable) : WorkshopM Expr := do
  let w ← get
  set { w with next := w.next + 1, functions := w.functions ++ [(w.next, f)] }
  return .made w.next

/-- A failure of the given class. -/
def failureOf (kind : ErrorClass) (message : Value) : Fault :=
  if kind = .graphql then Coercions.failWith message
  else .custom kind ((Value.exceptionOf (.bare kind message)).display.toOption.getD "")

/-- Data with numbers. -/
def numberData (v : Value) : WorkshopM Expr := do
  let w ← get
  let (v, next) := v.number.run w.next
  set { w with next }
  return .data v

mutual

/-- An expression with numbers for its data and codes for its functions. -/
def Expr.prepare : Expr → WorkshopM Expr
  | .data v => numberData v
  | .list es => do
    let es ← prepareAll es
    return .list es
  | .tuple es => do
    let es ← prepareAll es
    return .tuple es
  | .mapping es => do
    let es ← prepareEntries es
    return .mapping es
  | .location es => do
    let es ← prepareAll es
    return .location es
  | .node kind attrs => do
    let attrs ← prepareNamed attrs
    return .node kind attrs
  | .exception kind message cause context => do
    let message ← message.prepare
    let cause ← cause.prepare
    let context ← context.prepare
    return .exception kind message cause context
  | .enumeration members => do
    let members ← prepareNamed members
    return .enumeration members
  | .delayed body => do
    let body ← body.prepare
    keepFunction (.body body)
  | .failing kind message => keepFunction (.fails (failureOf kind message))
  | .coercion c => do
    let c ← prepareCoercion c
    keepFunction (.coerces c)
  | e => return e
termination_by structural e => e

/-- Expressions that are prepared from left to right. -/
def prepareAll : List Expr → WorkshopM (List Expr)
  | [] => return []
  | e :: es => do
    let e ← e.prepare
    let es ← prepareAll es
    return e :: es
termination_by structural es => es

/-- Entries that are prepared one after the other. -/
def prepareEntries : List (Expr × Expr) → WorkshopM (List (Expr × Expr))
  | [] => return []
  | (k, e) :: es => do
    let k ← k.prepare
    let e ← e.prepare
    let es ← prepareEntries es
    return (k, e) :: es
termination_by structural es => es

/-- Named expressions that are prepared one after the other. -/
def prepareNamed : List (String × Expr) → WorkshopM (List (String × Expr))
  | [] => return []
  | (k, e) :: es => do
    let e ← e.prepare
    let es ← prepareNamed es
    return (k, e) :: es
termination_by structural es => es

/-- A coercion function whose parts are prepared. -/
def prepareCoercion : CoercionName Expr → WorkshopM (CoercionName Expr)
  | .raiseGraphQL message => do
    let m ← message.prepare
    return .raiseGraphQL m
  | .raiseLocated message => do
    let m ← message.prepare
    return .raiseLocated m
  | .const value => do
    let e ← value.prepare
    return .const e
  | .accept value => do
    let e ← value.prepare
    return .accept e
  | .reject message => do
    let m ← message.prepare
    return .reject m
  | c => return c
termination_by structural c => c

end

end QueryDefaults
