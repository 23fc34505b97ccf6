import QueryDefaults.GraphQLError
import QueryDefaults.Literal.Coercion
import QueryDefaults.Session.Expr
import QueryDefaults.Value.Convert

/-!
What the coercion functions do that custom scalars can be made with.
-/

namespace QueryDefaults

namespace Coercions

/-- Fails with an error that has a message only. -/
def failWith (message : Value) : Fault := .raised (GraphQLError.ofMessage message)

/-- A boolean or an integer as an integer. -/
def integer? : Value → Option Int
  | .int n _ => some n
  | .bool b => some (if b then 1 else 0)
  | _ => none

/-- Odd integers. -/
def odd (call : Value → Except Fault Value) : Coerce := fun v =>
  match integer? v with
  | none => do
    let description ← v.inspect call
    let shown ← description.display
    throw (failWith (.str (sentence ["Odd cannot represent ", shown, "."])))
  | some n =>
    if n % 2 = 0 then do
      let shown ← v.display
      throw (failWith (.str (sentence ["Odd cannot represent ", shown, " since it is even."])))
    else return v

/-- Whatever can be read as a double; only a number that is too large fails otherwise. -/
def toFloat : Coerce := fun v =>
  match v.asDouble with
  | .ok x => return x
  | .error f =>
    if f.cls = .overflow then throw f else throw (failWith (.str "cannot coerce to Float"))

/-- Numbers that are not below zero. -/
def nonNegative : Coerce := fun v =>
  match v with
  | .float x _ => if x.isNegative then refused v else return v
  | _ =>
    match integer? v with
    | some n => if n < 0 then refused v else return v
    | none => throw .operand
where
  /-- Fails because of a number below zero. -/
  refused : Coerce := fun v => do
    let shown ← v.display
    throw (failWith (.str (sentence ["Negative: ", shown])))

/-- Twice a number, or a text or a row of values two times. -/
def double : Coerce := fun v =>
  match v with
  | .float x _ => return .float x.twice
  | .str s _ => return .str (s ++ s)
  | .list xs _ => return .list (xs ++ xs)
  | .tuple xs _ | .record _ xs _ => return .tuple (xs ++ xs)
  | .foreign .bytes _ => return v
  | _ =>
    match integer? v with
    | some n => return .int (n * 2)
    | none => throw .operand

/-- The number of things in a value. -/
def length : Coerce := fun v => do
  let n ← v.length
  return .int n

/-- Fails with an error about the literal. -/
def failAt (message : Value) : Coerce := fun v => do
  let e ← GraphQLError.make message v (.list [.word "here"]) .null (.ofEntries [("x", .int 1)])
  throw (.raised e)

end Coercions

/-- What a coercion function makes of an argument. Its own parts are evaluated now, and `call` says what a
function gives without arguments. New objects that come to lie in several places get numbers from `next`
on. -/
def CoercionName.apply {α : Type} (evaluate : α → Traced Value) (call : Value → Except Fault Value)
    (next : Nat) (c : CoercionName α) (v : Value) : Traced Value :=
  match c with
  | identity => return v
  | undefined => return .undefined
  | odd => Coercions.odd call v
  | toFloat => Coercions.toFloat v
  | nonNegative => Coercions.nonNegative v
  | double =>
    let (v, used) := v.number.run next
    let done : Traced Unit := { result := .ok (), used }
    done.followedBy (Coercions.double v)
  | length => Coercions.length v
  | raiseValueError => throw (.custom .value "nope")
  | raiseGraphQL message => do
    let m ← evaluate message
    throw (Coercions.failWith m)
  | raiseLocated message => do
    let m ← evaluate message
    Coercions.failAt m v
  | const value => evaluate value
  | accept value => do
    let w ← evaluate value
    return (Outcome.accepted w).toValue
  | reject message => do
    let m ← evaluate message
    return (Outcome.rejected m).toValue
  | nodeKind => v.attr "kind"
  | nodePrint => v.print
  | nodeValue => v.attr "value"

end QueryDefaults
