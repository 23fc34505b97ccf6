import QueryDefaults.Node.ScriptedVisitor
import QueryDefaults.Session.Calls

/-!
What operations of a session give: an object, the calls of a walk, or the result of a validation that
may have been cancelled.
-/

namespace QueryDefaults

/-- A failure as a caller sees it: its class, and its text if it has one. -/
structure Failure where
  cls : ErrorClass
  message : Option Value

/-- The calls that a visitor noted, with the outcome of the walk. -/
structure WalkReport where
  action : Value
  events : List Event
  brief : Bool
  failure : Option Failure

/-- What an operation gives. -/
inductive Answer where
  | object (v : Value)
  | walked (w : WalkReport)
  | stepwise (result : Option Value)

/-- The attributes of a node that are shown: those that count for it and are not null. -/
def NodeOf.shown (n : Node) : Except Fault (List (String × Value)) := do
  let listed ← n.listed
  return listed.filter fun (_, v) => !v.isNull

/-- Fails if an object lies inside itself: its number is among those of the objects around it. -/
def checkOnce (around : List Nat) (id : Nat) : Except Fault Unit :=
  if isAround around id then throw .endless else return

mutual

/-- Fails if a value holds something that cannot be shown: a node needs all attributes that count for it, a
result the formatted form of its errors, an integer its digits, and nothing can lie inside itself. The
numbers of the objects around the value are given. -/
def Value.checkWithin (around : List Nat) : Value → Except Fault Unit
  | .int n _ => if isUnwritable n then throw .unreadable else return
  | .list xs i => do
    checkOnce around i
    checkAllWithin (i :: around) xs
  | .tuple xs _ => checkAllWithin around xs
  | .record shape xs _ => do
    checkAllWithin around xs
    if shape = .result then
      let _ ← formattedRecord .result xs
  | .mapping es i => do
    checkOnce around i
    checkEntriesWithin (i :: around) es
  | .node n => checkNodeWithin around n
  | .inputField ⟨_, _, initial, _, _⟩ => initial.checkWithin around
  | .enumValue ⟨_, value, description, deprecation⟩ => do
    value.checkWithin around
    description.checkWithin around
    deprecation.checkWithin around
  | .error ⟨message, _, locations, path, _, extensions, _, _, _⟩ => do
    message.checkWithin around
    locations.checkWithin around
    path.checkWithin around
    extensions.checkWithin around
  | .exceptionOf ⟨_, message, _, _, _, _, _, _⟩ => message.checkWithin around
  | _ => return
termination_by structural v => v

/-- Fails if a row of values holds something that cannot be shown. -/
def checkAllWithin (around : List Nat) : List Value → Except Fault Unit
  | [] => return
  | x :: xs => do
    x.checkWithin around
    checkAllWithin around xs
termination_by structural xs => xs

/-- Fails if a mapping holds something that cannot be shown. -/
def checkEntriesWithin (around : List Nat) : List Entry → Except Fault Unit
  | [] => return
  | ⟨_, k, v⟩ :: es => do
    k.checkWithin around
    v.checkWithin around
    checkEntriesWithin around es
termination_by structural es => es

/-- Fails if a node cannot be shown. -/
def checkNodeWithin (around : List Nat) : Node → Except Fault Unit
  | ⟨id, kind, attrs, digest⟩ => do
    checkOnce around id
    let shown ← NodeOf.shown ⟨id, kind, attrs, digest⟩
    checkNamedWithin (id :: around) (shown.map Prod.fst) attrs
termination_by structural n => n

/-- Fails if one of the attributes with the given names holds something that cannot be shown. -/
def checkNamedWithin (around : List Nat) (names : List String) :
    List (String × Value) → Except Fault Unit
  | [] => return
  | (k, v) :: as => do
    if names.contains k then v.checkWithin around
    checkNamedWithin around names as
termination_by structural as => as

end

/-- Fails if a value holds something that cannot be shown. -/
def Value.checkShown (v : Value) : Except Fault Unit := v.checkWithin []

/-- A failure as a caller of the session sees it. -/
def Session.failure (st : Session) (f : Fault) : Failure :=
  let f := f.settle st.called
  match f.message st.called with
  | .ok message => ⟨f.cls, message⟩
  | .error _ => ⟨f.cls, none⟩

namespace SessionM

/-- An answer that is a value. -/
def answer (v : Value) : SessionM Answer := return .object v

/-- An answer that is a text. -/
def answerText (s : String) : SessionM Answer := answer (.str s)

/-- An answer that is a boolean. -/
def answerBool (b : Bool) : SessionM Answer := answer (.bool b)

end SessionM

end QueryDefaults
