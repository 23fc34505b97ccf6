import QueryDefaults.Node.Visit
import QueryDefaults.Text.Words
import QueryDefaults.Trace

/-!
Visitors that are given by a list of methods with fixed answers, and that note every call. Making one
checks that every method for a kind of node names a kind that there is. Methods may be given under anything
that can be a key, but only texts are names.
-/

namespace QueryDefaults

/-- A call that was made, and where. -/
structure Event where
  method : String
  node : Node
  place : Position

/-- The side and the kind that the name of a method refers to; other names refer to nothing. -/
def methodKind? (name : List Char) : Option (List Char) :=
  let word := name.takeWhile (· != '_')
  if String.ofList word = Side.enter.text ∨ String.ofList word = Side.leave.text then
    match name.dropWhile (· != '_') with
    | _ :: c :: kind => some (c :: kind)
    | _ => none
  else none

/-- Whether a kind, written with underscores, belongs to some class of nodes. -/
def isNodeKind (kind : List Char) : Bool :=
  let cls := String.ofList (Text.camel kind) ++ "Node"
  Kind.all.any (·.className == cls)

/-- Checks a name. What is no text lacks the operation that the check begins with, or has it for bytes. -/
def checkMethodName (name : Value) : Except Fault Unit :=
  match name with
  | .str s _ =>
    match methodKind? s.toList with
    | some kind => if isNodeKind kind then return else throw (.unknownKind (String.ofList kind))
    | none => return
  | .foreign .bytes _ => throw .operand
  | v => throw (.lacks v "startswith")

/-- A method under a key that has a digest. -/
structure NamedMethod where
  digest : Digest
  name : Value
  method : Method

/-- Puts a method at a name: in the place of an equal name, or at the end. -/
def putMethod (m : NamedMethod) : List NamedMethod → Except Fault (List NamedMethod)
  | [] => return [m]
  | k :: ms => do
    if ← m.name.isKeyOf m.digest ⟨k.digest, k.name, .null⟩ then return { k with method := m.method } :: ms
    let ms ← putMethod m ms
    return k :: ms

/-- The names that mean something to a class itself, and cannot be those of methods. -/
def classNames : List String := ["__slots__", "__qualname__", "__classcell__"]

/-- The names of what makes an object of a class. A scripted method in the place of one of these cannot be
called, since it expects a node and a place. -/
def makerNames : List String := ["__new__", "__init__"]

/-- Whether one of the methods has one of the names. -/
def hasMethod (ms : List NamedMethod) (names : List String) : Bool :=
  ms.any fun m => names.any (m.name.isText ·)

/-- A visitor with the given methods; a name that comes again takes the later answer. -/
def visitorOf (given : List (Value × Method)) : Traced Value := do
  let methods ← given.foldlM (fun ms (name, method) => do
    let digest ← Traced.keyDigest name
    putMethod { digest, name, method } ms) []
  if hasMethod methods classNames then throw .operand
  methods.forM fun m => checkMethodName m.name
  if hasMethod methods makerNames then throw .operand
  return .visitor (methods.filterMap fun m =>
    match m.name with
    | .str name _ => some (name, m.method)
    | _ => none)

/-- How often a method was called. -/
def callCount (events : List Event) (name : String) : Nat := events.countP (·.method == name)

/-- The answer of a method to its `n`-th call. -/
def MethodOf.answerTo (m : Method) (n : Nat) : Value :=
  match m.onCall with
  | none => m.answer
  | some k => if (n : Int) = k then m.answer else .null

/-- The visitor with the given methods, which notes its calls. -/
def scriptedVisitor (methods : List (String × Method)) : Visitor (List Event) where
  defines name := (methods.lookup name).isSome
  call name n p := do
    modify (· ++ [⟨name, n, p⟩])
    let events ← get
    match methods.lookup name with
    | none => return .null
    | some m => return m.answerTo (callCount events name)

end QueryDefaults
