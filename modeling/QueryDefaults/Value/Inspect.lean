import QueryDefaults.Value.Display

/-!
Values as diagnostics describe them. Containers below depth 2 are elided, texts are cut down to an
excerpt, and objects that are not data are named by what they are. A node may have a function that
describes it; what this gives stands for the description, so describing a value may fail.
-/

namespace QueryDefaults

/-- The name of a built-in coercion function. -/
def BuiltinFunction.name : BuiltinFunction → String
  | .pass => "parse_value"
  | .int => "coerce_int"
  | .intLiteral => "parse_int_literal"
  | .float => "coerce_float"
  | .floatLiteral => "parse_float_literal"
  | .string => "coerce_string"
  | .stringLiteral => "parse_string_literal"
  | .boolean => "coerce_boolean"
  | .booleanLiteral => "parse_boolean_literal"
  | .identifier => "coerce_id"
  | .identifierLiteral => "parse_id_literal"

/-- Texts in a row; every value must be a text. -/
def textsOf : List Value → Except Fault (List String)
  | [] => return []
  | .str s _ :: vs => do
    let ts ← textsOf vs
    return s :: ts
  | _ => throw .operand

namespace Inspect

/-- The depth below which containers are elided. -/
def depthLimit : Nat := 2

/-- An object of a class. -/
def instanceOf (cls : String) : String :=
  if cls.isEmpty then "<object>" else "<" ++ cls ++ " instance>"

/-- An object that is not data. -/
def foreign (f : Foreign) : String :=
  match f with
  | .lambda => "<function>"
  | .function => "<function test_func>"
  | .classObject => "<class TestClass>"
  | .exceptionClass => "<exception class ValueError>"
  | .generatorFunction => "<generator function test_generator>"
  | .generator => "<generator test_generator>"
  | .coroutineFunction => "<coroutine function test_coroutine>"
  | .coroutine => "<coroutine test_coroutine>"
  | .customInspect => "<custom inspect>"
  | f => instanceOf f.className

/-- A value that is described without a look into it. -/
def flat (v : Value) : String :=
  match v with
  | .str s _ => Text.excerpt (Text.quoted s)
  | .error _ => "<exception GraphQLError>"
  | .exceptionOf e => "<exception " ++ e.cls ++ ">"
  | .enumeration .. => "<class " ++ Value.enumerationName ++ ">"
  | .function .. => "<function>"
  | .builtin f => "<function " ++ f.name ++ ">"
  | .method (.scalar _) _ => "<method parse_literal>"
  | .method (.object _) _ => "<method test_method>"
  | .type t => t.text
  | .foreign f _ => foreign f
  | .null | .undefined | .bool _ | .float .. => v.plain
  | _ => instanceOf v.className

/-- A value that is described without a look into it, as an object. A few descriptions are the same object
every time. -/
def described (v : Value) : Except Fault Value :=
  match v with
  | .type (.named n) => return n.label
  | .undefined | .bool _ | .foreign .customInspect _ | .foreign .noName _ => return .word (flat v)
  | .int n _ => do
    let t ← integerText n
    return .str t
  | v => return .str (flat v)

/-- A node, by the function that describes it, if it has one. -/
def node (call : Value → Except Fault Value) (n : Node) : Except Fault Value :=
  match n.attrs.lookup "__inspect__" with
  | some f => if f.callable then call f else return .str (flat (.node n))
  | none => return .str (flat (.node n))

/-- The opening bracket, the elided form and the closing bracket of a container. -/
def elided (v : Value) : String :=
  match v with
  | .list .. => "[...]"
  | .mapping .. => "\x7b...\x7d"
  | _ => "(...)"

/-- The descriptions of the items of a tuple in round brackets. One that stands alone need not be a text. -/
def tupled (items : List Value) : Except Fault Value := do
  match items with
  | [t] => do
    let t ← t.display
    return .str (Value.tupled [t])
  | ts => do
    let ts ← textsOf ts
    return .str (Value.tupled ts)

mutual

/-- A value inside `depth` containers. -/
def within (call : Value → Except Fault Value) (depth : Nat) : Value → Except Fault Value
  | .list xs i =>
    if depth < depthLimit then do
      let ts ← all call depth xs
      let ts ← textsOf ts
      return .str (Value.bracketed ts)
    else return .str (elided (.list xs i))
  | .tuple xs i =>
    if depth < depthLimit then do
      let ts ← all call depth xs
      tupled ts
    else return .str (elided (.tuple xs i))
  | .record shape xs i =>
    if depth < depthLimit then do
      let ts ← all call depth xs
      tupled ts
    else return .str (elided (.record shape xs i))
  | .mapping es i =>
    if depth < depthLimit then do
      let ts ← entries call depth es
      return .str ("\x7b" ++ Value.commas ts ++ "\x7d")
    else return .str (elided (.mapping es i))
  | .node n => node call n
  | v => described v
termination_by structural v => v

/-- The items of a container that lies inside `depth` containers. -/
def all (call : Value → Except Fault Value) (depth : Nat) : List Value → Except Fault (List Value)
  | [] => return []
  | x :: xs => do
    let t ← within call (depth + 1) x
    let ts ← all call depth xs
    return t :: ts
termination_by structural xs => xs

/-- The entries of a mapping that lies inside `depth` containers. -/
def entries (call : Value → Except Fault Value) (depth : Nat) : List Entry → Except Fault (List String)
  | [] => return []
  | ⟨_, k, v⟩ :: es => do
    let t ← within call (depth + 1) k
    let t ← t.display
    let u ← within call (depth + 1) v
    let u ← u.display
    let ts ← entries call depth es
    return (t ++ ": " ++ u) :: ts
termination_by structural es => es

end

end Inspect

/-- The description of a value in a diagnostic; `call` says what calling a function gives. -/
def Value.inspect (call : Value → Except Fault Value) (v : Value) : Except Fault Value :=
  Inspect.within call 0 v

end QueryDefaults
