import QueryDefaults.Value.Attribute
import QueryDefaults.Value.Digest
import QueryDefaults.Value.Display

/-!
Walks through a syntax tree. A walk enters a node, walks through its children in the order of the key
map and leaves the node again; what the visitor answers on entering may leave out the children or end
the walk, what it answers on leaving may end it. The visitor has a state of its own, which also
survives a failure, so its answers may depend on all calls before.
-/

namespace QueryDefaults

/-- A step from a node to one of its attributes, or from a tuple to one of its items. -/
inductive Step where
  | key (name : String)
  | index (i : Nat)
  deriving DecidableEq, Repr

/-- The two sides of a node's visit. -/
inductive Side where
  | enter | leave
  deriving DecidableEq, Repr

/-- The name of a side, and of the method that is called on it. -/
def Side.text : Side → String
  | .enter => "enter"
  | .leave => "leave"

/-- Where a walk is: the last step, the node or tuple that it was made from, all steps from the root,
and the nodes and tuples before the last one. -/
structure Position where
  key : Option Step
  parent : Option Value
  path : List Step
  ancestors : List Value

namespace Position

/-- The place where a walk begins. -/
def root : Position := ⟨none, none, [], []⟩

/-- The nodes and tuples on the way to a place. -/
def above (p : Position) : List Value := p.ancestors ++ p.parent.toList

/-- The place one step further. -/
def down (p : Position) (here : Value) (step : Step) : Position :=
  ⟨some step, some here, p.path ++ [step], p.above⟩

end Position

/-- What a walk makes of an answer. -/
inductive Reply where
  | go | skip | stop
  deriving DecidableEq, Repr

/-- The control values and the booleans steer a walk; every other answer lets it go on. -/
def Value.reply : Value → Reply
  | .action .stop | .bool true => .stop
  | .action .skip | .bool false => .skip
  | _ => .go

/-- A walk with a state that is kept on failure. -/
abbrev Walk (σ : Type) := ExceptT Fault (StateM σ)

/-- A visitor: the names of its methods, and what calling one of them does. -/
structure Visitor (σ : Type) where
  defines : String → Bool
  call : String → Node → Position → Walk σ Value

/-- The names of the attributes to walk through at a node that goes by a kind; asking for them may fail. -/
abbrev KeyMap := Value → Except Fault (List Value)

/-- The attributes of a kind that hold nodes. -/
def Kind.childKeys : Kind → List String
  | .document => ["definitions"]
  | .operationDefinition => ["name", "variable_definitions"]
  | .variableDefinition => ["variable", "type", "default_value"]
  | .variableUse | .namedType => ["name"]
  | .listValue => ["values"]
  | .objectValue => ["fields"]
  | .objectField => ["name", "value"]
  | .listType | .nonNullType => ["type"]
  | _ => []

/-- The attributes that hold nodes, for every kind. -/
def documentKeys : KeyMap := fun kind => do
  match ← kind.kind? with
  | some k => return k.childKeys.map .word
  | none => return []

namespace Visitor

variable {σ : Type}

/-- The method for a side and a kind: the one for just this kind, or else the general one. -/
def method? (vis : Visitor σ) (side : Side) (kind : String) : Option String :=
  let special := side.text ++ "_" ++ kind
  if vis.defines special then some special
  else if vis.defines side.text then some side.text
  else none

/-- Calls the method for a side of a node, if there is one. -/
def reply (vis : Visitor σ) (side : Side) (n : Node) (p : Position) : Walk σ Reply := do
  let kind ← n.kindValue.display
  match vis.method? side kind with
  | some name => do
    let answer ← vis.call name n p
    return answer.reply
  | none => return .go

end Visitor

/-- Goes through a list until one of the walks is stopped; tells whether one was. -/
def untilStopped {σ α : Type} (f : α → Walk σ Bool) : List α → Walk σ Bool
  | [] => return false
  | x :: xs => do
    let stopped ← f x
    if stopped then return true else untilStopped f xs

/-- The items of a tuple; none of them is higher than the tuple. -/
def Value.tupleItems? (v : Value) : Option (List { w : Value // w.height ≤ v.height }) :=
  match v with
  | tuple xs _ | record _ xs _ =>
    some (xs.pmap Subtype.mk fun _ h => Nat.le_succ_of_le (height_le_of_mem h))
  | _ => none

/-- Walks through a value at a place; tells whether the walk was stopped. -/
def walk {σ : Type} (vis : Visitor σ) (keys : KeyMap) (v : Value) (p : Position) : Walk σ Bool :=
  match v with
  | .node n => do
    let entered ← vis.reply .enter n p
    match entered with
    | .stop => return true
    | .skip => return false
    | .go =>
      let children ← keys n.kindValue
      let stopped ← untilStopped (fun name => do
        let key ← name.attributeName
        match n.part? key with
        | none => match n.attr? key with
          | some v => throw (.refused .node v)
          | none => return false
        | some ⟨child, _⟩ =>
          if child.isNull then return false else
          let below := p.down (.node n) (.key key)
          match child.tupleItems? with
          | some items =>
            untilStopped (fun (⟨item, _⟩, i) => walk vis keys item (below.down child (.index i)))
              items.zipIdx
          | none => walk vis keys child below) children
      if stopped then return true else
      let left ← vis.reply .leave n p
      return left == .stop
  | _ => throw (.refused .node v)
termination_by v.height
decreasing_by
  all_goals simp only [Value.height_node] at *
  all_goals omega

/-- Visits a tree from its root; the answer is `stop` if the walk was stopped. -/
def visit {σ : Type} (vis : Visitor σ) (keys : KeyMap) (root : Value) : Walk σ Value :=
  match root with
  | .node _ => do
    let stopped ← walk vis keys root .root
    return if stopped then .action .stop else .null
  | _ => throw (.refused .root root)

end QueryDefaults
