import QueryDefaults.Value.Identity

/-!
Going through all parts of a value. `rebuild` makes a value anew from the bottom up: a step sees a value
as it was and as it is with its parts made anew. What is `known` is not gone through. Giving numbers to new
objects is such a walk, and so is keeping objects by their numbers.
-/

namespace QueryDefaults

section Rebuild

variable {m : Type → Type} [Monad m]

/-- What is known, or else the outcome of a computation. -/
def unlessKnown (known : Option Value) (rest : m Value) : m Value :=
  match known with
  | some w => return w
  | none => rest

mutual

/-- A value with a step made at each of its parts that are not known, the innermost first. -/
def Value.rebuild (known : Value → Option Value) (f : Value → Value → m Value) : Value → m Value
  | .list xs i => unlessKnown (known (.list xs i)) do
    let ys ← rebuildAll known f xs
    f (.list xs i) (.list ys i)
  | .tuple xs i => do
    let ys ← rebuildAll known f xs
    f (.tuple xs i) (.tuple ys i)
  | .record shape xs i => do
    let ys ← rebuildAll known f xs
    f (.record shape xs i) (.record shape ys i)
  | .mapping es i => unlessKnown (known (.mapping es i)) do
    let fs ← rebuildEntries known f es
    f (.mapping es i) (.mapping fs i)
  | .node n => unlessKnown (known (.node n)) do
    let k ← rebuildNode known f n
    f (.node n) (.node k)
  | .inputField ⟨id, t, initial, description, deprecation⟩ =>
    unlessKnown (known (.inputField ⟨id, t, initial, description, deprecation⟩)) do
      let initial' ← initial.rebuild known f
      let description' ← description.rebuild known f
      let deprecation' ← deprecation.rebuild known f
      f (.inputField ⟨id, t, initial, description, deprecation⟩)
        (.inputField ⟨id, t, initial', description', deprecation'⟩)
  | .enumValue ⟨id, value, description, deprecation⟩ =>
    unlessKnown (known (.enumValue ⟨id, value, description, deprecation⟩)) do
      let value' ← value.rebuild known f
      let description' ← description.rebuild known f
      let deprecation' ← deprecation.rebuild known f
      f (.enumValue ⟨id, value, description, deprecation⟩)
        (.enumValue ⟨id, value', description', deprecation'⟩)
  | .enumeration ms others i => unlessKnown (known (.enumeration ms others i)) do
    let ns ← rebuildNamed known f ms
    let others' ← rebuildNamed known f others
    f (.enumeration ms others i) (.enumeration ns others' i)
  | .member e name v => unlessKnown (known (.member e name v)) do
    let w ← v.rebuild known f
    f (.member e name v) (.member e name w)
  | .error e => unlessKnown (known (.error e)) do
    let d ← rebuildError known f e
    f (.error e) (.error d)
  | .exceptionOf e => unlessKnown (known (.exceptionOf e)) do
    let d ← rebuildException known f e
    f (.exceptionOf e) (.exceptionOf d)
  | .context c => unlessKnown (known (.context c)) do
    let d ← rebuildContext known f c
    f (.context c) (.context d)
  | .rule ⟨c, checking, path, id⟩ => unlessKnown (known (.rule ⟨c, checking, path, id⟩)) do
    let c' ← c.rebuild known f
    let path' ← path.rebuild known f
    f (.rule ⟨c, checking, path, id⟩) (.rule ⟨c', checking, path', id⟩)
  | .visitor ms i => unlessKnown (known (.visitor ms i)) do
    let ns ← rebuildMethods known f ms
    f (.visitor ms i) (.visitor ns i)
  | v => f v v
termination_by structural v => v

/-- Values in a row with a step made at each part. -/
def rebuildAll (known : Value → Option Value) (f : Value → Value → m Value) :
    List Value → m (List Value)
  | [] => return []
  | x :: xs => do
    let y ← x.rebuild known f
    let ys ← rebuildAll known f xs
    return y :: ys
termination_by structural xs => xs

/-- Entries of a mapping with a step made at each part. -/
def rebuildEntries (known : Value → Option Value) (f : Value → Value → m Value) :
    List Entry → m (List Entry)
  | [] => return []
  | ⟨digest, k, v⟩ :: es => do
    let l ← k.rebuild known f
    let w ← v.rebuild known f
    let fs ← rebuildEntries known f es
    return ⟨digest, l, w⟩ :: fs
termination_by structural es => es

/-- Named values with a step made at each part. -/
def rebuildNamed (known : Value → Option Value) (f : Value → Value → m Value) :
    List (String × Value) → m (List (String × Value))
  | [] => return []
  | (k, v) :: as => do
    let w ← v.rebuild known f
    let bs ← rebuildNamed known f as
    return (k, w) :: bs
termination_by structural as => as

/-- A node with a step made at each part of its attributes. -/
def rebuildNode (known : Value → Option Value) (f : Value → Value → m Value) : Node → m Node
  | ⟨id, kind, attrs, digest⟩ => do
    let attrs' ← rebuildNamed known f attrs
    return ⟨id, kind, attrs', digest⟩
termination_by structural n => n

/-- An error with a step made at each part. -/
def rebuildError (known : Value → Option Value) (f : Value → Value → m Value) :
    GraphQLError → m GraphQLError
  | ⟨message, nodes, locations, path, underlying, extensions, cause, context, id⟩ => do
    let message' ← message.rebuild known f
    let nodes' ← nodes.rebuild known f
    let locations' ← locations.rebuild known f
    let path' ← path.rebuild known f
    let underlying' ← underlying.rebuild known f
    let extensions' ← extensions.rebuild known f
    let cause' ← cause.rebuild known f
    let context' ← context.rebuild known f
    return ⟨message', nodes', locations', path', underlying', extensions', cause', context', id⟩
termination_by structural e => e

/-- An exception with a step made at each part. -/
def rebuildException (known : Value → Option Value) (f : Value → Value → m Value) :
    Exception → m Exception
  | ⟨kind, message, cause, context, id, cls, truth, attrs⟩ => do
    let message' ← message.rebuild known f
    let cause' ← cause.rebuild known f
    let context' ← context.rebuild known f
    let attrs' ← rebuildNamed known f attrs
    return ⟨kind, message', cause', context', id, cls, truth, attrs'⟩
termination_by structural e => e

/-- A context with a step made at each part. -/
def rebuildContext (known : Value → Option Value) (f : Value → Value → m Value) :
    Context → m Context
  | ⟨registry, document, sink, fatal, errors, reported, handed, id, errorsId, reportedId, handedId⟩ => do
    let registry' ← registry.rebuild known f
    let document' ← document.rebuild known f
    let fatal' ← fatal.rebuild known f
    let errors' ← rebuildAll known f errors
    let reported' ← rebuildAll known f reported
    let handed' ← rebuildAll known f handed
    return ⟨registry', document', sink, fatal', errors', reported', handed', id, errorsId, reportedId,
      handedId⟩
termination_by structural c => c

/-- The methods of a visitor with a step made at each part of their answers. -/
def rebuildMethods (known : Value → Option Value) (f : Value → Value → m Value) :
    List (String × Method) → m (List (String × Method))
  | [] => return []
  | (k, ⟨answer, onCall⟩) :: ms => do
    let answer' ← answer.rebuild known f
    let ns ← rebuildMethods known f ms
    return (k, ⟨answer', onCall⟩) :: ns
termination_by structural ms => ms

end

end Rebuild

/-! ### Numbers -/

/-- The number of an object that has more to it than what is shown of it; 0 if it has none yet. Data and
records have no such number. -/
def Value.objectNumber? : Value → Option Nat
  | .node n => some n.id
  | .inputField f => some f.id
  | .enumValue u => some u.id
  | .enumeration _ _ i => some i
  | .error e => some e.id
  | .exceptionOf e => some e.id
  | .context c => some c.id
  | .rule r => some r.id
  | .visitor _ i => some i
  | _ => none

/-- An object whose number is of the given sort. -/
def Value.numberedAs (p : Nat → Bool) (v : Value) : Option Value :=
  match v.objectNumber? with
  | some i => if i != 0 && p i then some v else none
  | none => none

section Renumber

variable {m : Type → Type} [Monad m]

/-- A type with its numbers replaced. -/
def Ty.renumber (f : Nat → m Nat) : Ty → m Ty
  | .named n => return .named n
  | .list t i => do
    let t ← t.renumber f
    let i ← f i
    return .list t i
  | .nonNull t i => do
    let t ← t.renumber f
    let i ← f i
    return .nonNull t i
  | .wrapper t i => do
    let t ← t.renumber f
    let i ← f i
    return .wrapper t i

/-- A member as that of the enumeration with the given number. -/
def Value.joined (enumeration : Nat) : Value → Value
  | .member _ name v => .member enumeration name v
  | v => v

/-- A number replaced, if it is one. -/
def renumberGiven (f : Nat → m Nat) (id : Nat) : m Nat := if id = 0 then return 0 else f id

/-- The owner of a method with its number replaced. -/
def MethodOwner.renumber (f : Nat → m Nat) : MethodOwner → m MethodOwner
  | .scalar place => return .scalar place
  | .object id => return .object (← f id)

/-- An object with its own numbers replaced, not those of its parts. -/
def Value.renumberHere (f : Nat → m Nat) (v : Value) : m Value :=
  match v with
  | .int n i => return .int n (← f i)
  | .float x i => return .float x (← f i)
  | .str s i => return .str s (← f i)
  | .list xs i => return .list xs (← f i)
  | .tuple xs i => return .tuple xs (← f i)
  | .mapping es i => return .mapping es (← f i)
  | .record shape xs i => return .record shape xs (← f i)
  | .node n => return .node { n with id := ← f n.id }
  | .type t => return .type (← t.renumber f)
  | .inputField x => return .inputField { x with id := ← f x.id, type := ← x.type.renumber f }
  | .enumValue u => return .enumValue { u with id := ← f u.id }
  | .enumeration ms others i => do
    let i ← f i
    return .enumeration (ms.map fun (k, m) => (k, m.joined i)) others i
  | .error e => return .error { e with id := ← f e.id }
  | .exceptionOf e => return .exceptionOf { e with id := ← f e.id }
  | .registry types mapId i => return .registry types (← f mapId) (← f i)
  | .context c =>
    return .context { c with
      id := ← f c.id
      errorsId := ← f c.errorsId
      reportedId := ← f c.reportedId
      handedId := ← renumberGiven f c.handedId }
  | .rule r => return .rule { r with id := ← f r.id }
  | .visitor ms i => return .visitor ms (← f i)
  | .function code i => return .function code (← f i)
  | .method owner i => return .method (← owner.renumber f) (← f i)
  | .foreign x i => return .foreign x (← f i)
  | v => return v

end Renumber

/-- A number as it is, or the next one for an object that has none. -/
def numbered (id : Nat) : StateM Nat Nat := if id = 0 then modifyGet fun n => (n, n + 1) else return id

/-- An object with a number, its parts being numbered already. -/
def Value.numberHere (v : Value) : StateM Nat Value := v.renumberHere numbered

/-- A value with numbers for all new objects in it. There are none in an object that has a number. -/
def Value.number (v : Value) : StateM Nat Value :=
  v.rebuild (·.numberedAs fun _ => true) fun _ w => w.numberHere

/-- A value whose objects have lost the numbers from `next` on, as if they had just been made. There are
none in older objects. -/
def Value.release (next : Nat) (v : Value) : Value :=
  Id.run (v.rebuild (·.numberedAs (· < next)) fun _ w =>
    w.renumberHere fun id => return if id < next then id else 0)

/-- The greatest number in the parts of a value that are not known. -/
def Value.greatestNumber (known : Value → Option Value) (v : Value) : Nat :=
  let seen : StateM Nat Value := v.rebuild known fun _ w => w.renumberHere fun i => do
    modify (max i)
    return i
  (seen.run 0).2

end QueryDefaults
