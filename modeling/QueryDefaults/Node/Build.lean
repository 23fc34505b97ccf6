import QueryDefaults.Value.Digest
import QueryDefaults.Value.Rebuild
import QueryDefaults.GraphQLError

/-!
Making nodes. A node gets every attribute of its kind, `null` where none is given; lists become tuples
and a tuple given as the source location becomes a location. A copy is made anew from the attributes
that count for a node: a shallow copy has the same children, a deep copy has new objects all the way down.
The deep copy of a context hands errors on to the list that the context itself hands them on to.
-/

namespace QueryDefaults

/-! ### New nodes -/

/-- A number of parts that no location is made of. -/
def Fault.locationParts (count : Nat) : Fault :=
  .unsupported .type (sentence ["SourceLocation.__new__() ", match count with
    | 0 => "missing 2 required positional arguments: 'line' and 'column'"
    | 1 => "missing 1 required positional argument: 'column'"
    | n => sentence ["takes 3 positional arguments but ", toString (n + 1), " were given"]])

/-- The location of a line and a column. -/
def placeOf : List Value → Except Fault Value
  | [line, column] => .ok (.location line column)
  | xs => .error (.locationParts xs.length)

/-- The form in which a node keeps an attribute. -/
def keptForm (name : String) : Value → Except Fault Value
  | .list xs _ => .ok (.tuple xs)
  | .tuple xs i => if name = "loc" then placeOf xs else .ok (.tuple xs i)
  | .record shape xs i => if name = "loc" then placeOf xs else .ok (.record shape xs i)
  | v => .ok v

/-- The attributes of a node of the given kind made from the given ones. -/
def Kind.attributes (kind : Kind) (given : List (String × Value)) :
    Except Fault (List (String × Value)) :=
  kind.keys.mapM fun key => do
    let v ← keptForm key ((given.lookup key).getD .null)
    return (key, v)

/-- A new node made from the given attributes. -/
def NodeOf.build (kind : Kind) (given : List (String × Value)) : Except Fault Node := do
  let attrs ← kind.attributes given
  return { id := 0, kind, attrs }

/-! ### Copies -/

/-- A node made anew from the attributes of another one. An attribute cannot be given under the name that
stands for the new node itself. -/
def NodeOf.again (kind : Kind) (given : List (String × Value)) : Except Fault Node :=
  if (given.lookup "self").isSome then .error .operand else NodeOf.build kind given

/-- A copy of a node that has the same children. -/
def NodeOf.copy (n : Node) : Except Fault Node := do
  let given ← n.listed
  NodeOf.again n.kind given

/-- Where the numbers of copies begin: by how much those of objects are greater, and the place of the first
named type that is copied. -/
structure Shift where
  objects : Nat
  types : Nat

/-- What a deep copy has met: the places of the named types to copy, in the order of their copies, and the
digests taken of copies that lie in the keys of mappings. -/
structure Copied where
  types : List Nat := []
  digests : Digests := []

/-- A computation that makes deep copies. -/
abbrev CopyM := StateT Copied (Except Fault)

/-- Says what functions make of arguments. -/
abbrev Application := Value → Value → Except Fault Value

/-- The place of the copy of a named type. -/
def copiedPlace (s : Shift) (id : Nat) : CopyM Nat := do
  let met ← get
  match met.types.idxOf? id with
  | some k => return s.types + k
  | none =>
    set { met with types := met.types ++ [id] }
    return s.types + met.types.length

/-- A copy of a named type. -/
def NamedType.copy (s : Shift) (n : NamedType) : CopyM NamedType := do
  let id ← copiedPlace s n.id
  return { n with id }

/-- A copy of a type. -/
def Ty.copy (s : Shift) : Ty → CopyM Ty
  | .named n => do
    let n ← n.copy s
    return .named n
  | .list t i => do
    let t ← t.copy s
    return .list t (i + s.objects)
  | .nonNull t i => do
    let t ← t.copy s
    return .nonNull t (i + s.objects)
  | .wrapper t i => do
    let t ← t.copy s
    return .wrapper t (i + s.objects)

/-- A copy of the owner of a method. -/
def MethodOwner.copy (s : Shift) : MethodOwner → CopyM MethodOwner
  | .scalar place => do
    let place ← copiedPlace s place
    return .scalar place
  | .object id => return .object (id + s.objects)

/-- Whether the items of two rows are the same objects. -/
def sameItems (xs ys : List Value) : Bool := (xs.zip ys).all fun (x, y) => x.same y

/-- An entry of a copied mapping. -/
def copiedEntry (key value : Value) : CopyM Entry := do
  let digest ← key.digest
  modify fun met => { met with digests := key.newDigests ++ met.digests }
  return { digest, key, value }

/-- Whether an object that is not data is its own copy. -/
def Foreign.isAtomic : Foreign → Bool
  | .instanceObject | .customInspect | .noncallableInspect | .noName | .set => false
  | _ => true

/-- A copy of an object that is not data. -/
def Foreign.copy (s : Shift) (f : Foreign) (id : Nat) : Except Fault Value :=
  if f = .generator ∨ f = .coroutine then .error .operand
  else .ok (.foreign f (if f.isAtomic then id else id + s.objects))

/-- The function that makes the deep copy of a node, if it has one of its own. -/
def NodeOf.copier? (n : Node) : Option Value :=
  match n.attrs.lookup "__deepcopy__" with
  | none | some .null => none
  | some f => some f

mutual

/-- A copy of a value with new objects all the way down; `apply` says what functions make of arguments. A
node is made anew from the attributes that count for it, an error from its message, an exception from its
message and its other attributes. A tuple of parts that stayed what they are stays what it is; data,
functions, classes and members of enumerations are not copied. -/
def Value.deepCopy (apply : Application) (s : Shift) : Value → CopyM Value
  | .list xs i => do
    let ys ← deepCopyAll apply s xs
    return .list ys (i + s.objects)
  | .tuple xs i => do
    let ys ← deepCopyAll apply s xs
    return if sameItems xs ys then .tuple xs i else .tuple ys (i + s.objects)
  | .record shape xs i => do
    let ys ← deepCopyAll apply s xs
    return .record shape ys (i + s.objects)
  | .mapping es i => do
    let fs ← deepCopyEntries apply s es
    return .mapping fs (i + s.objects)
  | .node n => deepCopyNode apply s n
  | .type t => do
    let t ← t.copy s
    return .type t
  | .inputField ⟨id, t, initial, description, deprecation⟩ => do
    let t ← t.copy s
    let initial ← initial.deepCopy apply s
    let description ← description.deepCopy apply s
    let deprecation ← deprecation.deepCopy apply s
    return .inputField ⟨id + s.objects, t, initial, description, deprecation⟩
  | .enumValue ⟨id, value, description, deprecation⟩ => do
    let value ← value.deepCopy apply s
    let description ← description.deepCopy apply s
    let deprecation ← deprecation.deepCopy apply s
    return .enumValue ⟨id + s.objects, value, description, deprecation⟩
  | .error ⟨message, _, _, _, _, _, _, _, id⟩ => do
    let message ← message.deepCopy apply s
    return .error { GraphQLError.ofMessage message with id := id + s.objects }
  | .exceptionOf ⟨kind, message, _, _, id, cls, truth, attrs⟩ => do
    let message ← message.deepCopy apply s
    let attrs ← deepCopyNamed apply s attrs
    return .exceptionOf ⟨kind, message, .null, .null, id + s.objects, cls, truth, attrs⟩
  | .registry types mapId i => do
    let types ← types.mapM (·.copy s)
    return .registry types (mapId + s.objects) (i + s.objects)
  | .context ⟨registry, document, sink, fatal, errors, reported, handed, id, errorsId, reportedId,
      handedId⟩ => do
    let registry ← registry.deepCopy apply s
    let document ← document.deepCopy apply s
    let fatal ← fatal.deepCopy apply s
    let errors ← deepCopyAll apply s errors
    let copies ← deepCopyAll apply s reported
    let (handed, handedId) := if handedId = 0 then (reported, reportedId) else (handed, handedId)
    return .context ⟨registry, document, sink, fatal, errors, copies, handed, id + s.objects,
      errorsId + s.objects, reportedId + s.objects, handedId⟩
  | .rule ⟨c, checking, path, id⟩ => do
    let c ← c.deepCopy apply s
    let path ← path.deepCopy apply s
    return .rule ⟨c, checking, path, id + s.objects⟩
  | .visitor ms i => return .visitor ms (i + s.objects)
  | .method owner i => do
    let owner ← owner.copy s
    return .method owner (i + s.objects)
  | .foreign f i => f.copy s i
  | v => return v
termination_by structural v => v

/-- Copies of values in a row. -/
def deepCopyAll (apply : Application) (s : Shift) : List Value → CopyM (List Value)
  | [] => return []
  | x :: xs => do
    let y ← x.deepCopy apply s
    let ys ← deepCopyAll apply s xs
    return y :: ys
termination_by structural xs => xs

/-- Copies of named values. -/
def deepCopyNamed (apply : Application) (s : Shift) : List (String × Value) → CopyM (List (String × Value))
  | [] => return []
  | (k, v) :: as => do
    let w ← v.deepCopy apply s
    let bs ← deepCopyNamed apply s as
    return (k, w) :: bs
termination_by structural as => as

/-- Copies of the entries of a mapping. -/
def deepCopyEntries (apply : Application) (s : Shift) : List Entry → CopyM (List Entry)
  | [] => return []
  | ⟨_, k, v⟩ :: es => do
    let key ← k.deepCopy apply s
    let value ← v.deepCopy apply s
    let e ← copiedEntry key value
    let fs ← deepCopyEntries apply s es
    return e :: fs
termination_by structural es => es

/-- A copy of a node. The attributes that count for it are copied in the order in which they are listed. -/
def deepCopyNode (apply : Application) (s : Shift) : Node → CopyM Value
  | ⟨id, kind, attrs, digest⟩ => do
    let n : Node := ⟨id, kind, attrs, digest⟩
    match n.copier? with
    | some f => apply f (.mapping [])
    | none =>
      let copies := copiersOf apply s attrs
      let keys ← n.keysValue.toList
      let given ← keys.mapM fun key => do
        let name ← key.attributeName
        let v ← n.attr name
        let w ← (copies.lookup name).getD (pure v)
        return (name, w)
      let k ← NodeOf.again kind given
      return .node { k with id := id + s.objects }
termination_by structural n => n

/-- For each attribute, what makes a copy of it. -/
def copiersOf (apply : Application) (s : Shift) : List (String × Value) → List (String × CopyM Value)
  | [] => []
  | (k, v) :: as => (k, v.deepCopy apply s) :: copiersOf apply s as
termination_by structural as => as

end

end QueryDefaults
