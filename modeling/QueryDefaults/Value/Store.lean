import QueryDefaults.Value.Digest
import QueryDefaults.Value.Rebuild
import Std.Data.TreeMap

/-!
Stores. An object may be held in several places and may lead back to itself, so a store keeps its objects
by their numbers: what it keeps of an object has references in the place of the objects inside it. `keep`
puts the new objects of a value into a store, and `view` puts objects in the place of references again. A
view of objects that lead back to themselves goes round a number of times.
-/

namespace QueryDefaults

/-! ### What is kept of an object -/

/-- The attribute of a node that is the mapping of its marks: the attributes that callers give to it beyond
those of its kind. -/
def marksName : String := "__dict__"

/-- Whether an attribute lies in the nodes of a kind themselves. All others are marks. -/
def Kind.hasPlaceFor (kind : Kind) (name : String) : Bool := kind.keys.contains name || name == digestName

theorem Kind.marksName_notMem (kind : Kind) : marksName ∉ kind.keys :=
  forall_keys (P := (marksName ∉ ·)) (by decide) kind

/-- An object without its parts. -/
def Value.reference : Value → Value
  | .node n => .node ⟨n.id, n.kind, [], none⟩
  | .inputField f => .inputField ⟨f.id, f.type, .null, .null, .null⟩
  | .enumValue u => .enumValue ⟨u.id, .null, .null, .null⟩
  | .enumeration _ _ i => .enumeration [] [] i
  | .error e => .error ⟨.null, .null, .null, .null, .null, .null, .null, .null, e.id⟩
  | .exceptionOf e => .exceptionOf { e with message := .null, cause := .null, context := .null, attrs := [] }
  | .context c =>
    .context { c with
      registry := .null, document := .null, fatal := .null, errors := [], reported := [], handed := [] }
  | .rule r => .rule { r with context := .null, path := .null }
  | .visitor _ i => .visitor [] i
  | v => v

/-- The member of an enumeration with a function applied to its value. -/
def Value.mapMember (f : Value → Value) : Value → Value
  | .member e name v => .member e name (f v)
  | v => v

/-- The parts of an object that is kept. The lists of a context are kept by themselves. -/
def Value.parts : Value → List Value
  | .list xs _ => xs
  | .mapping es _ => es.flatMap fun e => [e.key, e.value]
  | .node n => n.attrs.map Prod.snd
  | .inputField f => [f.default, f.description, f.deprecation]
  | .enumValue u => [u.value, u.description, u.deprecation]
  | .enumeration ms others _ => ms.map (·.2.memberValue) ++ others.map Prod.snd
  | .error e =>
    [e.message, e.nodes, e.locations, e.path, e.underlying, e.extensions, e.cause, e.context]
  | .exceptionOf e => [e.message, e.cause, e.context] ++ e.attrs.map Prod.snd
  | .context c =>
    [.list [] c.errorsId, .list [] c.reportedId, .list [] c.handedId, c.registry, c.document, c.fatal]
  | .rule r => [r.context, r.path]
  | .visitor ms _ => ms.map (·.2.answer)
  | _ => []

/-- The items of a list. -/
def Value.listed : Value → List Value
  | .list xs _ => xs
  | _ => []

/-- The attributes of a node as they are seen: its marks stand among them. One with the name of an attribute
that lies in the node itself is not seen. -/
def NodeOf.spread (n : Node) : Node :=
  { n with attrs := n.attrs.flatMap fun (name, v) =>
    match v with
    | .mapping es _ =>
      if name = marksName then
        es.filterMap fun e =>
          match e.key with
          | .str name _ => if n.kind.hasPlaceFor name then none else some (name, e.value)
          | _ => none
      else [(name, v)]
    | v => [(name, v)] }

/-- An object that is kept, with a function applied to its parts. -/
def Value.mapParts (f : Value → Value) : Value → Value
  | .list xs i => .list (xs.map f) i
  | .mapping es i => .mapping (es.map fun e => { e with key := f e.key, value := f e.value }) i
  | .node n => .node ({ n with attrs := n.attrs.map fun (name, v) => (name, f v) } : Node).spread
  | .inputField x =>
    .inputField { x with
      default := f x.default, description := f x.description, deprecation := f x.deprecation }
  | .enumValue u =>
    .enumValue { u with
      value := f u.value, description := f u.description, deprecation := f u.deprecation }
  | .enumeration ms others i =>
    .enumeration (ms.map fun (name, m) => (name, m.mapMember f))
      (others.map fun (name, v) => (name, f v)) i
  | .error ⟨message, nodes, locations, path, underlying, extensions, cause, handled, id⟩ =>
    .error ⟨f message, f nodes, f locations, f path, f underlying, f extensions, f cause, f handled, id⟩
  | .exceptionOf e =>
    .exceptionOf { e with
      message := f e.message
      cause := f e.cause
      context := f e.context
      attrs := e.attrs.map fun (name, v) => (name, f v) }
  | .context c =>
    .context { c with
      registry := f c.registry
      document := f c.document
      fatal := f c.fatal
      errors := (f (.list [] c.errorsId)).listed
      reported := (f (.list [] c.reportedId)).listed
      handed := (f (.list [] c.handedId)).listed }
  | .rule r => .rule { r with context := f r.context, path := f r.path }
  | .visitor ms i => .visitor (ms.map fun (name, m) => (name, { m with answer := f m.answer })) i
  | v => v

/-! ### References -/

mutual

/-- The numbers of all objects, lists and mappings that a value refers to. -/
def Value.references : Value → List Nat
  | .list xs i => i :: referencesOfAll xs
  | .tuple xs _ | .record _ xs _ => referencesOfAll xs
  | .mapping es i => i :: referencesOfEntries es
  | .member e _ v => e :: v.references
  | v => v.objectNumber?.toList
termination_by structural v => v

/-- The numbers that values in a row refer to. -/
def referencesOfAll : List Value → List Nat
  | [] => []
  | x :: xs => x.references ++ referencesOfAll xs
termination_by structural xs => xs

/-- The numbers that the entries of a mapping refer to. -/
def referencesOfEntries : List Entry → List Nat
  | [] => []
  | ⟨_, k, v⟩ :: es => k.references ++ v.references ++ referencesOfEntries es
termination_by structural es => es

end

mutual

/-- A value with the objects that `find` gives in the place of references. -/
def Value.fill (find : Nat → Option Value) : Value → Value
  | .list xs i => (find i).getD (.list (fillAll find xs) i)
  | .tuple xs i => .tuple (fillAll find xs) i
  | .record shape xs i => .record shape (fillAll find xs) i
  | .mapping es i => (find i).getD (.mapping (fillEntries find es) i)
  | .member e name v =>
    match find e with
    | some (.enumeration ms _ _) => (ms.lookup name).getD (.member e name (v.fill find))
    | _ => .member e name (v.fill find)
  | v =>
    match v.objectNumber? with
    | some i => (find i).getD v
    | none => v
termination_by structural v => v

/-- Values in a row with objects in the place of references. -/
def fillAll (find : Nat → Option Value) : List Value → List Value
  | [] => []
  | x :: xs => x.fill find :: fillAll find xs
termination_by structural xs => xs

/-- Entries of a mapping with objects in the place of references. -/
def fillEntries (find : Nat → Option Value) : List Entry → List Entry
  | [] => []
  | ⟨digest, k, v⟩ :: es => ⟨digest, k.fill find, v.fill find⟩ :: fillEntries find es
termination_by structural es => es

end

/-! ### Stores -/

/-- What is kept of objects, by their numbers. Lists and mappings that change are kept as well. -/
abbrev Store := Std.TreeMap Nat Value

namespace Store

/-- An object that is kept already, as a reference. -/
def known (s : Store) (v : Value) : Option Value :=
  match v with
  | .list _ i => if s.contains i then some (.list [] i) else none
  | .mapping _ i => if s.contains i then some (.mapping [] i) else none
  | .member e name _ => if s.contains e then some (.member e name .null) else none
  | v => (v.numberedAs s.contains).map Value.reference

/-- A store while objects are put into it, with the next number. -/
structure Growing where
  store : Store
  next : Nat

/-- A computation that puts objects into a store. -/
abbrev Grow := StateM Growing

/-- Puts an object into the store. -/
def put (id : Nat) (v : Value) : Grow Unit := modify fun g => { g with store := g.store.insert id v }

/-- Keeps an object whose parts are kept, and gives a reference to it. -/
def keepHere (v : Value) : Grow Value := do
  let v ← modifyGet fun g =>
    let (v, next) := v.numberHere.run g.next
    (v, { g with next })
  match v with
  | .node n =>
    put n.id (.node { n with
      attrs := n.attrs.filter fun (name, _) => n.kind.hasPlaceFor name || name == marksName })
  | .context c =>
    put c.errorsId (.list c.errors c.errorsId)
    put c.reportedId (.list c.reported c.reportedId)
    put c.id (.context { c with errors := [], reported := [], handed := [] })
  | v =>
    match v.objectNumber? with
    | some i => put i v
    | none => pure ()
  return v.reference

/-- A value as a store keeps it, with the store that has its new objects and the next number. -/
def keep (s : Store) (next : Nat) (v : Value) : Value × Growing :=
  let first := max next (v.greatestNumber s.known + 1)
  (v.rebuild s.known fun _ w => keepHere w).run ⟨s, first⟩

/-! ### Views -/

/-- An object that is to be shown: its number, what is kept of it, and the numbers of the objects in it. -/
structure Piece where
  id : Nat
  content : Value
  needs : List Nat

/-- The object with a number. -/
def piece? (s : Store) (id : Nat) : Option Piece :=
  s[id]?.map fun content => { id, content, needs := (referencesOfAll content.parts).filter s.contains }

/-- Adds the objects with some numbers, those that they need, and so on for some steps. -/
def collect (s : Store) : Nat → List Nat → Std.TreeMap Nat Piece → Std.TreeMap Nat Piece
  | 0, _, found => found
  | steps + 1, ids, found =>
    let (found, more) := ids.foldl (fun (found, more) id =>
      if found.contains id then (found, more) else
        match s.piece? id with
        | some p => (found.insert id p, p.needs ++ more)
        | none => (found, more)) (found, ([] : List Nat))
    if more.isEmpty then found else collect s steps more found

/-- Shows an object as far as its parts are shown. -/
def reveal (shown : Store) (p : Piece) : Store :=
  shown.insert p.id (p.content.mapParts (·.fill (shown[·]?)))

/-- Shows the objects of which all parts are shown. The others remain. -/
def revealReady (shown : Store) (ps : List Piece) : Store × List Piece :=
  let (shown, rest) := ps.foldl (fun (shown, rest) p =>
    if p.needs.all shown.contains then (reveal shown p, rest) else (shown, p :: rest)) (shown, [])
  (shown, rest.reverse)

/-- Shows objects until no more of them can be shown, in up to so many rounds. -/
def revealAll : Nat → Store → List Piece → Store × List Piece
  | 0, shown, ps => (shown, ps)
  | rounds + 1, shown, ps =>
    let (shown, rest) := revealReady shown ps
    if rest.isEmpty || rest.length == ps.length then (shown, rest) else revealAll rounds shown rest

/-- Shows objects that lead back to themselves, one level more in each lap. -/
def revealLaps (ps : List Piece) : Nat → Store → Store
  | 0, shown => shown
  | laps + 1, shown => revealLaps ps laps (ps.foldl reveal shown)

/-- In how many laps objects are shown that lead back to themselves: in fewer if there are many. -/
def lapsFor (count : Nat) : Nat := if count = 0 then 0 else max 4 (min 100 (2000 / count))

/-- A value with the objects of a store in the place of references. -/
def view (s : Store) (v : Value) : Value :=
  match v.references.filter s.contains with
  | [] => v
  | ids =>
    let found := s.collect (s.size + 1) ids ∅
    let (shown, rest) := revealAll found.size ∅ found.values
    let shown := revealLaps rest (lapsFor rest.length) shown
    v.fill (shown[·]?)

end Store

end QueryDefaults
