import QueryDefaults.Session.Calls

/-!
Copies of objects. A deep copy of a value in which types occur copies the definitions of these types too,
and those of the types in them.
-/

namespace QueryDefaults

/-- The named parts of a definition as deep copies. -/
def InputFieldOf.deepCopy (apply : Application) (s : Shift) (x : InputField) : CopyM InputField := do
  let x ← x.mapParts (·.deepCopy apply s)
  let type ← x.type.copy s
  return { x with id := x.id + s.objects, type }

/-- A deep copy of an enum value. -/
def EnumValueOf.deepCopy (apply : Application) (s : Shift) (u : EnumValue) : CopyM EnumValue := do
  let u ← u.mapParts (·.deepCopy apply s)
  return { u with id := u.id + s.objects }

/-- The numbers of a copied mapping. Names are not copied. -/
def MapIds.moved (s : Shift) (ids : MapIds) : MapIds := { ids with own := ids.own + s.objects }

/-- A deep copy of what a named type consists of. -/
def TypeBody.deepCopy (apply : Application) (s : Shift) : TypeBody → CopyM TypeBody
  | scalar onValue onLiteral => do
    let onValue ← onValue.mapM (·.deepCopy apply s)
    let onLiteral ← onLiteral.mapM (·.deepCopy apply s)
    return scalar onValue onLiteral
  | enum values ids => do
    let values ← mapNamed (·.deepCopy apply s) values
    return enum values (ids.moved s)
  | inputObject source resolved ids => do
    let source ← source.deepCopy apply s
    let resolved ← resolved.mapM (mapNamed (·.deepCopy apply s))
    return inputObject source resolved (ids.moved s)
  | other => return other

/-- A deep copy of a definition. -/
def TypeDef.deepCopy (apply : Application) (s : Shift) (d : TypeDef) : CopyM TypeDef := do
  let description ← d.description.deepCopy apply s
  let extensions ← d.extensions.deepCopy apply s
  let body ← d.body.deepCopy apply s
  return { d with description, extensions, body }

/-- Copies of the definitions that were met, of those that are met on the way, and so on for some steps. -/
def copyDefs (apply : Application) (s : Shift) (defs : List TypeDef) :
    Nat → List TypeDef → CopyM (List TypeDef)
  | 0, copies => return copies
  | steps + 1, copies => do
    let met ← get
    match met.types[copies.length]? with
    | none => return copies
    | some id =>
      match defs[id]? with
      | none => throw .operand
      | some d =>
        let copy ← d.deepCopy apply s
        copyDefs apply s defs steps (copies ++ [copy])

namespace SessionM

/-- A shallow copy. -/
def copyOf (v : Value) : SessionM Value := do
  match v with
  | .node n => do
    let n ← n.copy
    return .node n
  | .list xs _ => return .list xs
  | .mapping es _ => return .mapping es
  | .record shape xs _ => return .record shape xs
  | .inputField f => return .inputField { f with id := 0 }
  | .enumValue u => return .enumValue { u with id := 0 }
  | .type (.list t _) => return .type (.list t)
  | .type (.nonNull t _) => return .type (.nonNull t)
  | .type (.wrapper t _) => return .type (.wrapper t)
  | .type (.named n) => do
    let st ← get
    match st.defs[n.id]? with
    | some d => define d
    | none => return v
  | .error e => return .error (GraphQLError.ofMessage e.message)
  | .exceptionOf e => return .exceptionOf { e with cause := .null, context := .null, id := 0 }
  | .registry types mapId _ => return .registry types mapId
  | .context c => return .context { c with id := 0 }
  | .rule r => return .rule { r with id := 0 }
  | .visitor ms _ => return .visitor ms
  | .method owner _ => return .method owner
  | .foreign f id => do
    let w ← f.copy ⟨0, 0⟩ id
    return if f.isAtomic then w else .foreign f
  | v => return v

/-- A deep copy. The copies of nodes in the keys of mappings keep the digests that are taken of them. -/
def deepCopyOf (v : Value) : SessionM Value := do
  let st ← get
  let apply : Application := fun f w => (st.apply f w).result
  let s : Shift := ⟨st.nextId, st.defs.length⟩
  let copied : CopyM (Value × List TypeDef) := do
    let w ← v.deepCopy apply s
    let met ← get
    let copies ← copyDefs apply s (if met.types.isEmpty then [] else st.viewedDefs) (st.defs.length + 1) []
    return (w, copies)
  let ((w, copies), met) ← copied.run {}
  modify fun st => { st with nextId := 2 * st.nextId }
  let copies ← copies.mapM keepDef
  modify fun st => { st with defs := st.defs ++ copies }
  let w ← keep w
  noteDigests met.digests
  view w

end SessionM

end QueryDefaults
