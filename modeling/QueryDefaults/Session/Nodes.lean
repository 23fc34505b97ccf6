import QueryDefaults.Session.Objects

/-!
The operations of a session on nodes: their kinds and texts, their native values, and walks.
-/

namespace QueryDefaults

namespace SessionM

/-- A kind by its name. -/
def kindOf (v : Value) : Except Fault Kind := do
  match ← v.kind? with
  | some k => return k
  | none => throw (.unsupported .key "")

/-- The answer of a method: the names of the control values stand for these. -/
def methodAnswer (v : Value) : Value :=
  match v with
  | .str "BREAK" _ => .action .stop
  | .str "SKIP" _ => .action .skip
  | v => v

/-- The number of the call that gets an answer: every call if it is `null`, none if it is no number. -/
def callNumber (v : Value) : Option Int :=
  match v with
  | .null => none
  | .bool b => some (boolInt b)
  | v => some (v.whole?.getD 0)

/-- A method out of its name, its answer and perhaps the number of a call. -/
def methodOf (v : Value) : Except Fault (Value × Method) := do
  let items ← v.toList
  match items with
  | [name, a] => return (name, ⟨methodAnswer a, none⟩)
  | [name, a, n] => return (name, ⟨methodAnswer a, callNumber n⟩)
  | _ => throw .operand

/-- A map of attributes out of kinds with rows of names; `null` stands for the usual one. -/
def keyMapOf (v : Value) : SessionM KeyMap := do
  match v with
  | .null => return documentKeys
  | v => do
    let pairs ← traced (·.pairsIn v)
    let rows ← pairs.mapM fun (kind, names) => do
      let names ← names.toList
      return (kind, .tuple names)
    let es ← traced fun _ => mappingOf rows
    return fun kind => do
      let d ← kind.digest
      match ← Value.valueAt? d kind es with
      | some names => names.toList
      | none => return []

/-- The methods of every visitor that choose the method to call. A scripted one in their place cannot be
asked, since it expects a node and a place. -/
def choosingMethods : List String := ["get_visit_fn", "__getattribute__"]

/-- A visit by a visitor that notes its calls. -/
def scriptedVisit (methods : List (String × Method)) (root : Value) (keys : KeyMap) : Walk (List Event) Value :=
  if methods.any fun (name, _) => choosingMethods.contains name then throw Fault.operand
  else visit (scriptedVisitor methods) keys root

/-- Visits a tree with a visitor that notes its calls. A failure belongs to the report. -/
def visitScripted (methods : List (String × Method)) (root : Value) (keys : KeyMap) (brief : Bool) :
    SessionM Answer := do
  let (outcome, events) := (scriptedVisit methods root keys).run.run []
  match outcome with
  | .ok action => return .walked ⟨action, events, brief, none⟩
  | .error f => do
    let st ← get
    return .walked ⟨.null, events, brief, some (st.failure f)⟩

/-- Visits a tree with a rule. What the rule learns on the way stays also if it fails. -/
def visitRule (r : RuleObject) (root : Value) (keys : KeyMap) (brief : Bool) : SessionM Answer := do
  let st ← get
  let walked := visit (Rule.visitor st.schema r.checking) keys root
  let (outcome, after) :=
    walked.run.run { context := r.context, path := r.path, next := st.nextId }
  traced fun _ => after.trace
  change (.path r.id after.path)
  match r.context.context?, after.context.context? with
  | some before, some now => (before.changes now).forM change
  | _, _ => pure ()
  match outcome with
  | .ok action => return .walked ⟨action, [], brief, none⟩
  | .error f => throw f

/-- Visits a tree. The map of attributes is made first. -/
def visitWith (root visitor keys : Value) (brief : Bool) : SessionM Answer := do
  let keys ← keyMapOf keys
  match root, visitor with
  | .node _, .visitor methods _ => visitScripted methods root keys brief
  | .node _, .rule r => visitRule r root keys brief
  | .node _, v => throw (.refused .visitor v)
  | v, .visitor .. => do
    let st ← get
    return .walked ⟨.null, [], brief, some (st.failure (.refused .root v))⟩
  | v, _ => throw (.refused .root v)

end SessionM

/-- Operations on nodes. -/
inductive NodeOperation where
  | keys | className | print | native | makeVisitor | visit
  deriving DecidableEq, Repr

open SessionM in
/-- Performs an operation on nodes. -/
def NodeOperation.perform (op : NodeOperation) (args : List Value) : SessionM Answer := do
  match op, args with
  | .keys, [kind] => do
    let kind ← kindOf kind
    answer kind.keyList
  | .className, [kind] => do
    let kind ← kindOf kind
    answer (.word kind.className)
  | .print, [node] => do
    let printed ← node.print
    answer printed
  | .native, [node] => do
    let native ← traced fun _ => node.native
    answer native
  | .makeVisitor, [methods] => do
    let items ← methods.toList
    let methods ← (items.mapM methodOf : Except Fault (List (Value × Method)))
    let v ← traced fun _ => visitorOf methods
    answer v
  | .visit, [root, visitor, keyMap, brief] => visitWith root visitor keyMap brief.truthy
  | _, _ => throw .operand

end QueryDefaults
