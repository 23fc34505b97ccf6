import QueryDefaults.Proofs.Reference
import QueryDefaults.Proofs.Walk

/-!
What a document declares. A well-formed document is the node of a list of operations, each of them with
variables in a row; a variable has a name, a reference to a type, and a default that is a well-formed
literal if there is one. Other definitions, also of kinds that a caller derived, declare nothing. `variablesOf`
lists the variables of all operations in the order of the document, each with the path that its diagnostics get:
the display name of its operation.
-/

namespace QueryDefaults

/-- A variable as it is declared, with the numbers of the texts of its name and its type. -/
structure Declaration where
  name : String
  nameId : Nat := 0
  type : TypeRef
  typeId : Nat := 0
  default : Option Value

/-- An operation with its variables. -/
structure Signature where
  type : OperationType
  name : Option String
  declared : List Declaration

/-- A variable with the path of its diagnostics. -/
structure Variable extends Declaration where
  path : Value

/-! ### Nodes of declarations -/

/-- A default that is not there, or a well-formed literal. -/
inductive Value.IsDefault : Value → Option Value → Prop where
  | none : IsDefault .null none
  | some {v : Value} (literal : v.IsLiteral) : IsDefault v (some v)

theorem Value.IsDefault.none_or_literal {v : Value} {d : Option Value} (h : v.IsDefault d) :
    (d = Option.none ∧ v = .null) ∨ (d = Option.some v ∧ v.IsLiteral) := by
  cases h with
  | none => exact .inl ⟨rfl, rfl⟩
  | some literal => exact .inr ⟨rfl, literal⟩

/-- Whether a value is the node of a variable definition. -/
inductive Value.Declares : Value → Declaration → Prop where
  | mk {n m k : Node} {r w : Value} {d : Declaration} (kind : n.GoesBy .variableDefinition)
      (target : n.attrs.lookup "variable" = some (.node m))
      (label : m.attrs.lookup "name" = some (.node k))
      (name : k.attrs.lookup "value" = some (.str d.name d.nameId))
      (type : n.attrs.lookup "type" = some r) (reference : r.IsReference d.type)
      (written : r.print = .ok (.str d.type.text d.typeId))
      (initial : n.attrs.lookup "default_value" = some w) (literal : w.IsDefault d.default) :
      Declares (.node n) d

/-- Whether values in a row are the nodes of variable definitions. -/
inductive DeclareAll : List Value → List Declaration → Prop where
  | nil : DeclareAll [] []
  | cons {v : Value} {vs : List Value} {d : Declaration} {ds : List Declaration} (first : v.Declares d)
      (rest : DeclareAll vs ds) : DeclareAll (v :: vs) (d :: ds)

/-- Whether a value is the name of an operation, or null if there is none. -/
inductive Value.IsNameOf : Value → Option String → Prop where
  | none : IsNameOf .null none
  | some {v : Value} {name : String} (named : v.IsName name) : IsNameOf v (some name)

theorem Value.IsNameOf.null_or_node {v : Value} {name : Option String} (h : v.IsNameOf name) :
    v = .null ∨ ∃ m, v = .node m ∧ m.GoesBy .name := by
  cases h with
  | none => exact .inl rfl
  | some named =>
    cases named with
    | mk kind => exact .inr ⟨_, rfl, kind⟩

/-- Whether a value is the node of an operation. -/
inductive Value.Operates : Value → Signature → Prop where
  | mk {n : Node} {u v : Value} {vs : List Value} {o : Signature} (kind : n.GoesBy .operationDefinition)
      (type : n.attrs.lookup "operation" = some (.operation o.type))
      (name : n.attrs.lookup "name" = some u) (named : u.IsNameOf o.name)
      (declared : n.attrs.lookup "variable_definitions" = some v) (row : v.IsRow vs)
      (each : DeclareAll vs o.declared) : Operates (.node n) o

/-- Whether the operations among definitions in a row are the given ones. -/
inductive OperateAll : List Value → List Signature → Prop where
  | nil : OperateAll [] []
  | other {n : Node} {vs : List Value} {os : List Signature} (kind : n.kind.library ≠ .operationDefinition)
      (leaf : n.IsLeaf) (rest : OperateAll vs os) : OperateAll (.node n :: vs) os
  | cons {v : Value} {vs : List Value} {o : Signature} {os : List Signature} (first : v.Operates o)
      (rest : OperateAll vs os) : OperateAll (v :: vs) (o :: os)

/-- Whether a value is the node of a document with the given operations. -/
inductive Value.IsDocument : Value → List Signature → Prop where
  | mk {n : Node} {v : Value} {ds : List Value} {os : List Signature} (kind : n.GoesBy .document)
      (definitions : n.attrs.lookup "definitions" = some v) (row : v.IsRow ds)
      (each : OperateAll ds os) : IsDocument (.node n) os

/-! ### The variables of a document -/

/-- The display name of an operation: its keyword, and its name if it has one. -/
def Signature.label (o : Signature) : Value :=
  match o.name with
  | some name => .str (o.type.text ++ " " ++ name)
  | none => .word o.type.text

/-- The path of the diagnostics of an operation as a new object, and where the numbers go on. -/
def Signature.path (o : Signature) (next : Nat) : Value × Nat := (Value.list [o.label]).number.run next

/-- The variables of operations in their order, if new paths get numbers from `next` on. -/
def variablesOf (next : Nat) : List Signature → List Variable
  | [] => []
  | o :: os => o.declared.map (⟨·, (o.path next).1⟩) ++ variablesOf (o.path next).2 os

/-- The text of the display name. -/
def Signature.display (o : Signature) : String :=
  match o.name with
  | some name => o.type.text ++ " " ++ name
  | none => o.type.text

/-- A path is a list of the display name alone. -/
theorem Signature.path_eq (o : Signature) (next : Nat) :
    ∃ i j, (o.path next).1 = .list [.str o.display i] j := by
  obtain ⟨type, name, declared⟩ := o
  cases name with
  | some name => exact ⟨_, _, rfl⟩
  | none => exact ⟨_, _, rfl⟩

/-- The variables of a document are those of its operations, whatever numbers the paths get. -/
theorem variablesOf_map (next : Nat) :
    ∀ os : List Signature, (variablesOf next os).map Variable.toDeclaration = os.flatMap (·.declared)
  | [] => rfl
  | o :: os => by
    rw [variablesOf, List.map_append, List.map_map, variablesOf_map (o.path next).2 os, List.flatMap_cons]
    congr 1
    exact List.map_id _

/-- The path of a variable is the display name of its operation. -/
theorem variablesOf_path {x : Variable} : ∀ {next : Nat} {os : List Signature}, x ∈ variablesOf next os →
    ∃ o ∈ os, ∃ i j, x.path = .list [.str o.display i] j
  | _, [], hx => (List.not_mem_nil hx).elim
  | next, o :: os, hx => by
    rcases List.mem_append.1 hx with hx | hx
    · obtain ⟨d, _, rfl⟩ := List.mem_map.1 hx
      exact ⟨o, List.mem_cons_self .., o.path_eq next⟩
    · obtain ⟨o', ho, path⟩ := variablesOf_path hx
      exact ⟨o', List.mem_cons_of_mem _ ho, path⟩

theorem DeclareAll.literal {vs : List Value} {ds : List Declaration} (h : DeclareAll vs ds) :
    ∀ d ∈ ds, ∀ v, d.default = some v → v.IsLiteral := by
  induction h with
  | nil => exact fun d hd => (List.not_mem_nil hd).elim
  | cons first rest ih =>
    refine List.forall_mem_cons.2 ⟨fun v hv => ?_, ih⟩
    cases first with
    | mk _ _ _ _ _ _ _ _ literal =>
      rcases literal.none_or_literal with ⟨none, _⟩ | ⟨some, literal⟩
      · rw [none] at hv
        cases hv
      · rw [some] at hv
        cases hv
        exact literal

theorem OperateAll.literal {vs : List Value} {os : List Signature} (h : OperateAll vs os) :
    ∀ o ∈ os, ∀ d ∈ o.declared, ∀ v, d.default = some v → v.IsLiteral := by
  induction h with
  | nil => exact fun o ho => (List.not_mem_nil ho).elim
  | other _ _ _ ih => exact ih
  | cons first _ ih =>
    refine List.forall_mem_cons.2 ⟨?_, ih⟩
    cases first with
    | mk _ _ _ _ _ _ each => exact each.literal

/-- The defaults of a document are well-formed literals. -/
theorem Value.IsDocument.literal {document : Value} {os : List Signature} (doc : document.IsDocument os)
    {next : Nat} {x : Variable} (hx : x ∈ variablesOf next os) {v : Value} (hv : x.default = some v) :
    v.IsLiteral := by
  cases doc with
  | mk _ _ _ each =>
    have declared : x.toDeclaration ∈ os.flatMap (·.declared) :=
      variablesOf_map next os ▸ List.mem_map_of_mem hx
    obtain ⟨o, ho, hd⟩ := List.mem_flatMap.1 declared
    exact each.literal o ho x.toDeclaration hd v hv

/-! ### Making documents -/

/-- Whether a declaration can be made: its reference is well-formed, and so is its default. -/
structure Declaration.IsSound (d : Declaration) : Prop where
  nameId : d.nameId = 0
  typeId : d.typeId = 0
  single : d.type.isSingle = true
  literal : ∀ v, d.default = some v → v.IsLiteral

/-- The node of a declaration. -/
def Declaration.node (d : Declaration) : Value :=
  .node (.made .variableDefinition [
    ("variable", .node (.made .variableUse [("name", .nameNode d.name)])),
    ("type", d.type.node), ("default_value", d.default.getD .null)])

/-- The node of an operation. -/
def Signature.node (o : Signature) : Value :=
  .node (.made .operationDefinition [
    ("operation", .operation o.type), ("name", (o.name.map .nameNode).getD .null),
    ("variable_definitions", .tuple (o.declared.map (·.node)))])

/-- The node of a document. -/
def documentNode (os : List Signature) : Value :=
  .node (.made .document [("definitions", .tuple (os.map (·.node)))])

theorem Declaration.node_declares {d : Declaration} (sound : d.IsSound) : d.node.Declares d := by
  obtain ⟨name, nameId, type, typeId, default⟩ := d
  obtain ⟨rfl, rfl, single, literal⟩ := sound
  refine .mk ⟨rfl, rfl, rfl⟩ rfl rfl rfl rfl (TypeRef.node_isReference single) (TypeRef.node_print type) rfl ?_
  cases default with
  | none => exact .none
  | some v => exact .some (literal v rfl)

theorem declareAll_nodes : ∀ {ds : List Declaration}, (∀ d ∈ ds, d.IsSound) →
    DeclareAll (ds.map (·.node)) ds
  | [], _ => .nil
  | _ :: _, sound => .cons (Declaration.node_declares (sound _ (List.mem_cons_self ..)))
    (declareAll_nodes fun d hd => sound d (List.mem_cons_of_mem _ hd))

theorem Signature.node_operates {o : Signature} (sound : ∀ d ∈ o.declared, d.IsSound) :
    o.node.Operates o := by
  refine .mk ⟨rfl, rfl, rfl⟩ rfl rfl ?_ rfl (.tuple _ _) (declareAll_nodes sound)
  cases o.name with
  | none => exact .none
  | some name => exact .some (Value.nameNode_isName name)

theorem operateAll_nodes : ∀ {os : List Signature}, (∀ o ∈ os, ∀ d ∈ o.declared, d.IsSound) →
    OperateAll (os.map (·.node)) os
  | [], _ => .nil
  | _ :: _, sound => .cons (Signature.node_operates (sound _ (List.mem_cons_self ..)))
    (operateAll_nodes fun o ho => sound o (List.mem_cons_of_mem _ ho))

/-- Every list of operations with well-formed parts has a document. -/
theorem documentNode_isDocument {os : List Signature} (sound : ∀ o ∈ os, ∀ d ∈ o.declared, d.IsSound) :
    (documentNode os).IsDocument os :=
  .mk ⟨rfl, rfl, rfl⟩ rfl (.tuple _ _) (operateAll_nodes sound)

end QueryDefaults
