import QueryDefaults.Proofs.Positions

/-!
Which parts of an accepted literal have been looked at. Every item of a list and every entry of an object
is a part of the literal (`HasPart`), but a check goes by the fields of the type and looks up the last
entry of each name. So all that an accepted literal has at its positions is accepted as well and holds no
variable, and where no object repeats a name this is every part (`Schema.check_parts`). An entry that is
followed by another one of its name is never looked at: it may be of any kind, also a variable
(`treeSchema_check_repeated`).
-/

namespace QueryDefaults

/-- Whether a literal of a type has a part of a type: itself, or a part of one of its items or entries. All
entries count, also those that repeat a name. -/
inductive HasPart (s : Schema) : Value → Ty → Value → Ty → Prop where
  | self (v : Value) (t : Ty) : HasPart s v t v t
  | item {v x w : Value} {t item u : Ty} {i : Nat} (core : t.core = .list item i)
      (literal : v.isA .listValue = true) (mem : x ∈ v.literalItems) (below : HasPart s x item w u) :
      HasPart s v t w u
  | entry {v w : Value} {t u : Ty} {owner : NamedType} {declared : List (String × InputField)}
      {e : String × Value} {f : InputField} (opens : Opens s v t owner declared) (mem : e ∈ v.entries)
      (known : (e.1, f) ∈ declared) (below : HasPart s e.2 f.type w u) : HasPart s v t w u

/-- Whether the entries of an object have different names. -/
def Value.NamesApart (v : Value) : Prop := (v.entries.map Prod.fst).Nodup

section Literals

variable {v : Value}

/-- The node of a list literal. -/
theorem Value.IsLiteral.isList (h : v.IsLiteral) (kind : v.isA .listValue = true) :
    ∃ n xs i, v = .node n ∧ n.IsMade .listValue ∧ n.attrs.lookup "values" = some (.tuple xs i) ∧
      ∀ x ∈ xs, x.IsLiteral := by
  cases h with
  | list made values each => exact ⟨_, _, _, rfl, made, values, each⟩
  | null made => rw [made.isA] at kind; cases kind
  | variableUse made => rw [made.isA] at kind; cases kind
  | text textual made => rw [(made.isPlain (List.mem_cons_of_mem _ textual)).noList] at kind; cases kind
  | boolean made => rw [made.isA] at kind; cases kind
  | object made => rw [made.isA] at kind; cases kind

/-- The node of an object literal. -/
theorem Value.IsLiteral.isObject (h : v.IsLiteral) (kind : v.isA .objectValue = true) :
    ∃ n es i, v = .node n ∧ n.IsMade .objectValue ∧ n.attrs.lookup "fields" = some (.tuple es i) ∧
      (∀ e ∈ es, ∃ name w, e.IsEntry name w) ∧
      ∀ e ∈ es, ∀ name w, e.IsEntry name w → w.IsLiteral := by
  cases h with
  | object made fields named each => exact ⟨_, _, _, rfl, made, fields, named, each⟩
  | null made => rw [made.isA] at kind; cases kind
  | variableUse made => rw [made.isA] at kind; cases kind
  | text textual made => rw [(made.isPlain (List.mem_cons_of_mem _ textual)).noObject] at kind; cases kind
  | boolean made => rw [made.isA] at kind; cases kind
  | list made => rw [made.isA] at kind; cases kind

/-- The items of a list are literals. -/
theorem Value.IsLiteral.item (h : v.IsLiteral) (kind : v.isA .listValue = true) :
    ∀ x ∈ v.literalItems, x.IsLiteral := by
  obtain ⟨n, xs, i, rfl, _, values, each⟩ := h.isList kind
  rw [literalItems, values]
  exact each

/-- The values of an object are literals. -/
theorem Value.IsLiteral.entry (h : v.IsLiteral) (kind : v.isA .objectValue = true) :
    ∀ e ∈ v.entries, e.2.IsLiteral := by
  obtain ⟨n, es, i, rfl, _, fields, named, each⟩ := h.isObject kind
  rw [entries, fields]
  intro e mem
  obtain ⟨node, he, pair⟩ := List.mem_filterMap.1 mem
  obtain ⟨name, w, hw⟩ := named node he
  rw [hw.pair?] at pair
  cases pair
  exact each node he name w hw

theorem Value.mem_of_lastEntry? {name : String} {w : Value} (h : v.lastEntry? name = some w) :
    (name, w) ∈ v.entries := by
  obtain ⟨before, after, parts, _⟩ := List.lookup_eq_some_iff.1 h
  rw [← List.mem_reverse, parts]
  simp

/-- An entry that no other one of its name follows is the last one of its name. -/
theorem Value.lastEntry?_of_last {e : String × Value} {before after : List (String × Value)}
    (parts : v.entries = before ++ e :: after) (last : e.1 ∉ after.map Prod.fst) :
    v.lastEntry? e.1 = some e.2 := by
  refine List.lookup_eq_some_iff.2 ⟨after.reverse, before.reverse, ?_, ?_⟩
  · rw [parts, List.reverse_append, List.reverse_cons, List.append_assoc]
    rfl
  · intro d hd
    have mem : d ∈ after := List.mem_reverse.1 hd
    exact bne_iff_ne.2 fun same => last (same ▸ List.mem_map_of_mem mem)

/-- If the names are apart, each entry is the last one of its name. -/
theorem Value.NamesApart.lastEntry? (h : v.NamesApart) {e : String × Value} (mem : e ∈ v.entries) :
    v.lastEntry? e.1 = some e.2 := by
  obtain ⟨before, after, parts⟩ := List.append_of_mem mem
  refine Value.lastEntry?_of_last parts fun repeated => ?_
  rw [NamesApart, parts, List.map_append, List.map_cons] at h
  exact (List.nodup_cons.1 (List.nodup_append.1 h).2.1).1 repeated

end Literals

section Accepted

variable {s : Schema} {v : Value} {t : Ty}

/-- What conforms, conforms at every position that is a literal, and is a literal there. -/
theorem Conforms.at_position {p : List Descent} {spot : Spot} (h : Conforms s v t) (literal : v.IsLiteral)
    (reached : Reaches s v t p spot) {w : Value} {u : Ty} (same : spot = .literal w u) :
    w.IsLiteral ∧ Conforms s w u := by
  induction reached with
  | here =>
    cases same
    exact ⟨literal, h⟩
  | item core kind nth _ ih =>
    have mem := List.mem_of_getElem? nth
    exact ih (h.item core kind _ mem) (literal.item kind _ mem) same
  | entry => cases same
  | absent => cases same
  | field opens nth given _ ih =>
    have mem := List.mem_of_getElem? nth
    exact ih (((opens.conforms h).2 _ mem).given _ given)
      (literal.entry opens.literal _ (Value.mem_of_lastEntry? given)) same

/-- Where names are apart, every part stands at a position. -/
theorem HasPart.reached {w : Value} {u : Ty} (part : HasPart s v t w u)
    (apart : ∀ w u, HasPart s v t w u → w.NamesApart) : ∃ p, Reaches s v t p (.literal w u) := by
  induction part with
  | self v t => exact ⟨[], .here v t⟩
  | item core literal mem _ ih =>
    obtain ⟨p, reached⟩ := ih fun w u part => apart w u (.item core literal mem part)
    obtain ⟨k, nth⟩ := List.getElem?_of_mem mem
    exact ⟨_, .item core literal nth reached⟩
  | entry opens mem known _ ih =>
    obtain ⟨p, reached⟩ := ih fun w u part => apart w u (.entry opens mem known part)
    obtain ⟨k, nth⟩ := List.getElem?_of_mem known
    exact ⟨_, .field opens nth (Value.NamesApart.lastEntry? (apart _ _ (.self _ _)) mem) reached⟩

/-- An accepted literal is accepted at all of its positions and holds no variable there. Where no object
of it repeats a name, this goes for all of its parts. -/
theorem Schema.check_parts (h : v.IsLiteral) (accepted : (s.check v t).result = .ok none) :
    (∀ p w u, Reaches s v t p (.literal w u) →
      (s.check w u).result = .ok none ∧ w.isA .variableUse = false) ∧
    ((∀ w u, HasPart s v t w u → w.NamesApart) → ∀ w u, HasPart s v t w u →
      (s.check w u).result = .ok none ∧ w.isA .variableUse = false) := by
  have conforms := (Schema.check_iff h t).1 accepted
  have positions : ∀ p w u, Reaches s v t p (.literal w u) →
      (s.check w u).result = .ok none ∧ w.isA .variableUse = false := by
    intro p w u reached
    obtain ⟨literal, below⟩ := conforms.at_position h reached rfl
    exact ⟨(Schema.check_iff literal u).2 below, below.notVariable⟩
  refine ⟨positions, fun apart w u part => ?_⟩
  obtain ⟨p, reached⟩ := part.reached apart
  exact positions p w u reached

end Accepted

/-! ### Trees with a label -/

/-- Objects stand where trees are expected. -/
theorem treeSchema_opens (es : List (String × Value)) :
    Opens treeSchema (.objectNode es) (.named (objectType "Tree")) (objectType "Tree") treeFields where
  core := rfl
  sort := rfl
  literal := rfl
  fields := objectSchema_fields

/-- An object whose last label is a text, with nothing below, is accepted as a tree. -/
theorem treeSchema_check_label {es : List (String × Value)} {text : String}
    (known : ∀ e ∈ es, e.1 ∈ treeFields.map Prod.fst)
    (label : Value.lastEntry? (.objectNode es) "label" = some (.textNode .stringValue text))
    (leaf : Value.lastEntry? (.objectNode es) "below" = none) :
    (treeSchema.check (.objectNode es) (.named (objectType "Tree"))).result = .ok none := by
  rw [treeSchema_check known, firstInvalid_eq_none, treeFields,
    List.forall_mem_cons, List.forall_mem_singleton, Schema.checkField, Schema.checkField]
  constructor
  · rw [label]
    exact treeSchema_check_text text
  · rw [leaf]
    rfl

/-- A tree with a label and nothing below. -/
def leafLiteral : Value := .objectNode [("label", .textNode .stringValue "a")]

theorem leafLiteral_entries : leafLiteral.entries = [("label", .textNode .stringValue "a")] :=
  Value.objectNode_entries _

/-- Its parts are itself and its label, so no names are repeated in it. -/
theorem leafLiteral_namesApart {w : Value} {u : Ty}
    (part : HasPart treeSchema leafLiteral (.named (objectType "Tree")) w u) : w.NamesApart := by
  cases part with
  | self =>
    rw [Value.NamesApart, leafLiteral_entries]
    decide
  | item core => cases core
  | entry opens mem known below =>
    rw [leafLiteral_entries, List.mem_singleton] at mem
    subst mem
    cases below with
    | self => exact List.nodup_nil
    | item _ kind => cases kind
    | entry opens => cases opens.literal

/-- The label is a part of the tree, and accepted with it. -/
theorem leafLiteral_parts :
    HasPart treeSchema leafLiteral (.named (objectType "Tree")) (.textNode .stringValue "a")
      (.nonNull textType) ∧
    (treeSchema.check (.textNode .stringValue "a") (.nonNull textType)).result = .ok none ∧
    (Value.textNode .stringValue "a").isA .variableUse = false := by
  have literal : leafLiteral.IsLiteral := Value.objectNode_isLiteral
    (List.forall_mem_singleton.2 (Value.textNode_isLiteral (by decide) "a"))
  have accepted := @treeSchema_check_label [("label", .textNode .stringValue "a")] "a" (by decide) rfl rfl
  have part : HasPart treeSchema leafLiteral (.named (objectType "Tree")) (.textNode .stringValue "a")
      (.nonNull textType) :=
    .entry (treeSchema_opens _) (leafLiteral_entries ▸ List.mem_singleton_self _) (List.mem_cons_self ..)
      (.self ..)
  exact ⟨part, (Schema.check_parts literal accepted).2 (fun _ _ => leafLiteral_namesApart) _ _ part⟩

/-- The node of a variable. -/
def variableNode (name : String) : Value := .node (.made .variableUse [("name", .nameNode name)])

/-- A tree whose label is given twice, first as a variable. -/
def repeatedLiteral : Value :=
  .objectNode [("label", variableNode "x"), ("label", .textNode .stringValue "a")]

/-- The literal with the repeated name is accepted, although its first entry is a variable, which is not
accepted as a label. -/
theorem treeSchema_check_repeated :
    repeatedLiteral.IsLiteral ∧
    (treeSchema.check repeatedLiteral (.named (objectType "Tree"))).result = .ok none ∧
    HasPart treeSchema repeatedLiteral (.named (objectType "Tree")) (variableNode "x") (.nonNull textType) ∧
    (variableNode "x").isA .variableUse = true ∧
    (treeSchema.check (variableNode "x") (.nonNull textType)).result =
      .ok (some ⟨variableNode "x", "Unexpected variable $x in constant value.", .null⟩) := by
  have use : (variableNode "x").IsLiteral :=
    .variableUse (NodeOf.made_isMade rfl) rfl (Value.nameNode_isName "x")
  have entries : repeatedLiteral.entries =
      [("label", variableNode "x"), ("label", .textNode .stringValue "a")] := Value.objectNode_entries _
  refine ⟨?_, treeSchema_check_label (by decide) rfl rfl, ?_, rfl, ?_⟩
  · exact Value.objectNode_isLiteral (List.forall_mem_cons.2
      ⟨use, List.forall_mem_singleton.2 (Value.textNode_isLiteral (by decide) "a")⟩)
  · exact .entry (treeSchema_opens _) (entries ▸ List.mem_cons_self ..) (List.mem_cons_self ..) (.self ..)
  · have printed : (variableNode "x").print = .ok (.str "$x" 0) := by
      rw [variableNode, Value.print]
      rfl
    rw [variableNode, treeSchema.check_variable rfl, unexpectedVariable, ← variableNode, printed]
    rfl

end QueryDefaults
