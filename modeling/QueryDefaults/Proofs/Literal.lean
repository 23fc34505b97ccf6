import Mathlib.Data.List.Forall2
import QueryDefaults.Literal.Conformance
import QueryDefaults.Proofs.Form

/-!
Well-formed literals. A node goes by the kind of its class unless an attribute `kind` takes its place,
and a literal is well-formed if all of its nodes go by their kinds, have a place or none, and hold texts,
booleans, items and entries as their kinds say. Such a literal always has a form (`IsLiteral.form`), and
what is printed of it is the text of the form (`HasForm.print`).
`items` and `entries` are the views of lists and objects that later statements speak about: the entries
of an object are pairs of names and values, and the last of several entries with one name counts.
-/

namespace QueryDefaults

@[simp]
theorem ok_bind {α β : Type} (a : α) (f : α → Except Fault β) : (Except.ok a >>= f) = f a := rfl

/-- A sequence that gives a result does so in both of its parts. -/
theorem exists_of_bind_ok {α β : Type} {x : Except Fault α} {f : α → Except Fault β} {b : β}
    (given : (x >>= f) = .ok b) : ∃ a, x = .ok a ∧ f a = .ok b := by
  cases x with
  | error e => cases given
  | ok a => exact ⟨a, rfl, given⟩

/-! ### Kinds -/

theorem Kind.ofText?_text {k : Kind} (library : k.library = k) : Kind.ofText? k.text = some k := by
  cases k with
  | derived base cls => exact (library_ne_derived _ _ _ library).elim
  | _ => rfl

theorem Kind.text_inj {k l : Kind} (hk : k.library = k) (hl : l.library = l) (same : k.text = l.text) : k = l := by
  refine Option.some.inj ?_
  rw [← ofText?_text hk, ← ofText?_text hl, same]

/-- A node of a kind of the library that no attribute `kind` of its own takes the place of. -/
structure NodeOf.GoesBy (n : Node) (k : Kind) : Prop where
  kind : n.kind = k
  own : n.attrs.lookup "kind" = none
  library : k.library = k

theorem NodeOf.GoesBy.kind_library {n : Node} {k : Kind} (h : n.GoesBy k) : n.kind.library = k := by
  rw [h.kind, h.library]

theorem NodeOf.GoesBy.kindValue {n : Node} {k : Kind} (h : n.GoesBy k) :
    n.kindValue = .word k.text := by
  rw [NodeOf.kindValue, h.own, h.kind]
  rfl

theorem NodeOf.GoesBy.role {n : Node} {k : Kind} (h : n.GoesBy k) : n.role = .ok (some k) := by
  rw [NodeOf.role, h.kindValue, Value.word, Value.kind?, Kind.ofText?_text h.library]

theorem NodeOf.GoesBy.isA {n : Node} {k : Kind} (h : n.GoesBy k) (l : Kind) :
    (Value.node n).isA l = (k == l) := by
  rw [Value.isA, h.kind_library]

/-- A node that goes by a kind and whose source location is a location, or null if it has none. -/
structure NodeOf.IsMade (n : Node) (k : Kind) : Prop extends n.GoesBy k where
  placed : n.attrs.lookup "loc" = some .null ∨
    ∃ line column id, n.attrs.lookup "loc" = some (.record .location [line, column] id)

/-! ### Attributes -/

theorem NodeOf.attr_of_lookup {n : Node} {name : String} {v : Value}
    (h : n.attrs.lookup name = some v) : n.attr name = .ok v := by
  rw [NodeOf.attr, NodeOf.attr?, h]

theorem Value.part_of_lookup {n : Node} {name : String} {v : Value}
    (h : n.attrs.lookup name = some v) :
    (Value.node n).part name = .ok ⟨v, NodeOf.height_lt_of_lookup h⟩ := NodeOf.part_eq_ok h

theorem val_pmap {α : Type} {p : α → Prop} {xs : List α} (h : ∀ x ∈ xs, p x) :
    (xs.pmap Subtype.mk h).map (·.val) = xs := by
  rw [List.map_pmap, List.pmap_eq_map, List.map_id']

/-- The items of a tuple are those that it is made of. -/
theorem Value.items_tuple (xs : List Value) (i : Nat) :
    ∃ items, (Value.tuple xs i).items = .ok items ∧ items.map (·.val) = xs :=
  ⟨_, rfl, val_pmap _⟩

theorem val_mem {p : Value → Prop} {items : List { v : Value // p v }} {xs : List Value}
    (h : items.map (·.val) = xs) {x : { v : Value // p v }} (hx : x ∈ items) : x.val ∈ xs :=
  h ▸ List.mem_map_of_mem hx

/-- A row of values as an attribute holds it: a tuple, or null if there are none. -/
inductive Value.IsRow : Value → List Value → Prop where
  | none : IsRow .null []
  | tuple (xs : List Value) (i : Nat) : IsRow (.tuple xs i) xs

/-! ### Names and entries -/

/-- A node that holds a name. -/
inductive Value.IsName : Value → String → Prop where
  | mk {m : Node} {name : String} {i : Nat} (kind : m.GoesBy .name)
      (value : m.attrs.lookup "value" = some (.str name i)) : IsName (.node m) name

/-- A node that holds a name and a value: an entry of an object literal. -/
inductive Value.IsEntry : Value → String → Value → Prop where
  | mk {f : Node} {m v : Value} {name : String} (kind : f.GoesBy .objectField)
      (label : f.attrs.lookup "name" = some m) (named : m.IsName name)
      (value : f.attrs.lookup "value" = some v) : IsEntry (.node f) name v

/-- The text that a node stores as its value. -/
def Value.storedText? : Value → Option String
  | .node m =>
    match m.attrs.lookup "value" with
    | some (.str name _) => some name
    | _ => none
  | _ => none

/-- The name and the value that an entry holds. -/
def Value.pair? : Value → Option (String × Value)
  | .node f =>
    match f.attrs.lookup "name", f.attrs.lookup "value" with
    | some m, some v => m.storedText?.map fun name => (name, v)
    | _, _ => none
  | _ => none

/-- The items of a list literal. -/
def Value.literalItems : Value → List Value
  | .node n =>
    match n.attrs.lookup "values" with
    | some (.tuple xs _) => xs
    | _ => []
  | _ => []

/-- The entries of an object literal, in their order. -/
def Value.entries : Value → List (String × Value)
  | .node n =>
    match n.attrs.lookup "fields" with
    | some (.tuple es _) => es.filterMap Value.pair?
    | _ => []
  | _ => []

/-- The value of the last entry of a name. -/
def Value.lastEntry? (v : Value) (name : String) : Option Value := v.entries.reverse.lookup name

theorem Value.IsName.storedText? {m : Value} {name : String} (h : m.IsName name) :
    m.storedText? = some name := by
  obtain ⟨_, value⟩ := h
  rw [Value.storedText?, value]

theorem Value.IsName.value {m : Value} {name : String} (h : m.IsName name) :
    ∃ i, m.attr "value" = .ok (.str name i) := by
  obtain ⟨_, value⟩ := h
  exact ⟨_, NodeOf.attr_of_lookup value⟩

/-- What the name of a node is, if its attribute `name` holds a name. -/
theorem Value.nameValue_of_lookup {n : Node} {m : Value} {name : String}
    (label : n.attrs.lookup "name" = some m) (named : m.IsName name) :
    ∃ i, (Value.node n).nameValue = .ok (.str name i) := by
  obtain ⟨i, hi⟩ := named.value
  refine ⟨i, ?_⟩
  rw [Value.nameValue, Value.attr, NodeOf.attr_of_lookup label]
  exact hi

theorem Value.IsEntry.pair? {e v : Value} {name : String} (h : e.IsEntry name v) :
    e.pair? = some (name, v) := by
  obtain ⟨_, label, named, value⟩ := h
  simp [Value.pair?, label, value, named.storedText?]

theorem Value.IsEntry.nameValue {e v : Value} {name : String} (h : e.IsEntry name v) :
    ∃ i, e.nameValue = .ok (.str name i) := by
  obtain ⟨_, label, named, _⟩ := h
  exact Value.nameValue_of_lookup label named

theorem Value.IsEntry.attr {e v : Value} {name : String} (h : e.IsEntry name v) :
    e.attr "value" = .ok v := by
  obtain ⟨_, _, _, value⟩ := h
  exact NodeOf.attr_of_lookup value

theorem Value.IsEntry.part {e v : Value} {name : String} (h : e.IsEntry name v) :
    ∃ lt, e.part "value" = .ok ⟨v, lt⟩ := by
  obtain ⟨_, _, _, value⟩ := h
  exact ⟨_, Value.part_of_lookup value⟩

/-! ### Literals -/

/-- The kinds of literals that hold a text. -/
def textKinds : List Kind := [.intValue, .floatValue, .stringValue, .enumValue]

/-- A well-formed literal: every node of it is as its kind says. Variables count as literals, although
no type has them. -/
inductive Value.IsLiteral : Value → Prop where
  | null {n : Node} (made : n.IsMade .nullValue) : IsLiteral (.node n)
  | variableUse {n : Node} {m : Value} {name : String} (made : n.IsMade .variableUse)
      (label : n.attrs.lookup "name" = some m) (named : m.IsName name) : IsLiteral (.node n)
  | text {n : Node} {k : Kind} {s : String} {i : Nat} (kind : k ∈ textKinds) (made : n.IsMade k)
      (value : n.attrs.lookup "value" = some (.str s i)) : IsLiteral (.node n)
  | boolean {n : Node} {b : Bool} (made : n.IsMade .booleanValue)
      (value : n.attrs.lookup "value" = some (.bool b)) : IsLiteral (.node n)
  | list {n : Node} {xs : List Value} {i : Nat} (made : n.IsMade .listValue)
      (values : n.attrs.lookup "values" = some (.tuple xs i))
      (each : ∀ x ∈ xs, IsLiteral x) : IsLiteral (.node n)
  | object {n : Node} {es : List Value} {i : Nat} (made : n.IsMade .objectValue)
      (fields : n.attrs.lookup "fields" = some (.tuple es i))
      (named : ∀ e ∈ es, ∃ name v, e.IsEntry name v)
      (each : ∀ e ∈ es, ∀ name v, e.IsEntry name v → IsLiteral v) : IsLiteral (.node n)

/-- Every literal is a node that is made of its kind. -/
theorem Value.IsLiteral.made {v : Value} (h : v.IsLiteral) : ∃ n k, v = .node n ∧ n.IsMade k := by
  cases h with
  | null made => exact ⟨_, _, rfl, made⟩
  | variableUse made => exact ⟨_, _, rfl, made⟩
  | text _ made => exact ⟨_, _, rfl, made⟩
  | boolean made => exact ⟨_, _, rfl, made⟩
  | list made => exact ⟨_, _, rfl, made⟩
  | object made => exact ⟨_, _, rfl, made⟩

/-- A value that is neither a variable nor null. -/
structure Value.IsConstant (v : Value) : Prop where
  noVariable : v.isA .variableUse = false
  noNull : v.isA .nullValue = false

/-- A constant that is neither a list nor an object. -/
structure Value.IsPlain (v : Value) : Prop extends v.IsConstant where
  noList : v.isA .listValue = false
  noObject : v.isA .objectValue = false

theorem NodeOf.IsMade.isA_ne {n : Node} {k l : Kind} (made : n.IsMade k) (ne : k ≠ l) :
    (Value.node n).isA l = false := by
  rw [made.isA]
  exact beq_eq_false_iff_ne.2 ne

theorem NodeOf.IsMade.isConstant {n : Node} {k : Kind} (made : n.IsMade k) (noVariable : k ≠ .variableUse)
    (noNull : k ≠ .nullValue) : (Value.node n).IsConstant :=
  ⟨made.isA_ne noVariable, made.isA_ne noNull⟩

/-- Texts and booleans are plain. -/
theorem NodeOf.IsMade.isPlain {n : Node} {k : Kind} (made : n.IsMade k)
    (kind : k ∈ Kind.booleanValue :: textKinds) : (Value.node n).IsPlain := by
  have other : ∀ l, l ∉ Kind.booleanValue :: textKinds → (Value.node n).isA l = false := fun l hl =>
    made.isA_ne fun same => hl (same ▸ kind)
  exact ⟨⟨other _ (by decide), other _ (by decide)⟩, other _ (by decide), other _ (by decide)⟩

/-! ### Forms of literals -/

/-- Whether a value is a literal or a variable of a form. -/
inductive Value.HasForm : Value → Form → Prop where
  | null {n : Node} (kind : n.GoesBy .nullValue) : HasForm (.node n) .null
  | boolean {n : Node} {b : Bool} (kind : n.GoesBy .booleanValue)
      (value : n.attrs.lookup "value" = some (.bool b)) : HasForm (.node n) (.boolean b)
  | int {n : Node} {s : String} {i : Nat} (kind : n.GoesBy .intValue)
      (value : n.attrs.lookup "value" = some (.str s i)) : HasForm (.node n) (.int s)
  | float {n : Node} {s : String} {i : Nat} (kind : n.GoesBy .floatValue)
      (value : n.attrs.lookup "value" = some (.str s i)) : HasForm (.node n) (.float s)
  | string {n : Node} {s : String} {i : Nat} (kind : n.GoesBy .stringValue)
      (value : n.attrs.lookup "value" = some (.str s i)) : HasForm (.node n) (.string s)
  | enum {n : Node} {s : String} {i : Nat} (kind : n.GoesBy .enumValue)
      (value : n.attrs.lookup "value" = some (.str s i)) : HasForm (.node n) (.enum s)
  | variableUse {n : Node} {m : Value} {name : String} (kind : n.GoesBy .variableUse)
      (label : n.attrs.lookup "name" = some m) (named : m.IsName name) : HasForm (.node n) (.variableUse name)
  | list {n : Node} {xs : List Value} {i : Nat} {fs : List Form} (kind : n.GoesBy .listValue)
      (values : n.attrs.lookup "values" = some (.tuple xs i)) (length : xs.length = fs.length)
      (each : ∀ x f, (x, f) ∈ xs.zip fs → HasForm x f) : HasForm (.node n) (.list fs)
  | object {n : Node} {es : List Value} {i : Nat} {fs : List (String × Form)} (kind : n.GoesBy .objectValue)
      (fields : n.attrs.lookup "fields" = some (.tuple es i)) (length : es.length = fs.length)
      (named : ∀ e name f, (e, name, f) ∈ es.zip fs → ∃ v, e.IsEntry name v)
      (each : ∀ e name f, (e, name, f) ∈ es.zip fs → ∀ v, e.IsEntry name v → HasForm v f) :
      HasForm (.node n) (.object fs)

/-- A relation that each item of a list has to something is one to a list of such things. -/
theorem exists_forall₂ {α β : Type} {R : α → β → Prop} :
    ∀ {xs : List α}, (∀ x ∈ xs, ∃ y, R x y) → ∃ ys, List.Forall₂ R xs ys
  | [], _ => ⟨[], .nil⟩
  | x :: xs, h => by
    obtain ⟨y, hy⟩ := h x (List.mem_cons_self ..)
    obtain ⟨ys, hys⟩ := exists_forall₂ fun z hz => h z (List.mem_cons_of_mem _ hz)
    exact ⟨y :: ys, .cons hy hys⟩

/-- Every well-formed literal has a form. -/
theorem Value.IsLiteral.form {v : Value} (h : v.IsLiteral) : ∃ f, v.HasForm f := by
  induction h with
  | null made => exact ⟨_, .null made.toGoesBy⟩
  | variableUse made label named => exact ⟨_, .variableUse made.toGoesBy label named⟩
  | text kind made value =>
    simp only [textKinds, List.mem_cons, List.not_mem_nil, or_false] at kind
    rcases kind with rfl | rfl | rfl | rfl
    · exact ⟨_, .int made.toGoesBy value⟩
    · exact ⟨_, .float made.toGoesBy value⟩
    · exact ⟨_, .string made.toGoesBy value⟩
    · exact ⟨_, .enum made.toGoesBy value⟩
  | boolean made value => exact ⟨_, .boolean made.toGoesBy value⟩
  | list made values _ ih =>
    obtain ⟨fs, hfs⟩ := exists_forall₂ ih
    obtain ⟨length, each⟩ := List.forall₂_iff_zip.1 hfs
    exact ⟨.list fs, .list made.toGoesBy values length fun _ _ => each⟩
  | @object n es i made fields named _ ih =>
    have entry : ∀ e ∈ es, ∃ p : String × Form, ∃ v, e.IsEntry p.1 v ∧ v.HasForm p.2 := by
      intro e he
      obtain ⟨name, v, entry⟩ := named e he
      obtain ⟨f, hf⟩ := ih e he name v entry
      exact ⟨(name, f), v, entry, hf⟩
    obtain ⟨fs, hfs⟩ := exists_forall₂ entry
    obtain ⟨length, each⟩ := List.forall₂_iff_zip.1 hfs
    refine ⟨.object fs, .object made.toGoesBy fields length (fun e name f mem => ?_)
      fun e name f mem v he => ?_⟩
    · obtain ⟨v, entry, _⟩ := each mem
      exact ⟨v, entry⟩
    · obtain ⟨w, entry, hw⟩ := each mem
      have same : some (name, v) = some (name, w) := he.pair?.symm.trans entry.pair?
      cases same
      exact hw

/-! ### Texts of literals -/

/-- A computation that gives a text. -/
def GivesText (r : Except Fault Value) : Prop := ∃ s i, r = .ok (.str s i)

/-- A computation that gives a certain text. -/
def Gives (r : Except Fault Value) (s : String) : Prop := ∃ i, r = .ok (.str s i)

theorem GivesText.display {r : Except Fault Value} (h : GivesText r) :
    ∃ s, (r >>= Value.display) = .ok s := by
  obtain ⟨s, i, rfl⟩ := h
  exact ⟨s, rfl⟩

theorem Gives.unique {r : Except Fault Value} {s t : String} (hs : Gives r s) (ht : Gives r t) : s = t := by
  obtain ⟨i, hi⟩ := hs
  obtain ⟨j, hj⟩ := ht
  cases hi.symm.trans hj
  rfl

/-- Texts in a row are put together in their order. -/
theorem textsOf_mapM {α : Type} {f : α → Except Fault Value} {xs : List α} {ts : List String}
    (h : List.Forall₂ (fun x t => Gives (f x) t) xs ts) : (xs.mapM f >>= textsOf) = .ok ts := by
  induction h with
  | nil => rfl
  | @cons x t xs ts hx _ ih =>
    obtain ⟨i, hi⟩ := hx
    rw [List.mapM_cons, hi, ok_bind]
    cases hm : xs.mapM f with
    | error e =>
      rw [hm] at ih
      cases ih
    | ok vs =>
      rw [hm, ok_bind] at ih
      rw [ok_bind]
      show textsOf (.str t i :: vs) = _
      rw [textsOf, ih]
      rfl

/-- What is printed of the items of a tuple is put together in their order. -/
theorem textsOf_items {p : Value → Prop} {items : List { v : Value // p v }} {xs : List Value}
    {ts : List String} (all : items.map (·.val) = xs)
    (h : List.Forall₂ (fun x t => Gives (Value.print x) t) xs ts) :
    (items.mapM (fun x => x.val.print) >>= textsOf) = .ok ts := by
  rw [← all, List.forall₂_map_left_iff] at h
  exact textsOf_mapM h

theorem Value.IsEntry.print {e v : Value} {name text : String} (h : e.IsEntry name v)
    (hv : Gives v.print text) : Gives e.print (name ++ ": " ++ text) := by
  obtain ⟨i, hi⟩ := h.nameValue
  obtain ⟨kind, label, named, value⟩ := h
  obtain ⟨j, hj⟩ := hv
  refine ⟨0, ?_⟩
  rw [Value.print, kind.role]
  simp only [ok_bind, hi, NodeOf.part_eq_ok value, hj]
  rfl

/-- Numerals and enum values are printed as they are stored. -/
theorem Value.print_bare {n : Node} {k : Kind} {s : String} {i : Nat}
    (bare : k ∈ [Kind.intValue, .floatValue, .enumValue]) (kind : n.GoesBy k)
    (value : n.attrs.lookup "value" = some (.str s i)) : (Value.node n).print = .ok (.str s i) := by
  rw [Value.print, kind.role]
  simp only [List.mem_cons, List.not_mem_nil, or_false] at bare
  rcases bare with rfl | rfl | rfl <;> exact NodeOf.attr_of_lookup value

/-- What is printed of a literal is the text of its form. -/
theorem Value.HasForm.print {v : Value} {f : Form} (h : v.HasForm f) : Gives v.print f.text := by
  induction h with
  | null kind => exact ⟨constant, by rw [Value.print, kind.role, Form.text]; rfl⟩
  | @boolean n b kind value =>
    refine ⟨constant, ?_⟩
    rw [Value.print, kind.role, Form.text]
    simp only [ok_bind, NodeOf.attr_of_lookup value]
    rfl
  | int kind value => exact ⟨_, by rw [Form.text]; exact print_bare (by decide) kind value⟩
  | float kind value => exact ⟨_, by rw [Form.text]; exact print_bare (by decide) kind value⟩
  | @string n s i kind value =>
    refine ⟨0, ?_⟩
    rw [Value.print, kind.role, Form.text]
    simp only [ok_bind, NodeOf.attr_of_lookup value]
    rfl
  | enum kind value => exact ⟨_, by rw [Form.text]; exact print_bare (by decide) kind value⟩
  | @variableUse n m name kind label named =>
    obtain ⟨i, hi⟩ := Value.nameValue_of_lookup label named
    refine ⟨0, ?_⟩
    rw [Value.print, kind.role, Form.text]
    simp only [ok_bind, hi]
    rfl
  | @list n xs i fs kind values length _ ih =>
    obtain ⟨items, hitems, hxs⟩ := Value.items_tuple xs i
    have texts : List.Forall₂ (fun x t => Gives (Value.print x) t) xs (fs.map Form.text) :=
      List.forall₂_map_right_iff.2 (List.forall₂_iff_zip.2 ⟨length, ih _ _⟩)
    refine ⟨0, ?_⟩
    rw [Value.print, kind.role, Form.text]
    simp only [ok_bind, NodeOf.part_eq_ok values, hitems]
    rw [← bind_assoc, textsOf_items hxs texts]
    rfl
  | @object n es i fs kind fields length named _ ih =>
    obtain ⟨items, hitems, hes⟩ := Value.items_tuple es i
    have texts : List.Forall₂ (fun x t => Gives (Value.print x) t) es
        (fs.map fun e => e.1 ++ ": " ++ e.2.text) := by
      refine List.forall₂_map_right_iff.2 (List.forall₂_iff_zip.2 ⟨length, fun {e p} mem => ?_⟩)
      obtain ⟨v, entry⟩ := named e p.1 p.2 mem
      exact entry.print (ih e p.1 p.2 mem v entry)
    refine ⟨0, ?_⟩
    rw [Value.print, kind.role, Form.text]
    simp only [ok_bind, NodeOf.part_eq_ok fields, hitems]
    rw [← bind_assoc, textsOf_items hes texts]
    rfl

/-- Every well-formed literal has a text. -/
theorem Value.IsLiteral.print {v : Value} (h : v.IsLiteral) : GivesText v.print := by
  obtain ⟨f, hf⟩ := h.form
  exact ⟨f.text, hf.print⟩

/-! ### Making nodes -/

/-- A node of a kind without a place, made of the other attributes of its kind. -/
def NodeOf.made (k : Kind) (parts : List (String × Value)) : Node := ⟨0, k, ("loc", .null) :: parts, none⟩

theorem NodeOf.made_isMade {k : Kind} {parts : List (String × Value)} (own : parts.lookup "kind" = none)
    (library : k.library = k := by rfl) : (NodeOf.made k parts).IsMade k :=
  ⟨⟨rfl, own, library⟩, .inl rfl⟩

namespace Value

/-- The node of a name. -/
def nameNode (name : String) : Value := .node (.made .name [("value", .str name)])

/-- The node of an entry. -/
def entryNode (e : String × Value) : Value :=
  .node (.made .objectField [("name", nameNode e.1), ("value", e.2)])

/-- The node of a literal that holds a text. -/
def textNode (k : Kind) (s : String) : Value := .node (.made k [("value", .str s)])

/-- The node of an object of entries. -/
def objectNode (es : List (String × Value)) : Value :=
  .node (.made .objectValue [("fields", .tuple (es.map entryNode))])

theorem nameNode_isName (name : String) : (nameNode name).IsName name :=
  .mk ⟨rfl, rfl, rfl⟩ rfl

theorem entryNode_isEntry (e : String × Value) : (entryNode e).IsEntry e.1 e.2 :=
  .mk ⟨rfl, rfl, rfl⟩ rfl (nameNode_isName e.1) rfl

theorem filterMap_entryNode (es : List (String × Value)) : (es.map entryNode).filterMap pair? = es := by
  have pairs : pair? ∘ entryNode = some := funext fun e => (entryNode_isEntry e).pair?
  rw [List.filterMap_map, pairs, List.filterMap_some]

/-- The entries of such an object are those that it is made of. -/
theorem objectNode_entries (es : List (String × Value)) : (objectNode es).entries = es :=
  filterMap_entryNode es

theorem textNode_isLiteral {k : Kind} (kind : k ∈ textKinds) (s : String) : (textNode k s).IsLiteral :=
  .text kind (NodeOf.made_isMade rfl ((by decide : ∀ k ∈ textKinds, k.library = k) k kind)) rfl

theorem objectNode_isLiteral {es : List (String × Value)} (each : ∀ e ∈ es, e.2.IsLiteral) :
    (objectNode es).IsLiteral := by
  refine .object (NodeOf.made_isMade rfl) rfl ?_ ?_
  · intro e he
    obtain ⟨e, _, rfl⟩ := List.mem_map.1 he
    exact ⟨e.1, e.2, entryNode_isEntry e⟩
  · intro e he name v h
    obtain ⟨e, mem, rfl⟩ := List.mem_map.1 he
    have same : some (e.1, e.2) = some (name, v) := (entryNode_isEntry e).pair?.symm.trans h.pair?
    cases same
    exact each e mem

end Value

end QueryDefaults
