import QueryDefaults.Proofs.Native
import QueryDefaults.Proofs.Parts

/-!
Variables in literals. A literal has a native value exactly if no variable stands in it, however deep and
also where a later entry of the same name takes the place of one with a variable: the native values of all
items and entries are asked for before anything is dropped (`Value.IsLiteral.reads`). A scalar without a
function of its own for literals asks for the native value first, so it rejects every literal with a variable
without a message, whatever its function for native values does (`Schema.coerceLiteral_variable`).
-/

namespace QueryDefaults

/-! ### Where variables stand -/

/-- Whether a variable stands in a literal: it is the literal, or stands in an item of a list or in the value
of an entry of an object. -/
inductive Value.Uses : Value → Node → Prop where
  | here {n : Node} (goesBy : n.GoesBy .variableUse) : Uses (.node n) n
  | item {m n : Node} {xs : List Value} {i : Nat} {x : Value} (goesBy : m.GoesBy .listValue)
      (values : m.attrs.lookup "values" = some (.tuple xs i)) (mem : x ∈ xs) (below : x.Uses n) :
      Uses (.node m) n
  | entry {m n : Node} {es : List Value} {i : Nat} {e v : Value} {name : String}
      (goesBy : m.GoesBy .objectValue) (fields : m.attrs.lookup "fields" = some (.tuple es i))
      (mem : e ∈ es) (holds : e.IsEntry name v) (below : v.Uses n) : Uses (.node m) n

namespace Value.Uses

variable {m n : Node} {xs : List Value} {i : Nat}

theorem kind_of (h : (Value.node m).Uses n) :
    m.kind = .variableUse ∨ m.kind = .listValue ∨ m.kind = .objectValue := by
  cases h with
  | here goesBy => exact .inl goesBy.kind
  | item goesBy => exact .inr (.inl goesBy.kind)
  | entry goesBy => exact .inr (.inr goesBy.kind)

/-- A variable in a list stands in one of its items. -/
theorem of_list (goesBy : m.GoesBy .listValue) (values : m.attrs.lookup "values" = some (.tuple xs i))
    (h : (Value.node m).Uses n) : ∃ x ∈ xs, x.Uses n := by
  cases h with
  | here variableUse => cases goesBy.kind.symm.trans variableUse.kind
  | entry object => cases goesBy.kind.symm.trans object.kind
  | item _ values' mem below =>
    cases values.symm.trans values'
    exact ⟨_, mem, below⟩

/-- A variable in an object stands in the value of one of its entries. -/
theorem of_object (goesBy : m.GoesBy .objectValue) (fields : m.attrs.lookup "fields" = some (.tuple xs i))
    (h : (Value.node m).Uses n) : ∃ e ∈ xs, ∃ name v, e.IsEntry name v ∧ v.Uses n := by
  cases h with
  | here variableUse => cases goesBy.kind.symm.trans variableUse.kind
  | item list => cases goesBy.kind.symm.trans list.kind
  | entry _ fields' mem holds below =>
    cases fields.symm.trans fields'
    exact ⟨_, mem, _, _, holds, below⟩

end Value.Uses

/-! ### Native values of literals -/

/-- The failure of a literal at a variable. -/
def unexpectedUse (n : Node) : Fault := .refused .literal (.node n)

/-- Whether a computation gives a result while no variable is used, or fails at one that is. -/
inductive GivesOrUses {α : Type} (Used : Node → Prop) : Except Fault α → Prop where
  | gives (a : α) (none : ∀ n, ¬ Used n) : GivesOrUses Used (.ok a)
  | uses {n : Node} (used : Used n) : GivesOrUses Used (.error (unexpectedUse n))

namespace GivesOrUses

variable {α β : Type} {Used Used' : Node → Prop} {r : Except Fault α}

/-- A computation and what comes after it use the variables of both. -/
theorem bind {f : α → Except Fault β} (h : GivesOrUses Used r)
    (rest : ∀ a, r = .ok a → GivesOrUses Used' (f a)) :
    GivesOrUses (fun n => Used n ∨ Used' n) (r >>= f) := by
  cases h with
  | uses used => exact .uses (.inl used)
  | gives a none =>
    have later := rest a rfl
    rw [ok_bind]
    generalize f a = r' at later ⊢
    cases later with
    | gives b none' => exact .gives b fun n used => used.elim (none n) (none' n)
    | uses used => exact .uses (.inr used)

theorem map (f : α → β) (h : GivesOrUses Used r) : GivesOrUses Used (r.map f) := by
  cases h with
  | gives a none => exact .gives (f a) none
  | uses used => exact .uses used

/-- It fails exactly if a variable is used. -/
theorem fails_iff (h : GivesOrUses Used r) : (∃ f, r = .error f) ↔ ∃ n, Used n := by
  cases h with
  | gives a none =>
    refine ⟨nofun, ?_⟩
    rintro ⟨n, used⟩
    exact absurd used (none n)
  | uses used => exact ⟨fun _ => ⟨_, used⟩, fun _ => ⟨_, rfl⟩⟩

/-- If it fails, then at a variable that is used. -/
theorem failure (h : GivesOrUses Used r) {f : Fault} (failed : r = .error f) :
    ∃ n, Used n ∧ f = unexpectedUse n := by
  cases h with
  | gives => cases failed
  | uses used =>
    cases failed
    exact ⟨_, used, rfl⟩

/-- Other words for the variables that are used. -/
theorem congr (same : ∀ n, Used n ↔ Used' n) (h : GivesOrUses Used r) : GivesOrUses Used' r := by
  cases h with
  | gives a none => exact .gives a fun n used => none n ((same n).2 used)
  | uses used => exact .uses ((same _).1 used)

end GivesOrUses

/-- Values in a row have native values, or the first one with a variable fails. -/
theorem mapM_givesOrUses : ∀ {xs : List Value}, (∀ x ∈ xs, GivesOrUses x.Uses x.native.result) →
    GivesOrUses (fun n => ∃ x ∈ xs, x.Uses n) (xs.mapM fun x => x.native.result)
  | [], _ => .gives [] (by simp)
  | x :: xs, each => by
    obtain ⟨first, rest⟩ := List.forall_mem_cons.1 each
    rw [List.mapM_cons]
    refine (first.bind fun w _ => (mapM_givesOrUses rest).map (w :: ·)).congr fun n => ?_
    simp

/-- An entry is put into a mapping from texts, or fails at a variable in its value. -/
theorem putNative_givesOrUses {e v : Value} {name : String} (entry : e.IsEntry name v)
    (value : GivesOrUses v.Uses v.native.result) {es : List Entry} (named : ∀ e ∈ es, ∃ k, e.IsNamed k) :
    GivesOrUses v.Uses (putNative es e) ∧
      ∀ fs, putNative es e = .ok fs → ∀ f ∈ fs, ∃ k, f.IsNamed k := by
  obtain ⟨i, put⟩ := entry.putNative
  rw [put]
  generalize v.native.result = r at value ⊢
  cases value with
  | uses used => exact ⟨.uses used, nofun⟩
  | gives w none =>
    obtain ⟨fs, placed, after⟩ := putAt_named name i w named
    rw [ok_bind, placed]
    refine ⟨.gives fs none, fun gs same => ?_⟩
    cases same
    exact after

/-- Entries are put into a mapping from texts one after the other, or the first one with a variable fails,
also if a later one has its name. -/
theorem foldlM_givesOrUses : ∀ {fields : List Value},
    (∀ e ∈ fields, ∃ name v, e.IsEntry name v ∧ GivesOrUses v.Uses v.native.result) →
    ∀ {es : List Entry}, (∀ e ∈ es, ∃ k, e.IsNamed k) →
      GivesOrUses (fun n => ∃ e ∈ fields, ∃ name v, e.IsEntry name v ∧ v.Uses n)
        (fields.foldlM putNative es)
  | [], _, es, _ => .gives es (by simp)
  | e :: fields, each, es, named => by
    obtain ⟨⟨name, v, entry, value⟩, rest⟩ := List.forall_mem_cons.1 each
    obtain ⟨first, after⟩ := putNative_givesOrUses entry value named
    have here : ∀ n, (∃ name v, e.IsEntry name v ∧ v.Uses n) ↔ v.Uses n := by
      intro n
      constructor
      · rintro ⟨name', v', entry', used⟩
        have same : some (name, v) = some (name', v') := entry.pair?.symm.trans entry'.pair?
        cases same
        exact used
      · exact fun used => ⟨name, v, entry, used⟩
    rw [List.foldlM_cons]
    refine (first.bind fun fs put => foldlM_givesOrUses rest (after fs put)).congr fun n => ?_
    simp only [List.exists_mem_cons_iff, here]

/-- Every text is read as an integer, or is not a number. -/
theorem orNaN_asInt (text : String) (i : Nat) : ∃ w, orNaN (Value.str text i).asInt = .ok w := by
  show ∃ w, orNaN ((Value.str text i).toInt.map fun n => .int n) = .ok w
  rw [Value.toInt]
  cases Numeral.readInt? text with
  | none => exact ⟨_, rfl⟩
  | some n => exact ⟨_, rfl⟩

/-- Every text is read as a double, or is not a number. -/
theorem orNaN_asDouble (text : String) (i : Nat) : ∃ w, orNaN (Value.str text i).asDouble = .ok w := by
  show ∃ w, orNaN ((Value.str text i).toDouble.map fun x => .float x) = .ok w
  rw [Value.toDouble]
  cases Numeral.readDouble? text with
  | none => exact ⟨_, rfl⟩
  | some x => exact ⟨_, rfl⟩

/-- A literal that holds a text has a native value. -/
theorem native_text {n : Node} {k : Kind} {text : String} {i : Nat} (kind : k ∈ textKinds)
    (goesBy : n.GoesBy k) (value : n.attrs.lookup "value" = some (.str text i)) :
    ∃ w, (Value.node n).native.result = .ok w := by
  simp only [textKinds, List.mem_cons, List.not_mem_nil, or_false] at kind
  rcases kind with rfl | rfl | rfl | rfl
  · obtain ⟨w, read⟩ := orNaN_asInt text i
    exact ⟨w, (native_int goesBy value).trans read⟩
  · obtain ⟨w, read⟩ := orNaN_asDouble text i
    exact ⟨w, (native_float goesBy value).trans read⟩
  · exact ⟨_, native_stored (.inl rfl) goesBy value⟩
  · exact ⟨_, native_enum goesBy value⟩

/-- A literal has a native value and no variable stands in it, or it fails at one that does. -/
theorem Value.IsLiteral.reads {v : Value} (h : v.IsLiteral) : GivesOrUses v.Uses v.native.result := by
  have leaf : ∀ {n : Node} {k : Kind}, n.IsMade k →
      k ∉ [Kind.variableUse, .listValue, .objectValue] → ∀ m, ¬ (Value.node n).Uses m := by
    intro n k made other m used
    have kind := used.kind_of
    rw [made.kind] at kind
    simp only [List.mem_cons, List.not_mem_nil, or_false] at other
    exact other kind
  induction h with
  | null made =>
    rw [native_null made.toGoesBy]
    exact .gives _ (leaf made (by decide))
  | variableUse made =>
    rw [native_variable made.toGoesBy]
    exact .uses (.here made.toGoesBy)
  | @text n k s i kind made value =>
    obtain ⟨w, read⟩ := native_text kind made.toGoesBy value
    rw [read]
    refine .gives w (leaf made ?_)
    intro other
    exact (by decide : ∀ k ∈ textKinds, k ∉ [Kind.variableUse, .listValue, .objectValue]) k kind other
  | boolean made value =>
    rw [native_stored (.inr rfl) made.toGoesBy value]
    exact .gives _ (leaf made (by decide))
  | list made values _ ih =>
    rw [native_list made.toGoesBy values]
    refine ((mapM_givesOrUses ih).map _).congr fun n => ⟨?_, Uses.of_list made.toGoesBy values⟩
    rintro ⟨x, mem, below⟩
    exact .item made.toGoesBy values mem below
  | @object n es i made fields named _ ih =>
    have each : ∀ e ∈ es, ∃ name v, e.IsEntry name v ∧ GivesOrUses v.Uses v.native.result := by
      intro e he
      obtain ⟨name, v, entry⟩ := named e he
      exact ⟨name, v, entry, ih e he name v entry⟩
    rw [native_object made.toGoesBy fields]
    refine ((foldlM_givesOrUses each (List.forall_mem_nil _)).map _).congr fun n =>
      ⟨?_, Uses.of_object made.toGoesBy fields⟩
    rintro ⟨e, mem, name, v, entry, below⟩
    exact .entry made.toGoesBy fields mem entry below

/-- The failure at a variable counts as it is, unless a function of the variable's own is to describe it. -/
theorem settle_unexpectedUse {m : Node} (plain : m.attrs.lookup "__inspect__" = none)
    (call : Value → Except Fault Value) : (unexpectedUse m).settle call = unexpectedUse m := by
  have described : (Value.node m).inspect call = .ok (.str (Inspect.flat (.node m))) := by
    rw [Value.inspect, Inspect.within, Inspect.node, plain]
    rfl
  rw [unexpectedUse, Fault.settle, Refusal.wording, described]
  rfl

/-! ### Scalars without a function for literals -/

namespace Schema

variable {s : Schema} {n : NamedType} {onValue : Option Value} {v : Value}

/-- Whether a scalar has no function of its own for literals, and a given one for native values, if any. -/
def TakesNatives (s : Schema) (n : NamedType) (onValue : Option Value) : Prop :=
  ∃ d, s.def? n = some d ∧ d.typeAt n.id = n ∧ d.body = .scalar onValue none

theorem TakesNatives.defines (h : s.TakesNatives n onValue) : s.Defines n := by
  obtain ⟨d, defined, same, _⟩ := h
  exact ⟨d, defined, same⟩

theorem TakesNatives.sort (h : s.TakesNatives n onValue) : n.sort = .scalar := by
  obtain ⟨d, _, same, body⟩ := h
  rw [← same, TypeDef.typeAt, body]
  rfl

/-- Such a scalar makes of a literal what its function for native values makes of the native value. -/
theorem TakesNatives.onLiteral_eq (h : s.TakesNatives n onValue) (v : Value) : s.onLiteral n v =
    v.native.result >>= fun w => (s.applyWithin s.defs.length (onValue.getD (.builtin .pass)) w).result := by
  obtain ⟨d, defined, _, body⟩ := h
  have method : (s.attr (.type (.named n)) "parse_literal").result = .ok (.method (.scalar n.id)) := by
    rw [attr, typeAttr, defined]
    simp only [body]
    rfl
  have functions : s.coercions? n.id =
      some (onValue.getD (.builtin .pass), .method (.scalar n.id)) := by
    have found : s.defs[n.id]? = some d := defined
    rw [coercions?, found]
    obtain ⟨_, _, _, _, _⟩ := d
    obtain rfl := body
    rfl
  rw [onLiteral, Traced.result_bind_ok method, applyTo, applyWithin, functions]
  exact Traced.result_bind ..

/-- A failure that is no error of the library rejects a literal without a message. -/
theorem coerceLiteral_failure (defines : s.Defines n) (printed : GivesText v.print) {f : Fault}
    (failed : s.onLiteral n v = .error f) (foreign : rejection? s.called (f.settle s.called) = .ok none) :
    (s.coerceLiteral (.type (.named n)) v).result = .ok (Outcome.rejected .null).toValue := by
  rw [coerceLiteral_result defines printed, failed]
  dsimp only
  rw [foreign]
  rfl

/-- A scalar without a function for literals rejects a literal with a variable without a message. -/
theorem coerceLiteral_variable (h : s.TakesNatives n onValue) (literal : v.IsLiteral)
    (plain : ∀ m, v.Uses m → m.attrs.lookup "__inspect__" = none) (used : ∃ m, v.Uses m) :
    (s.coerceLiteral (.type (.named n)) v).result = .ok (Outcome.rejected .null).toValue := by
  obtain ⟨f, failed⟩ := literal.reads.fails_iff.2 used
  obtain ⟨m, here, rfl⟩ := literal.reads.failure failed
  have made : s.onLiteral n v = .error (unexpectedUse m) := by
    rw [h.onLiteral_eq, failed]
    rfl
  refine coerceLiteral_failure h.defines literal.print made ?_
  rw [settle_unexpectedUse (plain m here)]
  rfl

/-- So a check against it reports the literal without a message. -/
theorem check_variable_within (h : s.TakesNatives n onValue) (literal : v.IsLiteral)
    (plain : ∀ m, v.Uses m → m.attrs.lookup "__inspect__" = none) (used : ∃ m, v.Uses m) {t : Ty}
    (core : t.core = .named n) : ∃ reason, (s.check v t).result = .ok (some ⟨v, reason, .null⟩) := by
  obtain ⟨m, here⟩ := used
  obtain ⟨text, i, printed⟩ := literal.print
  obtain ⟨k, kind, rfl, made⟩ := literal.made
  by_cases variableUse : kind = .variableUse
  · refine ⟨sentence ["Unexpected variable ", text, " in constant value."], ?_⟩
    rw [s.check_variable (made.kind.trans variableUse), unexpectedVariable, printed]
    rfl
  · have constant : (Value.node k).IsConstant := by
      refine made.isConstant variableUse ?_
      rintro rfl
      rcases here.kind_of with wrong | wrong | wrong <;> cases made.kind.symm.trans wrong
    have rejected := coerceLiteral_variable h literal plain ⟨m, here⟩
    refine ⟨sentence ["Expected value of type '", n.name, "', found ", text, "."], ?_⟩
    have outcome : outcomeOf (Outcome.rejected .null).toValue = .rejected .null := rfl
    rw [s.check_core constant, core, s.check_scalar constant h.sort, checkScalar,
      Traced.result_bind_ok rejected, outcome]
    simp only
    rw [Traced.result_bind_ok printed]
    rfl

end Schema

/-- A literal fails to have a native value exactly if a variable stands in it, be it in an entry that a later
one takes the place of; it fails at such a variable, with a failure of types unless the variable has a function
that describes it. A scalar without a function for literals then rejects the literal without a message,
whatever its function for native values is, and a check against the scalar reports it without a message. -/
theorem Value.variables_fail {v : Value} (literal : v.IsLiteral) :
    ((∃ f, v.native.result = .error f) ↔ ∃ m, v.Uses m) ∧
    (∀ f, v.native.result = .error f → ∃ m, v.Uses m ∧ f = unexpectedUse m ∧ f.cls = .type) ∧
    ((∀ m, v.Uses m → m.attrs.lookup "__inspect__" = none) →
      (∀ f call, v.native.result = .error f → f.settle call = f) ∧
      ∀ (s : Schema) (n : NamedType) (onValue : Option Value), s.TakesNatives n onValue →
        (∃ m, v.Uses m) →
          (s.coerceLiteral (.type (.named n)) v).result = .ok (Outcome.rejected .null).toValue ∧
          ∀ t : Ty, t.core = .named n →
            ∃ reason, (s.check v t).result = .ok (some ⟨v, reason, .null⟩)) := by
  refine ⟨literal.reads.fails_iff, fun f failed => ?_, fun plain => ⟨fun f call failed => ?_,
    fun s n onValue h used => ⟨?_, fun t core => ?_⟩⟩⟩
  · obtain ⟨m, used, rfl⟩ := literal.reads.failure failed
    exact ⟨m, used, rfl, rfl⟩
  · obtain ⟨m, used, rfl⟩ := literal.reads.failure failed
    exact settle_unexpectedUse (plain m used) call
  · exact Schema.coerceLiteral_variable h literal plain used
  · exact Schema.check_variable_within h literal plain used core

/-! ### An entry that a later one takes the place of -/

/-- The variables in an object are those in the values that it is made of. -/
theorem Value.Uses.of_objectNode {es : List (String × Value)} {m : Node}
    (h : (Value.objectNode es).Uses m) : ∃ e ∈ es, e.2.Uses m := by
  obtain ⟨f, mem, name, v, entry, used⟩ := h.of_object ⟨rfl, rfl, rfl⟩ rfl
  obtain ⟨e, he, rfl⟩ := List.mem_map.1 mem
  have same : some (e.1, e.2) = some (name, v) := (entryNode_isEntry e).pair?.symm.trans entry.pair?
  cases same
  exact ⟨e, he, used⟩

/-- A scalar without a function for literals. -/
def anyType : NamedType := ⟨5, "Any", .scalar, constant⟩

/-- A schema with this scalar, which takes every native value as it is. -/
def anySchema : Schema where
  defs := builtinDefs ++ [{
    name := "Any", description := .null, extensions := .null, body := .scalar (some (.function 0)) none }]
  call _ := throw .operand
  apply _ v := pure v

theorem anySchema_takesNatives : anySchema.TakesNatives anyType (some (.function 0)) :=
  ⟨_, rfl, rfl, rfl⟩

/-- The last entry of the label is a text, but the variable in the entry before it counts. -/
theorem repeatedLiteral_fails :
    repeatedLiteral.lastEntry? "label" = some (.textNode .stringValue "a") ∧
    (∃ f, repeatedLiteral.native.result = .error f) ∧
    (anySchema.coerceLiteral (.type (.named anyType)) repeatedLiteral).result =
      .ok (Outcome.rejected .null).toValue ∧
    ∃ reason, (anySchema.check repeatedLiteral (.nonNull (.named anyType))).result =
      .ok (some ⟨repeatedLiteral, reason, .null⟩) := by
  have literal : repeatedLiteral.IsLiteral := Value.objectNode_isLiteral (List.forall_mem_cons.2
    ⟨.variableUse (NodeOf.made_isMade rfl) rfl (Value.nameNode_isName "x"),
      List.forall_mem_singleton.2 (Value.textNode_isLiteral (by decide) "a")⟩)
  have used : ∃ m, repeatedLiteral.Uses m :=
    ⟨_, .entry ⟨rfl, rfl, rfl⟩ rfl (List.mem_cons_self ..) (Value.entryNode_isEntry ("label", variableNode "x"))
      (.here ⟨rfl, rfl, rfl⟩)⟩
  have plain : ∀ m, repeatedLiteral.Uses m → m.attrs.lookup "__inspect__" = none := by
    intro m used
    obtain ⟨e, mem, below⟩ := used.of_objectNode
    rcases List.mem_cons.1 mem with rfl | mem
    · cases below with
      | here => rfl
      | item list => cases list.kind
      | entry object => cases object.kind
    · obtain rfl := List.mem_singleton.1 mem
      rcases below.kind_of with wrong | wrong | wrong <;> cases wrong
  obtain ⟨fails, _, scalar⟩ := Value.variables_fail literal
  obtain ⟨rejected, checked⟩ := (scalar plain).2 _ _ _ anySchema_takesNatives used
  exact ⟨rfl, fails.2 used, rejected, checked _ rfl⟩

end QueryDefaults
