import QueryDefaults.Proofs.Registered

/-!
Positions in literals. Going down a literal and a type together one comes to positions: literals with the
types that they have to conform to, entries whose names have to be declared, and declared fields without an
entry (`Reaches`). They are ordered as they are met: a literal comes before its parts, items by their places,
and in an object all entries before the declared fields. What a position has to do with its own literal and
type alone is local: it fits (`Spot.Fits`), or it fails in one way (`Spot.Fails`), and never both. Where a
literal conforms, all positions fit (`Conforms.fits_below`).
-/

namespace QueryDefaults

/-! ### Positions -/

/-- A step down from a literal: to an item of a list, to an entry of an object whose name is looked up, or
to a declared field of an object. -/
inductive Descent where
  | item (i : Nat)
  | entry (i : Nat)
  | field (i : Nat)
  deriving DecidableEq, Repr

/-- The order of the steps down from one literal. -/
inductive Descent.Before : Descent → Descent → Prop where
  | items {i j : Nat} (less : i < j) : Before (item i) (item j)
  | entries {i j : Nat} (less : i < j) : Before (entry i) (entry j)
  | names (i j : Nat) : Before (entry i) (field j)
  | fields {i j : Nat} (less : i < j) : Before (field i) (field j)

/-- The order of positions: one comes before those below it, and two that part do so by their steps. -/
abbrev Earlier : List Descent → List Descent → Prop := List.Lex Descent.Before

/-- What stands at a position: a literal and the type for it, an entry of an object with the fields that
are declared, or a declared field that an object has no entry for. -/
inductive Spot where
  | literal (v : Value) (t : Ty)
  | entry (owner : NamedType) (declared : List (String × InputField)) (name : String) (value : Value)
  | absent (owner : NamedType) (object : Value) (name : String) (field : InputField)

/-- The part of a literal that a failure at a position is about. -/
def Spot.node : Spot → Value
  | literal v _ => v
  | entry _ _ _ value => value
  | absent _ object _ _ => object

/-- Whether an object stands where an input object with the given fields is expected. -/
structure Opens (s : Schema) (v : Value) (t : Ty) (owner : NamedType)
    (declared : List (String × InputField)) : Prop where
  core : t.core = .named owner
  sort : owner.sort = .inputObject
  literal : v.isA .objectValue = true
  fields : (s.fields owner).result = .ok declared

/-- Whether steps down from a literal and its type lead to a position. Of several entries of one name the
last one counts. -/
inductive Reaches (s : Schema) : Value → Ty → List Descent → Spot → Prop where
  | here (v : Value) (t : Ty) : Reaches s v t [] (.literal v t)
  | item {v x : Value} {t item : Ty} {i k : Nat} {p : List Descent} {spot : Spot}
      (core : t.core = .list item i) (literal : v.isA .listValue = true)
      (nth : v.literalItems[k]? = some x) (below : Reaches s x item p spot) :
      Reaches s v t (.item k :: p) spot
  | entry {v : Value} {t : Ty} {owner : NamedType} {declared : List (String × InputField)} {k : Nat}
      {e : String × Value} (opens : Opens s v t owner declared) (nth : v.entries[k]? = some e) :
      Reaches s v t [.entry k] (.entry owner declared e.1 e.2)
  | absent {v : Value} {t : Ty} {owner : NamedType} {declared : List (String × InputField)} {k : Nat}
      {f : String × InputField} (opens : Opens s v t owner declared) (nth : declared[k]? = some f)
      (none : v.lastEntry? f.1 = none) : Reaches s v t [.field k] (.absent owner v f.1 f.2)
  | field {v w : Value} {t : Ty} {owner : NamedType} {declared : List (String × InputField)} {k : Nat}
      {f : String × InputField} {p : List Descent} {spot : Spot} (opens : Opens s v t owner declared)
      (nth : declared[k]? = some f) (given : v.lastEntry? f.1 = some w)
      (below : Reaches s w f.2.type p spot) : Reaches s v t (.field k :: p) spot

/-! ### Fitting and failing -/

/-- The kind of literal that lists and input objects go by. -/
def Ty.container? : Ty → Option Kind
  | list .. => some .listValue
  | named n => if n.sort = .inputObject then some .objectValue else none
  | _ => none

/-- Whether a position fits as far as it can be told without its parts. -/
inductive Spot.Fits (s : Schema) : Spot → Prop where
  | null {v : Value} {t : Ty} (literal : v.isA .nullValue = true) (nullable : t.isNonNull = false) :
      Fits s (.literal v t)
  | container {v : Value} {t : Ty} {k : Kind} (wanted : t.core.container? = some k)
      (literal : v.isA k = true) : Fits s (.literal v t)
  | enum {v : Value} {t : Ty} {n : NamedType} {name : String} (core : t.core = .named n)
      (sort : n.sort = .enum) (literal : v.isA .enumValue = true) (stored : v.storedText? = some name)
      (known : name ∈ (s.enumValues n).map Prod.fst) : Fits s (.literal v t)
  | scalar {v w r : Value} {t : Ty} {n : NamedType} (core : t.core = .named n) (sort : n.sort = .scalar)
      (constant : v.IsConstant) (coerced : (s.coerceLiteral (.type (.named n)) v).result = .ok r)
      (accepted : outcomeOf r = .accepted w) : Fits s (.literal v t)
  | entry {owner : NamedType} {declared : List (String × InputField)} {name : String} {value : Value}
      (known : name ∈ declared.map Prod.fst) : Fits s (.entry owner declared name value)
  | absent {owner : NamedType} {object : Value} {name : String} {field : InputField}
      (optional : field.isRequired = false) : Fits s (.absent owner object name field)

/-- The ways in which a position can fail by itself, each with what is reported about it. -/
inductive Spot.Fails (s : Schema) : Spot → InvalidLiteral → Prop where
  | variableUse {v : Value} {t : Ty} {text : String} {i : Nat} (literal : v.isA .variableUse = true)
      (printed : v.print = .ok (.str text i)) : Fails s (.literal v t)
        ⟨v, sentence ["Unexpected variable ", text, " in constant value."], .null⟩
  | null {v : Value} {t : Ty} (literal : v.isA .nullValue = true) (required : t.isNonNull = true) :
      Fails s (.literal v t)
        ⟨v, sentence ["Expected value of non-null type '", t.text, "', found null."], .null⟩
  | container {v : Value} {t : Ty} {k : Kind} {text : String} {i : Nat} (constant : v.IsConstant)
      (wanted : t.core.container? = some k) (literal : v.isA k = false)
      (printed : v.print = .ok (.str text i)) : Fails s (.literal v t)
        ⟨v, sentence ["Expected value of type '", t.core.text, "', found ", text, "."], .null⟩
  | noEnum {v : Value} {t : Ty} {n : NamedType} {text : String} {i : Nat} (constant : v.IsConstant)
      (core : t.core = .named n) (sort : n.sort = .enum) (literal : v.isA .enumValue = false)
      (printed : v.print = .ok (.str text i)) : Fails s (.literal v t)
        ⟨v, sentence ["Enum '", n.name, "' cannot represent non-enum value: ", text, "."], .null⟩
  | enumValue {v : Value} {t : Ty} {n : NamedType} {name : String} (core : t.core = .named n)
      (sort : n.sort = .enum) (literal : v.isA .enumValue = true) (stored : v.storedText? = some name)
      (unknown : name ∉ (s.enumValues n).map Prod.fst) : Fails s (.literal v t)
        ⟨v, sentence ["Value '", name, "' does not exist in '", n.name, "' enum."], .null⟩
  | scalar {v r message : Value} {t : Ty} {n : NamedType} {text : String} {i : Nat}
      (core : t.core = .named n) (sort : n.sort = .scalar) (constant : v.IsConstant)
      (coerced : (s.coerceLiteral (.type (.named n)) v).result = .ok r)
      (rejected : outcomeOf r = .rejected message) (printed : v.print = .ok (.str text i)) :
      Fails s (.literal v t)
        ⟨v, sentence ["Expected value of type '", n.name, "', found ", text, "."], message⟩
  | entry {owner : NamedType} {declared : List (String × InputField)} {name : String} {value : Value}
      (unknown : name ∉ declared.map Prod.fst) : Fails s (.entry owner declared name value)
        ⟨value, sentence ["Field '", name, "' is not defined by type '", owner.name, "'."], .null⟩
  | absent {owner : NamedType} {object : Value} {name : String} {field : InputField}
      (required : field.isRequired = true) : Fails s (.absent owner object name field)
        ⟨object, sentence ["Field '", owner.name, ".", name, "' of required type '", field.type.text,
          "' was not provided."], .null⟩

section Local

variable {s : Schema} {v : Value} {t : Ty}

theorem Value.isA_unique {k l : Kind} (h : v.isA k = true) (g : v.isA l = true) : k = l := by
  cases v with
  | node n => exact (beq_iff_eq.1 h).symm.trans (beq_iff_eq.1 g)
  | _ => cases h

/-- A failure is about the part of the literal that stands at its position. -/
theorem Spot.Fails.node {spot : Spot} {invalid : InvalidLiteral} (h : spot.Fails s invalid) :
    invalid.node = spot.node := by
  cases h <;> rfl

/-- Only lists and input objects go by a kind of literal. -/
theorem Ty.container?_eq_some {k : Kind} (h : t.container? = some k) :
    (∃ item i, t = .list item i ∧ k = .listValue) ∨
      ∃ n, t = .named n ∧ n.sort = .inputObject ∧ k = .objectValue := by
  cases t with
  | list item i => exact .inl ⟨item, i, rfl, (Option.some.inj h).symm⟩
  | named n =>
    rw [container?] at h
    split at h
    · next sort => exact .inr ⟨n, rfl, sort, (Option.some.inj h).symm⟩
    · cases h
  | nonNull => cases h
  | wrapper => cases h

/-- A list or an object is neither a variable nor null. -/
theorem Ty.isConstant_of_container? {k : Kind} (h : t.container? = some k) (literal : v.isA k = true) :
    v.IsConstant := by
  rcases container?_eq_some h with ⟨_, _, _, rfl⟩ | ⟨_, _, _, rfl⟩
  · exact ⟨Value.isA_ne literal (by decide), Value.isA_ne literal (by decide)⟩
  · exact ⟨Value.isA_ne literal (by decide), Value.isA_ne literal (by decide)⟩

/-- A type that goes by a kind of literal is no enum and no scalar. -/
theorem Ty.sort_of_container? {k : Kind} {n : NamedType} (h : t.core.container? = some k)
    (core : t.core = .named n) : n.sort = .inputObject := by
  rcases container?_eq_some h with ⟨_, _, list, _⟩ | ⟨m, named, sort, _⟩
  · cases core.symm.trans list
  · cases core.symm.trans named
    exact sort

theorem Spot.Fits.cases_literal (h : (Spot.literal v t).Fits s) :
    (v.isA .nullValue = true ∧ t.isNonNull = false) ∨ v.IsConstant := by
  cases h with
  | null literal nullable => exact .inl ⟨literal, nullable⟩
  | container wanted literal => exact .inr (Ty.isConstant_of_container? wanted literal)
  | enum _ _ literal =>
    exact .inr ⟨Value.isA_ne literal (by decide), Value.isA_ne literal (by decide)⟩
  | scalar _ _ constant => exact .inr constant

/-- A constant fits where a list or an object is expected only if it is one. -/
theorem Spot.Fits.isA (h : (Spot.literal v t).Fits s) (constant : v.IsConstant) {k : Kind}
    (wanted : t.core.container? = some k) : v.isA k = true := by
  cases h with
  | null literal =>
    rw [constant.noNull] at literal
    cases literal
  | container wanted' literal =>
    obtain rfl := Option.some.inj (wanted.symm.trans wanted')
    exact literal
  | enum core sort =>
    rw [Ty.sort_of_container? wanted core] at sort
    cases sort
  | scalar core sort =>
    rw [Ty.sort_of_container? wanted core] at sort
    cases sort

/-- A constant fits an enum type only if it is the name of one of its values. -/
theorem Spot.Fits.isValue (h : (Spot.literal v t).Fits s) (constant : v.IsConstant) {n : NamedType}
    (core : t.core = .named n) (sort : n.sort = .enum) :
    v.isA .enumValue = true ∧ ∃ name, v.storedText? = some name ∧
      name ∈ (s.enumValues n).map Prod.fst := by
  cases h with
  | null literal =>
    rw [constant.noNull] at literal
    cases literal
  | container wanted =>
    rw [Ty.sort_of_container? wanted core] at sort
    cases sort
  | enum core' _ literal stored known =>
    cases core.symm.trans core'
    exact ⟨literal, _, stored, known⟩
  | scalar core' sort' =>
    cases core.symm.trans core'
    rw [sort] at sort'
    cases sort'

/-- A constant fits a scalar type only if the scalar accepts it. -/
theorem Spot.Fits.isAccepted (h : (Spot.literal v t).Fits s) (constant : v.IsConstant) {n : NamedType}
    (core : t.core = .named n) (sort : n.sort = .scalar) :
    ∃ r w, (s.coerceLiteral (.type (.named n)) v).result = .ok r ∧ outcomeOf r = .accepted w := by
  cases h with
  | null literal =>
    rw [constant.noNull] at literal
    cases literal
  | container wanted =>
    rw [Ty.sort_of_container? wanted core] at sort
    cases sort
  | enum core' sort' =>
    cases core.symm.trans core'
    rw [sort] at sort'
    cases sort'
  | scalar core' _ _ coerced accepted =>
    cases core.symm.trans core'
    exact ⟨_, _, coerced, accepted⟩

/-- No position both fits and fails. -/
theorem Spot.Fails.not_fits {spot : Spot} {invalid : InvalidLiteral} (h : spot.Fails s invalid) :
    ¬ spot.Fits s := by
  intro fits
  cases h with
  | variableUse literal =>
    rcases fits.cases_literal with ⟨null, _⟩ | constant
    · cases Value.isA_unique literal null
    · rw [constant.noVariable] at literal
      cases literal
  | null literal required =>
    rcases fits.cases_literal with ⟨_, nullable⟩ | constant
    · rw [nullable] at required
      cases required
    · rw [constant.noNull] at literal
      cases literal
  | container constant wanted literal =>
    rw [fits.isA constant wanted] at literal
    cases literal
  | noEnum constant core sort literal =>
    rw [(fits.isValue constant core sort).1] at literal
    cases literal
  | enumValue core sort literal stored unknown =>
    have constant : Value.IsConstant _ :=
      ⟨Value.isA_ne literal (by decide), Value.isA_ne literal (by decide)⟩
    obtain ⟨_, _, stored', known⟩ := fits.isValue constant core sort
    cases stored.symm.trans stored'
    exact unknown known
  | scalar core sort constant coerced rejected =>
    obtain ⟨_, _, coerced', accepted⟩ := fits.isAccepted constant core sort
    cases coerced.symm.trans coerced'
    cases rejected.symm.trans accepted
  | entry unknown =>
    cases fits with
    | entry known => exact unknown known
  | absent required =>
    cases fits with
    | absent optional =>
      rw [required] at optional
      cases optional

end Local

/-! ### What conforms fits at every position -/

section Fitting

variable {s : Schema} {v : Value} {t : Ty}

/-- The object that stands at a position, and its fields, are determined. -/
theorem Opens.unique {owner other : NamedType} {declared fields : List (String × InputField)}
    (h : Opens s v t owner declared) (g : Opens s v t other fields) : owner = other ∧ declared = fields := by
  obtain rfl : owner = other := Ty.named.inj (h.core.symm.trans g.core)
  exact ⟨rfl, Except.ok.inj (h.fields.symm.trans g.fields)⟩

theorem Opens.isConstant {owner : NamedType} {declared : List (String × InputField)}
    (h : Opens s v t owner declared) : v.IsConstant :=
  ⟨Value.isA_ne h.literal (by decide), Value.isA_ne h.literal (by decide)⟩

theorem Opens.fits {owner : NamedType} {declared : List (String × InputField)}
    (h : Opens s v t owner declared) : (Spot.literal v t).Fits s := by
  refine .container ?_ h.literal
  rw [h.core, Ty.container?, if_pos h.sort]

/-- Whether an object is in order at a declared field: the last entry of its name conforms, or it has
none and needs none. -/
structure FitsField (s : Schema) (v : Value) (f : String × InputField) : Prop where
  given : ∀ w, v.lastEntry? f.1 = some w → Conforms s w f.2.type
  absent : v.lastEntry? f.1 = none → f.2.type.isNonNull = false ∨ f.2.default.isUndefined = false

theorem FitsField.optional {f : String × InputField} (h : FitsField s v f)
    (none : v.lastEntry? f.1 = none) : f.2.isRequired = false := by
  rcases h.absent none with nullable | default
  · rw [InputFieldOf.isRequired, nullable, Bool.false_and]
  · rw [InputFieldOf.isRequired, default, Bool.and_false]

/-- An object that conforms has declared names only, and is in order at every field. -/
theorem Opens.conforms {owner : NamedType} {declared : List (String × InputField)}
    (h : Opens s v t owner declared) (conforms : Conforms s v t) :
    (∀ e ∈ v.entries, e.1 ∈ declared.map Prod.fst) ∧ ∀ f ∈ declared, FitsField s v f := by
  have noNull := h.isConstant.noNull
  rw [conforms_core_iff noNull, h.core, conforms_object_iff noNull h.sort] at conforms
  obtain ⟨_, fields, resolved, known, each⟩ := conforms
  obtain rfl : declared = fields := Except.ok.inj (h.fields.symm.trans resolved)
  exact ⟨known, fun f hf => ⟨(each f hf).1, (each f hf).2⟩⟩

/-- The items of a list that conforms do. -/
theorem Conforms.item {item : Ty} {i : Nat} (h : Conforms s v t) (core : t.core = .list item i)
    (literal : v.isA .listValue = true) : ∀ x ∈ v.literalItems, Conforms s x item := by
  have noNull : v.isA .nullValue = false := Value.isA_ne literal (by decide)
  rw [conforms_core_iff noNull, core, conforms_list_iff noNull] at h
  exact h.2

/-- A literal that conforms fits where it stands. -/
theorem Conforms.fits (h : Conforms s v t) : (Spot.literal v t).Fits s := by
  induction h with
  | null literal nullable => exact .null literal nullable
  | nonNull literal _ ih =>
    cases ih with
    | null other =>
      rw [literal] at other
      cases other
    | container wanted kind => exact .container wanted kind
    | enum core sort kind stored known => exact .enum core sort kind stored known
    | scalar core sort constant coerced accepted => exact .scalar core sort constant coerced accepted
  | list literal => exact .container rfl literal
  | object sort literal => exact .container (if_pos sort) literal
  | enum sort literal stored known => exact .enum rfl sort literal stored known
  | @scalar v _ _ _ sort literal coerced accepted =>
    cases null : v.isA .nullValue with
    | true => exact .null null rfl
    | false => exact .scalar rfl sort ⟨literal, null⟩ coerced accepted

/-- Where a literal conforms to a type, every position below them fits. -/
theorem Conforms.fits_below {p : List Descent} {spot : Spot} (h : Conforms s v t)
    (reached : Reaches s v t p spot) : spot.Fits s := by
  induction reached with
  | here => exact h.fits
  | item core literal nth _ ih => exact ih (h.item core literal _ (List.mem_of_getElem? nth))
  | entry opens nth => exact .entry ((opens.conforms h).1 _ (List.mem_of_getElem? nth))
  | absent opens nth none =>
    exact .absent (((opens.conforms h).2 _ (List.mem_of_getElem? nth)).optional none)
  | field opens nth given _ ih =>
    exact ih (((opens.conforms h).2 _ (List.mem_of_getElem? nth)).given _ given)

end Fitting

end QueryDefaults
