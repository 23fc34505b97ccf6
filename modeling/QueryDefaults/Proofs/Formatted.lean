import QueryDefaults.Proofs.Limited

/-!
The records of a response. A result of a validation is formatted as a mapping with the single key `errors`,
and every record in it is told by the variable it is about (`Recorded`): the message, the place of the default
if it has one, the display name of the operation that declares the variable, and the details of the
diagnostic. A survey goes through the variables in order and carries the path of the operation along, so the
records follow the declarations of the document; the pairing of both is the induction that carries this
(`variablesOf_standFor`, `records_of_standFor`).
-/

namespace QueryDefaults

/-! ### Records -/

/-- The entry of a record with the place of a literal, if the literal has one. -/
def Value.placeEntry (v : Value) : List (String × Value) :=
  match v.attr "loc" with
  | .ok (.record .location [line, column] _) => [("locations", .list [.mapping (placeEntries line column)])]
  | _ => []

/-- A record with a message only. -/
def messageRecord (message : Value) : Value := .ofEntries [("message", message)]

/-- A record about a default. -/
def recordOf (message v path : Value) (details : List (String × Value)) : Value :=
  .ofEntries (("message", message) :: v.placeEntry ++ [("path", path), ("extensions", .ofEntries details)])

/-- The variables of operations, each with the operation that declares it. -/
def declarationsOf (os : List Signature) : List (Signature × Declaration) :=
  os.flatMap fun o => o.declared.map (o, ·)

/-- What is told about a default `v` of a variable that is at fault: a message and details. A scalar's own
message is kept as it is, unless it is missing or empty. -/
inductive Told (s : Schema) (types : List NamedType) (d : Declaration) (v : Value) :
    Value → List (String × Value) → Prop where
  | nonNull (nonNull : d.type.isNonNull = true) : Told s types d v
      (.str (sentence ["Non-null variable $", d.name, " can't have a default value"]))
      [("code", .word ErrorCode.invalidOnNonNullVariable.text), ("variableName", .str d.name d.nameId)]
  | custom {t : Ty} {invalid : InvalidLiteral} (nullable : d.type.isNonNull = false)
      (stands : d.type.type? types = some t) (found : (s.check v t).result = .ok (some invalid))
      (said : invalid.message.truthy = true) : Told s types d v invalid.message
      [("code", .word ErrorCode.invalidType.text), ("variableName", .str d.name d.nameId),
        ("typeName", .str d.type.text d.typeId)]
  | plain {t : Ty} {invalid : InvalidLiteral} (nullable : d.type.isNonNull = false)
      (stands : d.type.type? types = some t) (found : (s.check v t).result = .ok (some invalid))
      (silent : invalid.message.truthy = false) : Told s types d v
      (.str (sentence ["Default value for $", d.name, " doesn't match type ", d.type.text]))
      [("code", .word ErrorCode.invalidType.text), ("variableName", .str d.name d.nameId),
        ("typeName", .str d.type.text d.typeId)]

/-- Whether a record is the one of a variable: its message is not empty, its place is that of the default, and
its path is the display name of the operation. -/
inductive Recorded (s : Schema) (types : List NamedType) : Signature × Declaration → Value → Prop where
  | mk {o : Signature} {d : Declaration} {v message : Value} {details : List (String × Value)} {i j : Nat}
      (default : d.default = some v) (told : Told s types d v message details)
      (nonempty : message.truthy = true) :
      Recorded s types (o, d) (recordOf message v (.list [.str o.display i] j) details)

/-! ### Formatting errors -/

/-- The characters of a text that is put together are those of its parts. -/
theorem sentence_toList (parts : List String) : (sentence parts).toList = parts.flatMap String.toList := by
  rw [sentence, String.toList_intercalate, List.flatMap_def]
  induction parts with
  | nil => rfl
  | cons part parts ih =>
    cases parts with
    | nil => simp
    | cons next parts =>
      rw [List.map_cons, List.map_cons, List.intercalate_cons_cons, ← List.map_cons, ih,
        String.toList_empty, List.append_nil, ← List.flatten_cons]

/-- A text is not empty if one of its parts is not. -/
theorem truthy_sentence {part : String} {parts : List String} (mem : part ∈ parts) (nonempty : part ≠ "")
    (i : Nat) : (Value.str (sentence parts) i).truthy = true := by
  rw [Value.truthy, Bool.not_eq_true', Bool.eq_false_iff, Ne, String.isEmpty_iff, ← String.toList_inj,
    sentence_toList, String.toList_empty, List.flatMap_eq_nil_iff]
  exact fun empty => nonempty (String.toList_eq_nil_iff.1 (empty part mem))

theorem formattedAll_ok {xs ys : List Value} (h : List.Forall₂ (fun x y => x.formatted = .ok y) xs ys) :
    formattedAll xs = .ok ys := by
  induction h with
  | nil => rfl
  | cons first _ ih =>
    rw [formattedAll, first, ih]
    rfl

/-- An error with a message only. -/
theorem ofMessage_formatted {message : Value} (said : message.truthy = true) :
    (Value.error (GraphQLError.ofMessage message)).formatted = .ok (messageRecord message) := by
  rw [Value.formatted, GraphQLError.ofMessage, errorEntries, said]
  rfl

/-- An error about a default is formatted with its parts as they are, and a place if the default has one. -/
theorem errorAt_formatted {n : Node} {k : Kind} (made : n.IsMade k) (x : Variable) {p : Value} {j : Nat}
    (path : x.path = .list [p] j) {message : Value} (said : message.truthy = true) (d : String × Value)
    (ds : List (String × Value)) :
    (Value.error (x.errorAt (.node n) message (d :: ds))).formatted =
      .ok (recordOf message (.node n) x.path (d :: ds)) := by
  have attr : ∀ {v : Value}, n.attrs.lookup "loc" = some v → (Value.node n).attr "loc" = .ok v :=
    fun h => NodeOf.attr_of_lookup h
  rw [Value.formatted, Variable.errorAt, errorEntries, said, recordOf, Value.placeEntry, Value.places, path]
  rcases made.placed with h | ⟨line, column, id, h⟩
  · rw [attr h]
    rfl
  · rw [attr h]
    rfl

/-! ### The record of a variable -/

section Variables

variable {s : Schema} {types : List NamedType}

/-- The only error that ends a validation at a variable says that its type is not registered. -/
theorem Variable.finding_undefined {x : Variable} {e : GraphQLError}
    (h : x.finding s types = .undefined e) : e = x.undefinedError := by
  rw [finding] at h
  split at h
  · cases h
    rfl
  · cases h
  · split at h
    · cases h
    · split at h <;> cases h

/-- A diagnostic tells about the default of its variable. -/
theorem Variable.diagnosis?_told {x : Variable} {e : GraphQLError} (h : x.diagnosis? s types = some e) :
    ∃ v message d ds, x.default = some v ∧ e = x.errorAt v message (d :: ds) ∧
      Told s types x.toDeclaration v message (d :: ds) ∧ message.truthy = true := by
  have found : x.finding s types = .faulty e := by
    rw [diagnosis?] at h
    split at h
    · next found => rw [found, Option.some.inj h]
    · cases h
  rw [finding] at found
  cases stands : x.type.type? types with
  | none =>
    rw [stands] at found
    cases found
  | some t =>
    cases default : x.default with
    | none =>
      rw [stands, default] at found
      cases found
    | some v =>
      rw [stands, default] at found
      simp only at found
      split at found
      · next nonNull =>
        cases found
        exact ⟨v, _, _, _, rfl, rfl, .nonNull nonNull, truthy_sentence (List.mem_cons_self ..) (by decide) _⟩
      · next nullable =>
        have nullable : x.type.isNonNull = false := Bool.eq_false_iff.2 nullable
        split at found
        · cases found
        · next invalid failed =>
          cases found
          rw [invalidError]
          cases said : invalid.message.truthy with
          | true => exact ⟨v, _, _, _, rfl, rfl, .custom nullable stands failed said, said⟩
          | false =>
            exact ⟨v, _, _, _, rfl, rfl, .plain nullable stands failed said,
              truthy_sentence (List.mem_cons_self ..) (by decide) _⟩
        · cases found

/-- The diagnostic of a variable is formatted as the record of the variable, with the operation that its path
displays. -/
theorem Variable.diagnosis?_recorded {x : Variable} {e : GraphQLError} (h : x.diagnosis? s types = some e)
    (literal : ∀ v, x.default = some v → v.IsLiteral) {o : Signature} {i j : Nat}
    (path : x.path = .list [.str o.display i] j) :
    ∃ record, (Value.error e).formatted = .ok record ∧ Recorded s types (o, x.toDeclaration) record := by
  obtain ⟨v, message, d, ds, default, rfl, told, nonempty⟩ := x.diagnosis?_told h
  obtain ⟨n, k, rfl, made⟩ := (literal v default).made
  refine ⟨_, errorAt_formatted made x path nonempty d ds, ?_⟩
  rw [path]
  exact .mk default told nonempty

/-! ### The records of a document -/

/-- The variables of a document in a row with their declarations: each has the path of its operation. -/
def StandsFor (x : Variable) (declaration : Signature × Declaration) : Prop :=
  x.toDeclaration = declaration.2 ∧ ∃ i j, x.path = .list [.str declaration.1.display i] j

theorem variablesOf_standFor (next : Nat) :
    ∀ os : List Signature, List.Forall₂ StandsFor (variablesOf next os) (declarationsOf os)
  | [] => .nil
  | o :: os => by
    rw [variablesOf, declarationsOf, List.flatMap_cons]
    refine List.rel_append ?_ (variablesOf_standFor _ os)
    rw [List.forall₂_map_left_iff, List.forall₂_map_right_iff, List.forall₂_same]
    exact fun d _ => ⟨rfl, o.path_eq next⟩

/-- The diagnostics of variables are formatted as the records of some of them, in the same order. The
induction goes through the variables and their declarations side by side. -/
theorem records_of_standFor {xs : List Variable} {declarations : List (Signature × Declaration)}
    (standFor : List.Forall₂ StandsFor xs declarations)
    (literal : ∀ x ∈ xs, ∀ v, x.default = some v → v.IsLiteral) :
    ∃ ds records, ds.Sublist declarations ∧ List.Forall₂ (Recorded s types) ds records ∧
      List.Forall₂ (fun e record => e.formatted = .ok record) (diagnoses s types xs) records := by
  induction standFor with
  | nil => exact ⟨[], [], .slnil, .nil, .nil⟩
  | @cons x declaration xs declarations first _ ih =>
    obtain ⟨ds, records, sub, recorded, formatted⟩ := ih fun y hy => literal y (List.mem_cons_of_mem _ hy)
    cases diagnosis : x.diagnosis? s types with
    | none =>
      refine ⟨ds, records, sub.cons _, recorded, ?_⟩
      rw [diagnoses, List.filterMap_cons, diagnosis]
      exact formatted
    | some e =>
      obtain ⟨o, d⟩ := declaration
      obtain ⟨rfl, i, j, path⟩ := first
      obtain ⟨record, told, recorded'⟩ :=
        x.diagnosis?_recorded diagnosis (literal x (List.mem_cons_self ..)) path
      refine ⟨_ :: ds, record :: records, sub.cons_cons _, .cons recorded' recorded, ?_⟩
      rw [diagnoses, List.filterMap_cons, diagnosis]
      exact .cons told formatted

end Variables

/-! ### Results -/

section Results

variable {s : Schema} {types : List NamedType} {mapId id : Nat} {document : Value} {os : List Signature}

/-- What a validation meets are the first diagnostics of the document. -/
theorem met_eq_take (s : Schema) (types : List NamedType) (os : List Signature) :
    ∃ k, met s types os = (diagnoses s types (variablesOf s.next os)).take k :=
  ⟨_, List.prefix_iff_eq_take.1 ((List.takeWhile_prefix _).filterMap _)⟩

/-- A validation comes to a result only with a limit that is none or a number. -/
theorem errorLimit_of_validate {limit result : Value} (doc : document.IsDocument os)
    (h : (s.validate (.registry types mapId id) document limit).result = .ok result) :
    limit = .null ∨ ∃ m i, limit = .int m i := by
  cases doc with
  | mk kind =>
    obtain ⟨c, context, _⟩ := Traced.bind_result_ok h
    rw [Traced.result_liftM, validationContext, if_neg (by rw [kind.isA]; decide)] at context
    cases limit with
    | null => exact .inl rfl
    | int m i => exact .inr ⟨m, i, rfl⟩
    | _ => cases context

/-- A result of a validation without a limit is the fatal error of a variable whose type is not registered, or
what the validation has met. -/
theorem Schema.validate_unlimited_cases (doc : document.IsDocument os) {result : Value}
    (h : (s.validate (.registry types mapId id) document .null).result = .ok result) :
    (∃ x ∈ variablesOf s.next os, result = resultOf [] (.error x.undefinedError)) ∨
      result = resultOf (met s types os) .null := by
  rw [validate_unlimited doc, ← met] at h
  cases first : (variablesOf s.next os).find? (·.ends s types) with
  | none =>
    rw [first] at h
    exact .inr (Except.ok.inj h).symm
  | some x =>
    rw [first, final] at h
    rcases Variable.ends_cases (List.find?_some first) with ⟨e, found⟩ | ⟨f, found⟩
    · obtain rfl := Variable.finding_undefined found
      rw [found] at h
      exact .inl ⟨x, List.mem_of_find?_eq_some first, (Except.ok.inj h).symm⟩
    · rw [found] at h
      cases f with
      | limitReached => exact .inr (Except.ok.inj h).symm
      | _ => cases h

/-- A result of a validation is the fatal error of a variable whose type is not registered, or the first
diagnostics of the document, with a notice behind them or without. -/
theorem Schema.validate_cases (doc : document.IsDocument os) {limit result : Value}
    (h : (s.validate (.registry types mapId id) document limit).result = .ok result) :
    (∃ x ∈ variablesOf s.next os, result = resultOf [] (.error x.undefinedError)) ∨
      ∃ k notice, (notice = [] ∨ notice = [.error tooManyErrors]) ∧
        result = resultOf ((diagnoses s types (variablesOf s.next os)).take k ++ notice) .null := by
  obtain ⟨k, all⟩ := met_eq_take s types os
  have unlimited : ∀ {result}, (s.validate (.registry types mapId id) document .null).result = .ok result →
      (∃ x ∈ variablesOf s.next os, result = resultOf [] (.error x.undefinedError)) ∨
        ∃ k notice, (notice = [] ∨ notice = [.error tooManyErrors]) ∧
          result = resultOf ((diagnoses s types (variablesOf s.next os)).take k ++ notice) .null := by
    intro result h
    refine (validate_unlimited_cases doc h).imp_right fun same => ⟨k, [], .inl rfl, ?_⟩
    rw [same, all, List.append_nil]
  rcases errorLimit_of_validate doc h with rfl | ⟨m, i, rfl⟩
  · exact unlimited h
  · rcases Nat.lt_or_ge m.toNat (met s types os).length with more | fits
    · rw [validate_beyond doc more, all, List.take_take] at h
      exact .inr ⟨_, _, .inr rfl, (Except.ok.inj h).symm⟩
    · rw [validate_within doc fits] at h
      exact unlimited h

/-- A result is formatted as the record of its fatal error, or else as those of its errors. -/
theorem resultOf_formatted {errors records : List Value}
    (formatted : List.Forall₂ (fun e record => e.formatted = .ok record) errors records) :
    (resultOf errors .null).formatted = .ok (.ofEntries [("errors", .list records)]) := by
  rw [resultOf, Value.formatted, formattedRecord]
  simp only [Value.truthy, Bool.false_eq_true, if_false]
  rw [formattedItems, formattedAll_ok formatted]
  rfl

theorem resultOf_error_formatted {e : GraphQLError} {record : Value}
    (formatted : (Value.error e).formatted = .ok record) (errors : List Value) :
    (resultOf errors (.error e)).formatted = .ok (.ofEntries [("errors", .list [record])]) := by
  have fatal : (Value.error e).truthy = true := rfl
  rw [resultOf, Value.formatted, formattedRecord, if_pos fatal, formatted]
  rfl

/-- Every result of a validation is formatted with the key `errors` alone. If it is fatal, there is one record
with a message only. Otherwise there is one record for each error, in order: those of variables of the
document, in the order in which they are declared, and behind them perhaps a notice with a message only. -/
theorem Schema.validate_formatted (doc : document.IsDocument os) {limit result : Value}
    (validated : (s.validate (.registry types mapId id) document limit).result = .ok result) :
    ∃ errors fatal records, result = resultOf errors fatal ∧
      result.formatted = .ok (.ofEntries [("errors", .list records)]) ∧
      ((fatal ≠ .null ∧ ∃ o ∈ os, ∃ d ∈ o.declared, records =
          [messageRecord (.str (sentence [d.type.name, " isn't a defined input type (on $", d.name, ")"]))]) ∨
        fatal = .null ∧ List.Forall₂ (fun e record => e.formatted = .ok record) errors records ∧
          ∃ ds told, ds.Sublist (declarationsOf os) ∧ List.Forall₂ (Recorded s types) ds told ∧
            (records = told ∨ records = told ++ [messageRecord
              (.word "Too many validation errors, error limit reached. Validation aborted.")])) := by
  have standFor := variablesOf_standFor s.next os
  rcases validate_cases doc validated with ⟨x, hx, rfl⟩ | ⟨k, notice, noticed, rfl⟩
  · have said : Value.truthy (.str
        (sentence [x.type.name, " isn't a defined input type (on $", x.name, ")"])) = true :=
      truthy_sentence (List.mem_cons_of_mem _ (List.mem_cons_self ..)) (by decide) _
    have formatted := ofMessage_formatted said
    have declared : x.toDeclaration ∈ os.flatMap (·.declared) :=
      variablesOf_map s.next os ▸ List.mem_map_of_mem hx
    obtain ⟨o, ho, hd⟩ := List.mem_flatMap.1 declared
    exact ⟨[], _, _, rfl, resultOf_error_formatted formatted [], .inl ⟨nofun, o, ho, _, hd, rfl⟩⟩
  · obtain ⟨ds, records, sub, recorded, formatted⟩ :=
      @records_of_standFor s types _ _ standFor fun x hx v => doc.literal hx
    have kept := List.forall₂_take k formatted
    have told := List.forall₂_take k recorded
    have within := (List.take_sublist k ds).trans sub
    rcases noticed with rfl | rfl
    · rw [List.append_nil]
      exact ⟨_, _, _, rfl, resultOf_formatted kept, .inr ⟨rfl, kept, _, _, within, told, .inl rfl⟩⟩
    · have abort := @ofMessage_formatted tooManyErrors.message rfl
      have all := List.rel_append kept (.cons abort .nil)
      exact ⟨_, _, _, rfl, resultOf_formatted all, .inr ⟨rfl, all, _, _, within, told, .inr rfl⟩⟩

end Results

/-- A query with a variable that must not have the default that it has. -/
def labelOperations : List Signature := [⟨.query, some "Label", [
  { name := "label", type := .nonNull (.named "String"), default := some (.textNode .stringValue "a") }]⟩]

theorem labelOperations_isDocument : (documentNode labelOperations).IsDocument labelOperations :=
  documentNode_isDocument (List.forall_mem_singleton.2 (List.forall_mem_singleton.2
    ⟨rfl, rfl, rfl, fun v h => by cases h; exact Value.textNode_isLiteral (by decide) "a"⟩))

/-- The validation of the query is formatted with a single record, that of the variable. -/
theorem labelOperations_formatted :
    ∃ result record,
      (treeSchema.validate (.registry treeTypes) (documentNode labelOperations) .null).result =
        .ok result ∧ result.formatted = .ok (.ofEntries [("errors", .list [record])]) := by
  obtain ⟨e, validated⟩ : ∃ e : GraphQLError, (treeSchema.validate (.registry treeTypes)
      (documentNode labelOperations) .null).result = .ok (resultOf [.error e] .null) := by
    rw [Schema.validate_unlimited labelOperations_isDocument]
    exact ⟨_, rfl⟩
  obtain ⟨errors, fatal, records, same, formatted, ⟨failed, _⟩ | ⟨_, each, _⟩⟩ :=
    Schema.validate_formatted labelOperations_isDocument validated
  · cases same
    exact absurd rfl failed
  · cases same
    cases each with
    | @cons _ record _ _ first rest =>
      cases rest
      exact ⟨_, record, validated, formatted⟩

end QueryDefaults
