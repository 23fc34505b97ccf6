import QueryDefaults.Node.Build
import QueryDefaults.Proofs.Native

/-!
Data that is spelled as a literal and read again. Null, booleans, integers, texts, lists and mappings from
texts all have a literal (`Value.spelled`), and the native value of this literal is the data again
(`Value.spelled_native`): decimal digits are read as the integer that they were written for, items and
entries stay in their order, and booleans stay apart from integers because they have nodes of their own. It
is made of new objects, so only the numbers of integers, lists and mappings are others (`Value.anew`), which
no comparison sees (`Value.IsData.equals_anew`).
-/

namespace QueryDefaults

/-! ### Data and its literals -/

/-- A place as it is given to a new node: a line and a column, or null if there is none. -/
def placeGiven : Option (Int × Int) → Value
  | none => .null
  | some (line, column) => .tuple [.int line, .int column]

/-- A new node of a kind. -/
def Value.built (kind : Kind) (given : List (String × Value)) : Except Fault Value := do
  let n ← NodeOf.build kind given
  return .node n

mutual

/-- The literal that spells a value at a place; its parts have no places. Nodes stand for themselves. -/
def Value.spelled : Value → Option (Int × Int) → Except Fault Value
  | .null, place => built .nullValue [("loc", placeGiven place)]
  | .bool b, place => built .booleanValue [("value", .bool b), ("loc", placeGiven place)]
  | .int n _, place => do
    let text ← integerText n
    built .intValue [("value", .str text), ("loc", placeGiven place)]
  | .float x i, place => do
    let text ← (Value.float x i).display
    built .floatValue [("value", .str text), ("loc", placeGiven place)]
  | .str s i, place => built .stringValue [("value", .str s i), ("loc", placeGiven place)]
  | .list xs _, place => do
    let items ← spelledAll xs
    built .listValue [("values", .list items), ("loc", placeGiven place)]
  | .mapping es _, place => do
    let fields ← spelledEntries es
    built .objectValue [("fields", .list fields), ("loc", placeGiven place)]
  | .node n, _ => return .node n
  | _, _ => throw .operand
termination_by structural v => v

/-- The literals that spell values in a row. -/
def Value.spelledAll : List Value → Except Fault (List Value)
  | [] => return []
  | x :: xs => do
    let item ← x.spelled none
    let items ← spelledAll xs
    return item :: items
termination_by structural xs => xs

/-- The entries that spell those of a mapping. -/
def Value.spelledEntries : List Entry → Except Fault (List Value)
  | [] => return []
  | ⟨_, k, v⟩ :: es => do
    let name ← built .name [("value", k)]
    let value ← v.spelled none
    let field ← built .objectField [("name", name), ("value", value)]
    let fields ← spelledEntries es
    return field :: fields
termination_by structural es => es

end

mutual

/-- A value made of new integers, lists and mappings. -/
def Value.anew : Value → Value
  | .int n _ => .int n
  | .list xs _ => .list (anewAll xs)
  | .mapping es _ => .mapping (anewEntries es)
  | v => v
termination_by structural v => v

/-- Values in a row made anew. -/
def Value.anewAll : List Value → List Value
  | [] => []
  | x :: xs => x.anew :: anewAll xs
termination_by structural xs => xs

/-- Entries with their values made anew. -/
def Value.anewEntries : List Entry → List Entry
  | [] => []
  | ⟨digest, k, v⟩ :: es => ⟨digest, k, v.anew⟩ :: anewEntries es
termination_by structural es => es

end

/-- Native data: null, booleans, integers that do not have too many digits, texts, lists, and mappings from
texts with one entry for each of their keys. -/
inductive Value.IsData : Value → Prop where
  | null : IsData .null
  | bool (b : Bool) : IsData (.bool b)
  | int {n : Int} (i : Nat) (few : (Nat.toDigits 10 n.natAbs).length ≤ Numeral.digitLimit) : IsData (.int n i)
  | text (s : String) (i : Nat) : IsData (.str s i)
  | list {xs : List Value} (i : Nat) (each : ∀ x ∈ xs, IsData x) : IsData (.list xs i)
  | mapping {es : List Entry} (i : Nat) (named : ∀ e ∈ es, ∃ name, e.IsNamed name)
      (distinct : es.Pairwise fun e f => ∀ name, e.IsNamed name → ¬ f.IsNamed name)
      (each : ∀ e ∈ es, IsData e.value) : IsData (.mapping es i)

/-! ### Integers -/

open Numeral

/-- The digits of a number begin with a zero only if it is zero. -/
theorem toDigits_canonical (n : Nat) (zero : (Nat.toDigits 10 n).head? = some '0') :
    Nat.toDigits 10 n = ['0'] := by
  induction n using Nat.strongRecOn with
  | ind n ih =>
    rw [Nat.toDigits_eq_if (by decide)] at zero ⊢
    split at zero
    · next small =>
      rw [if_pos small]
      exact congrArg (fun c => [c]) (Option.some.inj zero)
    · next large =>
      have first : (Nat.toDigits 10 (n / 10)).head? = some '0' := by
        rwa [List.head?_append_of_ne_nil _ Nat.toDigits_ne_nil] at zero
      have none := Nat.ofDigitChars_toDigits (b := 10) (n := n / 10) (by decide) (by decide)
      rw [ih (n / 10) (by omega) first] at none
      have empty : Nat.ofDigitChars 10 ['0'] 0 = 0 := rfl
      omega

/-- An integer is written as a numeral, of its sign and the digits of its size. -/
theorem toString_isNumeral (n : Int) :
    IsNumeral (toString n) (decide (n < 0)) (Nat.toDigits 10 n.natAbs) where
  text := by
    cases n with
    | ofNat k =>
      show (toString k).toList = _
      rw [Nat.toString_eq_ofList_toDigits, String.toList_ofList]
      rfl
    | negSucc k =>
      show ("-" ++ toString (k + 1)).toList = _
      simp [Int.negSucc_lt_zero]
  digits := ⟨Nat.toDigits_ne_nil, fun _ hc => Nat.isDigit_of_mem_toDigits (by decide) (by decide) hc⟩
  canonical := toDigits_canonical n.natAbs

theorem signed_natAbs (n : Int) :
    signed (decide (n < 0)) (Numeral.natural (Nat.toDigits 10 n.natAbs)) = n := by
  rw [Numeral.natural_eq, Nat.ofDigitChars_toDigits (by decide) (by decide)]
  cases n with
  | ofNat k => rfl
  | negSucc k =>
    rw [decide_eq_true (Int.negSucc_lt_zero k)]
    rfl

/-- An integer that does not have too many digits is read again as it was written. -/
theorem integerText_asInt {n : Int} (few : (Nat.toDigits 10 n.natAbs).length ≤ digitLimit) :
    integerText n = .ok (toString n) ∧ ∀ i, (Value.str (toString n) i).asInt = .ok (.int n) := by
  refine ⟨?_, fun i => ?_⟩
  · have small := (Nat.length_toDigits_le_iff (b := 10) (by decide) (by decide)).1 few
    have writable : isUnwritable n = false := by
      rw [isUnwritable, Nat.pow_eq, decide_eq_false (Nat.not_le_of_lt small), Bool.and_false]
    rw [integerText, writable]
    rfl
  · rw [(toString_isNumeral n).asInt few, signed_natAbs]

/-! ### Data made anew -/

/-- Values in a row are equal to themselves made anew if each of them is. -/
theorem equalsAll_anewAll : ∀ {xs : List Value}, (∀ x ∈ xs, x.equals x.anew = .ok true) →
    xs.length = (Value.anewAll xs).length ∧ Value.equalsAll xs (Value.anewAll xs) = .ok true
  | [], _ => ⟨rfl, rfl⟩
  | x :: xs, each => by
    obtain ⟨first, rest⟩ := List.forall_mem_cons.1 each
    obtain ⟨length, all⟩ := equalsAll_anewAll rest
    refine ⟨congrArg (· + 1) length, ?_⟩
    have item := Value.isItem_of_equals first
    rw [Value.isItem] at item
    rw [Value.anewAll, Value.equalsAll, item]
    exact all

theorem Value.anewEntries_eq : ∀ es : List Entry,
    anewEntries es = es.map fun e => ⟨e.digest, e.key, e.value.anew⟩
  | [] => rfl
  | _ :: es => congrArg _ (anewEntries_eq es)

/-- Entries are equal to those of a mapping that has all of them with their values made anew, if their values
are equal to these. -/
theorem equalsEntries_anew {fs : List Entry} (named : ∀ f ∈ fs, ∃ k, f.IsNamed k)
    (distinct : fs.Pairwise fun f g => ∀ k, f.IsNamed k → ¬ g.IsNamed k) : ∀ {es : List Entry},
    (∀ e ∈ es, e.value.equals e.value.anew = .ok true) →
    (∀ e ∈ es, (⟨e.digest, e.key, e.value.anew⟩ : Entry) ∈ fs) → Value.equalsEntries es fs = .ok true
  | [], _, _ => rfl
  | ⟨digest, key, v⟩ :: es, each, there => by
    obtain ⟨first, rest⟩ := List.forall_mem_cons.1 each
    obtain ⟨here, later⟩ := List.forall_mem_cons.1 there
    obtain ⟨name, rfl, i, rfl⟩ := named _ here
    have item := Value.isItem_of_equals first
    rw [Value.isItem] at item
    rw [Value.equalsEntries, Value.firstEntry_named i ⟨rfl, i, rfl⟩ named distinct here, ok_bind]
    dsimp only
    rw [item]
    exact equalsEntries_anew named distinct rest later

/-- Data made anew is equal to the data. -/
theorem Value.IsData.equals_anew {x : Value} (data : x.IsData) : x.equals x.anew = .ok true := by
  induction data with
  | null => rfl
  | bool b => cases b <;> rfl
  | @int n i => exact congrArg Except.ok (beq_self_eq_true n)
  | text s i => exact congrArg Except.ok (beq_self_eq_true s)
  | @list xs i _ ih =>
    obtain ⟨length, all⟩ := equalsAll_anewAll ih
    rw [anew, equals]
    rw [if_pos length, all]
  | @mapping es i named distinct _ ih =>
    let renewed := es.map fun e : Entry => (⟨e.digest, e.key, e.value.anew⟩ : Entry)
    have names : ∀ f ∈ renewed, ∃ k, f.IsNamed k := List.forall_mem_map.2 named
    have apart : renewed.Pairwise fun f g => ∀ k, f.IsNamed k → ¬ g.IsNamed k :=
      List.pairwise_map.2 distinct
    rw [anew, equals, anewEntries_eq, if_pos (List.length_map ..).symm]
    exact equalsEntries_anew names apart ih fun e he => List.mem_map_of_mem he

/-! ### Data is read again -/

/-- The node of an entry, and what it puts into a mapping. -/
theorem built_entry (name : String) (i : Nat) (n : Node) : ∃ m f,
    Value.built .name [("value", .str name i)] = .ok m ∧
    Value.built .objectField [("name", m), ("value", .node n)] = .ok f ∧
    ∀ es, putNative es f =
      (Value.node n).native.result >>= fun w => putAt (.ofText name) (.str name i) w es :=
  ⟨_, _, rfl, rfl, fun _ => rfl⟩

/-- The literal of a value, with the value made anew as its native value. -/
def IsReadAgain (x : Value) (place : Option (Int × Int)) : Prop :=
  ∃ n, x.spelled place = .ok (.node n) ∧ (Value.node n).native.result = .ok x.anew

/-- Values in a row have literals with their native values in the same order. -/
theorem spelledAll_native : ∀ {xs : List Value}, (∀ x ∈ xs, IsReadAgain x none) →
    ∃ items, Value.spelledAll xs = .ok items ∧
      (items.mapM fun y => (Value.native y).result) = .ok (Value.anewAll xs)
  | [], _ => ⟨[], rfl, rfl⟩
  | x :: xs, each => by
    obtain ⟨⟨n, spelled, native⟩, rest⟩ := List.forall_mem_cons.1 each
    obtain ⟨items, all, natives⟩ := spelledAll_native rest
    refine ⟨.node n :: items, ?_, ?_⟩
    · rw [Value.spelledAll, spelled, ok_bind, all]
      rfl
    · rw [List.mapM_cons, native, ok_bind, natives]
      rfl

/-- Entries that are spelled come to the end of the mapping that there is so far, in their order, if none of
their keys is there. -/
theorem spelledEntries_native : ∀ {es : List Entry}, (∀ e ∈ es, ∃ name, e.IsNamed name) →
    (es.Pairwise fun e f => ∀ name, e.IsNamed name → ¬ f.IsNamed name) →
    (∀ e ∈ es, IsReadAgain e.value none) →
    ∃ fields, Value.spelledEntries es = .ok fields ∧
      ∀ acc : List Entry, (∀ a ∈ acc, ∃ k, a.IsNamed k ∧ ∀ e ∈ es, ¬ e.IsNamed k) →
        fields.foldlM putNative acc = .ok (acc ++ Value.anewEntries es)
  | [], _, _, _ => ⟨[], rfl, fun acc _ => congrArg Except.ok (List.append_nil acc).symm⟩
  | ⟨digest, key, v⟩ :: es, named, distinct, each => by
    obtain ⟨⟨name, rfl, i, rfl⟩, namedRest⟩ := List.forall_mem_cons.1 named
    obtain ⟨apart, distinctRest⟩ := List.pairwise_cons.1 distinct
    obtain ⟨⟨n, spelled, native⟩, eachRest⟩ := List.forall_mem_cons.1 each
    obtain ⟨fields, all, put⟩ := spelledEntries_native namedRest distinctRest eachRest
    obtain ⟨m, f, label, field, entry⟩ := built_entry name i n
    refine ⟨f :: fields, ?_, fun acc fresh => ?_⟩
    · rw [Value.spelledEntries, label, ok_bind, spelled, ok_bind, field, ok_bind, all]
      rfl
    · have new : ∀ a ∈ acc, ∃ k, a.IsNamed k ∧ k ≠ name := by
        intro a ha
        obtain ⟨k, here, other⟩ := fresh a ha
        refine ⟨k, here, ?_⟩
        rintro rfl
        exact other _ (List.mem_cons_self ..) ⟨rfl, i, rfl⟩
      have first : putNative acc f = .ok (acc ++ [⟨.ofText name, .str name i, v.anew⟩]) := by
        rw [entry, native, ok_bind]
        exact putAt_new name i _ new
      have later := put (acc ++ [⟨.ofText name, .str name i, v.anew⟩]) ?_
      · rw [List.foldlM_cons, first, ok_bind, later, List.append_assoc]
        rfl
      · intro a ha
        rcases List.mem_append.1 ha with ha | ha
        · obtain ⟨k, here, other⟩ := fresh a ha
          exact ⟨k, here, fun e he => other e (List.mem_cons_of_mem _ he)⟩
        · obtain rfl := List.mem_singleton.1 ha
          exact ⟨name, ⟨rfl, i, rfl⟩, fun e he => apart e he name ⟨rfl, i, rfl⟩⟩

/-- Data is read again from the literal that spells it: the native value of the literal is the data made anew,
with the items of lists and the entries of mappings in their order, and is equal to the data. -/
theorem Value.spelled_native {x : Value} (data : x.IsData) (place : Option (Int × Int)) :
    ∃ l, x.spelled place = .ok l ∧ l.native.result = .ok x.anew ∧ x.equals x.anew = .ok true := by
  suffices again : IsReadAgain x place by
    obtain ⟨n, spelled, native⟩ := again
    exact ⟨.node n, spelled, native, data.equals_anew⟩
  induction data generalizing place with
  | null => rcases place with _ | _ <;> exact ⟨_, rfl, native_null ⟨rfl, rfl, rfl⟩⟩
  | bool b => rcases place with _ | _ <;> exact ⟨_, rfl, native_stored (.inr rfl) ⟨rfl, rfl, rfl⟩ rfl⟩
  | text s i => rcases place with _ | _ <;> exact ⟨_, rfl, native_stored (.inl rfl) ⟨rfl, rfl, rfl⟩ rfl⟩
  | @int n i few =>
    obtain ⟨written, read⟩ := integerText_asInt few
    have number : orNaN (Value.str (toString n)).asInt = .ok (.int n) := by
      rw [read]
      rfl
    rw [IsReadAgain, spelled, written, ok_bind]
    rcases place with _ | _ <;> exact ⟨_, rfl, (native_int ⟨rfl, rfl, rfl⟩ rfl).trans number⟩
  | @list xs i _ ih =>
    obtain ⟨items, all, natives⟩ := spelledAll_native fun x hx => ih x hx none
    have read : (items.mapM fun y => (Value.native y).result).map (fun ws => Value.list ws) =
        .ok (.list (anewAll xs)) := by
      rw [natives]
      rfl
    rw [IsReadAgain, spelled, all, ok_bind]
    rcases place with _ | _ <;> exact ⟨_, rfl, (native_list ⟨rfl, rfl, rfl⟩ rfl).trans read⟩
  | @mapping es i named distinct _ ih =>
    obtain ⟨fields, all, put⟩ := spelledEntries_native named distinct fun e he => ih e he none
    have read : (fields.foldlM putNative []).map (fun fs => Value.mapping fs) =
        .ok (.mapping (anewEntries es)) := by
      rw [put [] (List.forall_mem_nil _)]
      rfl
    rw [IsReadAgain, spelled, all, ok_bind]
    rcases place with _ | _ <;> exact ⟨_, rfl, (native_object ⟨rfl, rfl, rfl⟩ rfl).trans read⟩

/-- A mapping from distinct texts to data is data. -/
theorem Value.ofEntries_isData {es : List (String × Value)} (distinct : (es.map Prod.fst).Nodup)
    (each : ∀ e ∈ es, e.2.IsData) : (ofEntries es).IsData := by
  have named : ∀ e : String × Value, (entryOf e.1 e.2).IsNamed e.1 := fun e => ⟨rfl, constant, rfl⟩
  refine .mapping 0 ?_ ?_ ?_
  · intro f hf
    obtain ⟨e, _, rfl⟩ := List.mem_map.1 hf
    exact ⟨e.1, named e⟩
  · rw [List.pairwise_map]
    refine (List.pairwise_map.1 distinct).imp fun {e f} ne name he hf => ne ?_
    exact ((named e).unique he).trans (hf.unique (named f))
  · intro f hf
    obtain ⟨e, he, rfl⟩ := List.mem_map.1 hf
    exact each e he

/-- A mapping whose keys are not in the order of the alphabet, with a boolean among integers. -/
def nestedData : Value := .ofEntries [
  ("b", .list [.int 1, .bool true, .int (-17), .list []]), ("", .ofEntries [("a", .null)]), ("a", .str "1")]

theorem nestedData_isData : nestedData.IsData := by
  have numbers : (Value.list [.int 1, .bool true, .int (-17), .list []]).IsData := by
    refine .list 0 ?_
    simp only [List.forall_mem_cons]
    exact ⟨.int 0 (by decide), .bool true, .int 0 (by decide), .list 0 (List.forall_mem_nil _),
      List.forall_mem_nil _⟩
  have inner : (Value.ofEntries [("a", .null)]).IsData :=
    Value.ofEntries_isData (by decide) (List.forall_mem_singleton.2 .null)
  refine Value.ofEntries_isData (by decide) ?_
  simp only [List.forall_mem_cons]
  exact ⟨numbers, inner, .text "1" 0, List.forall_mem_nil _⟩

/-- It is read again with all of its keys in their places. -/
theorem nestedData_native :
    ∃ l, nestedData.spelled (some (1, 5)) = .ok l ∧ l.native.result = .ok nestedData := by
  obtain ⟨l, spelled, native, _⟩ := Value.spelled_native nestedData_isData (some (1, 5))
  exact ⟨l, spelled, native⟩

end QueryDefaults
