import QueryDefaults.Proofs.Excerpts
import QueryDefaults.Proofs.Literal
import QueryDefaults.Value.Inspect

/-!
What diagnostics tell of data. Data is described down to the depth limit by a plain function
(`Value.description`), and describing gives nothing else (`Inspect.within_told`): a text, or the failure to write
an integer with too many digits. So data that differs only inside of containers at the limit is described alike
(`description_same`), and a text that is in no such container stands in the description as an excerpt of its
quoted form, with a rest around it that does not depend on the text (`description_put`, `description_fill`).
`Value.inspect_elides` puts this together.
-/

namespace QueryDefaults

/-! ### Descriptions of data -/

/-- Data that is built from null, booleans, numbers and texts with lists, tuples and mappings. -/
inductive Value.IsPlainData : Value → Prop where
  | null : IsPlainData .null
  | bool (b : Bool) : IsPlainData (.bool b)
  | int (n : Int) (i : Nat) : IsPlainData (.int n i)
  | float (x : Double) (i : Nat) : IsPlainData (.float x i)
  | str (s : String) (i : Nat) : IsPlainData (.str s i)
  | list {xs : List Value} (i : Nat) (each : ∀ x ∈ xs, IsPlainData x) : IsPlainData (.list xs i)
  | tuple {xs : List Value} (i : Nat) (each : ∀ x ∈ xs, IsPlainData x) : IsPlainData (.tuple xs i)
  | mapping {es : List Entry} (i : Nat) (keys : ∀ e ∈ es, IsPlainData e.key)
      (values : ∀ e ∈ es, IsPlainData e.value) : IsPlainData (.mapping es i)

namespace Value

/-- The description of data, where containers inside of `n` others are elided. -/
def description : Nat → Value → String
  | n + 1, list xs _ => bracketed (xs.map (description n))
  | n + 1, tuple xs _ => tupled (xs.map (description n))
  | n + 1, mapping es _ =>
    "\x7b" ++ commas (es.map fun e => description n e.key ++ ": " ++ description n e.value) ++ "\x7d"
  | 0, list xs i => Inspect.elided (list xs i)
  | 0, tuple xs i => Inspect.elided (tuple xs i)
  | 0, mapping es i => Inspect.elided (mapping es i)
  | _, int k _ => toString k
  | _, v => Inspect.flat v

/-- The object that a description is: that of a boolean is the same one every time. -/
def describedId : Value → Nat
  | bool _ => constant
  | _ => 0

/-- The description as an object. -/
def told (n : Nat) (v : Value) : Value := str (v.description n) v.describedId

/-- The integers that the description of data has to tell. -/
def toldIntegers : Nat → Value → List Int
  | _, int k _ => [k]
  | n + 1, list xs _ => xs.flatMap (toldIntegers n)
  | n + 1, tuple xs _ => xs.flatMap (toldIntegers n)
  | n + 1, mapping es _ => es.flatMap fun e => toldIntegers n e.key ++ toldIntegers n e.value
  | _, _ => []

end Value

/-- What is made with some integers, unless one of them has too many digits to be written. -/
def withIntegers {α : Type} (ks : List Int) (a : α) : Except Fault α :=
  if ks.any isUnwritable then .error .unreadable else .ok a

theorem withIntegers_bind {α β : Type} (ks ls : List Int) (a : α) (f : α → β) :
    (withIntegers ks a >>= fun x => withIntegers ls (f x)) = withIntegers (ks ++ ls) (f a) := by
  rw [withIntegers, withIntegers, List.any_append]
  cases ks.any isUnwritable <;> rfl

theorem withIntegers_then {α β : Type} (ks : List Int) {a : α} {b : β} {f : α → Except Fault β}
    (made : f a = .ok b) : (withIntegers ks a >>= f) = withIntegers ks b := by
  rw [withIntegers, withIntegers]
  cases ks.any isUnwritable
  · exact made
  · rfl

/-- What is made of several values one after the other is made with the integers of all of them. -/
theorem mapM_withIntegers {α β : Type} {f : α → Except Fault β} {ks : α → List Int} {g : α → β} :
    ∀ {xs : List α}, (∀ x ∈ xs, f x = withIntegers (ks x) (g x)) →
      xs.mapM f = withIntegers (xs.flatMap ks) (xs.map g)
  | [], _ => rfl
  | x :: xs, each => by
    obtain ⟨first, others⟩ := List.forall_mem_cons.1 each
    rw [List.mapM_cons, first, mapM_withIntegers others]
    have rest : ∀ y, (withIntegers (xs.flatMap ks) (xs.map g) >>= fun ys => .ok (y :: ys)) =
        withIntegers (xs.flatMap ks) (y :: xs.map g) := fun y => withIntegers_then _ rfl
    exact (congrArg _ (funext rest)).trans (withIntegers_bind _ _ _ fun y => y :: xs.map g)

theorem textsOf_told (n : Nat) (xs : List Value) :
    textsOf (xs.map (Value.told n)) = .ok (xs.map (Value.description n)) := by
  induction xs with
  | nil => rfl
  | cons x xs ih =>
    rw [List.map_cons, Value.told, textsOf, ih]
    rfl

namespace Inspect

variable (call : Value → Except Fault Value)

theorem all_eq_mapM (depth : Nat) (xs : List Value) : all call depth xs = xs.mapM (within call (depth + 1)) := by
  induction xs with
  | nil => rfl
  | cons x xs ih => rw [all, List.mapM_cons, ih]

/-- Items are told if each of them is. -/
theorem all_told {depth n : Nat} {xs : List Value}
    (each : ∀ x ∈ xs, within call (depth + 1) x = withIntegers (x.toldIntegers n) (x.told n)) :
    all call depth xs = withIntegers (xs.flatMap (Value.toldIntegers n)) (xs.map (Value.told n)) := by
  rw [all_eq_mapM]
  exact mapM_withIntegers each

/-- The description of an entry, where `f` describes its key and its value. -/
def entry (f : Value → Except Fault Value) (e : Entry) : Except Fault String := do
  let t ← f e.key
  let t ← t.display
  let u ← f e.value
  let u ← u.display
  return t ++ ": " ++ u

theorem entries_eq_mapM (depth : Nat) (es : List Entry) :
    entries call depth es = es.mapM (entry (within call (depth + 1))) := by
  induction es with
  | nil => rfl
  | cons e es ih =>
    rw [entries, List.mapM_cons, entry, ih]
    simp only [bind_assoc, pure_bind]

/-- An entry is told if its key and its value are. -/
theorem entry_told {f : Value → Except Fault Value} {n : Nat} {e : Entry}
    (key : f e.key = withIntegers (e.key.toldIntegers n) (e.key.told n))
    (value : f e.value = withIntegers (e.value.toldIntegers n) (e.value.told n)) :
    entry f e = withIntegers (e.key.toldIntegers n ++ e.value.toldIntegers n)
      (e.key.description n ++ ": " ++ e.value.description n) := by
  rw [entry, key, value, withIntegers, withIntegers, withIntegers, List.any_append]
  cases (e.key.toldIntegers n).any isUnwritable <;> cases (e.value.toldIntegers n).any isUnwritable <;> rfl

theorem tupled_told (n : Nat) : ∀ xs : List Value,
    tupled (xs.map (Value.told n)) = .ok (.str (Value.tupled (xs.map (Value.description n))))
  | [] => rfl
  | [_] => rfl
  | x :: y :: xs => by
    show (textsOf ((x :: y :: xs).map (Value.told n)) >>= _) = _
    rw [textsOf_told]
    rfl

theorem within_int (depth : Nat) (k : Int) (i : Nat) :
    within call depth (.int k i) = withIntegers [k] (.str (toString k)) := by
  show (integerText k >>= fun t => .ok (Value.str t)) = _
  rw [integerText, withIntegers, List.any_cons, List.any_nil, Bool.or_false]
  cases isUnwritable k <;> rfl

/-- Data is described as far as its integers can be written. -/
theorem within_told {v : Value} (data : v.IsPlainData) (n depth : Nat) (level : depth + n = depthLimit) :
    within call depth v = withIntegers (v.toldIntegers n) (v.told n) := by
  induction data generalizing n depth with
  | null | bool | float | str => cases n <;> rfl
  | int k i =>
    rw [within_int]
    cases n <;> rfl
  | @list xs i each ih =>
    cases n with
    | zero =>
      rw [within, if_neg (by omega)]
      rfl
    | succ n =>
      rw [within, if_pos (by omega), all_told call fun x mem => ih x mem n (depth + 1) (by omega)]
      refine withIntegers_then _ ?_
      rw [textsOf_told]
      rfl
  | @tuple xs i each ih =>
    cases n with
    | zero =>
      rw [within, if_neg (by omega)]
      rfl
    | succ n =>
      rw [within, if_pos (by omega), all_told call fun x mem => ih x mem n (depth + 1) (by omega)]
      exact withIntegers_then _ (tupled_told n xs)
  | @mapping es i keys values ihKeys ihValues =>
    cases n with
    | zero =>
      rw [within, if_neg (by omega)]
      rfl
    | succ n =>
      rw [within, if_pos (by omega), entries_eq_mapM, mapM_withIntegers fun e mem =>
        entry_told (ihKeys e mem n (depth + 1) (by omega)) (ihValues e mem n (depth + 1) (by omega))]
      exact withIntegers_then _ rfl

end Inspect

/-! ### Data that is told alike -/

/-- Values of one sort. Scalars are the same; for containers it is given how their items or their entries are
related. -/
inductive SameShape (items : List Value → List Value → Prop) (entries : List Entry → List Entry → Prop) :
    Value → Value → Prop where
  | null : SameShape items entries .null .null
  | bool (b : Bool) : SameShape items entries (.bool b) (.bool b)
  | int (k : Int) (i j : Nat) : SameShape items entries (.int k i) (.int k j)
  | float (x : Double) (i j : Nat) : SameShape items entries (.float x i) (.float x j)
  | str (s : String) (i j : Nat) : SameShape items entries (.str s i) (.str s j)
  | list {xs ys : List Value} (i j : Nat) (same : items xs ys) : SameShape items entries (.list xs i) (.list ys j)
  | tuple {xs ys : List Value} (i j : Nat) (same : items xs ys) :
    SameShape items entries (.tuple xs i) (.tuple ys j)
  | mapping {es fs : List Entry} (i j : Nat) (same : entries es fs) :
    SameShape items entries (.mapping es i) (.mapping fs j)

/-- Values that are the same but for what is in containers inside of `n` others. -/
def SameDown : Nat → Value → Value → Prop
  | 0 => SameShape (fun _ _ => True) fun _ _ => True
  | n + 1 => SameShape (List.Forall₂ (SameDown n))
      (List.Forall₂ fun e f => SameDown n e.key f.key ∧ SameDown n e.value f.value)

theorem map_eq_of_forall₂ {α β : Type} {r : α → α → Prop} {f : α → β} (alike : ∀ x y, r x y → f x = f y)
    {xs ys : List α} (related : List.Forall₂ r xs ys) : xs.map f = ys.map f := by
  induction related with
  | nil => rfl
  | cons first _ ih => rw [List.map_cons, List.map_cons, alike _ _ first, ih]

theorem description_same (n : Nat) (v w : Value) (same : SameDown n v w) :
    v.description n = w.description n := by
  induction n generalizing v w with
  | zero => cases same <;> rfl
  | succ n ih =>
    cases same with
    | null | bool | int | float | str => rfl
    | list i j same => exact congrArg Value.bracketed (map_eq_of_forall₂ ih same)
    | tuple i j same => exact congrArg Value.tupled (map_eq_of_forall₂ ih same)
    | mapping i j same =>
      have texts := map_eq_of_forall₂ (f := fun e => e.key.description n ++ ": " ++ e.value.description n)
        (fun e f both => by rw [ih _ _ both.1, ih _ _ both.2]) same
      rw [Value.description, Value.description, texts]

theorem toldIntegers_same (n : Nat) (v w : Value) (same : SameDown n v w) :
    v.toldIntegers n = w.toldIntegers n := by
  induction n generalizing v w with
  | zero => cases same <;> rfl
  | succ n ih =>
    cases same with
    | null | bool | int | float | str => rfl
    | list i j same => exact congrArg List.flatten (map_eq_of_forall₂ ih same)
    | tuple i j same => exact congrArg List.flatten (map_eq_of_forall₂ ih same)
    | mapping i j same =>
      refine congrArg List.flatten (map_eq_of_forall₂ (fun e f both => ?_) same)
      rw [ih _ _ both.1, ih _ _ both.2]

/-! ### Texts inside of data -/

/-- A container with a gap in it: all of it but one item, one key or one value. -/
inductive Frame where
  | list (before after : List Value) (id : Nat)
  | tuple (before after : List Value) (id : Nat)
  | key (before after : List Entry) (digest : Digest) (value : Value) (id : Nat)
  | value (before after : List Entry) (digest : Digest) (key : Value) (id : Nat)

namespace Frame

/-- The container with a value in the gap. -/
def put (f : Frame) (v : Value) : Value :=
  match f with
  | list before after i => .list (before ++ v :: after) i
  | tuple before after i => .tuple (before ++ v :: after) i
  | key before after digest u i => .mapping (before ++ ⟨digest, v, u⟩ :: after) i
  | value before after digest k i => .mapping (before ++ ⟨digest, k, v⟩ :: after) i

/-- A value inside of containers, the outermost first. -/
def fill (frames : List Frame) (v : Value) : Value := frames.foldr put v

end Frame

/-- What is put between commas stands as it is. -/
theorem commas_around (ts us : List String) :
    ∃ front back, ∀ t, Value.commas (ts ++ t :: us) = front ++ t ++ back := by
  induction ts with
  | nil =>
    cases us with
    | nil => exact ⟨"", "", fun t => by simp [Value.commas, String.intercalate_singleton]⟩
    | cons u us =>
      refine ⟨"", ", " ++ Value.commas (u :: us), fun t => ?_⟩
      rw [List.nil_append, Value.commas, String.intercalate_cons_cons, String.empty_append, Value.commas,
        String.append_assoc]
  | cons s ts ih =>
    obtain ⟨front, back, around⟩ := ih
    refine ⟨s ++ ", " ++ front, back, fun t => ?_⟩
    have more : ts ++ t :: us ≠ [] := List.append_ne_nil_of_right_ne_nil ts (List.cons_ne_nil t us)
    rw [List.cons_append, Value.commas, String.intercalate_cons_of_ne_nil more, ← Value.commas, around]
    simp only [String.append_assoc]

theorem tupled_of_two {ts : List String} (two : 2 ≤ ts.length) :
    Value.tupled ts = "(" ++ Value.commas ts ++ ")" := by
  match ts, two with
  | _ :: _ :: _, _ => rfl

/-- What is put between round brackets stands as it is, alone or with others. -/
theorem tupled_around (ts us : List String) :
    ∃ front back, ∀ t, Value.tupled (ts ++ t :: us) = front ++ t ++ back := by
  by_cases alone : ts.length + us.length = 0
  · obtain rfl := List.length_eq_zero_iff.1 (by omega : ts.length = 0)
    obtain rfl := List.length_eq_zero_iff.1 (by omega : us.length = 0)
    exact ⟨"(", ",)", fun _ => rfl⟩
  · obtain ⟨front, back, around⟩ := commas_around ts us
    refine ⟨"(" ++ front, back ++ ")", fun t => ?_⟩
    rw [tupled_of_two (by rw [List.length_append, List.length_cons]; omega), around]
    simp only [String.append_assoc]

/-- The description of a container has that of a value inside of it as a part, and the rest of it does not
depend on the value. -/
theorem description_put (f : Frame) (n : Nat) :
    ∃ front back, ∀ v, (f.put v).description (n + 1) = front ++ v.description n ++ back := by
  let texts (es : List Entry) := es.map fun e => e.key.description n ++ ": " ++ e.value.description n
  cases f with
  | list before after i =>
    obtain ⟨front, back, around⟩ :=
      commas_around (before.map (Value.description n)) (after.map (Value.description n))
    refine ⟨"[" ++ front, back ++ "]", fun v => ?_⟩
    rw [Frame.put, Value.description, List.map_append, List.map_cons, Value.bracketed, around]
    simp only [String.append_assoc]
  | tuple before after i =>
    obtain ⟨front, back, around⟩ :=
      tupled_around (before.map (Value.description n)) (after.map (Value.description n))
    refine ⟨front, back, fun v => ?_⟩
    rw [Frame.put, Value.description, List.map_append, List.map_cons, around]
  | key before after digest u i =>
    obtain ⟨front, back, around⟩ := commas_around (texts before) (texts after)
    refine ⟨"\x7b" ++ front, ": " ++ u.description n ++ back ++ "\x7d", fun v => ?_⟩
    rw [Frame.put, Value.description, List.map_append, List.map_cons, around]
    simp only [String.append_assoc]
  | value before after digest k i =>
    obtain ⟨front, back, around⟩ := commas_around (texts before) (texts after)
    refine ⟨"\x7b" ++ front ++ k.description n ++ ": ", back ++ "\x7d", fun v => ?_⟩
    rw [Frame.put, Value.description, List.map_append, List.map_cons, around]
    simp only [String.append_assoc]

/-- A text that is not inside of an elided container is told as its excerpt, whatever text it is. -/
theorem description_fill (frames : List Frame) (n : Nat) (few : frames.length ≤ n) :
    ∃ front back, ∀ s i, (Frame.fill frames (.str s i)).description n =
      front ++ Text.excerpt (Text.quoted s) ++ back := by
  induction frames generalizing n with
  | nil =>
    refine ⟨"", "", fun s i => ?_⟩
    cases n <;> simp [Frame.fill, Value.description, Inspect.flat]
  | cons f frames ih =>
    obtain ⟨n, rfl⟩ : ∃ m, n = m + 1 := ⟨n - 1, by rw [List.length_cons] at few; omega⟩
    obtain ⟨front, back, inner⟩ := ih n (Nat.le_of_succ_le_succ few)
    obtain ⟨first, last, outer⟩ := description_put f n
    refine ⟨first ++ front, back ++ last, fun s i => ?_⟩
    show (f.put (Frame.fill frames (.str s i))).description (n + 1) = _
    rw [outer, inner]
    simp only [String.append_assoc]

/-! ### What diagnostics tell -/

/-- Whether an integer does not have too many digits to be written. -/
def IsWritable (k : Int) : Prop := k.natAbs < Nat.pow 10 Numeral.digitLimit

/-- A decimal digit has more than three binary ones. -/
theorem le_log2_of_pow {l n : Nat} (many : n ≥ Nat.pow 10 l) : n.log2 ≥ 3 * l := by
  have power : 2 ^ (3 * l) ≤ 10 ^ l := by
    rw [Nat.pow_mul]
    exact Nat.pow_le_pow_left (by decide) l
  have positive : 0 < 10 ^ l := Nat.pow_pos (by decide)
  rw [Nat.pow_eq] at many
  exact (Nat.le_log2 (Nat.ne_of_gt (Nat.lt_of_lt_of_le positive many))).2 (Nat.le_trans power many)

theorem isUnwritable_iff {k : Int} : isUnwritable k = true ↔ ¬ IsWritable k := by
  rw [isUnwritable, IsWritable, Nat.not_lt, Bool.and_eq_true, decide_eq_true_eq, decide_eq_true_eq]
  exact and_iff_right_of_imp le_log2_of_pow

/-- Data whose description tells only integers that can be written. -/
structure Value.IsTellable (v : Value) : Prop where
  data : v.IsPlainData
  writable : ∀ k ∈ v.toldIntegers 2, IsWritable k

theorem inspect_tellable {v : Value} (tellable : v.IsTellable) (call : Value → Except Fault Value) :
    Gives (v.inspect call) (v.description 2) := by
  refine ⟨v.describedId, ?_⟩
  have none : (v.toldIntegers 2).any isUnwritable = false :=
    List.any_eq_false.2 fun k mem => by
      rw [isUnwritable_iff, not_not]
      exact tellable.writable k mem
  rw [Value.inspect, Inspect.within_told call tellable.data 2 0 rfl, withIntegers, none]
  rfl

theorem inspect_unreadable {v : Value} (data : v.IsPlainData) (long : ∃ k ∈ v.toldIntegers 2, ¬ IsWritable k)
    (call : Value → Except Fault Value) : v.inspect call = .error .unreadable := by
  obtain ⟨k, mem, long⟩ := long
  have some : (v.toldIntegers 2).any isUnwritable = true := List.any_eq_true.2 ⟨k, mem, isUnwritable_iff.2 long⟩
  rw [Value.inspect, Inspect.within_told call data 2 0 rfl, withIntegers, some]
  rfl

/-- Describing data reveals nothing of what is in containers at depth 2. Data that is the same but for what is in
them is told by the same text, if the integers that are told can be written, and otherwise fails in the same way.
A text that is in no such container adds its quoted form to the text, or 240 characters of it if it is longer:
118 from the front and 119 from the back around three dots. -/
theorem Value.inspect_elides :
    (∀ v w : Value, v.IsPlainData → w.IsPlainData → SameDown 2 v w →
      (v.IsTellable → ∃ text, ∀ call, Gives (v.inspect call) text ∧ Gives (w.inspect call) text) ∧
      ((∃ k ∈ v.toldIntegers 2, ¬ IsWritable k) →
        ∀ call, v.inspect call = .error .unreadable ∧ w.inspect call = .error .unreadable)) ∧
    (∀ frames : List Frame, frames.length ≤ 2 → ∃ front back, ∀ s i,
      (Frame.fill frames (.str s i)).IsTellable → ∀ call,
        Gives ((Frame.fill frames (.str s i)).inspect call) (front ++ Text.excerpt (Text.quoted s) ++ back)) ∧
    ∀ s, (Text.size (Text.quoted s) ≤ 240 → Text.excerpt (Text.quoted s) = Text.quoted s) ∧
      (240 < Text.size (Text.quoted s) → ∃ front middle back,
        Text.quoted s = front ++ middle ++ back ∧ Text.size front = 118 ∧ Text.size back = 119 ∧
        Text.excerpt (Text.quoted s) = front ++ "..." ++ back ∧
        Text.size (Text.excerpt (Text.quoted s)) = 240) := by
  refine ⟨fun v w dataV dataW same => ⟨fun tellable => ?_, fun long call => ?_⟩, fun frames few => ?_,
    fun s => ⟨Text.excerpt_short, Text.excerpt_long⟩⟩
  · have tellableW : w.IsTellable := ⟨dataW, toldIntegers_same 2 v w same ▸ tellable.writable⟩
    refine ⟨v.description 2, fun call => ⟨inspect_tellable tellable call, ?_⟩⟩
    rw [description_same 2 v w same]
    exact inspect_tellable tellableW call
  · exact ⟨inspect_unreadable dataV long call,
      inspect_unreadable dataW (toldIntegers_same 2 v w same ▸ long) call⟩
  · obtain ⟨front, back, told⟩ := description_fill frames 2 few
    refine ⟨front, back, fun s i tellable call => ?_⟩
    rw [← told s i]
    exact inspect_tellable tellable call

theorem lt_pow_of_small {l n : Nat} (nonzero : l ≠ 0) (small : n < 10) : n < Nat.pow 10 l :=
  Nat.lt_of_lt_of_le small (Nat.le_self_pow nonzero 10)

theorem isTellable_of_small {v : Value} (data : v.IsPlainData)
    (small : ∀ k ∈ v.toldIntegers 2, k.natAbs < 10) : v.IsTellable :=
  ⟨data, fun k mem => lt_pow_of_small (by decide) (small k mem)⟩

/-- A list with a number and, inside of two other lists, a text. -/
def hidden (s : String) : Value := .list [.int 1, .list [.list [.str s]]]

theorem hidden_isPlainData (s : String) : (hidden s).IsPlainData :=
  .list 0 (List.forall_mem_cons.2 ⟨.int 1 0, List.forall_mem_singleton.2 (.list 0 (List.forall_mem_singleton.2
    (.list 0 (List.forall_mem_singleton.2 (.str s 0)))))⟩)

theorem hidden_same (s t : String) : SameDown 2 (hidden s) (hidden t) :=
  .list 0 0 (.cons (.int 1 0 0) (.cons (.list 0 0 (.cons (.list 0 0 trivial) .nil)) .nil))

example : (hidden "secret").description 2 = "[1, [[...]]]" := by decide

/-- A text of the same letter over and over. -/
def letters (n : Nat) : String := String.ofList (List.replicate n 'a')

theorem size_letters (n : Nat) : Text.size (letters n) = n := by
  have unmarked : Text.mark ∉ List.replicate n 'a' := fun mem =>
    absurd (List.eq_of_mem_replicate mem) (by decide)
  rw [letters, Text.size_ofList unmarked, List.length_replicate]

/-- A text that is not told, texts that are told, and a long one that is told in part. -/
theorem inspect_elides_hidden :
    (∃ text, ∀ call, Gives ((hidden "secret").inspect call) text ∧ Gives ((hidden "").inspect call) text) ∧
    (∃ front back, ∀ s call, Gives ((Value.list [.int 1, .tuple [.str s]]).inspect call)
      (front ++ Text.excerpt (Text.quoted s) ++ back)) ∧
    Text.size (Text.excerpt (Text.quoted (letters 300))) = 240 := by
  obtain ⟨alike, parts, excerpts⟩ := Value.inspect_elides
  have small : ∀ k ∈ [(1 : Int)], k.natAbs < 10 := List.forall_mem_singleton.2 (by decide)
  obtain ⟨front, back, told⟩ := parts [.list [.int 1] [] 0, .tuple [] [] 0] (by decide)
  have data : ∀ s, (Value.list [.int 1, .tuple [.str s]]).IsPlainData := fun s =>
    .list 0 (List.forall_mem_cons.2 ⟨.int 1 0,
      List.forall_mem_singleton.2 (.tuple 0 (List.forall_mem_singleton.2 (.str s 0)))⟩)
  have long := Text.size_lt_size_quoted (letters 300)
  rw [size_letters] at long
  obtain ⟨_, _, _, _, _, _, _, cut⟩ := (excerpts (letters 300)).2 (by omega)
  exact ⟨(alike _ _ (hidden_isPlainData "secret") (hidden_isPlainData "") (hidden_same "secret" "")).1
      (isTellable_of_small (hidden_isPlainData "secret") small),
    ⟨front, back, fun s => told s 0 (isTellable_of_small (data s) small)⟩, cut⟩

/-- The least integer that has too many digits. -/
def longInteger : Int := Nat.pow 10 Numeral.digitLimit

/-- An integer with too many digits is told by no text. -/
theorem inspect_long :
    (Value.list [.int longInteger]).IsPlainData ∧
    SameDown 2 (.list [.int longInteger]) (.list [.int longInteger]) ∧
    ∀ call, ¬ ∃ text, Gives ((Value.list [.int longInteger]).inspect call) text := by
  have data : (Value.list [.int longInteger]).IsPlainData :=
    .list 0 (List.forall_mem_singleton.2 (.int longInteger 0))
  have long : ¬ IsWritable longInteger := by
    rw [IsWritable, longInteger, Int.natAbs_natCast]
    exact Nat.lt_irrefl _
  refine ⟨data, .list 0 0 (.cons (.int longInteger 0 0) .nil), ?_⟩
  rintro call ⟨text, i, told⟩
  rw [inspect_unreadable data ⟨longInteger, List.mem_singleton.2 rfl, long⟩ call] at told
  cases told

end QueryDefaults
