import QueryDefaults.Proofs.Hashable
import QueryDefaults.Proofs.Numbered

/-!
Values of objects that a store has. To keep such a value puts nothing into the store (`IsKept.keeps`), and
as the store grows it stays such a value (`IsKept.mono`).
-/

namespace QueryDefaults

/-- A value without parts that is kept wherever it stands, not by a number. -/
def Value.isSimple : Value → Bool
  | .float .. | .type _ | .registry .. | .function .. | .builtin _ | .method .. | .foreign .. => true
  | v => v.isAtom

theorem Value.isSimple_atom {v : Value} (plain : v.isAtom = true) : v.isSimple = true := by
  cases v <;> first | rfl | cases plain

/-! ### What takes the place of references -/

theorem fillEntries_eq_map (find : Nat → Option Value) (es : List Entry) :
    fillEntries find es = es.map fun e => { e with key := e.key.fill find, value := e.value.fill find } := by
  induction es with
  | nil => rfl
  | cons e es ih =>
    obtain ⟨digest, k, v⟩ := e
    rw [fillEntries, ih]
    rfl

theorem Value.fill_simple {v : Value} (plain : v.isSimple = true) (find : Nat → Option Value) :
    v.fill find = v := by
  cases v <;> first | rfl | cases plain

theorem Value.fill_object {v : Value} {i : Nat} (number : v.objectNumber? = some i) (find : Nat → Option Value) :
    v.fill find = (find i).getD v := by
  cases v <;> first | (cases number; rfl) | cases number

theorem Value.objectNumber?_reference (v : Value) : v.reference.objectNumber? = v.objectNumber? := by
  cases v <;> rfl

namespace Store

/-- Whether all objects in a value are in a store already. Its mappings have numbers below the next one, which
are not those of nodes. -/
inductive IsKept (s : Store) (next : Nat) : Value → Prop where
  | simple {v : Value} (plain : v.isSimple = true) : IsKept s next v
  | object {v : Value} {i : Nat} (number : v.objectNumber? = some i) (there : s.contains i = true) :
      IsKept s next v
  | member {e : Nat} (name : String) (v : Value) (there : s.contains e = true) :
      IsKept s next (.member e name v)
  | list {xs : List Value} (i : Nat) (items : ∀ x ∈ xs, IsKept s next x) : IsKept s next (.list xs i)
  | tuple {xs : List Value} (i : Nat) (items : ∀ x ∈ xs, IsKept s next x) : IsKept s next (.tuple xs i)
  | record {xs : List Value} (shape : Record) (i : Nat) (items : ∀ x ∈ xs, IsKept s next x) :
      IsKept s next (.record shape xs i)
  | mapping {es : List Entry} {i : Nat} (positive : 0 < i) (bound : i < next)
      (free : ∀ m, s[i]? ≠ some (.node m)) (keys : ∀ e ∈ es, IsKept s next e.key)
      (values : ∀ e ∈ es, IsKept s next e.value) : IsKept s next (.mapping es i)

/-- Whether one store has become another one: it has lost no object, and of the numbers that had been given out
no more belong to nodes. -/
structure Grows (s : Store) (next : Nat) (t : Store) (later : Nat) : Prop where
  le : next ≤ later
  keeps : ∀ i, s.contains i = true → t.contains i = true
  nodes : ∀ i m, i < next → t[i]? = some (.node m) → ∃ k, s[i]? = some (.node k)

section Grows

variable {s t u : Store} {next later last : Nat}

theorem Grows.refl (s : Store) (le : next ≤ later) : s.Grows next s later where
  le := le
  keeps := fun _ h => h
  nodes := fun _ m _ h => ⟨m, h⟩

theorem Grows.trans (h : s.Grows next t later) (g : t.Grows later u last) : s.Grows next u last where
  le := Nat.le_trans h.le g.le
  keeps := fun i hi => g.keeps i (h.keeps i hi)
  nodes := fun i m low there =>
    (g.nodes i m (Nat.lt_of_lt_of_le low h.le) there).elim fun k hk => h.nodes i k low hk

theorem IsKept.mono {v : Value} (h : s.IsKept next v) (grows : s.Grows next t later) : t.IsKept later v := by
  induction h with
  | simple plain => exact .simple plain
  | object number there => exact .object number (grows.keeps _ there)
  | member name v there => exact .member name v (grows.keeps _ there)
  | list i _ ih => exact .list i ih
  | tuple i _ ih => exact .tuple i ih
  | record shape i _ ih => exact .record shape i ih
  | mapping positive bound free _ _ keys values =>
    refine .mapping positive (Nat.lt_of_lt_of_le bound grows.le) (fun m there => ?_) keys values
    exact (grows.nodes _ m bound there).elim free

end Grows

/-! ### Keeping values once more -/

section Keeps

variable {s : Store} {next : Nat}

/-- What is no object of its own gets numbers, and nothing is put into the store. -/
theorem keepHere_none {v : Value} (none : v.objectNumber? = none) (next : Nat) :
    (keepHere v).run ⟨s, next⟩ = ((v.numberHere.run next).1, ⟨s, (v.numberHere.run next).2⟩) := by
  cases v <;> first | rfl | cases none

/-- A row gets a number, if it has none. -/
theorem keepHere_row (row : Nat → Value) (none : ∀ i, (row i).objectNumber? = none)
    (numbers : ∀ i, (row i).numberHere = numbered i >>= fun j => pure (row j)) (i next : Nat) :
    ∃ j later, (keepHere (row i)).run ⟨s, next⟩ = (row j, ⟨s, later⟩) ∧ next ≤ later := by
  obtain ⟨j, later, run, le⟩ := numbered_run i next
  refine ⟨j, later, ?_, le⟩
  rw [keepHere_none (none i), numbers, StateT.run_bind, run]
  rfl

theorem isSimple_numberHere {v : Value} (plain : v.isSimple = true) (next : Nat) :
    (v.numberHere.run next).1.isSimple = true := by
  cases v <;> first | rfl | cases plain

theorem rebuild_simple {v : Value} (plain : v.isSimple = true) :
    v.objectNumber? = none ∧
      (v.rebuild s.known fun _ w => keepHere w) = keepHere v := by
  cases v <;> first | exact ⟨rfl, rfl⟩ | cases plain

theorem known_object {v : Value} {i : Nat} (number : v.objectNumber? = some i)
    (there : s.contains i = true) (positive : i ≠ 0) : s.known v = some v.reference := by
  have numbered : v.numberedAs s.contains = some v := by
    simp [Value.numberedAs, number, there, positive]
  cases v <;> first | exact congrArg (Option.map Value.reference) numbered | cases number

theorem rebuild_known {v : Value} {i : Nat} (number : v.objectNumber? = some i) {r : Value}
    (known : s.known v = some r) : (v.rebuild s.known fun _ w => keepHere w) = pure r := by
  cases v with
  | inputField f =>
    obtain ⟨_, _, _, _, _⟩ := f
    rw [Value.rebuild, known]
    rfl
  | enumValue u =>
    obtain ⟨_, _, _, _⟩ := u
    rw [Value.rebuild, known]
    rfl
  | rule r =>
    obtain ⟨_, _, _, _⟩ := r
    rw [Value.rebuild, known]
    rfl
  | node | enumeration | error | exceptionOf | context | visitor =>
    rw [Value.rebuild, known]
    rfl
  | _ => cases number

/-- Values in a row are kept one by one. -/
theorem keeps_row {xs : List Value} (items : ∀ x ∈ xs, ∀ first, next ≤ first → ∃ w later,
      (x.rebuild s.known fun _ w => keepHere w).run ⟨s, first⟩ = (w, ⟨s, later⟩) ∧ first ≤ later ∧
        s.IsKept later w) (first : Nat) (le : next ≤ first) :
    ∃ ys later, (rebuildAll s.known (fun _ w => keepHere w) xs).run ⟨s, first⟩ = (ys, ⟨s, later⟩) ∧
      first ≤ later ∧ ∀ y ∈ ys, s.IsKept later y := by
  induction xs generalizing first with
  | nil => exact ⟨[], first, rfl, Nat.le_refl first, fun y hy => nomatch hy⟩
  | cons x xs ih =>
    obtain ⟨y, middle, run, le', kept⟩ := items x (List.mem_cons_self ..) first le
    obtain ⟨ys, later, rest, le'', all⟩ :=
      ih (fun z hz => items z (List.mem_cons_of_mem _ hz)) middle (Nat.le_trans le le')
    refine ⟨y :: ys, later, ?_, Nat.le_trans le' le'', fun z hz => ?_⟩
    · rw [rebuildAll]
      exact run_bind_eq run (run_bind_eq rest rfl)
    · rcases List.mem_cons.1 hz with rfl | hz
      · exact kept.mono (.refl s le'')
      · exact all z hz

/-- Entries of a mapping are kept one by one. -/
theorem keeps_entries {es : List Entry}
    (keys : ∀ e ∈ es, ∀ first, next ≤ first → ∃ w later,
      (e.key.rebuild s.known fun _ w => keepHere w).run ⟨s, first⟩ = (w, ⟨s, later⟩) ∧ first ≤ later ∧
        s.IsKept later w)
    (values : ∀ e ∈ es, ∀ first, next ≤ first → ∃ w later,
      (e.value.rebuild s.known fun _ w => keepHere w).run ⟨s, first⟩ = (w, ⟨s, later⟩) ∧ first ≤ later ∧
        s.IsKept later w) (first : Nat) (le : next ≤ first) :
    ∃ fs later, (rebuildEntries s.known (fun _ w => keepHere w) es).run ⟨s, first⟩ = (fs, ⟨s, later⟩) ∧
      first ≤ later ∧ ∀ f ∈ fs, s.IsKept later f.key ∧ s.IsKept later f.value := by
  induction es generalizing first with
  | nil => exact ⟨[], first, rfl, Nat.le_refl first, fun y hy => nomatch hy⟩
  | cons e es ih =>
    obtain ⟨k, second, run, le₁, key⟩ := keys e (List.mem_cons_self ..) first le
    obtain ⟨v, third, run', le₂, value⟩ := values e (List.mem_cons_self ..) second (Nat.le_trans le le₁)
    obtain ⟨fs, later, rest, le₃, all⟩ := ih (fun z hz => keys z (List.mem_cons_of_mem _ hz))
      (fun z hz => values z (List.mem_cons_of_mem _ hz)) third (Nat.le_trans le (Nat.le_trans le₁ le₂))
    refine ⟨⟨e.digest, k, v⟩ :: fs, later, ?_, Nat.le_trans le₁ (Nat.le_trans le₂ le₃), fun f hf => ?_⟩
    · obtain ⟨digest, _, _⟩ := e
      rw [rebuildEntries]
      exact run_bind_eq run (run_bind_eq run' (run_bind_eq rest rfl))
    · rcases List.mem_cons.1 hf with rfl | hf
      · exact ⟨key.mono (.refl s (Nat.le_trans le₂ le₃)), value.mono (.refl s le₃)⟩
      · exact all f hf

/-- To keep a value whose objects are in the store puts nothing into the store. -/
theorem IsKept.keeps (low : ∀ i, s.contains i = true → 0 < i) {v : Value} (h : s.IsKept next v) :
    ∀ first, next ≤ first → ∃ w later,
      (v.rebuild s.known fun _ w => keepHere w).run ⟨s, first⟩ = (w, ⟨s, later⟩) ∧ first ≤ later ∧
        s.IsKept later w := by
  induction h with
  | simple plain =>
    intro first le
    obtain ⟨none, here⟩ := rebuild_simple (s := s) plain
    rw [here, keepHere_none none]
    exact ⟨_, _, rfl, Advances.here _ first, .simple (isSimple_numberHere plain first)⟩
  | @object v i number there =>
    intro first le
    have known := known_object number there (Nat.ne_of_gt (low i there))
    rw [rebuild_known number known]
    exact ⟨_, _, rfl, Nat.le_refl first, .object ((v.objectNumber?_reference).trans number) there⟩
  | @member e name v there =>
    intro first le
    refine ⟨.member e name .null, first, ?_, Nat.le_refl first, .member name .null there⟩
    rw [Value.rebuild, Store.known, if_pos there]
    rfl
  | @list xs i items ih =>
    intro first le
    cases there : s.contains i with
    | true =>
      refine ⟨.list [] i, first, ?_, Nat.le_refl first, .list i (List.forall_mem_nil _)⟩
      rw [Value.rebuild, Store.known, if_pos there]
      rfl
    | false =>
      obtain ⟨ys, middle, run, le', all⟩ := keeps_row ih first le
      obtain ⟨j, later, here, le''⟩ :=
        keepHere_row (s := s) (fun i => .list ys i) (fun _ => rfl) (fun _ => rfl) i middle
      refine ⟨_, later, ?_, Nat.le_trans le' le'', .list j fun y hy => (all y hy).mono (.refl s le'')⟩
      rw [Value.rebuild, Store.known, there]
      exact run_bind_eq run here
  | @tuple xs i items ih =>
    intro first le
    obtain ⟨ys, middle, run, le', all⟩ := keeps_row ih first le
    obtain ⟨j, later, here, le''⟩ :=
      keepHere_row (s := s) (fun i => .tuple ys i) (fun _ => rfl) (fun _ => rfl) i middle
    exact ⟨_, later, run_bind_eq run here, Nat.le_trans le' le'',
      .tuple j fun y hy => (all y hy).mono (.refl s le'')⟩
  | @record xs shape i items ih =>
    intro first le
    obtain ⟨ys, middle, run, le', all⟩ := keeps_row ih first le
    obtain ⟨j, later, here, le''⟩ :=
      keepHere_row (s := s) (fun i => .record shape ys i) (fun _ => rfl) (fun _ => rfl) i middle
    exact ⟨_, later, run_bind_eq run here, Nat.le_trans le' le'',
      .record shape j fun y hy => (all y hy).mono (.refl s le'')⟩
  | @mapping es i positive bound free keys values ihk ihv =>
    intro first le
    have low := Nat.lt_of_lt_of_le bound le
    cases there : s.contains i with
    | true =>
      refine ⟨.mapping [] i, first, ?_, Nat.le_refl first,
        .mapping positive low free (List.forall_mem_nil _) (List.forall_mem_nil _)⟩
      rw [Value.rebuild, Store.known, if_pos there]
      rfl
    | false =>
      obtain ⟨fs, middle, run, le', all⟩ := keeps_entries ihk ihv first le
      have here := keepHere_none (s := s) (v := .mapping fs i) rfl middle
      have same : (numbered i).run middle = (i, middle) := by
        rw [numbered, if_neg (Nat.ne_of_gt positive)]
        rfl
      have run' : (Value.mapping fs i).numberHere.run middle = (.mapping fs i, middle) := by
        rw [Value.numberHere, Value.renumberHere, StateT.run_bind, same]
        rfl
      rw [run'] at here
      refine ⟨.mapping fs i, middle, ?_, le', ?_⟩
      · rw [Value.rebuild, Store.known, there]
        exact run_bind_eq run here
      · exact .mapping positive (Nat.lt_of_lt_of_le low le') free (fun e he => (all e he).1)
          fun e he => (all e he).2

end Keeps

/-! ### Orderly stores -/

/-- Whether what is kept under a number is an object with this number, made of parts that are kept. -/
def IsWhole (s : Store) (next i : Nat) : Value → Prop
  | .list xs j => j = i ∧ ∀ x ∈ xs, s.IsKept next x
  | .mapping es j => j = i ∧ ∀ e ∈ es, s.IsKept next e.key ∧ s.IsKept next e.value
  | .enumeration ms _ j => j = i ∧ ∀ m ∈ ms, ∃ name v, m.2 = .member i name v
  | v => v.objectNumber? = some i

/-- Whether a store has whole objects only, with numbers below the next one, and the marks of a node in a
mapping. -/
structure IsOrderly (s : Store) (next : Nat) : Prop where
  positive : 0 < next
  below : ∀ i, s.contains i = true → 0 < i ∧ i < next
  whole : ∀ (i : Nat) v, s[i]? = some v → s.IsWhole next i v
  marks : ∀ (i : Nat) m es j, s[i]? = some (.node m) → m.attrs.lookup marksName = some (.mapping es j) →
    ∃ fs : List Entry, s[j]? = some (.mapping fs j)

theorem contains_of_getElem? {s : Store} {i : Nat} {v : Value} (h : s[i]? = some v) : s.contains i = true := by
  rw [Std.TreeMap.contains_eq_isSome_getElem?, h]
  rfl

section Orderly

variable {s : Store} {next i : Nat} {v : Value}

/-- An object of the store is kept whatever its parts are, and so are a list and a mapping of kept parts. -/
theorem IsOrderly.mapParts (h : s.IsOrderly next) (found : s[i]? = some v) {f : Value → Value}
    (kept : ∀ x, s.IsKept next x → s.IsKept next (f x)) : s.IsKept next (v.mapParts f) := by
  have whole := h.whole i v found
  have there := contains_of_getElem? found
  obtain ⟨positive, bound⟩ := h.below i there
  cases v with
  | list xs j =>
    refine .list j fun x hx => ?_
    obtain ⟨y, hy, rfl⟩ := List.mem_map.1 hx
    exact kept y (whole.2 y hy)
  | mapping es j =>
    obtain ⟨rfl, entries⟩ := whole
    refine .mapping positive bound (fun m node => ?_) (fun e he => ?_) fun e he => ?_
    · cases found.symm.trans node
    · obtain ⟨d, hd, rfl⟩ := List.mem_map.1 he
      exact kept d.key (entries d hd).1
    · obtain ⟨d, hd, rfl⟩ := List.mem_map.1 he
      exact kept d.value (entries d hd).2
  | enumeration ms others j =>
    obtain ⟨rfl, -⟩ := whole
    exact .object rfl there
  | error e =>
    cases e
    exact .object whole there
  | node | inputField | enumValue | exceptionOf | context | rule | visitor => exact .object whole there
  | _ => cases whole

/-- Whether all objects that are shown are those of the store, with kept parts in them. -/
def IsShown (s : Store) (next : Nat) (shown : Store) : Prop :=
  ∀ (i : Nat) u, shown[i]? = some u → ∃ v f, s[i]? = some v ∧
    (∀ x, s.IsKept next x → s.IsKept next (f x)) ∧ u = v.mapParts f

theorem IsShown.kept {shown : Store} (h : s.IsShown next shown) (orderly : s.IsOrderly next) {u : Value}
    (there : shown[i]? = some u) : s.IsKept next u := by
  obtain ⟨v, f, found, kept, rfl⟩ := h i u there
  exact orderly.mapParts found kept

/-- A member that is shown in an enumeration is one of it. -/
theorem IsShown.member {shown : Store} (h : s.IsShown next shown) (orderly : s.IsOrderly next)
    {ms others : List (String × Value)} {j : Nat} (there : shown[i]? = some (.enumeration ms others j))
    {name : String} {m : Value} (found : ms.lookup name = some m) : s.IsKept next m := by
  obtain ⟨v, f, kept, -, same⟩ := h i _ there
  have whole := orderly.whole i v kept
  cases v with
  | enumeration ms' others' j' =>
    cases same
    obtain ⟨rfl, members⟩ := whole
    rw [lookup_map] at found
    obtain ⟨m', hm', rfl⟩ := Option.map_eq_some_iff.1 found
    obtain ⟨before, after, among, -⟩ := List.lookup_eq_some_iff.1 hm'
    obtain ⟨label, w, rfl⟩ := members (name, m') (by
      rw [among]
      exact List.mem_append_right _ (List.mem_cons_self ..))
    exact .member label (f w) (contains_of_getElem? kept)
  | error e =>
    cases e
    cases same
  | _ => cases same

/-- A kept value with shown objects in it is a kept value. -/
theorem IsKept.fill {shown : Store} (orderly : s.IsOrderly next) (h : s.IsShown next shown)
    (kept : s.IsKept next v) : s.IsKept next (v.fill (shown[·]?)) := by
  induction kept with
  | simple plain =>
    rw [Value.fill_simple plain]
    exact .simple plain
  | @object v i number there =>
    rw [Value.fill_object number]
    cases found : shown[i]? with
    | none => exact .object number there
    | some u => exact h.kept orderly found
  | @member e name v there =>
    rw [Value.fill]
    split
    · next ms others j found =>
      cases member : ms.lookup name with
      | none => exact .member name _ there
      | some m => exact h.member orderly found member
    · exact .member name _ there
  | @list xs i _ ih =>
    rw [Value.fill]
    cases found : shown[i]? with
    | some u => exact h.kept orderly found
    | none =>
      refine .list i fun y hy => ?_
      rw [fillAll_eq_map] at hy
      obtain ⟨x, hx, rfl⟩ := List.mem_map.1 hy
      exact ih x hx
  | @tuple xs i _ ih =>
    refine .tuple i fun y hy => ?_
    rw [fillAll_eq_map] at hy
    obtain ⟨x, hx, rfl⟩ := List.mem_map.1 hy
    exact ih x hx
  | @record xs shape i _ ih =>
    refine .record shape i fun y hy => ?_
    rw [fillAll_eq_map] at hy
    obtain ⟨x, hx, rfl⟩ := List.mem_map.1 hy
    exact ih x hx
  | @mapping es i positive bound free _ _ keys values =>
    rw [Value.fill]
    cases found : shown[i]? with
    | some u => exact h.kept orderly found
    | none =>
      rw [fillEntries_eq_map]
      refine .mapping positive bound free (fun f hf => ?_) fun f hf => ?_
      · obtain ⟨e, he, rfl⟩ := List.mem_map.1 hf
        exact keys e he
      · obtain ⟨e, he, rfl⟩ := List.mem_map.1 hf
        exact values e he

/-! ### Views of kept values -/

/-- Whether pieces have the content that is kept under their numbers. -/
def ArePieces (s : Store) (ps : List Piece) : Prop := ∀ p ∈ ps, s[p.id]? = some p.content

theorem IsShown.reveal {shown : Store} (h : s.IsShown next shown) (orderly : s.IsOrderly next) {p : Piece}
    (piece : s[p.id]? = some p.content) : s.IsShown next (reveal shown p) := by
  intro i u found
  rw [Store.reveal, Std.TreeMap.getElem?_insert] at found
  split at found
  · next same =>
    cases found
    obtain rfl := Std.LawfulEqCmp.eq_of_compare same
    exact ⟨p.content, _, piece, fun x hx => hx.fill orderly h, rfl⟩
  · exact h i u found

theorem IsShown.round (orderly : s.IsOrderly next) : ∀ {ps : List Piece} (state : Store × List Piece),
    s.ArePieces ps → s.IsShown next state.1 → s.ArePieces state.2 →
      s.IsShown next (ps.foldl offer state).1 ∧ s.ArePieces (ps.foldl offer state).2
  | [], _, _, shown, rest => ⟨shown, rest⟩
  | p :: ps, (now, waiting), pieces, shown, rest => by
    obtain ⟨piece, others⟩ := List.forall_mem_cons.1 pieces
    rw [List.foldl_cons, offer]
    split
    · exact round orderly _ others (shown.reveal orderly piece) rest
    · exact round orderly _ others shown (List.forall_mem_cons.2 ⟨piece, rest⟩)

theorem IsShown.revealAll (orderly : s.IsOrderly next) : ∀ (rounds : Nat) {shown : Store} {ps : List Piece},
    s.IsShown next shown → s.ArePieces ps →
      s.IsShown next (revealAll rounds shown ps).1 ∧ s.ArePieces (revealAll rounds shown ps).2
  | 0, _, _, h, pieces => ⟨h, pieces⟩
  | rounds + 1, shown, ps, h, pieces => by
    obtain ⟨now, rest⟩ := IsShown.round orderly (shown, []) pieces h fun p hp => nomatch hp
    have waiting : s.ArePieces (ps.foldl offer (shown, [])).2.reverse := fun p hp =>
      rest p (List.mem_reverse.1 hp)
    rw [revealAll_succ, revealReady_eq]
    split
    · exact ⟨now, waiting⟩
    · exact revealAll orderly rounds now waiting

theorem IsShown.revealLaps (orderly : s.IsOrderly next) {ps : List Piece} (pieces : s.ArePieces ps) :
    ∀ (laps : Nat) {shown : Store}, s.IsShown next shown → s.IsShown next (revealLaps ps laps shown)
  | 0, _, h => h
  | laps + 1, shown, h => by
    refine revealLaps orderly pieces laps ?_
    clear revealLaps
    induction ps generalizing shown with
    | nil => exact h
    | cons p ps ih =>
      obtain ⟨piece, others⟩ := List.forall_mem_cons.1 pieces
      exact ih others _ (h.reveal orderly piece)

theorem collect_pieces : ∀ (steps : Nat) (ids : List Nat) (found : Std.TreeMap Nat Piece),
    (∀ (i : Nat) p, found[i]? = some p → s.piece? i = some p) →
      ∀ (i : Nat) p, (s.collect steps ids found)[i]? = some p → s.piece? i = some p
  | 0, _, _, pieces => pieces
  | steps + 1, ids, found, pieces => by
    have round : ∀ {state : Std.TreeMap Nat Piece × List Nat},
        (∀ (i : Nat) p, state.1[i]? = some p → s.piece? i = some p) →
          ∀ (i : Nat) p, (ids.foldl s.gather state).1[i]? = some p → s.piece? i = some p := by
      induction ids with
      | nil => exact fun h => h
      | cons id ids ih =>
        intro state h
        refine ih fun i p there => ?_
        unfold gather at there
        split at there
        · exact h i p there
        · split at there
          · next q hq =>
            rw [Std.TreeMap.getElem?_insert] at there
            split at there
            · next same =>
              cases there
              exact Std.LawfulEqCmp.eq_of_compare same ▸ hq
            · exact h i p there
          · exact h i p there
    rw [collect_succ]
    split
    · exact round pieces
    · exact collect_pieces steps _ _ (round pieces)

/-- A view is the value with objects in it that are shown. -/
theorem IsOrderly.view_eq (h : s.IsOrderly next) (v : Value) : ∃ shown, s.IsShown next shown ∧
    (s.view v = v ∨ s.view v = v.fill (shown[·]?)) := by
  have empty : s.IsShown next ∅ := fun i u found => by simp at found
  unfold Store.view
  generalize v.references.filter s.contains = ids
  cases ids with
  | nil => exact ⟨∅, empty, .inl rfl⟩
  | cons i ids =>
    have found := collect_pieces (s := s) (s.size + 1) (i :: ids) ∅ fun i p there => by
      simp at there
    have pieces : s.ArePieces (s.collect (s.size + 1) (i :: ids) ∅).values := fun p hp => by
      obtain ⟨i, there⟩ := mem_values.1 hp
      obtain ⟨content, kept, rfl⟩ := Option.map_eq_some_iff.1 (found i p there)
      exact kept
    obtain ⟨shown, rest⟩ := empty.revealAll h (s.collect (s.size + 1) (i :: ids) ∅).size pieces
    exact ⟨_, shown.revealLaps h rest _, .inr rfl⟩

/-- A view of a kept value is a kept value. -/
theorem IsKept.view (kept : s.IsKept next v) (h : s.IsOrderly next) : s.IsKept next (s.view v) := by
  obtain ⟨shown, all, same | same⟩ := h.view_eq v
  · rw [same]
    exact kept
  · rw [same]
    exact kept.fill h all

/-- A view of a node is a node with the same number, whatever it leads to. -/
theorem IsOrderly.view_node (h : s.IsOrderly next) {n m : Node} (found : s[n.id]? = some (.node m)) :
    ∃ k : Node, s.view (.node n) = .node k ∧ k.id = n.id := by
  obtain ⟨shown, all, same | same⟩ := h.view_eq (.node n)
  · exact ⟨n, same, rfl⟩
  · rw [Value.fill_object rfl] at same
    cases there : shown[n.id]? with
    | none =>
      rw [there] at same
      exact ⟨n, same, rfl⟩
    | some u =>
      rw [there] at same
      obtain ⟨v, f, kept, -, rfl⟩ := all n.id u there
      cases found.symm.trans kept
      exact ⟨_, same, Option.some.inj (h.whole n.id _ found)⟩

end Orderly
end Store
end QueryDefaults
