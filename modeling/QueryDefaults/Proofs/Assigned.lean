import QueryDefaults.Proofs.Hashing
import QueryDefaults.Proofs.Kept

/-!
What an assignment touches. To assign an attribute of a node changes this node, or the mapping of its marks, and
no other node (`Session.Touches`). This holds in sessions whose objects are orderly, and they stay so. A node
gets its mapping of marks with the first attribute that is not one of its kind; from then on it may also be
given another one.
-/

namespace QueryDefaults

namespace Store

section Changes

variable {s t : Store} {next later i : Nat}

theorem IsWhole.mono {v : Value} (h : s.IsWhole next i v) (grows : s.Grows next t later) :
    t.IsWhole later i v := by
  cases v with
  | list xs j => exact ⟨h.1, fun x hx => (h.2 x hx).mono grows⟩
  | mapping es j => exact ⟨h.1, fun e he => ⟨(h.2 e he).1.mono grows, (h.2 e he).2.mono grows⟩⟩
  | _ => exact h

theorem IsOrderly.le (h : s.IsOrderly next) (le : next ≤ later) : s.IsOrderly later where
  positive := Nat.lt_of_lt_of_le h.positive le
  below := fun i hi => ⟨(h.below i hi).1, Nat.lt_of_lt_of_le (h.below i hi).2 le⟩
  whole := fun i v found => (h.whole i v found).mono (.refl s le)
  marks := h.marks

/-- A store is orderly as before after a change of one object, a node or a mapping, which remains a node or a
mapping. -/
theorem IsOrderly.put (h : s.IsOrderly next) {v : Value} (others : ∀ j, j ≠ i → t[j]? = s[j]?)
    (there : t[i]? = some v) (positive : 0 < i) (bound : i < next)
    (sort : (∃ m k, s[i]? = some (.node m) ∧ v = .node k) ∨
      (∀ m, s[i]? ≠ some (.node m)) ∧ ∃ es, v = .mapping es i)
    (whole : s.IsWhole next i v)
    (marks : ∀ k es j, v = .node k → k.attrs.lookup marksName = some (.mapping es j) →
      ∃ fs : List Entry, s[j]? = some (.mapping fs j)) :
    t.IsOrderly next ∧ s.Grows next t next := by
  have grows : s.Grows next t next := by
    refine ⟨Nat.le_refl next, fun j hj => ?_, fun j m _ found => ?_⟩
    · by_cases here : j = i
      · exact here ▸ contains_of_getElem? there
      · rwa [Std.TreeMap.contains_eq_isSome_getElem?, others j here,
          ← Std.TreeMap.contains_eq_isSome_getElem?]
    · by_cases here : j = i
      · subst here
        cases there.symm.trans found
        obtain ⟨n, k, old, -⟩ | ⟨-, es, same⟩ := sort
        · exact ⟨n, old⟩
        · cases same
      · exact ⟨m, (others j here).symm.trans found⟩
  have mapped : ∀ (j : Nat) (fs : List Entry), s[j]? = some (.mapping fs j) →
      ∃ gs : List Entry, t[j]? = some (.mapping gs j) := by
    intro j fs old
    by_cases here : j = i
    · subst here
      obtain ⟨m, k, node, -⟩ | ⟨-, es, rfl⟩ := sort
      · cases old.symm.trans node
      · exact ⟨es, there⟩
    · exact ⟨fs, (others j here).trans old⟩
  refine ⟨⟨h.positive, fun j hj => ?_, fun j u found => ?_, fun j k es l found marked => ?_⟩, grows⟩
  · by_cases here : j = i
    · exact here ▸ ⟨positive, bound⟩
    · rw [Std.TreeMap.contains_eq_isSome_getElem?, others j here,
        ← Std.TreeMap.contains_eq_isSome_getElem?] at hj
      exact h.below j hj
  · by_cases here : j = i
    · subst here
      cases there.symm.trans found
      exact whole.mono grows
    · exact (h.whole j u ((others j here).symm.trans found)).mono grows
  · by_cases here : j = i
    · subst here
      cases there.symm.trans found
      exact (marks k es l rfl marked).elim fun fs old => mapped l fs old
    · exact (h.marks j k es l ((others j here).symm.trans found) marked).elim fun fs old => mapped l fs old

/-- A node changes, but not its number, and its marks remain in a mapping. -/
theorem IsOrderly.modify (h : s.IsOrderly next) {m : Node} (found : s[i]? = some (.node m)) {f : Node → Node}
    (id : (f m).id = m.id)
    (marks : ∀ es j, (f m).attrs.lookup marksName = some (.mapping es j) →
      ∃ fs : List Entry, s[j]? = some (.mapping fs j)) :
    IsOrderly (s.modify i (·.mapNode f)) next ∧ s.Grows next (s.modify i (·.mapNode f)) next := by
  have there : (s.modify i (·.mapNode f))[i]? = some (.node (f m)) := by
    rw [Std.TreeMap.getElem?_modify_self, found]
    rfl
  obtain ⟨positive, bound⟩ := h.below i (contains_of_getElem? found)
  have number : m.id = i := Option.some.inj (h.whole i _ found)
  refine h.put (fun j other => getElem?_modify_of_ne (Ne.symm other) _) there positive bound
    (.inl ⟨m, f m, found, rfl⟩) (congrArg some (id.trans number)) fun k es j same marked => ?_
  cases same
  exact marks es j marked

/-- A mapping gets other entries, or is put into the store. -/
theorem IsOrderly.insert (h : s.IsOrderly next) {es : List Entry} (positive : 0 < i) (bound : i < next)
    (free : ∀ m, s[i]? ≠ some (.node m)) (entries : ∀ e ∈ es, s.IsKept next e.key ∧ s.IsKept next e.value) :
    IsOrderly (s.insert i (.mapping es i)) next ∧
      s.Grows next (s.insert i (.mapping es i)) next :=
  h.put (fun _ other => getElem?_insert_of_ne (Ne.symm other) _) Std.TreeMap.getElem?_insert_self positive bound
    (.inr ⟨free, es, rfl⟩) ⟨rfl, entries⟩ fun _ _ _ same => nomatch same

end Changes
end Store

/-! ### Computations that leave objects alone -/

namespace SessionM

theorem run_get (st : Session) : (get : SessionM Session).run.run st = (.ok st, st) := rfl

theorem run_modify (f : Session → Session) (st : Session) :
    (modify f : SessionM Unit).run.run st = (.ok (), f st) := rfl

theorem run_lift {α : Type} {x : Except Fault α} {a : α} (h : x = .ok a) (st : Session) :
    (liftM x : SessionM α).run.run st = (.ok a, st) := by
  rw [h]
  rfl

/-- Whether a computation leaves the objects of a session alone and gives out no numbers. -/
def IsQuiet {α : Type} (m : SessionM α) : Prop :=
  ∀ st : Session, (m.run.run st).2.store = st.store ∧ (m.run.run st).2.nextId = st.nextId

namespace IsQuiet

variable {α β : Type}

theorem lift (x : Except Fault α) : IsQuiet (liftM x) := fun st => by cases x <;> exact ⟨rfl, rfl⟩

theorem bind {m : SessionM α} {f : α → SessionM β} (first : IsQuiet m) (rest : ∀ a, IsQuiet (f a)) :
    IsQuiet (m >>= f) := fun st => by
  cases run : m.run.run st with
  | mk result mid =>
    have quiet := first st
    rw [run] at quiet
    cases result with
    | error e =>
      rw [run_bind_error run]
      exact quiet
    | ok a =>
      rw [run_bind_ok run]
      have later := rest a mid
      exact ⟨later.1.trans quiet.1, later.2.trans quiet.2⟩

theorem digestOf (name : String) : IsQuiet (digestOf (.word name)) := fun _ => ⟨rfl, rfl⟩

theorem registered (types : List NamedType) (name : String) :
    IsQuiet (traced fun _ => registeredAt types (.word name)) := fun _ => ⟨rfl, Nat.max_zero _⟩

/-- To look for a text among other things does nothing to any object. -/
theorem holds (v : Value) (name : String) : IsQuiet (holds v (.word name)) := by
  cases v with
  | registry types mapId i => exact (registered types name).bind fun t => lift (pure t.isSome)
  | mapping es i => exact (digestOf name).bind fun d => (lift _).bind fun found => lift (pure found.isSome)
  | list xs | tuple xs | record _ xs => exact lift _
  | foreign f i =>
    cases f with
    | set => exact (digestOf name).bind fun d => lift (pure false)
    | _ => exact fun _ => ⟨rfl, rfl⟩
  | _ => exact fun _ => ⟨rfl, rfl⟩

end IsQuiet
end SessionM

/-- A node that forgets its digest has its other attributes. -/
theorem NodeOf.lookup_forget {key : String} (other : key ≠ digestName) (n : Node) :
    n.forget.attrs.lookup key = n.attrs.lookup key := by
  obtain ⟨_, _, as, _⟩ := n
  show (as.filter fun a => a.1 != digestName).lookup key = as.lookup key
  induction as with
  | nil => rfl
  | cons a as ih =>
    obtain ⟨name, v⟩ := a
    by_cases same : name = digestName
    · have skipped : (key == name) = false := beq_eq_false_iff_ne.2 (same ▸ other)
      rw [List.filter_cons_of_neg (by simp [same]), ih, List.lookup_cons, skipped]
    · rw [List.filter_cons_of_pos (by simpa using same), List.lookup_cons, List.lookup_cons, ih]

/-! ### What is touched -/

/-- Whether the objects of a session are orderly. -/
def Session.IsOrderly (st : Session) : Prop := st.store.IsOrderly st.nextId

/-- What becomes of a session in which a node may change: it stays orderly, the node stays a node, and all other
nodes stay what they are. -/
structure Session.Touches (st : Session) (i : Nat) (later : Session) : Prop where
  orderly : later.IsOrderly
  grows : st.store.Grows st.nextId later.store later.nextId
  nodes : ∀ j m, st.store[j]? = some (.node m) → ∃ k, later.store[j]? = some (.node k) ∧ (j ≠ i → k = m)

namespace Session.Touches

open SessionM

variable {α β : Type} {st mid later : Session} {i : Nat}

theorem trans (h : st.Touches i mid) (g : mid.Touches i later) : st.Touches i later where
  orderly := g.orderly
  grows := h.grows.trans g.grows
  nodes := fun j m found => by
    obtain ⟨k, there, same⟩ := h.nodes j m found
    obtain ⟨l, last, same'⟩ := g.nodes j k there
    exact ⟨l, last, fun other => (same' other).trans (same other)⟩

theorem other (h : st.Touches i later) {j : Nat} {m : Node} (ne : j ≠ i)
    (found : st.store[j]? = some (.node m)) :
    later.store[j]? = some (.node m) := by
  obtain ⟨k, there, same⟩ := h.nodes j m found
  exact same ne ▸ there

theorem quiet (h : st.IsOrderly) {m : SessionM α} (quiet : IsQuiet m) : st.Touches i (m.run.run st).2 := by
  obtain ⟨store, next⟩ := quiet st
  refine ⟨?_, ?_, fun j m found => ⟨m, ?_, fun _ => rfl⟩⟩
  · rw [Session.IsOrderly, store, next]
    exact h
  · rw [store, next]
    exact .refl _ (Nat.le_refl _)
  · rw [store]
    exact found

theorem bind {m : SessionM α} {f : α → SessionM β} (first : st.Touches i (m.run.run st).2)
    (rest : ∀ a mid, m.run.run st = (.ok a, mid) → st.Touches i mid →
      mid.Touches i ((f a).run.run mid).2) :
    st.Touches i ((m >>= f).run.run st).2 := by
  cases run : m.run.run st with
  | mk result mid =>
    rw [run] at first
    cases result with
    | error e =>
      rw [run_bind_error run]
      exact first
    | ok a =>
      rw [run_bind_ok run]
      exact first.trans (rest a mid run first)

/-- New numbers. -/
theorem next (h : st.IsOrderly) {n : Nat} (le : st.nextId ≤ n) : st.Touches i { st with nextId := n } where
  orderly := Store.IsOrderly.le h le
  grows := .refl _ le
  nodes := fun _ m found => ⟨m, found, fun _ => rfl⟩

/-! ### Changes -/

/-- To keep a kept value only gives out numbers. -/
theorem keep_kept (h : st.IsOrderly) {v : Value} (kept : st.store.IsKept st.nextId v) :
    ∃ w later, st.store.keep st.nextId v = (w, ⟨st.store, later⟩) ∧ st.nextId ≤ later ∧
      st.store.IsKept later w := by
  obtain ⟨first, le, same⟩ := st.store.keep_eq st.nextId v
  obtain ⟨w, later, run, le', kept'⟩ := kept.keeps (fun i hi => (Store.IsOrderly.below h i hi).1) first le
  exact ⟨w, later, same.trans run, Nat.le_trans le le', kept'⟩

/-- A node changes, but not its number, and its marks remain in a mapping. -/
theorem modify (h : st.IsOrderly) {m : Node} (found : st.store[i]? = some (.node m)) {f : Node → Node}
    (id : (f m).id = m.id)
    (marks : ∀ es j, (f m).attrs.lookup marksName = some (.mapping es j) →
      ∃ fs : List Entry, st.store[j]? = some (.mapping fs j)) :
    st.Touches i { st with store := st.store.modify i (·.mapNode f) } := by
  obtain ⟨orderly, grows⟩ := Store.IsOrderly.modify h found id marks
  refine ⟨orderly, grows, fun j k there => ?_⟩
  by_cases here : j = i
  · subst here
    refine ⟨f m, ?_, fun other => absurd rfl other⟩
    show (st.store.modify j (·.mapNode f))[j]? = _
    rw [Std.TreeMap.getElem?_modify_self, found]
    rfl
  · exact ⟨k, (Store.getElem?_modify_of_ne (Ne.symm here) _).trans there, fun _ => rfl⟩

/-- An attribute that is no mapping of marks is assigned. -/
theorem attr (h : st.IsOrderly) {m : Node} (found : st.store[i]? = some (.node m)) {name : String} {v : Value}
    (other : name ≠ marksName) (kept : st.store.IsKept st.nextId v) :
    st.Touches i ((change (.attr i name v)).run.run st).2 := by
  obtain ⟨w, later, run, le, -⟩ := keep_kept h kept
  rw [run_attr run]
  have numbers := next (i := i) h le
  refine numbers.trans (modify numbers.orderly found rfl fun es j marked => ?_)
  replace marked : (putNamed name w m.attrs).lookup marksName = some (.mapping es j) := marked
  rw [lookup_putNamed_of_ne (Ne.symm other)] at marked
  exact Store.IsOrderly.marks h i m es j found marked

/-- The marks of a node get into another mapping. -/
theorem marks (h : st.IsOrderly) {m : Node} (found : st.store[i]? = some (.node m)) {id : Nat} {fs : List Entry}
    (there : st.store[id]? = some (.mapping fs id)) :
    ∃ mid, (change (.attr i marksName (.mapping [] id))).run.run st = (.ok (), mid) ∧ st.Touches i mid ∧
      mid.store[id]? = some (.mapping fs id) := by
  obtain ⟨first, le, same⟩ := st.store.keep_eq st.nextId (.mapping [] id)
  have known : st.store.known (.mapping [] id) = some (.mapping [] id) := by
    rw [Store.known, if_pos (Store.contains_of_getElem? there)]
  have run : st.store.keep st.nextId (.mapping [] id) = (.mapping [] id, ⟨st.store, first⟩) := by
    rw [same, Value.rebuild, known]
    rfl
  have numbers := next (i := i) h le
  refine ⟨_, run_attr run, numbers.trans (modify numbers.orderly found rfl fun es j marked => ?_), ?_⟩
  · replace marked : (putNamed marksName (.mapping [] id) m.attrs).lookup marksName = some (.mapping es j) :=
      marked
    rw [lookup_putNamed_self] at marked
    cases marked
    exact ⟨fs, there⟩
  · have apart : i ≠ id := by
      rintro rfl
      cases found.symm.trans there
    exact (Store.getElem?_modify_of_ne apart _).trans there

/-- A node forgets its digest. -/
theorem forget (h : st.IsOrderly) {m : Node} (found : st.store[i]? = some (.node m)) :
    st.Touches i ((change (.forget i)).run.run st).2 := by
  rw [run_forget]
  refine modify h found rfl fun es j marked => Store.IsOrderly.marks h i m es j found ?_
  rwa [NodeOf.lookup_forget (by decide)] at marked

theorem run_keepEntries : ∀ {es : List Entry} {st : Session}, st.IsOrderly →
    (∀ e ∈ es, st.store.IsKept st.nextId e.key ∧ st.store.IsKept st.nextId e.value) →
      ∃ fs later, (es.mapM fun e => do
          let key ← keep e.key
          let value ← keep e.value
          return { e with key, value } : SessionM (List Entry)).run.run st =
            (.ok fs, { st with nextId := later }) ∧ st.nextId ≤ later ∧
        ∀ f ∈ fs, st.store.IsKept later f.key ∧ st.store.IsKept later f.value
  | [], st, _, _ => ⟨[], st.nextId, rfl, Nat.le_refl _, fun f hf => nomatch hf⟩
  | e :: es, st, h, kept => by
    obtain ⟨⟨keptKey, keptValue⟩, others⟩ := List.forall_mem_cons.1 kept
    obtain ⟨k, second, key, le₁, stays₁⟩ := keep_kept h keptKey
    have grows₁ := Store.Grows.refl st.store le₁
    have h₁ : Session.IsOrderly { st with nextId := second } := Store.IsOrderly.le h le₁
    obtain ⟨v, third, value, le₂, stays₂⟩ := keep_kept h₁ (keptValue.mono grows₁)
    have grows₂ := grows₁.trans (Store.Grows.refl st.store le₂)
    have h₂ : Session.IsOrderly { st with nextId := third } := Store.IsOrderly.le h₁ le₂
    obtain ⟨fs, later, rest, le₃, all⟩ := run_keepEntries h₂
      fun f hf => ⟨(others f hf).1.mono grows₂, (others f hf).2.mono grows₂⟩
    refine ⟨{ e with key := k, value := v } :: fs, later, ?_, Nat.le_trans le₁ (Nat.le_trans le₂ le₃),
      List.forall_mem_cons.2 ⟨⟨stays₁.mono (.refl _ (Nat.le_trans le₂ le₃)), stays₂.mono (.refl _ le₃)⟩, all⟩⟩
    have first : (do
        let key ← keep e.key
        let value ← keep e.value
        return { e with key, value } : SessionM Entry).run.run st =
          (.ok { e with key := k, value := v }, { st with nextId := third }) := by
      rw [run_bind_ok (run_keep key), run_bind_ok (run_keep value)]
      rfl
    rw [List.mapM_cons, run_bind_ok first, run_bind_ok rest]
    rfl

/-- A mapping gets other entries, or is put into the store, and no node is touched. -/
theorem entries (h : st.IsOrderly) {id : Nat} (es : List Entry) (positive : 0 < id) (bound : id < st.nextId)
    (free : ∀ m, st.store[id]? ≠ some (.node m))
    (kept : ∀ e ∈ es, st.store.IsKept st.nextId e.key ∧ st.store.IsKept st.nextId e.value) :
    ∃ mid, (change (.entries id es)).run.run st = (.ok (), mid) ∧ (∀ i, st.Touches i mid) ∧
      ∃ fs, mid.store[id]? = some (.mapping fs id) := by
  obtain ⟨fs, later, run, le, all⟩ := run_keepEntries h kept
  obtain ⟨orderly, grows⟩ :=
    Store.IsOrderly.insert (Store.IsOrderly.le h le) positive (Nat.lt_of_lt_of_le bound le) free all
  have kept' : (keepChange (.entries id es)).run.run st = (.ok (.entries id fs), { st with nextId := later }) :=
    (run_bind_ok run _).trans rfl
  refine ⟨{ st with store := st.store.change (.entries id fs), nextId := later },
    (run_bind_ok kept' _).trans rfl, fun i => (next h le).trans ⟨orderly, grows, ?_⟩, fs,
    Std.TreeMap.getElem?_insert_self⟩
  intro j m there
  have other : id ≠ j := fun same => free m (same ▸ there)
  exact ⟨m, (Store.getElem?_insert_of_ne other _).trans there, fun _ => rfl⟩

/-! ### Assignments -/

/-- A node gets a mapping that holds its marks. -/
theorem newMarks (h : st.IsOrderly) {m : Node} (found : st.store[i]? = some (.node m)) {id : Nat}
    (es : List Entry) (positive : 0 < id) (bound : id < st.nextId) (free : ∀ m, st.store[id]? ≠ some (.node m))
    (kept : ∀ e ∈ es, st.store.IsKept st.nextId e.key ∧ st.store.IsKept st.nextId e.value) :
    ∃ mid, (do
        change (.entries id es)
        change (.attr i marksName (.mapping [] id)) : SessionM Unit).run.run st = (.ok (), mid) ∧
      st.Touches i mid ∧ ∃ fs, mid.store[id]? = some (.mapping fs id) := by
  obtain ⟨mid, run, touches, fs, there⟩ := entries h es positive bound free kept
  have still := (touches id).other (fun same => free m (same ▸ found)) found
  obtain ⟨later, rerun, last, mapping⟩ := marks (touches i).orderly still there
  exact ⟨later, (run_bind_ok run _).trans rerun, (touches i).trans last, fs, mapping⟩

/-- The mapping of a node's marks is there once it was asked for. -/
theorem marksOf (h : st.IsOrderly) {m : Node} (found : st.store[i]? = some (.node m)) :
    ∃ id mid, (marksOf i).run.run st = (.ok id, mid) ∧ st.Touches i mid ∧
      ∃ fs, mid.store[id]? = some (.mapping fs id) := by
  cases marked : st.store.marks? i with
  | some id =>
    refine ⟨id, st, ?_, quiet h (IsQuiet.lift (.ok ())), ?_⟩
    · rw [SessionM.marksOf, run_bind_ok (run_get st), marked]
      rfl
    · simp only [Store.marks?, found] at marked
      split at marked
      · next es j there =>
        cases marked
        exact Store.IsOrderly.marks h i m es id found there
      · cases marked
  | none =>
    have numbers := next (i := i) h (Nat.le_succ st.nextId)
    have fresh : st.store.contains st.nextId = false :=
      Bool.eq_false_iff.2 fun there => Nat.lt_irrefl _ (Store.IsOrderly.below h st.nextId there).2
    obtain ⟨mid, run, touches, fs, mapping⟩ := newMarks numbers.orderly found []
      (Store.IsOrderly.positive h) (Nat.lt_succ_self _)
      (fun k there => by rw [Store.contains_of_getElem? there] at fresh; cases fresh) fun e he => nomatch he
    refine ⟨st.nextId, mid, ?_, numbers.trans touches, fs, mapping⟩
    have number : freshId.run.run st = (.ok st.nextId, { st with nextId := st.nextId + 1 }) := rfl
    rw [SessionM.marksOf, run_bind_ok (run_get st), marked]
    show (freshId >>= fun id => (do
      change (.entries id [])
      change (.attr i marksName (.mapping [] id)) : SessionM Unit) >>= fun _ => pure id).run.run st = _
    rw [run_bind_ok number, run_bind_ok run]
    rfl

theorem mem_putAt {digest : Digest} {key v : Value} : ∀ {es fs : List Entry}, putAt digest key v es = .ok fs →
    ∀ f ∈ fs, (f.key = key ∨ ∃ e ∈ es, f.key = e.key) ∧ (f.value = v ∨ ∃ e ∈ es, f.value = e.value)
  | [], fs, put, f, hf => by
    cases put
    obtain rfl := List.mem_singleton.1 hf
    exact ⟨.inl rfl, .inl rfl⟩
  | e :: es, fs, put, f, hf => by
    have first := List.mem_cons_self (a := e) (l := es)
    rw [putAt] at put
    cases test : key.isKeyOf digest e with
    | error =>
      rw [test] at put
      cases put
    | ok same =>
      rw [test, ok_bind] at put
      cases same with
      | true =>
        cases put
        rcases List.mem_cons.1 hf with rfl | old
        · exact ⟨.inr ⟨e, first, rfl⟩, .inl rfl⟩
        · exact ⟨.inr ⟨f, List.mem_cons_of_mem _ old, rfl⟩, .inr ⟨f, List.mem_cons_of_mem _ old, rfl⟩⟩
      | false =>
        cases rest : putAt digest key v es with
        | error =>
          rw [rest] at put
          cases put
        | ok gs =>
          rw [rest] at put
          cases put
          rcases List.mem_cons.1 hf with rfl | later
          · exact ⟨.inr ⟨f, first, rfl⟩, .inr ⟨f, first, rfl⟩⟩
          · obtain ⟨keys, values⟩ := mem_putAt rest f later
            exact ⟨keys.imp_right fun ⟨d, hd, same⟩ => ⟨d, List.mem_cons_of_mem _ hd, same⟩,
              values.imp_right fun ⟨d, hd, same⟩ => ⟨d, List.mem_cons_of_mem _ hd, same⟩⟩

/-- An attribute that is not among those of its kind is put among the marks of a node. -/
theorem mark (h : st.IsOrderly) {m : Node} (found : st.store[i]? = some (.node m)) {v : Value}
    (kept : st.store.IsKept st.nextId v) (name : String) :
    st.Touches i ((mark i name v).run.run st).2 := by
  obtain ⟨id, mid, run, touches, fs, there⟩ := marksOf h found
  rw [SessionM.mark, run_bind_ok run, run_bind_ok (run_get mid), there]
  obtain ⟨positive, bound⟩ := Store.IsOrderly.below touches.orderly id (Store.contains_of_getElem? there)
  have whole := (Store.IsOrderly.whole touches.orderly id _ there).2
  refine touches.trans ?_
  show mid.Touches i (((liftM (putAt (.ofText name) (.word name) v fs) : SessionM (List Entry)) >>= fun es =>
    change (.entries id es)).run.run mid).2
  cases put : putAt (.ofText name) (.word name) v fs with
  | error e => exact quiet touches.orderly (IsQuiet.lift (.error e))
  | ok es =>
    obtain ⟨last, rerun, others, -⟩ := entries touches.orderly es positive bound
      (fun k node => by cases there.symm.trans node) fun e he => by
        obtain ⟨keys, values⟩ := mem_putAt put e he
        refine ⟨?_, ?_⟩
        · obtain same | ⟨f, hf, same⟩ := keys
          · exact same ▸ .simple rfl
          · exact same ▸ (whole f hf).1
        · obtain same | ⟨f, hf, same⟩ := values
          · exact same ▸ kept.mono touches.grows
          · exact same ▸ (whole f hf).2
    rw [run_bind_ok (run_lift rfl mid), rerun]
    exact others i

theorem replaceMarks (h : st.IsOrderly) {m : Node} (found : st.store[i]? = some (.node m)) {v : Value}
    (kept : st.store.IsKept st.nextId v) :
    st.Touches i ((replaceMarks i v).run.run st).2 := by
  obtain ⟨w, later, run, le, kept'⟩ := keep_kept h kept
  have numbers := next (i := i) h le
  have present : (present v).run.run st = (.ok (st.store.view w), { st with nextId := later }) :=
    (run_bind_ok (run_keep run) _).trans rfl
  have seen := kept'.view numbers.orderly
  rw [SessionM.replaceMarks, run_bind_ok present]
  refine numbers.trans ?_
  generalize st.store.view w = u at seen
  split
  · next es id =>
    cases seen with
    | simple plain => cases plain
    | object number => cases number
    | mapping positive bound free keys values =>
      obtain ⟨mid, run, touches, -⟩ := newMarks (i := i) numbers.orderly found es
        positive bound free fun e he => ⟨keys e he, values e he⟩
      rw [run]
      exact touches
  · exact quiet numbers.orderly (IsQuiet.lift (.error .operand))

/-- An attribute is put where nodes have it: in the node itself, or among its marks. -/
theorem place (h : st.IsOrderly) {m : Node} (found : st.store[i]? = some (.node m)) {v : Value}
    (kept : st.store.IsKept st.nextId v) (kind : Kind) (name : String) :
    st.Touches i ((if kind.hasPlaceFor name then change (.attr i name v)
      else if name = marksName then SessionM.replaceMarks i v
      else if name = "__class__" then throw .operand
      else if name = "__weakref__" then throw .noAttribute
      else SessionM.mark i name v : SessionM Unit).run.run st).2 := by
  split
  · next place =>
    refine attr h found ?_ kept
    rintro rfl
    simp only [Kind.hasPlaceFor, Bool.or_eq_true, List.contains_iff_mem] at place
    exact place.elim kind.marksName_notMem (by decide)
  · split
    · exact replaceMarks h found kept
    · split
      · exact quiet h (IsQuiet.lift (.error .operand))
      · split
        · exact quiet h (IsQuiet.lift (.error .noAttribute))
        · exact mark h found kept name

/-- An assignment touches no other node. -/
theorem assign (h : st.IsOrderly) {n m : Node} (found : st.store[n.id]? = some (.node m)) {v : Value}
    (kept : st.store.IsKept st.nextId v) (name : String) :
    st.Touches n.id ((assign (.node n) name v).run.run st).2 := by
  have parts : SessionM.assign (.node n) name v = (do
      (if hasDigest n then do
        let counts ← holds n.keysValue (.word name)
        if counts then change (.forget n.id)
      else pure () : SessionM Unit)
      (if n.kind.hasPlaceFor name then change (.attr n.id name v)
        else if name = marksName then SessionM.replaceMarks n.id v
        else if name = "__class__" then throw .operand
        else if name = "__weakref__" then throw .noAttribute
        else SessionM.mark n.id name v : SessionM Unit)
      return .node n) := by
    unfold SessionM.assign
    dsimp only
    split
    · rw [bind_assoc]
      refine congrArg _ (funext fun counts => ?_)
      cases counts <;> simp only [Bool.false_eq_true, if_true, if_false, pure_bind] <;> split_ifs <;> rfl
    · simp only [pure_bind]
      split_ifs <;> rfl
  rw [parts]
  refine bind ?_ fun _ mid run touches => ?_
  · split
    · refine bind (quiet h (IsQuiet.holds _ _)) fun counts mid run touches => ?_
      obtain ⟨k, there, -⟩ := touches.nodes n.id m found
      split
      · exact forget touches.orderly there
      · exact quiet touches.orderly (IsQuiet.lift (.ok ()))
    · exact quiet h (IsQuiet.lift (.ok ()))
  · obtain ⟨k, there, -⟩ := touches.nodes n.id m found
    exact bind (place touches.orderly there (kept.mono touches.grows) n.kind name) fun _ last _ touched =>
      quiet touched.orderly (IsQuiet.lift (.ok _))

end Session.Touches

end QueryDefaults
