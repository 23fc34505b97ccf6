import QueryDefaults.Proofs.Sound
import QueryDefaults.Session.Objects

/-!
Hashes of nodes that change. A node keeps the hash that was first taken of it and forgets it when one of its
own attributes is assigned, but not when a node inside it changes; whether nodes are equal is always seen from
what they are at present. So nodes that are equal have one hash after every sequence of steps in which no node
is assigned to that lies in another one which keeps its hash (`Session.afterAll_digest`): each such step
leaves all hashes that are kept those of the present content (`Session.IsSound.after`). Without this care
equal nodes may have different hashes (`staleSteps_digest`).
-/

namespace QueryDefaults

/-! ### Computations in a session -/

namespace SessionM

variable {α β : Type} {st mid : Session}

theorem run_bind_ok {m : SessionM α} {a : α} (h : m.run.run st = (.ok a, mid)) (f : α → SessionM β) :
    (m >>= f).run.run st = (f a).run.run mid := by
  rw [ExceptT.run_bind, StateT.run_bind, h]
  rfl

theorem run_bind_error {m : SessionM α} {e : Fault} (h : m.run.run st = (.error e, mid))
    (f : α → SessionM β) : (m >>= f).run.run st = (.error e, mid) := by
  rw [ExceptT.run_bind, StateT.run_bind, h]
  rfl

theorem run_view (v : Value) : (view v).run.run st = (.ok (st.store.view v), st) := rfl

theorem run_keep {v w : Value} {s : Store} {later : Nat} (h : st.store.keep st.nextId v = (w, ⟨s, later⟩)) :
    (keep v).run.run st = (.ok w, { st with store := s, nextId := later }) := by
  have run : (keep v).run.run st = (.ok (st.store.keep st.nextId v).1,
      { st with
        store := (st.store.keep st.nextId v).2.store
        nextId := (st.store.keep st.nextId v).2.next }) := rfl
  rw [run, h]

theorem run_forget (i : Nat) :
    (change (.forget i)).run.run st = (.ok (), { st with store := st.store.change (.forget i) }) := rfl

theorem run_digests (taken : Digests) :
    (change (.digests taken)).run.run st =
      (.ok (), { st with store := st.store.change (.digests taken) }) := rfl

theorem run_attr {i later : Nat} {name : String} {v w : Value}
    (h : st.store.keep st.nextId v = (w, ⟨st.store, later⟩)) :
    (change (.attr i name v)).run.run st =
      (.ok (), { st with store := st.store.change (.attr i name w), nextId := later }) := by
  have kept : (keepChange (.attr i name v)).run.run st =
      (.ok (.attr i name w), { st with nextId := later }) := (run_bind_ok (run_keep h) _).trans rfl
  exact (run_bind_ok kept _).trans rfl

theorem run_noteKey (st : Session) (v : Value) :
    ∃ noted, (noteKey v).run.run st =
      (.ok (), { st with store := st.store.change (.digests v.newDigests), noted }) := by
  rw [noteKey, noteDigests]
  cases v.newDigests with
  | nil => exact ⟨st.noted, rfl⟩
  | cons p taken => exact ⟨st.noted ++ p :: taken, (run_bind_ok (run_digests _) _).trans rfl⟩

theorem run_digestOf (st : Session) {v : Value} {d : Digest} (h : v.digest = .ok d) :
    ∃ noted, (digestOf v).run.run st =
      (.ok d, { st with store := st.store.change (.digests v.newDigests), noted }) := by
  obtain ⟨noted, run⟩ := run_noteKey st v
  refine ⟨noted, (run_bind_ok run _).trans ?_⟩
  rw [h]
  rfl

end SessionM

/-! ### Steps -/

/-- What is done with nodes: one is made, an attribute is assigned, a hash is taken. -/
inductive NodeStep where
  | make (kind : Kind) (attrs : List (String × Value))
  | assign (target : Value) (name : String) (value : Value)
  | hash (v : Value)

open SessionM in
/-- Carries out a step on what a session keeps. -/
def NodeStep.perform : NodeStep → SessionM Unit
  | .make kind attrs => do
    let _ ← newNode kind attrs
  | .assign target name value => do
    let target ← view target
    let _ ← SessionM.assign target name value
  | .hash v => do
    let v ← view v
    let _ ← digestOf v

/-- A session after a step, whether the step fails or not. -/
def Session.after (st : Session) (step : NodeStep) : Session := (step.perform.run.run st).2

/-- Whether a step has values with digests and leaves all hashes right that nodes keep: an attribute is
assigned that the class of its node lists, the node does not get to lie in itself, and no other node that it
lies in keeps a hash. -/
def NodeStep.IsCareful (st : Session) : NodeStep → Prop
  | .make _ attrs => ∀ a ∈ attrs, st.store.IsGiven a.2
  | .assign target name value => ∃ n m, target = .node n ∧ st.store[n.id]? = some (.node m) ∧
      name ∈ m.kind.keys ∧ st.store.IsHashable value ∧ ¬ st.store.Reaches value n.id ∧
      ∀ i k, st.store[i]? = some (.node k) → k.digest.isSome = true → st.store.Reaches (Store.nodeAt i) n.id →
        i = n.id
  | .hash v => st.store.IsHashable v

/-! ### Sound sessions -/

/-- A session whose store is sound, and whose numbers from the next one on are not taken. -/
structure Session.IsSound (st : Session) : Prop where
  store : st.store.IsSound
  positive : 0 < st.nextId
  below : ∀ i, st.store.contains i = true → 0 < i ∧ i < st.nextId

/-- Whether a name is among others is seen from their texts. -/
theorem isAmong_words (name : String) (keys : List String) :
    SessionM.isAmong (.word name) (keys.map .word) = .ok (keys.contains name) := by
  induction keys with
  | nil => rfl
  | cons key keys ih =>
    have item : (Value.word key).isItem (.word name) = .ok (key == name) := by
      cases same : key == name <;>
        simp [Value.isItem, Value.word, Value.same, Value.equals, Value.isText, same, oneObject,
          constant] <;> rfl
    rw [List.map_cons, SessionM.isAmong, item, List.contains_cons, BEq.comm (a := name)]
    cases key == name with
    | true => rfl
    | false => exact ih

/-- What a session is when a node has forgotten the digest that it keeps, if any. -/
def Session.forgetting (st : Session) (n : Node) : Session :=
  if n.digest.isSome then { st with store := st.store.change (.forget n.id) } else st

/-- An attribute that counts for a node is assigned once the node has forgotten its digest. -/
theorem run_assign {st last : Session} {n : Node} {name : String} {value : Value} (built : n.IsBuilt)
    (known : name ∈ n.kind.keys)
    (run : (SessionM.change (.attr n.id name value)).run.run (st.forgetting n) = (.ok (), last)) :
    (SessionM.assign (.node n) name value).run.run st = (.ok (.node n), last) := by
  have names : n.attrs.map Prod.fst = n.kind.keys := built
  have ungiven : n.attrs.lookup digestName = none := lookup_eq_none (names ▸ Kind.keys_own.2)
  have unlisted : n.attrs.lookup "keys" = none := lookup_eq_none (names ▸ Kind.keys_own.1)
  have counts : (SessionM.holds n.keysValue (.word name)).run.run st = (.ok true, st) := by
    have among := isAmong_words name n.kind.keys
    rw [List.contains_iff_mem.2 known] at among
    rw [NodeOf.keysValue, unlisted]
    show (liftM (SessionM.isAmong (.word name) (n.kind.keys.map .word)) : SessionM Bool).run.run st = _
    rw [among]
    rfl
  have place : n.kind.hasPlaceFor name = true := by simp [Kind.hasPlaceFor, known]
  rw [Session.forgetting] at run
  cases digest : n.digest.isSome with
  | true =>
    rw [digest, if_pos rfl] at run
    simp only [SessionM.assign, SessionM.hasDigest, digest, Bool.true_or, if_true, place]
    rw [SessionM.run_bind_ok counts]
    simp only [if_true]
    rw [SessionM.run_bind_ok (SessionM.run_forget n.id), SessionM.run_bind_ok run]
    rfl
  | false =>
    rw [digest, if_neg Bool.false_ne_true] at run
    simp only [SessionM.assign, SessionM.hasDigest, digest, ungiven, place, if_true]
    simp only [Option.isSome_none, Bool.or_self, Bool.false_eq_true, if_false]
    rw [SessionM.run_bind_ok run]
    rfl

namespace Session.IsSound

open SessionM

variable {st : Session}

theorem no_zero (h : st.IsSound) : st.store.contains 0 = false :=
  Bool.eq_false_iff.2 fun there => Nat.lt_irrefl 0 (h.below 0 there).1

/-- Making a node keeps a session sound. -/
theorem make (h : st.IsSound) {kind : Kind} {attrs : List (String × Value)}
    (given : ∀ a ∈ attrs, st.store.IsGiven a.2) : (st.after (.make kind attrs)).IsSound := by
  cases made : NodeOf.build kind attrs with
  | error e =>
    have failed : (newNode kind attrs).run.run st = (.error e, st) :=
      run_bind_error (by rw [made]; rfl) _
    have same : st.after (.make kind attrs) = st := congrArg Prod.snd (run_bind_error failed _)
    rw [same]
    exact h
  | ok n =>
    obtain ⟨whole, names, parts⟩ := Store.build_hashable given made
    obtain ⟨i, bs, kept, le, built, hashable⟩ := Store.keep_node h.no_zero names parts st.nextId
    rw [← whole] at kept
    have built' : (liftM (NodeOf.build kind attrs) : SessionM Node).run.run st = (.ok n, st) := by
      rw [made]
      rfl
    have run : (newNode kind attrs).run.run st = _ := (run_bind_ok built' _).trans (run_keep kept)
    have same : st.after (.make kind attrs) =
        { st with store := st.store.insert i (.node ⟨i, kind, bs, none⟩), nextId := i + 1 } :=
      congrArg Prod.snd (run_bind_ok run _)
    have unreached : ∀ {v : Value}, st.store.IsHashable v → ¬ st.store.Reaches v i := by
      intro v hashable reached
      obtain ⟨m, hm⟩ := hashable.reaches reached
      have there : st.store.contains i = true := by
        rw [Std.TreeMap.contains_eq_isSome_getElem?, hm]
        rfl
      exact Nat.not_lt.2 le (h.below i there).2
    rw [same]
    refine ⟨?_, Nat.succ_pos i, fun j hj => ?_⟩
    · have puts := Store.Puts.insert (k := ⟨i, kind, bs, none⟩) built rfl fun a ha =>
        ⟨hashable a ha, unreached (hashable a ha)⟩
      exact puts.isSound h.store fun j l found _ reached =>
        absurd reached (unreached (h.store.hashable j l found))
    · have positive := h.positive
      rw [Std.TreeMap.contains_insert] at hj
      rcases Bool.or_eq_true_iff.1 hj with same | old
      · obtain rfl : i = j := Std.LawfulEqCmp.eq_of_compare (beq_iff_eq.1 same)
        exact ⟨by omega, Nat.lt_succ_self i⟩
      · have bounds := h.below j old
        exact ⟨bounds.1, by show j < i + 1; omega⟩

/-- Taking a hash keeps a session sound. -/
theorem hash (h : st.IsSound) {v : Value} (hashable : st.store.IsHashable v) :
    (st.after (.hash v)).IsSound := by
  obtain ⟨d, hd⟩ := hashable
  obtain ⟨noted, run⟩ := run_digestOf st (hd.digest h.store.fresh)
  have same : st.after (.hash v) =
      { st with store := st.store.change (.digests (st.store.view v).newDigests), noted } := by
    rw [Session.after, NodeStep.perform, run_bind_ok (run_view v), run_bind_ok run]
    rfl
  rw [same]
  refine ⟨h.store.digests (hd.newDigests h.store.fresh), h.positive, fun i hi => h.below i ?_⟩
  rw [Std.TreeMap.contains_eq_isSome_getElem?, Store.getElem?_digests, Option.isSome_map] at hi
  rwa [Std.TreeMap.contains_eq_isSome_getElem?]

/-- A node that forgets its digest leaves a session sound, if no other node that it lies in keeps one. -/
theorem forgetting (h : st.IsSound) {n m : Node} (there : st.store[m.id]? = some (.node m)) (id : n.id = m.id)
    (same : n.digest = m.digest) (free : ∀ j l, st.store[j]? = some (.node l) → l.digest.isSome = true →
      st.store.Reaches (Store.nodeAt j) m.id → j = m.id) :
    (st.forgetting n).IsSound ∧ st.store.Forgets (st.forgetting n).store m := by
  rw [Session.forgetting, id]
  cases digest : n.digest with
  | none => exact ⟨h, .refl there (same.symm.trans digest)⟩
  | some d =>
    obtain ⟨-, built, -⟩ := h.store.node there
    have forgets := Store.Forgets.change there built
    refine ⟨⟨(forgets.puts built).isSound h.store free, h.positive, fun i hi => h.below i ?_⟩, forgets⟩
    replace hi : (st.store.modify m.id (·.mapNode NodeOf.forget)).contains i = true := hi
    rwa [Std.TreeMap.contains_modify] at hi

/-- Assigning an attribute with care keeps a session sound. -/
theorem assign (h : st.IsSound) {target value : Value} {name : String}
    (careful : (NodeStep.assign target name value).IsCareful st) :
    (st.after (.assign target name value)).IsSound := by
  obtain ⟨n, m, rfl, there, known, hashable, apart, free⟩ := careful
  obtain ⟨w, seen, id, kind, digest, whole⟩ := h.store.view_node there
  obtain ⟨own, built, -⟩ := h.store.node there
  rw [← own] at there apart free
  obtain ⟨sound, forgets⟩ := h.forgetting there id digest free
  obtain ⟨v, later, kept, le, stays⟩ :=
    (hashable.congr fun i k _ => forgets.same i k).keep sound.no_zero (st.forgetting w).nextId
  have same : st.after (.assign (.node n) name value) = { st.forgetting w with
      store := (st.forgetting w).store.change (.attr m.id name v), nextId := later } := by
    rw [Session.after, NodeStep.perform, run_bind_ok (run_view _), seen,
      run_bind_ok (run_assign whole (kind ▸ known) (run_attr kept)), id]
    rfl
  have puts : (st.forgetting w).store.Puts ((st.forgetting w).store.change (.attr m.id name v))
      (NodeOf.assign { m with digest := none } name v) :=
    .attr (m := { m with digest := none }) forgets.now built rfl known stays.hashable fun reached =>
      apart ((stays.reaches m.id reached).congr forgets.attrs)
  rw [same]
  refine ⟨puts.isSound sound.store fun j l found keeps reached => ?_,
    Nat.lt_of_lt_of_le sound.positive le, fun i hi => ?_⟩
  · by_cases here : j = m.id
    · exact here
    · exact free j l ((forgets.others j here).symm.trans found) keeps (reached.congr forgets.attrs)
  · replace hi : ((st.forgetting w).store.modify m.id (·.mapNode (·.assign name v))).contains i = true := hi
    rw [Std.TreeMap.contains_modify] at hi
    exact ⟨(sound.below i hi).1, Nat.lt_of_lt_of_le (sound.below i hi).2 le⟩

/-- A careful step keeps a session sound. -/
theorem after (h : st.IsSound) {step : NodeStep} (careful : step.IsCareful st) : (st.after step).IsSound := by
  cases step with
  | make kind attrs => exact h.make careful
  | assign target name value => exact h.assign careful
  | hash v => exact h.hash careful

end Session.IsSound

/-! ### Runs -/

/-- A session after steps that are carried out one after the other. -/
def Session.afterAll (st : Session) (steps : List NodeStep) : Session := steps.foldl Session.after st

/-- Whether each step is careful in the session in which it is carried out. -/
def Session.AreCareful (st : Session) : List NodeStep → Prop
  | [] => True
  | step :: steps => step.IsCareful st ∧ (st.after step).AreCareful steps

/-- Careful steps keep a session sound. -/
theorem Session.IsSound.afterAll {steps : List NodeStep} :
    ∀ {st : Session}, st.IsSound → st.AreCareful steps → (st.afterAll steps).IsSound := by
  induction steps with
  | nil => exact fun h _ => h
  | cons step steps ih => exact fun h careful => ih (h.after careful.1) careful.2

theorem Session.new_isSound : Session.new.IsSound where
  store.hashable := fun i m found => by simp [Session.new] at found
  store.fresh := fun i m d found => by simp [Session.new] at found
  positive := by decide
  below := fun i hi => by simp [Session.new] at hi

/-- After careful steps nodes that are equal have one hash. -/
theorem Session.afterAll_digest {steps : List NodeStep} (careful : Session.new.AreCareful steps) {i j : Nat}
    {n m : Node} (first : (Session.new.afterAll steps).store[i]? = some (.node n))
    (second : (Session.new.afterAll steps).store[j]? = some (.node m))
    (equal : ((Session.new.afterAll steps).store.view (Store.nodeAt i)).equals
      ((Session.new.afterAll steps).store.view (Store.nodeAt j)) = .ok true) :
    ∃ d, ((Session.new.afterAll steps).store.view (Store.nodeAt i)).digest = .ok d ∧
      ((Session.new.afterAll steps).store.view (Store.nodeAt j)).digest = .ok d := by
  have sound := Session.new_isSound.afterAll careful
  obtain ⟨d, hd⟩ := sound.store.hashable i n first
  obtain ⟨e, he⟩ := sound.store.hashable j m second
  obtain rfl : d = e := hd.eq_of_equals he equal
  exact ⟨d, hd.digest sound.store.fresh, he.digest sound.store.fresh⟩

/-! ### Two nodes that become equal -/

/-- A step that makes a node of a text. -/
def makeText (s : String) : NodeStep := .make .stringValue [("value", .word s)]

/-- A step that makes a list with one node in it. -/
def makeList (i : Nat) : NodeStep := .make .listValue [("values", .list [Store.nodeAt i])]

/-- The text in the list with the number 102 is changed before the hash of the list is taken. Then a list is
made that equals it. -/
def freshSteps : List NodeStep :=
  [makeText "a", makeList 100, .assign (Store.nodeAt 100) "value" (.word "b"), .hash (Store.nodeAt 102),
    makeText "b", makeList 103]

/-- The same steps, but the text is changed after the hash was taken. -/
def staleSteps : List NodeStep :=
  [makeText "a", makeList 100, .hash (Store.nodeAt 102), .assign (Store.nodeAt 100) "value" (.word "b"),
    makeText "b", makeList 103]

section Careful

variable {st : Session}

theorem makeText_careful (s : String) : (makeText s).IsCareful st := fun a ha => by
  obtain rfl := List.mem_singleton.1 ha
  exact .inl (.atom rfl)

theorem makeList_careful (h : st.IsSound) {i : Nat} {m : Node} (there : st.store[i]? = some (.node m)) :
    (makeList i).IsCareful st := fun a ha => by
  obtain rfl := List.mem_singleton.1 ha
  refine .inr ⟨_, _, rfl, .tuple 0 (fun x hx => ?_) fun x hx => ?_⟩
  · rw [List.mem_singleton.1 hx]
    rfl
  · rw [List.mem_singleton.1 hx]
    exact h.store.hashable i m there

/-- As long as no node keeps a hash, data may be assigned to each attribute. -/
theorem assign_careful {i : Nat} {m : Node} {name : String} {value : Value}
    (there : st.store[i]? = some (.node m)) (known : name ∈ m.kind.keys) (plain : value.isAtom = true)
    (none : st.store.toList.all (fun p => match p.2 with | .node k => k.digest.isNone | _ => true) = true) :
    (NodeStep.assign (Store.nodeAt i) name value).IsCareful st := by
  refine ⟨_, m, rfl, there, known, .atom plain, fun reached => ?_, fun j k found keeps => ?_⟩
  · cases reached <;> cases plain
  · have idle := List.all_eq_true.1 none (j, .node k) (Std.TreeMap.mem_toList_iff_getElem?_eq_some.2 found)
    rw [Option.isSome_iff_ne_none, ne_eq, ← Option.isNone_iff_eq_none] at keeps
    exact absurd idle keeps

theorem freshSteps_careful : Session.new.AreCareful freshSteps := by
  have first := Session.new_isSound.after (makeText_careful "a")
  have list := makeList_careful first (i := 100) rfl
  have second := first.after list
  have change : NodeStep.IsCareful ((Session.new.after (makeText "a")).after (makeList 100))
      (.assign (Store.nodeAt 100) "value" (.word "b")) :=
    assign_careful rfl (by decide) rfl (by decide +kernel)
  have third := second.after change
  have hash : NodeStep.IsCareful _ (.hash (Store.nodeAt 102)) := third.store.hashable 102 _ rfl
  have fourth := third.after hash
  have fifth := fourth.after (makeText_careful "b")
  exact ⟨makeText_careful "a", list, change, hash, makeText_careful "b",
    makeList_careful fifth (i := 103) rfl, trivial⟩

end Careful

theorem freshSteps_digest : Session.new.AreCareful freshSteps ∧
    ∃ d, ((Session.new.afterAll freshSteps).store.view (Store.nodeAt 102)).digest = .ok d ∧
      ((Session.new.afterAll freshSteps).store.view (Store.nodeAt 105)).digest = .ok d :=
  ⟨freshSteps_careful, Session.afterAll_digest freshSteps_careful rfl rfl rfl⟩

/-- The two lists are equal in the end, but their hashes differ. -/
theorem staleSteps_digest :
    ((Session.new.afterAll staleSteps).store.view (Store.nodeAt 102)).equals
        ((Session.new.afterAll staleSteps).store.view (Store.nodeAt 105)) = .ok true ∧
      ∃ d e, ((Session.new.afterAll staleSteps).store.view (Store.nodeAt 102)).digest = .ok d ∧
        ((Session.new.afterAll staleSteps).store.view (Store.nodeAt 105)).digest = .ok e ∧ d ≠ e := by
  exact ⟨rfl, _, _, rfl, rfl, bne_iff_ne.1 (by decide +kernel)⟩

end QueryDefaults
