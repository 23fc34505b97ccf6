import QueryDefaults.Proofs.Literal
import QueryDefaults.GraphQLError
import Mathlib.Data.List.DropRight

/-!
Errors around errors. An error that is made around a failure takes over what is behind the failure, and its
extensions unless it has some of its own. Whether there is something to take over goes by truth values, and classes
that callers derive give these to their failures: a failure that is false hands on nothing, whatever it has. One
wrapping (`Wrapping.around_eq`) looks at the failure right below it only; by induction on the wrappings
(`wrapped_handsOn`), the last extensions that are true and the cause of the failure at the bottom come up through any
number of errors that are true (`wrapped_inherits`).
-/

namespace QueryDefaults

/-! ### What a failure hands on -/

/-- A failure with its cause and what was being handled when it came up. -/
structure Value.IsRaised (v cause handled : Value) : Prop where
  fails : v.isFailure
  hasCause : v.attr "__cause__" = .ok cause
  hasHandled : v.attr "__context__" = .ok handled

/-- The extensions that a failure has; most failures have none. -/
def Value.ownExtensions (v : Value) : Value := (v.attr "extensions").toOption.getD .null

/-- What goes with a value, if the value is true. -/
def Value.ifTrue (v x : Value) : Value := if v.truthy then x else .null

/-- The cause that an error around a failure takes over. -/
def causeBehind (v cause : Value) : Value := v.ifTrue (cause.ifTrue cause)

/-- What an error around a failure takes over of what was being handled: nothing, if there is a cause. -/
def handledBehind (v cause handled : Value) : Value :=
  v.ifTrue (if cause.truthy then .null else handled.ifTrue handled)

theorem handedOn_chain (cause handled : Value) :
    handedOn.chain cause handled =
      (cause.ifTrue cause, if cause.truthy then .null else handled.ifTrue handled) := by
  rw [handedOn.chain, Value.ifTrue, Value.ifTrue]
  cases cause.truthy <;> cases handled.truthy <;> rfl

theorem Value.IsRaised.handedOn {v cause handled : Value} (h : v.IsRaised cause handled) :
    handedOn v = .ok (causeBehind v cause, handledBehind v cause handled, v.ifTrue v.ownExtensions) := by
  cases v with
  | error e =>
    obtain rfl : e.cause = cause := Except.ok.inj h.hasCause
    obtain rfl : e.context = handled := Except.ok.inj h.hasHandled
    have given : QueryDefaults.handedOn (.error e) =
        .ok ((handedOn.chain e.cause e.context).1, (handedOn.chain e.cause e.context).2, e.extensions) := rfl
    rw [given, handedOn_chain]
    rfl
  | exceptionOf e =>
    obtain rfl : e.cause = cause := Except.ok.inj h.hasCause
    obtain rfl : e.context = handled := Except.ok.inj h.hasHandled
    have own : (Value.exceptionOf e).ownExtensions = (e.attrs.lookup "extensions").getD .null := by
      change (e.own "extensions").toOption.getD .null = _
      rw [ExceptionOf.own]
      cases e.attrs.lookup "extensions" <;> rfl
    have given : QueryDefaults.handedOn (.exceptionOf e) =
        if e.truth then .ok ((handedOn.chain e.cause e.context).1, (handedOn.chain e.cause e.context).2,
          (e.attrs.lookup "extensions").getD .null)
        else .ok (.null, .null, .null) := rfl
    have truth : (Value.exceptionOf e).truthy = e.truth := rfl
    rw [given, handedOn_chain, causeBehind, handledBehind, own]
    cases real : e.truth <;> simp [ifTrue, truth, real]
  | _ => cases h.fails

/-- A cause and what was being handled that would be taken over as they are. -/
def IsSettled (cause handled : Value) : Prop :=
  cause.ifTrue cause = cause ∧ (if cause.truthy then .null else handled.ifTrue handled) = handled

theorem isSettled_null : IsSettled .null .null := ⟨rfl, rfl⟩

theorem isSettled_behind (v cause handled : Value) :
    IsSettled (causeBehind v cause) (handledBehind v cause handled) := by
  have none : Value.null.truthy = false := rfl
  rw [IsSettled, causeBehind, handledBehind]
  cases truth : v.truthy <;> cases truthCause : cause.truthy <;> cases truthHandled : handled.truthy <;>
    simp [Value.ifTrue, none, truth, truthCause, truthHandled]

theorem Value.IsRaised.handedOn_settled {v cause handled : Value} (h : v.IsRaised cause handled)
    (settled : IsSettled cause handled) :
    QueryDefaults.handedOn v = .ok (v.ifTrue cause, v.ifTrue handled, v.ifTrue v.ownExtensions) := by
  rw [h.handedOn, causeBehind, handledBehind, settled.1, settled.2]

/-! ### One wrapping -/

/-- What an error around a failure is made of, besides the failure, and the object that it becomes. A caller can
derive its class and give a truth value to it. -/
structure Wrapping where
  message : Value
  nodes : Value
  path : Value
  extensions : Value
  id : Nat := 0
  derived : Option (String × Bool) := none

/-- Whether the error is true. -/
def Wrapping.truth (w : Wrapping) : Bool := w.derived.elim true Prod.snd

/-- An error as one of a class that a caller derived. -/
def ErrorOf.ofClass (e : GraphQLError) (cls : String) (truth : Bool) : Exception :=
  { kind := .graphql
    message := e.message
    cause := e.cause
    context := e.context
    id := e.id
    derived := some cls
    truth
    attrs := [("message", e.message), ("nodes", e.nodes), ("locations", e.locations), ("path", e.path),
      ("original_error", e.underlying), ("extensions", e.extensions)] }

/-- The object that an error becomes. -/
def Wrapping.object (w : Wrapping) (e : GraphQLError) : Value :=
  match w.derived with
  | none => .error { e with id := w.id }
  | some (cls, truth) => .exceptionOf ({ e with id := w.id }.ofClass cls truth)

/-- The error around a failure. -/
def Wrapping.around (w : Wrapping) (underlying : Value) : Except Fault Value := do
  let e ← GraphQLError.make w.message w.nodes w.path underlying w.extensions
  return w.object e

/-- Whether nodes and path can be kept: the nodes have locations, and the path has items. -/
structure Wrapping.IsKept (w : Wrapping) : Prop where
  located : ∃ v, locationsOf (nodeList w.nodes) = .ok v
  listed : ∃ v, pathList w.path = .ok v

theorem Wrapping.object_isRaised (w : Wrapping) (e : GraphQLError) :
    (w.object e).IsRaised e.cause e.context ∧ (w.object e).truthy = w.truth ∧
      (w.object e).attr "extensions" = .ok e.extensions := by
  rw [object, truth]
  rcases w.derived with _ | ⟨cls, truth⟩ <;> exact ⟨⟨rfl, rfl, rfl⟩, rfl, rfl⟩

/-- The last of some extensions that are true, or empty ones if none of them are. -/
def lastFull (given : List Value) : Value := (given.filter (·.truthy)).getLast?.getD (.mapping [])

/-- Two rows of extensions have the same last ones that are true if their first parts have. -/
theorem lastFull_append (xs ys zs : List Value)
    (same : (xs.filter (·.truthy)).getLast? = (ys.filter (·.truthy)).getLast?) :
    lastFull (xs ++ zs) = lastFull (ys ++ zs) := by
  rw [lastFull, lastFull, List.filter_append, List.filter_append, List.getLast?_append, List.getLast?_append,
    same]

/-- The choice that one wrapping makes: its own extensions, else those handed on, else empty ones. -/
theorem lastFull_pair (own others : Value) :
    lastFull [others, own] =
      let chosen := if own.truthy then own else others
      if chosen.truthy then chosen else .mapping [] := by
  cases full : own.truthy <;> cases fullOthers : others.truthy <;> simp [lastFull, full, fullOthers]

/-- An error whose extensions were chosen hands on what the choice was made from. -/
theorem lastFull_cons (own others : Value) (rest : List Value) :
    lastFull (lastFull [others, own] :: rest) = lastFull (others :: own :: rest) := by
  refine lastFull_append [lastFull [others, own]] [others, own] rest ?_
  have empty : (Value.mapping []).truthy = false := rfl
  cases full : own.truthy <;> cases fullOthers : others.truthy <;>
    simp [lastFull, full, fullOthers, empty]

/-- The error around a failure, if its nodes and its path can be kept, has what the failure hands on. -/
theorem Wrapping.around_eq (w : Wrapping) {v cause handled extensions : Value}
    (given : handedOn v = .ok (cause, handled, extensions)) (kept : w.IsKept) :
    ∃ e, w.around v = .ok (w.object e) ∧ e.extensions = lastFull [extensions, w.extensions] ∧
      e.cause = cause ∧ e.context = handled := by
  obtain ⟨⟨places, located⟩, ⟨path, listed⟩⟩ := kept
  rw [lastFull_pair]
  simp only [around, GraphQLError.make, located, listed, given, ok_bind]
  exact ⟨_, rfl, rfl, rfl, rfl⟩

/-- The error around a failure can be made exactly if its nodes and its path can be kept. -/
theorem Wrapping.around_ok_iff (w : Wrapping) {v cause handled extensions : Value}
    (given : handedOn v = .ok (cause, handled, extensions)) : (∃ u, w.around v = .ok u) ↔ w.IsKept := by
  constructor
  · rintro ⟨u, made⟩
    obtain ⟨e, made, _⟩ := exists_of_bind_ok made
    obtain ⟨places, located, made⟩ := exists_of_bind_ok made
    obtain ⟨path, listed, _⟩ := exists_of_bind_ok made
    exact ⟨⟨places, located⟩, ⟨path, listed⟩⟩
  · intro kept
    obtain ⟨e, made, _⟩ := w.around_eq given kept
    exact ⟨_, made⟩

/-! ### Any number of wrappings -/

/-- The outermost of errors around a failure, the first wrapping being the innermost. -/
def wrapped (v : Value) (ws : List Wrapping) : Except Fault Value := ws.foldlM (fun u w => w.around u) v

theorem wrapped_concat (v : Value) (ws : List Wrapping) (w : Wrapping) :
    wrapped v (ws ++ [w]) = wrapped v ws >>= w.around := by
  rw [wrapped, List.foldlM_append]
  refine congrArg _ (funext fun u => ?_)
  rw [List.foldlM_cons]
  exact bind_pure _

/-- The extensions that come up to an error around other errors around a failure: those that the failure and the
other errors were made with, from outside as far as these are true. -/
def heard (v : Value) (ws : List Wrapping) : List Value :=
  (((v.truthy, v.ownExtensions) :: ws.map fun w => (w.truth, w.extensions)).rtakeWhile Prod.fst).map Prod.snd

theorem heard_nil (v : Value) : heard v [] = if v.truthy then [v.ownExtensions] else [] := by
  rw [heard, List.map_nil, ← List.nil_append [_], List.rtakeWhile_concat]
  cases v.truthy <;> rfl

theorem heard_concat (v : Value) (ws : List Wrapping) (w : Wrapping) :
    heard v (ws ++ [w]) = if w.truth then heard v ws ++ [w.extensions] else [] := by
  rw [heard, List.map_append, List.map_singleton, ← List.cons_append, List.rtakeWhile_concat]
  cases w.truth with
  | false => rfl
  | true => exact List.map_append

/-- What a failure hands on: its extensions stand for the last ones in a row that are true. -/
structure HandsOn (u cause handled : Value) (row : List Value) : Prop where
  settled : IsSettled cause handled
  given : ∃ x, handedOn u = .ok (cause, handled, x) ∧ ∀ rest, lastFull (x :: rest) = lastFull (row ++ rest)

theorem Value.IsRaised.handsOn {v cause handled : Value} (raised : v.IsRaised cause handled) :
    HandsOn v (causeBehind v cause) (handledBehind v cause handled) (heard v []) := by
  refine ⟨isSettled_behind .., _, raised.handedOn, fun rest => ?_⟩
  rw [heard_nil, ifTrue]
  cases v.truthy with
  | true => rfl
  | false => exact lastFull_append [.null] [] rest rfl

/-- An error around a failure has what comes up to it, and hands this on if it is true. -/
theorem HandsOn.around {u cause handled : Value} {row : List Value} (hands : HandsOn u cause handled row)
    (w : Wrapping) (kept : w.IsKept) :
    ∃ e, w.around u = .ok (w.object e) ∧ e.extensions = lastFull (row ++ [w.extensions]) ∧ e.cause = cause ∧
      e.context = handled ∧
      HandsOn (w.object e) (if w.truth then cause else .null) (if w.truth then handled else .null)
        (if w.truth then row ++ [w.extensions] else []) := by
  obtain ⟨settled, x, given, same⟩ := hands
  obtain ⟨e, made, extensions, rfl, rfl⟩ := w.around_eq given kept
  obtain ⟨raised, truth, has⟩ := w.object_isRaised e
  have own : (w.object e).ownExtensions = e.extensions := by
    rw [Value.ownExtensions, has]
    rfl
  have next := raised.handedOn_settled settled
  rw [Value.ifTrue, Value.ifTrue, Value.ifTrue, truth, own] at next
  refine ⟨e, made, extensions.trans (same _), rfl, rfl, ?_⟩
  cases truth : w.truth with
  | false =>
    rw [truth] at next
    exact ⟨isSettled_null, _, next, fun rest => lastFull_append [.null] [] rest rfl⟩
  | true =>
    rw [truth] at next
    refine ⟨settled, _, next, fun rest => ?_⟩
    rw [if_pos rfl, if_pos rfl, extensions, lastFull_cons, same, List.append_assoc]
    rfl

/-- Errors around a failure can be made, one around the other, exactly if the nodes and the path of each can be
kept. What was behind the failure comes up to the next one only if all of them are true. -/
theorem wrapped_handsOn {v cause handled : Value} (raised : v.IsRaised cause handled) (ws : List Wrapping) :
    ((∃ u, wrapped v ws = .ok u) ↔ ∀ w ∈ ws, w.IsKept) ∧
    ∀ u, wrapped v ws = .ok u →
      HandsOn u (if ws.all (·.truth) then causeBehind v cause else .null)
        (if ws.all (·.truth) then handledBehind v cause handled else .null) (heard v ws) := by
  induction ws using List.reverseRecOn with
  | nil =>
    refine ⟨⟨fun _ _ mem => (List.not_mem_nil mem).elim, fun _ => ⟨v, rfl⟩⟩, fun u made => ?_⟩
    obtain rfl := Except.ok.inj made
    exact raised.handsOn
  | append_singleton ws w ih =>
    obtain ⟨made, hands⟩ := ih
    rw [wrapped_concat, List.forall_mem_append, List.forall_mem_singleton, ← made]
    constructor
    · constructor
      · rintro ⟨top, all⟩
        obtain ⟨u, inner, outer⟩ := exists_of_bind_ok all
        obtain ⟨x, given, _⟩ := (hands u inner).given
        exact ⟨⟨u, inner⟩, (w.around_ok_iff given).1 ⟨top, outer⟩⟩
      · rintro ⟨⟨u, inner⟩, kept⟩
        obtain ⟨e, outer, _⟩ := (hands u inner).around w kept
        exact ⟨_, by rw [inner, ok_bind, outer]⟩
    · intro top all
      obtain ⟨u, inner, outer⟩ := exists_of_bind_ok all
      obtain ⟨x, given, _⟩ := (hands u inner).given
      obtain ⟨e, outer', _, _, _, next⟩ := (hands u inner).around w ((w.around_ok_iff given).1 ⟨top, outer⟩)
      obtain rfl := Except.ok.inj (outer.symm.trans outer')
      rw [List.all_append, List.all_cons, List.all_nil, Bool.and_true, heard_concat]
      cases truth : w.truth with
      | false =>
        rw [truth] at next
        rwa [Bool.and_false]
      | true =>
        rw [truth] at next
        rwa [Bool.and_true]

/-- Errors around a failure can be made, one around the other, exactly if the nodes and the path of each can be
kept. The outermost has the last extensions that are true among those that come up to it and its own; if none are
true, it has empty ones. If the errors below it are all true it has what comes from the failure: if the failure is
true, its cause if that is true, otherwise what was being handled if that is true. -/
theorem wrapped_inherits {v cause handled : Value} (raised : v.IsRaised cause handled) (ws : List Wrapping)
    (w : Wrapping) :
    ((∃ u, wrapped v (ws ++ [w]) = .ok u) ↔ ∀ x ∈ ws ++ [w], x.IsKept) ∧
    ∀ u, wrapped v (ws ++ [w]) = .ok u →
      u.attr "extensions" = .ok (lastFull (heard v ws ++ [w.extensions])) ∧
      u.attr "__cause__" = .ok (if ws.all (·.truth) then causeBehind v cause else .null) ∧
      u.attr "__context__" = .ok (if ws.all (·.truth) then handledBehind v cause handled else .null) := by
  obtain ⟨made, _⟩ := wrapped_handsOn raised (ws ++ [w])
  refine ⟨made, fun top all => ?_⟩
  have kept := made.1 ⟨top, all⟩ w (List.mem_append_right _ (List.mem_singleton_self w))
  rw [wrapped_concat] at all
  obtain ⟨u, inner, outer⟩ := exists_of_bind_ok all
  obtain ⟨e, outer', extensions, hasCause, hasHandled, _⟩ :=
    ((wrapped_handsOn raised ws).2 u inner).around w kept
  obtain rfl := Except.ok.inj (outer.symm.trans outer')
  obtain ⟨raised', _, has⟩ := w.object_isRaised e
  exact ⟨extensions ▸ has, hasCause ▸ raised'.hasCause, hasHandled ▸ raised'.hasHandled⟩

/-- The failure that was being handled. -/
def missing : Value := .exceptionOf { ExceptionOf.bare .key (.str "a") with id := 2 }

/-- An exception that came up while another one was being handled. -/
def refused : Value := .exceptionOf { ExceptionOf.bare .value (.str "no number") with context := missing, id := 1 }

theorem refused_isRaised : refused.IsRaised .null missing := ⟨rfl, rfl, rfl⟩

theorem wrapping_isKept (message extensions : Value) (i : Nat) (derived : Option (String × Bool)) :
    (Wrapping.mk message .null .null extensions i derived).IsKept := ⟨⟨_, rfl⟩, ⟨_, rfl⟩⟩

/-- Two errors without extensions around one that has some. -/
theorem wrapped_inherits_refused :
    refused.IsRaised .null missing ∧
    ∃ u, wrapped refused
        [⟨.str "inner", .null, .null, .ofEntries [("code", .int 1)], 3, none⟩,
         ⟨.str "middle", .null, .null, .mapping [], 4, none⟩,
         ⟨.str "outer", .null, .null, .null, 5, none⟩] = .ok u ∧
      u.attr "extensions" = .ok (.ofEntries [("code", .int 1)]) ∧ u.attr "__cause__" = .ok .null ∧
      u.attr "__context__" = .ok missing := by
  obtain ⟨made, inherits⟩ := wrapped_inherits refused_isRaised
    [⟨.str "inner", .null, .null, .ofEntries [("code", .int 1)], 3, none⟩,
     ⟨.str "middle", .null, .null, .mapping [], 4, none⟩]
    ⟨.str "outer", .null, .null, .null, 5, none⟩
  obtain ⟨u, top⟩ := made.2 (List.forall_mem_cons.2 ⟨wrapping_isKept .., List.forall_mem_cons.2
    ⟨wrapping_isKept .., List.forall_mem_singleton.2 (wrapping_isKept ..)⟩⟩)
  obtain ⟨extensions, hasCause, hasContext⟩ := inherits u top
  exact ⟨refused_isRaised, u, top, extensions, hasCause, hasContext⟩

/-- An exception of a class that gives its exceptions a length: this one, of length zero, is false. -/
def silent : Value :=
  .exceptionOf { ExceptionOf.bare .value (.str "no item") with
    cause := missing
    derived := some "NoItems"
    truth := false
    attrs := [("extensions", .ofEntries [("code", .int 1)])] }

/-- An error has no extensions and no cause from an exception that is false, although the exception has both. An
error with an enumeration without members for extensions keeps this in place of those that come up to it. -/
theorem wrapped_inherits_false :
    ¬ (∀ u, silent.IsRaised missing .null → wrapped silent [⟨.str "outer", .null, .null, .null, 5, none⟩] = .ok u →
        u.attr "extensions" = .ok silent.ownExtensions ∧ u.attr "__cause__" = .ok missing) ∧
    ¬ (∀ u, wrapped refused
          [⟨.str "inner", .null, .null, .ofEntries [("code", .int 1)], 3, none⟩,
           ⟨.str "outer", .null, .null, .enumeration [] [], 5, none⟩] = .ok u →
        u.attr "extensions" = .ok (.ofEntries [("code", .int 1)])) := by
  refine ⟨fun h => ?_, fun h => ?_⟩
  · obtain ⟨_, hasCause⟩ := h _ ⟨rfl, rfl, rfl⟩ rfl
    cases hasCause
  · cases h _ rfl

end QueryDefaults
