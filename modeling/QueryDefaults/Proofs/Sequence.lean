import QueryDefaults.Trace

/-!
Sequences of computations. What a sequence comes to goes by the results of its parts (`result_bind_ok`,
`bind_result_ok`), and what happens in it is what happens in one part after the other, however the parts are
put together: computations with a trace obey the laws of sequences.
-/

namespace QueryDefaults.Traced

/-! ### Results -/

@[simp]
theorem result_liftM {α : Type} (r : Except Fault α) : (liftM r : Traced α).result = r := rfl

theorem result_bind_ok {α β : Type} {x : Traced α} {a : α} (h : x.result = .ok a) (f : α → Traced β) :
    (x >>= f).result = (f a).result := by
  rw [result_bind, h]
  rfl

theorem result_bind_error {α β : Type} {x : Traced α} {e : Fault} (h : x.result = .error e)
    (f : α → Traced β) : (x >>= f).result = .error e := by
  rw [result_bind, h]
  rfl

theorem result_tryCatch_ok {α : Type} {x : Traced α} {a : α} (h : x.result = .ok a)
    (g : Fault → Traced α) : (tryCatch x g).result = .ok a := by
  obtain ⟨r, _, _, _, _⟩ := x
  obtain rfl : r = .ok a := h
  rfl

theorem result_tryCatch_error {α : Type} {x : Traced α} {e : Fault} (h : x.result = .error e)
    (g : Fault → Traced α) : (tryCatch x g).result = (g e).result := by
  obtain ⟨r, _, _, _, _⟩ := x
  obtain rfl : r = .error e := h
  rfl

/-- A sequence that gives a result does so in both of its parts. -/
theorem bind_result_ok {α β : Type} {x : Traced α} {f : α → Traced β} {b : β}
    (h : (x >>= f).result = .ok b) : ∃ a, x.result = .ok a ∧ (f a).result = .ok b := by
  rw [result_bind] at h
  cases given : x.result with
  | error e =>
    rw [given] at h
    cases h
  | ok a =>
    rw [given] at h
    exact ⟨a, rfl, h⟩

/-! ### Laws -/

theorem ext {α : Type} {x y : Traced α} (result : x.result = y.result) (logs : x.logs = y.logs)
    (asked : x.asked = y.asked) (taken : x.taken = y.taken) (used : x.used = y.used) : x = y := by
  obtain ⟨⟩ := x
  obtain ⟨⟩ := y
  cases result
  cases logs
  cases asked
  cases taken
  cases used
  rfl

theorem followedBy_assoc {α β γ : Type} (x : Traced α) (y : Traced β) (z : Traced γ) :
    (x.followedBy y).followedBy z = x.followedBy (y.followedBy z) :=
  ext rfl (List.append_assoc ..) (List.append_assoc ..) (List.append_assoc ..) (Nat.max_assoc ..)

theorem lift_followedBy {α β : Type} (r : Except Fault α) (y : Traced β) : (lift r).followedBy y = y :=
  ext rfl rfl rfl rfl (Nat.zero_max _)

theorem followedBy_lift {α : Type} {x : Traced α} {r : Except Fault α} (h : x.result = r) :
    x.followedBy (lift r) = x :=
  ext h.symm (List.append_nil _) (List.append_nil _) (List.append_nil _) (Nat.max_zero _)

theorem bind_ok {α β : Type} {x : Traced α} {a : α} (h : x.result = .ok a) (f : α → Traced β) :
    x >>= f = x.followedBy (f a) := by
  show bind x f = _
  rw [bind, h]

theorem bind_error {α β : Type} {x : Traced α} {e : Fault} (h : x.result = .error e)
    (f : α → Traced β) : x >>= f = x.followedBy (lift (.error e)) := by
  show bind x f = _
  rw [bind, h]

/-- A sequence whose first part comes after another computation does so as a whole. -/
theorem followedBy_bind {α β γ : Type} (x : Traced α) (y : Traced β) (f : β → Traced γ) :
    x.followedBy y >>= f = x.followedBy (y >>= f) := by
  cases h : y.result with
  | ok b => rw [bind_ok (x := x.followedBy y) h, bind_ok h, followedBy_assoc]
  | error e => rw [bind_error (x := x.followedBy y) h, bind_error h, followedBy_assoc]

theorem map_id_eq {α : Type} (x : Traced α) : id <$> x = x := by
  show (x >>= fun a => pure (id a)) = x
  cases h : x.result with
  | ok a => exact (bind_ok h _).trans (followedBy_lift h)
  | error e => exact (bind_error h _).trans (followedBy_lift h)

theorem assoc {α β γ : Type} (x : Traced α) (f : α → Traced β) (g : β → Traced γ) :
    x >>= f >>= g = x >>= fun a => f a >>= g := by
  cases h : x.result with
  | ok a => rw [bind_ok h, followedBy_bind, bind_ok h]
  | error e =>
    rw [bind_error h, followedBy_bind, bind_error h]
    exact congrArg _ (lift_followedBy ..)

/-- What happens in a sequence does not depend on how its parts are put together. -/
instance : LawfulMonad Traced :=
  LawfulMonad.mk' Traced map_id_eq (fun _ _ => lift_followedBy _ _) assoc

end QueryDefaults.Traced
