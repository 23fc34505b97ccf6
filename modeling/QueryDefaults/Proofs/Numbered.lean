import QueryDefaults.Value.Rebuild

/-!
Numbers in ascending order. Whatever is numbered, numbers are given out from the next one on, and the next one
never gets smaller (`Advances.value`).
-/

namespace QueryDefaults

/-- Whether a computation gives out numbers from the next one on only. -/
def Advances {α : Type} (m : StateM Nat α) : Prop := ∀ next, next ≤ (m.run next).2

namespace Advances

theorem pure {α : Type} (a : α) : Advances (pure a) := fun next => Nat.le_refl next

theorem bind {α β : Type} {x : StateM Nat α} {f : α → StateM Nat β} (first : Advances x)
    (rest : ∀ a, Advances (f a)) : Advances (x >>= f) := fun next =>
  Nat.le_trans (first next) (rest (x.run next).1 (x.run next).2)

theorem mapM {α β : Type} {f : α → StateM Nat β} (step : ∀ a, Advances (f a)) :
    ∀ as : List α, Advances (as.mapM f)
  | [] => .pure []
  | a :: as => by
    rw [List.mapM_cons]
    exact (step a).bind fun b => (mapM step as).bind fun bs => .pure (b :: bs)

theorem one (id : Nat) : Advances (numbered id) := fun next => by
  unfold numbered
  split
  · exact Nat.le_succ next
  · exact Nat.le_refl next

theorem given (id : Nat) : Advances (renumberGiven numbered id) := by
  unfold renumberGiven
  split
  · exact .pure 0
  · exact one id

theorem type : ∀ t : Ty, Advances (t.renumber numbered)
  | .named _ => .pure _
  | .list t i | .nonNull t i | .wrapper t i => (type t).bind fun _ => (one i).bind fun _ => .pure _

theorem owner : ∀ o : MethodOwner, Advances (o.renumber numbered)
  | .scalar _ => .pure _
  | .object id => (one id).bind fun _ => .pure _

theorem here : ∀ v : Value, Advances v.numberHere
  | .int .. | .float .. | .str .. | .list .. | .tuple .. | .mapping .. | .record .. | .node _
  | .enumValue _ | .enumeration .. | .error _ | .exceptionOf _ | .rule _ | .visitor .. | .function ..
  | .foreign .. => (one _).bind fun _ => .pure _
  | .type t => (type t).bind fun _ => .pure _
  | .inputField f => (one _).bind fun _ => (type f.type).bind fun _ => .pure _
  | .registry .. => (one _).bind fun _ => (one _).bind fun _ => .pure _
  | .context c => (one _).bind fun _ => (one _).bind fun _ => (one _).bind fun _ =>
    (given c.handedId).bind fun _ => .pure _
  | .method o _ => (owner o).bind fun _ => (one _).bind fun _ => .pure _
  | .null | .undefined | .bool _ | .operation _ | .action _ | .member .. | .builtin _ => .pure _

theorem unlessKnown {known : Option Value} {rest : StateM Nat Value} (h : Advances rest) :
    Advances (unlessKnown known rest) := by
  cases known with
  | some v => exact .pure v
  | none => exact h

section Rebuild

variable {known : Value → Option Value}

mutual

theorem value : ∀ v : Value, Advances (v.rebuild known fun _ w => w.numberHere)
  | .list xs _ => unlessKnown ((all xs).bind fun _ => here _)
  | .tuple xs _ | .record _ xs _ => (all xs).bind fun _ => here _
  | .mapping es _ => unlessKnown ((entries es).bind fun _ => here _)
  | .node n => unlessKnown ((node n).bind fun _ => here _)
  | .inputField ⟨_, _, initial, description, deprecation⟩ =>
    unlessKnown ((value initial).bind fun _ => (value description).bind fun _ =>
      (value deprecation).bind fun _ => here _)
  | .enumValue ⟨_, v, description, deprecation⟩ =>
    unlessKnown ((value v).bind fun _ => (value description).bind fun _ =>
      (value deprecation).bind fun _ => here _)
  | .enumeration ms others _ =>
    unlessKnown ((named ms).bind fun _ => (named others).bind fun _ => here _)
  | .member _ _ v => unlessKnown ((value v).bind fun _ => here _)
  | .error e => unlessKnown ((error e).bind fun _ => here _)
  | .exceptionOf e => unlessKnown ((exception e).bind fun _ => here _)
  | .context c => unlessKnown ((context c).bind fun _ => here _)
  | .rule ⟨c, _, path, _⟩ => unlessKnown ((value c).bind fun _ => (value path).bind fun _ => here _)
  | .visitor ms _ => unlessKnown ((methods ms).bind fun _ => here _)
  | .null | .undefined | .bool _ | .int .. | .float .. | .str .. | .operation _ | .action _ | .type _
  | .registry .. | .function .. | .builtin _ | .method .. | .foreign .. => here _
termination_by structural v => v

theorem all : ∀ xs : List Value, Advances (rebuildAll known (fun _ w => w.numberHere) xs)
  | [] => .pure []
  | x :: xs => (value x).bind fun _ => (all xs).bind fun _ => .pure _
termination_by structural xs => xs

theorem entries : ∀ es : List Entry, Advances (rebuildEntries known (fun _ w => w.numberHere) es)
  | [] => .pure []
  | ⟨_, k, v⟩ :: es => (value k).bind fun _ => (value v).bind fun _ => (entries es).bind fun _ => .pure _
termination_by structural es => es

theorem named :
    ∀ as : List (String × Value), Advances (rebuildNamed known (fun _ w => w.numberHere) as)
  | [] => .pure []
  | (_, v) :: as => (value v).bind fun _ => (named as).bind fun _ => .pure _
termination_by structural as => as

theorem node : ∀ n : Node, Advances (rebuildNode known (fun _ w => w.numberHere) n)
  | ⟨_, _, attrs, _⟩ => (named attrs).bind fun _ => .pure _
termination_by structural n => n

theorem error : ∀ e : GraphQLError, Advances (rebuildError known (fun _ w => w.numberHere) e)
  | ⟨message, nodes, locations, path, underlying, extensions, cause, handled, _⟩ =>
    (value message).bind fun _ => (value nodes).bind fun _ => (value locations).bind fun _ =>
    (value path).bind fun _ => (value underlying).bind fun _ => (value extensions).bind fun _ =>
    (value cause).bind fun _ => (value handled).bind fun _ => .pure _
termination_by structural e => e

theorem exception : ∀ e : Exception, Advances (rebuildException known (fun _ w => w.numberHere) e)
  | ⟨_, message, cause, handled, _, _, _, attrs⟩ =>
    (value message).bind fun _ => (value cause).bind fun _ => (value handled).bind fun _ =>
    (named attrs).bind fun _ => .pure _
termination_by structural e => e

theorem context : ∀ c : Context, Advances (rebuildContext known (fun _ w => w.numberHere) c)
  | ⟨registry, document, _, fatal, errors, reported, handed, _, _, _, _⟩ =>
    (value registry).bind fun _ => (value document).bind fun _ => (value fatal).bind fun _ =>
    (all errors).bind fun _ => (all reported).bind fun _ => (all handed).bind fun _ => .pure _
termination_by structural c => c

theorem methods :
    ∀ ms : List (String × Method), Advances (rebuildMethods known (fun _ w => w.numberHere) ms)
  | [] => .pure []
  | (_, ⟨answer, _⟩) :: ms => (value answer).bind fun _ => (methods ms).bind fun _ => .pure _
termination_by structural ms => ms

end

end Rebuild

end Advances

end QueryDefaults
