import QueryDefaults.GraphQLError
import QueryDefaults.Types.Schema
import QueryDefaults.Value.Change

/-!
Where diagnostics go. A context keeps them itself or hands them on, up to a limit; one more than the
limit puts a notice in its place and ends the validation. It also keeps the first fatal error. A rule
that is given in the place of a context reports to its own context.
-/

namespace QueryDefaults

/-- The notice that there are more errors than the limit allows. -/
def tooManyErrors : GraphQLError :=
  GraphQLError.ofMessage
    (.word "Too many validation errors, error limit reached. Validation aborted.")

namespace ContextOf

/-- The list that errors are handed on to: the one that the context shows, unless it is a copy. -/
def receiving (c : Context) : List Value := if c.handedId = 0 then c.reported else c.handed

/-- The number of the list that errors are handed on to. -/
def receivingId (c : Context) : Nat := if c.handedId = 0 then c.reportedId else c.handedId

/-- A context after an error was handed on. -/
def handOn (c : Context) (e : Value) : Context :=
  if c.handedId = 0 then { c with reported := c.reported ++ [e] } else { c with handed := c.handed ++ [e] }

/-- Whether as many errors were handed on as the limit allows. -/
def isFull (c : Context) : Option Int → Bool
  | none => false
  | some limit => limit ≤ c.receiving.length

/-- Reports an error. -/
def report (c : Context) (e : Value) : Except Fault Unit × Context :=
  match c.sink with
  | .keep => (.ok (), { c with errors := c.errors ++ [e] })
  | .handOn limit =>
    if c.isFull limit then (.error .limitReached, c.handOn (.error tooManyErrors))
    else (.ok (), c.handOn e)

/-- Reports a fatal error; only the first one counts. -/
def reportFatal (c : Context) (e : Value) : Context :=
  if c.fatal.isNull then { c with fatal := e } else c

/-- The changes that make one state of a context out of an earlier one. -/
def changes (before after : Context) : List Change :=
  (if before.errors.length = after.errors.length then [] else [.items before.errorsId after.errors]) ++
    (if before.receiving.length = after.receiving.length then []
      else [.items before.receivingId after.receiving]) ++
    if before.fatal.isNull && !after.fatal.isNull then [.fatal before.id after.fatal] else []

end ContextOf

/-- The context that reports to an object reach: its own, or that of a rule. -/
def Value.context? : Value → Option Context
  | .context c => some c
  | .rule r => contextOfRule r
  | _ => none
where
  /-- The context of a rule. -/
  contextOfRule : RuleObject → Option Context
    | ⟨c, _, _, _⟩ => c.context?

/-- What comes of a report: its outcome, and the object that was reported to as it is now. -/
structure Report where
  outcome : Except Fault Unit
  target : Value

/-- The method that reports are made by. -/
def reportMethod (fatal : Bool) : String := if fatal then "report_fatal_error" else "report_error"

/-- Reports an error to an object: a context, a rule with one, or an object that has a function for it. -/
def Schema.reportTo (s : Schema) (fatal : Bool) (e : Value) : Value → Report
  | .context c =>
    if fatal then ⟨.ok (), .context (c.reportFatal e)⟩
    else
      let (outcome, after) := c.report e
      ⟨outcome, .context after⟩
  | .rule ⟨c, checking, path, id⟩ =>
    let r := s.reportTo fatal e c
    ⟨r.outcome, .rule ⟨r.target, checking, path, id⟩⟩
  | v =>
    let called := do
      let f ← s.attr v (reportMethod fatal)
      let _ ← s.applyTo f e
    ⟨called.result, v⟩

end QueryDefaults
