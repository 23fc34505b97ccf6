import QueryDefaults.Validation.Rule

/-!
Validating a document. All variable defaults are checked in order, either in one walk through the
document, or variable by variable so that the validation can be cancelled between them. A fatal error
drops all others; reaching the limit of errors ends the validation with a notice.
-/

namespace QueryDefaults

/-- A limit of errors: nothing or an integer, but no boolean. -/
def errorLimit (v : Value) : Except Fault (Option Int) :=
  match v with
  | .null => return none
  | .int n _ => return some n
  | _ => throw .limitNotInt

/-- The context of the validation of a document. -/
def validationContext (registry document limit : Value) : Except Fault Context := do
  if !document.isA .document then throw .documentMissing
  let _ ← checkRegistry registry
  let limit ← errorLimit limit
  return { registry, document, sink := .handOn limit, fatal := .null }

/-- The result of a validation as a record. -/
def resultOf (errors : List Value) (fatal : Value) : Value := .record .result [.list errors, fatal]

/-- A value for a record of the log. -/
def logValue (v : Value) (attr : String) : String :=
  match v.attr attr with
  | .ok w => logText w
  | .error _ => ""

/-- The result of a finished validation: a fatal error drops all others. -/
def concludeWith (c : Context) : Traced Value := do
  if c.fatal.truthy then
    Traced.log ⟨.validation, "Validation failed: " ++ logValue c.fatal "message", none⟩
    return resultOf [] c.fatal
  return resultOf c.reported .null

/-- The end of a walk of the rule: reaching the limit is logged and is no failure. -/
def conclude {α : Type} (limit : Value) (outcome : Except Fault α × RuleState) :
    Traced (Option α × RuleState) :=
  let (r, st) := outcome
  let walked : Traced (Option α × RuleState) :=
    match r with
    | .ok a => return (some a, st)
    | .error .limitReached => do
      Traced.log ⟨.validation, sentence ["Validation aborted after ", logText limit, " errors."], none⟩
      return (none, st)
    | .error f => throw f
  st.trace.followedBy walked

/-- Validates the default values of a document in one walk. -/
def Schema.validate (s : Schema) (registry document limit : Value) : Traced Value := do
  let c ← validationContext registry document limit
  let walked := visit (Rule.visitor s true) documentKeys document
  let (_, st) ← conclude limit (walked.run.run { context := .context c, next := s.next })
  concludeWith (st.context.context?.getD c)

/-! ### Variable by variable -/

/-- How a cancellable walk ended. -/
inductive Ending where
  | done | cancelled
  deriving DecidableEq, Repr

/-- The items of an attribute, none if it is false. -/
def optionalItems (v : Value) : Except Fault (List Value) := if v.truthy then v.toList else .ok []

/-- Whether the rule has met a fatal error. -/
def hasFatal : RuleM Bool := do
  let st ← get
  match st.context.context? with
  | some c => return c.fatal.truthy
  | none => return false

/-- Walks through variable definitions one by one up to a fatal error. Before each of them the walk
ends if it was cancelled. -/
def walkVariables (s : Schema) (cancelled : Bool) : List Value → RuleM Ending
  | [] => return .done
  | v :: vs =>
    if cancelled then return .cancelled else do
      let _ ← visit (Rule.visitor s true) documentKeys v
      if ← hasFatal then return .done
      walkVariables s cancelled vs

/-- Walks through the operations among definitions one by one up to a fatal error. -/
def walkOperations (s : Schema) (cancelled : Bool) : List Value → RuleM Ending
  | [] => return .done
  | d :: ds =>
    match d with
    | .node n =>
      if n.kind.library = .operationDefinition then do
        Rule.enterOperation n
        let definitions ← n.attr "variable_definitions"
        let vs ← optionalItems definitions
        match ← walkVariables s cancelled vs with
        | .cancelled => return .cancelled
        | .done =>
          if ← hasFatal then return .done
          walkOperations s cancelled ds
      else walkOperations s cancelled ds
    | _ => walkOperations s cancelled ds

/-- Validates the default values of a document variable by variable; gives nothing if the validation
was cancelled beforehand and would have reached a variable. -/
def Schema.validateStepwise (s : Schema) (cancelled : Bool) (registry document limit : Value) :
    Traced (Option Value) := do
  let c ← validationContext registry document limit
  let walked : RuleM Ending := do
    let definitions ← document.attr "definitions"
    let ds ← optionalItems definitions
    walkOperations s cancelled ds
  let (ending, st) ← conclude limit (walked.run.run { context := .context c, next := s.next })
  if ending = some .cancelled then return none
  let result ← concludeWith (st.context.context?.getD c)
  return some result

end QueryDefaults
