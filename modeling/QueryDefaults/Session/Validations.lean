import QueryDefaults.Session.Objects
import QueryDefaults.Validation.Document

/-!
The operations of a session on literals and documents: coercing and checking literals, validating
documents, and the contexts and rules that validations are made of.
-/

namespace QueryDefaults

namespace SessionM

/-- Reports an error to an object, and tells which errors it has and which it handed on. -/
def reportTo (target error : Value) (fatal : Bool) : SessionM Value := do
  let st ← get
  let r := st.schema.reportTo fatal error target
  match target.context?, r.target.context? with
  | some before, some now => (before.changes now).forM change
  | _, _ => pure ()
  r.outcome
  let target ← present target
  let errors ← attrOf target "errors"
  let fatal ← attrOf target "fatal_error"
  let reported ← attrOf target "reported"
  return .list [errors, fatal, reported]

/-- Makes a rule. -/
def newRule (context : Value) (checking : Bool) : SessionM Answer := do
  let path ← keep (.list [])
  answer (.rule ⟨context, checking, path, 0⟩)

end SessionM

/-- Operations on literals and documents. -/
inductive ValidationOperation where
  | coerce | check | validate | validateStepwise | validateCancelled | result | context | report
  | rule (checking : Bool)
  deriving DecidableEq, Repr

open SessionM in
/-- Performs an operation on literals and documents. -/
def ValidationOperation.perform (op : ValidationOperation) (args : List Value) : SessionM Answer := do
  match op, args with
  | .coerce, [scalar, node] => traced (·.coerceLiteral scalar node) >>= answer
  | .check, [node, type] => do
    let verdict ← traced (·.checkValue node type)
    answer (match verdict with
      | some invalid => invalid.toValue
      | none => .null)
  | .validate, [registry, document, limit] => do
    let result ← traced (·.validate registry document limit)
    answer result
  | .validateStepwise, [registry, document, limit] => do
    let result ← traced (·.validateStepwise false registry document limit)
    answer (result.getD .null)
  | .validateCancelled, [registry, document, limit] => do
    let result ← traced (·.validateStepwise true registry document limit)
    return .stepwise result
  | .result, [errors, fatal] => answer (.record .result [errors, fatal])
  | .context, [registry, document, collect] =>
    answer (.context
      { registry, document, fatal := .null
        sink := if collect.truthy then .handOn none else .keep })
  | .report, [target, error, fatal] => reportTo target error fatal.truthy >>= answer
  | .rule checking, [target] => newRule target checking
  | _, _ => throw .operand

end QueryDefaults
