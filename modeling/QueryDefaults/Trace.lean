import QueryDefaults.Value.Mapping

/-!
Computations that leave a trace. Besides its result, or the failure that ended it, a computation tells
which records it logged, which input objects it asked for their fields, which digests it took of nodes, and
up to where it has used numbers for new objects.
`result_bind` says that the result of a sequence depends on the results of its parts alone.
-/

namespace QueryDefaults

/-- The parts of the library that log. -/
inductive LogSource where
  | coercion | validation | rule
  deriving DecidableEq, Repr

/-- One record: where it comes from, its text, and the class of the failure that it reports. -/
structure LogRecord where
  source : LogSource
  text : String
  failure : Option ErrorClass := none
  deriving DecidableEq, Repr

/-- A result with what happened on the way to it. -/
structure Traced (α : Type) where
  result : Except Fault α
  logs : List LogRecord := []
  asked : List Nat := []
  taken : Digests := []
  used : Nat := 0

namespace Traced

variable {α β : Type}

/-- What happened in one computation and then in another one, with the result of the second. -/
def followedBy (x : Traced α) (y : Traced β) : Traced β where
  result := y.result
  logs := x.logs ++ y.logs
  asked := x.asked ++ y.asked
  taken := x.taken ++ y.taken
  used := max x.used y.used

/-- A computation that leaves no trace. -/
def lift (r : Except Fault α) : Traced α := { result := r }

/-- One computation after the other; what happened in the first stays also if the second fails. -/
def bind (x : Traced α) (f : α → Traced β) : Traced β :=
  match x.result with
  | .ok a => x.followedBy (f a)
  | .error e => x.followedBy (lift (.error e))

instance : Monad Traced where
  pure a := lift (.ok a)
  bind := bind

instance : MonadExceptOf Fault Traced where
  throw f := lift (.error f)
  tryCatch x h :=
    match x.result with
    | .ok _ => x
    | .error f => x.followedBy (h f)

instance : MonadLift (Except Fault) Traced := ⟨lift⟩

/-- Logs a record. -/
def log (r : LogRecord) : Traced Unit := { result := .ok (), logs := [r] }

/-- Notes that an input object was asked for its fields. -/
def ask (id : Nat) : Traced Unit := { result := .ok (), asked := [id] }

/-- Takes the digest of a value that is used as a key. -/
def keyDigest (key : Value) : Traced Digest := { result := key.digest, taken := key.newDigests }

/-- Takes the digest of a value that may have none. -/
def useAsKey (key : Value) : Traced Unit := { result := .ok (), taken := key.newDigests }

@[simp]
theorem result_pure (a : α) : (Pure.pure a : Traced α).result = .ok a := rfl

@[simp]
theorem result_bind (x : Traced α) (f : α → Traced β) :
    (x >>= f).result = x.result.bind fun a => (f a).result := by
  show (bind x f).result = _
  unfold bind
  cases x.result <;> rfl

@[simp]
theorem result_lift (r : Except Fault α) : (lift r).result = r := rfl

@[simp]
theorem result_throw (f : Fault) : (throw f : Traced α).result = .error f := rfl

@[simp]
theorem result_log (r : LogRecord) : (log r).result = .ok () := rfl

@[simp]
theorem result_keyDigest (key : Value) : (keyDigest key).result = key.digest := rfl

@[simp]
theorem result_ask (id : Nat) : (ask id).result = .ok () := rfl

end Traced

/-- The mapping that results from putting pairs one after the other. -/
def mappingOf (pairs : List (Value × Value)) : Traced (List Entry) :=
  pairs.foldlM (fun es (k, v) => do
    let digest ← Traced.keyDigest k
    putAt digest k v es) []

end QueryDefaults
