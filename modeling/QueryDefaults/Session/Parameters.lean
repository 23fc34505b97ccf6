import QueryDefaults.Fault

/-!
Parameters of operations. Arguments stand for parameters in their order or by their names; each
parameter gets one argument, and what is optional may be left out.
-/

namespace QueryDefaults

/-- A parameter of an operation, with what stands for it if it is left out; some cannot be. -/
structure Parameter where
  name : String
  usual : Option Value := none

namespace Parameter

/-- A parameter that must be given. -/
def required (name : String) : Parameter := { name }

/-- A parameter that is `null` if it is left out. -/
def optional (name : String) : Parameter := { name, usual := some .null }

/-- The argument for a parameter that none stands for by its place. -/
def fill (p : Parameter) (named : List (String × Value)) : Except Fault Value :=
  match (named.lookup p.name).orElse fun _ => p.usual with
  | some v => .ok v
  | none => .error .operand

end Parameter

/-- The arguments of parameters in their order. Too many arguments, two for one parameter, one for none,
or none for one that is required, are refused. -/
def bindArguments : List Parameter → List Value → List (String × Value) → Except Fault (List Value)
  | [], [], [] => return []
  | [], _, _ => throw .operand
  | p :: ps, v :: vs, named => do
    if (named.lookup p.name).isSome then throw .operand
    let rest ← bindArguments ps vs named
    return v :: rest
  | p :: ps, [], named => do
    let v ← p.fill named
    let rest ← bindArguments ps [] (named.filter fun (name, _) => name != p.name)
    return v :: rest

end QueryDefaults
