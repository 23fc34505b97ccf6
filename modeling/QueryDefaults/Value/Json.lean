import QueryDefaults.Number.Shortest
import QueryDefaults.Text.Json
import QueryDefaults.Value.Convert

/-!
Values as JSON texts. Only data has one that does not lie inside itself.
-/

namespace QueryDefaults

/-- A double in JSON, where infinities and not-a-number have names of their own. -/
def Double.json : Double → String
  | .nan => "NaN"
  | .inf negative => if negative then "-Infinity" else "Infinity"
  | x => x.text

/-- A value that is no data. -/
def Fault.noData (v : Value) : Fault :=
  .custom .type (sentence ["Object of type ", v.className, " is not JSON serializable"])

/-- A container that lies inside itself. -/
def Fault.circular : Fault := .unsupported .value "Circular reference detected"

namespace Value

/-- A value as the key of a JSON object. -/
def jsonKey : Value → Except Fault String
  | str s _ => .ok s
  | null => .ok "null"
  | bool b => .ok (if b then "true" else "false")
  | int n _ => integerText n
  | float x _ => .ok x.json
  | v => .error (.unsupported .type
      (sentence ["keys must be str, int, float, bool or None, not ", v.className]))

mutual

/-- A value as a JSON text; the numbers of the containers around it are given. -/
def jsonWithin (around : List Nat) : Value → Except Fault String
  | str s _ => return Text.json s
  | null => return "null"
  | bool b => return if b then "true" else "false"
  | int n _ => integerText n
  | float x _ => return x.json
  | list xs i | tuple xs i | record _ xs i =>
    if isAround around i then throw .circular else do
      let ts ← jsonAll (i :: around) xs
      return "[" ++ ", ".intercalate ts ++ "]"
  | mapping es i =>
    if isAround around i then throw .circular else do
      let ts ← jsonEntries (i :: around) es
      return "\x7b" ++ ", ".intercalate ts ++ "\x7d"
  | v => throw (.noData v)
termination_by structural v => v

/-- Values in a row as JSON texts. -/
def jsonAll (around : List Nat) : List Value → Except Fault (List String)
  | [] => return []
  | x :: xs => do
    let t ← x.jsonWithin around
    let ts ← jsonAll around xs
    return t :: ts
termination_by structural xs => xs

/-- The entries of a mapping as JSON texts. -/
def jsonEntries (around : List Nat) : List Entry → Except Fault (List String)
  | [] => return []
  | ⟨_, k, v⟩ :: es => do
    let t ← k.jsonKey
    let u ← v.jsonWithin around
    let ts ← jsonEntries around es
    return (Text.json t ++ ": " ++ u) :: ts
termination_by structural es => es

end

/-- A value as a JSON text. -/
def json (v : Value) : Except Fault String := v.jsonWithin []

end Value

end QueryDefaults
