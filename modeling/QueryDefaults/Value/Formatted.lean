import QueryDefaults.Value.Access

/-!
The formatted forms of locations, errors and results: mappings that leave out what is not there. A node
is formatted as what its attribute of that name says.
-/

namespace QueryDefaults

/-- The message of an error that has none. -/
def unknownMessage : String := "An unknown error occurred."

/-- The mapping of a location's line and column. -/
def placeEntries (line column : Value) : List Entry :=
  [Value.entryOf "line" line, Value.entryOf "column" column]

/-- What a node is formatted as. -/
def NodeOf.formatted (n : Node) : Except Fault Value :=
  match n.attrs.lookup "formatted" with
  | some v => .ok v
  | none => .error .noAttribute

mutual

/-- A value as an entry of a response, if it has such a form. -/
def Value.formatted : Value → Except Fault Value
  | .error e => do
    let es ← errorEntries e
    return .mapping es
  | .record shape xs _ => formattedRecord shape xs
  | .node n => n.formatted
  | _ => throw .noAttribute
termination_by structural v => v

/-- Values in a row as entries of a response. -/
def formattedAll : List Value → Except Fault (List Value)
  | [] => return []
  | x :: xs => do
    let y ← x.formatted
    let ys ← formattedAll xs
    return y :: ys
termination_by structural xs => xs

/-- The keys of a mapping as entries of a response. -/
def formattedKeys : List Entry → Except Fault (List Value)
  | [] => return []
  | ⟨_, k, _⟩ :: es => do
    let y ← k.formatted
    let ys ← formattedKeys es
    return y :: ys
termination_by structural es => es

/-- What iterating a value gives as entries of a response. -/
def formattedItems : Value → Except Fault (List Value)
  | .list xs _ | .tuple xs _ | .record _ xs _ => formattedAll xs
  | .mapping es _ => formattedKeys es
  | v => do
    let items ← v.toList
    if items.isEmpty then return [] else throw .noAttribute
termination_by structural v => v

/-- A location as its line and column; a result as its errors, or the fatal one alone if there is one. -/
def formattedRecord (shape : Record) : List Value → Except Fault Value
  | [a, b] =>
    match shape with
    | .location => return .mapping (placeEntries a b)
    | .result =>
      if b.truthy then do
        let fatal ← b.formatted
        return .ofEntries [("errors", .list [fatal])]
      else do
        let errors ← formattedItems a
        return .ofEntries [("errors", .list errors)]
    | _ => throw .noAttribute
  | _ => throw .noAttribute
termination_by structural xs => xs

/-- The entries of an error's formatted form: always a message, and the parts that are there. -/
def errorEntries : GraphQLError → Except Fault (List Entry)
  | ⟨message, _, locations, path, _, extensions, _, _, _⟩ => do
    let message := if message.truthy then message else .word unknownMessage
    let places ← if locations.isNull then pure [] else do
      let places ← formattedItems locations
      pure [Value.entryOf "locations" (.list places)]
    let path := if path.isNull then [] else [Value.entryOf "path" path]
    let extensions := if extensions.truthy then [Value.entryOf "extensions" extensions] else []
    return Value.entryOf "message" message :: places ++ path ++ extensions
termination_by structural e => e

end

/-- An error as an entry of a response. -/
def ErrorOf.formatted (e : GraphQLError) : Except Fault Value := (Value.error e).formatted

end QueryDefaults
