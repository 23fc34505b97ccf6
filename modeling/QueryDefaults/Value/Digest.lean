import QueryDefaults.Value.Access

/-!
Digests of values. Whatever can be a key has a digest, and equal values have equal digests. A node keeps
the digest that was first taken of it, even if one of its parts changes later, and it may have been given
one; lists, mappings and what else can change without a number of its own have no digest.
-/

namespace QueryDefaults

/-- The number that a boolean counts as. -/
def boolInt (b : Bool) : Int := if b then 1 else 0

/-- Digests that were taken of nodes, by the numbers of the nodes. -/
abbrev Digests := List (Nat × Digest)

/-- A computation that takes digests; those that it took stay also if it fails. -/
abbrev DigestM := ExceptT Fault (StateM Digests)

/-- The digest of a double; one that is no number has its own. -/
def Double.digest (id : Nat) : Double → Digest
  | .nan => .object id
  | .inf negative => .infinity negative
  | x => match x.ratio? with
    | some (n, d) => .ofRatio n d
    | none => .object id

/-- A value without a digest. -/
def Fault.noDigest (cls : String) : Fault := .unsupported .type (sentence ["unhashable type: '", cls, "'"])

/-- The digest of an object that is not data. -/
def Foreign.digest (id : Nat) (f : Foreign) : Except Fault Digest :=
  if f = .set then .error (.noDigest "set")
  else if f = .bytes then .ok (.ofText "")
  else if f.isSingle then .ok (.foreign f)
  else .ok (.object id)

/-- The first factor that digests of numbers in a row are mixed with. -/
def rowFactor : UInt64 := 11400714785074694791

/-- The factor of each digest in a row. -/
def itemFactor : UInt64 := 14029467366897019727

/-- What the mixing of the digests in a row begins with. -/
def rowSeed : UInt64 := 2870177450012600261

/-- Mixes the digest of a number into that of a row. -/
def mixDigest (acc : UInt64) (residue : Int) : UInt64 :=
  let acc := acc + UInt64.ofInt residue * itemFactor
  (acc <<< 31 ||| acc >>> 33) * rowFactor

/-- The digest of a row of values whose digests are numbers, as a number. -/
def mixedDigest (residues : List Int) : Int :=
  let acc := residues.foldl mixDigest rowSeed + (UInt64.ofNat residues.length ^^^ (rowSeed ^^^ 3527539))
  if acc = -1 then 1546275796 else acc.toInt64.toInt

/-- A digest as a number, if it is one. -/
def Digest.number? : Digest → Option Int
  | number residue => some residue
  | _ => none

/-- The digest of a row of values out of their digests: a number if all of them are numbers. -/
def Digest.ofRow (items : List Digest) : Digest :=
  match items.mapM Digest.number? with
  | some residues => .number (mixedDigest residues)
  | none => .row items

/-- The digest that an integer gives as it stands, unless it has too many bits. -/
def givenDigest (n : Int) : Digest :=
  if n.natAbs < Nat.pow 2 63 then .number (if n = -1 then -2 else n) else .ofRatio n 1

/-- The digest that a node was given, if any; it must be an integer. -/
def digestGiven (attrs : List (String × Value)) : Except Fault (Option Digest) :=
  match attrs.lookup digestName with
  | none | some .null => .ok none
  | some (.bool b) => .ok (some (givenDigest (boolInt b)))
  | some (.int n _) => .ok (some (givenDigest n))
  | some _ => .error (.unsupported .type "__hash__ method should return an integer")

/-- The digest of the attributes that a node lists by itself, out of the computations for all that it has. -/
def takeListed (kind : Kind) (digests : List (String × DigestM Digest)) : List Value → DigestM (List Digest)
  | [] => return []
  | key :: keys => do
    let name ← key.attributeName
    let d ← match digests.lookup name with
      | some d => d
      | none =>
        if name = "kind" then pure (.ofText kind.text) else throw (.lacks (.node ⟨0, kind, [], none⟩) name)
    let ds ← takeListed kind digests keys
    return d :: ds

mutual

/-- Takes the digest of a value, if it has one. -/
def Value.takeDigest : Value → DigestM Digest
  | .null => return .null
  | .undefined => return .undefined
  | .bool b => return .ofRatio (boolInt b) 1
  | .int n _ => return .ofRatio n 1
  | .float x i => return x.digest i
  | .str s _ => return .ofText s
  | .tuple xs _ | .record _ xs _ => do
    let ds ← takeDigests xs
    return .ofRow ds
  | .operation o => return .text o.name
  | .action a => return .text a.name
  | .member _ name _ => return .text name
  | .node n => takeNodeDigest n
  | .type t => return .type t.plain
  | .error e => return .object e.id
  | .context c => return .object c.id
  | .rule r => return .object r.id
  | .exceptionOf e => return .object e.id
  | .enumeration _ _ i | .registry _ _ i | .visitor _ i | .function _ i =>
    return .object i
  | .builtin f => return .builtin f
  | .method owner _ => return .method owner
  | .foreign f i => f.digest i
  | .list .. => throw (.noDigest "list")
  | .mapping .. => throw (.noDigest "dict")
  | .inputField _ => throw (.noDigest "GraphQLInputField")
  | .enumValue _ => throw (.noDigest "GraphQLEnumValue")
termination_by structural v => v

/-- Takes the digests of values in a row. -/
def takeDigests : List Value → DigestM (List Digest)
  | [] => return []
  | x :: xs => do
    let d ← x.takeDigest
    let ds ← takeDigests xs
    return d :: ds
termination_by structural xs => xs

/-- Takes the digest of a node: the one that it keeps or was given, or a new one of the attributes that
count for it. -/
def takeNodeDigest : Node → DigestM Digest
  | ⟨id, kind, attrs, kept⟩ =>
    match kept with
    | some d => return d
    | none => do
      if attrs.isEmpty then throw .endless
      match ← digestGiven attrs with
      | some d => return d
      | none =>
        let ds ← match attrs.lookup "keys" with
          | none => takeAttrDigests kind attrs
          | some keys => do
            let keys ← keys.toList
            takeListed kind (attrDigests attrs) keys
        if id ≠ 0 then modify ((id, .ofRow ds) :: ·)
        return .ofRow ds
termination_by structural n => n

/-- The computations that take the digests of attributes. -/
def attrDigests : List (String × Value) → List (String × DigestM Digest)
  | [] => []
  | (k, v) :: as => (k, v.takeDigest) :: attrDigests as
termination_by structural as => as

/-- Takes the digests of the attributes that belong to a kind. -/
def takeAttrDigests (kind : Kind) : List (String × Value) → DigestM (List Digest)
  | [] => return []
  | (k, v) :: as =>
    if kind.keys.contains k then do
      let d ← v.takeDigest
      let ds ← takeAttrDigests kind as
      return d :: ds
    else takeAttrDigests kind as
termination_by structural as => as

end

namespace Value

/-- The digest of a value, if it has one. -/
def digest (v : Value) : Except Fault Digest := (v.takeDigest.run.run []).1

/-- The digests that are taken of nodes on the way to the digest of a value. -/
def newDigests (v : Value) : Digests := (v.takeDigest.run.run []).2

/-- Whether a value can be a key. -/
def hashable (v : Value) : Bool := v.digest matches .ok _

/-- The kind that a value is the name of; what cannot be a key is refused. -/
def kind? (v : Value) : Except Fault (Option Kind) :=
  match v with
  | str s _ => .ok (Kind.ofText? s)
  | v => v.digest.map fun _ => none

end Value

/-- The kind that a node goes by, if there is such a kind. -/
def NodeOf.role (n : Node) : Except Fault (Option Kind) := n.kindValue.kind?

end QueryDefaults
