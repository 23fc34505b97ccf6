import QueryDefaults.Value.Basic

/-!
Which objects are one and the same. Single values are told by what they are, everything else by its
number. Some data has one object only, however often it is made: small integers, the empty tuple, and
texts of at most one character below U+0100.
-/

namespace QueryDefaults

/-- The number that the constants of this library share. Constants of one kind with the same content are
one object. -/
def constant : Nat := 1

/-- The first number that is not given to an object of this library. -/
def firstNumber : Nat := 100

/-- Whether two numbers belong to one object; 0 belongs to none. -/
def oneObject (i j : Nat) : Bool := i != 0 && i == j

/-- Whether a container stands inside itself: its number is among those of the containers around it. -/
def isAround (around : List Nat) (id : Nat) : Bool := id != 0 && around.contains id

/-- Whether there is one object only for an integer. -/
def isSmall (n : Int) : Bool := -5 ≤ n && n ≤ 256

/-- Whether there is one object only for a text. -/
def isShort (s : String) : Bool :=
  match s.toList with
  | [] => true
  | [c] => c.val < 256
  | _ => false

/-- Whether there is one object only of an object that is not data. -/
def Foreign.isSingle : Foreign → Bool
  | .bytes | .builtin | .exceptionClass => true
  | _ => false

/-- Whether two types are one object. -/
def Ty.same : Ty → Ty → Bool
  | .named n, .named m => n.id == m.id
  | .list _ i, .list _ j | .nonNull _ i, .nonNull _ j | .wrapper _ i, .wrapper _ j => oneObject i j
  | _, _ => false

/-- Whether two values are one and the same object. -/
def Value.same : Value → Value → Bool
  | .null, .null | .undefined, .undefined => true
  | .bool a, .bool b => a == b
  | .int n i, .int m j => n == m && (isSmall n || oneObject i j)
  | .float _ i, .float _ j => oneObject i j
  | .str s i, .str t j => s == t && (isShort s || oneObject i j)
  | .list _ i, .list _ j | .mapping _ i, .mapping _ j | .record _ _ i, .record _ _ j => oneObject i j
  | .tuple xs i, .tuple ys j => (xs.isEmpty && ys.isEmpty) || oneObject i j
  | .operation o, .operation p => o == p
  | .action a, .action b => a == b
  | .node n, .node m => oneObject n.id m.id
  | .type t, .type u => t.same u
  | .inputField f, .inputField g => oneObject f.id g.id
  | .enumValue v, .enumValue u => oneObject v.id u.id
  | .enumeration _ _ i, .enumeration _ _ j => oneObject i j
  | .member e name _, .member f label _ => oneObject e f && name == label
  | .error e, .error d => oneObject e.id d.id
  | .exceptionOf e, .exceptionOf d => oneObject e.id d.id
  | .registry _ _ i, .registry _ _ j => oneObject i j
  | .context c, .context d => oneObject c.id d.id
  | .rule r, .rule q => oneObject r.id q.id
  | .visitor _ i, .visitor _ j => oneObject i j
  | .function _ i, .function _ j => oneObject i j
  | .builtin f, .builtin g => f == g
  | .method _ i, .method _ j => oneObject i j
  | .foreign f i, .foreign g j => f == g && (f.isSingle || oneObject i j)
  | _, _ => false

/-- The value that is no number, as this library makes it. -/
def Value.notANumber : Value := .float .nan constant

/-- A text of this library. -/
def Value.word (s : String) : Value := .str s constant

/-- The number of a text. -/
def Value.textId : Value → Nat
  | .str _ id => id
  | _ => 0

/-- The name of a type as a value. -/
def NamedType.label (n : NamedType) : Value := .str n.name n.nameId

end QueryDefaults
