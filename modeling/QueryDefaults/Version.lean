import QueryDefaults.Value.Convert
import QueryDefaults.Value.Display

/-!
Versions. A version text begins with three numbers separated by points; a letter after them gives the
release level and the digits after it the serial number. What follows is not looked at.
-/

namespace QueryDefaults

/-- A version. -/
structure Version where
  major : Int
  minor : Int
  micro : Int
  level : String
  serial : Int
  deriving DecidableEq, Repr

namespace Version

open Text

/-- A version as a record. -/
def toValue (v : Version) : Value :=
  .record .version [.int v.major, .int v.minor, .int v.micro, .word v.level, .int v.serial]

/-- The release level that the letter after the numbers stands for. -/
def levelOf (letters : List Char) : String :=
  match letters.head? with
  | some 'a' => "alpha"
  | some 'b' => "beta"
  | some 'c' | some 'r' => "candidate"
  | _ => "final"

/-- The number at the front of a text, and what follows it. -/
def number? (cs : List Char) : Option (List Char × List Char) :=
  match cs.takeWhile isDigit with
  | [] => none
  | digits => some (digits, cs.dropWhile isDigit)

/-- A point at the front of a text. -/
def point? : List Char → Option (List Char)
  | '.' :: rest => some rest
  | _ => none

/-- The parts of a version text: three numbers, letters and a serial number. -/
def split? (cs : List Char) : Option (List Char × List Char × List Char × List Char × List Char) := do
  let (major, rest) ← number? cs
  let rest ← point? rest
  let (minor, rest) ← number? rest
  let rest ← point? rest
  let (micro, rest) ← number? rest
  let letters := rest.takeWhile fun c => !isDigit c
  let serial := (rest.dropWhile fun c => !isDigit c).takeWhile isDigit
  return (major, minor, micro, letters, serial)

/-- The number that digits spell. -/
def value (digits : List Char) : Except Fault Int :=
  match Numeral.readInt? (String.ofList digits) with
  | some n => .ok n
  | none => .error .unreadable

/-- Reads a version text. -/
def read (text : String) : Except Fault Version :=
  match split? text.toList with
  | none => .error .noAttribute
  | some (major, minor, micro, letters, serial) => do
    let major ← value major
    let minor ← value minor
    let micro ← value micro
    let serial ← if serial.isEmpty then pure 0 else value serial
    return { major, minor, micro, level := levelOf letters, serial }

/-- The text of a version: the level is left out if it is `final` or empty. -/
def text (v : Version) : String :=
  let numbers := ".".intercalate [toString v.major, toString v.minor, toString v.micro]
  if v.level.isEmpty || v.level == "final" then numbers
  else numbers ++ firstPoint v.level ++ toString v.serial

/-- The version of this library. -/
def current : Version := { major := 0, minor := 1, micro := 0, level := "final", serial := 0 }

/-- The version of this library as a record, which is one object. -/
def own : Value :=
  match current.toValue with
  | .record shape items _ => .record shape items 2
  | v => v

end Version

end QueryDefaults
