import QuizEngine.Decimal.Text
import QuizEngine.Json.Basic
import QuizEngine.Text.Quoted
import QuizEngine.Time.Text
import QuizEngine.Uuid

/-!
# Reading values out of JSON

A `Reader` turns a JSON value into a value of a domain or says what is wrong with it: the
value is of another kind than expected (`ReadError.invalidType`), of the right kind and out
of place (`invalidValue`, `unknownVariant`), a list of another length, or an object that
lacks a field. `ReadError.message` is the text of it.

This module has the readers of single values, of values that may be null, and of lists.
-/

namespace QuizEngine

/-- The kind of value that was met, with its content where it is short. -/
inductive Found where
  | null
  | boolean (b : Bool)
  | integer (n : Int)
  | float (x : Binary64)
  | text (s : String)
  | sequence
  | map

/-- How a message names what was met. -/
def Found.describe : Found → String
  | .null => "null"
  | .boolean b => "boolean `" ++ (if b then "true" else "false") ++ "`"
  | .integer n => "integer `" ++ toString n ++ "`"
  | .float x => "floating point `" ++ x.toText ++ "`"
  | .text s => "string " ++ Text.quoted s
  | .sequence => "sequence"
  | .map => "map"

/-- The kind of a JSON value. -/
def Json.found : Json → Found
  | .null => .null
  | .bool b => .boolean b
  | .integer n => .integer n
  | .float x => .float x
  | .text s => .text s
  | .array _ => .sequence
  | .object _ => .map

/-- Why a JSON value does not stand for a value of a domain. -/
inductive ReadError where
  /-- Another kind of value. -/
  | invalidType (found : Found) (expected : String)
  /-- A value of the right kind that is not one of those expected. -/
  | invalidValue (found : Found) (expected : String)
  /-- A list of another length. -/
  | invalidLength (length : Nat) (expected : String)
  /-- A name that is none of a list of names. -/
  | unknownVariant (name : String) (known : List String)
  /-- An object without a field that it needs. -/
  | missingField (name : String)
  /-- A text that does not follow its format. -/
  | malformed (text : String)

/-- The names that a message offers. -/
def ReadError.oneOf : List String → String
  | [] => "there are no variants"
  | [a] => "expected `" ++ a ++ "`"
  | [a, b] => "expected `" ++ a ++ "` or `" ++ b ++ "`"
  | names => "expected one of " ++ ", ".intercalate (names.map fun n => "`" ++ n ++ "`")

/-- What is reported of a value that cannot be read. -/
def ReadError.message : ReadError → String
  | .invalidType found expected => "invalid type: " ++ found.describe ++ ", expected " ++ expected
  | .invalidValue found expected => "invalid value: " ++ found.describe ++ ", expected " ++ expected
  | .invalidLength length expected =>
    "invalid length " ++ toString length ++ ", expected " ++ expected
  | .unknownVariant name known => "unknown variant `" ++ name ++ "`, " ++ oneOf known
  | .missingField name => "missing field `" ++ name ++ "`"
  | .malformed text => text

/-- Reads a value out of JSON. -/
abbrev Reader (α : Type) := Json → Except ReadError α

namespace Wire

/-! ## Numbers -/

/-- The least and the greatest number of a kind of whole number, and its name. -/
structure IntegerKind where
  /-- How messages name it. -/
  name : String
  /-- The least number. -/
  least : Int
  /-- The greatest number. -/
  greatest : Int

/-- Identifiers and counters. -/
def IntegerKind.long : IntegerKind := ⟨"i64", -twoTo 63, twoTo 63 - 1⟩

/-- Positions, blanks, limits and short lengths of time. -/
def IntegerKind.short : IntegerKind := ⟨"i32", -twoTo 31, twoTo 31 - 1⟩

/-- Amounts. -/
def IntegerKind.size : IntegerKind := ⟨"usize", 0, twoTo 64 - 1⟩

/-- A whole number within the bounds of its kind. -/
def integerOf (kind : IntegerKind) : Reader Int
  | .integer n =>
    if kind.least ≤ n ∧ n ≤ kind.greatest then .ok n
    else .error (.invalidValue (.integer n) kind.name)
  | v => .error (.invalidType v.found kind.name)

/-- An identifier or a counter. -/
def long : Reader Int := integerOf .long

/-- A position, the number of a blank, a limit. -/
def short : Reader Int := integerOf .short

/-- An amount. -/
def size : Reader Nat := fun v => (integerOf .size v).map Int.toNat

/-- What messages call a decimal. -/
def decimalName : String := "a Decimal type representing a fixed-point number"

/-- A decimal: a text, a whole number, or a floating point number by its shortest text. -/
def decimal : Reader Decimal
  | .integer n =>
    match Decimal.ofInt? n with
    | some d => .ok d
    | none => .error (.invalidValue (.integer n) decimalName)
  | .float x =>
    match Decimal.ofPlain? x.toPlain with
    | some d => .ok d
    | none => .error (.invalidValue (.float x) decimalName)
  | .text s =>
    match Decimal.ofText? s with
    | some d => .ok d
    | none => .error (.invalidValue (.text s) decimalName)
  | v => .error (.invalidType v.found decimalName)

/-! ## Other single values -/

/-- A boolean. -/
def bool : Reader Bool
  | .bool b => .ok b
  | v => .error (.invalidType v.found "a boolean")

/-- A text. -/
def text : Reader String
  | .text s => .ok s
  | v => .error (.invalidType v.found "a string")

/-- An identifier. -/
def uuid : Reader Uuid
  | .text s => (Uuid.ofText s).mapError fun e => .malformed ("UUID parsing failed: " ++ e.message)
  | v => .error (.invalidType v.found "a formatted UUID string")

/-- A point in time. -/
def instant : Reader Instant
  | .text s => (Instant.ofText s).mapError fun e => .malformed e.message
  | v => .error (.invalidType v.found "an RFC 3339 formatted date and time string")

/-- A value as it is. -/
def any : Reader Json := .ok

/-! ## Values that may be absent, names, lists -/

/-- Null, or a value. -/
def nullable (read : Reader α) : Reader (Option α)
  | .null => .ok none
  | v => (read v).map some

/-- One of a list of names. An object with the name for its only field, and null behind it,
is that name too; `bare` says that an empty object may stand for the null. -/
def named (bare : Bool) (names : List (String × α)) : Reader α
  | .text s => find s
  | .object [(name, v)] => do
    let a ← find name
    match v with
    | .null => .ok a
    | .object [] => if bare then .ok a else .error (.invalidType .map "unit")
    | v => .error (.invalidType v.found "unit")
  | .object _ => .error (.invalidValue .map "map with a single key")
  | v => .error (.invalidType v.found "string or map")
where
  /-- The value of a name. -/
  find (name : String) : Except ReadError α :=
    match names.find? (·.1 == name) with
    | some found => .ok found.2
    | none => .error (.unknownVariant name (names.map (·.1)))

/-- A list. -/
def list (read : Reader α) : Reader (List α)
  | .array items => items.mapM read
  | v => .error (.invalidType v.found "a sequence")

end Wire

end QuizEngine
