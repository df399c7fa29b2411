import QuizEngine.Power
import QuizEngine.Text.Blank
import QuizEngine.Time.Instant

/-!
# The text of an instant

An instant is written as date and time of day in universal time, `2026-03-02T09:00:00Z`,
with three, six or nine digits of a fraction as far as it needs them. A year of more than
four digits and a year below zero have a sign. `Instant.toText` ends with `Z` and
`Instant.toOffsetText` with `+00:00`.

`Instant.ofText` reads a date, one of the letters `T` and `t` or a space, a time of day and
an offset. Blanks may stand before each number and before the marks between them, months
and days may have one digit, and digits behind the ninth of a fraction are passed over.
-/

namespace QuizEngine

/-- Why a text is no point in time. -/
inductive InstantError where
  /-- A number that no calendar or clock has. -/
  | outOfRange
  /-- An instant outside the years covered. -/
  | impossible
  /-- A character that does not belong there. -/
  | invalid
  /-- The text ends too early. -/
  | tooShort
  /-- Something follows the offset. -/
  | tooLong
  deriving DecidableEq

/-- What is reported of a text that is no point in time. -/
def InstantError.message : InstantError → String
  | .outOfRange => "input is out of range"
  | .impossible => "no possible date and time matching input"
  | .invalid => "input contains invalid characters"
  | .tooShort => "premature end of input"
  | .tooLong => "trailing input"

namespace Instant

/-! ## Writing -/

/-- The decimal digits of a number with zeros in front up to a width. -/
def padded (width n : Nat) : String :=
  let digits := toString n
  String.ofList (List.replicate (width - digits.length) '0') ++ digits

/-- A year of four digits, with a sign where it needs more or is below zero. -/
def yearText (year : Int) : String :=
  if 0 ≤ year ∧ year ≤ 9999 then padded 4 year.toNat
  else (if year < 0 then "-" else "+") ++ padded 4 year.natAbs

/-- A point and the digits of a fraction of a second, none for zero. -/
def fractionText (nanos : Nat) : String :=
  if nanos = 0 then ""
  else if nanos % 1000000 = 0 then "." ++ padded 3 (nanos / 1000000)
  else if nanos % 1000 = 0 then "." ++ padded 6 (nanos / 1000)
  else "." ++ padded 9 nanos

/-- Date and time of day, without an offset. -/
def localText (t : Instant) : String :=
  let date := Time.Date.ofDayNumber (t.seconds / 86400)
  let second := (t.seconds % 86400).toNat
  let leap := if t.inLeapSecond then 1 else 0
  yearText date.year ++ "-" ++ padded 2 date.month ++ "-" ++ padded 2 date.day ++ "T" ++
    padded 2 (second / 3600) ++ ":" ++ padded 2 (second / 60 % 60) ++ ":" ++
    padded 2 (second % 60 + leap) ++ fractionText (t.nanos - leap * Time.nanosPerSecond)

/-- Date and time of day in universal time. -/
def toText (t : Instant) : String := t.localText ++ "Z"

/-- Date and time of day with the offset written out. -/
def toOffsetText (t : Instant) : String := t.localText ++ "+00:00"

/-! ## Reading -/

/-- Reads at most `width` digits, one at least. -/
def number (width : Option Nat) (s : List Char) : Except InstantError (Nat × List Char) :=
  let taken := (match width with | some w => s.take w | none => s).takeWhile Char.isDigit
  match s, taken with
  | [], _ => .error .tooShort
  | _, [] => .error .invalid
  | s, ds =>
    let value := ds.foldl (fun n c => n * 10 + (c.toNat - 48)) 0
    if value < twoTo 63 then .ok (value, s.drop ds.length) else .error .outOfRange

/-- Reads a number of at most two digits within bounds, with blanks before it. -/
def bounded (low high : Nat) (s : List Char) : Except InstantError (Nat × List Char) := do
  let (n, rest) ← number (some 2) (Text.trimStart s)
  if low ≤ n ∧ n ≤ high then .ok (n, rest) else .error .outOfRange

/-- Reads a year: four digits at most, or a sign and any number of digits. -/
def yearNumber (s : List Char) : Except InstantError (Int × List Char) := do
  let (year, rest) ← match Text.trimStart s with
    | '-' :: r => (number none r).map fun (n, rest) => (-(n : Int), rest)
    | '+' :: r => (number none r).map fun (n, rest) => ((n : Int), rest)
    | r => (number (some 4) r).map fun (n, rest) => ((n : Int), rest)
  if -(twoTo 31 : Int) ≤ year ∧ year < twoTo 31 then .ok (year, rest) else .error .outOfRange

/-- Reads one mark. -/
def mark (c : Char) : List Char → Except InstantError (List Char)
  | [] => .error .tooShort
  | d :: rest => if d = c then .ok rest else .error .invalid

/-- Reads the mark between a date and a time of day. -/
def dayMark : List Char → Except InstantError (List Char)
  | [] => .error .tooShort
  | c :: rest => if c = 't' ∨ c = 'T' ∨ c = ' ' then .ok rest else .error .invalid

/-- Reads a fraction of a second in nanoseconds where there is one. -/
def fraction : List Char → Except InstantError (Nat × List Char)
  | '.' :: s => do
    let (n, rest) ← number (some 9) s
    let digits := s.length - rest.length
    .ok (n * tenTo (9 - digits), rest.dropWhile Char.isDigit)
  | s => .ok (0, s)

/-- Reads two digits; `high` is the largest first digit. -/
def twoDigits (high : Nat) : List Char → Except InstantError (Nat × List Char)
  | [] => .error .tooShort
  | [c] => .error (if c.utf8Size < 2 then .tooShort else .invalid)
  | c :: d :: rest =>
    if c.isDigit ∧ d.isDigit then
      if c.toNat - 48 ≤ high then .ok ((c.toNat - 48) * 10 + (d.toNat - 48), rest)
      else .error .outOfRange
    else .error .invalid

/-- Reads an offset of hours and minutes in seconds. -/
def signedOffset (negative : Bool) (s : List Char) : Except InstantError (Int × List Char) := do
  let (hours, s) ← twoDigits 9 s
  let (minutes, s) ← twoDigits 5 (s.dropWhile fun c => c == ':' || Text.isBlank c)
  let size : Int := hours * 3600 + minutes * 60
  .ok (if negative then -size else size, s)

/-- Reads an offset in seconds: `UTC`, `Z`, or hours and minutes with a sign. -/
def offset (s : List Char) : Except InstantError (Int × List Char) :=
  match s with
  | [] => .error .tooShort
  | c :: rest =>
    if (s.take 3).map Char.toUpper = ['U', 'T', 'C'] then .ok (0, s.drop 3)
    else if c = 'Z' ∨ c = 'z' then .ok (0, rest)
    else if c = '+' then signedOffset false rest
    else if c = '-' ∨ c = '\u2212' then signedOffset true rest
    else .error .invalid

/-- The date of these numbers, where the calendar covers it. -/
def dateOf (year : Int) (month day : Nat) : Except InstantError Time.Date :=
  let date : Time.Date := ⟨year, month, day⟩
  if date.exists? ∧ -262143 ≤ year ∧ year ≤ 262142 then .ok date else .error .outOfRange

/-- Reads a point in time. A second numbered 60 is the leap second behind second 59. -/
def ofText (text : String) : Except InstantError Instant := do
  let (year, s) ← yearNumber text.toList
  let (month, s) ← bounded 1 12 (← mark '-' (Text.trimStart s))
  let (day, s) ← bounded 1 31 (← mark '-' (Text.trimStart s))
  let (hour, s) ← bounded 0 23 (← dayMark s)
  let (minute, s) ← bounded 0 59 (← mark ':' (Text.trimStart s))
  let (second, s) ← bounded 0 60 (← mark ':' (Text.trimStart s))
  let (nanos, s) ← fraction s
  let (shift, s) ← offset (Text.trimStart s)
  if !(Text.trimStart s).isEmpty then .error .tooLong
  else
    let date ← dateOf year month day
    if 86400 ≤ shift.natAbs then .error .outOfRange
    else
      let leap := if second = 60 then 1 else 0
      let seconds := date.dayNumber * 86400 + hour * 3600 + minute * 60 + (second - leap : Nat)
      match of? (seconds - shift) (nanos + leap * Time.nanosPerSecond) with
      | some t => .ok t
      | none => .error .impossible

end Instant

end QuizEngine
