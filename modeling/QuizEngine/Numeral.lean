import QuizEngine.Power

/-!
# Whole numbers in text

`readUnsigned` and `readLong` read a text that holds one whole number of a width in bits. Of
a text that is none, a `NumberError` says what is wrong with it first.
-/

namespace QuizEngine

/-- Why a text is no whole number of some width. -/
inductive NumberError where
  /-- There is no text. -/
  | empty
  /-- A character is no digit. -/
  | invalidDigit
  /-- The number is too large. -/
  | tooLarge
  /-- The number is too small. -/
  | tooSmall
  deriving DecidableEq

/-- What is reported of a text that is no whole number. -/
def NumberError.message : NumberError → String
  | .empty => "cannot parse integer from empty string"
  | .invalidDigit => "invalid digit found in string"
  | .tooLarge => "number too large to fit in target type"
  | .tooSmall => "number too small to fit in target type"

/-- Reads digits on from `n`; whichever comes first is reported, a character that is no
digit or a number that is not below `limit`. -/
def readDigits (limit : Nat) (tooFar : NumberError) : (n : Nat) → List Char → Except NumberError Nat
  | n, [] => .ok n
  | n, c :: rest =>
    if !c.isDigit then .error .invalidDigit
    else if n * 10 + (c.toNat - 48) < limit then readDigits limit tooFar (n * 10 + (c.toNat - 48)) rest
    else .error tooFar

/-- Reads a number of some bits without a sign; a plus sign may stand before it. -/
def readUnsigned (bits : Nat) (s : String) : Except NumberError Nat :=
  match s.toList with
  | [] => .error .empty
  | ['+'] => .error .invalidDigit
  | '+' :: ds => readDigits (twoTo bits) .tooLarge 0 ds
  | ds => readDigits (twoTo bits) .tooLarge 0 ds

/-- Reads a number of sixty-four bits with or without a sign. -/
def readLong (s : String) : Except NumberError Int :=
  match s.toList with
  | [] => .error .empty
  | ['+'] => .error .invalidDigit
  | ['-'] => .error .invalidDigit
  | '+' :: ds => (readDigits (twoTo 63) .tooLarge 0 ds).map fun n => (n : Int)
  | '-' :: ds => (readDigits (twoTo 63 + 1) .tooSmall 0 ds).map fun n => -(n : Int)
  | ds => (readDigits (twoTo 63) .tooLarge 0 ds).map fun n => (n : Int)

end QuizEngine
