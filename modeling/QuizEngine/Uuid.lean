import QuizEngine.Power

/-!
# Identifiers

A `Uuid` is a number of 128 bits. `Uuid.toText` writes it with thirty-two hexadecimal
digits in five groups. `Uuid.ofText` reads that form, the digits without their hyphens, the
groups inside braces, and the groups behind `urn:uuid:`, in capital and small letters; of
another text it says what is wrong first (`Uuid.faultOf`).
-/

namespace QuizEngine

/-- An identifier of attempts and answers. -/
structure Uuid where
  /-- The identifier as a number. -/
  value : Nat
  value_lt : value < twoTo 128
  deriving DecidableEq

/-- Why a text is no identifier. -/
inductive UuidError where
  /-- Digits alone, of this many bytes. -/
  | length (found : Nat)
  /-- A character that is neither a digit nor a hyphen. -/
  | character (found : Char) (index : Nat)
  /-- Hyphens make another number of groups. -/
  | groupCount (found : Nat)
  /-- A group of another length. -/
  | groupLength (group expected found : Nat)
  deriving DecidableEq

/-- What is reported of a text that is no identifier. -/
def UuidError.message : UuidError → String
  | .length found => s!"invalid length: found {found}"
  | .character found index => s!"invalid character: found `{found}` at {index}"
  | .groupCount found => s!"invalid group count: expected 5, found {found}"
  | .groupLength group expected found =>
    s!"invalid group length in group {group}: expected {expected}, found {found}"

namespace Uuid

instance : LT Uuid := ⟨fun a b => a.value < b.value⟩

instance (a b : Uuid) : Decidable (a < b) := inferInstanceAs (Decidable (_ < (_ : Nat)))

/-- The lengths of the five groups of digits. -/
def groupLengths : List Nat := [8, 4, 4, 4, 12]

/-! ## Writing -/

/-- The last `count` digits of a number to the base sixteen. -/
def hexDigits (n : Nat) : (count : Nat) → List Char
  | 0 => []
  | count + 1 => hexDigits (n / 16) count ++ [Nat.digitChar (n % 16)]

/-- Digits in groups of these lengths, hyphens between them. -/
def grouped : (lengths : List Nat) → List Char → List Char
  | [], _ => []
  | [_], ds => ds
  | n :: rest, ds => ds.take n ++ '-' :: grouped rest (ds.drop n)

/-- The five groups of digits. -/
def toText (u : Uuid) : String := String.ofList (grouped groupLengths (hexDigits u.value 32))

instance : ToString Uuid := ⟨toText⟩

/-! ## Reading -/

/-- The value of a digit to the base sixteen. -/
def hexValue? (c : Char) : Option Nat :=
  if '0' ≤ c ∧ c ≤ '9' then some (c.toNat - 48)
  else if 'a' ≤ c ∧ c ≤ 'f' then some (c.toNat - 87)
  else if 'A' ≤ c ∧ c ≤ 'F' then some (c.toNat - 55)
  else none

/-- The identifier that digits stand for. -/
def ofDigits? (ds : List Char) : Option Uuid := do
  let values ← ds.mapM hexValue?
  let n := values.foldl (fun n d => n * 16 + d) 0
  if h : values.length = 32 ∧ n < twoTo 128 then some ⟨n, h.2⟩ else none

/-- The first character that is neither a digit nor a hyphen, with its place. -/
def strayCharacter? (index : Nat) : List Char → Option UuidError
  | [] => none
  | c :: rest =>
    if c = '-' ∨ (hexValue? c).isSome then strayCharacter? (index + 1) rest
    else some (.character c index)

/-- The first group of another length. -/
def strayGroup? : (group : Nat) → (lengths : List Nat) → List (List Char) → Option UuidError
  | group, n :: lengths, g :: groups =>
    if g.length = n then strayGroup? (group + 1) lengths groups
    else some (.groupLength group n g.length)
  | _, _, _ => none

/-- Where the digits of an identifier stand in a text. -/
inductive Frame where
  /-- Nothing stands around them. -/
  | bare
  /-- Braces do. -/
  | braces
  /-- The name of the scheme stands before them. -/
  | scheme
  deriving DecidableEq

/-- What may stand before the digits, in small or capital letters. -/
def schemePrefix : List Char := "urn:uuid:".toList

/-- How many characters stand before the digits. -/
def Frame.offset : Frame → Nat
  | .bare => 0
  | .braces => 1
  | .scheme => schemePrefix.length

/-- How many characters stand around the digits. -/
def Frame.size : Frame → Nat
  | .bare => 0
  | .braces => 2
  | .scheme => schemePrefix.length

/-- The frame of a text and what stands inside. -/
def framed (s : List Char) : Frame × List Char :=
  if 2 ≤ s.length ∧ s.head? = some '\x7b' ∧ s.getLast? = some '\x7d' then
    (.braces, (s.drop 1).dropLast)
  else if schemePrefix.isPrefixOf (s.map Char.toLower) then
    (.scheme, s.drop schemePrefix.length)
  else (.bare, s)

/-- Reads the digits of a text: thirty-two without a frame and a hyphen, or five groups. -/
def digitsOf? (frame : Frame) (inner : List Char) : Option Uuid :=
  let groups := inner.splitOn '-'
  if frame = .bare ∧ groups.length = 1 then ofDigits? inner
  else if groups.map List.length = groupLengths then ofDigits? groups.flatten
  else none

/-- What is wrong with a text that is no identifier: its first stray character, else the
number of its groups, else its first group of another length. Without a frame and a hyphen
it is the length that is wrong; and a last group is measured together with the frame. -/
def faultOf (frame : Frame) (inner : List Char) (size : Nat) : UuidError :=
  match strayCharacter? frame.offset inner with
  | some e => e
  | none =>
    let groups := inner.splitOn '-'
    if frame = .bare ∧ groups.length = 1 then .length size
    else if groups.length ≠ groupLengths.length then .groupCount groups.length
    else
      match strayGroup? 0 groupLengths.dropLast groups with
      | some e => e
      | none => .groupLength 4 12 ((groups.getLast?.getD []).length + frame.size)

/-- Reads an identifier in any of its forms. -/
def ofText (text : String) : Except UuidError Uuid :=
  let (frame, inner) := framed text.toList
  match digitsOf? frame inner with
  | some u => .ok u
  | none => .error (faultOf frame inner text.utf8ByteSize)

end Uuid

end QuizEngine
