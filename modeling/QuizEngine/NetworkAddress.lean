import QuizEngine.Power

/-!
# Network addresses

An `IpAddress` has four numbers below 256 or eight below 65536. `IpAddress.toText` writes
it in the short form, the longest run of zero groups as `::`. `SocketAddress.ofText?` reads
an address with the number of a service behind it, `127.0.0.1:80` or `[::1]:80`; the
eight-group form may name a scope, which is not kept.
-/

namespace QuizEngine

/-- The address of a machine. -/
inductive IpAddress where
  /-- Four numbers. -/
  | four (a b c d : Nat)
  /-- Eight groups. -/
  | six (groups : List Nat)
  deriving DecidableEq

/-- A service on a machine. -/
structure SocketAddress where
  /-- The machine. -/
  ip : IpAddress
  /-- The number of the service. -/
  service : Nat
  deriving DecidableEq

namespace IpAddress

/-! ## Writing -/

/-- Four numbers with points between them. -/
def fourText (a b c d : Nat) : String := s!"{a}.{b}.{c}.{d}"

/-- A group in hexadecimal digits without zeros in front. -/
def groupText (n : Nat) : String := String.ofList (Nat.toDigits 16 n)

/-- Groups with colons between them. -/
def groupsText (gs : List Nat) : String := ":".intercalate (gs.map groupText)

/-- How many zeros a list starts with. -/
def leadingZeros (gs : List Nat) : Nat := (gs.takeWhile (· == 0)).length

/-- The start and the length of the first of the longest runs of zeros. -/
def longestZeros : (start : Nat) → List Nat → Nat × Nat
  | _, [] => (0, 0)
  | start, g :: rest =>
    let here := leadingZeros (g :: rest)
    let later := longestZeros (start + 1) rest
    if here ≠ 0 ∧ later.2 ≤ here then (start, here) else later

/-- The short form of an address. -/
def toText : IpAddress → String
  | .four a b c d => fourText a b c d
  | .six [0, 0, 0, 0, 0, 0xffff, x, y] =>
    "::ffff:" ++ fourText (x / 256) (x % 256) (y / 256) (y % 256)
  | .six gs =>
    let (start, length) := longestZeros 0 gs
    if 1 < length then groupsText (gs.take start) ++ "::" ++ groupsText (gs.drop (start + length))
    else groupsText gs

/-! ## Reading -/

/-- The value of a digit to a base. -/
def digit? (base : Nat) (c : Char) : Option Nat :=
  let value :=
    if '0' ≤ c ∧ c ≤ '9' then c.toNat - 48
    else if 'a' ≤ c ∧ c ≤ 'f' then c.toNat - 87
    else if 'A' ≤ c ∧ c ≤ 'F' then c.toNat - 55
    else base
  if value < base then some value else none

/-- Reads the digits at the start of a text; they have to be at most `most` in number, and
their value below `limit`. -/
def number? (base most limit : Nat) (s : List Char) : Option (Nat × List Char) :=
  let ds := s.takeWhile fun c => (digit? base c).isSome
  let value := ds.foldl (fun n c => n * base + (digit? base c).getD 0) 0
  if ds ≠ [] ∧ ds.length ≤ most ∧ value < limit then some (value, s.drop ds.length) else none

/-- Reads one character. -/
def mark? (c : Char) : List Char → Option (List Char)
  | d :: rest => if c = d then some rest else none
  | [] => none

/-- Reads a number below 256 without a zero in front. -/
def octet? (s : List Char) : Option (Nat × List Char) := do
  let (n, rest) ← number? 10 3 256 s
  if s.head? = some '0' ∧ s.length - rest.length ≠ 1 then none else some (n, rest)

/-- Reads four numbers. -/
def four? (s : List Char) : Option ((Nat × Nat × Nat × Nat) × List Char) := do
  let (a, s) ← octet? s
  let (b, s) ← octet? (← mark? '.' s)
  let (c, s) ← octet? (← mark? '.' s)
  let (d, s) ← octet? (← mark? '.' s)
  some ((a, b, c, d), s)

/-- A text behind the colon that stands before every group but the first. -/
def separated (index : Nat) (s : List Char) : Option (List Char) :=
  if index = 0 then some s else mark? ':' s

/-- Reads up to `left` more groups; four numbers stand for the last two, and end the
groups. -/
def groups : (left index : Nat) → List Char → List Nat × Bool × List Char
  | 0, _, s => ([], false, s)
  | left + 1, index, s =>
    match (if left = 0 then none else (separated index s).bind four?) with
    | some ((a, b, c, d), rest) => ([a * 256 + b, c * 256 + d], true, rest)
    | none =>
      match (separated index s).bind (number? 16 4 65536) with
      | some (g, rest) =>
        let (more, ended, rest) := groups left (index + 1) rest
        (g :: more, ended, rest)
      | none => ([], false, s)

/-- Reads eight groups, of which a run of zeros may be left out. -/
def six? (s : List Char) : Option (IpAddress × List Char) :=
  let (front, ended, rest) := groups 8 0 s
  if front.length = 8 then some (.six front, rest)
  else if ended then none
  else do
    let rest ← mark? ':' (← mark? ':' rest)
    let (back, _, rest) := groups (7 - front.length) 0 rest
    some (.six (front ++ List.replicate (8 - front.length - back.length) 0 ++ back), rest)

end IpAddress

namespace SocketAddress

open IpAddress

/-- Reads the number of a service with its colon at the end of a text. -/
def service? (s : List Char) : Option Nat := do
  let s ← mark? ':' s
  let (service, rest) ← number? 10 s.length 65536 s
  if rest.isEmpty then some service else none

/-- Passes over a scope. -/
def afterScope? : List Char → Option (List Char)
  | '%' :: s => (number? 10 s.length (twoTo 32) s).map (·.2)
  | s => some s

/-- Reads an address with the number of a service. -/
def ofText? (text : String) : Option SocketAddress :=
  match text.toList with
  | '[' :: s => do
    let (ip, s) ← six? s
    let s ← mark? ']' (← afterScope? s)
    some ⟨ip, ← service? s⟩
  | s => do
    let ((a, b, c, d), s) ← four? s
    some ⟨.four a b c d, ← service? s⟩

/-- What is reported of a text that is no such address. -/
def fault : String := "invalid socket address syntax"

end SocketAddress

end QuizEngine
