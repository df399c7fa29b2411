/-!
# Punycode

A label with characters beyond ASCII is written as its ASCII characters, a hyphen, and
numbers to the base thirty-six, each of which says what character to put where
(`Punycode.decode?`). The digits of a number come least first. A digit below the threshold
of its place is the last one, and the thresholds move with the size of the numbers before
(`Punycode.adapted`).
-/

namespace QuizEngine.Url.Punycode

/-- The value of a digit. -/
def digit? (c : Char) : Option Nat :=
  if 'a' ≤ c ∧ c ≤ 'z' then some (c.toNat - 97)
  else if 'A' ≤ c ∧ c ≤ 'Z' then some (c.toNat - 65)
  else if '0' ≤ c ∧ c ≤ '9' then some (c.toNat - 48 + 26)
  else none

/-- The threshold of a place, of which the first is 36 and the next one 72. -/
def threshold (place bias : Nat) : Nat := min 26 (max 1 (place - bias))

/-- Divides by 35 until the number is at most 455, and adds 36 for each time. -/
def scaled (n added : Nat) : Nat × Nat :=
  if 455 < n then scaled (n / 35) (added + 36) else (n, added)
termination_by n
decreasing_by exact Nat.div_lt_self (by omega) (by decide)

/-- The bias after a number, with the count of characters that it leads to. -/
def adapted (n count : Nat) (isFirst : Bool) : Nat :=
  let n := if isFirst then n / 700 else n / 2
  let (n, added) := scaled (n + n / count) 0
  added + 36 * n / (n + 38)

/-- A label as far as it was read. -/
structure State where
  /-- The characters. -/
  out : List Char
  /-- The character that was put last. -/
  code : Nat := 128
  /-- The place behind it. -/
  start : Nat := 0
  /-- The bias of the thresholds. -/
  bias : Nat := 72
  /-- The number being read, counted from `start`. -/
  sum : Nat := 0
  /-- What its next digit counts. -/
  weight : Nat := 1
  /-- The place of its next digit. -/
  place : Nat := 36

/-- Reads one more digit; none where it leads to no character. -/
def State.next? (s : State) (c : Char) : Option State := do
  let d ← digit? c
  let sum := s.sum + d * s.weight
  let t := threshold s.place s.bias
  if t ≤ d then
    some { s with sum := sum, weight := s.weight * (36 - t), place := s.place + 36 }
  else
    let count := s.out.length + 1
    let code := s.code + sum / count
    let spot := sum % count
    if 0x10ffff < code ∨ (0xd800 ≤ code ∧ code < 0xe000) then none
    else
      some {
        out := s.out.insertIdx spot (Char.ofNat code)
        code := code
        start := spot + 1
        bias := adapted (sum - s.start) count (s.start == 0)
        sum := spot + 1 }

/-- The characters of a label; none where it breaks off or goes wrong. -/
def State.run? (s : State) : List Char → Option (List Char)
  | [] => if s.place = 36 then some s.out else none
  | c :: rest =>
    match s.next? c with
    | some s => s.run? rest
    | none => none

/-- The characters of a label; those before its last hyphen stand for themselves. -/
def decode? (label : List Char) : Option (List Char) :=
  let tail := (label.reverse.takeWhile (· != '-')).reverse
  let basic := label.take (label.length - tail.length - 1)
  if basic.isEmpty then State.run? { out := [] } label else State.run? { out := basic } tail

end QuizEngine.Url.Punycode
