import QuizEngine.Overflow
import QuizEngine.Power
import QuizEngine.Time.Calendar

/-!
# Points in time

An `Instant` is a second counted from the beginning of 1970 and a fraction in nanoseconds.
A leap second has no number of its own: it is the second before it with a fraction of one
second and more. Instants are ordered by second, then by fraction.

`Instant.secondsSince` is the whole number of seconds between two instants and
`Instant.elapsedSeconds` the same without a sign; `Instant.advance` moves an instant, unless
it leaves the years that the calendar covers.
-/

namespace QuizEngine

namespace Time

/-- The first second of the first year covered. -/
def earliest : Int := Date.dayNumber ⟨-262143, 1, 1⟩ * 86400

/-- The last second of the last year covered. -/
def latest : Int := Date.dayNumber ⟨262142, 12, 31⟩ * 86400 + 86399

/-- The nanoseconds of a second. -/
def nanosPerSecond : Nat := 1000000000

end Time

open Time

/-- A point in time. -/
structure Instant where
  /-- The second, counted from the beginning of 1970. -/
  seconds : Int
  /-- The fraction in nanoseconds, a whole second more in a leap second. -/
  nanos : Nat
  covered : earliest ≤ seconds ∧ seconds ≤ latest
  nanos_lt : nanos < 2 * nanosPerSecond
  deriving DecidableEq

namespace Instant

/-- The instant of a second and a fraction, where the calendar covers it. -/
def of? (seconds : Int) (nanos : Nat) : Option Instant :=
  if h : (earliest ≤ seconds ∧ seconds ≤ latest) ∧ nanos < 2 * nanosPerSecond then
    some ⟨seconds, nanos, h.1, h.2⟩
  else none

/-- The beginning of 1970. -/
def epoch : Instant := ⟨0, 0, by decide, by decide⟩

instance : Inhabited Instant := ⟨epoch⟩

/-! ## Order -/

/-- `a` is before `b`. -/
def Before (a b : Instant) : Prop :=
  a.seconds < b.seconds ∨ (a.seconds = b.seconds ∧ a.nanos < b.nanos)

instance : LT Instant := ⟨Before⟩

instance : LE Instant := ⟨fun a b => ¬ b < a⟩

instance (a b : Instant) : Decidable (a < b) :=
  inferInstanceAs (Decidable (_ < (_ : Int) ∨ _))

instance (a b : Instant) : Decidable (a ≤ b) := inferInstanceAs (Decidable (¬ _))

theorem lt_iff (a b : Instant) :
    a < b ↔ a.seconds < b.seconds ∨ (a.seconds = b.seconds ∧ a.nanos < b.nanos) := Iff.rfl

theorem le_iff_not_lt (a b : Instant) : a ≤ b ↔ ¬ b < a := Iff.rfl

theorem le_trans {a b c : Instant} (hab : a ≤ b) (hbc : b ≤ c) : a ≤ c := by
  rw [le_iff_not_lt, lt_iff] at *
  omega

theorem le_total (a b : Instant) : a ≤ b ∨ b ≤ a := by
  rw [le_iff_not_lt, le_iff_not_lt, lt_iff, lt_iff]
  omega

theorem lt_or_eq_of_le {a b : Instant} (h : a ≤ b) : a < b ∨ a = b := by
  obtain ⟨_, _, _, _⟩ := a
  obtain ⟨_, _, _, _⟩ := b
  rw [le_iff_not_lt, lt_iff] at h
  rw [lt_iff, mk.injEq]
  simp only at h ⊢
  omega

/-! ## Differences -/

/-- The second of the day. -/
def secondOfDay (t : Instant) : Int := t.seconds % 86400

/-- Whether the instant lies in a leap second. -/
def inLeapSecond (t : Instant) : Bool := nanosPerSecond ≤ t.nanos

/-- The leap second of the one that is earlier in its day, counted in. -/
def leapBetween (later earlier : Instant) : Int :=
  if earlier.secondOfDay < later.secondOfDay then (if earlier.inLeapSecond then 1 else 0)
  else if later.secondOfDay < earlier.secondOfDay then (if later.inLeapSecond then -1 else 0)
  else 0

/-- The nanoseconds from `earlier` to `later`. -/
def nanosSince (later earlier : Instant) : Int :=
  (later.seconds - earlier.seconds + leapBetween later earlier) * nanosPerSecond
    + ((later.nanos : Int) - earlier.nanos)

/-- The whole seconds from `earlier` to `later`; a fraction is dropped on both sides of
zero. -/
def secondsSince (later earlier : Instant) : Int :=
  (nanosSince later earlier).tdiv nanosPerSecond

/-- The whole seconds from `earlier` to `later`, zero when `later` is before `earlier`. -/
def elapsedSeconds (later earlier : Instant) : Int := max (secondsSince later earlier) 0

theorem elapsedSeconds_nonneg (later earlier : Instant) : 0 ≤ elapsedSeconds later earlier :=
  Int.le_max_right _ _

/-! ## Moving -/

/-- The instant moved by milliseconds, where the calendar covers it. Inside a leap second a
move that stays within it only changes the fraction. -/
def moved? (t : Instant) (milliseconds : Int) : Option Instant :=
  let seconds := milliseconds.tdiv 1000
  let nanos := milliseconds.tmod 1000 * 1000000
  let carried (start : Int) (fraction : Int) : Option Instant :=
    let fraction := fraction + nanos
    let carry := fraction / nanosPerSecond
    of? (start + seconds + carry) (fraction % nanosPerSecond).toNat
  if t.inLeapSecond then
    if 0 < seconds ∨ (0 < nanos ∧ (2 * nanosPerSecond : Nat) ≤ t.nanos + nanos) then
      carried t.seconds (t.nanos - nanosPerSecond)
    else if seconds < 0 then carried (t.seconds + 1) (t.nanos - nanosPerSecond)
    else of? t.seconds (t.nanos + nanos).toNat
  else carried t.seconds t.nanos

/-- The instant moved by milliseconds. The least number of sixty-four bits is no length of
time, for its opposite has no number. -/
def advance (t : Instant) (milliseconds : Int) : Except Overflow Instant :=
  if milliseconds ≤ -(twoTo 63 : Int) then .error .span
  else
    match t.moved? milliseconds with
    | some moved => .ok moved
    | none => .error .instant

end Instant

end QuizEngine
