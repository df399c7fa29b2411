import QuizEngine.Decimal.Basic
import QuizEngine.Overflow

/-!
# Sums, products and quotients of decimals

`Decimal.add` and `Decimal.mul` form the exact result and bring it into range with
`Decimal.fit`; a zero summand leaves the other summand as it is, and a zero factor gives
plain zero.

`Decimal.div` is long division. It starts with the whole quotient of the coefficients and
lets it grow by up to nine digits at a time (`growth`) while something is left over, the
quotient stays below the limit and at most twenty-eight digits stand behind the point.
What is still left over then is rounded away, a half to the even neighbour. Zeros at the
end are dropped in blocks (`dropZeros`), so that `1 / 2` is `0.50` and `2 / 2.5` is `0.8`.

An operation whose result is too large is an `Overflow`.
-/

namespace QuizEngine

namespace Decimal

/-! ## Sums and products -/

/-- The sum, with the larger of the two scales unless a summand is zero. -/
def add (a b : Decimal) : Except Overflow Decimal :=
  if a.isZero then .ok b
  else if b.isZero then .ok a
  else
    let scale := max a.scale b.scale
    match fit (a.atScale scale + b.atScale scale) scale with
    | some sum => .ok sum
    | none => .error .addition

/-- The product, with the sum of the two scales where it fits. -/
def mul (a b : Decimal) : Except Overflow Decimal :=
  if a.isZero || b.isZero then .ok zero
  else
    match fit (a.coefficient * b.coefficient) (a.scale + b.scale) with
    | some product => .ok product
    | none => .error .multiplication

/-- The sum of a list from the left, from zero. -/
def sum (ds : List Decimal) : Except Overflow Decimal :=
  ds.foldlM add zero

/-! ## Quotients -/

/-- The most digits, up to `most`, that `q` can grow by without reaching the limit. -/
def growth (q : Nat) : (most : Nat) → Nat
  | 0 => 0
  | most + 1 => if q * tenTo (most + 1) < limit then most + 1 else growth q most

theorem growth_le (q : Nat) : ∀ most : Nat, growth q most ≤ most
  | 0 => Nat.le_refl _
  | most + 1 => by
    unfold growth
    split
    · exact Nat.le_refl _
    · exact Nat.le_trans (growth_le q most) (Nat.le_succ _)

/-- A tenth of `q`, rounded; `more` says that the exact value lies a little above `q`. -/
def roundTenth (q : Nat) (more : Bool) : Nat :=
  if q % 10 > 5 ∨ (q % 10 = 5 ∧ (more ∨ q / 10 % 2 = 1)) then q / 10 + 1 else q / 10

/-- The size of a quotient, the digits behind its point, and whether it was extended. -/
structure Quotient where
  /-- The quotient without its point. -/
  size : Nat
  /-- How many digits stand behind the point. -/
  scale : Nat
  /-- Whether digits were added because something was left over. -/
  extended : Bool

/-- The quotient one digit shorter, where it has a digit behind the point to lose. -/
def shortened (size : Nat) (scale : Int) (more : Bool) : Option Quotient :=
  if 1 ≤ scale then some ⟨roundTenth size more, (scale - 1).toNat, true⟩ else none

/-- The last digit of a quotient with `rest` left over of a `divisor`: rounded up from
half a unit on, a half only to an even digit. -/
def closed (divisor size rest : Nat) (scale : Int) : Option Quotient :=
  if 2 * rest < divisor ∨ (2 * rest = divisor ∧ size % 2 = 0) then
    some ⟨size, scale.toNat, true⟩
  else if size + 1 < limit then some ⟨size + 1, scale.toNat, true⟩
  else shortened (size + 1) scale true

/-- Long division from the quotient `size` with `rest` left over, the point `scale` digits
from the right; `fuel` bounds the steps, each of which adds at least one digit. -/
def extend (divisor : Nat) :
    (fuel size rest : Nat) → (scale : Int) → (extended : Bool) → Option Quotient
  | 0, _, _, _, _ => none
  | fuel + 1, size, rest, scale, extended =>
    if rest = 0 then
      if 0 ≤ scale then some ⟨size, scale.toNat, extended⟩
      else
        let digits := min 9 (-scale).toNat
        if size * tenTo digits < limit then
          extend divisor fuel (size * tenTo digits) 0 (scale + digits) extended
        else none
    else
      let digits := growth size (min 9 (maxScale - scale).toNat)
      if digits < 9 ∧ scale + digits < 0 then none
      else if digits = 0 then closed divisor size rest scale
      else
        let next := size * tenTo digits + rest * tenTo digits / divisor
        let left := rest * tenTo digits % divisor
        if next < limit then extend divisor fuel next left (scale + digits) true
        else shortened next (scale + digits) (left != 0)

/-- One block of `zeros` zeros dropped from the end, where there is one behind the point. -/
def dropBlock (zeros : Nat) (n : Nat × Nat) : Nat × Nat :=
  if zeros ≤ n.2 ∧ tenTo zeros ∣ n.1 then (n.1 / tenTo zeros, n.2 - zeros) else n

/-- Blocks of eight zeros dropped while the size is a multiple of `2 ^ 32`. -/
def dropEights : (fuel : Nat) → Nat × Nat → Nat × Nat
  | 0, n => n
  | fuel + 1, n =>
    if 8 ≤ n.2 ∧ twoTo 32 ∣ n.1 ∧ tenTo 8 ∣ n.1 then dropEights fuel (n.1 / tenTo 8, n.2 - 8) else n

/-- Zeros at the end of a size with its scale, dropped in blocks of eight, then of four, of
two and of one. -/
def dropZeros (n : Nat × Nat) : Nat × Nat :=
  dropBlock 1 (dropBlock 2 (dropBlock 4 (dropEights 3 n)))

/-- The quotient of `a` by `b`, which is not zero. -/
def div (a b : Decimal) : Except Overflow Decimal :=
  if a.isZero then .ok zero
  else
    let size := a.coefficient.natAbs
    let divisor := b.coefficient.natAbs
    let negative := decide (a.coefficient < 0) != decide (b.coefficient < 0)
    let found := do
      let q ← extend divisor 64 (size / divisor) (size % divisor) (a.scale - b.scale) false
      let (size, scale) := if q.extended then dropZeros (q.size, q.scale) else (q.size, q.scale)
      ofParts? negative size scale
    match found with
    | some quotient => .ok quotient
    | none => .error .division

/-- The same number without zeros at the end behind the point. -/
def trimmed (d : Decimal) : Decimal :=
  go d.scale d
where
  go : Nat → Decimal → Decimal
    | 0, d => d
    | fuel + 1, d =>
      if d.scale ≠ 0 ∧ d.coefficient.natAbs % 10 = 0 then
        match ofParts? (d.coefficient < 0) (d.coefficient.natAbs / 10) (d.scale - 1) with
        | some shorter => go fuel shorter
        | none => d
      else d

end Decimal

end QuizEngine
