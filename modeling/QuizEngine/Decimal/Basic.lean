import QuizEngine.Power

/-!
# Decimals with ninety-six bits

A `Decimal` is a whole coefficient below `2 ^ 96` in size over a power of ten with at
most twenty-eight zeros. Points, scores and percentages are decimals. The scale is part
of the value: `5` and `5.00` are equal as numbers (`Decimal.Le` both ways) and are two
decimals.

`roundHalfEven` divides and rounds to the nearest whole number, a half going to the even
neighbour (`roundHalfEven_eq_of_dvd`). `Decimal.fit` brings any exact whole number over a
power of ten into range: it drops the fewest digits that make the coefficient fit, and rounds
once.
-/

namespace QuizEngine

/-! ## Rounding a quotient -/

/-- `n / d` rounded to the nearest whole number, a half going to the even neighbour. -/
def roundHalfEven (n d : Nat) : Nat :=
  if 2 * (n % d) < d ∨ (2 * (n % d) = d ∧ n / d % 2 = 0) then n / d else n / d + 1

theorem roundHalfEven_le (n d : Nat) : roundHalfEven n d ≤ n / d + 1 := by
  unfold roundHalfEven
  split <;> omega

theorem le_roundHalfEven (n d : Nat) : n / d ≤ roundHalfEven n d := by
  unfold roundHalfEven
  split <;> omega

/-- A quotient without a remainder is not changed. -/
theorem roundHalfEven_eq_of_dvd {n d : Nat} (hd : 0 < d) (h : d ∣ n) :
    roundHalfEven n d = n / d := by
  have hr : n % d = 0 := Nat.mod_eq_zero_of_dvd h
  simp [roundHalfEven, hr, hd]

/-! ## The type -/

/-- Every coefficient is below this number in size. -/
def Decimal.limit : Nat := twoTo 96

/-- The most digits that may stand behind the point. -/
def Decimal.maxScale : Nat := 28

/-- The number `coefficient / 10 ^ scale`, written with `scale` digits behind the point. -/
structure Decimal where
  /-- The number without its point. -/
  coefficient : Int
  /-- How many digits stand behind the point. -/
  scale : Nat
  coefficient_lt : coefficient.natAbs < Decimal.limit
  scale_le : scale ≤ Decimal.maxScale
  deriving DecidableEq

namespace Decimal

/-- The coefficient of size `size`, negative when `negative` is. -/
def signed (negative : Bool) (size : Nat) : Int :=
  if negative then -(size : Int) else size

@[simp]
theorem natAbs_signed (negative : Bool) (size : Nat) : (signed negative size).natAbs = size := by
  cases negative <;> simp [signed]

/-- The decimal with this sign, size and scale, where it is in range. -/
def ofParts? (negative : Bool) (size scale : Nat) : Option Decimal :=
  if h : size < limit ∧ scale ≤ maxScale then
    some ⟨signed negative size, scale, by simpa using h.1, h.2⟩
  else none

/-- A whole number as a decimal, where it is in range. -/
def ofInt? (n : Int) : Option Decimal :=
  ofParts? (n < 0) n.natAbs 0

/-- Zero without a point. -/
def zero : Decimal := ⟨0, 0, by decide, by decide⟩

/-- One hundred without a point. -/
def hundred : Decimal := ⟨100, 0, by decide, by decide⟩

/-- Whether the number is zero, whatever its scale. -/
def isZero (d : Decimal) : Bool := d.coefficient == 0

/-- The coefficient the number has when written with `scale` digits behind the point. -/
def atScale (d : Decimal) (scale : Nat) : Int :=
  d.coefficient * tenTo (scale - d.scale)

/-! ## Order -/

/-- `a` is at most `b` as a number. -/
def Le (a b : Decimal) : Prop :=
  a.coefficient * tenTo b.scale ≤ b.coefficient * tenTo a.scale

/-- `a` is below `b` as a number. -/
def Lt (a b : Decimal) : Prop :=
  a.coefficient * tenTo b.scale < b.coefficient * tenTo a.scale

/-- `a` and `b` are the same number, perhaps with different scales. -/
def SameNumber (a b : Decimal) : Prop :=
  a.coefficient * tenTo b.scale = b.coefficient * tenTo a.scale

instance : LE Decimal := ⟨Le⟩

instance : LT Decimal := ⟨Lt⟩

instance (a b : Decimal) : Decidable (a ≤ b) := inferInstanceAs (Decidable (_ ≤ (_ : Int)))

instance (a b : Decimal) : Decidable (a < b) := inferInstanceAs (Decidable (_ < (_ : Int)))

instance (a b : Decimal) : Decidable (SameNumber a b) :=
  inferInstanceAs (Decidable (_ = (_ : Int)))

theorem le_iff (a b : Decimal) :
    a ≤ b ↔ a.coefficient * tenTo b.scale ≤ b.coefficient * tenTo a.scale := Iff.rfl

theorem lt_iff (a b : Decimal) :
    a < b ↔ a.coefficient * tenTo b.scale < b.coefficient * tenTo a.scale := Iff.rfl

theorem not_lt_iff_le (a b : Decimal) : ¬ a < b ↔ b ≤ a := by
  rw [le_iff, lt_iff]; omega

theorem le_refl (a : Decimal) : a ≤ a := Int.le_refl _

/-- A decimal that is at most another is below it or the same number. -/
theorem lt_of_le_of_not_sameNumber {a b : Decimal} (h : a ≤ b) (hne : ¬ a.SameNumber b) : a < b :=
  Int.lt_iff_le_and_ne.2 ⟨h, hne⟩

/-! ## Bringing an exact number into range -/

/-- From `start` on, the first number of final digits without which `n` is below the
limit; `fuel` bounds the search. -/
def dropCount (n : Nat) : (fuel start : Nat) → Nat
  | 0, start => start
  | fuel + 1, start => if n / tenTo start < limit then start else dropCount n fuel (start + 1)

/-- `n / 10 ^ scale` as a decimal. The fewest digits go that leave the rest within the
limit and at most `maxScale` digits behind the point, and what goes is rounded away once,
a half to the even neighbour. Nothing fits when a digit before the point would go. -/
def fit (n : Int) (scale : Nat) : Option Decimal :=
  let size := n.natAbs
  let dropped := dropCount size (size.log2 + 1) (scale - maxScale)
  if scale < dropped then none
  else
    let rounded := roundHalfEven size (tenTo dropped)
    if rounded < limit then ofParts? (n < 0) rounded (scale - dropped)
    else if scale < dropped + 1 then none
    else ofParts? (n < 0) (roundHalfEven rounded 10) (scale - (dropped + 1))

/-- A coefficient that loses digits stays below the limit. -/
theorem rounded_lt_limit {n places : Nat} (hn : n < limit) (hp : places ≠ 0) :
    roundHalfEven n (tenTo places) < limit := by
  have ht : tenTo 1 ≤ tenTo places := tenTo_le_tenTo (Nat.one_le_iff_ne_zero.2 hp)
  have hq : n / tenTo places ≤ n / 10 := Nat.div_le_div_left ht (by decide)
  have hr := roundHalfEven_le n (tenTo places)
  have hl : 10 ≤ limit := by decide
  omega

/-- The number with at most `places` digits behind the point, a half going to the even
neighbour. A number with fewer digits stays as it is. -/
def roundTo (d : Decimal) (places : Nat) : Decimal :=
  if h : d.scale ≤ places then d
  else
    ⟨signed (d.coefficient < 0) (roundHalfEven d.coefficient.natAbs (tenTo (d.scale - places))),
      places, by
        rw [natAbs_signed]
        exact rounded_lt_limit d.coefficient_lt (by omega), by have := d.scale_le; omega⟩

@[simp]
theorem scale_roundTo_le (d : Decimal) (places : Nat) : (d.roundTo places).scale ≤ places := by
  unfold roundTo
  split
  · assumption
  · exact Nat.le_refl _

end Decimal

end QuizEngine
