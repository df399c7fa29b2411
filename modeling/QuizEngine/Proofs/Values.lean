import QuizEngine.Decimal.Arithmetic
import Mathlib.Data.Rat.Floor
import Mathlib.Tactic.FieldSimp
import Mathlib.Tactic.Linarith
import Mathlib.Tactic.Positivity

/-!
# Decimals as rational numbers

`Decimal.value` is the number that a decimal stands for, and the order of decimals is that of
their values (`le_iff_value`). An operation on decimals rounds the exact result into range.
How far it may round depends on the digits there is room for; what matters of it is which
numbers it does not pass (`KeepsPlaces`): a result that keeps two places is on the same side
as the exact one of every number with two digits behind the point, and equal to it when it is
such a number.

So sums of points with two places are exact, however they are scaled, and sums of other
points stay within the bounds that their summands have (`exists_sum`).
-/

namespace QuizEngine

theorem cast_tenTo (n : ℕ) : ((tenTo n : ℕ) : ℚ) = 10 ^ n := by
  simp [tenTo]

/-- A quotient is the whole one and what is left over. -/
theorem natCast_div_add_mod (n : ℕ) {d : ℕ} (hd : 0 < d) :
    ((n / d : ℕ) : ℚ) + (n % d : ℕ) / d = n / d := by
  have hd' : (d : ℚ) ≠ 0 := by exact_mod_cast hd.ne'
  have hn : ((d * (n / d) + n % d : ℕ) : ℚ) = n := by rw [Nat.div_add_mod]
  rw [← hn]
  push_cast
  field_simp

/-! ## Rounding to whole numbers -/

/-- The whole number nearest to `x`, and of two that are as near the even one. -/
def halfEven (x : ℚ) : ℤ :=
  if 2 * (x - ⌊x⌋) < 1 ∨ (2 * (x - ⌊x⌋) = 1 ∧ ⌊x⌋ % 2 = 0) then ⌊x⌋ else ⌊x⌋ + 1

/-- `roundHalfEven` rounds the quotient. -/
theorem halfEven_natCast_div (n : ℕ) {d : ℕ} (hd : 0 < d) :
    halfEven ((n : ℚ) / d) = roundHalfEven n d := by
  have hd' : (0 : ℚ) < d := by exact_mod_cast hd
  have hfloor : ⌊(n : ℚ) / d⌋ = ((n / d : ℕ) : ℤ) := by
    have h := Rat.floor_intCast_div_natCast (n : ℤ) d
    push_cast at h ⊢
    exact h
  have hrest : 2 * ((n : ℚ) / d - (n / d : ℕ)) = ((2 * (n % d) : ℕ) : ℚ) / d := by
    rw [← natCast_div_add_mod n hd]
    push_cast
    ring
  have hlt : ((2 * (n % d) : ℕ) : ℚ) / d < 1 ↔ 2 * (n % d) < d := by
    rw [div_lt_one hd']
    exact_mod_cast Iff.rfl
  have heq : ((2 * (n % d) : ℕ) : ℚ) / d = 1 ↔ 2 * (n % d) = d := by
    rw [div_eq_one_iff_eq hd'.ne']
    exact_mod_cast Iff.rfl
  have heven : ((n / d : ℕ) : ℤ) % 2 = 0 ↔ n / d % 2 = 0 := by omega
  unfold halfEven roundHalfEven
  rw [hfloor, Int.cast_natCast, hrest]
  simp only [hlt, heq, heven]
  split <;> simp

/-- Rounding never leaves an interval that ends at whole numbers. -/
theorem halfEven_le {x : ℚ} {n : ℤ} (h : x ≤ n) : halfEven x ≤ n := by
  have hfloor : ⌊x⌋ ≤ n := Int.floor_le_iff.2 (by linarith)
  unfold halfEven
  split
  · exact hfloor
  · rename_i hc
    rcases hfloor.lt_or_eq with hlt | heq
    · exact hlt
    · refine absurd (Or.inl ?_) hc
      rw [heq]
      linarith

theorem le_halfEven {x : ℚ} {n : ℤ} (h : (n : ℚ) ≤ x) : n ≤ halfEven x := by
  have hfloor : n ≤ ⌊x⌋ := Int.le_floor.2 h
  unfold halfEven
  split <;> omega

theorem halfEven_intCast (n : ℤ) : halfEven n = n :=
  le_antisymm (halfEven_le le_rfl) (le_halfEven le_rfl)

/-- Two numbers on the same side of every half are rounded to the same number. -/
theorem halfEven_congr {x y : ℚ} (hle : ∀ j : ℤ, (j : ℚ) ≤ 2 * x ↔ (j : ℚ) ≤ 2 * y)
    (hge : ∀ j : ℤ, 2 * x ≤ j ↔ 2 * y ≤ j) : halfEven x = halfEven y := by
  have hdouble : ∀ (z : ℚ) (k : ℤ), (k : ℚ) ≤ z ↔ ((2 * k : ℤ) : ℚ) ≤ 2 * z := by
    intro z k
    push_cast
    constructor <;> intro h <;> linarith
  have hfloor : ⌊x⌋ = ⌊y⌋ := by
    refine le_antisymm (Int.le_floor.2 ?_) (Int.le_floor.2 ?_)
    · rw [hdouble, ← hle, ← hdouble]
      exact Int.floor_le x
    · rw [hdouble, hle, ← hdouble]
      exact Int.floor_le y
  have hhalf : ∀ z : ℚ, 2 * (z - ⌊y⌋) < 1 ↔ ¬((2 * ⌊y⌋ + 1 : ℤ) : ℚ) ≤ 2 * z := by
    intro z
    push_cast
    rw [not_le]
    constructor <;> intro h <;> linarith
  have htie : ∀ z : ℚ, 2 * (z - ⌊y⌋) = 1 ↔
      ((2 * ⌊y⌋ + 1 : ℤ) : ℚ) ≤ 2 * z ∧ 2 * z ≤ ((2 * ⌊y⌋ + 1 : ℤ) : ℚ) := by
    intro z
    push_cast
    constructor
    · intro h
      constructor <;> linarith
    · rintro ⟨h, h'⟩
      linarith
  have hcond : 2 * (x - ⌊y⌋) < 1 ∨ (2 * (x - ⌊y⌋) = 1 ∧ ⌊y⌋ % 2 = 0) ↔
      2 * (y - ⌊y⌋) < 1 ∨ (2 * (y - ⌊y⌋) = 1 ∧ ⌊y⌋ % 2 = 0) := by
    rw [hhalf x, hhalf y, htie x, htie y, hle, hge]
  unfold halfEven
  rw [hfloor]
  exact if_congr hcond rfl rfl

/-- A rounded quotient does not pass a whole number. -/
theorem roundHalfEven_le_of_le {n d m : ℕ} (hd : 0 < d) (h : n ≤ m * d) : roundHalfEven n d ≤ m := by
  rcases Nat.lt_or_ge (n / d) m with hlt | hge
  · exact (roundHalfEven_le n d).trans hlt
  · have heq : n = m * d := le_antisymm h ((Nat.le_div_iff_mul_le hd).1 hge)
    rw [heq, roundHalfEven_eq_of_dvd hd (Nat.dvd_mul_left d m), Nat.mul_div_cancel m hd]

theorem le_roundHalfEven_of_le {n d m : ℕ} (hd : 0 < d) (h : m * d ≤ n) : m ≤ roundHalfEven n d :=
  ((Nat.le_div_iff_mul_le hd).2 h).trans (le_roundHalfEven n d)

namespace Decimal

/-! ## Values -/

/-- The number that a decimal stands for. -/
def value (d : Decimal) : ℚ := d.coefficient / 10 ^ d.scale

variable {a b d : Decimal}

@[simp]
theorem value_zero : zero.value = 0 := by
  simp [value, zero]

theorem le_iff_value : a ≤ b ↔ a.value ≤ b.value := by
  rw [le_iff, value, value, div_le_div_iff₀ (by positivity) (by positivity), ← cast_tenTo,
    ← cast_tenTo]
  exact_mod_cast Iff.rfl

theorem isZero_iff_value : a.isZero = true ↔ a.value = 0 := by
  simp [isZero, value]

theorem value_nonneg_iff : 0 ≤ a.value ↔ 0 ≤ a.coefficient := by
  rw [value, le_div_iff₀ (by positivity), zero_mul, Int.cast_nonneg_iff]

theorem value_eq_atScale {scale : ℕ} (h : d.scale ≤ scale) : d.value = d.atScale scale / 10 ^ scale := by
  rw [value, atScale, div_eq_div_iff (by positivity) (by positivity)]
  push_cast
  rw [cast_tenTo, mul_assoc, ← pow_add, Nat.sub_add_cancel h]

/-- The number has at most so many digits behind its point, those aside that are zeros at the
end. -/
def HasPlaces (d : Decimal) (places : ℕ) : Prop :=
  (tenTo d.scale : ℤ) ∣ d.coefficient * tenTo places

instance (d : Decimal) (places : ℕ) : Decidable (d.HasPlaces places) :=
  inferInstanceAs (Decidable (_ ∣ _))

theorem HasPlaces.exists_value_eq {places : ℕ} (h : d.HasPlaces places) :
    ∃ m : ℤ, d.value = m / 10 ^ places := by
  obtain ⟨m, hm⟩ := h
  refine ⟨m, ?_⟩
  rw [value, div_eq_div_iff (by positivity) (by positivity), ← cast_tenTo, ← cast_tenTo]
  have h := congrArg (Int.cast : ℤ → ℚ) hm
  push_cast at h
  rw [h, mul_comm]

/-- The hundredths of a number. -/
def hundredths (d : Decimal) : ℕ := (d.coefficient * tenTo 2 / tenTo d.scale).toNat

theorem HasPlaces.value_eq (h : d.HasPlaces 2) (h0 : 0 ≤ d.value) : d.value = d.hundredths / 10 ^ 2 := by
  obtain ⟨m, hm⟩ := h.exists_value_eq
  have hexact : d.coefficient * tenTo 2 = m * tenTo d.scale := by
    rw [value, div_eq_div_iff (by positivity) (by positivity), ← cast_tenTo, ← cast_tenTo] at hm
    exact_mod_cast hm
  have hm0 : 0 ≤ m := by
    rw [hm, le_div_iff₀ (by positivity), zero_mul] at h0
    exact_mod_cast h0
  have hne : (tenTo d.scale : ℤ) ≠ 0 := by exact_mod_cast (tenTo_pos d.scale).ne'
  obtain ⟨n, rfl⟩ := Int.eq_ofNat_of_zero_le hm0
  rw [hundredths, hexact, Int.mul_ediv_cancel _ hne, hm]
  rfl

/-- With the digits that there may be behind the point every decimal is a whole number. -/
theorem exists_mul_value_eq (d : Decimal) : ∃ n : ℤ, 10 ^ maxScale * d.value = n := by
  refine ⟨d.coefficient * tenTo (maxScale - d.scale), ?_⟩
  have hpow : (10 : ℚ) ^ (maxScale - d.scale) * 10 ^ d.scale = 10 ^ maxScale := by
    rw [← pow_add, Nat.sub_add_cancel d.scale_le]
  rw [value, ← hpow]
  push_cast
  rw [cast_tenTo]
  field_simp

/-! ## Numbers that a rounding does not pass -/

/-- Of every number with so many places, `y` is on the side on which `x` is. -/
def KeepsPlaces (places : ℕ) (x y : ℚ) : Prop :=
  ∀ m : ℕ, (x ≤ m / 10 ^ places → y ≤ m / 10 ^ places) ∧ ((m : ℚ) / 10 ^ places ≤ x → (m : ℚ) / 10 ^ places ≤ y)

namespace KeepsPlaces

variable {places : ℕ} {x y : ℚ}

theorem refl (places : ℕ) (x : ℚ) : KeepsPlaces places x x := fun _ => ⟨id, id⟩

theorem eq (h : KeepsPlaces places x y) {m : ℕ} (hm : x = m / 10 ^ places) : y = x := by
  rw [hm]
  exact le_antisymm ((h m).1 hm.le) ((h m).2 hm.ge)

theorem trans {z : ℚ} (h : KeepsPlaces places x y) (h' : KeepsPlaces places y z) :
    KeepsPlaces places x z :=
  fun m => ⟨fun hx => (h' m).1 ((h m).1 hx), fun hx => (h' m).2 ((h m).2 hx)⟩

end KeepsPlaces

/-! ## Bringing a number into range -/

/-- The digits that go are enough. -/
theorem div_tenTo_dropCount_lt (n : ℕ) : ∀ fuel start : ℕ, n / tenTo (start + fuel) < limit →
    n / tenTo (dropCount n fuel start) < limit
  | 0, _, h => h
  | fuel + 1, start, h => by
    unfold dropCount
    split
    · assumption
    · refine div_tenTo_dropCount_lt n fuel (start + 1) ?_
      rwa [Nat.add_assoc, Nat.add_comm 1]

/-- No more digits go than have to. -/
theorem dropCount_le {n k : ℕ} (hk : n / tenTo k < limit) :
    ∀ fuel start : ℕ, start ≤ k → dropCount n fuel start ≤ k
  | 0, _, h => h
  | fuel + 1, start, h => by
    unfold dropCount
    split
    · exact h
    · rename_i hc
      have hne : start ≠ k := by
        rintro rfl
        exact hc hk
      exact dropCount_le hk fuel (start + 1) (by omega)

theorem div_tenTo_log2_lt (n start : ℕ) : n / tenTo (start + (n.log2 + 1)) < limit := by
  have hlog : n < tenTo (n.log2 + 1) :=
    Nat.lt_log2_self.trans_le (Nat.pow_le_pow_left (by decide) _)
  have hn : n < tenTo (start + (n.log2 + 1)) := hlog.trans_le (tenTo_le_tenTo (Nat.le_add_left _ _))
  rw [Nat.div_eq_of_lt hn]
  decide

theorem exists_ofParts? {size scale : ℕ} (hsize : size < limit) (hscale : scale ≤ maxScale) :
    ∃ c, ofParts? false size scale = some c ∧ c.value = size / 10 ^ scale :=
  ⟨⟨signed false size, scale, by simpa using hsize, hscale⟩, dif_pos ⟨hsize, hscale⟩, by
    simp [value, signed]⟩

/-- A size rounded once keeps the places that it has left. -/
theorem keepsPlaces_roundHalfEven {n scale places : ℕ} (dropped : ℕ) (h : places + dropped ≤ scale) :
    KeepsPlaces places (n / 10 ^ scale) (roundHalfEven n (tenTo dropped) / 10 ^ (scale - dropped)) := by
  obtain ⟨more, rfl⟩ := Nat.exists_eq_add_of_le h
  have hsub : places + dropped + more - dropped = places + more := by omega
  have hle : ∀ m : ℕ, (m : ℚ) / 10 ^ places = (m * tenTo more * tenTo dropped : ℕ) / 10 ^ (places + dropped + more) ∧
      (m : ℚ) / 10 ^ places = (m * tenTo more : ℕ) / 10 ^ (places + more) := by
    intro m
    push_cast
    rw [cast_tenTo, cast_tenTo]
    constructor <;> field_simp <;> ring
  intro m
  rw [hsub]
  constructor
  · intro hx
    rw [(hle m).1, div_le_div_iff_of_pos_right (by positivity), Nat.cast_le] at hx
    rw [(hle m).2, div_le_div_iff_of_pos_right (by positivity), Nat.cast_le]
    exact roundHalfEven_le_of_le (tenTo_pos _) hx
  · intro hx
    rw [(hle m).1, div_le_div_iff_of_pos_right (by positivity), Nat.cast_le] at hx
    rw [(hle m).2, div_le_div_iff_of_pos_right (by positivity), Nat.cast_le]
    exact le_roundHalfEven_of_le (tenTo_pos _) hx

/-- `fit` of a number that is not negative. -/
theorem fit_natCast {n scale dropped : ℕ} (hs : scale ≤ maxScale)
    (hd : dropCount n (n.log2 + 1) 0 = dropped) (hle : dropped ≤ scale) :
    fit n scale =
      if roundHalfEven n (tenTo dropped) < limit then
        ofParts? false (roundHalfEven n (tenTo dropped)) (scale - dropped)
      else if scale < dropped + 1 then none
      else ofParts? false (roundHalfEven (roundHalfEven n (tenTo dropped)) 10) (scale - (dropped + 1)) := by
  have hsign : decide ((n : ℤ) < 0) = false := decide_eq_false (by omega)
  rw [fit, Int.natAbs_natCast, Nat.sub_eq_zero_of_le hs, hd, if_neg hle.not_gt, hsign]

theorem exists_fit_of_lt {n scale : ℕ} (hn : n < limit) (hs : scale ≤ maxScale) :
    ∃ c, fit n scale = some c ∧ c.value = n / 10 ^ scale := by
  have hdrop : dropCount n (n.log2 + 1) 0 = 0 :=
    Nat.le_zero.1 (dropCount_le (k := 0) (by simpa using hn) _ _ (Nat.le_refl 0))
  obtain ⟨c, hc, hvalue⟩ := exists_ofParts? hn hs
  refine ⟨c, ?_, hvalue⟩
  have hround : roundHalfEven n (tenTo 0) = n := by
    rw [roundHalfEven_eq_of_dvd (tenTo_pos 0) (one_dvd n), tenTo_zero, Nat.div_one]
  rw [fit_natCast hs hdrop (Nat.zero_le _), hround, if_pos hn, Nat.sub_zero, hc]

/-- A number that is not too large for the places fits, and keeps them. -/
theorem exists_fit {n scale bound : ℕ} (places : ℕ) (hs : scale ≤ maxScale) (hn : n ≤ bound * tenTo scale)
    (hb : bound * tenTo places + 1 < limit) :
    ∃ c, fit n scale = some c ∧ KeepsPlaces places (n / 10 ^ scale) c.value := by
  rcases Nat.lt_or_ge scale places with hp | hp
  · have hsmall : n < limit := by
      have hle := Nat.mul_le_mul_left bound (tenTo_le_tenTo hp.le)
      omega
    obtain ⟨c, hc, hvalue⟩ := exists_fit_of_lt hsmall hs
    exact ⟨c, hc, hvalue ▸ .refl _ _⟩
  · have hkept : n / tenTo (scale - places) ≤ bound * tenTo places := by
      refine Nat.div_le_of_le_mul (hn.trans_eq ?_)
      rw [← Nat.sub_add_cancel hp, tenTo_add, Nat.sub_add_cancel hp]
      ring
    have hdropped : dropCount n (n.log2 + 1) 0 ≤ scale - places :=
      dropCount_le (by omega) _ _ (Nat.zero_le _)
    have hlimit := div_tenTo_dropCount_lt n (n.log2 + 1) 0 (div_tenTo_log2_lt n 0)
    generalize hd : dropCount n (n.log2 + 1) 0 = dropped at hdropped hlimit
    rw [fit_natCast hs hd (by omega)]
    have hkeeps : ∀ k, k + dropped ≤ scale → KeepsPlaces k (n / 10 ^ scale)
        (roundHalfEven n (tenTo dropped) / 10 ^ (scale - dropped)) := fun k =>
      keepsPlaces_roundHalfEven dropped
    by_cases hround : roundHalfEven n (tenTo dropped) < limit
    · obtain ⟨c, hc, hvalue⟩ := exists_ofParts? hround (show scale - dropped ≤ maxScale by omega)
      rw [if_pos hround]
      exact ⟨c, hc, hvalue ▸ hkeeps places (by omega)⟩
    · -- the rounding was carried beyond the limit, so another digit goes
      have hle := roundHalfEven_le n (tenTo dropped)
      have hne : dropped ≠ scale - places := by
        rintro rfl
        omega
      have htenth : roundHalfEven (roundHalfEven n (tenTo dropped)) 10 < limit := by
        have := roundHalfEven_le (roundHalfEven n (tenTo dropped)) 10
        have : 10 < limit := by decide
        omega
      obtain ⟨c, hc, hvalue⟩ := exists_ofParts? htenth (show scale - (dropped + 1) ≤ maxScale by omega)
      have hagain : KeepsPlaces places
          ((roundHalfEven n (tenTo dropped) : ℕ) / 10 ^ (scale - dropped)) c.value := by
        rw [hvalue, ← Nat.sub_sub]
        exact keepsPlaces_roundHalfEven 1 (by omega)
      rw [if_neg hround, if_neg (by omega)]
      exact ⟨c, hc, (hkeeps places (by omega)).trans hagain⟩

/-! ## Sums and products -/

/-- Below this number a sum keeps two places, whatever its scale. -/
def safeTotal : ℕ := tenTo 20

theorem exists_add (ha : 0 ≤ a.value) (hb : 0 ≤ b.value) (hsum : a.value + b.value < safeTotal) :
    ∃ c, a.add b = .ok c ∧ KeepsPlaces 2 (a.value + b.value) c.value := by
  unfold add
  split
  · rename_i hz
    have hvalue : a.value + b.value = b.value := by linarith [isZero_iff_value.1 hz]
    rw [hvalue]
    exact ⟨b, rfl, .refl _ _⟩
  · split
    · rename_i hz
      have hvalue : a.value + b.value = a.value := by linarith [isZero_iff_value.1 hz]
      rw [hvalue]
      exact ⟨a, rfl, .refl _ _⟩
    · have hvalue : a.value + b.value = ((a.atScale (max a.scale b.scale) +
          b.atScale (max a.scale b.scale) : ℤ) : ℚ) / 10 ^ max a.scale b.scale := by
        rw [value_eq_atScale (le_max_left a.scale b.scale),
          value_eq_atScale (le_max_right a.scale b.scale)]
        push_cast
        ring
      have hscale : max a.scale b.scale ≤ maxScale := max_le a.scale_le b.scale_le
      generalize max a.scale b.scale = scale at hvalue hscale ⊢
      have hnonneg : 0 ≤ a.atScale scale + b.atScale scale :=
        Int.add_nonneg (Int.mul_nonneg (value_nonneg_iff.1 ha) (by omega))
          (Int.mul_nonneg (value_nonneg_iff.1 hb) (by omega))
      obtain ⟨n, hn⟩ := Int.eq_ofNat_of_zero_le hnonneg
      rw [hn, Int.cast_natCast] at hvalue
      have hle : n ≤ safeTotal * tenTo scale := by
        rw [hvalue, div_lt_iff₀ (by positivity), ← cast_tenTo] at hsum
        exact_mod_cast hsum.le
      obtain ⟨c, hc, hkeeps⟩ := exists_fit 2 hscale hle (by decide)
      refine ⟨c, ?_, hvalue ▸ hkeeps⟩
      simp only [hn]
      rw [hc]

/-- The number lies between so many hundredths. -/
def Between (lo hi : ℕ) (x : ℚ) : Prop := (lo : ℚ) / 10 ^ 2 ≤ x ∧ x ≤ (hi : ℚ) / 10 ^ 2

theorem Between.nonneg {lo hi : ℕ} {x : ℚ} (h : Between lo hi x) : 0 ≤ x :=
  le_trans (by positivity) h.1

theorem Between.add {lo hi lo' hi' : ℕ} {x y : ℚ} (h : Between lo hi x) (h' : Between lo' hi' y) :
    Between (lo + lo') (hi + hi') (x + y) := by
  have hle := add_le_add h.1 h'.1
  have hge := add_le_add h.2 h'.2
  rw [← add_div] at hle hge
  exact ⟨by exact_mod_cast hle, by exact_mod_cast hge⟩

theorem Between.keep {lo hi : ℕ} {x y : ℚ} (h : Between lo hi x) (hk : KeepsPlaces 2 x y) :
    Between lo hi y :=
  ⟨(hk lo).2 h.1, (hk hi).1 h.2⟩

/-- Decimals that lie between hundredths are added up, and their sum lies between the sums of
these. -/
theorem exists_foldlM_add {α : Type} (d : α → Decimal) (lo hi : α → ℕ) :
    ∀ (l : List α) (acc : Decimal) (low high : ℕ), Between low high acc.value →
      (∀ x ∈ l, Between (lo x) (hi x) (d x).value) →
      high + (l.map hi).sum < safeTotal * 10 ^ 2 →
      ∃ c, (l.map d).foldlM add acc = .ok c ∧
        Between (low + (l.map lo).sum) (high + (l.map hi).sum) c.value
  | [], acc, low, high, hacc, _, _ => ⟨acc, rfl, hacc⟩
  | x :: rest, acc, low, high, hacc, hall, hsum => by
    rw [List.forall_mem_cons] at hall
    rw [List.map_cons, List.sum_cons, ← Nat.add_assoc] at hsum
    have hboth := hacc.add hall.1
    have hsafe : acc.value + (d x).value < safeTotal := by
      refine hboth.2.trans_lt ?_
      rw [div_lt_iff₀ (by positivity)]
      exact_mod_cast (Nat.le_add_right _ _).trans_lt hsum
    obtain ⟨next, hnext, hkeeps⟩ := exists_add hacc.nonneg hall.1.nonneg hsafe
    obtain ⟨c, hc, hwithin⟩ := exists_foldlM_add d lo hi rest next _ _ (hboth.keep hkeeps) hall.2 hsum
    refine ⟨c, ?_, ?_⟩
    · rw [List.map_cons, List.foldlM_cons, hnext]
      exact hc
    · rwa [List.map_cons, List.map_cons, List.sum_cons, List.sum_cons, ← Nat.add_assoc,
        ← Nat.add_assoc]

theorem exists_sum {α : Type} (d : α → Decimal) (lo hi : α → ℕ) {l : List α}
    (hall : ∀ x ∈ l, Between (lo x) (hi x) (d x).value) (hsum : (l.map hi).sum < safeTotal * 10 ^ 2) :
    ∃ c, sum (l.map d) = .ok c ∧ Between (l.map lo).sum (l.map hi).sum c.value := by
  have hzero : Between 0 0 zero.value := by simp [Between]
  have hfold := exists_foldlM_add d lo hi l zero 0 0 hzero hall (by rwa [Nat.zero_add])
  rwa [Nat.zero_add, Nat.zero_add] at hfold

/-- A hundredfold of a number up to one is exact. -/
theorem exists_mul_hundred (ha : 0 ≤ a.value) (hle : a.value ≤ 1) :
    ∃ c, a.mul hundred = .ok c ∧ c.value = 100 * a.value := by
  unfold mul
  have hhundred : hundred.isZero = false := rfl
  rw [hhundred, Bool.or_false]
  split
  · rename_i hz
    exact ⟨zero, rfl, by rw [isZero_iff_value.1 hz, value_zero, mul_zero]⟩
  · obtain ⟨n, hn⟩ := Int.eq_ofNat_of_zero_le (value_nonneg_iff.1 ha)
    have hvalue : a.value = n / 10 ^ a.scale := by rw [value, hn, Int.cast_natCast]
    have hn1 : n ≤ tenTo a.scale := by
      rw [hvalue, div_le_one (by positivity), ← cast_tenTo] at hle
      exact_mod_cast hle
    have hbound : n * 100 ≤ 100 * tenTo a.scale := by omega
    have hproduct : a.coefficient * hundred.coefficient = ((n * 100 : ℕ) : ℤ) := by
      rw [hn]
      rfl
    obtain ⟨c, hc, hkeeps⟩ := exists_fit 26 a.scale_le hbound (by decide)
    have hgrid : ((n * 100 : ℕ) : ℚ) / 10 ^ a.scale =
        ((n * tenTo (maxScale - a.scale) : ℕ) : ℚ) / 10 ^ 26 := by
      have hpow : (10 : ℚ) ^ (maxScale - a.scale) * 10 ^ a.scale = 10 ^ maxScale := by
        rw [← pow_add, Nat.sub_add_cancel a.scale_le]
      rw [div_eq_div_iff (by positivity) (by positivity)]
      push_cast
      rw [cast_tenTo, mul_assoc, mul_assoc, hpow, maxScale]
      norm_num
    refine ⟨c, ?_, ?_⟩
    · have hfit : fit (a.coefficient * hundred.coefficient) (a.scale + hundred.scale) = some c := by
        rw [hproduct]
        exact hc
      rw [hfit]
    · rw [hkeeps.eq hgrid, hvalue]
      push_cast
      ring

/-- Rounding to so many places is rounding to the nearest number that has them. -/
theorem value_roundTo (ha : 0 ≤ a.value) (places : ℕ) :
    (a.roundTo places).value = halfEven (a.value * 10 ^ places) / 10 ^ places := by
  obtain ⟨n, hn⟩ := Int.eq_ofNat_of_zero_le (value_nonneg_iff.1 ha)
  have hvalue : a.value = n / 10 ^ a.scale := by rw [value, hn, Int.cast_natCast]
  unfold roundTo
  split
  · rename_i hle
    have hwhole : a.value * 10 ^ places = ((n * tenTo (places - a.scale) : ℕ) : ℤ) := by
      obtain ⟨more, rfl⟩ := Nat.exists_eq_add_of_le hle
      rw [hvalue, Nat.add_sub_cancel_left, pow_add]
      push_cast
      rw [cast_tenTo]
      field_simp
    rw [hwhole, halfEven_intCast, ← hwhole, mul_div_cancel_right₀ _ (by positivity)]
  · rename_i hgt
    have hquotient : a.value * 10 ^ places = (n : ℚ) / (tenTo (a.scale - places) : ℕ) := by
      obtain ⟨more, hmore⟩ := Nat.exists_eq_add_of_le (Nat.le_of_not_le hgt)
      rw [hvalue, hmore, Nat.add_sub_cancel_left, pow_add, cast_tenTo]
      field_simp
    rw [hquotient, halfEven_natCast_div n (tenTo_pos _)]
    simp [value, signed, hn]

end Decimal

end QuizEngine
