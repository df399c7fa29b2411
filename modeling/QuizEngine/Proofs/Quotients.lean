import QuizEngine.Proofs.Values
import Mathlib.Algebra.Order.Field.Power

/-!
# Long division

`Decimal.extend` turns the rest of a division into digits. What it keeps is that the quotient
with its rest is the exact one, moved by the digits found so far. It stops when nothing is left
over or when there is no room for another digit; a quotient with few digits before its point
has room for many behind it (`room_of_le`). So a quotient is found, and its last digit is the
nearest one (`Approximates`, `exists_quotient`). For a quotient up to one that is the
twenty-eighth (`exists_div`).

A number that is so near to a quotient is on the same side as the quotient of every fraction
with a small denominator (`Approximates.sameSide`).
-/

namespace QuizEngine

namespace Decimal

variable {whole places : ℕ} {x y : ℚ}

/-! ## Digits -/

/-- A quotient grows by as many digits as are asked for, or there is no room for another. -/
theorem growth_cases (q : ℕ) : ∀ most : ℕ,
    growth q most = most ∨ limit ≤ q * tenTo (growth q most + 1)
  | 0 => Or.inl rfl
  | most + 1 => by
    unfold growth
    split
    · exact Or.inl rfl
    · rename_i hfull
      rcases growth_cases q most with heq | hlimit
      · exact Or.inr (heq.symm ▸ Nat.le_of_not_lt hfull)
      · exact Or.inr hlimit

theorem mul_tenTo_growth_lt {q : ℕ} (hq : q < limit) : ∀ most : ℕ, q * tenTo (growth q most) < limit
  | 0 => by rwa [growth, tenTo_zero, Nat.mul_one]
  | most + 1 => by
    unfold growth
    split
    · assumption
    · exact mul_tenTo_growth_lt hq most

theorem mul_abs_of_pos {c : ℚ} (hc : 0 < c) (x : ℚ) : c * |x| = |c * x| := by
  rw [abs_mul, abs_of_pos hc]

/-- A tenth of a number is rounded to the nearest whole one. -/
theorem near_roundTenth (q : ℕ) {more : Bool} {part : ℚ} (h0 : 0 ≤ part) (h1 : part ≤ 1)
    (hmore : more = false → part = 0) : 2 * |(roundTenth q more : ℚ) - (q + part) / 10| ≤ 1 := by
  have hq : (q : ℚ) = 10 * (q / 10 : ℕ) + (q % 10 : ℕ) := by
    exact_mod_cast (Nat.div_add_mod q 10).symm
  have hten : q % 10 < 10 := Nat.mod_lt q (by decide)
  unfold roundTenth
  rw [hq, ← le_div_iff₀' (by norm_num : (0 : ℚ) < 2), abs_le]
  split
  · rename_i hup
    have hdigit : (5 : ℚ) ≤ (q % 10 : ℕ) := by exact_mod_cast (show 5 ≤ q % 10 by omega)
    have hdigit' : ((q % 10 : ℕ) : ℚ) ≤ 9 := by exact_mod_cast (show q % 10 ≤ 9 by omega)
    push_cast at hdigit hdigit' ⊢
    constructor <;> linarith
  · rename_i hdown
    have hdigit0 : (0 : ℚ) ≤ (q % 10 : ℕ) := by positivity
    rcases Nat.lt_or_ge (q % 10) 5 with hlt | hge
    · have hdigit : ((q % 10 : ℕ) : ℚ) ≤ 4 := by exact_mod_cast (show q % 10 ≤ 4 by omega)
      constructor <;> linarith
    · have hfive : q % 10 = 5 := by omega
      have hzero : part = 0 := hmore (by simp_all)
      rw [hfive, hzero]
      constructor <;> push_cast <;> linarith

theorem roundTenth_le (q : ℕ) (more : Bool) : roundTenth q more ≤ q / 10 + 1 := by
  unfold roundTenth
  split <;> omega

/-! ## Approximations -/

/-- `y` is `x` with digits behind the point of which the last is the nearest one, and at most
`whole` digits short of as many as there may be. -/
def Approximates (whole : ℕ) (x y : ℚ) : Prop :=
  ∃ places, places ≤ maxScale ∧ maxScale ≤ places + whole ∧ (∃ n : ℤ, 10 ^ places * y = n) ∧
    2 * (10 ^ places * |y - x|) ≤ 1

theorem approximates_of_near {size : ℕ} (hp : places ≤ maxScale) (hw : maxScale ≤ places + whole)
    (h : 2 * |(size : ℚ) - x * 10 ^ places| ≤ 1) : Approximates whole x (size / 10 ^ places) := by
  have hmove : (10 : ℚ) ^ places * ((size : ℚ) / 10 ^ places - x) = size - x * 10 ^ places := by
    field_simp
  refine ⟨places, hp, hw, ⟨size, by push_cast; field_simp⟩, ?_⟩
  rwa [mul_abs_of_pos (by positivity), hmove]

/-- A number with few enough digits approximates itself. -/
theorem approximates_self (whole size : ℕ) {scale : ℕ} (hs : scale ≤ maxScale) :
    Approximates whole (size / 10 ^ scale) (size / 10 ^ scale) := by
  have hpow : (10 : ℚ) ^ maxScale = 10 ^ (maxScale - scale) * 10 ^ scale := by
    rw [← pow_add, Nat.sub_add_cancel hs]
  refine ⟨maxScale, le_rfl, Nat.le_add_right _ _, ⟨(size * tenTo (maxScale - scale) : ℕ), ?_⟩,
    by simp⟩
  rw [hpow]
  push_cast
  rw [cast_tenTo]
  field_simp

/-- Rounding a number up to one does not pass one. -/
theorem Approximates.le_one (h : Approximates whole x y) (hx : x ≤ 1) : y ≤ 1 := by
  obtain ⟨places, -, -, ⟨n, hn⟩, hnear⟩ := h
  rw [mul_abs_of_pos (by positivity), mul_sub, hn] at hnear
  have hover := le_abs_self ((n : ℚ) - 10 ^ places * x)
  have hone : (10 : ℚ) ^ places * x ≤ 10 ^ places := mul_le_of_le_one_right (by positivity) hx
  have hless : (n : ℚ) < ((10 ^ places + 1 : ℤ) : ℚ) := by
    push_cast
    linarith
  have hle : n ≤ 10 ^ places := Int.lt_add_one_iff.1 (by exact_mod_cast hless)
  have hcast : (n : ℚ) ≤ 10 ^ places * 1 := by
    rw [mul_one]
    exact_mod_cast hle
  rw [← hn] at hcast
  exact le_of_mul_le_mul_left hcast (by positivity)

/-- The quotient that is found, within its bounds. -/
structure Quotient.IsFor (q : Quotient) (whole : ℕ) (x : ℚ) : Prop where
  size_lt : q.size < limit
  scale_le : q.scale ≤ maxScale
  near : Approximates whole x (q.size / 10 ^ q.scale)

theorem isFor_of_near {size : ℕ} (hsize : size < limit) (hp : places ≤ maxScale)
    (hw : maxScale ≤ places + whole) (h : 2 * |(size : ℚ) - x * 10 ^ places| ≤ 1)
    (extended : Bool) : Quotient.IsFor ⟨size, places, extended⟩ whole x :=
  ⟨hsize, hp, approximates_of_near hp hw h⟩

/-- Digits for which there is no room are far behind the point. -/
theorem room_of_le {n : ℕ} {scale : ℤ} (hx : x ≤ 10 ^ whole) (hn : (n : ℚ) ≤ x * 10 ^ scale)
    (hbig : tenTo maxScale < n) : (maxScale : ℤ) < whole + scale := by
  have hpow : (10 : ℚ) ^ (maxScale : ℤ) < 10 ^ ((whole : ℤ) + scale) := by
    calc (10 : ℚ) ^ (maxScale : ℤ) = (tenTo maxScale : ℕ) := by rw [cast_tenTo, zpow_natCast]
      _ < n := by exact_mod_cast hbig
      _ ≤ x * 10 ^ scale := hn
      _ ≤ 10 ^ whole * 10 ^ scale := by gcongr
      _ = 10 ^ ((whole : ℤ) + scale) := by rw [zpow_add₀ (by norm_num), zpow_natCast]
  exact (zpow_lt_zpow_iff_right₀ (by norm_num)).1 hpow

theorem tenTo_maxScale_lt_limit : tenTo maxScale + 1 < limit := by decide

/-- A quotient that is too large by a digit loses its last one. -/
theorem exists_shortened {size : ℕ} {more : Bool} {scale : ℤ} (hw : whole < maxScale)
    (hs : scale ≤ maxScale) (hroom : (maxScale : ℤ) < whole + scale)
    (hsize : roundTenth size more < limit)
    (hnear : 2 * |(roundTenth size more : ℚ) - x * 10 ^ scale / 10| ≤ 1) :
    ∃ q, shortened size scale more = some q ∧ q.IsFor whole x := by
  obtain ⟨places, rfl⟩ : ∃ places : ℕ, scale = places + 1 :=
    ⟨(scale - 1).toNat, by omega⟩
  have hmove : x * 10 ^ ((places : ℤ) + 1) / 10 = x * 10 ^ places := by
    rw [zpow_add₀ (by norm_num), zpow_natCast, zpow_one]
    ring
  rw [hmove] at hnear
  unfold shortened
  rw [if_pos (by omega), Int.add_sub_cancel, Int.toNat_natCast]
  exact ⟨_, rfl, isFor_of_near hsize (by omega) (by omega) hnear true⟩

/-- The last digit is the nearest one. -/
theorem exists_closed {divisor size rest : ℕ} (hr : rest < divisor) (hsize : size < limit)
    (hx : x ≤ 10 ^ whole) (hw : whole < maxScale) (hp : places ≤ maxScale)
    (hroom : maxScale ≤ places + whole) (hexact : (size : ℚ) + rest / divisor = x * 10 ^ places) :
    ∃ q, closed divisor size rest places = some q ∧ q.IsFor whole x := by
  have hpos : (0 : ℚ) < divisor := by exact_mod_cast Nat.zero_lt_of_lt hr
  have hrest : (0 : ℚ) ≤ (rest : ℚ) / divisor := by positivity
  have hless : (rest : ℚ) / divisor < 1 := by
    rw [div_lt_one hpos]
    exact_mod_cast hr
  simp only [closed, Int.toNat_natCast]
  split
  · rename_i hlow
    have hhalf : 2 * ((rest : ℚ) / divisor) ≤ 1 := by
      have hnat : 2 * rest ≤ divisor := by omega
      rw [← mul_div_assoc, div_le_one hpos]
      exact_mod_cast hnat
    refine ⟨_, rfl, isFor_of_near hsize hp hroom ?_ true⟩
    rw [← hexact, sub_add_cancel_left, abs_neg, abs_of_nonneg hrest]
    exact hhalf
  · rename_i hhigh
    have hhalf : 1 ≤ 2 * ((rest : ℚ) / divisor) := by
      have hnat : divisor ≤ 2 * rest := by omega
      rw [← mul_div_assoc, one_le_div hpos]
      exact_mod_cast hnat
    split
    · rename_i hfits
      refine ⟨_, rfl, isFor_of_near hfits hp hroom ?_ true⟩
      have hdistance : |((size + 1 : ℕ) : ℚ) - x * 10 ^ places| ≤ 1 / 2 := by
        rw [← hexact, abs_le]
        push_cast
        constructor <;> linarith
      linarith
    · -- rounding up has carried the quotient to the limit
      rename_i hfull
      have hlimit : size + 1 = limit := by omega
      have htenth : roundTenth limit true * 10 = limit + 4 := by decide
      have hbig : (maxScale : ℤ) < whole + places := by
        refine room_of_le hx (n := size) ?_ (by have := tenTo_maxScale_lt_limit; omega)
        rw [zpow_natCast, ← hexact]
        linarith
      rw [hlimit]
      refine exists_shortened hw (by exact_mod_cast hp) hbig (by decide) ?_
      have hsum : x * 10 ^ (places : ℤ) = (limit : ℚ) - 1 + rest / divisor := by
        rw [zpow_natCast, ← hexact, ← hlimit]
        push_cast
        ring
      have hten : (roundTenth limit true : ℚ) * 10 = limit + 4 := by exact_mod_cast htenth
      have hdistance : |(roundTenth limit true : ℚ) - x * 10 ^ (places : ℤ) / 10| ≤ 1 / 2 := by
        rw [hsum, abs_le]
        constructor <;> linarith
      linarith

/-- More digits of the quotient and what is left over then. -/
theorem exact_of_digits {divisor size rest : ℕ} (digits : ℕ) (hd : 0 < divisor) {scale : ℤ}
    (hexact : (size : ℚ) + rest / divisor = x * 10 ^ scale) :
    ((size * tenTo digits + rest * tenTo digits / divisor : ℕ) : ℚ) +
      (rest * tenTo digits % divisor : ℕ) / divisor = x * 10 ^ (scale + digits) := by
  have hsplit := natCast_div_add_mod (rest * tenTo digits) hd
  rw [zpow_add₀ (by norm_num), zpow_natCast, ← mul_assoc, ← hexact, Nat.cast_add, add_assoc, hsplit,
    Nat.cast_mul, Nat.cast_mul, cast_tenTo]
  ring

/-- Digits that carry the quotient beyond the limit when they are added are too many by one. -/
theorem exists_carried {divisor size rest digits : ℕ} {scale : ℤ} (hr : rest < divisor)
    (hx : x ≤ 10 ^ whole) (hw : whole < maxScale) (hdigits : digits ≤ 9)
    (hsize : size * tenTo digits < limit) (hs : scale ≤ maxScale)
    (hfull : ¬size * tenTo digits + rest * tenTo digits / divisor < limit)
    (hexact : ((size * tenTo digits + rest * tenTo digits / divisor : ℕ) : ℚ) +
      (rest * tenTo digits % divisor : ℕ) / divisor = x * 10 ^ scale) :
    ∃ q, shortened (size * tenTo digits + rest * tenTo digits / divisor) scale
      (rest * tenTo digits % divisor != 0) = some q ∧ q.IsFor whole x := by
  have hadded : rest * tenTo digits / divisor < tenTo 9 := by
    refine (Nat.div_lt_of_lt_mul ?_).trans_le (tenTo_le_tenTo hdigits)
    rw [Nat.mul_comm divisor, Nat.mul_comm rest]
    exact Nat.mul_lt_mul_of_pos_left hr (tenTo_pos _)
  have hlast : rest * tenTo digits % divisor < divisor := Nat.mod_lt _ (Nat.zero_lt_of_lt hr)
  generalize rest * tenTo digits % divisor = left at hexact hlast ⊢
  have hnext : size * tenTo digits + rest * tenTo digits / divisor < limit + tenTo 9 := by omega
  generalize size * tenTo digits + rest * tenTo digits / divisor = next at hexact hfull hnext ⊢
  have hroom : (maxScale : ℤ) < whole + scale := by
    refine room_of_le hx (hexact ▸ le_add_of_nonneg_right (by positivity)) ?_
    have := tenTo_maxScale_lt_limit
    omega
  refine exists_shortened hw hs hroom ?_ ?_
  · have htenth := roundTenth_le next (left != 0)
    have hless : (limit + tenTo 9) / 10 + 1 < limit := by decide
    omega
  · rw [← hexact]
    refine near_roundTenth next (by positivity) ?_ fun hzero => ?_
    · exact div_le_one_of_le₀ (by exact_mod_cast hlast.le) (by positivity)
    · obtain rfl : left = 0 := by simpa using hzero
      simp

/-- A quotient with so few digits before its point is found with its digits. -/
theorem exists_extend {divisor : ℕ} (hd : 0 < divisor) (hx : x ≤ 10 ^ whole)
    (hw : whole < maxScale) :
    ∀ (fuel size rest : ℕ) (scale : ℤ) (extended : Bool), rest < divisor → size < limit →
      scale ≤ maxScale → maxScale - scale < fuel → (size : ℚ) + rest / divisor = x * 10 ^ scale →
      ∃ q, extend divisor fuel size rest scale extended = some q ∧ q.IsFor whole x
  | 0, _, _, scale, _, _, _, hs, hfuel, _ => by omega
  | fuel + 1, size, rest, scale, extended, hr, hsize, hs, hfuel, hexact => by
    have hle : (size : ℚ) ≤ x * 10 ^ scale := hexact ▸ le_add_of_nonneg_right (by positivity)
    -- what the quotient comes to with so many more digits
    have hmore : ∀ digits : ℕ, ((size * tenTo digits : ℕ) : ℚ) ≤ x * 10 ^ (scale + digits) := by
      intro digits
      rw [zpow_add₀ (by norm_num), zpow_natCast, ← mul_assoc, Nat.cast_mul, cast_tenTo]
      gcongr
    have hroom : ∀ digits : ℕ, limit ≤ size * tenTo digits →
        (maxScale : ℤ) < whole + (scale + digits) := fun digits hfull =>
      room_of_le hx (hmore digits) (by have := tenTo_maxScale_lt_limit; omega)
    unfold extend
    split
    · rename_i hz
      rw [hz, Nat.cast_zero, zero_div, add_zero] at hexact
      split
      · rename_i hscale
        obtain ⟨places, rfl⟩ := Int.eq_ofNat_of_zero_le hscale
        have hvalue : x = (size : ℚ) / 10 ^ places := by
          rw [hexact, zpow_natCast, mul_div_cancel_right₀ _ (by positivity)]
        have hplaces : places ≤ maxScale := by exact_mod_cast hs
        refine ⟨_, rfl, hsize, hplaces, ?_⟩
        rw [hvalue]
        exact approximates_self whole size hplaces
      · -- the zeros in front of the point are written out
        rename_i hscale
        simp only
        generalize hdigits : min 9 (-scale).toNat = digits
        have hfits : size * tenTo digits < limit := by
          by_contra hfull
          have := hroom digits (Nat.le_of_not_lt hfull)
          omega
        rw [if_pos hfits]
        refine exists_extend hd hx hw fuel _ 0 _ extended hd hfits (by omega) (by omega) ?_
        rw [Nat.cast_zero, zero_div, add_zero, Nat.cast_mul, cast_tenTo, hexact,
          zpow_add₀ (by norm_num), zpow_natCast, mul_assoc]
    · rename_i hleft
      simp only
      have hcases := growth_cases size (min 9 (maxScale - scale).toNat)
      have hgrown := mul_tenTo_growth_lt hsize (min 9 (maxScale - scale).toNat)
      have hmost := growth_le size (min 9 (maxScale - scale).toNat)
      generalize growth size (min 9 (maxScale - scale).toNat) = digits at hcases hgrown hmost ⊢
      have hfar : digits = min 9 (maxScale - scale).toNat ∨
          (maxScale : ℤ) < whole + (scale + digits) + 1 := by
        refine hcases.imp_right fun hfull => ?_
        have := hroom (digits + 1) hfull
        push_cast at this
        omega
      rw [if_neg (by omega)]
      split
      · rename_i hnone
        obtain ⟨places, rfl⟩ : ∃ places : ℕ, scale = places := ⟨scale.toNat, by omega⟩
        refine exists_closed hr hsize hx hw (by omega) (by omega) ?_
        rwa [zpow_natCast] at hexact
      · rename_i hsome
        have hdigits := exact_of_digits digits hd hexact
        split
        · rename_i hfits
          exact exists_extend hd hx hw fuel _ _ _ true (Nat.mod_lt _ hd) hfits (by omega) (by omega)
            hdigits
        · rename_i hfull
          exact exists_carried hr hx hw (by omega) hgrown (by omega) hfull hdigits

/-! ## Zeros at the end -/

/-- `m` is the number `n` without some of the zeros at its end. -/
def WithoutZeros (n m : ℕ × ℕ) : Prop := ∃ zeros, n.1 = m.1 * tenTo zeros ∧ n.2 = m.2 + zeros

namespace WithoutZeros

variable {n m k : ℕ × ℕ}

theorem refl (n : ℕ × ℕ) : WithoutZeros n n := ⟨0, by simp, rfl⟩

theorem trans (h : WithoutZeros n m) (h' : WithoutZeros m k) : WithoutZeros n k := by
  obtain ⟨zeros, hsize, hscale⟩ := h
  obtain ⟨more, hsize', hscale'⟩ := h'
  exact ⟨more + zeros, by rw [hsize, hsize', tenTo_add, Nat.mul_assoc], by omega⟩

theorem div_eq (h : WithoutZeros n m) : (n.1 : ℚ) / 10 ^ n.2 = m.1 / 10 ^ m.2 := by
  obtain ⟨zeros, hsize, hscale⟩ := h
  rw [hsize, hscale, pow_add, Nat.cast_mul, cast_tenTo]
  field_simp

theorem size_le (h : WithoutZeros n m) : m.1 ≤ n.1 := by
  obtain ⟨zeros, hsize, -⟩ := h
  rw [hsize]
  exact Nat.le_mul_of_pos_right _ (tenTo_pos zeros)

theorem scale_le (h : WithoutZeros n m) : m.2 ≤ n.2 := by
  obtain ⟨zeros, -, hscale⟩ := h
  omega

/-- A block of zeros that is there is dropped. -/
theorem of_dvd {zeros : ℕ} (hle : zeros ≤ n.2) (hdvd : tenTo zeros ∣ n.1) :
    WithoutZeros n (n.1 / tenTo zeros, n.2 - zeros) :=
  ⟨zeros, (Nat.div_mul_cancel hdvd).symm, (Nat.sub_add_cancel hle).symm⟩

end WithoutZeros

theorem withoutZeros_dropBlock (zeros : ℕ) (n : ℕ × ℕ) : WithoutZeros n (dropBlock zeros n) := by
  unfold dropBlock
  split
  · rename_i h
    exact .of_dvd h.1 h.2
  · exact .refl n

theorem withoutZeros_dropEights : ∀ (fuel : ℕ) (n : ℕ × ℕ), WithoutZeros n (dropEights fuel n)
  | 0, n => .refl n
  | fuel + 1, n => by
    unfold dropEights
    split
    · rename_i h
      exact (WithoutZeros.of_dvd h.1 h.2.2).trans (withoutZeros_dropEights fuel _)
    · exact .refl n

theorem withoutZeros_dropZeros (n : ℕ × ℕ) : WithoutZeros n (dropZeros n) :=
  (withoutZeros_dropEights 3 n).trans <| (withoutZeros_dropBlock 4 _).trans <|
    (withoutZeros_dropBlock 2 _).trans (withoutZeros_dropBlock 1 _)

/-! ## Quotients -/

variable {a b : Decimal}

/-- Moving the points of two numbers moves the point of their quotient. -/
theorem natAbs_div_natAbs (ha : 0 ≤ a.value) (hb : 0 ≤ b.value) :
    (a.coefficient.natAbs : ℚ) / b.coefficient.natAbs =
      a.value / b.value * 10 ^ ((a.scale : ℤ) - b.scale) := by
  obtain ⟨n, hn⟩ := Int.eq_ofNat_of_zero_le (value_nonneg_iff.1 ha)
  obtain ⟨d, hd⟩ := Int.eq_ofNat_of_zero_le (value_nonneg_iff.1 hb)
  rw [value, value, hn, hd, zpow_sub₀ (by norm_num), zpow_natCast, zpow_natCast]
  simp only [Int.natAbs_natCast, Int.cast_natCast]
  field_simp

/-- A quotient with so few digits before its point is found, and its last digit is the nearest
one. -/
theorem exists_quotient (ha : 0 ≤ a.value) (hb : 0 < b.value) (hle : a.value ≤ 10 ^ whole * b.value)
    (hw : whole < maxScale) :
    ∃ q, a.div b = .ok q ∧ 0 ≤ q.value ∧ Approximates whole (a.value / b.value) q.value := by
  unfold div
  split
  · rename_i hz
    have hzero : a.value / b.value = ((0 : ℕ) : ℚ) / 10 ^ 0 := by simp [isZero_iff_value.1 hz]
    refine ⟨zero, rfl, by simp, ?_⟩
    rw [hzero]
    simpa using approximates_self whole 0 (Nat.zero_le maxScale)
  · have hx : a.value / b.value ≤ 10 ^ whole := (div_le_iff₀ hb).2 hle
    have hdivisor : 0 < b.coefficient.natAbs := by
      have hne : b.coefficient ≠ 0 := fun h => hb.ne' (by simp [value, h])
      omega
    have hsign : (decide (a.coefficient < 0) != decide (b.coefficient < 0)) = false := by
      have hna := value_nonneg_iff.1 ha
      have hnb := value_nonneg_iff.1 hb.le
      rw [decide_eq_false (by omega), decide_eq_false (by omega)]
      rfl
    obtain ⟨q, hq, hfor⟩ := exists_extend hdivisor hx hw 64
      (a.coefficient.natAbs / b.coefficient.natAbs) (a.coefficient.natAbs % b.coefficient.natAbs)
      (a.scale - b.scale) false (Nat.mod_lt _ hdivisor)
      ((Nat.div_le_self _ _).trans_lt a.coefficient_lt) (by have := a.scale_le; omega)
      (by have := b.scale_le; simp only [maxScale] at *; omega)
      ((natCast_div_add_mod _ hdivisor).trans (natAbs_div_natAbs ha hb.le))
    have hshort : WithoutZeros (q.size, q.scale)
        (if q.extended then dropZeros (q.size, q.scale) else (q.size, q.scale)) := by
      split
      · exact withoutZeros_dropZeros _
      · exact .refl _
    generalize hm :
      (if q.extended then dropZeros (q.size, q.scale) else (q.size, q.scale)) = m at hshort
    obtain ⟨c, hc, hvalue⟩ := exists_ofParts? (hshort.size_le.trans_lt hfor.size_lt)
      (hshort.scale_le.trans hfor.scale_le)
    rw [← hshort.div_eq] at hvalue
    refine ⟨c, ?_, ?_, ?_⟩
    · simp only [hq, hm, hsign, hc, Option.bind_eq_bind, Option.bind_some]
    · rw [hvalue]
      positivity
    · rw [hvalue]
      exact hfor.near

/-- The quotient of a number by one that is not smaller is at most one, and off by half a unit
in its last digit at most. -/
theorem exists_div (ha : 0 ≤ a.value) (hb : 0 < b.value) (hle : a.value ≤ b.value) :
    ∃ q, a.div b = .ok q ∧ 0 ≤ q.value ∧ q.value ≤ 1 ∧
      2 * (10 ^ maxScale * |q.value - a.value / b.value|) ≤ 1 := by
  have hle' : a.value ≤ 10 ^ 0 * b.value := by simpa using hle
  obtain ⟨q, hq, hnonneg, hnear⟩ := exists_quotient ha hb hle' (by decide)
  refine ⟨q, hq, hnonneg, hnear.le_one ((div_le_one hb).2 hle), ?_⟩
  obtain ⟨places, hp, hmax, -, hlast⟩ := hnear
  obtain rfl : places = maxScale := le_antisymm hp hmax
  exact hlast

/-! ## Sides -/

section Near

variable {steps exact n j total : ℤ} (hsmall : total < 2 * steps)
  (hlow : 2 * (exact * steps) ≤ 2 * (n * total) + total)
  (hhigh : 2 * (n * total) ≤ 2 * (exact * steps) + total)

include hsmall hlow hhigh

/-- A multiple of so many steps is on the same side of a number as of the one that is next to it
when it is counted in steps. -/
theorem le_iff_of_near (hpos : 0 < total) (hsteps : 0 ≤ steps) :
    j * steps ≤ n ↔ j * total ≤ exact := by
  constructor
  · intro h
    by_contra hlt
    have hscaled := Int.mul_le_mul_of_nonneg_right (show exact + 1 ≤ j * total by omega) hsteps
    have hmoved := Int.mul_le_mul_of_nonneg_right h hpos.le
    rw [Int.mul_right_comm, Int.add_mul, Int.one_mul] at hscaled
    omega
  · intro h
    by_contra hlt
    have hscaled := Int.mul_le_mul_of_nonneg_right h hsteps
    have hmoved := Int.mul_le_mul_of_nonneg_right (show n + 1 ≤ j * steps by omega) hpos.le
    rw [Int.mul_right_comm, Int.add_mul, Int.one_mul] at hmoved
    omega

theorem ge_iff_of_near (hpos : 0 < total) (hsteps : 0 ≤ steps) :
    n ≤ j * steps ↔ exact ≤ j * total := by
  constructor
  · intro h
    by_contra hlt
    have hscaled := Int.mul_le_mul_of_nonneg_right (show j * total ≤ exact - 1 by omega) hsteps
    have hmoved := Int.mul_le_mul_of_nonneg_right h hpos.le
    rw [Int.mul_right_comm, Int.sub_mul, Int.one_mul] at hscaled
    omega
  · intro h
    by_contra hlt
    have hscaled := Int.mul_le_mul_of_nonneg_right h hsteps
    have hmoved := Int.mul_le_mul_of_nonneg_right (show j * steps ≤ n - 1 by omega) hpos.le
    rw [Int.mul_right_comm, Int.sub_mul, Int.one_mul] at hmoved
    omega

end Near

/-- What approximates a quotient is on its side of every fraction of which the denominator and
that of the quotient are small. -/
theorem Approximates.sameSide {earned total k : ℕ} (h : Approximates whole ((earned : ℚ) / total) y)
    (hpos : 0 < total) (hk : k ∣ tenTo (maxScale - whole))
    (hsmall : total * k < 2 * tenTo (maxScale - whole)) (j : ℤ) :
    ((j : ℚ) ≤ k * y ↔ (j : ℚ) ≤ k * (earned / total)) ∧
      ((k : ℚ) * y ≤ j ↔ (k : ℚ) * (earned / total) ≤ j) := by
  obtain ⟨places, -, hroom, ⟨n, hn⟩, hnear⟩ := h
  obtain ⟨steps, hsteps⟩ : k ∣ tenTo places :=
    hk.trans (Nat.pow_dvd_pow 10 (show maxScale - whole ≤ places by omega))
  have hk0 : 0 < k := Nat.pos_of_dvd_of_pos hk (tenTo_pos _)
  have hsteps0 : 0 < steps := Nat.pos_of_ne_zero fun hz => by
    rw [hz, Nat.mul_zero] at hsteps
    exact (tenTo_pos places).ne' hsteps
  have hless : total < 2 * steps := by
    have hle : tenTo (maxScale - whole) ≤ k * steps := hsteps ▸ tenTo_le_tenTo (by omega)
    refine Nat.lt_of_mul_lt_mul_right (a := k) ?_
    calc total * k < 2 * tenTo (maxScale - whole) := hsmall
      _ ≤ 2 * (k * steps) := Nat.mul_le_mul_left 2 hle
      _ = 2 * steps * k := by ring
  have hpow : (10 : ℚ) ^ places = k * steps := by rw [← cast_tenTo, hsteps, Nat.cast_mul]
  have hpos' : (0 : ℚ) < total := by exact_mod_cast hpos
  have hk' : (0 : ℚ) < k := by exact_mod_cast hk0
  have hsteps' : (0 : ℚ) < steps := by exact_mod_cast hsteps0
  rw [mul_abs_of_pos (by positivity), mul_sub, hn, hpow, ← mul_div_assoc] at hnear
  obtain ⟨hunder, hover⟩ :=
    abs_le.1 (show |(n : ℚ) - k * steps * earned / total| ≤ 1 / 2 by linarith)
  have hlow : 2 * ((k * earned : ℤ) * steps) ≤ 2 * (n * total) + total := by
    have hle : (k : ℚ) * steps * earned / total ≤ n + 1 / 2 := by linarith
    rw [div_le_iff₀ hpos'] at hle
    have hle' : 2 * ((k : ℚ) * earned * steps) ≤ 2 * (n * total) + total := by linarith
    exact_mod_cast hle'
  have hhigh : 2 * (n * total) ≤ 2 * ((k * earned : ℤ) * steps) + total := by
    have hle : (n : ℚ) - 1 / 2 ≤ k * steps * earned / total := by linarith
    rw [le_div_iff₀ hpos'] at hle
    have hle' : 2 * ((n : ℚ) * total) ≤ 2 * (k * earned * steps) + total := by linarith
    exact_mod_cast hle'
  have hscaled : (k : ℚ) * y = n / steps := by
    rw [← hn, hpow]
    field_simp
  have hless' : (total : ℤ) < 2 * steps := by exact_mod_cast hless
  rw [hscaled, ← mul_div_assoc, le_div_iff₀ hsteps', le_div_iff₀ hpos', div_le_iff₀ hsteps',
    div_le_iff₀ hpos']
  constructor
  · exact_mod_cast le_iff_of_near hless' hlow hhigh (by omega) (by omega)
  · exact_mod_cast ge_iff_of_near hless' hlow hhigh (by omega) (by omega)

end Decimal

end QuizEngine
