import QuizEngine.Proofs.Percentages
import QuizEngine.Statistics

/-!
# Means

The mean of scores is a sum, a quotient and a rounding to two places. A sum of scores with two
places is exact, so its value does not depend on their order. Nor does the way it is written:
it has as many digits behind the point as the longest of the scores that are not zero, or as
many as there is room for (`Decimal.IsWritten`, `Decimal.exists_sum_written`), and then the
value determines the decimal. So the mean of scores is the same in whatever order they come
(`meanScore_perm`).

It is the exact mean rounded once (`exists_meanScore`): what the division finds is on the side
of the exact mean of every half of a hundredth, as long as there are not too many scores.
-/

namespace QuizEngine

namespace Decimal

variable {a b c : Decimal} {scale : ℕ}

/-! ## How a number is written -/

/-- The number is written with so many digits behind its point, or with fewer when there is no
room for another. -/
def IsWritten (d : Decimal) (scale : ℕ) : Prop :=
  d.scale ≤ scale ∧ (d.scale = scale ∨ limit ≤ d.coefficient.natAbs * 10)

theorem isWritten_self (d : Decimal) : d.IsWritten d.scale := ⟨le_rfl, Or.inl rfl⟩

theorem natAbs_atScale (d : Decimal) (scale : ℕ) :
    (d.atScale scale).natAbs = d.coefficient.natAbs * tenTo (scale - d.scale) := by
  rw [atScale, Int.natAbs_mul, Int.natAbs_natCast]

/-- Another digit is another tenfold. -/
theorem natAbs_mul_ten_le_natAbs_atScale {d : Decimal} (h : d.scale < scale) :
    d.coefficient.natAbs * 10 ≤ (d.atScale scale).natAbs := by
  have hten : tenTo 1 ≤ tenTo (scale - d.scale) := tenTo_le_tenTo (by omega)
  rw [natAbs_atScale]
  exact Nat.mul_le_mul_left _ hten

theorem atScale_eq_of_value_eq (h : a.value = b.value) (hle : a.scale ≤ b.scale) :
    a.atScale b.scale = b.coefficient := by
  rw [value_eq_atScale hle, value, div_left_inj' (by positivity)] at h
  exact_mod_cast h

theorem IsWritten.eq_of_scale_le (h : a.IsWritten scale) (h' : b.IsWritten scale)
    (hvalue : a.value = b.value) (hle : a.scale ≤ b.scale) : a = b := by
  have hsame := atScale_eq_of_value_eq hvalue hle
  rcases hle.lt_or_eq with hlt | heq
  · have hroom : limit ≤ a.coefficient.natAbs * 10 :=
      h.2.resolve_left (hlt.trans_le h'.1).ne
    have hmore := natAbs_mul_ten_le_natAbs_atScale hlt
    rw [hsame] at hmore
    exact absurd b.coefficient_lt (hroom.trans hmore).not_gt
  · rw [atScale, heq, Nat.sub_self, tenTo_zero, Nat.cast_one, Int.mul_one] at hsame
    cases a
    cases b
    simp_all

/-- There is one way to write a number with so many digits. -/
theorem IsWritten.eq_of_value_eq (h : a.IsWritten scale) (h' : b.IsWritten scale)
    (hvalue : a.value = b.value) : a = b := by
  rcases le_total a.scale b.scale with hle | hle
  · exact h.eq_of_scale_le h' hvalue hle
  · exact (h'.eq_of_scale_le h hvalue.symm hle).symm

/-! ## Bringing an exact number into range -/

/-- A digit goes only when there is no room for it. -/
theorem limit_le_of_lt_dropCount {n : ℕ} : ∀ {fuel start dropped : ℕ}, start ≤ dropped →
    dropped < dropCount n fuel start → limit ≤ n / tenTo dropped
  | 0, start, dropped, hs, hd => absurd hd hs.not_gt
  | fuel + 1, start, dropped, hs, hd => by
    unfold dropCount at hd
    split at hd
    · exact absurd hd hs.not_gt
    · rename_i hfull
      rcases hs.lt_or_eq with hlt | rfl
      · exact limit_le_of_lt_dropCount hlt hd
      · exact Nat.le_of_not_lt hfull

theorem eq_of_ofParts? {size places : ℕ} (h : ofParts? false size places = some c) :
    c.coefficient.natAbs = size ∧ c.scale = places ∧ c.value = size / 10 ^ places := by
  unfold ofParts? at h
  split at h
  · obtain rfl := Option.some.inj h
    exact ⟨natAbs_signed false size, rfl, by simp [value, signed]⟩
  · cases h

/-- When nothing is rounded away, what is left of a number without some digits has the others. -/
theorem eq_mul_tenTo_of_div_eq {size n dropped : ℕ} (hle : dropped ≤ scale)
    (h : (size : ℚ) / 10 ^ (scale - dropped) = n / 10 ^ scale) : n = size * tenTo dropped := by
  obtain ⟨more, rfl⟩ := Nat.exists_eq_add_of_le hle
  rw [Nat.add_sub_cancel_left, div_eq_div_iff (by positivity) (by positivity), pow_add, ← mul_assoc,
    mul_left_inj' (by positivity), ← cast_tenTo] at h
  exact_mod_cast h.symm

/-- A number of which nothing is rounded away is written with the digits it has, as far as there
is room. -/
theorem isWritten_of_fit {n : ℕ} (hs : scale ≤ maxScale) (hc : fit n scale = some c)
    (hexact : c.value = n / 10 ^ scale) : c.IsWritten scale := by
  have hlimit := div_tenTo_dropCount_lt n (n.log2 + 1) 0 (div_tenTo_log2_lt n 0)
  have hmore : ∀ dropped, dropped < dropCount n (n.log2 + 1) 0 → limit ≤ n / tenTo dropped :=
    fun dropped => limit_le_of_lt_dropCount (Nat.zero_le dropped)
  generalize hd : dropCount n (n.log2 + 1) 0 = dropped at hlimit hmore
  by_cases hle : dropped ≤ scale
  · rw [fit_natCast hs hd hle] at hc
    split at hc
    · obtain ⟨hsize, hscale, hvalue⟩ := eq_of_ofParts? hc
      have hn := eq_mul_tenTo_of_div_eq hle (hvalue.symm.trans hexact)
      rw [IsWritten, hsize, hscale]
      refine ⟨Nat.sub_le _ _, ?_⟩
      cases dropped with
      | zero => exact Or.inl rfl
      | succ fewer =>
        generalize roundHalfEven n (tenTo (fewer + 1)) = size at hn
        have hfull := hmore fewer (Nat.lt_succ_self fewer)
        rw [Nat.add_comm, tenTo_add, ← Nat.mul_assoc] at hn
        rw [hn, Nat.mul_div_cancel _ (tenTo_pos fewer)] at hfull
        exact Or.inr hfull
    · -- with two digits gone one would have been enough
      rename_i hcarried
      split at hc
      · cases hc
      · obtain ⟨-, -, hvalue⟩ := eq_of_ofParts? hc
        have hn := eq_mul_tenTo_of_div_eq (by omega) (hvalue.symm.trans hexact)
        have hdvd : tenTo dropped ∣ n :=
          (Nat.pow_dvd_pow 10 (Nat.le_succ dropped)).trans ⟨_, hn.trans (Nat.mul_comm _ _)⟩
        rw [roundHalfEven_eq_of_dvd (tenTo_pos dropped) hdvd] at hcarried
        exact absurd hlimit hcarried
  · simp [fit, Nat.sub_eq_zero_of_le hs, hd, Nat.lt_of_not_le hle] at hc

/-! ## Sums of hundredths -/

/-- The digits behind the point that a number brings into a sum. -/
def placesAdded (d : Decimal) : ℕ := if d.isZero then 0 else d.scale

/-- A sum to which numbers brought at most so many digits behind the point. -/
structure IsSum (d : Decimal) (most : ℕ) : Prop where
  written : d.value ≠ 0 → d.IsWritten most
  nothing : d.value = 0 → most = 0

theorem isSum_placesAdded (d : Decimal) : d.IsSum d.placesAdded := by
  unfold placesAdded
  split
  · rename_i hz
    exact ⟨fun hne => absurd (isZero_iff_value.1 hz) hne, fun _ => rfl⟩
  · rename_i hz
    exact ⟨fun _ => d.isWritten_self, fun h => absurd (isZero_iff_value.2 h) hz⟩

/-- Equal sums are written alike, unless they are zero. -/
theorem IsSum.eq_or_eq_zero {most : ℕ} (h : a.IsSum most) (h' : b.IsSum most)
    (hvalue : a.value = b.value) : a = b ∨ a.value = 0 ∧ b.value = 0 := by
  by_cases hz : a.value = 0
  · exact Or.inr ⟨hz, hvalue ▸ hz⟩
  · exact Or.inl ((h.written hz).eq_of_value_eq (h'.written (hvalue ▸ hz)) hvalue)

/-- A number that has become larger, with no fewer digits behind the point, is as full as
before. -/
theorem natAbs_le_of_value_le (ha : 0 ≤ a.value) (hle : a.value ≤ c.value)
    (hs : a.scale ≤ c.scale) : a.coefficient.natAbs ≤ c.coefficient.natAbs := by
  have hmoved : a.coefficient.natAbs ≤ (a.atScale c.scale).natAbs := by
    rw [natAbs_atScale]
    exact Nat.le_mul_of_pos_right _ (tenTo_pos _)
  rw [value_eq_atScale hs, value, div_le_div_iff_of_pos_right (by positivity), Int.cast_le] at hle
  have ha0 : 0 ≤ a.atScale c.scale :=
    Int.mul_nonneg (value_nonneg_iff.1 ha) (Int.natCast_nonneg _)
  omega

/-- A sum of which nothing is rounded away has the digits of the longer summand. -/
theorem isWritten_of_add (ha : 0 ≤ a.value) (hb : 0 ≤ b.value) (hza : a.value ≠ 0)
    (hzb : b.value ≠ 0) (hc : a.add b = .ok c) (hexact : c.value = a.value + b.value) :
    c.IsWritten (max a.scale b.scale) := by
  have hvalue : a.value + b.value = ((a.atScale (max a.scale b.scale) +
      b.atScale (max a.scale b.scale) : ℤ) : ℚ) / 10 ^ max a.scale b.scale := by
    rw [value_eq_atScale (le_max_left a.scale b.scale),
      value_eq_atScale (le_max_right a.scale b.scale)]
    push_cast
    ring
  have hscale : max a.scale b.scale ≤ maxScale := max_le a.scale_le b.scale_le
  rw [add, if_neg (mt isZero_iff_value.1 hza), if_neg (mt isZero_iff_value.1 hzb)] at hc
  dsimp only at hc
  generalize max a.scale b.scale = scale at hvalue hscale hc ⊢
  obtain ⟨n, hn⟩ := Int.eq_ofNat_of_zero_le (Int.add_nonneg
    (Int.mul_nonneg (value_nonneg_iff.1 ha) (Int.natCast_nonneg (tenTo (scale - a.scale))))
    (Int.mul_nonneg (value_nonneg_iff.1 hb) (Int.natCast_nonneg (tenTo (scale - b.scale)))))
  rw [atScale, atScale, hn] at hc hvalue
  split at hc
  · rename_i hfit
    obtain rfl := Except.ok.inj hc
    exact isWritten_of_fit hscale hfit (hexact.trans hvalue)
  · cases hc

/-- Adding a number brings in its digits. -/
theorem IsSum.add {most : ℕ} (h : a.IsSum most) (ha : 0 ≤ a.value) (hb : 0 ≤ b.value)
    (hc : a.add b = .ok c) (hexact : c.value = a.value + b.value) :
    c.IsSum (max most b.placesAdded) := by
  by_cases hza : a.value = 0
  · rw [Decimal.add, if_pos (isZero_iff_value.2 hza)] at hc
    obtain rfl := Except.ok.inj hc
    rw [h.nothing hza, Nat.zero_max]
    exact b.isSum_placesAdded
  · by_cases hzb : b.value = 0
    · have hzb' := isZero_iff_value.2 hzb
      rw [Decimal.add, if_neg (mt isZero_iff_value.1 hza), if_pos hzb'] at hc
      obtain rfl := Except.ok.inj hc
      rw [placesAdded, if_pos hzb', Nat.max_zero]
      exact h
    · obtain ⟨hle, hfull⟩ := isWritten_of_add ha hb hza hzb hc hexact
      obtain ⟨hle', hfull'⟩ := h.written hza
      rw [placesAdded, if_neg (mt isZero_iff_value.1 hzb)]
      refine ⟨fun _ => ⟨by omega, ?_⟩, fun hz => absurd (show a.value = 0 by linarith) hza⟩
      rcases hfull with hlong | hfull
      · rcases hfull' with hmost | hfull'
        · exact Or.inl (by omega)
        · have hgrown := natAbs_le_of_value_le (c := c) ha (by linarith) (by omega)
          exact Or.inr (by omega)
      · exact Or.inr hfull

/-- Numbers of hundredths are added up exactly, as long as there are not too many. -/
theorem exists_foldlM_add_exact : ∀ (ds : List Decimal) (acc : Decimal) (total most : ℕ),
    acc.value = total / 10 ^ 2 → acc.IsSum most → (∀ d ∈ ds, d.value = d.hundredths / 10 ^ 2) →
    total + (ds.map hundredths).sum < safeTotal * 10 ^ 2 →
    ∃ c, ds.foldlM add acc = .ok c ∧ c.value = (total + (ds.map hundredths).sum : ℕ) / 10 ^ 2 ∧
      c.IsSum ((ds.map placesAdded).foldl max most)
  | [], acc, total, most, hacc, hsum, _, _ => ⟨acc, rfl, hacc, hsum⟩
  | d :: rest, acc, total, most, hacc, hsum, hall, hless => by
    rw [List.forall_mem_cons] at hall
    rw [List.map_cons, List.sum_cons, ← Nat.add_assoc] at hless
    have ha : 0 ≤ acc.value := by rw [hacc]; positivity
    have hd : 0 ≤ d.value := by rw [hall.1]; positivity
    have hboth : acc.value + d.value = (total + d.hundredths : ℕ) / 10 ^ 2 := by
      rw [hacc, hall.1]
      push_cast
      ring
    have hsafe : acc.value + d.value < safeTotal := by
      rw [hboth, div_lt_iff₀ (by positivity)]
      exact_mod_cast (Nat.le_add_right _ _).trans_lt hless
    obtain ⟨next, hnext, hkeeps⟩ := exists_add ha hd hsafe
    have hexact := hkeeps.eq hboth
    obtain ⟨c, hc, hvalue, hwritten⟩ := exists_foldlM_add_exact rest next _ _ (hexact.trans hboth)
      (hsum.add ha hd hnext hexact) hall.2 hless
    refine ⟨c, ?_, ?_, hwritten⟩
    · rw [List.foldlM_cons, hnext]
      exact hc
    · rwa [List.map_cons, List.sum_cons, ← Nat.add_assoc]

theorem exists_sum_exact {ds : List Decimal} (hall : ∀ d ∈ ds, d.value = d.hundredths / 10 ^ 2)
    (hless : (ds.map hundredths).sum < safeTotal * 10 ^ 2) :
    ∃ c, sum ds = .ok c ∧ c.value = ((ds.map hundredths).sum : ℕ) / 10 ^ 2 ∧
      c.IsSum ((ds.map placesAdded).foldl max 0) := by
  have hzero : zero.IsSum 0 := zero.isSum_placesAdded
  have hfold := exists_foldlM_add_exact ds zero 0 0 (by simp) hzero hall (by rwa [Nat.zero_add])
  rwa [Nat.zero_add] at hfold

/-- A whole number within the limit is a decimal. -/
theorem exists_ofInt?_natCast {n : ℕ} (hn : n < limit) : ∃ d, ofInt? n = some d ∧ d.value = n := by
  obtain ⟨d, hd, hvalue⟩ := exists_ofParts? hn (Nat.zero_le maxScale)
  refine ⟨d, ?_, by simpa using hvalue⟩
  rw [ofInt?, Int.natAbs_natCast, decide_eq_false (by omega)]
  exact hd

end Decimal

/-! ## Means -/

open Decimal

/-- Points that have two places and are neither negative nor too large. -/
structure Decimal.IsSmall (d : Decimal) : Prop where
  nonneg : 0 ≤ d.value
  places : d.HasPlaces 2
  le : d.value ≤ 10 ^ 8

/-- Small scores, and not too many. -/
structure AreSmall (scores : List Decimal) : Prop where
  small : ∀ score ∈ scores, score.IsSmall
  few : scores.length < 10 ^ 9

/-- The mean as a rational number. -/
def exactMean (scores : List Decimal) : ℚ := (scores.map value).sum / scores.length

variable {scores others : List Decimal}

namespace AreSmall

variable (h : AreSmall scores)

include h

theorem perm (hp : scores.Perm others) : AreSmall others where
  small score hs := h.small score (hp.mem_iff.2 hs)
  few := hp.length_eq ▸ h.few

theorem value_eq {score : Decimal} (hs : score ∈ scores) :
    score.value = score.hundredths / 10 ^ 2 :=
  (h.small score hs).places.value_eq (h.small score hs).nonneg

theorem sum_hundredths_le : (scores.map hundredths).sum ≤ scores.length * 10 ^ 10 := by
  have hle : ∀ n ∈ scores.map hundredths, n ≤ 10 ^ 10 := by
    intro n hn
    obtain ⟨score, hs, rfl⟩ := List.mem_map.1 hn
    have hle := (h.small score hs).le
    rw [h.value_eq hs, div_le_iff₀ (by positivity), ← pow_add] at hle
    exact_mod_cast hle
  have hsum := List.sum_le_card_nsmul _ _ hle
  rwa [List.length_map, nsmul_eq_mul, Nat.cast_id] at hsum

/-- Scores have their exact sum. -/
theorem exists_sum :
    ∃ c, Decimal.sum scores = .ok c ∧ c.value = ((scores.map hundredths).sum : ℕ) / 10 ^ 2 ∧
      c.IsSum ((scores.map placesAdded).foldl max 0) := by
  refine exists_sum_exact (fun score => h.value_eq) ?_
  have hle := h.sum_hundredths_le
  have hfew := h.few
  have hsafe : 10 ^ 9 * 10 ^ 10 < safeTotal * 10 ^ 2 := by decide
  omega

theorem exactMean_eq :
    exactMean scores = ((scores.map hundredths).sum : ℕ) / (scores.length * 10 ^ 2 : ℕ) := by
  have hsum := Score.sum_value_eq (d := id) fun _ => h.value_eq
  rw [exactMean, Nat.cast_mul, Nat.cast_pow, Nat.cast_ofNat, mul_comm, ← div_div]
  exact congrArg (· / (scores.length : ℚ)) hsum

end AreSmall

theorem foldl_max_placesAdded_perm (hp : scores.Perm others) :
    (scores.map placesAdded).foldl max 0 = (others.map placesAdded).foldl max 0 :=
  (hp.map placesAdded).foldl_eq 0

theorem div_of_value_eq_zero {sum count : Decimal} (h : sum.value = 0) :
    sum.div count = .ok zero := by
  rw [div, if_pos (isZero_iff_value.2 h)]

/-- The mean of scores does not depend on their order. -/
theorem meanScore_perm (h : AreSmall scores) (hp : scores.Perm others) :
    meanScore others = meanScore scores := by
  obtain ⟨sum, hsum, hvalue, hwritten⟩ := h.exists_sum
  obtain ⟨sum', hsum', hvalue', hwritten'⟩ := (h.perm hp).exists_sum
  rw [← (hp.map hundredths).sum_eq, ← hvalue] at hvalue'
  rw [← foldl_max_placesAdded_perm hp] at hwritten'
  have hempty : others.isEmpty = scores.isEmpty := by
    rw [Bool.eq_iff_iff, List.isEmpty_iff, List.isEmpty_iff]
    exact ⟨fun h => (h ▸ hp).eq_nil, fun h => (h ▸ hp).nil_eq.symm⟩
  simp only [meanScore, hempty, hp.length_eq, hsum, hsum', bind, Except.bind]
  rcases hwritten'.eq_or_eq_zero hwritten hvalue' with rfl | ⟨hz', hz⟩
  · rfl
  · simp only [div_of_value_eq_zero hz, div_of_value_eq_zero hz']

/-- There is a mean of scores, and it is the exact one rounded to two places. -/
theorem exists_meanScore (h : AreSmall scores) (hne : scores ≠ []) :
    ∃ mean, meanScore scores = .ok (some mean) ∧ mean.scale ≤ 2 ∧
      mean.value = halfEven (exactMean scores * 10 ^ 2) / 10 ^ 2 := by
  obtain ⟨sum, hsum, hvalue, -⟩ := h.exists_sum
  have hpos : 0 < scores.length := List.length_pos_iff.2 hne
  have hfew := h.few
  have hlimit : 10 ^ 9 < limit := by decide
  obtain ⟨count, hcount, hlength⟩ := exists_ofInt?_natCast (hfew.trans hlimit)
  have hpos' : (0 : ℚ) < scores.length := by exact_mod_cast hpos
  have hratio : sum.value / count.value = exactMean scores := by
    rw [hvalue, hlength, h.exactMean_eq, Nat.cast_mul, Nat.cast_pow, Nat.cast_ofNat, mul_comm,
      ← div_div]
  have hless : sum.value ≤ 10 ^ 8 * count.value := by
    rw [hvalue, hlength, div_le_iff₀ (by positivity)]
    have hle := h.sum_hundredths_le
    calc ((scores.map hundredths).sum : ℚ) ≤ (scores.length * 10 ^ 10 : ℕ) := by exact_mod_cast hle
      _ = 10 ^ 8 * scores.length * 10 ^ 2 := by push_cast; ring
  obtain ⟨q, hq, hq0, hnear⟩ := exists_quotient (hvalue ▸ by positivity) (hlength ▸ hpos') hless
    (by decide)
  rw [hratio, h.exactMean_eq] at hnear
  have hside := hnear.sameSide (k := 200) (by omega) (by decide) ?_
  · refine ⟨q.roundTo 2, ?_, scale_roundTo_le q 2, ?_⟩
    · rw [meanScore, if_neg (by simpa using hne)]
      simp only [hsum, hcount, hq, bind, Except.bind, pure, Except.pure]
    · have hdouble : ∀ x : ℚ, 2 * (x * 10 ^ 2) = (200 : ℕ) * x := fun x => by push_cast; ring
      rw [value_roundTo hq0, h.exactMean_eq]
      congr 2
      refine halfEven_congr (fun j => ?_) fun j => ?_
      · rw [hdouble, hdouble]
        exact (hside j).1
      · rw [hdouble, hdouble]
        exact (hside j).2
  · have hroom : 10 ^ 9 * 10 ^ 2 * 200 < 2 * tenTo (maxScale - 8) := by decide
    omega

/-- A mean that is rounded to two places lies within bounds that have two places. -/
theorem rounded_mean_bounds {bound : Decimal} (hne : scores ≠ []) (hb : bound.HasPlaces 2)
    (h : ∀ score ∈ scores, 0 ≤ score.value ∧ score.value ≤ bound.value) :
    0 ≤ (halfEven (exactMean scores * 10 ^ 2) : ℚ) / 10 ^ 2 ∧
      (halfEven (exactMean scores * 10 ^ 2) : ℚ) / 10 ^ 2 ≤ bound.value := by
  have hpos : (0 : ℚ) < scores.length := by exact_mod_cast List.length_pos_iff.2 hne
  have hlow : 0 ≤ exactMean scores := by
    refine div_nonneg (List.sum_nonneg fun x hx => ?_) hpos.le
    obtain ⟨score, hs, rfl⟩ := List.mem_map.1 hx
    exact (h score hs).1
  have hhigh : exactMean scores ≤ bound.value := by
    have hsum := List.sum_le_card_nsmul (scores.map value) bound.value fun x hx => by
      obtain ⟨score, hs, rfl⟩ := List.mem_map.1 hx
      exact (h score hs).2
    rw [List.length_map, nsmul_eq_mul, mul_comm] at hsum
    exact (div_le_iff₀ hpos).2 hsum
  obtain ⟨m, hm⟩ := hb.exists_value_eq
  rw [hm] at hhigh ⊢
  have hle : (0 : ℤ) ≤ halfEven (exactMean scores * 10 ^ 2) :=
    le_halfEven (by push_cast; positivity)
  have hge : halfEven (exactMean scores * 10 ^ 2) ≤ m :=
    halfEven_le ((le_div_iff₀ (by positivity)).1 hhigh)
  constructor
  · have hle' : (0 : ℚ) ≤ halfEven (exactMean scores * 10 ^ 2) := by exact_mod_cast hle
    positivity
  · rw [div_le_div_iff_of_pos_right (by positivity)]
    exact_mod_cast hge

end QuizEngine
