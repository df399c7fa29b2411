import QuizEngine.Proofs.Quotients
import QuizEngine.Proofs.Scores
import Mathlib.Algebra.Order.BigOperators.Group.List

/-!
# Percentages

A score is computed with decimals: two sums, a quotient of twenty-eight digits, a hundredfold
and a rounding to two places. Over points with two places that is the percentage itself,
rounded once (`Score.aggregate_exact`). The sums are exact. The quotient is not, but what is
asked of it is on which side it lies of a number with four digits behind the point or of the
middle between two of them, and those are further from every quotient of two sums that is
not one of them than the division is off (`Decimal.Approximates.sameSide`).

Other points than those of two places are added up with a rounding; still there is a score as
long as nobody has more points than the question (`Score.exists_aggregate`).
-/

namespace QuizEngine

namespace Decimal

/-! ## Quotients of hundredths -/

/-- What the division finds is on the side of the quotient of every half in the fourth
digit. -/
theorem sameSide_of_near {q : Decimal} {total earned : ℕ} (hpos : 0 < total)
    (hsmall : total < safeTotal * 10 ^ 2)
    (hnear : 2 * (10 ^ maxScale * |q.value - (earned : ℚ) / total|) ≤ 1) (j : ℤ) :
    ((j : ℚ) ≤ 20000 * q.value ↔ (j : ℚ) ≤ 20000 * (earned / total)) ∧
      (20000 * q.value ≤ j ↔ 20000 * ((earned : ℚ) / total) ≤ j) := by
  have hfound : Approximates 0 ((earned : ℚ) / total) q.value :=
    ⟨maxScale, le_rfl, le_rfl, q.exists_mul_value_eq, hnear⟩
  have hsafe : safeTotal * 10 ^ 2 * 20000 ≤ 2 * tenTo (maxScale - 0) := by decide
  exact_mod_cast hfound.sameSide (k := 20000) hpos (by decide) (by omega) j

/-- A number with two places is at most one number when it is at most the other, if these are on
the same side of every half in the second digit. -/
theorem HasPlaces.value_le_iff {p : Decimal} (h : p.HasPlaces 2) {x y : ℚ}
    (hside : ∀ j : ℤ, (j : ℚ) ≤ 2 * (x * 10 ^ 2) ↔ (j : ℚ) ≤ 2 * (y * 10 ^ 2)) :
    p.value ≤ x ↔ p.value ≤ y := by
  obtain ⟨m, hm⟩ := h.exists_value_eq
  have hdouble : ∀ z : ℚ, p.value ≤ z ↔ ((2 * m : ℤ) : ℚ) ≤ 2 * (z * 10 ^ 2) := by
    intro z
    rw [hm, div_le_iff₀ (by positivity)]
    push_cast
    constructor <;> intro h <;> linarith
  rw [hdouble, hdouble, hside]

end Decimal

namespace Score

/-! ## Percentages -/

variable {total earned : Decimal}

/-- Of points within a total there is a percentage, and it is a hundredfold of what the
division finds. -/
theorem exists_exactPercentage (h0 : 0 ≤ earned.value) (hle : earned.value ≤ total.value) :
    ∃ exact, exactPercentage earned total = .ok exact ∧ 0 ≤ exact.value ∧
      (total.value = 0 → exact.value = 0) ∧
      (0 < total.value → ∃ q : Decimal, exact.value = 100 * q.value ∧
        2 * (10 ^ Decimal.maxScale * |q.value - earned.value / total.value|) ≤ 1) := by
  unfold exactPercentage
  split
  · rename_i hz
    have hzero := Decimal.isZero_iff_value.1 hz
    refine ⟨.zero, rfl, by simp, fun _ => by simp, fun hpos => ?_⟩
    rw [hzero] at hpos
    exact absurd hpos (lt_irrefl 0)
  · rename_i hz
    have hpos : 0 < total.value := (h0.trans hle).lt_of_ne fun h => hz (Decimal.isZero_iff_value.2 h.symm)
    obtain ⟨q, hq, hq0, hq1, hnear⟩ := Decimal.exists_div h0 hpos hle
    obtain ⟨exact, hexact, hvalue⟩ := Decimal.exists_mul_hundred hq0 hq1
    refine ⟨exact, ?_, by rw [hvalue]; positivity, fun h => absurd h hpos.ne', fun _ => ⟨q, hvalue, hnear⟩⟩
    rw [hq]
    exact hexact

/-! ## Answers to listed questions -/

/-- Every answer with the listed question that it answers. -/
def matched (questions : List Question) (answers : List Answer) : List (Question × Answer) :=
  answers.flatMap fun a => (questions.filter (·.id == a.questionId)).map (·, a)

/-- The points of the questions. -/
def pointsOf (cs : List (Question × Answer)) : ℚ := (cs.map (·.1.points.value)).sum

/-- The points of the answers; an answer without points has none. -/
def earnedOf (cs : List (Question × Answer)) : ℚ :=
  (cs.map fun c => (c.2.pointsEarned.map Decimal.value).getD 0).sum

variable {questions : List Question} {answers : List Answer} {cs : List (Question × Answer)}

theorem mem_matched {q : Question} {a : Answer} :
    (q, a) ∈ matched questions answers ↔ a ∈ answers ∧ q ∈ questions ∧ q.id = a.questionId := by
  simp only [matched, List.mem_flatMap, List.mem_map, List.mem_filter, beq_iff_eq, Prod.mk.injEq]
  constructor
  · rintro ⟨b, hb, r, ⟨hr, hid⟩, rfl, rfl⟩
    exact ⟨hb, hr, hid⟩
  · rintro ⟨ha, hq, hid⟩
    exact ⟨a, ha, q, ⟨hq, hid⟩, rfl, rfl⟩

theorem toList_head?_reverse {id : Int} : ∀ {l : List Question}, (l.map (·.id)).Nodup →
    (∀ q ∈ l, q.id = id) → l.reverse.head?.toList = l
  | [], _, _ => rfl
  | [_], _, _ => rfl
  | q :: r :: _, hn, hall => by
    have hne : q.id ≠ r.id := by simp_all
    exact absurd ((hall q (by simp)).trans (hall r (by simp)).symm) hne

/-- Among questions with different identifiers at most one has a given one. -/
theorem toList_questionOf? (hids : (questions.map (·.id)).Nodup) (id : Int) :
    (questionOf? questions id).toList = questions.filter (·.id == id) := by
  rw [questionOf?, ← List.head?_filter, List.filter_reverse]
  exact toList_head?_reverse (hids.sublist (List.filter_sublist.map _)) fun q hq => by
    simpa using (List.mem_filter.1 hq).2

/-- The question of an identifier, where no other has it. -/
theorem questionOf?_eq_some_iff (hids : (questions.map (·.id)).Nodup) {id : Int} {q : Question} :
    questionOf? questions id = some q ↔ q ∈ questions ∧ q.id = id := by
  rw [← Option.mem_toList, toList_questionOf? hids, List.mem_filter, beq_iff_eq]

theorem counted_eq_matched (hids : (questions.map (·.id)).Nodup) (answers : List Answer) :
    counted questions answers = matched questions answers := by
  rw [counted, List.filterMap_eq_flatMap_toList, matched]
  refine congrArg (List.flatMap · answers) (funext fun a => ?_)
  rw [Option.toList_map, toList_questionOf? hids]

/-! ## Sums -/

/-- Nobody has more points than the question, whose points have two places, and all of these
points together are not too many. -/
structure IsBounded (cs : List (Question × Answer)) : Prop where
  nonneg : ∀ c ∈ cs, 0 ≤ c.1.points.value
  places : ∀ c ∈ cs, c.1.points.HasPlaces 2
  grades : ∀ c ∈ cs, ∀ p, c.2.pointsEarned = some p → 0 ≤ p.value ∧ p.value ≤ c.1.points.value
  pointsOf_lt : pointsOf cs < Decimal.safeTotal

/-- The points that were given, each with its question. -/
def graded (cs : List (Question × Answer)) : List (Question × Decimal) :=
  cs.filterMap fun c => c.2.pointsEarned.map (c.1, ·)

theorem mem_graded {g : Question × Decimal} :
    g ∈ graded cs ↔ ∃ c ∈ cs, c.1 = g.1 ∧ c.2.pointsEarned = some g.2 := by
  simp only [graded, List.mem_filterMap, Option.map_eq_some_iff]
  constructor
  · rintro ⟨c, hc, p, hp, rfl⟩
    exact ⟨c, hc, rfl, hp⟩
  · rintro ⟨c, hc, hq, hp⟩
    exact ⟨c, hc, g.2, hp, by rw [hq]⟩

theorem map_snd_graded (cs : List (Question × Answer)) :
    (graded cs).map (·.2) = cs.filterMap (·.2.pointsEarned) := by
  rw [graded, List.map_filterMap]
  refine congrArg (List.filterMap · cs) (funext fun c => ?_)
  simp [Option.map_map, Function.comp_def]

theorem earnedOf_eq_sum_graded (cs : List (Question × Answer)) :
    earnedOf cs = ((graded cs).map (·.2.value)).sum := by
  induction cs with
  | nil => rfl
  | cons c rest ih =>
    rw [earnedOf, List.map_cons, List.sum_cons, ← earnedOf, ih]
    simp only [graded, List.filterMap_cons]
    cases c.2.pointsEarned with
    | none => exact zero_add _
    | some p => rfl

/-- Only some of the questions have points given. -/
theorem sum_graded_le (f : Question → ℕ) (cs : List (Question × Answer)) :
    ((graded cs).map fun g => f g.1).sum ≤ (cs.map fun c => f c.1).sum := by
  induction cs with
  | nil => exact le_rfl
  | cons c rest ih =>
    rw [graded, List.filterMap_cons, List.map_cons, List.sum_cons]
    cases c.2.pointsEarned with
    | none => exact ih.trans (Nat.le_add_left _ _)
    | some p => exact Nat.add_le_add_left ih _

/-- A sum of numbers with two places is one of hundredths. -/
theorem sum_value_eq {α : Type} {d : α → Decimal} {l : List α}
    (h : ∀ x ∈ l, (d x).value = (d x).hundredths / 10 ^ 2) :
    (l.map fun x => (d x).value).sum = ((l.map fun x => (d x).hundredths).sum : ℕ) / 10 ^ 2 := by
  induction l with
  | nil => simp
  | cons x rest ih =>
    rw [List.forall_mem_cons] at h
    rw [List.map_cons, List.map_cons, List.sum_cons, List.sum_cons, ih h.2, h.1]
    push_cast
    ring

/-- Hundredths below points that were given: their own, if they have two places. -/
def below (g : Question × Decimal) : ℕ := if g.2.HasPlaces 2 then g.2.hundredths else 0

/-- Hundredths above points that were given: their own, if they have two places, and those of
the question otherwise. -/
def above (g : Question × Decimal) : ℕ :=
  if g.2.HasPlaces 2 then g.2.hundredths else g.1.points.hundredths

theorem between_below_above {g : Question × Decimal} (h0 : 0 ≤ g.2.value)
    (hle : g.2.value ≤ g.1.points.value) (hq : g.1.points.value = g.1.points.hundredths / 10 ^ 2) :
    Decimal.Between (below g) (above g) g.2.value ∧ above g ≤ g.1.points.hundredths := by
  unfold below above
  split
  · rename_i hp
    have hvalue := hp.value_eq h0
    refine ⟨⟨hvalue.ge, hvalue.le⟩, ?_⟩
    rw [hvalue, hq, div_le_div_iff_of_pos_right (by positivity)] at hle
    exact_mod_cast hle
  · exact ⟨⟨by simpa using h0, hq ▸ hle⟩, le_rfl⟩

namespace IsBounded

variable (h : IsBounded cs)

include h

theorem value_eq {c : Question × Answer} (hc : c ∈ cs) :
    c.1.points.value = c.1.points.hundredths / 10 ^ 2 :=
  (h.places c hc).value_eq (h.nonneg c hc)

theorem pointsOf_eq : pointsOf cs = ((cs.map fun c => c.1.points.hundredths).sum : ℕ) / 10 ^ 2 :=
  sum_value_eq fun _ hc => h.value_eq hc

theorem sum_hundredths_lt : (cs.map fun c => c.1.points.hundredths).sum < Decimal.safeTotal * 10 ^ 2 := by
  have hlt := h.pointsOf_lt
  rw [h.pointsOf_eq, div_lt_iff₀ (by positivity)] at hlt
  exact_mod_cast hlt

/-- The points of the questions have their exact sum. -/
theorem exists_total :
    ∃ total, Decimal.sum (cs.map (·.1.points)) = .ok total ∧ total.value = pointsOf cs := by
  obtain ⟨total, htotal, hlow, hhigh⟩ := Decimal.exists_sum (fun c : Question × Answer => c.1.points)
    (fun c => c.1.points.hundredths) (fun c => c.1.points.hundredths)
    (fun c hc => by rw [Decimal.Between, ← h.value_eq hc]; exact ⟨le_rfl, le_rfl⟩) h.sum_hundredths_lt
  exact ⟨total, htotal, h.pointsOf_eq ▸ le_antisymm hhigh hlow⟩

/-- The points given have a sum within the points of the questions, the exact one when they
have two places. -/
theorem exists_earned :
    ∃ earned, Decimal.sum (cs.filterMap (·.2.pointsEarned)) = .ok earned ∧ 0 ≤ earned.value ∧
      earned.value ≤ pointsOf cs ∧
      ((∀ g ∈ graded cs, g.2.HasPlaces 2) → earned.value = earnedOf cs) := by
  have hgrade : ∀ g ∈ graded cs, 0 ≤ g.2.value ∧
      Decimal.Between (below g) (above g) g.2.value ∧ above g ≤ g.1.points.hundredths := by
    intro g hg
    obtain ⟨c, hc, hq, hp⟩ := mem_graded.1 hg
    obtain ⟨h0, hle⟩ := h.grades c hc g.2 hp
    rw [hq] at hle
    exact ⟨h0, between_below_above h0 hle (hq ▸ h.value_eq hc)⟩
  have hsum : ((graded cs).map above).sum ≤ (cs.map fun c => c.1.points.hundredths).sum :=
    (List.sum_le_sum fun g hg => (hgrade g hg).2.2).trans (sum_graded_le (·.points.hundredths) cs)
  obtain ⟨earned, hearned, hbetween⟩ := Decimal.exists_sum (fun g : Question × Decimal => g.2)
    below above (fun g hg => (hgrade g hg).2.1) (hsum.trans_lt h.sum_hundredths_lt)
  rw [map_snd_graded] at hearned
  refine ⟨earned, hearned, hbetween.nonneg, hbetween.2.trans ?_, fun hplaces => ?_⟩
  · rw [h.pointsOf_eq]
    gcongr
  · have hown : ∀ g ∈ graded cs, below g = g.2.hundredths ∧ above g = g.2.hundredths := fun g hg =>
      ⟨if_pos (hplaces g hg), if_pos (hplaces g hg)⟩
    rw [Decimal.Between, List.map_congr_left fun g hg => (hown g hg).1,
      List.map_congr_left fun g hg => (hown g hg).2] at hbetween
    rw [earnedOf_eq_sum_graded, sum_value_eq fun g hg => (hplaces g hg).value_eq (hgrade g hg).1]
    exact le_antisymm hbetween.2 hbetween.1

end IsBounded

/-! ## Scores -/

theorem aggregate_of_sums {total earned exact : Decimal}
    (htotal : Decimal.sum ((counted questions answers).map (·.1.points)) = .ok total)
    (hearned : Decimal.sum ((counted questions answers).filterMap (·.2.pointsEarned)) = .ok earned)
    (hexact : exactPercentage earned total = .ok exact) (passingScore : Option Decimal) :
    aggregate questions answers passingScore = .ok
      { totalPoints := total
        earnedPoints := earned
        percentage := exact.roundTo 2
        passed := passingScore.any (· ≤ exact)
        pendingCount := (counted questions answers).countP fun c => isPending c.1 c.2 } := by
  simp only [aggregate, htotal, hearned, hexact, bind, Except.bind, pure, Except.pure]
  cases passingScore <;> rfl

/-- There is a score as long as nobody has more points than the question. -/
theorem exists_aggregate (h : IsBounded (counted questions answers)) (passingScore : Option Decimal) :
    ∃ score, aggregate questions answers passingScore = .ok score := by
  obtain ⟨total, htotal, hvalue⟩ := h.exists_total
  obtain ⟨earned, hearned, h0, hle, -⟩ := h.exists_earned
  obtain ⟨exact, hexact, -⟩ := exists_exactPercentage h0 (hvalue ▸ hle)
  exact ⟨_, aggregate_of_sums htotal hearned hexact passingScore⟩

/-- The percentage that the points earned are of all points, nothing of nothing. -/
def percentageOf (cs : List (Question × Answer)) : ℚ :=
  if pointsOf cs = 0 then 0 else 100 * earnedOf cs / pointsOf cs

namespace IsBounded

variable (h : IsBounded cs) (hplaces : ∀ g ∈ graded cs, g.2.HasPlaces 2)

include h hplaces

theorem earnedOf_bounds : 0 ≤ earnedOf cs ∧ earnedOf cs ≤ pointsOf cs := by
  obtain ⟨earned, -, h0, hle, hvalue⟩ := h.exists_earned
  rw [← hvalue hplaces]
  exact ⟨h0, hle⟩

theorem percentageOf_bounds : 0 ≤ percentageOf cs ∧ percentageOf cs ≤ 100 := by
  obtain ⟨h0, hle⟩ := h.earnedOf_bounds hplaces
  unfold percentageOf
  split
  · norm_num
  · rename_i hne
    have hpos : 0 < pointsOf cs := (h0.trans hle).lt_of_ne' hne
    refine ⟨by positivity, ?_⟩
    rw [div_le_iff₀ hpos]
    linarith

/-- The percentage that is computed is on the side of the true one of every half in the second
digit. -/
theorem exists_percentage {total earned : Decimal} (htotal : total.value = pointsOf cs)
    (hearned : earned.value = earnedOf cs) :
    ∃ exact, exactPercentage earned total = .ok exact ∧ 0 ≤ exact.value ∧
      ∀ j : ℤ, ((j : ℚ) ≤ 2 * (exact.value * 10 ^ 2) ↔ (j : ℚ) ≤ 2 * (percentageOf cs * 10 ^ 2)) ∧
        (2 * (exact.value * 10 ^ 2) ≤ j ↔ 2 * (percentageOf cs * 10 ^ 2) ≤ j) := by
  obtain ⟨h0, hle⟩ := h.earnedOf_bounds hplaces
  obtain ⟨exact, hexact, hnonneg, hzero, hnear⟩ :=
    exists_exactPercentage (hearned ▸ h0) (htotal ▸ hearned ▸ hle)
  refine ⟨exact, hexact, hnonneg, fun j => ?_⟩
  rw [htotal] at hzero hnear
  unfold percentageOf
  split
  · rename_i hz
    rw [hzero hz]
    exact ⟨Iff.rfl, Iff.rfl⟩
  · rename_i hne
    obtain ⟨q, hvalue, hnear⟩ := hnear ((h0.trans hle).lt_of_ne' hne)
    have hpoints := h.pointsOf_eq
    have hgrade : earnedOf cs = ((graded cs).map fun g => g.2.hundredths).sum / 10 ^ 2 := by
      rw [earnedOf_eq_sum_graded]
      refine sum_value_eq fun g hg => (hplaces g hg).value_eq ?_
      obtain ⟨c, hc, -, hp⟩ := mem_graded.1 hg
      exact (h.grades c hc g.2 hp).1
    have hsmall := h.sum_hundredths_lt
    generalize (cs.map fun c => c.1.points.hundredths).sum = t at hpoints hsmall
    generalize ((graded cs).map fun g => g.2.hundredths).sum = e at hgrade
    have hpos : 0 < t := by
      refine Nat.pos_of_ne_zero fun hz => hne ?_
      rw [hpoints, hz, Nat.cast_zero, zero_div]
    have hratio : earnedOf cs / pointsOf cs = (e : ℚ) / t := by
      rw [hpoints, hgrade]
      field_simp
    rw [hearned, hratio] at hnear
    have hfound : 2 * (exact.value * 10 ^ 2) = 20000 * q.value := by
      rw [hvalue]
      ring
    have htrue : 2 * (100 * earnedOf cs / pointsOf cs * 10 ^ 2) = 20000 * ((e : ℚ) / t) := by
      rw [mul_div_assoc, hratio]
      ring
    rw [hfound, htrue]
    exact Decimal.sameSide_of_near hpos hsmall hnear j

end IsBounded

/-- A percentage that is rounded to two places stays one. -/
theorem rounded_bounds {x : ℚ} (h0 : 0 ≤ x) (h1 : x ≤ 100) :
    0 ≤ (halfEven (x * 10 ^ 2) : ℚ) / 10 ^ 2 ∧ (halfEven (x * 10 ^ 2) : ℚ) / 10 ^ 2 ≤ 100 := by
  have hlow : (0 : ℤ) ≤ halfEven (x * 10 ^ 2) := le_halfEven (by push_cast; positivity)
  have hhigh : halfEven (x * 10 ^ 2) ≤ (10000 : ℤ) := halfEven_le (by push_cast; linarith)
  rw [div_le_iff₀ (by positivity), le_div_iff₀ (by positivity), zero_mul]
  constructor
  · exact_mod_cast hlow
  · norm_num
    exact_mod_cast hhigh

/-- The score of answers to different questions with two places. -/
theorem aggregate_exact (questions : List Question) (answers : List Answer)
    (passingScore : Option Decimal)
    (hids : (questions.map (·.id)).Nodup)
    (hpoints : ∀ q ∈ questions, 0 ≤ q.points.value ∧ q.points.HasPlaces 2)
    (hgrades : ∀ a ∈ answers, ∀ q ∈ questions, q.id = a.questionId → ∀ p, a.pointsEarned = some p →
      0 ≤ p.value ∧ p.value ≤ q.points.value ∧ p.HasPlaces 2)
    (hsum : pointsOf (matched questions answers) < 10 ^ 20)
    (hpassing : ∀ p, passingScore = some p → p.HasPlaces 2) :
    ∃ score, aggregate questions answers passingScore = .ok score ∧
      score.totalPoints.value = pointsOf (matched questions answers) ∧
      score.earnedPoints.value = earnedOf (matched questions answers) ∧
      score.pendingCount = (matched questions answers).countP (fun c =>
        c.1.type.isSubjective && c.2.pointsEarned.isNone) ∧
      score.percentage.value = halfEven (percentageOf (matched questions answers) * 10 ^ 2) / 10 ^ 2 ∧
      (0 ≤ score.percentage.value ∧ score.percentage.value ≤ 100) ∧
      (earnedOf (matched questions answers) = pointsOf (matched questions answers) →
        0 < pointsOf (matched questions answers) → score.percentage.value = 100) ∧
      (score.passed = true ↔ ∃ p, passingScore = some p ∧
        if pointsOf (matched questions answers) = 0 then p.value ≤ 0
        else p.value * pointsOf (matched questions answers) ≤
          100 * earnedOf (matched questions answers)) := by
  have hbounded : IsBounded (matched questions answers) := by
    refine ⟨?_, ?_, ?_, by rwa [Decimal.safeTotal, cast_tenTo]⟩
    · rintro ⟨q, a⟩ hc
      exact (hpoints q (mem_matched.1 hc).2.1).1
    · rintro ⟨q, a⟩ hc
      exact (hpoints q (mem_matched.1 hc).2.1).2
    · rintro ⟨q, a⟩ hc p hp
      obtain ⟨ha, hq, hid⟩ := mem_matched.1 hc
      obtain ⟨h0, hle, -⟩ := hgrades a ha q hq hid p hp
      exact ⟨h0, hle⟩
  have hplaces : ∀ g ∈ graded (matched questions answers), g.2.HasPlaces 2 := by
    rintro ⟨q, p⟩ hg
    obtain ⟨⟨r, a⟩, hc, rfl, hp⟩ := mem_graded.1 hg
    obtain ⟨ha, hq, hid⟩ := mem_matched.1 hc
    exact (hgrades a ha r hq hid p hp).2.2
  have hcounted := counted_eq_matched hids answers
  obtain ⟨total, htotal, hpointsOf⟩ := hbounded.exists_total
  obtain ⟨earned, hearned, -, -, hearnedOf⟩ := hbounded.exists_earned
  obtain ⟨exact, hexact, hnonneg, hside⟩ :=
    hbounded.exists_percentage hplaces hpointsOf (hearnedOf hplaces)
  obtain ⟨hlow, hhigh⟩ := hbounded.percentageOf_bounds hplaces
  rw [← hcounted] at htotal hearned
  have hpercentage : (exact.roundTo 2).value =
      halfEven (percentageOf (matched questions answers) * 10 ^ 2) / 10 ^ 2 := by
    rw [Decimal.value_roundTo hnonneg, halfEven_congr (fun j => (hside j).1) fun j => (hside j).2]
  refine ⟨_, aggregate_of_sums htotal hearned hexact passingScore, hpointsOf, hearnedOf hplaces, ?_,
    hpercentage, ?_, ?_, ?_⟩
  · rw [hcounted]
    refine List.countP_congr fun c _ => ?_
    simp [isPending, Answer.isGraded]
  · simp only [hpercentage]
    exact rounded_bounds hlow hhigh
  · intro hall hpos
    have hfull : percentageOf (matched questions answers) * 10 ^ 2 = ((10000 : ℤ) : ℚ) := by
      rw [percentageOf, if_neg hpos.ne', hall, mul_div_cancel_right₀ _ hpos.ne']
      norm_num
    simp only [hpercentage]
    rw [hfull, halfEven_intCast]
    norm_num
  · simp only [Option.any_eq_true, decide_eq_true_eq]
    refine exists_congr fun p => and_congr_right fun hp => ?_
    rw [Decimal.le_iff_value, (hpassing p hp).value_le_iff fun j => (hside j).1, percentageOf]
    split
    · exact Iff.rfl
    · rename_i hne
      have hpos : 0 < pointsOf (matched questions answers) := by
        have hbounds := hbounded.earnedOf_bounds hplaces
        exact (hbounds.1.trans hbounds.2).lt_of_ne' hne
      rw [le_div_iff₀ hpos]

end Score

namespace Sample

/-- A choice for one point. -/
def single (id : Int) : Question := { choice with id := id, points := points 1 0 }

/-- An answer with these points, written with two places. -/
def given (questionId : Int) (hundredths : Nat) : Answer :=
  { Answer.ungraded (uuid 2) (uuid 1) questionId (.singleChoice 1) none .epoch with
    pointsEarned := some (points hundredths 2) }

end Sample

/-- Two of three points are 66.67 percent, and yet not as much as 66.67 percent. An answer to
another question counts for nothing. -/
theorem Score.aggregate_exact_two_of_three :
    ∃ score, Score.aggregate [Sample.single 1, Sample.single 2, Sample.single 3]
        [Sample.given 3 100, Sample.given 9 500, Sample.given 1 100, Sample.given 2 0]
        (some (Sample.points 6667 2)) = .ok score ∧
      score.totalPoints.value = 3 ∧ score.earnedPoints.value = 2 ∧
      score.percentage.value = 6667 / 100 ∧ score.passed = false := by
  obtain ⟨score, hscore, htotal, hearned, -, hpercentage, -, -, hpassed⟩ :=
    Score.aggregate_exact [Sample.single 1, Sample.single 2, Sample.single 3]
      [Sample.given 3 100, Sample.given 9 500, Sample.given 1 100, Sample.given 2 0]
      (some (Sample.points 6667 2)) (by decide) (by decide +kernel) (by decide +kernel)
      (by decide +kernel) (by decide +kernel)
  refine ⟨score, hscore, htotal.trans (by decide +kernel), hearned.trans (by decide +kernel),
    hpercentage.trans (by decide +kernel), ?_⟩
  rw [← Bool.not_eq_true, hpassed]
  decide +kernel

end QuizEngine
