import QuizEngine.Proofs.Freshness
import QuizEngine.Proofs.Means
import QuizEngine.Proofs.SafeScores

/-!
# What a refresh leaves

When all points and grades are small, a refresh of a quiz does not overflow. It leaves a row for
each question of the quiz, and each row describes the answers to its question on the submitted
attempts at the quiz: how many there are, how many are correct and how many are not, and the
exact mean of their points rounded once (`QuestionStatistics.Describes`,
`Engine.Reachable.refresh_describes`).

It does not matter in which order the tables yield their rows. The answers that count come in
another order then, which changes neither a count nor the mean (`compute_perm`), and what is
listed is sorted by question (`Store.Shuffles.exists_refreshed`). Nothing else is written, and a
second refresh finds the same rows and puts them where they are (`refreshStatistics_again`); the
time of a refresh is no part of a row here.
-/

namespace QuizEngine

namespace QuestionStatistics

variable {quizId questionId : Int} {question : Question} {answers others : List Answer}
  {row : QuestionStatistics}

/-! ## Statistics of answers -/

/-- The points that the answers have. -/
def pointsGiven (answers : List Answer) : List Decimal := answers.filterMap (·.pointsEarned)

/-- The row counts the answers, those that are correct and those that are not, and has the mean
of their points, which lies within the points of the question. -/
structure Describes (row : QuestionStatistics) (question : Question) (answers : List Answer) :
    Prop where
  total : row.totalAttempts = answers.length
  correct : row.correctCount = answers.countP (·.isCorrect == some true)
  incorrect : row.incorrectCount = answers.countP (·.isCorrect == some false)
  judged_le : row.correctCount + row.incorrectCount ≤ row.totalAttempts
  isNone_average : row.averageScore = none ↔ ∀ answer ∈ answers, answer.pointsEarned = none
  average : ∀ mean, row.averageScore = some mean → mean.scale ≤ 2 ∧
    mean.value = halfEven (exactMean (pointsGiven answers) * 10 ^ 2) / 10 ^ 2 ∧
    0 ≤ mean.value ∧ mean.value ≤ question.points.value

/-- No answer is both correct and not. -/
theorem countP_isCorrect_le (answers : List Answer) :
    answers.countP (·.isCorrect == some true) + answers.countP (·.isCorrect == some false) ≤
      answers.length := by
  have hmono : answers.countP (·.isCorrect == some false) ≤
      answers.countP fun a => ¬(a.isCorrect == some true) :=
    List.countP_mono_left fun a _ h => by simp_all
  have hlength := List.length_eq_countP_add_countP (fun a : Answer => a.isCorrect == some true)
    (l := answers)
  omega

theorem compute_eq_ok (quizId questionId : Int) {average : Option Decimal}
    (h : meanScore (pointsGiven answers) = .ok average) :
    ∃ row, compute quizId questionId answers = .ok row ∧ row.averageScore = average := by
  rw [pointsGiven] at h
  simp only [compute, h, bind, Except.bind, pure, Except.pure, Except.ok.injEq, exists_eq_left']

section Within

variable (hsmall : AreSmall (pointsGiven answers)) (hplaces : question.points.HasPlaces 2)
  (hwithin : ∀ points ∈ pointsGiven answers,
    0 ≤ points.value ∧ points.value ≤ question.points.value)

include hsmall hplaces hwithin

/-- There is a mean of points where there are points, and it lies within those of the question. -/
theorem exists_average : ∃ average, meanScore (pointsGiven answers) = .ok average ∧
    (average = none ↔ ∀ answer ∈ answers, answer.pointsEarned = none) ∧
    ∀ mean, average = some mean → mean.scale ≤ 2 ∧
      mean.value = halfEven (exactMean (pointsGiven answers) * 10 ^ 2) / 10 ^ 2 ∧
      0 ≤ mean.value ∧ mean.value ≤ question.points.value := by
  have hnone : pointsGiven answers = [] ↔ ∀ answer ∈ answers, answer.pointsEarned = none :=
    List.filterMap_eq_nil_iff
  by_cases hempty : pointsGiven answers = []
  · exact ⟨none, by rw [hempty]; rfl, iff_of_true rfl (hnone.1 hempty), nofun⟩
  · obtain ⟨mean, hmean, hscale, hvalue⟩ := exists_meanScore hsmall hempty
    refine ⟨some mean, hmean, iff_of_false (Option.some_ne_none mean) (mt hnone.2 hempty), ?_⟩
    rintro _ ⟨⟩
    refine ⟨hscale, hvalue, ?_⟩
    rw [hvalue]
    exact rounded_mean_bounds hempty hplaces hwithin

/-- The statistics of answers with small points within those of the question describe them. -/
theorem exists_describes (quizId : Int) :
    ∃ row, compute quizId question.id answers = .ok row ∧ row.Describes question answers := by
  obtain ⟨average, haverage, hnone, hsome⟩ := exists_average hsmall hplaces hwithin
  obtain ⟨row, hrow, rfl⟩ := compute_eq_ok quizId question.id haverage
  obtain ⟨htotal, hcorrect, hincorrect⟩ := counts_of_compute hrow
  refine ⟨row, hrow, htotal, hcorrect, hincorrect, ?_, hnone, hsome⟩
  rw [htotal, hcorrect, hincorrect]
  exact countP_isCorrect_le answers

end Within

/-- Statistics do not depend on the order of the answers. -/
theorem compute_perm (hsmall : AreSmall (pointsGiven answers)) (hp : answers.Perm others) :
    compute quizId questionId others = compute quizId questionId answers := by
  have hmean : meanScore (pointsGiven others) = meanScore (pointsGiven answers) :=
    meanScore_perm hsmall (hp.filterMap _)
  rw [pointsGiven, pointsGiven] at hmean
  simp only [compute, hmean, hp.length_eq, hp.countP_eq]

end QuestionStatistics

namespace Table

variable {κ α : Type} [DecidableEq κ] {t u : Table κ α} {key : α → κ}

/-- The same entries in another order are found alike. -/
theorem find?_eq_of_perm (h : t.entries.Perm u.entries) (k : κ) : u.find? k = t.find? k := by
  ext a
  rw [find?_eq_some_iff, find?_eq_some_iff, h.mem_iff]

omit [DecidableEq κ] in
theorem values_perm (h : t.entries.Perm u.entries) : t.values.Perm u.values := h.map _

theorem KeyedBy.perm (hk : t.KeyedBy key) (h : t.entries.Perm u.entries) : u.KeyedBy key :=
  fun k a ha => hk k a ((find?_eq_of_perm h k).symm.trans ha)

end Table

namespace Store

open QuestionStatistics

variable {s t u v : Store} {quizId questionId : Int} {answers : List Answer}

/-! ## The answers that count -/

/-- The answers are those to the question on the submitted attempts at the quiz, each of them
once. -/
structure Enumerates (s : Store) (quizId questionId : Int) (answers : List Answer) : Prop where
  nodup : answers.Nodup
  mem_iff : ∀ a, a ∈ answers ↔ a ∈ s.answers.values ∧ a.questionId = questionId ∧
    ∃ attempt ∈ s.attempts.values, attempt.id = a.attemptId ∧ attempt.quizId = quizId ∧
      (attempt.status = .submitted ∨ attempt.status = .graded)

theorem Keyed.finished_iff (h : s.Keyed) (id : Uuid) :
    s.Finished quizId id ↔ ∃ attempt ∈ s.attempts.values,
      attempt.id = id ∧ attempt.quizId = quizId ∧
        (attempt.status = .submitted ∨ attempt.status = .graded) := by
  constructor
  · rintro ⟨attempt, ha, hquiz, hg⟩
    have hid := h.id_of_findAttempt ha
    exact ⟨attempt, (h.mem_attempts_iff attempt).2 (hid.symm ▸ ha), hid, hquiz,
      AttemptStatus.isGradeable_iff.1 hg⟩
  · rintro ⟨attempt, hmem, rfl, hquiz, hg⟩
    exact ⟨attempt, (h.mem_attempts_iff attempt).1 hmem, hquiz, AttemptStatus.isGradeable_iff.2 hg⟩

/-- A refresh counts these answers. -/
theorem Keyed.enumerates_countedAnswers (h : s.Keyed) (quizId questionId : Int) :
    s.Enumerates quizId questionId (s.countedAnswers quizId questionId) where
  nodup := (h.answers.nodup_map_key.of_map _).filter _
  mem_iff a := by rw [h.mem_countedAnswers, h.mem_answers_iff, h.finished_iff]

theorem Enumerates.perm {others : List Answer} (h : s.Enumerates quizId questionId answers)
    (h' : s.Enumerates quizId questionId others) : answers.Perm others :=
  (List.perm_ext_iff_of_nodup h.nodup h'.nodup).2 fun a => (h.mem_iff a).trans (h'.mem_iff a).symm

/-! ## Small points -/

/-- The points of all questions and all answers are small, and there are not too many answers. -/
structure HasSmallPoints (s : Store) : Prop where
  questions : ∀ question ∈ s.questions.values, question.points.IsSmall
  answers : ∀ answer ∈ s.answers.values, ∀ points, answer.pointsEarned = some points →
    points.IsSmall
  few : s.answers.values.length < 10 ^ 9

/-- Each answer that counts has small points. -/
theorem HasSmallPoints.areSmall_pointsGiven (h : s.HasSmallPoints)
    (hcounted : s.Enumerates quizId questionId answers) : AreSmall (pointsGiven answers) := by
  constructor
  · intro points hp
    obtain ⟨answer, ha, hpoints⟩ := List.mem_filterMap.1 hp
    exact h.answers answer ((hcounted.mem_iff answer).1 ha).1 points hpoints
  · have hsub : answers.Subperm s.answers.values :=
      hcounted.nodup.subperm fun a ha => ((hcounted.mem_iff a).1 ha).1
    exact (List.length_filterMap_le _ _).trans_lt (hsub.length_le.trans_lt h.few)

/-- For each question there are statistics, and they describe the answers to it. -/
theorem HasSmallPoints.exists_describes (h : s.HasSmallPoints) (hs : s.Sound) (hfit : s.GradesFit)
    {question : Question} (hq : question ∈ s.questions.values)
    (hcounted : s.Enumerates quizId question.id answers) :
    ∃ row, compute quizId question.id answers = .ok row ∧ row.Describes question answers := by
  refine QuestionStatistics.exists_describes (h.areSmall_pointsGiven hcounted)
    (h.questions question hq).places (fun points hp => ?_) quizId
  obtain ⟨answer, ha, hpoints⟩ := List.mem_filterMap.1 hp
  obtain ⟨hmem, hquestion, -⟩ := (hcounted.mem_iff answer).1 ha
  exact hfit.points_within hs ((hs.mem_answers_iff answer).1 hmem)
    (hquestion ▸ (hs.mem_questions_iff question).1 hq) hpoints

/-! ## Refreshing -/

/-- Where there are statistics for each question there is a refresh. -/
theorem exists_refreshed (h : ∀ question ∈ s.questionsOf quizId,
      ∃ row, compute quizId question.id (s.countedAnswers quizId question.id) = .ok row) :
    ∃ t, s.refreshStatistics quizId = .ok t := by
  obtain ⟨rows, hrows⟩ := exists_mapM_eq_ok h
  simp only [refreshStatistics, bind_eq_ok_iff, pure, Except.pure, Except.ok.injEq]
  exact ⟨_, rows, hrows, rfl⟩

/-- A second refresh leaves everything as it is. -/
theorem refreshStatistics_again (hok : s.refreshStatistics quizId = .ok t) :
    t.refreshStatistics quizId = .ok t := by
  have hsame := sameRows_of_refreshStatistics hok
  simp only [refreshStatistics, bind_eq_ok_iff, pure, Except.pure, Except.ok.injEq] at hok ⊢
  obtain ⟨rows, hrows, rfl⟩ := hok
  refine ⟨rows, ?_, ?_⟩
  · simpa only [hsame.countedAnswers_eq] using hrows
  · have hkeys : (rows.foldl (fun t row => t.insert (quizId, row.questionId) row)
        (s.statistics.filterKeys (·.1 != quizId))).filterKeys (·.1 != quizId) =
        s.statistics.filterKeys (·.1 != quizId) := by
      rw [Table.filterKeys_foldl_insert (by simp), Table.filterKeys_filterKeys]
    simp only [hkeys]

section Alike

variable (h : t.Reflects s quizId) (h' : v.Reflects u quizId)
  (hquestion : ∀ id, u.findQuestion id = s.findQuestion id)
  (hcompute : ∀ id, compute quizId id (u.countedAnswers quizId id) =
    compute quizId id (s.countedAnswers quizId id))

include h

theorem Reflects.nodup : (t.listStatistics quizId).Nodup :=
  h.ascending.imp fun hlt heq => (heq ▸ hlt).ne rfl

include h' hquestion hcompute

theorem Reflects.mem_of_mem {row : QuestionStatistics} (hrow : row ∈ v.listStatistics quizId) :
    row ∈ t.listStatistics quizId := by
  have hthere : row.questionId ∈ (t.listStatistics quizId).map (·.questionId) := by
    rw [h.covers, ← hquestion, ← h'.covers]
    exact List.mem_map_of_mem hrow
  obtain ⟨other, hother, hid⟩ := List.mem_map.1 hthere
  have hcomputed := h'.computed row hrow
  rw [hcompute, ← hid, h.computed other hother] at hcomputed
  exact Except.ok.inj hcomputed ▸ hother

/-- Statistics of the same questions that are computed alike are listed alike. -/
theorem Reflects.listStatistics_eq : v.listStatistics quizId = t.listStatistics quizId := by
  have hmem : ∀ row, row ∈ v.listStatistics quizId ↔ row ∈ t.listStatistics quizId := fun row =>
    ⟨h.mem_of_mem h' hquestion hcompute,
      h'.mem_of_mem h (fun id => (hquestion id).symm) fun id => (hcompute id).symm⟩
  exact List.Perm.eq_of_pairwise (fun _ _ _ _ hab hba => absurd hab (Int.lt_asymm hba))
    h'.ascending h.ascending ((List.perm_ext_iff_of_nodup h'.nodup h.nodup).2 hmem)

end Alike

/-! ## The order of the tables -/

/-- The same rows stand under the same identifiers, in whatever order the tables yield them. -/
structure Shuffles (s u : Store) : Prop where
  quizzes : s.quizzes.entries.Perm u.quizzes.entries
  questions : s.questions.entries.Perm u.questions.entries
  attempts : s.attempts.entries.Perm u.attempts.entries
  answers : s.answers.entries.Perm u.answers.entries
  statistics : u.statistics = s.statistics

namespace Shuffles

variable (h : s.Shuffles u)

include h

theorem keyed (hs : s.Keyed) : u.Keyed :=
  ⟨hs.quizzes.perm h.quizzes, hs.questions.perm h.questions, hs.attempts.perm h.attempts,
    hs.answers.perm h.answers⟩

theorem enumerates (hcounted : s.Enumerates quizId questionId answers) :
    u.Enumerates quizId questionId answers where
  nodup := hcounted.nodup
  mem_iff a := by
    simp only [hcounted.mem_iff, (Table.values_perm h.answers).mem_iff,
      (Table.values_perm h.attempts).mem_iff]

theorem mem_questionsOf_iff (question : Question) :
    question ∈ u.questionsOf quizId ↔ question ∈ s.questionsOf quizId :=
  ((Table.values_perm h.questions).symm.filter _).mem_iff

/-- A refresh does not depend on the order of the tables. -/
theorem exists_refreshed (hs : s.Keyed) (hk : s.StatisticsKeyed) (hsmall : s.HasSmallPoints)
    (hok : s.refreshStatistics quizId = .ok t) :
    ∃ v, u.refreshStatistics quizId = .ok v ∧
      ∀ other, v.listStatistics other = t.listStatistics other := by
  have hcompute : ∀ id, compute quizId id (u.countedAnswers quizId id) =
      compute quizId id (s.countedAnswers quizId id) := by
    intro id
    have hcounted := hs.enumerates_countedAnswers quizId id
    exact compute_perm (hsmall.areSmall_pointsGiven hcounted)
      ((h.enumerates hcounted).perm ((h.keyed hs).enumerates_countedAnswers quizId id))
  obtain ⟨-, rows, hrows, -⟩ := refreshStatistics_eq_ok hs hk hok
  obtain ⟨v, hv⟩ : ∃ v, u.refreshStatistics quizId = .ok v := by
    refine Store.exists_refreshed fun question hq => ?_
    rw [h.mem_questionsOf_iff] at hq
    rw [hcompute]
    exact hrows.exists_of_mem hq
  have hk' : u.StatisticsKeyed := by
    rw [StatisticsKeyed, h.statistics]
    exact hk
  obtain ⟨-, hreflects, hothers⟩ := refreshStatistics_spec hs hk hok
  obtain ⟨-, hreflects', hothers'⟩ := refreshStatistics_spec (h.keyed hs) hk' hv
  refine ⟨v, hv, fun other => ?_⟩
  by_cases hother : other = quizId
  · rw [hother]
    exact hreflects.listStatistics_eq hreflects' (Table.find?_eq_of_perm h.questions) hcompute
  · rw [hothers' other hother, hothers other hother, listStatistics, h.statistics, listStatistics]

end Shuffles

end Store

namespace Engine

open Store QuestionStatistics

variable {e : Engine}

/-- In every reachable state with small points a quiz can be refreshed. That leaves a row for
each question of the quiz, by question, which describes the answers to it on the submitted
attempts at the quiz. The order of the tables does not matter, nothing else is written, and a
second refresh changes nothing. -/
theorem Reachable.refresh_describes (h : e.Reachable) (hsmall : e.store.HasSmallPoints)
    (quizId : Int) :
    ∃ t, e.store.refreshStatistics quizId = .ok t ∧
      (t.listStatistics quizId).Pairwise (fun a b => a.questionId < b.questionId) ∧
      (∀ questionId, questionId ∈ (t.listStatistics quizId).map (·.questionId) ↔
        ∃ question ∈ e.store.questions.values,
          question.id = questionId ∧ question.quizId = quizId) ∧
      (∀ row ∈ t.listStatistics quizId, row.quizId = quizId ∧
        ∃ question ∈ e.store.questions.values, question.id = row.questionId ∧
          (∃ answers, e.store.Enumerates quizId question.id answers) ∧
          ∀ answers, e.store.Enumerates quizId question.id answers →
            row.Describes question answers ∧ compute quizId question.id answers = .ok row) ∧
      (∀ u, e.store.Shuffles u → ∃ v, u.refreshStatistics quizId = .ok v ∧
        ∀ other, v.listStatistics other = t.listStatistics other) ∧
      (∀ other, other ≠ quizId → t.listStatistics other = e.store.listStatistics other) ∧
      t = { e.store with statistics := t.statistics } ∧
      t.refreshStatistics quizId = .ok t := by
  have hs := h.sound
  have hfit := h.gradesFit (hs.hasPositivePoints fun q hq => (hsmall.questions q hq).nonneg)
  have hdescribes : ∀ question ∈ e.store.questions.values, ∀ answers,
      e.store.Enumerates quizId question.id answers →
      ∃ row, compute quizId question.id answers = .ok row ∧ row.Describes question answers :=
    fun _ hq _ => hsmall.exists_describes hs hfit hq
  obtain ⟨t, ht⟩ := Store.exists_refreshed fun question hq =>
    (hdescribes question (List.mem_filter.1 hq).1 _
      (hs.enumerates_countedAnswers quizId question.id)).imp fun _ => And.left
  obtain ⟨-, hreflects, hothers⟩ := refreshStatistics_spec hs.toKeyed h.statisticsKeyed ht
  have hcovers : ∀ questionId, questionId ∈ (t.listStatistics quizId).map (·.questionId) ↔
      ∃ question ∈ e.store.questions.values,
        question.id = questionId ∧ question.quizId = quizId := by
    intro questionId
    rw [hreflects.covers]
    constructor
    · rintro ⟨question, hq, hquiz⟩
      obtain rfl := hs.id_of_findQuestion hq
      exact ⟨question, (hs.mem_questions_iff question).2 hq, rfl, hquiz⟩
    · rintro ⟨question, hq, rfl, hquiz⟩
      exact ⟨question, (hs.mem_questions_iff question).1 hq, hquiz⟩
  refine ⟨t, ht, hreflects.ascending, hcovers, fun row hrow => ?_,
    fun u hu => hu.exists_refreshed hs.toKeyed h.statisticsKeyed hsmall ht, hothers,
    eq_of_refreshStatistics ht, refreshStatistics_again ht⟩
  have hcomputed := hreflects.computed row hrow
  obtain ⟨question, hq, hid, -⟩ := (hcovers row.questionId).1 (List.mem_map_of_mem hrow)
  rw [← hid] at hcomputed
  have hcounted := hs.enumerates_countedAnswers quizId question.id
  refine ⟨(place_of_compute hcomputed).1, question, hq, hid, ⟨_, hcounted⟩,
    fun answers hanswers => ?_⟩
  have hrow' : compute quizId question.id answers = .ok row := by
    rw [compute_perm (hsmall.areSmall_pointsGiven hcounted) (hcounted.perm hanswers), hcomputed]
  obtain ⟨other, hother, hdescribed⟩ := hdescribes question hq answers hanswers
  obtain rfl := Except.ok.inj (hrow'.symm.trans hother)
  exact ⟨hdescribed, hrow'⟩

/-- The choice of the sample run is answered once, with all of its points. -/
theorem refresh_describes_submitted : Sample.submitted.store.HasSmallPoints ∧
    ∃ t, Sample.submitted.store.refreshStatistics 1 = .ok t ∧
      ∃ row ∈ t.listStatistics 1, row.questionId = 1 ∧ row.totalAttempts = 1 ∧
        row.correctCount = 1 ∧ row.averageScore ≠ none := by
  have hsmall : Sample.submitted.store.HasSmallPoints := by
    rw [Sample.store_submitted]
    have hquestions :
        ∀ question ∈ (Sample.answered.store.putAttempt Sample.closed).questions.values,
          0 ≤ question.points.value ∧ question.points.HasPlaces 2 ∧
            question.points.value ≤ 10 ^ 8 := by
      decide +kernel
    have hanswers : ∀ answer ∈ (Sample.answered.store.putAttempt Sample.closed).answers.values,
        ∀ points ∈ answer.pointsEarned,
          0 ≤ points.value ∧ points.HasPlaces 2 ∧ points.value ≤ 10 ^ 8 := by
      decide +kernel
    refine ⟨fun question hq => ?_, fun answer ha points hp => ?_, by decide +kernel⟩
    · obtain ⟨h0, hplaces, hle⟩ := hquestions question hq
      exact ⟨h0, hplaces, hle⟩
    · obtain ⟨h0, hplaces, hle⟩ := hanswers answer ha points hp
      exact ⟨h0, hplaces, hle⟩
  obtain ⟨t, ht, -, hcovers, hrows, -⟩ := Sample.reachable_submitted.refresh_describes hsmall 1
  have hquestion : ∃ question ∈ Sample.submitted.store.questions.values,
      question.id = 1 ∧ question.quizId = 1 := by
    rw [Sample.store_submitted]
    decide +kernel
  obtain ⟨row, hrow, hid⟩ := List.mem_map.1 ((hcovers 1).2 hquestion)
  obtain ⟨-, question, -, hqid, -, hdescribes⟩ := hrows row hrow
  have hcounted := Sample.reachable_submitted.sound.toKeyed.enumerates_countedAnswers 1 question.id
  obtain ⟨htotal, hcorrect, -, -, haverage, -⟩ := (hdescribes _ hcounted).1
  rw [hqid, hid] at htotal hcorrect haverage
  have hgiven : (Sample.submitted.store.countedAnswers 1 1).map
      (fun a => (a.isCorrect, a.pointsEarned.isSome)) = [(some true, true)] := by
    rw [Sample.store_submitted]
    decide +kernel
  obtain ⟨answer, hanswer, hpair⟩ := List.map_eq_singleton_iff.1 hgiven
  obtain ⟨hverdict, hpoints⟩ := Prod.mk.inj hpair
  rw [hanswer] at htotal hcorrect haverage
  refine ⟨hsmall, t, ht, row, hrow, hid, htotal, ?_, fun hnone => ?_⟩
  · simpa [hverdict] using hcorrect
  · simp [haverage.1 hnone answer (List.mem_singleton_self _)] at hpoints

end Engine

end QuizEngine
