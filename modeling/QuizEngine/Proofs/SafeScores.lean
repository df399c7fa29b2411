import QuizEngine.Proofs.Grades
import QuizEngine.Proofs.Percentages

/-!
# Scores that do not overflow

When the points of all questions have two places and their sum is not too large, every attempt
has a score. The grades of a store lie within the points of their questions, those of an
attempt belong to different questions, and so every sum stays within that of the whole catalog
(`IsSafe.isBounded`). No write takes this away (`Writes.isSafe`), so it holds in every reachable
state (`Engine.Reachable.isSafe`).
-/

namespace QuizEngine

namespace Store

variable {s t : Store}

/-- The points of all questions have two places, and their sum is not too large. -/
structure HasSafePoints (s : Store) : Prop where
  nonneg : ∀ question ∈ s.questions.values, 0 ≤ question.points.value
  places : ∀ question ∈ s.questions.values, question.points.HasPlaces 2
  sum_lt : (s.questions.values.map (·.points.value)).sum < 10 ^ 20

theorem HasSafePoints.of_sameCatalog (h : s.HasSafePoints) (hcat : s.SameCatalog t) :
    t.HasSafePoints := by
  obtain ⟨hnonneg, hplaces, hsum⟩ := h
  rw [← hcat.questions] at hnonneg hplaces hsum
  exact ⟨hnonneg, hplaces, hsum⟩

theorem Keyed.hasPositivePoints (h : s.Keyed)
    (hpoints : ∀ question ∈ s.questions.values, 0 ≤ question.points.value) :
    s.HasPositivePoints := by
  intro id question hq
  rw [Decimal.le_iff_value, Decimal.value_zero]
  refine hpoints question ((h.mem_questions_iff question).2 ?_)
  rw [h.id_of_findQuestion hq]
  exact hq

theorem HasSafePoints.hasPositivePoints (h : s.HasSafePoints) (hs : s.Keyed) :
    s.HasPositivePoints :=
  hs.hasPositivePoints h.nonneg

/-- The points of an answer lie within those of its question. -/
theorem GradesFit.points_within (h : s.GradesFit) (hs : s.Sound) {answer : Answer}
    {question : Question} (ha : s.findAnswer answer.id = some answer)
    (hq : s.findQuestion answer.questionId = some question) {points : Decimal} (hp : answer.pointsEarned = some points) :
    0 ≤ points.value ∧ points.value ≤ question.points.value := by
  obtain ⟨attempt, _, hatt, -⟩ := hs.hasQuestion _ answer ha
  obtain ⟨h0, hle⟩ := (h _ answer ha attempt question hatt hq).1.within points hp
  rw [Decimal.le_iff_value, Decimal.value_zero] at h0
  exact ⟨h0, Decimal.le_iff_value.1 hle⟩

/-- What it takes that attempts can be scored. -/
structure IsSafe (s : Store) : Prop where
  sound : s.Sound
  gradesFit : s.GradesFit
  safePoints : s.HasSafePoints

/-- The answers of an attempt belong to different questions. -/
theorem Sound.nodup_counted (h : s.Sound) (quizId : Int) (attemptId : Uuid) :
    ((Score.counted (s.listQuestions quizId) (s.listAnswers attemptId)).map (·.1)).Nodup := by
  have hpairs : (Score.counted (s.listQuestions quizId) (s.listAnswers attemptId)).Pairwise
      fun c d => c.1 ≠ d.1 := by
    refine (h.pairwise_listAnswers attemptId).filterMap _ fun a b hab c hc d hd heq => ?_
    obtain ⟨q, hq, rfl⟩ := Option.map_eq_some_iff.1 hc
    obtain ⟨r, hr, rfl⟩ := Option.map_eq_some_iff.1 hd
    have hqid := h.id_of_findQuestion ((h.questionOf?_listQuestions _ _ _).1 hq).1
    have hrid := h.id_of_findQuestion ((h.questionOf?_listQuestions _ _ _).1 hr).1
    have hsame : q.id = r.id := congrArg Question.id heq
    omega
  exact List.pairwise_map.2 hpairs

namespace IsSafe

/-- The points that count for an attempt are some of those in the catalog. -/
theorem isBounded (h : s.IsSafe) (quizId : Int) (attemptId : Uuid) :
    Score.IsBounded (Score.counted (s.listQuestions quizId) (s.listAnswers attemptId)) := by
  have hmem : ∀ c ∈ Score.counted (s.listQuestions quizId) (s.listAnswers attemptId),
      s.findAnswer c.2.id = some c.2 ∧ s.findQuestion c.2.questionId = some c.1 ∧
        c.1 ∈ s.questions.values := by
    rintro ⟨q, a⟩ hc
    obtain ⟨ha, hq⟩ := Score.mem_counted.1 hc
    have hfound := ((h.sound.questionOf?_listQuestions _ _ _).1 hq).1
    refine ⟨((h.sound.mem_listAnswers _ _).1 ha).1, hfound, (h.sound.mem_questions_iff q).2 ?_⟩
    rw [h.sound.id_of_findQuestion hfound]
    exact hfound
  refine ⟨fun c hc => h.safePoints.nonneg _ (hmem c hc).2.2,
    fun c hc => h.safePoints.places _ (hmem c hc).2.2, fun c hc p hp => ?_, ?_⟩
  · obtain ⟨ha, hq, -⟩ := hmem c hc
    exact h.gradesFit.points_within h.sound ha hq hp
  · have hsome : (Score.counted (s.listQuestions quizId) (s.listAnswers attemptId)).map (·.1) ⊆
        s.questions.values := by
      intro q hq
      obtain ⟨c, hc, rfl⟩ := List.mem_map.1 hq
      exact (hmem c hc).2.2
    obtain ⟨picked, hperm, hsub⟩ := (h.sound.nodup_counted quizId attemptId).subperm hsome
    have hle : (picked.map (·.points.value)).sum ≤ (s.questions.values.map (·.points.value)).sum := by
      refine (hsub.map _).sum_le_sum fun x hx => ?_
      obtain ⟨q, hq, rfl⟩ := List.mem_map.1 hx
      exact h.safePoints.nonneg q hq
    have heq : Score.pointsOf (Score.counted (s.listQuestions quizId) (s.listAnswers attemptId)) =
        (picked.map (·.points.value)).sum := by
      rw [(hperm.map _).sum_eq, List.map_map]
      rfl
    rw [heq, Decimal.safeTotal, cast_tenTo]
    exact hle.trans_lt h.safePoints.sum_lt

/-- Every attempt has a score. -/
theorem exists_score (h : s.IsSafe) (quizId : Int) (attemptId : Uuid) (passingScore : Option Decimal) :
    ∃ score, Score.aggregate (s.listQuestions quizId) (s.listAnswers attemptId) passingScore =
      .ok score :=
  Score.exists_aggregate (h.isBounded quizId attemptId) passingScore

end IsSafe

/-- Every write keeps attempts scorable. -/
theorem Writes.isSafe {w : Write} (hw : s.Writes w t) (h : s.IsSafe) : t.IsSafe where
  sound := hw.sound h.sound
  gradesFit := hw.gradesFit h.sound (h.safePoints.hasPositivePoints h.sound.toKeyed) h.gradesFit
  safePoints := h.safePoints.of_sameCatalog hw.sameCatalog

theorem WritesOnly.isSafe {p : Write → Prop} (hw : WritesOnly p s t) (h : s.IsSafe) : t.IsSafe :=
  hw.keeps (fun _ hstep ih => hstep.isSafe ih) h

end Store

theorem Engine.Reachable.isSafe {e : Engine} (h : e.Reachable) (hpoints : e.store.HasSafePoints) :
    e.store.IsSafe :=
  ⟨h.sound, h.gradesFit (hpoints.hasPositivePoints h.sound.toKeyed), hpoints⟩

end QuizEngine
