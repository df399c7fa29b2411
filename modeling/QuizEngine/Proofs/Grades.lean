import QuizEngine.Proofs.Run
import Mathlib.Data.List.Nodup

/-!
# Grades that fit

The columns of a grade are written by a rule, while the attempt is in progress or when it is
submitted, and by people afterwards. Either way they are written together, the points lie
within those of the question, and the verdict says whether they are all of them
(`Answer.GradeFits`). What only people write is there only on a submitted attempt
(`Answer.IsByRule`).

Both are kept by every write (`Writes.gradesFit`). Together with `Store.Sound` this is what can
be relied on in a stored answer (`Reachable.answers_fit`).
-/

namespace QuizEngine

/-! ## The grade of one answer -/

/-- The columns of a grade are set together. Its points lie between zero and those of the
question, and it is correct when it has them all. -/
structure Answer.GradeFits (row : Answer) (question : Question) : Prop where
  isSome_isCorrect : row.isCorrect.isSome = row.pointsEarned.isSome
  isSome_gradedAt : row.gradedAt.isSome = row.pointsEarned.isSome
  within : ∀ points, row.pointsEarned = some points →
    Decimal.zero ≤ points ∧ points ≤ question.points
  full : ∀ points, row.pointsEarned = some points → row.isCorrect = some true →
    points.SameNumber question.points
  less : ∀ points, row.pointsEarned = some points → row.isCorrect = some false →
    Decimal.zero < question.points → points < question.points

/-- No person has written a grade onto the answer. -/
structure Answer.IsByRule (row : Answer) (question : Question) : Prop where
  graderFeedback : row.graderFeedback = none
  gradedBy : row.gradedBy = none
  pointsEarned : question.type.isSubjective = true → row.pointsEarned = none

/-- The verdict of a rule fits. -/
theorem Answer.gradeFits_withVerdict (row : Answer) {question : Question} (correct : Bool)
    (now : Instant) (hpoints : Decimal.zero ≤ question.points) :
    (row.withVerdict question correct now).GradeFits question where
  isSome_isCorrect := rfl
  isSome_gradedAt := rfl
  within := by
    rintro _ ⟨⟩
    cases correct with
    | true => exact ⟨hpoints, Decimal.le_refl _⟩
    | false => exact ⟨Decimal.le_refl _, hpoints⟩
  full := by
    rintro _ ⟨⟩ ⟨⟩
    exact Eq.refl _
  less := by
    rintro _ ⟨⟩ ⟨⟩ hpos
    exact hpos

/-- A grade that passed its check fits. -/
theorem CheckedGrade.gradeFits_row {checked : CheckedGrade} (ctx : Context)
    (hpos : ¬checked.grade.points < .zero) (hmax : ¬checked.question.points < checked.grade.points) :
    (checked.row ctx).GradeFits checked.question where
  isSome_isCorrect := rfl
  isSome_gradedAt := rfl
  within := by
    rintro _ ⟨⟩
    exact ⟨(Decimal.not_lt_iff_le _ _).1 hpos, (Decimal.not_lt_iff_le _ _).1 hmax⟩
  full := by
    rintro _ ⟨⟩ hcorrect
    exact of_decide_eq_true (Option.some.inj hcorrect)
  less := by
    rintro _ ⟨⟩ hcorrect _
    exact Decimal.lt_of_le_of_not_sameNumber ((Decimal.not_lt_iff_le _ _).1 hmax)
      (of_decide_eq_false (Option.some.inj hcorrect))

namespace Store

variable {s t : Store}

/-! ## The grades of a store -/

/-- The grade of the answer fits its question, and a person has graded it only when its
attempt is submitted. -/
def RowFits (s : Store) (row : Answer) : Prop :=
  ∀ attempt question, s.findAttempt row.attemptId = some attempt →
    s.findQuestion row.questionId = some question →
    row.GradeFits question ∧ (attempt.status.isGradeable = true ∨ row.IsByRule question)

/-- The grades of all stored answers fit. -/
def GradesFit (s : Store) : Prop := ∀ id row, s.findAnswer id = some row → s.RowFits row

/-- No question takes points away. -/
def HasPositivePoints (s : Store) : Prop :=
  ∀ id question, s.findQuestion id = some question → Decimal.zero ≤ question.points

theorem HasPositivePoints.of_sameCatalog (h : t.HasPositivePoints) (hcat : s.SameCatalog t) :
    s.HasPositivePoints :=
  fun id question hq => h id question ((hcat.findQuestion_eq id).trans hq)

theorem GradesFit.putAnswer (h : s.GradesFit) {row : Answer} (hrow : s.RowFits row) :
    (s.putAnswer row).GradesFit := by
  intro id b hb
  rw [findAnswer_putAnswer] at hb
  split at hb
  · obtain rfl := Option.some.inj hb
    exact hrow
  · exact h id b hb

/-- A new attempt has no answers yet. -/
theorem GradesFit.putAttempt_new (h : s.GradesFit) (hs : s.Sound) {a : Attempt}
    (hnew : s.findAttempt a.id = none) : (s.putAttempt a).GradesFit := by
  intro id row hrow attempt question ha hq
  obtain ⟨_, _, hfound, -⟩ := hs.hasQuestion id row hrow
  have hne : row.attemptId ≠ a.id := by
    intro heq
    rw [heq, hnew] at hfound
    cases hfound
  rw [findAttempt_putAttempt, if_neg hne] at ha
  exact h id row hrow attempt question ha hq

/-- Writing over an attempt, which is submitted then or was not before. -/
theorem GradesFit.putAttempt_over (h : s.GradesFit) {a old : Attempt}
    (hold : s.findAttempt a.id = some old)
    (hstatus : a.status.isGradeable = true ∨ old.status.isGradeable = false) :
    (s.putAttempt a).GradesFit := by
  intro id row hrow attempt question ha hq
  rw [findAttempt_putAttempt] at ha
  split at ha
  · rename_i hid
    obtain rfl := Option.some.inj ha
    obtain ⟨hfits, hbefore⟩ := h id row hrow old question (hid ▸ hold) hq
    refine ⟨hfits, ?_⟩
    rcases hstatus with hafter | hopen
    · exact Or.inl hafter
    · exact Or.inr (hbefore.resolve_left (by simp [hopen]))
  · exact h id row hrow attempt question ha hq

/-- What is handed in has no grade. -/
theorem rowFits_upsertedAnswer {ctx : Context} {attemptId : Uuid} {questionId : Int}
    {payload : Payload} {seconds : Option Int} :
    s.RowFits
      (s.upsertedAnswer (.ungraded ctx.fresh attemptId questionId payload seconds ctx.now)) := by
  intro _ question _ _
  unfold upsertedAnswer
  split
  · exact ⟨⟨rfl, rfl, nofun, nofun, nofun⟩, Or.inr ⟨rfl, rfl, fun _ => rfl⟩⟩
  · exact ⟨⟨rfl, rfl, nofun, nofun, nofun⟩, Or.inr ⟨rfl, rfl, fun _ => rfl⟩⟩

/-- The grade of a person fits when it passed its check. -/
theorem GradesFit.putAnswer_row (h : s.GradesFit) {ctx : Context} {answerId : Uuid} {grade : Grade}
    {checked : CheckedGrade} (hc : s.checkGrade ctx.caller answerId grade = .ok checked) :
    (s.putAnswer (checked.row ctx)).GradesFit := by
  obtain ⟨_, _, hatt, _, hst, hquestion, hpos, hmax, rfl⟩ := checkGrade_eq_ok_iff.1 hc
  refine h.putAnswer fun found question ha hq => ?_
  obtain rfl := Option.some.inj (hatt.symm.trans ha)
  obtain rfl := Option.some.inj (hquestion.symm.trans hq)
  exact ⟨CheckedGrade.gradeFits_row ctx hpos hmax, Or.inl hst⟩

/-- Every write keeps the grades fitting. -/
theorem Writes.gradesFit {w : Write} (hw : s.Writes w t) (h : s.Sound) (hpoints : s.HasPositivePoints)
    (hfit : s.GradesFit) : t.GradesFit := by
  cases hw with
  | start _ _ isFresh => exact hfit.putAttempt_new h isFresh.1
  | handIn _ _ => exact hfit.putAnswer rowFits_upsertedAnswer
  | @judge row attempt quiz question correct now isStored ofAttempt inProgress _ _ ofQuestion
      hasVerdict =>
    refine hfit.putAnswer fun found question' ha hq => ?_
    obtain rfl := Option.some.inj (ofAttempt.symm.trans ha)
    obtain rfl := Option.some.inj (ofQuestion.symm.trans hq)
    refine ⟨row.gradeFits_withVerdict correct now (hpoints _ _ ofQuestion), Or.inr ?_⟩
    obtain ⟨-, hgraded | hrule⟩ := hfit _ row isStored attempt question ofAttempt ofQuestion
    · rw [inProgress] at hgraded
      cases hgraded
    · refine ⟨hrule.graderFeedback, hrule.gradedBy, fun hsub => ?_⟩
      -- no rule has a verdict on an answer that a person grades
      have hauto := h.isSome_verdict? isStored ofQuestion
      rw [hasVerdict] at hauto
      simp [QuestionType.isSubjective, ← hauto] at hsub
  | @submit _ _ _ _ _ score isOpen _ _ _ isNext =>
    obtain ⟨ha, -, -⟩ := openAttempt_eq_ok_iff.1 isOpen
    obtain ⟨-, rfl⟩ := Attempt.submitted_eq_ok_iff.1 isNext
    obtain rfl := h.id_of_findAttempt ha
    exact hfit.putAttempt_over ha (Or.inl score.isGradeable_status)
  | abandon isAbandonable =>
    obtain ⟨_, _, ha, _, _, hp, rfl⟩ := abandonable_eq_ok_iff.1 isAbandonable
    obtain rfl := h.id_of_findAttempt ha
    exact hfit.putAttempt_over ha (Or.inr (by rw [hp]; rfl))
  | @grade ctx _ _ checked attempt _ _ isChecked ofAttempt _ isNext =>
    obtain ⟨score, -, -, rfl⟩ := Attempt.regraded_eq_ok_iff.1 isNext
    rw [← h.id_of_findAttempt ofAttempt] at ofAttempt
    exact (hfit.putAnswer_row isChecked).putAttempt_over ofAttempt (Or.inl score.isGradeable_status)
  | aside => exact hfit

end Store

namespace Engine

variable {e : Engine}

theorem Reachable.gradesFit (h : e.Reachable) (hpoints : e.store.HasPositivePoints) :
    e.store.GradesFit :=
  h.keeps (P := fun s => s.HasPositivePoints → s.GradesFit)
    (fun _ hs _ id row hrow => by simp [hs.findAnswer_eq] at hrow)
    (fun hs hw ih ht =>
      have hbefore := ht.of_sameCatalog hw.sameCatalog
      hw.gradesFit hs hbefore (ih hbefore)) hpoints

/-- In every reachable state a stored answer is to a question of the quiz that its attempt is
at, the only one there, and of the form the question asks for. Its grade fits the question,
and what only people write is there only when the attempt is submitted. -/
theorem Reachable.answers_fit (h : e.Reachable)
    (hpoints : ∀ question ∈ e.store.questions.values, Decimal.zero ≤ question.points) :
    (e.store.answers.values.map fun a => (a.attemptId, a.questionId)).Nodup ∧
      ∀ answer ∈ e.store.answers.values, ∃ attempt ∈ e.store.attempts.values,
        ∃ question ∈ e.store.questions.values,
          attempt.id = answer.attemptId ∧ question.id = answer.questionId ∧
            question.quizId = attempt.quizId ∧
          answer.payload.type = question.type ∧ answer.payload.check question = .ok () ∧
          answer.GradeFits question ∧
          (answer.graderFeedback ≠ none ∨ answer.gradedBy ≠ none ∨
              question.type.isSubjective = true ∧ answer.pointsEarned ≠ none →
            attempt.status = .submitted ∨ attempt.status = .graded) := by
  have hs := h.sound
  have hpositive : e.store.HasPositivePoints := by
    intro id question hq
    have hid := hs.id_of_findQuestion hq
    exact hpoints question ((hs.mem_questions_iff question).2 (hid.symm ▸ hq))
  constructor
  · refine List.Nodup.map_on ?_ (List.Nodup.of_map _ hs.answers.nodup_map_key)
    intro a ha b hb hplace
    obtain ⟨hatt, hq⟩ := Prod.mk.inj hplace
    exact hs.unique a b ((hs.mem_answers_iff a).1 ha) ((hs.mem_answers_iff b).1 hb) hatt hq
  · intro answer hmem
    have hanswer := (hs.mem_answers_iff answer).1 hmem
    obtain ⟨attempt, question, ha, hq, hqq, hcheck⟩ := hs.hasQuestion _ answer hanswer
    have haid := hs.id_of_findAttempt ha
    have hqid := hs.id_of_findQuestion hq
    obtain ⟨hfits, hby⟩ := h.gradesFit hpositive _ answer hanswer attempt question ha hq
    refine ⟨attempt, (hs.mem_attempts_iff attempt).2 (haid.symm ▸ ha), question,
      (hs.mem_questions_iff question).2 (hqid.symm ▸ hq), haid, hqid, hqq,
      Payload.type_eq_of_check hcheck, hcheck, hfits, fun hperson => ?_⟩
    rcases hby with hgraded | hrule
    · exact AttemptStatus.isGradeable_iff.1 hgraded
    · rcases hperson with hf | hg | ⟨hsub, hp⟩
      · exact absurd hrule.graderFeedback hf
      · exact absurd hrule.gradedBy hg
      · exact absurd (hrule.pointsEarned hsub) hp

/-- The choice of the sample run has all the points of its question. -/
theorem answers_fit_submitted :
    (∀ question ∈ Sample.submitted.store.questions.values, Decimal.zero ≤ question.points) ∧
      ∃ answer ∈ Sample.submitted.store.answers.values, ∃ question,
        answer.GradeFits question ∧ answer.isCorrect = some true := by
  have hpoints : ∀ question ∈ Sample.submitted.store.questions.values,
      Decimal.zero ≤ question.points := by
    rw [Sample.store_submitted]
    decide +kernel
  have hmem : ∃ answer ∈ Sample.submitted.store.answers.values, answer.isCorrect = some true := by
    rw [Sample.store_submitted]
    decide +kernel
  obtain ⟨answer, hanswer, hcorrect⟩ := hmem
  obtain ⟨-, hall⟩ := Sample.reachable_submitted.answers_fit hpoints
  obtain ⟨_, _, question, _, _, _, _, _, _, hfits, -⟩ := hall answer hanswer
  exact ⟨hpoints, answer, hanswer, question, hfits, hcorrect⟩

end Engine

end QuizEngine
