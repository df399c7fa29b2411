import QuizEngine.Proofs.Frame

/-!
# Scores are those of the answers

The score of an attempt stands in its row, the points stand in the rows of its answers, and
both are written by several calls. In every reachable state the row of a submitted attempt
has the score that `Score.aggregate` computes of the answers stored then
(`Writes.allScored` for one write, `Engine.Reachable.score_eq_aggregate`), and it is graded
exactly when every answer that a person grades has its points.
-/

namespace QuizEngine

/-! ## Aggregates -/

/-- Questions may be changed before or after one is looked up. -/
theorem questionOf?_map {f : Question → Question} (hf : ∀ q, (f q).id = q.id)
    (questions : List Question) (id : Int) :
    questionOf? (questions.map f) id = (questionOf? questions id).map f := by
  simp only [questionOf?, ← List.map_reverse, List.find?_map, Function.comp_def, hf]

namespace Score

variable {questions : List Question} {answers : List Answer} {score : Score}

theorem mem_counted {q : Question} {a : Answer} :
    (q, a) ∈ counted questions answers ↔ a ∈ answers ∧ questionOf? questions a.questionId = some q := by
  simp only [counted, List.mem_filterMap, Option.map_eq_some_iff, Prod.mk.injEq]
  constructor
  · rintro ⟨b, hb, r, hr, rfl, rfl⟩
    exact ⟨hb, hr⟩
  · rintro ⟨ha, hq⟩
    exact ⟨a, ha, q, hq, rfl, rfl⟩

/-- Questions and answers may be changed before or after they are paired. -/
theorem counted_map {f : Question → Question} {g : Answer → Answer} (hf : ∀ q, (f q).id = q.id)
    (hg : ∀ a, (g a).questionId = a.questionId) (questions : List Question) (answers : List Answer) :
    counted (questions.map f) (answers.map g) =
      (counted questions answers).map fun c => (f c.1, g c.2) := by
  simp only [counted, List.filterMap_map, Function.comp_def, hg, questionOf?_map hf,
    List.map_filterMap, Option.map_map]

theorem pendingCount_of_aggregate {passingScore : Option Decimal}
    (h : aggregate questions answers passingScore = .ok score) :
    score.pendingCount = (counted questions answers).countP fun c => isPending c.1 c.2 := by
  simp only [aggregate, bind_eq_ok_iff, pure, Except.pure, Except.ok.injEq] at h
  obtain ⟨_, _, _, _, _, _, rfl⟩ := h
  rfl

/-- A score grades the attempt when every answer to a question that a person grades has
points. -/
theorem status_eq_graded_iff_of_aggregate {passingScore : Option Decimal}
    (h : aggregate questions answers passingScore = .ok score) :
    score.status = .graded ↔ ∀ a ∈ answers, ∀ q, questionOf? questions a.questionId = some q →
      q.type.isSubjective = true → a.pointsEarned ≠ none := by
  rw [status_eq_graded_iff, provisional, fullyGraded, Bool.not_eq_false', beq_iff_eq,
    pendingCount_of_aggregate h, List.countP_eq_zero]
  constructor
  · intro hall a ha q hq hs hnone
    refine hall (q, a) (mem_counted.2 ⟨ha, hq⟩) ?_
    simp [isPending, Answer.isGraded, hs, hnone]
  · rintro hall ⟨q, a⟩ hmem hpending
    obtain ⟨ha, hq⟩ := mem_counted.1 hmem
    simp only [isPending, Answer.isGraded, Bool.and_eq_true, Bool.not_eq_true',
      Option.isSome_eq_false_iff, Option.isNone_iff_eq_none] at hpending
    exact hall a ha q hq hpending.1 hpending.2

/-- What a score depends on in an answer: its question and its points. -/
def basis (answer : Answer) : Int × Option Decimal := (answer.questionId, answer.pointsEarned)

theorem map_counted (questions : List Question) (answers : List Answer) :
    (counted questions answers).map (fun c => (c.1, c.2.pointsEarned)) =
      (answers.map basis).filterMap fun b => (questionOf? questions b.1).map (·, b.2) := by
  rw [counted, List.map_filterMap, List.filterMap_map]
  refine congrArg (List.filterMap · answers) (funext fun a => ?_)
  simp only [basis, Option.map_map, Function.comp_apply]
  rfl

/-- Answers to the same questions with the same points have the same score. -/
theorem aggregate_eq_of_basis_eq {as bs : List Answer} (h : as.map basis = bs.map basis)
    (questions : List Question) (passingScore : Option Decimal) :
    aggregate questions as passingScore = aggregate questions bs passingScore := by
  have hcounted := (map_counted questions as).trans (h ▸ (map_counted questions bs).symm)
  have htotal : ∀ cs : List Answer, (counted questions cs).map (·.1.points) =
      ((counted questions cs).map fun c => (c.1, c.2.pointsEarned)).map (·.1.points) := by
    intro cs
    rw [List.map_map]
    rfl
  have hearned : ∀ cs : List Answer, (counted questions cs).filterMap (·.2.pointsEarned) =
      ((counted questions cs).map fun c => (c.1, c.2.pointsEarned)).filterMap (·.2) := by
    intro cs
    rw [List.filterMap_map]
    rfl
  have hpending : ∀ cs : List Answer, (counted questions cs).countP (fun c => isPending c.1 c.2) =
      ((counted questions cs).map fun c => (c.1, c.2.pointsEarned)).countP fun c =>
        c.1.type.isSubjective && !c.2.isSome := by
    intro cs
    rw [List.countP_map]
    rfl
  simp only [aggregate, htotal, hearned, hpending, hcounted]

end Score

/-- The row of an attempt bears a score. -/
structure Attempt.HasScore (attempt : Attempt) (score : Score) : Prop where
  status : attempt.status = score.status
  totalPoints : attempt.totalPoints = some score.totalPoints
  earnedPoints : attempt.earnedPoints = some score.earnedPoints
  percentage : attempt.percentage = some score.percentage
  isPassed : attempt.isPassed = some score.passed

theorem Attempt.hasScore_withScore (attempt : Attempt) (score : Score) :
    (Store.nextVersion (attempt.withScore score)).HasScore score := ⟨rfl, rfl, rfl, rfl, rfl⟩

namespace Store

variable {s t : Store}

/-! ## Scores in a store -/

/-- The score of the answers that are stored on an attempt. -/
def ScoresTo (s : Store) (attempt : Attempt) (score : Score) : Prop :=
  ∃ quiz, s.findQuiz attempt.quizId = some quiz ∧
    Score.aggregate (s.listQuestions attempt.quizId) (s.listAnswers attempt.id) quiz.passingScore =
      .ok score

theorem ScoresTo.eq {attempt : Attempt} {score other : Score} (h : s.ScoresTo attempt score)
    (h' : s.ScoresTo attempt other) : score = other := by
  obtain ⟨quiz, hquiz, hscore⟩ := h
  obtain ⟨quiz', hquiz', hscore'⟩ := h'
  obtain rfl := Option.some.inj (hquiz.symm.trans hquiz')
  exact Except.ok.inj (hscore.symm.trans hscore')

/-- The attempt bears the score of its answers. -/
def IsScored (s : Store) (attempt : Attempt) : Prop :=
  ∃ quiz score, s.findQuiz attempt.quizId = some quiz ∧
    Score.aggregate (s.listQuestions attempt.quizId) (s.listAnswers attempt.id) quiz.passingScore =
      .ok score ∧ attempt.HasScore score

/-- Every submitted attempt bears the score of its answers. -/
def AllScored (s : Store) : Prop :=
  ∀ id attempt, s.findAttempt id = some attempt → attempt.status.isGradeable = true →
    s.IsScored attempt

/-- The score depends on nothing but the catalog and the answers of the attempt. -/
theorem IsScored.of_same {attempt : Attempt} (h : s.IsScored attempt) (hcat : s.SameCatalog t)
    (hans : t.listAnswers attempt.id = s.listAnswers attempt.id) : t.IsScored attempt := by
  obtain ⟨quiz, score, hquiz, hscore, hrow⟩ := h
  refine ⟨quiz, score, (hcat.findQuiz_eq _).trans hquiz, ?_, hrow⟩
  rw [hcat.listQuestions_eq, hans]
  exact hscore

theorem Writes.isScored_of_submit {id : Uuid} {attempt : Attempt} (hw : s.Writes (.submit id) t)
    (h : s.Sound) (ha : t.findAttempt id = some attempt) : t.IsScored attempt := by
  cases hw with
  | @submit _ _ before _ quiz score isOpen ofQuiz _ isScore isNext =>
    obtain ⟨hbefore, -, -⟩ := openAttempt_eq_ok_iff.1 isOpen
    obtain ⟨-, rfl⟩ := Attempt.submitted_eq_ok_iff.1 isNext
    obtain rfl := h.id_of_findAttempt hbefore
    obtain rfl := Option.some.inj ((findAttempt_putAttempt_self _ _).symm.trans ha)
    exact ⟨quiz, score, ofQuiz, isScore, Attempt.hasScore_withScore _ score⟩

theorem Writes.isScored_of_grade {id answerId : Uuid} {attempt : Attempt}
    (hw : s.Writes (.grade id answerId) t) (h : s.Sound) (ha : t.findAttempt id = some attempt) :
    t.IsScored attempt := by
  obtain ⟨ctx, before, quiz, score, row, hbefore, _, hquiz, _, _, hscore, hnext⟩ := hw.grade_spec h
  obtain rfl := Option.some.inj (hnext.symm.trans ha)
  obtain rfl := h.id_of_findAttempt hbefore
  refine ⟨quiz, score, (hw.sameCatalog.findQuiz_eq _).trans hquiz, ?_,
    Attempt.hasScore_withScore _ score⟩
  rw [hw.sameCatalog.listQuestions_eq]
  exact hscore

/-- Every write leaves the submitted attempts with the scores of their answers. -/
theorem Writes.allScored {w : Write} (hw : s.Writes w t) (h : s.Sound) (hall : s.AllScored) :
    t.AllScored := by
  intro id attempt ha hg
  rcases hw.of_isGradeable_after h ha hg with hne | rfl | ⟨answerId, rfl⟩
  · have hsame := hw.sameAttempt h hne
    have hid := (hw.sound h).id_of_findAttempt ha
    refine (hall id attempt (hsame.findAttempt_eq ▸ ha) hg).of_same hw.sameCatalog ?_
    rw [hid]
    exact hsame.listAnswers_eq
  · exact hw.isScored_of_submit h ha
  · exact hw.isScored_of_grade h ha

end Store

namespace Engine

variable {e : Engine}

theorem Reachable.allScored (h : e.Reachable) : e.store.AllScored :=
  h.keeps (fun _ hs id attempt ha => by simp [hs.findAttempt_eq] at ha) fun hs hw => hw.allScored hs

/-- In every reachable state a submitted attempt has the score of the answers stored, and it
is graded when every answer that a person grades has points. -/
theorem Reachable.score_eq_aggregate (h : e.Reachable) {attempt : Attempt}
    (hmem : attempt ∈ e.store.attempts.values)
    (hstatus : attempt.status = .submitted ∨ attempt.status = .graded) :
    ∃ quiz score, e.store.findQuiz attempt.quizId = some quiz ∧
      Score.aggregate (e.store.listQuestions attempt.quizId) (e.store.listAnswers attempt.id)
        quiz.passingScore = .ok score ∧
      attempt.totalPoints = some score.totalPoints ∧
      attempt.earnedPoints = some score.earnedPoints ∧
      attempt.percentage = some score.percentage ∧
      attempt.isPassed = some score.passed ∧
      (attempt.status = .graded ↔
        ∀ answer ∈ e.store.answers.values, answer.attemptId = attempt.id →
          ∀ question ∈ e.store.questions.values, question.id = answer.questionId →
            question.quizId = attempt.quizId → question.type.isSubjective = true →
              answer.pointsEarned ≠ none) := by
  have hs := h.sound
  have ha := (hs.mem_attempts_iff attempt).1 hmem
  have hg : attempt.status.isGradeable = true := AttemptStatus.isGradeable_iff.2 hstatus
  obtain ⟨quiz, score, hquiz, hscore, hrow⟩ := h.allScored _ attempt ha hg
  refine ⟨quiz, score, hquiz, hscore, hrow.totalPoints, hrow.earnedPoints, hrow.percentage,
    hrow.isPassed, ?_⟩
  rw [hrow.status, Score.status_eq_graded_iff_of_aggregate hscore]
  constructor
  · intro hall answer hanswer hatt question hquestion hid hqq hsub
    refine hall answer ((hs.mem_listAnswers _ _).2 ⟨(hs.mem_answers_iff _).1 hanswer, hatt⟩) question
      ((hs.questionOf?_listQuestions _ _ _).2 ⟨?_, hqq⟩) hsub
    rw [← hid]
    exact (hs.mem_questions_iff _).1 hquestion
  · intro hall answer hanswer question hq hsub
    obtain ⟨hstored, hatt⟩ := (hs.mem_listAnswers _ _).1 hanswer
    obtain ⟨hfq, hqq⟩ := (hs.questionOf?_listQuestions _ _ _).1 hq
    have hid := hs.id_of_findQuestion hfq
    refine hall answer ((hs.mem_answers_iff _).2 hstored) hatt question
      ((hs.mem_questions_iff _).2 (hid.symm ▸ hfq)) hid hqq hsub

/-- The essay of the sample run has no points yet, and its attempt is submitted with the score
of the choice. -/
theorem score_eq_aggregate_submitted :
    Sample.closed ∈ Sample.submitted.store.attempts.values ∧
      ∃ quiz score, Sample.submitted.store.findQuiz 1 = some quiz ∧
        Score.aggregate (Sample.submitted.store.listQuestions 1)
          (Sample.submitted.store.listAnswers (Sample.uuid 1)) quiz.passingScore = .ok score ∧
        Sample.closed.earnedPoints = some score.earnedPoints ∧ Sample.closed.status ≠ .graded := by
  have hmem : Sample.closed ∈ Sample.submitted.store.attempts.values :=
    (Sample.reachable_submitted.sound.mem_attempts_iff _).2 Sample.findAttempt_submitted
  obtain ⟨quiz, score, hquiz, hscore, -, hearned, -⟩ :=
    Sample.reachable_submitted.score_eq_aggregate hmem (Or.inl rfl)
  exact ⟨hmem, quiz, score, hquiz, hscore, hearned, by decide⟩

end Engine

end QuizEngine
