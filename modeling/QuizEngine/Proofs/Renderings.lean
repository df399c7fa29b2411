import QuizEngine.Proofs.Figures

/-!
# Results and reviews of one attempt

A closed attempt is shown to its student in three ways: as the result that comes with the
submission, as the result that is read afterwards, and as a review. The first renders the
answers as the submission has left them in memory, the others read them again. All three render
the same snapshot (`Store.Shows.result_eq`, `Store.Shows.review_eq`), because what a
submission has in memory is what it has stored (`Store.Keyed.submitAttempt_result`).

So a result that is read right after the submission is the one that came with it, and a result
and a review say the same of each question in the same order (`Reachable.renderings_agree`).
-/

namespace QuizEngine

/-- What a result and a review both say of a question. -/
structure QuestionResult.AgreesWith (shown : QuestionResult) (item : ReviewItem) : Prop where
  questionId : shown.questionId = item.questionId
  type : shown.type = item.type
  maxPoints : shown.maxPoints = item.maxPoints
  pointsEarned : shown.pointsEarned = item.pointsEarned
  isCorrect : shown.isCorrect = item.isCorrect
  correctAnswers : shown.correctAnswers = item.correctAnswers
  feedback : shown.feedback = item.feedback
  answered : shown.answered = item.answer.isSome

theorem QuestionResult.agreesWith_of (quiz : Quiz) (question : Question) (answer : Option Answer) :
    (QuestionResult.of question answer quiz.showCorrectAnswers quiz.showFeedback).AgreesWith
      (.of quiz question answer) where
  questionId := rfl
  type := rfl
  maxPoints := rfl
  pointsEarned := rfl
  isCorrect := rfl
  correctAnswers := rfl
  feedback := rfl
  answered := (Option.isSome_map ..).symm

/-- What a result says when the points can be added up. -/
theorem AttemptResult.of_score {snapshot : Snapshot} {score : Score}
    (hscore : snapshot.score = .ok score) (attempt : Attempt) (showKey showFeedback : Bool) :
    AttemptResult.of attempt snapshot showKey showFeedback = .ok
      { attempt := attempt
        provisional := score.provisional
        pendingGrading := score.pendingCount
        questions := snapshot.questions.map fun q =>
          .of q (snapshot.answerFor q.id) showKey showFeedback } := by
  rw [AttemptResult.of, hscore]
  rfl

/-- Before another question in the order of a quiz. -/
def Question.Precedes (p q : Question) : Prop :=
  p.orderIndex < q.orderIndex ∨ p.orderIndex = q.orderIndex ∧ p.id < q.id

namespace Store

variable {s : Store} {caller : Caller} {attempt : Attempt} {quiz : Quiz} {ctx : Context}

/-- The questions of a quiz come in its order. -/
theorem Keyed.pairwise_listQuestions (h : s.Keyed) (quizId : Int) :
    (s.listQuestions quizId).Pairwise Question.Precedes := by
  have hsorted : (s.listQuestions quizId).Pairwise fun p q =>
      p.orderIndex < q.orderIndex ∨ p.orderIndex = q.orderIndex ∧ p.id ≤ q.id := by
    refine (List.pairwise_mergeSort (fun a b c hab hbc => ?_) (fun a b => ?_) _).imp
      fun {a b} hab => of_decide_eq_true hab
    · simp only [decide_eq_true_eq] at *
      omega
    · simp only [Bool.or_eq_true, decide_eq_true_eq]
      omega
  refine (hsorted.and (List.pairwise_map.1 (h.nodup_listQuestions quizId))).imp ?_
  rintro a b ⟨hlt | ⟨heq, hle⟩, hne⟩
  · exact Or.inl hlt
  · exact Or.inr ⟨heq, lt_of_le_of_ne hle hne⟩

/-! ## What is shown -/

/-- A closed attempt of the caller at a quiz that releases its results. -/
structure Shows (s : Store) (caller : Caller) (attempt : Attempt) (quiz : Quiz) : Prop where
  found : s.findAttempt attempt.id = some attempt
  isOwn : attempt.studentId = caller.userId
  isClosed : attempt.status ≠ .inProgress
  hasQuiz : s.findQuiz attempt.quizId = some quiz
  isReleased : quiz.showResultsImmediately = true

/-- The attempt with its quiz, its questions and its answers. -/
def snapshotFor (s : Store) (attempt : Attempt) (quiz : Quiz) : Snapshot :=
  ⟨quiz, s.listQuestions attempt.quizId, s.listAnswers attempt.id⟩

namespace Shows

/-- The result renders what is stored, with the key and the feedback where the quiz shows them. -/
theorem result_eq (h : s.Shows caller attempt quiz) (hcaller : caller.isPrivileged = false) :
    s.result caller attempt.id = orOverflow (AttemptResult.of attempt (s.snapshotFor attempt quiz)
      quiz.showCorrectAnswers quiz.showFeedback) := by
  have hreq : s.requireAttempt attempt.id = .ok attempt := requireAttempt_eq_ok_iff.2 h.found
  have hload : Snapshot.load s attempt = .ok (s.snapshotFor attempt quiz) :=
    Snapshot.load_eq_ok_iff.2 ⟨quiz, h.hasQuiz, rfl⟩
  simp [result, hreq, hload, bind, Except.bind, h.isOwn, h.isClosed, hcaller, snapshotFor,
    h.isReleased]

/-- The review renders the same. -/
theorem review_eq (h : s.Shows caller attempt quiz) (hreview : quiz.allowReview = true) :
    s.review caller attempt.id = (orOverflow (s.snapshotFor attempt quiz).score).map fun score =>
      { attempt := attempt
        provisional := score.provisional
        items := (s.listQuestions attempt.quizId).map fun q =>
          .of quiz q ((s.snapshotFor attempt quiz).answerFor q.id) } := by
  have hreq : s.requireAttempt attempt.id = .ok attempt := requireAttempt_eq_ok_iff.2 h.found
  have hload : Snapshot.load s attempt = .ok (s.snapshotFor attempt quiz) :=
    Snapshot.load_eq_ok_iff.2 ⟨quiz, h.hasQuiz, rfl⟩
  simp only [review, hreq, hload, bind, Except.bind, h.isOwn, h.isClosed, orRefused_ok, ne_eq,
    not_true_eq_false, if_false]
  simp only [snapshotFor, hreview]
  cases orOverflow (Snapshot.score _) <;> rfl

end Shows

/-- Whoever reads a result and a review without being an administrator reads of a closed attempt
of their own. -/
theorem exists_shows (hcaller : caller.isPrivileged = false) {id : Uuid} {result : AttemptResult}
    {review : AttemptReview} (h : s.Keyed) (hresult : s.result caller id = .ok result)
    (hreview : s.review caller id = .ok review) :
    ∃ attempt quiz, attempt.id = id ∧ s.Shows caller attempt quiz ∧ quiz.allowReview = true := by
  simp only [Store.result, Store.review, bind_eq_ok_iff, orRefused_eq_ok_iff,
    requireAttempt_eq_ok_iff, ite_error_eq_ok_iff, Snapshot.load_eq_ok_iff] at hresult hreview
  obtain ⟨attempt, ha, hown, hclosed, _, ⟨quiz, hquiz, rfl⟩, hreleased, -⟩ := hresult
  obtain ⟨_, ha', -, -, _, ⟨_, hquiz', rfl⟩, hallowed, -⟩ := hreview
  obtain rfl := Option.some.inj (ha.symm.trans ha')
  obtain rfl := Option.some.inj (hquiz.symm.trans hquiz')
  obtain rfl := h.id_of_findAttempt ha
  exact ⟨attempt, quiz, rfl, ⟨ha, by simpa [hcaller] using hown, hclosed, hquiz,
    by simpa [hcaller] using hreleased⟩, by simpa using hallowed⟩

/-! ## After a submission -/

/-- The result of a submission is the one that is read right after it. -/
theorem Keyed.result_after_submit (h : s.Keyed) {id : Uuid} {result : AttemptResult} {t : Store}
    (hok : s.submitAttempt ctx id = (.ok result, t)) (hcaller : ctx.caller.isPrivileged = false)
    (hquiz : s.findQuiz result.attempt.quizId = some quiz)
    (hreleased : quiz.showResultsImmediately = true) : t.result ctx.caller id = .ok result := by
  obtain ⟨attempt, found, score, u, hopen, hfound, hw, -, -, rfl, hresult⟩ :=
    h.submitAttempt_result hok
  obtain ⟨ha, hown, -⟩ := openAttempt_eq_ok_iff.1 hopen
  obtain rfl := h.id_of_findAttempt ha
  rw [attempt_of_result hresult] at hquiz
  obtain rfl := Option.some.inj (hfound.symm.trans hquiz)
  have hcat := hw.sameCatalog
  have hshows : (u.putAttempt (nextVersion (attempt.submittedWith found score ctx.now))).Shows
      ctx.caller (nextVersion (attempt.submittedWith found score ctx.now)) found :=
    { found := findAttempt_putAttempt_self _ _
      isOwn := hown
      isClosed := score.status_ne_inProgress
      hasQuiz := (hcat.findQuiz_eq _).trans hfound
      isReleased := hreleased }
  have hread := hshows.result_eq hcaller
  have hsame : (u.putAttempt (nextVersion (attempt.submittedWith found score ctx.now))).snapshotFor
      (nextVersion (attempt.submittedWith found score ctx.now)) found =
        ⟨found, s.listQuestions attempt.quizId, u.listAnswers attempt.id⟩ := by
    rw [← hcat.listQuestions_eq]
    rfl
  rw [hsame, hresult] at hread
  exact hread

/-! ## A result and a review -/

/-- What a result and a review of an attempt have in common. -/
structure RenderAlike (s : Store) (attempt : Attempt) (result : AttemptResult)
    (review : AttemptReview) : Prop where
  /-- Both show the attempt as it is stored. -/
  sameAttempt : result.attempt = attempt ∧ review.attempt = attempt
  /-- Both are provisional, or neither is. -/
  provisional : result.provisional = review.provisional
  /-- They list the same questions in the same order and say the same of each. -/
  agree : List.Forall₂ QuestionResult.AgreesWith result.questions review.items
  /-- The order is that of the quiz. -/
  inOrder : ∃ questions : List Question, questions.Pairwise Question.Precedes ∧
    (∀ q, q ∈ questions ↔ q ∈ s.questions.values ∧ q.quizId = attempt.quizId) ∧
    result.questions.map (·.questionId) = questions.map (·.id)

/-- A closed attempt has a result and a review that go together, unless the points of its answers
cannot be added up; then it has neither. -/
theorem Shows.renderings (hs : s.Shows caller attempt quiz) (h : s.Keyed)
    (hcaller : caller.isPrivileged = false) (hreview : quiz.allowReview = true) :
    (∃ cause, (s.snapshotFor attempt quiz).score = .error cause ∧
      s.result caller attempt.id = .error (.overflowed cause) ∧
      s.review caller attempt.id = .error (.overflowed cause)) ∨
    ∃ result review, s.result caller attempt.id = .ok result ∧
      s.review caller attempt.id = .ok review ∧ s.RenderAlike attempt result review := by
  rw [hs.result_eq hcaller, hs.review_eq hreview]
  cases hscore : (s.snapshotFor attempt quiz).score with
  | error cause =>
    refine Or.inl ⟨cause, rfl, ?_, rfl⟩
    simp [AttemptResult.of, hscore, bind, Except.bind]
  | ok score =>
    refine Or.inr ⟨_, _, congrArg orOverflow (AttemptResult.of_score hscore _ _ _), rfl, ?_⟩
    refine ⟨⟨rfl, rfl⟩, rfl, ?_, s.listQuestions attempt.quizId, h.pairwise_listQuestions _,
      fun q => ?_, ?_⟩
    · rw [List.forall₂_map_left_iff, List.forall₂_map_right_iff]
      exact List.forall₂_same.2 fun q _ => QuestionResult.agreesWith_of quiz q _
    · rw [h.mem_listQuestions, h.mem_questions_iff]
    · rw [List.map_map]
      rfl

end Store

namespace Engine

variable {e e' : Engine}

theorem submit_eq_ok_of_perform {ctx : Context} {id : Uuid} {result : AttemptResult}
    (h : e.perform ctx (.submit id) = (.ok (.result result), e')) :
    e.store.submitAttempt ctx id = (.ok result, e'.store) := by
  cases hok : e.store.submitAttempt ctx id with
  | mk outcome t =>
    cases outcome with
    | error cause => simp [perform, submit, hok, Except.map] at h
    | ok shown =>
      simp only [perform, submit, hok, Except.map, Prod.mk.injEq, Except.ok.injEq,
        Reply.result.injEq] at h
      obtain ⟨rfl, rfl⟩ := h
      rfl

/-- In every reachable state, for everybody but administrators: a submission at a quiz that
releases its results comes with the result that is read right after it. A closed attempt of a
quiz that releases its results and may be reviewed has a result and a review, and they go
together; only where it was abandoned it may be that its points cannot be added up, and then it
has neither. No other attempts have both. -/
theorem Reachable.renderings_agree (h : e.Reachable) {caller : Caller}
    (hcaller : caller.isPrivileged = false) :
    (∀ ctx id result e' quiz, ctx.caller = caller →
      e.perform ctx (.submit id) = (.ok (.result result), e') →
      e.store.findQuiz result.attempt.quizId = some quiz → quiz.showResultsImmediately = true →
      ∀ ctx', ctx'.caller = caller →
        e'.perform ctx' (.result id) = (.ok (.result result), e')) ∧
    (∀ attempt quiz, e.store.Shows caller attempt quiz → quiz.allowReview = true →
      ∀ ctx, ctx.caller = caller →
        (∃ result review, e.perform ctx (.result attempt.id) = (.ok (.result result), e) ∧
          e.perform ctx (.review attempt.id) = (.ok (.review review), e) ∧
          e.store.RenderAlike attempt result review) ∨
        ∃ cause, attempt.status = .abandoned ∧
          e.perform ctx (.result attempt.id) = (.error (.overflowed cause), e) ∧
          e.perform ctx (.review attempt.id) = (.error (.overflowed cause), e)) ∧
    (∀ ctx id result review, ctx.caller = caller →
      (e.perform ctx (.result id)).1 = .ok (.result result) →
      (e.perform ctx (.review id)).1 = .ok (.review review) →
      ∃ attempt quiz, attempt.id = id ∧ e.store.Shows caller attempt quiz ∧
        quiz.allowReview = true ∧ e.store.RenderAlike attempt result review) := by
  have hs := h.sound
  refine ⟨?_, ?_, ?_⟩
  · rintro ctx id result e' quiz rfl hperform hquiz hreleased ctx' hctx'
    have hread := hs.toKeyed.result_after_submit (submit_eq_ok_of_perform hperform) hcaller hquiz
      hreleased
    rw [perform, ofRead, hctx', hread]
    rfl
  · rintro attempt quiz hshows hreview ctx rfl
    rcases hshows.renderings hs.toKeyed hcaller hreview with
      ⟨cause, hscore, hresult, hreview⟩ | ⟨result, review, hresult, hreview, halike⟩
    · refine Or.inr ⟨cause, ?_, by rw [perform, ofRead, hresult]; rfl,
        by rw [perform, ofRead, hreview]; rfl⟩
      -- a submitted or graded attempt has a score already
      cases hst : attempt.status with
      | inProgress => exact absurd hst hshows.isClosed
      | abandoned => rfl
      | _ =>
        obtain ⟨found, score, hfound, hadded, -⟩ :=
          h.allScored attempt.id attempt hshows.found (by rw [hst]; rfl)
        obtain rfl := Option.some.inj (hshows.hasQuiz.symm.trans hfound)
        rw [Store.snapshotFor, Snapshot.score, hadded] at hscore
        cases hscore
    · exact Or.inl ⟨result, review, by rw [perform, ofRead, hresult]; rfl,
        by rw [perform, ofRead, hreview]; rfl, halike⟩
  · rintro ctx id result review rfl hresult hreview
    have hresult' : e.store.result ctx.caller id = .ok result := by
      simpa [perform, ofRead_eq_ok_iff] using hresult
    have hreview' : e.store.review ctx.caller id = .ok review := by
      simpa [perform, ofRead_eq_ok_iff] using hreview
    obtain ⟨attempt, quiz, rfl, hshows, hallowed⟩ :=
      Store.exists_shows hcaller hs.toKeyed hresult' hreview'
    refine ⟨attempt, quiz, rfl, hshows, hallowed, ?_⟩
    rcases hshows.renderings hs.toKeyed hcaller hallowed with
      ⟨cause, -, hnone, -⟩ | ⟨shown, reviewed, hshown, hreviewed, halike⟩
    · rw [hnone] at hresult'
      cases hresult'
    · obtain rfl := Except.ok.inj (hresult'.symm.trans hshown)
      obtain rfl := Except.ok.inj (hreview'.symm.trans hreviewed)
      exact halike

end Engine

namespace Sample

theorem shows_submitted : submitted.store.Shows (student 5).caller closed quiz where
  found := findAttempt_submitted
  isOwn := rfl
  isClosed := by decide
  hasQuiz := by
    rw [store_submitted]
    decide +kernel
  isReleased := rfl

end Sample

/-- The student of the sample run submits, reads the same result again, and reviews the two
questions. -/
theorem Engine.renderings_agree_submitted : ∃ result review,
    Sample.answered.perform (Sample.student 4) (.submit (Sample.uuid 1)) =
      (.ok (.result result), Sample.submitted) ∧
    Sample.submitted.perform (Sample.student 5) (.result (Sample.uuid 1)) =
      (.ok (.result result), Sample.submitted) ∧
    Sample.submitted.perform (Sample.student 5) (.review (Sample.uuid 1)) =
      (.ok (.review review), Sample.submitted) ∧
    Sample.submitted.store.RenderAlike Sample.closed result review := by
  have hcaller : (Sample.student 5).caller.isPrivileged = false := rfl
  obtain ⟨result, hsubmit⟩ := Sample.exists_result_submitted
  have hquiz : Sample.answered.store.findQuiz result.attempt.quizId = some Sample.quiz := by
    obtain ⟨attempt, quiz, score, hopen, hattempt⟩ :=
      Store.submitAttempt_attempt (submit_eq_ok_of_perform hsubmit)
    obtain rfl := Except.ok.inj (Sample.openAttempt_answered.symm.trans hopen)
    have hstored : Sample.answered.store.findQuiz Sample.attempt.quizId = some Sample.quiz := by
      decide +kernel
    rw [hattempt]
    exact hstored
  have hread := (Sample.reachable_answered.renderings_agree hcaller).1 (Sample.student 4) _ result _
    Sample.quiz rfl hsubmit hquiz rfl (Sample.student 5) rfl
  refine ⟨result, ?_⟩
  rcases (Sample.reachable_submitted.renderings_agree hcaller).2.1 Sample.closed Sample.quiz
      Sample.shows_submitted rfl (Sample.student 5) rfl with
    ⟨shown, review, hshown, hreview, halike⟩ | ⟨_, habandoned, -⟩
  · obtain rfl := Reply.result.inj
      (Except.ok.inj (congrArg Prod.fst (hread.symm.trans hshown)))
    exact ⟨review, hsubmit, hread, hreview, halike⟩
  · exact absurd habandoned (by decide)

end QuizEngine
