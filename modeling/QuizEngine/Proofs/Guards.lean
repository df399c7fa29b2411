import QuizEngine.Lifecycle
import QuizEngine.ManualGrading
import Mathlib.Data.List.Forall2

/-!
# What the checks of a call establish

Every call first reads and checks. Here each check that succeeds is said in terms of the
rows it has read: `openAttempt_eq_ok_iff` and `recordable_eq_ok_iff` for a student at work,
`abandonable_eq_ok_iff` for an attempt to be closed, `checkGrade_eq_ok_iff` for a grade.
`Attempt.submitted_eq_ok_iff` and `Attempt.regraded_eq_ok_iff` say which row an attempt
becomes.
-/

namespace QuizEngine

/-! ## Results one after the other -/

theorem bind_eq_ok_iff {x : Except ε α} {f : α → Except ε β} {b : β} :
    (x >>= f) = .ok b ↔ ∃ a, x = .ok a ∧ f a = .ok b := by
  cases x <;> simp [bind, Except.bind]

theorem orRefused_eq_ok_iff {x : Except Error α} {a : α} : orRefused x = .ok a ↔ x = .ok a := by
  cases x <;> simp

theorem orOverflow_eq_ok_iff {x : Except Overflow α} {a : α} : orOverflow x = .ok a ↔ x = .ok a := by
  cases x <;> simp

theorem ite_error_eq_ok_iff {c : Prop} [Decidable c] {e : ε} {x : Except ε α} {a : α} :
    (if c then .error e else x) = .ok a ↔ ¬c ∧ x = .ok a := by
  split <;> simp_all

theorem mapError_eq_ok_iff {f : ε → ε'} {x : Except ε α} {a : α} :
    x.mapError f = .ok a ↔ x = .ok a := by
  cases x <;> simp [Except.mapError]

/-- What is computed of every element of a list, one after the other. -/
theorem mapM_eq_ok_iff {f : α → Except ε β} {xs : List α} {ys : List β} :
    xs.mapM f = .ok ys ↔ List.Forall₂ (fun x y => f x = .ok y) xs ys := by
  induction xs generalizing ys with
  | nil => simp [pure, Except.pure, eq_comm]
  | cons x rest ih =>
    simp only [List.mapM_cons, bind_eq_ok_iff, pure, Except.pure, Except.ok.injEq,
      List.forall₂_cons_left_iff, ih]
    exact ⟨fun ⟨y, hy, others, hothers, heq⟩ => ⟨y, others, hy, hothers, heq.symm⟩,
      fun ⟨y, others, hy, hothers, heq⟩ => ⟨y, hy, others, hothers, heq.symm⟩⟩

theorem exists_mapM_eq_ok {f : α → Except ε β} {xs : List α} (h : ∀ x ∈ xs, ∃ y, f x = .ok y) :
    ∃ ys, xs.mapM f = .ok ys := by
  induction xs with
  | nil => exact ⟨[], rfl⟩
  | cons x rest ih =>
    rw [List.forall_mem_cons] at h
    obtain ⟨y, hy⟩ := h.1
    obtain ⟨ys, hys⟩ := ih h.2
    exact ⟨y :: ys, mapM_eq_ok_iff.2 (.cons hy (mapM_eq_ok_iff.1 hys))⟩

/-- What a check refuses that comes after another one is refused by the first or by the
second. -/
theorem bind_eq_error_iff {x : Except ε α} {f : α → Except ε β} {cause : ε} :
    (x >>= f) = .error cause ↔ x = .error cause ∨ ∃ a, x = .ok a ∧ f a = .error cause := by
  cases x <;> simp [bind, Except.bind]

theorem ite_error_eq_error_iff {c : Prop} [Decidable c] {e cause : ε} {x : Except ε α} :
    (if c then .error e else x) = .error cause ↔ c ∧ e = cause ∨ ¬c ∧ x = .error cause := by
  split <;> simp_all

namespace Store

variable {s : Store}

/-! ## Rows that have to be there -/

theorem requireQuiz_eq_ok_iff {id : Int} {quiz : Quiz} :
    s.requireQuiz id = .ok quiz ↔ s.findQuiz id = some quiz := by
  unfold requireQuiz
  split <;> simp_all

theorem requireQuestion_eq_ok_iff {id : Int} {q : Question} :
    s.requireQuestion id = .ok q ↔ s.findQuestion id = some q := by
  unfold requireQuestion
  split <;> simp_all

theorem requireAttempt_eq_ok_iff {id : Uuid} {a : Attempt} :
    s.requireAttempt id = .ok a ↔ s.findAttempt id = some a := by
  unfold requireAttempt
  split <;> simp_all

theorem requireAnswer_eq_ok_iff {id : Uuid} {a : Answer} :
    s.requireAnswer id = .ok a ↔ s.findAnswer id = some a := by
  unfold requireAnswer
  split <;> simp_all

end Store

/-- What the store has of an attempt is its quiz with the questions, and its answers. -/
theorem Snapshot.load_eq_ok_iff {s : Store} {attempt : Attempt} {snapshot : Snapshot} :
    Snapshot.load s attempt = .ok snapshot ↔ ∃ quiz, s.findQuiz attempt.quizId = some quiz ∧
      snapshot = ⟨quiz, s.listQuestions attempt.quizId, s.listAnswers attempt.id⟩ := by
  simp only [Snapshot.load, bind_eq_ok_iff, Store.requireQuiz_eq_ok_iff, pure, Except.pure,
    Except.ok.injEq]
  exact exists_congr fun quiz => and_congr_right fun _ => eq_comm

/-! ## Moving an attempt -/

theorem Attempt.moved_eq_ok_iff {attempt next : Attempt} {status : AttemptStatus} :
    attempt.moved status = .ok next ↔
      attempt.status.canBecome status = true ∧ next = { attempt with status := status } := by
  unfold Attempt.moved
  split
  · rename_i h
    simp only [h, Except.ok.injEq, true_and]
    exact eq_comm
  · simp_all

/-- The attempt with the columns of a score. -/
def Attempt.withScore (attempt : Attempt) (score : Score) : Attempt :=
  { attempt with
    status := score.status
    totalPoints := some score.totalPoints
    earnedPoints := some score.earnedPoints
    percentage := some score.percentage
    isPassed := some score.passed }

/-- An attempt takes a score where it can move to the status of the score. -/
theorem Attempt.scored_eq (attempt : Attempt) (score : Score) :
    attempt.scored score =
      if attempt.status.canBecome score.status then .ok (attempt.withScore score)
      else .error (attempt.moveRefusal score.status) := by
  unfold scored moved
  split <;> rfl

theorem Attempt.scored_eq_ok_iff {attempt next : Attempt} {score : Score} :
    attempt.scored score = .ok next ↔
      attempt.status.canBecome score.status = true ∧ next = attempt.withScore score := by
  simp only [Attempt.scored, bind_eq_ok_iff, Attempt.moved_eq_ok_iff, pure, Except.pure,
    Except.ok.injEq]
  constructor
  · rintro ⟨moved, ⟨hmove, rfl⟩, rfl⟩
    exact ⟨hmove, rfl⟩
  · rintro ⟨hmove, rfl⟩
    exact ⟨_, ⟨hmove, rfl⟩, rfl⟩

/-- The attempt as it is submitted with a score. -/
def Attempt.submittedWith (attempt : Attempt) (quiz : Quiz) (score : Score) (now : Instant) : Attempt :=
  { attempt with
    autoGradedAt := if quiz.autoGrade then some now else attempt.autoGradedAt
    submittedAt := some now
    timeSpentSeconds := some (storedSeconds (attempt.elapsedSeconds now))
    updatedAt := now : Attempt }.withScore score

theorem Attempt.submitted_eq_ok_iff {attempt next : Attempt} {quiz : Quiz} {score : Score}
    {now : Instant} :
    attempt.submitted quiz score now = .ok next ↔
      attempt.status.canBecome score.status = true ∧ next = attempt.submittedWith quiz score now :=
  Attempt.scored_eq_ok_iff

/-- The attempt as it is written with a grade: it has a score, and keeps who graded it
first. -/
def Attempt.regradedWith (attempt : Attempt) (score : Score) (ctx : Context) : Attempt :=
  { attempt with
    manuallyGradedAt := some (attempt.manuallyGradedAt.getD ctx.now)
    gradedBy := some (attempt.gradedBy.getD ctx.caller.userId)
    updatedAt := ctx.now : Attempt }.withScore score

theorem Attempt.regraded_eq_ok_iff {attempt next : Attempt} {snapshot : Snapshot} {answer : Answer}
    {ctx : Context} :
    attempt.regraded snapshot answer ctx = .ok next ↔
      ∃ score, (snapshot.withAnswer answer).score = .ok score ∧
        attempt.status.canBecome score.status = true ∧ next = attempt.regradedWith score ctx := by
  simp only [Attempt.regraded, bind_eq_ok_iff, orOverflow_eq_ok_iff, orRefused_eq_ok_iff,
    Attempt.scored_eq_ok_iff, Attempt.regradedWith]

/-- The attempt as it is abandoned. -/
def Attempt.abandonedAt (attempt : Attempt) (now : Instant) : Attempt :=
  { attempt with
    status := .abandoned
    timeSpentSeconds := some (storedSeconds (attempt.elapsedSeconds now))
    updatedAt := now }

/-! ## Starting -/

theorem nextAttempt_of_inProgress {quiz : Quiz} {current : Attempt} {used : Nat}
    (h : current.status = .inProgress) :
    nextAttempt quiz (some current) used = .ok (.resume current) := by
  simp [nextAttempt, Option.filter, h]

/-- A new attempt is begun when the latest is closed and the limit is not reached. -/
theorem nextAttempt_eq_create_iff {quiz : Quiz} {latest : Option Attempt} {used : Nat} {number : Int} :
    nextAttempt quiz latest used = .ok (.create number) ↔
      (∀ a, latest = some a → a.status ≠ .inProgress) ∧
      (∀ max, quiz.maxAttempts = some max → (used : Int) < max) ∧
      number = (latest.map fun a => numberAfter a.attemptNumber).getD 1 := by
  have hlatest : latest.filter (·.status == .inProgress) = none ↔
      ∀ a, latest = some a → a.status ≠ .inProgress := by
    simp [Option.filter_eq_none_iff]
  have hmax : quiz.maxAttempts.filter (· ≤ (used : Int)) = none ↔
      ∀ max, quiz.maxAttempts = some max → (used : Int) < max := by
    simp [Option.filter_eq_none_iff]
  rw [← hlatest, ← hmax]
  unfold nextAttempt
  split
  · rename_i current hc
    simp [hc]
  · rename_i hc
    split
    · rename_i max hm
      simp [hm]
    · rename_i hm
      simp [hc, hm, eq_comm]

namespace Store

variable {s : Store}

/-! ## Students -/

/-- An attempt starts inside the window of a quiz that is published, or at any quiz of an
administrator. -/
theorem openQuiz_eq_ok_iff {ctx : Context} {quizId : Int} {quiz : Quiz} :
    s.openQuiz ctx quizId = .ok quiz ↔
      s.findQuiz quizId = some quiz ∧
        (quiz.isPublished = true ∨ ctx.caller.isPrivileged = true) ∧
        quiz.availabilityAt ctx.now = .isOpen := by
  simp only [openQuiz, bind_eq_ok_iff, requireQuiz_eq_ok_iff, ite_error_eq_ok_iff,
    Bool.not_eq_true', not_and, Bool.not_eq_false, pure, Except.pure]
  constructor
  · rintro ⟨found, hq, hpub, hopen⟩
    split at hopen
    · rename_i hav
      rw [← Except.ok.inj hopen]
      refine ⟨hq, ?_, hav⟩
      cases hp : found.isPublished with
      | true => exact Or.inl rfl
      | false => exact Or.inr (hpub hp)
    · cases hopen
    · cases hopen
  · rintro ⟨hq, hpub, hav⟩
    refine ⟨quiz, hq, fun hp => ?_, by rw [hav]⟩
    simpa [hp] using hpub

theorem openAttempt_eq_ok_iff {caller : Caller} {attemptId : Uuid} {attempt : Attempt} :
    s.openAttempt caller attemptId = .ok attempt ↔
      s.findAttempt attemptId = some attempt ∧ attempt.studentId = caller.userId ∧
        attempt.status = .inProgress := by
  simp only [openAttempt, bind_eq_ok_iff, requireAttempt_eq_ok_iff, ite_error_eq_ok_iff,
    Decidable.not_not, pure, Except.pure, Except.ok.injEq]
  constructor
  · rintro ⟨a, ha, hs, hp, rfl⟩
    exact ⟨ha, hs, hp⟩
  · rintro ⟨ha, hs, hp⟩
    exact ⟨attempt, ha, hs, hp, rfl⟩

/-- A question accepts what can be read as a payload of its type and passes its check. -/
theorem Question.accept_eq_ok_iff {q : Question} {raw : Json} {payload : Payload} :
    q.accept raw = .ok payload ↔
      Payload.parse q.type raw = .ok payload ∧ payload.check q = .ok () := by
  unfold Question.accept
  split
  · simp_all
  · rename_i p hp
    rw [hp, Except.ok.injEq]
    split
    · rename_i hc
      simp only [reduceCtorEq, false_iff, not_and]
      rintro rfl
      simp [hc]
    · rename_i hc
      rw [Except.ok.injEq, iff_self_and]
      rintro rfl
      exact hc

theorem ensureInTime_eq_ok_iff {quiz : Quiz} {attempt : Attempt} {now : Instant} {u : Unit} :
    quiz.ensureInTime attempt now = .ok u ↔
      quiz.timeLimitExceeded (attempt.elapsedSeconds now) = false := by
  unfold Quiz.ensureInTime
  split <;> simp_all

/-- An answer is recorded on an attempt of the caller that is in progress and in time, to a
question of its quiz that accepts the value. -/
theorem recordable_eq_ok_iff {ctx : Context} {attemptId : Uuid} {questionId : Int} {raw : Json}
    {quiz : Quiz} {q : Question} {payload : Payload} :
    s.recordable ctx attemptId questionId raw = .ok (quiz, q, payload) ↔
      ∃ attempt, s.findAttempt attemptId = some attempt ∧ attempt.studentId = ctx.caller.userId ∧
        attempt.status = .inProgress ∧ s.findQuiz attempt.quizId = some quiz ∧
        quiz.timeLimitExceeded (attempt.elapsedSeconds ctx.now) = false ∧
        s.findQuestion questionId = some q ∧ q.quizId = attempt.quizId ∧
        Payload.parse q.type raw = .ok payload ∧ payload.check q = .ok () := by
  simp only [recordable, bind_eq_ok_iff, openAttempt_eq_ok_iff, requireQuiz_eq_ok_iff,
    requireQuestion_eq_ok_iff, ensureInTime_eq_ok_iff, ite_error_eq_ok_iff, Decidable.not_not,
    Question.accept_eq_ok_iff, pure, Except.pure, Except.ok.injEq, Prod.mk.injEq]
  constructor
  · rintro ⟨attempt, ⟨ha, hs, hp⟩, _, hquiz, _, ht, _, hq, hqq, _, hacc, rfl, rfl, rfl⟩
    exact ⟨attempt, ha, hs, hp, hquiz, ht, hq, hqq, hacc⟩
  · rintro ⟨attempt, ha, hs, hp, hquiz, ht, hq, hqq, hacc⟩
    exact ⟨attempt, ⟨ha, hs, hp⟩, quiz, hquiz, (), ht, q, hq, hqq, payload, hacc, rfl, rfl, rfl⟩

/-! ## Closing without a score -/

/-- An attempt in progress is abandoned by whoever manages the quiz, or by its student when
the time is over. -/
theorem abandonable_eq_ok_iff {ctx : Context} {attemptId : Uuid} {next : Attempt} :
    s.abandonable ctx attemptId = .ok next ↔
      ∃ attempt quiz, s.findAttempt attemptId = some attempt ∧
        s.findQuiz attempt.quizId = some quiz ∧
        (s.ownsQuiz quiz.id ctx.caller = true ∨ attempt.studentId = ctx.caller.userId ∧
          quiz.timeLimitExceeded (attempt.elapsedSeconds ctx.now) = true) ∧
        attempt.status = .inProgress ∧ next = attempt.abandonedAt ctx.now := by
  simp only [abandonable, bind_eq_ok_iff, requireAttempt_eq_ok_iff, requireQuiz_eq_ok_iff,
    ite_error_eq_ok_iff, Attempt.moved_eq_ok_iff, pure, Except.pure, Except.ok.injEq,
    Bool.not_eq_true', not_and, Bool.not_eq_false, Decidable.not_not]
  constructor
  · rintro ⟨attempt, ha, quiz, hquiz, hown, htime, hp, _, ⟨_, rfl⟩, rfl⟩
    refine ⟨attempt, quiz, ha, hquiz, ?_, hp, rfl⟩
    cases ho : s.ownsQuiz quiz.id ctx.caller with
    | true => exact Or.inl rfl
    | false => exact Or.inr ⟨hown ho, htime ho⟩
  · rintro ⟨attempt, quiz, ha, hquiz, hown, hp, rfl⟩
    refine ⟨attempt, ha, quiz, hquiz, ?_, ?_, hp, _, ⟨by rw [hp]; rfl, rfl⟩, rfl⟩
    · intro ho
      simp only [ho, Bool.false_eq_true, false_or] at hown
      exact hown.1
    · intro ho
      simp only [ho, Bool.false_eq_true, false_or] at hown
      exact hown.2

/-! ## Graders -/

theorem checkPoints_eq_ok_iff {q : Question} {points : Decimal} {u : Unit} :
    q.checkPoints points = .ok u ↔ ¬points < .zero ∧ ¬q.points < points := by
  unfold Question.checkPoints
  split
  · simp_all
  · split <;> simp_all

/-- A grade is given by whoever manages the quiz, on a submitted attempt, within the points
of the question. -/
theorem checkGrade_eq_ok_iff {caller : Caller} {answerId : Uuid} {grade : Grade}
    {checked : CheckedGrade} :
    s.checkGrade caller answerId grade = .ok checked ↔
      ∃ attempt, s.findAnswer answerId = some checked.answer ∧
        s.findAttempt checked.answer.attemptId = some attempt ∧
        s.ownsQuiz attempt.quizId caller = true ∧ attempt.status.isGradeable = true ∧
        s.findQuestion checked.answer.questionId = some checked.question ∧
        ¬grade.points < .zero ∧ ¬checked.question.points < grade.points ∧
        checked.grade = grade := by
  simp only [checkGrade, bind_eq_ok_iff, requireAnswer_eq_ok_iff, requireAttempt_eq_ok_iff,
    requireQuestion_eq_ok_iff, ite_error_eq_ok_iff, checkPoints_eq_ok_iff, Bool.not_eq_true',
    Bool.not_eq_false, pure, Except.pure, Except.ok.injEq]
  constructor
  · rintro ⟨answer, hans, attempt, hatt, _, hown, hst, q, hq, _, ⟨h0, h1⟩, rfl⟩
    exact ⟨attempt, hans, hatt, (s.ensureOwner_eq_ok_iff _ _).1 hown, hst, hq, h0, h1, rfl⟩
  · rintro ⟨attempt, hans, hatt, hown, hst, hq, h0, h1, rfl⟩
    exact ⟨_, hans, attempt, hatt, (), (s.ensureOwner_eq_ok_iff _ _).2 hown, hst, _, hq, (),
      ⟨h0, h1⟩, rfl⟩

end Store

end QuizEngine
