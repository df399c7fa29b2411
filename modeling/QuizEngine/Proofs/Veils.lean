import QuizEngine.Engine
import QuizEngine.Proofs.Disclosure

/-!
# Outcomes

The outcome of an attempt is what a result is released for: the points and the verdicts on its
objective answers, with the key that decided them, and what they add up to. A row or a report is
`veiled` when its outcome is taken out and all else is left: whether there is a grade, the
status, the points to be had, and everything that people have graded. The key is taken out of a
report only where the quiz shows it (`showKey`). Elsewhere the fields for it are left as they are.

What is computed of an attempt is veiled in the same way whether or not the rows were veiled
before (`AttemptResult.veiled_of`, `ReviewItem.veiled_of`, `AttemptSummary.veiled_of`), up to
sums that overflow. So two computations are compared by what is left of their values
(`LooksSame`), and a computation that overflows (`Overflows`) is compared with nothing.
-/

namespace QuizEngine

/-! ## Rows without outcomes -/

/-- The question without its key, where a rule decides by it. -/
def Question.veiled (question : Question) : Question := question.shown question.type.isSubjective

/-- The answer without points and verdict, where a rule decides on them. That there is a grade
stays. -/
def Answer.veiled (answer : Answer) : Answer :=
  if answer.payload.type.isAutoGradable then
    { answer with
      pointsEarned := answer.pointsEarned.map fun _ => .zero
      isCorrect := answer.isCorrect.map fun _ => false }
  else answer

/-- The attempt without what its answers earned. -/
def Attempt.veiled (attempt : Attempt) : Attempt :=
  { attempt with
    earnedPoints := attempt.earnedPoints.map fun _ => .zero
    percentage := attempt.percentage.map fun _ => .zero
    isPassed := attempt.isPassed.map fun _ => false }

/-- The attempt, without what its answers earned when it is the one meant. -/
def Attempt.veiledFor (attemptId : Uuid) (attempt : Attempt) : Attempt :=
  if attempt.id = attemptId then attempt.veiled else attempt

/-- The score without what the answers earned. -/
def Score.veiled (score : Score) : Score :=
  { score with earnedPoints := .zero, percentage := .zero, passed := false }

namespace Question

variable (question : Question)

@[simp]
theorem id_veiled : question.veiled.id = question.id := question.id_shown _

@[simp]
theorem quizId_veiled : question.veiled.quizId = question.quizId := question.quizId_shown _

@[simp]
theorem type_veiled : question.veiled.type = question.type := question.type_shown _

@[simp]
theorem points_veiled : question.veiled.points = question.points := question.points_shown _

@[simp]
theorem orderIndex_veiled : question.veiled.orderIndex = question.orderIndex :=
  question.orderIndex_shown _

theorem veiled_of_subjective (h : question.type.isAutoGradable = false) :
    question.veiled = question := by
  simp [veiled, shown, QuestionType.isSubjective, h]

theorem veiled_of_objective (h : question.type.isAutoGradable = true) :
    question.veiled = question.withoutKey := by
  simp [veiled, shown, QuestionType.isSubjective, h]

end Question

namespace Answer

variable (answer : Answer)

@[simp]
theorem id_veiled : answer.veiled.id = answer.id := by
  unfold veiled
  split <;> rfl

@[simp]
theorem attemptId_veiled : answer.veiled.attemptId = answer.attemptId := by
  unfold veiled
  split <;> rfl

@[simp]
theorem questionId_veiled : answer.veiled.questionId = answer.questionId := by
  unfold veiled
  split <;> rfl

@[simp]
theorem payload_veiled : answer.veiled.payload = answer.payload := by
  unfold veiled
  split <;> rfl

@[simp]
theorem createdAt_veiled : answer.veiled.createdAt = answer.createdAt := by
  unfold veiled
  split <;> rfl

@[simp]
theorem graderFeedback_veiled : answer.veiled.graderFeedback = answer.graderFeedback := by
  unfold veiled
  split <;> rfl

@[simp]
theorem isSome_pointsEarned_veiled :
    answer.veiled.pointsEarned.isSome = answer.pointsEarned.isSome := by
  unfold veiled
  split <;> simp

@[simp]
theorem isSome_isCorrect_veiled : answer.veiled.isCorrect.isSome = answer.isCorrect.isSome := by
  unfold veiled
  split <;> simp

@[simp]
theorem map_pointsEarned_veiled {α : Type} (value : α) :
    (answer.veiled.pointsEarned.map fun _ => value) = answer.pointsEarned.map fun _ => value := by
  unfold veiled
  split <;> simp [Function.comp_def]

@[simp]
theorem map_isCorrect_veiled {α : Type} (value : α) :
    (answer.veiled.isCorrect.map fun _ => value) = answer.isCorrect.map fun _ => value := by
  unfold veiled
  split <;> simp [Function.comp_def]

theorem veiled_of_subjective (h : answer.payload.type.isAutoGradable = false) :
    answer.veiled = answer := by
  simp [veiled, h]

/-- Where a rule decides, the verdict is veiled, whatever it is and by whatever key. -/
theorem veiled_withVerdict (h : answer.payload.type.isAutoGradable = true)
    (question other : Question) (correct correct' : Bool) (now : Instant) :
    (answer.withVerdict question correct now).veiled =
      (answer.veiled.withVerdict other correct' now).veiled := by
  simp [veiled, withVerdict, h]

end Answer

namespace Attempt

/-- What an attempt keeps when it is veiled, every attempt keeps when one is. -/
theorem apply_veiledFor {α : Type} {f : Attempt → α} (hf : ∀ a : Attempt, f a.veiled = f a)
    (attemptId : Uuid) (attempt : Attempt) : f (attempt.veiledFor attemptId) = f attempt := by
  unfold veiledFor
  split
  · exact hf attempt
  · rfl

variable (attemptId : Uuid) (attempt : Attempt)

@[simp]
theorem quizId_veiledFor : (attempt.veiledFor attemptId).quizId = attempt.quizId :=
  apply_veiledFor (fun _ => rfl) ..

@[simp]
theorem studentId_veiledFor : (attempt.veiledFor attemptId).studentId = attempt.studentId :=
  apply_veiledFor (fun _ => rfl) ..

@[simp]
theorem attemptNumber_veiledFor :
    (attempt.veiledFor attemptId).attemptNumber = attempt.attemptNumber :=
  apply_veiledFor (fun _ => rfl) ..

@[simp]
theorem status_veiledFor : (attempt.veiledFor attemptId).status = attempt.status :=
  apply_veiledFor (fun _ => rfl) ..

@[simp]
theorem version_veiledFor : (attempt.veiledFor attemptId).version = attempt.version :=
  apply_veiledFor (fun _ => rfl) ..

theorem veiled_veiled : attempt.veiled.veiled = attempt.veiled := by
  simp [veiled, Function.comp_def]

theorem veiled_veiledFor : (attempt.veiledFor attemptId).veiled = attempt.veiled :=
  apply_veiledFor veiled_veiled ..

variable {attempt} {other : Attempt}

theorem veiled_eq_of_veiledFor (h : attempt.veiledFor attemptId = other.veiledFor attemptId) :
    attempt.veiled = other.veiled := by
  rw [← attempt.veiled_veiledFor attemptId, h, veiled_veiledFor]

/-- Attempts that look the same differ in their scores at most. -/
theorem exists_eq_of_veiled (h : attempt.veiled = other.veiled) : ∃ earned percentage passed,
    other = { attempt with earnedPoints := earned, percentage := percentage, isPassed := passed } := by
  cases attempt
  cases other
  simp only [veiled, mk.injEq] at h
  simp [h]

end Attempt

/-! ## Reports without outcomes -/

/-- How the question went, without the outcome where a rule decides. The key is taken out of a
result that is to show it, and of no other. -/
def QuestionResult.veiled (showKey : Bool) (result : QuestionResult) : QuestionResult :=
  if result.type.isAutoGradable then
    { result with
      pointsEarned := result.pointsEarned.map fun _ => .zero
      isCorrect := result.isCorrect.map fun _ => false
      correctOptionIds :=
        if showKey then result.correctOptionIds.map fun _ => [] else result.correctOptionIds
      correctAnswers := if showKey then none else result.correctAnswers }
  else result

/-- How the attempt went, without the outcome. -/
def AttemptResult.veiled (showKey : Bool) (result : AttemptResult) : AttemptResult :=
  { result with
    attempt := result.attempt.veiled
    questions := result.questions.map (·.veiled showKey) }

/-- The option without whether it is correct, where that is to be shown. -/
def ReviewOption.veiled (showKey : Bool) (option : ReviewOption) : ReviewOption :=
  if showKey then { option with isCorrect := option.isCorrect.map fun _ => false } else option

/-- The question as a review shows it, without the outcome where a rule decides. The key is
taken out of a review that is to show it, and of no other. -/
def ReviewItem.veiled (showKey : Bool) (item : ReviewItem) : ReviewItem :=
  if item.type.isAutoGradable then
    { item with
      options := item.options.map (·.veiled showKey)
      correctAnswers := if showKey then none else item.correctAnswers
      pointsEarned := item.pointsEarned.map fun _ => .zero
      isCorrect := item.isCorrect.map fun _ => false }
  else item

/-- The review without the outcome. -/
def AttemptReview.veiled (showKey : Bool) (review : AttemptReview) : AttemptReview :=
  { review with
    attempt := review.attempt.veiled
    items := review.items.map (·.veiled showKey) }

/-- The figures without the outcome: of the answers with a verdict the number is left. -/
def ScoreBreakdown.veiled (score : ScoreBreakdown) : ScoreBreakdown :=
  { score with
    earnedPoints := .zero
    percentage := .zero
    isPassed := false
    correct := score.correct + score.incorrect
    incorrect := 0 }

/-- The attempt in figures without the outcome. -/
def AttemptSummary.veiled (summary : AttemptSummary) : AttemptSummary :=
  { summary with score := summary.score.veiled }

/-- What a call returns, without the outcome of the attempt. That a quiz shows its key
(`showKey`) is what makes the key part of the outcome. -/
def Reply.veiled (attemptId : Uuid) (showKey : Bool) : Reply → Reply
  | .result r => .result (r.veiled showKey)
  | .review r => .review (r.veiled showKey)
  | .summary s => .summary s.veiled
  | .attempts as => .attempts (as.map (·.veiledFor attemptId))
  | reply => reply

/-! ## Computations that look the same -/

/-- Both computations are refused in the same way, or both give values that look the same. One
that overflows gives nothing to look at. -/
inductive LooksSame {α β : Type} (view : α → β) : Except Failure α → Except Failure α → Prop where
  | ok {a b : α} (h : view a = view b) : LooksSame view (.ok a) (.ok b)
  | refused (cause : Error) : LooksSame view (.error (.refused cause)) (.error (.refused cause))
  | overflowed_left (cause : Overflow) (y : Except Failure α) :
      LooksSame view (.error (.overflowed cause)) y
  | overflowed_right (x : Except Failure α) (cause : Overflow) :
      LooksSame view x (.error (.overflowed cause))

namespace LooksSame

variable {α β γ δ : Type} {view : α → β} {view' : γ → δ} {x y : Except Failure α}

theorem bind {f g : α → Except Failure γ} (h : LooksSame view x y)
    (hf : ∀ a b, x = .ok a → y = .ok b → view a = view b → LooksSame view' (f a) (g b)) :
    LooksSame view' (x >>= f) (y >>= g) := by
  cases h with
  | @ok a b hab => exact hf a b rfl rfl hab
  | refused cause => exact .refused cause
  | overflowed_left cause _ => exact .overflowed_left cause _
  | overflowed_right _ cause => exact .overflowed_right _ cause

/-- What is the same but for the view looks the same. -/
theorem of_map_eq (h : x.map view = y.map view) : LooksSame view x y := by
  cases x with
  | error failure =>
    cases y with
    | error failure' =>
      obtain rfl := Except.error.inj h
      cases failure with
      | refused cause => exact .refused cause
      | overflowed cause => exact .overflowed_left cause _
    | ok b => cases h
  | ok a =>
    cases y with
    | error failure => cases h
    | ok b => exact .ok (Except.ok.inj h)

theorem map {f : α → γ} (h : LooksSame view x y)
    (hf : ∀ a b, view a = view b → view' (f a) = view' (f b)) :
    LooksSame view' (x.map f) (y.map f) := by
  cases h with
  | ok hab => exact .ok (hf _ _ hab)
  | refused cause => exact .refused cause
  | overflowed_left cause _ => exact .overflowed_left cause _
  | overflowed_right _ cause => exact .overflowed_right _ cause

theorem orRefused {p q : Except Error α} (h : p.map view = q.map view) :
    LooksSame view (QuizEngine.orRefused p) (QuizEngine.orRefused q) := by
  have hmap : ∀ r : Except Error α,
      (QuizEngine.orRefused r).map view = QuizEngine.orRefused (r.map view) :=
    fun r => by cases r <;> rfl
  exact of_map_eq (by rw [hmap, hmap, h])

/-- What is only computed looks the same when its values do. -/
theorem orOverflow {p q : Except Overflow α} (h : ∀ a b, p = .ok a → q = .ok b → view a = view b) :
    LooksSame view (QuizEngine.orOverflow p) (QuizEngine.orOverflow q) := by
  cases p with
  | error cause => exact .overflowed_left cause _
  | ok a =>
    cases q with
    | error cause => exact .overflowed_right _ cause
    | ok b => exact .ok (h a b rfl rfl)

end LooksSame

/-- The computation overflows. -/
def Overflows {α : Type} (x : Except Failure α) : Prop := ∃ cause, x = .error (.overflowed cause)

namespace Overflows

variable {α β : Type} {x : Except Failure α}

theorem not_ok (a : α) : ¬Overflows (.ok a) := nofun

theorem not_refused (cause : Error) : ¬Overflows (.error (.refused cause) : Except Failure α) :=
  nofun

theorem not_orRefused (p : Except Error α) : ¬Overflows (orRefused p) := by
  cases p with
  | error cause => exact not_refused cause
  | ok a => exact not_ok a

theorem not_orOverflow {p : Except Overflow α} {a : α} (h : p = .ok a) :
    ¬Overflows (orOverflow p) := by
  rw [h]
  exact not_ok a

theorem not_bind {f : α → Except Failure β} (hx : ¬Overflows x)
    (hf : ∀ a, x = .ok a → ¬Overflows (f a)) : ¬Overflows (x >>= f) := by
  cases x with
  | error failure =>
    rintro ⟨cause, h⟩
    exact hx ⟨cause, congrArg Except.error (Except.error.inj h)⟩
  | ok a => exact hf a rfl

theorem not_map {f : α → β} (hx : ¬Overflows x) : ¬Overflows (x.map f) := by
  have hbind : x.map f = x >>= fun a => .ok (f a) := by cases x <;> rfl
  rw [hbind]
  exact not_bind hx fun a _ => not_ok (f a)

end Overflows

/-- Where nothing overflows, to look the same is to be refused in the same way or to give values
with one view. -/
theorem LooksSame.map_toOption_eq {α β : Type} {view : α → β} {x y : Except Failure α}
    (h : LooksSame view x y) (hx : ¬Overflows x) (hy : ¬Overflows y) :
    x.toOption.map view = y.toOption.map view := by
  cases h with
  | ok hab => exact congrArg some hab
  | refused cause => rfl
  | overflowed_left cause _ => exact absurd ⟨cause, rfl⟩ hx
  | overflowed_right _ cause => exact absurd ⟨cause, rfl⟩ hy

/-! ## Scores -/

/-- A score that can be computed has the points to be had and the answers that wait which the
veiled rows have. -/
theorem Score.of_veiled {questions : List Question} {answers : List Answer}
    {passingScore : Option Decimal} {score : Score}
    (h : aggregate questions answers passingScore = .ok score) :
    Decimal.sum ((counted (questions.map (·.veiled)) (answers.map (·.veiled))).map (·.1.points)) =
        .ok score.totalPoints ∧
      score.pendingCount = (counted (questions.map (·.veiled)) (answers.map (·.veiled))).countP
        fun c => isPending c.1 c.2 := by
  have hcounted := counted_map Question.id_veiled Answer.questionId_veiled questions answers
  simp only [aggregate, bind_eq_ok_iff, pure, Except.pure, Except.ok.injEq] at h
  obtain ⟨total, htotal, _, -, _, -, rfl⟩ := h
  simp only [hcounted, List.map_map, List.countP_map, Function.comp_def, Question.points_veiled,
    isPending, Question.type_veiled, Answer.isGraded, Answer.isSome_pointsEarned_veiled]
  exact ⟨htotal, trivial⟩

/-- Scores that look the same differ in what was earned at most. -/
theorem Score.exists_eq_of_veiled {score score' : Score} (h : score.veiled = score'.veiled) :
    ∃ earned percentage passed, score' =
      { score with earnedPoints := earned, percentage := percentage, passed := passed } := by
  cases score
  cases score'
  simp only [veiled, mk.injEq] at h
  simp [h]

/-- How many answers wait can be seen without what was earned. -/
theorem Score.pendingCount_eq_of_veiled {score score' : Score} (h : score.veiled = score'.veiled) :
    score.pendingCount = score'.pendingCount := by
  obtain ⟨_, _, _, rfl⟩ := exists_eq_of_veiled h
  rfl

theorem Score.provisional_eq_of_veiled {score score' : Score} (h : score.veiled = score'.veiled) :
    score.provisional = score'.provisional := by
  rw [provisional, fullyGraded, pendingCount_eq_of_veiled h]
  rfl

/-- An attempt is submitted in the same way whatever was earned. -/
theorem Attempt.map_veiled_submitted (attempt : Attempt) (score : Score) (quiz : Quiz)
    (now : Instant) :
    (attempt.submitted quiz score now).map (·.veiled) =
      (attempt.veiled.submitted quiz score.veiled now).map (·.veiled) := by
  rw [submitted, submitted, scored_eq, scored_eq]
  change Except.map _ (if attempt.status.canBecome score.status = true then _ else _) =
    Except.map _ (if attempt.status.canBecome score.status = true then _ else _)
  split <;> rfl

/-! ## Snapshots -/

namespace Snapshot

/-- The snapshot without outcomes. -/
def veiled (snapshot : Snapshot) : Snapshot :=
  { snapshot with
    questions := snapshot.questions.map (·.veiled)
    answers := snapshot.answers.map (·.veiled) }

/-- The answer to a question is of its type. -/
def Fits (snapshot : Snapshot) : Prop :=
  ∀ q ∈ snapshot.questions, ∀ a ∈ snapshot.answers, a.questionId = q.id → a.payload.type = q.type

variable {snapshot other : Snapshot}

@[simp]
theorem quiz_veiled (snapshot : Snapshot) : snapshot.veiled.quiz = snapshot.quiz := rfl

theorem quiz_eq_of_veiled (h : snapshot.veiled = other.veiled) : snapshot.quiz = other.quiz := by
  rw [← snapshot.quiz_veiled, h, quiz_veiled]

theorem answerFor_veiled (snapshot : Snapshot) (questionId : Int) :
    snapshot.veiled.answerFor questionId = (snapshot.answerFor questionId).map (·.veiled) := by
  simp only [answerFor, veiled, List.find?_map, Function.comp_def, Answer.questionId_veiled]

theorem Fits.type_eq (h : snapshot.Fits) {q : Question} (hq : q ∈ snapshot.questions) {a : Answer}
    (ha : snapshot.answerFor q.id = some a) : a.payload.type = q.type :=
  h q hq a (List.mem_of_find?_eq_some ha) (by simpa using List.find?_some ha)

/-- The scores of two snapshots that look the same do. -/
theorem veiled_score_eq (h : snapshot.veiled = other.veiled) {score score' : Score}
    (hscore : snapshot.score = .ok score) (hscore' : other.score = .ok score') :
    score.veiled = score'.veiled := by
  have hquestions : snapshot.questions.map (·.veiled) = other.questions.map (·.veiled) :=
    congrArg Snapshot.questions h
  have hanswers : snapshot.answers.map (·.veiled) = other.answers.map (·.veiled) :=
    congrArg Snapshot.answers h
  obtain ⟨htotal, hpending⟩ := Score.of_veiled hscore
  obtain ⟨htotal', hpending'⟩ := Score.of_veiled hscore'
  rw [hquestions, hanswers] at htotal hpending
  rw [Score.veiled, Score.veiled, Except.ok.inj (htotal.symm.trans htotal'),
    hpending.trans hpending'.symm]

theorem looksSame_score (h : snapshot.veiled = other.veiled) :
    LooksSame Score.veiled (orOverflow snapshot.score) (orOverflow other.score) :=
  .orOverflow fun _ _ hscore hscore' => veiled_score_eq h hscore hscore'

/-- Of every question with its answer a view keeps as much as was left of them. -/
theorem Fits.map_view {α : Type} {view : Question → Option Answer → α} (h : snapshot.Fits)
    (hview : ∀ question answer, (∀ a, answer = some a → a.payload.type = question.type) →
      view question answer = view question.veiled (answer.map (·.veiled))) :
    (snapshot.questions.map fun q => view q (snapshot.answerFor q.id)) =
      snapshot.veiled.questions.map fun q => view q (snapshot.veiled.answerFor q.id) := by
  simp only [answerFor_veiled]
  rw [veiled, List.map_map]
  refine List.map_congr_left fun q hq => ?_
  rw [hview q _ fun a ha => h.type_eq hq ha, Function.comp_apply, Question.id_veiled]

end Snapshot

/-! ## Views of a snapshot -/

/-- Of a question and its answer a result keeps as much as was left of them. -/
theorem QuestionResult.veiled_of (showKey showFeedback : Bool) (question : Question)
    (answer : Option Answer) (hfits : ∀ a, answer = some a → a.payload.type = question.type) :
    (QuestionResult.of question answer showKey showFeedback).veiled showKey =
      (QuestionResult.of question.veiled (answer.map (·.veiled)) showKey showFeedback).veiled
        showKey := by
  cases htype : question.type.isAutoGradable with
  | true =>
    rw [question.veiled_of_objective htype]
    -- a key that is not shown is in neither result, one that is shown is taken out of both
    cases showKey with
    | false => cases answer <;> simp [veiled, of, htype, Question.withoutKey]
    | true =>
      cases answer <;> simp [veiled, of, htype, Question.withoutKey, apply_ite (Option.map _)]
  | false =>
    rw [question.veiled_of_subjective htype]
    cases answer with
    | none => rfl
    | some a => rw [Option.map_some, a.veiled_of_subjective (by rw [hfits a rfl, htype])]

/-- The results of two attempts that look the same do. -/
theorem AttemptResult.veiled_eq {σ τ : Snapshot} (h : σ.veiled = τ.veiled) (hσ : σ.Fits)
    (hτ : τ.Fits) {a b : Attempt} (hab : a.veiled = b.veiled) {showKey showFeedback : Bool}
    {result result' : AttemptResult} (hr : AttemptResult.of a σ showKey showFeedback = .ok result)
    (hr' : AttemptResult.of b τ showKey showFeedback = .ok result') :
    result.veiled showKey = result'.veiled showKey := by
  simp only [AttemptResult.of, bind_eq_ok_iff, pure, Except.pure, Except.ok.injEq] at hr hr'
  obtain ⟨score, hscore, rfl⟩ := hr
  obtain ⟨score', hscore', rfl⟩ := hr'
  have hsame := Snapshot.veiled_score_eq h hscore hscore'
  have hpending := Score.pendingCount_eq_of_veiled hsame
  have hview := QuestionResult.veiled_of showKey showFeedback
  simp only [AttemptResult.veiled, List.map_map, Function.comp_def, hab, hpending,
    Score.provisional_eq_of_veiled hsame, hσ.map_view hview, hτ.map_view hview, h]

/-- Of a question and its answer a review keeps as much as was left of them. -/
theorem ReviewItem.veiled_of (quiz : Quiz) (question : Question) (answer : Option Answer)
    (hfits : ∀ a, answer = some a → a.payload.type = question.type) :
    (ReviewItem.of quiz question answer).veiled quiz.showCorrectAnswers =
      (ReviewItem.of quiz question.veiled (answer.map (·.veiled))).veiled
        quiz.showCorrectAnswers := by
  cases htype : question.type.isAutoGradable with
  | true =>
    rw [question.veiled_of_objective htype]
    cases hkey : quiz.showCorrectAnswers with
    | false => cases answer <;> simp [veiled, of, htype, Question.withoutKey, hkey]
    | true =>
      cases answer <;> simp [veiled, ReviewOption.veiled, of, htype, Question.withoutKey, hkey]
  | false =>
    rw [question.veiled_of_subjective htype]
    cases answer with
    | none => rfl
    | some a => rw [Option.map_some, a.veiled_of_subjective (by rw [hfits a rfl, htype])]

theorem countByType_veiled (questions : List Question) :
    countByType (questions.map (·.veiled)) = countByType questions := by
  simp only [countByType, List.countP_map, Function.comp_def, Question.type_veiled]

theorem awaitsPoints_veiled (question : Question) (answer : Option Answer) :
    awaitsPoints question.veiled (answer.map (·.veiled)) = awaitsPoints question answer := by
  cases answer with
  | none => simp [awaitsPoints]
  | some a => simp [awaitsPoints, ← Option.not_isSome]

/-- An answer with a verdict is correct or not. -/
theorem countP_correct_add_incorrect (answers : List Answer) :
    answers.countP (·.isCorrect == some true) + answers.countP (·.isCorrect == some false) =
      answers.countP (·.isCorrect.isSome) := by
  induction answers with
  | nil => rfl
  | cons a rest ih =>
    rcases hverdict : a.isCorrect with _ | _ | _ <;> simp [hverdict] <;> omega

/-- Of the rows a summary keeps as much as was left of them. -/
theorem AttemptSummary.veiled_of (attempt : Attempt) (snapshot : Snapshot) (score : Score)
    (now : Instant) :
    (AttemptSummary.of attempt snapshot score now).veiled =
      (AttemptSummary.of attempt.veiled snapshot.veiled score.veiled now).veiled := by
  have hpairs : (snapshot.veiled.questions.map fun q => (q, snapshot.veiled.answerFor q.id)) =
      (snapshot.questions.map fun q => (q, snapshot.answerFor q.id)).map fun p =>
        (p.1.veiled, p.2.map (·.veiled)) := by
    simp only [Snapshot.answerFor_veiled]
    simp [Snapshot.veiled]
  have hungraded : ∀ a : Answer, (a.veiled.isCorrect == none) = (a.isCorrect == none) := by
    intro a
    rw [Bool.eq_iff_iff, beq_iff_eq, beq_iff_eq, ← Option.isNone_iff_eq_none,
      ← Option.isNone_iff_eq_none, ← Option.not_isSome, ← Option.not_isSome,
      a.isSome_isCorrect_veiled]
  simp only [AttemptSummary.of, veiled, ScoreBreakdown.veiled, countP_correct_add_incorrect, hpairs,
    filterMap_snd_map (·.veiled) (·.veiled), List.length_map, List.isEmpty_map]
  simp only [Snapshot.veiled, List.length_map, countByType_veiled, List.countP_map,
    Function.comp_def, awaitsPoints_veiled, hungraded, Answer.isSome_isCorrect_veiled]
  rfl

end QuizEngine
