import QuizEngine.Proofs.Scores
import QuizEngine.Report

/-!
# What a quiz hides

A quiz may hide its key from students, and what graders wrote. `Store.shown` is the store
without all that is hidden: the questions of a quiz that hides its key have no correct options
and no rules, and the answers of attempts at a quiz that hides feedback have none.

Whoever is no administrator cannot tell the one store from the other (`Store.result_shown`,
`Store.review_shown`, `Store.summary_shown`). So nobody learns from two stores in what hidden
things they differ (`Store.reads_eq_of_shown_eq`). A score depends on nothing that can be
hidden (`Score.aggregate_shown`), although it is computed of the same rows.
-/

namespace QuizEngine

/-! ## Rows as they are shown -/

/-- The question without its key: no option is correct, and there is no rule. -/
def Question.withoutKey (question : Question) : Question :=
  { question with
    options := question.options.map fun o => { o with isCorrect := false }
    rules := [] }

/-- The question with its key, or without. -/
def Question.shown (question : Question) (showKey : Bool) : Question :=
  if showKey then question else question.withoutKey

/-- The answer without what its grader wrote. -/
def Answer.withoutFeedback (answer : Answer) : Answer := { answer with graderFeedback := none }

/-- The answer with what its grader wrote, or without. -/
def Answer.shown (answer : Answer) (showFeedback : Bool) : Answer :=
  if showFeedback then answer else answer.withoutFeedback

namespace Question

variable (question : Question) (showKey : Bool)

@[simp]
theorem id_shown : (question.shown showKey).id = question.id := by cases showKey <;> rfl

@[simp]
theorem quizId_shown : (question.shown showKey).quizId = question.quizId := by cases showKey <;> rfl

@[simp]
theorem type_shown : (question.shown showKey).type = question.type := by cases showKey <;> rfl

@[simp]
theorem points_shown : (question.shown showKey).points = question.points := by cases showKey <;> rfl

@[simp]
theorem orderIndex_shown : (question.shown showKey).orderIndex = question.orderIndex := by
  cases showKey <;> rfl

theorem withoutKey_withoutKey : question.withoutKey.withoutKey = question.withoutKey := by
  simp [withoutKey]

/-- What is hidden the second time may have been hidden before. -/
theorem shown_shown {before : Bool} (h : showKey = true → before = true) :
    (question.shown before).shown showKey = question.shown showKey := by
  cases showKey with
  | true => rw [h rfl, shown, if_pos rfl]
  | false => cases before <;> simp [shown, withoutKey_withoutKey]

end Question

namespace Answer

variable (answer : Answer) (showFeedback : Bool)

@[simp]
theorem attemptId_shown : (answer.shown showFeedback).attemptId = answer.attemptId := by
  cases showFeedback <;> rfl

@[simp]
theorem questionId_shown : (answer.shown showFeedback).questionId = answer.questionId := by
  cases showFeedback <;> rfl

@[simp]
theorem pointsEarned_shown : (answer.shown showFeedback).pointsEarned = answer.pointsEarned := by
  cases showFeedback <;> rfl

@[simp]
theorem isCorrect_shown : (answer.shown showFeedback).isCorrect = answer.isCorrect := by
  cases showFeedback <;> rfl

@[simp]
theorem createdAt_shown : (answer.shown showFeedback).createdAt = answer.createdAt := by
  cases showFeedback <;> rfl

/-- What is hidden the second time may have been hidden before. -/
theorem shown_shown {before : Bool} (h : showFeedback = true → before = true) :
    (answer.shown before).shown showFeedback = answer.shown showFeedback := by
  cases showFeedback with
  | true => rw [h rfl, shown, if_pos rfl]
  | false => cases before <;> rfl

end Answer

/-! ## Scores -/

/-- A score depends on neither keys nor feedback. -/
theorem Score.aggregate_shown (questions : List Question) (answers : List Answer)
    (passingScore : Option Decimal) (showKey showFeedback : Bool) :
    aggregate (questions.map (·.shown showKey)) (answers.map (·.shown showFeedback)) passingScore =
      aggregate questions answers passingScore := by
  have hcounted := counted_map (fun q => q.id_shown showKey)
    (fun a => a.questionId_shown showFeedback) questions answers
  simp only [aggregate, hcounted, List.map_map, List.filterMap_map, List.countP_map,
    Function.comp_def, Question.points_shown, isPending, Question.type_shown, Answer.isGraded,
    Answer.pointsEarned_shown]

/-! ## Snapshots -/

namespace Snapshot

/-- The snapshot as far as its quiz shows it. -/
def shown (snapshot : Snapshot) : Snapshot :=
  { snapshot with
    questions := snapshot.questions.map (·.shown snapshot.quiz.showCorrectAnswers)
    answers := snapshot.answers.map (·.shown snapshot.quiz.showFeedback) }

variable (snapshot : Snapshot)

@[simp]
theorem quiz_shown : snapshot.shown.quiz = snapshot.quiz := rfl

@[simp]
theorem score_shown : snapshot.shown.score = snapshot.score := Score.aggregate_shown ..

@[simp]
theorem answerFor_shown (questionId : Int) :
    snapshot.shown.answerFor questionId =
      (snapshot.answerFor questionId).map (·.shown snapshot.quiz.showFeedback) := by
  simp only [answerFor, shown, List.find?_map, Function.comp_def, Answer.questionId_shown]

end Snapshot

/-! ## Views of a snapshot -/

/-- A result shows of a question and its answer what it is to show. -/
theorem QuestionResult.of_shown (question : Question) (answer : Option Answer)
    (showKey showFeedback : Bool) :
    QuestionResult.of (question.shown showKey) (answer.map (·.shown showFeedback)) showKey
      showFeedback = QuestionResult.of question answer showKey showFeedback := by
  cases answer <;> cases showKey <;> cases showFeedback <;> rfl

theorem AttemptResult.of_shown (attempt : Attempt) (snapshot : Snapshot) :
    AttemptResult.of attempt snapshot.shown snapshot.quiz.showCorrectAnswers
        snapshot.quiz.showFeedback =
      AttemptResult.of attempt snapshot snapshot.quiz.showCorrectAnswers
        snapshot.quiz.showFeedback := by
  simp only [AttemptResult.of, Snapshot.score_shown, Snapshot.answerFor_shown]
  simp only [Snapshot.shown, List.map_map, Function.comp_def, Question.id_shown,
    QuestionResult.of_shown]

/-- A review shows of a question and its answer what its quiz shows. -/
theorem ReviewItem.of_shown (quiz : Quiz) (question : Question) (answer : Option Answer) :
    ReviewItem.of quiz (question.shown quiz.showCorrectAnswers)
      (answer.map (·.shown quiz.showFeedback)) = ReviewItem.of quiz question answer := by
  simp only [ReviewItem.of]
  generalize quiz.showCorrectAnswers = showKey
  generalize quiz.showFeedback = showFeedback
  cases showKey with
  | true => cases answer <;> cases showFeedback <;> rfl
  | false =>
    cases answer <;> cases showFeedback <;>
      simp [Question.shown, Question.withoutKey, Answer.shown, Answer.withoutFeedback]

theorem countByType_shown (questions : List Question) (showKey : Bool) :
    countByType (questions.map (·.shown showKey)) = countByType questions := by
  simp only [countByType, List.countP_map, Function.comp_def, Question.type_shown]

theorem awaitsPoints_shown (question : Question) (answer : Option Answer)
    (showKey showFeedback : Bool) :
    awaitsPoints (question.shown showKey) (answer.map (·.shown showFeedback)) =
      awaitsPoints question answer := by
  cases answer <;> simp [awaitsPoints]

/-- Answers may be changed before or after the questions without one are left out. -/
theorem filterMap_snd_map (f : Question → Question) (g : Answer → Answer)
    (pairs : List (Question × Option Answer)) :
    (pairs.map fun p => (f p.1, p.2.map g)).filterMap (·.2) = (pairs.filterMap (·.2)).map g := by
  rw [List.filterMap_map, List.map_filterMap]
  rfl

/-- A summary shows nothing of keys and feedback at all. -/
theorem AttemptSummary.of_shown (attempt : Attempt) (snapshot : Snapshot) (score : Score)
    (now : Instant) :
    AttemptSummary.of attempt snapshot.shown score now = AttemptSummary.of attempt snapshot score now := by
  have hpairs : (snapshot.shown.questions.map fun q => (q, snapshot.shown.answerFor q.id)) =
      (snapshot.questions.map fun q => (q, snapshot.answerFor q.id)).map fun p =>
        (p.1.shown snapshot.quiz.showCorrectAnswers, p.2.map (·.shown snapshot.quiz.showFeedback)) := by
    simp only [Snapshot.answerFor_shown]
    simp [Snapshot.shown]
  simp only [AttemptSummary.of, hpairs, filterMap_snd_map (·.shown snapshot.quiz.showCorrectAnswers)
    (·.shown snapshot.quiz.showFeedback), List.length_map, List.isEmpty_map,
    List.countP_map, Function.comp_def, Answer.isCorrect_shown, awaitsPoints_shown]
  simp only [Snapshot.shown, List.length_map, countByType_shown]

/-! ## Stores as they are shown -/

namespace Store

/-- Whether the quiz shows its key. -/
def showsKey (s : Store) (quizId : Int) : Bool := (s.findQuiz quizId).any (·.showCorrectAnswers)

/-- Whether the quiz of the attempt shows what graders wrote. -/
def showsFeedback (s : Store) (attemptId : Uuid) : Bool :=
  s.attempts.values.any fun a => a.id == attemptId && (s.findQuiz a.quizId).any (·.showFeedback)

/-- The store without the keys and the feedback that are hidden. -/
def shown (s : Store) : Store :=
  { s with
    questions := s.questions.map fun q => q.shown (s.showsKey q.quizId)
    answers := s.answers.map fun a => a.shown (s.showsFeedback a.attemptId) }

variable (s : Store)

theorem listQuestions_shown (quizId : Int) :
    s.shown.listQuestions quizId = (s.listQuestions quizId).map (·.shown (s.showsKey quizId)) := by
  rw [listQuestions_eq_map (s := s) (f := fun q => q.shown (s.showsKey q.quizId)) rfl (by simp)]
  refine List.map_congr_left fun q hq => ?_
  rw [listQuestions, List.mem_mergeSort, List.mem_filter, beq_iff_eq] at hq
  rw [hq.2]

theorem listAnswers_shown (attemptId : Uuid) :
    s.shown.listAnswers attemptId =
      (s.listAnswers attemptId).map (·.shown (s.showsFeedback attemptId)) := by
  rw [listAnswers_eq_map (s := s) (f := fun a => a.shown (s.showsFeedback a.attemptId)) rfl (by simp)]
  refine List.map_congr_left fun a ha => ?_
  rw [listAnswers, List.mem_mergeSort, List.mem_filter, beq_iff_eq] at ha
  rw [ha.2]

/-- A stored attempt looks the same in both stores. -/
theorem load_shown {attempt : Attempt} (h : attempt ∈ s.attempts.values) :
    (Snapshot.load s.shown attempt).map Snapshot.shown =
      (Snapshot.load s attempt).map Snapshot.shown := by
  have hsame : s.shown.requireQuiz attempt.quizId = s.requireQuiz attempt.quizId := rfl
  rw [Snapshot.load, Snapshot.load, hsame]
  cases hquiz : s.requireQuiz attempt.quizId with
  | error cause => rfl
  | ok quiz =>
    have hfind : s.findQuiz attempt.quizId = some quiz := requireQuiz_eq_ok_iff.1 hquiz
    have hkey : s.showsKey attempt.quizId = quiz.showCorrectAnswers := by
      rw [showsKey, hfind, Option.any_some]
    have hfeedback : quiz.showFeedback = true → s.showsFeedback attempt.id = true := by
      intro hshows
      exact List.any_eq_true.2 ⟨attempt, h, by simp [hfind, hshows]⟩
    refine congrArg Except.ok ?_
    simp only [Snapshot.shown, listQuestions_shown, listAnswers_shown, hkey, List.map_map,
      Snapshot.mk.injEq, true_and]
    exact ⟨List.map_congr_left fun q _ => q.shown_shown _ id,
      List.map_congr_left fun a _ => a.shown_shown _ hfeedback⟩

/-! ## Reads -/

/-- What is computed of two snapshots alike is alike. -/
theorem orRefused_bind_congr {α β : Type} {x y : Except Error α} {view : α → α}
    {f : α → Except Failure β} (h : x.map view = y.map view) (hf : ∀ a, f (view a) = f a) :
    orRefused x >>= f = orRefused y >>= f := by
  cases x with
  | error e =>
    cases y with
    | error e' => rw [Except.error.inj h]
    | ok b => cases h
  | ok a =>
    cases y with
    | error e => cases h
    | ok b =>
      show f a = f b
      rw [← hf a, ← hf b, Except.ok.inj h]

theorem mem_attempts_of_requireAttempt {s : Store} {attemptId : Uuid} {attempt : Attempt}
    (h : s.requireAttempt attemptId = .ok attempt) : attempt ∈ s.attempts.values :=
  (Table.mem_values_iff _ _).2 ⟨attemptId, requireAttempt_eq_ok_iff.1 h⟩

/-- To whoever is no administrator a result shows nothing that is hidden. -/
theorem result_shown {caller : Caller} (hcaller : caller.isPrivileged = false) (attemptId : Uuid) :
    s.shown.result caller attemptId = s.result caller attemptId := by
  have hsame : s.shown.requireAttempt attemptId = s.requireAttempt attemptId := rfl
  rw [result, result, hsame]
  cases hattempt : s.requireAttempt attemptId with
  | error cause => rfl
  | ok attempt =>
    simp only [orRefused_ok, bind, Except.bind]
    split
    · rfl
    · split
      · rfl
      · refine orRefused_bind_congr (load_shown s (mem_attempts_of_requireAttempt hattempt))
          fun snapshot => ?_
        simp only [Snapshot.quiz_shown, hcaller, Bool.or_false, AttemptResult.of_shown]

/-- A review shows nothing that is hidden. -/
theorem review_shown (caller : Caller) (attemptId : Uuid) :
    s.shown.review caller attemptId = s.review caller attemptId := by
  have hsame : s.shown.requireAttempt attemptId = s.requireAttempt attemptId := rfl
  rw [review, review, hsame]
  cases hattempt : s.requireAttempt attemptId with
  | error cause => rfl
  | ok attempt =>
    simp only [orRefused_ok, bind, Except.bind]
    split
    · rfl
    · split
      · rfl
      · refine orRefused_bind_congr (load_shown s (mem_attempts_of_requireAttempt hattempt))
          fun snapshot => ?_
        simp only [Snapshot.quiz_shown, Snapshot.score_shown, Snapshot.answerFor_shown]
        simp only [Snapshot.shown, List.map_map, Function.comp_def, Question.id_shown,
          ReviewItem.of_shown]

/-- A summary shows nothing that is hidden. -/
theorem summary_shown (caller : Caller) (now : Instant) (attemptId : Uuid) :
    s.shown.summary caller now attemptId = s.summary caller now attemptId := by
  have hsame : s.shown.requireAttempt attemptId = s.requireAttempt attemptId := rfl
  have howns : ∀ quizId, s.shown.ownsQuiz quizId caller = s.ownsQuiz quizId caller := fun _ => rfl
  rw [summary, summary, hsame]
  cases hattempt : s.requireAttempt attemptId with
  | error cause => rfl
  | ok attempt =>
    simp only [orRefused_ok, bind, Except.bind, howns]
    split
    · rfl
    · refine orRefused_bind_congr (load_shown s (mem_attempts_of_requireAttempt hattempt))
        fun snapshot => ?_
      simp only [Snapshot.score_shown, AttemptSummary.of_shown]

/-- A history has neither keys nor feedback. -/
theorem history_shown (caller : Caller) (quizId : Int) (studentId : Option Int) :
    s.shown.history caller quizId studentId = s.history caller quizId studentId := rfl

/-- In two stores that differ in nothing but hidden keys and hidden feedback, whoever is no
administrator reads the same. -/
theorem reads_eq_of_shown_eq {s t : Store} (h : s.shown = t.shown) {caller : Caller}
    (hcaller : caller.isPrivileged = false) (now : Instant) :
    (∀ attemptId, s.result caller attemptId = t.result caller attemptId) ∧
      (∀ attemptId, s.review caller attemptId = t.review caller attemptId) ∧
      (∀ attemptId, s.summary caller now attemptId = t.summary caller now attemptId) ∧
      ∀ quizId studentId, s.history caller quizId studentId = t.history caller quizId studentId := by
  refine ⟨fun id => ?_, fun id => ?_, fun id => ?_, fun quizId studentId => ?_⟩
  · rw [← result_shown s hcaller, h, result_shown t hcaller]
  · rw [← review_shown s, h, review_shown t]
  · rw [← summary_shown s, h, summary_shown t]
  · rw [← history_shown s, h, history_shown t]

end Store

/-! ## Two stores that look alike -/

namespace Sample

/-- A quiz that hides its key and what graders wrote. -/
def discreetQuiz : Quiz := { quiz with showCorrectAnswers := false, showFeedback := false }

/-- A submitted attempt at that quiz. This option of the choice is correct, and the grader wrote
this of the essay. -/
def discreet (correct : Int) (feedback : String) : Store :=
  let key := choice.options.map fun o => { o with isCorrect := o.id == correct }
  let row : Answer := .ungraded (uuid 3) (uuid 1) 2 (.essay "It adds.") none .epoch
  (((({} : Store).insertQuiz discreetQuiz).insertQuestion { choice with options := key }).putAttempt
    closed).putAnswer { row with graderFeedback := some feedback }

end Sample

/-- The student does not learn which option is correct. -/
theorem Store.result_eq_discreet :
    (Sample.discreet 1 "Well done.").shown = (Sample.discreet 2 "No.").shown ∧
      (Sample.student 9).caller.isPrivileged = false ∧
      (Sample.discreet 1 "Well done.").findQuestion 1 ≠ (Sample.discreet 2 "No.").findQuestion 1 ∧
      (Sample.discreet 1 "Well done.").result (Sample.student 9).caller (Sample.uuid 1) =
        (Sample.discreet 2 "No.").result (Sample.student 9).caller (Sample.uuid 1) := by
  have hshown : (Sample.discreet 1 "Well done.").shown = (Sample.discreet 2 "No.").shown := by rfl
  exact ⟨hshown, rfl, by decide +kernel,
    (Store.reads_eq_of_shown_eq hshown rfl .epoch).1 (Sample.uuid 1)⟩

end QuizEngine
