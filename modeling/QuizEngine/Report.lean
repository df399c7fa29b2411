import QuizEngine.Access

/-!
# Reports on an attempt

A result says of each question whether it was answered and how it was graded, a review shows
the answers themselves, and a summary counts them. Correct answers are shown to students
where the quiz allows it (`showCorrectAnswers`), and what graders wrote likewise
(`showFeedback`); administrators see both in a result.

The functions of this module read the store and never change it.
-/

namespace QuizEngine

/-! ## Results -/

/-- How one question went. -/
structure QuestionResult where
  /-- The question. -/
  questionId : Int
  /-- Its type. -/
  type : QuestionType
  /-- The points to be had. -/
  maxPoints : Decimal
  /-- Whether there is an answer. -/
  answered : Bool
  /-- The points earned. -/
  pointsEarned : Option Decimal
  /-- Whether the answer is correct. -/
  isCorrect : Option Bool
  /-- The correct options, where they are shown. -/
  correctOptionIds : Option (List Int)
  /-- The texts of the rules, where they are shown. -/
  correctAnswers : Option (List String)
  /-- What the grader wrote, where it is shown. -/
  feedback : Option String
  deriving DecidableEq

/-- How an attempt went. -/
structure AttemptResult where
  /-- The attempt. -/
  attempt : Attempt
  /-- Whether grades are missing that can change the score. -/
  provisional : Bool
  /-- How many of them. -/
  pendingGrading : Nat
  /-- The questions in order. -/
  questions : List QuestionResult
  deriving DecidableEq

/-- What a list holds, unless it is empty. -/
def nonEmpty? (xs : List α) : Option (List α) := if xs.isEmpty then none else some xs

/-- How a question went, with or without the key and the grader's words. -/
def QuestionResult.of (question : Question) (answer : Option Answer) (showKey showFeedback : Bool) :
    QuestionResult where
  questionId := question.id
  type := question.type
  maxPoints := question.points
  answered := answer.isSome
  pointsEarned := answer.bind (·.pointsEarned)
  isCorrect := answer.bind (·.isCorrect)
  correctOptionIds :=
    if showKey && !question.options.isEmpty then some question.correctOptionIds else none
  correctAnswers := if showKey then nonEmpty? question.ruleTexts else none
  feedback := if showFeedback then answer.bind (·.graderFeedback) else none

/-- How an attempt went. -/
def AttemptResult.of (attempt : Attempt) (snapshot : Snapshot) (showKey showFeedback : Bool) :
    Except Overflow AttemptResult := do
  let score ← snapshot.score
  return {
    attempt := attempt
    provisional := score.provisional
    pendingGrading := score.pendingCount
    questions := snapshot.questions.map fun q =>
      .of q (snapshot.answerFor q.id) showKey showFeedback }

/-- The result of a finished attempt, for its student or an administrator. -/
def Store.result (s : Store) (caller : Caller) (attemptId : Uuid) : Except Failure AttemptResult := do
  let attempt ← orRefused (s.requireAttempt attemptId)
  if attempt.studentId ≠ caller.userId ∧ !caller.isPrivileged then .error (.refused .notOwner)
  else if attempt.status = .inProgress then
    .error (.refused (.invalidState s!"attempt {attemptId} has not been submitted"))
  else
    let snapshot ← orRefused (Snapshot.load s attempt)
    if !snapshot.quiz.showResultsImmediately ∧ !caller.isPrivileged then
      .error (.refused (.forbidden "results for this quiz are not released"))
    else
      orOverflow (AttemptResult.of attempt snapshot
        (snapshot.quiz.showCorrectAnswers || caller.isPrivileged)
        (snapshot.quiz.showFeedback || caller.isPrivileged))

/-! ## Reviews -/

/-- An option as a review shows it. -/
structure ReviewOption where
  /-- The option. -/
  id : Int
  /-- What the student reads. -/
  optionText : String
  /-- The blank that offers it. -/
  blankId : Option Int
  /-- Whether it is correct, where that is shown. -/
  isCorrect : Option Bool
  deriving DecidableEq

/-- A question with its answer as a review shows them. -/
structure ReviewItem where
  /-- The question. -/
  questionId : Int
  /-- Its type. -/
  type : QuestionType
  /-- What the student reads. -/
  questionText : String
  /-- The points to be had. -/
  maxPoints : Decimal
  /-- The options. -/
  options : List ReviewOption
  /-- The texts of the rules, where they are shown. -/
  correctAnswers : Option (List String)
  /-- What was handed in. -/
  answer : Option Payload
  /-- The points earned. -/
  pointsEarned : Option Decimal
  /-- Whether the answer is correct. -/
  isCorrect : Option Bool
  /-- What the grader wrote, where it is shown. -/
  feedback : Option String
  deriving DecidableEq

/-- A finished attempt to look through. -/
structure AttemptReview where
  /-- The attempt. -/
  attempt : Attempt
  /-- Whether grades are missing that can change the score. -/
  provisional : Bool
  /-- The questions in order. -/
  items : List ReviewItem
  deriving DecidableEq

/-- A question with its answer, as far as the quiz shows them. -/
def ReviewItem.of (quiz : Quiz) (question : Question) (answer : Option Answer) : ReviewItem where
  questionId := question.id
  type := question.type
  questionText := question.text
  maxPoints := question.points
  options := question.options.map fun o => {
    id := o.id
    optionText := o.optionText
    blankId := o.blankId
    isCorrect := if quiz.showCorrectAnswers then some o.isCorrect else none }
  correctAnswers := if quiz.showCorrectAnswers then nonEmpty? question.ruleTexts else none
  answer := answer.map (·.payload)
  pointsEarned := answer.bind (·.pointsEarned)
  isCorrect := answer.bind (·.isCorrect)
  feedback := if quiz.showFeedback then answer.bind (·.graderFeedback) else none

/-- A finished attempt to look through, for its student. -/
def Store.review (s : Store) (caller : Caller) (attemptId : Uuid) : Except Failure AttemptReview := do
  let attempt ← orRefused (s.requireAttempt attemptId)
  if attempt.studentId ≠ caller.userId then .error (.refused .notOwner)
  else if attempt.status = .inProgress then
    .error (.refused (.invalidState s!"attempt {attemptId} is still in progress"))
  else
    let snapshot ← orRefused (Snapshot.load s attempt)
    if !snapshot.quiz.allowReview then
      .error (.refused (.forbidden "review is disabled for this quiz"))
    else
      let score ← orOverflow snapshot.score
      return {
        attempt := attempt
        provisional := score.provisional
        items := snapshot.questions.map fun q => .of snapshot.quiz q (snapshot.answerFor q.id) }

/-! ## Summaries -/

/-- How many questions were answered. -/
structure QuestionBreakdown where
  /-- All questions. -/
  total : Nat
  /-- Those with an answer. -/
  answered : Nat
  /-- How many there are of each type that occurs. -/
  byType : List (QuestionType × Nat)
  deriving DecidableEq

/-- The questions without an answer. -/
def QuestionBreakdown.unanswered (b : QuestionBreakdown) : Nat := b.total - b.answered

/-- How the time was spent. -/
structure TimeBreakdown where
  /-- When the attempt was started. -/
  startedAt : Instant
  /-- When it was submitted. -/
  submittedAt : Option Instant
  /-- How long it took, or how long it has been running. -/
  totalSeconds : Int
  /-- The mean for a question answered. -/
  averageSecondsPerQuestion : Int
  deriving DecidableEq

/-- What the attempt is worth. -/
structure ScoreBreakdown where
  /-- The points of the questions answered. -/
  totalPoints : Decimal
  /-- The points earned. -/
  earnedPoints : Decimal
  /-- The points earned as a percentage. -/
  percentage : Decimal
  /-- The percentage from which on an attempt is passed. -/
  passingScore : Option Decimal
  /-- Whether it is reached. -/
  isPassed : Bool
  /-- How many answers are correct. -/
  correct : Nat
  /-- How many are not. -/
  incorrect : Nat
  /-- How many have no verdict. -/
  ungraded : Nat
  deriving DecidableEq

/-- An attempt in figures. -/
structure AttemptSummary where
  /-- The attempt. -/
  attemptId : Uuid
  /-- The quiz. -/
  quizId : Int
  /-- The student. -/
  studentId : Int
  /-- The number of the attempt. -/
  attemptNumber : Int
  /-- How far it is. -/
  status : AttemptStatus
  /-- The questions. -/
  questions : QuestionBreakdown
  /-- The time. -/
  time : TimeBreakdown
  /-- The points. -/
  score : ScoreBreakdown
  /-- How many subjective questions have no points, answered or not. -/
  pendingCount : Nat
  deriving DecidableEq

/-- Whether no subjective question waits for points. -/
def AttemptSummary.fullyGraded (summary : AttemptSummary) : Bool := summary.pendingCount == 0

/-- The types of question that occur, with their number. -/
def countByType (questions : List Question) : List (QuestionType × Nat) :=
  QuestionType.all.filterMap fun t =>
    let n := questions.countP (·.type == t)
    if n = 0 then none else some (t, n)

/-- Whether a subjective question has no points. -/
def awaitsPoints (question : Question) (answer : Option Answer) : Bool :=
  question.type.isSubjective && (answer.bind (·.pointsEarned)).isNone

/-- An attempt in figures. -/
def AttemptSummary.of (attempt : Attempt) (snapshot : Snapshot) (score : Score) (now : Instant) :
    AttemptSummary :=
  let pairs := snapshot.questions.map fun q => (q, snapshot.answerFor q.id)
  let answers := pairs.filterMap (·.2)
  let seconds := attempt.timeSpentSeconds.getD (attempt.elapsedSeconds now)
  { attemptId := attempt.id
    quizId := attempt.quizId
    studentId := attempt.studentId
    attemptNumber := attempt.attemptNumber
    status := attempt.status
    questions := {
      total := snapshot.questions.length
      answered := answers.length
      byType := countByType snapshot.questions }
    time := {
      startedAt := attempt.startedAt
      submittedAt := attempt.submittedAt
      totalSeconds := seconds
      averageSecondsPerQuestion :=
        if answers.isEmpty then 0 else seconds.tdiv answers.length }
    score := {
      totalPoints := attempt.totalPoints.getD score.totalPoints
      earnedPoints := attempt.earnedPoints.getD score.earnedPoints
      percentage := attempt.percentage.getD score.percentage
      passingScore := snapshot.quiz.passingScore
      isPassed := attempt.isPassed.getD false
      correct := answers.countP (·.isCorrect == some true)
      incorrect := answers.countP (·.isCorrect == some false)
      ungraded := answers.countP (·.isCorrect == none) }
    pendingCount := pairs.countP fun p => awaitsPoints p.1 p.2 }

/-- An attempt in figures, for its student and whoever may manage the quiz. -/
def Store.summary (s : Store) (caller : Caller) (now : Instant) (attemptId : Uuid) :
    Except Failure AttemptSummary := do
  let attempt ← orRefused (s.requireAttempt attemptId)
  if attempt.studentId ≠ caller.userId ∧ !s.ownsQuiz attempt.quizId caller then
    .error (.refused .notOwner)
  else
    let snapshot ← orRefused (Snapshot.load s attempt)
    let score ← orOverflow snapshot.score
    return .of attempt snapshot score now

/-! ## Histories -/

/-- The attempts of a student at a quiz; those of another student for whoever may manage the
quiz. -/
def Store.history (s : Store) (caller : Caller) (quizId : Int) (studentId : Option Int) :
    Except Failure (List Attempt) := do
  let student := studentId.getD caller.userId
  if student ≠ caller.userId then orRefused (s.ensureOwner quizId caller)
  return s.listStudentAttempts quizId student

end QuizEngine
