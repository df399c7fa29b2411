import QuizEngine.Report
import QuizEngine.Verdict
import QuizEngine.Wire.Payload

/-!
# The life of an attempt

A student starts an attempt (`Store.startAttempt`), records answers (`Store.recordAnswer`)
and submits it (`Store.submitAttempt`); an attempt whose time is over may be abandoned
(`Store.abandonAttempt`), and whoever manages the quiz may abandon any.

Each call first reads and checks, and only then writes. The decision that comes out of the
reads is a function of its own (`nextAttempt`, `Attempt.submitted`), so that one can also
ask what happens when others write in between.
-/

namespace QuizEngine

/-! ## Starting -/

/-- What a start comes to. -/
inductive StartDecision where
  /-- An attempt in progress goes on. -/
  | resume (current : Attempt)
  /-- A new attempt with this number. -/
  | create (number : Int)
  deriving DecidableEq

/-- The number after `n`, of thirty-two bits. -/
def numberAfter (n : Int) : Int := if n = twoTo 31 - 1 then -twoTo 31 else n + 1

/-- What comes of a start, from the latest attempt of the student at the quiz and their
number. -/
def nextAttempt (quiz : Quiz) (latest : Option Attempt) (used : Nat) : Except Error StartDecision :=
  match latest.filter (·.status == .inProgress) with
  | some current => .ok (.resume current)
  | none =>
    match quiz.maxAttempts.filter (· ≤ (used : Int)) with
    | some max => .error (.maxAttemptsReached max)
    | none => .ok (.create ((latest.map fun a => numberAfter a.attemptNumber).getD 1))

/-- The quiz, where the caller may start an attempt at it now. -/
def Store.openQuiz (s : Store) (ctx : Context) (quizId : Int) : Except Error Quiz := do
  let quiz ← s.requireQuiz quizId
  if !quiz.isPublished ∧ !ctx.caller.isPrivileged then .error (.notPublished quizId)
  else
    match quiz.availabilityAt ctx.now with
    | .isOpen => return quiz
    | .notYetOpen start => .error (.outsideWindow ("quiz opens at " ++ start.toOffsetText))
    | .closed stop => .error (.outsideWindow ("quiz closed at " ++ stop.toOffsetText))

/-- Starts an attempt, or returns the one that is in progress. -/
def Store.startAttempt (s : Store) (ctx : Context) (quizId : Int) (client : ClientInfo) :
    Outcome Attempt :=
  let student := ctx.caller.userId
  let decision := do
    let quiz ← s.openQuiz ctx quizId
    nextAttempt quiz (s.latestAttempt quizId student) (s.countAttempts quizId student)
  match decision with
  | .error e => .refused e s
  | .ok (.resume current) => (.ok current, s)
  | .ok (.create number) =>
    let attempt := Attempt.start ctx.fresh quizId student number ctx.now client
    match s.insertAttempt attempt with
    | .error e => .refused e s
    | .ok s => (.ok attempt, s)

/-! ## Recording answers -/

/-- The attempt, where it is the caller's and in progress. -/
def Store.openAttempt (s : Store) (caller : Caller) (attemptId : Uuid) : Except Error Attempt := do
  let attempt ← s.requireAttempt attemptId
  if attempt.studentId ≠ caller.userId then .error .notOwner
  else if attempt.status ≠ .inProgress then .error (.alreadySubmitted attempt.status)
  else return attempt

/-- Refuses an attempt whose time is over. -/
def Quiz.ensureInTime (quiz : Quiz) (attempt : Attempt) (now : Instant) : Except Error Unit :=
  if quiz.timeLimitExceeded (attempt.elapsedSeconds now) then
    .error (.timeExceeded (quiz.timeLimitMinutes.getD 0))
  else .ok ()

/-- The payload that a raw value is for a question. -/
def Question.accept (question : Question) (raw : Json) : Except Error Payload :=
  match Payload.parse question.type raw with
  | .error e => .error (.malformedAnswer e.message)
  | .ok payload =>
    match payload.check question with
    | .error e => .error (.malformedAnswer e.message)
    | .ok () => .ok payload

/-- What a recorded answer needs: the quiz, the question and the payload, after every
check. -/
def Store.recordable (s : Store) (ctx : Context) (attemptId : Uuid) (questionId : Int) (raw : Json) :
    Except Error (Quiz × Question × Payload) := do
  let attempt ← s.openAttempt ctx.caller attemptId
  let quiz ← s.requireQuiz attempt.quizId
  quiz.ensureInTime attempt ctx.now
  let question ← s.requireQuestion questionId
  if question.quizId ≠ attempt.quizId then
    .error (.questionMismatch questionId attempt.quizId)
  else return (quiz, question, ← question.accept raw)

/-- Writes the verdict on an answer that was just stored, where a rule decides. When it
cannot be written the answer stays without a grade until the attempt is submitted. -/
def Store.gradeAtOnce (s : Store) (quiz : Quiz) (question : Question) (stored : Answer)
    (now : Instant) : Answer × Store :=
  match (if quiz.autoGrade then stored.autoGraded? question now else none) with
  | none => (stored, s)
  | some graded =>
    match s.saveGrade graded with
    | .ok (saved, s) => (saved, s)
    | .error _ => (stored, s)

/-- Records an answer. -/
def Store.recordAnswer (s : Store) (ctx : Context) (attemptId : Uuid) (questionId : Int) (raw : Json)
    (timeSpentSeconds : Option Int) : Outcome Answer :=
  match s.recordable ctx attemptId questionId raw with
  | .error e => .refused e s
  | .ok (quiz, question, payload) =>
    let given := Answer.ungraded ctx.fresh attemptId questionId payload timeSpentSeconds ctx.now
    let (stored, s) := s.upsertAnswer given
    let (answer, s) := s.gradeAtOnce quiz question stored ctx.now
    (.ok answer, s)

/-! ## Submitting -/

/-- Grades the objective ones of these answers again and writes the grades, up to the first
that cannot be written. -/
def Store.regrade (questions : List Question) (now : Instant) :
    Store → List Answer → Except Error (List Answer) × Store
  | s, [] => (.ok [], s)
  | s, a :: rest =>
    match (questionOf? questions a.questionId).bind (a.autoGraded? · now) with
    | none =>
      match regrade questions now s rest with
      | (.ok rest, s) => (.ok (a :: rest), s)
      | (.error e, s) => (.error e, s)
    | some graded =>
      match s.saveGrade graded with
      | .error e => (.error e, s)
      | .ok (saved, s) =>
        match regrade questions now s rest with
        | (.ok rest, s) => (.ok (saved :: rest), s)
        | (.error e, s) => (.error e, s)

/-- The attempt as it is submitted with a score. -/
def Attempt.submitted (attempt : Attempt) (quiz : Quiz) (score : Score) (now : Instant) :
    Except Error Attempt :=
  { attempt with
    autoGradedAt := if quiz.autoGrade then some now else attempt.autoGradedAt
    submittedAt := some now
    timeSpentSeconds := some (storedSeconds (attempt.elapsedSeconds now))
    updatedAt := now }.scored score

/-- Writes an attempt with its score and reports on it. -/
def Store.closeAttempt (s : Store) (now : Instant) (attempt : Attempt) (snapshot : Snapshot) :
    Outcome AttemptResult :=
  match snapshot.score with
  | .error e => .overflowed e s
  | .ok score =>
    match attempt.submitted snapshot.quiz score now with
    | .error e => .refused e s
    | .ok next =>
      match s.updateAttempt next with
      | (.error e, s) => .refused e s
      | (.ok stored, s) =>
        let quiz := snapshot.quiz
        (orOverflow (AttemptResult.of stored snapshot quiz.showCorrectAnswers quiz.showFeedback), s)

/-- Submits an attempt that was read: its objective answers are graded again where the quiz
grades by rule, and it gets its score. -/
def Store.submitLoaded (s : Store) (ctx : Context) (attempt : Attempt) (snapshot : Snapshot) :
    Outcome AttemptResult :=
  if snapshot.quiz.autoGrade then
    match regrade snapshot.questions ctx.now s snapshot.answers with
    | (.error e, s) => .refused e s
    | (.ok answers, s) => s.closeAttempt ctx.now attempt { snapshot with answers := answers }
  else s.closeAttempt ctx.now attempt snapshot

/-- Submits an attempt. -/
def Store.submitAttempt (s : Store) (ctx : Context) (attemptId : Uuid) : Outcome AttemptResult :=
  let loaded := do
    let attempt ← s.openAttempt ctx.caller attemptId
    return (attempt, ← Snapshot.load s attempt)
  match loaded with
  | .error e => .refused e s
  | .ok (attempt, snapshot) => s.submitLoaded ctx attempt snapshot

/-! ## Abandoning -/

/-- The attempt as it is abandoned, where the caller may abandon it. Students may abandon
their own attempts when the time is over. -/
def Store.abandonable (s : Store) (ctx : Context) (attemptId : Uuid) : Except Error Attempt := do
  let attempt ← s.requireAttempt attemptId
  let quiz ← s.requireQuiz attempt.quizId
  let elapsed := attempt.elapsedSeconds ctx.now
  let manager := s.ownsQuiz quiz.id ctx.caller
  if !manager ∧ attempt.studentId ≠ ctx.caller.userId then .error .notOwner
  else if !manager ∧ !quiz.timeLimitExceeded elapsed then
    .error (.forbidden "an attempt can only be abandoned after its time limit")
  else if attempt.status ≠ .inProgress then .error (.alreadySubmitted attempt.status)
  else
    let moved ← attempt.moved .abandoned
    return { moved with
      timeSpentSeconds := some (storedSeconds elapsed)
      updatedAt := ctx.now }

/-- Closes an attempt without a score. -/
def Store.abandonAttempt (s : Store) (ctx : Context) (attemptId : Uuid) : Outcome Attempt :=
  match s.abandonable ctx attemptId with
  | .error e => .refused e s
  | .ok next =>
    match s.updateAttempt next with
    | (.error e, s) => .refused e s
    | (.ok stored, s) => (.ok stored, s)

end QuizEngine
