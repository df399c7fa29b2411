import QuizEngine.Access

/-!
# Grading by people

Whoever manages a quiz grades its answers, one at a time (`Store.gradeAnswer`) or in a batch
(`Store.bulkGrade`). A grade is checked first (`Store.checkGrade`). Writing it gives the
attempt a new score in the same step; when somebody else has written the attempt in
between, it is read again, three times at most.

A batch is refused as a whole when one of its entries is, and each refused entry is
reported. Past the checks its grades are written one after the other up to the first that
cannot be written.
-/

namespace QuizEngine

/-- A grade for an answer. -/
structure Grade where
  /-- The points. -/
  points : Decimal
  /-- What the grader wrote. -/
  feedback : Option String
  deriving DecidableEq

/-- An entry of a batch of grades. -/
structure GradeEntry where
  /-- The answer. -/
  answerId : Uuid
  /-- Its grade. -/
  grade : Grade
  deriving DecidableEq

/-- A grade that passed every check. -/
structure CheckedGrade where
  /-- The answer as it was read. -/
  answer : Answer
  /-- The question. -/
  question : Question
  /-- The grade. -/
  grade : Grade
  deriving DecidableEq

/-! ## Checking a grade -/

/-- Points lie between zero and the points of the question. -/
def Question.checkPoints (question : Question) (points : Decimal) : Except Error Unit :=
  if points < .zero then .error (.badRequest "points must not be negative")
  else if question.points < points then .error (.pointsExceedMaximum points question.points)
  else .ok ()

/-- A grade may be given by whoever manages the quiz, on a submitted attempt, within the
points of the question. -/
def Store.checkGrade (s : Store) (caller : Caller) (answerId : Uuid) (grade : Grade) :
    Except Error CheckedGrade := do
  let answer ← s.requireAnswer answerId
  let attempt ← s.requireAttempt answer.attemptId
  s.ensureOwner attempt.quizId caller
  if !attempt.status.isGradeable then
    let id := attempt.id
    let status := attempt.status
    .error (.invalidState s!"attempt {id} is {status} and cannot be graded")
  else
    let question ← s.requireQuestion answer.questionId
    question.checkPoints grade.points
    return ⟨answer, question, grade⟩

/-! ## Writing a grade -/

/-- The answer with the grade. It is correct when it has all the points. -/
def CheckedGrade.row (checked : CheckedGrade) (ctx : Context) : Answer :=
  { checked.answer with
    pointsEarned := some checked.grade.points
    isCorrect := some (decide (checked.grade.points.SameNumber checked.question.points))
    graderFeedback := checked.grade.feedback
    gradedBy := some ctx.caller.userId
    gradedAt := some ctx.now
    updatedAt := ctx.now }

/-- The attempt with the score it has once the answer is written. The first person to grade
one of its answers is noted. -/
def Attempt.regraded (attempt : Attempt) (snapshot : Snapshot) (answer : Answer) (ctx : Context) :
    Except Failure Attempt := do
  let score ← orOverflow (snapshot.withAnswer answer).score
  orRefused ({ attempt with
    manuallyGradedAt := some (attempt.manuallyGradedAt.getD ctx.now)
    gradedBy := some (attempt.gradedBy.getD ctx.caller.userId)
    updatedAt := ctx.now }.scored score)

/-- Reads the attempt and writes the grade with its new score. -/
def Store.commitGrade (s : Store) (ctx : Context) (answer : Answer) : Outcome Answer :=
  let next := do
    let attempt ← orRefused (s.requireAttempt answer.attemptId)
    let snapshot ← orRefused (Snapshot.load s attempt)
    attempt.regraded snapshot answer ctx
  match next with
  | .error e => (.error e, s)
  | .ok attempt =>
    match s.saveGradeWithAttempt answer attempt with
    | (.error e, s) => .refused e s
    | (.ok (graded, _), s) => (.ok graded, s)

/-- How often a grade is tried again when somebody else has written the attempt. -/
def maxConflicts : Nat := 3

/-- Writes a grade, and tries again up to `retries` times after a conflict. -/
def Store.commitRetrying (ctx : Context) (answer : Answer) : (retries : Nat) → Store → Outcome Answer
  | 0, s => s.commitGrade ctx answer
  | retries + 1, s =>
    match s.commitGrade ctx answer with
    | (.error (.refused (.conflict _)), s) => commitRetrying ctx answer retries s
    | outcome => outcome

/-- Writes a grade that passed the checks. -/
def Store.applyGrade (s : Store) (ctx : Context) (checked : CheckedGrade) : Outcome Answer :=
  commitRetrying ctx (checked.row ctx) maxConflicts s

/-- Grades an answer. -/
def Store.gradeAnswer (s : Store) (ctx : Context) (answerId : Uuid) (grade : Grade) : Outcome Answer :=
  match s.checkGrade ctx.caller answerId grade with
  | .error e => .refused e s
  | .ok checked => s.applyGrade ctx checked

/-! ## Batches -/

/-- Why an entry is refused before its grade is looked at: its answer came before in the
batch, or does not exist. -/
def Store.listingFault? (s : Store) (seen : List Uuid) (answerId : Uuid) : Option GradeFailure :=
  if answerId ∈ seen then
    some (.ofError answerId (.badRequest "answer listed more than once"))
  else
    match s.requireAnswer answerId with
    | .ok _ => none
    | .error e => some (.ofError answerId e)

/-- The entries refused before their grades are looked at. -/
def Store.listingFailures (s : Store) : (seen : List Uuid) → List GradeEntry → List GradeFailure
  | _, [] => []
  | seen, e :: rest =>
    (s.listingFault? seen e.answerId).toList ++ s.listingFailures (e.answerId :: seen) rest

/-- The entries whose answers exist, each with the outcome of its check. -/
def Store.checkedEntries (s : Store) (caller : Caller) (entries : List GradeEntry) :
    List (Uuid × Except Error CheckedGrade) :=
  (entries.filter fun e => (s.findAnswer e.answerId).isSome).map fun e =>
    (e.answerId, s.checkGrade caller e.answerId e.grade)

/-- The refusal of a checked entry. -/
def checkFailure? : Uuid × Except Error CheckedGrade → Option GradeFailure
  | (answerId, .error e) => some (.ofError answerId e)
  | (_, .ok _) => none

/-- The grade of an entry that passed its check. -/
def checkedGrade? : Uuid × Except Error CheckedGrade → Option CheckedGrade
  | (_, .ok checked) => some checked
  | (_, .error _) => none

/-- Why a batch is refused, or its grades in order. -/
def Store.checkBatch (s : Store) (caller : Caller) (entries : List GradeEntry) :
    Except Error (List CheckedGrade) :=
  if entries.isEmpty then .error (.badRequest "no grades supplied")
  else
    let checks := s.checkedEntries caller entries
    let failures := s.listingFailures [] entries ++ checks.filterMap checkFailure?
    if failures.isEmpty then .ok (checks.filterMap checkedGrade?)
    else .error (.bulkGrade failures [])

/-- Writes grades one after the other; `applied` are those written before. -/
def Store.applyBatch (ctx : Context) :
    (applied : List Answer) → List CheckedGrade → Store → Outcome (List Answer)
  | applied, [], s => (.ok applied, s)
  | applied, checked :: rest, s =>
    match s.applyGrade ctx checked with
    | (.ok answer, s) => applyBatch ctx (applied ++ [answer]) rest s
    | (.error (.refused e), s) =>
      .refused (.bulkGrade [.ofError checked.answer.id e] (applied.map (·.id))) s
    | (.error (.overflowed e), s) => .overflowed e s

/-- Grades several answers. -/
def Store.bulkGrade (s : Store) (ctx : Context) (entries : List GradeEntry) : Outcome (List Answer) :=
  match s.checkBatch ctx.caller entries with
  | .error e => .refused e s
  | .ok grades => applyBatch ctx [] grades s

/-! ## What is left to grade -/

/-- A subjective answer on a submitted attempt. -/
structure PendingAnswer where
  /-- The answer. -/
  answer : Answer
  /-- The student. -/
  studentId : Int
  /-- The number of the attempt. -/
  attemptNumber : Int
  /-- When it was submitted. -/
  submittedAt : Option Instant
  /-- The type of the question. -/
  type : QuestionType
  /-- What the student read. -/
  questionText : String
  /-- The points to be had. -/
  maxPoints : Decimal
  deriving DecidableEq

/-- The subjective answers of an attempt. -/
def Store.pendingOf (s : Store) (questions : List Question) (attempt : Attempt) : List PendingAnswer :=
  (s.listAnswers attempt.id).filterMap fun a =>
    (questionOf? questions a.questionId).map fun q =>
      { answer := a
        studentId := attempt.studentId
        attemptNumber := attempt.attemptNumber
        submittedAt := attempt.submittedAt
        type := q.type
        questionText := q.text
        maxPoints := q.points }

/-- Answers without a grade come before those with one, and newer ones before older ones. -/
def PendingAnswer.before (a b : PendingAnswer) : Bool :=
  match a.answer.gradedAt.isSome, b.answer.gradedAt.isSome with
  | false, true => true
  | true, false => false
  | _, _ => decide (b.answer.answeredAt ≤ a.answer.answeredAt)

/-- The subjective answers on the submitted attempts at a quiz. -/
def Store.pending (s : Store) (caller : Caller) (quizId : Int) : Except Error (List PendingAnswer) := do
  s.ensureOwner quizId caller
  let subjective := (s.listQuestions quizId).filter (·.type.isSubjective)
  let attempts := s.listQuizAttempts quizId (some .submitted)
  return (attempts.flatMap (s.pendingOf subjective)).mergeSort PendingAnswer.before

/-- The statistics kept of a quiz. -/
def Store.quizStatistics (s : Store) (caller : Caller) (quizId : Int) :
    Except Error (List QuestionStatistics) := do
  s.ensureOwner quizId caller
  return s.listStatistics quizId

end QuizEngine
