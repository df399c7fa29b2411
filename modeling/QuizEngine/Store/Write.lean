import QuizEngine.Store.Basic

/-!
# Writes that may be refused

Attempts are written by comparing and setting: `Store.updateAttempt` takes a row only with
the version that is stored, and stores it with the next. `Store.insertAttempt` refuses a
second attempt in progress and a number that is taken.

`Store.upsertAnswer` keeps one answer per attempt and question, and writing a new one over
an old takes the grade away. `Store.saveGrade` writes the grade of an answer and nothing
else, `Store.saveGradeWithAttempt` the grade together with the attempt, both or neither. A
write that comes too late uses up one forced conflict, so that the store is returned also
when a write is refused.
-/

namespace QuizEngine.Store

/-! ## Attempts -/

/-- Why an attempt cannot come beside one that is stored. -/
def insertObstacle? (given stored : Attempt) : Option Error :=
  if stored.quizId ≠ given.quizId ∨ stored.studentId ≠ given.studentId then none
  else if stored.status = .inProgress then
    some (.conflict s!"student {given.studentId} already has attempt {stored.id} in progress")
  else if stored.attemptNumber = given.attemptNumber then
    some (.conflict s!"attempt number {given.attemptNumber} is already taken")
  else none

/-- The store with an attempt written as it is. -/
def putAttempt (s : Store) (attempt : Attempt) : Store :=
  { s with attempts := s.attempts.insert attempt.id attempt }

/-- Inserts a new attempt. -/
def insertAttempt (s : Store) (attempt : Attempt) : Except Error Store :=
  match s.attempts.values.findSome? (insertObstacle? attempt) with
  | some e => .error e
  | none => .ok (s.putAttempt attempt)

/-- What is reported when somebody else wrote an attempt first. -/
def lateWrite (attemptId : Uuid) : Error :=
  .conflict s!"attempt {attemptId} was modified concurrently"

/-- What is reported of an attempt that is not stored. -/
def attemptMissing (attemptId : Uuid) : Error := .notFound s!"Attempt {attemptId} not found"

/-- What is reported of an answer that is not stored. -/
def answerMissing (answerId : Uuid) : Error := .notFound s!"Answer {answerId} not found"

/-- How many writes of an attempt are still to fail. -/
def conflictsLeft (s : Store) (attemptId : Uuid) : Nat := (s.forcedConflicts.find? attemptId).getD 0

/-- Compares the version of a row with the one stored. A forced conflict is used up. -/
def checkVersion (s : Store) (attempt : Attempt) : Except Error Unit × Store :=
  match s.findAttempt attempt.id with
  | none => (.error (attemptMissing attempt.id), s)
  | some stored =>
    match s.conflictsLeft attempt.id with
    | left + 1 =>
      (.error (lateWrite attempt.id),
        { s with forcedConflicts := s.forcedConflicts.insert attempt.id left })
    | 0 => (if stored.version = attempt.version then .ok () else .error (lateWrite attempt.id), s)

/-- The row with the next version. There always is a next one, as versions have no greatest
value. -/
def nextVersion (attempt : Attempt) : Attempt := { attempt with version := attempt.version + 1 }

/-- Writes an attempt, where its version is the one stored. -/
def updateAttempt (s : Store) (attempt : Attempt) : Except Error Attempt × Store :=
  match s.checkVersion attempt with
  | (.error e, s) => (.error e, s)
  | (.ok (), s) => (.ok (nextVersion attempt), s.putAttempt (nextVersion attempt))

/-! ## Answers -/

/-- The store with an answer written as it is. -/
def putAnswer (s : Store) (answer : Answer) : Store :=
  { s with answers := s.answers.insert answer.id answer }

/-- The row that stands after an answer was handed in: the stored one with the new content
and without its grade, or the new one. -/
def upsertedAnswer (s : Store) (answer : Answer) : Answer :=
  match s.findByQuestion answer.attemptId answer.questionId with
  | some stored => stored.withContentOf answer
  | none => answer

/-- Keeps an answer, in the place of an earlier one to the same question of the attempt. -/
def upsertAnswer (s : Store) (answer : Answer) : Answer × Store :=
  let row := s.upsertedAnswer answer
  (row, s.putAnswer row)

/-- Why the grade of an answer cannot be written. -/
def gradeObstacle? (s : Store) (answerId : Uuid) : Option Error :=
  if answerId ∈ s.unwritableGrades then
    some (.internal s!"grade write for answer {answerId} failed")
  else if s.answers.contains answerId then none
  else some (answerMissing answerId)

/-- The stored answer with the grade of the given one. -/
def gradedRow? (s : Store) (answer : Answer) : Except Error Answer :=
  match s.gradeObstacle? answer.id, s.findAnswer answer.id with
  | some e, _ => .error e
  | none, some stored => .ok (stored.withGradeOf answer)
  | none, none => .error (answerMissing answer.id)

/-- Writes the grade of an answer. -/
def saveGrade (s : Store) (answer : Answer) : Except Error (Answer × Store) :=
  (s.gradedRow? answer).map fun row => (row, s.putAnswer row)

/-- Writes the grade of an answer and the attempt, both or neither. -/
def saveGradeWithAttempt (s : Store) (answer : Answer) (attempt : Attempt) :
    Except Error (Answer × Attempt) × Store :=
  match s.gradedRow? answer with
  | .error e => (.error e, s)
  | .ok row =>
    match s.checkVersion attempt with
    | (.error e, s) => (.error e, s)
    | (.ok (), s) =>
      (.ok (row, nextVersion attempt), (s.putAnswer row).putAttempt (nextVersion attempt))

/-! ## Statistics -/

/-- The answers to a question on the gradeable attempts at a quiz. -/
def countedAnswers (s : Store) (quizId questionId : Int) : List Answer :=
  let finished := (s.attempts.values.filter fun a =>
    a.quizId == quizId && a.status.isGradeable).map (·.id)
  s.answers.values.filter fun a => a.questionId == questionId && finished.contains a.attemptId

/-- Computes the statistics of a quiz anew, a row per question of the quiz. -/
def refreshStatistics (s : Store) (quizId : Int) : Except Overflow Store := do
  let questions := s.questions.values.filter (·.quizId == quizId)
  let rows ← questions.mapM fun q =>
    QuestionStatistics.compute quizId q.id (s.countedAnswers quizId q.id)
  let others := s.statistics.filterKeys (·.1 != quizId)
  return { s with
    statistics := rows.foldl (fun t row => t.insert (quizId, row.questionId) row) others }

end QuizEngine.Store
