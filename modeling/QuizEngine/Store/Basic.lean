import QuizEngine.Answer
import QuizEngine.Error
import QuizEngine.Quiz
import QuizEngine.Statistics
import QuizEngine.Table

/-!
# The store

A `Store` holds quizzes with their owners, questions, attempts, answers, and the statistics
of questions, all of them in memory. Two further tables make writes fail on purpose: answers
whose grade cannot be written, and attempts whose next writes count as coming too late.

This module has what can be read, and the writes of those who make quizzes. Lists are
sorted, so that nothing depends on the order in which rows came in. The writes that may be
refused are in `QuizEngine.Store.Write`.
-/

namespace QuizEngine

/-- The rows of the system. -/
structure Store where
  /-- Quizzes. -/
  quizzes : Table Int Quiz := .empty
  /-- Questions with their keys. -/
  questions : Table Int Question := .empty
  /-- The user who owns the course of a quiz. -/
  owners : Table Int Int := .empty
  /-- Attempts. -/
  attempts : Table Uuid Attempt := .empty
  /-- Answers. -/
  answers : Table Uuid Answer := .empty
  /-- Statistics, under quiz and question. -/
  statistics : Table (Int × Int) QuestionStatistics := .empty
  /-- Answers whose grade cannot be written. -/
  unwritableGrades : List Uuid := []
  /-- How many writes of an attempt are still to fail. -/
  forcedConflicts : Table Uuid Nat := .empty

namespace Store

/-! ## Reading -/

/-- The quiz of an identifier. -/
def findQuiz (s : Store) (id : Int) : Option Quiz := s.quizzes.find? id

/-- The question of an identifier. -/
def findQuestion (s : Store) (id : Int) : Option Question := s.questions.find? id

/-- The attempt of an identifier. -/
def findAttempt (s : Store) (id : Uuid) : Option Attempt := s.attempts.find? id

/-- The answer of an identifier. -/
def findAnswer (s : Store) (id : Uuid) : Option Answer := s.answers.find? id

/-- Who owns a quiz. -/
def owner? (s : Store) (quizId : Int) : Option Int := s.owners.find? quizId

/-- The questions of a quiz by their place, then by identifier. -/
def listQuestions (s : Store) (quizId : Int) : List Question :=
  (s.questions.values.filter (·.quizId == quizId)).mergeSort fun a b =>
    decide (a.orderIndex < b.orderIndex ∨ (a.orderIndex = b.orderIndex ∧ a.id ≤ b.id))

/-- The attempts of a student at a quiz, as they came in. -/
def attemptsOf (s : Store) (quizId studentId : Int) : List Attempt :=
  s.attempts.values.filter fun a => a.quizId == quizId && a.studentId == studentId

/-- The later of two attempts by number. -/
def laterAttempt (a b : Attempt) : Attempt := if b.attemptNumber < a.attemptNumber then a else b

/-- The attempt with the highest number. -/
def latestAttempt (s : Store) (quizId studentId : Int) : Option Attempt :=
  match s.attemptsOf quizId studentId with
  | [] => none
  | a :: rest => some (rest.foldl laterAttempt a)

/-- How many attempts a student has at a quiz. -/
def countAttempts (s : Store) (quizId studentId : Int) : Nat := (s.attemptsOf quizId studentId).length

/-- The attempts of a student at a quiz by number. -/
def listStudentAttempts (s : Store) (quizId studentId : Int) : List Attempt :=
  (s.attemptsOf quizId studentId).mergeSort fun a b => decide (a.attemptNumber ≤ b.attemptNumber)

/-- The attempts at a quiz, or those of one status, by student, then by number. -/
def listQuizAttempts (s : Store) (quizId : Int) (status : Option AttemptStatus) : List Attempt :=
  (s.attempts.values.filter fun a =>
      a.quizId == quizId && (status.map (a.status == ·)).getD true).mergeSort fun a b =>
    decide (a.studentId < b.studentId ∨
      (a.studentId = b.studentId ∧ a.attemptNumber ≤ b.attemptNumber))

/-- The answer to a question of an attempt. -/
def findByQuestion (s : Store) (attemptId : Uuid) (questionId : Int) : Option Answer :=
  s.answers.values.find? fun a => a.attemptId == attemptId && a.questionId == questionId

/-- The answers of an attempt by question, then by age. -/
def listAnswers (s : Store) (attemptId : Uuid) : List Answer :=
  (s.answers.values.filter (·.attemptId == attemptId)).mergeSort fun a b =>
    decide (a.questionId < b.questionId ∨ (a.questionId = b.questionId ∧ a.createdAt ≤ b.createdAt))

/-- The statistics kept of a quiz, by question. -/
def listStatistics (s : Store) (quizId : Int) : List QuestionStatistics :=
  (s.statistics.values.filter (·.quizId == quizId)).mergeSort fun a b =>
    decide (a.questionId ≤ b.questionId)

/-! ## Writing what authors make -/

/-- Keeps a quiz. The first time its maker becomes the owner. -/
def insertQuiz (s : Store) (quiz : Quiz) : Store :=
  { s with
    quizzes := s.quizzes.insert quiz.id quiz
    owners := s.owners.insertNew quiz.id quiz.createdBy }

/-- Keeps a question, in the place of one with the same identifier. -/
def insertQuestion (s : Store) (question : Question) : Store :=
  { s with questions := s.questions.insert question.id question }

/-- Gives a quiz an owner. -/
def setOwner (s : Store) (quizId ownerId : Int) : Store :=
  { s with owners := s.owners.insert quizId ownerId }

/-- Lets every later write of a grade to this answer fail. -/
def failGradeWrites (s : Store) (answerId : Uuid) : Store :=
  { s with unwritableGrades := answerId :: s.unwritableGrades }

/-- Lets the next `times` writes of this attempt count as coming too late. -/
def forceConflicts (s : Store) (attemptId : Uuid) (times : Nat) : Store :=
  { s with forcedConflicts := s.forcedConflicts.insert attemptId times }

end Store

end QuizEngine
