import QuizEngine.Decimal.Basic
import QuizEngine.Time.Instant
import QuizEngine.Uuid

/-!
# Attempts

An `Attempt` is one student's go at a quiz. It is in progress until it is submitted, with a
grade of all its answers or without, or abandoned (`AttemptStatus.canBecome`). Its scores
are those of the last time they were computed, and its version counts how often the row was
written.
-/

namespace QuizEngine

/-- How far an attempt is. -/
inductive AttemptStatus where
  | inProgress
  | submitted
  | graded
  | abandoned
  deriving DecidableEq

namespace AttemptStatus

/-- The written name. -/
def name : AttemptStatus → String
  | .inProgress => "IN_PROGRESS"
  | .submitted => "SUBMITTED"
  | .graded => "GRADED"
  | .abandoned => "ABANDONED"

instance : ToString AttemptStatus := ⟨name⟩

/-- Every status, in the order in which messages list them. -/
def all : List AttemptStatus := [.inProgress, .submitted, .graded, .abandoned]

/-- Whether an attempt may move from one status to the next. A graded attempt is submitted
again when a grade leaves an answer without points. -/
def canBecome : AttemptStatus → AttemptStatus → Bool
  | .inProgress, .submitted => true
  | .inProgress, .graded => true
  | .inProgress, .abandoned => true
  | .submitted, .submitted => true
  | .submitted, .graded => true
  | .graded, .graded => true
  | .graded, .submitted => true
  | _, _ => false

/-- Whether a person may grade the answers. -/
def isGradeable : AttemptStatus → Bool
  | .submitted => true
  | .graded => true
  | .inProgress => false
  | .abandoned => false

theorem isGradeable_iff {s : AttemptStatus} :
    s.isGradeable = true ↔ s = .submitted ∨ s = .graded := by
  cases s <;> simp [isGradeable]

end AttemptStatus

/-- One student's go at a quiz. -/
structure Attempt where
  /-- The identifier. -/
  id : Uuid
  /-- The quiz. -/
  quizId : Int
  /-- The student. -/
  studentId : Int
  /-- Its number among the attempts of the student at the quiz. -/
  attemptNumber : Int
  /-- When it was started. -/
  startedAt : Instant
  /-- When it was submitted. -/
  submittedAt : Option Instant
  /-- How long it took. -/
  timeSpentSeconds : Option Int
  /-- The points of the questions answered. -/
  totalPoints : Option Decimal
  /-- The points earned. -/
  earnedPoints : Option Decimal
  /-- The points earned as a percentage. -/
  percentage : Option Decimal
  /-- Whether it reached the passing score. -/
  isPassed : Option Bool
  /-- How far it is. -/
  status : AttemptStatus
  /-- When its objective answers were graded. -/
  autoGradedAt : Option Instant
  /-- When a person first graded one of its answers. -/
  manuallyGradedAt : Option Instant
  /-- Who graded the first. -/
  gradedBy : Option Int
  /-- The address it was started from. -/
  ipAddress : Option String
  /-- The program it was started with. -/
  userAgent : Option String
  /-- How often the row was written after it was inserted. It has no greatest value here. One of
  sixty-four bits tells no difference before a row was written `2 ^ 63` times. -/
  version : Int
  /-- When the row was inserted. -/
  createdAt : Instant
  /-- When the row was written last. -/
  updatedAt : Instant
  deriving DecidableEq

/-- What is noted of the program that starts an attempt. -/
structure ClientInfo where
  /-- Its address. -/
  ipAddress : Option String := none
  /-- Its name. -/
  userAgent : Option String := none
  deriving DecidableEq

namespace Attempt

/-- A new attempt. -/
def start (id : Uuid) (quizId studentId attemptNumber : Int) (now : Instant)
    (client : ClientInfo) : Attempt where
  id := id
  quizId := quizId
  studentId := studentId
  attemptNumber := attemptNumber
  startedAt := now
  submittedAt := none
  timeSpentSeconds := none
  totalPoints := none
  earnedPoints := none
  percentage := none
  isPassed := none
  status := .inProgress
  autoGradedAt := none
  manuallyGradedAt := none
  gradedBy := none
  ipAddress := client.ipAddress
  userAgent := client.userAgent
  version := 0
  createdAt := now
  updatedAt := now

/-- The whole seconds since the start, zero for a time before it. -/
def elapsedSeconds (attempt : Attempt) (now : Instant) : Int :=
  now.elapsedSeconds attempt.startedAt

end Attempt

/-- Seconds as an attempt keeps them, at most `2 ^ 31 - 1`. -/
def storedSeconds (seconds : Int) : Int := min seconds (twoTo 31 - 1)

end QuizEngine
