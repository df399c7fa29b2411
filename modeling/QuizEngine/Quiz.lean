import QuizEngine.Decimal.Basic
import QuizEngine.Time.Instant

/-!
# Quizzes

A `Quiz` says when it can be taken, how often and for how long, what of an attempt the
student may see, and who made it. `Quiz.availabilityAt` places a time against the window
of a quiz, both ends included; `Quiz.timeLimitExceeded` holds from the first whole second
past the limit.
-/

namespace QuizEngine

/-- The configuration of a quiz. -/
structure Quiz where
  /-- The identifier. -/
  id : Int
  /-- The piece of content the quiz belongs to. -/
  contentId : Int
  /-- The title. -/
  title : String
  /-- The points to be had, as the author states them. -/
  totalPoints : Decimal
  /-- The percentage from which on an attempt is passed. -/
  passingScore : Option Decimal
  /-- How many minutes an attempt may take. -/
  timeLimitMinutes : Option Int
  /-- The beginning of the window in which attempts may start. -/
  availableFrom : Option Instant
  /-- The end of that window. -/
  availableUntil : Option Instant
  /-- How many attempts a student has. -/
  maxAttempts : Option Int
  /-- Whether objective questions are graded by rule. -/
  autoGrade : Bool
  /-- Whether students may read their results. -/
  showResultsImmediately : Bool
  /-- Whether results show the correct answers. -/
  showCorrectAnswers : Bool
  /-- Whether students may look through a finished attempt. -/
  allowReview : Bool
  /-- Whether results show what graders wrote. -/
  showFeedback : Bool
  /-- Whether students may start attempts. -/
  isPublished : Bool
  /-- The user who made the quiz. -/
  createdBy : Int
  deriving DecidableEq

/-- Where a time lies against the window of a quiz. -/
inductive Availability where
  /-- Inside the window. -/
  | isOpen
  /-- Before its beginning. -/
  | notYetOpen (start : Instant)
  /-- After its end. -/
  | closed (stop : Instant)
  deriving DecidableEq

namespace Quiz

/-- Where `now` lies against the window; an end that is not set is never passed. -/
def availabilityAt (quiz : Quiz) (now : Instant) : Availability :=
  match quiz.availableFrom, quiz.availableUntil with
  | some start, some stop =>
    if now < start then .notYetOpen start else if stop < now then .closed stop else .isOpen
  | some start, none => if now < start then .notYetOpen start else .isOpen
  | none, some stop => if stop < now then .closed stop else .isOpen
  | none, none => .isOpen

/-- A quiz is open from the beginning of its window to its end, both included. -/
theorem availabilityAt_eq_isOpen_iff (quiz : Quiz) (now : Instant) :
    quiz.availabilityAt now = .isOpen ↔
      (∀ start ∈ quiz.availableFrom, start ≤ now) ∧ (∀ stop ∈ quiz.availableUntil, now ≤ stop) := by
  simp only [Instant.le_iff_not_lt]
  unfold availabilityAt
  split <;> rename_i hs ht <;> simp only [hs, ht]
  · split
    · simp_all
    · split <;> simp_all
  · split <;> simp_all
  · split <;> simp_all
  · simp

/-- Whether an attempt that has run for so many seconds is past the limit. -/
def timeLimitExceeded (quiz : Quiz) (elapsedSeconds : Int) : Bool :=
  match quiz.timeLimitMinutes with
  | some limit => limit * 60 < elapsedSeconds
  | none => false

end Quiz

end QuizEngine
