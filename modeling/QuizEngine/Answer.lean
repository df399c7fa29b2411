import QuizEngine.Attempt
import QuizEngine.Payload

/-!
# Answers

An `Answer` is what a student handed in for one question of an attempt, together with the
grade it has, if any. The grade is the points, the verdict, what the grader wrote, who
graded and when; `Answer.withGradeOf` copies these columns and the time of writing from
another row and nothing else.
-/

namespace QuizEngine

/-- An answer to one question of an attempt. -/
structure Answer where
  /-- The identifier. -/
  id : Uuid
  /-- The attempt. -/
  attemptId : Uuid
  /-- The question. -/
  questionId : Int
  /-- What was handed in. -/
  payload : Payload
  /-- The points it earned. -/
  pointsEarned : Option Decimal
  /-- Whether it is correct. -/
  isCorrect : Option Bool
  /-- What the grader wrote. -/
  graderFeedback : Option String
  /-- The person who graded it. -/
  gradedBy : Option Int
  /-- When it was graded. -/
  gradedAt : Option Instant
  /-- When it was handed in. -/
  answeredAt : Instant
  /-- How long the student says it took. -/
  timeSpentSeconds : Option Int
  /-- When the row was inserted. -/
  createdAt : Instant
  /-- When the row was written last. -/
  updatedAt : Instant
  deriving DecidableEq

namespace Answer

/-- An answer without a grade. -/
def ungraded (id attemptId : Uuid) (questionId : Int) (payload : Payload)
    (timeSpentSeconds : Option Int) (now : Instant) : Answer where
  id := id
  attemptId := attemptId
  questionId := questionId
  payload := payload
  pointsEarned := none
  isCorrect := none
  graderFeedback := none
  gradedBy := none
  gradedAt := none
  answeredAt := now
  timeSpentSeconds := timeSpentSeconds
  createdAt := now
  updatedAt := now

/-- Whether the answer has points. -/
def isGraded (answer : Answer) : Bool := answer.pointsEarned.isSome

/-- The row with the content of another one, without a grade. -/
def withContentOf (stored given : Answer) : Answer :=
  { stored with
    payload := given.payload
    answeredAt := given.answeredAt
    timeSpentSeconds := given.timeSpentSeconds
    updatedAt := given.updatedAt
    pointsEarned := none
    isCorrect := none
    graderFeedback := none
    gradedBy := none
    gradedAt := none }

/-- The row with the grade of another one. -/
def withGradeOf (stored graded : Answer) : Answer :=
  { stored with
    pointsEarned := graded.pointsEarned
    isCorrect := graded.isCorrect
    graderFeedback := graded.graderFeedback
    gradedBy := graded.gradedBy
    gradedAt := graded.gradedAt
    updatedAt := graded.updatedAt }

@[simp]
theorem id_withGradeOf (a b : Answer) : (a.withGradeOf b).id = a.id := rfl

end Answer

end QuizEngine
