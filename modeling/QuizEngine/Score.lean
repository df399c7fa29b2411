import QuizEngine.Answer
import QuizEngine.Error

/-!
# Scores

`Score.aggregate` adds up the points of the questions answered and the points earned. The
percentage is rounded to two digits behind the point, and whether the attempt is passed is
decided before that. Answers to questions that are not listed count for nothing, and of two
questions with one identifier the last one counts.

A score is provisional while a person still has to grade an answer. `Attempt.scored` writes
a score onto an attempt, which is graded or submitted again by that.
-/

namespace QuizEngine

/-- What an attempt is worth. -/
structure Score where
  /-- The points of the questions answered. -/
  totalPoints : Decimal
  /-- The points earned. -/
  earnedPoints : Decimal
  /-- The points earned as a percentage. -/
  percentage : Decimal
  /-- Whether the passing score is reached. -/
  passed : Bool
  /-- How many answers wait for a person to grade them. -/
  pendingCount : Nat
  deriving DecidableEq

/-- The question of an identifier. -/
def questionOf? (questions : List Question) (id : Int) : Option Question :=
  questions.reverse.find? (·.id == id)

namespace Score

/-- Whether no answer waits for a grade. -/
def fullyGraded (score : Score) : Bool := score.pendingCount == 0

/-- Whether grades that are still missing can change the score. -/
def provisional (score : Score) : Bool := !score.fullyGraded

/-- The status of an attempt with this score. -/
def status (score : Score) : AttemptStatus := if score.fullyGraded then .graded else .submitted

/-- The answers to listed questions, each with its question. -/
def counted (questions : List Question) (answers : List Answer) : List (Question × Answer) :=
  answers.filterMap fun a => (questionOf? questions a.questionId).map (·, a)

/-- Whether the answer waits for a person to grade it. -/
def isPending (question : Question) (answer : Answer) : Bool :=
  question.type.isSubjective && !answer.isGraded

/-- The points earned as a percentage of the total, before it is rounded. -/
def exactPercentage (earned total : Decimal) : Except Overflow Decimal :=
  if total.isZero then .ok .zero
  else do
    let ratio ← earned.div total
    ratio.mul .hundred

/-- The score of answers to questions. -/
def aggregate (questions : List Question) (answers : List Answer) (passingScore : Option Decimal) :
    Except Overflow Score := do
  let counted := counted questions answers
  let total ← Decimal.sum (counted.map (·.1.points))
  let earned ← Decimal.sum (counted.filterMap (·.2.pointsEarned))
  let exact ← exactPercentage earned total
  return {
    totalPoints := total
    earnedPoints := earned
    percentage := exact.roundTo 2
    passed := match passingScore with
      | some p => decide (p ≤ exact)
      | none => false
    pendingCount := counted.countP fun c => isPending c.1 c.2 }

/-- A score that is not provisional grades the attempt. -/
theorem status_eq_graded_iff (score : Score) : score.status = .graded ↔ score.provisional = false := by
  cases h : score.fullyGraded <;> simp [status, provisional, h]

end Score

/-- What is reported of a move that an attempt cannot make. -/
def Attempt.moveRefusal (attempt : Attempt) (next : AttemptStatus) : Error :=
  .invalidState s!"attempt {attempt.id} cannot move from {attempt.status} to {next}"

/-- The attempt moved to another status. -/
def Attempt.moved (attempt : Attempt) (next : AttemptStatus) : Except Error Attempt :=
  if attempt.status.canBecome next then .ok { attempt with status := next }
  else .error (attempt.moveRefusal next)

/-- The attempt with a score, moved to the status of that score. -/
def Attempt.scored (attempt : Attempt) (score : Score) : Except Error Attempt := do
  let moved ← attempt.moved score.status
  return { moved with
    totalPoints := some score.totalPoints
    earnedPoints := some score.earnedPoints
    percentage := some score.percentage
    isPassed := some score.passed }

end QuizEngine
