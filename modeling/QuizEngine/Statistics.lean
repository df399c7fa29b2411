import QuizEngine.Answer
import QuizEngine.Binary64
import QuizEngine.Decimal.Arithmetic

/-!
# Statistics of a question

`QuestionStatistics.compute` counts the answers to a question, those that are correct and
those that are not, and takes the mean of the points earned. Answers without a grade count
as answers only. How difficult the question is follows from the share of correct answers
among the graded ones, computed with a floating point number of sixty-four bits.

When the statistics were computed is not kept with them. That time would be read from the system
and not from the clock of the calls, and nothing is decided by it.
-/

namespace QuizEngine

/-- How difficult a question turned out to be. -/
inductive Difficulty where
  | easy
  | medium
  | hard
  deriving DecidableEq

namespace Difficulty

/-- The written name. -/
def name : Difficulty → String
  | .easy => "EASY"
  | .medium => "MEDIUM"
  | .hard => "HARD"

/-- The share of correct answers from which on a question is easy: the number closest to
seven tenths. -/
def easyShare : Binary64 := ⟨false, 6305039478318694, -53⟩

/-- The share from which on a question is of medium difficulty: the number closest to four
tenths. -/
def mediumShare : Binary64 := ⟨false, 7205759403792794, -54⟩

example : Binary64.nearest? false 7 10 = some easyShare := by decide +kernel
example : Binary64.nearest? false 4 10 = some mediumShare := by decide +kernel

/-- The share of correct answers among those graded. -/
def share? (correct graded : Int) : Option Binary64 := do
  (← Binary64.ofInt? correct).div? (← Binary64.ofInt? graded)

/-- The difficulty that follows from the counts; none without a graded answer. -/
def ofCounts? (correct graded : Int) : Option Difficulty :=
  if graded ≤ 0 then none
  else
    (share? correct graded).map fun share =>
      if easyShare.le share then .easy else if mediumShare.le share then .medium else .hard

end Difficulty

/-- What the answers to a question come to. -/
structure QuestionStatistics where
  /-- The quiz. -/
  quizId : Int
  /-- The question. -/
  questionId : Int
  /-- How many answers there are. -/
  totalAttempts : Nat
  /-- How many are correct. -/
  correctCount : Nat
  /-- How many are not correct. -/
  incorrectCount : Nat
  /-- The mean of the points earned, with at most two digits behind the point. -/
  averageScore : Option Decimal
  /-- How difficult the question turned out to be. -/
  difficulty : Option Difficulty
  deriving DecidableEq

/-- The mean of scores with at most two digits behind the point, none without scores. -/
def meanScore (scores : List Decimal) : Except Overflow (Option Decimal) :=
  if scores.isEmpty then .ok none
  else do
    let sum ← Decimal.sum scores
    match Decimal.ofInt? scores.length with
    | some count => return some ((← sum.div count).roundTo 2)
    | none => .error .division

/-- The statistics of the answers to a question. -/
def QuestionStatistics.compute (quizId questionId : Int) (answers : List Answer) :
    Except Overflow QuestionStatistics := do
  let correct := answers.countP (·.isCorrect == some true)
  let incorrect := answers.countP (·.isCorrect == some false)
  return {
    quizId := quizId
    questionId := questionId
    totalAttempts := answers.length
    correctCount := correct
    incorrectCount := incorrect
    averageScore := ← meanScore (answers.filterMap (·.pointsEarned))
    difficulty := Difficulty.ofCounts? correct (correct + incorrect) }

end QuizEngine
