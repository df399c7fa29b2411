import QuizEngine.ManualGrading
import QuizEngine.Report
import QuizEngine.Time.Span
import QuizEngine.Wire.Attempt

/-!
# Reports in JSON

Keys, rules and feedback that are not shown are left out of a report; everything else that
is absent is null.
-/

namespace QuizEngine

/-- A field that is left out when it is absent. -/
def shownField (name : String) (f : α → Json) (a : Option α) : List (String × Json) :=
  (a.map fun a => (name, f a)).toList

/-- Numbers as a list. -/
def Json.integers (ns : List Int) : Json := .array (ns.map .integer)

/-- Texts as a list. -/
def Json.texts (ss : List String) : Json := .array (ss.map .text)

/-- How one question went. -/
def QuestionResult.toJson (r : QuestionResult) : Json :=
  .object ([
    ("question_id", .integer r.questionId),
    ("question_type", r.type.toJson),
    ("max_points", r.maxPoints.toJson),
    ("answered", .bool r.answered),
    ("points_earned", .ofOption Decimal.toJson r.pointsEarned),
    ("is_correct", .ofOption .bool r.isCorrect)]
    ++ shownField "correct_option_ids" .integers r.correctOptionIds
    ++ shownField "correct_answers" .texts r.correctAnswers
    ++ shownField "feedback" .text r.feedback)

/-- How an attempt went. -/
def AttemptResult.toJson (r : AttemptResult) : Json :=
  .object [
    ("attempt", r.attempt.toJson),
    ("provisional", .bool r.provisional),
    ("pending_grading", .nat r.pendingGrading),
    ("questions", .array (r.questions.map QuestionResult.toJson))]

/-- An option in a review. -/
def ReviewOption.toJson (o : ReviewOption) : Json :=
  .object ([
    ("id", .integer o.id),
    ("option_text", .text o.optionText),
    ("blank_id", .ofOption .integer o.blankId)]
    ++ shownField "is_correct" .bool o.isCorrect)

/-- A question in a review. -/
def ReviewItem.toJson (i : ReviewItem) : Json :=
  .object ([
    ("question_id", .integer i.questionId),
    ("question_type", i.type.toJson),
    ("question_text", .text i.questionText),
    ("max_points", i.maxPoints.toJson),
    ("options", .array (i.options.map ReviewOption.toJson))]
    ++ shownField "correct_answers" .texts i.correctAnswers
    ++ [("answer", .ofOption Payload.toJson i.answer),
      ("points_earned", .ofOption Decimal.toJson i.pointsEarned),
      ("is_correct", .ofOption .bool i.isCorrect)]
    ++ shownField "feedback" .text i.feedback)

/-- A finished attempt to look through. -/
def AttemptReview.toJson (r : AttemptReview) : Json :=
  .object [
    ("attempt", r.attempt.toJson),
    ("provisional", .bool r.provisional),
    ("items", .array (r.items.map ReviewItem.toJson))]

/-- How many questions were answered. -/
def QuestionBreakdown.toJson (b : QuestionBreakdown) : Json :=
  .object [
    ("total", .nat b.total),
    ("answered", .nat b.answered),
    ("unanswered", .nat b.unanswered),
    ("by_type", .object (b.byType.map fun t => (t.1.name, .nat t.2)))]

/-- How the time was spent. -/
def TimeBreakdown.toJson (b : TimeBreakdown) : Json :=
  .object [
    ("started_at", b.startedAt.toJson),
    ("submitted_at", .ofOption Instant.toJson b.submittedAt),
    ("total_seconds", .integer b.totalSeconds),
    ("total_minutes", .integer (b.totalSeconds.tdiv 60)),
    ("average_seconds_per_question", .integer b.averageSecondsPerQuestion),
    ("formatted", .text (Time.spanText b.totalSeconds))]

/-- What the attempt is worth. -/
def ScoreBreakdown.toJson (b : ScoreBreakdown) : Json :=
  .object [
    ("total_points", b.totalPoints.toJson),
    ("earned_points", b.earnedPoints.toJson),
    ("percentage", b.percentage.toJson),
    ("passing_score", .ofOption Decimal.toJson b.passingScore),
    ("is_passed", .bool b.isPassed),
    ("correct", .nat b.correct),
    ("incorrect", .nat b.incorrect),
    ("ungraded", .nat b.ungraded)]

/-- An attempt in figures. -/
def AttemptSummary.toJson (s : AttemptSummary) : Json :=
  .object [
    ("attempt_id", s.attemptId.toJson),
    ("quiz_id", .integer s.quizId),
    ("student_id", .integer s.studentId),
    ("attempt_number", .integer s.attemptNumber),
    ("status", s.status.toJson),
    ("questions", s.questions.toJson),
    ("time", s.time.toJson),
    ("score", s.score.toJson),
    ("grading", .object [
      ("fully_graded", .bool s.fullyGraded),
      ("pending_count", .nat s.pendingCount),
      ("provisional", .bool !s.fullyGraded)])]

/-- A subjective answer on a submitted attempt. -/
def PendingAnswer.toJson (p : PendingAnswer) : Json :=
  .object [
    ("answer", p.answer.toJson),
    ("student_id", .integer p.studentId),
    ("attempt_number", .integer p.attemptNumber),
    ("submitted_at", .ofOption Instant.toJson p.submittedAt),
    ("question_type", p.type.toJson),
    ("question_text", .text p.questionText),
    ("max_points", p.maxPoints.toJson)]

/-- The statistics of a question, with the time at which they were computed where it is
known. -/
def QuestionStatistics.toJson (s : QuestionStatistics) (updatedAt : Option Instant) : Json :=
  .object ([
    ("quiz_id", .integer s.quizId),
    ("question_id", .integer s.questionId),
    ("total_attempts", .nat s.totalAttempts),
    ("correct_count", .nat s.correctCount),
    ("incorrect_count", .nat s.incorrectCount),
    ("average_score", .ofOption Decimal.toJson s.averageScore),
    ("difficulty_rating", .ofOption (fun d => .text d.name) s.difficulty)]
    ++ shownField "updated_at" Instant.toJson updatedAt)

end QuizEngine
