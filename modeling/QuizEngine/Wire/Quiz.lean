import QuizEngine.Caller
import QuizEngine.Quiz
import QuizEngine.Wire.Record

/-!
# Quizzes and callers in JSON

Decimals, instants and identifiers are written as texts. A value that is absent is written
as null.
-/

namespace QuizEngine

open Wire RecordReader

/-- A decimal with the digits it has behind the point. -/
def Decimal.toJson (d : Decimal) : Json := .text d.toText

/-- An instant in universal time. -/
def Instant.toJson (t : Instant) : Json := .text t.toText

/-- An identifier. -/
def Uuid.toJson (u : Uuid) : Json := .text u.toText

/-- A quiz. -/
def Quiz.toJson (q : Quiz) : Json :=
  .object [
    ("id", .integer q.id),
    ("content_id", .integer q.contentId),
    ("title", .text q.title),
    ("total_points", q.totalPoints.toJson),
    ("passing_score", .ofOption Decimal.toJson q.passingScore),
    ("time_limit_minutes", .ofOption .integer q.timeLimitMinutes),
    ("available_from", .ofOption Instant.toJson q.availableFrom),
    ("available_until", .ofOption Instant.toJson q.availableUntil),
    ("max_attempts", .ofOption .integer q.maxAttempts),
    ("auto_grade", .bool q.autoGrade),
    ("show_results_immediately", .bool q.showResultsImmediately),
    ("show_correct_answers", .bool q.showCorrectAnswers),
    ("allow_review", .bool q.allowReview),
    ("show_feedback", .bool q.showFeedback),
    ("is_published", .bool q.isPublished),
    ("created_by", .integer q.createdBy)]

/-- Reads a quiz. -/
def Quiz.ofJson : Reader Quiz :=
  (Quiz.mk <$> field "id" long
    <*> field "content_id" long
    <*> field "title" text
    <*> field "total_points" decimal
    <*> optional "passing_score" decimal
    <*> optional "time_limit_minutes" short
    <*> optional "available_from" instant
    <*> optional "available_until" instant
    <*> optional "max_attempts" short
    <*> field "auto_grade" bool
    <*> field "show_results_immediately" bool
    <*> field "show_correct_answers" bool
    <*> field "allow_review" bool
    <*> field "show_feedback" bool
    <*> field "is_published" bool
    <*> field "created_by" long).record "struct Quiz"

/-- Where a time lies against a window. -/
def Availability.toJson : Availability → Json
  | .isOpen => .object [("state", .text "open")]
  | .notYetOpen start => .object [("state", .text "not_yet_open"), ("at", .text start.toOffsetText)]
  | .closed stop => .object [("state", .text "closed"), ("at", .text stop.toOffsetText)]

/-- A role. -/
def Role.toJson (r : Role) : Json := .text r.name

/-- Reads a role. -/
def Role.ofJson : Reader Role := Wire.named false (Role.all.map fun r => (r.name, r))

/-- A caller. -/
def Caller.toJson (c : Caller) : Json :=
  .object [("user_id", .integer c.userId), ("role", c.role.toJson)]

/-- Reads a caller. -/
def Caller.ofJson : Reader Caller :=
  (Caller.mk <$> field "user_id" long <*> field "role" Role.ofJson).record "struct Caller"

end QuizEngine
