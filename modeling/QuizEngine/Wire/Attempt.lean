import QuizEngine.Score
import QuizEngine.Wire.Question

/-!
# Attempts and answers in JSON
-/

namespace QuizEngine

open Wire RecordReader

/-- A status. -/
def AttemptStatus.toJson (s : AttemptStatus) : Json := .text s.name

/-- Reads a status. -/
def AttemptStatus.ofJson : Reader AttemptStatus :=
  Wire.named false (AttemptStatus.all.map fun s => (s.name, s))

/-- An attempt. -/
def Attempt.toJson (a : Attempt) : Json :=
  .object [
    ("id", a.id.toJson),
    ("quiz_id", .integer a.quizId),
    ("student_id", .integer a.studentId),
    ("attempt_number", .integer a.attemptNumber),
    ("started_at", a.startedAt.toJson),
    ("submitted_at", .ofOption Instant.toJson a.submittedAt),
    ("time_spent_seconds", .ofOption .integer a.timeSpentSeconds),
    ("total_points", .ofOption Decimal.toJson a.totalPoints),
    ("earned_points", .ofOption Decimal.toJson a.earnedPoints),
    ("percentage", .ofOption Decimal.toJson a.percentage),
    ("is_passed", .ofOption .bool a.isPassed),
    ("status", a.status.toJson),
    ("auto_graded_at", .ofOption Instant.toJson a.autoGradedAt),
    ("manually_graded_at", .ofOption Instant.toJson a.manuallyGradedAt),
    ("graded_by", .ofOption .integer a.gradedBy),
    ("ip_address", .ofOption .text a.ipAddress),
    ("user_agent", .ofOption .text a.userAgent),
    ("version", .integer a.version),
    ("created_at", a.createdAt.toJson),
    ("updated_at", a.updatedAt.toJson)]

/-- Reads an attempt. -/
def Attempt.ofJson : Reader Attempt :=
  (Attempt.mk <$> field "id" uuid
    <*> field "quiz_id" long
    <*> field "student_id" long
    <*> field "attempt_number" short
    <*> field "started_at" instant
    <*> optional "submitted_at" instant
    <*> optional "time_spent_seconds" short
    <*> optional "total_points" decimal
    <*> optional "earned_points" decimal
    <*> optional "percentage" decimal
    <*> optional "is_passed" bool
    <*> field "status" AttemptStatus.ofJson
    <*> optional "auto_graded_at" instant
    <*> optional "manually_graded_at" instant
    <*> optional "graded_by" long
    <*> optional "ip_address" text
    <*> optional "user_agent" text
    <*> field "version" long
    <*> field "created_at" instant
    <*> field "updated_at" instant).record "struct Attempt"

/-- An answer. -/
def Answer.toJson (a : Answer) : Json :=
  .object [
    ("id", a.id.toJson),
    ("attempt_id", a.attemptId.toJson),
    ("question_id", .integer a.questionId),
    ("answer_data", a.payload.toJson),
    ("points_earned", .ofOption Decimal.toJson a.pointsEarned),
    ("is_correct", .ofOption .bool a.isCorrect),
    ("grader_feedback", .ofOption .text a.graderFeedback),
    ("graded_by", .ofOption .integer a.gradedBy),
    ("graded_at", .ofOption Instant.toJson a.gradedAt),
    ("answered_at", a.answeredAt.toJson),
    ("time_spent_seconds", .ofOption .integer a.timeSpentSeconds),
    ("created_at", a.createdAt.toJson),
    ("updated_at", a.updatedAt.toJson)]

/-- Reads an answer. -/
def Answer.ofJson : Reader Answer :=
  (Answer.mk <$> field "id" uuid
    <*> field "attempt_id" uuid
    <*> field "question_id" long
    <*> field "answer_data" Payload.ofJson
    <*> optional "points_earned" decimal
    <*> optional "is_correct" bool
    <*> optional "grader_feedback" text
    <*> optional "graded_by" long
    <*> optional "graded_at" instant
    <*> field "answered_at" instant
    <*> optional "time_spent_seconds" short
    <*> field "created_at" instant
    <*> field "updated_at" instant).record "struct StudentAnswer"

/-- A score. -/
def Score.toJson (s : Score) : Json :=
  .object [
    ("total_points", s.totalPoints.toJson),
    ("earned_points", s.earnedPoints.toJson),
    ("percentage", s.percentage.toJson),
    ("passed", .bool s.passed),
    ("fully_graded", .bool s.fullyGraded),
    ("pending_count", .nat s.pendingCount)]

end QuizEngine
