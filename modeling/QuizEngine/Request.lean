import QuizEngine.Wire.Report

/-!
# Requests

What clients send: an answer to record, a grade, a batch of grades. A request that can be
read is then held against the rules for its fields (`RecordRequest.violations` and its
fellows); a request that breaks one is refused as a whole, with all the rules it breaks.
Lengths of texts are counted in characters.
-/

namespace QuizEngine

open Wire RecordReader

/-- The error of a request that breaks rules, if it does. -/
def refuseViolations (violations : List FieldViolation) : Except Error Unit :=
  if violations.isEmpty then .ok () else .error (.validation violations)

/-! ## Answers -/

/-- An answer to record. -/
structure RecordRequest where
  /-- The question. -/
  questionId : Int
  /-- The payload, not yet read. -/
  answerData : Json
  /-- How long the student says it took. -/
  timeSpentSeconds : Option Int

/-- Reads an answer to record. -/
def RecordRequest.ofJson : Reader RecordRequest :=
  (RecordRequest.mk <$> field "question_id" long
    <*> field "answer_data" any
    <*> optional "time_spent_seconds" short).record "struct RecordAnswerRequest"

/-- An answer to record. -/
def RecordRequest.toJson (r : RecordRequest) : Json :=
  .object [
    ("question_id", .integer r.questionId),
    ("answer_data", r.answerData),
    ("time_spent_seconds", .ofOption .integer r.timeSpentSeconds)]

/-- The rules that an answer to record breaks. -/
def RecordRequest.violations (r : RecordRequest) : List FieldViolation :=
  (if r.questionId < 1 then [⟨"question_id", "range", none⟩] else []) ++
    if (r.timeSpentSeconds.map (decide <| · < 0)).getD false then
      [⟨"time_spent_seconds", "range", some "time_spent_seconds must not be negative"⟩]
    else []

/-! ## Grades -/

/-- Reads a grade. -/
def Grade.ofJson : Reader Grade :=
  (Grade.mk <$> field "points" decimal <*> optional "feedback" text).record
    "struct GradeAnswerRequest"

/-- A grade. -/
def Grade.toJson (g : Grade) : Json :=
  .object [("points", g.points.toJson), ("feedback", .ofOption .text g.feedback)]

/-- The most characters that feedback may have. -/
def maxFeedback : Nat := 10000

/-- Whether feedback is too long. -/
def Grade.feedbackTooLong (g : Grade) : Bool :=
  (g.feedback.map fun f => decide (maxFeedback < f.length)).getD false

/-- The rules that a grade breaks. -/
def Grade.violations (g : Grade) : List FieldViolation :=
  if g.feedbackTooLong then [⟨"feedback", "length", none⟩] else []

/-! ## Batches -/

/-- Reads an entry of a batch. -/
def GradeEntry.ofJson : Reader GradeEntry :=
  ((fun answerId points feedback => GradeEntry.mk answerId ⟨points, feedback⟩)
    <$> field "answer_id" uuid
    <*> field "points" decimal
    <*> optional "feedback" text).record "struct BulkGradeEntry"

/-- An entry of a batch. -/
def GradeEntry.toJson (e : GradeEntry) : Json :=
  .object [
    ("answer_id", e.answerId.toJson),
    ("points", e.grade.points.toJson),
    ("feedback", .ofOption .text e.grade.feedback)]

/-- A batch of grades. -/
structure BulkGradeRequest where
  /-- The entries in order. -/
  grades : List GradeEntry

/-- Reads a batch. -/
def BulkGradeRequest.ofJson : Reader BulkGradeRequest :=
  (BulkGradeRequest.mk <$> field "grades" (list GradeEntry.ofJson)).record
    "struct BulkGradeRequest"

/-- A batch. -/
def BulkGradeRequest.toJson (r : BulkGradeRequest) : Json :=
  .object [("grades", .array (r.grades.map GradeEntry.toJson))]

/-- The most entries of a batch. -/
def maxEntries : Nat := 500

/-- The rules that a batch and its entries break. -/
def BulkGradeRequest.violations (r : BulkGradeRequest) : List FieldViolation :=
  (if r.grades.isEmpty ∨ maxEntries < r.grades.length then
      [⟨"grades", "length", some "grades must contain 1 to 500 entries"⟩]
    else []) ++
    (r.grades.zipIdx.filter (·.1.grade.feedbackTooLong)).map fun e =>
      ⟨"grades[" ++ toString e.2 ++ "].feedback", "length", none⟩

/-! ## Violations in JSON -/

/-- A rule that is broken. -/
def FieldViolation.toJson (v : FieldViolation) : Json :=
  .array [.text v.path, .text v.rule, .ofOption .text v.message]

/-- The rules that are broken, by path. -/
def violationsJson (violations : List FieldViolation) : Json :=
  .array ((violations.mergeSort fun a b => !(decide (b.path < a.path))).map FieldViolation.toJson)

end QuizEngine
