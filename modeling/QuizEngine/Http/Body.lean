import QuizEngine.Request
import QuizEngine.Wire.Draft

/-!
# Bodies of requests

The bodies that requests carry, read from the left; the first fault decides. So
`{"points": true, oops` is JSON of another form and `{"points": 1, oops` is no JSON. What
follows the value is not looked at.
-/

namespace QuizEngine.Http

open Wire DraftReader DraftRecord

/-- Reads an answer to record. -/
def recordBody : DraftReader RecordRequest :=
  (RecordRequest.mk <$> field "question_id" (scalar long)
    <*> field "answer_data" anyValue
    <*> optional "time_spent_seconds" (scalar short)).record

/-- Reads a grade. -/
def gradeBody : DraftReader Grade :=
  (Grade.mk <$> field "points" (scalar decimal) <*> optional "feedback" (scalar text)).record

/-- Reads an entry of a batch. -/
def entryBody : DraftReader GradeEntry :=
  ((fun answerId points feedback => GradeEntry.mk answerId ⟨points, feedback⟩)
    <$> field "answer_id" (scalar uuid)
    <*> field "points" (scalar decimal)
    <*> optional "feedback" (scalar text)).record

/-- Reads a batch. -/
def bulkBody : DraftReader BulkGradeRequest :=
  (BulkGradeRequest.mk <$> field "grades" (listOf entryBody)).record

/-- Reads the value that a text starts with. -/
def readBody (read : DraftReader α) (text : String) : Except DraftFault α :=
  read (Draft.read text.toUTF8.toList).1

end QuizEngine.Http
