import QuizEngine.Wire.Payload
import QuizEngine.Wire.Quiz

/-!
# Questions in JSON

A question is one object with its options and rules beside its other fields. It has no form
as a list.
-/

namespace QuizEngine

open Wire RecordReader

/-- An option. -/
def AnswerOption.toJson (o : AnswerOption) : Json :=
  .object [
    ("id", .integer o.id),
    ("question_id", .integer o.questionId),
    ("option_text", .text o.optionText),
    ("is_correct", .bool o.isCorrect),
    ("order_index", .integer o.orderIndex),
    ("blank_id", .ofOption .integer o.blankId)]

/-- Reads an option. -/
def AnswerOption.ofJson : Reader AnswerOption :=
  (AnswerOption.mk <$> field "id" long
    <*> field "question_id" long
    <*> field "option_text" text
    <*> field "is_correct" bool
    <*> field "order_index" short
    <*> optional "blank_id" short).record "struct AnswerOption"

/-- A rule. -/
def TextRule.toJson (r : TextRule) : Json :=
  .object [
    ("id", .integer r.id),
    ("question_id", .integer r.questionId),
    ("answer_text", .ofOption .text r.answerText),
    ("blank_id", .ofOption .integer r.blankId),
    ("blank_position", .ofOption .integer r.blankPosition),
    ("case_sensitive", .bool r.caseSensitive),
    ("exact_match", .bool r.exactMatch)]

/-- Reads a rule. -/
def TextRule.ofJson : Reader TextRule :=
  (TextRule.mk <$> field "id" long
    <*> field "question_id" long
    <*> optional "answer_text" text
    <*> optional "blank_id" short
    <*> optional "blank_position" short
    <*> field "case_sensitive" bool
    <*> field "exact_match" bool).record "struct CorrectAnswer"

/-- A question with its key. -/
def Question.toJson (q : Question) : Json :=
  .object [
    ("id", .integer q.id),
    ("quiz_id", .integer q.quizId),
    ("question_type", q.type.toJson),
    ("question_text", .text q.text),
    ("points", q.points.toJson),
    ("order_index", .integer q.orderIndex),
    ("options", .array (q.options.map AnswerOption.toJson)),
    ("correct_answers", .array (q.rules.map TextRule.toJson))]

/-- Reads the key of a question. -/
def Question.keyReader : RecordReader (List AnswerOption × List TextRule) :=
  Prod.mk <$> field "options" (list AnswerOption.ofJson)
    <*> field "correct_answers" (list TextRule.ofJson)

/-- Reads the other fields of a question. -/
def Question.bodyReader :
    RecordReader (List AnswerOption → List TextRule → Question) :=
  Question.mk <$> field "id" long
    <*> field "quiz_id" long
    <*> field "question_type" (Wire.named true QuestionType.named)
    <*> field "question_text" Wire.text
    <*> field "points" decimal
    <*> field "order_index" short

/-- Reads a question with its key; the key is looked at first. -/
def Question.ofJson : Reader Question
  | .object fields => do
    let key ← Question.keyReader.readFields fields
    let body ← Question.bodyReader.readFields fields
    return body key.1 key.2
  | v => .error (.invalidType v.found "struct QuestionWithKey")

end QuizEngine
