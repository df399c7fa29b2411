import QuizEngine.Answer
import QuizEngine.Text.Lowercase

/-!
# Grading by rule

`Question.verdict?` says whether a payload answers a question correctly, and nothing for the
types of question that a person grades. Choices are compared as sets with the options that
are flagged correct, without partial credit. A blank with options is right when the option
chosen for it is flagged correct and is one of that blank. A blank with a text is right when
one of the rules for it accepts the text (`TextRule.accepts`).

`Answer.autoGraded?` writes the verdict onto an answer, for the points of the question or
for none.
-/

namespace QuizEngine

/-! ## Rules for texts -/

/-- The form in which a rule compares texts: without blanks at the ends, and in lower case
unless capitals count. -/
def TextRule.compared (rule : TextRule) (s : String) : List Char :=
  let trimmed := Text.trim s.toList
  if rule.caseSensitive then trimmed else Text.lower trimmed

/-- Whether the rule accepts a text. A blank text is never accepted, nor is any by a rule
whose text is blank or missing. -/
def TextRule.accepts (rule : TextRule) (submitted : String) : Bool :=
  match rule.answerText with
  | none => false
  | some expected =>
    if (Text.trim expected.toList).isEmpty || (Text.trim submitted.toList).isEmpty then false
    else if rule.exactMatch then rule.compared submitted == rule.compared expected
    else Text.contains (rule.compared expected) (rule.compared submitted)

/-- Whether the rule is for that blank. -/
def TextRule.isFor (rule : TextRule) (blankId : Int) : Bool :=
  match rule.blankId with
  | some b => b == blankId
  | none => true

/-! ## Verdicts -/

namespace Question

/-- Whether the option is one of the question and correct. -/
def singleChoiceVerdict (question : Question) (selected : Int) : Bool :=
  ((question.option? selected).map (·.isCorrect)).getD false

/-- Whether the options chosen are the correct ones, each chosen once. -/
def multipleChoiceVerdict (question : Question) (selected : List Int) : Bool :=
  decide selected.Nodup && ascending selected == question.correctOptionIds

/-- Whether the option is a correct one of the blank. -/
def isRightFor (question : Question) (blankId optionId : Int) : Bool :=
  match question.option? optionId with
  | some o => o.isCorrect && o.blankId == some blankId
  | none => false

/-- Whether every blank with options, and no other, has a correct option of its own. -/
def dropdownVerdict (question : Question) (blanks : List DropdownBlank) : Bool :=
  let required := question.optionBlankIds
  let answered := blanks.map (·.blankId)
  !required.isEmpty && decide answered.Nodup && answered.all (required.contains ·) &&
    required.all fun blankId =>
      match blanks.find? (·.blankId == blankId) with
      | some b => question.isRightFor blankId b.selectedOptionId
      | none => false

/-- Whether the blanks that the rules name, or else the blanks filled in, each have a text
that a rule for it accepts. -/
def blankTextVerdict (question : Question) (blanks : List TextBlank) : Bool :=
  let answered := blanks.map (·.blankId)
  let namedBlanks := question.ruleBlankIds
  let required := if namedBlanks.isEmpty then answered else namedBlanks
  decide answered.Nodup && !question.rules.isEmpty && answered.all (required.contains ·) &&
    !required.isEmpty &&
    required.all fun blankId =>
      match blanks.find? (·.blankId == blankId) with
      | some b => question.rules.any fun rule => rule.isFor blankId && rule.accepts b.answer
      | none => false

/-- Whether the payload answers the question correctly; nothing when a person decides, or
when the payload is of another type. -/
def verdict? (question : Question) (payload : Payload) : Option Bool :=
  if payload.type ≠ question.type then none
  else
    match payload with
    | .singleChoice selected => some (question.singleChoiceVerdict selected)
    | .multipleChoice selected => some (question.multipleChoiceVerdict selected)
    | .fillBlankDropdown blanks => some (question.dropdownVerdict blanks)
    | .fillBlankText blanks => some (question.blankTextVerdict blanks)
    | .shortAnswer _ => none
    | .essay _ => none
    | .fileUpload _ _ => none

/-- A payload of the question's type has a verdict exactly when no person has to decide. -/
theorem isSome_verdict?_iff {question : Question} {payload : Payload}
    (h : payload.type = question.type) :
    (question.verdict? payload).isSome = question.type.isAutoGradable := by
  unfold verdict?
  rw [if_neg (by simpa using h), ← h]
  cases payload <;> rfl

end Question

/-! ## Grades by rule -/

/-- The points for a verdict. -/
def Question.pointsFor (question : Question) (correct : Bool) : Decimal :=
  if correct then question.points else .zero

/-- The answer with the grade of a verdict. -/
def Answer.withVerdict (answer : Answer) (question : Question) (correct : Bool) (now : Instant) :
    Answer :=
  { answer with
    isCorrect := some correct
    pointsEarned := some (question.pointsFor correct)
    gradedAt := some now
    updatedAt := now }

/-- The answer graded by rule, where a rule decides. -/
def Answer.autoGraded? (answer : Answer) (question : Question) (now : Instant) : Option Answer :=
  (question.verdict? answer.payload).map fun correct => answer.withVerdict question correct now

@[simp]
theorem Answer.id_withVerdict (answer : Answer) (question : Question) (correct : Bool)
    (now : Instant) : (answer.withVerdict question correct now).id = answer.id := rfl

@[simp]
theorem Answer.withGradeOf_withVerdict (answer : Answer) (question : Question) (correct : Bool)
    (now : Instant) :
    answer.withGradeOf (answer.withVerdict question correct now) =
      answer.withVerdict question correct now := rfl

end QuizEngine
