import QuizEngine.Question
import QuizEngine.Text.Blank

/-!
# What a student hands in

A `Payload` is the content of an answer, of one shape per type of question.
`Payload.check` holds it against a question: the type has to be the question's, options
have to be options of the question, and nothing may be chosen or filled in twice. It says
nothing about whether the answer is correct.
-/

namespace QuizEngine

/-- A text for a blank. -/
structure TextBlank where
  /-- The blank. -/
  blankId : Int
  /-- What was written into it. -/
  answer : String
  deriving DecidableEq

/-- An option for a blank. -/
structure DropdownBlank where
  /-- The blank. -/
  blankId : Int
  /-- The option chosen for it. -/
  selectedOptionId : Int
  deriving DecidableEq

/-- The content of an answer. -/
inductive Payload where
  | singleChoice (selectedOptionId : Int)
  | multipleChoice (selectedOptionIds : List Int)
  | shortAnswer (answerText : String)
  | essay (answerText : String)
  | fileUpload (filePath : String) (fileName : Option String)
  | fillBlankText (blanks : List TextBlank)
  | fillBlankDropdown (blanks : List DropdownBlank)
  deriving DecidableEq

/-- The type of question that a payload answers. -/
def Payload.type : Payload → QuestionType
  | .singleChoice _ => .singleChoice
  | .multipleChoice _ => .multipleChoice
  | .shortAnswer _ => .shortAnswer
  | .essay _ => .essay
  | .fileUpload _ _ => .fileUpload
  | .fillBlankText _ => .fillBlankText
  | .fillBlankDropdown _ => .fillBlankDropdown

/-- Why a question does not take a payload. -/
inductive PayloadFault where
  /-- It answers another type of question. -/
  | otherType (payload question : QuestionType)
  /-- The question has no such option. -/
  | unknownOption (optionId questionId : Int)
  /-- An option is chosen twice. -/
  | repeatedOption (optionId : Int)
  /-- The path of a file is blank. -/
  | noPath
  /-- A blank is filled in twice. -/
  | repeatedBlank (blankId : Int)
  /-- The option is one of another blank. -/
  | strangeOption (optionId blankId : Int)
  deriving DecidableEq

/-- What is reported of a payload that a question does not take. -/
def PayloadFault.message : PayloadFault → String
  | .otherType payload question => s!"{payload} payload submitted for a {question} question"
  | .unknownOption optionId questionId =>
    s!"option {optionId} does not belong to question {questionId}"
  | .repeatedOption optionId => s!"option {optionId} selected more than once"
  | .noPath => "file upload answer must have a file_path"
  | .repeatedBlank blankId => s!"blank {blankId} answered more than once"
  | .strangeOption optionId blankId => s!"option {optionId} is not a choice for blank {blankId}"

namespace Payload

/-- The first number of a list that stands in `seen` or earlier in the list. -/
def firstRepeated (seen : List Int) : List Int → Option Int
  | [] => none
  | n :: rest => if n ∈ seen then some n else firstRepeated (n :: seen) rest

theorem firstRepeated_eq_none_iff {seen ns : List Int} :
    firstRepeated seen ns = none ↔ ns.Nodup ∧ ∀ n ∈ ns, n ∉ seen := by
  induction ns generalizing seen with
  | nil => simp [firstRepeated]
  | cons n rest ih =>
    unfold firstRepeated
    split
    · rename_i h
      simp [h]
    · rename_i h
      rw [ih]
      simp only [List.nodup_cons, List.mem_cons, forall_eq_or_imp, not_or]
      constructor
      · rintro ⟨hr, hs⟩
        exact ⟨⟨fun hm => (hs n hm).1 rfl, hr⟩, h, fun k hk => (hs k hk).2⟩
      · rintro ⟨⟨hn, hr⟩, _, hs⟩
        exact ⟨hr, fun k hk => ⟨fun e => hn (e ▸ hk), hs k hk⟩⟩

/-- Every option exists and is chosen once; of an option that is chosen twice and does not
exist the first complaint is the one that comes first in the list. -/
def checkOptions (question : Question) (seen : List Int) : List Int → Except PayloadFault Unit
  | [] => .ok ()
  | n :: rest =>
    if n ∈ seen then .error (.repeatedOption n)
    else if (question.option? n).isNone then .error (.unknownOption n question.id)
    else checkOptions question (n :: seen) rest

/-- Every blank is filled in once. -/
def checkBlanks (blankIds : List Int) : Except PayloadFault Unit :=
  match firstRepeated [] blankIds with
  | some n => .error (.repeatedBlank n)
  | none => .ok ()

/-- The option exists and is one of its blank. -/
def checkDropdown (question : Question) (blank : DropdownBlank) : Except PayloadFault Unit :=
  match question.option? blank.selectedOptionId with
  | some o =>
    if o.blankId = some blank.blankId then .ok ()
    else .error (.strangeOption blank.selectedOptionId blank.blankId)
  | none => .error (.unknownOption blank.selectedOptionId question.id)

/-- Whether the question takes the payload. -/
def check (question : Question) (payload : Payload) : Except PayloadFault Unit :=
  if payload.type ≠ question.type then .error (.otherType payload.type question.type)
  else
    match payload with
    | .singleChoice n =>
      if (question.option? n).isNone then .error (.unknownOption n question.id) else .ok ()
    | .multipleChoice ns => checkOptions question [] ns
    | .shortAnswer _ => .ok ()
    | .essay _ => .ok ()
    | .fileUpload path _ => if Text.isBlankText path then .error .noPath else .ok ()
    | .fillBlankText blanks => checkBlanks (blanks.map (·.blankId))
    | .fillBlankDropdown blanks => do
      checkBlanks (blanks.map (·.blankId))
      blanks.forM (checkDropdown question)

/-- A question takes payloads of its own type only. -/
theorem type_eq_of_check {question : Question} {payload : Payload}
    (h : check question payload = .ok ()) : payload.type = question.type := by
  unfold check at h
  split at h
  · simp at h
  · rename_i hne
    exact Decidable.not_not.1 hne

end Payload

end QuizEngine
