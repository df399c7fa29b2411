import QuizEngine.Decimal.Basic

/-!
# Questions

A `Question` is a question of a quiz together with its key: the options of a choice, with
flags on the correct ones, and the rules for texts that fill blanks. The type of a question
decides whether it is graded by rule or by a person (`QuestionType.isAutoGradable`).
-/

namespace QuizEngine

/-- What kind of answer a question asks for. -/
inductive QuestionType where
  | singleChoice
  | multipleChoice
  | shortAnswer
  | essay
  | fileUpload
  | fillBlankText
  | fillBlankDropdown
  deriving DecidableEq

namespace QuestionType

/-- The written name. -/
def name : QuestionType → String
  | .singleChoice => "SINGLE_CHOICE"
  | .multipleChoice => "MULTIPLE_CHOICE"
  | .shortAnswer => "SHORT_ANSWER"
  | .essay => "ESSAY"
  | .fileUpload => "FILE_UPLOAD"
  | .fillBlankText => "FILL_BLANK_TEXT"
  | .fillBlankDropdown => "FILL_BLANK_DROPDOWN"

instance : ToString QuestionType := ⟨name⟩

/-- Every type, in the order in which messages list them. -/
def all : List QuestionType :=
  [.singleChoice, .multipleChoice, .shortAnswer, .essay, .fileUpload, .fillBlankText,
    .fillBlankDropdown]

/-- Whether a rule decides if an answer is correct. -/
def isAutoGradable : QuestionType → Bool
  | .singleChoice => true
  | .multipleChoice => true
  | .fillBlankText => true
  | .fillBlankDropdown => true
  | .shortAnswer => false
  | .essay => false
  | .fileUpload => false

/-- Whether a person decides if an answer is correct. -/
def isSubjective (t : QuestionType) : Bool := !t.isAutoGradable

end QuestionType

/-- One of the options of a question. -/
structure AnswerOption where
  /-- The identifier. -/
  id : Int
  /-- The question it belongs to. -/
  questionId : Int
  /-- What the student reads. -/
  optionText : String
  /-- Whether it is to be chosen. -/
  isCorrect : Bool
  /-- Its place among the options. -/
  orderIndex : Int
  /-- The blank that offers it. -/
  blankId : Option Int
  deriving DecidableEq

/-- A rule for the texts that fill a blank. -/
structure TextRule where
  /-- The identifier. -/
  id : Int
  /-- The question it belongs to. -/
  questionId : Int
  /-- The text that is looked for. -/
  answerText : Option String
  /-- The blank it is for; a rule without one is for every blank. -/
  blankId : Option Int
  /-- The place of that blank. -/
  blankPosition : Option Int
  /-- Whether capitals count. -/
  caseSensitive : Bool
  /-- Whether nothing may stand around the text. -/
  exactMatch : Bool
  deriving DecidableEq

/-- A question with its key. -/
structure Question where
  /-- The identifier. -/
  id : Int
  /-- The quiz it belongs to. -/
  quizId : Int
  /-- What kind of answer it asks for. -/
  type : QuestionType
  /-- What the student reads. -/
  text : String
  /-- The points to be had. -/
  points : Decimal
  /-- Its place in the quiz. -/
  orderIndex : Int
  /-- The options to choose from. -/
  options : List AnswerOption
  /-- The rules for texts. -/
  rules : List TextRule
  deriving DecidableEq

/-! ## Ascending lists -/

section Ascending

variable {α : Type} [LT α] [DecidableLT α] [DecidableEq α]

/-- Puts an item into its place in an ascending list, unless it is there. -/
def insertAscending (n : α) : List α → List α
  | [] => [n]
  | m :: rest => if n < m then n :: m :: rest else if n = m then m :: rest else m :: insertAscending n rest

@[simp]
theorem mem_insertAscending {n k : α} {ns : List α} :
    k ∈ insertAscending n ns ↔ k = n ∨ k ∈ ns := by
  induction ns with
  | nil => simp [insertAscending]
  | cons m rest ih =>
    unfold insertAscending
    split
    · simp
    · split
      · rename_i h
        subst h
        simp
      · simp [ih, or_left_comm]

/-- The items of a list, ascending and without repeats. -/
def ascending (ns : List α) : List α := ns.foldr insertAscending []

@[simp]
theorem mem_ascending {k : α} {ns : List α} : k ∈ ascending ns ↔ k ∈ ns := by
  induction ns with
  | nil => simp [ascending]
  | cons n rest ih =>
    simp only [ascending, List.foldr_cons, mem_insertAscending, List.mem_cons] at ih ⊢
    rw [ih]

variable [Trans (fun a b : α => a < b) (fun a b : α => a < b) (fun a b : α => a < b)]
  [Std.Trichotomous fun a b : α => a < b]

theorem pairwise_insertAscending (n : α) {ns : List α} (h : ns.Pairwise (· < ·)) :
    (insertAscending n ns).Pairwise (· < ·) := by
  induction ns with
  | nil => exact List.pairwise_singleton _ _
  | cons m rest ih =>
    obtain ⟨hrest, hp⟩ := List.pairwise_cons.1 h
    unfold insertAscending
    split
    · rename_i hlt
      refine List.pairwise_cons.2 ⟨fun k hk => ?_, h⟩
      rcases List.mem_cons.1 hk with rfl | hk
      · exact hlt
      · exact Trans.trans hlt (hrest k hk)
    · rename_i hnlt
      split
      · exact h
      · rename_i hne
        refine List.pairwise_cons.2 ⟨fun k hk => ?_, ih hp⟩
        rcases mem_insertAscending.1 hk with rfl | hk
        · exact Decidable.byContradiction fun hgt => hne (Std.Trichotomous.trichotomous k m hnlt hgt)
        · exact hrest k hk

theorem pairwise_ascending (ns : List α) : (ascending ns).Pairwise (· < ·) := by
  induction ns with
  | nil => exact List.Pairwise.nil
  | cons n rest ih => exact pairwise_insertAscending n ih

end Ascending

namespace Question

/-! ## The key -/

/-- The first option with that identifier. -/
def option? (question : Question) (optionId : Int) : Option AnswerOption :=
  question.options.find? (·.id == optionId)

/-- The identifiers of the correct options. -/
def correctOptionIds (question : Question) : List Int :=
  ascending ((question.options.filter (·.isCorrect)).map (·.id))

/-- The blanks that the options name. -/
def optionBlankIds (question : Question) : List Int :=
  ascending (question.options.filterMap (·.blankId))

/-- The blanks that the rules name. -/
def ruleBlankIds (question : Question) : List Int :=
  ascending (question.rules.filterMap (·.blankId))

/-- The texts of the rules. -/
def ruleTexts (question : Question) : List String :=
  question.rules.filterMap (·.answerText)

end Question

end QuizEngine
