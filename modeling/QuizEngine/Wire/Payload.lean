import QuizEngine.Json.Text
import QuizEngine.Payload
import QuizEngine.Wire.Record

/-!
# Payloads in JSON

A payload is written as an object with the name of its type under `type`
(`Payload.toJson`), and `Payload.ofJson` reads that form.

`Payload.parse` reads what a student sends for a question whose type is known: an object
that may leave the type out, and has the right one if it has one. What names another type
is refused (`PayloadError.otherTag`), and so is what is no object
(`PayloadError.notObject`).
-/

namespace QuizEngine

open Wire RecordReader

/-! ## Writing -/

/-- A text for a blank. -/
def TextBlank.toJson (b : TextBlank) : Json :=
  .object [("blank_id", .integer b.blankId), ("answer", .text b.answer)]

/-- An option for a blank. -/
def DropdownBlank.toJson (b : DropdownBlank) : Json :=
  .object [("blank_id", .integer b.blankId), ("selected_option_id", .integer b.selectedOptionId)]

/-- The type of question as a value. -/
def QuestionType.toJson (t : QuestionType) : Json := .text t.name

/-- The fields of a payload apart from its type. -/
def Payload.bodyFields : Payload → List (String × Json)
  | .singleChoice n => [("selected_option_id", .integer n)]
  | .multipleChoice ns => [("selected_option_ids", .array (ns.map .integer))]
  | .shortAnswer s => [("answer_text", .text s)]
  | .essay s => [("answer_text", .text s)]
  | .fileUpload path name => [("file_path", .text path), ("file_name", .ofOption .text name)]
  | .fillBlankText blanks => [("blanks", .array (blanks.map TextBlank.toJson))]
  | .fillBlankDropdown blanks => [("blanks", .array (blanks.map DropdownBlank.toJson))]

/-- A payload with its type. -/
def Payload.toJson (p : Payload) : Json :=
  .object (("type", p.type.toJson) :: p.bodyFields)

/-! ## Reading -/

/-- Reads a text for a blank. -/
def TextBlank.ofJson : Reader TextBlank :=
  (TextBlank.mk <$> field "blank_id" short <*> field "answer" text).innerRecord "struct TextBlank"

/-- Reads an option for a blank. -/
def DropdownBlank.ofJson : Reader DropdownBlank :=
  (DropdownBlank.mk <$> field "blank_id" short <*> field "selected_option_id" long).innerRecord
    "struct DropdownBlank"

/-- The types of question under their names. -/
def QuestionType.named : List (String × QuestionType) :=
  QuestionType.all.map fun t => (t.name, t)

/-- Reads a type of question. -/
def QuestionType.ofJson : Reader QuestionType := Wire.named false QuestionType.named

/-- Reads the fields of a payload of that type. -/
def Payload.bodyReader : QuestionType → RecordReader Payload
  | .singleChoice => .singleChoice <$> field "selected_option_id" long
  | .multipleChoice => .multipleChoice <$> field "selected_option_ids" (list long)
  | .shortAnswer => .shortAnswer <$> field "answer_text" text
  | .essay => .essay <$> field "answer_text" text
  | .fileUpload => .fileUpload <$> field "file_path" text <*> trailing "file_name" text
  | .fillBlankText => .fillBlankText <$> field "blanks" (list TextBlank.ofJson)
  | .fillBlankDropdown => .fillBlankDropdown <$> field "blanks" (list DropdownBlank.ofJson)

/-- What messages call the content of a payload of that type. -/
def Payload.bodyName (t : QuestionType) : String :=
  "struct variant AnswerPayload::" ++
    match t with
    | .singleChoice => "SingleChoice"
    | .multipleChoice => "MultipleChoice"
    | .shortAnswer => "ShortAnswer"
    | .essay => "Essay"
    | .fileUpload => "FileUpload"
    | .fillBlankText => "FillBlankText"
    | .fillBlankDropdown => "FillBlankDropdown"

/-- Reads the type that a payload names. -/
def Payload.tag : Reader QuestionType
  | .text s => named.find QuestionType.named s
  | v => .error (.invalidType v.found "variant identifier")

/-- Reads a payload that names its type: a field of an object, or the first element of a
list. -/
def Payload.ofJson : Reader Payload
  | .object fields => do
    match Json.lookup fields "type" with
    | none => .error (.missingField "type")
    | some v => (bodyReader (← tag v)).readFields fields
  | .array [] => .error (.missingField "type")
  | .array (v :: rest) => do
    let t ← tag v
    let r := bodyReader t
    r.readItems (bodyName t) (elements r.count ++ " in sequence") rest
  | v => .error (.invalidType v.found "internally tagged enum AnswerPayload")

/-! ## What students send -/

/-- Why a value is no payload for a question of some type. -/
inductive PayloadError where
  /-- It is no object. -/
  | notObject
  /-- It names something else as its type. -/
  | otherTag (tag : Json) (type : QuestionType)
  /-- Its fields are not those of the type. -/
  | unreadable (type : QuestionType) (cause : ReadError)

/-- What is reported of a value that is no payload. -/
def PayloadError.message : PayloadError → String
  | .notObject => "answer data must be a JSON object"
  | .otherTag tag type =>
    "answer type " ++ tag.toText ++ " does not match question type " ++ type.name
  | .unreadable type cause => type.name ++ " answer: " ++ cause.message

/-- Whether a value is the name of the type. -/
def QuestionType.isTag (t : QuestionType) : Json → Bool
  | .text s => s == t.name
  | _ => false

/-- Reads the payload of a question of that type. -/
def Payload.parse (type : QuestionType) : Json → Except PayloadError Payload
  | .object fields =>
    match Json.lookup fields "type" with
    | some tag =>
      if type.isTag tag then ((bodyReader type).readFields fields).mapError (.unreadable type)
      else .error (.otherTag tag type)
    | none => ((bodyReader type).readFields fields).mapError (.unreadable type)
  | _ => .error .notObject

end QuizEngine
