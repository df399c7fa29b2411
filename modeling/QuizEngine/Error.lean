import QuizEngine.Attempt
import QuizEngine.Decimal.Arithmetic
import QuizEngine.Decimal.Text
import QuizEngine.Json.Basic

/-!
# Errors

An `Error` is the cause for which something is refused. `Error.kind` is what a client is
told to make of it, `Error.message` its text, `Error.body` the JSON of the response. Causes
inside the system have a text of their own for the log, and their response has a fixed one.

A `Failure` is an error, or an overflow that ends the call where it happens.
-/

namespace QuizEngine

/-- What a client may make of an error. -/
inductive ErrorKind where
  | notFound
  | forbidden
  | invalidState
  | outOfWindow
  | limitReached
  | timeExceeded
  | validationError
  | internal
  deriving DecidableEq

/-- The written name of a kind. -/
def ErrorKind.code : ErrorKind → String
  | .notFound => "not_found"
  | .forbidden => "forbidden"
  | .invalidState => "invalid_state"
  | .outOfWindow => "out_of_window"
  | .limitReached => "limit_reached"
  | .timeExceeded => "time_exceeded"
  | .validationError => "validation_error"
  | .internal => "internal"

/-- The status of a response with an error of that kind. -/
def ErrorKind.status : ErrorKind → Nat
  | .notFound => 404
  | .forbidden => 403
  | .invalidState => 409
  | .outOfWindow => 403
  | .limitReached => 409
  | .timeExceeded => 403
  | .validationError => 400
  | .internal => 500

/-- Why one entry of a batch of grades was refused. -/
structure GradeFailure where
  /-- The answer of the entry. -/
  answerId : Uuid
  /-- The kind of the cause. -/
  kind : ErrorKind
  /-- The text of the cause. -/
  reason : String
  deriving DecidableEq

/-- A rule that a field of a request breaks: the path of the field, the name of the rule and
its message where it has one. -/
structure FieldViolation where
  /-- The path of the field. -/
  path : String
  /-- The name of the rule. -/
  rule : String
  /-- The message. -/
  message : Option String
  deriving DecidableEq

/-- Why something is refused. -/
inductive Error where
  | config (text : String)
  | badRequest (text : String)
  | notFound (text : String)
  | forbidden (text : String)
  /-- Students cannot start attempts at the quiz. -/
  | notPublished (quizId : Int)
  /-- The attempt is another student's. -/
  | notOwner
  | outsideWindow (text : String)
  /-- The student has used up the attempts. -/
  | maxAttemptsReached (max : Int)
  /-- The attempt takes no more changes. -/
  | alreadySubmitted (status : AttemptStatus)
  | invalidState (text : String)
  /-- The time for the attempt is over. -/
  | timeExceeded (limitMinutes : Int)
  /-- The question is one of another quiz. -/
  | questionMismatch (questionId quizId : Int)
  | malformedAnswer (text : String)
  /-- More points than the question has. -/
  | pointsExceedMaximum (requested maximum : Decimal)
  /-- Somebody else wrote first. -/
  | conflict (text : String)
  /-- A batch of grades that was refused, and the answers graded before that. -/
  | bulkGrade (failures : List GradeFailure) (applied : List Uuid)
  /-- A request whose fields break rules. -/
  | validation (violations : List FieldViolation)
  | database (text : String)
  | json (text : String)
  /-- A cause of another component, with its bare text. -/
  | external (text : String)
  | internal (text : String)
  deriving DecidableEq

namespace Error

/-- What a client may make of the error; a batch is of the kind of its first failure. -/
def kind : Error → ErrorKind
  | .notFound _ => .notFound
  | .forbidden _ => .forbidden
  | .notPublished _ => .forbidden
  | .notOwner => .forbidden
  | .outsideWindow _ => .outOfWindow
  | .maxAttemptsReached _ => .limitReached
  | .alreadySubmitted _ => .invalidState
  | .invalidState _ => .invalidState
  | .conflict _ => .invalidState
  | .timeExceeded _ => .timeExceeded
  | .badRequest _ => .validationError
  | .questionMismatch _ _ => .validationError
  | .malformedAnswer _ => .validationError
  | .pointsExceedMaximum _ _ => .validationError
  | .validation _ => .validationError
  | .json _ => .validationError
  | .bulkGrade failures _ => (failures.head?.map (·.kind)).getD .validationError
  | .config _ => .internal
  | .database _ => .internal
  | .external _ => .internal
  | .internal _ => .internal

/-- The text of the error. A request that breaks rules has no text of its own, the rules it
breaks are listed instead. -/
def message : Error → String
  | .config text => "Configuration error: " ++ text
  | .badRequest text => "Bad request: " ++ text
  | .notFound text => "Not found: " ++ text
  | .forbidden text => "Forbidden: " ++ text
  | .notPublished quizId => s!"Quiz {quizId} is not published"
  | .notOwner => "Attempt does not belong to the caller"
  | .outsideWindow text => "Quiz is outside its availability window: " ++ text
  | .maxAttemptsReached max => s!"Maximum attempts reached ({max})"
  | .alreadySubmitted status => s!"Attempt is no longer in progress (status {status})"
  | .invalidState text => "Invalid state: " ++ text
  | .timeExceeded limit => s!"Time limit of {limit} minutes exceeded"
  | .questionMismatch questionId quizId => s!"Question {questionId} does not belong to quiz {quizId}"
  | .malformedAnswer text => "Malformed answer: " ++ text
  | .pointsExceedMaximum requested maximum =>
    s!"Points {requested} exceed the question maximum of {maximum}"
  | .conflict text => "Conflict: " ++ text
  | .bulkGrade failures _ => "Bulk grading rejected for " ++ toString failures.length ++ " answer(s)"
  | .validation _ => "Validation error"
  | .database text => "Database error: " ++ text
  | .json text => "JSON error: " ++ text
  | .external text => text
  | .internal text => "Internal error: " ++ text

/-- The text that a client is shown. -/
def shownMessage (e : Error) : String :=
  match e with
  | .config _ => "An unexpected error occurred"
  | .database _ => "An unexpected error occurred"
  | .external _ => "An unexpected error occurred"
  | .internal _ => "An unexpected error occurred"
  | e => e.message

/-- The cause when a table has no row where one is needed. -/
def rowNotFound : Error := .notFound "Resource not found"

/-- The cause when no connection to the database becomes free. -/
def poolTimedOut : Error :=
  .database "pool timed out while waiting for an open connection"

end Error

/-- The refusal of one entry of a batch for a cause. -/
def GradeFailure.ofError (answerId : Uuid) (cause : Error) : GradeFailure :=
  ⟨answerId, cause.kind, cause.message⟩

/-- A failure as JSON. -/
def GradeFailure.toJson (f : GradeFailure) : Json :=
  .object [("answer_id", .text f.answerId.toText), ("kind", .text f.kind.code),
    ("reason", .text f.reason)]

/-- The body of the response to an error. -/
def Error.body (e : Error) : Json :=
  let common := [("error", Json.text e.kind.code), ("message", Json.text e.shownMessage)]
  match e with
  | .bulkGrade failures applied =>
    .object (common ++ [("failures", .array (failures.map GradeFailure.toJson)),
      ("applied", .array (applied.map fun id => .text id.toText))])
  | _ => .object common

/-- How a call can go wrong. -/
inductive Failure where
  /-- It is refused. -/
  | refused (cause : Error)
  /-- A computation in it overflows. -/
  | overflowed (cause : Overflow)
  deriving DecidableEq

end QuizEngine
