import QuizEngine.Numeral
import QuizEngine.Text.Percent
import QuizEngine.Text.Pieces
import QuizEngine.Uuid

/-!
# Paths

`Route.ofPath` says what a path leads to. Parts of it that stand for identifiers are kept as
they are written; `quizId?` and `uuid?` read them when the request is answered. Between two
slashes an identifier may be missing, and is then no identifier; at the end of a path it has
to be there.

`studentId?` reads the query of a list of attempts.
-/

namespace QuizEngine.Http

/-- What a path leads to. -/
inductive Route where
  | health
  /-- The attempts at a quiz. -/
  | attempts (quiz : String)
  /-- The answers of an attempt. -/
  | answers (attempt : String)
  | submit (attempt : String)
  | result (attempt : String)
  | review (attempt : String)
  | summary (attempt : String)
  | abandon (attempt : String)
  /-- The grade of an answer. -/
  | grade (answer : String)
  /-- A batch of grades. -/
  | bulkGrade
  /-- What is left to grade at a quiz. -/
  | pending (quiz : String)
  /-- The statistics of a quiz. -/
  | statistics (quiz : String)
  /-- Nothing. -/
  | unknown
  deriving DecidableEq

namespace Route

/-- What the parts of a path between its slashes lead to. -/
def ofParts : List String → Route
  | ["", "health"] => .health
  | ["", "api", "quizzes", quiz, "attempts"] => .attempts quiz
  | ["", "api", "attempts", attempt, "answers"] => .answers attempt
  | ["", "api", "attempts", attempt, "submit"] => .submit attempt
  | ["", "api", "attempts", attempt, "result"] => .result attempt
  | ["", "api", "attempts", attempt, "review"] => .review attempt
  | ["", "api", "attempts", attempt, "summary"] => .summary attempt
  | ["", "api", "attempts", attempt, "abandon"] => .abandon attempt
  | ["", "api", "grading", "bulk"] => .bulkGrade
  | ["", "api", "grading", "answers", answer] => if answer.isEmpty then .unknown else .grade answer
  | ["", "api", "grading", "quizzes", quiz, "pending"] => .pending quiz
  | ["", "api", "grading", "quizzes", quiz, "analytics"] => .statistics quiz
  | _ => .unknown

/-- What a path leads to. -/
def ofPath (path : String) : Route := ofParts (Text.pieces '/' path)

/-- Whether everybody may ask. -/
def isPublic : Route → Bool
  | .health => true
  | _ => false

/-- Whether only teachers and administrators may ask. -/
def isForGraders : Route → Bool
  | .grade _ => true
  | .bulkGrade => true
  | .pending _ => true
  | .statistics _ => true
  | .unknown => true
  | _ => false

/-- The methods that the path answers. -/
def methods : Route → List String
  | .health => ["GET"]
  | .attempts _ => ["GET", "POST"]
  | .answers _ => ["PUT"]
  | .submit _ => ["POST"]
  | .result _ => ["GET"]
  | .review _ => ["GET"]
  | .summary _ => ["GET"]
  | .abandon _ => ["POST"]
  | .grade _ => ["POST"]
  | .bulkGrade => ["POST"]
  | .pending _ => ["GET"]
  | .statistics _ => ["GET"]
  | .unknown => []

end Route

/-! ## Targets -/

/-- The path and the query of a target. -/
def splitTarget (target : String) : String × String :=
  let s := target.toList.takeWhile (· != '#')
  let path := s.takeWhile (· != '?')
  (String.ofList path, String.ofList (s.drop (path.length + 1)))

/-- A part of a path without percent signs, where that leaves a text. -/
def unescapedText? (s : String) : Option String :=
  String.fromUTF8? (ByteArray.mk (Text.unescapedBytes s.toList).toArray)

/-! ## Identifiers -/

/-- The identifier of a quiz in a path. -/
def quizId? (s : String) : Option Int := do (readLong (← unescapedText? s)).toOption

/-- The identifier of an attempt or an answer in a path. -/
def uuid? (s : String) : Option Uuid := do (Uuid.ofText (← unescapedText? s)).toOption

/-! ## The query of a list of attempts -/

/-- The name and the value of a field of a query; a plus sign is a blank. -/
def queryField (s : String) : Option String × Option String :=
  let plain := s.map fun c => if c = '+' then ' ' else c
  let name := plain.toList.takeWhile (· != '=')
  (unescapedText? (String.ofList name),
    unescapedText? (String.ofList (plain.toList.drop (name.length + 1))))

/-- The student whose attempts are asked for: none where the query names none, no answer
where it names several or something else. -/
def studentId? (query : String) : Option (Option Int) :=
  let named := ((Text.pieces '&' query).filter (!·.isEmpty)).map queryField |>.filter
    (·.1 == some "student_id")
  match named with
  | [] => some none
  | [(_, value)] => do some (some (← (readLong (← value)).toOption))
  | _ => none

end QuizEngine.Http
