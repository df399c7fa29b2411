import QuizEngine.Text.Blank

/-!
# Callers

Whoever asks for something is a user with a role. `Role.ofText?` reads the name of a role
in capital or small letters and with blanks around it; an instructor is a teacher.
-/

namespace QuizEngine

/-- What a user is to the system. -/
inductive Role where
  | student
  | teacher
  | admin
  deriving DecidableEq

namespace Role

/-- The written name. -/
def name : Role → String
  | .student => "STUDENT"
  | .teacher => "TEACHER"
  | .admin => "ADMIN"

/-- Every role, in the order in which messages list them. -/
def all : List Role := [.student, .teacher, .admin]

/-- The text in capitals without blanks around it, in which role names are compared. -/
def normalised (s : String) : String := (Text.trimmed s).map Char.toUpper

/-- The role of a name. -/
def ofText? (s : String) : Option Role :=
  match normalised s with
  | "STUDENT" => some .student
  | "TEACHER" => some .teacher
  | "INSTRUCTOR" => some .teacher
  | "ADMIN" => some .admin
  | _ => none

/-- What is reported of a name that no role has. -/
def unknownMessage (s : String) : String := "unknown role '" ++ normalised s ++ "'"

end Role

/-- The user who asks for something. -/
structure Caller where
  /-- The identifier of the user. -/
  userId : Int
  /-- The role of the user. -/
  role : Role
  deriving DecidableEq

/-- Administrators may do what the owner of a quiz may do. -/
def Caller.isPrivileged (caller : Caller) : Bool := caller.role == .admin

/-- Teachers and administrators may use the endpoints of graders. -/
def Caller.mayGrade (caller : Caller) : Bool := caller.role == .teacher || caller.role == .admin

end QuizEngine
