import QuizEngine.Caller
import QuizEngine.Score
import QuizEngine.Store.Write

/-!
# What calls have in common

Every call is made by somebody at some time (`Context`), and ends with a value or a failure
and with the store as it is then (`Outcome`). `Store.ownsQuiz` says who may manage a quiz:
its owner, and administrators. A `Snapshot` is a quiz with its questions and the answers of
one attempt, all that is needed to score the attempt or to show it.
-/

namespace QuizEngine

/-- Who makes a call and when, and the identifier of a row that the call adds. -/
structure Context where
  /-- Who makes the call. -/
  caller : Caller
  /-- The time of the call, and of everything that is done in it. -/
  now : Instant
  /-- The identifier of a new row. -/
  fresh : Uuid

/-- What a call returns, and the store after it. -/
abbrev Outcome (α : Type) := Except Failure α × Store

/-- A call that is refused. -/
def Outcome.refused (cause : Error) (s : Store) : Outcome α := (.error (.refused cause), s)

/-- A call that overflows. -/
def Outcome.overflowed (cause : Overflow) (s : Store) : Outcome α := (.error (.overflowed cause), s)

/-- An overflow as a failure. -/
def orOverflow (e : Except Overflow α) : Except Failure α := e.mapError .overflowed

/-- A refusal as a failure. -/
def orRefused (e : Except Error α) : Except Failure α := e.mapError .refused

@[simp]
theorem orOverflow_ok (a : α) : orOverflow (.ok a) = .ok a := rfl

@[simp]
theorem orOverflow_error (cause : Overflow) :
    (orOverflow (.error cause) : Except Failure α) = .error (.overflowed cause) := rfl

@[simp]
theorem orRefused_ok (a : α) : orRefused (.ok a) = .ok a := rfl

@[simp]
theorem orRefused_error (cause : Error) :
    (orRefused (.error cause) : Except Failure α) = .error (.refused cause) := rfl

namespace Store

/-! ## Rows that have to be there -/

/-- The quiz of an identifier. -/
def requireQuiz (s : Store) (id : Int) : Except Error Quiz :=
  match s.findQuiz id with
  | some quiz => .ok quiz
  | none => .error (.notFound s!"Quiz {id} not found")

/-- The question of an identifier. -/
def requireQuestion (s : Store) (id : Int) : Except Error Question :=
  match s.findQuestion id with
  | some question => .ok question
  | none => .error (.notFound s!"Question {id} not found")

/-- The attempt of an identifier. -/
def requireAttempt (s : Store) (id : Uuid) : Except Error Attempt :=
  match s.findAttempt id with
  | some attempt => .ok attempt
  | none => .error (attemptMissing id)

/-- The answer of an identifier. -/
def requireAnswer (s : Store) (id : Uuid) : Except Error Answer :=
  match s.findAnswer id with
  | some answer => .ok answer
  | none => .error (answerMissing id)

/-! ## Owners -/

/-- Whether the caller may manage the quiz. -/
def ownsQuiz (s : Store) (quizId : Int) (caller : Caller) : Bool :=
  caller.isPrivileged || s.owner? quizId == some caller.userId

/-- Refuses whoever may not manage the quiz. -/
def ensureOwner (s : Store) (quizId : Int) (caller : Caller) : Except Error Unit :=
  if s.ownsQuiz quizId caller then .ok ()
  else
    let user := caller.userId
    .error (.forbidden s!"user {user} does not own quiz {quizId}")

theorem ensureOwner_eq_ok_iff (s : Store) (quizId : Int) (caller : Caller) :
    s.ensureOwner quizId caller = .ok () ↔ s.ownsQuiz quizId caller = true := by
  unfold ensureOwner
  split <;> simp_all

end Store

/-! ## Snapshots -/

/-- A quiz, its questions, and the answers of one attempt. -/
structure Snapshot where
  /-- The quiz. -/
  quiz : Quiz
  /-- Its questions in order. -/
  questions : List Question
  /-- The answers of the attempt. -/
  answers : List Answer

namespace Snapshot

/-- What the store has of an attempt. -/
def load (s : Store) (attempt : Attempt) : Except Error Snapshot := do
  let quiz ← s.requireQuiz attempt.quizId
  return ⟨quiz, s.listQuestions attempt.quizId, s.listAnswers attempt.id⟩

/-- The score of the attempt. -/
def score (snapshot : Snapshot) : Except Overflow Score :=
  Score.aggregate snapshot.questions snapshot.answers snapshot.quiz.passingScore

/-- The answer to a question. -/
def answerFor (snapshot : Snapshot) (questionId : Int) : Option Answer :=
  snapshot.answers.find? (·.questionId == questionId)

/-- The snapshot as it would be with this answer written. -/
def withAnswer (snapshot : Snapshot) (answer : Answer) : Snapshot :=
  { snapshot with
    answers :=
      if snapshot.answers.any (·.id == answer.id) then
        snapshot.answers.map fun a => if a.id = answer.id then answer else a
      else snapshot.answers ++ [answer] }

end Snapshot

end QuizEngine
