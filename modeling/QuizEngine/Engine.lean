import QuizEngine.Lifecycle
import QuizEngine.ManualGrading
import QuizEngine.RefreshQueue
import QuizEngine.Wire.Report

/-!
# The engine

An `Engine` is a store and the queue of refresh requests. A `Call` is something that users
ask of it, and `Engine.perform` answers it: a submitted attempt puts its quiz on the queue,
every other call works on the store alone. `Engine.runWorker` lets the worker refresh what
waits on the queue.

## Scope

* Rows are kept in memory (`Store`). A database that is to keep them is found by its address
  (`DatabaseAddress`) and not opened, and what it would do with the rows is left out.
* A call sees one time (`Context.now`), also where a clock could be read once for each grade of
  a batch and once more for each try to write it.
* Statistics do not bear the time at which they were computed, which is that of the system and
  not that of a call.
* Versions of attempts have no greatest value (`Attempt.version`).
* The body of a request is a text (`Http.Request.body`). Bytes that are no text are left out.
* Nothing is logged, and the program ends where it would begin to listen.
* Calls that are under way at the same time take turns step by step (`Service`), and so do a
  queue and its worker (`QueueRun`).
-/

namespace QuizEngine

/-- A store and the queue of refresh requests. -/
structure Engine where
  /-- The rows. -/
  store : Store
  /-- The refresh requests. -/
  queue : RefreshQueue

/-- What users ask for. -/
inductive Call where
  /-- Start an attempt at a quiz. -/
  | start (quizId : Int) (client : ClientInfo)
  /-- Record an answer. -/
  | record (attemptId : Uuid) (questionId : Int) (raw : Json) (timeSpentSeconds : Option Int)
  /-- Submit an attempt. -/
  | submit (attemptId : Uuid)
  /-- Read the result of an attempt. -/
  | result (attemptId : Uuid)
  /-- Look through an attempt. -/
  | review (attemptId : Uuid)
  /-- Read an attempt in figures. -/
  | summary (attemptId : Uuid)
  /-- Abandon an attempt. -/
  | abandon (attemptId : Uuid)
  /-- List attempts of a student, or one's own. -/
  | history (quizId : Int) (studentId : Option Int)
  /-- Grade an answer. -/
  | grade (answerId : Uuid) (grade : Grade)
  /-- Grade several answers. -/
  | bulkGrade (entries : List GradeEntry)
  /-- List what is left to grade. -/
  | pending (quizId : Int)
  /-- Read the statistics of a quiz. -/
  | statistics (quizId : Int)

/-- What a call returns. -/
inductive Reply where
  | attempt (a : Attempt)
  | answer (a : Answer)
  | result (r : AttemptResult)
  | review (r : AttemptReview)
  | summary (s : AttemptSummary)
  | attempts (as : List Attempt)
  | answers (as : List Answer)
  | pending (ps : List PendingAnswer)
  | statistics (rows : List QuestionStatistics)

/-- What a call returns, in JSON. -/
def Reply.toJson : Reply → Json
  | .attempt a => a.toJson
  | .answer a => a.toJson
  | .result r => r.toJson
  | .review r => r.toJson
  | .summary s => s.toJson
  | .attempts as => .array (as.map Attempt.toJson)
  | .answers as => .array (as.map Answer.toJson)
  | .pending ps => .array (ps.map PendingAnswer.toJson)
  | .statistics rows => .array (rows.map fun r => r.toJson none)

namespace Engine

/-- The engine with another store. -/
def withStore (e : Engine) (s : Store) : Engine := { e with store := s }

/-- The outcome of a call that changes the store. -/
def ofOutcome (e : Engine) (f : α → Reply) (outcome : Outcome α) : Except Failure Reply × Engine :=
  (outcome.1.map f, e.withStore outcome.2)

/-- The outcome of a call that only reads. -/
def ofRead (e : Engine) (f : α → Reply) (result : Except Failure α) : Except Failure Reply × Engine :=
  (result.map f, e)

/-- Submits an attempt and asks for a refresh of its quiz. A request that is not taken is
forgotten. The quiz is put on the queue as soon as the attempt is written. -/
def submit (e : Engine) (ctx : Context) (attemptId : Uuid) : Except Failure AttemptResult × Engine :=
  match e.store.submitAttempt ctx attemptId with
  | (.ok result, s) => (.ok result, ⟨s, (e.queue.enqueue result.attempt.quizId).2⟩)
  | (.error cause, s) => (.error cause, e.withStore s)

/-- Answers a call. -/
def perform (e : Engine) (ctx : Context) : Call → Except Failure Reply × Engine
  | .start quizId client => e.ofOutcome .attempt (e.store.startAttempt ctx quizId client)
  | .record attemptId questionId raw seconds =>
    e.ofOutcome .answer (e.store.recordAnswer ctx attemptId questionId raw seconds)
  | .submit attemptId =>
    let (result, e) := e.submit ctx attemptId
    (result.map .result, e)
  | .result attemptId => e.ofRead .result (e.store.result ctx.caller attemptId)
  | .review attemptId => e.ofRead .review (e.store.review ctx.caller attemptId)
  | .summary attemptId => e.ofRead .summary (e.store.summary ctx.caller ctx.now attemptId)
  | .abandon attemptId => e.ofOutcome .attempt (e.store.abandonAttempt ctx attemptId)
  | .history quizId studentId =>
    e.ofRead .attempts (e.store.history ctx.caller quizId studentId)
  | .grade answerId grade => e.ofOutcome .answer (e.store.gradeAnswer ctx answerId grade)
  | .bulkGrade entries => e.ofOutcome .answers (e.store.bulkGrade ctx entries)
  | .pending quizId => e.ofRead .pending (orRefused (e.store.pending ctx.caller quizId))
  | .statistics quizId =>
    e.ofRead .statistics (orRefused (e.store.quizStatistics ctx.caller quizId))

/-! ## The worker -/

/-- Refreshes quizzes one after the other, up to the first that overflows. -/
def refreshAll : Store → List Int → Except Overflow Unit × Store
  | s, [] => (.ok (), s)
  | s, quizId :: rest =>
    match s.refreshStatistics quizId with
    | .ok s => refreshAll s rest
    | .error e => (.error e, s)

/-- Lets the worker refresh what waits, and says whether it is still there. An overflow ends
it. -/
def runWorker (e : Engine) : Except Overflow Bool × Engine :=
  let ((_, taken), queue) := e.queue.drain
  match refreshAll e.store taken with
  | (.ok (), s) => (.ok queue.hasWorker, ⟨s, queue⟩)
  | (.error cause, s) => (.error cause, ⟨s, queue.dropWorker⟩)

end Engine

end QuizEngine
