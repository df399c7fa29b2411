import QuizEngine.Error
import QuizEngine.RefreshQueue

/-!
# The worker of a queue

The worker of a `RefreshQueue` takes the oldest request, refreshes its quiz, and goes on with
the next one whatever came of it. Between its steps others may ask for refreshes, or give up
their handles, or end the worker itself. A `QueueRun` is how far all this has come
(`QueueRun.after`).
-/

namespace QuizEngine

/-- What happens to a queue or its worker. -/
inductive QueueMove where
  /-- Somebody asks through a handle for a refresh. -/
  | enqueue (handle : Nat) (quizId : Int)
  /-- Somebody makes another handle from a handle. -/
  | clone (handle : Nat)
  /-- Somebody gives a handle up. -/
  | dropHandle (handle : Nat)
  /-- Somebody ends the worker. -/
  | dropWorker
  /-- The worker goes one step. A refresh that ends with the step has the outcome. -/
  | work (outcome : Except Error Unit)

/-- Whether a move is one of the worker. -/
def QueueMove.isWork : QueueMove → Bool
  | .work _ => true
  | _ => false

/-- The move, with another outcome if it is one of the worker. -/
def QueueMove.withOutcome (outcome : Except Error Unit) : QueueMove → QueueMove
  | .work _ => .work outcome
  | move => move

/-- A queue at work. -/
structure QueueRun where
  /-- The requests that wait. -/
  queue : RefreshQueue
  /-- The quiz that is being refreshed. -/
  current : Option Int := none
  /-- The quizzes of all requests that were taken, in the order in which they were made. -/
  accepted : List Int := []
  /-- The refreshes that came to an end, in their order, with their outcomes. -/
  refreshed : List (Int × Except Error Unit) := []

namespace QueueRun

/-- A queue of some capacity to which nothing has happened. -/
def start (capacity : Nat) : QueueRun := { queue := { room := max capacity 1 } }

/-- Asks through a handle for a refresh: whether the request was taken. Nobody can ask
through a handle that is not held. -/
def enqueue (r : QueueRun) (handle : Nat) (quizId : Int) : Bool × QueueRun :=
  if r.queue.holds handle then
    match r.queue.enqueue quizId with
    | (true, queue) => (true, { r with queue := queue, accepted := r.accepted ++ [quizId] })
    | (false, queue) => (false, { r with queue := queue })
  else (false, r)

/-- Ends the worker, and with it the refresh that it is at. -/
def dropWorker (r : QueueRun) : QueueRun :=
  { r with queue := r.queue.dropWorker, current := none }

/-- The worker ends its refresh, or takes the oldest request, or finds nothing to do. -/
def work (r : QueueRun) (outcome : Except Error Unit) : QueueRun :=
  match r.current with
  | some quizId =>
    { r with current := none, refreshed := r.refreshed ++ [(quizId, outcome)] }
  | none =>
    match r.queue.next? with
    | some (quizId, queue) => { r with queue := queue, current := some quizId }
    | none => { r with queue := r.queue.settle.2 }

/-- The queue after a move. -/
def after (r : QueueRun) : QueueMove → QueueRun
  | .enqueue handle quizId => (r.enqueue handle quizId).2
  | .clone handle => { r with queue := (r.queue.clone handle).2 }
  | .dropHandle handle => { r with queue := r.queue.dropHandle handle }
  | .dropWorker => r.dropWorker
  | .work outcome => r.work outcome

/-- The queue after moves one after the other. -/
def run (r : QueueRun) (moves : List QueueMove) : QueueRun := moves.foldl after r

end QueueRun

end QuizEngine
