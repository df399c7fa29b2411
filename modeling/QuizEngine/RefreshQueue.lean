import QuizEngine.Overflow

/-!
# The queue of refresh requests

A `RefreshQueue` holds the quizzes whose statistics are to be computed anew, in the order
in which they were asked for. It takes a request while its worker is there and fewer
requests wait than it has room for, and drops it otherwise (`enqueue_eq_true_iff`). The
worker takes the oldest request (`RefreshQueue.next?`); a run takes them all, and the worker
ends when nothing waits and nobody can ask any more.
-/

namespace QuizEngine

/-- Requests that wait for the worker. -/
structure RefreshQueue where
  /-- How many requests may wait. -/
  room : Nat
  /-- The quizzes to be refreshed, oldest request first. -/
  waiting : List Int := []
  /-- For every handle ever made, whether it is still held. -/
  handles : List Bool := [true]
  /-- Whether the worker is there. -/
  hasWorker : Bool := true
  deriving DecidableEq

/-- What a worker is after a run. -/
inductive WorkerState where
  /-- It waits for requests. -/
  | waiting
  /-- It ended, because nobody can ask any more. -/
  | stopped
  /-- It was not there. -/
  | gone
  deriving DecidableEq

/-- The written name of a worker's state. -/
def WorkerState.name : WorkerState → String
  | .waiting => "waiting"
  | .stopped => "stopped"
  | .gone => "gone"

namespace RefreshQueue

/-- A queue with a worker and one handle. There is always room for one request, and never
for more than `greatestRoom`. -/
def ofCapacity (capacity : Nat) : Except Overflow RefreshQueue :=
  if capacity ≤ greatestRoom then .ok { room := max capacity 1 } else .error .room

/-- Whether a handle is held. -/
def holds (q : RefreshQueue) (handle : Nat) : Bool := q.handles[handle]? == some true

/-- Whether a request would be taken. -/
def accepts (q : RefreshQueue) : Bool := q.hasWorker && decide (q.waiting.length < q.room)

/-- Asks for a refresh: whether the request was taken, and the queue after it. -/
def enqueue (q : RefreshQueue) (quizId : Int) : Bool × RefreshQueue :=
  if q.accepts then (true, { q with waiting := q.waiting ++ [quizId] }) else (false, q)

/-- A request is taken when the worker is there and there is room. -/
theorem enqueue_eq_true_iff (q : RefreshQueue) (quizId : Int) :
    (q.enqueue quizId).1 = true ↔ q.hasWorker = true ∧ q.waiting.length < q.room := by
  unfold enqueue accepts
  split <;> simp_all

/-- Makes another handle, which is held when the first one is. -/
def clone (q : RefreshQueue) (handle : Nat) : Nat × RefreshQueue :=
  (q.handles.length, { q with handles := q.handles ++ [q.holds handle] })

/-- Gives a handle up. -/
def dropHandle (q : RefreshQueue) (handle : Nat) : RefreshQueue :=
  { q with handles := q.handles.set handle false }

/-- Ends the worker; what waits is dropped. -/
def dropWorker (q : RefreshQueue) : RefreshQueue := { q with hasWorker := false, waiting := [] }

/-- The oldest request, and the queue without it. -/
def next? (q : RefreshQueue) : Option (Int × RefreshQueue) :=
  match q.hasWorker, q.waiting with
  | true, quizId :: rest => some (quizId, { q with waiting := rest })
  | _, _ => none

/-- The queue when its worker finds nothing to do: the worker ends when no handle is held. -/
def settle (q : RefreshQueue) : WorkerState × RefreshQueue :=
  if !q.hasWorker then (.gone, q)
  else if q.handles.any (·) then (.waiting, q)
  else (.stopped, q.dropWorker)

/-- Lets the worker take all requests that wait: what it is afterwards, and the quizzes in
the order in which it took them. -/
def drain (q : RefreshQueue) : (WorkerState × List Int) × RefreshQueue :=
  let taken := if q.hasWorker then q.waiting else []
  let (state, q) := { q with waiting := [] }.settle
  ((state, taken), q)

end RefreshQueue

end QuizEngine
