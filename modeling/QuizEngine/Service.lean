import QuizEngine.Engine
import QuizEngine.KeyedLocks

/-!
# Calls under way

A `Service` is an engine with the locks of its attempts, and the calls that are under way at
the same time. A call first looks up to which attempts its answers belong (`Call.lookups`).
Then it asks for the locks of its attempts (`Call.lockPlan`), for each one when it has the one
before. When it has them all it does its work, and gives them back together
(`Service.advance?`).

An answer is recorded under the read side of the lock of its attempt, and whatever else is
written to an attempt under the write side. A batch of grades takes the locks of all its
attempts, each once and in the order of their identifiers.

Finding the lock of an attempt and taking a place in its queue are one step, and so is all the
work of a call that has its locks: nobody waits in between. A caller may go away at any time;
then the call gives back what it has and leaves the queue that it waits in (`Service.abort`).
-/

namespace QuizEngine

namespace Call

/-- Whether the call starts an attempt. Starts lock the place of the student at the quiz and
no attempt. -/
def isStart : Call → Bool
  | .start _ _ => true
  | _ => false

/-- The answers whose attempts a call looks up first. -/
def lookups : Call → List Uuid
  | .grade answerId _ => [answerId]
  | .bulkGrade entries => (entries.map (·.answerId)).eraseDups
  | _ => []

/-- The locks that a call takes one after the other, when its answers belong to the attempts
found. -/
def lockPlan (found : List Uuid) : Call → List (Uuid × LockSide)
  | .record attemptId _ _ _ => [(attemptId, .read)]
  | .submit attemptId => [(attemptId, .write)]
  | .abandon attemptId => [(attemptId, .write)]
  | .grade _ _ => (found.head?.map (·, .write)).toList
  | .bulkGrade _ => (ascending found).map (·, .write)
  | _ => []

end Call

/-- How far a call is. -/
inductive Stage where
  /-- It looks up the attempts of these answers, and has found those of others. -/
  | lookingUp (left found : List Uuid)
  /-- It has asked for locks, for the first of the list last, and is to ask for others. -/
  | locking (asked : List Uuid) (left : List (Uuid × LockSide))
  /-- It is over, with what came of it unless it was given up. -/
  | finished (outcome : Option (Except Failure Reply))

/-- A call under way. -/
structure Operation where
  /-- Who makes the call and when. -/
  ctx : Context
  /-- The call. -/
  call : Call
  /-- How far it is. -/
  stage : Stage

/-- An engine, the locks of its attempts, and the calls under way. -/
structure Service where
  /-- The engine. -/
  engine : Engine
  /-- The locks of attempts. A request bears the number of its call, and the attempt. -/
  locks : KeyedLocks Uuid (Nat × Uuid) := {}
  /-- The calls in the order in which they came in. -/
  operations : List Operation := []

namespace Service

/-- How far the call of a number is. -/
def stage? (s : Service) (i : Nat) : Option Stage := s.operations[i]?.map (·.stage)

/-- Moves the call of a number on. -/
def setStage (s : Service) (i : Nat) (stage : Stage) : Service :=
  { s with operations := s.operations.modify i fun op => { op with stage := stage } }

/-- Whether a call waits for the lock that it asked for last. -/
def isWaiting (s : Service) (i : Nat) (asked : List Uuid) : Bool :=
  asked.head?.any fun key => s.locks.state (i, key) != .held

/-- Asks for one more lock. -/
def ask (s : Service) (i : Nat) (key : Uuid) (side : LockSide) : Service :=
  { s with locks := (s.locks.request (i, key) key side).2 }

/-- Gives locks back, and the places of those that are not granted yet. -/
def giveBack (s : Service) (i : Nat) (asked : List Uuid) : Service :=
  { s with locks := s.locks.releaseAll (asked.map (i, ·)) }

/-- The next step of a call: there is none while it waits for a lock, and none when it is
over. -/
def advance? (s : Service) (i : Nat) : Option Service :=
  match s.operations[i]? with
  | none => none
  | some op =>
    match op.stage with
    | .lookingUp (answerId :: left) found =>
      let attemptId := (s.engine.store.findAnswer answerId).map (·.attemptId)
      some (s.setStage i (.lookingUp left (found ++ attemptId.toList)))
    | .lookingUp [] found => some (s.setStage i (.locking [] (op.call.lockPlan found)))
    | .locking asked left =>
      if s.isWaiting i asked then none
      else
        match left with
        | (key, side) :: left => some ((s.ask i key side).setStage i (.locking (key :: asked) left))
        | [] =>
          let (outcome, engine) := s.engine.perform op.ctx op.call
          some { (s.giveBack i asked).setStage i (.finished (some outcome)) with engine := engine }
    | .finished _ => none

/-- The service when the caller of a call goes away. -/
def abort (s : Service) (i : Nat) : Service :=
  match s.stage? i with
  | some (.lookingUp _ _) => s.setStage i (.finished none)
  | some (.locking asked _) => (s.giveBack i asked).setStage i (.finished none)
  | some (.finished _) => s
  | none => s

/-- What happens to a service. -/
inductive Move where
  /-- A call that starts no attempt comes in. -/
  | arrive (ctx : Context) (call : Call) (isNoStart : call.isStart = false)
  /-- A call takes its next step. -/
  | advance (i : Nat)
  /-- The caller of a call goes away. -/
  | abort (i : Nat)
  /-- Anything else happens to the engine. -/
  | elsewhere (engine : Engine)

/-- The service after a move. A call that waits stays where it is. -/
def after (s : Service) : Move → Service
  | .arrive ctx call _ =>
    { s with operations := s.operations ++ [⟨ctx, call, .lookingUp call.lookups []⟩] }
  | .advance i => (s.advance? i).getD s
  | .abort i => s.abort i
  | .elsewhere engine => { s with engine := engine }

/-- The service after moves one after the other. -/
def run (s : Service) (moves : List Move) : Service := moves.foldl after s

end Service

end QuizEngine
