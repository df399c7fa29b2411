import QuizEngine.Table

/-!
# Locks under keys

Each key has a lock with a read side and a write side. A `KeyedLocks` registers the locks in
use by number, and holds the requests for them in the order in which they came. A lock is
granted in that order: the first request for it holds it, and when that is for the read
side, so do the requests for the read side that follow without a gap
(`KeyedLocks.holders`).

A lock is in use while a request refers to it. A request for a key finds the lock that is
in use there, or registers a new one and forgets those no longer in use.
-/

namespace QuizEngine

/-- A side of a lock. -/
inductive LockSide where
  /-- Many may hold it. -/
  | read
  /-- One may hold it, and nobody the other side. -/
  | write
  deriving DecidableEq

/-- A request for a side of a lock; it stands until it is given up or released. -/
structure LockRequest (κ : Type) (ν : Type := String) where
  /-- The number of the request. -/
  ticket : Nat
  /-- Who asked. -/
  name : ν
  /-- The key. -/
  key : κ
  /-- The number of the lock that stands for the key. -/
  lock : Nat
  /-- The side. -/
  side : LockSide
  deriving DecidableEq

/-- What has become of a request. -/
inductive LockState where
  /-- It holds its lock. -/
  | held
  /-- It waits. -/
  | waiting
  /-- It gave its lock or its place up. -/
  | released
  /-- There is no such request. -/
  | unknown
  deriving DecidableEq

/-- The written name of a state. -/
def LockState.name : LockState → String
  | .held => "held"
  | .waiting => "waiting"
  | .released => "released"
  | .unknown => "unknown"

/-- Locks, and the requests for them. -/
structure KeyedLocks (κ : Type) (ν : Type := String) where
  /-- The number of the lock under a key. -/
  entries : Table κ Nat := .empty
  /-- The number of the next new lock. -/
  fresh : Nat := 0
  /-- The number of the next request. -/
  ticket : Nat := 0
  /-- The requests that stand, oldest first. -/
  requests : List (LockRequest κ ν) := []

namespace KeyedLocks

variable {κ ν : Type}

/-! ## Reading -/

/-- Whether a request refers to the lock. -/
def inUse (l : KeyedLocks κ ν) (lock : Nat) : Bool := l.requests.any (·.lock == lock)

/-- How many locks are registered and in use. -/
def active (l : KeyedLocks κ ν) : Nat := l.entries.values.countP l.inUse

/-- The requests for one lock, oldest first. -/
def queue (l : KeyedLocks κ ν) (lock : Nat) : List (LockRequest κ ν) :=
  l.requests.filter (·.lock == lock)

/-- Those of a queue that hold the lock: a writer at its head, or the readers at its head. -/
def holders : List (LockRequest κ ν) → List (LockRequest κ ν)
  | [] => []
  | r :: rest =>
    match r.side with
    | .write => [r]
    | .read => r :: rest.takeWhile (·.side == .read)

/-- A writer holds a lock alone. -/
theorem holders_eq_singleton_of_write {q : List (LockRequest κ ν)} {r : LockRequest κ ν}
    (h : r ∈ holders q) (hw : r.side = .write) : holders q = [r] := by
  cases q with
  | nil => simp [holders] at h
  | cons a rest =>
    cases hs : a.side with
    | write => simp_all [holders]
    | read =>
      simp only [holders, hs, List.mem_cons] at h
      rcases h with rfl | h
      · simp [hs] at hw
      · have := (List.all_eq_true.1 List.all_takeWhile) r h
        simp [hw] at this

/-- Somebody holds a lock that is asked for. -/
theorem holders_ne_nil {q : List (LockRequest κ ν)} (h : q ≠ []) : holders q ≠ [] := by
  cases q with
  | nil => exact absurd rfl h
  | cons r rest => cases hs : r.side <;> simp [holders, hs]

/-- The request of a name. -/
def find? [DecidableEq ν] (l : KeyedLocks κ ν) (name : ν) : Option (LockRequest κ ν) :=
  l.requests.find? (·.name == name)

/-- Whether a request holds its lock. -/
def isHeld [DecidableEq κ] [DecidableEq ν] (l : KeyedLocks κ ν) (r : LockRequest κ ν) : Bool :=
  (holders (l.queue r.lock)).contains r

/-- What has become of the request of a name. -/
def state [DecidableEq κ] [DecidableEq ν] (l : KeyedLocks κ ν) (name : ν) : LockState :=
  match l.find? name with
  | some r => if l.isHeld r then .held else .waiting
  | none => .unknown

/-! ## Steps -/

/-- The number of the lock that is in use under a key, or of a new one that takes its
place. -/
def lockFor [DecidableEq κ] (l : KeyedLocks κ ν) (key : κ) : Nat × KeyedLocks κ ν :=
  match (l.entries.find? key).filter l.inUse with
  | some lock => (lock, l)
  | none =>
    let kept := l.entries.filterKeys fun k => ((l.entries.find? k).map l.inUse).getD false
    (l.fresh, { l with entries := kept.insert key l.fresh, fresh := l.fresh + 1 })

/-- Takes back the request of a name. -/
def withdraw [DecidableEq ν] (l : KeyedLocks κ ν) (name : ν) : KeyedLocks κ ν :=
  { l with requests := l.requests.filter (·.name != name) }

/-- Asks for a side of the lock of a key: what becomes of the request at once, and the locks
after it. An earlier request of the same name is taken back only then, so that it may be in
the way of the new one. -/
def request [DecidableEq κ] [DecidableEq ν] (l : KeyedLocks κ ν) (name : ν) (key : κ) (side : LockSide) :
    LockState × KeyedLocks κ ν :=
  let (lock, l) := l.lockFor key
  let r : LockRequest κ ν := ⟨l.ticket, name, key, lock, side⟩
  let asked := { l with ticket := l.ticket + 1, requests := l.requests ++ [r] }
  let state := if asked.isHeld r then .held else .waiting
  (state, { asked with requests := (l.withdraw name).requests ++ [r] })

/-- Gives up the lock or the place of a name. -/
def release [DecidableEq ν] (l : KeyedLocks κ ν) (name : ν) : LockState × KeyedLocks κ ν :=
  match l.find? name with
  | some _ => (.released, l.withdraw name)
  | none => (.unknown, l)

/-- Gives up the locks or the places of several names. -/
def releaseAll [DecidableEq ν] (l : KeyedLocks κ ν) (names : List ν) : KeyedLocks κ ν :=
  names.foldl (fun l name => (l.release name).2) l

end KeyedLocks

end QuizEngine
