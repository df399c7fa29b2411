import QuizEngine.RefreshWorker
import Mathlib.Data.List.Infix

/-!
# What becomes of a request

A request that was taken stands in line (`QueueRun.line`): it is refreshed, or it is being
refreshed, or it waits. The worker moves along the line and changes nothing in it
(`line_work`), somebody who asks goes to its end, and only the end of the worker breaks it
off. `Keeps` says so of one state, and every move keeps it (`Keeps.after`). Which requests were
taken can be read off the answers to those who asked (`accepted_run`).

Once nobody can ask any more, each step of the worker brings it one step nearer to its end
(`ahead_work`), so it ends after as many steps as are ahead (`run_of_abandoned`). What all
this comes to for any queue is `Delivers` (`run_delivers`).
-/

namespace QuizEngine

namespace RefreshQueue

variable {q : RefreshQueue}

theorem any_handles_iff : q.handles.any (·) = true ↔ ∃ handle, q.holds handle = true := by
  simp only [holds, List.any_eq_true, beq_iff_eq, List.mem_iff_getElem?]
  exact ⟨fun ⟨held, ⟨handle, h⟩, htrue⟩ => ⟨handle, htrue ▸ h⟩,
    fun ⟨handle, h⟩ => ⟨true, ⟨handle, h⟩, rfl⟩⟩

/-- Nobody comes to hold a handle by giving one up. -/
theorem holds_of_holds_dropHandle {handle other : Nat}
    (h : (q.dropHandle handle).holds other = true) : q.holds other = true := by
  simp only [holds, dropHandle, List.getElem?_set, beq_iff_eq] at h ⊢
  split at h
  · split at h <;> simp at h
  · exact h

/-- A handle that is held after another one is made stems from one that was held. -/
theorem holds_of_holds_clone {handle other : Nat}
    (h : (q.clone handle).2.holds other = true) : q.holds other = true ∨ q.holds handle = true := by
  simp only [clone, holds, List.getElem?_append, beq_iff_eq] at h ⊢
  split at h
  · exact Or.inl h
  · rw [List.getElem?_singleton] at h
    split at h
    · exact Or.inr (by simpa using h)
    · cases h

end RefreshQueue

namespace QueueRun

variable {r : QueueRun} {capacity : Nat} {dropped : Prop}

/-! ## The line -/

/-- The quizzes that were refreshed, the one that is being refreshed, and those that wait. -/
def line (r : QueueRun) : List Int :=
  r.refreshed.map Prod.fst ++ r.current.toList ++ r.queue.waiting

/-- What the worker does in one step. -/
theorem work_cases (r : QueueRun) (outcome : Except Error Unit) :
    (∃ quizId, r.current = some quizId ∧
      r.work outcome =
        { r with current := none, refreshed := r.refreshed ++ [(quizId, outcome)] }) ∨
    (∃ quizId rest, r.current = none ∧ r.queue.hasWorker = true ∧
      r.queue.waiting = quizId :: rest ∧
      r.work outcome =
        { r with queue := { r.queue with waiting := rest }, current := some quizId }) ∨
    (r.current = none ∧ r.queue.hasWorker = true ∧ r.queue.waiting = [] ∧
      (∀ handle, r.queue.holds handle = false) ∧
      r.work outcome = { r with queue := r.queue.dropWorker }) ∨
    (r.current = none ∧
      (r.queue.hasWorker = true → r.queue.waiting = [] ∧ ∃ handle, r.queue.holds handle = true) ∧
      r.work outcome = r) := by
  obtain ⟨q, current, accepted, refreshed⟩ := r
  cases current with
  | some quizId => exact Or.inl ⟨quizId, rfl, rfl⟩
  | none =>
    right
    cases hworker : q.hasWorker with
    | false =>
      refine Or.inr (Or.inr ⟨rfl, by simp, ?_⟩)
      simp [work, RefreshQueue.next?, RefreshQueue.settle, hworker]
    | true =>
      cases hwaiting : q.waiting with
      | cons quizId rest =>
        refine Or.inl ⟨quizId, rest, rfl, rfl, rfl, ?_⟩
        simp [work, RefreshQueue.next?, hworker, hwaiting]
      | nil =>
        right
        by_cases hheld : q.handles.any (·) = true
        · refine Or.inr ⟨rfl, fun _ => ⟨rfl, RefreshQueue.any_handles_iff.1 hheld⟩, ?_⟩
          simp only [work, RefreshQueue.next?, RefreshQueue.settle, hworker, hwaiting, hheld]
          rfl
        · refine Or.inl ⟨rfl, rfl, rfl, fun handle => ?_, ?_⟩
          · exact Bool.eq_false_iff.2 fun h => hheld (RefreshQueue.any_handles_iff.2 ⟨handle, h⟩)
          · simp only [work, RefreshQueue.next?, RefreshQueue.settle, hworker, hwaiting, hheld]
            rfl

/-- The worker leaves the line as it is. -/
theorem line_work (r : QueueRun) (outcome : Except Error Unit) :
    (r.work outcome).line = r.line ∧ (r.work outcome).accepted = r.accepted := by
  obtain ⟨quizId, hcurrent, heq⟩ | ⟨quizId, rest, hcurrent, -, hwaiting, heq⟩ |
    ⟨hcurrent, -, hwaiting, -, heq⟩ | ⟨-, -, heq⟩ := r.work_cases outcome
  · simp [heq, line, hcurrent]
  · simp [heq, line, hcurrent, hwaiting]
  · simp [heq, line, hcurrent, hwaiting, RefreshQueue.dropWorker]
  · simp [heq]

/-- A request that is taken goes to the end of the line; any other changes nothing. -/
theorem enqueue_cases (r : QueueRun) (handle : Nat) (quizId : Int) :
    (r.queue.holds handle = true ∧ r.queue.hasWorker = true ∧
      r.queue.waiting.length < r.queue.room ∧
      r.enqueue handle quizId = (true, { r with
        queue := { r.queue with waiting := r.queue.waiting ++ [quizId] }
        accepted := r.accepted ++ [quizId] })) ∨
    ((r.queue.holds handle = true → r.queue.hasWorker = true →
        r.queue.room ≤ r.queue.waiting.length) ∧
      r.enqueue handle quizId = (false, r)) := by
  by_cases hheld : r.queue.holds handle = true
  · by_cases haccepts : r.queue.accepts = true
    · obtain ⟨hworker, hroom⟩ :
          r.queue.hasWorker = true ∧ r.queue.waiting.length < r.queue.room := by
        simpa [RefreshQueue.accepts] using haccepts
      refine Or.inl ⟨hheld, hworker, hroom, ?_⟩
      simp [enqueue, RefreshQueue.enqueue, hheld, haccepts]
    · refine Or.inr ⟨fun _ hworker => ?_, ?_⟩
      · simpa [RefreshQueue.accepts, hworker] using haccepts
      · simp [enqueue, RefreshQueue.enqueue, hheld, haccepts]
  · exact Or.inr ⟨fun h => absurd h hheld, by simp [enqueue, hheld]⟩

/-! ## The answers to those who ask -/

/-- The quiz of a request that the queue takes with the move. -/
def takenBy (r : QueueRun) : QueueMove → Option Int
  | .enqueue handle quizId =>
    if r.queue.holds handle && (r.queue.enqueue quizId).1 then some quizId else none
  | _ => none

/-- The quizzes of all requests that are taken in the course of the moves, in their order. -/
def takenAlong (r : QueueRun) : List QueueMove → List Int
  | [] => []
  | move :: moves => (r.takenBy move).toList ++ (r.after move).takenAlong moves

theorem accepted_after (r : QueueRun) (move : QueueMove) :
    (r.after move).accepted = r.accepted ++ (r.takenBy move).toList := by
  cases move with
  | enqueue handle quizId =>
    by_cases hheld : r.queue.holds handle = true
    · rcases hanswer : r.queue.enqueue quizId with ⟨_ | _, queue⟩ <;>
        simp [QueueRun.after, QueueRun.enqueue, takenBy, hheld, hanswer]
    · simp [QueueRun.after, QueueRun.enqueue, takenBy, hheld]
  | clone handle => simp [QueueRun.after, takenBy]
  | dropHandle handle => simp [QueueRun.after, takenBy]
  | dropWorker => simp [QueueRun.after, QueueRun.dropWorker, takenBy]
  | work outcome => simp [QueueRun.after, (r.line_work outcome).2, takenBy]

/-- What is recorded as accepted are the requests to which the answer was yes. -/
theorem accepted_run (r : QueueRun) (moves : List QueueMove) :
    (r.run moves).accepted = r.accepted ++ r.takenAlong moves := by
  induction moves generalizing r with
  | nil => simp [run, takenAlong]
  | cons move moves ih =>
    calc ((r.after move).run moves).accepted
        = (r.after move).accepted ++ (r.after move).takenAlong moves := ih _
      _ = r.accepted ++ r.takenAlong (move :: moves) := by
        rw [accepted_after, takenAlong, List.append_assoc]

/-! ## What every move keeps -/

/-- Every request that was taken stands in line in its turn, except for those that were lost
because the worker was dropped. A worker that is gone leaves nothing in line that is not
refreshed, and where it was not dropped, it ended because no handle is held. -/
structure Keeps (capacity : Nat) (dropped : Prop) (r : QueueRun) : Prop where
  room : r.queue.room = max capacity 1
  bounded : r.queue.waiting.length ≤ max capacity 1
  inLine : ∃ lost, r.accepted = r.line ++ lost ∧
    (r.queue.hasWorker = true → lost = []) ∧ (¬dropped → lost = [])
  worker : dropped → r.queue.hasWorker = false
  gone : r.queue.hasWorker = false → r.current = none ∧ r.queue.waiting = []
  ended : r.queue.hasWorker = false → ¬dropped → ∀ handle, r.queue.holds handle = false

theorem keeps_start (capacity : Nat) : (start capacity).Keeps capacity False where
  room := rfl
  bounded := Nat.zero_le _
  inLine := ⟨[], rfl, fun _ => rfl, fun _ => rfl⟩
  worker := False.elim
  gone := fun h => nomatch h
  ended := fun h => nomatch h

namespace Keeps

theorem enqueue (h : r.Keeps capacity dropped) (handle : Nat) (quizId : Int) :
    (r.enqueue handle quizId).2.Keeps capacity dropped := by
  obtain ⟨-, hworker, hroom, heq⟩ | ⟨-, heq⟩ := r.enqueue_cases handle quizId
  · obtain ⟨lost, haccepted, hlost, -⟩ := h.inLine
    obtain rfl := hlost hworker
    rw [heq]
    refine ⟨h.room, ?_, ⟨[], ?_, fun _ => rfl, fun _ => rfl⟩, h.worker, fun hgone => ?_,
      fun hgone => ?_⟩
    · rw [List.length_append, List.length_singleton, ← h.room]
      exact hroom
    · simp [haccepted, line]
    · exact absurd hgone (by simp [hworker])
    · exact absurd hgone (by simp [hworker])
  · rwa [heq]

theorem clone (h : r.Keeps capacity dropped) (handle : Nat) :
    Keeps capacity dropped { r with queue := (r.queue.clone handle).2 } where
  room := h.room
  bounded := h.bounded
  inLine := h.inLine
  worker := h.worker
  gone := h.gone
  ended := fun hgone hkept other => Bool.eq_false_iff.2 fun hheld => by
    rcases RefreshQueue.holds_of_holds_clone hheld with hheld | hheld
    · exact absurd hheld (by simp [h.ended hgone hkept])
    · exact absurd hheld (by simp [h.ended hgone hkept])

theorem dropHandle (h : r.Keeps capacity dropped) (handle : Nat) :
    Keeps capacity dropped { r with queue := r.queue.dropHandle handle } where
  room := h.room
  bounded := h.bounded
  inLine := h.inLine
  worker := h.worker
  gone := h.gone
  ended := fun hgone hkept other => Bool.eq_false_iff.2 fun hheld =>
    absurd (RefreshQueue.holds_of_holds_dropHandle hheld) (by simp [h.ended hgone hkept])

theorem dropWorker (h : r.Keeps capacity dropped) : r.dropWorker.Keeps capacity True := by
  obtain ⟨lost, haccepted, -, -⟩ := h.inLine
  refine ⟨h.room, Nat.zero_le _, ⟨r.current.toList ++ r.queue.waiting ++ lost, ?_, ?_, ?_⟩,
    fun _ => rfl, fun _ => ⟨rfl, rfl⟩, fun _ hkept => absurd trivial hkept⟩
  · simp [haccepted, line, QueueRun.dropWorker, RefreshQueue.dropWorker]
  · exact fun hworker => nomatch hworker
  · exact fun hkept => absurd trivial hkept

theorem work (h : r.Keeps capacity dropped) (outcome : Except Error Unit) :
    (r.work outcome).Keeps capacity dropped := by
  have hline : ∃ lost, (r.work outcome).accepted = (r.work outcome).line ++ lost ∧
      (r.queue.hasWorker = true → lost = []) ∧ (¬dropped → lost = []) := by
    rw [(r.line_work outcome).1, (r.line_work outcome).2]
    exact h.inLine
  obtain ⟨quizId, -, heq⟩ | ⟨quizId, rest, -, hworker, hwaiting, heq⟩ |
    ⟨hcurrent, hworker, hwaiting, hnone, heq⟩ | ⟨-, -, heq⟩ := r.work_cases outcome
  · rw [heq] at hline ⊢
    exact ⟨h.room, h.bounded, hline, h.worker, fun hgone => ⟨rfl, (h.gone hgone).2⟩, h.ended⟩
  · have hbounded := h.bounded
    rw [hwaiting, List.length_cons] at hbounded
    rw [heq] at hline ⊢
    exact ⟨h.room, Nat.le_of_succ_le hbounded, hline, h.worker,
      fun hgone => absurd hgone (by simp [hworker]), h.ended⟩
  · obtain ⟨lost, haccepted, hlost, -⟩ := hline
    obtain rfl := hlost hworker
    rw [heq] at haccepted ⊢
    exact ⟨h.room, Nat.zero_le _, ⟨[], haccepted, fun _ => rfl, fun _ => rfl⟩,
      fun _ => rfl, fun _ => ⟨hcurrent, rfl⟩, fun _ _ => hnone⟩
  · rwa [heq]

/-- A move keeps what holds of a queue at work. -/
theorem after (h : r.Keeps capacity dropped) (move : QueueMove) :
    (r.after move).Keeps capacity (dropped ∨ move = .dropWorker) := by
  cases move with
  | enqueue handle quizId => simpa [QueueRun.after] using h.enqueue handle quizId
  | clone handle => simpa [QueueRun.after] using h.clone handle
  | dropHandle handle => simpa [QueueRun.after] using h.dropHandle handle
  | dropWorker => simpa [QueueRun.after] using h.dropWorker
  | work outcome => simpa [QueueRun.after] using h.work outcome

/-- Any moves keep what holds of a queue at work. -/
theorem run (h : r.Keeps capacity dropped) (moves : List QueueMove) :
    (r.run moves).Keeps capacity (dropped ∨ .dropWorker ∈ moves) := by
  induction moves generalizing r dropped with
  | nil => simpa [QueueRun.run] using h
  | cons move moves ih =>
    have hrest := ih (h.after move)
    rw [or_assoc, eq_comm, ← List.mem_cons] at hrest
    exact hrest

end Keeps

/-! ## Outcomes -/

/-- Two queues at work that differ at most in the outcomes of their refreshes. -/
structure Alike (r s : QueueRun) : Prop where
  queue : r.queue = s.queue
  current : r.current = s.current
  accepted : r.accepted = s.accepted
  refreshed : r.refreshed.map Prod.fst = s.refreshed.map Prod.fst

namespace Alike

variable {s : QueueRun}

/-- What a move does to the line does not depend on the outcome. -/
theorem after (h : r.Alike s) (move : QueueMove) (outcome : Except Error Unit) :
    (r.after move).Alike (s.after (move.withOutcome outcome)) := by
  obtain ⟨q, current, accepted, refreshed⟩ := r
  obtain ⟨q', current', accepted', refreshed'⟩ := s
  obtain ⟨rfl, rfl, rfl, hrefreshed⟩ := h
  cases move with
  | enqueue handle quizId =>
    simp only [QueueRun.after, QueueMove.withOutcome, QueueRun.enqueue]
    split
    · split <;> exact ⟨rfl, rfl, rfl, hrefreshed⟩
    · exact ⟨rfl, rfl, rfl, hrefreshed⟩
  | clone handle => exact ⟨rfl, rfl, rfl, hrefreshed⟩
  | dropHandle handle => exact ⟨rfl, rfl, rfl, hrefreshed⟩
  | dropWorker => exact ⟨rfl, rfl, rfl, hrefreshed⟩
  | work ended =>
    simp only [QueueRun.after, QueueMove.withOutcome, QueueRun.work]
    split
    · exact ⟨rfl, rfl, rfl, by simpa using hrefreshed⟩
    · split <;> exact ⟨rfl, rfl, rfl, hrefreshed⟩

theorem run (h : r.Alike s) (moves : List QueueMove) (outcome : Except Error Unit) :
    (r.run moves).Alike (s.run (moves.map (·.withOutcome outcome))) := by
  induction moves generalizing r s with
  | nil => exact h
  | cons move moves ih => exact ih (h.after move outcome)

end Alike

/-! ## The end of the worker -/

/-- The steps that the worker has ahead of it when nobody asks any more: two for each request
that waits, one for the refresh that it is at, and one to end. -/
def ahead (r : QueueRun) : Nat :=
  2 * r.queue.waiting.length + r.current.toList.length + r.queue.hasWorker.toNat

/-- Nobody can ask. -/
def Abandoned (r : QueueRun) : Prop := ∀ handle, r.queue.holds handle = false

/-- While nobody can ask, each step of the worker brings it nearer to its end. -/
theorem Keeps.ahead_work (h : r.Keeps capacity dropped) (hr : r.Abandoned)
    (outcome : Except Error Unit) : (r.work outcome).ahead = r.ahead - 1 := by
  obtain ⟨quizId, hcurrent, heq⟩ | ⟨quizId, rest, hcurrent, -, hwaiting, heq⟩ |
    ⟨hcurrent, hworker, hwaiting, -, heq⟩ | ⟨hcurrent, hidle, heq⟩ := r.work_cases outcome
  · simp only [heq, ahead, hcurrent, Option.toList_some, Option.toList_none, List.length_cons,
      List.length_nil]
    omega
  · simp only [heq, ahead, hcurrent, hwaiting, Option.toList_some, Option.toList_none,
      List.length_cons, List.length_nil]
    omega
  · simp [heq, ahead, hcurrent, hworker, hwaiting, RefreshQueue.dropWorker]
  · have hgone : r.queue.hasWorker = false := Bool.eq_false_iff.2 fun hworker => by
      obtain ⟨handle, hheld⟩ := (hidle hworker).2
      exact absurd hheld (by simp [hr handle])
    simp [heq, ahead, hcurrent, hgone, (h.gone hgone).2]

/-- While nobody can ask, nobody joins the line, and nobody comes to hold a handle. -/
theorem Keeps.after_of_abandoned (h : r.Keeps capacity dropped) (hr : r.Abandoned)
    {move : QueueMove} (hmove : move ≠ .dropWorker) :
    (r.after move).Abandoned ∧ (r.after move).line = r.line ∧
      (r.after move).ahead = r.ahead - move.isWork.toNat := by
  cases move with
  | enqueue handle quizId =>
    obtain ⟨hheld, -⟩ | ⟨-, heq⟩ := r.enqueue_cases handle quizId
    · exact absurd hheld (by simp [hr handle])
    · rw [QueueRun.after, heq]
      exact ⟨hr, rfl, rfl⟩
  | clone handle =>
    refine ⟨fun other => Bool.eq_false_iff.2 fun hheld => ?_, rfl, rfl⟩
    rcases RefreshQueue.holds_of_holds_clone hheld with hheld | hheld
    · exact absurd hheld (by simp [hr other])
    · exact absurd hheld (by simp [hr handle])
  | dropHandle handle =>
    refine ⟨fun other => Bool.eq_false_iff.2 fun hheld => ?_, rfl, rfl⟩
    exact absurd (RefreshQueue.holds_of_holds_dropHandle hheld) (by simp [hr other])
  | dropWorker => exact absurd rfl hmove
  | work outcome =>
    refine ⟨fun other => ?_, (r.line_work outcome).1, h.ahead_work hr outcome⟩
    obtain ⟨_, -, heq⟩ | ⟨_, _, -, -, -, heq⟩ | ⟨-, -, -, -, heq⟩ | ⟨-, -, heq⟩ :=
      r.work_cases outcome <;> (rw [QueueRun.after, heq]; exact hr other)

/-- While nobody can ask, the line stays as it is, and each step that the worker goes is one
less ahead of it. -/
theorem Keeps.run_of_abandoned (h : r.Keeps capacity dropped) (hr : r.Abandoned)
    {moves : List QueueMove} (hmoves : .dropWorker ∉ moves) :
    (r.run moves).line = r.line ∧ (r.run moves).ahead = r.ahead - moves.countP (·.isWork) := by
  induction moves generalizing r dropped with
  | nil => exact ⟨rfl, rfl⟩
  | cons move moves ih =>
    rw [List.mem_cons, not_or] at hmoves
    obtain ⟨habandoned, hline, hahead⟩ := h.after_of_abandoned hr (Ne.symm hmoves.1)
    obtain ⟨hline', hahead'⟩ := ih (h.after move) habandoned hmoves.2
    refine ⟨hline'.trans hline, hahead'.trans ?_⟩
    rw [hahead, List.countP_cons, Nat.sub_sub, Nat.add_comm]
    cases move.isWork <;> rfl

/-- Nothing is ahead of a worker that refreshed everything and ended. -/
theorem refreshed_of_ahead_eq_zero (h : r.ahead = 0) :
    r.queue.hasWorker = false ∧ r.refreshed.map Prod.fst = r.line := by
  obtain ⟨⟨hwaiting, hcurrent⟩, hworker⟩ :
      (r.queue.waiting = [] ∧ r.current = none) ∧ r.queue.hasWorker = false := by
    simpa [ahead, Nat.mul_eq_zero] using h
  exact ⟨hworker, by simp [line, hwaiting, hcurrent]⟩

/-- The steps of a worker that nobody disturbs, put together: it takes all that waits. -/
theorem run_work_of_hasWorker {q : RefreshQueue} (hworker : q.hasWorker = true)
    (outcome : Except Error Unit) (accepted waiting : List Int)
    (refreshed : List (Int × Except Error Unit)) :
    run ⟨{ q with waiting := waiting }, none, accepted, refreshed⟩
        (List.replicate (2 * waiting.length + 1) (.work outcome)) =
      ⟨RefreshQueue.settle { q with waiting := [] } |>.2, none, accepted,
        refreshed ++ waiting.map (·, outcome)⟩ := by
  induction waiting generalizing refreshed with
  | nil => simp [run, QueueRun.after, QueueRun.work, RefreshQueue.next?]
  | cons quizId rest ih =>
    have hlength : 2 * (quizId :: rest).length + 1 = 2 * rest.length + 1 + 1 + 1 := by
      rw [List.length_cons]
      omega
    have hrest := ih (refreshed ++ [(quizId, outcome)])
    rw [List.append_assoc, List.singleton_append] at hrest
    rw [hlength, List.replicate_succ, List.replicate_succ, List.map_cons, ← hrest]
    simp [run, QueueRun.after, QueueRun.work, RefreshQueue.next?, hworker]

/-- The steps of a worker that nobody disturbs come to a run of the worker. -/
theorem Keeps.run_work_eq_drain (h : r.Keeps capacity dropped) (hidle : r.current = none)
    (outcome : Except Error Unit) :
    r.run (List.replicate (2 * r.queue.waiting.length + 1) (.work outcome)) =
      { r with
        queue := r.queue.drain.2
        refreshed := r.refreshed ++ r.queue.drain.1.2.map (·, outcome) } := by
  obtain ⟨⟨room, waiting, handles, hasWorker⟩, current, accepted, refreshed⟩ := r
  obtain rfl : current = none := hidle
  cases hasWorker with
  | true =>
    exact run_work_of_hasWorker (q := ⟨room, waiting, handles, true⟩) rfl outcome accepted waiting
      refreshed
  | false =>
    obtain rfl : waiting = [] := (h.gone rfl).2
    simp [QueueRun.run, QueueRun.after, QueueRun.work, RefreshQueue.next?, RefreshQueue.settle,
      RefreshQueue.drain]

/-! ## Any moves -/

/-- What a queue of some capacity has delivered after some moves. -/
structure Delivers (capacity : Nat) (moves : List QueueMove) (r : QueueRun) : Prop where
  /-- No more requests wait than there is room for. -/
  bounded : r.queue.waiting.length ≤ max capacity 1
  /-- A request is taken when the worker is there and fewer wait than there is room for. -/
  taken : ∀ handle quizId, r.queue.holds handle = true →
    ((r.enqueue handle quizId).1 = true ↔
      r.queue.hasWorker = true ∧ r.queue.waiting.length < max capacity 1)
  /-- What was taken are the requests to which the queue said yes, in the order of the moves. -/
  answered : r.accepted = (start capacity).takenAlong moves
  /-- As long as somebody can ask, the worker is there unless it was dropped. -/
  alive : ¬r.Abandoned → (r.queue.hasWorker = true ↔ .dropWorker ∉ moves)
  /-- What was refreshed is what was taken first, in the order in which it was taken. -/
  inOrder : r.refreshed.map Prod.fst <+: r.accepted
  /-- What was taken and is not refreshed is being refreshed or waits, unless the worker was
  dropped. -/
  inLine : .dropWorker ∉ moves → r.accepted = r.line
  /-- It makes no difference to any of this how the refreshes end. -/
  outcomes : ∀ outcome, r.Alike ((start capacity).run (moves.map (·.withOutcome outcome)))
  /-- A worker that ended of itself refreshed all that was taken. -/
  ended : r.queue.hasWorker = false → .dropWorker ∉ moves →
    r.Abandoned ∧ r.refreshed.map Prod.fst = r.accepted
  /-- Once nobody can ask, the worker goes through all that waits in as many steps as it has
  ahead, whatever else happens in between, and ends. -/
  drained : r.Abandoned → ∀ later, .dropWorker ∉ later → r.ahead ≤ later.countP (·.isWork) →
    (r.run later).queue.hasWorker = false ∧ (r.run later).refreshed.map Prod.fst = r.line

/-- A queue delivers what it takes, in its order and once, whatever its capacity and whatever
happens to it. -/
theorem run_delivers (capacity : Nat) (moves : List QueueMove) :
    (∀ q, RefreshQueue.ofCapacity capacity = .ok q → (start capacity).queue = q) ∧
      ((start capacity).run moves).Delivers capacity moves := by
  have hkeeps := (keeps_start capacity).run moves
  rw [false_or] at hkeeps
  obtain ⟨lost, haccepted, hlost, hkept⟩ := hkeeps.inLine
  have hline : .dropWorker ∉ moves → ((start capacity).run moves).accepted =
      ((start capacity).run moves).line := fun h => by rw [haccepted, hkept h, List.append_nil]
  refine ⟨fun q hq => ?_, hkeeps.bounded, fun handle quizId hheld => ?_,
    (start capacity).accepted_run moves, fun hheld => ?_, ?_, hline, fun outcome => ?_,
    fun hgone hmoves => ?_, fun hnone later hlater hsteps => ?_⟩
  · rw [RefreshQueue.ofCapacity] at hq
    split at hq
    · exact Except.ok.inj hq
    · cases hq
  · rw [← hkeeps.room]
    obtain ⟨-, hworker, hroom, heq⟩ | ⟨hfull, heq⟩ :=
      ((start capacity).run moves).enqueue_cases handle quizId
    · simp [heq, hworker, hroom]
    · simpa [heq] using hfull hheld
  · refine ⟨fun hworker hdropped => ?_, fun hmoves => ?_⟩
    · exact absurd (hkeeps.worker hdropped) (by simp [hworker])
    · by_contra hgone
      exact hheld (hkeeps.ended (Bool.eq_false_iff.2 hgone) hmoves)
  · rw [haccepted, line, List.append_assoc, List.append_assoc]
    exact List.prefix_append _ _
  · exact Alike.run ⟨rfl, rfl, rfl, rfl⟩ moves outcome
  · obtain ⟨hcurrent, hwaiting⟩ := hkeeps.gone hgone
    exact ⟨hkeeps.ended hgone hmoves, by rw [hline hmoves]; simp [line, hcurrent, hwaiting]⟩
  · obtain ⟨hsame, hahead⟩ := hkeeps.run_of_abandoned hnone hlater
    rw [← hsame]
    exact refreshed_of_ahead_eq_zero (hahead.trans (Nat.sub_eq_zero_of_le hsteps))

/-- There is room for one request even without capacity, and giving the handle up does not
lose it. -/
example : ((start 0).run [.enqueue 0 1, .enqueue 0 2, .dropHandle 0, .work (.ok ()),
    .work (.ok ()), .work (.ok ())]).refreshed = [(1, .ok ())] := rfl

end QueueRun

end QuizEngine
