import QuizEngine.Proofs.Locks
import QuizEngine.Proofs.Run
import QuizEngine.Service
import Mathlib.Data.Finset.Max

/-!
# No call waits for ever

Calls wait for each other at the locks of attempts, and a batch of grades waits for one lock
while it holds others. Two batches with common attempts would wait for each other for ever if
they took their locks in different orders. They take them in the order of their identifiers
(`Call.pairwise_lockPlan`), so each call has asked for smaller locks than those it will ask
for (`Orderly`), whatever else happens meanwhile (`Orderly.after`). A call that works has all
its locks, so two calls never work on one attempt when one of them writes
(`Orderly.eq_of_not_isWaiting`).

Of all the requests that are not granted take one for the greatest lock. Whoever holds that
lock can only wait for a greater one, so it does not wait (`Orderly.exists_advance`). Each call
takes a bounded number of steps, so that all come to their end
(`Orderly.exists_run_isFinished`).
-/

namespace QuizEngine

/-! ## The order of locks -/

theorem Uuid.lt_irrefl (a : Uuid) : ¬a < a := Nat.lt_irrefl _

instance : Trans (fun a b : Uuid => a < b) (fun a b : Uuid => a < b) (fun a b : Uuid => a < b) :=
  ⟨Nat.lt_trans⟩

instance : Std.Trichotomous fun a b : Uuid => a < b where
  trichotomous a b hlt hgt := by
    cases a
    cases b
    cases Nat.le_antisymm (Nat.le_of_not_lt hgt) (Nat.le_of_not_lt hlt)
    rfl

/-- Every call takes its locks in ascending order, and none twice. -/
theorem Call.pairwise_lockPlan (call : Call) (found : List Uuid) :
    ((call.lockPlan found).map (·.1)).Pairwise (· < ·) := by
  cases call with
  | grade answerId grade => cases found <;> simp [lockPlan]
  | bulkGrade entries =>
    have hkeys : ((ascending found).map (·, LockSide.write)).map (·.1) = ascending found := by
      rw [List.map_map]
      exact List.map_id _
    rw [lockPlan, hkeys]
    exact pairwise_ascending found
  | _ => simp [lockPlan]

theorem length_insertAscending_le (id : Uuid) (ids : List Uuid) :
    (insertAscending id ids).length ≤ ids.length + 1 := by
  induction ids with
  | nil => exact Nat.le_refl _
  | cons a rest ih =>
    unfold insertAscending
    split
    · exact Nat.le_refl _
    · split
      · exact Nat.le_succ _
      · exact Nat.succ_le_succ ih

theorem length_ascending_le (ids : List Uuid) : (ascending ids).length ≤ ids.length := by
  induction ids with
  | nil => exact Nat.le_refl _
  | cons id rest ih => exact (length_insertAscending_le id _).trans (Nat.succ_le_succ ih)

/-- No call takes many more locks than it has found attempts. -/
theorem Call.length_lockPlan_le (call : Call) (found : List Uuid) :
    (call.lockPlan found).length ≤ found.length + 1 := by
  cases call with
  | grade answerId grade => cases found <;> simp [lockPlan]
  | bulkGrade entries =>
    rw [lockPlan, List.length_map]
    exact Nat.le_succ_of_le (length_ascending_le found)
  | _ => simp [lockPlan]

/-! ## What a call has asked for -/

/-- The locks that a call has asked for and not given back, the last one first. -/
def Stage.asked : Stage → List Uuid
  | .lookingUp _ _ => []
  | .locking asked _ => asked
  | .finished _ => []

/-- The locks that a call is still to ask for. -/
def Stage.left : Stage → List Uuid
  | .lookingUp _ _ => []
  | .locking _ left => left.map (·.1)
  | .finished _ => []

/-- Whether a call is over. -/
def Stage.isFinished : Stage → Bool
  | .finished _ => true
  | _ => false

/-- A bound on the steps that a call still takes. -/
def Stage.stepsLeft : Stage → Nat
  | .lookingUp left found => 2 * left.length + found.length + 3
  | .locking _ left => left.length + 1
  | .finished _ => 0

namespace Service

variable {s s' : Service} {i : Nat}

/-- The locks that the call of a number has asked for and not given back. -/
def askedBy (s : Service) (i : Nat) : List Uuid := ((s.stage? i).map (·.asked)).getD []

/-- The locks that the call of a number is still to ask for. -/
def leftTo (s : Service) (i : Nat) : List Uuid := ((s.stage? i).map (·.left)).getD []

theorem stage?_setStage (s : Service) (i : Nat) (stage : Stage) (j : Nat) :
    (s.setStage i stage).stage? j =
      if j = i then (s.stage? i).map fun _ => stage else s.stage? j := by
  simp only [stage?, setStage, List.getElem?_modify, Option.map_eq_map, Option.map_map]
  by_cases hj : j = i
  · subst hj
    simp [Function.comp_def]
  · simp [hj, Ne.symm hj, Function.comp_def]

theorem askedBy_setStage {old : Stage} (h : s.stage? i = some old) (stage : Stage) (j : Nat) :
    (s.setStage i stage).askedBy j = if j = i then stage.asked else s.askedBy j := by
  rw [askedBy, stage?_setStage, h]
  split <;> rfl

theorem leftTo_setStage {old : Stage} (h : s.stage? i = some old) (stage : Stage) (j : Nat) :
    (s.setStage i stage).leftTo j = if j = i then stage.left else s.leftTo j := by
  rw [leftTo, stage?_setStage, h]
  split <;> rfl

theorem askedBy_of_stage? {stage : Stage} (h : s.stage? i = some stage) :
    s.askedBy i = stage.asked := by
  rw [askedBy, h]
  rfl

theorem leftTo_of_stage? {stage : Stage} (h : s.stage? i = some stage) :
    s.leftTo i = stage.left := by
  rw [leftTo, h]
  rfl

/-- A call that has asked for a lock and not given it back is not over. -/
theorem exists_open_of_mem_askedBy {key : Uuid} (h : key ∈ s.askedBy i) :
    ∃ stage, s.stage? i = some stage ∧ stage.isFinished = false := by
  rw [askedBy] at h
  cases hstage : s.stage? i with
  | none => simp [hstage] at h
  | some stage =>
    rw [hstage] at h
    cases stage with
    | locking asked left => exact ⟨_, rfl, rfl⟩
    | lookingUp left found => cases h
    | finished outcome => cases h

/-! ## What a step of a call can be -/

/-- A call looks something up, or asks for its next lock when it has the last one, or does its
work and gives all its locks back. -/
theorem advance?_cases (h : s.advance? i = some s') :
    (∃ old stage, s.stage? i = some old ∧ old.asked = [] ∧ stage.asked = [] ∧
      stage.left.Pairwise (· < ·) ∧ stage.stepsLeft < old.stepsLeft ∧ s' = s.setStage i stage) ∨
    (∃ asked key side left, s.stage? i = some (.locking asked ((key, side) :: left)) ∧
      s.isWaiting i asked = false ∧ s' = (s.ask i key side).setStage i (.locking (key :: asked) left)) ∨
    ∃ asked outcome engine, s.stage? i = some (.locking asked []) ∧ s.isWaiting i asked = false ∧
      s' = { (s.giveBack i asked).setStage i (.finished outcome) with engine := engine } := by
  unfold advance? at h
  split at h
  · cases h
  · rename_i op hop
    have hstage : s.stage? i = some op.stage := by rw [stage?, hop, Option.map_some]
    split at h
    · rename_i answerId left found hst
      rw [hst] at hstage
      refine Or.inl ⟨_, _, hstage, rfl, rfl, List.Pairwise.nil, ?_, (Option.some.inj h).symm⟩
      have : ((s.engine.store.findAnswer answerId).map (·.attemptId)).toList.length ≤ 1 := by
        cases s.engine.store.findAnswer answerId <;> simp
      simp only [Stage.stepsLeft, List.length_append, List.length_cons]
      omega
    · rename_i found hst
      rw [hst] at hstage
      refine Or.inl ⟨_, .locking [] (op.call.lockPlan found), hstage, rfl, rfl,
        op.call.pairwise_lockPlan found, ?_, (Option.some.inj h).symm⟩
      have := op.call.length_lockPlan_le found
      simp only [Stage.stepsLeft, List.length_nil]
      omega
    · rename_i asked left hst
      rw [hst] at hstage
      split at h
      · cases h
      · rename_i hwait
        rw [Bool.not_eq_true] at hwait
        split at h
        · exact Or.inr (Or.inl ⟨_, _, _, _, hstage, hwait, (Option.some.inj h).symm⟩)
        · exact Or.inr (Or.inr ⟨_, _, _, hstage, hwait, (Option.some.inj h).symm⟩)
    · cases h

/-- A call that is not over and takes no step waits for the lock that it asked for last. -/
theorem isWaiting_of_advance?_eq_none {stage : Stage} (h : s.advance? i = none)
    (hstage : s.stage? i = some stage) (hopen : stage.isFinished = false) :
    ∃ key rest left, stage = .locking (key :: rest) left ∧ s.locks.state (i, key) ≠ .held := by
  obtain ⟨op, hop, rfl⟩ := Option.map_eq_some_iff.1 hstage
  simp only [advance?, hop] at h
  split at h
  · cases h
  · cases h
  · rename_i asked left hst
    split at h
    · rename_i hwait
      cases asked with
      | nil => cases hwait
      | cons key rest => exact ⟨key, rest, left, hst, by simpa [isWaiting] using hwait⟩
    · split at h <;> cases h
  · rename_i hst
    rw [hst] at hopen
    cases hopen

/-! ## What the locks of calls keep -/

/-- The requests for locks are those of the calls, each call asks for its locks in ascending
order, and holds all of them but perhaps the last one. -/
structure Orderly (s : Service) : Prop where
  registered : s.locks.Registered
  named : ∀ r ∈ s.locks.requests, r.name.2 = r.key
  standing : ∀ i key, (∃ r ∈ s.locks.requests, r.name = (i, key)) ↔ key ∈ s.askedBy i
  ascending : ∀ i, ((s.askedBy i).reverse ++ s.leftTo i).Pairwise (· < ·)
  granted : ∀ r ∈ s.locks.requests, r.key ∈ (s.askedBy r.name.1).tail → s.locks.isHeld r = true

/-- In the beginning no call is under way. -/
theorem orderly_start (engine : Engine) : Orderly { engine := engine } where
  registered := KeyedLocks.registered_empty
  named := by simp
  standing := by simp [askedBy, stage?]
  ascending := by simp [askedBy, leftTo, stage?]
  granted := by simp

namespace Orderly

/-- What touches no lock, and what no call has asked for, keeps the order. -/
theorem of_locks_eq (h : s.Orderly) (hlocks : s'.locks = s.locks)
    (hasked : ∀ j, s'.askedBy j = s.askedBy j)
    (hleft : ∀ j, s'.leftTo j = s.leftTo j ∨ s.askedBy j = [] ∧ (s'.leftTo j).Pairwise (· < ·)) :
    s'.Orderly where
  registered := hlocks ▸ h.registered
  named := hlocks ▸ h.named
  standing := fun j key => by rw [hlocks, hasked, h.standing]
  ascending := fun j => by
    rw [hasked]
    rcases hleft j with heq | ⟨hnil, hpair⟩
    · rw [heq]
      exact h.ascending j
    · rw [hnil]
      exact hpair
  granted := fun r hr hmem => by
    rw [hasked] at hmem
    rw [hlocks] at hr ⊢
    exact h.granted r hr hmem

/-- A call that has asked for nothing may go on with any plan in ascending order. -/
theorem setStage (h : s.Orderly) {old stage : Stage} (hstage : s.stage? i = some old)
    (hold : old.asked = []) (hnew : stage.asked = []) (hplan : stage.left.Pairwise (· < ·)) :
    (s.setStage i stage).Orderly := by
  have hidle : s.askedBy i = [] := (askedBy_of_stage? hstage).trans hold
  refine h.of_locks_eq rfl (fun j => ?_) fun j => ?_
  · rw [askedBy_setStage hstage, hnew]
    split
    · rename_i hj
      rw [hj, hidle]
    · rfl
  · rw [leftTo_setStage hstage]
    split
    · rename_i hj
      exact Or.inr ⟨hj ▸ hidle, hplan⟩
    · exact Or.inl rfl

/-- The request of a call for a lock that it has asked for. -/
theorem exists_request (h : s.Orderly) {key : Uuid} (hkey : key ∈ s.askedBy i) :
    ∃ r ∈ s.locks.requests, r.name = (i, key) ∧ r.key = key := by
  obtain ⟨r, hr, hname⟩ := (h.standing i key).2 hkey
  exact ⟨r, hr, hname, by rw [← h.named r hr, hname]⟩

/-- What a call has asked for. -/
theorem mem_askedBy (h : s.Orderly) {r : LockRequest Uuid (Nat × Uuid)} (hr : r ∈ s.locks.requests) :
    r.key ∈ s.askedBy r.name.1 :=
  (h.standing _ _).1 ⟨r, hr, Prod.ext rfl (h.named r hr)⟩

/-- A call that does not wait holds all that it has asked for. -/
theorem isHeld_of_not_isWaiting (h : s.Orderly) {asked : List Uuid} {left : List (Uuid × LockSide)}
    (hstage : s.stage? i = some (.locking asked left)) (hready : s.isWaiting i asked = false)
    {r : LockRequest Uuid (Nat × Uuid)} (hr : r ∈ s.locks.requests) (hi : r.name.1 = i) :
    s.locks.isHeld r = true := by
  have hmem := h.mem_askedBy hr
  have htail := h.granted r hr
  rw [hi, askedBy_of_stage? hstage] at hmem htail
  cases asked with
  | nil => cases hmem
  | cons key rest =>
    rcases List.mem_cons.1 hmem with hkey | hrest
    · have hname : r.name = (i, key) := Prod.ext hi ((h.named r hr).trans hkey)
      rw [← h.registered.state_eq_held_iff hr, hname]
      simpa [isWaiting] using hready
    · exact htail hrest

/-- Two calls that do not wait are one when they have asked for the lock of one attempt, one of
them for its write side. -/
theorem eq_of_not_isWaiting (h : s.Orderly) {j : Nat} {asked asked' : List Uuid}
    {left left' : List (Uuid × LockSide)} (hi : s.stage? i = some (.locking asked left))
    (hready : s.isWaiting i asked = false) (hj : s.stage? j = some (.locking asked' left'))
    (hready' : s.isWaiting j asked' = false) {r r' : LockRequest Uuid (Nat × Uuid)}
    (hr : r ∈ s.locks.requests) (hr' : r' ∈ s.locks.requests) (hri : r.name.1 = i)
    (hrj : r'.name.1 = j) (hkey : r'.key = r.key) (hwrite : r.side = .write) : i = j := by
  have hheld := h.isHeld_of_not_isWaiting hi hready hr hri
  have hheld' := h.isHeld_of_not_isWaiting hj hready' hr' hrj
  rw [← hri, ← hrj, h.registered.eq_of_isHeld hr hr' hkey hheld hwrite hheld']

/-- The next lock of a call comes after all that it has asked for. -/
theorem lt_of_mem_asked (h : s.Orderly) {asked : List Uuid} {key : Uuid} {side : LockSide}
    {left : List (Uuid × LockSide)} (hstage : s.stage? i = some (.locking asked ((key, side) :: left)))
    {k : Uuid} (hk : k ∈ asked) : k < key := by
  have hpair := h.ascending i
  rw [askedBy_of_stage? hstage, leftTo_of_stage? hstage] at hpair
  exact (List.pairwise_append.1 hpair).2.2 k (List.mem_reverse.2 hk) key (List.mem_cons_self ..)

/-- A call that asks for its next lock adds a request to those that stand. -/
theorem mem_requests_ask (h : s.Orderly) {asked : List Uuid} {key : Uuid} {side : LockSide}
    {left : List (Uuid × LockSide)} (hstage : s.stage? i = some (.locking asked ((key, side) :: left)))
    {r : LockRequest Uuid (Nat × Uuid)} :
    r ∈ (s.ask i key side).locks.requests ↔ r ∈ s.locks.requests ∨
      r = ⟨(s.locks.lockFor key).2.ticket, (i, key), key, (s.locks.lockFor key).1, side⟩ := by
  rw [Service.ask, h.registered.mem_requests_request_iff]
  refine or_congr_left (and_iff_left_of_imp fun hr hname => ?_)
  -- its name would be that of a request that the call has made before
  have hasked : key ∈ s.askedBy i := (h.standing i key).1 ⟨r, hr, hname⟩
  rw [askedBy_of_stage? hstage] at hasked
  exact Uuid.lt_irrefl key (h.lt_of_mem_asked hstage hasked)

/-- A call that does not wait may ask for the next lock of its plan. -/
theorem ask (h : s.Orderly) {asked : List Uuid} {key : Uuid} {side : LockSide}
    {left : List (Uuid × LockSide)} (hstage : s.stage? i = some (.locking asked ((key, side) :: left)))
    (hready : s.isWaiting i asked = false) :
    ((s.ask i key side).setStage i (.locking (key :: asked) left)).Orderly := by
  have hstage' : (s.ask i key side).stage? i = some (.locking asked ((key, side) :: left)) := hstage
  have hold : s.askedBy i = asked := askedBy_of_stage? hstage
  have hasked : ∀ j, ((s.ask i key side).setStage i (.locking (key :: asked) left)).askedBy j =
      if j = i then key :: asked else s.askedBy j := fun j => askedBy_setStage hstage' _ j
  have hleft : ∀ j, ((s.ask i key side).setStage i (.locking (key :: asked) left)).leftTo j =
      if j = i then left.map (·.1) else s.leftTo j := fun j => leftTo_setStage hstage' _ j
  refine ⟨h.registered.request (i, key) key side, fun r hr => ?_, fun j k => ?_, fun j => ?_,
    fun r hr hmem => ?_⟩
  · rcases (h.mem_requests_ask hstage).1 hr with hr | rfl
    · exact h.named r hr
    · rfl
  · rw [hasked]
    constructor
    · rintro ⟨r, hr, hname⟩
      rcases (h.mem_requests_ask hstage).1 hr with hr | rfl
      · have hmem := (h.standing j k).1 ⟨r, hr, hname⟩
        split
        · rename_i hj
          rw [hj, hold] at hmem
          exact List.mem_cons_of_mem _ hmem
        · exact hmem
      · cases hname
        simp
    · intro hmem
      have hstands : k ∈ s.askedBy j → ∃ r ∈ (s.ask i key side).locks.requests, r.name = (j, k) := by
        intro hk
        obtain ⟨r, hr, hname⟩ := (h.standing j k).2 hk
        exact ⟨r, (h.mem_requests_ask hstage).2 (Or.inl hr), hname⟩
      split at hmem
      · rename_i hj
        subst hj
        rcases List.mem_cons.1 hmem with rfl | hmem
        · exact ⟨_, (h.mem_requests_ask hstage).2 (Or.inr rfl), rfl⟩
        · exact hstands (hold ▸ hmem)
      · exact hstands hmem
  · rw [hasked, hleft]
    split
    · have hpair := h.ascending i
      rw [hold, leftTo_of_stage? hstage] at hpair
      rw [List.reverse_cons, List.append_assoc]
      exact hpair
    · exact h.ascending j
  · have hheld : ∀ hold : r ∈ s.locks.requests, s.locks.isHeld r = true →
        (s.ask i key side).locks.isHeld r = true := fun hold hheld =>
      h.registered.isHeld_after hold hheld (.ask (i, key) key side) hr
    rw [hasked] at hmem
    rcases (h.mem_requests_ask hstage).1 hr with hold | rfl
    · split at hmem
      · rename_i hj
        exact hheld hold (h.isHeld_of_not_isWaiting hstage hready hold hj)
      · exact hheld hold (h.granted r hold hmem)
    · rw [if_pos rfl] at hmem
      exact absurd (h.lt_of_mem_asked hstage hmem) (Uuid.lt_irrefl key)

/-- A call that gives everything back leaves the requests of the other calls. -/
theorem mem_requests_giveBack (h : s.Orderly) {asked : List Uuid} (hasked : s.askedBy i = asked)
    {r : LockRequest Uuid (Nat × Uuid)} :
    r ∈ (s.giveBack i asked).locks.requests ↔ r ∈ s.locks.requests ∧ r.name.1 ≠ i := by
  rw [Service.giveBack, (h.registered.releaseAll _).2.1]
  refine and_congr_right fun hr => not_congr ?_
  rw [List.mem_map]
  constructor
  · rintro ⟨key, -, hname⟩
    rw [← hname]
  · intro hi
    exact ⟨r.key, hasked ▸ hi ▸ h.mem_askedBy hr, Prod.ext hi.symm (h.named r hr).symm⟩

/-- A call may give back all that it has asked for, and be over. -/
theorem giveBack (h : s.Orderly) {asked : List Uuid} {left : List (Uuid × LockSide)}
    (hstage : s.stage? i = some (.locking asked left)) (outcome : Option (Except Failure Reply)) :
    ((s.giveBack i asked).setStage i (.finished outcome)).Orderly := by
  have hstage' : (s.giveBack i asked).stage? i = some (.locking asked left) := hstage
  have hasked : ∀ j, ((s.giveBack i asked).setStage i (.finished outcome)).askedBy j =
      if j = i then [] else s.askedBy j := fun j => askedBy_setStage hstage' _ j
  have hleft : ∀ j, ((s.giveBack i asked).setStage i (.finished outcome)).leftTo j =
      if j = i then [] else s.leftTo j := fun j => leftTo_setStage hstage' _ j
  have hrequests : ∀ r, r ∈ (s.giveBack i asked).locks.requests ↔
      r ∈ s.locks.requests ∧ r.name.1 ≠ i := fun r => h.mem_requests_giveBack (askedBy_of_stage? hstage)
  obtain ⟨hregistered, -, hheld⟩ := h.registered.releaseAll (asked.map (i, ·))
  refine ⟨hregistered, fun r hr => h.named r ((hrequests r).1 hr).1, fun j k => ?_, fun j => ?_,
    fun r hr hmem => ?_⟩
  · rw [hasked]
    constructor
    · rintro ⟨r, hr, hname⟩
      obtain ⟨hr, hne⟩ := (hrequests r).1 hr
      rw [hname] at hne
      rw [if_neg hne]
      exact (h.standing j k).1 ⟨r, hr, hname⟩
    · intro hk
      split at hk
      · cases hk
      · rename_i hne
        obtain ⟨r, hr, hname⟩ := (h.standing j k).2 hk
        exact ⟨r, (hrequests r).2 ⟨hr, by rwa [hname]⟩, hname⟩
  · rw [hasked, hleft]
    split
    · exact List.Pairwise.nil
    · exact h.ascending j
  · obtain ⟨hr', hne⟩ := (hrequests r).1 hr
    rw [hasked, if_neg hne] at hmem
    exact hheld r hr (h.granted r hr' hmem)

/-- A call that comes in has asked for nothing. -/
theorem arrive (h : s.Orderly) (ctx : Context) (call : Call) (isNoStart : call.isStart = false) :
    (s.after (.arrive ctx call isNoStart)).Orderly := by
  have hstage : ∀ j, (s.after (.arrive ctx call isNoStart)).stage? j =
      if j = s.operations.length then some (.lookingUp call.lookups []) else s.stage? j := by
    intro j
    rw [stage?, Service.after, List.getElem?_append]
    split
    · rename_i hlt
      rw [if_neg (Nat.ne_of_lt hlt), stage?]
    · rename_i hge
      split
      · rename_i hj
        rw [hj, Nat.sub_self]
        rfl
      · rename_i hne
        have hnone : s.operations[j]? = none := List.getElem?_eq_none (Nat.le_of_not_lt hge)
        rw [stage?, hnone, List.getElem?_eq_none (by simp; omega)]
  have hnone : s.stage? s.operations.length = none := by simp [stage?]
  refine h.of_locks_eq rfl (fun j => ?_) fun j => Or.inl ?_
  · rw [askedBy, hstage, askedBy]
    split
    · rename_i hj
      rw [hj, hnone]
      rfl
    · rfl
  · rw [leftTo, hstage, leftTo]
    split
    · rename_i hj
      rw [hj, hnone]
      rfl
    · rfl

theorem abort (h : s.Orderly) (i : Nat) : (s.abort i).Orderly := by
  unfold Service.abort
  split
  · rename_i hstage
    exact h.setStage hstage rfl rfl List.Pairwise.nil
  · rename_i hstage
    exact h.giveBack hstage none
  · exact h
  · exact h

theorem advance (h : s.Orderly) (hadvance : s.advance? i = some s') : s'.Orderly := by
  rcases advance?_cases hadvance with ⟨old, stage, hstage, hold, hnew, hplan, -, rfl⟩ |
    ⟨asked, key, side, left, hstage, hready, rfl⟩ | ⟨asked, outcome, engine, hstage, -, rfl⟩
  · exact h.setStage hstage hold hnew hplan
  · exact h.ask hstage hready
  · exact (h.giveBack hstage outcome).of_locks_eq rfl (fun _ => rfl) fun _ => Or.inl rfl

/-- Every move keeps the order of the locks. -/
theorem after (h : s.Orderly) (move : Move) : (s.after move).Orderly := by
  cases move with
  | arrive ctx call isNoStart => exact h.arrive ctx call isNoStart
  | advance i =>
    rw [Service.after]
    cases hadvance : s.advance? i with
    | none => exact h
    | some s' => exact h.advance hadvance
  | abort i => exact h.abort i
  | elsewhere engine => exact h.of_locks_eq rfl (fun _ => rfl) fun _ => Or.inl rfl

theorem run (h : s.Orderly) (moves : List Move) : (s.run moves).Orderly := by
  induction moves generalizing s with
  | nil => exact h
  | cons move rest ih => exact ih (h.after move)

/-! ## Somebody can go on -/

/-- A call that is not over and takes no step waits for a lock, greater than all that it
holds, which is not granted to it. -/
theorem exists_waited (h : s.Orderly) {stage : Stage} (hstage : s.stage? i = some stage)
    (hopen : stage.isFinished = false) (hstuck : s.advance? i = none) :
    ∃ r ∈ s.locks.requests, r.name.1 = i ∧ s.locks.isHeld r = false ∧
      ∀ key ∈ s.askedBy i, key < r.key ∨ key = r.key := by
  obtain ⟨key, rest, left, rfl, hwaits⟩ := isWaiting_of_advance?_eq_none hstuck hstage hopen
  have hasked : s.askedBy i = key :: rest := askedBy_of_stage? hstage
  obtain ⟨r, hr, hname, hkey⟩ := h.exists_request (hasked ▸ List.mem_cons_self ..)
  refine ⟨r, hr, by rw [hname], ?_, fun k hk => ?_⟩
  · rw [← hname, Ne, h.registered.state_eq_held_iff hr, Bool.not_eq_true] at hwaits
    exact hwaits
  · have hpair := (List.pairwise_append.1 (h.ascending i)).1
    rw [hasked, List.pairwise_reverse, List.pairwise_cons] at hpair
    rw [hasked, List.mem_cons] at hk
    rw [hkey]
    exact hk.symm.imp_left (hpair.1 k)

/-- Among calls that are not all over, one can take its next step. -/
theorem exists_advance (h : s.Orderly)
    (hopen : ∃ i stage, s.stage? i = some stage ∧ stage.isFinished = false) :
    ∃ i, (s.advance? i).isSome = true := by
  by_contra hall
  have hstuck : ∀ i, s.advance? i = none := by simpa using hall
  obtain ⟨i, stage, hstage, hgoing⟩ := hopen
  obtain ⟨r₀, hr₀, -, hheld₀, -⟩ := h.exists_waited hstage hgoing (hstuck i)
  -- the requests that are not granted, and among them one for the greatest lock
  let waiting := (s.locks.requests.filter fun r => !s.locks.isHeld r).toFinset
  have hmem : ∀ r, r ∈ waiting ↔ r ∈ s.locks.requests ∧ s.locks.isHeld r = false := by
    intro r
    simp [waiting]
  obtain ⟨r, hr, hmax⟩ := waiting.exists_max_image (·.key.value) ⟨r₀, (hmem r₀).2 ⟨hr₀, hheld₀⟩⟩
  -- whoever holds that lock is stuck as well, and waits for a lock that is not smaller
  obtain ⟨holder, hholder, hkey, hheld⟩ := h.registered.exists_holder ((hmem r).1 hr).1
  have hasked := h.mem_askedBy hholder
  obtain ⟨stage', hstage', hgoing'⟩ : ∃ stage, s.stage? holder.name.1 = some stage ∧
      stage.isFinished = false := exists_open_of_mem_askedBy hasked
  obtain ⟨r', hr', hname', hheld', hle⟩ := h.exists_waited hstage' hgoing' (hstuck _)
  rcases hle _ hasked with hlt | heq
  · rw [hkey] at hlt
    exact absurd hlt (Nat.not_lt_of_le (hmax r' ((hmem r').2 ⟨hr', hheld'⟩)))
  · -- it waits for no other lock than the one it holds
    have hname : holder.name = r'.name :=
      Prod.ext hname'.symm (by rw [h.named _ hholder, h.named _ hr', heq])
    rw [h.registered.eq_of_name hholder hr' hname, hheld'] at hheld
    cases hheld

end Orderly

/-! ## All calls come to their end -/

/-- A bound on the steps that the calls under way still take. -/
def stepsLeft (s : Service) : Nat :=
  s.operations.foldr (fun op n => op.stage.stepsLeft + n) 0

theorem stepsLeft_modify_lt {ops : List Operation} {op : Operation} {stage : Stage}
    (hop : ops[i]? = some op) (hless : stage.stepsLeft < op.stage.stepsLeft) :
    (ops.modify i fun op => { op with stage := stage }).foldr
        (fun op n => op.stage.stepsLeft + n) 0 <
      ops.foldr (fun op n => op.stage.stepsLeft + n) 0 := by
  induction ops generalizing i with
  | nil => cases hop
  | cons a rest ih =>
    cases i with
    | zero =>
      cases hop
      simpa using hless
    | succ i => simpa using ih hop

/-- A step of a call brings it closer to its end, and the others no further away. -/
theorem stepsLeft_lt_of_advance? (h : s.advance? i = some s') : s'.stepsLeft < s.stepsLeft := by
  have hless : ∀ {old : Stage} (stage : Stage), s.stage? i = some old →
      stage.stepsLeft < old.stepsLeft → (s.setStage i stage).stepsLeft < s.stepsLeft := by
    intro old stage hstage hless
    obtain ⟨op, hop, rfl⟩ := Option.map_eq_some_iff.1 hstage
    exact stepsLeft_modify_lt hop hless
  rcases advance?_cases h with ⟨old, stage, hstage, -, -, -, hshorter, rfl⟩ |
    ⟨asked, key, side, left, hstage, -, rfl⟩ | ⟨asked, outcome, engine, hstage, -, rfl⟩
  · exact hless stage hstage hshorter
  · exact hless (.locking (key :: asked) left) hstage (Nat.lt_succ_self _)
  · exact hless (.finished outcome) hstage (Nat.succ_pos _)

/-- The calls under way can be brought to their end by their own steps. -/
theorem Orderly.exists_run_isFinished (h : s.Orderly) :
    ∃ calls : List Nat, ∀ i stage, (s.run (calls.map .advance)).stage? i = some stage →
      stage.isFinished = true := by
  induction hsteps : s.stepsLeft using Nat.strong_induction_on generalizing s with
  | _ steps ih =>
  by_cases hopen : ∃ i stage, s.stage? i = some stage ∧ stage.isFinished = false
  · obtain ⟨i, hi⟩ := h.exists_advance hopen
    obtain ⟨s', hs'⟩ := Option.isSome_iff_exists.1 hi
    obtain ⟨calls, hfinished⟩ := ih _ (hsteps ▸ stepsLeft_lt_of_advance? hs') (h.advance hs') rfl
    refine ⟨i :: calls, ?_⟩
    have hafter : s.after (.advance i) = s' := by rw [Service.after, hs', Option.getD_some]
    rwa [List.map_cons, Service.run, List.foldl_cons, hafter]
  · refine ⟨[], fun i stage hstage => ?_⟩
    by_contra hnot
    exact hopen ⟨i, stage, hstage, by simpa using hnot⟩

/-- Whatever calls come in, take their steps or are given up, and whatever happens to the
engine meanwhile: while a call is not over, some call can take its next step. -/
theorem run_exists_advance (engine : Engine) (moves : List Move)
    (hopen : ∃ i stage, (run { engine := engine } moves).stage? i = some stage ∧
      stage.isFinished = false) :
    ∃ i, ((run { engine := engine } moves).advance? i).isSome = true :=
  ((orderly_start engine).run moves).exists_advance hopen

end Service

/-! ## Two batches with the same attempts -/

namespace Sample

/-- Answers to the same question on two attempts. -/
def twoAnswers : Engine where
  store :=
    (({} : Store).putAnswer (.ungraded (uuid 3) (uuid 1) 2 (.essay "It adds.") none .epoch)).putAnswer
      (.ungraded (uuid 4) (uuid 2) 2 (.essay "It scales.") none .epoch)
  queue := { room := 1 }

/-- A grade with all points. -/
def fullGrade (answerId : Uuid) : GradeEntry := ⟨answerId, ⟨points 3 0, none⟩⟩

/-- Two batches that list the same answers in opposite orders. The second one has gone as far
as it can while the first one has both locks. -/
def opposedBatches : Service :=
  Service.run { engine := twoAnswers }
    (.arrive (teacher 5) (.bulkGrade [fullGrade (uuid 3), fullGrade (uuid 4)]) rfl ::
      .arrive (teacher 6) (.bulkGrade [fullGrade (uuid 4), fullGrade (uuid 3)]) rfl ::
      [0, 1, 0, 1, 0, 1, 0, 1, 0, 1].map .advance)

end Sample

/-- The second of the two batches waits, and still somebody can go on. -/
theorem Service.exists_advance_opposedBatches :
    (∃ i stage, Sample.opposedBatches.stage? i = some stage ∧ stage.isFinished = false) ∧
      (Sample.opposedBatches.advance? 1).isSome = false ∧
      ∃ i, (Sample.opposedBatches.advance? i).isSome = true := by
  have hopen : ((Sample.opposedBatches.stage? 1).map (·.isFinished)) = some false := by decide +kernel
  have hwaits : (Sample.opposedBatches.advance? 1).isSome = false := by decide +kernel
  obtain ⟨stage, hstage, hgoing⟩ := Option.map_eq_some_iff.1 hopen
  have hsome : ∃ i stage, Sample.opposedBatches.stage? i = some stage ∧ stage.isFinished = false :=
    ⟨1, stage, hstage, hgoing⟩
  exact ⟨hsome, hwaits, Service.run_exists_advance _ _ hsome⟩

end QuizEngine
