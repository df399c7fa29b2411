import QuizEngine.Proofs.Scores
import QuizEngine.Proofs.Turns

/-!
# Attempts only move forward

The row of an attempt is written when it is submitted or abandoned and with every grade, and
by nothing else (`Writes.becomesBy`). Each of these moves it forward (`Attempt.Precedes`): its
status never goes back, what is stamped once stays, and every change has a version of its own.
A graded attempt stays graded although the moves of `AttemptStatus.canBecome` allow more,
because a grade never takes points away from an answer.

So the version tells how the row came about: it is zero while the attempt is in progress, and
a submitted attempt has one version for the submission and one for every grade that was
accepted on one of its answers. A run that counts these is an `Engine.RunAccepting`.
-/

namespace QuizEngine

/-! ## What may become of an attempt -/

/-- Whether an attempt of one status may have the other now or later. -/
def AttemptStatus.precedes : AttemptStatus → AttemptStatus → Bool
  | .inProgress, _ => true
  | .submitted, .submitted => true
  | .submitted, .graded => true
  | .graded, .graded => true
  | .abandoned, .abandoned => true
  | _, _ => false

theorem AttemptStatus.precedes_refl (a : AttemptStatus) : a.precedes a = true := by
  cases a <;> rfl

theorem AttemptStatus.precedes_trans {a b c : AttemptStatus} (h : a.precedes b = true)
    (h' : b.precedes c = true) : a.precedes c = true := by
  revert h h'
  cases a <;> cases b <;> cases c <;> decide

/-- The row `b` may be what became of the row `a`. -/
structure Attempt.Precedes (a b : Attempt) : Prop where
  id : b.id = a.id
  quizId : b.quizId = a.quizId
  studentId : b.studentId = a.studentId
  attemptNumber : b.attemptNumber = a.attemptNumber
  startedAt : b.startedAt = a.startedAt
  createdAt : b.createdAt = a.createdAt
  ipAddress : b.ipAddress = a.ipAddress
  userAgent : b.userAgent = a.userAgent
  status : a.status.precedes b.status = true
  submittedAt : ∀ time, a.submittedAt = some time → b.submittedAt = some time
  timeSpentSeconds : ∀ n, a.timeSpentSeconds = some n → b.timeSpentSeconds = some n
  autoGradedAt : ∀ time, a.autoGradedAt = some time → b.autoGradedAt = some time
  manuallyGradedAt : ∀ time, a.manuallyGradedAt = some time → b.manuallyGradedAt = some time
  gradedBy : ∀ user, a.gradedBy = some user → b.gradedBy = some user
  version_le : a.version ≤ b.version
  eq_of_version : b.version = a.version → b = a

namespace Attempt.Precedes

variable {a b c : Attempt}

theorem refl (a : Attempt) : a.Precedes a where
  id := rfl
  quizId := rfl
  studentId := rfl
  attemptNumber := rfl
  startedAt := rfl
  createdAt := rfl
  ipAddress := rfl
  userAgent := rfl
  status := AttemptStatus.precedes_refl _
  submittedAt := fun _ h => h
  timeSpentSeconds := fun _ h => h
  autoGradedAt := fun _ h => h
  manuallyGradedAt := fun _ h => h
  gradedBy := fun _ h => h
  version_le := Int.le_refl _
  eq_of_version := fun _ => rfl

theorem trans (h : a.Precedes b) (h' : b.Precedes c) : a.Precedes c where
  id := h'.id.trans h.id
  quizId := h'.quizId.trans h.quizId
  studentId := h'.studentId.trans h.studentId
  attemptNumber := h'.attemptNumber.trans h.attemptNumber
  startedAt := h'.startedAt.trans h.startedAt
  createdAt := h'.createdAt.trans h.createdAt
  ipAddress := h'.ipAddress.trans h.ipAddress
  userAgent := h'.userAgent.trans h.userAgent
  status := AttemptStatus.precedes_trans h.status h'.status
  submittedAt := fun _ hx => h'.submittedAt _ (h.submittedAt _ hx)
  timeSpentSeconds := fun _ hx => h'.timeSpentSeconds _ (h.timeSpentSeconds _ hx)
  autoGradedAt := fun _ hx => h'.autoGradedAt _ (h.autoGradedAt _ hx)
  manuallyGradedAt := fun _ hx => h'.manuallyGradedAt _ (h.manuallyGradedAt _ hx)
  gradedBy := fun _ hx => h'.gradedBy _ (h.gradedBy _ hx)
  version_le := Int.le_trans h.version_le h'.version_le
  eq_of_version := by
    intro hv
    have hle := h.version_le
    have hle' := h'.version_le
    rw [h'.eq_of_version (by omega), h.eq_of_version (by omega)]

end Attempt.Precedes

/-- The columns of a submission are set exactly when the attempt is submitted, and nothing is
stamped while it is in progress. -/
structure Attempt.IsStamped (a : Attempt) : Prop where
  submittedAt : a.submittedAt.isSome = a.status.isGradeable
  totalPoints : a.totalPoints.isSome = a.status.isGradeable
  earnedPoints : a.earnedPoints.isSome = a.status.isGradeable
  percentage : a.percentage.isSome = a.status.isGradeable
  isPassed : a.isPassed.isSome = a.status.isGradeable
  timeSpentSeconds : a.status = .inProgress → a.timeSpentSeconds = none
  autoGradedAt : a.status = .inProgress → a.autoGradedAt = none

/-- The version that an attempt has when so many grades of its answers were accepted. -/
def Attempt.HasVersion (a : Attempt) (accepted : Nat) : Prop :=
  match a.status with
  | .inProgress => a.version = 0 ∧ accepted = 0
  | .abandoned => a.version = 1 ∧ accepted = 0
  | .submitted => a.version = 1 + accepted
  | .graded => a.version = 1 + accepted

/-! ## Writes to the row of an attempt -/

/-- What a write makes of the row of an attempt. -/
inductive Attempt.BecomesBy (a : Attempt) : Write → Attempt → Prop where
  | keep {w : Write} (isOther : ∀ answerId, w ≠ .grade a.id answerId) : a.BecomesBy w a
  | submit {quiz : Quiz} {score : Score} {now : Instant} (inProgress : a.status = .inProgress) :
      a.BecomesBy (.submit a.id) (Store.nextVersion (a.submittedWith quiz score now))
  | abandon {now : Instant} (inProgress : a.status = .inProgress) :
      a.BecomesBy (.abandon a.id) (Store.nextVersion (a.abandonedAt now))
  | grade {answerId : Uuid} {score : Score} {ctx : Context}
      (isGradeable : a.status.isGradeable = true)
      (staysGraded : a.status = .graded → score.status = .graded) :
      a.BecomesBy (.grade a.id answerId) (Store.nextVersion (a.regradedWith score ctx))

/-- Replacing an answer by one that has points leaves no answer waiting when none waited
before. -/
theorem Score.status_eq_graded_of_replaced {questions : List Question} {answers : List Answer}
    {row : Answer} {passingScore : Option Decimal} {score score' : Score}
    (h : aggregate questions answers passingScore = .ok score) (hg : score.status = .graded)
    (h' : aggregate questions (answers.map fun a => if a.id = row.id then row else a) passingScore =
      .ok score') (hrow : row.isGraded = true) : score'.status = .graded := by
  rw [status_eq_graded_iff_of_aggregate h] at hg
  rw [status_eq_graded_iff_of_aggregate h']
  intro b hb q hq hsub
  obtain ⟨a, ha, rfl⟩ := List.mem_map.1 hb
  split
  · exact Option.isSome_iff_ne_none.1 hrow
  · rename_i hne
    rw [if_neg hne] at hq
    exact hg a ha q hq hsub

namespace Attempt.BecomesBy

variable {a b : Attempt} {w : Write}

/-- What is written over an attempt comes after it. -/
theorem precedes (h : a.BecomesBy w b) (ha : a.IsStamped) : a.Precedes b := by
  have hnext : ∀ n : Int, n ≤ n + 1 := fun n => by omega
  have hnew : ∀ n : Int, ¬n + 1 = n := fun n => by omega
  cases h with
  | keep _ => exact .refl a
  | submit inProgress =>
    have hsubmitted : a.submittedAt = none := by
      simpa [inProgress, AttemptStatus.isGradeable] using ha.submittedAt
    have htime := ha.timeSpentSeconds inProgress
    have hauto := ha.autoGradedAt inProgress
    exact ⟨rfl, rfl, rfl, rfl, rfl, rfl, rfl, rfl, by rw [inProgress]; rfl,
      by simp [hsubmitted], by simp [htime], by simp [hauto], fun _ hx => hx, fun _ hx => hx,
      hnext _, fun hv => absurd hv (hnew _)⟩
  | abandon inProgress =>
    have htime := ha.timeSpentSeconds inProgress
    exact ⟨rfl, rfl, rfl, rfl, rfl, rfl, rfl, rfl, by rw [inProgress]; rfl,
      fun _ hx => hx, by simp [htime], fun _ hx => hx, fun _ hx => hx, fun _ hx => hx,
      hnext _, fun hv => absurd hv (hnew _)⟩
  | @grade _ score ctx isGradeable staysGraded =>
    have hstatus : a.status.precedes score.status = true := by
      rcases AttemptStatus.isGradeable_iff.1 isGradeable with hs | hs
      · rw [hs]
        rcases AttemptStatus.isGradeable_iff.1 score.isGradeable_status with ht | ht <;> rw [ht] <;> rfl
      · rw [hs, staysGraded hs]
        rfl
    have hkeep : ∀ {α : Type} {x : Option α} {y z : α}, x = some z → some (x.getD y) = some z := by
      rintro _ _ _ _ rfl
      rfl
    exact ⟨rfl, rfl, rfl, rfl, rfl, rfl, rfl, rfl, hstatus, fun _ hx => hx, fun _ hx => hx,
      fun _ hx => hx, fun _ hx => hkeep hx, fun _ hx => hkeep hx, hnext _,
      fun hv => absurd hv (hnew _)⟩

theorem isStamped (h : a.BecomesBy w b) (ha : a.IsStamped) : b.IsStamped := by
  cases h with
  | keep _ => exact ha
  | @submit _ score _ _ =>
    have hg : true = score.status.isGradeable := score.isGradeable_status.symm
    exact ⟨hg, hg, hg, hg, hg, fun hp => absurd hp score.status_ne_inProgress,
      fun hp => absurd hp score.status_ne_inProgress⟩
  | abandon inProgress =>
    have hbefore : a.status.isGradeable = false := by rw [inProgress]; rfl
    exact ⟨ha.submittedAt.trans hbefore, ha.totalPoints.trans hbefore, ha.earnedPoints.trans hbefore,
      ha.percentage.trans hbefore, ha.isPassed.trans hbefore, nofun, nofun⟩
  | @grade _ score _ isGradeable _ =>
    have hg : true = score.status.isGradeable := score.isGradeable_status.symm
    exact ⟨(ha.submittedAt.trans isGradeable).trans hg, hg, hg, hg, hg,
      fun hp => absurd hp score.status_ne_inProgress, fun hp => absurd hp score.status_ne_inProgress⟩

theorem hasVersion_of_gradeable {n : Nat} (hg : a.status.isGradeable = true) :
    a.HasVersion n ↔ a.version = 1 + n := by
  unfold Attempt.HasVersion
  rcases AttemptStatus.isGradeable_iff.1 hg with hs | hs <;> rw [hs]

/-- Only a grade of one of its answers adds to the count that the version shows. -/
theorem hasVersion_of_ne (h : a.BecomesBy w b) (hw : ∀ answerId, w ≠ .grade a.id answerId) {n : Nat}
    (ha : a.HasVersion n) : b.HasVersion n := by
  cases h with
  | keep _ => exact ha
  | @submit _ score _ inProgress =>
    simp only [Attempt.HasVersion, inProgress] at ha
    refine (hasVersion_of_gradeable score.isGradeable_status).2 ?_
    show a.version + 1 = 1 + n
    omega
  | abandon inProgress =>
    simp only [Attempt.HasVersion, inProgress] at ha
    exact ⟨show a.version + 1 = 1 by omega, ha.2⟩
  | grade _ _ => exact absurd rfl (hw _)

theorem hasVersion_of_grade {answerId : Uuid} (h : a.BecomesBy (.grade a.id answerId) b) {n : Nat}
    (ha : a.HasVersion n) : b.HasVersion (n + 1) := by
  cases h with
  | keep isOther => exact absurd rfl (isOther answerId)
  | @grade _ score _ isGradeable _ =>
    rw [hasVersion_of_gradeable isGradeable] at ha
    refine (hasVersion_of_gradeable score.isGradeable_status).2 ?_
    show a.version + 1 = 1 + (n + 1 : Nat)
    omega

end Attempt.BecomesBy

namespace Store

variable {s t : Store} {id : Uuid} {n : Nat}

theorem Writes.becomesBy {w : Write} (hw : s.Writes w t) (h : s.Sound) (hall : s.AllScored)
    {a : Attempt} (ha : s.findAttempt id = some a) :
    ∃ b, t.findAttempt id = some b ∧ a.BecomesBy w b := by
  obtain rfl := h.id_of_findAttempt ha
  by_cases hid : w.attempt? = some a.id
  · cases w with
    | start _ =>
      have hnew := Option.some.inj hid
      cases hw with
      | start _ _ isFresh => exact absurd (isFresh.1.symm.trans (hnew ▸ ha)) (by simp)
    | handIn _ _ => exact ⟨a, by rw [findAttempt, hw.attempts_eq rfl]; exact ha, .keep (by simp)⟩
    | judge _ => exact ⟨a, by rw [findAttempt, hw.attempts_eq rfl]; exact ha, .keep (by simp)⟩
    | submit _ =>
      obtain rfl := Option.some.inj hid
      cases hw with
      | submit isOpen _ _ _ isNext =>
        obtain ⟨ha', -, hp⟩ := openAttempt_eq_ok_iff.1 isOpen
        obtain rfl := Option.some.inj (ha.symm.trans ha')
        obtain ⟨-, rfl⟩ := Attempt.submitted_eq_ok_iff.1 isNext
        exact ⟨_, findAttempt_putAttempt_self _ _, .submit hp⟩
    | abandon _ =>
      obtain rfl := Option.some.inj hid
      cases hw with
      | abandon isAbandonable =>
        obtain ⟨_, _, ha', _, _, hp, rfl⟩ := abandonable_eq_ok_iff.1 isAbandonable
        obtain rfl := Option.some.inj (ha.symm.trans ha')
        exact ⟨_, findAttempt_putAttempt_self _ _, .abandon hp⟩
    | grade _ answerId =>
      obtain rfl := Option.some.inj hid
      obtain ⟨ctx, a', quiz, score, row, ha', hg, hquiz, hlist, hrow, hscore, hnext⟩ := hw.grade_spec h
      obtain rfl := Option.some.inj (ha.symm.trans ha')
      refine ⟨_, hnext, .grade hg fun hgraded => ?_⟩
      obtain ⟨quiz', score', hquiz', hscore', hbears⟩ := hall _ a ha hg
      obtain rfl := Option.some.inj (hquiz.symm.trans hquiz')
      rw [hlist] at hscore
      exact Score.status_eq_graded_of_replaced hscore' (hbears.status.symm.trans hgraded) hscore hrow
    | aside => cases hid
  · refine ⟨a, (hw.sameAttempt h hid).findAttempt_eq.trans ha, .keep ?_⟩
    rintro answerId rfl
    exact hid rfl

/-- An attempt that was not there before was just started. -/
theorem Writes.eq_start_of_new {w : Write} {b : Attempt} (hw : s.Writes w t) (h : s.Sound)
    (hnone : s.findAttempt id = none) (hb : t.findAttempt id = some b) :
    w = .start id ∧ ∃ quizId studentId number now client,
      b = .start id quizId studentId number now client := by
  by_cases hid : w.attempt? = some id
  · cases hw with
    | start _ _ _ =>
      obtain rfl := Option.some.inj hid
      obtain rfl := Option.some.inj ((findAttempt_putAttempt_self _ _).symm.trans hb)
      exact ⟨rfl, _, _, _, _, _, rfl⟩
    | handIn _ _ => exact absurd (hnone.symm.trans hb) (by simp)
    | judge _ _ _ _ _ _ _ => exact absurd (hnone.symm.trans hb) (by simp)
    | submit isOpen _ _ _ _ =>
      obtain rfl := Option.some.inj hid
      exact absurd (hnone.symm.trans (openAttempt_eq_ok_iff.1 isOpen).1) (by simp)
    | abandon isAbandonable =>
      obtain rfl := Option.some.inj hid
      obtain ⟨_, _, ha, -⟩ := abandonable_eq_ok_iff.1 isAbandonable
      exact absurd (hnone.symm.trans ha) (by simp)
    | grade _ ofAttempt _ _ =>
      obtain rfl := Option.some.inj hid
      rw [← h.id_of_findAttempt ofAttempt] at ofAttempt
      exact absurd (hnone.symm.trans ofAttempt) (by simp)
    | aside => cases hid
  · exact absurd ((hw.sameAttempt h hid).findAttempt_eq.symm.trans hb) (by simp [hnone])

/-! ## Stamps and versions in a store -/

/-- The columns of every attempt are set as its status says. -/
def AllStamped (s : Store) : Prop := ∀ id a, s.findAttempt id = some a → a.IsStamped

theorem Writes.allStamped {w : Write} (hw : s.Writes w t) (h : s.Sound) (hall : s.AllScored)
    (hst : s.AllStamped) : t.AllStamped := by
  intro id b hb
  cases ha : s.findAttempt id with
  | none =>
    obtain ⟨-, _, _, _, _, _, rfl⟩ := hw.eq_start_of_new h ha hb
    exact ⟨rfl, rfl, rfl, rfl, rfl, fun _ => rfl, fun _ => rfl⟩
  | some a =>
    obtain ⟨b', hb', hbecomes⟩ := hw.becomesBy h hall ha
    obtain rfl := Option.some.inj (hb'.symm.trans hb)
    exact hbecomes.isStamped (hst id a ha)

/-- So many grades were accepted on answers of the attempt, as its version shows. -/
def Counts (s : Store) (id : Uuid) (accepted : Nat) : Prop :=
  match s.findAttempt id with
  | none => accepted = 0
  | some a => a.HasVersion accepted

theorem counts_of_some {a : Attempt} (ha : s.findAttempt id = some a) :
    s.Counts id n ↔ a.HasVersion n := by
  rw [Counts, ha]

theorem Writes.counts_of_ne {w : Write} (hw : s.Writes w t) (h : s.Sound) (hall : s.AllScored)
    (hne : ∀ answerId, w ≠ .grade id answerId) (hc : s.Counts id n) : t.Counts id n := by
  cases ha : s.findAttempt id with
  | none =>
    rw [Counts, ha] at hc
    cases hb : t.findAttempt id with
    | none => rwa [Counts, hb]
    | some b =>
      obtain ⟨-, _, _, _, _, _, rfl⟩ := hw.eq_start_of_new h ha hb
      exact (counts_of_some hb).2 ⟨rfl, hc⟩
  | some a =>
    obtain ⟨b, hb, hbecomes⟩ := hw.becomesBy h hall ha
    obtain rfl := h.id_of_findAttempt ha
    rw [counts_of_some ha] at hc
    exact (counts_of_some hb).2 (hbecomes.hasVersion_of_ne hne hc)

theorem Writes.counts_of_grade {answerId : Uuid} (hw : s.Writes (.grade id answerId) t) (h : s.Sound)
    (hall : s.AllScored) (hc : s.Counts id n) : t.Counts id (n + 1) := by
  obtain ⟨_, a, _, _, _, ha, -⟩ := hw.grade_spec h
  obtain ⟨b, hb, hbecomes⟩ := hw.becomesBy h hall ha
  obtain rfl := h.id_of_findAttempt ha
  rw [counts_of_some ha] at hc
  exact (counts_of_some hb).2 (hbecomes.hasVersion_of_grade hc)

theorem WritesOnly.allScored {p : Write → Prop} (hw : WritesOnly p s t) (h : s.Sound)
    (hall : s.AllScored) : t.AllScored :=
  hw.keeps_of_sound h (fun _ ha hstep ih => hstep.allScored ha ih) hall

theorem WritesOnly.counts {p : Write → Prop} (hw : WritesOnly p s t) (h : s.Sound)
    (hall : s.AllScored) (hp : ∀ answerId, ¬p (.grade id answerId)) (hc : s.Counts id n) :
    t.Counts id n := by
  have hboth : t.AllScored ∧ t.Counts id n :=
    hw.keeps_of_sound (P := fun s => s.AllScored ∧ s.Counts id n) h
      (fun hpw ha hstep ih => ⟨hstep.allScored ha ih.1,
        hstep.counts_of_ne ha ih.1 (by rintro answerId rfl; exact hp answerId hpw) ih.2⟩) ⟨hall, hc⟩
  exact hboth.2

/-- A grade that is written counts for the attempt of its answer. -/
theorem counts_of_grade {u : Store} {c : CheckedGrade} (hw : WritesOnly (· = .aside) s t)
    (hg : t.Writes (.grade c.answer.attemptId c.answer.id) u) (h : s.Sound) (hall : s.AllScored)
    (hc : s.Counts id n) : u.Counts id (n + if c.answer.attemptId = id then 1 else 0) := by
  have ht := hw.counts h hall (by simp) hc
  split
  · rename_i hid
    subst hid
    exact hg.counts_of_grade (hw.sound h) (hw.allScored h hall) ht
  · rename_i hid
    refine hg.counts_of_ne (hw.sound h) (hw.allScored h hall) ?_ ht
    rintro answerId heq
    injection heq with hatt _
    exact hid hatt

/-- Grades given in turn count each for the attempt of its answer. -/
theorem GradesInTurn.counts {ctx : Context} {grades : List CheckedGrade}
    (hg : GradesInTurn ctx grades s t) (h : s.Sound) (hall : s.AllScored) (hc : s.Counts id n) :
    t.Counts id (n + grades.countP fun c => c.answer.attemptId == id) := by
  induction hg generalizing n with
  | nil => exact hc
  | @cons c rest s t u isChecked isGraded _ ih =>
    rcases gradeAnswer_cases_of_check h isChecked with ⟨_, _, he, -⟩ | ⟨v, _, hok, hw, hgrade⟩
    · rw [isGraded] at he
      cases he
    · obtain ⟨-, rfl⟩ := Prod.mk.inj (isGraded.symm.trans hok)
      have hnext := ih (hgrade.sound (hw.sound h)) (hgrade.allScored (hw.sound h) (hw.allScored h hall))
        (counts_of_grade hw hgrade h hall hc)
      rw [List.countP_cons]
      simpa [Nat.add_assoc, Nat.add_comm] using hnext

/-- Counting the answers that are graded is counting the grades. -/
theorem countP_answers {grades : List CheckedGrade}
    (hall : ∀ c ∈ grades, s.findAnswer c.answer.id = some c.answer) :
    ((grades.map (·.answer.id)).countP fun answerId =>
      (s.findAnswer answerId).map (·.attemptId) == some id) =
      grades.countP fun c => c.answer.attemptId == id := by
  rw [List.countP_map]
  refine List.countP_congr fun c hc => ?_
  simp [hall c hc]

end Store

/-! ## Counting runs -/

/-- The answers on which an event has grades accepted, told by what the call returned: the
answer graded, the answers of a batch, or those that a batch names when it stops. A batch that
overflows names none, its answers are those graded one by one until then. -/
def Event.acceptedGrades (s : Store) : Event → List Uuid
  | .call _ (.grade answerId _) (.ok _) => [answerId]
  | .call _ (.bulkGrade entries) (.ok _) => entries.map (·.answerId)
  | .call _ (.bulkGrade _) (.error (.refused (.bulkGrade _ applied))) => applied
  | .call ctx (.bulkGrade entries) (.error (.overflowed _)) => Store.acceptedInTurn ctx entries s
  | _ => []

/-- How many of these answers are answers of the attempt. -/
def Event.acceptedOn (s : Store) (attemptId : Uuid) (event : Event) : Nat :=
  (event.acceptedGrades s).countP fun answerId =>
    (s.findAnswer answerId).map (·.attemptId) == some attemptId

namespace Engine

/-- A run in which so many grades of answers of the attempt were accepted. -/
inductive RunAccepting (attemptId : Uuid) (e : Engine) : List Event → Nat → Engine → Prop where
  | nil : RunAccepting attemptId e [] 0 e
  | snoc {trace : List Event} {n : Nat} {event : Event} {e₁ e₂ : Engine}
      (before : RunAccepting attemptId e trace n e₁) (step : e₁.Step event e₂) :
      RunAccepting attemptId e (trace ++ [event]) (n + event.acceptedOn e₁.store attemptId) e₂

variable {e e' e'' : Engine} {trace trace' : List Event} {event : Event} {id : Uuid} {n : Nat}

theorem RunAccepting.run (h : e.RunAccepting id trace n e') : e.Run trace e' := by
  induction h with
  | nil => exact .nil
  | snoc _ step ih => exact ih.snoc step

/-- Every run can be counted. -/
theorem Run.exists_accepting (h : e.Run trace e') (id : Uuid) :
    ∃ n, e.RunAccepting id trace n e' := by
  induction h with
  | nil => exact ⟨0, .nil⟩
  | snoc _ step ih =>
    obtain ⟨n, hn⟩ := ih
    exact ⟨_, hn.snoc step⟩

/-- An event on which no grade is accepted. -/
theorem Step.counts_of_none (h : e.Step event e') (hs : e.store.Sound) (hall : e.store.AllScored)
    (hc : e.store.Counts id n) (hnone : event.acceptedGrades e.store = [])
    (hp : ∀ answerId, ¬event.permits (.grade id answerId)) :
    e'.store.Counts id (n + event.acceptedOn e.store id) := by
  rw [Event.acceptedOn, hnone, List.countP_nil, Nat.add_zero]
  exact (h.writes hs).counts hs hall hp hc

theorem counts_grade {ctx : Context} {answerId : Uuid} {grade : Grade} (hs : e.store.Sound)
    (hall : e.store.AllScored) (hc : e.store.Counts id n) :
    (e.perform ctx (.grade answerId grade)).2.store.Counts id
      (n + (Event.call ctx (.grade answerId grade)
        (e.perform ctx (.grade answerId grade)).1).acceptedOn e.store id) := by
  rcases Store.gradeAnswer_cases hs ctx answerId grade with
    ⟨cause, t, he, hw⟩ | ⟨checked, t, u, hcheck, hok, hw, hg⟩
  · simp only [perform, ofOutcome, withStore, he]
    exact hw.counts hs hall (by simp) hc
  · simp only [perform, ofOutcome, withStore, hok]
    obtain ⟨_, hans, -⟩ := Store.checkGrade_eq_ok_iff.1 hcheck
    obtain rfl := hs.id_of_findAnswer hans
    have hcount := Store.counts_of_grade hw hg hs hall hc
    simpa [Event.acceptedOn, Event.acceptedGrades, Except.map, hans, List.countP_cons] using hcount

/-- Of a batch the grades count that were accepted, also when it stops. -/
theorem counts_bulkGrade {ctx : Context} {entries : List GradeEntry} (hs : e.store.Sound)
    (hall : e.store.AllScored) (hc : e.store.Counts id n) :
    (e.perform ctx (.bulkGrade entries)).2.store.Counts id
      (n + (Event.call ctx (.bulkGrade entries)
        (e.perform ctx (.bulkGrade entries)).1).acceptedOn e.store id) := by
  simp only [perform, ofOutcome, withStore, Store.bulkGrade]
  rcases Store.checkBatch_cases hs ctx.caller entries with
    ⟨-, hb⟩ | ⟨failures, hb, -⟩ | ⟨grades, hb, hn, rfl, hchecks⟩
  · rw [hb]
    exact hc
  · rw [hb]
    exact hc
  · rw [hb]
    have hstored : ∀ c ∈ grades, e.store.findAnswer c.answer.id = some c.answer := fun c hmem =>
      (Store.checkGrade_eq_ok_iff.1 (hchecks c hmem)).choose_spec.1
    rcases Store.applyBatch_cases grades [] hs hn hchecks with
      ⟨t, hturn, hend⟩ | ⟨front, c, rest, t, u, cause, rfl, hturn, -, herr, hend⟩
    · simp only [hend]
      have hids : (grades.map (·.entry)).map (·.answerId) = grades.map (·.answer.id) := by
        rw [List.map_map]
        rfl
      have hcount := hturn.counts hs hall hc
      rw [← Store.countP_answers hstored, ← hids] at hcount
      exact hcount
    · have hstop := Store.aside_of_gradeAnswer_error (hturn.sound hs) herr
      have hcount := hstop.counts (hturn.sound hs) ((hturn.writes hs).allScored hs hall) (by simp)
        (hturn.counts hs hall hc)
      rw [← Store.countP_answers fun d hd => hstored d (List.mem_append_left _ hd)] at hcount
      simp only [hend]
      cases cause with
      | refused cause => exact hcount
      | overflowed cause =>
        have haccepted : Store.acceptedInTurn ctx ((front ++ c :: rest).map (·.entry)) e.store =
            front.map (·.answer.id) := by
          rw [List.map_append, hturn.acceptedInTurn_eq, List.map_cons, Store.acceptedInTurn]
          simp only [CheckedGrade.entry, herr, List.append_nil]
        simpa only [Event.acceptedOn, Event.acceptedGrades, Except.map, Failure.inBatch, haccepted]
          using hcount

theorem Step.counts (h : e.Step event e') (hs : e.store.Sound) (hall : e.store.AllScored)
    (hc : e.store.Counts id n) : e'.store.Counts id (n + event.acceptedOn e.store id) := by
  have hstep := h
  cases h with
  | call ctx asked isFresh =>
    cases asked with
    | grade answerId grade => exact counts_grade hs hall hc
    | bulkGrade entries => exact counts_bulkGrade hs hall hc
    | start quizId client => exact hstep.counts_of_none hs hall hc rfl nofun
    | record a q raw seconds =>
      exact hstep.counts_of_none hs hall hc rfl (by simp [Event.permits, Call.permits])
    | submit a => exact hstep.counts_of_none hs hall hc rfl (by simp [Event.permits, Call.permits])
    | abandon a => exact hstep.counts_of_none hs hall hc rfl (by simp [Event.permits, Call.permits])
    | result a => exact hstep.counts_of_none hs hall hc rfl fun _ h => h
    | review a => exact hstep.counts_of_none hs hall hc rfl fun _ h => h
    | summary a => exact hstep.counts_of_none hs hall hc rfl fun _ h => h
    | history quizId studentId => exact hstep.counts_of_none hs hall hc rfl fun _ h => h
    | pending quizId => exact hstep.counts_of_none hs hall hc rfl fun _ h => h
    | statistics quizId => exact hstep.counts_of_none hs hall hc rfl fun _ h => h
  | refresh _ _ => exact hstep.counts_of_none hs hall hc rfl nofun
  | overflow _ _ => exact hstep.counts_of_none hs hall hc rfl nofun
  | dropWorker => exact hstep.counts_of_none hs hall hc rfl nofun
  | failGradeWrites a => exact hstep.counts_of_none hs hall hc rfl nofun
  | forceConflicts a times => exact hstep.counts_of_none hs hall hc rfl nofun

theorem RunAccepting.counts (h : e.RunAccepting id trace n e') (hi : e.IsInitial) :
    e'.store.Counts id n := by
  induction h with
  | nil => simp [Store.Counts, Store.Authored.findAttempt_eq hi]
  | snoc before step ih =>
    have hr : Reachable _ := ⟨e, _, hi, before.run⟩
    exact step.counts hr.sound hr.allScored ih

theorem Reachable.allStamped (h : e.Reachable) : e.store.AllStamped := by
  have hboth : e.store.AllScored ∧ e.store.AllStamped :=
    h.keeps (P := fun s => s.AllScored ∧ s.AllStamped)
      (fun s hs => ⟨fun id a ha => by simp [hs.findAttempt_eq] at ha,
        fun id a ha => by simp [hs.findAttempt_eq] at ha⟩)
      fun hs hw ih => ⟨hw.allScored hs ih.1, hw.allStamped hs ih.1 ih.2⟩
  exact hboth.2

/-- What a run leads to comes after what it started from. -/
theorem Run.precedes (h : e.Run trace e') (hr : e.Reachable) {a : Attempt}
    (ha : e.store.findAttempt id = some a) :
    ∃ b, e'.store.findAttempt id = some b ∧ a.Precedes b := by
  have hkeeps := h.keeps (P := fun s => (s.AllScored ∧ s.AllStamped) ∧
      ∃ b, s.findAttempt id = some b ∧ a.Precedes b) hr.sound
    (fun hs hw ih => by
      obtain ⟨⟨hall, hst⟩, b, hb, hab⟩ := ih
      obtain ⟨c, hc, hbecomes⟩ := hw.becomesBy hs hall hb
      exact ⟨⟨hw.allScored hs hall, hw.allStamped hs hall hst⟩, c, hc,
        hab.trans (hbecomes.precedes (hst id b hb))⟩)
    ⟨⟨hr.allScored, hr.allStamped⟩, a, ha, .refl a⟩
  exact hkeeps.2.2

/-- An abandoned attempt stays as it is, and so do its answers. -/
theorem Run.sameAttempt_of_abandoned (h : e.Run trace e') (hs : e.store.Sound) {a : Attempt}
    (ha : e.store.findAttempt id = some a) (hst : a.status = .abandoned) :
    e.store.SameAttempt e'.store id := by
  refine (h.keeps (P := fun s => e.store.SameAttempt s id) hs (fun {s t w} hsound hw ih => ?_)
    (.refl e.store id)).2
  have hnow : s.findAttempt id = some a := ih.findAttempt_eq.trans ha
  by_cases hid : w.attempt? = some id
  · rcases hw.inProgress_before hid hnow with hp | ⟨answerId, rfl⟩
    · cases hst.symm.trans hp
    · obtain ⟨_, b, _, _, _, hb, hg, -⟩ := hw.grade_spec hsound
      obtain rfl := Option.some.inj (hnow.symm.trans hb)
      rw [hst] at hg
      cases hg
  · exact ih.trans (hw.sameAttempt hsound hid)

/-- An attempt that is stored at some moment of a run stays stored and only moves forward. Its
columns are set as its status says, its version is that of the grades accepted until then, and
when it is abandoned nothing becomes of it or of its answers. -/
theorem Run.attempt_progress {e₀ : Engine} (hi : e₀.IsInitial) (h : e₀.Run trace e)
    (h' : e.Run trace' e') {a : Attempt} (ha : e.store.findAttempt id = some a) :
    (∃ b, e'.store.findAttempt id = some b ∧ a.Precedes b) ∧
      a.IsStamped ∧
      (∃ n, e₀.RunAccepting id trace n e) ∧
      (∀ n, e₀.RunAccepting id trace n e → a.HasVersion n) ∧
      (a.status = .abandoned → e.store.SameAttempt e'.store id) := by
  have hr : e.Reachable := ⟨e₀, trace, hi, h⟩
  refine ⟨h'.precedes hr ha, hr.allStamped id a ha, h.exists_accepting id, fun n hn => ?_,
    h'.sameAttempt_of_abandoned hr.sound ha⟩
  exact (Store.counts_of_some ha).1 (hn.counts hi)

/-- When the attempt of the sample run is submitted, no grade was accepted on its answers.
What a later grade makes of it comes after it. -/
theorem attempt_progress_submitted :
    ∃ trace, Sample.initial.Run trace Sample.submitted ∧
      Sample.initial.RunAccepting (Sample.uuid 1) trace 0 Sample.submitted ∧
      ∃ b, (Sample.submitted.perform (Sample.teacher 5)
          (.grade (Sample.uuid 3) ⟨Sample.points 3 0, none⟩)).2.store.findAttempt (Sample.uuid 1) =
        some b ∧ Sample.closed.Precedes b := by
  obtain ⟨trace, hr⟩ := Sample.exists_run_answered
  have hsubmit := hr.snoc (.call (Sample.student 4) (.submit (Sample.uuid 1)) (by decide +kernel))
  have hgrade := Run.nil.snoc (.call (e := Sample.submitted) (Sample.teacher 5)
    (.grade (Sample.uuid 3) ⟨Sample.points 3 0, none⟩) (by
      rw [Sample.store_submitted]
      decide +kernel))
  obtain ⟨hprecedes, -, ⟨n, hn⟩, hversion, -⟩ :=
    Run.attempt_progress Sample.isInitial_initial hsubmit hgrade Sample.findAttempt_submitted
  have hzero : n = 0 := by
    have hcount : Sample.closed.version = 1 + (n : Int) := hversion n hn
    have hone : Sample.closed.version = 1 := rfl
    omega
  exact ⟨_, hsubmit, hzero ▸ hn, hprecedes⟩

end Engine

end QuizEngine
