import QuizEngine.Proofs.Numbering
import QuizEngine.Proofs.Progress
import Mathlib.Data.List.Perm.Subperm

/-!
# Starts that are decided early

A start reads the latest attempt of the student, then how many there are, and decides to
begin a new one; others may start, submit and abandon before the new attempt is inserted
(`LateStart`). The limit is not looked at again then. But attempts are never removed, so their
number only grows (`LeadsTo.countAttempts_le`), and the number that was chosen is free only
when nothing was started meanwhile. A late insertion is therefore refused, or it does what the
whole start would do at that moment (`Reachable.beginAttempt_late`).
-/

namespace QuizEngine

open Store

/-! ## Insertions -/

/-- Inserts an attempt with a number that was decided on. -/
def Store.beginAttempt (s : Store) (ctx : Context) (quizId number : Int) (client : ClientInfo) :
    Outcome Attempt :=
  let attempt := Attempt.start ctx.fresh quizId ctx.caller.userId number ctx.now client
  match s.insertAttempt attempt with
  | .error cause => .refused cause s
  | .ok t => (.ok attempt, t)

namespace Store

variable {s : Store}

/-- A start that decides on a new attempt inserts it. -/
theorem startAttempt_of_create {ctx : Context} {quizId number : Int} {quiz : Quiz}
    (hopen : s.openQuiz ctx quizId = .ok quiz)
    (hnext : nextAttempt quiz (s.latestAttempt quizId ctx.caller.userId)
      (s.countAttempts quizId ctx.caller.userId) = .ok (.create number)) (client : ClientInfo) :
    s.startAttempt ctx quizId client = s.beginAttempt ctx quizId number client := by
  simp only [startAttempt, hopen, bind, Except.bind, hnext]
  rfl

/-- What stands against an attempt is reported as a conflict. -/
theorem insertObstacle?_eq_conflict {given stored : Attempt} {cause : Error}
    (h : insertObstacle? given stored = some cause) : ∃ message, cause = .conflict message := by
  unfold insertObstacle? at h
  split at h
  · cases h
  · split at h
    · exact ⟨_, (Option.some.inj h).symm⟩
    · split at h
      · exact ⟨_, (Option.some.inj h).symm⟩
      · cases h

/-- An attempt is refused for a conflict, or no attempt of the student at the quiz is in
progress or has its number. -/
theorem Keyed.insertAttempt_cases (h : s.Keyed) (a : Attempt) :
    (∃ message, s.insertAttempt a = .error (.conflict message)) ∨
    (s.insertAttempt a = .ok (s.putAttempt a) ∧ ∀ b ∈ s.attemptsOf a.quizId a.studentId,
      b.status ≠ .inProgress ∧ b.attemptNumber ≠ a.attemptNumber) := by
  unfold insertAttempt
  split
  · rename_i cause hcause
    obtain ⟨stored, -, hobstacle⟩ := List.exists_of_findSome?_eq_some hcause
    obtain ⟨message, rfl⟩ := insertObstacle?_eq_conflict hobstacle
    exact Or.inl ⟨message, rfl⟩
  · rename_i hnone
    refine Or.inr ⟨rfl, fun b hb => ?_⟩
    obtain ⟨hstored, hq, hs⟩ := (h.mem_attemptsOf b).1 hb
    exact insertObstacle?_eq_none_iff.1
      (List.findSome?_eq_none_iff.1 hnone b ((h.mem_attempts_iff b).2 hstored)) hq hs

end Store

namespace Engine

variable {e e' : Engine}

/-- Attempts are never removed. -/
theorem LeadsTo.countAttempts_le (h : e.LeadsTo e') (hr : e.Reachable) (quizId studentId : Int) :
    e.store.countAttempts quizId studentId ≤ e'.store.countAttempts quizId studentId := by
  have hs := hr.sound
  have hs' := (hr.leadsTo h).sound
  obtain ⟨trace, hrun⟩ := h
  have hkept : (e.store.attemptsOf quizId studentId).map (·.id) ⊆
      (e'.store.attemptsOf quizId studentId).map (·.id) := by
    intro id hid
    obtain ⟨a, ha, rfl⟩ := List.mem_map.1 hid
    obtain ⟨hstored, hq, hst⟩ := (hs.mem_attemptsOf a).1 ha
    obtain ⟨b, hb, hab⟩ := hrun.precedes hr hstored
    rw [← hab.id] at hb
    exact List.mem_map.2 ⟨b, (hs'.mem_attemptsOf b).2 ⟨hb, hab.quizId.trans hq, hab.studentId.trans hst⟩,
      hab.id⟩
  have hn : ((e.store.attemptsOf quizId studentId).map (·.id)).Nodup :=
    hs.attempts.nodup_map_key.sublist (List.filter_sublist.map _)
  simpa [Store.countAttempts] using (hn.subperm hkept).length_le

end Engine

/-! ## Late starts -/

/-- A start whose attempt is about to be inserted in `written`. At some time the quiz was open
to the caller. Later the latest attempt was read in `read`, the attempts were counted at any
time between the two, and from these a number was decided on. -/
structure LateStart (ctx : Context) (quizId : Int) (read written : Engine) (quiz : Quiz)
    (number : Int) : Prop where
  isOpen : ∃ earlier : Engine, earlier.Reachable ∧ earlier.LeadsTo read ∧
    earlier.store.openQuiz ctx quizId = .ok quiz
  isDecided : ∃ counted : Engine, (read.LeadsTo counted ∧ counted.LeadsTo written) ∧
    nextAttempt quiz (read.store.latestAttempt quizId ctx.caller.userId)
      (counted.store.countAttempts quizId ctx.caller.userId) = .ok (.create number)
  isFresh : written.store.IsFresh ctx.fresh

namespace LateStart

variable {ctx : Context} {quizId number : Int} {read written : Engine} {quiz : Quiz}

theorem leadsTo (h : LateStart ctx quizId read written quiz number) : read.LeadsTo written := by
  obtain ⟨counted, ⟨hread, hwritten⟩, -⟩ := h.isDecided
  exact hread.trans hwritten

/-- The quiz is open to the caller still: nobody edits it. -/
theorem openQuiz_eq (h : LateStart ctx quizId read written quiz number) :
    written.store.openQuiz ctx quizId = .ok quiz := by
  obtain ⟨earlier, hreach, hread, hopen⟩ := h.isOpen
  have hcat := (hread.trans h.leadsTo).sameCatalog hreach.sound
  rw [openQuiz_eq_ok_iff] at hopen ⊢
  rwa [hcat.findQuiz_eq]

/-- When the number is free, whoever reads now decides on it too. -/
theorem nextAttempt_eq (h : LateStart ctx quizId read written quiz number) (hr : read.Reachable)
    (hcount : written.store.countAttempts quizId ctx.caller.userId + 1 < twoTo 31)
    (hfree : ∀ b ∈ written.store.attemptsOf quizId ctx.caller.userId,
      b.status ≠ .inProgress ∧ b.attemptNumber ≠ number) :
    nextAttempt quiz (written.store.latestAttempt quizId ctx.caller.userId)
      (written.store.countAttempts quizId ctx.caller.userId) = .ok (.create number) := by
  obtain ⟨counted, ⟨hread, hwritten⟩, hnext⟩ := h.isDecided
  obtain ⟨-, hmax, hnumber⟩ := nextAttempt_eq_create_iff.1 hnext
  have hle := hread.countAttempts_le hr quizId ctx.caller.userId
  have hle' := hwritten.countAttempts_le (hr.leadsTo hread) quizId ctx.caller.userId
  have hn := hr.numbered quizId ctx.caller.userId (by omega)
  have hn' := (hr.leadsTo h.leadsTo).numbered quizId ctx.caller.userId (by omega)
  rw [hn.numberAfter_latest (by omega)] at hnumber
  -- had anything been started since, it would have the number
  have hsame : written.store.countAttempts quizId ctx.caller.userId ≤
      read.store.countAttempts quizId ctx.caller.userId := by
    by_contra hmore
    have htaken : number ∈ (written.store.attemptsOf quizId ctx.caller.userId).map (·.attemptNumber) := by
      rw [hn'.numbers, mem_numbersUpTo]
      omega
    obtain ⟨b, hb, hnum⟩ := List.mem_map.1 htaken
    exact (hfree b hb).2 hnum
  refine nextAttempt_eq_create_iff.2 ⟨fun a ha => ?_, fun max hm => ?_, ?_⟩
  · rw [hn'.latestAttempt_eq] at ha
    exact (hfree a (List.mem_of_getLast? ha)).1
  · have := hmax max hm
    omega
  · rw [hn'.numberAfter_latest hcount]
    omega

end LateStart

namespace Engine

/-- A start that was decided early is refused for a conflict and nothing changes, or it does
what the whole start would do now: the attempts of the student have the numbers from one on,
the new one alone is in progress, and there are no more than the quiz allows. -/
theorem Reachable.beginAttempt_late {ctx : Context} {quizId number : Int} {read written : Engine}
    {quiz : Quiz} (h : read.Reachable) (hlate : LateStart ctx quizId read written quiz number)
    (hcount : written.store.countAttempts quizId ctx.caller.userId + 1 < twoTo 31)
    (client : ClientInfo) :
    (∃ message, written.store.beginAttempt ctx quizId number client =
      (.error (.refused (.conflict message)), written.store)) ∨
    ∃ begun t, written.store.beginAttempt ctx quizId number client = (.ok begun, t) ∧
      (t.attemptsOf quizId ctx.caller.userId).map (·.attemptNumber) =
        (List.range (t.countAttempts quizId ctx.caller.userId)).map (fun i : Nat => (i : Int) + 1) ∧
      begun ∈ t.attemptsOf quizId ctx.caller.userId ∧
      (∀ a ∈ t.attemptsOf quizId ctx.caller.userId, a.status = .inProgress ↔ a = begun) ∧
      (∀ max, quiz.maxAttempts = some max →
        (t.countAttempts quizId ctx.caller.userId : Int) ≤ max) ∧
      written.perform ctx (.start quizId client) = (.ok (.attempt begun), written.withStore t) := by
  have hs := (h.leadsTo hlate.leadsTo).sound
  obtain ⟨begun, hbegun⟩ : ∃ begun, begun = Attempt.start ctx.fresh quizId ctx.caller.userId number
    ctx.now client := ⟨_, rfl⟩
  rcases hs.insertAttempt_cases begun with ⟨message, hconflict⟩ | ⟨hok, hfree⟩
  · exact Or.inl ⟨message, by rw [Store.beginAttempt, ← hbegun, hconflict]; rfl⟩
  · have hbegin : written.store.beginAttempt ctx quizId number client =
        (.ok begun, written.store.putAttempt begun) := by
      rw [Store.beginAttempt, ← hbegun, hok]
    subst hbegun
    have hnext := hlate.nextAttempt_eq h hcount hfree
    have hstart := startAttempt_of_create hlate.openQuiz_eq hnext client
    have hnew : written.store.findAttempt (Attempt.start ctx.fresh quizId ctx.caller.userId number
        ctx.now client).id = none := hlate.isFresh.1
    have hlast : (written.store.putAttempt _).attemptsOf quizId ctx.caller.userId = _ ++ [_] :=
      attemptsOf_putAttempt_new hnew rfl rfl
    have hn := (h.leadsTo hlate.leadsTo).numbered quizId ctx.caller.userId (by omega)
    have hnumbered := hn.start hcount hnew rfl rfl (openQuiz_eq_ok_iff.1 hlate.openQuiz_eq).1 hnext rfl
    refine Or.inr ⟨_, _, hbegin, hnumbered.numbers, ?_, fun a ha => ?_, fun max hm => ?_, ?_⟩
    · rw [hlast]
      exact List.mem_append_right _ (List.mem_singleton_self _)
    · rw [hlast, List.mem_append, List.mem_singleton] at ha
      rcases ha with ha | rfl
      · refine ⟨fun hp => absurd hp (hfree a ha).1, ?_⟩
        rintro rfl
        exact absurd rfl (hfree _ ha).1
      · exact ⟨fun _ => rfl, fun _ => rfl⟩
    · obtain ⟨-, hmax, -⟩ := nextAttempt_eq_create_iff.1 hnext
      have hlt := hmax max hm
      rw [countAttempts, hlast, List.length_append, List.length_singleton]
      rw [countAttempts] at hlt
      omega
    · simp only [perform, ofOutcome, hstart, hbegin]
      rfl

end Engine

namespace Sample

/-- The student decided on a first attempt before anybody had one, and somebody's call came
before it was inserted. -/
theorem lateStart_initial {ctx : Context} {asked : Call} (hf : initial.store.IsFresh ctx.fresh)
    (hlate : (initial.perform ctx asked).2.store.IsFresh (student 9).fresh) :
    LateStart (student 9) 1 initial (initial.perform ctx asked).2 quiz 1 where
  isOpen := ⟨initial, isInitial_initial.reachable, .refl initial,
    Store.openQuiz_eq_ok_iff.2 (by decide +kernel)⟩
  isDecided := ⟨initial, ⟨.refl initial, _, Engine.Run.nil.snoc (.call ctx asked hf)⟩, rfl⟩
  isFresh := hlate

end Sample

/-- A first attempt is refused when the student has started one meanwhile, and begun when
somebody else has. -/
theorem Engine.beginAttempt_late_initial :
    (∃ message, Sample.started.store.beginAttempt (Sample.student 9) 1 1 {} =
      (.error (.refused (.conflict message)), Sample.started.store)) ∧
    ∃ begun t, (Sample.initial.perform (Sample.teacher 1) (.start 1 {})).2.store.beginAttempt
        (Sample.student 9) 1 1 {} = (.ok begun, t) ∧
      ∀ a ∈ t.attemptsOf 1 5, a.status = .inProgress ↔ a = begun := by
  have hreach := Sample.isInitial_initial.reachable
  constructor
  · have hlate : LateStart (Sample.student 9) 1 Sample.initial Sample.started Sample.quiz 1 :=
      Sample.lateStart_initial (by decide +kernel) (by decide +kernel)
    rcases hreach.beginAttempt_late hlate (by decide +kernel) {} with hconflict | ⟨begun, t, hok, -⟩
    · exact hconflict
    · have hrefused : (Sample.started.store.beginAttempt (Sample.student 9) 1 1 {}).1.toBool = false := by
        decide +kernel
      rw [hok] at hrefused
      cases hrefused
  · have hlate : LateStart (Sample.student 9) 1 Sample.initial
        (Sample.initial.perform (Sample.teacher 1) (.start 1 {})).2 Sample.quiz 1 :=
      Sample.lateStart_initial (by decide +kernel) (by decide +kernel)
    rcases hreach.beginAttempt_late hlate (by decide +kernel) {} with
      ⟨message, hconflict⟩ | ⟨begun, t, hok, -, -, honly, -⟩
    · have hbegun : ((Sample.initial.perform (Sample.teacher 1) (.start 1 {})).2.store.beginAttempt
          (Sample.student 9) 1 1 {}).1.toBool = true := by
        decide +kernel
      rw [hconflict] at hbegun
      cases hbegun
    · exact ⟨begun, t, hok, honly⟩

end QuizEngine
