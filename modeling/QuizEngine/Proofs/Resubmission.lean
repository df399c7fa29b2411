import QuizEngine.Proofs.Batches
import QuizEngine.Proofs.Judging
import QuizEngine.Proofs.Recordings

/-!
# Submissions that are made again

A submission writes the grades by rule one after the other, and then the attempt. Any of these
writes may fail, and what was written before stays. That does no harm. A submission that fails
leaves all rows as they were, but for answers of its attempt that a rule has judged
(`Store.JudgesOnly`), so the attempt is still open.

Where the grades can be written, all answers are judged before the attempt is written
(`Store.judgedFor`). The next submission finds them judged and changes nothing about them
(`CanSubmit.judgedFor_judgedFor`), so that all submissions of one moment come to the same score.
With `k` conflicts left, `k` of them fail, and the next one does what a single one without
conflicts does (`Engine.performAll_submits`).
-/

namespace QuizEngine

namespace Store

variable {s t : Store} {ctx : Context} {attempt : Attempt} {quiz : Quiz}

/-! ## What a failed submission leaves -/

/-- Nothing was written but grades by rule of answers of the attempt. -/
structure JudgesOnly (s t : Store) (attemptId : Uuid) : Prop where
  sameCatalog : s.SameCatalog t
  attempts : t.attempts = s.attempts
  answers : ∀ id, t.findAnswer id = s.findAnswer id ∨
    ∃ row question later, s.findAnswer id = some row ∧ row.attemptId = attemptId ∧
      s.findQuestion row.questionId = some question ∧ question.type.isAutoGradable = true ∧
      t.findAnswer id = some later ∧ row.withGradeOf later = later

namespace JudgesOnly

variable {attemptId : Uuid}

theorem of_sameRows (h : s.SameRows t) : s.JudgesOnly t attemptId :=
  ⟨h.toSameCatalog, h.attempts, fun id => Or.inl (h.findAnswer_eq id)⟩

/-- Another grade by rule. -/
theorem judge (h : s.JudgesOnly t attemptId) (ht : t.Sound) {row : Answer} {question : Question}
    {correct : Bool} (hrow : t.findAnswer row.id = some row) (hatt : row.attemptId = attemptId)
    (hq : t.findQuestion row.questionId = some question)
    (hc : question.verdict? row.payload = some correct) (now : Instant) :
    s.JudgesOnly (t.putAnswer (row.withVerdict question correct now)) attemptId where
  sameCatalog := h.sameCatalog.trans ⟨rfl, rfl, rfl⟩
  attempts := h.attempts
  answers id := by
    have hauto : question.type.isAutoGradable = true := by
      rw [← ht.isSome_verdict? hrow hq, hc]
      rfl
    rw [findAnswer_putAnswer]
    split
    · rename_i hid
      obtain rfl : id = row.id := hid
      refine Or.inr ?_
      rcases h.answers row.id with hsame | ⟨old, judging, later, hold, hatt', hq', hauto', hlater, hgrade⟩
      · exact ⟨row, question, _, hsame.symm.trans hrow, hatt,
          (h.sameCatalog.findQuestion_eq _).symm.trans hq, hauto, rfl, rfl⟩
      · obtain rfl := Option.some.inj (hlater.symm.trans hrow)
        refine ⟨old, judging, _, hold, hatt', hq', hauto', rfl, ?_⟩
        calc old.withGradeOf (later.withVerdict question correct now)
            = (old.withGradeOf later).withVerdict question correct now := rfl
          _ = later.withVerdict question correct now := by rw [hgrade]
    · exact h.answers id

end JudgesOnly

theorem WritesOnly.judgesOnly {attemptId : Uuid} (h : s.Sound)
    (hw : WritesOnly (fun w => w = .judge attemptId ∨ w = .aside) s t) :
    s.JudgesOnly t attemptId := by
  refine (hw.keeps (P := fun t => t.Sound ∧ s.JudgesOnly t attemptId) (fun {a b w} hp hstep ih => ?_)
    ⟨h, .of_sameRows (.refl s)⟩).2
  refine ⟨hstep.sound ih.1, ?_⟩
  cases hstep with
  | judge isStored _ _ _ _ ofQuestion hasVerdict =>
    rcases hp with hid | hid <;> cases hid
    exact ih.2.judge ih.1 isStored rfl ofQuestion hasVerdict _
  | aside => exact ⟨ih.2.sameCatalog.trans ⟨rfl, rfl, rfl⟩, ih.2.attempts, ih.2.answers⟩
  | _ => rcases hp with hid | hid <;> cases hid

/-! ## Answers judged before the attempt is written -/

/-- A grade by rule of an answer of the attempt cannot be written. -/
def HasMarkedAnswer (s : Store) (attemptId : Uuid) : Prop :=
  ∃ row question, s.findAnswer row.id = some row ∧ row.attemptId = attemptId ∧
    s.findQuestion row.questionId = some question ∧ question.type.isAutoGradable = true ∧
    row.id ∈ s.unwritableGrades

/-- No answer is marked only by being judged. -/
theorem JudgesOnly.hasMarkedAnswer {attemptId : Uuid} (h : s.JudgesOnly t attemptId) (hs : s.Keyed)
    (hmarks : t.unwritableGrades = s.unwritableGrades) (ht : t.HasMarkedAnswer attemptId) :
    s.HasMarkedAnswer attemptId := by
  obtain ⟨row, question, hrow, hatt, hq, hauto, hmarked⟩ := ht
  rw [hmarks] at hmarked
  rcases h.answers row.id with hsame | ⟨old, judging, -, hold, hatt', hq', hauto', -, -⟩
  · exact ⟨row, question, hsame.symm.trans hrow, hatt,
      (h.sameCatalog.findQuestion_eq _).symm.trans hq, hauto, hmarked⟩
  · have hid := hs.id_of_findAnswer hold
    exact ⟨old, judging, hid ▸ hold, hatt', hq', hauto', hid ▸ hmarked⟩

/-- The attempt is open for the caller, and the grades by rule of its answers can be written. -/
structure CanSubmit (s : Store) (ctx : Context) (attempt : Attempt) (quiz : Quiz) : Prop where
  isSafe : s.IsSafe
  isOpen : s.openAttempt ctx.caller attempt.id = .ok attempt
  ofQuiz : s.findQuiz attempt.quizId = some quiz
  unmarked : ¬s.HasMarkedAnswer attempt.id

/-- The store in which the answers of the attempt are judged, when the quiz grades by rule. -/
def judgedFor (s : Store) (quiz : Quiz) (attempt : Attempt) (now : Instant) : Store :=
  if quiz.autoGrade then
    s.putAnswers ((s.listAnswers attempt.id).map (·.judged (s.listQuestions attempt.quizId) now))
  else s

theorem judgedFor_withConflicts (quiz : Quiz) (attempt : Attempt) (now : Instant)
    (conflicts : Table Uuid Nat) :
    (s.withConflicts conflicts).judgedFor quiz attempt now =
      (s.judgedFor quiz attempt now).withConflicts conflicts := by
  unfold judgedFor
  split <;> rfl

theorem unwritableGrades_judgedFor (quiz : Quiz) (attempt : Attempt) (now : Instant) :
    (s.judgedFor quiz attempt now).unwritableGrades = s.unwritableGrades := by
  unfold judgedFor
  split <;> rfl

/-- The store with the attempt as it is closed, or as it was when a conflict is left. -/
def closeAs (s : Store) (attemptId : Uuid) (result : AttemptResult) (closed : Attempt) :
    Outcome AttemptResult :=
  match s.conflictsLeft attemptId with
  | left + 1 => .refused (lateWrite attemptId) (s.forceConflicts attemptId left)
  | 0 => (.ok result, s.putAttempt closed)

/-- What is read of an attempt of the quiz. -/
def snapshotOf (s : Store) (quiz : Quiz) (attempt : Attempt) : Snapshot :=
  ⟨quiz, s.listQuestions attempt.quizId, s.listAnswers attempt.id⟩

namespace CanSubmit

theorem withConflicts (h : s.CanSubmit ctx attempt quiz) (conflicts : Table Uuid Nat) :
    (s.withConflicts conflicts).CanSubmit ctx attempt quiz where
  isSafe := (s.writes_withConflicts conflicts).isSafe h.isSafe
  isOpen := h.isOpen
  ofQuiz := h.ofQuiz
  unmarked := h.unmarked

theorem load_eq (h : s.CanSubmit ctx attempt quiz) :
    Snapshot.load s attempt = .ok (s.snapshotOf quiz attempt) :=
  Snapshot.load_eq_ok_iff.2 ⟨quiz, h.ofQuiz, rfl⟩

/-- The answers of the attempt can all be judged. -/
theorem regrade_eq (h : s.CanSubmit ctx attempt quiz) (hauto : quiz.autoGrade = true) :
    regrade (s.listQuestions attempt.quizId) ctx.now s (s.listAnswers attempt.id) =
      (.ok ((s.listAnswers attempt.id).map (·.judged (s.listQuestions attempt.quizId) ctx.now)),
        s.judgedFor quiz attempt ctx.now) := by
  rw [judgedFor, if_pos hauto]
  have hs := h.isSafe.sound
  refine (hs.holds_listAnswers attempt.id).regrade_eq fun row hrow hjudged hmarked => h.unmarked ?_
  -- an answer that is judged is to a question that a rule can grade
  obtain ⟨hstored, hatt⟩ := (hs.mem_listAnswers attempt.id row).1 hrow
  obtain ⟨_, hgraded⟩ := Option.isSome_iff_exists.1 hjudged
  obtain ⟨question, hquestion, hverdict⟩ := Option.bind_eq_some_iff.1 hgraded
  obtain ⟨correct, hc, -⟩ := Option.map_eq_some_iff.1 hverdict
  have hq := ((hs.questionOf?_listQuestions _ _ _).1 hquestion).1
  have hauto : question.type.isAutoGradable = true := by
    rw [← hs.isSome_verdict? hstored hq, hc]
    rfl
  exact ⟨row, question, hstored, hatt, hq, hauto, hmarked⟩

/-- Judging the answers of an attempt writes nothing else. -/
theorem writes_judgedFor (h : s.CanSubmit ctx attempt quiz) :
    WritesOnly (· = .judge attempt.id) s (s.judgedFor quiz attempt ctx.now) := by
  by_cases hauto : quiz.autoGrade = true
  · exact (regraded_ready h.isSafe.sound h.isOpen h.ofQuiz hauto (h.regrade_eq hauto)).1
  · rw [judgedFor, if_neg hauto]
    exact .refl

theorem judgesOnly_judgedFor (h : s.CanSubmit ctx attempt quiz) :
    s.JudgesOnly (s.judgedFor quiz attempt ctx.now) attempt.id :=
  (h.writes_judgedFor.mono fun _ => Or.inl).judgesOnly h.isSafe.sound

theorem judgedFor (h : s.CanSubmit ctx attempt quiz) :
    (s.judgedFor quiz attempt ctx.now).CanSubmit ctx attempt quiz where
  isSafe := h.writes_judgedFor.isSafe h.isSafe
  isOpen := (openAttempt_eq_of_attempts_eq h.judgesOnly_judgedFor.attempts _ _).trans h.isOpen
  ofQuiz := (h.judgesOnly_judgedFor.sameCatalog.findQuiz_eq _).trans h.ofQuiz
  unmarked hmarked := h.unmarked (h.judgesOnly_judgedFor.hasMarkedAnswer h.isSafe.sound.toKeyed
    (unwritableGrades_judgedFor quiz attempt ctx.now) hmarked)

/-- When the quiz grades by rule the judged answers are read of the attempt. -/
theorem snapshotOf_judgedFor (h : s.CanSubmit ctx attempt quiz) (hauto : quiz.autoGrade = true) :
    (s.judgedFor quiz attempt ctx.now).snapshotOf quiz attempt =
      ⟨quiz, s.listQuestions attempt.quizId,
        (s.listAnswers attempt.id).map (·.judged (s.listQuestions attempt.quizId) ctx.now)⟩ := by
  obtain ⟨-, -, hload, -⟩ :=
    regraded_ready h.isSafe.sound h.isOpen h.ofQuiz hauto (h.regrade_eq hauto)
  exact Except.ok.inj (h.judgedFor.load_eq.symm.trans hload)

/-- Answers that are judged are judged to no effect. -/
theorem judgedFor_judgedFor (h : s.CanSubmit ctx attempt quiz) :
    (s.judgedFor quiz attempt ctx.now).judgedFor quiz attempt ctx.now =
      s.judgedFor quiz attempt ctx.now := by
  by_cases hauto : quiz.autoGrade = true
  · have hsnapshot := h.snapshotOf_judgedFor hauto
    have hquestions := congrArg Snapshot.questions hsnapshot
    have hanswers := congrArg Snapshot.answers hsnapshot
    simp only [snapshotOf] at hquestions hanswers
    have hsame : ((s.judgedFor quiz attempt ctx.now).listAnswers attempt.id).map
        (·.judged ((s.judgedFor quiz attempt ctx.now).listQuestions attempt.quizId) ctx.now) =
        (s.judgedFor quiz attempt ctx.now).listAnswers attempt.id := by
      rw [hquestions, hanswers, List.map_map]
      exact List.map_congr_left fun row _ => Answer.judged_judged _ _ row
    rw [Store.judgedFor, if_pos hauto, hsame]
    exact putAnswers_of_stored (h.judgedFor.isSafe.sound.holds_listAnswers attempt.id).stored
  · rw [Store.judgedFor, if_neg hauto]

/-- A submission judges the answers and then writes the attempt. -/
theorem submitAttempt_eq (h : s.CanSubmit ctx attempt quiz) :
    s.submitAttempt ctx attempt.id = (s.judgedFor quiz attempt ctx.now).closeAttempt ctx.now attempt
      ((s.judgedFor quiz attempt ctx.now).snapshotOf quiz attempt) := by
  rw [submitAttempt_of_load h.isOpen h.load_eq, submitLoaded]
  by_cases hauto : quiz.autoGrade = true
  · rw [h.snapshotOf_judgedFor hauto]
    simp only [snapshotOf, if_pos hauto, h.regrade_eq hauto]
  · have hsame : s.judgedFor quiz attempt ctx.now = s := if_neg hauto
    rw [hsame]
    exact if_neg hauto

/-- Closing the attempt writes it with its score. -/
theorem closeAttempt_eq (h : s.CanSubmit ctx attempt quiz) : ∃ result closed, ∀ conflicts,
    (s.withConflicts conflicts).closeAttempt ctx.now attempt (s.snapshotOf quiz attempt) =
      (s.withConflicts conflicts).closeAs attempt.id result closed := by
  obtain ⟨hatt, -, hopen⟩ := openAttempt_eq_ok_iff.1 h.isOpen
  obtain ⟨score, hscore⟩ : ∃ score, (s.snapshotOf quiz attempt).score = .ok score :=
    h.isSafe.exists_score attempt.quizId attempt.id quiz.passingScore
  have hnext : attempt.submitted (s.snapshotOf quiz attempt).quiz score ctx.now =
      .ok (attempt.submittedWith quiz score ctx.now) := by
    refine Attempt.submitted_eq_ok_iff.2 ⟨?_, rfl⟩
    rw [hopen, Score.status]
    split <;> rfl
  obtain ⟨result, hresult⟩ := exists_result_of_score hscore
    (nextVersion (attempt.submittedWith quiz score ctx.now)) quiz.showCorrectAnswers quiz.showFeedback
  refine ⟨result, nextVersion (attempt.submittedWith quiz score ctx.now), fun conflicts => ?_⟩
  have hfound : (s.withConflicts conflicts).findAttempt
      (attempt.submittedWith quiz score ctx.now).id = some attempt := hatt
  have hupdate := updateAttempt_eq hfound rfl
  simp only [closeAttempt, hscore, hnext, hupdate, closeAs]
  rw [show (attempt.submittedWith quiz score ctx.now).id = attempt.id from rfl]
  cases (s.withConflicts conflicts).conflictsLeft attempt.id with
  | zero => exact congrArg (orOverflow ·, _) hresult
  | succ left => rfl

end CanSubmit

/-! ## One submission after the other -/

/-- With its answers judged the store comes to the other one, but for the conflicts. -/
structure JudgesTo (s t : Store) (ctx : Context) (attempt : Attempt) (quiz : Quiz) : Prop where
  canSubmit : s.CanSubmit ctx attempt quiz
  judged : s.judgedFor quiz attempt ctx.now = t.withConflicts s.forcedConflicts

namespace CanSubmit

theorem judgesTo (h : s.CanSubmit ctx attempt quiz) (conflicts : Table Uuid Nat) :
    (s.withConflicts conflicts).JudgesTo (s.judgedFor quiz attempt ctx.now) ctx attempt quiz :=
  ⟨h.withConflicts conflicts, judgedFor_withConflicts quiz attempt ctx.now conflicts⟩

theorem judgesTo_judgedFor (h : s.CanSubmit ctx attempt quiz) (conflicts : Table Uuid Nat) :
    ((s.judgedFor quiz attempt ctx.now).withConflicts conflicts).JudgesTo
      (s.judgedFor quiz attempt ctx.now) ctx attempt quiz := by
  refine ⟨h.judgedFor.withConflicts conflicts, ?_⟩
  rw [judgedFor_withConflicts, h.judgedFor_judgedFor]
  rfl

/-- However many answers were judged before, submissions come to the same result. -/
theorem exists_submitAttempt (h : s.CanSubmit ctx attempt quiz) : ∃ result closed, ∀ u : Store,
    u.JudgesTo (s.judgedFor quiz attempt ctx.now) ctx attempt quiz →
    u.submitAttempt ctx attempt.id =
      ((s.judgedFor quiz attempt ctx.now).withConflicts u.forcedConflicts).closeAs attempt.id result
        closed := by
  obtain ⟨result, closed, hclose⟩ := h.judgedFor.closeAttempt_eq
  refine ⟨result, closed, fun u hu => ?_⟩
  rw [hu.canSubmit.submitAttempt_eq, hu.judged]
  exact hclose u.forcedConflicts

end CanSubmit

end Store

namespace Engine

/-- As many submissions fail as conflicts are left, and lead to `e₁`. The next one comes to the
result and the rows of a single submission without conflicts. -/
structure SubmitsDespiteConflicts (e : Engine) (ctx : Context) (attemptId : Uuid)
    (result : AttemptResult) (e₁ e₂ calm : Engine) : Prop where
  first : e.performAll ctx (List.replicate (e.store.conflictsLeft attemptId) (.submit attemptId)) =
    (List.replicate (e.store.conflictsLeft attemptId)
      (.error (.refused (Store.lateWrite attemptId))), e₁)
  next : e₁.perform ctx (.submit attemptId) = (.ok (.result result), e₂)
  single : (e.withStore (e.store.forceConflicts attemptId 0)).perform ctx (.submit attemptId) =
    (.ok (.result result), calm)
  attempts : e₂.store.attempts = calm.store.attempts
  answers : e₂.store.answers = calm.store.answers

variable {e : Engine} {ctx : Context}

theorem perform_submit_of_error {attemptId : Uuid} {failure : Failure} {t : Store}
    (herr : e.store.submitAttempt ctx attemptId = (.error failure, t)) :
    e.perform ctx (.submit attemptId) = (.error failure, e.withStore t) := by
  simp only [perform, submit, herr, Except.map]

theorem perform_submit_of_ok {attemptId : Uuid} {result : AttemptResult} {t : Store}
    (hok : e.store.submitAttempt ctx attemptId = (.ok result, t)) :
    ∃ e', e.perform ctx (.submit attemptId) = (.ok (.result result), e') ∧ e'.store = t := by
  refine ⟨⟨t, (e.queue.enqueue result.attempt.quizId).2⟩, ?_, rfl⟩
  simp only [perform, submit, hok, Except.map]

/-- A submission that fails has judged some answers of the attempt at most. -/
theorem Reachable.judgesOnly_submit (h : e.Reachable) {attemptId : Uuid} {failure : Failure}
    {e' : Engine} (herr : e.perform ctx (.submit attemptId) = (.error failure, e')) :
    e.store.JudgesOnly e'.store attemptId := by
  rcases Store.submitAttempt_cases h.sound ctx attemptId with
    ⟨cause, t, hsubmit, hw⟩ | ⟨result, _, t, hsubmit, -⟩
  · rw [perform_submit_of_error hsubmit] at herr
    cases herr
    exact hw.judgesOnly h.sound
  · obtain ⟨_, hok, -⟩ := perform_submit_of_ok hsubmit
    rw [hok] at herr
    cases herr

/-- With so many conflicts left so many submissions fail. The next one writes the attempt as a
single submission would. -/
theorem performAll_submits {s : Store} {attempt : Attempt} {quiz : Quiz} {result : AttemptResult}
    {closed : Attempt} (h : s.CanSubmit ctx attempt quiz)
    (hclose : ∀ u : Store, u.JudgesTo (s.judgedFor quiz attempt ctx.now) ctx attempt quiz →
      u.submitAttempt ctx attempt.id =
        ((s.judgedFor quiz attempt ctx.now).withConflicts u.forcedConflicts).closeAs attempt.id
          result closed) :
    ∀ (k : Nat) (e : Engine), e.store.conflictsLeft attempt.id = k →
      e.store.JudgesTo (s.judgedFor quiz attempt ctx.now) ctx attempt quiz →
      ∃ e₁ e₂, e.performAll ctx (List.replicate k (.submit attempt.id)) =
          (List.replicate k (.error (.refused (Store.lateWrite attempt.id))), e₁) ∧
        e₁.perform ctx (.submit attempt.id) = (.ok (.result result), e₂) ∧
        ((s.judgedFor quiz attempt ctx.now).putAttempt closed).SameRows e₂.store
  | 0, e, hleft, hjudges => by
    have hok := hclose e.store hjudges
    have hsame : ((s.judgedFor quiz attempt ctx.now).withConflicts
        e.store.forcedConflicts).conflictsLeft attempt.id = 0 := hleft
    rw [Store.closeAs, hsame] at hok
    obtain ⟨e₂, hperform, hstore⟩ := perform_submit_of_ok hok
    exact ⟨e, e₂, rfl, hperform, hstore ▸ ⟨⟨rfl, rfl, rfl⟩, rfl, rfl⟩⟩
  | k + 1, e, hleft, hjudges => by
    have herr := hclose e.store hjudges
    have hsame : ((s.judgedFor quiz attempt ctx.now).withConflicts
        e.store.forcedConflicts).conflictsLeft attempt.id = k + 1 := hleft
    rw [Store.closeAs, hsame] at herr
    -- the answers are judged now, and one conflict is used up
    obtain ⟨e₁, e₂, hothers, hlast, hrows⟩ := performAll_submits h hclose k
      (e.withStore (((s.judgedFor quiz attempt ctx.now).withConflicts
        e.store.forcedConflicts).forceConflicts attempt.id k))
      (Store.conflictsLeft_forceConflicts _ _ _) (h.judgesTo_judgedFor _)
    refine ⟨e₁, e₂, ?_, hlast, hrows⟩
    rw [List.replicate_succ, List.replicate_succ, performAll, perform_submit_of_error herr]
    simp only [hothers]

/-- An attempt at work is submitted in the end when the grades by rule of its answers can be
written. -/
theorem Reachable.exists_submitsDespiteConflicts (h : e.Reachable) (hpoints : e.store.HasSafePoints)
    {attemptId : Uuid} {attempt : Attempt} (ha : e.store.findAttempt attemptId = some attempt)
    (hown : attempt.studentId = ctx.caller.userId) (hstatus : attempt.status = .inProgress)
    (hmarks : ¬e.store.HasMarkedAnswer attemptId) :
    ∃ result e₁ e₂ calm, e.SubmitsDespiteConflicts ctx attemptId result e₁ e₂ calm := by
  obtain ⟨quiz, hquiz⟩ := h.sound.hasQuiz _ attempt ha
  obtain rfl := h.sound.id_of_findAttempt ha
  have hcan : e.store.CanSubmit ctx attempt quiz :=
    ⟨h.isSafe hpoints, Store.openAttempt_eq_ok_iff.2 ⟨ha, hown, hstatus⟩, hquiz, hmarks⟩
  obtain ⟨result, closed, hclose⟩ := hcan.exists_submitAttempt
  obtain ⟨e₁, e₂, hfirst, hnext, hrows⟩ :=
    performAll_submits hcan hclose _ e rfl (hcan.judgesTo e.store.forcedConflicts)
  obtain ⟨_, calm, hnone, hsingle, hcalm⟩ :=
    performAll_submits hcan hclose 0 (e.withStore (e.store.forceConflicts attempt.id 0))
      (Store.conflictsLeft_forceConflicts _ _ 0) (hcan.judgesTo _)
  obtain rfl := (Prod.mk.inj hnone).2
  exact ⟨result, e₁, e₂, calm, hfirst, hnext, hsingle, hrows.attempts.trans hcalm.attempts.symm,
    hrows.answers.trans hcalm.answers.symm⟩

/-- A submission of one's own attempt at work fails only when the grade of an answer that a rule
can grade cannot be written, or when a conflict is left. When all these grades can be written,
as many submissions fail as conflicts are left, and the next one comes to the same as a single
one without conflicts. Whatever submission fails, it has judged answers of its attempt at most,
and open attempts are open for answers and submissions as before. -/
theorem Reachable.submit_under_faults (h : e.Reachable) (hpoints : e.store.HasSafePoints)
    (ctx : Context) (attemptId : Uuid) :
    (∀ attempt, e.store.findAttempt attemptId = some attempt →
      attempt.studentId = ctx.caller.userId → attempt.status = .inProgress →
      ((∃ failure, (e.perform ctx (.submit attemptId)).1 = .error failure) →
        e.store.HasMarkedAnswer attemptId ∨ 0 < e.store.conflictsLeft attemptId) ∧
      (¬e.store.HasMarkedAnswer attemptId →
        ∃ result e₁ e₂ calm, e.SubmitsDespiteConflicts ctx attemptId result e₁ e₂ calm)) ∧
    ∀ failure e', e.perform ctx (.submit attemptId) = (.error failure, e') →
      e.store.JudgesOnly e'.store attemptId ∧
      (∀ caller id, e'.store.openAttempt caller id = e.store.openAttempt caller id) ∧
      ∀ ctx id questionId raw, e'.store.recordable ctx id questionId raw =
        e.store.recordable ctx id questionId raw := by
  refine ⟨fun attempt ha hown hstatus => ?_, fun failure e' herr => ?_⟩
  · refine ⟨fun ⟨failure, herr⟩ => ?_, h.exists_submitsDespiteConflicts hpoints ha hown hstatus⟩
    by_cases hmarked : e.store.HasMarkedAnswer attemptId
    · exact Or.inl hmarked
    · refine Or.inr (Nat.pos_of_ne_zero fun hzero => ?_)
      -- without conflicts it is this submission that succeeds
      obtain ⟨_, e₁, _, _, hsubmits⟩ :=
        h.exists_submitsDespiteConflicts hpoints ha hown hstatus hmarked
      have hnone := hsubmits.first
      rw [hzero] at hnone
      obtain rfl : e = e₁ := (Prod.mk.inj hnone).2
      rw [hsubmits.next] at herr
      cases herr
  · have hjudges := h.judgesOnly_submit herr
    exact ⟨hjudges, Store.openAttempt_eq_of_attempts_eq hjudges.attempts,
      Store.recordable_eq_of_same hjudges.attempts hjudges.sameCatalog⟩

end Engine

namespace Sample

/-- The sample run before the submission, with two writes of the attempt to fail. -/
def delayed : Engine := answered.withStore (answered.store.forceConflicts (uuid 1) 2)

theorem reachable_delayed : delayed.Reachable :=
  reachable_answered.run (Engine.Run.nil.snoc (.forceConflicts (uuid 1) 2))

theorem hasSafePoints_delayed : delayed.store.HasSafePoints :=
  ⟨by decide +kernel, by decide +kernel, by decide +kernel⟩

theorem not_hasMarkedAnswer_delayed : ¬delayed.store.HasMarkedAnswer (uuid 1) := by
  have hmarks : delayed.store.unwritableGrades = [] := by decide +kernel
  rintro ⟨row, question, -, -, -, -, hmarked⟩
  rw [hmarks] at hmarked
  cases hmarked

end Sample

/-- Two submissions of the sample run fail, and the third one does what it does without
conflicts. -/
theorem Engine.submit_under_faults_delayed :
    Sample.delayed.Reachable ∧ Sample.delayed.store.HasSafePoints ∧
    Sample.delayed.store.conflictsLeft (Sample.uuid 1) = 2 ∧
    ∃ result e₁ e₂ calm, Sample.delayed.SubmitsDespiteConflicts (Sample.student 4) (Sample.uuid 1)
      result e₁ e₂ calm := by
  obtain ⟨hown, -⟩ := Sample.reachable_delayed.submit_under_faults Sample.hasSafePoints_delayed
    (Sample.student 4) (Sample.uuid 1)
  obtain ⟨hatt, hstudent, hstatus⟩ := Store.openAttempt_eq_ok_iff.1 Sample.openAttempt_answered
  exact ⟨Sample.reachable_delayed, Sample.hasSafePoints_delayed,
    Store.conflictsLeft_forceConflicts _ _ 2,
    (hown Sample.attempt hatt hstudent hstatus).2 Sample.not_hasMarkedAnswer_delayed⟩

end QuizEngine
