import QuizEngine.Proofs.Completion

/-!
# Provisional results

Whether a result is provisional is computed from the answers on every read
(`Store.exists_score_of_result`, `Store.exists_score_of_review`), and the status of the attempt
plays no part in it. Of the attempts that a person may grade those that are provisional are
the submitted ones. But an attempt may also be abandoned while an essay of it has no points:
then it is called provisional too, and the points will never come, because nothing is written
to an abandoned attempt or to its answers any more (`Reachable.provisional_iff`).
-/

namespace QuizEngine

theorem Score.provisional_eq_true_iff (score : Score) :
    score.provisional = true ↔ score.pendingCount ≠ 0 := by
  simp [provisional, fullyGraded]

namespace Store

variable {s : Store} {caller : Caller} {attemptId : Uuid}

/-- What is read of a closed attempt: its row, and the score of the answers stored. -/
structure IsReading (s : Store) (attemptId : Uuid) (attempt : Attempt) (score : Score) : Prop where
  found : s.findAttempt attemptId = some attempt
  isClosed : attempt.status ≠ .inProgress
  isScore : ∃ passingScore, Score.aggregate (s.listQuestions attempt.quizId)
    (s.listAnswers attempt.id) passingScore = .ok score

theorem isReading_of_load {attempt : Attempt} {snapshot : Snapshot} {score : Score}
    (ha : s.findAttempt attemptId = some attempt) (hclosed : attempt.status ≠ .inProgress)
    (hload : Snapshot.load s attempt = .ok snapshot) (hscore : snapshot.score = .ok score) :
    s.IsReading attemptId attempt score := by
  obtain ⟨quiz, -, rfl⟩ := Snapshot.load_eq_ok_iff.1 hload
  exact ⟨ha, hclosed, quiz.passingScore, hscore⟩

/-- A result tells the score of the answers stored. -/
theorem exists_score_of_result {result : AttemptResult} (h : s.result caller attemptId = .ok result) :
    ∃ score, s.IsReading attemptId result.attempt score ∧ result.provisional = score.provisional ∧
      result.pendingGrading = score.pendingCount := by
  simp only [Store.result, bind_eq_ok_iff, orRefused_eq_ok_iff, requireAttempt_eq_ok_iff,
    ite_error_eq_ok_iff, orOverflow_eq_ok_iff, AttemptResult.of, pure, Except.pure,
    Except.ok.injEq] at h
  obtain ⟨attempt, ha, -, hclosed, snapshot, hload, -, score, hscore, rfl⟩ := h
  exact ⟨score, isReading_of_load ha hclosed hload hscore, rfl, rfl⟩

/-- A review tells whether the score of the answers stored is provisional. -/
theorem exists_score_of_review {review : AttemptReview} (h : s.review caller attemptId = .ok review) :
    ∃ score, s.IsReading attemptId review.attempt score ∧ review.provisional = score.provisional := by
  simp only [Store.review, bind_eq_ok_iff, orRefused_eq_ok_iff, requireAttempt_eq_ok_iff,
    ite_error_eq_ok_iff, orOverflow_eq_ok_iff, pure, Except.pure, Except.ok.injEq] at h
  obtain ⟨attempt, ha, -, hclosed, snapshot, hload, -, score, hscore, rfl⟩ := h
  exact ⟨score, isReading_of_load ha hclosed hload hscore, rfl⟩

/-- An attempt waits for grades when it is submitted, or when it was abandoned with answers
that no rule decides on. -/
theorem AllScored.waiting_ne_nil_iff (hall : s.AllScored) (h : s.Sound) {attempt : Attempt}
    (ha : s.findAttempt attemptId = some attempt) (hclosed : attempt.status ≠ .inProgress) :
    s.waiting attemptId ≠ [] ↔ attempt.status = .submitted ∨
      attempt.status = .abandoned ∧ s.waiting attemptId ≠ [] := by
  have hstatus := hall.status_eq h ha
  simp only [List.length_eq_zero_iff] at hstatus
  cases hst : attempt.status with
  | inProgress => exact absurd hst hclosed
  | abandoned => simp
  | submitted =>
    have hsome : s.waiting attemptId ≠ [] := by
      intro hnone
      rw [hst, if_pos hnone] at hstatus
      cases hstatus rfl
    simp [hsome]
  | graded =>
    have hnone : s.waiting attemptId = [] := by
      by_contra hsome
      rw [hst, if_neg hsome] at hstatus
      cases hstatus rfl
    simp [hnone]

/-- What is called provisional are the attempts that wait for grades. -/
theorem IsReading.provisional_eq_true_iff {attempt : Attempt} {score : Score}
    (hread : s.IsReading attemptId attempt score) (hall : s.AllScored) (h : s.Sound) :
    score.pendingCount = (s.waiting attemptId).length ∧
      (score.provisional = true ↔ attempt.status = .submitted ∨
        attempt.status = .abandoned ∧ s.waiting attemptId ≠ []) := by
  obtain ⟨ha, hclosed, _, hscore⟩ := hread
  have hcount : score.pendingCount = (s.waiting attemptId).length := by
    rw [h.id_of_findAttempt ha] at hscore
    exact h.pendingCount_eq ha hscore
  rw [← hall.waiting_ne_nil_iff h ha hclosed, score.provisional_eq_true_iff, hcount, ne_eq,
    List.length_eq_zero_iff]
  exact ⟨rfl, Iff.rfl⟩

end Store

namespace Engine

variable {e : Engine}

/-- In every reachable state a submitted attempt is one that may be graded and has answers that
wait for it. The result of an attempt and its review call it provisional when it is submitted,
and the result counts the answers that wait; but they do the same of an abandoned attempt
that has such answers, although no run changes the attempt or its answers any more. -/
theorem Reachable.provisional_iff (h : e.Reachable) {attempt : Attempt}
    (hmem : attempt ∈ e.store.attempts.values) :
    (attempt.status = .submitted ↔
      attempt.status.isGradeable = true ∧ e.store.waiting attempt.id ≠ []) ∧
    (∀ caller result, e.store.result caller attempt.id = .ok result →
      result.pendingGrading = (e.store.waiting attempt.id).length ∧
      (result.provisional = true ↔ attempt.status = .submitted ∨
        attempt.status = .abandoned ∧ e.store.waiting attempt.id ≠ []) ∧
      (0 < result.pendingGrading ↔ result.provisional = true)) ∧
    (∀ caller review, e.store.review caller attempt.id = .ok review →
      (review.provisional = true ↔ attempt.status = .submitted ∨
        attempt.status = .abandoned ∧ e.store.waiting attempt.id ≠ [])) ∧
    (attempt.status = .abandoned → ∀ trace e', e.Run trace e' →
      e.store.SameAttempt e'.store attempt.id) := by
  have hs := h.sound
  have hall := h.allScored
  have ha := (hs.mem_attempts_iff attempt).1 hmem
  refine ⟨?_, fun caller result hresult => ?_, fun caller review hreview => ?_,
    fun hst trace e' hrun => hrun.sameAttempt_of_abandoned hs ha hst⟩
  · constructor
    · intro hst
      have hclosed : attempt.status ≠ .inProgress := by simp [hst]
      exact ⟨AttemptStatus.isGradeable_iff.2 (Or.inl hst),
        (hall.waiting_ne_nil_iff hs ha hclosed).2 (Or.inl hst)⟩
    · rintro ⟨hg, hsome⟩
      rw [hall.status_eq hs ha hg, if_neg fun hzero => hsome (List.length_eq_zero_iff.1 hzero)]
  · obtain ⟨score, hread, hprovisional, hpending⟩ := Store.exists_score_of_result hresult
    obtain ⟨hcount, hiff⟩ := hread.provisional_eq_true_iff hall hs
    obtain rfl := Option.some.inj (ha.symm.trans hread.found)
    rw [hpending, hprovisional]
    exact ⟨hcount, hiff, by rw [score.provisional_eq_true_iff, Nat.pos_iff_ne_zero]⟩
  · obtain ⟨score, hread, hprovisional⟩ := Store.exists_score_of_review hreview
    obtain ⟨-, hiff⟩ := hread.provisional_eq_true_iff hall hs
    obtain rfl := Option.some.inj (ha.symm.trans hread.found)
    rwa [hprovisional]

end Engine

/-! ## An attempt that waits for ever -/

namespace Sample

/-- The owner abandons the attempt with the essay in it. -/
def abandoned : Engine := (answered.perform (teacher 4) (.abandon (uuid 1))).2

/-- The attempt as it is abandoned. -/
def forsaken : Attempt := Store.nextVersion (attempt.abandonedAt .epoch)

theorem reachable_abandoned : abandoned.Reachable :=
  reachable_answered.run
    (Engine.Run.nil.snoc (.call (teacher 4) (.abandon (uuid 1)) (by decide +kernel)))

theorem store_abandoned : abandoned.store = answered.store.putAttempt forsaken := by
  have hnext : answered.store.abandonable (teacher 4) (uuid 1) = .ok (attempt.abandonedAt .epoch) :=
    Store.abandonable_eq_ok_iff.2 ⟨attempt, quiz, by decide +kernel⟩
  simp only [abandoned, Engine.perform, Engine.ofOutcome, Engine.withStore, Store.abandonAttempt,
    hnext]
  rfl

theorem findAttempt_abandoned : abandoned.store.findAttempt (uuid 1) = some forsaken := by
  rw [store_abandoned]
  exact Store.findAttempt_putAttempt_self _ forsaken

theorem load_abandoned :
    Snapshot.load abandoned.store forsaken = .ok ⟨quiz, [choice, essay], answers⟩ := by
  rw [store_abandoned]
  exact load_answered

end Sample

/-- Whoever reads the result of the abandoned attempt of the sample run reads that it is
provisional exactly when an answer waits, and this stays so. -/
theorem Engine.provisional_iff_forsaken :
    Sample.forsaken ∈ Sample.abandoned.store.attempts.values ∧
      (∀ caller result, Sample.abandoned.store.result caller (Sample.uuid 1) = .ok result →
        (result.provisional = true ↔ Sample.abandoned.store.waiting (Sample.uuid 1) ≠ [])) ∧
      ∀ trace e', Sample.abandoned.Run trace e' →
        Sample.abandoned.store.SameAttempt e'.store (Sample.uuid 1) := by
  have hmem : Sample.forsaken ∈ Sample.abandoned.store.attempts.values :=
    (Sample.reachable_abandoned.sound.mem_attempts_iff _).2 Sample.findAttempt_abandoned
  obtain ⟨-, hresult, -, hsame⟩ := Sample.reachable_abandoned.provisional_iff hmem
  refine ⟨hmem, fun caller result hok => ?_, hsame rfl⟩
  obtain ⟨-, hiff, -⟩ := hresult caller result hok
  exact hiff.trans ⟨fun hor => (hor.resolve_left (by decide)).2, fun hsome => Or.inr ⟨rfl, hsome⟩⟩

/-- The student reads of the abandoned attempt that it is provisional and that one answer waits
to be graded. -/
theorem Engine.provisional_abandoned : Sample.abandoned.Reachable ∧
    ∃ result, Sample.abandoned.store.result (Sample.student 5).caller (Sample.uuid 1) = .ok result ∧
      result.attempt.status = .abandoned ∧ result.provisional = true ∧ result.pendingGrading = 1 := by
  have hfound : Sample.abandoned.store.requireAttempt (Sample.uuid 1) = .ok Sample.forsaken :=
    Store.requireAttempt_eq_ok_iff.2 Sample.findAttempt_abandoned
  refine ⟨Sample.reachable_abandoned, ?_⟩
  simp only [Store.result, hfound, orRefused_ok, bind, Except.bind, Sample.load_abandoned]
  exact ⟨_, rfl, by decide +kernel⟩

end QuizEngine
