import QuizEngine.Proofs.Changes
import QuizEngine.Proofs.Run

/-!
# Submitted attempts

A submitted attempt is written only by grades (`Writes.of_isGradeable`), and each grade gives
it the score of its answers and the next version (`Writes.grade_spec`). So a submitted
attempt that still has its version has all its answers as they were (`Run.same_or_newer`),
although answers bear no version of their own.
-/

namespace QuizEngine

namespace Store

variable {s t : Store}

/-! ## Grades and the attempt -/

/-- Who grades an answer of an attempt in a snapshot of it replaces the answer there. -/
theorem Sound.withAnswer_eq (h : s.Sound) {snapshot : Snapshot} {attemptId : Uuid} {row old : Answer}
    (hsnap : snapshot.answers = s.listAnswers attemptId) (hold : s.findAnswer row.id = some old)
    (hatt : old.attemptId = attemptId) :
    (snapshot.withAnswer row).answers =
      (s.listAnswers attemptId).map fun a => if a.id = row.id then row else a := by
  have hmem : old ∈ s.listAnswers attemptId := by
    rw [h.mem_listAnswers, h.id_of_findAnswer hold]
    exact ⟨hold, hatt⟩
  have hany : (snapshot.answers.any fun a => a.id == row.id) = true := by
    rw [hsnap, List.any_eq_true]
    exact ⟨old, hmem, by simp [h.id_of_findAnswer hold]⟩
  rw [Snapshot.withAnswer, hany, if_pos rfl, hsnap]

/-- A grade replaces the answer among those of its attempt, and the attempt gets the score of
its answers with the next version. -/
theorem Writes.grade_spec {id answerId : Uuid} (hw : s.Writes (.grade id answerId) t) (h : s.Sound) :
    ∃ (ctx : Context) (attempt : Attempt) (quiz : Quiz) (score : Score) (row : Answer),
      s.findAttempt id = some attempt ∧ attempt.status.isGradeable = true ∧
        s.findQuiz attempt.quizId = some quiz ∧
        t.listAnswers id = (s.listAnswers id).map (fun a => if a.id = row.id then row else a) ∧
        row.isGraded = true ∧
        Score.aggregate (s.listQuestions attempt.quizId) (t.listAnswers id) quiz.passingScore =
          .ok score ∧
        t.findAttempt id = some (nextVersion (attempt.regradedWith score ctx)) := by
  cases hw with
  | @grade ctx _ _ checked attempt _ snapshot isChecked ofAttempt isSnapshot isNext =>
    obtain ⟨_, hans, hatt, -, hst, -⟩ := checkGrade_eq_ok_iff.1 isChecked
    obtain rfl := Option.some.inj (ofAttempt.symm.trans hatt)
    obtain ⟨quiz, hquiz, rfl⟩ := Snapshot.load_eq_ok_iff.1 isSnapshot
    obtain ⟨score, hscore, -, rfl⟩ := Attempt.regraded_eq_ok_iff.1 isNext
    obtain rfl := h.id_of_findAnswer hans
    have hid := h.id_of_findAttempt ofAttempt
    have hold : s.findAnswer (checked.row ctx).id = some checked.answer := hans
    have hlist : (s.putAnswer (checked.row ctx)).listAnswers attempt.id =
        (s.listAnswers attempt.id).map fun a =>
          if a.id = (checked.row ctx).id then checked.row ctx else a :=
      h.listAnswers_putAnswer hold rfl rfl rfl attempt.id
    refine ⟨ctx, attempt, quiz, score, checked.row ctx, hid ▸ ofAttempt, hst, hquiz, hlist, rfl, ?_, ?_⟩
    · rw [Snapshot.score, h.withAnswer_eq rfl hold hid.symm, ← hlist] at hscore
      exact hscore
    · exact findAttempt_putAttempt_self _ _

/-- Every write to an attempt but a grade finds it in progress. -/
theorem Writes.inProgress_before {w : Write} {id : Uuid} {attempt : Attempt} (hw : s.Writes w t)
    (hid : w.attempt? = some id) (ha : s.findAttempt id = some attempt) :
    attempt.status = .inProgress ∨ ∃ answerId, w = .grade id answerId := by
  cases hw with
  | start _ _ isFresh =>
    obtain rfl := Option.some.inj hid
    exact absurd (isFresh.1.symm.trans ha) (by simp)
  | handIn _ isRecordable =>
    obtain rfl := Option.some.inj hid
    obtain ⟨_, ha', _, hp, -⟩ := recordable_eq_ok_iff.1 isRecordable
    obtain rfl := Option.some.inj (ha.symm.trans ha')
    exact Or.inl hp
  | judge _ ofAttempt inProgress _ _ _ _ =>
    obtain rfl := Option.some.inj hid
    obtain rfl := Option.some.inj (ha.symm.trans ofAttempt)
    exact Or.inl inProgress
  | submit isOpen _ _ _ _ =>
    obtain rfl := Option.some.inj hid
    obtain ⟨ha', -, hp⟩ := openAttempt_eq_ok_iff.1 isOpen
    obtain rfl := Option.some.inj (ha.symm.trans ha')
    exact Or.inl hp
  | abandon isAbandonable =>
    obtain rfl := Option.some.inj hid
    obtain ⟨_, _, ha', _, _, hp, -⟩ := abandonable_eq_ok_iff.1 isAbandonable
    obtain rfl := Option.some.inj (ha.symm.trans ha')
    exact Or.inl hp
  | grade _ _ _ _ =>
    obtain rfl := Option.some.inj hid
    exact Or.inr ⟨_, rfl⟩
  | aside => cases hid

/-- Every write to an attempt but its submission and a grade leaves it in progress or
abandoned. -/
theorem Writes.status_after {w : Write} {id : Uuid} {attempt : Attempt} (hw : s.Writes w t)
    (h : s.Sound) (hid : w.attempt? = some id) (ha : t.findAttempt id = some attempt) :
    (attempt.status = .inProgress ∨ attempt.status = .abandoned) ∨ w = .submit id ∨
      ∃ answerId, w = .grade id answerId := by
  have hbefore : s.findAttempt id = some attempt →
      attempt.status = .inProgress ∨ ∃ answerId, w = .grade id answerId :=
    hw.inProgress_before hid
  cases hw with
  | start _ _ _ =>
    obtain rfl := Option.some.inj hid
    obtain rfl := Option.some.inj ((findAttempt_putAttempt_self _ _).symm.trans ha)
    exact Or.inl (Or.inl rfl)
  | handIn _ _ => exact (hbefore ha).imp Or.inl Or.inr
  | judge _ _ _ _ _ _ _ => exact (hbefore ha).imp Or.inl Or.inr
  | submit _ _ _ _ _ =>
    obtain rfl := Option.some.inj hid
    exact Or.inr (Or.inl rfl)
  | abandon isAbandonable =>
    obtain rfl := Option.some.inj hid
    obtain ⟨_, _, hold, _, _, _, rfl⟩ := abandonable_eq_ok_iff.1 isAbandonable
    obtain rfl := h.id_of_findAttempt hold
    obtain rfl := Option.some.inj ((findAttempt_putAttempt_self _ _).symm.trans ha)
    exact Or.inl (Or.inr rfl)
  | grade _ _ _ _ =>
    obtain rfl := Option.some.inj hid
    exact Or.inr (Or.inr ⟨_, rfl⟩)
  | aside => cases hid

/-- Only grades are written to a submitted attempt. -/
theorem Writes.of_isGradeable {w : Write} {id : Uuid} {attempt : Attempt} (hw : s.Writes w t)
    (ha : s.findAttempt id = some attempt) (hg : attempt.status.isGradeable = true) :
    w.attempt? ≠ some id ∨ ∃ answerId, w = .grade id answerId := by
  by_cases hid : w.attempt? = some id
  · rcases hw.inProgress_before hid ha with hp | hgrade
    · rw [hp] at hg
      cases hg
    · exact Or.inr hgrade
  · exact Or.inl hid

/-- An attempt comes to be submitted only by being submitted. -/
theorem Writes.of_isGradeable_after {w : Write} {id : Uuid} {attempt : Attempt} (hw : s.Writes w t)
    (h : s.Sound) (ha : t.findAttempt id = some attempt) (hg : attempt.status.isGradeable = true) :
    w.attempt? ≠ some id ∨ w = .submit id ∨ ∃ answerId, w = .grade id answerId := by
  by_cases hid : w.attempt? = some id
  · rcases hw.status_after h hid ha with (hst | hst) | hw'
    · rw [hst] at hg
      cases hg
    · rw [hst] at hg
      cases hg
    · exact Or.inr hw'
  · exact Or.inl hid

/-- A write leaves a submitted attempt with its answers as it is, or gives it a later
version. -/
theorem Writes.same_or_newer {w : Write} {id : Uuid} {attempt : Attempt} (hw : s.Writes w t)
    (h : s.Sound) (ha : s.findAttempt id = some attempt) (hg : attempt.status.isGradeable = true) :
    s.SameAttempt t id ∨ ∃ later, t.findAttempt id = some later ∧
      later.status.isGradeable = true ∧ attempt.version < later.version := by
  rcases hw.of_isGradeable ha hg with hne | ⟨answerId, rfl⟩
  · exact Or.inl (hw.sameAttempt h hne)
  · obtain ⟨ctx, stored, _, score, _, ha', _, _, _, _, _, hnext⟩ := hw.grade_spec h
    obtain rfl := Option.some.inj (ha.symm.trans ha')
    refine Or.inr ⟨_, hnext, score.isGradeable_status, ?_⟩
    exact Int.lt_succ attempt.version

end Store

theorem Engine.Run.keepsAnswer {e e' : Engine} {trace : List Event} (h : e.Run trace e')
    (hs : e.store.Sound) {id : Uuid} {a : Answer} (ha : e.store.findAnswer id = some a) :
    e'.store.KeepsAnswer a := by
  obtain rfl := hs.id_of_findAnswer ha
  exact (h.keeps hs (fun hsound hw ih => hw.keepsAnswer hsound ih) ⟨a, ha, rfl, rfl, rfl⟩).2

open Store in
/-- In a run a submitted attempt that keeps its version keeps its row and its answers. -/
theorem Engine.Run.same_or_newer {e e' : Engine} {trace : List Event} (h : e.Run trace e')
    (hs : e.store.Sound) {id : Uuid} {attempt : Attempt} (ha : e.store.findAttempt id = some attempt)
    (hg : attempt.status.isGradeable = true) :
    e.store.SameAttempt e'.store id ∨ ∃ later, e'.store.findAttempt id = some later ∧
      later.status.isGradeable = true ∧ attempt.version < later.version := by
  refine (h.keeps (P := fun t => e.store.SameAttempt t id ∨ ∃ later, t.findAttempt id = some later ∧
    later.status.isGradeable = true ∧ attempt.version < later.version) hs
    (fun {s t w} hsound hw ih => ?_) (Or.inl (SameAttempt.refl _ id))).2
  rcases ih with hsame | ⟨later, hl, hlg, hlt⟩
  · rcases hw.same_or_newer hsound (hsame.findAttempt_eq.trans ha) hg with hnext | hnewer
    · exact Or.inl (hsame.trans hnext)
    · exact Or.inr hnewer
  · rcases hw.same_or_newer hsound hl hlg with hnext | ⟨last, hlast, hlastg, hllt⟩
    · exact Or.inr ⟨later, hnext.findAttempt_eq.trans hl, hlg, hlt⟩
    · exact Or.inr ⟨last, hlast, hlastg, by omega⟩

end QuizEngine
