import QuizEngine.Proofs.Faults
import QuizEngine.Proofs.SafeScores
import QuizEngine.Proofs.Turns

/-!
# Commits of a grade

The commit of a grade reads the attempt, computes the score it has with the grade, and writes
both. Where that comes to a row and an attempt (`Store.CanCommit`), nothing but a fault keeps
them from being written (`CanCommit.commitGrade_eq`). A grade that passed its check always comes
so far (`IsSafe.exists_canCommit`).

After a conflict the grade is committed again. The conflict left the rows alone, so the next
commit comes to the same row and the same attempt, and conflicts only count: three are borne,
and the fourth is reported (`CanCommit.applyGrade_eq`). `Store.CommitsUntil` counts the commits
that are tried.
-/

namespace QuizEngine

/-- A grade may move a submitted attempt to whatever status its score has. -/
theorem AttemptStatus.canBecome_of_isGradeable {a b : AttemptStatus} (ha : a.isGradeable = true)
    (hb : b.isGradeable = true) : a.canBecome b = true := by
  revert ha hb
  cases a <;> cases b <;> decide

namespace Store

variable {s : Store} {ctx : Context} {row : Answer} {next : Attempt}

/-! ## One commit -/

/-- The store with a grade and the attempt that has it. -/
def withGrade (s : Store) (row : Answer) (next : Attempt) : Store :=
  (s.putAnswer row).putAttempt (nextVersion next)

/-- The row is the stored answer with a grade, and the attempt has the score with it. -/
structure CanCommit (s : Store) (ctx : Context) (row : Answer) (next : Attempt) : Prop where
  isStored : ∃ old, s.findAnswer row.id = some old ∧ old.withGradeOf row = row
  isNext : ∃ attempt snapshot, s.findAttempt row.attemptId = some attempt ∧
    attempt.id = row.attemptId ∧ Snapshot.load s attempt = .ok snapshot ∧
    attempt.regraded snapshot row ctx = .ok next

namespace CanCommit

/-- What a commit comes to does not depend on conflicts. -/
theorem withConflicts (h : s.CanCommit ctx row next) (conflicts : Table Uuid Nat) :
    (s.withConflicts conflicts).CanCommit ctx row next := ⟨h.isStored, h.isNext⟩

theorem id_next (h : s.CanCommit ctx row next) : next.id = row.attemptId := by
  obtain ⟨attempt, snapshot, -, hid, -, hnext⟩ := h.isNext
  obtain ⟨score, -, -, rfl⟩ := Attempt.regraded_eq_ok_iff.1 hnext
  exact hid

/-- A commit writes the row and the attempt, unless the grade cannot be written or a conflict
is left. -/
theorem commitGrade_eq (h : s.CanCommit ctx row next) :
    s.commitGrade ctx row =
      if row.id ∈ s.unwritableGrades then .refused (gradeUnwritable row.id) s
      else match s.conflictsLeft row.attemptId with
        | left + 1 => .refused (lateWrite row.attemptId) (s.forceConflicts row.attemptId left)
        | 0 => (.ok row, s.withGrade row next) := by
  obtain ⟨old, hold, hrow⟩ := h.isStored
  obtain ⟨attempt, snapshot, hatt, hid, hload, hnext⟩ := h.isNext
  have hreq : s.requireAttempt row.attemptId = .ok attempt := requireAttempt_eq_ok_iff.2 hatt
  obtain ⟨score, -, -, rfl⟩ := Attempt.regraded_eq_ok_iff.1 hnext
  have hfound : s.findAttempt (attempt.regradedWith score ctx).id = some attempt := hid.symm ▸ hatt
  have hversion : attempt.version = (attempt.regradedWith score ctx).version := rfl
  simp only [commitGrade, hreq, hload, hnext, bind, Except.bind, orRefused_ok, saveGradeWithAttempt,
    gradedRow?_of_stored hold hrow, checkVersion_eq hfound hversion]
  rw [show (attempt.regradedWith score ctx).id = row.attemptId from hid]
  by_cases hmarked : row.id ∈ s.unwritableGrades
  · simp only [if_pos hmarked]
  · simp only [if_neg hmarked]
    cases s.conflictsLeft row.attemptId <;> rfl

/-! ## Commits after conflicts -/

/-- When the grade cannot be written the commit is not tried again. -/
theorem commitRetrying_of_marked (h : s.CanCommit ctx row next) (hmarked : row.id ∈ s.unwritableGrades)
    (retries : Nat) :
    commitRetrying ctx row retries s = .refused (gradeUnwritable row.id) s := by
  have hcommit := h.commitGrade_eq
  rw [if_pos hmarked] at hcommit
  cases retries with
  | zero => exact hcommit
  | succ retries =>
    rw [commitRetrying, hcommit]
    rfl

/-- Without conflicts the first commit writes the grade. -/
theorem commitRetrying_of_calm (h : s.CanCommit ctx row next) (hfree : row.id ∉ s.unwritableGrades)
    (hcalm : s.conflictsLeft row.attemptId = 0) (retries : Nat) :
    commitRetrying ctx row retries s = (.ok row, s.withGrade row next) := by
  have hcommit := h.commitGrade_eq
  rw [if_neg hfree, hcalm] at hcommit
  cases retries with
  | zero => exact hcommit
  | succ retries => rw [commitRetrying, hcommit]

/-- A grade that can be written is written when no more conflicts are left than commits may be
tried again, and else refused. -/
theorem commitRetrying_of_writable :
    ∀ (retries : Nat) {s : Store}, s.CanCommit ctx row next → row.id ∉ s.unwritableGrades →
      ∃ conflicts, commitRetrying ctx row retries s =
        if s.conflictsLeft row.attemptId ≤ retries then
          (.ok row, (s.withGrade row next).withConflicts conflicts)
        else Outcome.refused (lateWrite row.attemptId) (s.withConflicts conflicts)
  | 0, s, h, hfree => by
    have hcommit := h.commitGrade_eq
    rw [if_neg hfree] at hcommit
    rw [commitRetrying, hcommit]
    cases s.conflictsLeft row.attemptId with
    | zero => exact ⟨s.forcedConflicts, rfl⟩
    | succ left => exact ⟨_, rfl⟩
  | retries + 1, s, h, hfree => by
    cases hleft : s.conflictsLeft row.attemptId with
    | zero =>
      exact ⟨s.forcedConflicts, h.commitRetrying_of_calm hfree hleft _⟩
    | succ left =>
      have hcommit := h.commitGrade_eq
      rw [if_neg hfree, hleft] at hcommit
      -- one conflict is used up, and the rows are as they were
      obtain ⟨conflicts, hrest⟩ := commitRetrying_of_writable retries
        (s := s.forceConflicts row.attemptId left) (h.withConflicts _) hfree
      rw [conflictsLeft_forceConflicts] at hrest
      refine ⟨conflicts, ?_⟩
      rw [commitRetrying, hcommit]
      simp only [Outcome.refused, lateWrite, Nat.add_le_add_iff_right]
      exact hrest

end CanCommit

/-! ## Faults -/

/-- Why a grade that passed its check is not written: that is made to fail, or the attempt has
more conflicts left than are borne. -/
def gradeFault? (s : Store) (answer : Answer) : Option Error :=
  if answer.id ∈ s.unwritableGrades then some (gradeUnwritable answer.id)
  else if maxConflicts < s.conflictsLeft answer.attemptId then some (lateWrite answer.attemptId)
  else none

theorem gradeFault?_eq_none_iff {answer : Answer} :
    s.gradeFault? answer = none ↔
      answer.id ∉ s.unwritableGrades ∧ s.conflictsLeft answer.attemptId ≤ maxConflicts := by
  unfold gradeFault?
  split
  · simp_all
  · split <;> simp_all

/-- A grade is written with the attempt, or refused for its fault and no row is written. -/
theorem CanCommit.applyGrade_eq {checked : CheckedGrade} (h : s.CanCommit ctx (checked.row ctx) next) :
    ∃ conflicts, s.applyGrade ctx checked = match s.gradeFault? checked.answer with
      | some cause => .refused cause (s.withConflicts conflicts)
      | none => (.ok (checked.row ctx), (s.withGrade (checked.row ctx) next).withConflicts conflicts) := by
  unfold applyGrade gradeFault?
  by_cases hmarked : checked.answer.id ∈ s.unwritableGrades
  · exact ⟨s.forcedConflicts, by rw [if_pos hmarked]; exact h.commitRetrying_of_marked hmarked _⟩
  · obtain ⟨conflicts, heq⟩ := CanCommit.commitRetrying_of_writable maxConflicts h hmarked
    refine ⟨conflicts, heq.trans ?_⟩
    rw [if_neg hmarked]
    by_cases hborne : s.conflictsLeft checked.answer.attemptId ≤ maxConflicts
    · rw [if_neg (Nat.not_lt.2 hborne)]
      exact if_pos hborne
    · rw [if_pos (Nat.lt_of_not_le hborne)]
      exact if_neg hborne

/-- So many commits of the row are tried, each but the last of which meets a conflict, and the
last one comes to the outcome. -/
inductive CommitsUntil (ctx : Context) (row : Answer) : Nat → Store → Outcome Answer → Prop where
  | last {s : Store} : CommitsUntil ctx row 1 s (s.commitGrade ctx row)
  | again {n : Nat} {s t : Store} {text : String} {outcome : Outcome Answer}
      (isConflict : s.commitGrade ctx row = (.error (.refused (.conflict text)), t))
      (others : CommitsUntil ctx row n t outcome) : CommitsUntil ctx row (n + 1) s outcome

/-- A commit is tried again no more often than allowed. -/
theorem exists_commitsUntil (ctx : Context) (row : Answer) : ∀ (retries : Nat) (s : Store),
    ∃ n, n ≤ retries + 1 ∧ CommitsUntil ctx row n s (commitRetrying ctx row retries s)
  | 0, s => ⟨1, Nat.le_refl _, .last⟩
  | retries + 1, s => by
    unfold commitRetrying
    split
    · rename_i text t hconflict
      obtain ⟨n, hn, hcommits⟩ := exists_commitsUntil ctx row retries t
      exact ⟨n + 1, Nat.add_le_add_right hn 1, .again hconflict hcommits⟩
    · exact ⟨1, Nat.le_add_left .., .last⟩

/-! ## Grades that passed their checks -/

/-- A grade that passed its check can be put into the store. -/
theorem IsSafe.putAnswer_row (h : s.IsSafe) {answerId : Uuid} {grade : Grade} {checked : CheckedGrade}
    (hc : s.checkGrade ctx.caller answerId grade = .ok checked) :
    (s.putAnswer (checked.row ctx)).IsSafe := by
  obtain ⟨_, hans, -⟩ := checkGrade_eq_ok_iff.1 hc
  obtain rfl := h.sound.id_of_findAnswer hans
  have hold : s.findAnswer (checked.row ctx).id = some checked.answer := hans
  exact ⟨h.sound.putAnswer_over hold rfl rfl rfl, h.gradesFit.putAnswer_row hc,
    h.safePoints.of_sameCatalog ⟨rfl, rfl, rfl⟩⟩

/-- A grade that passed its check comes to a row and an attempt with a score. -/
theorem IsSafe.exists_canCommit (h : s.IsSafe) {answerId : Uuid} {grade : Grade}
    {checked : CheckedGrade} (hc : s.checkGrade ctx.caller answerId grade = .ok checked) :
    ∃ next, s.CanCommit ctx (checked.row ctx) next ∧
      s.Writes (.grade checked.answer.attemptId answerId) (s.withGrade (checked.row ctx) next) := by
  obtain ⟨attempt, hans, hatt, -, hst, -⟩ := checkGrade_eq_ok_iff.1 hc
  obtain ⟨quiz, hquiz⟩ := h.sound.hasQuiz _ attempt hatt
  obtain rfl := h.sound.id_of_findAnswer hans
  have hid : attempt.id = checked.answer.attemptId := h.sound.id_of_findAttempt hatt
  have hold : s.findAnswer (checked.row ctx).id = some checked.answer := hans
  have hload : Snapshot.load s attempt =
      .ok ⟨quiz, s.listQuestions attempt.quizId, s.listAnswers attempt.id⟩ :=
    Snapshot.load_eq_ok_iff.2 ⟨quiz, hquiz, rfl⟩
  obtain ⟨score, hscore⟩ :=
    (h.putAnswer_row hc).exists_score attempt.quizId attempt.id quiz.passingScore
  have hnext : attempt.regraded ⟨quiz, s.listQuestions attempt.quizId, s.listAnswers attempt.id⟩
      (checked.row ctx) ctx = .ok (attempt.regradedWith score ctx) := by
    refine Attempt.regraded_eq_ok_iff.2 ⟨score, ?_, ?_, rfl⟩
    · rw [Snapshot.score, h.sound.withAnswer_eq rfl hold hid.symm,
        ← h.sound.listAnswers_putAnswer hold rfl rfl rfl]
      exact hscore
    · exact AttemptStatus.canBecome_of_isGradeable hst score.isGradeable_status
  exact ⟨attempt.regradedWith score ctx, ⟨⟨_, hold, rfl⟩, attempt, _, hatt, hid, hload, hnext⟩,
    hid ▸ .grade hc hatt hload hnext⟩

/-- A grade that passed its check is written with its attempt, or refused for its fault. -/
theorem IsSafe.gradeAnswer_eq (h : s.IsSafe) {answerId : Uuid} {grade : Grade}
    {checked : CheckedGrade} (hc : s.checkGrade ctx.caller answerId grade = .ok checked) :
    ∃ next conflicts, s.CanCommit ctx (checked.row ctx) next ∧
      s.gradeAnswer ctx answerId grade = match s.gradeFault? checked.answer with
        | some cause => .refused cause (s.withConflicts conflicts)
        | none =>
          (.ok (checked.row ctx), (s.withGrade (checked.row ctx) next).withConflicts conflicts) := by
  obtain ⟨next, hcommit, -⟩ := h.exists_canCommit hc
  obtain ⟨conflicts, heq⟩ := hcommit.applyGrade_eq
  exact ⟨next, conflicts, hcommit, (gradeAnswer_of_check hc).trans heq⟩

/-- Without faults the grade is written at once. -/
theorem CanCommit.gradeAnswer_of_calm {checked : CheckedGrade}
    (h : s.CanCommit ctx (checked.row ctx) next) {answerId : Uuid} {grade : Grade}
    (hc : s.checkGrade ctx.caller answerId grade = .ok checked)
    (hfree : checked.answer.id ∉ s.unwritableGrades)
    (hcalm : s.conflictsLeft checked.answer.attemptId = 0) :
    s.gradeAnswer ctx answerId grade = (.ok (checked.row ctx), s.withGrade (checked.row ctx) next) := by
  rw [gradeAnswer_of_check hc]
  exact h.commitRetrying_of_calm hfree hcalm maxConflicts

end Store

end QuizEngine
