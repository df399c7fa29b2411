import QuizEngine.Proofs.Batches

/-!
# Grades under conflicts

Somebody else may write the attempt between the read and the write of a grade. The grade is then
tried again, and whether it is given in the end depends on how often that happens and on nothing
else: three conflicts are borne (`Engine.Reachable.grade_under_conflicts`). What is stored is
what would be stored without them, because the answer is written as it was when the grade was
checked, the attempt as it is read again, and all of it with the time of the call.
-/

namespace QuizEngine

namespace Store

variable {s : Store} {ctx : Context} {answerId : Uuid} {grade : Grade}

/-- A grade may be given to the answer: the caller is an administrator or owns the quiz, the
attempt is submitted, and the points lie within those of the question. -/
structure TakesGrade (s : Store) (caller : Caller) (answerId : Uuid) (grade : Grade) (row : Answer)
    (attempt : Attempt) (question : Question) : Prop where
  ofAnswer : s.findAnswer answerId = some row
  ofAttempt : s.findAttempt row.attemptId = some attempt
  ofQuestion : s.findQuestion row.questionId = some question
  byManager : caller.isPrivileged = true ∨ s.owner? attempt.quizId = some caller.userId
  isSubmitted : attempt.status = .submitted ∨ attempt.status = .graded
  nonneg : Decimal.zero ≤ grade.points
  within : grade.points ≤ question.points

theorem checkGrade_eq_ok_iff_takes {caller : Caller} {row : Answer} {question : Question} :
    s.checkGrade caller answerId grade = .ok ⟨row, question, grade⟩ ↔
      ∃ attempt, s.TakesGrade caller answerId grade row attempt question := by
  have howns : ∀ quizId, s.ownsQuiz quizId caller = true ↔
      caller.isPrivileged = true ∨ s.owner? quizId = some caller.userId := by
    intro quizId
    rw [ownsQuiz, Bool.or_eq_true, beq_iff_eq]
  rw [checkGrade_eq_ok_iff]
  refine exists_congr fun attempt => ⟨?_, ?_⟩
  · rintro ⟨hans, hatt, hown, hst, hq, h0, hmax, -⟩
    exact ⟨hans, hatt, hq, (howns _).1 hown, AttemptStatus.isGradeable_iff.1 hst,
      (Decimal.not_lt_iff_le _ _).1 h0, (Decimal.not_lt_iff_le _ _).1 hmax⟩
  · rintro ⟨hans, hatt, hq, hown, hst, h0, hmax⟩
    exact ⟨hans, hatt, (howns _).2 hown, AttemptStatus.isGradeable_iff.2 hst, hq,
      (Decimal.not_lt_iff_le _ _).2 h0, (Decimal.not_lt_iff_le _ _).2 hmax, rfl⟩

/-- So many commits are tried for a grade, and this comes of it. A grade that its check refuses
is not committed at all. -/
inductive GradeTries (s : Store) (ctx : Context) (answerId : Uuid) (grade : Grade) :
    Nat → Outcome Answer → Prop where
  | refused {cause : Error} (isRefused : s.checkGrade ctx.caller answerId grade = .error cause) :
      GradeTries s ctx answerId grade 0 (.refused cause s)
  | tried {checked : CheckedGrade} {n : Nat} {outcome : Outcome Answer}
      (isChecked : s.checkGrade ctx.caller answerId grade = .ok checked)
      (commits : CommitsUntil ctx (checked.row ctx) n s outcome) :
      GradeTries s ctx answerId grade n outcome

theorem exists_gradeTries (s : Store) (ctx : Context) (answerId : Uuid) (grade : Grade) :
    ∃ n, n ≤ maxConflicts + 1 ∧
      s.GradeTries ctx answerId grade n (s.gradeAnswer ctx answerId grade) := by
  cases hc : s.checkGrade ctx.caller answerId grade with
  | error cause =>
    refine ⟨0, Nat.zero_le _, ?_⟩
    rw [gradeAnswer, hc]
    exact .refused hc
  | ok checked =>
    obtain ⟨n, hn, hcommits⟩ := exists_commitsUntil ctx (checked.row ctx) maxConflicts s
    refine ⟨n, hn, ?_⟩
    rw [gradeAnswer_of_check hc]
    exact .tried hc hcommits

end Store

namespace Engine

variable {e : Engine} {ctx : Context}

/-- A grade is given exactly when it may be, the grade of the answer can be written and no more
than three conflicts are left. The answer gets the grade and its attempt the score, as they
would without conflicts, and no other row changes. A grade that is refused changes no row. At
most four commits are tried. -/
theorem Reachable.grade_under_conflicts (h : e.Reachable) (hpoints : e.store.HasSafePoints)
    (ctx : Context) (answerId : Uuid) (grade : Grade) :
    ((∃ reply, (e.perform ctx (.grade answerId grade)).1 = .ok reply) ↔
      ∃ row attempt question, e.store.TakesGrade ctx.caller answerId grade row attempt question ∧
        answerId ∉ e.store.unwritableGrades ∧ e.store.conflictsLeft row.attemptId ≤ 3) ∧
    (∀ reply e', e.perform ctx (.grade answerId grade) = (.ok reply, e') →
      ∃ row graded later calm,
        e.store.findAnswer answerId = some row ∧ reply = .answer graded ∧
        row.withGradeOf graded = graded ∧ later.id = row.attemptId ∧
        ((e.store.putAnswer graded).putAttempt later).SameRows e'.store ∧
        (e.withStore (e.store.forceConflicts row.attemptId 0)).perform ctx (.grade answerId grade) =
          (.ok reply, calm) ∧ calm.store.SameRows e'.store) ∧
    (∀ failure e', e.perform ctx (.grade answerId grade) = (.error failure, e') →
      e.store.SameRows e'.store) ∧
    ∃ n, n ≤ 4 ∧ e.store.GradeTries ctx answerId grade n (e.store.gradeAnswer ctx answerId grade) := by
  refine and_assoc.1 (and_assoc.1 ⟨?_, e.store.exists_gradeTries ctx answerId grade⟩)
  simp only [perform, ofOutcome]
  cases hc : e.store.checkGrade ctx.caller answerId grade with
  | error cause =>
    have hcall : e.store.gradeAnswer ctx answerId grade = .refused cause e.store := by
      rw [Store.gradeAnswer, hc]
    rw [hcall]
    refine ⟨⟨iff_of_false (by rintro ⟨_, ⟨⟩⟩) ?_, by rintro _ _ ⟨⟩⟩, ?_⟩
    · rintro ⟨row, attempt, question, htakes, -⟩
      cases hc.symm.trans (Store.checkGrade_eq_ok_iff_takes.2 ⟨attempt, htakes⟩)
    · rintro _ _ ⟨⟩
      exact .refl _
  | ok checked =>
    obtain ⟨next, conflicts, hcommit, heq⟩ := (h.isSafe hpoints).gradeAnswer_eq hc
    obtain ⟨_, hans, -, -, -, -, -, -, rfl⟩ := Store.checkGrade_eq_ok_iff.1 hc
    have hid : checked.answer.id = answerId := h.sound.id_of_findAnswer hans
    obtain ⟨attempt, htakes⟩ := Store.checkGrade_eq_ok_iff_takes.1 hc
    -- it is the same answer that the conditions are about
    have hgiven : (∃ row attempt question,
        e.store.TakesGrade ctx.caller answerId checked.grade row attempt question ∧
          answerId ∉ e.store.unwritableGrades ∧ e.store.conflictsLeft row.attemptId ≤ 3) ↔
        e.store.gradeFault? checked.answer = none := by
      rw [Store.gradeFault?_eq_none_iff, hid, maxConflicts]
      constructor
      · rintro ⟨row, attempt, question, hrow, hborne⟩
        obtain rfl := Option.some.inj (hrow.ofAnswer.symm.trans hans)
        exact hborne
      · exact fun hborne => ⟨_, attempt, _, htakes, hborne⟩
    rw [hgiven, heq]
    cases hfault : e.store.gradeFault? checked.answer with
    | some cause =>
      refine ⟨⟨iff_of_false (by rintro ⟨_, ⟨⟩⟩) (by simp), by rintro _ _ ⟨⟩⟩, ?_⟩
      rintro _ _ ⟨⟩
      exact e.store.sameRows_withConflicts conflicts
    | none =>
      refine ⟨⟨iff_of_true ⟨_, rfl⟩ rfl, ?_⟩, by rintro _ _ ⟨⟩⟩
      rintro _ _ ⟨⟩
      have hcalm := (hcommit.withConflicts _).gradeAnswer_of_calm
        ((Store.checkGrade_eq_of_sameRows
          (e.store.sameRows_forceConflicts checked.answer.attemptId 0) _ _ _).trans hc)
        (Store.gradeFault?_eq_none_iff.1 hfault).1
        (e.store.conflictsLeft_forceConflicts checked.answer.attemptId 0)
      exact ⟨checked.answer, checked.row ctx, Store.nextVersion next, _, hans, rfl, rfl,
        hcommit.id_next, ⟨⟨rfl, rfl, rfl⟩, rfl, rfl⟩, congrArg (e.ofOutcome Reply.answer) hcalm,
        ⟨⟨rfl, rfl, rfl⟩, rfl, rfl⟩⟩

end Engine

namespace Sample

/-- The sample run after the submission, with three writes of the attempt to fail. -/
def contested : Engine := submitted.withStore (submitted.store.forceConflicts (uuid 1) 3)

theorem reachable_contested : contested.Reachable :=
  reachable_submitted.run (Engine.Run.nil.snoc (.forceConflicts (uuid 1) 3))

theorem hasSafePoints_contested : contested.store.HasSafePoints :=
  hasSafePoints_submitted.of_sameCatalog (Store.sameRows_forceConflicts _ _ _).toSameCatalog

theorem checkGrade_contested : contested.store.checkGrade (teacher 5).caller essayEntry.answerId
    essayEntry.grade = .ok { essayGrade with grade := essayEntry.grade } :=
  (Store.checkGrade_eq_of_sameRows (Store.sameRows_forceConflicts _ _ _) _ _ _).trans
    checkGrade_essayEntry

theorem unwritableGrades_contested : contested.store.unwritableGrades = [] :=
  isFaultless_submitted.unwritableGrades

end Sample

/-- Three conflicts do not keep the essay of the sample run from being graded. -/
theorem Engine.grade_under_conflicts_contested :
    Sample.contested.Reachable ∧ Sample.contested.store.HasSafePoints ∧
    Sample.contested.store.conflictsLeft (Sample.uuid 1) = 3 ∧
    ∃ answer e', Sample.contested.perform (Sample.teacher 5)
      (.grade Sample.essayEntry.answerId Sample.essayEntry.grade) = (.ok (.answer answer), e') := by
  obtain ⟨hiff, hok, -⟩ := Sample.reachable_contested.grade_under_conflicts
    Sample.hasSafePoints_contested (Sample.teacher 5) Sample.essayEntry.answerId Sample.essayEntry.grade
  have hleft : Sample.contested.store.conflictsLeft (Sample.uuid 1) = 3 :=
    Store.conflictsLeft_forceConflicts _ _ 3
  obtain ⟨attempt, htakes⟩ := Store.checkGrade_eq_ok_iff_takes.1 Sample.checkGrade_contested
  obtain ⟨reply, hreply⟩ := hiff.2 ⟨_, attempt, _, htakes,
    by simp [Sample.unwritableGrades_contested], Nat.le_of_eq hleft⟩
  obtain ⟨_, graded, _, _, -, rfl, -⟩ := hok reply _ (Prod.ext hreply rfl)
  exact ⟨Sample.reachable_contested, Sample.hasSafePoints_contested, hleft, graded, _,
    Prod.ext hreply rfl⟩

end QuizEngine
