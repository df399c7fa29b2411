import QuizEngine.Proofs.Commits
import QuizEngine.Proofs.Interleaving

/-!
# Batches and single grades

A batch is refused as a whole when one of its answers is listed twice or one of its grades
would be refused on its own, and names exactly these answers. Otherwise it does what grading
its answers one by one does, in the order of the batch (`Engine.Reachable.bulkGrade_eq`).

For that a grade that passes its check has to be written, also after others of the batch
have. What could keep it from that are faults, of which there are none, and a score that
overflows, which safe points exclude. All of this a grade leaves as it is
(`IsReady.exists_graded`).
-/

namespace QuizEngine

namespace Store

variable {s t : Store} {ctx : Context}

/-! ## Stores that take grades -/

/-- No write is made to fail. -/
structure IsFaultless (s : Store) : Prop where
  unwritableGrades : s.unwritableGrades = []
  conflictsLeft : ∀ attemptId, s.conflictsLeft attemptId = 0

/-- What it takes that grades can be written. -/
structure IsReady (s : Store) : Prop where
  sound : s.Sound
  gradesFit : s.GradesFit
  safePoints : s.HasSafePoints
  faultless : s.IsFaultless

namespace IsReady

theorem isSafe (h : s.IsReady) : s.IsSafe := ⟨h.sound, h.gradesFit, h.safePoints⟩

/-- A grade that passes its check is written, and the store takes grades still. -/
theorem exists_graded (h : s.IsReady) {answerId : Uuid} {grade : Grade} {checked : CheckedGrade}
    (hc : s.checkGrade ctx.caller answerId grade = .ok checked) :
    ∃ t, s.gradeAnswer ctx answerId grade = (.ok (checked.row ctx), t) ∧ t.IsReady := by
  obtain ⟨next, hcommit, hwrites⟩ := h.isSafe.exists_canCommit hc
  obtain ⟨hsound, hfit, hpoints⟩ := hwrites.isSafe h.isSafe
  have hfree : checked.answer.id ∉ s.unwritableGrades := by simp [h.faultless.unwritableGrades]
  exact ⟨_, hcommit.gradeAnswer_of_calm hc hfree (h.faultless.conflictsLeft _), hsound, hfit, hpoints,
    ⟨h.faultless.unwritableGrades, h.faultless.conflictsLeft⟩⟩

end IsReady

/-- Grades in turn leave a store that takes grades. -/
theorem GradesInTurn.isReady {grades : List CheckedGrade} (hg : GradesInTurn ctx grades s t)
    (h : s.IsReady) : t.IsReady := by
  induction hg with
  | nil => exact h
  | cons isChecked isGraded _ ih =>
    obtain ⟨u, hu, hready⟩ := h.exists_graded isChecked
    obtain ⟨-, rfl⟩ := Prod.mk.inj (isGraded.symm.trans hu)
    exact ih hready

/-- A batch of different answers whose grades pass their checks is written as a whole. -/
theorem IsReady.applyBatch_eq (h : s.IsReady) {grades : List CheckedGrade}
    (hn : (grades.map (·.answer.id)).Nodup)
    (hall : ∀ c ∈ grades, s.checkGrade ctx.caller c.answer.id c.grade = .ok c) :
    ∃ t, GradesInTurn ctx grades s t ∧
      applyBatch ctx [] grades s = (.ok (grades.map (·.row ctx)), t) := by
  rcases applyBatch_cases grades [] h.sound hn hall with
    hdone | ⟨front, c, rest, t, u, cause, rfl, hturn, hcheck, herr, -⟩
  · exact hdone
  · obtain ⟨v, hok, -⟩ := (hturn.isReady h).exists_graded hcheck
    rw [herr] at hok
    cases hok

end Store

namespace Engine

/-- Calls one after the other, and what each of them returns. -/
def performAll (ctx : Context) : List Call → Engine → List (Except Failure Reply) × Engine
  | [], e => ([], e)
  | call :: rest, e =>
    let (reply, e) := e.perform ctx call
    let (replies, e) := performAll ctx rest e
    (reply :: replies, e)

/-- The call that grades the answer alone fails. -/
def RefusesGrade (e : Engine) (ctx : Context) (entry : GradeEntry) : Prop :=
  ∃ failure, (e.perform ctx (.grade entry.answerId entry.grade)).1 = .error failure

variable {e : Engine} {ctx : Context}

theorem Reachable.isReady (h : e.Reachable) (hpoints : e.store.HasSafePoints)
    (hfaults : e.store.IsFaultless) : e.store.IsReady :=
  ⟨h.sound, h.gradesFit (hpoints.hasPositivePoints h.sound.toKeyed), hpoints, hfaults⟩

/-- A grade is refused by its check and for nothing else. -/
theorem refusesGrade_iff (h : e.store.IsReady) {entry : GradeEntry} :
    e.RefusesGrade ctx entry ↔
      ∃ cause, e.store.checkGrade ctx.caller entry.answerId entry.grade = .error cause := by
  unfold RefusesGrade
  simp only [perform, ofOutcome]
  cases hc : e.store.checkGrade ctx.caller entry.answerId entry.grade with
  | error cause => simp [Store.gradeAnswer, hc, Outcome.refused, Except.map]
  | ok checked =>
    obtain ⟨t, ht, -⟩ := h.exists_graded hc
    simp [ht, Except.map]

/-- Grades in turn are what the calls return that grade one answer each. -/
theorem performAll_grades {grades : List CheckedGrade} {s t : Store}
    (hg : Store.GradesInTurn ctx grades s t) :
    performAll ctx (grades.map fun c => .grade c.answer.id c.grade) (e.withStore s) =
      (grades.map fun c => .ok (.answer (c.row ctx)), e.withStore t) := by
  induction hg with
  | nil => rfl
  | @cons c rest s t u _ isGraded _ ih =>
    have hfirst : (e.withStore s).perform ctx (.grade c.answer.id c.grade) =
        (.ok (.answer (c.row ctx)), e.withStore t) := by
      simp only [perform, ofOutcome, withStore, isGraded, Except.map]
    simp only [List.map_cons, performAll, hfirst, ih]

/-- A batch of grades is refused when one of its answers is listed twice or refused on its own.
It names these answers then, and nothing is written. Otherwise it grades its answers as they
would be graded one by one. -/
theorem Reachable.bulkGrade_eq (h : e.Reachable) (hpoints : e.store.HasSafePoints)
    (hfaults : e.store.IsFaultless) (ctx : Context) (entries : List GradeEntry) (hne : entries ≠ []) :
    ((¬(entries.map (·.answerId)).Nodup ∨ ∃ x ∈ entries, e.RefusesGrade ctx x) →
      ∃ failures, e.perform ctx (.bulkGrade entries) = (.error (.refused (.bulkGrade failures [])), e) ∧
        ∀ id, id ∈ failures.map (·.answerId) ↔
          2 ≤ (entries.map (·.answerId)).count id ∨
            ∃ x ∈ entries, x.answerId = id ∧ e.RefusesGrade ctx x) ∧
    (((entries.map (·.answerId)).Nodup ∧ ∀ x ∈ entries, ¬e.RefusesGrade ctx x) →
      ∃ graded e', e.perform ctx (.bulkGrade entries) = (.ok (.answers graded), e') ∧
        graded.map (fun a => (a.id, a.pointsEarned, a.graderFeedback)) =
          entries.map (fun x => (x.answerId, some x.grade.points, x.grade.feedback)) ∧
        e.performAll ctx (entries.map fun x => .grade x.answerId x.grade) =
          (graded.map fun a => .ok (.answer a), e')) := by
  have hready := h.isReady hpoints hfaults
  simp only [refusesGrade_iff hready]
  constructor
  · intro hbad
    rcases Store.checkBatch_cases hready.sound ctx.caller entries with
      ⟨hempty, -⟩ | ⟨failures, hfail, -, hmem⟩ | ⟨grades, hok, hn, rfl, hall⟩
    · exact absurd hempty hne
    · refine ⟨failures, ?_, hmem⟩
      simp only [perform, ofOutcome, Store.bulkGrade, hfail]
      rfl
    · rcases hbad with htwice | ⟨x, hx, cause, hcause⟩
      · rw [List.map_map] at htwice
        exact absurd hn htwice
      · obtain ⟨c, hc, rfl⟩ := List.mem_map.1 hx
        rw [CheckedGrade.entry, hall c hc] at hcause
        cases hcause
  · rintro ⟨hn, hgood⟩
    rcases Store.checkBatch_cases hready.sound ctx.caller entries with
      ⟨hempty, -⟩ | ⟨failures, -, hsome, hmem⟩ | ⟨grades, hok, hdistinct, rfl, hall⟩
    · exact absurd hempty hne
    · obtain ⟨f, hf⟩ := List.exists_mem_of_ne_nil failures hsome
      rcases (hmem f.answerId).1 (List.mem_map_of_mem hf) with htwice | ⟨x, hx, -, hcause⟩
      · have hone := List.nodup_iff_count_le_one.1 hn f.answerId
        omega
      · exact absurd hcause (hgood x hx)
    · obtain ⟨t, hturn, hend⟩ := hready.applyBatch_eq hdistinct hall
      refine ⟨grades.map (·.row ctx), e.withStore t, ?_, ?_, ?_⟩
      · simp only [perform, ofOutcome, Store.bulkGrade, hok, hend]
        rfl
      · rw [List.map_map, List.map_map]
        rfl
      · have hcalls := performAll_grades (e := e) hturn
        rw [List.map_map, List.map_map]
        exact hcalls

end Engine

namespace Sample

/-- The grade of the essay as an entry of a batch. -/
def essayEntry : GradeEntry := ⟨uuid 3, ⟨points 250 2, some "Good."⟩⟩

theorem hasSafePoints_submitted : submitted.store.HasSafePoints := by
  rw [store_submitted]
  exact ⟨by decide +kernel, by decide +kernel, by decide +kernel⟩

theorem isFaultless_submitted : submitted.store.IsFaultless := by
  have hempty : submitted.store.forcedConflicts = .empty := by
    rw [store_submitted]
    rfl
  refine ⟨by rw [store_submitted]; decide +kernel, fun id => ?_⟩
  rw [Store.conflictsLeft, hempty, Table.find?_empty]
  rfl

theorem checkGrade_essayEntry : submitted.store.checkGrade (teacher 5).caller essayEntry.answerId
    essayEntry.grade = .ok { essayGrade with grade := essayEntry.grade } := by
  rw [store_submitted]
  exact Store.checkGrade_eq_ok_iff.2 ⟨closed, by decide +kernel⟩

end Sample

/-- The essay of the sample run can be graded in a batch, with points that have a scale of
their own, but not twice in one. -/
theorem Engine.bulkGrade_eq_submitted :
    (∃ graded e', Sample.submitted.perform (Sample.teacher 5) (.bulkGrade [Sample.essayEntry]) =
        (.ok (.answers graded), e') ∧
      graded.map (fun a => (a.id, a.pointsEarned)) = [(Sample.uuid 3, some (Sample.points 250 2))]) ∧
    ∃ failures, Sample.submitted.perform (Sample.teacher 5)
        (.bulkGrade [Sample.essayEntry, Sample.essayEntry]) =
      (.error (.refused (.bulkGrade failures [])), Sample.submitted) := by
  have hspec := Sample.reachable_submitted.bulkGrade_eq Sample.hasSafePoints_submitted
    Sample.isFaultless_submitted (Sample.teacher 5)
  have hready := Sample.reachable_submitted.isReady Sample.hasSafePoints_submitted
    Sample.isFaultless_submitted
  constructor
  · have hgood : ∀ x ∈ [Sample.essayEntry], ¬Sample.submitted.RefusesGrade (Sample.teacher 5) x := by
      intro x hx
      obtain rfl := List.mem_singleton.1 hx
      rw [Engine.refusesGrade_iff hready, Sample.checkGrade_essayEntry]
      rintro ⟨_, hcause⟩
      cases hcause
    obtain ⟨graded, e', hgraded, hentries, -⟩ := (hspec [Sample.essayEntry] (List.cons_ne_nil _ _)).2 ⟨by decide, hgood⟩
    refine ⟨graded, e', hgraded, ?_⟩
    have hpairs := congrArg (List.map fun c : Uuid × Option Decimal × Option String => (c.1, c.2.1)) hentries
    rwa [List.map_map] at hpairs
  · obtain ⟨failures, hfailures, -⟩ :=
      (hspec [Sample.essayEntry, Sample.essayEntry] (List.cons_ne_nil _ _)).1 (Or.inl (by decide))
    exact ⟨failures, hfailures⟩

end QuizEngine
