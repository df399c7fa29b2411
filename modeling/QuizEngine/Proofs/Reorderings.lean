import QuizEngine.Proofs.Stoppages

/-!
# Batches in another order

A batch writes its grades one after the other, and every grade gives the attempt of its answer a
new score. In another order the stores in between are others. The last one is not: two grades of
different answers come to the same store in either order (`Store.IsReady.grades_comm`). On two
attempts neither changes what the other is computed from. On one attempt the score that stands is
that of the later grade, with both grades among the answers, and what the first grader leaves is
the same, as it is one person at one time.

By induction over the permutation a batch that was accepted is accepted in every order, and leaves
the same store (`Engine.Reachable.bulkGrade_perm`).
-/

namespace QuizEngine

namespace Store

variable {s t u : Store} {ctx : Context}

/-! ## Rows in either order -/

/-- Two answers of which one is stored are put in either order. -/
theorem putAnswer_comm {a b old : Answer} (hold : s.findAnswer a.id = some old) (hne : a.id ≠ b.id) :
    (s.putAnswer a).putAnswer b = (s.putAnswer b).putAnswer a := by
  simp only [putAnswer, Table.insert_comm s.answers hold hne]

/-- Two attempts of which one is stored are put in either order. -/
theorem putAttempt_comm {a b old : Attempt} (hold : s.findAttempt a.id = some old) (hne : a.id ≠ b.id) :
    (s.putAttempt a).putAttempt b = (s.putAttempt b).putAttempt a := by
  simp only [putAttempt, Table.insert_comm s.attempts hold hne]

/-- Of two grades on one attempt both answers are kept, and the later attempt. -/
theorem withGrade_withGrade {row row' : Answer} {next next' : Attempt} (heq : next.id = next'.id) :
    (s.withGrade row next).withGrade row' next' =
      ((s.putAnswer row).putAnswer row').putAttempt (nextVersion next') := by
  simp only [withGrade, putAttempt, putAnswer, nextVersion, heq, Table.insert_insert]

/-! ## One grade -/

/-- An answer of another attempt does not count. -/
theorem scoresTo_putAnswer_iff (h : s.Keyed) {row old : Answer} {attempt : Attempt} {score : Score}
    (hold : s.findAnswer row.id = some old) (hatt : row.attemptId = old.attemptId)
    (hne : row.attemptId ≠ attempt.id) :
    (s.putAnswer row).ScoresTo attempt score ↔ s.ScoresTo attempt score := by
  have hlist : (s.putAnswer row).listAnswers attempt.id = s.listAnswers attempt.id := by
    refine h.listAnswers_putAnswer_of_ne hne fun found hfound => ?_
    obtain rfl := Option.some.inj (hold.symm.trans hfound)
    exact hatt ▸ hne
  unfold ScoresTo
  rw [hlist]
  exact Iff.rfl

/-- The grade is written. The attempt of the answer was stored, and gets the score of its answers
with the grade among them. -/
structure Graded (s : Store) (ctx : Context) (checked : CheckedGrade) (t : Store) (attempt : Attempt)
    (score : Score) : Prop where
  ofAttempt : s.findAttempt checked.answer.attemptId = some attempt
  isScore : (s.putAnswer (checked.row ctx)).ScoresTo attempt score
  isWritten : t = s.withGrade (checked.row ctx) (attempt.regradedWith score ctx)

/-- What a grade that passed its check leaves. -/
theorem IsReady.exists_score (h : s.IsReady) {checked : CheckedGrade}
    (hc : s.checkGrade ctx.caller checked.answer.id checked.grade = .ok checked)
    (hg : s.gradeAnswer ctx checked.answer.id checked.grade = (.ok (checked.row ctx), t)) :
    ∃ attempt score, s.Graded ctx checked t attempt score := by
  obtain ⟨next, hcommit, -⟩ := h.isSafe.exists_canCommit hc
  have hfree : checked.answer.id ∉ s.unwritableGrades := by simp [h.faultless.unwritableGrades]
  obtain ⟨-, rfl⟩ := Prod.mk.inj (hg.symm.trans
    (hcommit.gradeAnswer_of_calm hc hfree (h.faultless.conflictsLeft _)))
  obtain ⟨attempt, snapshot, hatt, hid, hload, hnext⟩ := hcommit.isNext
  obtain ⟨quiz, hquiz, rfl⟩ := Snapshot.load_eq_ok_iff.1 hload
  obtain ⟨score, hscore, -, rfl⟩ := Attempt.regraded_eq_ok_iff.1 hnext
  obtain ⟨_, hans, -⟩ := checkGrade_eq_ok_iff.1 hc
  have hold : s.findAnswer (checked.row ctx).id = some checked.answer := hans
  refine ⟨attempt, score, hatt, ⟨quiz, hquiz, ?_⟩, rfl⟩
  rw [Snapshot.score, h.sound.withAnswer_eq rfl hold hid.symm,
    ← h.sound.listAnswers_putAnswer hold rfl rfl rfl] at hscore
  exact hscore

/-- After a grade that was written the checks of other answers come out as before. -/
theorem checkGrade_of_graded (h : s.Sound) {c d : CheckedGrade}
    (hc : s.checkGrade ctx.caller c.answer.id c.grade = .ok c)
    (hg : s.gradeAnswer ctx c.answer.id c.grade = (.ok (c.row ctx), t))
    (hne : d.answer.id ≠ c.answer.id)
    (hd : s.checkGrade ctx.caller d.answer.id d.grade = .ok d) :
    t.checkGrade ctx.caller d.answer.id d.grade = .ok d := by
  rcases gradeAnswer_cases_of_check h hc with ⟨_, _, herr, -⟩ | ⟨v, _, hok, hw, hwritten⟩
  · rw [hg] at herr
    cases herr
  · obtain ⟨-, rfl⟩ := Prod.mk.inj (hg.symm.trans hok)
    exact checkGrade_after_grade h hw hwritten hne hd

/-! ## Two grades -/

section TwoGrades

variable {v w : Store} {c d : CheckedGrade} {a b a' b' : Attempt} {x y x' y' : Score}

/-- Two grades on one attempt. The one that is written second meets the attempt with the first. -/
theorem Graded.eq_of_same_attempt (h : s.Keyed) (hne : c.answer.id ≠ d.answer.id)
    (hatt : c.answer.attemptId = d.answer.attemptId)
    (hc : s.findAnswer c.answer.id = some c.answer)
    (hct : s.Graded ctx c t a x) (hdu : t.Graded ctx d u b y)
    (hdv : s.Graded ctx d v b' y') (hcw : v.Graded ctx c w a' x') : u = w := by
  obtain ⟨ha, -, rfl⟩ := hct
  obtain ⟨hb', -, rfl⟩ := hdv
  obtain rfl := Option.some.inj (ha.symm.trans (hatt ▸ hb'))
  have hid : a.id = c.answer.attemptId := h.id_of_findAttempt ha
  obtain ⟨hb, hy, rfl⟩ := hdu
  obtain ⟨ha', hx', rfl⟩ := hcw
  obtain rfl : nextVersion (a.regradedWith x ctx) = b :=
    Option.some.inj ((findAttempt_putAttempt_self _ _).symm.trans (hid.trans hatt ▸ hb))
  obtain rfl : nextVersion (a.regradedWith y' ctx) = a' :=
    Option.some.inj ((findAttempt_putAttempt_self _ _).symm.trans (hid ▸ ha'))
  have hrows : (s.putAnswer (c.row ctx)).putAnswer (d.row ctx) =
      (s.putAnswer (d.row ctx)).putAnswer (c.row ctx) := putAnswer_comm hc hne
  -- in either order the later score is that of both grades
  have hy : ((s.putAnswer (c.row ctx)).putAnswer (d.row ctx)).ScoresTo a y := hy
  have hx' : ((s.putAnswer (d.row ctx)).putAnswer (c.row ctx)).ScoresTo a x' := hx'
  obtain rfl : y = x' := hy.eq (hrows ▸ hx')
  have hids : ∀ z, (a.regradedWith z ctx).id = ((nextVersion (a.regradedWith z ctx)).regradedWith y ctx).id :=
    fun _ => rfl
  calc (s.withGrade (c.row ctx) (a.regradedWith x ctx)).withGrade (d.row ctx)
        ((nextVersion (a.regradedWith x ctx)).regradedWith y ctx)
      = ((s.putAnswer (c.row ctx)).putAnswer (d.row ctx)).putAttempt
          (nextVersion ((nextVersion (a.regradedWith x ctx)).regradedWith y ctx)) :=
        withGrade_withGrade (hids x)
    _ = ((s.putAnswer (d.row ctx)).putAnswer (c.row ctx)).putAttempt
          (nextVersion ((nextVersion (a.regradedWith y' ctx)).regradedWith y ctx)) := by
        rw [hrows]
        rfl
    _ = (s.withGrade (d.row ctx) (a.regradedWith y' ctx)).withGrade (c.row ctx)
          ((nextVersion (a.regradedWith y' ctx)).regradedWith y ctx) :=
        (withGrade_withGrade (hids y')).symm

/-- The score that a grade comes to is the same after a grade on another attempt. -/
theorem scoresTo_putAnswer_row_iff (h : s.Keyed) (hne : c.answer.id ≠ d.answer.id)
    (hd : s.findAnswer d.answer.id = some d.answer) (hatt : d.answer.attemptId ≠ a.id) :
    ((s.putAnswer (d.row ctx)).putAnswer (c.row ctx)).ScoresTo a x ↔
      (s.putAnswer (c.row ctx)).ScoresTo a x := by
  have hrows : (s.putAnswer (d.row ctx)).putAnswer (c.row ctx) =
      (s.putAnswer (c.row ctx)).putAnswer (d.row ctx) := putAnswer_comm hd (Ne.symm hne)
  have hold : (s.putAnswer (c.row ctx)).findAnswer (d.row ctx).id = some d.answer :=
    (findAnswer_putAnswer _ _ _).trans ((if_neg (Ne.symm hne)).trans hd)
  rw [hrows]
  exact scoresTo_putAnswer_iff (h.putAnswer _) hold rfl hatt

/-- Two grades on two attempts. Each is computed from what was there before both. -/
theorem Graded.eq_of_ne_attempt (h : s.Keyed) (hne : c.answer.id ≠ d.answer.id)
    (hatt : c.answer.attemptId ≠ d.answer.attemptId)
    (hc : s.findAnswer c.answer.id = some c.answer) (hd : s.findAnswer d.answer.id = some d.answer)
    (hct : s.Graded ctx c t a x) (hdu : t.Graded ctx d u b y)
    (hdv : s.Graded ctx d v b' y') (hcw : v.Graded ctx c w a' x') : u = w := by
  obtain ⟨ha, hx, rfl⟩ := hct
  obtain ⟨hb', hy', rfl⟩ := hdv
  have hid : a.id = c.answer.attemptId := h.id_of_findAttempt ha
  have hid' : b'.id = d.answer.attemptId := h.id_of_findAttempt hb'
  obtain ⟨hb, hy, rfl⟩ := hdu
  obtain ⟨ha', hx', rfl⟩ := hcw
  obtain rfl : b' = b := Option.some.inj (hb'.symm.trans
    (((findAttempt_putAttempt _ _ _).trans (if_neg fun heq => hatt (hid.symm.trans heq.symm))).symm.trans hb))
  obtain rfl : a = a' := Option.some.inj (ha.symm.trans
    (((findAttempt_putAttempt _ _ _).trans (if_neg fun heq => hatt (heq.trans hid'))).symm.trans ha'))
  obtain rfl : x = x' :=
    hx.eq ((scoresTo_putAnswer_row_iff h hne hd (hid.symm ▸ Ne.symm hatt)).1 hx')
  obtain rfl : y' = y :=
    hy'.eq ((scoresTo_putAnswer_row_iff h (Ne.symm hne) hc (hid'.symm ▸ hatt)).1 hy)
  have hrows : (s.putAnswer (c.row ctx)).putAnswer (d.row ctx) =
      (s.putAnswer (d.row ctx)).putAnswer (c.row ctx) := putAnswer_comm hc hne
  have hstored : ((s.putAnswer (c.row ctx)).putAnswer (d.row ctx)).findAttempt
      (nextVersion (a.regradedWith x ctx)).id = some a := hid.symm ▸ ha
  have hids : (nextVersion (a.regradedWith x ctx)).id ≠ (nextVersion (b'.regradedWith y' ctx)).id :=
    fun heq => hatt (hid.symm.trans (heq.trans hid'))
  calc (s.withGrade (c.row ctx) (a.regradedWith x ctx)).withGrade (d.row ctx) (b'.regradedWith y' ctx)
      = (((s.putAnswer (c.row ctx)).putAnswer (d.row ctx)).putAttempt
          (nextVersion (b'.regradedWith y' ctx))).putAttempt (nextVersion (a.regradedWith x ctx)) :=
        putAttempt_comm hstored hids
    _ = (s.withGrade (d.row ctx) (b'.regradedWith y' ctx)).withGrade (c.row ctx)
          (a.regradedWith x ctx) := by
        rw [hrows]
        rfl

end TwoGrades

/-- Two grades of different answers come to the same store in either order. -/
theorem IsReady.grades_comm (h : s.IsReady) {c d : CheckedGrade} (hne : c.answer.id ≠ d.answer.id)
    (hc : s.checkGrade ctx.caller c.answer.id c.grade = .ok c)
    (hd : s.checkGrade ctx.caller d.answer.id d.grade = .ok d)
    (hct : s.gradeAnswer ctx c.answer.id c.grade = (.ok (c.row ctx), t))
    (hdu : t.gradeAnswer ctx d.answer.id d.grade = (.ok (d.row ctx), u)) :
    ∃ v, s.gradeAnswer ctx d.answer.id d.grade = (.ok (d.row ctx), v) ∧
      v.gradeAnswer ctx c.answer.id c.grade = (.ok (c.row ctx), u) := by
  obtain ⟨t', hct', hready⟩ := h.exists_graded hc
  obtain ⟨-, rfl⟩ := Prod.mk.inj (hct.symm.trans hct')
  obtain ⟨v, hdv, hready'⟩ := h.exists_graded hd
  have hd' := checkGrade_of_graded h.sound hc hct (Ne.symm hne) hd
  have hc' := checkGrade_of_graded h.sound hd hdv hne hc
  obtain ⟨w, hcw, -⟩ := hready'.exists_graded hc'
  refine ⟨v, hdv, ?_⟩
  obtain ⟨_, hcs, -⟩ := checkGrade_eq_ok_iff.1 hc
  obtain ⟨_, hds, -⟩ := checkGrade_eq_ok_iff.1 hd
  obtain ⟨a, x, hct⟩ := h.exists_score hc hct
  obtain ⟨b, y, hdu⟩ := hready.exists_score hd' hdu
  obtain ⟨b', y', hdv⟩ := h.exists_score hd hdv
  obtain ⟨a', x', hcw'⟩ := hready'.exists_score hc' hcw
  rw [hcw]
  by_cases hatt : c.answer.attemptId = d.answer.attemptId
  · rw [hct.eq_of_same_attempt h.sound.toKeyed hne hatt hcs hdu hdv hcw']
  · rw [hct.eq_of_ne_attempt h.sound.toKeyed hne hatt hcs hds hdu hdv hcw']

/-! ## Grades in another order -/

/-- Grades of different answers that pass their checks may be given in any order. -/
theorem GradesInTurn.perm {grades grades' : List CheckedGrade} (hperm : grades.Perm grades') :
    ∀ {s : Store}, s.IsReady → (grades.map (·.answer.id)).Nodup →
      (∀ c ∈ grades, s.checkGrade ctx.caller c.answer.id c.grade = .ok c) →
      GradesInTurn ctx grades s u → GradesInTurn ctx grades' s u := by
  induction hperm with
  | nil => exact fun _ _ _ hg => hg
  | @cons c grades grades' _ ih =>
    intro s h hn hall hg
    rw [List.map_cons, List.nodup_cons] at hn
    rw [List.forall_mem_cons] at hall
    cases hg with
    | cons isChecked isGraded others =>
      obtain ⟨_, hgraded, hready⟩ := h.exists_graded isChecked
      obtain ⟨-, rfl⟩ := Prod.mk.inj (isGraded.symm.trans hgraded)
      refine .cons isChecked isGraded (ih hready hn.2 (fun d hd => ?_) others)
      refine checkGrade_of_graded h.sound isChecked isGraded (fun heq => hn.1 ?_) (hall.2 d hd)
      exact List.mem_map.2 ⟨d, hd, heq⟩
  | swap c d rest =>
    intro s h hn hall hg
    -- `d` was given before `c`
    rw [List.map_cons, List.map_cons, List.nodup_cons, List.mem_cons, not_or] at hn
    have hc : c ∈ d :: c :: rest := List.mem_cons_of_mem d (List.mem_cons_self ..)
    cases hg with
    | cons dChecked dGraded others =>
      cases others with
      | cons _ cGraded others =>
        obtain ⟨v, hcv, hdu⟩ := h.grades_comm hn.1.1 dChecked (hall c hc) dGraded cGraded
        have hd := checkGrade_of_graded h.sound (hall c hc) hcv hn.1.1 dChecked
        exact .cons (hall c hc) hcv (.cons hd hdu others)
  | trans hfirst _ ih ih' =>
    intro s h hn hall hg
    refine ih' h ((hfirst.map _).nodup_iff.1 hn) (fun c hc => hall c (hfirst.mem_iff.2 hc)) ?_
    exact ih h hn hall hg

/-- Grades in turn leave one store. -/
theorem GradesInTurn.eq {grades : List CheckedGrade} (hg : GradesInTurn ctx grades s t)
    (hg' : GradesInTurn ctx grades s u) : t = u := by
  induction hg with
  | nil =>
    cases hg'
    rfl
  | cons _ isGraded _ ih =>
    cases hg' with
    | cons _ isGraded' others =>
      obtain ⟨-, rfl⟩ := Prod.mk.inj (isGraded.symm.trans isGraded')
      exact ih others

/-- Grades that passed their checks are known by their entries. -/
theorem filterMap_entry {caller : Caller} {grades : List CheckedGrade}
    (hall : ∀ c ∈ grades, s.checkGrade caller c.answer.id c.grade = .ok c) :
    (grades.map (·.entry)).filterMap
      (fun x => (s.checkGrade caller x.answerId x.grade).toOption) = grades := by
  induction grades with
  | nil => rfl
  | cons c rest ih =>
    rw [List.forall_mem_cons] at hall
    rw [List.map_cons, List.filterMap_cons, CheckedGrade.entry, hall.1, ih hall.2]
    rfl

/-- Entries in another order have their grades in another order. -/
theorem perm_of_entries {caller : Caller} {grades grades' : List CheckedGrade}
    (hall : ∀ c ∈ grades, s.checkGrade caller c.answer.id c.grade = .ok c)
    (hall' : ∀ c ∈ grades', s.checkGrade caller c.answer.id c.grade = .ok c)
    (hperm : (grades.map (·.entry)).Perm (grades'.map (·.entry))) : grades.Perm grades' := by
  have hgrades := hperm.filterMap fun x => (s.checkGrade caller x.answerId x.grade).toOption
  rwa [filterMap_entry hall, filterMap_entry hall'] at hgrades

end Store

/-- A batch that is accepted is accepted in every order. It leaves the same store, and returns
the same graded answers, in the order of its entries. -/
theorem Engine.Reachable.bulkGrade_perm {e e' : Engine} {ctx : Context} (h : e.Reachable)
    (hpoints : e.store.HasSafePoints) (hfaults : e.store.IsFaultless)
    {entries entries' : List GradeEntry} (hperm : entries.Perm entries') {graded : List Answer}
    (hok : e.perform ctx (.bulkGrade entries) = (.ok (.answers graded), e')) :
    ∃ graded', e.perform ctx (.bulkGrade entries') = (.ok (.answers graded'), e') ∧
      graded.Perm graded' ∧ graded'.map (·.id) = entries'.map (·.answerId) := by
  have hready := h.isReady hpoints hfaults
  simp only [perform, ofOutcome, Store.bulkGrade] at hok
  rcases Store.checkBatch_cases hready.sound ctx.caller entries with
    ⟨-, hb⟩ | ⟨failures, hb, -⟩ | ⟨grades, hb, hn, rfl, hall⟩
  · rw [hb] at hok
    cases hok
  · rw [hb] at hok
    cases hok
  · obtain ⟨t, hturn, hend⟩ := hready.applyBatch_eq hn hall
    simp only [hb, hend] at hok
    cases hok
    -- in the other order the same entries pass their checks
    have hne : entries' ≠ [] := by
      rintro rfl
      obtain rfl : grades = [] := List.map_eq_nil_iff.1 hperm.eq_nil
      cases hb
    have hn' : (entries'.map (·.answerId)).Nodup := by
      rw [← (hperm.map _).nodup_iff, List.map_map]
      exact hn
    have hchecks : ∀ x ∈ entries', ∃ c, e.store.checkGrade ctx.caller x.answerId x.grade = .ok c := by
      intro x hx
      obtain ⟨c, hc, rfl⟩ := List.mem_map.1 (hperm.mem_iff.2 hx)
      exact ⟨c, hall c hc⟩
    obtain ⟨grades', hb', hdistinct, rfl, hall'⟩ := Store.exists_checkBatch hready.sound hne hn' hchecks
    have hgrades := Store.perm_of_entries hall hall' hperm
    obtain ⟨t', hturn', hend'⟩ := hready.applyBatch_eq hdistinct hall'
    obtain rfl : t = t' := (hturn.perm hgrades hready hn hall).eq hturn'
    refine ⟨grades'.map (·.row ctx), ?_, hgrades.map _, ?_⟩
    · simp only [perform, ofOutcome, Store.bulkGrade, hb', hend']
      rfl
    · rw [List.map_map, List.map_map]
      rfl

/-- The essay and the choice of the sample run are graded in either order. -/
theorem Engine.bulkGrade_perm_submitted :
    [Sample.essayEntry, Sample.choiceEntry].Perm [Sample.choiceEntry, Sample.essayEntry] ∧
    ∃ graded graded' e', Sample.submitted.perform (Sample.teacher 5)
        (.bulkGrade [Sample.essayEntry, Sample.choiceEntry]) = (.ok (.answers graded), e') ∧
      Sample.submitted.perform (Sample.teacher 5)
        (.bulkGrade [Sample.choiceEntry, Sample.essayEntry]) = (.ok (.answers graded'), e') ∧
      graded'.map (·.id) = [Sample.uuid 2, Sample.uuid 3] := by
  have hready := Sample.reachable_submitted.isReady Sample.hasSafePoints_submitted
    Sample.isFaultless_submitted
  have hchecks : ∀ x ∈ [Sample.essayEntry, Sample.choiceEntry], ∃ c,
      Sample.submitted.store.checkGrade (Sample.teacher 5).caller x.answerId x.grade = .ok c := by
    simpa only [Store.checkGrade_eq_of_sameRows Sample.sameRows_spoiled] using Sample.checkGrade_spoiled
  obtain ⟨grades, hb, hn, -, hall⟩ := Store.exists_checkBatch hready.sound (List.cons_ne_nil _ _)
    (by decide) hchecks
  obtain ⟨t, -, hend⟩ := hready.applyBatch_eq hn hall
  have hok : Sample.submitted.perform (Sample.teacher 5)
      (.bulkGrade [Sample.essayEntry, Sample.choiceEntry]) =
      (.ok (.answers (grades.map (·.row (Sample.teacher 5)))), Sample.submitted.withStore t) := by
    simp only [perform, ofOutcome, Store.bulkGrade, hb, hend]
    rfl
  have hswap := List.Perm.swap Sample.choiceEntry Sample.essayEntry []
  obtain ⟨graded', hok', -, hids⟩ := Sample.reachable_submitted.bulkGrade_perm
    Sample.hasSafePoints_submitted Sample.isFaultless_submitted hswap hok
  exact ⟨hswap, _, graded', _, hok, hok', hids⟩

end QuizEngine
