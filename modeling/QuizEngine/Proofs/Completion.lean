import QuizEngine.Proofs.Batches
import QuizEngine.Proofs.Progress

/-!
# Grading an attempt to the end

A submitted attempt has answers that wait for a person (`Store.waiting`). Whoever manages the
quiz can grade each of them, alone or in a batch and in any order, and every grade takes its
answer off those that wait and leaves the others there (`GradesInTurn.waiting_eq`). So calls
that name each of them once all succeed (`Completing.carryOut`). Until the last of them the
attempt is submitted and its result is provisional, and then it is graded and stays so
(`Engine.Reachable.grade_waiting`).
-/

namespace QuizEngine

namespace Store

variable {s t u : Store} {ctx : Context} {id : Uuid}

/-! ## Answers that wait -/

/-- The answers of an attempt that wait for a person to grade them. -/
def waiting (s : Store) (attemptId : Uuid) : List Answer :=
  (s.listAnswers attemptId).filter fun a => (s.findQuestion a.questionId).any (Score.isPending · a)

theorem nodup_waiting (h : s.Keyed) (id : Uuid) : ((s.waiting id).map (·.id)).Nodup :=
  (h.nodup_listAnswers id).sublist (List.filter_sublist.map _)

theorem SameRows.waiting_eq (h : s.SameRows t) (id : Uuid) : t.waiting id = s.waiting id := by
  simp only [waiting, h.listAnswers_eq, h.findQuestion_eq]

/-- The score of an attempt counts the answers that wait. -/
theorem Sound.pendingCount_eq (h : s.Sound) {attempt : Attempt} {score : Score}
    {passingScore : Option Decimal} (ha : s.findAttempt id = some attempt)
    (hscore : Score.aggregate (s.listQuestions attempt.quizId) (s.listAnswers id) passingScore =
      .ok score) : score.pendingCount = (s.waiting id).length := by
  rw [Score.pendingCount_of_aggregate hscore, waiting, ← List.countP_eq_length_filter,
    Score.counted, List.countP_filterMap]
  refine List.countP_congr fun a hmem => ?_
  -- the question of the answer is one of those of the quiz
  obtain ⟨hstored, hatt⟩ := (h.mem_listAnswers id a).1 hmem
  obtain ⟨question, hq, hqq, -⟩ := h.exists_question ha hstored hatt
  rw [(h.questionOf?_listQuestions _ _ _).2 ⟨hq, hqq⟩, hq]
  rfl

/-- Where an answer is replaced by one that is not picked, the others are picked as before. -/
theorem filter_replaced {p : Answer → Bool} {row : Answer} (hrow : p row = false) (answerId : Uuid)
    (rows : List Answer) : (rows.map fun a => if a.id = answerId then row else a).filter p =
      (rows.filter p).filter (·.id ≠ answerId) := by
  induction rows with
  | nil => rfl
  | cons a rest ih =>
    rw [List.map_cons, List.filter_cons, List.filter_cons, ih]
    by_cases hid : a.id = answerId
    · cases p a <;> simp [hid, hrow]
    · cases hp : p a <;> simp [hid, hp]

/-- A grade takes its answer off those that wait. -/
theorem Writes.waiting_of_grade {attemptId answerId : Uuid} (hw : s.Writes (.grade attemptId answerId) t)
    (h : s.Keyed) (id : Uuid) : t.waiting id = (s.waiting id).filter (·.id ≠ answerId) := by
  cases hw with
  | @grade ctx _ _ checked _ _ _ isChecked _ _ _ =>
    obtain ⟨-, hans, -⟩ := checkGrade_eq_ok_iff.1 isChecked
    obtain rfl := h.id_of_findAnswer hans
    have hold : s.findAnswer (checked.row ctx).id = some checked.answer := hans
    have hlist : (s.putAnswer (checked.row ctx)).listAnswers id =
        (s.listAnswers id).map fun a => if a.id = checked.answer.id then checked.row ctx else a :=
      h.listAnswers_putAnswer hold rfl rfl rfl id
    have hgraded : (s.findQuestion (checked.row ctx).questionId).any
        (Score.isPending · (checked.row ctx)) = false := by
      cases s.findQuestion (checked.row ctx).questionId with
      | none => rfl
      | some question => exact Bool.and_false _
    calc _ = ((s.putAnswer (checked.row ctx)).listAnswers id).filter
            (fun a => (s.findQuestion a.questionId).any (Score.isPending · a)) := rfl
      _ = (s.waiting id).filter (·.id ≠ checked.answer.id) := by
        rw [hlist]
        exact filter_replaced hgraded _ _

namespace GradesInTurn

variable {grades : List CheckedGrade}

/-- Grades in turn take their answers off those that wait. -/
theorem waiting_eq (hg : GradesInTurn ctx grades s t) (h : s.Sound) (id : Uuid) :
    t.waiting id = (s.waiting id).filter (·.id ∉ grades.map (·.answer.id)) := by
  induction grades generalizing s with
  | nil =>
    cases hg
    simp
  | cons c rest ih =>
    obtain ⟨v, u, hw, hgrade, hrest⟩ := hg.head_writes h
    have hv := hw.sound h
    rw [ih hrest (hgrade.sound hv), hgrade.waiting_of_grade hv.toKeyed, hw.sameRows.waiting_eq,
      List.filter_filter]
    refine List.filter_congr fun a _ => ?_
    rw [List.map_cons, Bool.and_comm, ← Bool.decide_and]
    exact decide_eq_decide.2 (by rw [List.mem_cons, not_or])

/-- The checks of other answers come out as before, whoever makes them. -/
theorem checkGrade_eq (hg : GradesInTurn ctx grades s t) (h : s.Sound) {caller : Caller}
    {answerId : Uuid} {grade : Grade} {checked : CheckedGrade}
    (hnot : answerId ∉ grades.map (·.answer.id)) (hc : s.checkGrade caller answerId grade = .ok checked) :
    t.checkGrade caller answerId grade = .ok checked := by
  induction grades generalizing s with
  | nil =>
    cases hg
    exact hc
  | cons c rest ih =>
    obtain ⟨v, u, hw, hgrade, hrest⟩ := hg.head_writes h
    have hv := hw.sound h
    rw [List.map_cons, List.mem_cons, not_or] at hnot
    refine ih hrest (hgrade.sound hv) hnot.2 (hgrade.checkGrade_of_grade hv hnot.1 ?_)
    rw [checkGrade_eq_of_sameRows hw.sameRows]
    exact hc

end GradesInTurn

/-! ## What the attempt shows -/

/-- A submitted attempt stays submitted or becomes graded. -/
theorem WritesOnly.exists_gradeable {p : Write → Prop} (hw : WritesOnly p s t) (h : s.Sound)
    (hg : ∃ attempt, s.findAttempt id = some attempt ∧ attempt.status.isGradeable = true) :
    ∃ attempt, t.findAttempt id = some attempt ∧ attempt.status.isGradeable = true := by
  refine hw.keeps_of_sound (P := fun s => ∃ attempt, s.findAttempt id = some attempt ∧
    attempt.status.isGradeable = true) h (fun _ hs hstep ih => ?_) hg
  obtain ⟨attempt, ha, hg⟩ := ih
  rcases hstep.same_or_newer hs ha hg with hsame | ⟨later, hlater, hlg, -⟩
  · exact ⟨attempt, hsame.findAttempt_eq.trans ha, hg⟩
  · exact ⟨later, hlater, hlg⟩

/-- A submitted attempt is graded when no answer waits. -/
theorem AllScored.status_eq (hall : s.AllScored) (h : s.Sound) {attempt : Attempt}
    (ha : s.findAttempt id = some attempt) (hg : attempt.status.isGradeable = true) :
    attempt.status = if (s.waiting id).length = 0 then .graded else .submitted := by
  obtain ⟨quiz, score, -, hscore, hrow⟩ := hall id attempt ha hg
  rw [h.id_of_findAttempt ha] at hscore
  rw [hrow.status, Score.status, Score.fullyGraded, h.pendingCount_eq ha hscore]
  simp only [beq_iff_eq]

/-- Administrators read of a submitted attempt how many answers wait. -/
theorem AllScored.exists_result (hall : s.AllScored) (h : s.Sound) {attempt : Attempt}
    (ha : s.findAttempt id = some attempt) (hg : attempt.status.isGradeable = true) {admin : Caller}
    (hadmin : admin.isPrivileged = true) :
    ∃ result, s.result admin id = .ok result ∧ result.attempt = attempt ∧
      result.pendingGrading = (s.waiting id).length ∧
      (result.provisional = true ↔ (s.waiting id).length ≠ 0) := by
  obtain ⟨quiz, score, hquiz, hscore, -⟩ := hall id attempt ha hg
  have hload : Snapshot.load s attempt =
      .ok ⟨quiz, s.listQuestions attempt.quizId, s.listAnswers attempt.id⟩ :=
    Snapshot.load_eq_ok_iff.2 ⟨quiz, hquiz, rfl⟩
  have hreq : s.requireAttempt id = .ok attempt := requireAttempt_eq_ok_iff.2 ha
  have hopen : attempt.status ≠ .inProgress := by
    intro hp
    rw [hp] at hg
    cases hg
  have hpending : score.pendingCount = (s.waiting id).length := by
    rw [h.id_of_findAttempt ha] at hscore
    exact h.pendingCount_eq ha hscore
  have hresult : ∃ questions, s.result admin id =
      .ok ⟨attempt, score.provisional, score.pendingCount, questions⟩ := by
    simp only [result, hreq, orRefused_ok, bind, Except.bind, hadmin, hopen, hload, Bool.not_true,
      Bool.false_eq_true, and_false, if_false, AttemptResult.of, Snapshot.score, hscore, pure,
      Except.pure, orOverflow_ok]
    exact ⟨_, rfl⟩
  obtain ⟨questions, hquestions⟩ := hresult
  refine ⟨_, hquestions, rfl, hpending, ?_⟩
  simp [Score.provisional, Score.fullyGraded, hpending]

end Store

/-! ## Calls that grade -/

/-- A call that gives a grade, or several. -/
inductive Grading where
  | single (ctx : Context) (entry : GradeEntry)
  | batch (ctx : Context) (entries : List GradeEntry)

namespace Grading

/-- Who makes the call and when. -/
def ctx : Grading → Context
  | .single ctx _ => ctx
  | .batch ctx _ => ctx

/-- The grades that it gives. -/
def entries : Grading → List GradeEntry
  | .single _ entry => [entry]
  | .batch _ entries => entries

/-- The call itself. -/
def call : Grading → Call
  | .single _ entry => .grade entry.answerId entry.grade
  | .batch _ entries => .bulkGrade entries

end Grading

/-- The answers that calls name which give grades. -/
def gradedIds (plan : List Grading) : List Uuid := (plan.flatMap (·.entries)).map (·.answerId)

theorem gradedIds_cons (g : Grading) (rest : List Grading) :
    gradedIds (g :: rest) = g.entries.map (·.answerId) ++ gradedIds rest := by
  rw [gradedIds, List.flatMap_cons, List.map_append, gradedIds]

/-- Calls that give grades one after the other, and what each of them returns. -/
def Engine.carryOut : List Grading → Engine → List (Except Failure Reply) × Engine
  | [], e => ([], e)
  | g :: rest, e =>
    let (reply, e) := e.perform g.ctx g.call
    let (replies, e) := carryOut rest e
    (reply :: replies, e)

namespace Store

variable {s : Store} {ctx : Context}

/-- A grade that passes its check is given. -/
theorem IsReady.exists_single (h : s.IsReady) {entry : GradeEntry}
    (hcheck : ∃ c, s.checkGrade ctx.caller entry.answerId entry.grade = .ok c) :
    ∃ c t, s.gradeAnswer ctx entry.answerId entry.grade = (.ok (c.row ctx), t) ∧ c.entry = entry ∧
      GradesInTurn ctx [c] s t := by
  obtain ⟨c, hc⟩ := hcheck
  obtain ⟨t, hok, -⟩ := h.exists_graded hc
  obtain ⟨_, hans, -, -, -, -, -, -, hg⟩ := checkGrade_eq_ok_iff.1 hc
  have hentry : c.entry = entry := by
    rw [CheckedGrade.entry, h.sound.id_of_findAnswer hans, hg]
  subst hentry
  exact ⟨c, t, hok, rfl, .cons hc hok .nil⟩

/-- Grades of different answers that pass their checks are given in a batch. -/
theorem IsReady.exists_batch (h : s.IsReady) {entries : List GradeEntry} (hne : entries ≠ [])
    (hn : (entries.map (·.answerId)).Nodup)
    (hall : ∀ x ∈ entries, ∃ c, s.checkGrade ctx.caller x.answerId x.grade = .ok c) :
    ∃ grades t, s.bulkGrade ctx entries = (.ok (grades.map (·.row ctx)), t) ∧
      entries = grades.map (·.entry) ∧ GradesInTurn ctx grades s t := by
  obtain ⟨grades, hok, hdistinct, hentries, hchecks⟩ := exists_checkBatch h.sound hne hn hall
  obtain ⟨t, hturn, hend⟩ := h.applyBatch_eq hdistinct hchecks
  exact ⟨grades, t, by simp only [bulkGrade, hok, hend], hentries, hturn⟩

end Store

/-- A call succeeds that names different answers with grades that pass their checks. -/
theorem Engine.perform_grading {e : Engine} (h : e.store.IsReady) {g : Grading} (hne : g.entries ≠ [])
    (hn : (g.entries.map (·.answerId)).Nodup)
    (hall : ∀ x ∈ g.entries, ∃ c, e.store.checkGrade g.ctx.caller x.answerId x.grade = .ok c) :
    ∃ reply grades t, e.perform g.ctx g.call = (.ok reply, e.withStore t) ∧
      g.entries = grades.map (·.entry) ∧ Store.GradesInTurn g.ctx grades e.store t := by
  cases g with
  | single ctx entry =>
    obtain ⟨c, t, hok, rfl, hturn⟩ := h.exists_single (hall entry (List.mem_singleton_self _))
    refine ⟨.answer (c.row ctx), [c], t, ?_, rfl, hturn⟩
    exact congrArg (e.ofOutcome .answer) hok
  | batch ctx entries =>
    obtain ⟨grades, t, hok, hentries, hturn⟩ := h.exists_batch hne hn hall
    refine ⟨.answers (grades.map (·.row ctx)), grades, t, ?_, hentries, hturn⟩
    exact congrArg (e.ofOutcome .answers) hok

/-! ## Plans -/

/-- The calls give each answer of the attempt that waits one grade that fits it. -/
structure Store.Completes (s : Store) (attempt : Attempt) (plan : List Grading) : Prop where
  byManager : ∀ g ∈ plan, s.ownsQuiz attempt.quizId g.ctx.caller = true
  nonempty : ∀ g ∈ plan, g.entries ≠ []
  covers : (gradedIds plan).Perm ((s.waiting attempt.id).map (·.id))
  within : ∀ g ∈ plan, ∀ x ∈ g.entries, ∀ row question, s.findAnswer x.answerId = some row →
    s.findQuestion row.questionId = some question →
    Decimal.zero ≤ x.grade.points ∧ x.grade.points ≤ question.points

namespace Store

variable {id : Uuid} {g : Grading} {rest : List Grading}

/-- In this store these calls are still to be made. -/
structure Completing (s : Store) (id : Uuid) (rest : List Grading) : Prop where
  ready : s.IsReady
  allScored : s.AllScored
  gradeable : ∃ attempt, s.findAttempt id = some attempt ∧ attempt.status.isGradeable = true
  nonempty : ∀ g ∈ rest, g.entries ≠ []
  checks : ∀ g ∈ rest, ∀ x ∈ g.entries, ∃ c,
    s.checkGrade g.ctx.caller x.answerId x.grade = .ok c
  covers : (gradedIds rest).Perm ((s.waiting id).map (·.id))

/-- The grades of a plan pass their checks. -/
theorem Completes.completing {s : Store} {attempt : Attempt} {plan : List Grading}
    (h : s.Completes attempt plan) (hready : s.IsReady) (hall : s.AllScored)
    (ha : s.findAttempt attempt.id = some attempt) (hg : attempt.status.isGradeable = true) :
    s.Completing attempt.id plan where
  ready := hready
  allScored := hall
  gradeable := ⟨attempt, ha, hg⟩
  nonempty := h.nonempty
  covers := h.covers
  checks := by
    intro g hplan x hx
    have hnamed : x.answerId ∈ (s.waiting attempt.id).map (·.id) :=
      h.covers.subset (List.mem_map_of_mem (List.mem_flatMap.2 ⟨g, hplan, hx⟩))
    obtain ⟨row, hrow, hid⟩ := List.mem_map.1 hnamed
    obtain ⟨hstored, hatt⟩ := (hready.sound.mem_listAnswers _ row).1 (List.mem_of_mem_filter hrow)
    obtain ⟨question, hq, hqq, -⟩ := hready.sound.exists_question ha hstored hatt
    obtain ⟨h0, hmax⟩ := h.within g hplan x hx row question (hid ▸ hstored) hq
    exact ⟨⟨row, question, x.grade⟩, checkGrade_eq_ok_iff.2 ⟨attempt, hid ▸ hstored, hatt ▸ ha,
      h.byManager g hplan, hg, hq, (Decimal.not_lt_iff_le _ _).2 h0, (Decimal.not_lt_iff_le _ _).2 hmax,
      rfl⟩⟩

/-- A call that is made leaves the others to be made. -/
theorem Completing.perform {e : Engine} (h : e.store.Completing id (g :: rest)) :
    ∃ reply t, e.perform g.ctx g.call = (.ok reply, e.withStore t) ∧ t.Completing id rest := by
  obtain ⟨hready, hall, hgradeable, hne, hchecks, hcovers⟩ := h
  rw [List.forall_mem_cons] at hne hchecks
  rw [gradedIds_cons] at hcovers
  have hn := hcovers.nodup_iff.2 (nodup_waiting hready.sound.toKeyed id)
  obtain ⟨hnow, -, hdisjoint⟩ := List.nodup_append.1 hn
  obtain ⟨reply, grades, t, hok, hentries, hturn⟩ :=
    Engine.perform_grading hready hne.1 hnow hchecks.1
  have hids : g.entries.map (·.answerId) = grades.map (·.answer.id) := by
    rw [hentries, List.map_map]
    rfl
  have hother : ∀ answerId ∈ gradedIds rest, answerId ∉ grades.map (·.answer.id) := by
    intro answerId hmem hin
    exact hdisjoint answerId (hids ▸ hin) answerId hmem rfl
  have hsound := hready.sound
  have hwrites := hturn.writes hsound
  refine ⟨reply, t, hok, hturn.isReady hready, hwrites.allScored hsound hall,
    hwrites.exists_gradeable hsound hgradeable, hne.2, ?_, ?_⟩
  · intro d hd x hx
    obtain ⟨c, hc⟩ := hchecks.2 d hd x hx
    have hnamed : x.answerId ∈ gradedIds rest :=
      List.mem_map_of_mem (List.mem_flatMap.2 ⟨d, hd, hx⟩)
    exact ⟨c, hturn.checkGrade_eq hsound (hother _ hnamed) hc⟩
  · -- what waited without the answers graded now is what the other calls name
    have hleft := hcovers.filter fun answerId => decide (answerId ∉ grades.map (·.answer.id))
    rw [List.filter_append, hids, List.filter_eq_nil_iff.2 (by simp), List.nil_append,
      List.filter_eq_self.2 (by simpa using hother), List.filter_map] at hleft
    rw [hturn.waiting_eq hsound]
    exact hleft

/-- Only when no calls are left are no grades left. -/
theorem Completing.length_eq_zero_iff {s : Store} (h : s.Completing id rest) :
    (gradedIds rest).length = 0 ↔ rest = [] := by
  rw [gradedIds, List.length_map, List.length_eq_zero_iff, List.flatMap_eq_nil_iff]
  constructor
  · intro hnone
    exact List.eq_nil_iff_forall_not_mem.2 fun g hg => h.nonempty g hg (hnone g hg)
  · rintro rfl g hg
    cases hg

/-- Calls that are made in their order all succeed. -/
theorem Completing.carryOut {front : List Grading} :
    ∀ {e : Engine}, e.store.Completing id (front ++ rest) →
      (∀ reply ∈ (e.carryOut front).1, ∃ r, reply = .ok r) ∧
        (e.carryOut front).2.store.Completing id rest := by
  induction front with
  | nil => exact fun h => ⟨by simp [Engine.carryOut], h⟩
  | cons g others ih =>
    intro e h
    obtain ⟨reply, t, hok, hnext⟩ := h.perform
    obtain ⟨hreplies, hdone⟩ := ih (e := e.withStore t) hnext
    simp only [Engine.carryOut, hok, List.forall_mem_cons]
    exact ⟨⟨⟨reply, rfl⟩, hreplies⟩, hdone⟩

end Store

/-! ## Graded attempts -/

/-- No write takes the grade of an attempt away. -/
theorem Attempt.BecomesBy.status_graded {a b : Attempt} {w : Write} (h : a.BecomesBy w b)
    (ha : a.status = .graded) : b.status = .graded := by
  cases h with
  | keep _ => exact ha
  | submit inProgress => cases ha.symm.trans inProgress
  | abandon inProgress => cases ha.symm.trans inProgress
  | grade _ staysGraded => exact staysGraded ha

namespace Engine

variable {e e' : Engine}

open Store in
theorem Run.status_graded {trace : List Event} {id : Uuid} (h : e.Run trace e') (hs : e.store.Sound)
    (hall : e.store.AllScored)
    (ha : ∃ attempt, e.store.findAttempt id = some attempt ∧ attempt.status = .graded) :
    ∃ attempt, e'.store.findAttempt id = some attempt ∧ attempt.status = .graded := by
  have hkept := h.keeps (P := fun s => s.AllScored ∧ ∃ attempt, s.findAttempt id = some attempt ∧
    attempt.status = .graded) hs (fun hsound hw ih => ?_) ⟨hall, ha⟩
  · exact hkept.2.2
  · obtain ⟨hall, a, ha, hst⟩ := ih
    obtain ⟨b, hb, hbecomes⟩ := hw.becomesBy hsound hall ha
    exact ⟨hw.allScored hsound hall, b, hb, hbecomes.status_graded hst⟩

/-- A submitted attempt has answers that wait for a grade, and calls that give each of them one
that fits it all succeed. While calls are left the attempt is submitted, and its result is
provisional and tells how many grades are left. After the last one it is graded, and nothing
that happens then changes this. -/
theorem Reachable.grade_waiting (h : e.Reachable) (hpoints : e.store.HasSafePoints)
    (hfaults : e.store.IsFaultless) {attempt : Attempt} (hmem : attempt ∈ e.store.attempts.values)
    (hst : attempt.status = .submitted) :
    1 ≤ (e.store.waiting attempt.id).length ∧
    ∀ front rest, e.store.Completes attempt (front ++ rest) →
      (∀ reply ∈ (e.carryOut front).1, ∃ r, reply = .ok r) ∧
      ∃ later, (e.carryOut front).2.store.findAttempt attempt.id = some later ∧
        later.status = (if rest = [] then .graded else .submitted) ∧
        (∀ admin : Caller, admin.isPrivileged = true → ∃ result,
          (e.carryOut front).2.store.result admin attempt.id = .ok result ∧
          result.attempt = later ∧ result.pendingGrading = (gradedIds rest).length ∧
          (result.provisional = true ↔ rest ≠ [])) ∧
        (rest = [] → ∀ trace e', (e.carryOut front).2.Run trace e' →
          ∃ last, e'.store.findAttempt attempt.id = some last ∧ last.status = .graded) := by
  have hs := h.sound
  have hall := h.allScored
  have ha := (hs.mem_attempts_iff attempt).1 hmem
  have hg : attempt.status.isGradeable = true := AttemptStatus.isGradeable_iff.2 (Or.inl hst)
  constructor
  · have hstatus := hall.status_eq hs ha hg
    rw [hst] at hstatus
    split at hstatus
    · cases hstatus
    · rename_i hsome
      exact Nat.one_le_iff_ne_zero.2 hsome
  · intro front rest hplan
    obtain ⟨hreplies, hleft⟩ :=
      (hplan.completing (h.isReady hpoints hfaults) hall ha hg).carryOut
    obtain ⟨later, hlater, hlg⟩ := hleft.gradeable
    have hsound := hleft.ready.sound
    have hlength : (gradedIds rest).length =
        ((e.carryOut front).2.store.waiting attempt.id).length :=
      hleft.covers.length_eq.trans (List.length_map _)
    have hnone : (gradedIds rest).length = 0 ↔ rest = [] := hleft.length_eq_zero_iff
    have hstatus := hleft.allScored.status_eq hsound hlater hlg
    simp only [← hlength, hnone] at hstatus
    refine ⟨hreplies, later, hlater, hstatus, fun admin hadmin => ?_, ?_⟩
    · obtain ⟨result, hresult, hattempt, hpending, hprovisional⟩ :=
        hleft.allScored.exists_result hsound hlater hlg hadmin
      rw [← hlength, ne_eq, hnone] at hprovisional
      exact ⟨result, hresult, hattempt, hpending.trans hlength.symm, hprovisional⟩
    · rintro rfl trace e' hrun
      exact hrun.status_graded hsound hleft.allScored ⟨later, hlater, hstatus⟩

end Engine

namespace Sample

/-- The owner grades the essay. -/
def essayGrading : Grading := .single (teacher 5) essayEntry

theorem completes_submitted : submitted.store.Completes closed [essayGrading] where
  byManager := by
    rw [store_submitted]
    decide +kernel
  nonempty := by decide
  covers := by
    have hwaiting : (submitted.store.waiting closed.id).map (·.id) = [uuid 3] := by
      show ((submitted.store.listAnswers (uuid 1)).filter _).map _ = _
      rw [listAnswers_submitted, store_submitted]
      decide +kernel
    rw [hwaiting]
    exact .refl _
  within := by
    intro g hg x hx row question hrow hq
    obtain rfl := List.mem_singleton.1 hg
    obtain rfl := List.mem_singleton.1 hx
    obtain ⟨_, hans, -, -, -, hquestion, h0, hmax, -⟩ :=
      Store.checkGrade_eq_ok_iff.1 checkGrade_essayEntry
    obtain rfl := Option.some.inj (hans.symm.trans hrow)
    obtain rfl := Option.some.inj (hquestion.symm.trans hq)
    exact ⟨(Decimal.not_lt_iff_le _ _).1 h0, (Decimal.not_lt_iff_le _ _).1 hmax⟩

end Sample

/-- One grade is left for the sample attempt, and when the owner has given it the attempt is
graded. -/
theorem Engine.grade_waiting_submitted :
    (∃ result, Sample.submitted.store.result ⟨1, .admin⟩ (Sample.uuid 1) = .ok result ∧
      result.pendingGrading = 1) ∧
    ∃ later, (Sample.submitted.carryOut [Sample.essayGrading]).2.store.findAttempt (Sample.uuid 1) =
      some later ∧ later.status = .graded := by
  have hmem : Sample.closed ∈ Sample.submitted.store.attempts.values :=
    (Sample.reachable_submitted.sound.mem_attempts_iff _).2 Sample.findAttempt_submitted
  obtain ⟨-, hplan⟩ := Sample.reachable_submitted.grade_waiting Sample.hasSafePoints_submitted
    Sample.isFaultless_submitted hmem rfl
  constructor
  · obtain ⟨-, _, -, -, hresult, -⟩ := hplan [] [Sample.essayGrading] Sample.completes_submitted
    obtain ⟨result, hok, -, hpending, -⟩ := hresult ⟨1, .admin⟩ rfl
    exact ⟨result, hok, hpending⟩
  · obtain ⟨-, later, hlater, hstatus, -⟩ := hplan [Sample.essayGrading] [] Sample.completes_submitted
    exact ⟨later, hlater, hstatus⟩

end QuizEngine
