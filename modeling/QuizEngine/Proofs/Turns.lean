import QuizEngine.Proofs.Effects
import Mathlib.Data.List.Nodup
import Mathlib.Tactic.Tauto

/-!
# Batches of grades

A batch is refused for the answers that are listed twice or whose grades do not pass their
checks, and names exactly these (`mem_failures_iff`). Past that it grades answer after answer,
each as `Store.gradeAnswer` would at that moment (`GradesInTurn`): the check of an entry comes
out the same after the grades before it. It stops at the first grade that cannot be written,
and reports the answers graded until then (`applyBatch_cases`).

`Store.acceptedInTurn` names the answers that are graded when entries are graded one by one up
to the first that fails. For a batch that stops these are the answers it has graded
(`GradesInTurn.acceptedInTurn_eq`).
-/

namespace QuizEngine

/-- The entry of a batch that the grade was checked for. -/
def CheckedGrade.entry (checked : CheckedGrade) : GradeEntry := ⟨checked.answer.id, checked.grade⟩

/-- The failure of a batch when the grade of an answer cannot be written after those of
others were. -/
def Failure.inBatch (answerId : Uuid) (applied : List Uuid) : Failure → Failure
  | .refused cause => .refused (.bulkGrade [.ofError answerId cause] applied)
  | .overflowed cause => .overflowed cause

namespace Store

variable {s t u : Store} {ctx : Context}

/-! ## Checks of a batch -/

theorem mem_listingFault? (seen : List Uuid) (answerId id : Uuid) :
    id ∈ (s.listingFault? seen answerId).toList.map (·.answerId) ↔
      answerId = id ∧ (answerId ∈ seen ∨ s.findAnswer answerId = none) := by
  unfold listingFault? requireAnswer
  split
  · rename_i hseen
    simp [hseen, GradeFailure.ofError, eq_comm]
  · rename_i hseen
    cases hfound : s.findAnswer answerId <;> simp [hseen, GradeFailure.ofError, eq_comm]

/-- An answer is reported before any grade is looked at when it is listed twice or does not
exist. -/
theorem mem_listingFailures (id : Uuid) : ∀ (seen : List Uuid) (entries : List GradeEntry),
    id ∈ (s.listingFailures seen entries).map (·.answerId) ↔
      id ∈ entries.map (·.answerId) ∧
        (id ∈ seen ∨ 2 ≤ (entries.map (·.answerId)).count id ∨ s.findAnswer id = none)
  | seen, [] => by simp [listingFailures]
  | seen, x :: rest => by
    rw [listingFailures, List.map_append, List.mem_append, mem_listingFault?,
      mem_listingFailures id (x.answerId :: seen) rest, List.map_cons, List.mem_cons, List.mem_cons,
      List.count_cons]
    by_cases hid : x.answerId = id
    · subst hid
      have hagain : 2 ≤ (rest.map (·.answerId)).count x.answerId + 1 ↔
          x.answerId ∈ rest.map (·.answerId) := by
        rw [← List.count_pos_iff]
        omega
      simp only [beq_self_eq_true, if_true, hagain, true_or, true_and, and_true]
      tauto
    · have hne : ¬id = x.answerId := fun h => hid h.symm
      simp [hid, hne]

/-- An answer is reported for its grade when the answer exists and the check refuses. -/
theorem mem_checkFailures (caller : Caller) (entries : List GradeEntry) (id : Uuid) :
    id ∈ ((s.checkedEntries caller entries).filterMap checkFailure?).map (·.answerId) ↔
      ∃ x ∈ entries, x.answerId = id ∧ s.findAnswer id ≠ none ∧
        ∃ cause, s.checkGrade caller x.answerId x.grade = .error cause := by
  have hone : ∀ x : GradeEntry, (∃ failure,
      checkFailure? (x.answerId, s.checkGrade caller x.answerId x.grade) = some failure ∧
        failure.answerId = id) ↔
      x.answerId = id ∧ ∃ cause, s.checkGrade caller x.answerId x.grade = .error cause := by
    intro x
    cases s.checkGrade caller x.answerId x.grade <;> simp [checkFailure?, GradeFailure.ofError]
  simp only [checkedEntries, List.filterMap_map, List.mem_map, List.mem_filterMap, List.mem_filter,
    Function.comp_apply]
  constructor
  · rintro ⟨failure, ⟨x, ⟨hx, hfound⟩, hfailure⟩, hid⟩
    obtain ⟨rfl, hcause⟩ := (hone x).1 ⟨failure, hfailure, hid⟩
    exact ⟨x, hx, rfl, Option.isSome_iff_ne_none.1 hfound, hcause⟩
  · rintro ⟨x, hx, rfl, hfound, hcause⟩
    obtain ⟨failure, hfailure, hid⟩ := (hone x).2 ⟨rfl, hcause⟩
    exact ⟨failure, ⟨x, ⟨hx, Option.isSome_iff_ne_none.2 hfound⟩, hfailure⟩, hid⟩

/-- A batch reports the answers that are listed twice or whose grades are refused. -/
theorem mem_failures_iff (caller : Caller) (entries : List GradeEntry) (id : Uuid) :
    id ∈ (s.listingFailures [] entries ++
        (s.checkedEntries caller entries).filterMap checkFailure?).map (·.answerId) ↔
      2 ≤ (entries.map (·.answerId)).count id ∨ ∃ x ∈ entries, x.answerId = id ∧
        ∃ cause, s.checkGrade caller x.answerId x.grade = .error cause := by
  rw [List.map_append, List.mem_append, mem_listingFailures, mem_checkFailures]
  constructor
  · rintro (⟨hmem, hseen | htwice | hnone⟩ | ⟨x, hx, hid, -, hcause⟩)
    · cases hseen
    · exact Or.inl htwice
    · obtain ⟨x, hx, rfl⟩ := List.mem_map.1 hmem
      refine Or.inr ⟨x, hx, rfl, ?_⟩
      cases hc : s.checkGrade caller x.answerId x.grade with
      | error cause => exact ⟨cause, rfl⟩
      | ok checked =>
        obtain ⟨_, hans, -⟩ := checkGrade_eq_ok_iff.1 hc
        rw [hnone] at hans
        cases hans
    · exact Or.inr ⟨x, hx, hid, hcause⟩
  · rintro (htwice | ⟨x, hx, rfl, hcause⟩)
    · exact Or.inl ⟨List.count_pos_iff.1 (by omega), Or.inr (Or.inl htwice)⟩
    · by_cases hfound : s.findAnswer x.answerId = none
      · exact Or.inl ⟨List.mem_map_of_mem hx, Or.inr (Or.inr hfound)⟩
      · exact Or.inr ⟨x, hx, rfl, hfound, hcause⟩

/-- When all checks pass the grades are those of the entries, in order. -/
theorem filterMap_checkedGrade? (h : s.Sound) {caller : Caller} {entries : List GradeEntry}
    (hall : ∀ x ∈ entries, ∃ c, s.checkGrade caller x.answerId x.grade = .ok c) :
    ∃ grades, entries.filterMap (fun x =>
        checkedGrade? (x.answerId, s.checkGrade caller x.answerId x.grade)) = grades ∧
      entries = grades.map (·.entry) ∧ ∀ c ∈ grades, s.checkGrade caller c.answer.id c.grade = .ok c := by
  induction entries with
  | nil => exact ⟨[], rfl, rfl, by simp⟩
  | cons x rest ih =>
    rw [List.forall_mem_cons] at hall
    obtain ⟨⟨c, hc⟩, hrest⟩ := hall
    obtain ⟨grades, hgrades, hentries, hchecks⟩ := ih hrest
    obtain ⟨_, hans, -, -, -, -, -, -, hg⟩ := checkGrade_eq_ok_iff.1 hc
    have hentry : c.entry = x := by
      rw [CheckedGrade.entry, h.id_of_findAnswer hans, hg]
    refine ⟨c :: grades, ?_, ?_, ?_⟩
    · rw [List.filterMap_cons, hc, hgrades]
      rfl
    · rw [List.map_cons, hentry, ← hentries]
    · rw [List.forall_mem_cons, h.id_of_findAnswer hans, hg]
      exact ⟨hc, hchecks⟩

/-- A batch is empty, or refused for the answers that are listed twice or whose grades are
refused, or it names every answer once and all its grades pass their checks. -/
theorem checkBatch_cases (h : s.Sound) (caller : Caller) (entries : List GradeEntry) :
    (entries = [] ∧ s.checkBatch caller entries = .error (.badRequest "no grades supplied")) ∨
    (∃ failures, s.checkBatch caller entries = .error (.bulkGrade failures []) ∧ failures ≠ [] ∧
      ∀ id, id ∈ failures.map (·.answerId) ↔
        2 ≤ (entries.map (·.answerId)).count id ∨ ∃ x ∈ entries, x.answerId = id ∧
          ∃ cause, s.checkGrade caller x.answerId x.grade = .error cause) ∨
    ∃ grades, s.checkBatch caller entries = .ok grades ∧ (grades.map (·.answer.id)).Nodup ∧
      entries = grades.map (·.entry) ∧
      ∀ c ∈ grades, s.checkGrade caller c.answer.id c.grade = .ok c := by
  cases hempty : entries.isEmpty with
  | true =>
    refine Or.inl ⟨List.isEmpty_iff.1 hempty, ?_⟩
    rw [checkBatch, if_pos hempty]
  | false =>
    have hmem := mem_failures_iff (s := s) caller entries
    unfold checkBatch
    simp only [hempty, Bool.false_eq_true, if_false]
    split
    · rename_i hnone
      rw [List.isEmpty_iff] at hnone
      simp only [hnone, List.map_nil, List.not_mem_nil, false_iff, not_or, not_exists, not_and] at hmem
      have hall : ∀ x ∈ entries, ∃ c, s.checkGrade caller x.answerId x.grade = .ok c := by
        intro x hx
        cases hc : s.checkGrade caller x.answerId x.grade with
        | error cause => exact absurd hc ((hmem x.answerId).2 x hx rfl cause)
        | ok c => exact ⟨c, rfl⟩
      have hn : (entries.map (·.answerId)).Nodup :=
        List.nodup_iff_count_le_one.2 fun id => by have := (hmem id).1; omega
      have hfound : ∀ x ∈ entries, (s.findAnswer x.answerId).isSome = true := by
        intro x hx
        obtain ⟨c, hc⟩ := hall x hx
        obtain ⟨_, hans, -⟩ := checkGrade_eq_ok_iff.1 hc
        rw [hans]
        rfl
      obtain ⟨grades, hgrades, hentries, hchecks⟩ := filterMap_checkedGrade? h hall
      refine Or.inr (Or.inr ⟨grades, ?_, ?_, hentries, hchecks⟩)
      · rw [checkedEntries, List.filter_eq_self.2 hfound, List.filterMap_map]
        exact congrArg Except.ok hgrades
      · rw [hentries, List.map_map] at hn
        exact hn
    · rename_i hsome
      exact Or.inr (Or.inl ⟨_, rfl, by simpa using hsome, hmem⟩)

/-- A batch of different answers is accepted when every grade passes its check. -/
theorem exists_checkBatch (h : s.Sound) {caller : Caller} {entries : List GradeEntry}
    (hne : entries ≠ []) (hn : (entries.map (·.answerId)).Nodup)
    (hall : ∀ x ∈ entries, ∃ c, s.checkGrade caller x.answerId x.grade = .ok c) :
    ∃ grades, s.checkBatch caller entries = .ok grades ∧ (grades.map (·.answer.id)).Nodup ∧
      entries = grades.map (·.entry) ∧
      ∀ c ∈ grades, s.checkGrade caller c.answer.id c.grade = .ok c := by
  rcases checkBatch_cases h caller entries with ⟨hempty, -⟩ | ⟨failures, -, hsome, hmem⟩ | hok
  · exact absurd hempty hne
  · obtain ⟨f, hf⟩ := List.exists_mem_of_ne_nil failures hsome
    rcases (hmem f.answerId).1 (List.mem_map_of_mem hf) with htwice | ⟨x, hx, -, cause, hcause⟩
    · have hone := List.nodup_iff_count_le_one.1 hn f.answerId
      omega
    · obtain ⟨c, hc⟩ := hall x hx
      cases hcause.symm.trans hc
  · exact hok

/-! ## Turns -/

/-- Grades that are given one after the other, each of which passes its check when its turn
comes and is written. -/
inductive GradesInTurn (ctx : Context) : List CheckedGrade → Store → Store → Prop where
  | nil {s : Store} : GradesInTurn ctx [] s s
  | cons {c : CheckedGrade} {rest : List CheckedGrade} {s t u : Store}
      (isChecked : s.checkGrade ctx.caller c.answer.id c.grade = .ok c)
      (isGraded : s.gradeAnswer ctx c.answer.id c.grade = (.ok (c.row ctx), t))
      (others : GradesInTurn ctx rest t u) : GradesInTurn ctx (c :: rest) s u

theorem gradeAnswer_of_check {answerId : Uuid} {grade : Grade} {checked : CheckedGrade}
    (hc : s.checkGrade ctx.caller answerId grade = .ok checked) :
    s.gradeAnswer ctx answerId grade = s.applyGrade ctx checked := by
  rw [gradeAnswer, hc]

/-- A grade that passed its check is written with the attempt, or nothing is. -/
theorem gradeAnswer_cases_of_check (h : s.Sound) {answerId : Uuid} {grade : Grade}
    {checked : CheckedGrade} (hc : s.checkGrade ctx.caller answerId grade = .ok checked) :
    (∃ cause t, s.gradeAnswer ctx answerId grade = (.error cause, t) ∧
      WritesOnly (· = .aside) s t) ∨
    ∃ t u, s.gradeAnswer ctx answerId grade = (.ok (checked.row ctx), u) ∧
      WritesOnly (· = .aside) s t ∧ t.Writes (.grade checked.answer.attemptId answerId) u := by
  rw [gradeAnswer_of_check hc]
  exact applyGrade_cases h hc

/-- A grade that cannot be written leaves the rows as they are. -/
theorem aside_of_gradeAnswer_error (h : s.Sound) {answerId : Uuid} {grade : Grade} {cause : Failure}
    (herr : s.gradeAnswer ctx answerId grade = (.error cause, t)) : WritesOnly (· = .aside) s t := by
  rcases gradeAnswer_cases h ctx answerId grade with ⟨_, _, he, hw⟩ | ⟨_, _, _, _, hok, -⟩
  · obtain ⟨-, rfl⟩ := Prod.mk.inj (herr.symm.trans he)
    exact hw
  · rw [herr] at hok
    cases hok

/-- A grade changes no other answer. -/
theorem Writes.findAnswer_of_grade {attemptId answerId other : Uuid}
    (hw : s.Writes (.grade attemptId answerId) t) (h : s.Keyed) (hne : other ≠ answerId) :
    t.findAnswer other = s.findAnswer other := by
  cases hw with
  | @grade ctx _ _ checked _ _ _ isChecked _ _ _ =>
    obtain ⟨-, hans, -⟩ := checkGrade_eq_ok_iff.1 isChecked
    have hid : checked.answer.id = answerId := h.id_of_findAnswer hans
    exact (findAnswer_putAnswer _ _ _).trans (if_neg (hid ▸ hne))

/-- The check of a grade comes out as before after a grade of another answer. -/
theorem Writes.checkGrade_of_grade {t : Store} {attemptId answerId other : Uuid} {caller : Caller}
    {grade : Grade} {checked : CheckedGrade} (hw : s.Writes (.grade attemptId answerId) t)
    (h : s.Sound) (hne : other ≠ answerId) (hc : s.checkGrade caller other grade = .ok checked) :
    t.checkGrade caller other grade = .ok checked := by
  have hcat := hw.sameCatalog
  obtain ⟨attempt, hans, hatt, hown, hst, hq, h0, h1, hg⟩ := checkGrade_eq_ok_iff.1 hc
  rw [← hw.findAnswer_of_grade h.toKeyed hne] at hans
  rw [← hcat.ownsQuiz_eq] at hown
  rw [← hcat.findQuestion_eq] at hq
  cases hw with
  | @grade ctx _ _ written before next snapshot _ ofAttempt _ isNext =>
    obtain ⟨score, -, -, rfl⟩ := Attempt.regraded_eq_ok_iff.1 isNext
    have hbefore : before.id = written.answer.attemptId := h.id_of_findAttempt ofAttempt
    by_cases hsame : checked.answer.attemptId = before.id
    · -- the grade is on an answer of the attempt that was just written
      rw [hsame, hbefore, ofAttempt, Option.some.injEq] at hatt
      subst hatt
      refine checkGrade_eq_ok_iff.2 ⟨nextVersion (before.regradedWith score ctx), hans, ?_, hown,
        score.isGradeable_status, hq, h0, h1, hg⟩
      exact (findAttempt_putAttempt _ _ _).trans (if_pos hsame)
    · refine checkGrade_eq_ok_iff.2 ⟨attempt, hans, ?_, hown, hst, hq, h0, h1, hg⟩
      exact (findAttempt_putAttempt _ _ _).trans ((if_neg hsame).trans hatt)

/-- After a grade the checks of other answers come out as before. -/
theorem checkGrade_after_grade (h : s.Sound) (hw : WritesOnly (· = .aside) s t) {c d : CheckedGrade}
    (hg : t.Writes (.grade c.answer.attemptId c.answer.id) u) (hne : d.answer.id ≠ c.answer.id)
    (hd : s.checkGrade ctx.caller d.answer.id d.grade = .ok d) :
    u.checkGrade ctx.caller d.answer.id d.grade = .ok d := by
  refine hg.checkGrade_of_grade (hw.sound h) hne ?_
  rw [checkGrade_eq_of_sameRows hw.sameRows]
  exact hd

namespace GradesInTurn

variable {grades : List CheckedGrade}

/-- Each of the grades is a write after which the others are given. -/
theorem head_writes {c : CheckedGrade} {rest : List CheckedGrade}
    (hg : GradesInTurn ctx (c :: rest) s u) (h : s.Sound) :
    ∃ v t, WritesOnly (· = .aside) s v ∧ v.Writes (.grade c.answer.attemptId c.answer.id) t ∧
      GradesInTurn ctx rest t u := by
  cases hg with
  | cons isChecked isGraded others =>
    rcases gradeAnswer_cases_of_check h isChecked with ⟨_, _, he, -⟩ | ⟨v, _, hok, hw, hgrade⟩
    · rw [isGraded] at he
      cases he
    · obtain ⟨-, rfl⟩ := Prod.mk.inj (isGraded.symm.trans hok)
      exact ⟨v, _, hw, hgrade, others⟩

/-- Grades in turn are writes of these grades. -/
theorem writes (hg : GradesInTurn ctx grades s t) (h : s.Sound) :
    WritesOnly (fun w => w = .aside ∨ ∃ c ∈ grades, w = .grade c.answer.attemptId c.answer.id) s t := by
  induction grades generalizing s with
  | nil =>
    cases hg
    exact .refl
  | cons c rest ih =>
    obtain ⟨v, u, hw, hgrade, hrest⟩ := hg.head_writes h
    have hothers := ih hrest (hgrade.sound (hw.sound h))
    refine (hw.mono fun _ => Or.inl).trans (.head (hothers.mono ?_) hgrade (Or.inr ⟨c, by simp, rfl⟩))
    rintro w (rfl | ⟨d, hd, rfl⟩)
    · exact Or.inl rfl
    · exact Or.inr ⟨d, List.mem_cons_of_mem c hd, rfl⟩

theorem sound (hg : GradesInTurn ctx grades s t) (h : s.Sound) : t.Sound := (hg.writes h).sound h

/-- Answers that get no grade stay as they are. -/
theorem findAnswer_eq (hg : GradesInTurn ctx grades s t) (h : s.Sound) {id : Uuid}
    (hnot : id ∉ grades.map (·.answer.id)) : t.findAnswer id = s.findAnswer id := by
  induction grades generalizing s with
  | nil =>
    cases hg
    rfl
  | cons c rest ih =>
    obtain ⟨v, u, hw, hgrade, hrest⟩ := hg.head_writes h
    have hv := hw.sound h
    rw [List.map_cons, List.mem_cons, not_or] at hnot
    rw [ih hrest (hgrade.sound hv) hnot.2, hgrade.findAnswer_of_grade hv.toKeyed hnot.1,
      hw.sameRows.findAnswer_eq]

end GradesInTurn

/-! ## Batches -/

/-- A batch of different answers whose grades passed their checks writes all of them in turn,
or those before one that cannot be written. -/
theorem applyBatch_cases :
    ∀ (grades : List CheckedGrade) (applied : List Answer) {s : Store}, s.Sound →
      (grades.map (·.answer.id)).Nodup →
      (∀ c ∈ grades, s.checkGrade ctx.caller c.answer.id c.grade = .ok c) →
      (∃ t, GradesInTurn ctx grades s t ∧
        applyBatch ctx applied grades s = (.ok (applied ++ grades.map (·.row ctx)), t)) ∨
      ∃ front c rest t u cause, grades = front ++ c :: rest ∧ GradesInTurn ctx front s t ∧
        t.checkGrade ctx.caller c.answer.id c.grade = .ok c ∧
        t.gradeAnswer ctx c.answer.id c.grade = (.error cause, u) ∧
        applyBatch ctx applied grades s = (.error (cause.inBatch c.answer.id
          (applied.map (·.id) ++ front.map (·.answer.id))), u)
  | [], applied, s, _, _, _ => Or.inl ⟨s, .nil, by simp [applyBatch]⟩
  | c :: rest, applied, s, h, hn, hall => by
    rw [List.map_cons, List.nodup_cons] at hn
    rw [List.forall_mem_cons] at hall
    have hgrade := gradeAnswer_of_check hall.1
    rw [applyBatch, ← hgrade]
    rcases gradeAnswer_cases_of_check h hall.1 with ⟨cause, u, herr, _⟩ | ⟨t, u, hok, hw, hg⟩
    · refine Or.inr ⟨[], c, rest, s, u, cause, rfl, .nil, hall.1, herr, ?_⟩
      rw [herr]
      cases cause <;> simp [Failure.inBatch, Outcome.refused, Outcome.overflowed]
    · rw [hok]
      have hrest : ∀ d ∈ rest, u.checkGrade ctx.caller d.answer.id d.grade = .ok d := by
        intro d hd
        refine checkGrade_after_grade h hw hg (fun heq => hn.1 ?_) (hall.2 d hd)
        exact List.mem_map.2 ⟨d, hd, heq⟩
      rcases applyBatch_cases rest (applied ++ [c.row ctx]) (hg.sound (hw.sound h)) hn.2 hrest with
        ⟨v, hturn, hend⟩ | ⟨front, d, back, v, x, cause, rfl, hturn, hcheck, herr, hend⟩
      · refine Or.inl ⟨v, .cons hall.1 hok hturn, ?_⟩
        simpa using hend
      · refine Or.inr ⟨c :: front, d, back, v, x, cause, rfl, .cons hall.1 hok hturn, hcheck,
          herr, ?_⟩
        simpa [CheckedGrade.row] using hend

/-- A batch only grades answers that it names. -/
theorem writes_bulkGrade (h : s.Sound) (ctx : Context) (entries : List GradeEntry) :
    WritesOnly (fun w => w = .aside ∨ ∃ e ∈ entries, ∃ attemptId, w = .grade attemptId e.answerId) s
      (s.bulkGrade ctx entries).2 := by
  unfold bulkGrade
  rcases checkBatch_cases h ctx.caller entries with
    ⟨-, hb⟩ | ⟨failures, hb, -⟩ | ⟨grades, hb, hn, rfl, hall⟩
  · rw [hb]
    exact .refl
  · rw [hb]
    exact .refl
  · have hpermitted : ∀ {front : List CheckedGrade}, front ⊆ grades → ∀ w : Write,
        (w = .aside ∨ ∃ c ∈ front, w = .grade c.answer.attemptId c.answer.id) →
        w = .aside ∨ ∃ e ∈ grades.map (·.entry), ∃ attemptId, w = .grade attemptId e.answerId := by
      rintro front hsub w (rfl | ⟨c, hc, rfl⟩)
      · exact Or.inl rfl
      · exact Or.inr ⟨c.entry, List.mem_map_of_mem (hsub hc), _, rfl⟩
    rcases applyBatch_cases grades [] h hn hall with
      ⟨t, hturn, hend⟩ | ⟨front, c, rest, t, u, cause, rfl, hturn, -, herr, hend⟩
    · simp only [hb, hend]
      exact (hturn.writes h).mono (hpermitted (List.Subset.refl _))
    · simp only [hb, hend]
      exact ((hturn.writes h).mono (hpermitted (List.subset_append_left _ _))).trans
        ((aside_of_gradeAnswer_error (hturn.sound h) herr).mono fun _ => Or.inl)

/-! ## One by one -/

/-- The answers that are graded when these entries are graded one by one, up to the first
whose grade is not accepted. -/
def acceptedInTurn (ctx : Context) : List GradeEntry → Store → List Uuid
  | [], _ => []
  | e :: rest, s =>
    match s.gradeAnswer ctx e.answerId e.grade with
    | (.ok _, s) => e.answerId :: acceptedInTurn ctx rest s
    | (.error _, _) => []

/-- What is accepted one by one are the grades given in turn, and then those accepted of the
others. -/
theorem GradesInTurn.acceptedInTurn_eq {grades : List CheckedGrade}
    (hg : GradesInTurn ctx grades s t) (rest : List GradeEntry) :
    acceptedInTurn ctx (grades.map (·.entry) ++ rest) s =
      grades.map (·.answer.id) ++ acceptedInTurn ctx rest t := by
  induction hg with
  | nil => rfl
  | @cons c others s t _ _ isGraded _ ih =>
    have hfirst : s.gradeAnswer ctx c.entry.answerId c.entry.grade = (.ok (c.row ctx), t) := isGraded
    rw [List.map_cons, List.cons_append, acceptedInTurn, hfirst]
    exact congrArg (c.answer.id :: ·) ih

end Store

end QuizEngine
