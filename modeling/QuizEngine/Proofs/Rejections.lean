import QuizEngine.Proofs.Batches

/-!
# Batches that are rejected

A batch is looked through twice before anything is written. The first time every repetition of
an answer is reported, and every answer that does not exist; the second time every entry is
reported whose grade is refused, unless its answer does not exist. So the report counts an
answer once for each repetition and once more for each of its grades that is refused
(`Store.count_failures`).

A repetition whose grade is refused too counts twice then. The report keeps to the entries of
the batch for every answer of which at most one grade is refused, and for no other
(`Engine.bulkGrade_rejected`): an answer that is listed twice, with too many points each time,
is reported three times (`Engine.failures_exceed_entries`).
-/

namespace QuizEngine

/-- How often a batch lists an answer. -/
def timesListed (entries : List GradeEntry) (id : Uuid) : Nat :=
  (entries.map (·.answerId)).count id

namespace Store

/-- The grade of the entry does not pass its check. -/
def refusesEntry (s : Store) (caller : Caller) (entry : GradeEntry) : Bool :=
  !(s.checkGrade caller entry.answerId entry.grade).toBool

/-- How many entries of a batch for an answer have grades that do not pass their checks. -/
def timesRefused (s : Store) (caller : Caller) (entries : List GradeEntry) (id : Uuid) : Nat :=
  entries.countP fun x => x.answerId == id && s.refusesEntry caller x

variable {s : Store}

/-! ## Counting reports -/

theorem timesRefused_le_timesListed (caller : Caller) (entries : List GradeEntry) (id : Uuid) :
    s.timesRefused caller entries id ≤ timesListed entries id := by
  rw [timesListed, List.count, List.countP_map]
  refine List.countP_mono_left fun x _ hx => ?_
  exact (Bool.and_eq_true_iff.1 hx).1

/-- An entry is reported once before its grade is looked at, or not at all. -/
theorem count_listingFault? (seen : List Uuid) (answerId id : Uuid) :
    ((s.listingFault? seen answerId).toList.map (·.answerId)).count id =
      if answerId = id ∧ (id ∈ seen ∨ s.findAnswer id = none) then 1 else 0 := by
  unfold listingFault? requireAnswer
  by_cases hid : answerId = id
  · subst hid
    by_cases hseen : answerId ∈ seen
    · simp [hseen, GradeFailure.ofError]
    · cases s.findAnswer answerId <;> simp [hseen, GradeFailure.ofError]
  · split
    · simp [hid, GradeFailure.ofError]
    · cases s.findAnswer answerId <;> simp [hid, GradeFailure.ofError]

/-- Before the grades are looked at an answer that does not exist is reported as often as it is
listed, any other for each repetition. -/
theorem count_listingFailures (id : Uuid) : ∀ (seen : List Uuid) (entries : List GradeEntry),
    ((s.listingFailures seen entries).map (·.answerId)).count id =
      if id ∈ seen ∨ s.findAnswer id = none then timesListed entries id
      else timesListed entries id - 1
  | seen, [] => by simp [listingFailures, timesListed]
  | seen, x :: rest => by
    rw [listingFailures, List.map_append, List.count_append, count_listingFault?,
      count_listingFailures id (x.answerId :: seen) rest]
    unfold timesListed
    rw [List.map_cons, List.count_cons]
    by_cases hid : x.answerId = id
    · subst hid
      by_cases hknown : x.answerId ∈ seen ∨ s.findAnswer x.answerId = none
      · simp [hknown, Nat.add_comm]
      · simp [hknown]
    · have hne : ¬id = x.answerId := fun h => hid h.symm
      simp [hid, hne]

/-- An answer that exists is reported for each of its grades that is refused. -/
theorem count_checkFailures (caller : Caller) (entries : List GradeEntry) (id : Uuid) :
    (((s.checkedEntries caller entries).filterMap checkFailure?).map (·.answerId)).count id =
      if s.findAnswer id = none then 0 else s.timesRefused caller entries id := by
  induction entries with
  | nil => simp [checkedEntries, timesRefused]
  | cons x rest ih =>
    unfold checkedEntries timesRefused at ih ⊢
    rw [List.countP_cons]
    by_cases hfound : (s.findAnswer x.answerId).isSome = true
    · rw [List.filter_cons, if_pos hfound, List.map_cons, List.filterMap_cons]
      have hsome : s.findAnswer x.answerId ≠ none := Option.isSome_iff_ne_none.1 hfound
      cases hc : s.checkGrade caller x.answerId x.grade with
      | ok checked =>
        simpa [checkFailure?, refusesEntry, hc, Except.toBool] using ih
      | error cause =>
        rw [checkFailure?, List.map_cons, List.count_cons, ih]
        by_cases hid : x.answerId = id
        · subst hid
          simp [hsome, GradeFailure.ofError, refusesEntry, hc, Except.toBool]
        · simp [hid, GradeFailure.ofError]
    · rw [List.filter_cons, if_neg hfound, ih]
      by_cases hid : x.answerId = id
      · subst hid
        simp [Option.not_isSome_iff_eq_none.1 hfound]
      · simp [hid]

/-- A batch reports an answer once for each repetition and once for each of its grades that is
refused, or as often as it is listed when it does not exist. -/
theorem count_failures (caller : Caller) (entries : List GradeEntry) (id : Uuid) :
    ((s.listingFailures [] entries ++
        (s.checkedEntries caller entries).filterMap checkFailure?).map (·.answerId)).count id =
      if s.findAnswer id = none then timesListed entries id
      else timesListed entries id - 1 + s.timesRefused caller entries id := by
  rw [List.map_append, List.count_append, count_listingFailures, count_checkFailures]
  by_cases hnone : s.findAnswer id = none <;> simp [hnone]

/-- What is reported of a batch that is refused. -/
theorem failures_of_checkBatch {caller : Caller} {entries : List GradeEntry} (hne : entries ≠ []) {cause : Error}
    (h : s.checkBatch caller entries = .error cause) :
    cause = .bulkGrade (s.listingFailures [] entries ++
      (s.checkedEntries caller entries).filterMap checkFailure?) [] := by
  rw [checkBatch, if_neg (by simpa using hne)] at h
  simp only at h
  split at h
  · cases h
  · exact (Except.error.inj h).symm

end Store

namespace Engine

/-- A batch with entries that is refused before anything is written changes nothing. Its text
gives the length of its report. The report counts an answer once for each repetition and once
more for each of its grades that is refused, or as often as it is listed when it does not exist.
So it counts an answer no more often than the batch does exactly when the answer does not exist
or at most one of its grades is refused; where that is so of every answer, the report is no
longer than the batch. -/
theorem bulkGrade_rejected (e : Engine) (ctx : Context) {entries : List GradeEntry}
    (hne : entries ≠ []) {cause : Error}
    (hrefused : e.store.checkBatch ctx.caller entries = .error cause) :
    ∃ failures, e.perform ctx (.bulkGrade entries) = (.error (.refused (.bulkGrade failures [])), e) ∧
      (Error.bulkGrade failures []).message =
        "Bulk grading rejected for " ++ toString failures.length ++ " answer(s)" ∧
      (∀ id, (failures.map (·.answerId)).count id =
        if e.store.findAnswer id = none then timesListed entries id
        else timesListed entries id - 1 + e.store.timesRefused ctx.caller entries id) ∧
      (∀ id, (failures.map (·.answerId)).count id ≤ timesListed entries id ↔
        e.store.findAnswer id = none ∨ e.store.timesRefused ctx.caller entries id ≤ 1) ∧
      ((∀ id, e.store.findAnswer id = none ∨ e.store.timesRefused ctx.caller entries id ≤ 1) →
        failures.length ≤ entries.length) := by
  obtain rfl := Store.failures_of_checkBatch hne hrefused
  have hcount := Store.count_failures (s := e.store) ctx.caller entries
  have hkeeps : ∀ id, ((e.store.listingFailures [] entries ++
        (e.store.checkedEntries ctx.caller entries).filterMap checkFailure?).map (·.answerId)).count id ≤
        timesListed entries id ↔
      e.store.findAnswer id = none ∨ e.store.timesRefused ctx.caller entries id ≤ 1 := by
    intro id
    rw [hcount id]
    have hle := Store.timesRefused_le_timesListed (s := e.store) ctx.caller entries id
    split
    · rename_i hnone
      simp [hnone]
    · rename_i hsome
      simp only [hsome, false_or]
      omega
  refine ⟨_, ?_, rfl, hcount, hkeeps, fun hall => ?_⟩
  · simp only [perform, ofOutcome, Store.bulkGrade, hrefused]
    rfl
  · have hsub : ((e.store.listingFailures [] entries ++
        (e.store.checkedEntries ctx.caller entries).filterMap checkFailure?).map (·.answerId)).Subperm
        (entries.map (·.answerId)) :=
      List.subperm_ext_iff.2 fun id _ => (hkeeps id).2 (hall id)
    simpa using hsub.length_le

end Engine

namespace Sample

/-- A grade of the essay with more points than the question has. -/
def overgenerous : GradeEntry := ⟨uuid 3, ⟨points 4 0, none⟩⟩

/-- What is reported of that grade given twice in one batch. -/
def overgenerousReport : List GradeFailure :=
  [.ofError (uuid 3) (.badRequest "answer listed more than once"),
    .ofError (uuid 3) (.pointsExceedMaximum (points 4 0) (points 3 0)),
    .ofError (uuid 3) (.pointsExceedMaximum (points 4 0) (points 3 0))]

theorem checkBatch_essay_twice :
    submitted.store.checkBatch (teacher 5).caller [essayEntry, essayEntry] =
      .error (.bulkGrade [.ofError (uuid 3) (.badRequest "answer listed more than once")] []) := by
  rw [store_submitted]
  decide +kernel

theorem checkBatch_overgenerous_twice :
    submitted.store.checkBatch (teacher 5).caller [overgenerous, overgenerous] =
      .error (.bulkGrade overgenerousReport []) := by
  rw [store_submitted]
  decide +kernel

end Sample

/-- The essay of the sample run twice in one batch, with a grade that is fine, is reported once. -/
theorem Engine.bulkGrade_rejected_twice :
    [Sample.essayEntry, Sample.essayEntry] ≠ [] ∧
    Sample.submitted.store.checkBatch (Sample.teacher 5).caller [Sample.essayEntry, Sample.essayEntry] =
      .error (.bulkGrade [.ofError (Sample.uuid 3) (.badRequest "answer listed more than once")] []) ∧
    ∃ failures, Sample.submitted.perform (Sample.teacher 5)
        (.bulkGrade [Sample.essayEntry, Sample.essayEntry]) =
        (.error (.refused (.bulkGrade failures [])), Sample.submitted) ∧
      (failures.map (·.answerId)).count (Sample.uuid 3) = 1 := by
  refine ⟨List.cons_ne_nil _ _, Sample.checkBatch_essay_twice, ?_⟩
  obtain ⟨failures, hfailures, -, hcount, -⟩ := Sample.submitted.bulkGrade_rejected (Sample.teacher 5)
    (List.cons_ne_nil _ _) Sample.checkBatch_essay_twice
  refine ⟨failures, hfailures, ?_⟩
  rw [hcount, Sample.store_submitted]
  decide +kernel

/-- A batch of two entries, both with too many points for the essay of the sample run, is rejected
with three reports of the one answer, and its text speaks of three answers. -/
theorem Engine.failures_exceed_entries :
    Sample.submitted.Reachable ∧
    ∃ failures, Sample.submitted.perform (Sample.teacher 5)
        (.bulkGrade [Sample.overgenerous, Sample.overgenerous]) =
        (.error (.refused (.bulkGrade failures [])), Sample.submitted) ∧
      (Error.bulkGrade failures []).message = "Bulk grading rejected for 3 answer(s)" ∧
      [Sample.overgenerous, Sample.overgenerous].length < failures.length ∧
      timesListed [Sample.overgenerous, Sample.overgenerous] (Sample.uuid 3) <
        (failures.map (·.answerId)).count (Sample.uuid 3) := by
  refine ⟨Sample.reachable_submitted, Sample.overgenerousReport, ?_, rfl, by decide, by decide⟩
  simp only [perform, ofOutcome, Store.bulkGrade, Sample.checkBatch_overgenerous_twice]
  rfl

end QuizEngine
