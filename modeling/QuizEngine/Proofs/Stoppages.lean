import QuizEngine.Proofs.Batches

/-!
# Batches that stop

A batch whose grades all pass their checks can still fail, for grades are written one after the
other and a write may be made to fail. It stops at the first grade with a fault, reports that
one answer with its cause, and names the answers that were graded before. What is stored then is
what grading these answers one by one leaves (`Engine.Reachable.bulkGrade_stopped`): a grade that
has a fault is not stored, and no later one is tried.

A batch without entries passes every check and is refused all the same. Nothing is graded
before that, and there is no entry to stop at (`Engine.bulkGrade_empty`).
-/

namespace QuizEngine

/-- Grades that were given in turn could all be written from the beginning on. -/
theorem Store.GradesInTurn.writable {s t : Store} {ctx : Context} {grades : List CheckedGrade}
    (hg : Store.GradesInTurn ctx grades s t) (h : s.IsSafe) :
    ∀ c ∈ grades, c.answer.id ∉ s.unwritableGrades := by
  induction hg with
  | nil => exact List.forall_mem_nil _
  | @cons c rest s t u isChecked isGraded _ ih =>
    obtain ⟨next, conflicts, -, heq⟩ := h.gradeAnswer_eq isChecked
    cases hfault : s.gradeFault? c.answer with
    | some cause =>
      rw [isGraded, hfault] at heq
      cases heq
    | none =>
      have hnext : t.IsSafe :=
        ((GradesInTurn.cons isChecked isGraded .nil).writes h.sound).isSafe h
      rw [isGraded, hfault] at heq
      -- a grade lifts no fault
      have hmarks : t.unwritableGrades = s.unwritableGrades := congrArg (·.2.unwritableGrades) heq
      rw [List.forall_mem_cons, ← hmarks]
      exact ⟨hmarks ▸ (Store.gradeFault?_eq_none_iff.1 hfault).1, ih hnext⟩

namespace Engine

/-- The grades of the entries in front are given one by one, which leads to `e₁`, and there the
grade of the next entry is refused for the fault that it has. -/
structure StopsAt (e : Engine) (ctx : Context) (front : List GradeEntry) (entry : GradeEntry)
    (cause : Error) (e₁ : Engine) : Prop where
  isGiven : ∃ graded : List Answer, graded.map (·.id) = front.map (·.answerId) ∧
    e.performAll ctx (front.map fun x => .grade x.answerId x.grade) =
      (graded.map fun a => .ok (.answer a), e₁)
  isRefused : (e₁.perform ctx (.grade entry.answerId entry.grade)).1 = .error (.refused cause)
  isFault : ∃ row, e₁.store.findAnswer entry.answerId = some row ∧
    e₁.store.gradeFault? row = some cause

variable {e e' : Engine} {ctx : Context}

/-- A batch without entries is refused. -/
theorem perform_bulkGrade_nil (e : Engine) (ctx : Context) :
    e.perform ctx (.bulkGrade []) = (.error (.refused (.badRequest "no grades supplied")), e) := rfl

/-- Where the grades in front were given and the next has a fault, a batch stops. -/
theorem stopsAt_of_turn {front : List CheckedGrade} {c : CheckedGrade} {t u : Store} {cause : Error}
    (hturn : Store.GradesInTurn ctx front e.store t)
    (hcheck : t.checkGrade ctx.caller c.answer.id c.grade = .ok c)
    (herr : t.gradeAnswer ctx c.answer.id c.grade = (.error (.refused cause), u))
    (hfault : t.gradeFault? c.answer = some cause) :
    e.StopsAt ctx (front.map (·.entry)) c.entry cause (e.withStore t) := by
  refine ⟨⟨front.map (·.row ctx), ?_, ?_⟩, ?_, c.answer, ?_, hfault⟩
  · rw [List.map_map, List.map_map]
    rfl
  · rw [List.map_map, List.map_map]
    exact performAll_grades hturn
  · exact congrArg (Except.map Reply.answer ·.1) herr
  · obtain ⟨_, hans, -⟩ := Store.checkGrade_eq_ok_iff.1 hcheck
    exact hans

/-- A batch of different answers whose grades pass their checks and that fails has no entries, or
stops at one of them. It reports that answer with the cause for which its grade alone is refused,
and the answers in front. These are graded as they would be one by one, and the other answers of
the batch are as they were. -/
theorem Reachable.bulkGrade_stopped (h : e.Reachable) (hpoints : e.store.HasSafePoints)
    (ctx : Context) {entries : List GradeEntry} (hn : (entries.map (·.answerId)).Nodup)
    (hchecks : ∀ x ∈ entries, ∃ checked,
      e.store.checkGrade ctx.caller x.answerId x.grade = .ok checked)
    {failure : Failure} (hfail : e.perform ctx (.bulkGrade entries) = (.error failure, e')) :
    (entries = [] ∧ failure = .refused (.badRequest "no grades supplied") ∧ e' = e) ∨
    ∃ front entry rest cause e₁, entries = front ++ entry :: rest ∧
      failure = .refused (.bulkGrade [⟨entry.answerId, cause.kind, cause.message⟩]
        (front.map (·.answerId))) ∧
      e.StopsAt ctx front entry cause e₁ ∧ e₁.store.SameRows e'.store ∧
      ∀ x ∈ entry :: rest, e'.store.findAnswer x.answerId = e.store.findAnswer x.answerId := by
  rcases eq_or_ne entries [] with rfl | hne
  · rw [perform_bulkGrade_nil] at hfail
    cases hfail
    exact Or.inl ⟨rfl, rfl, rfl⟩
  · right
    have hsafe := h.isSafe hpoints
    obtain ⟨grades, hok, hdistinct, rfl, hall⟩ :=
      Store.exists_checkBatch hsafe.sound hne hn hchecks
    simp only [perform, ofOutcome, Store.bulkGrade, hok] at hfail
    rcases Store.applyBatch_cases grades [] hsafe.sound hdistinct hall with
      ⟨t, -, hend⟩ | ⟨front, c, rest, t, u, cause, rfl, hturn, hcheck, herr, hend⟩
    · rw [hend] at hfail
      cases hfail
    · rw [hend] at hfail
      -- the grade at which the batch stops is refused for its fault
      have hsafe' : t.IsSafe := (hturn.writes hsafe.sound).isSafe hsafe
      obtain ⟨next, conflicts, -, heq⟩ := hsafe'.gradeAnswer_eq hcheck
      cases hfault : t.gradeFault? c.answer with
      | none =>
        rw [herr, hfault] at heq
        cases heq
      | some fault =>
        rw [herr, hfault] at heq
        obtain ⟨hcause, rfl⟩ := Prod.mk.inj heq
        obtain rfl := Except.error.inj hcause
        cases hfail
        refine ⟨front.map (·.entry), c.entry, rest.map (·.entry), fault, e.withStore t,
          List.map_append, ?_, stopsAt_of_turn hturn hcheck herr hfault,
          t.sameRows_withConflicts conflicts, ?_⟩
        · rw [List.map_map]
          rfl
        · -- no grade in front is for the answer of an entry that follows
          intro x hx
          obtain ⟨d, hd, rfl⟩ := List.mem_map.1 (List.map_cons ▸ hx : x ∈ (c :: rest).map (·.entry))
          rw [List.map_append] at hdistinct
          refine hturn.findAnswer_eq hsafe.sound fun hfront => ?_
          exact (List.nodup_append.1 hdistinct).2.2 _ hfront _ (List.mem_map_of_mem hd) rfl

/-- A batch is not accepted when the grade of one of its answers cannot be written. -/
theorem Reachable.exists_bulkGrade_error (h : e.Reachable) (hpoints : e.store.HasSafePoints)
    (ctx : Context) {entries : List GradeEntry} {x : GradeEntry} (hx : x ∈ entries)
    (hmarked : x.answerId ∈ e.store.unwritableGrades) :
    ∃ failure, (e.perform ctx (.bulkGrade entries)).1 = .error failure := by
  have hsafe := h.isSafe hpoints
  simp only [perform, ofOutcome, Store.bulkGrade]
  rcases Store.checkBatch_cases hsafe.sound ctx.caller entries with
    ⟨-, hb⟩ | ⟨failures, hb, -⟩ | ⟨grades, hb, hn, rfl, hall⟩
  · exact ⟨_, by rw [hb]; rfl⟩
  · exact ⟨_, by rw [hb]; rfl⟩
  · simp only [hb]
    rcases Store.applyBatch_cases grades [] hsafe.sound hn hall with
      ⟨t, hturn, hend⟩ | ⟨front, c, rest, t, u, cause, -, -, -, -, hend⟩
    · obtain ⟨c, hc, rfl⟩ := List.mem_map.1 hx
      exact absurd hmarked (hturn.writable hsafe c hc)
    · exact ⟨_, by rw [hend]; rfl⟩

end Engine

namespace Sample

/-- The sample run after the submission, with the grade of the choice not to be written. -/
def spoiled : Engine := submitted.withStore (submitted.store.failGradeWrites (uuid 2))

/-- A grade of the choice as an entry of a batch. -/
def choiceEntry : GradeEntry := ⟨uuid 2, ⟨points 1 0, none⟩⟩

theorem reachable_spoiled : spoiled.Reachable :=
  reachable_submitted.run (Engine.Run.nil.snoc (.failGradeWrites (uuid 2)))

theorem sameRows_spoiled : submitted.store.SameRows spoiled.store := ⟨⟨rfl, rfl, rfl⟩, rfl, rfl⟩

theorem checkGrade_spoiled : ∀ x ∈ [essayEntry, choiceEntry], ∃ checked,
    spoiled.store.checkGrade (teacher 5).caller x.answerId x.grade = .ok checked := by
  intro x hx
  rw [Store.checkGrade_eq_of_sameRows sameRows_spoiled]
  rcases List.mem_pair.1 hx with rfl | rfl
  · exact ⟨_, checkGrade_essayEntry⟩
  · refine ⟨⟨Answer.withVerdict (.ungraded (uuid 2) (uuid 1) 1 (.singleChoice 1) none .epoch) choice
      true .epoch, choice, choiceEntry.grade⟩, ?_⟩
    rw [store_submitted]
    exact Store.checkGrade_eq_ok_iff.2 ⟨closed, by decide +kernel⟩

/-- The grade of the essay has no fault. -/
theorem gradeFault?_spoiled {row : Answer} (hid : row.id = uuid 3) :
    spoiled.store.gradeFault? row = none := by
  have hmarks : spoiled.store.unwritableGrades = [uuid 2] :=
    congrArg (uuid 2 :: ·) isFaultless_submitted.unwritableGrades
  refine Store.gradeFault?_eq_none_iff.2 ⟨?_, ?_⟩
  · rw [hmarks, hid]
    decide
  · exact (isFaultless_submitted.conflictsLeft _).trans_le (Nat.zero_le _)

end Sample

/-- A batch with the essay and then the choice stops at the choice and reports the essay. -/
theorem Engine.bulkGrade_stopped_spoiled :
    Sample.spoiled.Reachable ∧ Sample.spoiled.store.HasSafePoints ∧
    (∀ x ∈ [Sample.essayEntry, Sample.choiceEntry], ∃ checked, Sample.spoiled.store.checkGrade
      (Sample.teacher 5).caller x.answerId x.grade = .ok checked) ∧
    ∃ (cause : Error) (e' : Engine),
      Sample.spoiled.perform (Sample.teacher 5) (.bulkGrade [Sample.essayEntry, Sample.choiceEntry]) =
        (.error (.refused (.bulkGrade [⟨Sample.uuid 2, cause.kind, cause.message⟩] [Sample.uuid 3])),
          e') := by
  have hpoints := Sample.hasSafePoints_submitted.of_sameCatalog Sample.sameRows_spoiled.toSameCatalog
  have hx : Sample.choiceEntry ∈ [Sample.essayEntry, Sample.choiceEntry] := by simp
  obtain ⟨failure, herr⟩ := Sample.reachable_spoiled.exists_bulkGrade_error hpoints
    (Sample.teacher 5) hx (List.mem_cons_self ..)
  refine ⟨Sample.reachable_spoiled, hpoints, Sample.checkGrade_spoiled, ?_⟩
  rcases Sample.reachable_spoiled.bulkGrade_stopped hpoints (Sample.teacher 5) (by decide)
    Sample.checkGrade_spoiled (Prod.ext herr rfl) with
    ⟨hempty, -⟩ | ⟨front, entry, rest, cause, e₁, hentries, rfl, hstop, -⟩
  · cases hempty
  · rcases front with _ | ⟨x, _ | ⟨y, others⟩⟩
    · -- the batch does not stop at the essay
      obtain ⟨rfl, -⟩ := List.cons.inj hentries
      obtain ⟨⟨graded, -, hgiven⟩, -, row, hrow, hfault⟩ := hstop
      obtain rfl : Sample.spoiled = e₁ := (Prod.mk.inj hgiven).2
      have hid := Sample.reachable_spoiled.sound.id_of_findAnswer hrow
      rw [Sample.gradeFault?_spoiled hid] at hfault
      cases hfault
    · obtain ⟨rfl, hrest⟩ := List.cons.inj hentries
      obtain ⟨rfl, -⟩ := List.cons.inj hrest
      exact ⟨cause, _, Prod.ext herr rfl⟩
    · simp at hentries

/-- The batch without entries is refused, although there is no entry to stop at and none that its
check would refuse. -/
theorem Engine.bulkGrade_empty :
    Sample.submitted.Reachable ∧ Sample.submitted.store.HasSafePoints ∧
    (([] : List GradeEntry).map (·.answerId)).Nodup ∧
    (∀ x ∈ ([] : List GradeEntry), ∃ checked, Sample.submitted.store.checkGrade
      (Sample.teacher 5).caller x.answerId x.grade = .ok checked) ∧
    (∃ failure, (Sample.submitted.perform (Sample.teacher 5) (.bulkGrade [])).1 = .error failure) ∧
    ¬∃ (front : List GradeEntry) (entry : GradeEntry) (rest : List GradeEntry),
      [] = front ++ entry :: rest := by
  refine ⟨Sample.reachable_submitted, Sample.hasSafePoints_submitted, List.nodup_nil,
    List.forall_mem_nil _, ⟨_, congrArg Prod.fst (perform_bulkGrade_nil _ _)⟩, ?_⟩
  rintro ⟨front, entry, rest, hentries⟩
  exact List.append_ne_nil_of_right_ne_nil front (List.cons_ne_nil entry rest) hentries.symm

end QuizEngine
