import QuizEngine.Proofs.Batches
import QuizEngine.Proofs.Progress
import QuizEngine.Proofs.Statistics

/-!
# Statistics and what they are computed from

A submission that succeeds asks for a refresh of its quiz, and nothing else does. Where no
request is lost (`Engine.LosslessRun`), each event leaves a quiz alone, asks for its refresh or
refreshes it (`Step.trichotomy`). So when no request waits, every quiz with a submitted
attempt was refreshed after its last submission, and its statistics are those of the answers
counted at that refresh (`Engine.LosslessRun.reflects`).

The same answers are counted still, with the same contents; but people may have graded them
since, and that asks for no refresh. The statistics are those of the answers as they are now
where no grade was accepted since, and they need not be otherwise
(`Engine.stale_after_grade`).
-/

namespace QuizEngine

/-- The columns of an answer that no grade writes. -/
def Answer.ungradedColumns (row : Answer) :
    (Uuid × Uuid × Int × Instant) × (Payload × Instant × Option Int) :=
  (row.place, row.content)

namespace Store

variable {s t u : Store} {quizId : Int} {id : Uuid}

/-! ## Answers that count -/

/-- The attempt is a submitted one at the quiz. -/
def Finished (s : Store) (quizId : Int) (id : Uuid) : Prop :=
  ∃ attempt, s.findAttempt id = some attempt ∧ attempt.quizId = quizId ∧
    attempt.status.isGradeable = true

/-- Whether an answer counts for the statistics of the question. -/
def isCounted (s : Store) (quizId questionId : Int) (a : Answer) : Bool :=
  a.questionId == questionId &&
    ((s.attempts.values.filter fun attempt =>
      attempt.quizId == quizId && attempt.status.isGradeable).map (·.id)).contains a.attemptId

theorem countedAnswers_eq (s : Store) (quizId questionId : Int) :
    s.countedAnswers quizId questionId = s.answers.values.filter (s.isCounted quizId questionId) :=
  rfl

theorem Keyed.isCounted_iff (h : s.Keyed) (quizId questionId : Int) (a : Answer) :
    s.isCounted quizId questionId a = true ↔
      a.questionId = questionId ∧ s.Finished quizId a.attemptId := by
  rw [isCounted, Bool.and_eq_true, beq_iff_eq, List.contains_iff_mem, List.mem_map]
  refine and_congr_right fun _ => ⟨?_, ?_⟩
  · rintro ⟨attempt, hmem, hid⟩
    rw [List.mem_filter, h.mem_attempts_iff, hid, Bool.and_eq_true, beq_iff_eq] at hmem
    exact ⟨attempt, hmem⟩
  · rintro ⟨attempt, ha, hquiz, hg⟩
    have hid := h.id_of_findAttempt ha
    refine ⟨attempt, ?_, hid⟩
    rw [List.mem_filter, h.mem_attempts_iff, hid, Bool.and_eq_true, beq_iff_eq]
    exact ⟨ha, hquiz, hg⟩

theorem Keyed.mem_countedAnswers (h : s.Keyed) (quizId questionId : Int) (a : Answer) :
    a ∈ s.countedAnswers quizId questionId ↔
      s.findAnswer a.id = some a ∧ a.questionId = questionId ∧ s.Finished quizId a.attemptId := by
  rw [countedAnswers_eq, List.mem_filter, h.mem_answers_iff, h.isCounted_iff]

/-- In both stores the same attempts at the quiz are submitted, and their answers are the same
but for grades. -/
structure SameCounted (s t : Store) (quizId : Int) : Prop where
  finished : ∀ id, t.Finished quizId id ↔ s.Finished quizId id
  columns : ∀ questionId, (t.countedAnswers quizId questionId).map (·.ungradedColumns) =
    (s.countedAnswers quizId questionId).map (·.ungradedColumns)

theorem SameCounted.trans (h : s.SameCounted t quizId) (h' : t.SameCounted u quizId) :
    s.SameCounted u quizId where
  finished id := (h'.finished id).trans (h.finished id)
  columns questionId := (h'.columns questionId).trans (h.columns questionId)

theorem SameRows.countedAnswers_eq (h : s.SameRows t) (quizId questionId : Int) :
    t.countedAnswers quizId questionId = s.countedAnswers quizId questionId := by
  simp only [countedAnswers, h.attempts, h.answers]

theorem SameRows.sameCounted (h : s.SameRows t) (quizId : Int) : s.SameCounted t quizId where
  finished id := by simp only [Finished, h.findAttempt_eq]
  columns questionId := by rw [h.countedAnswers_eq]

/-- Where the same attempts are submitted, the same places count. -/
theorem Keyed.isCounted_eq (h : s.Keyed) (h' : t.Keyed)
    (hfinished : ∀ id, t.Finished quizId id ↔ s.Finished quizId id) (questionId : Int) :
    t.isCounted quizId questionId = s.isCounted quizId questionId := by
  funext a
  rw [Bool.eq_iff_iff, h'.isCounted_iff, h.isCounted_iff, hfinished]

/-- Only a submission at the quiz adds a submitted attempt to it. -/
theorem Writes.finished_iff {w : Write} (hw : s.Writes w t) (h : s.Sound)
    (hother : ∀ id attempt, w = .submit id → s.findAttempt id = some attempt →
      attempt.quizId ≠ quizId) (id : Uuid) :
    t.Finished quizId id ↔ s.Finished quizId id := by
  by_cases hid : w.attempt? = some id
  · have hgrade : ∀ answerId, w = .grade id answerId →
        (t.Finished quizId id ↔ s.Finished quizId id) := by
      rintro answerId rfl
      obtain ⟨_, attempt, _, score, _, ha, hg, -, -, -, -, ha'⟩ := hw.grade_spec h
      simp only [Finished, ha, ha', Option.some.injEq, exists_eq_left']
      exact and_congr_right fun _ => ⟨fun _ => hg, fun _ => score.isGradeable_status⟩
    constructor
    · rintro ⟨attempt, ha, hquiz, hg⟩
      rcases hw.of_isGradeable_after h ha hg with hne | rfl | ⟨answerId, hw'⟩
      · exact absurd hid hne
      · cases hw with
        | submit isOpen _ _ _ isNext =>
          obtain ⟨hold, -, -⟩ := openAttempt_eq_ok_iff.1 isOpen
          obtain ⟨-, rfl⟩ := Attempt.submitted_eq_ok_iff.1 isNext
          obtain rfl := h.id_of_findAttempt hold
          obtain rfl := Option.some.inj ((findAttempt_putAttempt_self _ _).symm.trans ha)
          exact (hother _ _ rfl hold hquiz).elim
      · exact (hgrade answerId hw').1 ⟨attempt, ha, hquiz, hg⟩
    · rintro ⟨attempt, ha, hquiz, hg⟩
      rcases hw.of_isGradeable ha hg with hne | ⟨answerId, hw'⟩
      · exact absurd hid hne
      · exact (hgrade answerId hw').2 ⟨attempt, ha, hquiz, hg⟩
  · simp only [Finished, (hw.sameAttempt h hid).findAttempt_eq]

/-- An answer of an attempt in progress does not count, and writing it leaves those that do as
they are. -/
theorem Sound.filter_isCounted_putAnswer (h : s.Sound) {row : Answer} {attempt : Attempt}
    (ha : s.findAttempt row.attemptId = some attempt) (hp : attempt.status = .inProgress)
    (hold : ∀ old, s.findAnswer row.id = some old → old.attemptId = row.attemptId)
    (questionId : Int) :
    (s.putAnswer row).answers.values.filter (s.isCounted quizId questionId) =
      s.countedAnswers quizId questionId := by
  have hnot : ∀ a : Answer, a.attemptId = row.attemptId →
      s.isCounted quizId questionId a = false := by
    intro a hatt
    rw [Bool.eq_false_iff, Ne, h.isCounted_iff, hatt]
    rintro ⟨-, found, hfound, -, hg⟩
    obtain rfl := Option.some.inj (ha.symm.trans hfound)
    rw [hp] at hg
    cases hg
  exact h.filter_putAnswer (hnot row rfl) fun old hfound => hnot old (hold old hfound)

/-- A write that is no submission at the quiz leaves what counts for it as it is, but for
grades. -/
theorem Writes.sameCounted {w : Write} (hw : s.Writes w t) (h : s.Sound)
    (hother : ∀ id attempt, w = .submit id → s.findAttempt id = some attempt →
      attempt.quizId ≠ quizId) : s.SameCounted t quizId := by
  have hfinished : ∀ id, t.Finished quizId id ↔ s.Finished quizId id := hw.finished_iff h hother
  refine ⟨hfinished, fun questionId => ?_⟩
  rw [countedAnswers_eq t, h.isCounted_eq (hw.keyed h.toKeyed) hfinished]
  cases hw with
  | start _ _ _ => rfl
  | handIn isFresh isRecordable =>
    obtain ⟨attempt, ha, -, hp, -⟩ := recordable_eq_ok_iff.1 isRecordable
    rw [h.filter_isCounted_putAnswer ((s.attemptId_upsertedAnswer _).symm ▸ ha) hp]
    intro old hold
    exact (h.place_upsertedAnswer isFresh.2 hold).1.symm
  | @judge row attempt _ question correct now isStored ofAttempt inProgress _ _ _ _ =>
    have hrow : s.findAttempt (row.withVerdict question correct now).attemptId = some attempt :=
      ofAttempt
    rw [h.filter_isCounted_putAnswer hrow inProgress]
    intro old hold
    obtain rfl := Option.some.inj (hold.symm.trans isStored)
    rfl
  | submit _ _ _ _ _ => rfl
  | abandon _ => rfl
  | @grade ctx _ _ checked _ _ _ isChecked _ _ _ =>
    obtain ⟨-, hans, -⟩ := checkGrade_eq_ok_iff.1 isChecked
    obtain rfl := h.id_of_findAnswer hans
    have hold : s.findAnswer (checked.row ctx).id = some checked.answer := hans
    exact h.map_filter_putAnswer hold rfl rfl
  | aside => rfl

theorem WritesOnly.sameCounted {p : Write → Prop} (hw : WritesOnly p s t) (h : s.Sound)
    (hp : ∀ id, ¬p (.submit id)) (quizId : Int) : s.SameCounted t quizId := by
  refine hw.keeps_of_sound (P := fun u => s.SameCounted u quizId) h (fun hpw hsound hstep ih => ?_)
    ((SameRows.refl s).sameCounted quizId)
  refine ih.trans (hstep.sameCounted hsound ?_)
  rintro id _ rfl
  exact absurd hpw (hp id)

/-- Where the submitted attempts at a quiz are as they were, with their answers, the answers
that count are. -/
theorem SameCounted.countedAnswers_eq (hsame : s.SameCounted t quizId) (h : s.Keyed) (h' : t.Keyed)
    (hall : ∀ id, s.Finished quizId id → s.SameAttempt t id) (questionId : Int) :
    t.countedAnswers quizId questionId = s.countedAnswers quizId questionId := by
  have hcolumns := hsame.columns questionId
  have hlength := congrArg List.length hcolumns
  rw [List.length_map, List.length_map] at hlength
  refine List.ext_getElem hlength fun i hi hi' => ?_
  have hplace := congrArg (·[i]?) hcolumns
  simp only [List.getElem?_map, List.getElem?_eq_getElem hi, List.getElem?_eq_getElem hi',
    Option.map_some, Option.some.injEq, Answer.ungradedColumns, Prod.mk.injEq,
    Answer.place_eq_iff] at hplace
  obtain ⟨⟨hid, -⟩, -⟩ := hplace
  obtain ⟨hfound, -⟩ := (h'.mem_countedAnswers _ _ _).1 (List.getElem_mem hi)
  obtain ⟨hfound', -, hfin⟩ := (h.mem_countedAnswers _ _ _).1 (List.getElem_mem hi')
  have hkept : (s.countedAnswers quizId questionId)[i] ∈
      t.listAnswers (s.countedAnswers quizId questionId)[i].attemptId := by
    rw [(hall _ hfin).listAnswers_eq, h.mem_listAnswers]
    exact ⟨hfound', rfl⟩
  obtain ⟨hthere, -⟩ := (h'.mem_listAnswers _ _).1 hkept
  rw [hid] at hfound
  exact Option.some.inj (hfound.symm.trans hthere)

/-- Which answers are counted is all that statistics are computed from. -/
theorem Reflects.of_countedAnswers_eq (h : u.Reflects s quizId) (hcat : s.SameCatalog t)
    (hcounted : ∀ questionId, t.countedAnswers quizId questionId =
      s.countedAnswers quizId questionId) : u.Reflects t quizId where
  ascending := h.ascending
  covers questionId := by simpa only [hcat.findQuestion_eq] using h.covers questionId
  computed row hrow := by
    rw [hcounted]
    exact h.computed row hrow

theorem Authored.statistics_eq (h : s.Authored) : s.statistics = .empty := by
  induction h with
  | empty => rfl
  | insertQuiz _ _ ih => exact ih
  | insertQuestion _ _ ih => exact ih
  | setOwner _ _ _ ih => exact ih

/-- The rows that are kept are all that there is to statistics. -/
theorem Reflects.of_listStatistics_eq (h : t.Reflects s quizId)
    (hlist : u.listStatistics quizId = t.listStatistics quizId) : u.Reflects s quizId := by
  obtain ⟨hascending, hcovers, hcomputed⟩ := h
  rw [← hlist] at hascending hcomputed
  refine ⟨hascending, fun questionId => ?_, hcomputed⟩
  rw [hlist]
  exact hcovers questionId

end Store

/-! ## Runs that lose no request -/

/-- No request for a refresh is lost in the event: one that is made is taken, none overflows,
which would end the worker, and the worker does not end otherwise while one waits. -/
def Event.Lossless (e e' : Engine) : Event → Prop
  | .call _ (.submit _) (.ok _) => e.queue.accepts = true
  | .refresh => e'.queue.hasWorker = true
  | .dropWorker => e.queue.waiting = []
  | _ => True

namespace Engine

/-- A run in which no request for a refresh is lost. -/
inductive LosslessRun (e : Engine) : List Event → Engine → Prop where
  | nil : LosslessRun e [] e
  | snoc {trace : List Event} {event : Event} {e₁ e₂ : Engine} (before : LosslessRun e trace e₁)
      (step : e₁.Step event e₂) (lossless : event.Lossless e₁ e₂) :
      LosslessRun e (trace ++ [event]) e₂

variable {e e' e'' e₀ : Engine} {trace trace' : List Event} {event : Event} {quizId : Int} {id : Uuid}

theorem LosslessRun.run (h : e.LosslessRun trace e') : e.Run trace e' := by
  induction h with
  | nil => exact .nil
  | snoc _ step _ ih => exact ih.snoc step

/-- Statistics stand under their quiz and their question in every reachable state. -/
theorem Step.statisticsKeyed (h : e.Step event e') (hs : e.store.Sound)
    (hk : e.store.StatisticsKeyed) : e'.store.StatisticsKeyed := by
  cases h with
  | call ctx asked _ =>
    rw [Store.StatisticsKeyed, (e.puts_perform ctx asked).statistics_eq]
    exact hk
  | refresh _ isRefreshed => exact (Store.refreshStatistics_spec hs.toKeyed hk isRefreshed).1
  | overflow _ _ => exact hk
  | dropWorker => exact hk
  | failGradeWrites _ => exact hk
  | forceConflicts _ _ => exact hk

theorem Run.statisticsKeyed (h : e.Run trace e') (hs : e.store.Sound)
    (hk : e.store.StatisticsKeyed) : e'.store.StatisticsKeyed := by
  induction h with
  | nil => exact hk
  | snoc before step ih => exact step.statisticsKeyed (before.sound hs) ih

theorem IsInitial.statisticsKeyed (h : e.IsInitial) : e.store.StatisticsKeyed := by
  rw [Store.StatisticsKeyed, Store.Authored.statistics_eq h]
  exact .empty _

theorem Reachable.statisticsKeyed (h : e.Reachable) : e.store.StatisticsKeyed := by
  obtain ⟨e₀, trace, hi, hr⟩ := h
  exact hr.statisticsKeyed (Store.Authored.sound hi) hi.statisticsKeyed

/-! ## What an event does to the statistics of a quiz -/

/-- The quiz waits for a refresh still, and its statistics and what counts for them are as they
were, but for grades. -/
structure LeavesAlone (quizId : Int) (e e' : Engine) : Prop where
  waiting : quizId ∈ e.queue.waiting → quizId ∈ e'.queue.waiting
  statistics : e'.store.listStatistics quizId = e.store.listStatistics quizId
  counted : e.store.SameCounted e'.store quizId

theorem mem_enqueue {q : RefreshQueue} {other : Int} (h : quizId ∈ q.waiting) :
    quizId ∈ (q.enqueue other).2.waiting := by
  unfold RefreshQueue.enqueue
  split
  · exact List.mem_append_left _ h
  · exact h

theorem mem_enqueue_self {q : RefreshQueue} (h : q.accepts = true) :
    quizId ∈ (q.enqueue quizId).2.waiting := by
  rw [RefreshQueue.enqueue, if_pos h]
  exact List.mem_append_right _ (List.mem_singleton_self _)

/-- What was next is taken from those that wait. -/
theorem waiting_of_next? {q rest : RefreshQueue} (h : q.next? = some (quizId, rest)) :
    q.waiting = quizId :: rest.waiting := by
  unfold RefreshQueue.next? at h
  split at h
  · rename_i first others _ hwaiting
    obtain ⟨rfl, rfl⟩ := Prod.mk.inj (Option.some.inj h)
    exact hwaiting
  · cases h

/-- A submission that succeeds asks for a refresh of its quiz and leaves the others alone. -/
theorem submit_cases {ctx : Context} (hs : e.store.Sound) (quizId : Int) :
    LeavesAlone quizId e (e.submit ctx id).2 ∨
      ∃ result, (e.submit ctx id).1 = .ok result ∧
        (e.queue.accepts = true → quizId ∈ (e.submit ctx id).2.queue.waiting) := by
  have hputs := e.store.puts_submitAttempt ctx id
  rcases Store.submitAttempt_cases hs ctx id with ⟨cause, t, he, hw⟩ | ⟨result, t, u, hok, hw, hsub⟩
  · left
    rw [he] at hputs
    simp only [submit, he]
    exact ⟨fun h => h, hputs.listStatistics_eq quizId, hw.sameCounted hs (by simp) quizId⟩
  · rw [hok] at hputs
    simp only [submit, hok]
    obtain ⟨attempt, quiz, score, hopen, hresult⟩ := Store.submitAttempt_attempt hok
    obtain ⟨ha, -, -⟩ := Store.openAttempt_eq_ok_iff.1 hopen
    have hquiz : result.attempt.quizId = attempt.quizId := by
      rw [hresult]
      rfl
    rw [hquiz]
    by_cases heq : attempt.quizId = quizId
    · subst heq
      exact Or.inr ⟨result, rfl, mem_enqueue_self⟩
    · refine Or.inl ⟨mem_enqueue, hputs.listStatistics_eq quizId, ?_⟩
      have hkept : t.findAttempt id = some attempt := by
        rw [Store.findAttempt, hw.attempts_eq (by rintro _ rfl; rfl)]
        exact ha
      refine (hw.sameCounted hs (by simp) quizId).trans (hsub.sameCounted (hw.sound hs) ?_)
      rintro other stored hother hstored
      obtain rfl := Write.submit.inj hother
      obtain rfl := Option.some.inj (hkept.symm.trans hstored)
      exact heq

/-- An event that loses no request leaves a quiz alone, asks for its refresh or refreshes it. -/
theorem Step.trichotomy (h : e.Step event e') (hl : event.Lossless e e') (hs : e.store.Sound)
    (hk : e.store.StatisticsKeyed) (quizId : Int) :
    LeavesAlone quizId e e' ∨ quizId ∈ e'.queue.waiting ∨
      (event = .refresh ∧ e'.store.Reflects e.store quizId ∧ e.store.SameRows e'.store) := by
  cases h with
  | call ctx asked isFresh =>
    have hother : (e.perform ctx asked).2.queue = e.queue →
        (∀ id, ¬asked.permits ctx (.submit id)) → LeavesAlone quizId e (e.perform ctx asked).2 := by
      intro hqueue hpermits
      refine ⟨fun hmem => hqueue ▸ hmem, (e.puts_perform ctx asked).listStatistics_eq quizId, ?_⟩
      exact (writes_perform hs isFresh asked).sameCounted hs hpermits quizId
    cases asked with
    | submit a =>
      rcases submit_cases hs quizId with hleaves | ⟨result, hok, hmem⟩
      · exact Or.inl hleaves
      · have haccepts : e.queue.accepts = true := by
          simpa only [perform, hok, Except.map, Event.Lossless] using hl
        exact Or.inr (Or.inl (hmem haccepts))
    | _ => exact Or.inl (hother rfl (by simp [Call.permits]))
  | @refresh next queue s isNext isRefreshed =>
    have hsame := Store.sameRows_of_refreshStatistics isRefreshed
    obtain ⟨-, hreflects, hothers⟩ := Store.refreshStatistics_spec hs.toKeyed hk isRefreshed
    by_cases heq : next = quizId
    · subst heq
      exact Or.inr (Or.inr ⟨rfl, hreflects, hsame⟩)
    · refine Or.inl ⟨fun hmem => ?_, hothers quizId (Ne.symm heq), hsame.sameCounted quizId⟩
      rw [waiting_of_next? isNext] at hmem
      exact (List.mem_cons.1 hmem).resolve_left (Ne.symm heq)
  | overflow _ _ => cases hl
  | dropWorker =>
    refine Or.inl ⟨fun hmem => ?_, rfl, (Store.SameRows.refl _).sameCounted quizId⟩
    have hempty : e.queue.waiting = [] := hl
    rw [hempty] at hmem
    cases hmem
  | failGradeWrites a =>
    have hsame : e.store.SameRows (e.store.failGradeWrites a) := ⟨⟨rfl, rfl, rfl⟩, rfl, rfl⟩
    exact Or.inl ⟨fun h => h, rfl, hsame.sameCounted quizId⟩
  | forceConflicts a times =>
    have hsame : e.store.SameRows (e.store.forceConflicts a times) := ⟨⟨rfl, rfl, rfl⟩, rfl, rfl⟩
    exact Or.inl ⟨fun h => h, rfl, hsame.sameCounted quizId⟩

/-! ## The last refresh of a quiz -/

/-- The run refreshed the quiz, which led to `e₂`, and in what came after only grades have
changed what counts for it. The statistics are still those computed then. -/
structure RefreshedAt (e₀ : Engine) (trace : List Event) (e : Engine) (quizId : Int)
    (after : List Event) (e₂ : Engine) : Prop where
  split : ∃ before e₁, trace = before ++ .refresh :: after ∧ e₀.Run before e₁ ∧ e₁.Step .refresh e₂
  run : e₂.Run after e
  reflects : e.store.Reflects e₂.store quizId
  counted : e₂.store.SameCounted e.store quizId

namespace RefreshedAt

variable {after : List Event} {e₂ : Engine}

theorem snoc (h : RefreshedAt e₀ trace e quizId after e₂) (step : e.Step event e')
    (hl : LeavesAlone quizId e e') :
    RefreshedAt e₀ (trace ++ [event]) e' quizId (after ++ [event]) e₂ where
  split := by
    obtain ⟨before, e₁, rfl, hbefore, hrefresh⟩ := h.split
    exact ⟨before, e₁, by simp, hbefore, hrefresh⟩
  run := h.run.snoc step
  reflects := h.reflects.of_listStatistics_eq hl.statistics
  counted := h.counted.trans hl.counted

theorem reachable (h : RefreshedAt e₀ trace e quizId after e₂) (hi : e₀.IsInitial) :
    e₂.Reachable := by
  obtain ⟨before, e₁, -, hbefore, hrefresh⟩ := h.split
  exact ⟨e₀, _, hi, hbefore.snoc hrefresh⟩

end RefreshedAt

/-- A quiz waits for its refresh, has no submitted attempt, or was refreshed since its last
submission. -/
theorem LosslessRun.refreshed (h : e₀.LosslessRun trace e) (hi : e₀.IsInitial) (quizId : Int) :
    quizId ∈ e.queue.waiting ∨ (∀ id, ¬e.store.Finished quizId id) ∨
      ∃ after e₂, RefreshedAt e₀ trace e quizId after e₂ := by
  induction h with
  | nil =>
    refine Or.inr (Or.inl ?_)
    rintro id ⟨attempt, ha, -⟩
    rw [Store.Authored.findAttempt_eq hi] at ha
    cases ha
  | @snoc trace event e e' before step lossless ih =>
    have hs := before.run.sound (Store.Authored.sound hi)
    have hk := before.run.statisticsKeyed (Store.Authored.sound hi) hi.statisticsKeyed
    rcases step.trichotomy lossless hs hk quizId with hleaves | hwaits | ⟨rfl, hreflects, hsame⟩
    · rcases ih with hwaits | hnone | ⟨after, e₂, hrefreshed⟩
      · exact Or.inl (hleaves.waiting hwaits)
      · exact Or.inr (Or.inl fun id hfin => hnone id ((hleaves.counted.finished id).1 hfin))
      · exact Or.inr (Or.inr ⟨_, e₂, hrefreshed.snoc step hleaves⟩)
    · exact Or.inl hwaits
    · refine Or.inr (Or.inr ⟨[], e', ⟨trace, e, rfl, before.run, step⟩, .nil, ?_, ?_⟩)
      · exact hreflects.of_countedAnswers_eq hsame.toSameCatalog (hsame.countedAnswers_eq quizId)
      · exact (Store.SameRows.refl _).sameCounted quizId

theorem RunAccepting.trans {n m : Nat} (h : e.RunAccepting id trace n e')
    (h' : e'.RunAccepting id trace' m e'') : e.RunAccepting id (trace ++ trace') (n + m) e'' := by
  induction h' with
  | nil => rwa [List.append_nil]
  | snoc _ step ih =>
    rw [← List.append_assoc, ← Nat.add_assoc]
    exact ih.snoc step

/-- A submitted attempt on whose answers no grade is accepted stays as it is, with its
answers. -/
theorem RunAccepting.sameAttempt (h : e.RunAccepting id trace 0 e') (hr : e.Reachable)
    (hfin : e.store.Finished quizId id) : e.store.SameAttempt e'.store id := by
  obtain ⟨attempt, ha, -, hg⟩ := hfin
  rcases h.run.same_or_newer hr.sound ha hg with hsame | ⟨later, hl, hlg, hlt⟩
  · exact hsame
  · -- a later version would be that of one grade more
    obtain ⟨e₀, trace₀, hi, hr₀⟩ := hr
    obtain ⟨n, hn⟩ := hr₀.exists_accepting id
    have hbefore := (Store.counts_of_some ha).1 (hn.counts hi)
    have hafter := (Store.counts_of_some hl).1 ((hn.trans h).counts hi)
    rw [Attempt.BecomesBy.hasVersion_of_gradeable hg] at hbefore
    rw [Attempt.BecomesBy.hasVersion_of_gradeable hlg] at hafter
    omega

/-- In a run that loses no request, when none waits, every quiz with a submitted attempt was
refreshed after its last submission, and its statistics are those of the answers counted then.
They are those of the answers counted now where no grade was accepted since. -/
theorem LosslessRun.reflects (h : e₀.LosslessRun trace e) (hi : e₀.IsInitial)
    (idle : e.queue.waiting = []) {attempt : Attempt} (ha : e.store.findAttempt id = some attempt)
    (hg : attempt.status.isGradeable = true) :
    ∃ after e₂, RefreshedAt e₀ trace e attempt.quizId after e₂ ∧
      ((∀ other, e₂.store.Finished attempt.quizId other → e₂.RunAccepting other after 0 e) →
        e.store.Reflects e.store attempt.quizId) := by
  rcases h.refreshed hi attempt.quizId with hwaits | hnone | ⟨after, e₂, hrefreshed⟩
  · rw [idle] at hwaits
    cases hwaits
  · exact absurd ⟨attempt, ha, rfl, hg⟩ (hnone id)
  · refine ⟨after, e₂, hrefreshed, fun hungraded => ?_⟩
    have hr := hrefreshed.reachable hi
    refine hrefreshed.reflects.of_countedAnswers_eq (hrefreshed.run.sameCatalog hr.sound) ?_
    refine hrefreshed.counted.countedAnswers_eq hr.sound.toKeyed
      (hrefreshed.run.sound hr.sound).toKeyed fun other hfin => ?_
    exact (hungraded other hfin).sameAttempt hr hfin

end Engine

namespace Store

variable {s t : Store}

theorem IsFaultless.of_refreshStatistics (h : s.IsFaultless) {quizId : Int}
    (hok : s.refreshStatistics quizId = .ok t) : t.IsFaultless where
  unwritableGrades :=
    (congrArg Store.unwritableGrades (eq_of_refreshStatistics hok)).trans h.unwritableGrades
  conflictsLeft id :=
    (congrArg (·.conflictsLeft id) (eq_of_refreshStatistics hok)).trans (h.conflictsLeft id)

/-- An answer that a person grades has a verdict then. -/
theorem Writes.exists_verdict {id answerId : Uuid} (hw : s.Writes (.grade id answerId) t)
    (h : s.Sound) : ∃ row correct, t.findAnswer answerId = some row ∧ row.isCorrect = some correct := by
  cases hw with
  | @grade ctx _ _ checked _ _ _ isChecked _ _ _ =>
    obtain ⟨-, hans, -⟩ := checkGrade_eq_ok_iff.1 isChecked
    obtain rfl := h.id_of_findAnswer hans
    exact ⟨checked.row ctx, _, findAnswer_putAnswer_self s (checked.row ctx), rfl⟩

end Store

namespace Sample

theorem queue_submitted : submitted.queue = { room := 1, waiting := [1] } := by
  simp only [submitted, Engine.perform, Engine.submit,
    Store.submitAttempt_of_load openAttempt_answered load_answered]
  rfl

/-- The sample run loses no request, and the worker then refreshes the quiz. -/
theorem exists_lossless_refreshed : ∃ trace s, submitted.store.refreshStatistics 1 = .ok s ∧
    initial.LosslessRun trace ⟨s, { room := 1 }⟩ := by
  have hstart := Engine.LosslessRun.nil.snoc
    (.call (e := initial) (student 1) (.start 1 {}) (by decide +kernel)) trivial
  have hchoice := hstart.snoc
    (.call (student 2) (.record (uuid 1) 1 choiceAnswer none) (by decide +kernel)) trivial
  have hessay := hchoice.snoc
    (.call (student 3) (.record (uuid 1) 2 essayAnswer none) (by decide +kernel)) trivial
  have haccepts : answered.queue.accepts = true := by decide +kernel
  obtain ⟨result, hresult⟩ := exists_result_submitted
  have hsubmit := hessay.snoc
    (.call (e := answered) (student 4) (.submit (uuid 1)) (by decide +kernel)) (by
      rw [hresult]
      exact haccepts)
  have hok : (submitted.store.refreshStatistics 1).toBool = true := by
    rw [store_submitted]
    decide +kernel
  cases hr : submitted.store.refreshStatistics 1 with
  | error cause =>
    rw [hr] at hok
    cases hok
  | ok s =>
    have hnext : submitted.queue.next? = some (1, { room := 1 }) := by
      rw [queue_submitted]
      rfl
    exact ⟨_, s, rfl, hsubmit.snoc (.refresh hnext hr) rfl⟩

/-- After the refresh the essay can be graded, which leaves the statistics as they are. -/
theorem exists_graded_refreshed {s : Store} (hr : Engine.Reachable ⟨s, { room := 1 }⟩)
    (hrefreshed : submitted.store.refreshStatistics 1 = .ok s) :
    ∃ outcome u, Engine.Step ⟨s, { room := 1 }⟩
        (.call (teacher 5) (.grade essayEntry.answerId essayEntry.grade) outcome) ⟨u, { room := 1 }⟩ ∧
      u.listStatistics 1 = s.listStatistics 1 ∧ s.SameCounted u 1 ∧
      ∃ row correct, u.findAnswer (uuid 3) = some row ∧ row.isCorrect = some correct := by
  have hsame := Store.sameRows_of_refreshStatistics hrefreshed
  have hready := hr.isReady (hasSafePoints_submitted.of_sameCatalog hsame.toSameCatalog)
    (isFaultless_submitted.of_refreshStatistics hrefreshed)
  obtain ⟨checked, hcheck⟩ : ∃ checked,
      s.checkGrade (teacher 5).caller essayEntry.answerId essayEntry.grade = .ok checked :=
    ⟨_, (Store.checkGrade_eq_of_sameRows hsame _ _ _).trans checkGrade_essayEntry⟩
  obtain ⟨u, hgraded, -⟩ := hready.exists_graded hcheck
  have hputs := s.puts_gradeAnswer (teacher 5) essayEntry.answerId essayEntry.grade
  rw [hgraded] at hputs
  have hfresh : submitted.store.IsFresh (uuid 5) := by
    rw [store_submitted]
    decide +kernel
  have hstep := Engine.Step.call (e := ⟨s, { room := 1 }⟩) (teacher 5)
    (.grade essayEntry.answerId essayEntry.grade)
    ⟨(hsame.findAttempt_eq _).trans hfresh.1, (hsame.findAnswer_eq _).trans hfresh.2⟩
  have hcall : (Engine.perform ⟨s, { room := 1 }⟩ (teacher 5)
      (.grade essayEntry.answerId essayEntry.grade)).2 = ⟨u, { room := 1 }⟩ := by
    simp only [Engine.perform, Engine.ofOutcome, Engine.withStore, hgraded]
  rcases Store.gradeAnswer_cases hready.sound (teacher 5) essayEntry.answerId essayEntry.grade with
    ⟨_, _, herr, -⟩ | ⟨_, t, v, -, hok, hw, hg⟩
  · rw [hgraded] at herr
    cases herr
  · obtain ⟨-, rfl⟩ := Prod.mk.inj (hgraded.symm.trans hok)
    have hsound := hw.sound hready.sound
    exact ⟨_, u, hcall ▸ hstep, hputs.listStatistics_eq 1,
      (hw.sameCounted hready.sound (by simp) 1).trans (hg.sameCounted hsound (by simp)),
      hg.exists_verdict hsound⟩

end Sample

/-- After the refresh of the sample run the quiz has the statistics of its answers. -/
theorem Engine.reflects_refreshed : ∃ trace e, Sample.initial.LosslessRun trace e ∧
    Sample.initial.IsInitial ∧ e.queue.waiting = [] ∧
    e.store.findAttempt (Sample.uuid 1) = some Sample.closed ∧
    Sample.closed.status.isGradeable = true ∧
    ∃ after e₂, RefreshedAt Sample.initial trace e 1 after e₂ := by
  obtain ⟨trace, s, hrefreshed, hrun⟩ := Sample.exists_lossless_refreshed
  have hfound : s.findAttempt (Sample.uuid 1) = some Sample.closed :=
    ((Store.sameRows_of_refreshStatistics hrefreshed).findAttempt_eq _).trans
      Sample.findAttempt_submitted
  obtain ⟨after, e₂, hat, -⟩ := hrun.reflects Sample.isInitial_initial rfl hfound rfl
  exact ⟨trace, _, hrun, Sample.isInitial_initial, rfl, hfound, rfl, after, e₂, hat⟩

open Store in
/-- The essay of the sample run is graded after the refresh: no request was lost, none waits,
and the statistics of the essay are not those of its answers. -/
theorem Engine.stale_after_grade : ∃ trace e, Sample.initial.IsInitial ∧
    Sample.initial.LosslessRun trace e ∧ e.queue.waiting = [] ∧ e.store.Finished 1 (Sample.uuid 1) ∧
    ∃ row ∈ e.store.listStatistics 1,
      QuestionStatistics.compute 1 row.questionId (e.store.countedAnswers 1 row.questionId) ≠ .ok row := by
  obtain ⟨trace, s, hrefreshed, hrun⟩ := Sample.exists_lossless_refreshed
  have hsame := sameRows_of_refreshStatistics hrefreshed
  have hr : Reachable ⟨s, { room := 1 }⟩ := ⟨_, _, Sample.isInitial_initial, hrun.run⟩
  obtain ⟨outcome, u, hstep, hlist, hcounted, graded, correct, hgraded, hverdict⟩ :=
    Sample.exists_graded_refreshed hr hrefreshed
  have hlater := hrun.snoc hstep trivial
  have hfin : u.Finished 1 (Sample.uuid 1) := (hcounted.finished _).2
    ⟨Sample.closed, (hsame.findAttempt_eq _).trans Sample.findAttempt_submitted, rfl, rfl⟩
  -- the statistics of the essay were computed when it had no verdict
  have hreflects := (refreshStatistics_spec Sample.reachable_submitted.sound.toKeyed
    Sample.reachable_submitted.statisticsKeyed hrefreshed).2.1
  have hessay : (2 : Int) ∈ (s.listStatistics 1).map (·.questionId) := by
    refine (hreflects.covers 2).2 ⟨Sample.essay, ?_, rfl⟩
    rw [Sample.store_submitted]
    decide +kernel
  obtain ⟨row, hrow, hquestion⟩ := List.mem_map.1 hessay
  have hcomputed := hreflects.computed row hrow
  have hungraded : ∀ a ∈ Sample.submitted.store.countedAnswers 1 2, a.isCorrect = none := by
    rw [Sample.store_submitted]
    decide +kernel
  -- now it counts with its verdict
  have hold : s.findAnswer (Sample.uuid 3) =
      some (.ungraded (Sample.uuid 3) (Sample.uuid 1) 2 (.essay "It adds.") none .epoch) := by
    rw [hsame.findAnswer_eq, Sample.store_submitted]
    decide +kernel
  obtain ⟨kept, hkept, hatt, hq, -⟩ := (Run.nil.snoc hstep).keepsAnswer hr.sound hold
  obtain rfl := Option.some.inj (hgraded.symm.trans hkept)
  have hkeyed : u.Keyed := (hr.run (Run.nil.snoc hstep)).sound.toKeyed
  have hcounts : graded ∈ u.countedAnswers 1 2 := by
    rw [hkeyed.mem_countedAnswers, hkeyed.id_of_findAnswer hgraded, hatt]
    exact ⟨hgraded, hq, hfin⟩
  refine ⟨_, _, Sample.isInitial_initial, hlater, rfl, hfin, row, hlist ▸ hrow, ?_⟩
  rw [hquestion] at hcomputed ⊢
  exact QuestionStatistics.compute_ne_of_verdict hcomputed hungraded hcounts hverdict

end QuizEngine
