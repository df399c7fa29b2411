import QuizEngine.Proofs.Changes
import QuizEngine.Proofs.Run

/-!
# What was handed in

A call writes to the attempts that it addresses, and whether it succeeds or fails it leaves
every other attempt with its answers as it is. No answer is removed or moved, and its content
is that of the last recorded answer to its question, which its student gave while the attempt
was in progress (`Step.changesOnly`, over `ChangesOnly` for each write).

All this is true of any catalog. Authors may edit it between two calls
(`Engine.LeadsToEdited`), so that the question of an answer is not where it was, and the writes
of a call are not those of a sound store. What is left of that is used here, `Store.Placed`.
-/

namespace QuizEngine

namespace Store

variable {touched : Uuid → Prop} {handedIn : Uuid → Int → Prop} {s t : Store} {ctx : Context}

/-! ## Answers of one attempt -/

/-- Where the answer is and what was handed in, when it is an answer of the attempt. -/
def handedIn? (s : Store) (attemptId answerId : Uuid) :
    Option ((Uuid × Uuid × Int × Instant) × Payload × Instant × Option Int) :=
  ((s.findAnswer answerId).filter (·.attemptId == attemptId)).map fun row => (row.place, row.content)

/-- Where nothing is handed in, what was handed in stays. -/
theorem ChangesOnly.handedIn?_eq (h : ChangesOnly touched handedIn s t) {attemptId : Uuid}
    (hnot : ∀ questionId, ¬handedIn attemptId questionId) (answerId : Uuid) :
    t.handedIn? attemptId answerId = s.handedIn? attemptId answerId := by
  unfold handedIn?
  cases hrow : s.findAnswer answerId with
  | none =>
    cases hlater : t.findAnswer answerId with
    | none => rfl
    | some later =>
      have hne : later.attemptId ≠ attemptId := by
        rintro rfl
        exact hnot _ (h.added _ later hrow hlater)
      simp [Option.filter, hne]
  | some row =>
    obtain ⟨later, hlater, hplace, hcontent⟩ := h.kept _ row hrow
    obtain ⟨-, hatt, -, -⟩ := Answer.place_eq_iff.1 hplace
    rw [hlater]
    by_cases hid : row.attemptId = attemptId
    · have hsame : later.content = row.content := hcontent.resolve_right (hid ▸ hnot _)
      simp [Option.filter, hatt, hid, hplace, hsame]
    · simp [Option.filter, hatt, hid]

/-! ## Submitting -/

/-- Judging answers again writes grades onto them. -/
theorem changesOnly_regrade (questions : List Question) (now : Instant) :
    ∀ (rows : List Answer) {s : Store}, s.Placed →
      (∀ a ∈ rows, s.KeepsAnswer a ∧ touched a.attemptId) →
      ChangesOnly touched handedIn s (regrade questions now s rows).2
  | [], _, h, _ => .refl h
  | a :: rest, s, h, hrows => by
    rcases regrade_cons_cases questions now s a rest with ⟨cause, he⟩ | ⟨b, t, hj, hrest⟩
    · rw [he]
      exact .refl h
    · rw [List.forall_mem_cons] at hrows
      obtain ⟨⟨⟨row, hrow, hatt, -⟩, htouched⟩, hothers⟩ := hrows
      have hfirst : ChangesOnly touched handedIn s t := by
        cases hj with
        | keep _ => exact .refl h
        | write _ _ isStored =>
          obtain rfl := Option.some.inj (hrow.symm.trans isStored)
          obtain hid := h.id_of_findAnswer hrow
          exact .putAnswer_withGradeOf h (hid ▸ hrow) (hatt ▸ htouched) _
      have ih := changesOnly_regrade questions now rest hfirst.placed fun c hc =>
        (hothers c hc).imp_left hfirst.keepsAnswer
      rcases hrest with ⟨cause, v, he, heq⟩ | ⟨judged, v, hr, heq⟩
      · rw [he] at ih
        rw [heq]
        exact hfirst.trans ih
      · rw [hr] at ih
        rw [heq]
        exact hfirst.trans ih

theorem changesOnly_closeAttempt (h : s.Placed) {attempt : Attempt} (hid : touched attempt.id)
    (now : Instant) (snapshot : Snapshot) :
    ChangesOnly touched handedIn s (s.closeAttempt now attempt snapshot).2 := by
  rcases s.closeAttempt_cases now attempt snapshot with ⟨_, _, he, hw⟩ | ⟨_, score, -, -, hok⟩
  · rw [he]
    exact changesOnly_of_aside hw h
  · rw [hok]
    exact .putAttempt h hid (Or.inr score.status_ne_inProgress)

theorem changesOnly_submitAttempt (h : s.Placed) {attemptId : Uuid} (hid : touched attemptId)
    (ctx : Context) : ChangesOnly touched handedIn s (s.submitAttempt ctx attemptId).2 := by
  cases hopen : s.openAttempt ctx.caller attemptId with
  | error cause =>
    simp only [submitAttempt, hopen, bind, Except.bind]
    exact .refl h
  | ok attempt =>
    obtain ⟨ha, -, -⟩ := openAttempt_eq_ok_iff.1 hopen
    obtain rfl := h.id_of_findAttempt ha
    cases hload : Snapshot.load s attempt with
    | error cause =>
      simp only [submitAttempt, hopen, hload, bind, Except.bind]
      exact .refl h
    | ok snapshot =>
      obtain ⟨quiz, -, rfl⟩ := Snapshot.load_eq_ok_iff.1 hload
      have hjudged : ChangesOnly touched handedIn s
          (regrade (s.listQuestions attempt.quizId) ctx.now s (s.listAnswers attempt.id)).2 := by
        refine changesOnly_regrade _ _ _ h fun a ha => ?_
        obtain ⟨hstored, hatt⟩ := (h.mem_listAnswers _ a).1 ha
        exact ⟨⟨a, hstored, rfl, rfl, rfl⟩, hatt ▸ hid⟩
      rw [submitAttempt_of_load hopen hload, submitLoaded]
      split
      · split
        · rename_i hr
          rw [hr] at hjudged
          exact hjudged
        · rename_i hr
          rw [hr] at hjudged
          exact hjudged.trans (changesOnly_closeAttempt hjudged.placed hid _ _)
      · exact changesOnly_closeAttempt h hid _ _

/-! ## Grading -/

theorem changesOnly_commitGrade (h : s.Placed) {answer : Answer} (hkept : s.KeepsAnswer answer)
    (hid : touched answer.attemptId) :
    ChangesOnly touched handedIn s (s.commitGrade ctx answer).2 := by
  rcases s.commitGrade_cases ctx answer with
    ⟨_, _, he, hw⟩ | ⟨attempt, _, score, stored, hatt, -, -, hstored, hok⟩
  · rw [he]
    exact changesOnly_of_aside hw h
  · rw [hok]
    obtain ⟨found, hfound, hplace, -⟩ := hkept
    obtain rfl := Option.some.inj (hstored.symm.trans hfound)
    have hsid := h.id_of_findAnswer hstored
    have hput : ChangesOnly touched handedIn s (s.putAnswer (stored.withGradeOf answer)) :=
      .putAnswer_withGradeOf h (hsid ▸ hstored) (hplace ▸ hid) answer
    exact hput.trans (.putAttempt hput.placed (h.id_of_findAttempt hatt ▸ hid)
      (Or.inr score.status_ne_inProgress))

theorem changesOnly_commitRetrying {answer : Answer} (hid : touched answer.attemptId) :
    ∀ (retries : Nat) {s : Store}, s.Placed → s.KeepsAnswer answer →
      ChangesOnly touched handedIn s (commitRetrying ctx answer retries s).2
  | 0, _, h, hkept => changesOnly_commitGrade h hkept hid
  | retries + 1, s, h, hkept => by
    have hfirst : ChangesOnly touched handedIn s (s.commitGrade ctx answer).2 :=
      changesOnly_commitGrade h hkept hid
    unfold commitRetrying
    split
    · rename_i hconflict
      rw [hconflict] at hfirst
      exact hfirst.trans (changesOnly_commitRetrying hid retries hfirst.placed (hfirst.keepsAnswer hkept))
    · exact hfirst

theorem changesOnly_applyGrade (h : s.Placed) {checked : CheckedGrade}
    (hkept : s.KeepsAnswer checked.answer) (hid : touched checked.answer.attemptId) :
    ChangesOnly touched handedIn s (s.applyGrade ctx checked).2 := by
  have hrow : s.KeepsAnswer (checked.row ctx) := hkept
  have htouched : touched (checked.row ctx).attemptId := hid
  exact changesOnly_commitRetrying htouched maxConflicts h hrow

theorem changesOnly_applyBatch :
    ∀ (grades : List CheckedGrade) (applied : List Answer) {s : Store}, s.Placed →
      (∀ c ∈ grades, s.KeepsAnswer c.answer ∧ touched c.answer.attemptId) →
      ChangesOnly touched handedIn s (applyBatch ctx applied grades s).2
  | [], _, _, h, _ => .refl h
  | c :: rest, applied, s, h, hall => by
    rw [List.forall_mem_cons] at hall
    obtain ⟨⟨hkept, hid⟩, hothers⟩ := hall
    have hfirst : ChangesOnly touched handedIn s (s.applyGrade ctx c).2 :=
      changesOnly_applyGrade h hkept hid
    unfold applyBatch
    split
    · rename_i hok
      rw [hok] at hfirst
      exact hfirst.trans (changesOnly_applyBatch rest _ hfirst.placed fun d hd =>
        (hothers d hd).imp_left hfirst.keepsAnswer)
    · rename_i herr
      rw [herr] at hfirst
      exact hfirst
    · rename_i herr
      rw [herr] at hfirst
      exact hfirst

/-- The grades of a batch were checked on the answers that it names. -/
theorem checkGrade_of_checkBatch {caller : Caller} {entries : List GradeEntry}
    {grades : List CheckedGrade} (hb : s.checkBatch caller entries = .ok grades) {c : CheckedGrade}
    (hc : c ∈ grades) : ∃ x ∈ entries, s.checkGrade caller x.answerId x.grade = .ok c := by
  unfold checkBatch at hb
  split at hb
  · cases hb
  · simp only at hb
    split at hb
    · obtain rfl := Except.ok.inj hb
      obtain ⟨pair, hpair, hcheck⟩ := List.mem_filterMap.1 hc
      obtain ⟨x, hx, rfl⟩ := List.mem_map.1 hpair
      refine ⟨x, List.mem_of_mem_filter hx, ?_⟩
      cases hg : s.checkGrade caller x.answerId x.grade with
      | error cause => simp [hg, checkedGrade?] at hcheck
      | ok checked => simpa [hg, checkedGrade?] using hcheck
    · cases hb

end Store

/-! ## Calls and events -/

/-- The attempts that a call addresses: the one it names, those whose answers it names, or the
one it starts. -/
def Call.addresses (s : Store) (ctx : Context) : Call → Uuid → Prop
  | .start _ _, id => id = ctx.fresh
  | .record attemptId _ _ _, id => id = attemptId
  | .submit attemptId, id => id = attemptId
  | .abandon attemptId, id => id = attemptId
  | .grade answerId _, id => ∃ row, s.findAnswer answerId = some row ∧ row.attemptId = id
  | .bulkGrade entries, id =>
    ∃ x ∈ entries, ∃ row, s.findAnswer x.answerId = some row ∧ row.attemptId = id
  | .result _, _ => False
  | .review _, _ => False
  | .summary _, _ => False
  | .history _ _, _ => False
  | .pending _, _ => False
  | .statistics _, _ => False

/-- The attempts that an event addresses. -/
def Event.addresses (s : Store) : Event → Uuid → Prop
  | .call ctx asked _, id => asked.addresses s ctx id
  | .refresh, _ => False
  | .dropWorker, _ => False
  | .failGradeWrites _, _ => False
  | .forceConflicts _ _, _ => False

/-- The student of the attempt records an answer to the question while it is in progress. -/
def Event.handsIn (s : Store) : Event → Uuid → Int → Prop
  | .call ctx (.record attemptId questionId _ _) (.ok _), a, q => a = attemptId ∧ q = questionId ∧
    ∃ attempt, s.findAttempt attemptId = some attempt ∧ attempt.studentId = ctx.caller.userId ∧
      attempt.status = .inProgress
  | _, _, _ => False

open Store in
/-- A recorded answer is handed in, or nothing happens. -/
theorem Engine.changesOnly_record {e : Engine} {ctx : Context} (h : e.store.Placed)
    (hf : e.store.IsFresh ctx.fresh) (attemptId : Uuid) (questionId : Int) (raw : Json)
    (seconds : Option Int) :
    ChangesOnly (· = attemptId)
      ((Event.call ctx (.record attemptId questionId raw seconds)
        (e.perform ctx (.record attemptId questionId raw seconds)).1).handsIn e.store)
      e.store (e.perform ctx (.record attemptId questionId raw seconds)).2.store := by
  rcases recordAnswer_cases hf attemptId questionId raw seconds with
    ⟨_, he⟩ | ⟨_, _, _, row, _, t, hrec, hrow, hin, hjudged, hok⟩
  · simp only [perform, ofOutcome, withStore, he]
    exact .refl h
  · obtain ⟨attempt, ha, hs, hp, -⟩ := recordable_eq_ok_iff.1 hrec
    have hplaced : (e.store.putAnswer row).Placed := by
      rw [hrow]
      exact h.putAnswer fun b => h.id_upsertedAnswer _
    simp only [perform, ofOutcome, withStore, hok]
    refine .trans (hin.changesOnly h ?_ ?_) (hjudged.changesOnly hplaced ?_ ?_)
    · rintro _ ⟨⟩
      rfl
    · rintro _ _ ⟨⟩
      exact ⟨rfl, rfl, attempt, ha, hs, hp⟩
    · rintro _ _ rfl ⟨⟩
      rfl
    · rintro _ _ ⟨⟩

open Store in
/-- Whatever happens to an engine, only the attempts that are addressed change, and contents of
answers only where one is handed in. -/
theorem Engine.Step.changesOnly {e e' : Engine} {event : Event} (h : e.Step event e')
    (hk : e.store.Placed) :
    ChangesOnly (event.addresses e.store) (event.handsIn e.store) e.store e'.store := by
  cases h with
  | call ctx asked isFresh =>
    cases asked with
    | start quizId client =>
      exact (writes_startAttempt isFresh quizId client).changesOnly hk
        (by rintro _ _ rfl ⟨⟩; rfl) (by rintro _ _ ⟨⟩)
    | record attemptId questionId raw seconds =>
      exact changesOnly_record hk isFresh attemptId questionId raw seconds
    | submit attemptId =>
      have hsubmit : ChangesOnly (· = attemptId) (fun _ _ => False) e.store
          (e.store.submitAttempt ctx attemptId).2 := by
        refine changesOnly_submitAttempt hk ?_ ctx
        rfl
      simp only [perform, submit]
      split
      · rename_i heq
        rw [heq] at hsubmit
        exact hsubmit
      · rename_i heq
        rw [heq] at hsubmit
        exact hsubmit
    | abandon attemptId =>
      rcases e.store.abandonAttempt_cases ctx attemptId with ⟨_, t, he, hw⟩ | ⟨_, t, hok, hw⟩
      · simp only [perform, ofOutcome, withStore, he]
        exact changesOnly_of_aside hw hk
      · simp only [perform, ofOutcome, withStore, hok]
        exact hw.changesOnly hk (by rintro _ ⟨⟩; rfl) (by rintro _ _ ⟨⟩)
    | grade answerId grade =>
      simp only [perform, ofOutcome, withStore, gradeAnswer]
      cases hc : e.store.checkGrade ctx.caller answerId grade with
      | error cause => exact .refl hk
      | ok checked =>
        obtain ⟨_, hans, -⟩ := checkGrade_eq_ok_iff.1 hc
        obtain rfl := hk.id_of_findAnswer hans
        exact changesOnly_applyGrade hk ⟨_, hans, rfl, rfl, rfl⟩ ⟨_, hans, rfl⟩
    | bulkGrade entries =>
      simp only [perform, ofOutcome, withStore, bulkGrade]
      cases hb : e.store.checkBatch ctx.caller entries with
      | error cause => exact .refl hk
      | ok grades =>
        refine changesOnly_applyBatch grades [] hk fun c hc => ?_
        obtain ⟨x, hx, hcheck⟩ := checkGrade_of_checkBatch hb hc
        obtain ⟨_, hans, -⟩ := checkGrade_eq_ok_iff.1 hcheck
        refine ⟨⟨c.answer, ?_, rfl, rfl, rfl⟩, x, hx, _, hans, rfl⟩
        rw [hk.id_of_findAnswer hans]
        exact hans
    | result attemptId => exact .refl hk
    | review attemptId => exact .refl hk
    | summary attemptId => exact .refl hk
    | history quizId studentId => exact .refl hk
    | pending quizId => exact .refl hk
    | statistics quizId => exact .refl hk
  | refresh _ isRefreshed =>
    exact changesOnly_of_aside (.single rfl (writes_refresh isRefreshed)) hk
  | overflow _ _ => exact .refl hk
  | dropWorker => exact .refl hk
  | failGradeWrites answerId => exact changesOnly_of_aside (.single rfl .aside) hk
  | forceConflicts attemptId times => exact changesOnly_of_aside (.single rfl .aside) hk

/-! ## Runs with edits -/

/-- An author edits the catalog. -/
inductive Store.Edits (s : Store) : Store → Prop where
  | insertQuiz (quiz : Quiz) : s.Edits (s.insertQuiz quiz)
  | insertQuestion (question : Question) : s.Edits (s.insertQuestion question)
  | setOwner (quizId ownerId : Int) : s.Edits (s.setOwner quizId ownerId)

theorem Store.Edits.changesOnly {s t : Store} (h : s.Edits t) (hk : s.Placed) :
    ChangesOnly (fun _ => False) (fun _ _ => False) s t := by
  cases h with
  | insertQuiz quiz => exact .of_eq { hk with quizzes := hk.quizzes.insert rfl } rfl rfl
  | insertQuestion question => exact .of_eq { hk with questions := hk.questions.insert rfl } rfl rfl
  | setOwner quizId ownerId => exact .of_eq { hk with } rfl rfl

namespace Engine

/-- Something happens to the engine, or an author edits its catalog. -/
inductive Moves (e : Engine) : Engine → Prop where
  | event {event : Event} {e' : Engine} (step : e.Step event e') : e.Moves e'
  | edit {s : Store} (edits : e.store.Edits s) : e.Moves (e.withStore s)

/-- Some run leads from one engine to the other, in which authors may edit the catalog at any
time. -/
def LeadsToEdited : Engine → Engine → Prop := Relation.ReflTransGen Moves

variable {e₀ e e' : Engine} {trace : List Event} {event : Event}

theorem Run.leadsToEdited (h : e.Run trace e') : e.LeadsToEdited e' := by
  induction h with
  | nil => exact .refl
  | snoc _ step ih => exact ih.tail (.event step)

theorem Moves.placed (h : e.Moves e') (hk : e.store.Placed) : e'.store.Placed := by
  cases h with
  | event step => exact (step.changesOnly hk).placed
  | edit edits => exact (edits.changesOnly hk).placed

theorem LeadsToEdited.placed (h : e.LeadsToEdited e') (hk : e.store.Placed) : e'.store.Placed := by
  induction h with
  | refl => exact hk
  | tail _ hmove ih => exact hmove.placed ih

/-- Once an attempt is closed, what was handed in stays. -/
theorem Moves.handedIn?_eq (h : e.Moves e') (hk : e.store.Placed) {id : Uuid} {attempt : Attempt}
    (ha : e.store.findAttempt id = some attempt) (hclosed : attempt.status ≠ .inProgress) :
    (∀ answerId, e'.store.handedIn? id answerId = e.store.handedIn? id answerId) ∧
      ∃ later, e'.store.findAttempt id = some later ∧ later.status ≠ .inProgress := by
  cases h with
  | @event event _ step =>
    have hchanges := step.changesOnly hk
    refine ⟨hchanges.handedIn?_eq fun questionId hin => ?_, hchanges.closed id attempt ha hclosed⟩
    unfold Event.handsIn at hin
    split at hin
    · obtain ⟨rfl, -, found, hfound, -, hp⟩ := hin
      obtain rfl := Option.some.inj (ha.symm.trans hfound)
      exact hclosed hp
    · exact hin
  | edit edits =>
    have hchanges := edits.changesOnly hk
    exact ⟨hchanges.handedIn?_eq fun _ hin => hin, hchanges.closed id attempt ha hclosed⟩

theorem LeadsToEdited.handedIn?_eq (h : e.LeadsToEdited e') (hk : e.store.Placed) {id : Uuid}
    {attempt : Attempt} (ha : e.store.findAttempt id = some attempt)
    (hclosed : attempt.status ≠ .inProgress) (answerId : Uuid) :
    e'.store.handedIn? id answerId = e.store.handedIn? id answerId := by
  have hboth : (∀ answerId, e'.store.handedIn? id answerId = e.store.handedIn? id answerId) ∧
      ∃ later, e'.store.findAttempt id = some later ∧ later.status ≠ .inProgress := by
    induction h with
    | refl => exact ⟨fun _ => rfl, attempt, ha, hclosed⟩
    | tail hbefore hmove ih =>
      obtain ⟨hsame, later, hlater, hst⟩ := ih
      obtain ⟨hnext, hlast⟩ := hmove.handedIn?_eq (LeadsToEdited.placed hbefore hk) hlater hst
      exact ⟨fun answerId => (hnext answerId).trans (hsame answerId), hlast⟩
  exact hboth.1 answerId

/-- Whatever happens in a run, also in one in which the catalog is edited: attempts that are
not addressed stay with their answers as they are, no answer is removed or moved, its content
changes only when the student of the attempt records an answer to its question while the
attempt is in progress, and from the moment an attempt is closed what was handed in stays. -/
theorem LeadsToEdited.frame_of_step (hi : e₀.IsInitial) (hr : e₀.LeadsToEdited e)
    (h : e.Step event e') :
    (∀ id, ¬event.addresses e.store id → e.store.SameAttempt e'.store id) ∧
    (∀ id row, e.store.findAnswer id = some row → ∃ later, e'.store.findAnswer id = some later ∧
      later.place = row.place ∧
      (later.content = row.content ∨ event.handsIn e.store row.attemptId row.questionId)) ∧
    ∀ id attempt, e'.store.findAttempt id = some attempt → attempt.status ≠ .inProgress →
      ∀ e'', e'.LeadsToEdited e'' → ∀ answerId,
        e''.store.handedIn? id answerId = e'.store.handedIn? id answerId := by
  have hk := hr.placed (Store.Authored.sound hi).placed
  have hchanges := h.changesOnly hk
  exact ⟨hchanges.sameAttempt, hchanges.kept, fun id attempt ha hclosed e'' hlater =>
    hlater.handedIn?_eq hchanges.placed ha hclosed⟩

/-- The essay of the sample run is submitted as it was recorded, and stays so whatever comes
after it. -/
theorem frame_of_step_submitted :
    ∃ event, Sample.answered.Step event Sample.submitted ∧
      (∃ row later, Sample.answered.store.findAnswer (Sample.uuid 3) = some row ∧
        Sample.submitted.store.findAnswer (Sample.uuid 3) = some later ∧
        later.content = row.content) ∧
      ∀ e, Sample.submitted.LeadsToEdited e → e.store.handedIn? (Sample.uuid 1) (Sample.uuid 3) =
        some ((Sample.uuid 3, Sample.uuid 1, 2, .epoch), .essay "It adds.", .epoch, none) := by
  obtain ⟨trace, hr⟩ := Sample.exists_run_answered
  have hstep := Step.call (e := Sample.answered) (Sample.student 4) (.submit (Sample.uuid 1))
    (by decide +kernel)
  obtain ⟨-, hkept, hstays⟩ := hr.leadsToEdited.frame_of_step Sample.isInitial_initial hstep
  have hrow : Sample.answered.store.findAnswer (Sample.uuid 3) =
      some (.ungraded (Sample.uuid 3) (Sample.uuid 1) 2 (.essay "It adds.") none .epoch) := by
    decide +kernel
  obtain ⟨later, hlater, -, hcontent⟩ := hkept _ _ hrow
  refine ⟨_, hstep, ⟨_, later, hrow, hlater, hcontent.resolve_right id⟩, fun e he => ?_⟩
  have hclosed : Sample.closed.status ≠ .inProgress := by decide
  refine (hstays _ _ Sample.findAttempt_submitted hclosed e he _).trans ?_
  show Sample.submitted.store.handedIn? _ _ = _
  rw [Sample.store_submitted]
  decide +kernel

end Engine

end QuizEngine
