import QuizEngine.Proofs.Turns

/-!
# Runs of an engine

An engine starts with what authors have made and without attempts (`Engine.IsInitial`).
Then users make calls, one after the other, at any time and by anyone; between them the
worker takes requests or ends, and writes are made to fail (`Engine.Step`). A `Run` keeps
the list of what happened, newest last, with what came of each call. The catalog is not
edited in a run, and the identifier that a call draws is not in use.

Every event is made of writes (`Step.writes`). So what every write to a sound store keeps
holds in every reachable state (`Reachable.keeps`).
-/

namespace QuizEngine

/-! ## What authors make -/

/-- Stores that authors have made. -/
inductive Store.Authored : Store → Prop where
  | empty : Authored {}
  | insertQuiz {s : Store} (h : s.Authored) (quiz : Quiz) : Authored (s.insertQuiz quiz)
  | insertQuestion {s : Store} (h : s.Authored) (question : Question) :
      Authored (s.insertQuestion question)
  | setOwner {s : Store} (h : s.Authored) (quizId ownerId : Int) :
      Authored (s.setOwner quizId ownerId)

namespace Store.Authored

variable {s : Store}

theorem attempts_eq (h : s.Authored) : s.attempts = .empty := by
  induction h with
  | empty => rfl
  | insertQuiz _ _ ih => exact ih
  | insertQuestion _ _ ih => exact ih
  | setOwner _ _ _ ih => exact ih

theorem answers_eq (h : s.Authored) : s.answers = .empty := by
  induction h with
  | empty => rfl
  | insertQuiz _ _ ih => exact ih
  | insertQuestion _ _ ih => exact ih
  | setOwner _ _ _ ih => exact ih

theorem findAttempt_eq (h : s.Authored) (id : Uuid) : s.findAttempt id = none := by
  rw [findAttempt, h.attempts_eq, Table.find?_empty]

theorem findAnswer_eq (h : s.Authored) (id : Uuid) : s.findAnswer id = none := by
  rw [findAnswer, h.answers_eq, Table.find?_empty]

theorem keyed (h : s.Authored) : s.Keyed := by
  induction h with
  | empty => exact ⟨.empty _, .empty _, .empty _, .empty _⟩
  | insertQuiz _ quiz ih => exact { ih with quizzes := ih.quizzes.insert rfl }
  | insertQuestion _ question ih => exact { ih with questions := ih.questions.insert rfl }
  | setOwner _ _ _ ih => exact { ih with }

/-- Without attempts and answers nothing can fail to fit. -/
theorem sound (h : s.Authored) : s.Sound where
  toKeyed := h.keyed
  hasQuiz := by simp [h.findAttempt_eq]
  hasQuestion := by simp [h.findAnswer_eq]
  unique := by simp [h.findAnswer_eq]

end Store.Authored

/-! ## Every call -/

/-- The writes that a call may make. -/
def Call.permits (ctx : Context) : Call → Write → Prop
  | .start _ _, w => w = .start ctx.fresh
  | .record attemptId questionId _ _, w => w = .handIn attemptId questionId ∨ w = .judge attemptId
  | .submit attemptId, w => w = .judge attemptId ∨ w = .submit attemptId ∨ w = .aside
  | .abandon attemptId, w => w = .abandon attemptId ∨ w = .aside
  | .grade answerId _, w => w = .aside ∨ ∃ attemptId, w = .grade attemptId answerId
  | .bulkGrade entries, w => w = .aside ∨ ∃ e ∈ entries, ∃ attemptId, w = .grade attemptId e.answerId
  | .result _, _ => False
  | .review _, _ => False
  | .summary _, _ => False
  | .history _ _, _ => False
  | .pending _, _ => False
  | .statistics _, _ => False

open Store in
/-- A call makes the writes it may make, whether it succeeds or fails. -/
theorem Engine.writes_perform {e : Engine} {ctx : Context} (h : e.store.Sound)
    (hf : e.store.IsFresh ctx.fresh) (call : Call) :
    WritesOnly (call.permits ctx) e.store (e.perform ctx call).2.store := by
  cases call with
  | start quizId client => exact writes_startAttempt hf quizId client
  | record attemptId questionId raw seconds =>
    rcases recordAnswer_cases hf attemptId questionId raw seconds with
      ⟨_, he⟩ | ⟨_, _, _, _, _, t, _, _, hin, hjudged, hok⟩
    · simp only [perform, ofOutcome, withStore, he]
      exact .refl
    · simp only [perform, ofOutcome, withStore, hok]
      exact (hjudged.mono fun _ => Or.inr).head hin (Or.inl rfl)
  | submit attemptId =>
    rcases submitAttempt_cases h ctx attemptId with
      ⟨_, t, he, hw⟩ | ⟨_, t, u, hok, hw, hs⟩
    · simp only [perform, submit, withStore, he]
      exact hw.mono fun w hw => hw.imp_right Or.inr
    · simp only [perform, submit, hok]
      exact (hw.mono fun _ => Or.inl).trans (.single (Or.inr (Or.inl rfl)) hs)
  | abandon attemptId =>
    rcases e.store.abandonAttempt_cases ctx attemptId with ⟨_, t, he, hw⟩ | ⟨_, t, hok, hw⟩
    · simp only [perform, ofOutcome, withStore, he]
      exact hw.mono fun _ => Or.inr
    · simp only [perform, ofOutcome, withStore, hok]
      exact .single (Or.inl rfl) hw
  | grade answerId grade =>
    rcases gradeAnswer_cases h ctx answerId grade with ⟨_, t, he, hw⟩ | ⟨_, t, u, _, hok, hw, hg⟩
    · simp only [perform, ofOutcome, withStore, he]
      exact hw.mono fun _ => Or.inl
    · simp only [perform, ofOutcome, withStore, hok]
      exact (hw.mono fun _ => Or.inl).trans (.single (Or.inr ⟨_, rfl⟩) hg)
  | bulkGrade entries => exact writes_bulkGrade h ctx entries
  | result attemptId => exact .refl
  | review attemptId => exact .refl
  | summary attemptId => exact .refl
  | history quizId studentId => exact .refl
  | pending quizId => exact .refl
  | statistics quizId => exact .refl

/-! ## Events -/

/-- What happens to an engine. -/
inductive Event where
  /-- A call is made, and this comes of it. -/
  | call (ctx : Context) (asked : Call) (outcome : Except Failure Reply)
  /-- The worker takes the oldest request. -/
  | refresh
  /-- The worker ends. -/
  | dropWorker
  /-- Every later write of a grade to this answer is made to fail. -/
  | failGradeWrites (answerId : Uuid)
  /-- The next writes of this attempt are made to come too late. -/
  | forceConflicts (attemptId : Uuid) (times : Nat)

/-- The writes that an event may make. -/
def Event.permits : Event → Write → Prop
  | .call ctx asked _, w => asked.permits ctx w
  | .refresh, w => w = .aside
  | .dropWorker, w => w = .aside
  | .failGradeWrites _, w => w = .aside
  | .forceConflicts _ _, w => w = .aside

namespace Engine

/-- Before the first call there is what authors have made, and a queue. -/
def IsInitial (e : Engine) : Prop := e.store.Authored

/-- What an event makes of an engine. -/
inductive Step (e : Engine) : Event → Engine → Prop where
  | call (ctx : Context) (asked : Call) (isFresh : e.store.IsFresh ctx.fresh) :
      Step e (.call ctx asked (e.perform ctx asked).1) (e.perform ctx asked).2
  | refresh {quizId : Int} {queue : RefreshQueue} {s : Store}
      (isNext : e.queue.next? = some (quizId, queue))
      (isRefreshed : e.store.refreshStatistics quizId = .ok s) : Step e .refresh ⟨s, queue⟩
  | overflow {quizId : Int} {queue : RefreshQueue} {cause : Overflow}
      (isNext : e.queue.next? = some (quizId, queue))
      (hasOverflowed : e.store.refreshStatistics quizId = .error cause) :
      Step e .refresh ⟨e.store, queue.dropWorker⟩
  | dropWorker : Step e .dropWorker ⟨e.store, e.queue.dropWorker⟩
  | failGradeWrites (answerId : Uuid) :
      Step e (.failGradeWrites answerId) (e.withStore (e.store.failGradeWrites answerId))
  | forceConflicts (attemptId : Uuid) (times : Nat) :
      Step e (.forceConflicts attemptId times) (e.withStore (e.store.forceConflicts attemptId times))

/-- What a sequence of events makes of an engine. -/
inductive Run (e : Engine) : List Event → Engine → Prop where
  | nil : Run e [] e
  | snoc {trace : List Event} {event : Event} {e₁ e₂ : Engine} (before : Run e trace e₁)
      (step : e₁.Step event e₂) : Run e (trace ++ [event]) e₂

/-- Some run leads to the engine. -/
def Reachable (e : Engine) : Prop := ∃ e₀ trace, IsInitial e₀ ∧ Run e₀ trace e

/-- Some run leads from one engine to the other. -/
def LeadsTo (e e' : Engine) : Prop := ∃ trace, Run e trace e'

variable {e e' e'' : Engine} {trace trace' : List Event} {event : Event}

/-! ## Steps -/

theorem writes_refresh {s t : Store} {quizId : Int} (h : s.refreshStatistics quizId = .ok t) :
    s.Writes .aside t := by
  simp only [Store.refreshStatistics, bind_eq_ok_iff, pure, Except.pure, Except.ok.injEq] at h
  obtain ⟨rows, -, rfl⟩ := h
  exact .aside

/-- Every event makes the writes that it may make. -/
theorem Step.writes (h : e.Step event e') (hs : e.store.Sound) :
    Store.WritesOnly event.permits e.store e'.store := by
  cases h with
  | call _ asked isFresh => exact writes_perform hs isFresh asked
  | refresh _ isRefreshed => exact .single rfl (writes_refresh isRefreshed)
  | overflow _ _ => exact .refl
  | dropWorker => exact .refl
  | failGradeWrites => exact .single rfl .aside
  | forceConflicts => exact .single rfl .aside

theorem Step.sound (h : e.Step event e') (hs : e.store.Sound) : e'.store.Sound :=
  (h.writes hs).sound hs

/-- What came of a call is what the engine makes of it. -/
theorem Step.perform_eq {ctx : Context} {asked : Call} {outcome : Except Failure Reply}
    (h : e.Step (.call ctx asked outcome) e') : e.perform ctx asked = (outcome, e') := by
  generalize hevent : Event.call ctx asked outcome = event at h
  cases h with
  | call _ _ _ =>
    obtain ⟨rfl, rfl, rfl⟩ := Event.call.inj hevent
    rfl
  | refresh _ _ => cases hevent
  | overflow _ _ => cases hevent
  | dropWorker => cases hevent
  | failGradeWrites _ => cases hevent
  | forceConflicts _ _ => cases hevent

/-! ## Runs -/

theorem Run.trans (h : e.Run trace e') (h' : e'.Run trace' e'') : e.Run (trace ++ trace') e'' := by
  induction h' with
  | nil => rwa [List.append_nil]
  | snoc _ step ih => exact List.append_assoc .. ▸ ih.snoc step

/-- A run can be cut at each of its events. -/
theorem Run.exists_split (h : e.Run trace e') {front back : List Event}
    (htrace : trace = front ++ event :: back) :
    ∃ e₁ e₂, e.Run front e₁ ∧ e₁.Step event e₂ ∧ e₂.Run back e' := by
  induction h generalizing back with
  | nil => simp at htrace
  | snoc before step ih =>
    rcases List.eq_nil_or_concat back with rfl | ⟨others, last, rfl⟩
    · obtain ⟨rfl, hlast⟩ := List.append_inj' htrace rfl
      obtain rfl := List.singleton_inj.1 hlast
      exact ⟨_, _, before, step, .nil⟩
    · rw [List.concat_eq_append, ← List.cons_append, ← List.append_assoc] at htrace
      obtain ⟨hfront, hlast⟩ := List.append_inj' htrace rfl
      obtain rfl := List.singleton_inj.1 hlast
      obtain ⟨e₁, e₂, hbefore, hstep, hafter⟩ := ih hfront
      exact ⟨e₁, e₂, hbefore, hstep, List.concat_eq_append ▸ hafter.snoc step⟩

/-- What every event keeps, a run keeps. -/
theorem Run.keeps {P : Store → Prop} (h : e.Run trace e') (hs : e.store.Sound)
    (hP : ∀ {s t : Store} {w : Write}, s.Sound → s.Writes w t → P s → P t) (h0 : P e.store) :
    e'.store.Sound ∧ P e'.store := by
  induction h with
  | nil => exact ⟨hs, h0⟩
  | snoc _ step ih => exact ⟨step.sound ih.1, (step.writes ih.1).keeps_of_sound ih.1 (fun _ => hP) ih.2⟩

theorem Run.sound (h : e.Run trace e') (hs : e.store.Sound) : e'.store.Sound :=
  (h.keeps (P := fun _ => True) hs (fun _ _ _ => trivial) trivial).1

/-- No run edits the catalog. -/
theorem Run.sameCatalog (h : e.Run trace e') (hs : e.store.Sound) :
    e.store.SameCatalog e'.store :=
  (h.keeps hs (fun _ hw ih => ih.trans hw.sameCatalog) (.refl _)).2

theorem LeadsTo.refl (e : Engine) : e.LeadsTo e := ⟨[], .nil⟩

theorem LeadsTo.trans (h : e.LeadsTo e') (h' : e'.LeadsTo e'') : e.LeadsTo e'' := by
  obtain ⟨trace, hr⟩ := h
  obtain ⟨trace', hr'⟩ := h'
  exact ⟨trace ++ trace', hr.trans hr'⟩

theorem LeadsTo.sameCatalog (h : e.LeadsTo e') (hs : e.store.Sound) :
    e.store.SameCatalog e'.store := by
  obtain ⟨trace, hr⟩ := h
  exact hr.sameCatalog hs

/-! ## Reachable states -/

theorem IsInitial.reachable (h : e.IsInitial) : e.Reachable := ⟨e, [], h, .nil⟩

theorem Reachable.run (h : e.Reachable) (hr : e.Run trace e') : e'.Reachable := by
  obtain ⟨e₀, trace₀, h0, hr₀⟩ := h
  exact ⟨e₀, trace₀ ++ trace, h0, hr₀.trans hr⟩

theorem Reachable.leadsTo (h : e.Reachable) (hl : e.LeadsTo e') : e'.Reachable := by
  obtain ⟨trace, hr⟩ := hl
  exact h.run hr

/-- What every write to a sound store keeps holds in every reachable state, when it holds
before the first attempt. -/
theorem Reachable.keeps {P : Store → Prop} (h : e.Reachable) (h0 : ∀ s : Store, s.Authored → P s)
    (hP : ∀ {s t : Store} {w : Write}, s.Sound → s.Writes w t → P s → P t) : P e.store := by
  obtain ⟨e₀, trace, hi, hr⟩ := h
  exact (hr.keeps (Store.Authored.sound hi) hP (h0 _ hi)).2

theorem Reachable.sound (h : e.Reachable) : e.store.Sound := by
  obtain ⟨e₀, trace, hi, hr⟩ := h
  exact hr.sound (Store.Authored.sound hi)

end Engine

/-! ## A run that can be computed

One student answers a choice and an essay of one quiz and submits. -/

namespace Sample

/-- So many points over a power of ten. -/
def points (size scale : Nat) : Decimal := (Decimal.ofParts? false size scale).getD .zero

/-- A quiz that grades by rule. -/
def quiz : Quiz where
  id := 1
  contentId := 1
  title := "Vectors"
  totalPoints := points 5 0
  passingScore := none
  timeLimitMinutes := none
  availableFrom := none
  availableUntil := none
  maxAttempts := some 2
  autoGrade := true
  showResultsImmediately := true
  showCorrectAnswers := true
  allowReview := true
  showFeedback := true
  isPublished := true
  createdBy := 7

/-- A question with two options, for two points. -/
def choice : Question where
  id := 1
  quizId := 1
  type := .singleChoice
  text := "Is it a vector?"
  points := points 2 0
  orderIndex := 1
  options := [⟨1, 1, "yes", true, 1, none⟩, ⟨2, 1, "no", false, 2, none⟩]
  rules := []

/-- A question that a person grades, for three points. -/
def essay : Question where
  id := 2
  quizId := 1
  type := .essay
  text := "Why?"
  points := points 3 0
  orderIndex := 2
  options := []
  rules := []

theorem mod_lt_twoTo (n : Nat) : n % 256 < twoTo 128 :=
  Nat.lt_trans (Nat.mod_lt n (by decide)) (by decide)

def uuid (n : Nat) : Uuid := ⟨n % 256, mod_lt_twoTo n⟩

/-- A call of the student. -/
def student (fresh : Nat) : Context := ⟨⟨5, .student⟩, .epoch, uuid fresh⟩

/-- A call of the owner. -/
def teacher (fresh : Nat) : Context := ⟨⟨7, .teacher⟩, .epoch, uuid fresh⟩

def initial : Engine where
  store := ((({} : Store).insertQuiz quiz).insertQuestion choice).insertQuestion essay
  queue := { room := 1 }

def started : Engine := (initial.perform (student 1) (.start 1 {})).2

def choiceAnswer : Json := .object [("selected_option_id", .integer 1)]

def essayAnswer : Json := .object [("answer_text", .text "It adds.")]

def chosen : Engine := (started.perform (student 2) (.record (uuid 1) 1 choiceAnswer none)).2

def answered : Engine := (chosen.perform (student 3) (.record (uuid 1) 2 essayAnswer none)).2

def submitted : Engine := (answered.perform (student 4) (.submit (uuid 1))).2

theorem isInitial_initial : initial.IsInitial :=
  ((Store.Authored.empty.insertQuiz quiz).insertQuestion choice).insertQuestion essay

theorem exists_run_answered : ∃ trace, initial.Run trace answered := by
  have hstart := Engine.Run.nil.snoc (Engine.Step.call (e := initial) (student 1) (.start 1 {})
    (by decide +kernel))
  have hchoice := hstart.snoc (.call (student 2) (.record (uuid 1) 1 choiceAnswer none)
    (by decide +kernel))
  exact ⟨_, hchoice.snoc (.call (student 3) (.record (uuid 1) 2 essayAnswer none) (by decide +kernel))⟩

theorem reachable_answered : answered.Reachable := by
  obtain ⟨trace, hr⟩ := exists_run_answered
  exact ⟨initial, trace, isInitial_initial, hr⟩

theorem reachable_submitted : submitted.Reachable :=
  reachable_answered.run
    (Engine.Run.nil.snoc (.call (student 4) (.submit (uuid 1)) (by decide +kernel)))

/-- The attempt until it is submitted. -/
def attempt : Attempt := .start (uuid 1) 1 5 1 .epoch {}

/-- The answers that are submitted. -/
def answers : List Answer :=
  [(Answer.ungraded (uuid 2) (uuid 1) 1 (.singleChoice 1) none .epoch).withVerdict choice true .epoch,
    .ungraded (uuid 3) (uuid 1) 2 (.essay "It adds.") none .epoch]

theorem listQuestions_answered : answered.store.listQuestions 1 = [choice, essay] := by
  have hfilter : answered.store.questions.values.filter (·.quizId == 1) = [choice, essay] := by
    decide +kernel
  rw [Store.listQuestions, hfilter]
  exact List.mergeSort_of_pairwise (by decide)

theorem listAnswers_answered : answered.store.listAnswers (uuid 1) = answers := by
  have hfilter : answered.store.answers.values.filter (·.attemptId == uuid 1) = answers := by
    decide +kernel
  rw [Store.listAnswers, hfilter]
  exact List.mergeSort_of_pairwise (by decide)

theorem load_answered : Snapshot.load answered.store attempt = .ok ⟨quiz, [choice, essay], answers⟩ :=
  Snapshot.load_eq_ok_iff.2
    ⟨quiz, by decide +kernel, by rw [← listQuestions_answered, ← listAnswers_answered]; rfl⟩

/-- The score of the submission: the essay waits for its points. -/
def score : Score where
  totalPoints := points 5 0
  earnedPoints := points 2 0
  percentage := points 4000 2
  passed := false
  pendingCount := 1

/-- The attempt as it is submitted. -/
def closed : Attempt := Store.nextVersion (attempt.submittedWith quiz score .epoch)

theorem openAttempt_answered :
    answered.store.openAttempt (student 4).caller (uuid 1) = .ok attempt :=
  Store.openAttempt_eq_ok_iff.2 (by decide +kernel)

theorem store_submitted : submitted.store = answered.store.putAttempt closed := by
  simp only [submitted, Engine.perform, Engine.submit,
    Store.submitAttempt_of_load openAttempt_answered load_answered]
  rfl

/-- The submission succeeds. -/
theorem exists_result_submitted : ∃ result,
    answered.perform (student 4) (.submit (uuid 1)) = (.ok (.result result), submitted) := by
  have hok : (answered.store.submitAttempt (student 4) (uuid 1)).1.toBool = true := by
    rw [Store.submitAttempt_of_load openAttempt_answered load_answered]
    decide +kernel
  cases hr : answered.store.submitAttempt (student 4) (uuid 1) with
  | mk outcome t =>
    rw [hr] at hok
    cases outcome with
    | error cause => cases hok
    | ok result =>
      refine ⟨result, ?_⟩
      simp only [submitted, Engine.perform, Engine.submit, hr]
      rfl

theorem findAttempt_submitted : submitted.store.findAttempt (uuid 1) = some closed := by
  rw [store_submitted]
  exact Store.findAttempt_putAttempt_self _ closed

end Sample

end QuizEngine
