import QuizEngine.Proofs.Judging
import QuizEngine.Proofs.SafeScores
import QuizEngine.Proofs.Veils

/-!
# Stores that look the same

A store is `veiled` when the outcome of an attempt is taken out of its rows. Two stores that are
the same but for an outcome are read in the same way: a review, a summary and a history of one
look like those of the other (`looksSame_review`, `looksSame_summary`, `looksSame_history`).

A submission grades by rule again, and two stores have two keys for it. But what a rule decides
is part of the outcome, and whether it decides is not. So answers are graded alike in both stores
(`regrade_judgedAlike`), and submissions look the same as well (`looksSame_submitAttempt`).

A sum that overflows leaves nothing to compare. There is none where the points of the catalog are
safe (`IsSafe.not_overflows_submitAttempt`).
-/

namespace QuizEngine

/-! ## Stores without an outcome -/

namespace Store

/-- The store without keys of objective questions, without points and verdicts on objective
answers, and without what they add up to on the attempt. -/
def veiled (s : Store) (attemptId : Uuid) : Store :=
  { s with
    questions := s.questions.map (·.veiled)
    attempts := s.attempts.map (·.veiledFor attemptId)
    answers := s.answers.map (·.veiled) }

variable {s t : Store} {id : Uuid}

theorem findAttempt_veiled (s : Store) (id attemptId : Uuid) :
    (s.veiled id).findAttempt attemptId = (s.findAttempt attemptId).map (·.veiledFor id) :=
  s.attempts.find?_map _ attemptId

theorem listQuestions_veiled (s : Store) (id : Uuid) (quizId : Int) :
    (s.veiled id).listQuestions quizId = (s.listQuestions quizId).map (·.veiled) :=
  listQuestions_eq_map rfl (by simp) quizId

theorem listAnswers_veiled (s : Store) (id attemptId : Uuid) :
    (s.veiled id).listAnswers attemptId = (s.listAnswers attemptId).map (·.veiled) :=
  listAnswers_eq_map rfl (by simp) attemptId

theorem listStudentAttempts_veiled (s : Store) (id : Uuid) (quizId studentId : Int) :
    (s.veiled id).listStudentAttempts quizId studentId =
      (s.listStudentAttempts quizId studentId).map (·.veiledFor id) := by
  have hrows : (s.veiled id).attemptsOf quizId studentId =
      (s.attemptsOf quizId studentId).map (·.veiledFor id) := by
    rw [attemptsOf, veiled, Table.values_map, List.filter_map, attemptsOf]
    simp only [Function.comp_def, Attempt.quizId_veiledFor, Attempt.studentId_veiledFor]
  rw [listStudentAttempts, hrows, listStudentAttempts, List.map_mergeSort]
  simp

theorem load_veiled (s : Store) (id : Uuid) (attempt : Attempt) :
    Snapshot.load (s.veiled id) attempt = (Snapshot.load s attempt).map (·.veiled) := by
  have hsame : (s.veiled id).requireQuiz attempt.quizId = s.requireQuiz attempt.quizId := rfl
  rw [Snapshot.load, hsame, Snapshot.load]
  cases s.requireQuiz attempt.quizId with
  | error cause => rfl
  | ok quiz =>
    simp only [bind, Except.bind, pure, Except.pure, Except.map, Snapshot.veiled,
      listQuestions_veiled, listAnswers_veiled]

theorem requireAttempt_veiled (s : Store) (id attemptId : Uuid) :
    (s.veiled id).requireAttempt attemptId = (s.requireAttempt attemptId).map (·.veiledFor id) := by
  rw [requireAttempt, findAttempt_veiled, requireAttempt]
  cases s.findAttempt attemptId <;> rfl

theorem veiled_putAnswer (s : Store) (id : Uuid) (row : Answer) :
    (s.putAnswer row).veiled id = (s.veiled id).putAnswer row.veiled := by
  simp only [putAnswer, veiled, Table.map_insert, Answer.id_veiled]

/-- The answers of a snapshot are to its questions. -/
theorem Sound.fits_of_load (h : s.Sound) {attempt : Attempt} {snapshot : Snapshot}
    (hload : Snapshot.load s attempt = .ok snapshot) : snapshot.Fits := by
  obtain ⟨quiz, -, rfl⟩ := Snapshot.load_eq_ok_iff.1 hload
  intro q hq a ha hid
  obtain ⟨hfound, -⟩ := (h.mem_listQuestions _ _).1 hq
  obtain ⟨hstored, -⟩ := (h.mem_listAnswers _ _).1 ha
  obtain ⟨_, question, -, hquestion, -, hcheck⟩ := h.hasQuestion _ a hstored
  rw [hid, hfound] at hquestion
  rw [Option.some.inj hquestion]
  exact Payload.type_eq_of_check hcheck

/-! ## Reads -/

theorem looksSame_requireAttempt (h : s.veiled id = t.veiled id) (attemptId : Uuid) :
    LooksSame (Attempt.veiledFor id) (orRefused (s.requireAttempt attemptId))
      (orRefused (t.requireAttempt attemptId)) := by
  refine .orRefused ?_
  rw [← requireAttempt_veiled, h, requireAttempt_veiled]

theorem map_veiled_load (h : s.veiled id = t.veiled id) (attempt : Attempt) :
    (Snapshot.load s attempt).map (·.veiled) = (Snapshot.load t attempt).map (·.veiled) := by
  rw [← load_veiled s id, h, load_veiled]

/-- What is read of an attempt is read with its quiz. -/
theorem quiz_eq_of_load {attempt a : Attempt} {quiz : Quiz} {σ : Snapshot}
    (ha : s.findAttempt id = some attempt) (hquiz : s.findQuiz attempt.quizId = some quiz)
    (hfound : s.findAttempt id = some a) (hload : Snapshot.load s a = .ok σ) : σ.quiz = quiz := by
  obtain rfl : a = attempt := Option.some.inj (hfound.symm.trans ha)
  obtain ⟨_, hread, rfl⟩ := Snapshot.load_eq_ok_iff.1 hload
  exact Option.some.inj (hread.symm.trans hquiz)

/-- Two reviews of the attempt look the same, with the key where the quiz does not show it. -/
theorem looksSame_review (h : s.veiled id = t.veiled id) (hs : s.Sound) (ht : t.Sound)
    {attempt : Attempt} {quiz : Quiz} (ha : s.findAttempt id = some attempt)
    (hquiz : s.findQuiz attempt.quizId = some quiz) (caller : Caller) :
    LooksSame (AttemptReview.veiled quiz.showCorrectAnswers) (s.review caller id)
      (t.review caller id) := by
  refine (looksSame_requireAttempt h id).bind fun a b hread _ hab => ?_
  have hfound := requireAttempt_eq_ok_iff.1 (orRefused_eq_ok_iff.1 hread)
  have hveiled := Attempt.veiled_eq_of_veiledFor id hab
  obtain ⟨_, _, _, rfl⟩ := Attempt.exists_eq_of_veiled hveiled
  dsimp only
  split
  · exact .refused _
  · split
    · exact .refused _
    · refine (LooksSame.orRefused (map_veiled_load h a)).bind fun σ τ hσ hτ hστ => ?_
      have hfits : σ.Fits := hs.fits_of_load (orRefused_eq_ok_iff.1 hσ)
      have hfits' : τ.Fits := ht.fits_of_load (orRefused_eq_ok_iff.1 hτ)
      rw [← quiz_eq_of_load ha hquiz hfound (orRefused_eq_ok_iff.1 hσ),
        Snapshot.quiz_eq_of_veiled hστ]
      split
      · exact .refused _
      · refine (Snapshot.looksSame_score hστ).bind fun p p' _ _ hp => .ok ?_
        have hprovisional : p.provisional = p'.provisional := Score.provisional_eq_of_veiled hp
        simp only [AttemptReview.veiled, List.map_map, Function.comp_def, hveiled, hprovisional,
          hfits.map_view (ReviewItem.veiled_of τ.quiz), hfits'.map_view (ReviewItem.veiled_of τ.quiz),
          hστ]

/-- Two summaries of the attempt look the same. -/
theorem looksSame_summary (h : s.veiled id = t.veiled id) (caller : Caller) (now : Instant) :
    LooksSame AttemptSummary.veiled (s.summary caller now id) (t.summary caller now id) := by
  have howns : ∀ quizId, s.ownsQuiz quizId caller = t.ownsQuiz quizId caller :=
    fun quizId => congrArg (·.ownsQuiz quizId caller) h
  refine (looksSame_requireAttempt h id).bind fun a b _ _ hab => ?_
  have hveiled := Attempt.veiled_eq_of_veiledFor id hab
  obtain ⟨_, _, _, rfl⟩ := Attempt.exists_eq_of_veiled hveiled
  dsimp only
  rw [howns]
  split
  · exact .refused _
  · refine (LooksSame.orRefused (map_veiled_load h a)).bind fun σ τ _ _ hστ => ?_
    refine (Snapshot.looksSame_score hστ).bind fun p p' _ _ hp => .ok ?_
    have hview := AttemptSummary.veiled_of a σ p now
    rw [hveiled, hστ, hp, ← AttemptSummary.veiled_of] at hview
    exact hview

/-- Two histories look the same, up to the scores of the attempt. -/
theorem looksSame_history (h : s.veiled id = t.veiled id) (caller : Caller) (quizId : Int)
    (studentId : Option Int) :
    LooksSame (List.map (·.veiledFor id)) (s.history caller quizId studentId)
      (t.history caller quizId studentId) := by
  have hview : ∀ u : Store, (u.history caller quizId studentId).map (List.map (·.veiledFor id)) =
      (u.veiled id).history caller quizId studentId := by
    intro u
    have howner : (u.veiled id).ensureOwner quizId caller = u.ensureOwner quizId caller := rfl
    simp only [history, howner, listStudentAttempts_veiled]
    split
    · cases u.ensureOwner quizId caller <;> rfl
    · rfl
  refine .of_map_eq ?_
  rw [hview, h, hview]

/-- Where results are not released, the reason that there is none is one of three. -/
theorem result_of_withheld {attempt : Attempt} {quiz : Quiz}
    (ha : s.findAttempt id = some attempt) (hquiz : s.findQuiz attempt.quizId = some quiz)
    (hwithheld : quiz.showResultsImmediately = false) {caller : Caller}
    (hcaller : caller.isPrivileged = false) :
    s.result caller id = .error (.refused (
      if attempt.studentId ≠ caller.userId then .notOwner
      else if attempt.status = .inProgress then
        .invalidState s!"attempt {id} has not been submitted"
      else .forbidden "results for this quiz are not released")) := by
  simp only [result, requireAttempt_eq_ok_iff.2 ha, orRefused_ok, bind, Except.bind, hcaller]
  by_cases hown : attempt.studentId = caller.userId
  · by_cases hopen : attempt.status = .inProgress
    · simp [hown, hopen]
    · simp [hown, hopen, Snapshot.load_eq_ok_iff.2 ⟨quiz, hquiz, rfl⟩, hwithheld]
  · simp [hown]

/-- A result that is not released is refused for reasons that show nothing of the outcome. -/
theorem result_withheld (h : s.veiled id = t.veiled id) {attempt : Attempt} {quiz : Quiz}
    (ha : s.findAttempt id = some attempt) (hquiz : s.findQuiz attempt.quizId = some quiz)
    (hwithheld : quiz.showResultsImmediately = false) {caller : Caller}
    (hcaller : caller.isPrivileged = false) :
    ∃ cause, s.result caller id = .error (.refused cause) ∧
      t.result caller id = .error (.refused cause) := by
  obtain ⟨other, hother, hlooks⟩ : ∃ other, t.findAttempt id = some other ∧
      attempt.veiledFor id = other.veiledFor id := by
    have hfound := congrArg (·.findAttempt id) h
    simp only [findAttempt_veiled, ha, Option.map_some] at hfound
    obtain ⟨other, hother, hlooks⟩ := Option.map_eq_some_iff.1 hfound.symm
    exact ⟨other, hother, hlooks.symm⟩
  obtain ⟨_, _, _, rfl⟩ := Attempt.exists_eq_of_veiled (Attempt.veiled_eq_of_veiledFor id hlooks)
  have hquiz' : t.findQuiz attempt.quizId = some quiz := by
    rw [← hquiz]
    exact congrArg (·.findQuiz attempt.quizId) h.symm
  exact ⟨_, result_of_withheld ha hquiz hwithheld hcaller,
    result_of_withheld hother hquiz' hwithheld hcaller⟩

end Store

/-! ## Judging again -/

namespace Answer

/-- The grade by rule looks the same whatever key decides. -/
theorem map_veiled_autoGraded? (a : Answer) (question : Question) (now : Instant) :
    (a.autoGraded? question now).map (·.veiled) =
      (a.veiled.autoGraded? question.veiled now).map (·.veiled) := by
  rw [autoGraded?, autoGraded?, payload_veiled, Option.map_map, Option.map_map]
  by_cases htype : a.payload.type = question.type
  · have hsome := Question.isSome_verdict?_iff htype
    have hsome' := Question.isSome_verdict?_iff (htype.trans question.type_veiled.symm)
    rw [question.type_veiled] at hsome'
    cases hauto : question.type.isAutoGradable with
    | true =>
      rw [hauto, Option.isSome_iff_exists] at hsome hsome'
      obtain ⟨correct, hc⟩ := hsome
      obtain ⟨correct', hc'⟩ := hsome'
      rw [hc, hc', Option.map_some, Option.map_some]
      exact congrArg some (a.veiled_withVerdict (htype ▸ hauto) _ _ _ _ now)
    | false =>
      rw [hauto, Option.isSome_eq_false_iff, Option.isNone_iff_eq_none] at hsome hsome'
      rw [hsome, hsome']
      rfl
  · have hnone : ∀ q : Question, q.type = question.type → q.verdict? a.payload = none := by
      intro q hq
      unfold Question.verdict?
      rw [if_pos (hq ▸ htype)]
    rw [hnone question rfl, hnone question.veiled question.type_veiled]
    rfl

theorem map_veiled_judged? (questions : List Question) (now : Instant) (a : Answer) :
    (a.judged? questions now).map (·.veiled) =
      (a.veiled.judged? (questions.map (·.veiled)) now).map (·.veiled) := by
  rw [judged?, judged?, questionId_veiled, questionOf?_map Question.id_veiled]
  cases questionOf? questions a.questionId with
  | none => rfl
  | some question => exact a.map_veiled_autoGraded? question now

end Answer

namespace Store

variable {s t : Store} {id : Uuid}

/-- Two lists of answers were judged with rows that look the same, or for the same reason not
to their ends; and the stores that are left look the same. -/
inductive JudgedAlike (id : Uuid) :
    Except Error (List Answer) × Store → Except Error (List Answer) × Store → Prop where
  | judged {rows others : List Answer} {s t : Store}
      (sameRows : rows.map (·.veiled) = others.map (·.veiled))
      (sameStores : s.veiled id = t.veiled id) : JudgedAlike id (.ok rows, s) (.ok others, t)
  | refused {s t : Store} (cause : Error) (sameStores : s.veiled id = t.veiled id) :
      JudgedAlike id (.error cause, s) (.error cause, t)

theorem JudgedAlike.cons {x y : Except Error (List Answer) × Store} (h : JudgedAlike id x y)
    {row other : Answer} (hrow : row.veiled = other.veiled) :
    JudgedAlike id (x.map (Except.map (row :: ·)) (·)) (y.map (Except.map (other :: ·)) (·)) := by
  cases h with
  | judged sameRows sameStores =>
    exact .judged (by rw [List.map_cons, List.map_cons, hrow, sameRows]) sameStores
  | refused cause sameStores => exact .refused cause sameStores

/-- Answers that look the same are judged alike, whatever the keys are. -/
theorem regrade_judgedAlike {questions questions' : List Question} (now : Instant)
    (hq : questions.map (·.veiled) = questions'.map (·.veiled)) :
    ∀ (rows others : List Answer) {s t : Store}, s.veiled id = t.veiled id →
      rows.map (·.veiled) = others.map (·.veiled) → s.Holds rows → t.Holds others →
      JudgedAlike id (regrade questions now s rows) (regrade questions' now t others)
  | [], [], _, _, h, _, _, _ => .judged rfl h
  | [], _ :: _, _, _, _, hrows, _, _ => by cases hrows
  | _ :: _, [], _, _, _, hrows, _, _ => by cases hrows
  | a :: rest, b :: others, s, t, h, hrows, hs, ht => by
    rw [List.map_cons, List.map_cons, List.cons.injEq] at hrows
    have hid : a.id = b.id := by rw [← a.id_veiled, hrows.1, b.id_veiled]
    have hjudged : (a.judged? questions now).map (·.veiled) =
        (b.judged? questions' now).map (·.veiled) := by
      rw [a.map_veiled_judged?, b.map_veiled_judged?, hrows.1, hq]
    rw [regrade_cons_of_stored hs.head, regrade_cons_of_stored ht.head]
    cases hj : a.judged? questions now with
    | none =>
      rw [hj, Option.map_none, eq_comm, Option.map_eq_none_iff] at hjudged
      rw [hjudged]
      exact (regrade_judgedAlike now hq rest others h hrows.2 hs.tail ht.tail).cons hrows.1
    | some row =>
      rw [hj, Option.map_some, eq_comm, Option.map_eq_some_iff] at hjudged
      obtain ⟨other, hj', hother⟩ := hjudged
      have hmarked : s.unwritableGrades = t.unwritableGrades := congrArg (·.unwritableGrades) h
      rw [hj', ← hid, ← hmarked]
      dsimp only
      split
      · exact .refused _ h
      · have hput : (s.putAnswer row).veiled id = (t.putAnswer other).veiled id := by
          rw [veiled_putAnswer, veiled_putAnswer, h, hother]
        exact (regrade_judgedAlike now hq rest others hput hrows.2
          (hs.putAnswer (Answer.withGradeOf_judged hj).1)
          (ht.putAnswer (Answer.withGradeOf_judged hj').1)).cons hother.symm

/-! ## Submitting -/

theorem openAttempt_veiled (s : Store) (id : Uuid) (caller : Caller) (attemptId : Uuid) :
    (s.veiled id).openAttempt caller attemptId =
      (s.openAttempt caller attemptId).map (·.veiledFor id) := by
  rw [openAttempt, requireAttempt_veiled, openAttempt]
  cases s.requireAttempt attemptId with
  | error cause => rfl
  | ok attempt =>
    simp only [Except.map, bind, Except.bind, Attempt.studentId_veiledFor, Attempt.status_veiledFor]
    split
    · rfl
    · split <;> rfl

/-- A version is held against the stored one in the same way whatever was earned. -/
theorem checkVersion_veiled (s : Store) (id : Uuid) (attempt : Attempt) :
    ((s.veiled id).checkVersion attempt.veiled).1 = (s.checkVersion attempt).1 := by
  have hconflicts : (s.veiled id).conflictsLeft attempt.id = s.conflictsLeft attempt.id := rfl
  have hid : attempt.veiled.id = attempt.id := rfl
  have hown : attempt.veiled.version = attempt.version := rfl
  rw [checkVersion, checkVersion, hid, hown, findAttempt_veiled, hconflicts]
  cases s.findAttempt attempt.id with
  | none => rfl
  | some stored =>
    cases s.conflictsLeft attempt.id with
    | zero => simp only [Option.map_some, Attempt.version_veiledFor]
    | succ left => rfl

theorem updateAttempt_fst (s : Store) (attempt : Attempt) :
    (s.updateAttempt attempt).1 = (s.checkVersion attempt).1.map fun _ => nextVersion attempt := by
  unfold updateAttempt
  rcases s.checkVersion attempt with ⟨_ | _, _⟩ <;> rfl

theorem map_veiled_updateAttempt (h : s.veiled id = t.veiled id) {a b : Attempt}
    (hab : a.veiled = b.veiled) :
    (s.updateAttempt a).1.map (·.veiled) = (t.updateAttempt b).1.map (·.veiled) := by
  have hview : ∀ (u : Store) (c : Attempt), (u.updateAttempt c).1.map (·.veiled) =
      ((u.veiled id).checkVersion c.veiled).1.map fun _ => nextVersion c.veiled := by
    intro u c
    rw [updateAttempt_fst, checkVersion_veiled]
    cases (u.checkVersion c).1 <;> rfl
  rw [hview, hview, h, hab]

/-- What closing an attempt gives, step by step. -/
theorem closeAttempt_fst (s : Store) (now : Instant) (attempt : Attempt) (snapshot : Snapshot) :
    (s.closeAttempt now attempt snapshot).1 = (do
      let score ← orOverflow snapshot.score
      let next ← orRefused (attempt.submitted snapshot.quiz score now)
      let stored ← orRefused (s.updateAttempt next).1
      orOverflow (AttemptResult.of stored snapshot snapshot.quiz.showCorrectAnswers
        snapshot.quiz.showFeedback)) := by
  unfold closeAttempt
  cases snapshot.score with
  | error cause => rfl
  | ok score =>
    dsimp only [orOverflow_ok, bind, Except.bind]
    cases attempt.submitted snapshot.quiz score now with
    | error cause => rfl
    | ok next =>
      dsimp only [orRefused_ok, bind, Except.bind]
      rcases s.updateAttempt next with ⟨_ | _, _⟩ <;> rfl

theorem looksSame_closeAttempt (h : s.veiled id = t.veiled id) {a b : Attempt}
    (hab : a.veiled = b.veiled) {σ τ : Snapshot} (hστ : σ.veiled = τ.veiled) (hσ : σ.Fits)
    (hτ : τ.Fits) (now : Instant) :
    LooksSame (AttemptResult.veiled σ.quiz.showCorrectAnswers) (s.closeAttempt now a σ).1
      (t.closeAttempt now b τ).1 := by
  rw [closeAttempt_fst, closeAttempt_fst, Snapshot.quiz_eq_of_veiled hστ]
  refine (Snapshot.looksSame_score hστ).bind fun p p' _ _ hp => ?_
  have hsubmitted : (a.submitted τ.quiz p now).map (·.veiled) =
      (b.submitted τ.quiz p' now).map (·.veiled) := by
    rw [a.map_veiled_submitted, hab, hp, ← b.map_veiled_submitted]
  refine (LooksSame.orRefused hsubmitted).bind fun next next' _ _ hnext => ?_
  refine (LooksSame.orRefused (map_veiled_updateAttempt h hnext)).bind fun c d _ _ hcd => ?_
  exact .orOverflow fun r r' hr hr' => AttemptResult.veiled_eq hστ hσ hτ hcd hr hr'

/-- Attempts that were read are submitted in the same way. -/
theorem looksSame_submitLoaded (h : s.veiled id = t.veiled id) (hs : s.Sound) (ht : t.Sound)
    (ctx : Context) {a b : Attempt} (ha : s.openAttempt ctx.caller a.id = .ok a)
    (hb : t.openAttempt ctx.caller b.id = .ok b) (hab : a.veiled = b.veiled) {σ τ : Snapshot}
    (hσ : Snapshot.load s a = .ok σ) (hτ : Snapshot.load t b = .ok τ) (hστ : σ.veiled = τ.veiled) :
    LooksSame (AttemptResult.veiled σ.quiz.showCorrectAnswers) (s.submitLoaded ctx a σ).1
      (t.submitLoaded ctx b τ).1 := by
  have hfits := hs.fits_of_load hσ
  have hfits' := ht.fits_of_load hτ
  obtain ⟨quiz, hquiz, rfl⟩ := Snapshot.load_eq_ok_iff.1 hσ
  obtain ⟨quiz', hquiz', rfl⟩ := Snapshot.load_eq_ok_iff.1 hτ
  obtain rfl : quiz = quiz' := Snapshot.quiz_eq_of_veiled hστ
  have hquestions := congrArg Snapshot.questions hστ
  have hanswers := congrArg Snapshot.answers hστ
  rw [submitLoaded, submitLoaded]
  dsimp only
  split
  · rename_i hauto
    have halike := regrade_judgedAlike ctx.now hquestions _ _ h hanswers
      (hs.holds_listAnswers a.id) (ht.holds_listAnswers b.id)
    generalize hr : regrade (s.listQuestions a.quizId) ctx.now s (s.listAnswers a.id) = x at halike ⊢
    generalize hr' : regrade (t.listQuestions b.quizId) ctx.now t (t.listAnswers b.id) = y at halike ⊢
    cases halike with
    | refused cause _ => exact .refused cause
    | @judged rows rows' _ _ sameRows sameStores =>
      -- what is judged is what is read of the attempt by now
      obtain ⟨hw, -, hload, -⟩ := regraded_ready hs ha hquiz hauto hr
      obtain ⟨hw', -, hload', -⟩ := regraded_ready ht hb hquiz' hauto hr'
      have hlooks : (Snapshot.mk quiz (s.listQuestions a.quizId) rows).veiled =
          (Snapshot.mk quiz (t.listQuestions b.quizId) rows').veiled :=
        congrArg₂ (Snapshot.mk quiz) hquestions sameRows
      exact looksSame_closeAttempt sameStores hab hlooks ((hw.sound hs).fits_of_load hload)
        ((hw'.sound ht).fits_of_load hload') ctx.now
  · exact looksSame_closeAttempt h hab hστ hfits hfits' ctx.now

theorem submitAttempt_fst (s : Store) (ctx : Context) (attemptId : Uuid) :
    (s.submitAttempt ctx attemptId).1 = (do
      let attempt ← orRefused (s.openAttempt ctx.caller attemptId)
      let snapshot ← orRefused (Snapshot.load s attempt)
      (s.submitLoaded ctx attempt snapshot).1) := by
  unfold submitAttempt
  cases s.openAttempt ctx.caller attemptId with
  | error cause => rfl
  | ok attempt =>
    simp only [bind, Except.bind, orRefused_ok]
    cases Snapshot.load s attempt with
    | error cause => rfl
    | ok snapshot => rfl

/-- Two submissions of the attempt look the same, with the key where the quiz does not show
it. -/
theorem looksSame_submitAttempt (h : s.veiled id = t.veiled id) (hs : s.Sound) (ht : t.Sound)
    {attempt : Attempt} {quiz : Quiz} (hatt : s.findAttempt id = some attempt)
    (hquiz : s.findQuiz attempt.quizId = some quiz) (ctx : Context) :
    LooksSame (AttemptResult.veiled quiz.showCorrectAnswers) (s.submitAttempt ctx id).1
      (t.submitAttempt ctx id).1 := by
  have hopen : (s.openAttempt ctx.caller id).map (·.veiledFor id) =
      (t.openAttempt ctx.caller id).map (·.veiledFor id) := by
    rw [← openAttempt_veiled, h, openAttempt_veiled]
  rw [submitAttempt_fst, submitAttempt_fst]
  refine (LooksSame.orRefused hopen).bind fun a b ha hb hab => ?_
  rw [orRefused_eq_ok_iff] at ha hb
  have hveiled := Attempt.veiled_eq_of_veiledFor id hab
  have hload : (Snapshot.load s a).map (·.veiled) = (Snapshot.load t b).map (·.veiled) := by
    obtain ⟨_, _, _, rfl⟩ := Attempt.exists_eq_of_veiled hveiled
    exact map_veiled_load h a
  refine (LooksSame.orRefused hload).bind fun σ τ hσ hτ hστ => ?_
  rw [orRefused_eq_ok_iff] at hσ hτ
  have hfound := (openAttempt_eq_ok_iff.1 ha).1
  rw [← quiz_eq_of_load hatt hquiz hfound hσ]
  obtain rfl := hs.id_of_findAttempt hfound
  have hid := ht.id_of_findAttempt (openAttempt_eq_ok_iff.1 hb).1
  exact looksSame_submitLoaded h hs ht ctx ha (hid ▸ hb) hveiled hσ hτ hστ

/-! ## Sums that are small -/

theorem not_overflows_history (s : Store) (caller : Caller) (quizId : Int)
    (studentId : Option Int) : ¬Overflows (s.history caller quizId studentId) := by
  unfold history
  dsimp only
  split
  · exact Overflows.not_bind (Overflows.not_orRefused _) fun _ _ => Overflows.not_ok _
  · exact Overflows.not_ok _

theorem not_overflows_closeAttempt {σ : Snapshot} {score : Score} (h : σ.score = .ok score)
    (s : Store) (now : Instant) (attempt : Attempt) :
    ¬Overflows (s.closeAttempt now attempt σ).1 := by
  rw [closeAttempt_fst]
  refine Overflows.not_bind (Overflows.not_orOverflow h) fun _ _ =>
    Overflows.not_bind (Overflows.not_orRefused _) fun _ _ =>
      Overflows.not_bind (Overflows.not_orRefused _) fun stored _ => ?_
  obtain ⟨_, hresult⟩ :=
    exists_result_of_score h stored σ.quiz.showCorrectAnswers σ.quiz.showFeedback
  exact Overflows.not_orOverflow hresult

/-- Stores that look the same have the same points in their catalogs. -/
theorem HasSafePoints.of_veiled (h : s.HasSafePoints) (hlooks : s.veiled id = t.veiled id) :
    t.HasSafePoints := by
  have hview : ∀ u : Store,
      u.questions.values.map (·.points) = (u.veiled id).questions.values.map (·.points) := by
    intro u
    simp only [veiled, Table.values_map, List.map_map, Function.comp_def, Question.points_veiled]
  have hsame : s.questions.values.map (·.points) = t.questions.values.map (·.points) := by
    rw [hview s, hlooks, ← hview t]
  have hmem : ∀ question ∈ t.questions.values, ∃ other ∈ s.questions.values,
      other.points = question.points :=
    fun question hq => List.mem_map.1 (hsame ▸ List.mem_map.2 ⟨question, hq, rfl⟩)
  refine ⟨fun question hq => ?_, fun question hq => ?_, ?_⟩
  · obtain ⟨other, hother, heq⟩ := hmem question hq
    exact heq ▸ h.nonneg other hother
  · obtain ⟨other, hother, heq⟩ := hmem question hq
    exact heq ▸ h.places other hother
  · have hvalues := congrArg (List.map (·.value)) hsame
    simp only [List.map_map, Function.comp_def] at hvalues
    rw [← hvalues]
    exact h.sum_lt

namespace IsSafe

/-- What is read of an attempt has a score. -/
theorem exists_score_of_load (h : s.IsSafe) {attempt : Attempt} {σ : Snapshot}
    (hload : Snapshot.load s attempt = .ok σ) : ∃ score, σ.score = .ok score := by
  obtain ⟨quiz, -, rfl⟩ := Snapshot.load_eq_ok_iff.1 hload
  exact h.exists_score attempt.quizId attempt.id quiz.passingScore

theorem not_overflows_review (h : s.IsSafe) (caller : Caller) (attemptId : Uuid) :
    ¬Overflows (s.review caller attemptId) := by
  refine Overflows.not_bind (Overflows.not_orRefused _) fun attempt _ => ?_
  split
  · exact Overflows.not_refused _
  · split
    · exact Overflows.not_refused _
    · refine Overflows.not_bind (Overflows.not_orRefused _) fun σ hload => ?_
      obtain ⟨score, hscore⟩ := h.exists_score_of_load (orRefused_eq_ok_iff.1 hload)
      split
      · exact Overflows.not_refused _
      · exact Overflows.not_bind (Overflows.not_orOverflow hscore) fun _ _ => Overflows.not_ok _

theorem not_overflows_summary (h : s.IsSafe) (caller : Caller) (now : Instant) (attemptId : Uuid) :
    ¬Overflows (s.summary caller now attemptId) := by
  refine Overflows.not_bind (Overflows.not_orRefused _) fun attempt _ => ?_
  split
  · exact Overflows.not_refused _
  · refine Overflows.not_bind (Overflows.not_orRefused _) fun σ hload => ?_
    obtain ⟨score, hscore⟩ := h.exists_score_of_load (orRefused_eq_ok_iff.1 hload)
    exact Overflows.not_bind (Overflows.not_orOverflow hscore) fun _ _ => Overflows.not_ok _

theorem not_overflows_submitLoaded (h : s.IsSafe) {ctx : Context} {attempt : Attempt} {σ : Snapshot}
    (hopen : s.openAttempt ctx.caller attempt.id = .ok attempt)
    (hload : Snapshot.load s attempt = .ok σ) :
    ¬Overflows (s.submitLoaded ctx attempt σ).1 := by
  obtain ⟨score, hscore⟩ := h.exists_score_of_load hload
  obtain ⟨quiz, hquiz, rfl⟩ := Snapshot.load_eq_ok_iff.1 hload
  rw [submitLoaded]
  dsimp only
  split
  · rename_i hauto
    generalize hr : regrade (s.listQuestions attempt.quizId) ctx.now s
      (s.listAnswers attempt.id) = x
    rcases x with ⟨cause | rows, t⟩
    · exact Overflows.not_refused cause
    · -- what is judged is what is read of the attempt by now, from a store that is as safe
      obtain ⟨hw, -, hload', -⟩ := regraded_ready h.sound hopen hquiz hauto hr
      obtain ⟨_, hscore'⟩ := (hw.isSafe h).exists_score_of_load hload'
      exact not_overflows_closeAttempt hscore' t ctx.now attempt
  · exact not_overflows_closeAttempt hscore s ctx.now attempt

theorem not_overflows_submitAttempt (h : s.IsSafe) (ctx : Context) (attemptId : Uuid) :
    ¬Overflows (s.submitAttempt ctx attemptId).1 := by
  rw [submitAttempt_fst]
  refine Overflows.not_bind (Overflows.not_orRefused _) fun attempt hread =>
    Overflows.not_bind (Overflows.not_orRefused _) fun σ hload => ?_
  rw [orRefused_eq_ok_iff] at hread hload
  obtain rfl := h.sound.id_of_findAttempt (openAttempt_eq_ok_iff.1 hread).1
  exact h.not_overflows_submitLoaded hread hload

end IsSafe

end Store

end QuizEngine
