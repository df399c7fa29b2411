import QuizEngine.Proofs.Lookalikes

/-!
# What is withheld until results are released

A quiz that does not release its results refuses them to every student, and whoever is refused
learns nothing of the outcome. That is all that the release decides: a submission answers with
the result, a review and a summary show points and verdicts, and a history the scores, whether
results are released or not (`Engine.outcome_disclosed`).

Beyond that they disclose nothing. In two reachable states that differ only in the keys of
objective questions, in the grades of objective answers and in what they add up to on an
attempt, what these calls say of the attempt looks the same without its outcome
(`Engine.Reachable.withheld`). The key is part of the outcome for a quiz that shows correct
answers. For any other quiz the replies are the same in all that they say of the key.
-/

namespace QuizEngine

/-! ## What calls say of an attempt -/

/-- The calls whose reply says how the attempt went, the release aside. -/
def Call.ReportsOn (attemptId : Uuid) : Call → Prop
  | .submit id | .review id | .summary id => id = attemptId
  | .history _ _ => True
  | _ => False

theorem Call.ReportsOn.cases {id : Uuid} {call : Call} (h : call.ReportsOn id) :
    call = .submit id ∨ call = .review id ∨ call = .summary id ∨
      ∃ quizId studentId, call = .history quizId studentId := by
  unfold ReportsOn at h
  split at h
  · exact Or.inl (h ▸ rfl)
  · exact Or.inr (Or.inl (h ▸ rfl))
  · exact Or.inr (Or.inr (Or.inl (h ▸ rfl)))
  · exact Or.inr (Or.inr (Or.inr ⟨_, _, rfl⟩))
  · exact h.elim

namespace Engine

/-- A submission is answered with its result, whatever becomes of the refresh. -/
theorem perform_submit_fst (e : Engine) (ctx : Context) (attemptId : Uuid) :
    (e.perform ctx (.submit attemptId)).1 =
      (e.store.submitAttempt ctx attemptId).1.map Reply.result := by
  simp only [perform, submit]
  rcases e.store.submitAttempt ctx attemptId with ⟨_ | _, _⟩ <;> rfl

variable {e e' : Engine} {id : Uuid}

/-- In states that differ in the outcome of an attempt alone, what a call says of it looks the
same. -/
theorem looksSame_perform (h : e.store.veiled id = e'.store.veiled id) (hs : e.store.Sound)
    (hs' : e'.store.Sound) {attempt : Attempt} {quiz : Quiz}
    (ha : e.store.findAttempt id = some attempt)
    (hquiz : e.store.findQuiz attempt.quizId = some quiz) (ctx : Context) {call : Call}
    (hcall : call.ReportsOn id) :
    LooksSame (Reply.veiled id quiz.showCorrectAnswers) (e.perform ctx call).1
      (e'.perform ctx call).1 := by
  obtain rfl | rfl | rfl | ⟨quizId, studentId, rfl⟩ := hcall.cases
  · rw [perform_submit_fst, perform_submit_fst]
    exact (Store.looksSame_submitAttempt h hs hs' ha hquiz ctx).map
      fun r r' hr => congrArg Reply.result hr
  · exact (Store.looksSame_review h hs hs' ha hquiz ctx.caller).map
      fun r r' hr => congrArg Reply.review hr
  · exact (Store.looksSame_summary h ctx.caller ctx.now).map
      fun r r' hr => congrArg Reply.summary hr
  · exact (Store.looksSame_history h ctx.caller quizId studentId).map
      fun r r' hr => congrArg Reply.attempts hr

/-- Where the points are safe, what a call says of an attempt is there to look at. -/
theorem not_overflows_perform (hs : e.store.IsSafe) (ctx : Context) {call : Call}
    (hcall : call.ReportsOn id) : ¬Overflows (e.perform ctx call).1 := by
  obtain rfl | rfl | rfl | ⟨quizId, studentId, rfl⟩ := hcall.cases
  · rw [perform_submit_fst]
    exact Overflows.not_map (hs.not_overflows_submitAttempt ctx id)
  · exact Overflows.not_map (hs.not_overflows_review ctx.caller id)
  · exact Overflows.not_map (hs.not_overflows_summary ctx.caller ctx.now id)
  · exact Overflows.not_map (e.store.not_overflows_history ctx.caller quizId studentId)

/-- A quiz that does not release its results refuses them to whoever is no administrator, for
a reason that the outcome has no part in. A submission, a review, a summary and a history say
nothing beyond the outcome that differs with it, and only for a quiz that shows its key is the
key part of the outcome. Where the points are safe, none of them is left out of this by a sum
that overflows. -/
theorem Reachable.withheld (h : e.Reachable) (h' : e'.Reachable)
    (hlooks : e.store.veiled id = e'.store.veiled id) {attempt : Attempt} {quiz : Quiz}
    (ha : e.store.findAttempt id = some attempt)
    (hquiz : e.store.findQuiz attempt.quizId = some quiz)
    (hwithheld : quiz.showResultsImmediately = false) {ctx : Context}
    (hcaller : ctx.caller.isPrivileged = false) :
    (∃ cause, (e.perform ctx (.result id)).1 = .error (.refused cause) ∧
      (e'.perform ctx (.result id)).1 = .error (.refused cause)) ∧
    ∀ call : Call, call.ReportsOn id →
      LooksSame (Reply.veiled id quiz.showCorrectAnswers) (e.perform ctx call).1
        (e'.perform ctx call).1 ∧
      (e.store.HasSafePoints →
        ¬Overflows (e.perform ctx call).1 ∧ ¬Overflows (e'.perform ctx call).1) := by
  refine ⟨?_, fun call hcall =>
    ⟨looksSame_perform hlooks h.sound h'.sound ha hquiz ctx hcall, fun hpoints =>
      ⟨not_overflows_perform (h.isSafe hpoints) ctx hcall,
        not_overflows_perform (h'.isSafe (hpoints.of_veiled hlooks)) ctx hcall⟩⟩⟩
  obtain ⟨cause, hr, hr'⟩ := Store.result_withheld hlooks ha hquiz hwithheld hcaller
  exact ⟨cause, by simp [perform, ofRead, hr, Except.map], by simp [perform, ofRead, hr', Except.map]⟩

end Engine

/-! ## Two keys

One student chooses the same option of one question under two keys. -/

namespace Sample

/-- The sample quiz, whose results are not released, whether or not it shows its key. -/
def sealed (showKey : Bool) : Quiz :=
  { quiz with showResultsImmediately := false, showCorrectAnswers := showKey }

/-- The choice with this key. -/
def keyed (yes : Bool) : Question :=
  { choice with options := choice.options.map fun o => { o with isCorrect := (o.id == 1) == yes } }

def sealedInitial (showKey yes : Bool) : Engine where
  store := (({} : Store).insertQuiz (sealed showKey)).insertQuestion (keyed yes)
  queue := { room := 1 }

def sealedStarted (showKey yes : Bool) : Engine :=
  ((sealedInitial showKey yes).perform (student 1) (.start 1 {})).2

/-- The first option is chosen. -/
def sealedChosen (showKey yes : Bool) : Engine :=
  ((sealedStarted showKey yes).perform (student 2) (.record (uuid 1) 1 choiceAnswer none)).2

def sealedSubmitted (showKey yes : Bool) : Engine :=
  ((sealedChosen showKey yes).perform (student 3) (.submit (uuid 1))).2

/-- The answer, judged by the key. -/
def judged (yes : Bool) : Answer :=
  (Answer.ungraded (uuid 2) (uuid 1) 1 (.singleChoice 1) none .epoch).withVerdict (keyed yes) yes .epoch

/-- What the key makes of the answer. -/
def worth (yes : Bool) : Decimal := if yes then points 2 0 else .zero

/-- The attempt as it is submitted. -/
def sealedClosed (yes : Bool) : Attempt :=
  Store.nextVersion (attempt.submittedWith quiz
    { totalPoints := points 2 0
      earnedPoints := worth yes
      percentage := if yes then points 100 0 else .zero
      passed := false
      pendingCount := 0 } .epoch)

variable (showKey yes : Bool)

theorem isInitial_sealedInitial : (sealedInitial showKey yes).IsInitial :=
  (Store.Authored.empty.insertQuiz (sealed showKey)).insertQuestion (keyed yes)

theorem store_sealedStarted :
    (sealedStarted showKey yes).store = (sealedInitial showKey yes).store.putAttempt attempt := by
  cases yes <;> rfl

theorem store_sealedChosen : (sealedChosen showKey yes).store =
    ((sealedInitial showKey yes).store.putAttempt attempt).putAnswer (judged yes) := by
  cases yes <;> rfl

theorem reachable_sealedChosen : (sealedChosen showKey yes).Reachable := by
  have hfresh : (sealedInitial showKey yes).store.IsFresh (uuid 1) :=
    ⟨(isInitial_sealedInitial showKey yes).findAttempt_eq _,
      (isInitial_sealedInitial showKey yes).findAnswer_eq _⟩
  have hfresh' : (sealedStarted showKey yes).store.IsFresh (uuid 2) := by
    rw [store_sealedStarted]
    exact ⟨rfl, rfl⟩
  exact ⟨_, _, isInitial_sealedInitial showKey yes, (Engine.Run.nil.snoc
    (.call (student 1) (.start 1 {}) hfresh)).snoc
      (.call (student 2) (.record (uuid 1) 1 choiceAnswer none) hfresh')⟩

theorem findAttempt_sealedChosen :
    (sealedChosen showKey yes).store.findAttempt (uuid 1) = some attempt := by
  rw [store_sealedChosen]
  rfl

theorem findQuiz_sealedChosen :
    (sealedChosen showKey yes).store.findQuiz 1 = some (sealed showKey) := by
  rw [store_sealedChosen]
  rfl

/-- Whatever the key is, the states look the same. -/
theorem veiled_sealedChosen :
    (sealedChosen showKey true).store.veiled (uuid 1) =
      (sealedChosen showKey false).store.veiled (uuid 1) := by
  rw [store_sealedChosen, store_sealedChosen]
  rfl

theorem hasSafePoints_sealedChosen : (sealedChosen showKey yes).store.HasSafePoints := by
  rw [store_sealedChosen]
  exact ⟨by decide +kernel +revert, by decide +kernel +revert, by decide +kernel +revert⟩

theorem listQuestions_sealedChosen :
    (sealedChosen showKey yes).store.listQuestions 1 = [keyed yes] := by
  have hfilter : (sealedChosen showKey yes).store.questions.values.filter (·.quizId == 1) =
      [keyed yes] := by
    rw [store_sealedChosen]
    rfl
  rw [Store.listQuestions, hfilter, List.mergeSort_singleton]

theorem listAnswers_sealedChosen :
    (sealedChosen showKey yes).store.listAnswers (uuid 1) = [judged yes] := by
  have hfilter : (sealedChosen showKey yes).store.answers.values.filter (·.attemptId == uuid 1) =
      [judged yes] := by
    rw [store_sealedChosen]
    rfl
  rw [Store.listAnswers, hfilter, List.mergeSort_singleton]

theorem load_sealedChosen :
    Snapshot.load (sealedChosen showKey yes).store attempt =
      .ok ⟨sealed showKey, [keyed yes], [judged yes]⟩ :=
  Snapshot.load_eq_ok_iff.2 ⟨sealed showKey, findQuiz_sealedChosen showKey yes, by
    rw [← listQuestions_sealedChosen, ← listAnswers_sealedChosen]
    rfl⟩

theorem submitAttempt_sealedChosen :
    (sealedChosen showKey yes).store.submitAttempt (student 3) (uuid 1) =
      (sealedChosen showKey yes).store.submitLoaded (student 3) attempt
        ⟨sealed showKey, [keyed yes], [judged yes]⟩ :=
  Store.submitAttempt_of_load
    (Store.openAttempt_eq_ok_iff.2 ⟨findAttempt_sealedChosen showKey yes, rfl, rfl⟩)
    (load_sealedChosen showKey yes)

theorem store_sealedSubmitted : (sealedSubmitted showKey yes).store =
    ((sealedChosen showKey yes).store.putAnswer (judged yes)).putAttempt (sealedClosed yes) := by
  simp only [sealedSubmitted, Engine.perform, Engine.submit, submitAttempt_sealedChosen]
  cases showKey <;> cases yes <;> rfl

theorem reachable_sealedSubmitted : (sealedSubmitted showKey yes).Reachable := by
  have hfresh : (sealedChosen showKey yes).store.IsFresh (uuid 3) := by
    rw [store_sealedChosen]
    exact ⟨rfl, rfl⟩
  exact (reachable_sealedChosen showKey yes).run
    (Engine.Run.nil.snoc (.call (student 3) (.submit (uuid 1)) hfresh))

theorem findAttempt_sealedSubmitted :
    (sealedSubmitted showKey yes).store.findAttempt (uuid 1) = some (sealedClosed yes) := by
  rw [store_sealedSubmitted]
  exact Store.findAttempt_putAttempt_self _ (sealedClosed yes)

theorem veiled_sealedSubmitted :
    (sealedSubmitted showKey true).store.veiled (uuid 1) =
      (sealedSubmitted showKey false).store.veiled (uuid 1) := by
  simp only [store_sealedSubmitted, store_sealedChosen]
  rfl

theorem listAnswers_sealedSubmitted :
    (sealedSubmitted showKey yes).store.listAnswers (uuid 1) = [judged yes] := by
  have hfilter : (sealedSubmitted showKey yes).store.answers.values.filter (·.attemptId == uuid 1) =
      [judged yes] := by
    rw [store_sealedSubmitted, store_sealedChosen]
    rfl
  rw [Store.listAnswers, hfilter, List.mergeSort_singleton]

theorem sameCatalog_sealedSubmitted :
    (sealedChosen showKey yes).store.SameCatalog (sealedSubmitted showKey yes).store := by
  rw [store_sealedSubmitted]
  generalize (sealedChosen showKey yes).store = s
  exact ⟨rfl, rfl, rfl⟩

theorem listQuestions_sealedSubmitted :
    (sealedSubmitted showKey yes).store.listQuestions 1 = [keyed yes] := by
  rw [(sameCatalog_sealedSubmitted showKey yes).listQuestions_eq, listQuestions_sealedChosen]

theorem findQuiz_sealedSubmitted :
    (sealedSubmitted showKey yes).store.findQuiz 1 = some (sealed showKey) := by
  rw [(sameCatalog_sealedSubmitted showKey yes).findQuiz_eq, findQuiz_sealedChosen]

theorem load_sealedSubmitted : Snapshot.load (sealedSubmitted showKey yes).store
    (sealedClosed yes) = .ok ⟨sealed showKey, [keyed yes], [judged yes]⟩ :=
  Snapshot.load_eq_ok_iff.2 ⟨sealed showKey, findQuiz_sealedSubmitted showKey yes, by
    rw [← listQuestions_sealedSubmitted, ← listAnswers_sealedSubmitted]
    rfl⟩

theorem listStudentAttempts_sealedSubmitted :
    (sealedSubmitted showKey yes).store.listStudentAttempts 1 5 = [sealedClosed yes] := by
  have hfilter : (sealedSubmitted showKey yes).store.attemptsOf 1 5 = [sealedClosed yes] := by
    rw [store_sealedSubmitted, store_sealedChosen]
    rfl
  rw [Store.listStudentAttempts, hfilter, List.mergeSort_singleton]

end Sample

/-- The points that a reply says were earned on attempts. -/
def Reply.earned : Reply → List (Option Decimal)
  | .result r => [r.attempt.earnedPoints]
  | .review r => [r.attempt.earnedPoints]
  | .summary s => [some s.score.earnedPoints]
  | .attempts as => as.map (·.earnedPoints)
  | _ => []

/-- The correct options that a result shows. -/
def Reply.shownKey : Reply → List (Option (List Int))
  | .result r => r.questions.map (·.correctOptionIds)
  | _ => []

namespace Sample

variable (showKey yes : Bool)

theorem shownKey_submit :
    ((sealedChosen true yes).perform (student 3) (.submit (uuid 1))).1.toOption.map
      (fun r => (r.veiled (uuid 1) false).shownKey) = some [some (if yes then [1] else [2])] := by
  rw [Engine.perform_submit_fst, submitAttempt_sealedChosen]
  cases yes <;> rfl

theorem earned_submit :
    ((sealedChosen showKey yes).perform (student 3) (.submit (uuid 1))).1.toOption.map
      Reply.earned = some [some (worth yes)] := by
  rw [Engine.perform_submit_fst, submitAttempt_sealedChosen]
  cases showKey <;> cases yes <;> rfl

theorem earned_review :
    ((sealedSubmitted showKey yes).perform (student 4) (.review (uuid 1))).1.toOption.map
      Reply.earned = some [some (worth yes)] := by
  simp only [Engine.perform, Engine.ofRead, Store.review, orRefused_ok, bind, Except.bind,
    Store.requireAttempt_eq_ok_iff.2 (findAttempt_sealedSubmitted showKey yes), load_sealedSubmitted]
  cases yes <;> rfl

theorem earned_summary :
    ((sealedSubmitted showKey yes).perform (student 4) (.summary (uuid 1))).1.toOption.map
      Reply.earned = some [some (worth yes)] := by
  simp only [Engine.perform, Engine.ofRead, Store.summary, orRefused_ok, bind, Except.bind,
    Store.requireAttempt_eq_ok_iff.2 (findAttempt_sealedSubmitted showKey yes), load_sealedSubmitted]
  cases yes <;> rfl

theorem earned_history :
    ((sealedSubmitted showKey yes).perform (student 4) (.history 1 none)).1.toOption.map
      Reply.earned = some [some (worth yes)] := by
  have hlist : (sealedSubmitted showKey yes).store.history (student 4).caller 1 none =
      .ok ((sealedSubmitted showKey yes).store.listStudentAttempts 1 5) := by
    rfl
  simp only [Engine.perform, Engine.ofRead, hlist, listStudentAttempts_sealedSubmitted]
  cases yes <;> rfl

/-- The state is reachable, and the student has an attempt at the sealed quiz in it. -/
def HasSealed (e : Engine) : Prop :=
  e.Reachable ∧ ∃ a, e.store.findAttempt (uuid 1) = some a ∧
    a.studentId = (student 4).caller.userId ∧ e.store.findQuiz a.quizId = some (sealed showKey)

theorem hasSealed_sealedChosen : HasSealed showKey (sealedChosen showKey yes) :=
  ⟨reachable_sealedChosen showKey yes, attempt, findAttempt_sealedChosen showKey yes, rfl,
    findQuiz_sealedChosen showKey yes⟩

theorem not_overflows_submit :
    ¬Overflows ((sealedChosen showKey yes).perform (student 3) (.submit (uuid 1))).1 :=
  Engine.not_overflows_perform
    ((reachable_sealedChosen showKey yes).isSafe (hasSafePoints_sealedChosen showKey yes))
    (student 3) rfl

theorem hasSealed_sealedSubmitted : HasSealed showKey (sealedSubmitted showKey yes) :=
  ⟨reachable_sealedSubmitted showKey yes, sealedClosed yes, findAttempt_sealedSubmitted showKey yes,
    rfl, findQuiz_sealedSubmitted showKey yes⟩

end Sample

/-- Whichever option is correct, the student of a sealed quiz that does not show its key is told
the same by the submission and by the review, what was earned aside, and is refused the result. -/
theorem Engine.withheld_sealed :
    (LooksSame (Reply.veiled (Sample.uuid 1) false)
      ((Sample.sealedChosen false true).perform (Sample.student 3) (.submit (Sample.uuid 1))).1
      ((Sample.sealedChosen false false).perform (Sample.student 3) (.submit (Sample.uuid 1))).1 ∧
    ¬Overflows
      ((Sample.sealedChosen false true).perform (Sample.student 3) (.submit (Sample.uuid 1))).1) ∧
    (∃ cause, ((Sample.sealedSubmitted false true).perform (Sample.student 4)
          (.result (Sample.uuid 1))).1 = .error (.refused cause) ∧
      ((Sample.sealedSubmitted false false).perform (Sample.student 4)
          (.result (Sample.uuid 1))).1 = .error (.refused cause)) ∧
    LooksSame (Reply.veiled (Sample.uuid 1) false)
      ((Sample.sealedSubmitted false true).perform (Sample.student 4) (.review (Sample.uuid 1))).1
      ((Sample.sealedSubmitted false false).perform (Sample.student 4)
        (.review (Sample.uuid 1))).1 := by
  obtain ⟨-, hchosen⟩ := (Sample.reachable_sealedChosen false true).withheld
    (Sample.reachable_sealedChosen false false) (Sample.veiled_sealedChosen false)
    (Sample.findAttempt_sealedChosen false true) (Sample.findQuiz_sealedChosen false true) rfl
    (show (Sample.student 3).caller.isPrivileged = false from rfl)
  obtain ⟨hrefused, hsubmitted⟩ := (Sample.reachable_sealedSubmitted false true).withheld
    (Sample.reachable_sealedSubmitted false false) (Sample.veiled_sealedSubmitted false)
    (Sample.findAttempt_sealedSubmitted false true) (Sample.findQuiz_sealedSubmitted false true) rfl
    (show (Sample.student 4).caller.isPrivileged = false from rfl)
  obtain ⟨hsubmit, hsmall⟩ := hchosen (.submit (Sample.uuid 1)) rfl
  exact ⟨⟨hsubmit, (hsmall (Sample.hasSafePoints_sealedChosen false true)).1⟩, hrefused,
    (hsubmitted (.review (Sample.uuid 1)) rfl).1⟩

/-- A quiz does not release its results, whether or not it shows its key, and states differ in
the key and what it led to alone. By a submission, a review, a summary and a history the student
of an attempt is told which state it is. A quiz that shows its key tells it by the key alone. -/
theorem Engine.outcome_disclosed :
    (Sample.student 4).caller.isPrivileged = false ∧ ∀ showKey : Bool,
    (Sample.sealed showKey).showResultsImmediately = false ∧
    (∀ yes, Sample.HasSealed showKey (Sample.sealedChosen showKey yes) ∧
      Sample.HasSealed showKey (Sample.sealedSubmitted showKey yes)) ∧
    (Sample.sealedChosen showKey true).store.veiled (Sample.uuid 1) =
      (Sample.sealedChosen showKey false).store.veiled (Sample.uuid 1) ∧
    (Sample.sealedSubmitted showKey true).store.veiled (Sample.uuid 1) =
      (Sample.sealedSubmitted showKey false).store.veiled (Sample.uuid 1) ∧
    ((Sample.sealedChosen showKey true).perform (Sample.student 3) (.submit (Sample.uuid 1))).1 ≠
      ((Sample.sealedChosen showKey false).perform (Sample.student 3)
        (.submit (Sample.uuid 1))).1 ∧
    (showKey = true → ¬LooksSame (Reply.veiled (Sample.uuid 1) false)
      ((Sample.sealedChosen showKey true).perform (Sample.student 3) (.submit (Sample.uuid 1))).1
      ((Sample.sealedChosen showKey false).perform (Sample.student 3)
        (.submit (Sample.uuid 1))).1) ∧
    ∀ call ∈ [Call.review (Sample.uuid 1), .summary (Sample.uuid 1), .history 1 none],
      ((Sample.sealedSubmitted showKey true).perform (Sample.student 4) call).1 ≠
        ((Sample.sealedSubmitted showKey false).perform (Sample.student 4) call).1 := by
  have hworth : Sample.worth true ≠ Sample.worth false := by decide
  have htold : ∀ {x y : Except Failure Reply},
      x.toOption.map Reply.earned = some [some (Sample.worth true)] →
      y.toOption.map Reply.earned = some [some (Sample.worth false)] → x ≠ y := by
    rintro x _ hx hy rfl
    rw [hx, Option.some.injEq, List.cons.injEq, Option.some.injEq] at hy
    exact hworth hy.1
  refine ⟨rfl, fun showKey => ⟨rfl, fun yes => ⟨Sample.hasSealed_sealedChosen showKey yes,
    Sample.hasSealed_sealedSubmitted showKey yes⟩, Sample.veiled_sealedChosen showKey,
    Sample.veiled_sealedSubmitted showKey,
    htold (Sample.earned_submit showKey true) (Sample.earned_submit showKey false),
    fun hkey hlooks => ?_, ?_⟩⟩
  · subst hkey
    have hsame := congrArg (Option.map Reply.shownKey) (hlooks.map_toOption_eq
      (Sample.not_overflows_submit true true) (Sample.not_overflows_submit true false))
    simp only [Option.map_map, Function.comp_def, Sample.shownKey_submit] at hsame
    exact absurd hsame (by decide)
  · simp only [List.forall_mem_cons, List.not_mem_nil, false_implies, implies_true, and_true]
    exact ⟨htold (Sample.earned_review showKey true) (Sample.earned_review showKey false),
      htold (Sample.earned_summary showKey true) (Sample.earned_summary showKey false),
      htold (Sample.earned_history showKey true) (Sample.earned_history showKey false)⟩

end QuizEngine
