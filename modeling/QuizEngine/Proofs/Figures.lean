import QuizEngine.Proofs.Provisional
import QuizEngine.Proofs.Timing
import QuizEngine.Proofs.Verdicts

/-!
# Attempts in figures

A summary goes through the questions and looks for the answer to each, where a score goes through
the answers and looks for their questions. In a store whose rows fit together both meet the same
pairs (`Snapshot.Matches.answered_perm`), for a question of an attempt has one answer at most and
every answer is to a question of the quiz. So the figures add up (`Store.Summarizes`).

A summary calls more questions pending than a score does: those a person grades that were not
answered. And it shows the points in the row of the attempt where there are any, which are those
of the answers stored now, for every write of an answer of a submitted attempt writes the points
too (`Engine.Reachable.summary_spec`).
-/

namespace QuizEngine

/-! ## Types -/

/-- The types that occur are those of the questions. -/
theorem sum_countByType (questions : List Question) :
    ((countByType questions).map (·.2)).sum = questions.length := by
  -- a type that does not occur adds nothing
  have hdrop : ∀ types : List QuestionType, ((types.filterMap fun t =>
        if questions.countP (·.type == t) = 0 then none
        else some (t, questions.countP (·.type == t))).map (·.2)).sum =
      (types.map fun t => questions.countP (·.type == t)).sum := by
    intro types
    induction types with
    | nil => rfl
    | cons t rest ih =>
      rw [List.filterMap_cons, List.map_cons, List.sum_cons, ← ih]
      by_cases hzero : questions.countP (·.type == t) = 0 <;> simp [hzero]
  have hone : ∀ type : QuestionType,
      (QuestionType.all.map fun t => if type == t then 1 else 0).sum = 1 := by
    intro type
    cases type <;> rfl
  refine (hdrop QuestionType.all).trans ?_
  clear hdrop
  induction questions with
  | nil => rfl
  | cons q rest ih =>
    simp only [List.countP_cons, List.sum_map_add, ih, hone, List.length_cons]

/-! ## Questions and their answers -/

namespace Snapshot

/-- Every question has an identifier of its own and one answer at most, and every answer is to one
of the questions. -/
structure Matches (snapshot : Snapshot) : Prop where
  distinct : (snapshot.questions.map (·.id)).Nodup
  single : (snapshot.answers.map (·.questionId)).Nodup
  listed : ∀ a ∈ snapshot.answers, ∃ q ∈ snapshot.questions, q.id = a.questionId

/-- The questions that were answered, each with its answer. -/
def answered (snapshot : Snapshot) : List (Question × Answer) :=
  snapshot.questions.filterMap fun q => (snapshot.answerFor q.id).map (q, ·)

namespace Matches

variable {snapshot : Snapshot}

theorem answerFor_eq_some_iff (h : snapshot.Matches) {questionId : Int} {a : Answer} :
    snapshot.answerFor questionId = some a ↔ a ∈ snapshot.answers ∧ a.questionId = questionId :=
  find?_key_eq_some_iff h.single

/-- The questions that were answered are those that count for the score. -/
theorem answered_perm (h : snapshot.Matches) :
    snapshot.answered.Perm (Score.counted snapshot.questions snapshot.answers) := by
  have hquestions : snapshot.answered.Nodup := by
    refine List.Pairwise.filterMap _ ?_ (List.Nodup.of_map _ h.distinct)
    intro q r hne c hc d hd heq
    obtain ⟨a, -, rfl⟩ := Option.map_eq_some_iff.1 hc
    obtain ⟨b, -, rfl⟩ := Option.map_eq_some_iff.1 hd
    exact hne (congrArg Prod.fst heq)
  have hanswers : (Score.counted snapshot.questions snapshot.answers).Nodup := by
    refine List.Pairwise.filterMap _ ?_ (List.Nodup.of_map _ h.single)
    intro a b hne c hc d hd heq
    obtain ⟨q, -, rfl⟩ := Option.map_eq_some_iff.1 hc
    obtain ⟨r, -, rfl⟩ := Option.map_eq_some_iff.1 hd
    exact hne (congrArg Prod.snd heq)
  refine (List.perm_ext_iff_of_nodup hquestions hanswers).2 fun ⟨q, a⟩ => ?_
  rw [Score.mem_counted, Score.questionOf?_eq_some_iff h.distinct]
  simp only [answered, List.mem_filterMap, Option.map_eq_some_iff, h.answerFor_eq_some_iff,
    Prod.mk.injEq]
  constructor
  · rintro ⟨r, hr, b, ⟨hb, hid⟩, rfl, rfl⟩
    exact ⟨hb, hr, hid.symm⟩
  · rintro ⟨ha, hq, hid⟩
    exact ⟨q, hq, a, ⟨ha, hid.symm⟩, rfl, rfl⟩

/-- Every answer counts. -/
theorem map_snd_counted (h : snapshot.Matches) :
    (Score.counted snapshot.questions snapshot.answers).map (·.2) = snapshot.answers := by
  rw [Score.counted, List.map_filterMap]
  have hsome : ∀ a ∈ snapshot.answers,
      ((questionOf? snapshot.questions a.questionId).map (·, a)).map (·.2) = some a := by
    intro a ha
    obtain ⟨q, hq, hid⟩ := h.listed a ha
    rw [(Score.questionOf?_eq_some_iff h.distinct).2 ⟨hq, hid⟩]
    rfl
  rw [List.filterMap_congr hsome, List.filterMap_some]

/-- The answers that are found to the questions are all the answers. -/
theorem filterMap_answerFor_perm (h : snapshot.Matches) :
    (snapshot.questions.filterMap fun q => snapshot.answerFor q.id).Perm snapshot.answers := by
  have hfound : (snapshot.questions.filterMap fun q => snapshot.answerFor q.id) =
      snapshot.answered.map (·.2) := by
    rw [answered, List.map_filterMap]
    simp only [Option.map_map, Function.comp_def, Option.map_id']
  rw [hfound, ← h.map_snd_counted]
  exact h.answered_perm.map _

/-- The questions that have no points are answers that wait for a person, and subjective questions
that were not answered. -/
theorem countP_awaitsPoints (h : snapshot.Matches) :
    (snapshot.questions.countP fun q => awaitsPoints q (snapshot.answerFor q.id)) =
      (Score.counted snapshot.questions snapshot.answers).countP (fun c => Score.isPending c.1 c.2) +
      snapshot.questions.countP fun q => q.type.isSubjective && (snapshot.answerFor q.id).isNone := by
  rw [← h.answered_perm.countP_eq, answered]
  generalize snapshot.questions = questions
  induction questions with
  | nil => rfl
  | cons q rest ih =>
    rw [List.countP_cons, List.countP_cons, List.filterMap_cons, ih]
    cases hfound : snapshot.answerFor q.id with
    | none =>
      have hpending : awaitsPoints q none = q.type.isSubjective := Bool.and_true _
      simp only [hpending, Option.map_none, Option.isNone_none, Bool.and_true]
      exact Nat.add_assoc _ _ _
    | some a =>
      have hpending : awaitsPoints q (some a) = Score.isPending q a := by
        simp [awaitsPoints, Score.isPending, Answer.isGraded]
      simp only [hpending, Option.map_some, Option.isNone_some, Bool.and_false, List.countP_cons]
      exact Nat.add_right_comm _ _ _

end Matches

end Snapshot

/-- An answer is correct, incorrect or without a verdict. -/
theorem countP_verdicts (answers : List Answer) :
    answers.countP (·.isCorrect == some true) + answers.countP (·.isCorrect == some false) +
      answers.countP (·.isCorrect == none) = answers.length := by
  induction answers with
  | nil => rfl
  | cons a rest ih =>
    rw [List.countP_cons, List.countP_cons, List.countP_cons, List.length_cons, ← ih]
    rcases a.isCorrect with _ | _ | _ <;> simp <;> omega

/-- The mean time for an answer, times the number of answers, is no more than the whole. -/
theorem average_mul_le {seconds : Int} (h : 0 ≤ seconds) (answered : Nat) :
    (if answered = 0 then 0 else seconds.tdiv answered) * answered ≤ seconds := by
  split
  · rwa [Int.zero_mul]
  · rename_i hne
    rw [Int.tdiv_eq_ediv_of_nonneg h]
    exact Int.ediv_mul_le _ (by exact_mod_cast hne)

/-! ## Summaries in a store -/

namespace Store

variable {s : Store} {attempt : Attempt} {score : Score}

/-- How many questions that a person grades were not answered. -/
def unansweredSubjective (s : Store) (attempt : Attempt) : Nat :=
  s.questions.values.countP fun q => q.quizId == attempt.quizId && q.type.isSubjective &&
    (s.findByQuestion attempt.id q.id).isNone

/-- The figures of an attempt agree with the rows of the store and with the score of its answers. -/
structure Summarizes (s : Store) (attempt : Attempt) (score : Score) (summary : AttemptSummary) :
    Prop where
  total : summary.questions.total = s.questions.values.countP (·.quizId == attempt.quizId)
  byType : (summary.questions.byType.map (·.2)).sum = summary.questions.total
  answered : summary.questions.answered = s.answers.values.countP (·.attemptId == attempt.id)
  /-- The questions without an answer are counted without an underflow. -/
  answered_le : summary.questions.answered ≤ summary.questions.total
  answered_add_unanswered :
    summary.questions.answered + summary.questions.unanswered = summary.questions.total
  verdicts : summary.score.correct + summary.score.incorrect + summary.score.ungraded =
    summary.questions.answered
  pendingCount : summary.pendingCount = score.pendingCount + s.unansweredSubjective attempt
  totalPoints : summary.score.totalPoints = score.totalPoints
  earnedPoints : summary.score.earnedPoints = score.earnedPoints
  percentage : summary.score.percentage = score.percentage
  /-- The mean is not taken of no questions. -/
  average_eq : summary.time.averageSecondsPerQuestion =
    if summary.questions.answered = 0 then 0
    else summary.time.totalSeconds.tdiv summary.questions.answered
  average_mul_le : summary.time.averageSecondsPerQuestion * summary.questions.answered ≤
    summary.time.totalSeconds

/-- What is read of an attempt belongs together. -/
theorem Sound.matches_of_load (h : s.Sound) (ha : s.findAttempt attempt.id = some attempt)
    {snapshot : Snapshot} (hload : Snapshot.load s attempt = .ok snapshot) : snapshot.Matches := by
  obtain ⟨quiz, -, rfl⟩ := Snapshot.load_eq_ok_iff.1 hload
  refine ⟨h.nodup_listQuestions _,
    List.pairwise_map.2 ((h.pairwise_listAnswers _).imp fun hab => Int.ne_of_lt hab), fun a hmem => ?_⟩
  obtain ⟨hstored, hatt⟩ := (h.mem_listAnswers _ a).1 hmem
  obtain ⟨q, hq, hqq, -⟩ := h.exists_question ha hstored hatt
  have hid := h.id_of_findQuestion hq
  exact ⟨q, (h.mem_listQuestions _ q).2 ⟨hid.symm ▸ hq, hqq⟩, hid⟩

theorem length_listQuestions (s : Store) (quizId : Int) :
    (s.listQuestions quizId).length = s.questions.values.countP (·.quizId == quizId) := by
  rw [listQuestions, List.length_mergeSort, List.countP_eq_length_filter]

theorem length_listAnswers (s : Store) (attemptId : Uuid) :
    (s.listAnswers attemptId).length = s.answers.values.countP (·.attemptId == attemptId) := by
  rw [listAnswers, List.length_mergeSort, List.countP_eq_length_filter]

/-- The answer to a question is found among those of the attempt, or in the store. -/
theorem Sound.answerFor_eq (h : s.Sound) (ha : s.findAttempt attempt.id = some attempt)
    {snapshot : Snapshot} (hload : Snapshot.load s attempt = .ok snapshot) (questionId : Int) :
    snapshot.answerFor questionId = s.findByQuestion attempt.id questionId := by
  have hmatches := h.matches_of_load ha hload
  obtain ⟨quiz, -, rfl⟩ := Snapshot.load_eq_ok_iff.1 hload
  refine Option.ext fun a => ?_
  rw [hmatches.answerFor_eq_some_iff, h.mem_listAnswers, h.findByQuestion_eq_some_iff, and_assoc]

/-- The subjective questions that have no answer among those of the attempt are those that have
none in the store. -/
theorem Sound.countP_unanswered (h : s.Sound) (ha : s.findAttempt attempt.id = some attempt)
    {snapshot : Snapshot} (hload : Snapshot.load s attempt = .ok snapshot) :
    (snapshot.questions.countP fun q =>
      q.type.isSubjective && (snapshot.answerFor q.id).isNone) = s.unansweredSubjective attempt := by
  simp only [h.answerFor_eq ha hload]
  obtain ⟨quiz, -, rfl⟩ := Snapshot.load_eq_ok_iff.1 hload
  rw [listQuestions, (List.mergeSort_perm _ _).countP_eq, List.countP_filter, unansweredSubjective]
  refine List.countP_congr fun q _ => ?_
  rw [Bool.and_comm, Bool.and_assoc]

/-- The points in the row of an attempt, where there are any, are those of its answers. -/
theorem getD_of_scored (hall : s.AllScored) (hstamped : s.AllStamped)
    (ha : s.findAttempt attempt.id = some attempt) (hscore : s.ScoresTo attempt score) :
    attempt.totalPoints.getD score.totalPoints = score.totalPoints ∧
    attempt.earnedPoints.getD score.earnedPoints = score.earnedPoints ∧
    attempt.percentage.getD score.percentage = score.percentage := by
  cases hg : attempt.status.isGradeable with
  | true =>
    obtain ⟨quiz, stored, hquiz, hstored, hrow⟩ := hall _ attempt ha hg
    obtain rfl := hscore.eq ⟨quiz, hquiz, hstored⟩
    rw [hrow.totalPoints, hrow.earnedPoints, hrow.percentage]
    exact ⟨rfl, rfl, rfl⟩
  | false =>
    have hstamp := hstamped _ attempt ha
    have htotal : attempt.totalPoints = none := by simpa using hstamp.totalPoints.trans hg
    have hearned : attempt.earnedPoints = none := by simpa using hstamp.earnedPoints.trans hg
    have hpercentage : attempt.percentage = none := by simpa using hstamp.percentage.trans hg
    rw [htotal, hearned, hpercentage]
    exact ⟨rfl, rfl, rfl⟩

/-- What is read of an attempt belongs together, and so do its figures. -/
theorem Sound.summarizes (h : s.Sound) (hall : s.AllScored) (hstamped : s.AllStamped)
    (ha : s.findAttempt attempt.id = some attempt) {snapshot : Snapshot}
    (hload : Snapshot.load s attempt = .ok snapshot) (hscore : snapshot.score = .ok score)
    {now : Instant} (htime : 0 ≤ attempt.timeSpentSeconds.getD (attempt.elapsedSeconds now)) :
    s.Summarizes attempt score (.of attempt snapshot score now) := by
  have hmatches := h.matches_of_load ha hload
  have hunanswered := h.countP_unanswered ha hload
  obtain ⟨quiz, hquiz, hsnapshot⟩ := Snapshot.load_eq_ok_iff.1 hload
  have hscored : s.ScoresTo attempt score := ⟨quiz, hquiz, by rwa [hsnapshot] at hscore⟩
  obtain ⟨htotal, hearned, hpercentage⟩ := getD_of_scored hall hstamped ha hscored
  have hquestions : snapshot.questions.length =
      s.questions.values.countP (·.quizId == attempt.quizId) := by
    rw [hsnapshot, length_listQuestions]
  have hanswers : snapshot.answers.length =
      s.answers.values.countP (·.attemptId == attempt.id) := by
    rw [hsnapshot, length_listAnswers]
  have hanswered : (AttemptSummary.of attempt snapshot score now).questions.answered =
      snapshot.answers.length := by
    rw [← hmatches.filterMap_answerFor_perm.length_eq]
    exact congrArg List.length List.filterMap_map
  have hle : snapshot.answers.length ≤ snapshot.questions.length := by
    rw [← hmatches.filterMap_answerFor_perm.length_eq]
    exact List.length_filterMap_le _ _
  have haverage : (AttemptSummary.of attempt snapshot score now).time.averageSecondsPerQuestion =
      if (AttemptSummary.of attempt snapshot score now).questions.answered = 0 then 0
      else (attempt.timeSpentSeconds.getD (attempt.elapsedSeconds now)).tdiv
        (AttemptSummary.of attempt snapshot score now).questions.answered := by
    simp only [AttemptSummary.of, List.isEmpty_iff, List.length_eq_zero_iff]
  exact {
    total := hquestions
    byType := sum_countByType _
    answered := hanswered.trans hanswers
    answered_le := hanswered ▸ hle
    answered_add_unanswered := Nat.add_sub_cancel' (hanswered ▸ hle)
    verdicts := countP_verdicts _
    pendingCount := by
      rw [← hunanswered, Score.pendingCount_of_aggregate hscore, ← hmatches.countP_awaitsPoints]
      exact List.countP_map
    totalPoints := htotal
    earnedPoints := hearned
    percentage := hpercentage
    average_eq := haverage
    average_mul_le := haverage ▸ average_mul_le htime _ }

/-- A summary is computed from the rows and the score of the answers stored. -/
theorem exists_score_of_summary {caller : Caller} {now : Instant} {attemptId : Uuid}
    {summary : AttemptSummary} (h : s.summary caller now attemptId = .ok summary) :
    ∃ attempt snapshot score, s.findAttempt attemptId = some attempt ∧
      Snapshot.load s attempt = .ok snapshot ∧ snapshot.score = .ok score ∧
      summary = .of attempt snapshot score now := by
  simp only [Store.summary, bind_eq_ok_iff, orRefused_eq_ok_iff, requireAttempt_eq_ok_iff,
    ite_error_eq_ok_iff, orOverflow_eq_ok_iff, pure, Except.pure, Except.ok.injEq] at h
  obtain ⟨attempt, ha, -, snapshot, hload, score, hscore, rfl⟩ := h
  exact ⟨attempt, snapshot, score, ha, hload, hscore, rfl⟩

end Store

/-! ## Summaries in a run -/

namespace Engine

variable {e : Engine}

/-- The time that an attempt took is not negative. -/
theorem Reachable.timeSpentSeconds_nonneg (h : e.Reachable) {attemptId : Uuid} {attempt : Attempt}
    (ha : e.store.findAttempt attemptId = some attempt) (now : Instant) :
    0 ≤ attempt.timeSpentSeconds.getD (attempt.elapsedSeconds now) := by
  obtain ⟨e₀, trace, hi, hrun⟩ := h
  by_cases hopen : attempt.status = .inProgress
  · have hnone : attempt.timeSpentSeconds = none := by
      simpa [hopen] using (Reachable.allStamped ⟨e₀, trace, hi, hrun⟩ _ attempt ha).timeSpentSeconds
    rw [hnone]
    exact now.elapsedSeconds_nonneg _
  · have hkeeps := hrun.keepsTimes hi
    obtain ⟨event, hmem, closing, hclosing⟩ := hkeeps.isClosed _ attempt ha hopen
    obtain ⟨found, hfound, htime⟩ := hkeeps.closed event hmem _ closing hclosing
    obtain rfl := Option.some.inj (ha.symm.trans hfound)
    rw [htime, Option.getD_some, storedSeconds]
    exact Int.le_min.2 ⟨closing.elapsedSeconds_nonneg _, by decide⟩

/-- A reply to a read holds what was read. -/
theorem ofRead_eq_ok_iff {α : Type} (e : Engine) (f : α → Reply) (result : Except Failure α)
    (reply : Reply) : (e.ofRead f result).1 = .ok reply ↔ ∃ a, result = .ok a ∧ f a = reply := by
  cases result <;> simp [ofRead, Except.map]

/-- A summary that is returned agrees with the rows stored and with the score of the answers, and
what a summary calls fully graded no result calls provisional. -/
theorem Reachable.summary_spec (h : e.Reachable) {ctx : Context} {attemptId : Uuid}
    {summary : AttemptSummary} (hok : (e.perform ctx (.summary attemptId)).1 = .ok (.summary summary)) :
    ∃ attempt score, e.store.findAttempt attemptId = some attempt ∧
      e.store.ScoresTo attempt score ∧ e.store.Summarizes attempt score summary ∧
      (summary.fullyGraded = true → ∀ ctx' result,
        (e.perform ctx' (.result attemptId)).1 = .ok (.result result) → result.provisional = false) := by
  obtain ⟨read, hread, hreply⟩ := (ofRead_eq_ok_iff ..).1 hok
  obtain rfl := (Reply.summary.inj hreply).symm
  obtain ⟨attempt, snapshot, score, ha, hload, hscore, hof⟩ := Store.exists_score_of_summary hread
  obtain rfl := h.sound.id_of_findAttempt ha
  have hfigures : e.store.Summarizes attempt score summary :=
    hof ▸ h.sound.summarizes h.allScored h.allStamped ha hload hscore
      (h.timeSpentSeconds_nonneg ha ctx.now)
  obtain ⟨quiz, hquiz, rfl⟩ := Snapshot.load_eq_ok_iff.1 hload
  refine ⟨attempt, score, ha, ⟨quiz, hquiz, hscore⟩, hfigures, fun hfull ctx' result hresult => ?_⟩
  obtain ⟨shown, hshown, hreply'⟩ := (ofRead_eq_ok_iff ..).1 hresult
  obtain rfl := (Reply.result.inj hreply').symm
  obtain ⟨counted, hcounted, hprovisional, -⟩ := Store.exists_score_of_result hshown
  obtain rfl := Option.some.inj (ha.symm.trans hcounted.found)
  -- a score counts the same answers whatever it takes to pass
  obtain ⟨passingScore, hscore'⟩ := hcounted.isScore
  have hpending : counted.pendingCount = score.pendingCount :=
    (Score.pendingCount_of_aggregate hscore').trans (Score.pendingCount_of_aggregate hscore).symm
  have hnone : summary.pendingCount = 0 := beq_iff_eq.1 hfull
  have hsum := hfigures.pendingCount
  rw [hprovisional, Bool.eq_false_iff, ne_eq, counted.provisional_eq_true_iff]
  omega

end Engine

namespace Sample

theorem load_submitted :
    Snapshot.load submitted.store closed = .ok ⟨quiz, [choice, essay], answers⟩ := by
  rw [store_submitted]
  exact load_answered

theorem scoresTo_submitted : submitted.store.ScoresTo closed score := by
  obtain ⟨stored, hstored, hsnapshot⟩ := Snapshot.load_eq_ok_iff.1 load_submitted
  obtain ⟨rfl, hquestions, hanswers⟩ := Snapshot.mk.inj hsnapshot
  refine ⟨quiz, hstored, ?_⟩
  rw [← hquestions, ← hanswers]
  rfl

/-- The student reads the figures of the submitted attempt. -/
theorem exists_summary_submitted : ∃ summary,
    (submitted.perform (student 5) (.summary (uuid 1))).1 = .ok (.summary summary) := by
  have hfound : submitted.store.requireAttempt (uuid 1) = .ok closed :=
    Store.requireAttempt_eq_ok_iff.2 findAttempt_submitted
  simp only [Engine.perform, Engine.ofRead, Store.summary, hfound, orRefused_ok, bind, Except.bind,
    load_submitted]
  exact ⟨_, rfl⟩

end Sample

/-- The figures of the submitted attempt of the sample run count both of its answers, and the essay
waits for points. -/
theorem Engine.summary_spec_submitted : ∃ summary,
    (Sample.submitted.perform (Sample.student 5) (.summary (Sample.uuid 1))).1 =
      .ok (.summary summary) ∧
    summary.questions.answered = 2 ∧ summary.questions.unanswered = 0 ∧
      summary.pendingCount = 1 := by
  obtain ⟨summary, hok⟩ := Sample.exists_summary_submitted
  obtain ⟨attempt, score, ha, hscore, hfigures, -⟩ := Sample.reachable_submitted.summary_spec hok
  obtain rfl := Option.some.inj (Sample.findAttempt_submitted.symm.trans ha)
  have hanswered : summary.questions.answered = 2 := by
    rw [hfigures.answered, Sample.store_submitted]
    decide +kernel
  have htotal : summary.questions.total = 2 := by
    rw [hfigures.total, Sample.store_submitted]
    decide +kernel
  have hsum := hfigures.answered_add_unanswered
  have hpending : summary.pendingCount = 1 := by
    rw [hfigures.pendingCount, hscore.eq Sample.scoresTo_submitted, Sample.store_submitted]
    decide +kernel
  exact ⟨summary, hok, hanswered, by omega, hpending⟩

end QuizEngine
