import QuizEngine.Engine
import QuizEngine.Proofs.Integrity

/-!
# What each call writes

Every call of a sound store comes down to writes of a few kinds, also when it fails midway:
a start starts one attempt (`writes_startAttempt`), a recorded answer is handed in and
perhaps judged (`recordAnswer_cases`), a submission judges answers and then submits
(`submitAttempt_cases`), and a grade is written once whatever conflicts come before
(`gradeAnswer_cases`). Batches of grades are in `QuizEngine.Proofs.Turns`.
-/

namespace QuizEngine

/-- Whoever has a score can be graded. -/
theorem Score.isGradeable_status (score : Score) : score.status.isGradeable = true := by
  unfold Score.status
  split <;> rfl

theorem Score.status_ne_inProgress (score : Score) : score.status ≠ .inProgress := by
  unfold Score.status
  split <;> nofun

namespace Store

variable {s : Store} {ctx : Context}

/-! ## Starting -/

theorem writes_startAttempt (hf : s.IsFresh ctx.fresh) (quizId : Int) (client : ClientInfo) :
    WritesOnly (· = .start ctx.fresh) s (s.startAttempt ctx quizId client).2 := by
  unfold startAttempt
  cases ho : s.openQuiz ctx quizId with
  | error e => exact .refl
  | ok quiz =>
    cases hn : nextAttempt quiz (s.latestAttempt quizId ctx.caller.userId)
        (s.countAttempts quizId ctx.caller.userId) with
    | error e => simpa [bind, Except.bind, hn, Outcome.refused] using WritesOnly.refl
    | ok decision =>
      cases decision with
      | resume current => simpa [bind, Except.bind, hn] using WritesOnly.refl
      | create number =>
        simp only [bind, Except.bind, hn, insertAttempt]
        split
        · exact .refl
        · rename_i t heq
          split at heq
          · cases heq
          · rw [← Except.ok.inj heq]
            exact .single rfl (.start ho hn hf)

/-! ## Versions -/

/-- A version that is held against the stored one is the stored one, or the write is
refused; besides, a forced conflict may be used up. -/
theorem checkVersion_cases (s : Store) (attempt : Attempt) :
    (∃ e t, s.checkVersion attempt = (.error e, t) ∧ WritesOnly (· = .aside) s t) ∨
    (s.checkVersion attempt = (.ok (), s) ∧
      ∃ stored, s.findAttempt attempt.id = some stored ∧ stored.version = attempt.version) := by
  unfold checkVersion
  split
  · exact Or.inl ⟨_, _, rfl, .refl⟩
  · rename_i stored hs
    split
    · exact Or.inl ⟨_, _, rfl, .single rfl .aside⟩
    · by_cases hv : stored.version = attempt.version
      · exact Or.inr ⟨by rw [if_pos hv], stored, hs, hv⟩
      · exact Or.inl ⟨lateWrite attempt.id, s, by rw [if_neg hv], .refl⟩

theorem updateAttempt_cases (s : Store) (attempt : Attempt) :
    (∃ e t, s.updateAttempt attempt = (.error e, t) ∧ WritesOnly (· = .aside) s t) ∨
    s.updateAttempt attempt = (.ok (nextVersion attempt), s.putAttempt (nextVersion attempt)) := by
  unfold updateAttempt
  rcases s.checkVersion_cases attempt with ⟨e, t, he, hw⟩ | ⟨hv, -⟩
  · exact Or.inl ⟨e, t, by rw [he], hw⟩
  · exact Or.inr (by rw [hv])

/-! ## Grades -/

theorem gradedRow?_eq_ok {answer row : Answer} (h : s.gradedRow? answer = .ok row) :
    ∃ stored, s.findAnswer answer.id = some stored ∧ row = stored.withGradeOf answer := by
  unfold gradedRow? at h
  split at h
  · cases h
  · rename_i stored _ hs
    exact ⟨stored, hs, (Except.ok.inj h).symm⟩
  · cases h

theorem saveGrade_eq_ok {answer row : Answer} {t : Store} (h : s.saveGrade answer = .ok (row, t)) :
    (∃ stored, s.findAnswer answer.id = some stored ∧ row = stored.withGradeOf answer) ∧
      t = s.putAnswer row := by
  unfold saveGrade at h
  cases hr : s.gradedRow? answer with
  | error e => simp [hr, Except.map] at h
  | ok graded =>
    simp only [hr, Except.map, Except.ok.injEq, Prod.mk.injEq] at h
    obtain ⟨rfl, rfl⟩ := h
    exact ⟨gradedRow?_eq_ok hr, rfl⟩

theorem saveGradeWithAttempt_cases (s : Store) (answer : Answer) (attempt : Attempt) :
    (∃ e t, s.saveGradeWithAttempt answer attempt = (.error e, t) ∧ WritesOnly (· = .aside) s t) ∨
    ∃ row stored, s.gradedRow? answer = .ok row ∧
      s.findAttempt attempt.id = some stored ∧ stored.version = attempt.version ∧
      s.saveGradeWithAttempt answer attempt = (.ok (row, nextVersion attempt),
        (s.putAnswer row).putAttempt (nextVersion attempt)) := by
  unfold saveGradeWithAttempt
  cases hr : s.gradedRow? answer with
  | error e => exact Or.inl ⟨e, s, rfl, .refl⟩
  | ok row =>
    rcases s.checkVersion_cases attempt with ⟨e, t, he, hw⟩ | ⟨hv, stored, hs, hver⟩
    · exact Or.inl ⟨e, t, by simp only [he], hw⟩
    · exact Or.inr ⟨row, stored, rfl, hs, hver, by simp only [hv]⟩

/-! ## Recording -/

theorem gradeAtOnce_cases {quiz : Quiz} {question : Question} {stored : Answer} {attempt : Attempt}
    {now : Instant} (hs : s.findAnswer stored.id = some stored)
    (ha : s.findAttempt stored.attemptId = some attempt) (hp : attempt.status = .inProgress)
    (hquiz : s.findQuiz attempt.quizId = some quiz)
    (hq : s.findQuestion stored.questionId = some question) :
    s.gradeAtOnce quiz question stored now = (stored, s) ∨
    ∃ correct, quiz.autoGrade = true ∧ question.verdict? stored.payload = some correct ∧
      s.gradeAtOnce quiz question stored now = (stored.withVerdict question correct now,
        s.putAnswer (stored.withVerdict question correct now)) ∧
      s.Writes (.judge stored.attemptId) (s.putAnswer (stored.withVerdict question correct now)) := by
  unfold gradeAtOnce
  split
  · exact Or.inl rfl
  · rename_i graded hg
    split at hg
    · rename_i hauto
      obtain ⟨correct, hc, rfl⟩ := Option.map_eq_some_iff.1 hg
      split
      · rename_i saved t hsave
        obtain ⟨⟨old, hold, rfl⟩, rfl⟩ := saveGrade_eq_ok hsave
        rw [Answer.id_withVerdict, hs, Option.some.injEq] at hold
        subst hold
        exact Or.inr ⟨correct, hauto, hc, rfl, .judge hs ha hp hquiz hauto hq hc⟩
      · exact Or.inl rfl
    · cases hg

/-- A recorded answer is handed in, and perhaps judged at once; one that is refused changes
nothing. -/
theorem recordAnswer_cases (hf : s.IsFresh ctx.fresh) (attemptId : Uuid) (questionId : Int)
    (raw : Json) (seconds : Option Int) :
    (∃ e, s.recordAnswer ctx attemptId questionId raw seconds = (.error (.refused e), s)) ∨
    ∃ quiz question payload row answer t,
      s.recordable ctx attemptId questionId raw = .ok (quiz, question, payload) ∧
      row = s.upsertedAnswer (.ungraded ctx.fresh attemptId questionId payload seconds ctx.now) ∧
      s.Writes (.handIn attemptId questionId) (s.putAnswer row) ∧
      WritesOnly (· = .judge attemptId) (s.putAnswer row) t ∧
      s.recordAnswer ctx attemptId questionId raw seconds = (.ok answer, t) := by
  cases hr : s.recordable ctx attemptId questionId raw with
  | error e => exact Or.inl ⟨e, by rw [recordAnswer, hr]; rfl⟩
  | ok accepted =>
    obtain ⟨quiz, question, payload⟩ := accepted
    obtain ⟨attempt, ha, _, hp, hquiz, _, hq, _⟩ := recordable_eq_ok_iff.1 hr
    obtain ⟨row, hrow⟩ : ∃ row, row = s.upsertedAnswer
      (.ungraded ctx.fresh attemptId questionId payload seconds ctx.now) := ⟨_, rfl⟩
    have hcall : s.recordAnswer ctx attemptId questionId raw seconds =
        (.ok ((s.putAnswer row).gradeAtOnce quiz question row ctx.now).1,
          ((s.putAnswer row).gradeAtOnce quiz question row ctx.now).2) := by
      rw [recordAnswer, hr, hrow]
      rfl
    refine Or.inr ⟨quiz, question, payload, row, _, _, rfl, hrow, hrow ▸ .handIn hf hr, ?_, hcall⟩
    have hs := s.findAnswer_putAnswer_self row
    have hatt : row.attemptId = attemptId := hrow ▸ s.attemptId_upsertedAnswer _
    have hqid : row.questionId = questionId := hrow ▸ s.questionId_upsertedAnswer _
    rcases gradeAtOnce_cases hs (hatt ▸ ha) hp hquiz (hqid ▸ hq) with h | ⟨_, _, _, h, hw⟩
    · rw [h]
      exact .refl
    · rw [h]
      exact .single (congrArg Write.judge hatt) hw

/-! ## Submitting -/

/-- The answer bears the verdict of the rules on it, given at that time. -/
def IsJudged (questions : List Question) (now : Instant) (row : Answer) : Prop :=
  ∀ question correct, questionOf? questions row.questionId = some question →
    question.verdict? row.payload = some correct → row.withVerdict question correct now = row

/-- In a list of rows with different identifiers one is replaced in its place. -/
theorem map_replace_middle {done rest : List Answer} {a row : Answer}
    (hn : ((done ++ a :: rest).map (·.id)).Nodup) (hid : row.id = a.id) :
    ((done ++ a :: rest).map fun b => if b.id = row.id then row else b) = done ++ row :: rest := by
  rw [List.map_append, List.map_cons, List.nodup_append] at hn
  obtain ⟨-, hrest, hdone⟩ := hn
  rw [List.nodup_cons] at hrest
  have hmap : ∀ rows : List Answer, (∀ b ∈ rows, b.id ≠ a.id) →
      (rows.map fun b => if b.id = row.id then row else b) = rows := by
    intro rows hne
    refine Eq.trans (List.map_congr_left fun b hb => if_neg ?_) (List.map_id _)
    rw [hid]
    exact hne b hb
  rw [List.map_append, List.map_cons, if_pos hid.symm, hmap done, hmap rest]
  · intro b hb heq
    exact hrest.1 (heq ▸ List.mem_map_of_mem hb)
  · intro b hb
    exact hdone _ (List.mem_map_of_mem hb) _ (List.mem_cons_self ..)

/-- What judging again makes of one answer: no rule decides on it, or the verdict is written
onto it. -/
inductive JudgesAgain (questions : List Question) (now : Instant) (s : Store) (a : Answer) :
    Answer → Store → Prop where
  | keep (isJudged : IsJudged questions now a) : JudgesAgain questions now s a a s
  | write {question : Question} {correct : Bool} {stored : Answer}
      (ofQuestion : questionOf? questions a.questionId = some question)
      (hasVerdict : question.verdict? a.payload = some correct)
      (isStored : s.findAnswer a.id = some stored) :
      JudgesAgain questions now s a (stored.withGradeOf (a.withVerdict question correct now))
        (s.putAnswer (stored.withGradeOf (a.withVerdict question correct now)))

/-- Judging a list again judges the first answer and then the others, unless a grade cannot
be written. -/
theorem regrade_cons_cases (questions : List Question) (now : Instant) (s : Store) (a : Answer)
    (rest : List Answer) :
    (∃ e, regrade questions now s (a :: rest) = (.error e, s)) ∨
    ∃ b t, JudgesAgain questions now s a b t ∧
      ((∃ e u, regrade questions now t rest = (.error e, u) ∧
          regrade questions now s (a :: rest) = (.error e, u)) ∨
        ∃ judged u, regrade questions now t rest = (.ok judged, u) ∧
          regrade questions now s (a :: rest) = (.ok (b :: judged), u)) := by
  rw [regrade]
  split
  · rename_i hnone
    have hkeep : IsJudged questions now a := by
      intro question correct hq hc
      simp [hq, Answer.autoGraded?, hc] at hnone
    refine Or.inr ⟨a, s, .keep hkeep, ?_⟩
    rcases regrade questions now s rest with ⟨e | judged, u⟩
    · exact Or.inl ⟨e, u, rfl, rfl⟩
    · exact Or.inr ⟨judged, u, rfl, rfl⟩
  · rename_i graded hg
    obtain ⟨question, hq, hgr⟩ := Option.bind_eq_some_iff.1 hg
    obtain ⟨correct, hc, rfl⟩ := Option.map_eq_some_iff.1 hgr
    split
    · exact Or.inl ⟨_, rfl⟩
    · rename_i saved t hsave
      obtain ⟨⟨stored, hstored, rfl⟩, rfl⟩ := saveGrade_eq_ok hsave
      refine Or.inr ⟨_, _, .write hq hc hstored, ?_⟩
      rcases regrade questions now _ rest with ⟨e | judged, u⟩
      · exact Or.inl ⟨e, u, rfl, rfl⟩
      · exact Or.inr ⟨judged, u, rfl, rfl⟩

/-- An answer that is judged again is replaced in its place, by a write of the right kind. -/
theorem JudgesAgain.spec {attempt : Attempt} {quiz : Quiz} {now : Instant} {a b : Answer} {t : Store}
    (hj : JudgesAgain (s.listQuestions attempt.quizId) now s a b t) (h : s.Keyed)
    (hp : attempt.status = .inProgress) (hauto : quiz.autoGrade = true)
    (ha : s.findAttempt attempt.id = some attempt) (hquiz : s.findQuiz attempt.quizId = some quiz)
    {done rest : List Answer} (hl : s.listAnswers attempt.id = done ++ a :: rest) :
    WritesOnly (· = .judge attempt.id) s t ∧ t.listAnswers attempt.id = done ++ b :: rest ∧
      IsJudged (s.listQuestions attempt.quizId) now b := by
  obtain ⟨hs, hatt⟩ := (h.mem_listAnswers attempt.id a).1 (by rw [hl]; simp)
  cases hj with
  | keep isJudged => exact ⟨.refl, hl, isJudged⟩
  | @write question correct stored ofQuestion hasVerdict isStored =>
    obtain rfl := Option.some.inj (hs.symm.trans isStored)
    obtain ⟨hq, -⟩ := (h.questionOf?_listQuestions _ _ _).1 ofQuestion
    rw [Answer.withGradeOf_withVerdict]
    have hw : s.Writes (.judge attempt.id) (s.putAnswer (a.withVerdict question correct now)) :=
      hatt ▸ .judge hs (hatt ▸ ha) hp hquiz hauto hq hasVerdict
    have hplace : s.findAnswer (a.withVerdict question correct now).id = some a := hs
    refine ⟨.single rfl hw, ?_, ?_⟩
    · rw [h.listAnswers_putAnswer hplace rfl rfl rfl, hl]
      exact map_replace_middle (hl ▸ h.nodup_listAnswers attempt.id) rfl
    · intro question' correct' hq' hc'
      obtain rfl := Option.some.inj (hq'.symm.trans ofQuestion)
      obtain rfl := Option.some.inj (hc'.symm.trans hasVerdict)
      rfl

/-- Judging the answers of an attempt again, from some place in their list on. -/
theorem regrade_spec {attempt : Attempt} {quiz : Quiz} (now : Instant)
    (hp : attempt.status = .inProgress) (hauto : quiz.autoGrade = true) :
    ∀ (rows done : List Answer) {s : Store}, s.Keyed → s.findAttempt attempt.id = some attempt →
      s.findQuiz attempt.quizId = some quiz → s.listAnswers attempt.id = done ++ rows →
      WritesOnly (· = .judge attempt.id) s
        (regrade (s.listQuestions attempt.quizId) now s rows).2 ∧
      ∀ judged, (regrade (s.listQuestions attempt.quizId) now s rows).1 = .ok judged →
        (regrade (s.listQuestions attempt.quizId) now s rows).2.listAnswers attempt.id =
          done ++ judged ∧
        ∀ row ∈ judged, IsJudged (s.listQuestions attempt.quizId) now row
  | [], done, s, _, _, _, hl => by
    refine ⟨.refl, ?_⟩
    rintro judged hj
    obtain rfl := Except.ok.inj hj
    exact ⟨hl, by simp⟩
  | a :: rest, done, s, h, ha, hquiz, hl => by
    rcases regrade_cons_cases (s.listQuestions attempt.quizId) now s a rest with
      ⟨e, he⟩ | ⟨b, t, hj, hrest⟩
    · rw [he]
      exact ⟨.refl, by simp⟩
    · obtain ⟨hw, hlist, hb⟩ := hj.spec h hp hauto ha hquiz hl
      have hcat := hw.sameCatalog
      have ha' : t.findAttempt attempt.id = some attempt := by
        rw [findAttempt, hw.attempts_eq (by rintro _ rfl; rfl)]
        exact ha
      have hquiz' := (hcat.findQuiz_eq attempt.quizId).trans hquiz
      have ih := regrade_spec now hp hauto rest (done ++ [b]) (hw.keyed h) ha' hquiz'
        (by simpa using hlist)
      rw [hcat.listQuestions_eq] at ih
      obtain ⟨hws, hok⟩ := ih
      rcases hrest with ⟨e, u, he, heq⟩ | ⟨judged, u, hr, heq⟩
      · rw [he] at hws
        rw [heq]
        exact ⟨hw.trans hws, by simp⟩
      · rw [hr] at hws hok
        rw [heq]
        refine ⟨hw.trans hws, ?_⟩
        rintro _ ⟨⟩
        obtain ⟨hlist', hall⟩ := hok judged rfl
        exact ⟨by simpa using hlist', List.forall_mem_cons.2 ⟨hb, hall⟩⟩

/-- When all answers of an open attempt are judged, the attempt is still open, and what is
read of it are the judged answers. -/
theorem regraded_ready {attempt : Attempt} {quiz : Quiz} {judged : List Answer} {t : Store}
    (h : s.Sound) (hopen : s.openAttempt ctx.caller attempt.id = .ok attempt)
    (hquiz : s.findQuiz attempt.quizId = some quiz) (hauto : quiz.autoGrade = true)
    (hr : regrade (s.listQuestions attempt.quizId) ctx.now s (s.listAnswers attempt.id) =
      (.ok judged, t)) :
    WritesOnly (· = .judge attempt.id) s t ∧
      t.openAttempt ctx.caller attempt.id = .ok attempt ∧
      Snapshot.load t attempt = .ok ⟨quiz, s.listQuestions attempt.quizId, judged⟩ ∧
      ∀ row ∈ t.listAnswers attempt.id, ∀ question correct,
        t.findQuestion row.questionId = some question →
        question.verdict? row.payload = some correct →
        row.withVerdict question correct ctx.now = row := by
  obtain ⟨ha, hs, hp⟩ := openAttempt_eq_ok_iff.1 hopen
  obtain ⟨hw, hok⟩ := regrade_spec ctx.now hp hauto (s.listAnswers attempt.id) [] h.toKeyed ha hquiz rfl
  rw [hr] at hw hok
  obtain ⟨hlist, hall⟩ := hok judged rfl
  rw [List.nil_append] at hlist
  have hcat := hw.sameCatalog
  have hfind : ∀ id, t.findAttempt id = s.findAttempt id := by
    intro id
    rw [findAttempt, hw.attempts_eq (by rintro _ rfl; rfl), findAttempt]
  refine ⟨hw, openAttempt_eq_ok_iff.2 ⟨by rw [hfind, ha], hs, hp⟩, ?_, ?_⟩
  · refine Snapshot.load_eq_ok_iff.2 ⟨quiz, by rw [hcat.findQuiz_eq, hquiz], ?_⟩
    rw [hcat.listQuestions_eq, hlist]
  · -- the question of an answer is one of the questions of the quiz
    intro row hrow question correct hq hc
    obtain ⟨hstored, hatt⟩ := ((hw.sound h).mem_listAnswers attempt.id row).1 hrow
    obtain ⟨a, q, ha', hq', hqq, _⟩ := (hw.sound h).hasQuestion _ row hstored
    rw [hatt, hfind, ha, Option.some.injEq] at ha'
    rw [hq, Option.some.injEq] at hq'
    subst ha' hq'
    refine hall row (hlist ▸ hrow) question correct ?_ hc
    rw [← hcat.listQuestions_eq]
    exact ((hw.sound h).questionOf?_listQuestions _ _ _).2 ⟨hq, hqq⟩

theorem exists_result_of_score {snapshot : Snapshot} {score : Score} (h : snapshot.score = .ok score)
    (attempt : Attempt) (showKey showFeedback : Bool) :
    ∃ result, AttemptResult.of attempt snapshot showKey showFeedback = .ok result := by
  simp [AttemptResult.of, h, bind, Except.bind, pure, Except.pure]

/-- Closing an attempt writes it with the score of the snapshot, or leaves the rows alone. -/
theorem closeAttempt_cases (s : Store) (now : Instant) (attempt : Attempt) (snapshot : Snapshot) :
    (∃ e t, s.closeAttempt now attempt snapshot = (.error e, t) ∧ WritesOnly (· = .aside) s t) ∨
    ∃ result score, snapshot.score = .ok score ∧ attempt.status.canBecome score.status = true ∧
      s.closeAttempt now attempt snapshot = (.ok result,
        s.putAttempt (nextVersion (attempt.submittedWith snapshot.quiz score now))) := by
  unfold closeAttempt
  split
  · exact Or.inl ⟨_, s, rfl, .refl⟩
  · rename_i score hscore
    split
    · exact Or.inl ⟨_, s, rfl, .refl⟩
    · rename_i next hnext
      obtain ⟨hmove, rfl⟩ := Attempt.submitted_eq_ok_iff.1 hnext
      rcases s.updateAttempt_cases (attempt.submittedWith snapshot.quiz score now) with
        ⟨e, t, he, hw⟩ | hok
      · rw [he]
        exact Or.inl ⟨_, t, rfl, hw⟩
      · obtain ⟨result, hresult⟩ := exists_result_of_score hscore
          (nextVersion (attempt.submittedWith snapshot.quiz score now))
          snapshot.quiz.showCorrectAnswers snapshot.quiz.showFeedback
        rw [hok]
        exact Or.inr ⟨result, score, hscore, hmove, by simp only [hresult, orOverflow_ok]⟩

/-- Closing an attempt whose answers are read and judged is a submission, when it succeeds. -/
theorem writes_closeAttempt {attempt : Attempt} {snapshot : Snapshot} {attemptId : Uuid}
    (hopen : s.openAttempt ctx.caller attemptId = .ok attempt)
    (hload : Snapshot.load s attempt = .ok snapshot)
    (hjudged : snapshot.quiz.autoGrade = true → ∀ row ∈ s.listAnswers attempt.id,
      ∀ question correct, s.findQuestion row.questionId = some question →
        question.verdict? row.payload = some correct →
        row.withVerdict question correct ctx.now = row) :
    (∃ e t, s.closeAttempt ctx.now attempt snapshot = (.error e, t) ∧
      WritesOnly (· = .aside) s t) ∨
    ∃ result t, s.closeAttempt ctx.now attempt snapshot = (.ok result, t) ∧
      s.Writes (.submit attemptId) t := by
  obtain ⟨quiz, hquiz, rfl⟩ := Snapshot.load_eq_ok_iff.1 hload
  refine (s.closeAttempt_cases ctx.now attempt _).imp_right ?_
  rintro ⟨result, score, hscore, hmove, hok⟩
  exact ⟨result, _, hok,
    .submit hopen hquiz hjudged hscore (Attempt.submitted_eq_ok_iff.2 ⟨hmove, rfl⟩)⟩

theorem submitAttempt_of_load {attemptId : Uuid} {attempt : Attempt} {snapshot : Snapshot}
    (hopen : s.openAttempt ctx.caller attemptId = .ok attempt)
    (hload : Snapshot.load s attempt = .ok snapshot) :
    s.submitAttempt ctx attemptId = s.submitLoaded ctx attempt snapshot := by
  simp only [submitAttempt, hopen, bind, Except.bind, hload, pure, Except.pure]

/-- An attempt that is closed has the score of the snapshot, and its result renders the snapshot. -/
theorem closeAttempt_eq_ok {now : Instant} {attempt : Attempt} {snapshot : Snapshot}
    {result : AttemptResult} {t : Store} (hok : s.closeAttempt now attempt snapshot = (.ok result, t)) :
    ∃ score, snapshot.score = .ok score ∧
      t = s.putAttempt (nextVersion (attempt.submittedWith snapshot.quiz score now)) ∧
      AttemptResult.of (nextVersion (attempt.submittedWith snapshot.quiz score now)) snapshot
        snapshot.quiz.showCorrectAnswers snapshot.quiz.showFeedback = .ok result := by
  unfold closeAttempt at hok
  split at hok
  · cases hok
  · rename_i score hscore
    split at hok
    · cases hok
    · rename_i next hnext
      obtain ⟨-, rfl⟩ := Attempt.submitted_eq_ok_iff.1 hnext
      rcases s.updateAttempt_cases (attempt.submittedWith snapshot.quiz score now) with
        ⟨e, u, he, -⟩ | hupdated
      · rw [he] at hok
        cases hok
      · rw [hupdated] at hok
        obtain ⟨hresult, rfl⟩ := Prod.mk.inj hok
        exact ⟨score, hscore, rfl, orOverflow_eq_ok_iff.1 hresult⟩

theorem attempt_of_result {attempt : Attempt} {snapshot : Snapshot} {showKey showFeedback : Bool}
    {result : AttemptResult} (h : AttemptResult.of attempt snapshot showKey showFeedback = .ok result) :
    result.attempt = attempt := by
  simp only [AttemptResult.of, bind_eq_ok_iff, pure, Except.pure, Except.ok.injEq] at h
  obtain ⟨score, -, rfl⟩ := h
  rfl

/-- The result of an attempt that is closed shows it as it is closed. -/
theorem closeAttempt_attempt {now : Instant} {attempt : Attempt} {snapshot : Snapshot}
    {result : AttemptResult} {t : Store} (hok : s.closeAttempt now attempt snapshot = (.ok result, t)) :
    ∃ score, result.attempt = nextVersion (attempt.submittedWith snapshot.quiz score now) := by
  obtain ⟨score, -, -, hresult⟩ := closeAttempt_eq_ok hok
  exact ⟨score, attempt_of_result hresult⟩

/-- The result of a submission shows the attempt that was open. -/
theorem submitAttempt_attempt {attemptId : Uuid} {result : AttemptResult} {t : Store}
    (hok : s.submitAttempt ctx attemptId = (.ok result, t)) :
    ∃ attempt quiz score, s.openAttempt ctx.caller attemptId = .ok attempt ∧
      result.attempt = nextVersion (attempt.submittedWith quiz score ctx.now) := by
  cases hopen : s.openAttempt ctx.caller attemptId with
  | error cause =>
    simp only [submitAttempt, hopen, bind, Except.bind, Outcome.refused] at hok
    cases hok
  | ok attempt =>
    cases hload : Snapshot.load s attempt with
    | error cause =>
      simp only [submitAttempt, hopen, hload, bind, Except.bind, Outcome.refused] at hok
      cases hok
    | ok snapshot =>
      rw [submitAttempt_of_load hopen hload, submitLoaded] at hok
      refine ⟨attempt, snapshot.quiz, ?_⟩
      split at hok
      · split at hok
        · cases hok
        · obtain ⟨score, hresult⟩ := closeAttempt_attempt hok
          exact ⟨score, rfl, hresult⟩
      · obtain ⟨score, hresult⟩ := closeAttempt_attempt hok
        exact ⟨score, rfl, hresult⟩

/-- A submission that succeeds, of any catalog: where the quiz grades by rule, all answers to
its questions are judged, the attempt gets the score of the answers, and its result renders the
attempt and the answers that are stored then. -/
theorem Keyed.submitAttempt_result (h : s.Keyed) {attemptId : Uuid} {result : AttemptResult}
    {t : Store} (hok : s.submitAttempt ctx attemptId = (.ok result, t)) :
    ∃ attempt quiz score u, s.openAttempt ctx.caller attemptId = .ok attempt ∧
      s.findQuiz attempt.quizId = some quiz ∧ WritesOnly (· = .judge attemptId) s u ∧
      (quiz.autoGrade = true → ∀ row ∈ u.listAnswers attemptId,
        IsJudged (s.listQuestions attempt.quizId) ctx.now row) ∧
      Score.aggregate (s.listQuestions attempt.quizId) (u.listAnswers attemptId) quiz.passingScore =
        .ok score ∧
      t = u.putAttempt (nextVersion (attempt.submittedWith quiz score ctx.now)) ∧
      AttemptResult.of (nextVersion (attempt.submittedWith quiz score ctx.now))
        ⟨quiz, s.listQuestions attempt.quizId, u.listAnswers attemptId⟩
        quiz.showCorrectAnswers quiz.showFeedback = .ok result := by
  cases hopen : s.openAttempt ctx.caller attemptId with
  | error cause =>
    simp only [submitAttempt, hopen, bind, Except.bind, Outcome.refused] at hok
    cases hok
  | ok attempt =>
    obtain ⟨ha, -, hp⟩ := openAttempt_eq_ok_iff.1 hopen
    obtain rfl := h.id_of_findAttempt ha
    cases hload : Snapshot.load s attempt with
    | error cause =>
      simp only [submitAttempt, hopen, hload, bind, Except.bind, Outcome.refused] at hok
      cases hok
    | ok snapshot =>
      obtain ⟨quiz, hquiz, rfl⟩ := Snapshot.load_eq_ok_iff.1 hload
      rw [submitAttempt_of_load hopen hload, submitLoaded] at hok
      split at hok
      · rename_i hauto
        obtain ⟨hw, hjudged⟩ :=
          regrade_spec ctx.now hp hauto (s.listAnswers attempt.id) [] h ha hquiz rfl
        split at hok
        · cases hok
        · rename_i judged u hr
          rw [hr] at hw hjudged
          obtain ⟨hlist, hall⟩ := hjudged judged rfl
          rw [List.nil_append] at hlist
          obtain ⟨score, hscore, ht, hresult⟩ := closeAttempt_eq_ok hok
          refine ⟨attempt, quiz, score, u, rfl, hquiz, hw, fun _ => hlist ▸ hall, ?_, ht, ?_⟩
          · rw [hlist]
            exact hscore
          · rw [hlist]
            exact hresult
      · rename_i hauto
        obtain ⟨score, hscore, ht, hresult⟩ := closeAttempt_eq_ok hok
        exact ⟨attempt, quiz, score, s, rfl, hquiz, .refl, fun h => absurd h hauto, hscore, ht,
          hresult⟩

/-- A submission that succeeds, apart from its result. -/
theorem Keyed.submitAttempt_eq_ok (h : s.Keyed) {attemptId : Uuid} {result : AttemptResult}
    {t : Store} (hok : s.submitAttempt ctx attemptId = (.ok result, t)) :
    ∃ attempt quiz score u, s.openAttempt ctx.caller attemptId = .ok attempt ∧
      s.findQuiz attempt.quizId = some quiz ∧ WritesOnly (· = .judge attemptId) s u ∧
      (quiz.autoGrade = true → ∀ row ∈ u.listAnswers attemptId,
        IsJudged (s.listQuestions attempt.quizId) ctx.now row) ∧
      Score.aggregate (s.listQuestions attempt.quizId) (u.listAnswers attemptId) quiz.passingScore =
        .ok score ∧
      t = u.putAttempt (nextVersion (attempt.submittedWith quiz score ctx.now)) := by
  obtain ⟨attempt, quiz, score, u, hopen, hquiz, hw, hjudged, hscore, ht, -⟩ :=
    h.submitAttempt_result hok
  exact ⟨attempt, quiz, score, u, hopen, hquiz, hw, hjudged, hscore, ht⟩

/-- A submission judges answers and then submits; one that fails leaves the attempt open,
with some of its answers judged. -/
theorem submitAttempt_cases (h : s.Sound) (ctx : Context) (attemptId : Uuid) :
    (∃ e t, s.submitAttempt ctx attemptId = (.error e, t) ∧
      WritesOnly (fun w => w = .judge attemptId ∨ w = .aside) s t) ∨
    ∃ result t u, s.submitAttempt ctx attemptId = (.ok result, u) ∧
      WritesOnly (· = .judge attemptId) s t ∧ t.Writes (.submit attemptId) u := by
  cases hopen : s.openAttempt ctx.caller attemptId with
  | error e =>
    exact Or.inl ⟨.refused e, s, by simp [submitAttempt, hopen, bind, Except.bind, Outcome.refused],
      .refl⟩
  | ok attempt =>
    obtain ⟨ha, hs, hp⟩ := openAttempt_eq_ok_iff.1 hopen
    obtain rfl := h.id_of_findAttempt ha
    cases hload : Snapshot.load s attempt with
    | error e =>
      refine Or.inl ⟨.refused e, s, ?_, .refl⟩
      simp [submitAttempt, hopen, hload, bind, Except.bind, Outcome.refused]
    | ok snapshot =>
      obtain ⟨quiz, hquiz, rfl⟩ := Snapshot.load_eq_ok_iff.1 hload
      rw [submitAttempt_of_load hopen hload, submitLoaded]
      split
      · rename_i hauto
        split
        · rename_i e t hr
          obtain ⟨hw, -⟩ :=
            regrade_spec ctx.now hp hauto (s.listAnswers attempt.id) [] h.toKeyed ha hquiz rfl
          rw [hr] at hw
          exact Or.inl ⟨_, t, rfl, hw.mono fun _ => Or.inl⟩
        · rename_i judged t hr
          obtain ⟨hw, hopen', hload', hjudged⟩ := regraded_ready h hopen hquiz hauto hr
          rcases writes_closeAttempt hopen' hload' (fun _ => hjudged) with
            ⟨e, u, he, hws⟩ | ⟨result, u, hres, hws⟩
          · exact Or.inl ⟨e, u, he, (hw.mono fun _ => Or.inl).trans (hws.mono fun _ => Or.inr)⟩
          · exact Or.inr ⟨result, t, u, hres, hw, hws⟩
      · rename_i hauto
        rcases writes_closeAttempt hopen hload (fun ha => absurd ha hauto) with
          ⟨e, t, he, hw⟩ | ⟨result, t, hr, hw⟩
        · exact Or.inl ⟨e, t, he, hw.mono fun _ => Or.inr⟩
        · exact Or.inr ⟨result, s, t, hr, .refl, hw⟩

/-! ## Abandoning -/

theorem abandonAttempt_cases (s : Store) (ctx : Context) (attemptId : Uuid) :
    (∃ e t, s.abandonAttempt ctx attemptId = (.error e, t) ∧ WritesOnly (· = .aside) s t) ∨
    ∃ stored t, s.abandonAttempt ctx attemptId = (.ok stored, t) ∧
      s.Writes (.abandon attemptId) t := by
  unfold abandonAttempt
  split
  · exact Or.inl ⟨_, s, rfl, .refl⟩
  · rename_i next hnext
    rcases s.updateAttempt_cases next with ⟨e, t, he, hw⟩ | hok
    · rw [he]
      exact Or.inl ⟨_, t, rfl, hw⟩
    · rw [hok]
      exact Or.inr ⟨_, _, rfl, .abandon hnext⟩

/-! ## Grading -/

theorem checkGrade_eq_of_sameRows {t : Store} (h : s.SameRows t) (caller : Caller) (answerId : Uuid)
    (grade : Grade) : t.checkGrade caller answerId grade = s.checkGrade caller answerId grade := by
  simp only [checkGrade, requireAnswer, requireAttempt, requireQuestion, ensureOwner,
    h.findAnswer_eq, h.findAttempt_eq, h.findQuestion_eq, h.ownsQuiz_eq]

/-- Committing a grade writes the answer with its attempt, or leaves the rows alone. -/
theorem commitGrade_cases (s : Store) (ctx : Context) (answer : Answer) :
    (∃ e t, s.commitGrade ctx answer = (.error e, t) ∧ WritesOnly (· = .aside) s t) ∨
    ∃ attempt snapshot score stored, s.findAttempt answer.attemptId = some attempt ∧
      Snapshot.load s attempt = .ok snapshot ∧
      attempt.regraded snapshot answer ctx = .ok (attempt.regradedWith score ctx) ∧
      s.findAnswer answer.id = some stored ∧
      s.commitGrade ctx answer = (.ok (stored.withGradeOf answer),
        (s.putAnswer (stored.withGradeOf answer)).putAttempt
          (nextVersion (attempt.regradedWith score ctx))) := by
  unfold commitGrade
  simp only
  split
  · exact Or.inl ⟨_, s, rfl, .refl⟩
  · rename_i next hnext
    simp only [bind_eq_ok_iff, orRefused_eq_ok_iff, requireAttempt_eq_ok_iff] at hnext
    obtain ⟨attempt, hatt, snapshot, hload, hregraded⟩ := hnext
    obtain ⟨score, -, -, rfl⟩ := Attempt.regraded_eq_ok_iff.1 hregraded
    rcases s.saveGradeWithAttempt_cases answer (attempt.regradedWith score ctx) with
      ⟨e, t, he, hw⟩ | ⟨row, _, hrow, -, -, hok⟩
    · rw [he]
      exact Or.inl ⟨_, t, rfl, hw⟩
    · obtain ⟨stored, hstored, rfl⟩ := gradedRow?_eq_ok hrow
      rw [hok]
      exact Or.inr ⟨attempt, snapshot, score, stored, hatt, hload, hregraded, hstored, rfl⟩

/-- A grade that passed the checks is written with its attempt, or nothing is. -/
theorem commitGrade_cases_of_check (h : s.Sound) {answerId : Uuid} {grade : Grade}
    {checked : CheckedGrade} (hc : s.checkGrade ctx.caller answerId grade = .ok checked) :
    (∃ e t, s.commitGrade ctx (checked.row ctx) = (.error e, t) ∧ WritesOnly (· = .aside) s t) ∨
    ∃ t, s.commitGrade ctx (checked.row ctx) = (.ok (checked.row ctx), t) ∧
      s.Writes (.grade checked.answer.attemptId answerId) t := by
  obtain ⟨-, hans, -⟩ := checkGrade_eq_ok_iff.1 hc
  obtain rfl := h.id_of_findAnswer hans
  refine (s.commitGrade_cases ctx (checked.row ctx)).imp_right ?_
  rintro ⟨attempt, snapshot, score, stored, hatt, hload, hnext, hstored, hok⟩
  obtain rfl := Option.some.inj (hstored.symm.trans hans)
  exact ⟨_, hok, h.id_of_findAttempt hatt ▸ .grade hc hatt hload hnext⟩

/-- Conflicts only delay a grade: it is written once, or nothing is. -/
theorem commitRetrying_cases {answerId : Uuid} {grade : Grade} {checked : CheckedGrade} :
    ∀ (retries : Nat) {s : Store}, s.Sound →
      s.checkGrade ctx.caller answerId grade = .ok checked →
      (∃ e t, commitRetrying ctx (checked.row ctx) retries s = (.error e, t) ∧
        WritesOnly (· = .aside) s t) ∨
      ∃ t u, commitRetrying ctx (checked.row ctx) retries s = (.ok (checked.row ctx), u) ∧
        WritesOnly (· = .aside) s t ∧ t.Writes (.grade checked.answer.attemptId answerId) u
  | 0, s, h, hc => by
    rcases commitGrade_cases_of_check h hc with herr | ⟨t, hok, hw⟩
    · exact Or.inl herr
    · exact Or.inr ⟨s, t, hok, .refl, hw⟩
  | retries + 1, s, h, hc => by
    unfold commitRetrying
    rcases commitGrade_cases_of_check h hc with ⟨e, t, herr, hw⟩ | ⟨t, hok, hw⟩
    · rw [herr]
      split
      · rename_i hconf
        obtain ⟨-, rfl⟩ := Prod.mk.inj hconf
        have hc' := (checkGrade_eq_of_sameRows hw.sameRows _ _ _).trans hc
        rcases commitRetrying_cases retries (hw.sound h) hc' with ⟨e, u, herr, hws⟩ | ⟨u, v, hok, hws, hg⟩
        · exact Or.inl ⟨e, u, herr, hw.trans hws⟩
        · exact Or.inr ⟨u, v, hok, hw.trans hws, hg⟩
      · exact Or.inl ⟨e, t, rfl, hw⟩
    · rw [hok]
      exact Or.inr ⟨s, t, rfl, .refl, hw⟩

/-- A grade that passed the checks is written once, or nothing is. -/
theorem applyGrade_cases (h : s.Sound) {answerId : Uuid} {grade : Grade} {checked : CheckedGrade}
    (hc : s.checkGrade ctx.caller answerId grade = .ok checked) :
    (∃ e t, s.applyGrade ctx checked = (.error e, t) ∧ WritesOnly (· = .aside) s t) ∨
    ∃ t u, s.applyGrade ctx checked = (.ok (checked.row ctx), u) ∧
      WritesOnly (· = .aside) s t ∧ t.Writes (.grade checked.answer.attemptId answerId) u :=
  commitRetrying_cases maxConflicts h hc

theorem gradeAnswer_cases (h : s.Sound) (ctx : Context) (answerId : Uuid) (grade : Grade) :
    (∃ e t, s.gradeAnswer ctx answerId grade = (.error e, t) ∧ WritesOnly (· = .aside) s t) ∨
    ∃ checked t u, s.checkGrade ctx.caller answerId grade = .ok checked ∧
      s.gradeAnswer ctx answerId grade = (.ok (checked.row ctx), u) ∧
      WritesOnly (· = .aside) s t ∧ t.Writes (.grade checked.answer.attemptId answerId) u := by
  unfold gradeAnswer
  split
  · exact Or.inl ⟨_, s, rfl, .refl⟩
  · rename_i checked hc
    rcases applyGrade_cases h hc with herr | ⟨t, u, hok, hw, hg⟩
    · exact Or.inl herr
    · exact Or.inr ⟨checked, t, u, hc, hok, hw, hg⟩

end Store

end QuizEngine
