import QuizEngine.Proofs.Faults
import QuizEngine.Proofs.History

/-!
# Answers that are accepted

Whether an answer is recorded is decided before anything is written: `Store.AcceptsAnswer` lists
what it takes, and nothing that comes later can fail. The answer is stored, and then its
verdict is written onto it. When the verdict cannot be written the answer stays without one,
and the call still returns the row that is stored (`recordAnswer_eq`).

That row holds what was handed in (`Store.HandsIn`). It stands in the place of an earlier answer
to the question, of which it keeps the identifier and the time of creation and no grade
(`Engine.Reachable.record_spec`).
-/

namespace QuizEngine

namespace Store

variable {s : Store} {ctx : Context} {attemptId : Uuid} {questionId : Int} {raw : Json}
  {seconds : Option Int}

/-! ## What it takes -/

/-- The attempt is the caller's, in progress and in time, and the value is a payload that the
question, one of the quiz, accepts. -/
structure AcceptsAnswer (s : Store) (ctx : Context) (attemptId : Uuid) (questionId : Int)
    (raw : Json) (attempt : Attempt) (quiz : Quiz) (question : Question) (payload : Payload) :
    Prop where
  ofAttempt : s.findAttempt attemptId = some attempt
  isOwn : attempt.studentId = ctx.caller.userId
  inProgress : attempt.status = .inProgress
  ofQuiz : s.findQuiz attempt.quizId = some quiz
  inTime : quiz.timeLimitExceeded (attempt.elapsedSeconds ctx.now) = false
  ofQuestion : s.findQuestion questionId = some question
  sameQuiz : question.quizId = attempt.quizId
  isParsed : Payload.parse question.type raw = .ok payload
  isChecked : payload.check question = .ok ()

theorem recordable_eq_ok_iff_accepts {quiz : Quiz} {question : Question} {payload : Payload} :
    s.recordable ctx attemptId questionId raw = .ok (quiz, question, payload) ↔
      ∃ attempt, s.AcceptsAnswer ctx attemptId questionId raw attempt quiz question payload := by
  rw [recordable_eq_ok_iff]
  refine exists_congr fun attempt => ⟨?_, ?_⟩
  · rintro ⟨hatt, hown, hopen, hquiz, htime, hq, hqq, hparse, hcheck⟩
    exact ⟨hatt, hown, hopen, hquiz, htime, hq, hqq, hparse, hcheck⟩
  · rintro ⟨hatt, hown, hopen, hquiz, htime, hq, hqq, hparse, hcheck⟩
    exact ⟨hatt, hown, hopen, hquiz, htime, hq, hqq, hparse, hcheck⟩

/-! ## What is stored -/

/-- The answer to a question of an attempt is `row` where it is handed in by this call: the
content is that of the call, the place that of the earlier answer, and there is nothing that
a person has written. -/
structure HandsIn (s : Store) (ctx : Context) (attemptId : Uuid) (questionId : Int)
    (payload : Payload) (seconds : Option Int) (row : Answer) : Prop where
  ofAttempt : row.attemptId = attemptId
  ofQuestion : row.questionId = questionId
  hasPayload : row.payload = payload
  timeSpentSeconds : row.timeSpentSeconds = seconds
  answeredAt : row.answeredAt = ctx.now
  updatedAt : row.updatedAt = ctx.now
  graderFeedback : row.graderFeedback = none
  gradedBy : row.gradedBy = none
  kept : ∀ earlier, s.findAnswer earlier.id = some earlier → earlier.attemptId = attemptId →
    earlier.questionId = questionId → row.id = earlier.id ∧ row.createdAt = earlier.createdAt
  added : (∀ earlier, s.findAnswer earlier.id = some earlier → earlier.attemptId = attemptId →
    earlier.questionId ≠ questionId) → row.id = ctx.fresh ∧ row.createdAt = ctx.now
  replaced : s.IsFresh ctx.fresh → ∀ old, s.findAnswer row.id = some old →
    old.attemptId = attemptId ∧ old.questionId = questionId

/-- What is stored before it is judged is what was handed in. -/
theorem Placed.handsIn_upsertedAnswer (h : s.Placed) (ctx : Context) (attemptId : Uuid)
    (questionId : Int) (payload : Payload) (seconds : Option Int) :
    s.HandsIn ctx attemptId questionId payload seconds
      (s.upsertedAnswer (.ungraded ctx.fresh attemptId questionId payload seconds ctx.now)) := by
  cases hfound : s.findByQuestion attemptId questionId with
  | some earlier =>
    obtain ⟨hstored, hatt, hq⟩ := h.findByQuestion_eq_some_iff.1 hfound
    have hrow : s.upsertedAnswer (.ungraded ctx.fresh attemptId questionId payload seconds ctx.now) =
        earlier.withContentOf (.ungraded ctx.fresh attemptId questionId payload seconds ctx.now) := by
      simp only [upsertedAnswer, Answer.ungraded, hfound]
    rw [hrow]
    refine ⟨hatt, hq, rfl, rfl, rfl, rfl, rfl, rfl, fun other hother hatt' hq' => ?_, fun hnone => ?_,
      fun _ old hold => ?_⟩
    · rw [h.unique other earlier hother hstored (hatt'.trans hatt.symm) (hq'.trans hq.symm)]
      exact ⟨rfl, rfl⟩
    · exact absurd hq (hnone earlier hstored hatt)
    · obtain rfl := Option.some.inj (hstored.symm.trans hold)
      exact ⟨hatt, hq⟩
  | none =>
    have hrow : s.upsertedAnswer (.ungraded ctx.fresh attemptId questionId payload seconds ctx.now) =
        .ungraded ctx.fresh attemptId questionId payload seconds ctx.now := by
      simp only [upsertedAnswer, Answer.ungraded, hfound]
    rw [hrow]
    refine ⟨rfl, rfl, rfl, rfl, rfl, rfl, rfl, rfl, fun other hother hatt hq => ?_, fun _ => ⟨rfl, rfl⟩,
      fun hfresh old hold => ?_⟩
    · exact absurd hq (h.ne_of_findByQuestion_eq_none hfound hother hatt)
    · cases hfresh.2.symm.trans hold

/-- A verdict given at the time of the call changes nothing of what was handed in. -/
theorem HandsIn.withVerdict {payload : Payload} {row : Answer}
    (h : s.HandsIn ctx attemptId questionId payload seconds row) (question : Question)
    (correct : Bool) :
    s.HandsIn ctx attemptId questionId payload seconds (row.withVerdict question correct ctx.now) :=
  { h with updatedAt := rfl }

/-! ## The verdict -/

/-- The answer with the verdict that is written onto it at once: where the quiz grades by rule,
a rule decides and nothing makes the write fail. -/
def gradedAtOnce (s : Store) (quiz : Quiz) (question : Question) (row : Answer) (now : Instant) :
    Answer :=
  if quiz.autoGrade = true ∧ row.id ∉ s.unwritableGrades then
    (row.autoGraded? question now).getD row
  else row

/-- What is returned of a stored answer is what is stored of it. -/
theorem gradeAtOnce_eq {row : Answer} (hstored : s.findAnswer row.id = some row) (quiz : Quiz)
    (question : Question) (now : Instant) :
    s.gradeAtOnce quiz question row now =
      (s.gradedAtOnce quiz question row now, s.putAnswer (s.gradedAtOnce quiz question row now)) := by
  unfold gradeAtOnce gradedAtOnce
  cases hauto : quiz.autoGrade with
  | false => simp [putAnswer_of_stored hstored]
  | true =>
    cases hgraded : row.autoGraded? question now with
    | none => simp [putAnswer_of_stored hstored]
    | some graded =>
      obtain ⟨correct, -, rfl⟩ := Option.map_eq_some_iff.1 hgraded
      have hplace : s.findAnswer (row.withVerdict question correct now).id = some row := hstored
      have hsave := saveGrade_of_stored hplace (Answer.withGradeOf_withVerdict row question correct now)
      rw [Answer.id_withVerdict] at hsave
      by_cases hmarked : row.id ∈ s.unwritableGrades
      · simp [hsave, hmarked, putAnswer_of_stored hstored]
      · simp [hsave, hmarked]

@[simp]
theorem id_gradedAtOnce (s : Store) (quiz : Quiz) (question : Question) (row : Answer)
    (now : Instant) : (s.gradedAtOnce quiz question row now).id = row.id := by
  unfold gradedAtOnce
  split
  · cases hgraded : row.autoGraded? question now with
    | none => rfl
    | some graded =>
      obtain ⟨correct, -, rfl⟩ := Option.map_eq_some_iff.1 hgraded
      rfl
  · rfl

/-- An answer that is accepted is stored, and returned as it is stored. -/
theorem recordAnswer_eq {quiz : Quiz} {question : Question} {payload : Payload} {row : Answer}
    (hr : s.recordable ctx attemptId questionId raw = .ok (quiz, question, payload))
    (hrow : row = s.upsertedAnswer (.ungraded ctx.fresh attemptId questionId payload seconds ctx.now)) :
    s.recordAnswer ctx attemptId questionId raw seconds =
      (.ok (s.gradedAtOnce quiz question row ctx.now),
        s.putAnswer (s.gradedAtOnce quiz question row ctx.now)) := by
  have hgraded := gradeAtOnce_eq (s.findAnswer_putAnswer_self row) quiz question ctx.now
  rw [putAnswer_putAnswer _ (id_gradedAtOnce ..)] at hgraded
  simp only [recordAnswer, hr, upsertAnswer, ← hrow, hgraded]
  rfl

/-- An answer is judged at once exactly when its quiz grades by rule, a rule decides on it and
its grade can be written. -/
theorem gradedAtOnce_cases (s : Store) (quiz : Quiz) {question : Question} {row : Answer}
    (hcheck : row.payload.check question = .ok ()) (now : Instant) :
    (quiz.autoGrade = true ∧ question.type.isAutoGradable = true ∧ row.id ∉ s.unwritableGrades ∧
      ∃ correct, question.verdict? row.payload = some correct ∧
        s.gradedAtOnce quiz question row now = row.withVerdict question correct now) ∨
    ¬(quiz.autoGrade = true ∧ question.type.isAutoGradable = true ∧
        row.id ∉ s.unwritableGrades) ∧
      s.gradedAtOnce quiz question row now = row := by
  have hsome := Question.isSome_verdict?_iff (Payload.type_eq_of_check hcheck)
  unfold gradedAtOnce Answer.autoGraded?
  by_cases hrule : quiz.autoGrade = true ∧ row.id ∉ s.unwritableGrades
  · rw [if_pos hrule]
    cases hverdict : question.verdict? row.payload with
    | none =>
      rw [hverdict] at hsome
      exact Or.inr ⟨fun h => by simp [← hsome] at h, rfl⟩
    | some correct =>
      rw [hverdict] at hsome
      exact Or.inl ⟨hrule.1, hsome.symm, hrule.2, correct, rfl, rfl⟩
  · rw [if_neg hrule]
    exact Or.inr ⟨fun h => hrule ⟨h.1, h.2.2⟩, rfl⟩

end Store

namespace Engine

variable {e : Engine} {ctx : Context}

/-- An answer is recorded exactly when the attempt is the caller's, in progress and in time, and
the value is a payload that the question of its quiz accepts. Otherwise nothing changes. The
answer that is returned is the row that is stored, and no other row changes. It holds what was
handed in, in the place of the earlier answer, and has the verdict of the rule when the quiz
grades by rule, a rule decides and the grade can be written, and else no grade. -/
theorem Reachable.record_spec (h : e.Reachable) (ctx : Context) (attemptId : Uuid)
    (questionId : Int) (raw : Json) (seconds : Option Int) :
    ((∃ reply, (e.perform ctx (.record attemptId questionId raw seconds)).1 = .ok reply) ↔
      ∃ attempt quiz question payload,
        e.store.AcceptsAnswer ctx attemptId questionId raw attempt quiz question payload) ∧
    (∀ failure, (e.perform ctx (.record attemptId questionId raw seconds)).1 = .error failure →
      (e.perform ctx (.record attemptId questionId raw seconds)).2 = e) ∧
    ∀ reply, (e.perform ctx (.record attemptId questionId raw seconds)).1 = .ok reply →
      ∃ answer attempt quiz question payload,
        reply = .answer answer ∧
        (e.perform ctx (.record attemptId questionId raw seconds)).2 =
          e.withStore (e.store.putAnswer answer) ∧
        e.store.AcceptsAnswer ctx attemptId questionId raw attempt quiz question payload ∧
        e.store.HandsIn ctx attemptId questionId payload seconds answer ∧
        if quiz.autoGrade = true ∧ question.type.isAutoGradable = true ∧
            answer.id ∉ e.store.unwritableGrades then
          ∃ correct, question.verdict? payload = some correct ∧ answer.isCorrect = some correct ∧
            answer.pointsEarned = some (question.pointsFor correct) ∧ answer.gradedAt = some ctx.now
        else answer.IsUngraded := by
  simp only [perform, ofOutcome]
  cases hr : e.store.recordable ctx attemptId questionId raw with
  | error cause =>
    have hcall : e.store.recordAnswer ctx attemptId questionId raw seconds =
        (.error (.refused cause), e.store) := by
      rw [Store.recordAnswer, hr]
      rfl
    rw [hcall]
    have hnot : ¬∃ attempt quiz question payload,
        e.store.AcceptsAnswer ctx attemptId questionId raw attempt quiz question payload := by
      rintro ⟨attempt, quiz, question, payload, haccepts⟩
      cases hr.symm.trans (Store.recordable_eq_ok_iff_accepts.2 ⟨attempt, haccepts⟩)
    exact ⟨iff_of_false (by rintro ⟨_, ⟨⟩⟩) hnot, fun _ _ => rfl, by rintro _ ⟨⟩⟩
  | ok accepted =>
    obtain ⟨quiz, question, payload⟩ := accepted
    obtain ⟨attempt, haccepts⟩ := Store.recordable_eq_ok_iff_accepts.1 hr
    obtain ⟨row, hrow⟩ : ∃ row, row = e.store.upsertedAnswer
      (.ungraded ctx.fresh attemptId questionId payload seconds ctx.now) := ⟨_, rfl⟩
    have hin : e.store.HandsIn ctx attemptId questionId payload seconds row :=
      hrow ▸ h.sound.placed.handsIn_upsertedAnswer ctx attemptId questionId payload seconds
    have hungraded : row.IsUngraded := hrow ▸ Store.isUngraded_upsertedAnswer _ ⟨rfl, rfl, rfl, rfl, rfl⟩
    rw [Store.recordAnswer_eq hr hrow]
    refine ⟨⟨fun _ => ⟨attempt, quiz, question, payload, haccepts⟩, fun _ => ⟨_, rfl⟩⟩, by rintro _ ⟨⟩, ?_⟩
    rintro _ ⟨⟩
    refine ⟨_, attempt, quiz, question, payload, rfl, rfl, haccepts, ?_⟩
    rw [Store.id_gradedAtOnce]
    rcases e.store.gradedAtOnce_cases quiz (hin.hasPayload ▸ haccepts.isChecked)
        ctx.now with
      ⟨hauto, htype, hfree, correct, hverdict, heq⟩ | ⟨hno, heq⟩
    · rw [heq, if_pos ⟨hauto, htype, hfree⟩]
      exact ⟨hin.withVerdict question correct, correct, hin.hasPayload ▸ hverdict, rfl, rfl, rfl⟩
    · rw [heq, if_neg hno]
      exact ⟨hin, hungraded⟩

end Engine

namespace Sample

/-- The wrong option. -/
def otherChoice : Json := .object [("selected_option_id", .integer 2)]

theorem accepts_otherChoice : answered.store.AcceptsAnswer (student 4) (uuid 1) 1 otherChoice attempt
    quiz choice (.singleChoice 2) where
  ofAttempt := by decide +kernel
  isOwn := rfl
  inProgress := rfl
  ofQuiz := by decide +kernel
  inTime := rfl
  ofQuestion := by decide +kernel
  sameQuiz := rfl
  isParsed := rfl
  isChecked := by decide +kernel

end Sample

/-- The choice of the sample run is changed to the wrong option: the answer keeps its place and
loses its points. -/
theorem Engine.record_spec_answered : Sample.answered.Reachable ∧ ∃ answer,
    (Sample.answered.perform (Sample.student 4) (.record (Sample.uuid 1) 1 Sample.otherChoice none)).1 =
      .ok (.answer answer) ∧
    answer.id = Sample.uuid 2 ∧ answer.isCorrect = some false ∧ answer.pointsEarned = some .zero := by
  obtain ⟨hiff, -, hok⟩ := Sample.reachable_answered.record_spec (Sample.student 4) (Sample.uuid 1) 1
    Sample.otherChoice none
  obtain ⟨reply, hreply⟩ := hiff.2 ⟨_, _, _, _, Sample.accepts_otherChoice⟩
  obtain ⟨answer, attempt, quiz, question, payload, rfl, -, haccepts, hin, hgrade⟩ := hok reply hreply
  obtain rfl := Option.some.inj (haccepts.ofAttempt.symm.trans Sample.accepts_otherChoice.ofAttempt)
  obtain rfl := Option.some.inj (haccepts.ofQuiz.symm.trans Sample.accepts_otherChoice.ofQuiz)
  obtain rfl := Option.some.inj (haccepts.ofQuestion.symm.trans Sample.accepts_otherChoice.ofQuestion)
  obtain rfl := Except.ok.inj (haccepts.isParsed.symm.trans Sample.accepts_otherChoice.isParsed)
  have hfree : Sample.answered.store.unwritableGrades = [] := by decide +kernel
  rw [if_pos ⟨rfl, rfl, by simp [hfree]⟩] at hgrade
  obtain ⟨correct, hverdict, hcorrect, hpoints, -⟩ := hgrade
  obtain rfl := Option.some.inj (hverdict.symm.trans (rfl : _ = some false))
  have hearlier : ∃ earlier, Sample.answered.store.findAnswer (Sample.uuid 2) = some earlier ∧
      earlier.id = Sample.uuid 2 ∧ earlier.attemptId = Sample.uuid 1 ∧ earlier.questionId = 1 :=
    ⟨_, rfl, by decide +kernel⟩
  obtain ⟨earlier, hstored, hid, hatt, hq⟩ := hearlier
  have hkept := (hin.kept earlier (hid.symm ▸ hstored) hatt hq).1
  exact ⟨Sample.reachable_answered, answer, hreply, hkept.trans hid, hcorrect, hpoints⟩

end QuizEngine
