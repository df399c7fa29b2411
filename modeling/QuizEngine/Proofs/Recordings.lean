import QuizEngine.Proofs.Contents
import QuizEngine.Proofs.History

/-!
# Answers recorded at the same time

Calls that record answers share the lock of their attempt, so that any number of them may be
under way. Each makes its checks, then stores its answer, and then, where a rule decides, writes
the verdict on the content that it has stored itself (`Recording.advance`; a call that is alone
does what `Store.recordAnswer` does, `Recording.alone_eq`). The others take their steps in
between (`Interleaved`), so a verdict may be written onto an answer that has a newer content,
and nothing in the row tells.

A submission makes up for that: it judges all answers once more. The one answer to a question
then has the content that was handed in last with the verdict on this content, however slow the
calls were (`LeadsToEdited.submitted_after_recordings`).
-/

namespace QuizEngine

open Store

/-! ## Calls under way -/

/-- What a call is asked for that records an answer. -/
structure RecordCall where
  /-- Who makes the call and when. -/
  ctx : Context
  /-- The question. -/
  questionId : Int
  /-- The answer. -/
  raw : Json
  /-- How long the student says it took. -/
  timeSpentSeconds : Option Int

/-- How far a call is that records an answer. -/
inductive Recording where
  /-- It has read nothing yet. -/
  | asked (request : RecordCall)
  /-- Its checks have passed. -/
  | accepted (request : RecordCall) (quiz : Quiz) (question : Question) (payload : Payload)
  /-- It has stored an answer and judged it, but not written the verdict. -/
  | judging (stored graded : Answer)
  /-- It has returned. -/
  | finished (reply : Except Failure Answer)

namespace Recording

/-- The next step of a call. Its checks are one step, since nobody writes what they read. -/
def advance (attemptId : Uuid) (s : Store) : Recording → Recording × Store
  | .asked request =>
    match s.recordable request.ctx attemptId request.questionId request.raw with
    | .error cause => (.finished (.error (.refused cause)), s)
    | .ok (quiz, question, payload) => (.accepted request quiz question payload, s)
  | .accepted request quiz question payload =>
    let given := Answer.ungraded request.ctx.fresh attemptId request.questionId payload
      request.timeSpentSeconds request.ctx.now
    let (stored, s) := s.upsertAnswer given
    match (if quiz.autoGrade then stored.autoGraded? question request.ctx.now else none) with
    | none => (.finished (.ok stored), s)
    | some graded => (.judging stored graded, s)
  | .judging stored graded =>
    match s.saveGrade graded with
    | .ok (saved, s) => (.finished (.ok saved), s)
    | .error _ => (.finished (.ok stored), s)
  | .finished reply => (.finished reply, s)

/-- The question and the content of the answer that the next step stores. -/
def handsIn? : Recording → Option (Int × Payload)
  | .accepted request _ _ payload => some (request.questionId, payload)
  | .asked _ => none
  | .judging _ _ => none
  | .finished _ => none

/-- The identifier for a new answer is not in use. -/
def DrawsFresh (s : Store) : Recording → Prop
  | .accepted request _ _ _ => s.IsFresh request.ctx.fresh
  | .asked _ => True
  | .judging _ _ => True
  | .finished _ => True

instance (s : Store) : (call : Recording) → Decidable (call.DrawsFresh s)
  | .accepted request _ _ _ => inferInstanceAs (Decidable (s.IsFresh request.ctx.fresh))
  | .asked _ => .isTrue trivial
  | .judging _ _ => .isTrue trivial
  | .finished _ => .isTrue trivial

/-- Three steps with nobody in between. -/
def alone (attemptId : Uuid) (s : Store) (request : RecordCall) : Recording × Store :=
  let (call, s) := advance attemptId s (.asked request)
  let (call, s) := advance attemptId s call
  advance attemptId s call

/-- A call that is alone records its answer as `Store.recordAnswer` does. -/
theorem alone_eq (attemptId : Uuid) (s : Store) (request : RecordCall) :
    alone attemptId s request =
      let outcome := s.recordAnswer request.ctx attemptId request.questionId request.raw
        request.timeSpentSeconds
      (.finished outcome.1, outcome.2) := by
  unfold alone recordAnswer
  cases hrec : s.recordable request.ctx attemptId request.questionId request.raw with
  | error cause => simp only [advance, hrec, Outcome.refused]
  | ok accepted =>
    obtain ⟨quiz, question, payload⟩ := accepted
    simp only [advance, hrec, gradeAtOnce]
    generalize (if quiz.autoGrade then _ else none) = graded?
    cases graded? with
    | none => rfl
    | some graded =>
      simp only
      cases (s.upsertAnswer _).2.saveGrade graded with
      | error cause => rfl
      | ok saved => rfl

end Recording

/-- What becomes of a store while these calls take their steps in any order, with what they
hand in, newest last. -/
inductive Interleaved (attemptId : Uuid) (s : Store) (requests : List RecordCall) :
    List (Int × Payload) → Store → List Recording → Prop where
  | nil : Interleaved attemptId s requests [] s (requests.map .asked)
  | snoc {handedIn : List (Int × Payload)} {t : Store} {front back : List Recording}
      {call : Recording}
      (before : Interleaved attemptId s requests handedIn t (front ++ call :: back))
      (drawsFresh : call.DrawsFresh t) :
      Interleaved attemptId s requests (handedIn ++ call.handsIn?.toList)
        (call.advance attemptId t).2 (front ++ (call.advance attemptId t).1 :: back)

/-! ## The last content -/

/-- The content that was handed in last for the question, or else the one that was there. -/
def lastHandedIn? (handedIn : List (Int × Payload)) (before : Option Payload) (questionId : Int) :
    Option Payload :=
  ((handedIn.filter (·.1 == questionId)).getLast?.map (·.2)).or before

theorem lastHandedIn?_snoc (handedIn : List (Int × Payload)) (before : Option Payload)
    (latest : Int × Payload) (questionId : Int) :
    lastHandedIn? (handedIn ++ [latest]) before questionId =
      if latest.1 = questionId then some latest.2 else lastHandedIn? handedIn before questionId := by
  unfold lastHandedIn?
  rw [List.filter_append]
  split
  · rename_i h
    rw [List.filter_cons_of_pos (by simpa using h), List.filter_nil, List.getLast?_concat]
    rfl
  · rename_i h
    rw [List.filter_cons_of_neg (by simpa using h), List.filter_nil, List.append_nil]

theorem lastHandedIn?_of_not_mem {handedIn : List (Int × Payload)} {questionId : Int}
    (h : questionId ∉ handedIn.map (·.1)) (before : Option Payload) :
    lastHandedIn? handedIn before questionId = before := by
  have hnil : handedIn.filter (·.1 == questionId) = [] := by
    refine List.filter_eq_nil_iff.2 fun given hgiven heq => h ?_
    exact List.mem_map.2 ⟨given, hgiven, beq_iff_eq.1 heq⟩
  rw [lastHandedIn?, hnil]
  rfl

/-- For a question that was answered it is one of the contents handed in for it. -/
theorem mem_of_lastHandedIn? {handedIn : List (Int × Payload)} {before : Option Payload}
    {questionId : Int} {payload : Payload} (hmem : questionId ∈ handedIn.map (·.1))
    (h : lastHandedIn? handedIn before questionId = some payload) :
    (questionId, payload) ∈ handedIn := by
  obtain ⟨given, hgiven, hid⟩ := List.mem_map.1 hmem
  have hne : handedIn.filter (·.1 == questionId) ≠ [] :=
    List.ne_nil_of_mem (List.mem_filter.2 ⟨hgiven, by simpa using hid⟩)
  obtain ⟨last, hlast⟩ : ∃ last, (handedIn.filter (·.1 == questionId)).getLast? = some last :=
    ⟨_, List.getLast?_eq_some_getLast hne⟩
  obtain ⟨hin, hq⟩ := List.mem_filter.1 (List.mem_of_getLast? hlast)
  rw [lastHandedIn?, hlast] at h
  obtain rfl : last.2 = payload := by simpa using h
  rw [← beq_iff_eq.1 hq]
  exact hin

namespace Store

variable {s t : Store} {attemptId : Uuid} {questionId : Int}

/-- The answers that are stored to a question of an attempt. -/
def answersTo (s : Store) (attemptId : Uuid) (questionId : Int) : List Answer :=
  s.answers.values.filter fun a => a.attemptId == attemptId && a.questionId == questionId

/-- The answers to a question of an attempt are the one that is found. -/
theorem Placed.answersTo_eq (h : s.Placed) (attemptId : Uuid) (questionId : Int) :
    s.answersTo attemptId questionId = (s.findByQuestion attemptId questionId).toList := by
  have hmem : ∀ a, a ∈ s.answersTo attemptId questionId ↔
      s.findByQuestion attemptId questionId = some a := by
    intro a
    rw [answersTo, List.mem_filter, h.mem_answers_iff, h.findByQuestion_eq_some_iff,
      Bool.and_eq_true, beq_iff_eq, beq_iff_eq]
  cases hfound : s.findByQuestion attemptId questionId with
  | none =>
    refine List.eq_nil_iff_forall_not_mem.2 fun a ha => ?_
    cases hfound.symm.trans ((hmem a).1 ha)
  | some row =>
    have hn : (s.answersTo attemptId questionId).Nodup :=
      (List.Nodup.of_map _ h.answers.nodup_map_key).filter _
    refine List.perm_singleton.1 ((List.perm_ext_iff_of_nodup hn (List.nodup_singleton row)).2 ?_)
    intro a
    rw [hmem, hfound, List.mem_singleton, Option.some.injEq, eq_comm]

theorem openAttempt_eq_of_attempts_eq (hattempts : t.attempts = s.attempts) (caller : Caller)
    (id : Uuid) : t.openAttempt caller id = s.openAttempt caller id := by
  simp only [openAttempt, requireAttempt, findAttempt, hattempts]

/-- The checks of a call read attempts and the catalog alone. -/
theorem recordable_eq_of_same (hattempts : t.attempts = s.attempts) (hcat : s.SameCatalog t)
    (ctx : Context) (attemptId : Uuid) (questionId : Int) (raw : Json) :
    t.recordable ctx attemptId questionId raw = s.recordable ctx attemptId questionId raw := by
  simp only [recordable, openAttempt_eq_of_attempts_eq hattempts, requireQuiz, requireQuestion,
    hcat.findQuiz_eq, hcat.findQuestion_eq]

/-! ## What calls under way do -/

/-- The calls that are under way have written nothing but answers of the attempt, and these
have the contents that were handed in last. -/
structure Underway (attemptId : Uuid) (s t : Store) (handedIn : List (Int × Payload))
    (calls : List Recording) : Prop where
  placed : t.Placed
  attempts : t.attempts = s.attempts
  sameCatalog : s.SameCatalog t
  isRecordable : ∀ request quiz question payload, .accepted request quiz question payload ∈ calls →
    s.recordable request.ctx attemptId request.questionId request.raw = .ok (quiz, question, payload)
  accepts : ∀ given ∈ handedIn, ∃ ctx raw quiz question,
    s.recordable ctx attemptId given.1 raw = .ok (quiz, question, given.2)
  payloadAt?_eq : ∀ questionId, t.payloadAt? attemptId questionId =
    lastHandedIn? handedIn (s.payloadAt? attemptId questionId) questionId

namespace Underway

variable {handedIn : List (Int × Payload)} {calls front back : List Recording}
  {call next : Recording} {u : Store}

theorem refl (h : s.Placed) (requests : List RecordCall) :
    Underway attemptId s s [] (requests.map .asked) where
  placed := h
  attempts := rfl
  sameCatalog := .refl s
  isRecordable := by simp
  accepts := by simp
  payloadAt?_eq _ := rfl

/-- A call of which the checks have passed was accepted by the store that the calls found. -/
theorem isRecordable_replace (h : Underway attemptId s t handedIn (front ++ call :: back))
    (hnext : ∀ request quiz question payload, next = .accepted request quiz question payload →
      s.recordable request.ctx attemptId request.questionId request.raw =
        .ok (quiz, question, payload)) :
    ∀ request quiz question payload,
      .accepted request quiz question payload ∈ front ++ next :: back →
      s.recordable request.ctx attemptId request.questionId request.raw =
        .ok (quiz, question, payload) := by
  intro request quiz question payload hmem
  rcases List.mem_append.1 hmem with hfront | hnow
  · exact h.isRecordable _ _ _ _ (List.mem_append_left _ hfront)
  · rcases List.mem_cons.1 hnow with heq | hback
    · exact hnext _ _ _ _ heq.symm
    · exact h.isRecordable _ _ _ _ (List.mem_append_right _ (List.mem_cons_of_mem _ hback))

/-- A step that hands nothing in. -/
theorem replace (h : Underway attemptId s t handedIn (front ++ call :: back))
    (hchanges : ChangesOnly (fun _ => True) (fun _ _ => False) t u)
    (hattempts : u.attempts = t.attempts) (hcat : t.SameCatalog u)
    (hnext : ∀ request quiz question payload, next = .accepted request quiz question payload →
      s.recordable request.ctx attemptId request.questionId request.raw =
        .ok (quiz, question, payload)) :
    Underway attemptId s u handedIn (front ++ next :: back) where
  placed := hchanges.placed
  attempts := hattempts.trans h.attempts
  sameCatalog := h.sameCatalog.trans hcat
  isRecordable := h.isRecordable_replace hnext
  accepts := h.accepts
  payloadAt?_eq questionId := (hchanges.payloadAt?_eq h.placed id).trans (h.payloadAt?_eq questionId)

/-- A step that writes nothing. -/
theorem replace_same (h : Underway attemptId s t handedIn (front ++ call :: back))
    (hnext : ∀ request quiz question payload, next = .accepted request quiz question payload →
      s.recordable request.ctx attemptId request.questionId request.raw =
        .ok (quiz, question, payload)) :
    Underway attemptId s t handedIn (front ++ next :: back) :=
  h.replace (.refl h.placed) rfl (.refl t) hnext

/-- A step that hands in an answer. -/
theorem handIn {request : RecordCall} {quiz : Quiz} {question : Question} {payload : Payload}
    (h : Underway attemptId s t handedIn
      (front ++ .accepted request quiz question payload :: back))
    (hfresh : t.IsFresh request.ctx.fresh)
    (hnext : ∀ request quiz question payload, next ≠ .accepted request quiz question payload) :
    Underway attemptId s
      (t.putAnswer (t.upsertedAnswer (.ungraded request.ctx.fresh attemptId request.questionId payload
        request.timeSpentSeconds request.ctx.now)))
      (handedIn ++ [(request.questionId, payload)]) (front ++ next :: back) := by
  have hchanges : ChangesOnly (fun _ => True)
      (fun id questionId => id = attemptId ∧ questionId = request.questionId) t
      (t.putAnswer (t.upsertedAnswer (.ungraded request.ctx.fresh attemptId request.questionId payload
        request.timeSpentSeconds request.ctx.now))) :=
    .putAnswer_upserted h.placed hfresh.2 trivial ⟨rfl, rfl⟩
  have hrec : s.recordable request.ctx attemptId request.questionId request.raw =
      .ok (quiz, question, payload) :=
    h.isRecordable _ _ _ _ (List.mem_append_right _ (List.mem_cons_self ..))
  refine ⟨hchanges.placed, h.attempts, h.sameCatalog.trans ⟨rfl, rfl, rfl⟩,
    h.isRecordable_replace fun _ _ _ _ heq => absurd heq (hnext _ _ _ _), ?_, fun questionId => ?_⟩
  · intro given hmem
    rcases List.mem_append.1 hmem with hbefore | hnow
    · exact h.accepts given hbefore
    · obtain rfl := List.mem_singleton.1 hnow
      exact ⟨_, _, _, _, hrec⟩
  · rw [lastHandedIn?_snoc]
    split
    · rename_i hq
      subst hq
      have hself := hchanges.placed.payloadAt?_putAnswer_self
      rwa [attemptId_upsertedAnswer, questionId_upsertedAnswer, payload_upsertedAnswer] at hself
    · rename_i hne
      rw [hchanges.payloadAt?_eq h.placed fun hin => hne hin.2.symm]
      exact h.payloadAt?_eq questionId

/-- Every step of a call. -/
theorem step (h : Underway attemptId s t handedIn (front ++ call :: back))
    (hfresh : call.DrawsFresh t) :
    Underway attemptId s (call.advance attemptId t).2 (handedIn ++ call.handsIn?.toList)
      (front ++ (call.advance attemptId t).1 :: back) := by
  cases call with
  | asked request =>
    have hsame : t.recordable request.ctx attemptId request.questionId request.raw =
        s.recordable request.ctx attemptId request.questionId request.raw :=
      recordable_eq_of_same h.attempts h.sameCatalog _ _ _ _
    simp only [Recording.advance, Recording.handsIn?, Option.toList_none, List.append_nil, hsame]
    cases hrec : s.recordable request.ctx attemptId request.questionId request.raw with
    | error cause => exact h.replace_same (by rintro _ _ _ _ ⟨⟩)
    | ok accepted =>
      refine h.replace_same ?_
      rintro _ _ _ _ ⟨⟩
      exact hrec
  | accepted request quiz question payload =>
    simp only [Recording.advance, Recording.handsIn?, Option.toList_some, upsertAnswer]
    split
    · exact h.handIn hfresh (by rintro _ _ _ _ ⟨⟩)
    · exact h.handIn hfresh (by rintro _ _ _ _ ⟨⟩)
  | judging stored graded =>
    simp only [Recording.advance, Recording.handsIn?, Option.toList_none, List.append_nil]
    split
    · rename_i hsave
      obtain ⟨⟨row, hrow, rfl⟩, rfl⟩ := saveGrade_eq_ok hsave
      have hid := h.placed.id_of_findAnswer hrow
      have hchanges : ChangesOnly (fun _ => True) (fun _ _ => False) t
          (t.putAnswer (row.withGradeOf graded)) :=
        .putAnswer_withGradeOf h.placed (hid ▸ hrow) trivial graded
      exact h.replace hchanges rfl ⟨rfl, rfl, rfl⟩ (by rintro _ _ _ _ ⟨⟩)
    · exact h.replace_same (by rintro _ _ _ _ ⟨⟩)
  | finished reply =>
    simp only [Recording.advance, Recording.handsIn?, Option.toList_none, List.append_nil]
    exact h.replace_same (by rintro _ _ _ _ ⟨⟩)

end Underway

end Store

open Store

theorem Interleaved.underway {attemptId : Uuid} {s t : Store} {requests : List RecordCall}
    {handedIn : List (Int × Payload)} {calls : List Recording}
    (h : Interleaved attemptId s requests handedIn t calls) (hs : s.Placed) :
    Underway attemptId s t handedIn calls := by
  induction h with
  | nil => exact .refl hs requests
  | snoc _ drawsFresh ih => exact ih.step drawsFresh

/-! ## Submitting afterwards -/

namespace Store

variable {s t : Store} {attemptId : Uuid} {questionId : Int} {ctx : Context}

/-- An answer that is judged has the verdict on its content, when the question is of a type
that a rule can grade. -/
theorem Keyed.exists_verdict (h : s.Keyed) {quizId : Int} {question : Question} {row : Answer}
    {now : Instant} (hjudged : IsJudged (s.listQuestions quizId) now row)
    (hq : s.findQuestion row.questionId = some question) (hqq : question.quizId = quizId)
    (hcheck : row.payload.check question = .ok ()) (hrule : question.type.isAutoGradable = true) :
    ∃ correct, question.verdict? row.payload = some correct ∧ row.isCorrect = some correct ∧
      row.pointsEarned = some (question.pointsFor correct) := by
  have hverdict := Question.isSome_verdict?_iff (Payload.type_eq_of_check hcheck)
  rw [hrule, Option.isSome_iff_exists] at hverdict
  obtain ⟨correct, hc⟩ := hverdict
  have hsame := hjudged question correct ((h.questionOf?_listQuestions _ _ _).2 ⟨hq, hqq⟩) hc
  exact ⟨correct, hc, by rw [← hsame]; rfl, by rw [← hsame]; rfl⟩

/-- The question was found by a call that handed in the content, or by the store that fits
together. -/
theorem Underway.exists_question {handedIn : List (Int × Payload)} {calls : List Recording}
    (h : Underway attemptId s t handedIn calls) {attempt : Attempt}
    (ha : s.findAttempt attemptId = some attempt) {payload : Payload}
    (hlast : lastHandedIn? handedIn (s.payloadAt? attemptId questionId) questionId = some payload)
    (hanswered : questionId ∈ handedIn.map (·.1) ∨ s.Sound) :
    ∃ question, s.findQuestion questionId = some question ∧ question.quizId = attempt.quizId ∧
      payload.check question = .ok () := by
  have hrecorded : questionId ∈ handedIn.map (·.1) →
      ∃ question, s.findQuestion questionId = some question ∧ question.quizId = attempt.quizId ∧
        payload.check question = .ok () := by
    intro hmem
    obtain ⟨ctx, raw, _, question, hrec⟩ := h.accepts _ (mem_of_lastHandedIn? hmem hlast)
    obtain ⟨found, hfound, -, -, -, -, hq, hqq, -, hcheck⟩ := recordable_eq_ok_iff.1 hrec
    obtain rfl := Option.some.inj (ha.symm.trans hfound)
    exact ⟨question, hq, hqq, hcheck⟩
  rcases hanswered with hmem | hs
  · exact hrecorded hmem
  · by_cases hmem : questionId ∈ handedIn.map (·.1)
    · exact hrecorded hmem
    · rw [lastHandedIn?_of_not_mem hmem] at hlast
      obtain ⟨row, hrow, rfl⟩ := Option.map_eq_some_iff.1 hlast
      obtain ⟨hstored, hatt, hqid⟩ := hs.findByQuestion_eq_some_iff.1 hrow
      obtain ⟨question, hq, hqq, hcheck⟩ := hs.exists_question ha hstored hatt
      exact ⟨question, hqid ▸ hq, hqq, hcheck⟩

end Store

namespace Engine

/-- However calls that record answers run into each other: the submission that follows leaves
to every question that was answered one answer. It has the content handed in last and, where
a rule can grade it, the verdict on this content. The attempt has the score of these answers.
For a question that was answered before the calls, only the content is known of catalogs that
were edited. -/
theorem LeadsToEdited.submitted_after_recordings {e₀ e : Engine} {attemptId : Uuid}
    {attempt : Attempt} {quiz : Quiz} {requests : List RecordCall}
    {handedIn : List (Int × Payload)} {s t : Store} {calls : List Recording} {ctx : Context}
    {result : AttemptResult} (hi : e₀.IsInitial) (hr : e₀.LeadsToEdited e)
    (ha : e.store.findAttempt attemptId = some attempt)
    (hquiz : e.store.findQuiz attempt.quizId = some quiz) (hauto : quiz.autoGrade = true)
    (h : Interleaved attemptId e.store requests handedIn s calls)
    (hok : s.submitAttempt ctx attemptId = (.ok result, t)) :
    (∀ questionId payload,
      lastHandedIn? handedIn (e.store.payloadAt? attemptId questionId) questionId = some payload →
      ∃ row, t.answersTo attemptId questionId = [row] ∧ row.payload = payload ∧
        (questionId ∈ handedIn.map (·.1) ∨ e.Reachable →
          ∃ question, t.findQuestion questionId = some question ∧
            question.quizId = attempt.quizId ∧
            (question.type.isAutoGradable = true → ∃ correct,
              question.verdict? payload = some correct ∧ row.isCorrect = some correct ∧
                row.pointsEarned = some (question.pointsFor correct)))) ∧
    ∃ closed score, t.findAttempt attemptId = some closed ∧
      Score.aggregate (t.listQuestions attempt.quizId) (t.listAnswers attemptId)
        quiz.passingScore = .ok score ∧
      closed.HasScore score := by
  have hk : e.store.Placed := hr.placed (Store.Authored.sound hi).placed
  have hu := h.underway hk
  obtain ⟨found, foundQuiz, score, u, hopen, hfoundQuiz, hw, hjudged, hscore, rfl⟩ :=
    hu.placed.toKeyed.submitAttempt_eq_ok hok
  obtain ⟨hfound, -, -⟩ := openAttempt_eq_ok_iff.1 hopen
  rw [findAttempt, hu.attempts] at hfound
  obtain rfl := Option.some.inj (ha.symm.trans hfound)
  rw [hu.sameCatalog.findQuiz_eq] at hfoundQuiz
  obtain rfl := Option.some.inj (hquiz.symm.trans hfoundQuiz)
  have hid := hk.id_of_findAttempt ha
  have hcat := hu.sameCatalog.trans hw.sameCatalog
  have hchanges : ChangesOnly (fun _ => True) (fun _ _ => False) s u :=
    hw.changesOnly hu.placed (fun _ _ _ _ => trivial) (by rintro _ _ ⟨⟩)
  constructor
  · intro questionId payload hlast
    have hpayload : u.payloadAt? attemptId questionId = some payload :=
      ((hchanges.payloadAt?_eq hu.placed id).trans (hu.payloadAt?_eq questionId)).trans hlast
    obtain ⟨row, hrow, rfl⟩ := Option.map_eq_some_iff.1 hpayload
    refine ⟨row, ?_, rfl, fun hwhen => ?_⟩
    · have hone := hchanges.placed.answersTo_eq attemptId questionId
      rw [hrow] at hone
      exact hone
    · obtain ⟨question, hq, hqq, hcheck⟩ :=
        hu.exists_question ha hlast (hwhen.imp_right Reachable.sound)
      obtain ⟨hstored, hatt, hqid⟩ := hchanges.placed.findByQuestion_eq_some_iff.1 hrow
      refine ⟨question, (hcat.findQuestion_eq _).trans hq, hqq, fun hrule => ?_⟩
      refine hu.placed.exists_verdict (hjudged hauto row ?_) ?_ hqq hcheck hrule
      · exact (hchanges.placed.mem_listAnswers _ row).2 ⟨hstored, hatt⟩
      · rw [hu.sameCatalog.findQuestion_eq, hqid, hq]
  · refine ⟨nextVersion (attempt.submittedWith quiz score ctx.now), score, ?_, ?_,
      Attempt.hasScore_withScore _ score⟩
    · rw [← hid]
      exact findAttempt_putAttempt_self _ _
    · rw [← hscore, ← hw.sameCatalog.listQuestions_eq]
      rfl

end Engine

/-! ## A slow call

The student of the sample run chooses one option and then the other. The verdict on the first
choice is written when the second is stored already. -/

namespace Sample

def slowCall : RecordCall := ⟨student 2, 1, choiceAnswer, none⟩

def quickCall : RecordCall := ⟨student 3, 1, .object [("selected_option_id", .integer 2)], none⟩

/-- The slow call with its answer stored and judged. -/
def slowJudging : Recording × Store :=
  let (call, s) := Recording.advance (uuid 1) started.store (.asked slowCall)
  call.advance (uuid 1) s

/-- The quick call when it has returned. -/
def quickFinished : Recording × Store := Recording.alone (uuid 1) slowJudging.2 quickCall

/-- The store when the slow call has returned too. -/
def overtaken : Store := (slowJudging.1.advance (uuid 1) quickFinished.2).2

theorem interleaved_overtaken : ∃ calls, Interleaved (uuid 1) started.store [slowCall, quickCall]
    [(1, .singleChoice 1), (1, .singleChoice 2)] overtaken calls := by
  have h0 : Interleaved (uuid 1) started.store [slowCall, quickCall] [] started.store
    [.asked slowCall, .asked quickCall] := .nil
  have h1 := @Interleaved.snoc _ _ _ _ _ [] [.asked quickCall] (.asked slowCall) h0 trivial
  have h2 := @Interleaved.snoc _ _ _ _ _ [] [.asked quickCall] _ h1 (by decide +kernel)
  have h3 := @Interleaved.snoc _ _ _ _ _ [slowJudging.1] [] (.asked quickCall) h2 trivial
  have h4 := @Interleaved.snoc _ _ _ _ _ [slowJudging.1] [] _ h3 (by decide +kernel)
  have h5 := @Interleaved.snoc _ _ _ _ _ [slowJudging.1] [] _ h4 (by decide +kernel)
  have h6 := @Interleaved.snoc _ _ _ _ _ [] [_] slowJudging.1 h5 (by decide +kernel)
  exact ⟨_, h6⟩

/-- The second choice with the verdict on the first. -/
def overtakenRow : Answer :=
  (Answer.ungraded (uuid 2) (uuid 1) 1 (.singleChoice 2) none .epoch).withVerdict choice true .epoch

theorem openAttempt_overtaken : overtaken.openAttempt (student 4).caller (uuid 1) = .ok attempt :=
  Store.openAttempt_eq_ok_iff.2 (by decide +kernel)

theorem load_overtaken :
    Snapshot.load overtaken attempt = .ok ⟨quiz, [choice, essay], [overtakenRow]⟩ := by
  have hquestions : overtaken.listQuestions 1 = [choice, essay] :=
    listQuestions_answered
  have hfilter : overtaken.answers.values.filter (·.attemptId == uuid 1) = [overtakenRow] := by
    decide +kernel
  have hanswers : overtaken.listAnswers (uuid 1) = [overtakenRow] := by
    rw [Store.listAnswers, hfilter]
    exact List.mergeSort_singleton _
  refine Snapshot.load_eq_ok_iff.2 ⟨quiz, by decide +kernel, ?_⟩
  rw [← hquestions, ← hanswers]
  rfl

theorem exists_result_overtaken : ∃ result,
    (overtaken.submitAttempt (student 4) (uuid 1)).1 = .ok result := by
  have hok : (overtaken.submitAttempt (student 4) (uuid 1)).1.toBool = true := by
    rw [Store.submitAttempt_of_load openAttempt_overtaken load_overtaken]
    decide +kernel
  cases hr : (overtaken.submitAttempt (student 4) (uuid 1)).1 with
  | error cause =>
    rw [hr] at hok
    cases hok
  | ok result => exact ⟨result, rfl⟩

end Sample

/-- The second choice of the sample run is submitted with the verdict on itself, although it
was stored with the verdict on the first. -/
theorem Engine.submitted_after_recordings_overtaken :
    Sample.overtaken.answersTo (Sample.uuid 1) 1 = [Sample.overtakenRow] ∧
      ∃ row, (Sample.overtaken.submitAttempt (Sample.student 4) (Sample.uuid 1)).2.answersTo
          (Sample.uuid 1) 1 = [row] ∧
        row.payload = .singleChoice 2 ∧ row.isCorrect = some false := by
  refine ⟨by decide +kernel, ?_⟩
  obtain ⟨calls, hcalls⟩ := Sample.interleaved_overtaken
  obtain ⟨result, hresult⟩ := Sample.exists_result_overtaken
  have hr : Sample.initial.LeadsToEdited Sample.started :=
    .single (.event (.call (e := Sample.initial) (Sample.student 1) (.start 1 {}) (by decide +kernel)))
  have ha : Sample.started.store.findAttempt (Sample.uuid 1) = some Sample.attempt := by
    decide +kernel
  have hquiz : Sample.started.store.findQuiz Sample.attempt.quizId = some Sample.quiz := by
    decide +kernel
  obtain ⟨hall, -⟩ := hr.submitted_after_recordings Sample.isInitial_initial ha hquiz rfl hcalls
    (Prod.ext hresult rfl)
  obtain ⟨row, hrow, hpayload, hverdict⟩ := hall 1 (.singleChoice 2) (by decide +kernel)
  obtain ⟨question, hq, -, hrule⟩ := hverdict (Or.inl (by decide +kernel))
  have hchoice : (Sample.overtaken.submitAttempt (Sample.student 4) (Sample.uuid 1)).2.findQuestion 1 =
      some Sample.choice := by
    rw [Store.submitAttempt_of_load Sample.openAttempt_overtaken Sample.load_overtaken]
    decide +kernel
  obtain rfl := Option.some.inj (hchoice.symm.trans hq)
  obtain ⟨correct, hc, hcorrect, -⟩ := hrule rfl
  have hwrong : Sample.choice.verdict? (.singleChoice 2) = some false := by decide
  obtain rfl := Option.some.inj (hwrong.symm.trans hc)
  exact ⟨row, hrow, hpayload, hcorrect⟩

end QuizEngine
