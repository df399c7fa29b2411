import QuizEngine.Proofs.Scores
import Mathlib.Data.List.Sort

/-!
# Submitted scores and the last answers

A question of an attempt has an answer stored when some call recorded one, and the content is
that of the last such call (`Run.recalls`). While an attempt is in progress its answers have
no grade other than by rule (`Reachable.openByRule`), and a submission gives every answer
that a rule can grade the verdict on its content. So what a submitted attempt is worth
depends on nothing but the last values recorded (`Run.submitted_of_last_answers`): not on
what they replaced, nor on the order in which they came.
-/

namespace QuizEngine

/-! ## What was recorded -/

/-- The value that the event recorded for the question of the attempt. -/
def Event.recorded? (attemptId : Uuid) (questionId : Int) : Event → Option Json
  | .call _ (.record a q raw _) (.ok _) => if a = attemptId ∧ q = questionId then some raw else none
  | _ => none

/-- The value that was recorded last for the question of the attempt. -/
def lastRecorded? (trace : List Event) (attemptId : Uuid) (questionId : Int) : Option Json :=
  (trace.filterMap (·.recorded? attemptId questionId)).getLast?

theorem lastRecorded?_snoc_of_none {trace : List Event} {event : Event} {attemptId : Uuid}
    {questionId : Int} (h : event.recorded? attemptId questionId = none) :
    lastRecorded? (trace ++ [event]) attemptId questionId =
      lastRecorded? trace attemptId questionId := by
  simp [lastRecorded?, List.filterMap_append, h]

theorem lastRecorded?_snoc_of_some {trace : List Event} {event : Event} {attemptId : Uuid}
    {questionId : Int} {raw : Json} (h : event.recorded? attemptId questionId = some raw) :
    lastRecorded? (trace ++ [event]) attemptId questionId = some raw := by
  simp [lastRecorded?, List.filterMap_append, h]

/-! ## Grades by rule -/

/-- The answer has no grade. -/
structure Answer.IsUngraded (row : Answer) : Prop where
  pointsEarned : row.pointsEarned = none
  isCorrect : row.isCorrect = none
  graderFeedback : row.graderFeedback = none
  gradedBy : row.gradedBy = none
  gradedAt : row.gradedAt = none

/-- The answer has the verdict of the rules on its content, where the quiz grades by rule and
the question is of a type that a rule can grade, and no grade otherwise. -/
def Answer.HasRuleGrade (row : Answer) (quiz : Quiz) (question : Question) : Prop :=
  if quiz.autoGrade = true ∧ question.type.isAutoGradable = true then
    ∃ correct, question.verdict? row.payload = some correct ∧ row.isCorrect = some correct ∧
      row.pointsEarned = some (question.pointsFor correct)
  else row.IsUngraded

/-- The points by rule depend on the content alone. -/
theorem Answer.HasRuleGrade.pointsEarned_eq {row other : Answer} {quiz : Quiz} {question : Question}
    (h : row.HasRuleGrade quiz question) (h' : other.HasRuleGrade quiz question)
    (hp : other.payload = row.payload) : other.pointsEarned = row.pointsEarned := by
  unfold Answer.HasRuleGrade at h h'
  split at h
  · rename_i hrule
    rw [if_pos hrule] at h'
    obtain ⟨correct, hc, _, hpoints⟩ := h
    obtain ⟨correct', hc', _, hpoints'⟩ := h'
    rw [hp, hc, Option.some.injEq] at hc'
    rw [hpoints, hpoints', hc']
  · rename_i hrule
    rw [if_neg hrule] at h'
    rw [h.pointsEarned, h'.pointsEarned]

namespace Store

variable {s t : Store} {attemptId : Uuid} {questionId : Int}

/-! ## Contents of answers -/

/-- The content of the answer to the question of the attempt. -/
def payloadAt? (s : Store) (attemptId : Uuid) (questionId : Int) : Option Payload :=
  (s.findByQuestion attemptId questionId).map (·.payload)

/-- Where nothing is handed in the content stays. -/
theorem ChangesOnly.payloadAt?_eq {touched : Uuid → Prop} {handedIn : Uuid → Int → Prop}
    (h : ChangesOnly touched handedIn s t) (hs : s.Placed) (hnot : ¬handedIn attemptId questionId) :
    t.payloadAt? attemptId questionId = s.payloadAt? attemptId questionId := by
  unfold payloadAt?
  cases hfound : s.findByQuestion attemptId questionId with
  | some row =>
    obtain ⟨hrow, hatt, hq⟩ := hs.findByQuestion_eq_some_iff.1 hfound
    obtain ⟨later, hlater, hplace, hcontent⟩ := h.kept _ row hrow
    obtain ⟨hid, hatt', hq', -⟩ := Answer.place_eq_iff.1 hplace
    have hsame : later.content = row.content := hcontent.resolve_right (hatt ▸ hq ▸ hnot)
    have hfound' : t.findByQuestion attemptId questionId = some later :=
      h.placed.findByQuestion_eq_some_iff.2 ⟨hid ▸ hlater, hatt'.trans hatt, hq'.trans hq⟩
    rw [hfound']
    exact congrArg some (congrArg Prod.fst hsame)
  | none =>
    cases hfound' : t.findByQuestion attemptId questionId with
    | none => rfl
    | some later =>
      obtain ⟨hlater, hatt, hq⟩ := h.placed.findByQuestion_eq_some_iff.1 hfound'
      cases hrow : s.findAnswer later.id with
      | none => exact absurd (h.added _ later hrow hlater) (hatt ▸ hq ▸ hnot)
      | some row =>
        obtain ⟨later', hlater', hplace, -⟩ := h.kept _ row hrow
        obtain rfl := Option.some.inj (hlater.symm.trans hlater')
        obtain ⟨hid, hatt', hq', -⟩ := Answer.place_eq_iff.1 hplace
        have hthere := hs.findByQuestion_eq_some_iff.2
          ⟨hid ▸ hrow, hatt'.symm.trans hatt, hq'.symm.trans hq⟩
        rw [hfound] at hthere
        cases hthere

theorem Placed.payloadAt?_putAnswer_self {row : Answer} (h : (s.putAnswer row).Placed) :
    (s.putAnswer row).payloadAt? row.attemptId row.questionId = some row.payload := by
  have hfound : (s.putAnswer row).findByQuestion row.attemptId row.questionId = some row :=
    h.findByQuestion_eq_some_iff.2 ⟨findAnswer_putAnswer_self s row, rfl, rfl⟩
  rw [payloadAt?, hfound]
  rfl

/-- Only an answer that is handed in changes what is there to its question. -/
theorem WritesOnly.payloadAt?_eq {p : Write → Prop} (hw : WritesOnly p s t) (h : s.Sound)
    (hp : ¬p (.handIn attemptId questionId)) :
    t.payloadAt? attemptId questionId = s.payloadAt? attemptId questionId := by
  have hchanges : ChangesOnly (fun _ => True) (fun id question => p (.handIn id question)) s t :=
    hw.changesOnly h.placed (fun _ _ _ _ => trivial) fun _ _ hin => hin
  exact hchanges.payloadAt?_eq h.placed hp

/-- What is stored is the content of the last value recorded. -/
def Recalls (s : Store) (attemptId : Uuid) (questionId : Int) : Option Json → Prop
  | none => s.payloadAt? attemptId questionId = none
  | some raw => ∃ question payload, s.findQuestion questionId = some question ∧
      Payload.parse question.type raw = .ok payload ∧
      s.payloadAt? attemptId questionId = some payload

theorem Recalls.of_same {last : Option Json} (h : s.Recalls attemptId questionId last)
    (hcat : s.SameCatalog t)
    (hsame : t.payloadAt? attemptId questionId = s.payloadAt? attemptId questionId) :
    t.Recalls attemptId questionId last := by
  cases last with
  | none => exact hsame.trans h
  | some raw =>
    obtain ⟨question, payload, hq, hparse, hp⟩ := h
    exact ⟨question, payload, (hcat.findQuestion_eq _).trans hq, hparse, hsame.trans hp⟩

/-- An answer that was recorded is stored. -/
theorem recalls_recordAnswer {ctx : Context} {raw : Json} {seconds : Option Int} {answer : Answer}
    (h : s.Sound) (hf : s.IsFresh ctx.fresh)
    (hr : s.recordAnswer ctx attemptId questionId raw seconds = (.ok answer, t)) :
    t.Recalls attemptId questionId (some raw) := by
  rcases recordAnswer_cases hf attemptId questionId raw seconds with
    ⟨e, he⟩ | ⟨quiz, question, payload, row, answer', t', hrec, hrow, hin, hjudged, hok⟩
  · rw [hr] at he
    cases he
  · obtain ⟨-, rfl⟩ := Prod.mk.inj (hr.symm.trans hok)
    obtain ⟨attempt, _, _, _, _, _, hq, _, hparse, _⟩ := recordable_eq_ok_iff.1 hrec
    have hsound := hin.sound h
    have hstored : (s.putAnswer row).payloadAt? attemptId questionId = some payload := by
      have hatt : row.attemptId = attemptId := hrow ▸ s.attemptId_upsertedAnswer _
      have hqid : row.questionId = questionId := hrow ▸ s.questionId_upsertedAnswer _
      have hpayload : row.payload = payload := hrow ▸ s.payload_upsertedAnswer _
      rw [← hatt, ← hqid, hsound.placed.payloadAt?_putAnswer_self, hpayload]
    have hafter : (s.putAnswer row).Recalls attemptId questionId (some raw) :=
      ⟨question, payload, hq, hparse, hstored⟩
    exact hafter.of_same hjudged.sameCatalog (hjudged.payloadAt?_eq hsound nofun)

/-! ## Attempts in progress -/

theorem isUngraded_upsertedAnswer (s : Store) {given : Answer} (h : given.IsUngraded) :
    (s.upsertedAnswer given).IsUngraded := by
  unfold upsertedAnswer
  split
  · exact ⟨rfl, rfl, rfl, rfl, rfl⟩
  · exact h

/-- While an attempt is in progress only rules grade its answers. -/
def OpenByRule (s : Store) : Prop :=
  ∀ id attempt quiz, s.findAttempt id = some attempt → attempt.status = .inProgress →
    s.findQuiz attempt.quizId = some quiz → ∀ row ∈ s.listAnswers id, row.IsUngraded ∨
      quiz.autoGrade = true ∧ ∃ question correct, s.findQuestion row.questionId = some question ∧
        question.verdict? row.payload = some correct

theorem Writes.openByRule {w : Write} (hw : s.Writes w t) (h : s.Sound) (hopen : s.OpenByRule) :
    t.OpenByRule := by
  intro id attempt quiz ha hp hquiz row hrow
  have ht := hw.sound h
  rw [hw.sameCatalog.findQuiz_eq] at hquiz
  simp only [hw.sameCatalog.findQuestion_eq]
  by_cases hid : w.attempt? = some id
  · cases w with
    | start attemptId =>
      obtain rfl := Option.some.inj hid
      obtain ⟨hstored, hatt⟩ := (ht.mem_listAnswers _ row).1 hrow
      cases hw with
      | start _ _ isFresh =>
        obtain ⟨_, _, hfound, -⟩ := h.hasQuestion _ row hstored
        rw [hatt, isFresh.1] at hfound
        cases hfound
    | handIn attemptId questionId =>
      obtain rfl := Option.some.inj hid
      obtain ⟨hstored, hatt⟩ := (ht.mem_listAnswers _ row).1 hrow
      cases hw with
      | handIn _ _ =>
        rw [findAnswer_putAnswer] at hstored
        split at hstored
        · obtain rfl := Option.some.inj hstored
          exact Or.inl (s.isUngraded_upsertedAnswer ⟨rfl, rfl, rfl, rfl, rfl⟩)
        · exact hopen _ attempt quiz ha hp hquiz row ((h.mem_listAnswers _ row).2 ⟨hstored, hatt⟩)
    | judge attemptId =>
      obtain rfl := Option.some.inj hid
      obtain ⟨hstored, hatt⟩ := (ht.mem_listAnswers _ row).1 hrow
      cases hw with
      | judge _ ofAttempt _ ofQuiz byRule ofQuestion hasVerdict =>
        rw [findAnswer_putAnswer] at hstored
        split at hstored
        · obtain rfl := Option.some.inj hstored
          obtain rfl := Option.some.inj (ofAttempt.symm.trans ha)
          obtain rfl := Option.some.inj (ofQuiz.symm.trans hquiz)
          exact Or.inr ⟨byRule, _, _, ofQuestion, hasVerdict⟩
        · exact hopen _ attempt quiz ha hp hquiz row ((h.mem_listAnswers _ row).2 ⟨hstored, hatt⟩)
    | submit attemptId =>
      obtain rfl := Option.some.inj hid
      obtain ⟨_, score, _, _, hscored⟩ := hw.isScored_of_submit h ha
      exact absurd (hscored.status.symm.trans hp) score.status_ne_inProgress
    | abandon attemptId =>
      obtain rfl := Option.some.inj hid
      cases hw with
      | abandon isAbandonable =>
        obtain ⟨_, _, hbefore, _, _, _, rfl⟩ := abandonable_eq_ok_iff.1 isAbandonable
        obtain rfl := h.id_of_findAttempt hbefore
        obtain rfl := Option.some.inj ((findAttempt_putAttempt_self _ _).symm.trans ha)
        cases hp
    | grade attemptId answerId =>
      obtain rfl := Option.some.inj hid
      obtain ⟨_, score, _, _, hscored⟩ := hw.isScored_of_grade h ha
      exact absurd (hscored.status.symm.trans hp) score.status_ne_inProgress
    | aside => cases hid
  · have hsame := hw.sameAttempt h hid
    exact hopen id attempt quiz (hsame.findAttempt_eq ▸ ha) hp hquiz row (hsame.listAnswers_eq ▸ hrow)

/-! ## Submissions -/

/-- The attempt is submitted with the answers that were recorded last, graded by rule, and has
their score. -/
structure IsSettled (s : Store) (attemptId : Uuid) (last : Int → Option Json) (attempt : Attempt)
    (quiz : Quiz) (score : Score) : Prop where
  found : s.findAttempt attemptId = some attempt
  ofQuiz : s.findQuiz attempt.quizId = some quiz
  answered : ∀ question ∈ s.questions.values, question.quizId = attempt.quizId →
    match last question.id with
    | none => s.findByQuestion attemptId question.id = none
    | some raw => ∃ row, s.findByQuestion attemptId question.id = some row ∧
        Payload.parse question.type raw = .ok row.payload ∧ row.HasRuleGrade quiz question
  ofQuestions : ∀ row ∈ s.listAnswers attemptId, ∃ question ∈ s.questions.values,
    question.quizId = attempt.quizId ∧ s.findByQuestion attemptId question.id = some row
  ascending : (s.listAnswers attemptId).Pairwise fun a b => a.questionId < b.questionId
  isScore : Score.aggregate (s.listQuestions attempt.quizId) (s.listAnswers attemptId)
    quiz.passingScore = .ok score
  hasScore : attempt.HasScore score

/-- Answers of an attempt whose answers are all judged have the grades of the rules. -/
theorem Sound.hasRuleGrade (h : s.Sound) (hopen : s.OpenByRule) {attempt : Attempt} {quiz : Quiz}
    {question : Question} {row : Answer} {now : Instant}
    (ha : s.findAttempt attemptId = some attempt) (hp : attempt.status = .inProgress)
    (hquiz : s.findQuiz attempt.quizId = some quiz)
    (hjudged : quiz.autoGrade = true → ∀ row ∈ s.listAnswers attemptId, ∀ question correct,
      s.findQuestion row.questionId = some question → question.verdict? row.payload = some correct →
      row.withVerdict question correct now = row)
    (hq : s.findQuestion row.questionId = some question) (hrow : row ∈ s.listAnswers attemptId) :
    row.HasRuleGrade quiz question := by
  obtain ⟨hstored, hatt⟩ := (h.mem_listAnswers _ row).1 hrow
  have hverdict := h.isSome_verdict? hstored hq
  unfold Answer.HasRuleGrade
  split
  · rename_i hrule
    rw [hrule.2, Option.isSome_iff_exists] at hverdict
    obtain ⟨correct, hc⟩ := hverdict
    have hsame := hjudged hrule.1 row hrow question correct hq hc
    exact ⟨correct, hc, by rw [← hsame]; rfl, by rw [← hsame]; rfl⟩
  · rename_i hrule
    rcases hopen attemptId attempt quiz ha hp hquiz row hrow with hnone | ⟨hauto, other, correct, ho, hc⟩
    · exact hnone
    · obtain rfl := Option.some.inj (hq.symm.trans ho)
      rw [hc] at hverdict
      exact absurd ⟨hauto, hverdict.symm⟩ hrule

theorem Writes.exists_isSettled {last : Int → Option Json} (hw : s.Writes (.submit attemptId) t)
    (h : s.Sound) (hopen : s.OpenByRule)
    (hlast : ∀ questionId, s.Recalls attemptId questionId (last questionId)) :
    ∃ attempt quiz score, t.IsSettled attemptId last attempt quiz score := by
  cases hw with
  | @submit ctx _ before _ quiz score isOpen ofQuiz isJudged isScore isNext =>
    obtain ⟨ha, -, hp⟩ := openAttempt_eq_ok_iff.1 isOpen
    obtain ⟨-, rfl⟩ := Attempt.submitted_eq_ok_iff.1 isNext
    obtain rfl := h.id_of_findAttempt ha
    refine ⟨_, quiz, score, findAttempt_putAttempt_self _ _, ofQuiz, ?_, ?_,
      h.pairwise_listAnswers before.id, isScore, Attempt.hasScore_withScore _ score⟩
    · intro question hmem hqq
      have hq := (h.mem_questions_iff question).1 hmem
      have hrec := hlast question.id
      cases hl : last question.id with
      | none =>
        rw [hl] at hrec
        exact Option.map_eq_none_iff.1 hrec
      | some raw =>
        rw [hl] at hrec
        obtain ⟨question', payload, hq', hparse, hpayload⟩ := hrec
        obtain rfl := Option.some.inj (hq.symm.trans hq')
        obtain ⟨row, hrow, rfl⟩ := Option.map_eq_some_iff.1 hpayload
        obtain ⟨hstored, hatt, hqid⟩ := h.findByQuestion_eq_some_iff.1 hrow
        exact ⟨row, hrow, hparse, h.hasRuleGrade hopen ha hp ofQuiz isJudged (hqid ▸ hq)
          ((h.mem_listAnswers _ row).2 ⟨hstored, hatt⟩)⟩
    · intro row hrow
      obtain ⟨hstored, hatt⟩ := (h.mem_listAnswers _ row).1 hrow
      obtain ⟨question, hq, hqq, -⟩ := h.exists_question ha hstored hatt
      have hqid := h.id_of_findQuestion hq
      refine ⟨question, (h.mem_questions_iff question).2 (hqid ▸ hq), hqq, ?_⟩
      exact h.findByQuestion_eq_some_iff.2 ⟨hstored, hatt, hqid.symm⟩

/-! ## Equal last answers -/

namespace IsSettled

variable {s' : Store} {id id' : Uuid} {last last' : Int → Option Json} {attempt attempt' : Attempt}
  {quiz quiz' : Quiz} {score score' : Score}

/-- What an answer counts in one submission, some answer counts in the other. -/
theorem basis_subset (h : s.IsSettled id last attempt quiz score)
    (h' : s'.IsSettled id' last' attempt' quiz score') (hs' : s'.Sound)
    (hquestions : s'.questions = s.questions) (hquiz : attempt'.quizId = attempt.quizId)
    (hlast : ∀ question ∈ s.questions.values, question.quizId = attempt.quizId →
      (last' question.id).map (Payload.parse question.type) =
        (last question.id).map (Payload.parse question.type)) :
    (s.listAnswers id).map Score.basis ⊆ (s'.listAnswers id').map Score.basis := by
  intro b hb
  obtain ⟨row, hrow, rfl⟩ := List.mem_map.1 hb
  obtain ⟨question, hmem, hqq, hfind⟩ := h.ofQuestions row hrow
  have hrec := h.answered question hmem hqq
  have hrec' := h'.answered question (hquestions ▸ hmem) (hqq.trans hquiz.symm)
  have hparse := hlast question hmem hqq
  cases hl : last question.id with
  | none =>
    rw [hl] at hrec
    exact absurd (hrec.symm.trans hfind) nofun
  | some raw =>
    rw [hl] at hrec hparse
    obtain ⟨found, hfound, hp, hgrade⟩ := hrec
    obtain rfl := Option.some.inj (hfind.symm.trans hfound)
    obtain ⟨raw', hl', hsame⟩ := Option.map_eq_some_iff.1 hparse
    rw [hl'] at hrec'
    obtain ⟨row', hrow', hp', hgrade'⟩ := hrec'
    rw [hp', hp] at hsame
    obtain ⟨hstored', hatt', hqid'⟩ := hs'.findByQuestion_eq_some_iff.1 hrow'
    obtain ⟨-, hqid⟩ := place_of_findByQuestion hfind
    refine List.mem_map.2 ⟨row', (hs'.mem_listAnswers _ row').2 ⟨hstored', hatt'⟩, ?_⟩
    exact Prod.ext (hqid'.trans hqid.symm) (hgrade.pointsEarned_eq hgrade' (Except.ok.inj hsame))

/-- Submissions with equal last answers have equal scores. -/
theorem score_eq (h : s.IsSettled id last attempt quiz score)
    (h' : s'.IsSettled id' last' attempt' quiz' score') (hs : s.Sound) (hs' : s'.Sound)
    (hquizzes : s'.quizzes = s.quizzes) (hquestions : s'.questions = s.questions)
    (hquiz : attempt'.quizId = attempt.quizId)
    (hlast : ∀ question ∈ s.questions.values, question.quizId = attempt.quizId →
      (last' question.id).map (Payload.parse question.type) =
        (last question.id).map (Payload.parse question.type)) : score' = score := by
  obtain rfl : quiz' = quiz := by
    have hfound := h'.ofQuiz
    rw [hquiz, findQuiz, hquizzes] at hfound
    exact Option.some.inj (hfound.symm.trans h.ofQuiz)
  have hascending : ∀ rows : List Answer,
      (rows.Pairwise fun a b => a.questionId < b.questionId) →
        (rows.map Score.basis).Pairwise fun a b => a.1 < b.1 := by
    intro rows hrows
    exact List.pairwise_map.2 hrows
  have hlists : (s'.listAnswers id').map Score.basis = (s.listAnswers id).map Score.basis := by
    have : Std.Irrefl fun a b : Int × Option Decimal => a.1 < b.1 := ⟨fun a => Int.lt_irrefl a.1⟩
    have : Std.Antisymm fun a b : Int × Option Decimal => a.1 < b.1 :=
      ⟨fun a b hab hba => absurd hab (Int.lt_asymm hba)⟩
    refine List.Subset.antisymm_of_pairwise (hascending _ h'.ascending) (hascending _ h.ascending)
      (h'.basis_subset h hs hquestions.symm hquiz.symm fun question hmem hqq => ?_)
      (h.basis_subset h' hs' hquestions hquiz hlast)
    exact (hlast question (hquestions ▸ hmem) (hqq.trans hquiz)).symm
  have hscore := h'.isScore
  rw [Score.aggregate_eq_of_basis_eq hlists, hquiz, listQuestions, hquestions] at hscore
  exact Except.ok.inj (hscore.symm.trans h.isScore)

end IsSettled

end Store

namespace Engine

variable {e e' : Engine} {trace : List Event} {event : Event} {attemptId : Uuid} {questionId : Int}

/-! ## The last value recorded -/

/-- An event that does not record an answer to the question. -/
theorem Step.recalls_of_none (h : e.Step event e') (hs : e.store.Sound)
    (hr : e.store.Recalls attemptId questionId (lastRecorded? trace attemptId questionId))
    (hnone : event.recorded? attemptId questionId = none)
    (hp : ¬event.permits (.handIn attemptId questionId)) :
    e'.store.Recalls attemptId questionId
      (lastRecorded? (trace ++ [event]) attemptId questionId) := by
  have hw := h.writes hs
  rw [lastRecorded?_snoc_of_none hnone]
  exact hr.of_same hw.sameCatalog (hw.payloadAt?_eq hs hp)

/-- A call that records an answer, or fails to. -/
theorem recalls_record {ctx : Context} {a : Uuid} {q : Int} {raw : Json} {seconds : Option Int}
    (isFresh : e.store.IsFresh ctx.fresh) (hs : e.store.Sound)
    (hr : e.store.Recalls attemptId questionId (lastRecorded? trace attemptId questionId)) :
    (e.perform ctx (.record a q raw seconds)).2.store.Recalls attemptId questionId
      (lastRecorded? (trace ++ [.call ctx (.record a q raw seconds)
        (e.perform ctx (.record a q raw seconds)).1]) attemptId questionId) := by
  have hstep := Step.call ctx (.record a q raw seconds) isFresh
  by_cases hplace : a = attemptId ∧ q = questionId
  · obtain ⟨rfl, rfl⟩ := hplace
    rcases Store.recordAnswer_cases isFresh a q raw seconds with
      ⟨cause, he⟩ | ⟨_, _, _, _, answer, t, _, _, _, _, hok⟩
    · -- a refused call leaves the store and the last value as they are
      rw [lastRecorded?_snoc_of_none (by simp [perform, ofOutcome, he, Except.map, Event.recorded?])]
      simpa [perform, ofOutcome, withStore, he] using hr
    · have hrecorded : (Event.call ctx (.record a q raw seconds)
          (e.perform ctx (.record a q raw seconds)).1).recorded? a q = some raw := by
        simp [perform, ofOutcome, hok, Except.map, Event.recorded?]
      rw [lastRecorded?_snoc_of_some hrecorded]
      simpa [perform, ofOutcome, withStore, hok] using Store.recalls_recordAnswer hs isFresh hok
  · refine hstep.recalls_of_none hs hr ?_ ?_
    · unfold Event.recorded?
      split
      · rename_i heq
        injection heq with _ hcall _
        injection hcall with ha hq _ _
        rw [if_neg]
        rintro ⟨rfl, rfl⟩
        exact hplace ⟨ha, hq⟩
      · rfl
    · rintro (heq | heq)
      · injection heq with ha hq
        exact hplace ⟨ha.symm, hq.symm⟩
      · cases heq

theorem Step.recalls (h : e.Step event e') (hs : e.store.Sound)
    (hr : e.store.Recalls attemptId questionId (lastRecorded? trace attemptId questionId)) :
    e'.store.Recalls attemptId questionId
      (lastRecorded? (trace ++ [event]) attemptId questionId) := by
  have hstep := h
  cases h with
  | call ctx asked isFresh =>
    cases asked with
    | record a q raw seconds => exact recalls_record isFresh hs hr
    | start quizId client => exact hstep.recalls_of_none hs hr rfl nofun
    | submit a => exact hstep.recalls_of_none hs hr rfl (by simp [Event.permits, Call.permits])
    | abandon a => exact hstep.recalls_of_none hs hr rfl (by simp [Event.permits, Call.permits])
    | grade a g => exact hstep.recalls_of_none hs hr rfl (by simp [Event.permits, Call.permits])
    | bulkGrade entries =>
      exact hstep.recalls_of_none hs hr rfl (by simp [Event.permits, Call.permits])
    | result a => exact hstep.recalls_of_none hs hr rfl id
    | review a => exact hstep.recalls_of_none hs hr rfl id
    | summary a => exact hstep.recalls_of_none hs hr rfl id
    | history quizId studentId => exact hstep.recalls_of_none hs hr rfl id
    | pending quizId => exact hstep.recalls_of_none hs hr rfl id
    | statistics quizId => exact hstep.recalls_of_none hs hr rfl id
  | refresh _ _ => exact hstep.recalls_of_none hs hr rfl nofun
  | overflow _ _ => exact hstep.recalls_of_none hs hr rfl nofun
  | dropWorker => exact hstep.recalls_of_none hs hr rfl nofun
  | failGradeWrites a => exact hstep.recalls_of_none hs hr rfl nofun
  | forceConflicts a times => exact hstep.recalls_of_none hs hr rfl nofun

/-- After a run every question of every attempt has the content of the last value that was
recorded for it. -/
theorem Run.recalls (h : e.Run trace e') (hi : e.IsInitial) :
    e'.store.Recalls attemptId questionId (lastRecorded? trace attemptId questionId) := by
  induction h with
  | nil =>
    have hnone : e.store.findByQuestion attemptId questionId = none := by
      rw [Store.findByQuestion, Store.Authored.answers_eq hi]
      rfl
    exact congrArg (Option.map (·.payload)) hnone
  | snoc before step ih => exact step.recalls (before.sound (Store.Authored.sound hi)) ih

theorem Reachable.openByRule (h : e.Reachable) : e.store.OpenByRule :=
  h.keeps (fun _ hs id attempt quiz ha => by simp [hs.findAttempt_eq] at ha)
    fun hs hw hopen => hw.openByRule hs hopen

/-! ## Submissions -/

theorem Run.exists_isSettled {ctx : Context} {result : AttemptResult} (hi : e.IsInitial)
    (hr : e.Run trace e') {e'' : Engine}
    (hsubmit : e'.perform ctx (.submit attemptId) = (.ok (.result result), e'')) :
    e''.store.Sound ∧ ∃ attempt quiz score,
      e''.store.IsSettled attemptId (lastRecorded? trace attemptId) attempt quiz score := by
  have hs : e'.store.Sound := hr.sound (Store.Authored.sound hi)
  rcases Store.submitAttempt_cases hs ctx attemptId with ⟨cause, t, he, _⟩ | ⟨_, t, u, hok, hw, hsub⟩
  · simp [perform, submit, he, Except.map] at hsubmit
  · have hstore : (e'.perform ctx (.submit attemptId)).2.store = u := by
      simp only [perform, submit, hok]
    rw [hsubmit] at hstore
    simp only at hstore
    have ht : t.Sound := hw.sound hs
    have hopen : t.OpenByRule :=
      hw.keeps_of_sound hs (fun _ ha hstep ih => hstep.openByRule ha ih)
        (Reachable.openByRule ⟨e, trace, hi, hr⟩)
    rw [hstore]
    refine ⟨hsub.sound ht, hsub.exists_isSettled ht hopen fun questionId => ?_⟩
    exact (hr.recalls hi).of_same hw.sameCatalog (hw.payloadAt?_eq hs (by simp))

/-- A submission leaves the attempt with the answers that were recorded last, graded by rule,
and with their score. Two submissions with equal last answers give equal scores, whatever
else happened in the runs before them. -/
theorem Run.submitted_of_last_answers {ctx : Context} {result : AttemptResult} (hi : e.IsInitial)
    (hr : e.Run trace e') {e'' : Engine}
    (hsubmit : e'.perform ctx (.submit attemptId) = (.ok (.result result), e'')) :
    ∃ attempt quiz score,
      e''.store.IsSettled attemptId (lastRecorded? trace attemptId) attempt quiz score ∧
      ∀ (f f' f'' : Engine) (otherTrace : List Event) (otherCtx : Context) (otherId : Uuid)
        (otherResult : AttemptResult) (other : Attempt),
        f.IsInitial → f.Run otherTrace f' →
        f'.perform otherCtx (.submit otherId) = (.ok (.result otherResult), f'') →
        f''.store.findAttempt otherId = some other →
        f''.store.quizzes = e''.store.quizzes → f''.store.questions = e''.store.questions →
        other.quizId = attempt.quizId →
        (∀ question ∈ e''.store.questions.values, question.quizId = attempt.quizId →
          (lastRecorded? otherTrace otherId question.id).map (Payload.parse question.type) =
            (lastRecorded? trace attemptId question.id).map (Payload.parse question.type)) →
        other.HasScore score := by
  obtain ⟨hs, attempt, quiz, score, hsettled⟩ := hr.exists_isSettled hi hsubmit
  refine ⟨attempt, quiz, score, hsettled, ?_⟩
  intro f f' f'' otherTrace otherCtx otherId otherResult other hfi hfr hfsubmit hother hquizzes
    hquestions hquiz hlast
  obtain ⟨hfs, found, otherQuiz, otherScore, hfsettled⟩ := hfr.exists_isSettled hfi hfsubmit
  obtain rfl := Option.some.inj (hfsettled.found.symm.trans hother)
  have hscore := hsettled.score_eq hfsettled hs hfs hquizzes hquestions hquiz hlast
  exact hscore ▸ hfsettled.hasScore

/-- The choice and the essay of the sample run are submitted as they were recorded. -/
theorem submitted_of_last_answers_sample :
    ∃ trace result, Sample.initial.Run trace Sample.answered ∧
      Sample.answered.perform (Sample.student 4) (.submit (Sample.uuid 1)) =
        (.ok (.result result), Sample.submitted) ∧
      ∃ attempt quiz score, Sample.submitted.store.IsSettled (Sample.uuid 1)
        (lastRecorded? trace (Sample.uuid 1)) attempt quiz score := by
  obtain ⟨trace, hr⟩ := Sample.exists_run_answered
  obtain ⟨result, hsubmit⟩ := Sample.exists_result_submitted
  obtain ⟨attempt, quiz, score, hsettled, -⟩ :=
    hr.submitted_of_last_answers Sample.isInitial_initial hsubmit
  exact ⟨trace, result, hr, hsubmit, attempt, quiz, score, hsettled⟩

end Engine

end QuizEngine
