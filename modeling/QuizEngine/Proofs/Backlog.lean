import QuizEngine.Proofs.Completion
import QuizEngine.Proofs.Timing

/-!
# What is left to grade

Whoever manages a quiz lists the answers to its subjective questions on submitted attempts. The
list holds each of them once (`Store.IsPending`), those without points first, and in each group
the newest first. Where two were given at the same time the sort leaves them as they were found,
by student, attempt and question (`PendingAnswer.Precedes`).

Three facts about stored rows stand behind this. An answer is sorted by the time of its grade and
not by its points, but the two are written together (`Store.GradesStamped`). No two attempts of a
student at a quiz have one number, because a start is refused where its number is taken
(`Store.NumbersApart`). And an attempt is submitted as long as an answer of it waits for a grade,
and no longer, so that none is missed on the attempts that are graded
(`Engine.Reachable.pending_spec`).
-/

namespace QuizEngine

/-! ## Stable sorts -/

/-- Items that a sort may leave in any order keep the order they had. -/
theorem pairwise_mergeSort_of_pairwise {α : Type} {le : α → α → Bool} {r : α → α → Prop} {l : List α}
    (htrans : ∀ a b c, le a b = true → le b c = true → le a c = true)
    (htotal : ∀ a b, (le a b || le b a) = true) (h : l.Pairwise r) :
    (l.mergeSort le).Pairwise fun a b => le a b = true ∧ (le b a = true → r a b) := by
  refine List.pairwise_iff_forall_sublist.2 fun {a b} hab => ?_
  have hle : le a b = true :=
    List.pairwise_iff_forall_sublist.1 (List.pairwise_mergeSort htrans htotal l) hab
  refine ⟨hle, fun hba => ?_⟩
  -- the items that are tied with `a` come out of the sort as they went in
  have hsorted : (l.filter fun x => le a x && le x a).Pairwise fun x y => le x y = true := by
    refine List.pairwise_iff_forall_sublist.2 fun {x y} hxy => ?_
    have hx := (List.mem_filter.1 (hxy.subset (List.mem_cons_self ..))).2
    have hy := (List.mem_filter.1 (hxy.subset (List.mem_cons_of_mem x (List.mem_cons_self ..)))).2
    rw [Bool.and_eq_true] at hx hy
    exact htrans x a y hx.2 hy.1
  have hsub := (List.sublist_mergeSort htrans htotal hsorted List.filter_sublist).filter
    fun x => le a x && le x a
  simp only [List.filter_filter, Bool.and_self] at hsub
  have hsame := hsub.eq_of_length (((List.mergeSort_perm l le).filter _).length_eq.symm)
  have haa : le a a = true := by simpa using htotal a a
  have hpair := hab.filter fun x => le a x && le x a
  rw [List.filter_cons_of_pos (by simp [haa]), List.filter_cons_of_pos (by simp [hle, hba]),
    List.filter_nil, ← hsame] at hpair
  exact List.pairwise_iff_forall_sublist.1 h (hpair.trans List.filter_sublist)

/-! ## Stamps of grades -/

namespace Store

variable {s t : Store} {quizId : Int}

/-- The time of a grade is stored together with its points. -/
def GradesStamped (s : Store) : Prop :=
  ∀ id row, s.findAnswer id = some row → row.gradedAt.isSome = row.pointsEarned.isSome

theorem GradesStamped.putAnswer (h : s.GradesStamped) {row : Answer}
    (hrow : row.gradedAt.isSome = row.pointsEarned.isSome) : (s.putAnswer row).GradesStamped := by
  intro id b hb
  rw [findAnswer_putAnswer] at hb
  split at hb
  · obtain rfl := Option.some.inj hb
    exact hrow
  · exact h id b hb

theorem Writes.gradesStamped {w : Write} (hw : s.Writes w t) (h : s.GradesStamped) : t.GradesStamped := by
  cases hw with
  | start _ _ _ => exact h
  | handIn _ _ =>
    refine h.putAnswer ?_
    unfold upsertedAnswer
    split <;> rfl
  | judge _ _ _ _ _ _ _ => exact h.putAnswer rfl
  | submit _ _ _ _ _ => exact h
  | abandon _ => exact h
  | grade _ _ _ _ => exact h.putAnswer rfl
  | aside => exact h

/-! ## Numbers of attempts -/

/-- No two attempts of a student at a quiz have one number. -/
def NumbersApart (s : Store) : Prop :=
  ∀ a b, s.findAttempt a.id = some a → s.findAttempt b.id = some b → a.quizId = b.quizId →
    a.studentId = b.studentId → a.attemptNumber = b.attemptNumber → a = b

/-- A start that adds an attempt gives it a number that the student has not had at the quiz. -/
theorem Keyed.number_ne_of_startAttempt (h : s.Keyed) {ctx : Context} {client : ClientInfo}
    {begun : Attempt} (hok : s.startAttempt ctx quizId client = (.ok begun, t))
    (hnew : s.findAttempt begun.id = none) (hadded : t.findAttempt begun.id = some begun) :
    ∀ b ∈ s.attemptsOf begun.quizId begun.studentId, b.attemptNumber ≠ begun.attemptNumber := by
  cases hopen : s.openQuiz ctx quizId with
  | error cause =>
    simp only [startAttempt, hopen, bind, Except.bind, Outcome.refused] at hok
    cases hok
  | ok quiz =>
    cases hnext : nextAttempt quiz (s.latestAttempt quizId ctx.caller.userId)
        (s.countAttempts quizId ctx.caller.userId) with
    | error cause =>
      simp only [startAttempt, hopen, bind, Except.bind, hnext, Outcome.refused] at hok
      cases hok
    | ok decision =>
      cases decision with
      | resume current =>
        simp only [startAttempt, hopen, bind, Except.bind, hnext] at hok
        cases hok
        cases hnew.symm.trans hadded
      | create number =>
        rw [startAttempt_of_create hopen hnext] at hok
        simp only [beginAttempt] at hok
        rcases h.insertAttempt_cases (.start ctx.fresh quizId ctx.caller.userId number ctx.now client) with
          ⟨_, hconflict⟩ | ⟨hinserted, hfree⟩
        · rw [hconflict] at hok
          cases hok
        · rw [hinserted] at hok
          cases hok
          exact fun b hb => (hfree b hb).2

end Store

namespace Engine

variable {e e' : Engine} {event : Event}

/-- The number of a new attempt is none of those that the student has had at the quiz. -/
theorem Step.number_ne_of_new (h : e.Step event e') (hs : e.store.Sound) {a b : Attempt}
    (hnone : e.store.findAttempt a.id = none) (ha : e'.store.findAttempt a.id = some a)
    (hb : e.store.findAttempt b.id = some b) (hquiz : a.quizId = b.quizId)
    (hstudent : a.studentId = b.studentId) : a.attemptNumber ≠ b.attemptNumber := by
  intro heq
  obtain ⟨ctx, quizId, client, quiz, number, rfl, -, -, -⟩ := h.start_of_new hs hnone ha
  have hperform := h.perform_eq
  simp only [perform, ofOutcome] at hperform
  cases hstart : e.store.startAttempt ctx quizId client with
  | mk outcome t =>
    rw [hstart] at hperform
    obtain ⟨houtcome, rfl⟩ := Prod.mk.inj hperform
    cases outcome with
    | error cause => cases houtcome
    | ok begun =>
      obtain rfl := Reply.attempt.inj (Except.ok.inj houtcome)
      exact hs.number_ne_of_startAttempt hstart hnone ha b
        ((hs.mem_attemptsOf b).2 ⟨hb, hquiz.symm, hstudent.symm⟩) heq.symm

/-- An event keeps the numbers of attempts apart. -/
theorem Step.numbersApart (h : e.Step event e') (hr : e.Reachable) (hn : e.store.NumbersApart) :
    e'.store.NumbersApart := by
  have hs := hr.sound
  intro a b ha hb hquiz hstudent hnumber
  cases ha₀ : e.store.findAttempt a.id with
  | none =>
    cases hb₀ : e.store.findAttempt b.id with
    | none =>
      -- an event starts one attempt
      obtain ⟨ctx, _, _, _, _, hevent, -, hid, -⟩ := h.start_of_new hs ha₀ ha
      obtain ⟨ctx', _, _, _, _, hevent', -, hid', -⟩ := h.start_of_new hs hb₀ hb
      obtain ⟨rfl, -, -⟩ := Event.call.inj (hevent.symm.trans hevent')
      rw [← hid, hid'] at ha
      exact Option.some.inj (ha.symm.trans hb)
    | some b₀ =>
      obtain ⟨b₁, hb₁, hprecedes⟩ := h.precedes hr hb₀
      obtain rfl := Option.some.inj (hb₁.symm.trans hb)
      have hid := hs.id_of_findAttempt hb₀
      exact absurd (hnumber.trans hprecedes.attemptNumber) (h.number_ne_of_new hs ha₀ ha (hid.symm ▸ hb₀)
        (hquiz.trans hprecedes.quizId) (hstudent.trans hprecedes.studentId))
  | some a₀ =>
    obtain ⟨a₁, ha₁, hfirst⟩ := h.precedes hr ha₀
    obtain rfl := Option.some.inj (ha₁.symm.trans ha)
    have haid := hs.id_of_findAttempt ha₀
    cases hb₀ : e.store.findAttempt b.id with
    | none =>
      exact absurd (hnumber.symm.trans hfirst.attemptNumber) (h.number_ne_of_new hs hb₀ hb (haid.symm ▸ ha₀)
        (hquiz.symm.trans hfirst.quizId) (hstudent.symm.trans hfirst.studentId))
    | some b₀ =>
      obtain ⟨b₁, hb₁, hsecond⟩ := h.precedes hr hb₀
      obtain rfl := Option.some.inj (hb₁.symm.trans hb)
      have hbid := hs.id_of_findAttempt hb₀
      have heq : a₀ = b₀ := hn a₀ b₀ (haid.symm ▸ ha₀) (hbid.symm ▸ hb₀)
        (hfirst.quizId.symm.trans (hquiz.trans hsecond.quizId))
        (hfirst.studentId.symm.trans (hstudent.trans hsecond.studentId))
        (hfirst.attemptNumber.symm.trans (hnumber.trans hsecond.attemptNumber))
      rw [← haid, heq, hbid] at ha
      exact Option.some.inj (ha.symm.trans hb)

theorem Reachable.numbersApart (h : e.Reachable) : e.store.NumbersApart := by
  obtain ⟨e₀, trace, hi, hr⟩ := h
  induction hr with
  | nil =>
    intro a b ha
    rw [Store.Authored.findAttempt_eq hi] at ha
    cases ha
  | snoc before step ih => exact step.numbersApart (hi.reachable.run before) ih

theorem Reachable.gradesStamped (h : e.Reachable) : e.store.GradesStamped :=
  h.keeps (fun _ hs id row hrow => by simp [hs.findAnswer_eq] at hrow)
    (fun _ hw ih => hw.gradesStamped ih)

end Engine

/-! ## Entries -/

/-- The entry of an answer among those that are left to grade. -/
def PendingAnswer.of (attempt : Attempt) (question : Question) (answer : Answer) : PendingAnswer where
  answer := answer
  studentId := attempt.studentId
  attemptNumber := attempt.attemptNumber
  submittedAt := attempt.submittedAt
  type := question.type
  questionText := question.text
  maxPoints := question.points

/-- The place of one entry is before that of the other, by student, attempt and question. -/
def PendingAnswer.PlacedBefore (a b : PendingAnswer) : Prop :=
  a.studentId < b.studentId ∨ a.studentId = b.studentId ∧
    (a.attemptNumber < b.attemptNumber ∨ a.attemptNumber = b.attemptNumber ∧
      a.answer.questionId < b.answer.questionId)

/-- One entry is to be graded before the other. -/
inductive PendingAnswer.Precedes (a b : PendingAnswer) : Prop where
  /-- Only the other has points. -/
  | ungraded (isUngraded : a.answer.pointsEarned = none) (isGraded : b.answer.pointsEarned ≠ none)
  /-- It was given later. -/
  | newer (sameGroup : a.answer.pointsEarned = none ↔ b.answer.pointsEarned = none)
      (isNewer : b.answer.answeredAt < a.answer.answeredAt)
  /-- Both were given at one time, and it has the place before the other. -/
  | tied (sameGroup : a.answer.pointsEarned = none ↔ b.answer.pointsEarned = none)
      (isTied : a.answer.answeredAt = b.answer.answeredAt) (isPlaced : a.PlacedBefore b)

theorem PendingAnswer.not_placedBefore_self (a : PendingAnswer) : ¬a.PlacedBefore a := by
  unfold PlacedBefore
  omega

/-- The order by which the list is sorted. -/
theorem PendingAnswer.before_eq_true_iff {a b : PendingAnswer} : a.before b = true ↔
    (a.answer.gradedAt.isSome = false ∧ b.answer.gradedAt.isSome = true) ∨
    (a.answer.gradedAt.isSome = b.answer.gradedAt.isSome ∧
      b.answer.answeredAt ≤ a.answer.answeredAt) := by
  unfold before
  cases a.answer.gradedAt.isSome <;> cases b.answer.gradedAt.isSome <;> simp

theorem PendingAnswer.before_trans (a b c : PendingAnswer) (hab : a.before b = true)
    (hbc : b.before c = true) : a.before c = true := by
  rw [before_eq_true_iff] at *
  rcases hab with ⟨hab, hab'⟩ | ⟨hab, hle⟩ <;> rcases hbc with ⟨hbc, hbc'⟩ | ⟨hbc, hle'⟩
  · exact Or.inl ⟨hab, hbc'⟩
  · exact Or.inl ⟨hab, hbc ▸ hab'⟩
  · exact Or.inl ⟨hab ▸ hbc, hbc'⟩
  · exact Or.inr ⟨hab.trans hbc, Instant.le_trans hle' hle⟩

theorem PendingAnswer.before_total (a b : PendingAnswer) : (a.before b || b.before a) = true := by
  rw [Bool.or_eq_true, before_eq_true_iff, before_eq_true_iff]
  have htime := Instant.le_total a.answer.answeredAt b.answer.answeredAt
  cases a.answer.gradedAt.isSome <;> cases b.answer.gradedAt.isSome <;> simp [htime.symm]

/-- The sort puts an entry before another where it precedes it, when the time of a grade tells
whether there are points. -/
theorem PendingAnswer.precedes_of_before {a b : PendingAnswer}
    (ha : a.answer.gradedAt.isSome = a.answer.pointsEarned.isSome)
    (hb : b.answer.gradedAt.isSome = b.answer.pointsEarned.isSome) (hab : a.before b = true)
    (htied : b.before a = true → a.PlacedBefore b) : a.Precedes b := by
  rw [before_eq_true_iff, ha, hb] at hab
  rcases hab with ⟨hnone, hsome⟩ | ⟨hgroup, hle⟩
  · exact .ungraded (by simpa using hnone) (Option.isSome_iff_ne_none.1 hsome)
  · have hsame : a.answer.pointsEarned = none ↔ b.answer.pointsEarned = none := by
      rw [← Option.not_isSome_iff_eq_none, ← Option.not_isSome_iff_eq_none, hgroup]
    rcases Instant.lt_or_eq_of_le hle with hlt | heq
    · exact .newer hsame hlt
    · refine .tied hsame heq.symm (htied (before_eq_true_iff.2 (Or.inr ⟨?_, ?_⟩)))
      · rw [ha, hb, hgroup]
      · rw [heq]
        exact (Instant.le_total _ _).elim id id

/-! ## The list -/

namespace Store

variable {s : Store} {quizId : Int}

/-- The entry is that of a stored answer to a subjective question of the quiz, on a submitted
attempt. -/
def IsPending (s : Store) (quizId : Int) (item : PendingAnswer) : Prop :=
  ∃ answer ∈ s.answers.values, ∃ question ∈ s.questions.values, ∃ attempt ∈ s.attempts.values,
    question.id = answer.questionId ∧ question.quizId = quizId ∧ question.type.isSubjective = true ∧
    attempt.id = answer.attemptId ∧ attempt.status = .submitted ∧
    item = .of attempt question answer

/-- The entries in the order in which they are found. -/
def backlog (s : Store) (quizId : Int) : List PendingAnswer :=
  (s.listQuizAttempts quizId (some .submitted)).flatMap
    (s.pendingOf ((s.listQuestions quizId).filter (·.type.isSubjective)))

/-- The list is what was found, sorted. -/
theorem pending_eq {caller : Caller} (howns : s.ownsQuiz quizId caller = true) :
    s.pending caller quizId = .ok ((s.backlog quizId).mergeSort PendingAnswer.before) := by
  simp only [pending, (s.ensureOwner_eq_ok_iff quizId caller).2 howns]
  rfl

theorem Keyed.mem_listQuizAttempts (h : s.Keyed) (status : AttemptStatus) (a : Attempt) :
    a ∈ s.listQuizAttempts quizId (some status) ↔
      s.findAttempt a.id = some a ∧ a.quizId = quizId ∧ a.status = status := by
  rw [listQuizAttempts, List.mem_mergeSort, List.mem_filter, h.mem_attempts_iff]
  simp

/-- The subjective question of an identifier among those of a quiz. -/
theorem Keyed.questionOf?_subjective (h : s.Keyed) (id : Int) (q : Question) :
    questionOf? ((s.listQuestions quizId).filter (·.type.isSubjective)) id = some q ↔
      s.findQuestion id = some q ∧ q.quizId = quizId ∧ q.type.isSubjective = true := by
  have hids : (((s.listQuestions quizId).filter (·.type.isSubjective)).map (·.id)).Nodup :=
    (h.nodup_listQuestions quizId).sublist (List.filter_sublist.map _)
  rw [Score.questionOf?_eq_some_iff hids, List.mem_filter, h.mem_listQuestions]
  constructor
  · rintro ⟨⟨⟨hq, hquiz⟩, hsub⟩, rfl⟩
    exact ⟨hq, hquiz, hsub⟩
  · rintro ⟨hq, hquiz, hsub⟩
    have hid := h.id_of_findQuestion hq
    exact ⟨⟨⟨hid.symm ▸ hq, hquiz⟩, hsub⟩, hid⟩

theorem Keyed.mem_pendingOf (h : s.Keyed) {attempt : Attempt} (item : PendingAnswer) :
    item ∈ s.pendingOf ((s.listQuestions quizId).filter (·.type.isSubjective)) attempt ↔
      ∃ answer question, s.findAnswer answer.id = some answer ∧ answer.attemptId = attempt.id ∧
        s.findQuestion answer.questionId = some question ∧ question.quizId = quizId ∧
        question.type.isSubjective = true ∧ item = .of attempt question answer := by
  simp only [pendingOf, List.mem_filterMap, h.mem_listAnswers, Option.map_eq_some_iff,
    h.questionOf?_subjective]
  constructor
  · rintro ⟨answer, ⟨ha, hatt⟩, question, ⟨hq, hquiz, hsub⟩, rfl⟩
    exact ⟨answer, question, ha, hatt, hq, hquiz, hsub, rfl⟩
  · rintro ⟨answer, question, ha, hatt, hq, hquiz, hsub, rfl⟩
    exact ⟨answer, ⟨ha, hatt⟩, question, ⟨hq, hquiz, hsub⟩, rfl⟩

/-- The answers to grade are found, and no others. -/
theorem Sound.mem_backlog (h : s.Sound) (item : PendingAnswer) :
    item ∈ s.backlog quizId ↔ s.IsPending quizId item := by
  simp only [backlog, List.mem_flatMap, h.mem_listQuizAttempts, h.mem_pendingOf]
  constructor
  · rintro ⟨attempt, ⟨hattempt, -, hstatus⟩, answer, question, ha, hatt, hq, hquiz, hsub, rfl⟩
    have hid := h.id_of_findQuestion hq
    exact ⟨answer, (h.mem_answers_iff answer).2 ha, question,
      (h.mem_questions_iff question).2 (hid.symm ▸ hq), attempt, (h.mem_attempts_iff attempt).2 hattempt,
      hid, hquiz, hsub, hatt.symm, hstatus, rfl⟩
  · rintro ⟨answer, ha, question, hq, attempt, hattempt, hid, hquiz, hsub, hatt, hstatus, rfl⟩
    rw [h.mem_answers_iff] at ha
    rw [h.mem_questions_iff, hid] at hq
    rw [h.mem_attempts_iff] at hattempt
    -- the attempt is at the quiz that the question belongs to
    obtain ⟨question', hq', hqq, -⟩ := h.exists_question hattempt ha hatt.symm
    obtain rfl := Option.some.inj (hq.symm.trans hq')
    exact ⟨attempt, ⟨hattempt, hqq.symm.trans hquiz, hstatus⟩, answer, question, ha, hatt.symm, hq, hquiz,
      hsub, rfl⟩

/-- The attempts of one status come by student and number. -/
theorem NumbersApart.pairwise_listQuizAttempts (hn : s.NumbersApart) (h : s.Keyed)
    (status : AttemptStatus) :
    (s.listQuizAttempts quizId (some status)).Pairwise fun a b =>
      a.studentId < b.studentId ∨ a.studentId = b.studentId ∧ a.attemptNumber < b.attemptNumber := by
  have hsorted : (s.listQuizAttempts quizId (some status)).Pairwise fun a b =>
      a.studentId < b.studentId ∨ a.studentId = b.studentId ∧ a.attemptNumber ≤ b.attemptNumber := by
    refine List.Pairwise.imp (fun {a b} hab => of_decide_eq_true hab) (List.pairwise_mergeSort ?_ ?_ _)
    · intro a b c hab hbc
      simp only [decide_eq_true_eq] at *
      omega
    · intro a b
      simp only [Bool.or_eq_true, decide_eq_true_eq]
      omega
  -- two attempts of a student that have one number would be one, which the list has once
  have hids : ((s.listQuizAttempts quizId (some status)).map (·.id)).Nodup :=
    ((List.mergeSort_perm _ _).map _).nodup_iff.2
      (h.attempts.nodup_map_key.sublist (List.filter_sublist.map _))
  rw [List.Nodup, List.pairwise_map] at hids
  refine (hsorted.and hids).imp_of_mem fun {a b} ha hb hab => ?_
  obtain ⟨ha, haq, -⟩ := (h.mem_listQuizAttempts status a).1 ha
  obtain ⟨hb, hbq, -⟩ := (h.mem_listQuizAttempts status b).1 hb
  refine hab.1.imp_right fun ⟨hstudent, hle⟩ => ⟨hstudent, Int.lt_iff_le_and_ne.2 ⟨hle, fun heq => hab.2 ?_⟩⟩
  rw [hn a b ha hb (haq.trans hbq.symm) hstudent heq]

/-- The answers to grade are found by student, attempt and question. -/
theorem Sound.pairwise_backlog (h : s.Sound) (hn : s.NumbersApart) :
    (s.backlog quizId).Pairwise PendingAnswer.PlacedBefore := by
  rw [backlog, List.pairwise_flatMap]
  constructor
  · intro attempt _
    refine (h.pairwise_listAnswers attempt.id).filterMap _ fun a b hab x hx y hy => ?_
    obtain ⟨_, -, rfl⟩ := Option.map_eq_some_iff.1 hx
    obtain ⟨_, -, rfl⟩ := Option.map_eq_some_iff.1 hy
    exact Or.inr ⟨rfl, Or.inr ⟨rfl, hab⟩⟩
  · refine (hn.pairwise_listQuizAttempts h.toKeyed _).imp fun {a b} hab x hx y hy => ?_
    obtain ⟨_, _, -, -, -, -, -, rfl⟩ := (h.mem_pendingOf x).1 hx
    obtain ⟨_, _, -, -, -, -, -, rfl⟩ := (h.mem_pendingOf y).1 hy
    exact hab.imp_right fun hab => ⟨hab.1, Or.inl hab.2⟩

/-- The list of a quiz holds its answers to grade once each, in the order in which they are to be
graded, and none that waits for a grade is missing. -/
structure IsPendingList (s : Store) (quizId : Int) (items : List PendingAnswer) : Prop where
  mem_iff : ∀ item, item ∈ items ↔ s.IsPending quizId item
  nodup : (items.map (·.answer.id)).Nodup
  sorted : items.Pairwise PendingAnswer.Precedes
  /-- Every subjective answer without points on a submitted or graded attempt is there. -/
  hasUngraded : ∀ answer ∈ s.answers.values, answer.pointsEarned = none →
    ∀ question ∈ s.questions.values, question.id = answer.questionId → question.quizId = quizId →
    question.type.isSubjective = true → ∀ attempt ∈ s.attempts.values, attempt.id = answer.attemptId →
    attempt.status = .submitted ∨ attempt.status = .graded → .of attempt question answer ∈ items
  /-- Every submitted attempt has an answer without points there. -/
  hasSubmitted : ∀ attempt ∈ s.attempts.values, attempt.quizId = quizId → attempt.status = .submitted →
    ∃ item ∈ items, item.answer.attemptId = attempt.id ∧ item.answer.pointsEarned = none

/-- An answer is found once. -/
theorem Sound.nodup_backlog (h : s.Sound) (hn : s.NumbersApart) :
    ((s.backlog quizId).map (·.answer.id)).Nodup := by
  rw [List.Nodup, List.pairwise_map]
  refine (h.pairwise_backlog hn).imp_of_mem fun {x y} hx hy hxy hid => ?_
  obtain ⟨a, ha, q, hq, attempt, hattempt, -, -, -, hatt, -, rfl⟩ := (h.mem_backlog x).1 hx
  obtain ⟨b, hb, r, hr, other, hother, -, -, -, hott, -, rfl⟩ := (h.mem_backlog y).1 hy
  rw [h.mem_answers_iff] at ha hb
  rw [h.mem_attempts_iff] at hattempt hother
  obtain rfl : a = b := Option.some.inj (ha.symm.trans (hid ▸ hb))
  rw [hatt] at hattempt
  rw [hott] at hother
  obtain rfl := Option.some.inj (hattempt.symm.trans hother)
  exact PendingAnswer.not_placedBefore_self (.of attempt q a) hxy

/-- What waits for a grade on an attempt. -/
theorem Sound.mem_waiting (h : s.Sound) {id : Uuid} {answer : Answer} :
    answer ∈ s.waiting id ↔ s.findAnswer answer.id = some answer ∧ answer.attemptId = id ∧
      answer.pointsEarned = none ∧ ∃ question, s.findQuestion answer.questionId = some question ∧
        question.type.isSubjective = true := by
  rw [waiting, List.mem_filter, h.mem_listAnswers, Option.any_eq_true]
  simp only [Score.isPending, Bool.and_eq_true, Bool.not_eq_true', Answer.isGraded]
  constructor
  · rintro ⟨⟨ha, hatt⟩, question, hq, hsub, hnone⟩
    exact ⟨ha, hatt, by simpa using hnone, question, hq, hsub⟩
  · rintro ⟨ha, hatt, hnone, question, hq, hsub⟩
    exact ⟨⟨ha, hatt⟩, question, hq, hsub, by simp [hnone]⟩

theorem Sound.isPendingList (h : s.Sound) (hn : s.NumbersApart) (hg : s.GradesStamped)
    (hall : s.AllScored) (quizId : Int) :
    s.IsPendingList quizId ((s.backlog quizId).mergeSort PendingAnswer.before) where
  mem_iff item := by rw [List.mem_mergeSort, h.mem_backlog]
  nodup := ((List.mergeSort_perm _ _).map _).nodup_iff.2 (h.nodup_backlog hn)
  sorted := by
    refine (pairwise_mergeSort_of_pairwise PendingAnswer.before_trans PendingAnswer.before_total
      (h.pairwise_backlog hn)).imp_of_mem fun {x y} hx hy hxy => ?_
    have hstamped : ∀ {z : PendingAnswer}, z ∈ (s.backlog quizId).mergeSort PendingAnswer.before →
        z.answer.gradedAt.isSome = z.answer.pointsEarned.isSome := by
      intro z hz
      obtain ⟨a, ha, _, _, _, _, -, -, -, -, -, rfl⟩ := (h.mem_backlog z).1 (List.mem_mergeSort.1 hz)
      exact hg a.id a ((h.mem_answers_iff a).1 ha)
    exact PendingAnswer.precedes_of_before (hstamped hx) (hstamped hy) hxy.1 hxy.2
  hasUngraded := by
    intro answer ha hnone question hq hid hquiz hsub attempt hattempt hatt hstatus
    have hfound := (h.mem_attempts_iff attempt).1 hattempt
    -- the attempt is not graded, for the answer waits
    have hwaits : answer ∈ s.waiting attempt.id := h.mem_waiting.2 ⟨(h.mem_answers_iff answer).1 ha,
      hatt.symm, hnone, question, hid ▸ (h.mem_questions_iff question).1 hq, hsub⟩
    have hsubmitted := hall.status_eq h hfound (AttemptStatus.isGradeable_iff.2 hstatus)
    rw [if_neg fun hlen => List.ne_nil_of_mem hwaits (List.length_eq_zero_iff.1 hlen)] at hsubmitted
    rw [List.mem_mergeSort, h.mem_backlog]
    exact ⟨answer, ha, question, hq, attempt, hattempt, hid, hquiz, hsub, hatt, hsubmitted, rfl⟩
  hasSubmitted := by
    intro attempt hattempt hquiz hstatus
    have hfound := (h.mem_attempts_iff attempt).1 hattempt
    have hsome : s.waiting attempt.id ≠ [] := by
      intro hnil
      have hgraded := hall.status_eq h hfound (AttemptStatus.isGradeable_iff.2 (Or.inl hstatus))
      rw [hnil, hstatus] at hgraded
      cases hgraded
    obtain ⟨answer, hwaits⟩ := List.exists_mem_of_ne_nil _ hsome
    obtain ⟨ha, hatt, hnone, question, hq, hsub⟩ := h.mem_waiting.1 hwaits
    obtain ⟨question', hq', hqq, -⟩ := h.exists_question hfound ha hatt
    obtain rfl := Option.some.inj (hq.symm.trans hq')
    have hid := h.id_of_findQuestion hq
    refine ⟨.of attempt question answer, ?_, hatt, hnone⟩
    rw [List.mem_mergeSort, h.mem_backlog]
    exact ⟨answer, (h.mem_answers_iff answer).2 ha, question,
      (h.mem_questions_iff question).2 (hid.symm ▸ hq), attempt, hattempt, hid, hqq.trans hquiz, hsub,
      hatt.symm, hstatus, rfl⟩

end Store

/-- Whoever manages a quiz lists its answers to grade: each subjective answer on a submitted attempt
once, those without points first, and in each group the newest first, and by student, attempt and
question where two were given at the same time. Every subjective answer without points on a submitted
or graded attempt is in the list, and every submitted attempt has such an answer. -/
theorem Engine.Reachable.pending_spec {e : Engine} (h : e.Reachable) (ctx : Context) {quizId : Int}
    (howns : e.store.ownsQuiz quizId ctx.caller = true) :
    ∃ items, e.perform ctx (.pending quizId) = (.ok (.pending items), e) ∧
      e.store.IsPendingList quizId items := by
  refine ⟨_, ?_, h.sound.isPendingList h.numbersApart h.gradesStamped h.allScored quizId⟩
  simp only [perform, ofRead, Store.pending_eq howns]
  rfl

/-- The owner of the quiz of the sample run finds an answer without points on the attempt. -/
theorem Engine.pending_spec_submitted :
    Sample.submitted.store.ownsQuiz 1 (Sample.teacher 5).caller = true ∧
    ∃ items, Sample.submitted.perform (Sample.teacher 5) (.pending 1) =
        (.ok (.pending items), Sample.submitted) ∧
      ∃ item ∈ items, item.answer.attemptId = Sample.uuid 1 ∧ item.answer.pointsEarned = none := by
  have howns : Sample.submitted.store.ownsQuiz 1 (Sample.teacher 5).caller = true := by
    rw [Sample.store_submitted]
    decide +kernel
  obtain ⟨items, hitems, hlist⟩ := Sample.reachable_submitted.pending_spec (Sample.teacher 5) howns
  have hclosed : Sample.closed ∈ Sample.submitted.store.attempts.values :=
    (Sample.reachable_submitted.sound.mem_attempts_iff _).2 Sample.findAttempt_submitted
  exact ⟨howns, items, hitems, hlist.hasSubmitted Sample.closed hclosed rfl rfl⟩

end QuizEngine
