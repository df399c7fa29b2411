import QuizEngine.Proofs.Contents
import QuizEngine.Proofs.Interleaving

/-!
# Outsiders

An attempt is the business of its student, of the owner of its quiz, and of administrators.
Whoever else makes a call that has to do with it (`Store.Concerns`) is refused before anything
is looked at that the attempt is about: the refusal depends on the call, the caller and the quiz
(`Call.refusal`), and nothing is written (`Concerns.perform_eq`). A batch of grades with one
grade for such an attempt is refused as a whole (`IsOutsider.checkBatch_eq_error`).

Neither refusal tells how the attempt is going: in two stores that have the same outline of it
(`Store.AlikeBut`) they are the same.

A call to abandon an attempt first reads its quiz, so it matters that every attempt is at a quiz
that there is (`Store.AtQuizzes`), also when authors edit the catalog.
-/

namespace QuizEngine

namespace Store

variable {s t : Store} {ctx : Context}

/-! ## Attempts and their quizzes -/

/-- Every attempt is at a quiz that there is. -/
def AtQuizzes (s : Store) : Prop :=
  ∀ id attempt, s.findAttempt id = some attempt → ∃ quiz, s.findQuiz attempt.quizId = some quiz

namespace AtQuizzes

theorem of_eq (h : s.AtQuizzes) (hquizzes : t.quizzes = s.quizzes)
    (hattempts : t.attempts = s.attempts) : t.AtQuizzes := by
  intro id attempt ha
  rw [findQuiz, hquizzes]
  exact h id attempt (by rwa [findAttempt, hattempts] at ha)

theorem of_aside (h : s.AtQuizzes) (hw : WritesOnly (· = .aside) s t) : t.AtQuizzes :=
  h.of_eq hw.sameRows.quizzes hw.sameRows.attempts

theorem putAnswer (h : s.AtQuizzes) (row : Answer) : (s.putAnswer row).AtQuizzes := h.of_eq rfl rfl

theorem putAttempt (h : s.AtQuizzes) {attempt : Attempt} {quiz : Quiz}
    (hquiz : s.findQuiz attempt.quizId = some quiz) : (s.putAttempt attempt).AtQuizzes := by
  intro id found hfound
  rw [findAttempt_putAttempt] at hfound
  split at hfound
  · obtain rfl := Option.some.inj hfound
    exact ⟨quiz, hquiz⟩
  · exact h id found hfound

/-- No write puts an attempt where there is no quiz. -/
theorem writes (h : s.AtQuizzes) {w : Write} (hw : s.Writes w t) : t.AtQuizzes := by
  cases hw with
  | start isOpen => exact h.putAttempt (openQuiz_eq_ok_iff.1 isOpen).1
  | handIn => exact h.putAnswer _
  | judge => exact h.putAnswer _
  | submit _ ofQuiz _ _ isNext =>
    obtain ⟨-, rfl⟩ := Attempt.submitted_eq_ok_iff.1 isNext
    exact h.putAttempt ofQuiz
  | abandon isAbandonable =>
    obtain ⟨attempt, quiz, -, hquiz, -, -, rfl⟩ := abandonable_eq_ok_iff.1 isAbandonable
    exact h.putAttempt hquiz
  | grade _ _ isSnapshot isNext =>
    obtain ⟨quiz, hquiz, -⟩ := Snapshot.load_eq_ok_iff.1 isSnapshot
    obtain ⟨score, -, -, rfl⟩ := Attempt.regraded_eq_ok_iff.1 isNext
    exact (h.putAnswer _).putAttempt hquiz
  | aside => exact h.of_eq rfl rfl

theorem writesOnly {p : Write → Prop} (h : s.AtQuizzes) (hw : WritesOnly p s t) : t.AtQuizzes :=
  hw.keeps (fun _ hstep ih => ih.writes hstep) h

theorem regrade (h : s.AtQuizzes) (questions : List Question) (now : Instant) (rows : List Answer) :
    (regrade questions now s rows).2.AtQuizzes ∧
      (Store.regrade questions now s rows).2.quizzes = s.quizzes := by
  induction rows generalizing s with
  | nil => exact ⟨h, rfl⟩
  | cons a rest ih =>
    rcases regrade_cons_cases questions now s a rest with ⟨cause, he⟩ | ⟨b, u, hj, hrest⟩
    · rw [he]
      exact ⟨h, rfl⟩
    · have hfirst : u.AtQuizzes ∧ u.quizzes = s.quizzes := by
        cases hj with
        | keep _ => exact ⟨h, rfl⟩
        | write _ _ _ => exact ⟨h.putAnswer _, rfl⟩
      obtain ⟨hlast, hsame⟩ := ih hfirst.1
      rcases hrest with ⟨cause, v, hr, heq⟩ | ⟨judged, v, hr, heq⟩
      · rw [hr] at hlast hsame
        rw [heq]
        exact ⟨hlast, hsame.trans hfirst.2⟩
      · rw [hr] at hlast hsame
        rw [heq]
        exact ⟨hlast, hsame.trans hfirst.2⟩

theorem closeAttempt (h : s.AtQuizzes) {attempt : Attempt} {quiz : Quiz}
    (hquiz : s.findQuiz attempt.quizId = some quiz) (now : Instant) (snapshot : Snapshot) :
    (s.closeAttempt now attempt snapshot).2.AtQuizzes := by
  rcases s.closeAttempt_cases now attempt snapshot with ⟨_, u, he, hw⟩ | ⟨_, _, -, -, hok⟩
  · rw [he]
    exact h.of_aside hw
  · rw [hok]
    exact h.putAttempt hquiz

theorem submitAttempt (h : s.AtQuizzes) (ctx : Context) (attemptId : Uuid) :
    (s.submitAttempt ctx attemptId).2.AtQuizzes := by
  cases hopen : s.openAttempt ctx.caller attemptId with
  | error cause =>
    simp only [Store.submitAttempt, hopen, bind, Except.bind]
    exact h
  | ok attempt =>
    cases hload : Snapshot.load s attempt with
    | error cause =>
      simp only [Store.submitAttempt, hopen, hload, bind, Except.bind]
      exact h
    | ok snapshot =>
      obtain ⟨quiz, hquiz, -⟩ := Snapshot.load_eq_ok_iff.1 hload
      obtain ⟨hjudged, hsame⟩ := h.regrade snapshot.questions ctx.now snapshot.answers
      rw [submitAttempt_of_load hopen hload, submitLoaded]
      split
      · split
        · rename_i hr
          rw [hr] at hjudged
          exact hjudged
        · rename_i hr
          rw [hr] at hjudged hsame
          refine hjudged.closeAttempt (?_ : _ = some quiz) _ _
          rw [findQuiz, hsame]
          exact hquiz
      · exact h.closeAttempt hquiz _ _

theorem commitGrade (h : s.AtQuizzes) (ctx : Context) (answer : Answer) :
    (s.commitGrade ctx answer).2.AtQuizzes := by
  rcases s.commitGrade_cases ctx answer with
    ⟨_, _, he, hw⟩ | ⟨attempt, _, score, stored, -, hload, -, -, hok⟩
  · rw [he]
    exact h.of_aside hw
  · obtain ⟨quiz, hquiz, -⟩ := Snapshot.load_eq_ok_iff.1 hload
    rw [hok]
    exact (h.putAnswer _).putAttempt hquiz

theorem commitRetrying (ctx : Context) (answer : Answer) (retries : Nat) (h : s.AtQuizzes) :
    (commitRetrying ctx answer retries s).2.AtQuizzes := by
  induction retries generalizing s with
  | zero => exact h.commitGrade ctx answer
  | succ retries ih =>
    have hfirst := h.commitGrade ctx answer
    unfold Store.commitRetrying
    split
    · rename_i hconflict
      rw [hconflict] at hfirst
      exact ih hfirst
    · exact hfirst

theorem applyBatch (ctx : Context) (grades : List CheckedGrade) (applied : List Answer)
    (h : s.AtQuizzes) : (applyBatch ctx applied grades s).2.AtQuizzes := by
  induction grades generalizing s applied with
  | nil => exact h
  | cons checked rest ih =>
    have hfirst : (s.applyGrade ctx checked).2.AtQuizzes := h.commitRetrying ctx _ _
    unfold Store.applyBatch
    split
    · rename_i hok
      rw [hok] at hfirst
      exact ih _ hfirst
    · rename_i herr
      rw [herr] at hfirst
      exact hfirst
    · rename_i herr
      rw [herr] at hfirst
      exact hfirst

/-- No call puts an attempt where there is no quiz. -/
theorem perform {e : Engine} (h : e.store.AtQuizzes) (ctx : Context)
    (hf : e.store.IsFresh ctx.fresh) (call : Call) : (e.perform ctx call).2.store.AtQuizzes := by
  cases call with
  | start quizId client => exact h.writesOnly (writes_startAttempt hf quizId client)
  | record attemptId questionId raw seconds =>
    rcases recordAnswer_cases hf attemptId questionId raw seconds with
      ⟨_, he⟩ | ⟨_, _, _, _, _, _, -, -, hin, hjudged, hok⟩
    · simp only [Engine.perform, Engine.ofOutcome, Engine.withStore, he]
      exact h
    · simp only [Engine.perform, Engine.ofOutcome, Engine.withStore, hok]
      exact (h.writes hin).writesOnly hjudged
  | submit attemptId =>
    have hsubmit := h.submitAttempt ctx attemptId
    simp only [Engine.perform, Engine.submit]
    split
    · rename_i heq
      rw [heq] at hsubmit
      exact hsubmit
    · rename_i heq
      rw [heq] at hsubmit
      exact hsubmit
  | abandon attemptId =>
    rcases e.store.abandonAttempt_cases ctx attemptId with ⟨_, _, he, hw⟩ | ⟨_, _, hok, hw⟩
    · simp only [Engine.perform, Engine.ofOutcome, Engine.withStore, he]
      exact h.of_aside hw
    · simp only [Engine.perform, Engine.ofOutcome, Engine.withStore, hok]
      exact h.writes hw
  | grade answerId grade =>
    simp only [Engine.perform, Engine.ofOutcome, Engine.withStore, gradeAnswer]
    split
    · exact h
    · exact h.commitRetrying ctx _ _
  | bulkGrade entries =>
    simp only [Engine.perform, Engine.ofOutcome, Engine.withStore, bulkGrade]
    split
    · exact h
    · exact h.applyBatch ctx _ _
  | result attemptId => exact h
  | review attemptId => exact h
  | summary attemptId => exact h
  | history quizId studentId => exact h
  | pending quizId => exact h
  | statistics quizId => exact h

theorem edits (h : s.AtQuizzes) (he : s.Edits t) : t.AtQuizzes := by
  cases he with
  | insertQuiz quiz =>
    intro id attempt ha
    have hfind : (s.insertQuiz quiz).findQuiz attempt.quizId =
        if attempt.quizId = quiz.id then some quiz else s.findQuiz attempt.quizId :=
      Table.find?_insert _ _ _ _
    rw [hfind]
    split
    · exact ⟨quiz, rfl⟩
    · exact h id attempt ha
  | insertQuestion question => exact h.of_eq rfl rfl
  | setOwner quizId ownerId => exact h.of_eq rfl rfl

end AtQuizzes

end Store

/-- Also in a run in which authors edit the catalog every attempt stays at a quiz that there
is. -/
theorem Engine.LeadsToEdited.atQuizzes {e₀ e : Engine} (hi : e₀.IsInitial)
    (hr : e₀.LeadsToEdited e) : e.store.AtQuizzes := by
  induction hr with
  | refl =>
    intro id attempt ha
    simp [Store.Authored.findAttempt_eq hi] at ha
  | tail _ hmove ih =>
    cases hmove with
    | event step =>
      cases step with
      | call ctx call isFresh => exact ih.perform ctx isFresh call
      | refresh _ isRefreshed => exact ih.writes (writes_refresh isRefreshed)
      | overflow _ _ => exact ih
      | dropWorker => exact ih
      | failGradeWrites answerId => exact ih.of_eq rfl rfl
      | forceConflicts attemptId times => exact ih.of_eq rfl rfl
    | edit he => exact ih.edits he

/-! ## What an outsider is told -/

/-- Why an outsider to an attempt at the quiz is refused. -/
def Call.refusal (quizId : Int) (caller : Caller) : Call → Error
  | .record _ _ _ _ => .notOwner
  | .submit _ => .notOwner
  | .result _ => .notOwner
  | .review _ => .notOwner
  | .summary _ => .notOwner
  | .abandon _ => .notOwner
  | _ =>
    let user := caller.userId
    .forbidden s!"user {user} does not own quiz {quizId}"

theorem Call.kind_refusal (quizId : Int) (caller : Caller) (call : Call) :
    (call.refusal quizId caller).kind = .forbidden := by
  cases call <;> rfl

namespace Store

/-- The caller is neither the student of the attempt, nor the owner of its quiz, nor an
administrator. -/
structure IsOutsider (s : Store) (attempt : Attempt) (caller : Caller) : Prop where
  isNotStudent : attempt.studentId ≠ caller.userId
  isNotAdmin : caller.isPrivileged = false
  isNotOwner : s.owner? attempt.quizId ≠ some caller.userId

/-- The call has to do with the attempt: it names the attempt or one of its answers, it lists
what its student did at the quiz, or it lists what there is at the quiz. -/
inductive Concerns (s : Store) (attempt : Attempt) : Call → Prop where
  | record (questionId : Int) (raw : Json) (seconds : Option Int) :
      Concerns s attempt (.record attempt.id questionId raw seconds)
  | submit : Concerns s attempt (.submit attempt.id)
  | result : Concerns s attempt (.result attempt.id)
  | review : Concerns s attempt (.review attempt.id)
  | summary : Concerns s attempt (.summary attempt.id)
  | abandon : Concerns s attempt (.abandon attempt.id)
  | grade {answerId : Uuid} {row : Answer} (isStored : s.findAnswer answerId = some row)
      (ofAttempt : row.attemptId = attempt.id) (grade : Grade) :
      Concerns s attempt (.grade answerId grade)
  | history : Concerns s attempt (.history attempt.quizId (some attempt.studentId))
  | pending : Concerns s attempt (.pending attempt.quizId)
  | statistics : Concerns s attempt (.statistics attempt.quizId)

variable {s t : Store} {ctx : Context} {attempt : Attempt} {caller : Caller} {answerId : Uuid}
  {row : Answer}

namespace IsOutsider

theorem ownsQuiz_eq (h : s.IsOutsider attempt caller) : s.ownsQuiz attempt.quizId caller = false := by
  simp [ownsQuiz, h.isNotAdmin, h.isNotOwner]

/-- The refusal of those who do not manage the quiz. -/
theorem ensureOwner_eq (h : s.IsOutsider attempt caller) :
    s.ensureOwner attempt.quizId caller =
      .error ((Call.statistics attempt.quizId).refusal attempt.quizId caller) := by
  simp [ensureOwner, h.ownsQuiz_eq, Call.refusal]

theorem openAttempt_eq (h : s.IsOutsider attempt caller)
    (ha : s.findAttempt attempt.id = some attempt) :
    s.openAttempt caller attempt.id = .error .notOwner := by
  simp [openAttempt, requireAttempt_eq_ok_iff.2 ha, bind, Except.bind, h.isNotStudent]

/-- No grade of an outsider passes its check, whatever it is. -/
theorem checkGrade_eq (h : s.IsOutsider attempt caller)
    (ha : s.findAttempt attempt.id = some attempt) (hrow : s.findAnswer answerId = some row)
    (hatt : row.attemptId = attempt.id) (grade : Grade) :
    s.checkGrade caller answerId grade =
      .error ((Call.grade answerId grade).refusal attempt.quizId caller) := by
  simp only [checkGrade, requireAnswer_eq_ok_iff.2 hrow, requireAttempt_eq_ok_iff.2 (hatt ▸ ha),
    h.ensureOwner_eq, bind, Except.bind]
  rfl

/-- A batch with a grade for the attempt is refused. -/
theorem checkBatch_eq_error (h : s.IsOutsider attempt caller)
    (ha : s.findAttempt attempt.id = some attempt) {entries : List GradeEntry} {x : GradeEntry}
    (hx : x ∈ entries) (hrow : s.findAnswer x.answerId = some row)
    (hatt : row.attemptId = attempt.id) :
    ∃ failures, s.checkBatch caller entries = .error (.bulkGrade failures []) := by
  have hmem := (mem_failures_iff (s := s) caller entries x.answerId).2
    (Or.inr ⟨x, hx, rfl, _, h.checkGrade_eq ha hrow hatt x.grade⟩)
  unfold checkBatch
  split
  · rename_i hnil
    rw [List.isEmpty_iff.1 hnil] at hx
    cases hx
  · simp only
    split
    · rename_i hnone
      rw [List.isEmpty_iff.1 hnone] at hmem
      cases hmem
    · exact ⟨_, rfl⟩

end IsOutsider

/-- An outsider is refused, and nothing is written. -/
theorem Concerns.perform_eq {call : Call} (hc : s.Concerns attempt call)
    (ha : s.findAttempt attempt.id = some attempt) (h : s.IsOutsider attempt ctx.caller)
    {quiz : Quiz} (hquiz : s.findQuiz attempt.quizId = some quiz) (hid : quiz.id = attempt.quizId)
    (queue : RefreshQueue) :
    (Engine.mk s queue).perform ctx call =
      (.error (.refused (call.refusal attempt.quizId ctx.caller)), ⟨s, queue⟩) := by
  have hfound : s.requireAttempt attempt.id = .ok attempt := requireAttempt_eq_ok_iff.2 ha
  have hopen := h.openAttempt_eq ha
  cases hc with
  | record questionId raw seconds =>
    simp only [Engine.perform, recordAnswer, recordable, hopen, bind, Except.bind]
    rfl
  | submit =>
    simp only [Engine.perform, Engine.submit, submitAttempt, hopen, bind, Except.bind]
    rfl
  | result =>
    simp [Engine.perform, Engine.ofRead, Store.result, hfound, bind, Except.bind, h.isNotStudent,
      h.isNotAdmin, Call.refusal, Except.map]
  | review =>
    simp [Engine.perform, Engine.ofRead, Store.review, hfound, bind, Except.bind, h.isNotStudent,
      Call.refusal, Except.map]
  | summary =>
    simp [Engine.perform, Engine.ofRead, Store.summary, hfound, bind, Except.bind, h.isNotStudent,
      h.ownsQuiz_eq, Call.refusal, Except.map]
  | abandon =>
    simp [Engine.perform, Engine.ofOutcome, abandonAttempt, abandonable, hfound,
      requireQuiz_eq_ok_iff.2 hquiz, bind, Except.bind, hid, h.ownsQuiz_eq, h.isNotStudent,
      Outcome.refused, Call.refusal, Except.map, Engine.withStore]
  | grade isStored ofAttempt grade =>
    simp only [Engine.perform, gradeAnswer, h.checkGrade_eq ha isStored ofAttempt]
    rfl
  | history =>
    simp [Engine.perform, Engine.ofRead, Store.history, h.isNotStudent, h.ensureOwner_eq, bind,
      Except.bind, Call.refusal, Except.map]
  | pending =>
    simp only [Engine.perform, Store.pending, h.ensureOwner_eq, bind, Except.bind]
    rfl
  | statistics =>
    simp only [Engine.perform, quizStatistics, h.ensureOwner_eq, bind, Except.bind]
    rfl

end Store

/-! ## Stores that are alike but for the course of an attempt -/

/-- The attempt as if it had just been started. -/
def Attempt.outline (attempt : Attempt) : Attempt :=
  .start attempt.id attempt.quizId attempt.studentId attempt.attemptNumber .epoch {}

/-- The answer as if nothing had been written. -/
def Answer.outline (answer : Answer) : Answer :=
  .ungraded answer.id answer.attemptId answer.questionId (.essay "") none .epoch

namespace Store

/-- The store with outlines of an attempt and of its answers in their places. What was counted
for statistics is left out. -/
def outlined (s : Store) (attemptId : Uuid) : Store :=
  { s with
    attempts := s.attempts.map fun a => if a.id = attemptId then a.outline else a
    answers := s.answers.map fun a => if a.attemptId = attemptId then a.outline else a
    statistics := .empty }

/-- Two stores differ in nothing but how an attempt goes: its status, its scores and times, what
was handed in and the grades of its answers. -/
def AlikeBut (s : Store) (attemptId : Uuid) (t : Store) : Prop :=
  s.outlined attemptId = t.outlined attemptId

variable {s t : Store} {ctx : Context} {attempt : Attempt} {caller : Caller} {attemptId answerId : Uuid}
  {row : Answer}

/-- Rows that are equal once some are replaced by outlines have the same outline, and those that
are not replaced are equal. -/
theorem eq_of_outline_eq {α : Type} (outline : α → α) (p : α → Prop) [DecidablePred p]
    (hp : ∀ a, p (outline a) ↔ p a) {a b : α}
    (h : (if p b then outline b else b) = if p a then outline a else a) :
    outline b = outline a ∧ (¬p a → b = a) := by
  by_cases ha : p a <;> by_cases hb : p b <;> simp only [ha, hb, if_true, if_false] at h
  · exact ⟨h, fun hn => absurd ha hn⟩
  · exact absurd ((hp a).2 ha) (h ▸ hb)
  · exact absurd ((hp b).2 hb) (h ▸ ha)
  · exact ⟨congrArg outline h, fun _ => h⟩

namespace AlikeBut

theorem symm (h : s.AlikeBut attemptId t) : t.AlikeBut attemptId s := Eq.symm h

theorem sameCatalog (h : s.AlikeBut attemptId t) : s.SameCatalog t :=
  ⟨(congrArg Store.quizzes h).symm, (congrArg Store.questions h).symm,
    (congrArg Store.owners h).symm⟩

/-- An attempt in the one store is in the other, of the same student at the same quiz. -/
theorem exists_attempt (h : s.AlikeBut attemptId t) {id : Uuid} (ha : s.findAttempt id = some attempt) :
    ∃ other, t.findAttempt id = some other ∧ other.outline = attempt.outline ∧
      (attempt.id ≠ attemptId → other = attempt) := by
  have hrows : (s.findAttempt id).map (fun a => if a.id = attemptId then a.outline else a) =
      (t.findAttempt id).map fun a => if a.id = attemptId then a.outline else a := by
    rw [findAttempt, findAttempt, ← Table.find?_map, ← Table.find?_map]
    exact congrArg (·.attempts.find? id) h
  rw [ha, Option.map_some] at hrows
  obtain ⟨other, hother, heq⟩ := Option.map_eq_some_iff.1 hrows.symm
  exact ⟨other, hother, eq_of_outline_eq Attempt.outline (·.id = attemptId) (fun _ => Iff.rfl) heq⟩

/-- An answer in the one store is in the other, on the same attempt. -/
theorem exists_answer (h : s.AlikeBut attemptId t) (hrow : s.findAnswer answerId = some row) :
    ∃ other, t.findAnswer answerId = some other ∧ other.attemptId = row.attemptId ∧
      (row.attemptId ≠ attemptId → other = row) := by
  have hrows : (s.findAnswer answerId).map
        (fun a => if a.attemptId = attemptId then a.outline else a) =
      (t.findAnswer answerId).map fun a => if a.attemptId = attemptId then a.outline else a := by
    rw [findAnswer, findAnswer, ← Table.find?_map, ← Table.find?_map]
    exact congrArg (·.answers.find? answerId) h
  rw [hrow, Option.map_some] at hrows
  obtain ⟨other, hother, heq⟩ := Option.map_eq_some_iff.1 hrows.symm
  obtain ⟨houtline, hsame⟩ :=
    eq_of_outline_eq Answer.outline (·.attemptId = attemptId) (fun _ => Iff.rfl) heq
  exact ⟨other, hother, (congrArg Answer.attemptId houtline :), hsame⟩

theorem findAnswer_eq_none_iff (h : s.AlikeBut attemptId t) :
    t.findAnswer answerId = none ↔ s.findAnswer answerId = none := by
  constructor <;> intro hnone
  · by_contra hsome
    obtain ⟨row, hrow⟩ := Option.ne_none_iff_exists'.1 hsome
    obtain ⟨other, hother, -⟩ := h.exists_answer hrow
    rw [hnone] at hother
    cases hother
  · by_contra hsome
    obtain ⟨row, hrow⟩ := Option.ne_none_iff_exists'.1 hsome
    obtain ⟨other, hother, -⟩ := h.symm.exists_answer hrow
    rw [hnone] at hother
    cases hother

/-- Another attempt is the same in both. -/
theorem findAttempt_eq (h : s.AlikeBut attemptId t) (hk : s.Keyed) {id : Uuid} (hne : id ≠ attemptId) :
    t.findAttempt id = s.findAttempt id := by
  cases ha : s.findAttempt id with
  | some attempt =>
    obtain ⟨other, hother, -, hsame⟩ := h.exists_attempt ha
    rw [hother, hsame (hk.id_of_findAttempt ha ▸ hne)]
  | none =>
    by_contra hsome
    obtain ⟨other, hother⟩ := Option.ne_none_iff_exists'.1 hsome
    obtain ⟨attempt, hattempt, -⟩ := h.symm.exists_attempt hother
    rw [ha] at hattempt
    cases hattempt

/-- The attempt itself, which goes differently in the two stores. -/
theorem exists_same_outline (h : s.AlikeBut attempt.id t)
    (ha : s.findAttempt attempt.id = some attempt) :
    ∃ other, t.findAttempt other.id = some other ∧ other.id = attempt.id ∧
      other.quizId = attempt.quizId ∧ other.studentId = attempt.studentId := by
  obtain ⟨other, hother, houtline, -⟩ := h.exists_attempt ha
  have hid : other.id = attempt.id := (congrArg Attempt.id houtline :)
  exact ⟨other, hid ▸ hother, hid, (congrArg Attempt.quizId houtline :),
    (congrArg Attempt.studentId houtline :)⟩

/-- Who is an outsider in the one store is one in the other. -/
theorem isOutsider (h : s.AlikeBut attempt.id t) (hout : s.IsOutsider attempt caller)
    {other : Attempt} (hquiz : other.quizId = attempt.quizId)
    (hstudent : other.studentId = attempt.studentId) : t.IsOutsider other caller where
  isNotStudent := hstudent ▸ hout.isNotStudent
  isNotAdmin := hout.isNotAdmin
  isNotOwner := by
    rw [owner?, h.sameCatalog.owners, hquiz]
    exact hout.isNotOwner

/-- A call has to do with the attempt in both stores. -/
theorem concerns (h : s.AlikeBut attempt.id t) {call : Call} (hc : s.Concerns attempt call)
    {other : Attempt} (hid : other.id = attempt.id) (hquiz : other.quizId = attempt.quizId)
    (hstudent : other.studentId = attempt.studentId) : t.Concerns other call := by
  cases hc with
  | record questionId raw seconds => exact hid ▸ .record questionId raw seconds
  | submit => exact hid ▸ .submit
  | result => exact hid ▸ .result
  | review => exact hid ▸ .review
  | summary => exact hid ▸ .summary
  | abandon => exact hid ▸ .abandon
  | grade isStored ofAttempt grade =>
    obtain ⟨row, hrow, hatt, -⟩ := h.exists_answer isStored
    exact .grade hrow (hatt.trans (ofAttempt.trans hid.symm)) grade
  | history => exact hquiz ▸ hstudent ▸ .history
  | pending => exact hquiz ▸ .pending
  | statistics => exact hquiz ▸ .statistics

/-- An outsider finds the same fault with every grade. -/
theorem checkGrade_eq (h : s.AlikeBut attempt.id t) (hk : s.Keyed)
    (ha : s.findAttempt attempt.id = some attempt) (hout : s.IsOutsider attempt caller)
    (answerId : Uuid) (grade : Grade) :
    t.checkGrade caller answerId grade = s.checkGrade caller answerId grade := by
  cases hrow : s.findAnswer answerId with
  | none =>
    have hnone := h.findAnswer_eq_none_iff.2 hrow
    simp only [checkGrade, requireAnswer, hrow, hnone, bind, Except.bind]
  | some row =>
    obtain ⟨other, hother, hatt, hsame⟩ := h.exists_answer hrow
    by_cases hmine : row.attemptId = attempt.id
    · obtain ⟨found, hfound, hid, hquiz, hstudent⟩ := h.exists_same_outline ha
      rw [hout.checkGrade_eq ha hrow hmine, (h.isOutsider hout hquiz hstudent).checkGrade_eq hfound
        hother (hatt.trans (hmine.trans hid.symm)), hquiz]
    · obtain rfl := hsame hmine
      have hcat := h.sameCatalog
      simp only [checkGrade, requireAnswer, hrow, hother, requireAttempt, h.findAttempt_eq hk hmine,
        requireQuestion, hcat.findQuestion_eq, ensureOwner, hcat.ownsQuiz_eq, bind, Except.bind]

theorem listingFault?_eq (h : s.AlikeBut attemptId t) (seen : List Uuid) (id : Uuid) :
    t.listingFault? seen id = s.listingFault? seen id := by
  have hiff : t.findAnswer id = none ↔ s.findAnswer id = none := h.findAnswer_eq_none_iff
  unfold listingFault? requireAnswer
  split
  · rfl
  · cases hs : s.findAnswer id <;> cases ht : t.findAnswer id <;> simp_all

/-- The same entries of a batch are listed twice, or without an answer. -/
theorem listingFailures_eq (h : s.AlikeBut attemptId t) (seen : List Uuid) (entries : List GradeEntry) :
    t.listingFailures seen entries = s.listingFailures seen entries := by
  induction entries generalizing seen with
  | nil => rfl
  | cons x rest ih => rw [listingFailures, h.listingFault?_eq, ih, listingFailures]

/-- An outsider is told the same of a batch. -/
theorem checkBatch_eq (h : s.AlikeBut attempt.id t) (hk : s.Keyed)
    (ha : s.findAttempt attempt.id = some attempt) (hout : s.IsOutsider attempt caller)
    (entries : List GradeEntry) : t.checkBatch caller entries = s.checkBatch caller entries := by
  have hsome : ∀ id, (t.findAnswer id).isSome = (s.findAnswer id).isSome := by
    intro id
    rw [Bool.eq_iff_iff, Option.isSome_iff_ne_none, Option.isSome_iff_ne_none]
    exact not_congr h.findAnswer_eq_none_iff
  have hchecks : t.checkedEntries caller entries = s.checkedEntries caller entries := by
    simp only [checkedEntries, hsome, h.checkGrade_eq hk ha hout]
  simp only [checkBatch, hchecks, h.listingFailures_eq]

end AlikeBut

end Store

/-! ## Refusals -/

/-- In a run in which authors may edit the catalog at any time, somebody who is neither the
student of an attempt nor the owner of its quiz nor an administrator is forbidden every call
that has to do with the attempt, and every batch with a grade for it is refused. Nothing is
written, and the refusals are the same however the attempt goes. -/
theorem Engine.LeadsToEdited.outsider_refused {e₀ e : Engine} (hi : e₀.IsInitial)
    (hr : e₀.LeadsToEdited e) {attempt : Attempt} (hmem : attempt ∈ e.store.attempts.values)
    {ctx : Context} (hout : e.store.IsOutsider attempt ctx.caller) :
    (∀ call, e.store.Concerns attempt call → ∃ cause, cause.kind = .forbidden ∧
      e.perform ctx call = (.error (.refused cause), e) ∧
      ∀ t queue, e.store.AlikeBut attempt.id t →
        (Engine.mk t queue).perform ctx call = (.error (.refused cause), ⟨t, queue⟩)) ∧
    ∀ entries, (∃ x ∈ entries, ∃ row, e.store.findAnswer x.answerId = some row ∧
        row.attemptId = attempt.id) →
      ∃ cause, e.perform ctx (.bulkGrade entries) = (.error (.refused cause), e) ∧
        ∀ t queue, e.store.AlikeBut attempt.id t →
          (Engine.mk t queue).perform ctx (.bulkGrade entries) =
            (.error (.refused cause), ⟨t, queue⟩) := by
  have hk : e.store.Keyed := (hr.placed (Store.Authored.sound hi).placed).toKeyed
  have ha : e.store.findAttempt attempt.id = some attempt := (hk.mem_attempts_iff attempt).1 hmem
  obtain ⟨quiz, hquiz⟩ := hr.atQuizzes hi _ attempt ha
  have hid : quiz.id = attempt.quizId := hk.quizzes _ _ hquiz
  constructor
  · intro call hc
    refine ⟨_, call.kind_refusal attempt.quizId ctx.caller,
      hc.perform_eq ha hout hquiz hid e.queue, fun t queue h => ?_⟩
    obtain ⟨other, hother, hoid, hoquiz, hostudent⟩ := h.exists_same_outline ha
    have hquiz' : t.findQuiz other.quizId = some quiz := by
      rw [h.sameCatalog.findQuiz_eq, hoquiz]
      exact hquiz
    rw [← hoquiz]
    exact (h.concerns hc hoid hoquiz hostudent).perform_eq hother
      (h.isOutsider hout hoquiz hostudent) hquiz' (hid.trans hoquiz.symm) queue
  · rintro entries ⟨x, hx, row, hrow, hatt⟩
    obtain ⟨failures, hbatch⟩ := hout.checkBatch_eq_error ha hx hrow hatt
    have hrefused : ∀ (s : Store) (queue : RefreshQueue),
        s.checkBatch ctx.caller entries = .error (.bulkGrade failures []) →
        (Engine.mk s queue).perform ctx (.bulkGrade entries) =
          (.error (.refused (.bulkGrade failures [])), ⟨s, queue⟩) := by
      intro s queue hs
      simp only [perform, Store.bulkGrade, hs]
      rfl
    exact ⟨_, hrefused e.store e.queue hbatch, fun t queue h =>
      hrefused t queue ((h.checkBatch_eq hk ha hout entries).trans hbatch)⟩

/-- Another student is told the same of the attempt before and after it is submitted. -/
theorem Engine.outsider_refused_submitted :
    Sample.initial.IsInitial ∧ Sample.initial.LeadsToEdited Sample.submitted ∧
      Sample.closed ∈ Sample.submitted.store.attempts.values ∧
      Sample.submitted.store.IsOutsider Sample.closed Sample.other.caller ∧
      ∃ cause, cause.kind = .forbidden ∧
        Sample.submitted.perform Sample.other (.result (Sample.uuid 1)) =
          (.error (.refused cause), Sample.submitted) ∧
        Sample.answered.perform Sample.other (.result (Sample.uuid 1)) =
          (.error (.refused cause), Sample.answered) := by
  obtain ⟨trace, hrun⟩ := Sample.exists_run_answered
  have hr : Sample.initial.LeadsToEdited Sample.submitted :=
    (hrun.snoc (.call (Sample.student 4) (.submit (Sample.uuid 1)) (by decide +kernel))).leadsToEdited
  have hmem : Sample.closed ∈ Sample.submitted.store.attempts.values :=
    (Sample.reachable_submitted.sound.mem_attempts_iff _).2 Sample.findAttempt_submitted
  have hout : Sample.submitted.store.IsOutsider Sample.closed Sample.other.caller := by
    rw [Sample.store_submitted]
    exact ⟨by decide, rfl, by decide +kernel⟩
  have halike : Sample.submitted.store.AlikeBut (Sample.uuid 1) Sample.answered.store := by
    rw [Sample.store_submitted]
    rfl
  obtain ⟨cause, hkind, hrefused, hsame⟩ :=
    (hr.outsider_refused Sample.isInitial_initial hmem hout).1 _ .result
  exact ⟨Sample.isInitial_initial, hr, hmem, hout, cause, hkind, hrefused,
    hsame Sample.answered.store Sample.answered.queue halike⟩

end QuizEngine
