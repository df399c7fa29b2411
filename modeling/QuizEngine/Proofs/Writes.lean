import QuizEngine.Proofs.Guards
import QuizEngine.Proofs.Rows
import Mathlib.Logic.Relation

/-!
# The writes of which every call is made

A call changes the rows of attempts and answers in six ways (`Write`): an attempt is started,
an answer is handed in, a rule's verdict is written onto it, the attempt is submitted or
abandoned, and a person's grade is written together with the attempt. `Store.Writes` says
what each of them needs and which rows it leaves. Everything else that happens to a store
leaves the rows of quizzes, questions, attempts and answers alone (`Write.aside`).

`Store.WritesOnly` is any number of writes of permitted kinds one after the other. What every
write keeps, a sequence of writes keeps (`WritesOnly.keeps`).
-/

namespace QuizEngine

/-- A kind of write, with the attempt it is made to. -/
inductive Write where
  /-- The attempt is started. -/
  | start (attemptId : Uuid)
  /-- An answer to the question is handed in. -/
  | handIn (attemptId : Uuid) (questionId : Int)
  /-- The verdict of a rule is written onto an answer. -/
  | judge (attemptId : Uuid)
  /-- The attempt gets its score and takes no more answers. -/
  | submit (attemptId : Uuid)
  /-- The attempt is closed without a score. -/
  | abandon (attemptId : Uuid)
  /-- A person grades the answer. -/
  | grade (attemptId answerId : Uuid)
  /-- No row of a quiz, a question, an attempt or an answer is written. -/
  | aside

/-- The attempt that is written to, or one of whose answers is. -/
def Write.attempt? : Write → Option Uuid
  | .start attemptId => some attemptId
  | .handIn attemptId _ => some attemptId
  | .judge attemptId => some attemptId
  | .submit attemptId => some attemptId
  | .abandon attemptId => some attemptId
  | .grade attemptId _ => some attemptId
  | .aside => none

/-- Whether every row of an attempt stays as it is. -/
def Write.keepsAttempts : Write → Bool
  | .handIn _ _ => true
  | .judge _ => true
  | .aside => true
  | .start _ => false
  | .submit _ => false
  | .abandon _ => false
  | .grade _ _ => false

namespace Store

/-- No attempt and no answer has the identifier. -/
def IsFresh (s : Store) (id : Uuid) : Prop := s.findAttempt id = none ∧ s.findAnswer id = none

instance (s : Store) (id : Uuid) : Decidable (s.IsFresh id) := inferInstanceAs (Decidable (_ ∧ _))

/-- What each kind of write needs of the store, and the store after it. -/
inductive Writes (s : Store) : Write → Store → Prop where
  | start {ctx : Context} {quizId number : Int} {quiz : Quiz} {client : ClientInfo}
      (isOpen : s.openQuiz ctx quizId = .ok quiz)
      (isNext : nextAttempt quiz (s.latestAttempt quizId ctx.caller.userId)
        (s.countAttempts quizId ctx.caller.userId) = .ok (.create number))
      (isFresh : s.IsFresh ctx.fresh) :
      s.Writes (.start ctx.fresh)
        (s.putAttempt (.start ctx.fresh quizId ctx.caller.userId number ctx.now client))
  | handIn {ctx : Context} {attemptId : Uuid} {questionId : Int} {raw : Json} {quiz : Quiz}
      {question : Question} {payload : Payload} {seconds : Option Int}
      (isFresh : s.IsFresh ctx.fresh)
      (isRecordable : s.recordable ctx attemptId questionId raw = .ok (quiz, question, payload)) :
      s.Writes (.handIn attemptId questionId) (s.putAnswer
        (s.upsertedAnswer (.ungraded ctx.fresh attemptId questionId payload seconds ctx.now)))
  | judge {row : Answer} {attempt : Attempt} {quiz : Quiz} {question : Question} {correct : Bool}
      {now : Instant}
      (isStored : s.findAnswer row.id = some row)
      (ofAttempt : s.findAttempt row.attemptId = some attempt)
      (inProgress : attempt.status = .inProgress)
      (ofQuiz : s.findQuiz attempt.quizId = some quiz)
      (byRule : quiz.autoGrade = true)
      (ofQuestion : s.findQuestion row.questionId = some question)
      (hasVerdict : question.verdict? row.payload = some correct) :
      s.Writes (.judge row.attemptId) (s.putAnswer (row.withVerdict question correct now))
  | submit {ctx : Context} {attemptId : Uuid} {attempt next : Attempt} {quiz : Quiz} {score : Score}
      (isOpen : s.openAttempt ctx.caller attemptId = .ok attempt)
      (ofQuiz : s.findQuiz attempt.quizId = some quiz)
      (isJudged : quiz.autoGrade = true → ∀ row ∈ s.listAnswers attempt.id, ∀ question correct,
        s.findQuestion row.questionId = some question →
        question.verdict? row.payload = some correct →
        row.withVerdict question correct ctx.now = row)
      (isScore : Score.aggregate (s.listQuestions attempt.quizId) (s.listAnswers attempt.id)
        quiz.passingScore = .ok score)
      (isNext : attempt.submitted quiz score ctx.now = .ok next) :
      s.Writes (.submit attemptId) (s.putAttempt (nextVersion next))
  | abandon {ctx : Context} {attemptId : Uuid} {next : Attempt}
      (isAbandonable : s.abandonable ctx attemptId = .ok next) :
      s.Writes (.abandon attemptId) (s.putAttempt (nextVersion next))
  | grade {ctx : Context} {answerId : Uuid} {grade : Grade} {checked : CheckedGrade}
      {attempt next : Attempt} {snapshot : Snapshot}
      (isChecked : s.checkGrade ctx.caller answerId grade = .ok checked)
      (ofAttempt : s.findAttempt checked.answer.attemptId = some attempt)
      (isSnapshot : Snapshot.load s attempt = .ok snapshot)
      (isNext : attempt.regraded snapshot (checked.row ctx) ctx = .ok next) :
      s.Writes (.grade attempt.id answerId)
        ((s.putAnswer (checked.row ctx)).putAttempt (nextVersion next))
  | aside {statistics : Table (Int × Int) QuestionStatistics} {unwritable : List Uuid}
      {conflicts : Table Uuid Nat} :
      s.Writes .aside { s with
        statistics := statistics
        unwritableGrades := unwritable
        forcedConflicts := conflicts }

/-- Writes of permitted kinds one after the other. -/
def WritesOnly (permitted : Write → Prop) : Store → Store → Prop :=
  Relation.ReflTransGen fun s t => ∃ w, permitted w ∧ s.Writes w t

namespace WritesOnly

variable {p q : Write → Prop} {s t u : Store}

theorem refl : WritesOnly p s s := Relation.ReflTransGen.refl

theorem trans (h : WritesOnly p s t) (h' : WritesOnly p t u) : WritesOnly p s u :=
  Relation.ReflTransGen.trans h h'

theorem single {w : Write} (hw : p w) (h : s.Writes w t) : WritesOnly p s t :=
  Relation.ReflTransGen.single ⟨w, hw, h⟩

theorem head (h : WritesOnly p t u) {w : Write} (hs : s.Writes w t) (hw : p w) : WritesOnly p s u :=
  Relation.ReflTransGen.head ⟨w, hw, hs⟩ h

theorem mono (h : WritesOnly p s t) (hpq : ∀ w, p w → q w) : WritesOnly q s t :=
  Relation.ReflTransGen.mono (fun _ _ ⟨w, hw, hs⟩ => ⟨w, hpq w hw, hs⟩) _ _ h

/-- What each permitted write keeps, all of them keep. -/
theorem keeps {P : Store → Prop} (h : WritesOnly p s t)
    (hP : ∀ {a b : Store} {w : Write}, p w → a.Writes w b → P a → P b) (hs : P s) : P t := by
  induction h with
  | refl => exact hs
  | tail _ hw ih =>
    obtain ⟨w, hw, hstep⟩ := hw
    exact hP hw hstep ih

end WritesOnly

/-- No write edits the catalog. -/
theorem Writes.sameCatalog {s t : Store} {w : Write} (h : s.Writes w t) : s.SameCatalog t := by
  cases h <;> exact ⟨rfl, rfl, rfl⟩

theorem WritesOnly.sameCatalog {p : Write → Prop} {s t : Store} (h : WritesOnly p s t) :
    s.SameCatalog t :=
  h.keeps (fun _ hw ih => ih.trans hw.sameCatalog) (SameCatalog.refl s)

theorem Writes.attempts_eq {s t : Store} {w : Write} (h : s.Writes w t)
    (hw : w.keepsAttempts = true) : t.attempts = s.attempts := by
  cases h <;> first | rfl | cases hw

theorem WritesOnly.attempts_eq {p : Write → Prop} {s t : Store} (h : WritesOnly p s t)
    (hp : ∀ w, p w → w.keepsAttempts = true) : t.attempts = s.attempts :=
  h.keeps (fun hw hstep ih => (hstep.attempts_eq (hp _ hw)).trans ih) rfl

/-- Beside the rows nothing is written. -/
theorem WritesOnly.sameRows {s t : Store} (h : WritesOnly (· = .aside) s t) : s.SameRows t := by
  refine h.keeps (fun hp hw ih => ?_) (SameRows.refl s)
  subst hp
  cases hw
  exact ih.trans ⟨⟨rfl, rfl, rfl⟩, rfl, rfl⟩

end Store

end QuizEngine
