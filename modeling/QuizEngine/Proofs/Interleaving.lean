import QuizEngine.Proofs.Scores

/-!
# Grades that are written late

The commit of a grade reads the attempt, then its quiz, the questions and the answers, and
then writes, and others may write at any moment in between (`LateGrade`). The write compares
nothing but the version of the attempt. That is enough: a submitted attempt that still has
its version has all its answers as they were (`LeadsTo.sameAttempt_of_version`), so that the
score was computed of the answers stored (`Reachable.saveGrade_late`).
-/

namespace QuizEngine

open Store

/-- A grade that is about to be written in `written`. It passed its check at some time. Later
the attempt was read in `read`, and its quiz, the questions and the answers were read at any
times between the two. -/
structure LateGrade (ctx : Context) (read written : Engine) (attempt next : Attempt)
    (row : Answer) : Prop where
  isChecked : ∃ (earlier : Engine) (answerId : Uuid) (grade : Grade) (checked : CheckedGrade),
    earlier.Reachable ∧ earlier.LeadsTo read ∧
      earlier.store.checkGrade ctx.caller answerId grade = .ok checked ∧ row = checked.row ctx
  ofAttempt : read.store.findAttempt row.attemptId = some attempt
  isComputed : ∃ (quizAt questionsAt answersAt : Engine) (quiz : Quiz),
    (read.LeadsTo quizAt ∧ quizAt.LeadsTo written) ∧
    (read.LeadsTo questionsAt ∧ questionsAt.LeadsTo written) ∧
    (read.LeadsTo answersAt ∧ answersAt.LeadsTo written) ∧
    quizAt.store.findQuiz attempt.quizId = some quiz ∧
    attempt.regraded ⟨quiz, questionsAt.store.listQuestions attempt.quizId,
      answersAt.store.listAnswers attempt.id⟩ row ctx = .ok next

/-- The answer to be graded is still to the same question of the same attempt. -/
theorem LateGrade.exists_stored {ctx : Context} {read written : Engine} {attempt next : Attempt}
    {row : Answer} (h : LateGrade ctx read written attempt next row) :
    ∃ stored, written.store.findAnswer row.id = some stored ∧ stored.attemptId = row.attemptId ∧
      stored.questionId = row.questionId := by
  obtain ⟨earlier, answerId, grade, checked, hreach, hread, hcheck, rfl⟩ := h.isChecked
  obtain ⟨quizAt, _, _, _, ⟨hquiz, hquiz'⟩, -⟩ := h.isComputed
  obtain ⟨_, hans, -⟩ := checkGrade_eq_ok_iff.1 hcheck
  obtain ⟨trace, hrun⟩ := (hread.trans hquiz).trans hquiz'
  obtain ⟨stored, hstored, hatt, hq, -⟩ := hrun.keepsAnswer hreach.sound hans
  exact ⟨stored, hstored, hatt, hq⟩

namespace Engine

variable {e e' e'' : Engine}

/-- A submitted attempt that has its version at the end of a run had its row and its answers
all the time. -/
theorem LeadsTo.sameAttempt_of_version (h : e.LeadsTo e') (h' : e'.LeadsTo e'')
    (hs : e.store.Sound) {id : Uuid} {attempt stored : Attempt}
    (ha : e.store.findAttempt id = some attempt) (hg : attempt.status.isGradeable = true)
    (hstored : e''.store.findAttempt id = some stored) (hv : stored.version = attempt.version) :
    e.store.SameAttempt e'.store id := by
  obtain ⟨trace, hr⟩ := h
  obtain ⟨trace', hr'⟩ := h'
  rcases hr.same_or_newer hs ha hg with hsame | ⟨later, hl, hlg, hlt⟩
  · exact hsame
  · exfalso
    rcases hr'.same_or_newer (hr.sound hs) hl hlg with hsame | ⟨last, hlast, _, hllt⟩
    · obtain rfl := Option.some.inj ((hsame.findAttempt_eq.trans hl).symm.trans hstored)
      omega
    · obtain rfl := Option.some.inj (hlast.symm.trans hstored)
      omega

/-- A grade that is written late changes no answer and no attempt, or the attempt and its
answers are still as they were read and the attempt gets the score of the answers stored. -/
theorem Reachable.saveGrade_late {ctx : Context} {read written : Engine} {attempt next : Attempt}
    {row : Answer} (h : read.Reachable)
    (hstatus : attempt.status = .submitted ∨ attempt.status = .graded)
    (hlate : LateGrade ctx read written attempt next row) :
    (∃ cause t, written.store.saveGradeWithAttempt row next = (.error cause, t) ∧
      t.attempts = written.store.attempts ∧ t.answers = written.store.answers) ∨
    ∃ graded t, written.store.saveGradeWithAttempt row next = (.ok (graded, nextVersion next), t) ∧
      written.store.findAttempt attempt.id = some attempt ∧
      written.store.listAnswers attempt.id = read.store.listAnswers attempt.id ∧
      t.findAttempt attempt.id = some (nextVersion next) ∧
      t.listAnswers attempt.id =
        (read.store.listAnswers attempt.id).map (fun a => if a.id = row.id then graded else a) ∧
      graded.pointsEarned = row.pointsEarned ∧ t.IsScored (nextVersion next) := by
  have hg : attempt.status.isGradeable = true := AttemptStatus.isGradeable_iff.2 hstatus
  obtain ⟨quizAt, questionsAt, answersAt, quiz, ⟨hquiz, hquiz'⟩, ⟨hqs, hqs'⟩, ⟨has, has'⟩, hfq,
    hnext⟩ := hlate.isComputed
  have hsound : written.store.Sound := (h.leadsTo (hquiz.trans hquiz')).sound
  rcases written.store.saveGradeWithAttempt_cases row next with
    ⟨cause, t, he, hw⟩ | ⟨graded, stored, hgraded, hstored, hver, hok⟩
  · exact Or.inl ⟨cause, t, he, hw.sameRows.attempts, hw.sameRows.answers⟩
  · obtain ⟨score, hscore, -, rfl⟩ := Attempt.regraded_eq_ok_iff.1 hnext
    obtain ⟨old, hold, hatt, hq⟩ := hlate.exists_stored
    obtain ⟨old', hold', rfl⟩ := gradedRow?_eq_ok hgraded
    obtain rfl := Option.some.inj (hold.symm.trans hold')
    have hid : attempt.id = row.attemptId := h.sound.id_of_findAttempt hlate.ofAttempt
    have hread : read.store.findAttempt attempt.id = some attempt := hid ▸ hlate.ofAttempt
    -- the version is the one that was read, so nobody wrote the attempt or its answers
    have hsame : read.store.SameAttempt written.store attempt.id :=
      (hquiz.trans hquiz').sameAttempt_of_version (.refl written) h.sound hread hg hstored hver
    have hsame' : read.store.SameAttempt answersAt.store attempt.id :=
      has.sameAttempt_of_version has' h.sound hread hg hstored hver
    have hoid : old.id = row.id := hsound.id_of_findAnswer hold
    have hlist : (written.store.putAnswer (old.withGradeOf row)).listAnswers attempt.id =
        (read.store.listAnswers attempt.id).map fun a =>
          if a.id = row.id then old.withGradeOf row else a := by
      have hplace : written.store.findAnswer (old.withGradeOf row).id = some old := hoid ▸ hold
      rw [hsound.listAnswers_putAnswer hplace rfl rfl rfl, hsame.listAnswers_eq,
        Answer.id_withGradeOf, hoid]
    have hsnap : answersAt.store.listAnswers attempt.id = written.store.listAnswers attempt.id :=
      hsame'.listAnswers_eq.trans hsame.listAnswers_eq.symm
    -- the answer as it is stored counts like the answer with which the score was computed
    have hbasis : ((read.store.listAnswers attempt.id).map fun a =>
          if a.id = row.id then old.withGradeOf row else a).map Score.basis =
        ((written.store.listAnswers attempt.id).map fun a =>
          if a.id = row.id then row else a).map Score.basis := by
      rw [hsame.listAnswers_eq, List.map_map, List.map_map]
      refine List.map_congr_left fun a _ => ?_
      simp only [Function.comp_apply]
      split
      · exact Prod.ext hq rfl
      · rfl
    have hcat := hquiz'.sameCatalog (h.leadsTo hquiz).sound
    have hcat' := hqs'.sameCatalog (h.leadsTo hqs).sound
    refine Or.inr ⟨_, _, hok, hsame.findAttempt_eq.trans hread, hsame.listAnswers_eq,
      findAttempt_putAttempt_self _ _, hlist, rfl, quiz, score,
      (hcat.findQuiz_eq _).trans hfq, ?_, Attempt.hasScore_withScore _ score⟩
    calc Score.aggregate (written.store.listQuestions attempt.quizId)
          ((written.store.putAnswer (old.withGradeOf row)).listAnswers attempt.id) quiz.passingScore
        = Score.aggregate (questionsAt.store.listQuestions attempt.quizId)
          ((written.store.listAnswers attempt.id).map fun a => if a.id = row.id then row else a)
          quiz.passingScore := by
          rw [hcat'.listQuestions_eq, hlist, Score.aggregate_eq_of_basis_eq hbasis]
      _ = .ok score := by
          rw [← hscore, Snapshot.score, hsound.withAnswer_eq hsnap hold (hatt.trans hid.symm)]
          rfl

end Engine

/-! ## A grade and a start

The owner grades the essay of the sample run; after the answers were read another student
starts an attempt. -/

namespace Sample

/-- The grade with all points, as it was checked. -/
def essayGrade : CheckedGrade where
  answer := .ungraded (uuid 3) (uuid 1) 2 (.essay "It adds.") none .epoch
  question := essay
  grade := ⟨points 3 0, none⟩

/-- The score with the grade. -/
def fullScore : Score where
  totalPoints := points 5 0
  earnedPoints := points 5 0
  percentage := points 100 0
  passed := false
  pendingCount := 0

/-- A call of another student. -/
def other : Context := ⟨⟨6, .student⟩, .epoch, uuid 6⟩

def joined : Engine := (submitted.perform other (.start 1 {})).2

theorem leadsTo_joined : submitted.LeadsTo joined := by
  have hfresh : submitted.store.IsFresh other.fresh := by
    rw [store_submitted]
    decide +kernel
  exact ⟨_, Engine.Run.nil.snoc (.call other (.start 1 {}) hfresh)⟩

theorem store_joined : joined.store =
    submitted.store.putAttempt (.start (uuid 6) 1 6 1 .epoch {}) := by
  simp only [joined, Engine.perform, Engine.ofOutcome, Engine.withStore, store_submitted]
  rfl

theorem listAnswers_submitted : submitted.store.listAnswers (uuid 1) = answers := by
  rw [store_submitted, Store.listAnswers_putAttempt, listAnswers_answered]

theorem lateGrade_joined : LateGrade (teacher 5) submitted joined closed
    (closed.regradedWith fullScore (teacher 5)) (essayGrade.row (teacher 5)) where
  isChecked := by
    refine ⟨submitted, uuid 3, essayGrade.grade, essayGrade, reachable_submitted, .refl _, ?_, rfl⟩
    rw [store_submitted]
    exact Store.checkGrade_eq_ok_iff.2 ⟨closed, by decide +kernel⟩
  ofAttempt := findAttempt_submitted
  isComputed := by
    refine ⟨submitted, joined, submitted, quiz, ⟨.refl _, leadsTo_joined⟩, ⟨leadsTo_joined, .refl _⟩,
      ⟨.refl _, leadsTo_joined⟩, ?_, ?_⟩
    · rw [store_submitted]
      decide +kernel
    · have hquestions : joined.store.listQuestions 1 = [choice, essay] := by
        rw [store_joined, store_submitted, ← listQuestions_answered]
        rfl
      refine Attempt.regraded_eq_ok_iff.2 ⟨fullScore, ?_, rfl, rfl⟩
      show Score.aggregate (joined.store.listQuestions 1) _ _ = _
      rw [hquestions]
      show Score.aggregate _ (Snapshot.withAnswer ⟨_, _, submitted.store.listAnswers (uuid 1)⟩ _).answers _ = _
      rw [listAnswers_submitted]
      rfl

end Sample

/-- The grade of the essay is written although another attempt was started meanwhile. -/
theorem Engine.saveGrade_late_joined :
    LateGrade (Sample.teacher 5) Sample.submitted Sample.joined Sample.closed
        (Sample.closed.regradedWith Sample.fullScore (Sample.teacher 5))
        (Sample.essayGrade.row (Sample.teacher 5)) ∧
      ∃ graded next t, Sample.joined.store.saveGradeWithAttempt
          (Sample.essayGrade.row (Sample.teacher 5))
          (Sample.closed.regradedWith Sample.fullScore (Sample.teacher 5)) = (.ok (graded, next), t) ∧
        t.IsScored next := by
  refine ⟨Sample.lateGrade_joined, ?_⟩
  rcases Sample.reachable_submitted.saveGrade_late (Or.inl rfl) Sample.lateGrade_joined with
    ⟨cause, t, herr, -⟩ | ⟨graded, t, hok, -, -, -, -, -, hscored⟩
  · have hsaved : (Sample.joined.store.saveGradeWithAttempt (Sample.essayGrade.row (Sample.teacher 5))
        (Sample.closed.regradedWith Sample.fullScore (Sample.teacher 5))).1.toBool = true := by
      rw [Sample.store_joined, Sample.store_submitted]
      decide +kernel
    rw [herr] at hsaved
    cases hsaved
  · exact ⟨graded, _, t, hok, hscored⟩

end QuizEngine
