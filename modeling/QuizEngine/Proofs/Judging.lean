import QuizEngine.Proofs.Faults

/-!
# Judging answers again

A submission judges the answers of its attempt again, one after the other, and stops at the
first whose grade cannot be written (`regrade_cons_of_stored`). Where all can be written every
answer is left as `Answer.judged` has it (`Holds.regrade_eq`).

The verdict on an answer does not look at its grade, so an answer that was judged is judged to
no effect (`Answer.judged_judged`), and answers that are stored as they are judged leave the
store as it is (`putAnswers_of_stored`). It does not matter then how far an earlier submission
came.
-/

namespace QuizEngine

namespace Answer

/-- The grade of an answer by the rule of its question. -/
def judged? (questions : List Question) (now : Instant) (a : Answer) : Option Answer :=
  (questionOf? questions a.questionId).bind (a.autoGraded? · now)

/-- The answer with the grade by the rule of its question, or as it is where none decides. -/
def judged (questions : List Question) (now : Instant) (a : Answer) : Answer :=
  (a.judged? questions now).getD a

variable {questions : List Question} {now : Instant} {a graded : Answer}

theorem withGradeOf_judged (h : a.judged? questions now = some graded) :
    graded.id = a.id ∧ a.withGradeOf graded = graded := by
  obtain ⟨question, -, hg⟩ := Option.bind_eq_some_iff.1 h
  obtain ⟨correct, -, rfl⟩ := Option.map_eq_some_iff.1 hg
  exact ⟨rfl, rfl⟩

/-- The verdict on an answer is the same whatever grade the answer has. -/
theorem judged?_of_judged? (h : a.judged? questions now = some graded) :
    graded.judged? questions now = some graded := by
  obtain ⟨question, hq, hg⟩ := Option.bind_eq_some_iff.1 h
  obtain ⟨correct, hc, rfl⟩ := Option.map_eq_some_iff.1 hg
  exact Option.bind_eq_some_iff.2 ⟨question, hq, Option.map_eq_some_iff.2 ⟨correct, hc, rfl⟩⟩

theorem judged?_judged (questions : List Question) (now : Instant) (a : Answer) :
    (a.judged questions now).judged? questions now = a.judged? questions now := by
  unfold judged
  cases h : a.judged? questions now with
  | none => exact h
  | some graded => exact judged?_of_judged? h

@[simp]
theorem judged_judged (questions : List Question) (now : Instant) (a : Answer) :
    (a.judged questions now).judged questions now = a.judged questions now := by
  rw [judged, judged?_judged]
  unfold judged
  cases a.judged? questions now <;> rfl

end Answer

namespace Store

variable {s : Store} {questions : List Question} {now : Instant}

/-! ## Stored lists -/

/-- The answers are stored as they are listed, and none is listed twice. -/
structure Holds (s : Store) (rows : List Answer) : Prop where
  stored : ∀ a ∈ rows, s.findAnswer a.id = some a
  nodup : (rows.map (·.id)).Nodup

theorem Sound.holds_listAnswers (h : s.Sound) (attemptId : Uuid) : s.Holds (s.listAnswers attemptId) :=
  ⟨fun a ha => ((h.mem_listAnswers attemptId a).1 ha).1, h.nodup_listAnswers attemptId⟩

theorem Holds.head {a : Answer} {rest : List Answer} (h : s.Holds (a :: rest)) :
    s.findAnswer a.id = some a := h.stored a (List.mem_cons_self ..)

theorem Holds.tail {a : Answer} {rest : List Answer} (h : s.Holds (a :: rest)) : s.Holds rest :=
  ⟨fun b hb => h.stored b (List.mem_cons_of_mem a hb), (List.nodup_cons.1 h.nodup).2⟩

/-- The answers that follow stand as they were when the first is written over. -/
theorem Holds.putAnswer {a row : Answer} {rest : List Answer} (h : s.Holds (a :: rest))
    (hid : row.id = a.id) : (s.putAnswer row).Holds rest := by
  refine ⟨fun b hb => ?_, h.tail.nodup⟩
  rw [findAnswer_putAnswer, if_neg, h.tail.stored b hb]
  intro heq
  exact (List.nodup_cons.1 h.nodup).1 (List.mem_map.2 ⟨b, hb, heq.trans hid⟩)

/-- The store with several answers written as they are. -/
def putAnswers (s : Store) (rows : List Answer) : Store :=
  { s with answers := rows.foldl (fun answers row => answers.insert row.id row) s.answers }

theorem putAnswers_cons (s : Store) (row : Answer) (rest : List Answer) :
    s.putAnswers (row :: rest) = (s.putAnswer row).putAnswers rest := rfl

/-- Rows that are stored are put there to no effect. -/
theorem putAnswers_of_stored {rows : List Answer} (h : ∀ a ∈ rows, s.findAnswer a.id = some a) :
    s.putAnswers rows = s := by
  induction rows with
  | nil => rfl
  | cons a rest ih =>
    rw [List.forall_mem_cons] at h
    rw [putAnswers_cons, putAnswer_of_stored h.1, ih h.2]

/-! ## One after the other -/

/-- Of a list of stored answers the first is judged where a rule decides on it and its grade
can be written, and then the others are. -/
theorem regrade_cons_of_stored {a : Answer} (hstored : s.findAnswer a.id = some a)
    (rest : List Answer) :
    regrade questions now s (a :: rest) = match a.judged? questions now with
      | none => (regrade questions now s rest).map (Except.map (a :: ·)) (·)
      | some row =>
        if a.id ∈ s.unwritableGrades then (.error (gradeUnwritable a.id), s)
        else (regrade questions now (s.putAnswer row) rest).map (Except.map (row :: ·)) (·) := by
  rw [regrade, ← Answer.judged?]
  cases hjudged : a.judged? questions now with
  | none => rcases regrade questions now s rest with ⟨_ | _, _⟩ <;> rfl
  | some row =>
    obtain ⟨hid, hrow⟩ := Answer.withGradeOf_judged hjudged
    dsimp only
    rw [saveGrade_of_stored (hid ▸ hstored) hrow, hid]
    by_cases hmarked : a.id ∈ s.unwritableGrades
    · rw [if_pos hmarked, if_pos hmarked]
    · rw [if_neg hmarked, if_neg hmarked]
      dsimp only
      rcases regrade questions now (s.putAnswer row) rest with ⟨_ | _, _⟩ <;> rfl

/-- When the grades of all answers on which a rule decides can be written, every answer is
judged. -/
theorem Holds.regrade_eq {rows : List Answer} (h : s.Holds rows)
    (hwritable : ∀ a ∈ rows, (a.judged? questions now).isSome → a.id ∉ s.unwritableGrades) :
    regrade questions now s rows = (.ok (rows.map (·.judged questions now)),
      s.putAnswers (rows.map (·.judged questions now))) := by
  induction rows generalizing s with
  | nil => rfl
  | cons a rest ih =>
    rw [List.forall_mem_cons] at hwritable
    rw [regrade_cons_of_stored h.head, List.map_cons, putAnswers_cons, Answer.judged]
    cases hjudged : a.judged? questions now with
    | none =>
      dsimp only
      rw [ih h.tail hwritable.2, Option.getD_none, putAnswer_of_stored h.head]
      rfl
    | some row =>
      have hfree : a.id ∉ s.unwritableGrades := hwritable.1 (by rw [hjudged]; rfl)
      dsimp only
      rw [if_neg hfree, ih (h.putAnswer (Answer.withGradeOf_judged hjudged).1) hwritable.2]
      rfl

end Store

end QuizEngine
