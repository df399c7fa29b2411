import QuizEngine.Proofs.Writes

/-!
# Rows that refer to each other

In a `Sound` store every row stands under its own identifier, the quiz of an attempt and the
attempt and the question of an answer exist, an answer is to a question of the quiz that its
attempt is at and passes the check of that question, and a question of an attempt has one
answer at most. Every write keeps this (`Writes.sound`).

The answers of an attempt are then listed strictly by question (`Sound.pairwise_listAnswers`),
and an answer is found by its attempt and its question (`Placed.findByQuestion_eq_some_iff`),
for which the catalog does not matter (`Store.Placed`).
-/

namespace QuizEngine.Store

/-- The rows of the store fit together. -/
structure Sound (s : Store) : Prop extends Keyed s where
  hasQuiz : ∀ id a, s.findAttempt id = some a → ∃ quiz, s.findQuiz a.quizId = some quiz
  hasQuestion : ∀ id row, s.findAnswer id = some row → ∃ attempt question,
    s.findAttempt row.attemptId = some attempt ∧ s.findQuestion row.questionId = some question ∧
      question.quizId = attempt.quizId ∧ row.payload.check question = .ok ()
  unique : ∀ a b, s.findAnswer a.id = some a → s.findAnswer b.id = some b →
    a.attemptId = b.attemptId → a.questionId = b.questionId → a = b

/-- Every row stands under its own identifier, and a question of an attempt has one answer at
most. -/
structure Placed (s : Store) : Prop extends Keyed s where
  unique : ∀ a b, s.findAnswer a.id = some a → s.findAnswer b.id = some b →
    a.attemptId = b.attemptId → a.questionId = b.questionId → a = b

variable {s : Store}

theorem Sound.placed (h : s.Sound) : s.Placed := ⟨h.toKeyed, h.unique⟩

/-! ## Answers found and listed -/

theorem place_of_findByQuestion {attemptId : Uuid} {questionId : Int} {a : Answer}
    (ha : s.findByQuestion attemptId questionId = some a) :
    a.attemptId = attemptId ∧ a.questionId = questionId := by
  simpa using List.find?_some ha

namespace Keyed

theorem of_findByQuestion (h : s.Keyed) {attemptId : Uuid} {questionId : Int} {a : Answer}
    (ha : s.findByQuestion attemptId questionId = some a) :
    s.findAnswer a.id = some a ∧ a.attemptId = attemptId ∧ a.questionId = questionId :=
  ⟨(h.mem_answers_iff a).1 (List.mem_of_find?_eq_some ha), place_of_findByQuestion ha⟩

theorem ne_of_findByQuestion_eq_none (h : s.Keyed) {attemptId : Uuid} {questionId : Int}
    (hn : s.findByQuestion attemptId questionId = none) {a : Answer}
    (ha : s.findAnswer a.id = some a) (hatt : a.attemptId = attemptId) :
    a.questionId ≠ questionId := by
  have := List.find?_eq_none.1 hn a ((h.mem_answers_iff a).2 ha)
  simpa [hatt] using this

end Keyed

namespace Placed

theorem findByQuestion_eq_some_iff (h : s.Placed) {attemptId : Uuid} {questionId : Int} {a : Answer} :
    s.findByQuestion attemptId questionId = some a ↔
      s.findAnswer a.id = some a ∧ a.attemptId = attemptId ∧ a.questionId = questionId := by
  refine ⟨h.of_findByQuestion, ?_⟩
  rintro ⟨ha, hatt, hq⟩
  cases hf : s.findByQuestion attemptId questionId with
  | none => exact absurd hq (h.ne_of_findByQuestion_eq_none hf ha hatt)
  | some b =>
    obtain ⟨hb, hbatt, hbq⟩ := h.of_findByQuestion hf
    rw [h.unique a b ha hb (hatt.trans hbatt.symm) (hq.trans hbq.symm)]

/-- Writing an answer that takes the place of the one to its question, if there is one. -/
theorem putAnswer (h : s.Placed) {row : Answer}
    (hplace : ∀ b, s.findAnswer b.id = some b → b.attemptId = row.attemptId →
      b.questionId = row.questionId → b.id = row.id) : (s.putAnswer row).Placed where
  toKeyed := h.toKeyed.putAnswer row
  unique := by
    intro a b ha hb hatt hq
    rw [findAnswer_putAnswer] at ha hb
    split at ha <;> split at hb
    · exact (Option.some.inj ha).symm.trans (Option.some.inj hb)
    · rename_i hbid
      obtain rfl := Option.some.inj ha
      exact absurd (hplace b hb hatt.symm hq.symm) hbid
    · rename_i haid _
      obtain rfl := Option.some.inj hb
      exact absurd (hplace a ha hatt hq) haid
    · exact h.unique a b ha hb hatt hq

end Placed

namespace Sound

/-- A rule decides on a stored answer exactly when rules grade its question. -/
theorem isSome_verdict? (h : s.Sound) {row : Answer} {question : Question}
    (hrow : s.findAnswer row.id = some row) (hq : s.findQuestion row.questionId = some question) :
    (question.verdict? row.payload).isSome = question.type.isAutoGradable := by
  obtain ⟨_, found, -, hfound, -, hcheck⟩ := h.hasQuestion _ row hrow
  obtain rfl := Option.some.inj (hq.symm.trans hfound)
  exact Question.isSome_verdict?_iff (Payload.type_eq_of_check hcheck)

/-- An answer is to a question of the quiz that its attempt is at, and is one that the question takes. -/
theorem exists_question (h : s.Sound) {attemptId : Uuid} {attempt : Attempt}
    (ha : s.findAttempt attemptId = some attempt) {row : Answer} (hrow : s.findAnswer row.id = some row)
    (hatt : row.attemptId = attemptId) :
    ∃ question, s.findQuestion row.questionId = some question ∧ question.quizId = attempt.quizId ∧
      row.payload.check question = .ok () := by
  obtain ⟨found, question, hfound, hquestion⟩ := h.hasQuestion _ row hrow
  obtain rfl := Option.some.inj ((hatt ▸ ha).symm.trans hfound)
  exact ⟨question, hquestion⟩

theorem findByQuestion_eq_some_iff (h : s.Sound) {attemptId : Uuid} {questionId : Int} {a : Answer} :
    s.findByQuestion attemptId questionId = some a ↔
      s.findAnswer a.id = some a ∧ a.attemptId = attemptId ∧ a.questionId = questionId :=
  h.placed.findByQuestion_eq_some_iff

/-- The answers of an attempt come in the order of their questions, one for each. -/
theorem pairwise_listAnswers (h : s.Sound) (attemptId : Uuid) :
    (s.listAnswers attemptId).Pairwise fun a b => a.questionId < b.questionId := by
  have hsorted : (s.listAnswers attemptId).Pairwise fun a b => a.questionId ≤ b.questionId := by
    refine List.Pairwise.imp ?_ (List.pairwise_mergeSort ?_ ?_ _)
    · intro a b hab
      simp only [decide_eq_true_eq] at hab
      omega
    · intro a b c hab hbc
      simp only [decide_eq_true_eq] at *
      rcases hab with hab | ⟨hab, hab'⟩ <;> rcases hbc with hbc | ⟨hbc, hbc'⟩
      · exact Or.inl (by omega)
      · exact Or.inl (by omega)
      · exact Or.inl (by omega)
      · exact Or.inr ⟨hab.trans hbc, Instant.le_trans hab' hbc'⟩
    · intro a b
      simp only [Bool.or_eq_true, decide_eq_true_eq]
      rcases Int.lt_trichotomy a.questionId b.questionId with hlt | heq | hlt
      · exact Or.inl (Or.inl hlt)
      · rcases Instant.le_total a.createdAt b.createdAt with hle | hle
        · exact Or.inl (Or.inr ⟨heq, hle⟩)
        · exact Or.inr (Or.inr ⟨heq.symm, hle⟩)
      · exact Or.inr (Or.inl hlt)
  -- rows of equal questions would be one row, which the list has once
  have hids := h.nodup_listAnswers attemptId
  rw [List.Nodup, List.pairwise_map] at hids
  refine (hsorted.and hids).imp_of_mem fun {a b} ha hb hab => ?_
  obtain ⟨ha, hatt⟩ := (h.mem_listAnswers attemptId a).1 ha
  obtain ⟨hb, hbtt⟩ := (h.mem_listAnswers attemptId b).1 hb
  refine Int.lt_iff_le_and_ne.2 ⟨hab.1, fun heq => hab.2 ?_⟩
  rw [h.unique a b ha hb (hatt.trans hbtt.symm) heq]

/-! ## One row written -/

/-- Writing over an attempt, at the same quiz. -/
theorem putAttempt_over (h : s.Sound) {a old : Attempt} (hold : s.findAttempt a.id = some old)
    (hquiz : a.quizId = old.quizId) : (s.putAttempt a).Sound where
  toKeyed := h.toKeyed.putAttempt a
  hasQuiz := by
    intro id b hb
    rw [findAttempt_putAttempt] at hb
    split at hb
    · obtain rfl := Option.some.inj hb
      exact hquiz ▸ h.hasQuiz _ old hold
    · exact h.hasQuiz id b hb
  hasQuestion := by
    intro id row hrow
    obtain ⟨attempt, q, hatt, hq, hqq, hc⟩ := h.hasQuestion id row hrow
    by_cases hid : row.attemptId = a.id
    · refine ⟨a, q, by rw [findAttempt_putAttempt, if_pos hid], hq, ?_, hc⟩
      rw [hid, hold] at hatt
      rw [hqq, hquiz, Option.some.inj hatt]
    · exact ⟨attempt, q, by rw [findAttempt_putAttempt, if_neg hid, hatt], hq, hqq, hc⟩
  unique := h.unique

/-- Adding an attempt at a quiz there is. -/
theorem putAttempt_new (h : s.Sound) {a : Attempt} (hnew : s.findAttempt a.id = none)
    (hquiz : ∃ quiz, s.findQuiz a.quizId = some quiz) : (s.putAttempt a).Sound where
  toKeyed := h.toKeyed.putAttempt a
  hasQuiz := by
    intro id b hb
    rw [findAttempt_putAttempt] at hb
    split at hb
    · obtain rfl := Option.some.inj hb
      exact hquiz
    · exact h.hasQuiz id b hb
  hasQuestion := by
    intro id row hrow
    obtain ⟨attempt, q, hatt, hq, hqq, hc⟩ := h.hasQuestion id row hrow
    have hid : row.attemptId ≠ a.id := by
      intro hid
      rw [hid, hnew] at hatt
      cases hatt
    exact ⟨attempt, q, by rw [findAttempt_putAttempt, if_neg hid, hatt], hq, hqq, hc⟩
  unique := h.unique

/-- Writing an answer that takes the place of the one to its question, if there is one. -/
theorem putAnswer (h : s.Sound) {row : Answer}
    (hrow : ∃ attempt question, s.findAttempt row.attemptId = some attempt ∧
      s.findQuestion row.questionId = some question ∧ question.quizId = attempt.quizId ∧
      row.payload.check question = .ok ())
    (hplace : ∀ b, s.findAnswer b.id = some b → b.attemptId = row.attemptId →
      b.questionId = row.questionId → b.id = row.id) : (s.putAnswer row).Sound where
  toKeyed := h.toKeyed.putAnswer row
  hasQuiz := h.hasQuiz
  hasQuestion := by
    intro id b hb
    rw [findAnswer_putAnswer] at hb
    split at hb
    · obtain rfl := Option.some.inj hb
      exact hrow
    · exact h.hasQuestion id b hb
  unique := (h.placed.putAnswer hplace).unique

/-- Writing over an answer, with the same content. -/
theorem putAnswer_over (h : s.Sound) {row old : Answer} (hold : s.findAnswer row.id = some old)
    (hatt : row.attemptId = old.attemptId) (hq : row.questionId = old.questionId)
    (hp : row.payload = old.payload) : (s.putAnswer row).Sound := by
  have hid := h.id_of_findAnswer hold
  refine h.putAnswer (by rw [hatt, hq, hp]; exact h.hasQuestion _ old hold) ?_
  intro b hb hbatt hbq
  rw [h.unique b old hb (by rw [hid, hold]) (hbatt.trans hatt) (hbq.trans hq), hid]

end Sound

/-- What stands after an answer was handed in is the earlier answer to the question with the
new content, or the new answer. -/
theorem Keyed.upsertedAnswer_cases (h : s.Keyed) (given : Answer) :
    (∃ stored, s.findAnswer stored.id = some stored ∧ stored.attemptId = given.attemptId ∧
      stored.questionId = given.questionId ∧ s.upsertedAnswer given = stored.withContentOf given) ∨
    (s.findByQuestion given.attemptId given.questionId = none ∧ s.upsertedAnswer given = given) := by
  unfold upsertedAnswer
  split
  · rename_i stored hf
    obtain ⟨hs, hatt, hq⟩ := h.of_findByQuestion hf
    exact Or.inl ⟨stored, hs, hatt, hq, rfl⟩
  · rename_i hf
    exact Or.inr ⟨hf, rfl⟩

/-- What is handed in over a stored answer stands in its place. -/
theorem Keyed.place_upsertedAnswer (h : s.Keyed) {given old : Answer}
    (hnew : s.findAnswer given.id = none) (hold : s.findAnswer (s.upsertedAnswer given).id = some old) :
    (s.upsertedAnswer given).attemptId = old.attemptId ∧
      (s.upsertedAnswer given).questionId = old.questionId ∧
      (s.upsertedAnswer given).createdAt = old.createdAt := by
  rcases h.upsertedAnswer_cases given with ⟨stored, hs, _, _, he⟩ | ⟨_, he⟩
  · rw [he] at hold ⊢
    obtain rfl := Option.some.inj (hs.symm.trans hold)
    exact ⟨rfl, rfl, rfl⟩
  · rw [he, hnew] at hold
    cases hold

/-- What is handed in takes the place of the answer to its question. -/
theorem Placed.id_upsertedAnswer (h : s.Placed) (given : Answer) {b : Answer}
    (hb : s.findAnswer b.id = some b) (hatt : b.attemptId = (s.upsertedAnswer given).attemptId)
    (hq : b.questionId = (s.upsertedAnswer given).questionId) : b.id = (s.upsertedAnswer given).id := by
  rcases h.upsertedAnswer_cases given with ⟨stored, hs, _, _, he⟩ | ⟨hnone, he⟩
  · rw [he] at hatt hq ⊢
    rw [h.unique b stored hb hs hatt hq]
    rfl
  · rw [he] at hatt hq
    exact absurd hq (h.ne_of_findByQuestion_eq_none hnone hb hatt)

/-- Handing in an answer. -/
theorem Sound.putAnswer_upserted (h : s.Sound) {given : Answer}
    (hgiven : ∃ attempt question, s.findAttempt given.attemptId = some attempt ∧
      s.findQuestion given.questionId = some question ∧ question.quizId = attempt.quizId ∧
      given.payload.check question = .ok ()) :
    (s.putAnswer (s.upsertedAnswer given)).Sound := by
  refine h.putAnswer ?_ fun b => h.placed.id_upsertedAnswer given
  rw [attemptId_upsertedAnswer, questionId_upsertedAnswer, payload_upsertedAnswer]
  exact hgiven

/-! ## Every write -/

theorem Writes.keyed {t : Store} {w : Write} (hw : s.Writes w t) (h : s.Keyed) : t.Keyed := by
  cases hw with
  | start _ _ _ => exact h.putAttempt _
  | handIn _ _ => exact h.putAnswer _
  | judge _ _ _ _ _ _ _ => exact h.putAnswer _
  | submit _ _ _ _ _ => exact h.putAttempt _
  | abandon _ => exact h.putAttempt _
  | grade _ _ _ _ => exact (h.putAnswer _).putAttempt _
  | aside => exact ⟨h.quizzes, h.questions, h.attempts, h.answers⟩

theorem WritesOnly.keyed {p : Write → Prop} {t : Store} (hw : WritesOnly p s t) (h : s.Keyed) :
    t.Keyed :=
  hw.keeps (fun _ hstep ih => hstep.keyed ih) h

/-- Every write keeps the rows fitting together. -/
theorem Writes.sound {t : Store} {w : Write} (hw : s.Writes w t) (h : s.Sound) : t.Sound := by
  cases hw with
  | start isOpen _ isFresh =>
    exact h.putAttempt_new isFresh.1 ⟨_, (openQuiz_eq_ok_iff.1 isOpen).1⟩
  | handIn _ isRecordable =>
    obtain ⟨attempt, ha, _, _, _, _, hq, hqq, _, hc⟩ := recordable_eq_ok_iff.1 isRecordable
    exact h.putAnswer_upserted ⟨attempt, _, ha, hq, hqq, hc⟩
  | judge isStored _ _ _ _ _ _ =>
    exact h.putAnswer_over isStored rfl rfl rfl
  | submit isOpen _ _ _ isNext =>
    obtain ⟨ha, -, -⟩ := openAttempt_eq_ok_iff.1 isOpen
    obtain ⟨-, rfl⟩ := Attempt.submitted_eq_ok_iff.1 isNext
    obtain rfl := h.id_of_findAttempt ha
    exact h.putAttempt_over ha rfl
  | abandon isAbandonable =>
    obtain ⟨attempt, _, ha, _, _, _, rfl⟩ := abandonable_eq_ok_iff.1 isAbandonable
    obtain rfl := h.id_of_findAttempt ha
    exact h.putAttempt_over ha rfl
  | @grade ctx _ _ checked _ _ _ isChecked ofAttempt _ isNext =>
    obtain ⟨-, hans, -⟩ := checkGrade_eq_ok_iff.1 isChecked
    obtain ⟨_, -, -, rfl⟩ := Attempt.regraded_eq_ok_iff.1 isNext
    obtain rfl := h.id_of_findAnswer hans
    have hrow : (s.putAnswer (checked.row ctx)).Sound := h.putAnswer_over hans rfl rfl rfl
    rw [← h.id_of_findAttempt ofAttempt] at ofAttempt
    exact hrow.putAttempt_over ofAttempt rfl
  | aside =>
    exact ⟨⟨h.quizzes, h.questions, h.attempts, h.answers⟩, h.hasQuiz, h.hasQuestion, h.unique⟩

theorem WritesOnly.sound {p : Write → Prop} {t : Store} (hw : WritesOnly p s t) (h : s.Sound) :
    t.Sound :=
  hw.keeps (fun _ hstep ih => hstep.sound ih) h

/-- What each permitted write to a sound store keeps, all of them keep. -/
theorem WritesOnly.keeps_of_sound {p : Write → Prop} {P : Store → Prop} {t : Store}
    (hw : WritesOnly p s t) (h : s.Sound)
    (hP : ∀ {a b : Store} {w : Write}, p w → a.Sound → a.Writes w b → P a → P b) (hs : P s) : P t := by
  have hboth : t.Sound ∧ P t :=
    hw.keeps (P := fun s => s.Sound ∧ P s)
      (fun hp hstep ih => ⟨hstep.sound ih.1, hP hp ih.1 hstep ih.2⟩) ⟨h, hs⟩
  exact hboth.2

end QuizEngine.Store
