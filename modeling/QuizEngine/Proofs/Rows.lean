import QuizEngine.Access

/-!
# Rows and lists of rows

What a write to one row does to what is read afterwards. A row that is put under its
identifier is found there, and every other row stays (`findAttempt_putAttempt`,
`findAnswer_putAnswer`).

Where every row stands under its own identifier (`Store.Keyed`), the lists of questions and
answers hold exactly the rows found (`mem_listQuestions`, `mem_listAnswers`). Writing over an
answer replaces it in the list of its attempt (`listAnswers_putAnswer`), and the lists of
other attempts stay as they are (`listAnswers_putAnswer_of_ne`).
-/

namespace QuizEngine.Store

variable {s : Store}

/-! ## Single rows -/

theorem findAttempt_putAttempt (s : Store) (a : Attempt) (id : Uuid) :
    (s.putAttempt a).findAttempt id = if id = a.id then some a else s.findAttempt id :=
  s.attempts.find?_insert a.id id a

theorem findAnswer_putAnswer (s : Store) (a : Answer) (id : Uuid) :
    (s.putAnswer a).findAnswer id = if id = a.id then some a else s.findAnswer id :=
  s.answers.find?_insert a.id id a

@[simp]
theorem findAttempt_putAttempt_self (s : Store) (a : Attempt) :
    (s.putAttempt a).findAttempt a.id = some a := by
  rw [findAttempt_putAttempt, if_pos rfl]

@[simp]
theorem findAnswer_putAnswer_self (s : Store) (a : Answer) :
    (s.putAnswer a).findAnswer a.id = some a := by
  rw [findAnswer_putAnswer, if_pos rfl]

@[simp]
theorem findAttempt_putAnswer (s : Store) (a : Answer) (id : Uuid) :
    (s.putAnswer a).findAttempt id = s.findAttempt id := rfl

@[simp]
theorem findAnswer_putAttempt (s : Store) (a : Attempt) (id : Uuid) :
    (s.putAttempt a).findAnswer id = s.findAnswer id := rfl

@[simp]
theorem listAnswers_putAttempt (s : Store) (a : Attempt) (id : Uuid) :
    (s.putAttempt a).listAnswers id = s.listAnswers id := rfl

theorem attemptId_upsertedAnswer (s : Store) (given : Answer) :
    (s.upsertedAnswer given).attemptId = given.attemptId := by
  unfold upsertedAnswer
  split
  · rename_i stored hf
    have := List.find?_some hf
    simp only [Bool.and_eq_true, beq_iff_eq] at this
    exact this.1
  · rfl

theorem questionId_upsertedAnswer (s : Store) (given : Answer) :
    (s.upsertedAnswer given).questionId = given.questionId := by
  unfold upsertedAnswer
  split
  · rename_i stored hf
    have := List.find?_some hf
    simp only [Bool.and_eq_true, beq_iff_eq] at this
    exact this.2
  · rfl

theorem payload_upsertedAnswer (s : Store) (given : Answer) :
    (s.upsertedAnswer given).payload = given.payload := by
  unfold upsertedAnswer
  split <;> rfl

/-! ## Changed rows -/

/-- Where questions are changed but for their place in a quiz, the list of them is. -/
theorem listQuestions_eq_map {t : Store} {f : Question → Question}
    (ht : t.questions = s.questions.map f)
    (hf : ∀ q, (f q).id = q.id ∧ (f q).quizId = q.quizId ∧ (f q).orderIndex = q.orderIndex)
    (quizId : Int) : t.listQuestions quizId = (s.listQuestions quizId).map f := by
  have hrows : t.questions.values.filter (·.quizId == quizId) =
      (s.questions.values.filter (·.quizId == quizId)).map f := by
    rw [ht, Table.values_map, List.filter_map]
    simp only [Function.comp_def, hf]
  rw [listQuestions, hrows, listQuestions, List.map_mergeSort]
  simp [hf]

/-- Where answers are changed but for their place in an attempt, the list of them is. -/
theorem listAnswers_eq_map {t : Store} {f : Answer → Answer} (ht : t.answers = s.answers.map f)
    (hf : ∀ a, (f a).attemptId = a.attemptId ∧ (f a).questionId = a.questionId ∧
      (f a).createdAt = a.createdAt)
    (attemptId : Uuid) : t.listAnswers attemptId = (s.listAnswers attemptId).map f := by
  have hrows : t.answers.values.filter (·.attemptId == attemptId) =
      (s.answers.values.filter (·.attemptId == attemptId)).map f := by
    rw [ht, Table.values_map, List.filter_map]
    simp only [Function.comp_def, hf]
  rw [listAnswers, hrows, listAnswers, List.map_mergeSort]
  simp [hf]

/-! ## Catalogs -/

/-- Two stores have the same quizzes, questions and owners. -/
structure SameCatalog (s t : Store) : Prop where
  quizzes : t.quizzes = s.quizzes
  questions : t.questions = s.questions
  owners : t.owners = s.owners

namespace SameCatalog

variable {t u : Store}

theorem refl (s : Store) : s.SameCatalog s := ⟨rfl, rfl, rfl⟩

theorem trans (h : s.SameCatalog t) (h' : t.SameCatalog u) : s.SameCatalog u :=
  ⟨h'.quizzes.trans h.quizzes, h'.questions.trans h.questions, h'.owners.trans h.owners⟩

theorem findQuiz_eq (h : s.SameCatalog t) (id : Int) : t.findQuiz id = s.findQuiz id := by
  simp only [findQuiz, h.quizzes]

theorem findQuestion_eq (h : s.SameCatalog t) (id : Int) : t.findQuestion id = s.findQuestion id := by
  simp only [findQuestion, h.questions]

theorem listQuestions_eq (h : s.SameCatalog t) (id : Int) : t.listQuestions id = s.listQuestions id := by
  simp only [listQuestions, h.questions]

theorem ownsQuiz_eq (h : s.SameCatalog t) (id : Int) (caller : Caller) :
    t.ownsQuiz id caller = s.ownsQuiz id caller := by
  simp only [ownsQuiz, owner?, h.owners]

end SameCatalog

/-- Two stores have the same catalog, the same attempts and the same answers. -/
structure SameRows (s t : Store) : Prop extends SameCatalog s t where
  attempts : t.attempts = s.attempts
  answers : t.answers = s.answers

namespace SameRows

variable {t u : Store}

theorem refl (s : Store) : s.SameRows s := ⟨.refl s, rfl, rfl⟩

theorem trans (h : s.SameRows t) (h' : t.SameRows u) : s.SameRows u :=
  ⟨h.toSameCatalog.trans h'.toSameCatalog, h'.attempts.trans h.attempts,
    h'.answers.trans h.answers⟩

theorem findAttempt_eq (h : s.SameRows t) (id : Uuid) : t.findAttempt id = s.findAttempt id := by
  simp only [findAttempt, h.attempts]

theorem findAnswer_eq (h : s.SameRows t) (id : Uuid) : t.findAnswer id = s.findAnswer id := by
  simp only [findAnswer, h.answers]

theorem listAnswers_eq (h : s.SameRows t) (id : Uuid) : t.listAnswers id = s.listAnswers id := by
  simp only [listAnswers, h.answers]

end SameRows

/-! ## Rows under their identifiers -/

/-- Every row stands under its own identifier. -/
structure Keyed (s : Store) : Prop where
  quizzes : s.quizzes.KeyedBy (·.id)
  questions : s.questions.KeyedBy (·.id)
  attempts : s.attempts.KeyedBy (·.id)
  answers : s.answers.KeyedBy (·.id)

namespace Keyed

theorem putAttempt (h : s.Keyed) (a : Attempt) : (s.putAttempt a).Keyed :=
  { h with attempts := h.attempts.insert rfl }

theorem putAnswer (h : s.Keyed) (a : Answer) : (s.putAnswer a).Keyed :=
  { h with answers := h.answers.insert rfl }

theorem id_of_findAttempt (h : s.Keyed) {id : Uuid} {a : Attempt} (ha : s.findAttempt id = some a) :
    a.id = id := h.attempts id a ha

theorem id_of_findAnswer (h : s.Keyed) {id : Uuid} {a : Answer} (ha : s.findAnswer id = some a) :
    a.id = id := h.answers id a ha

theorem id_of_findQuestion (h : s.Keyed) {id : Int} {q : Question} (hq : s.findQuestion id = some q) :
    q.id = id := h.questions id q hq

theorem mem_attempts_iff (h : s.Keyed) (a : Attempt) :
    a ∈ s.attempts.values ↔ s.findAttempt a.id = some a := h.attempts.mem_values_iff a

theorem mem_answers_iff (h : s.Keyed) (a : Answer) :
    a ∈ s.answers.values ↔ s.findAnswer a.id = some a := h.answers.mem_values_iff a

theorem mem_questions_iff (h : s.Keyed) (q : Question) :
    q ∈ s.questions.values ↔ s.findQuestion q.id = some q := h.questions.mem_values_iff q

/-! ## Questions -/

theorem mem_listQuestions (h : s.Keyed) (quizId : Int) (q : Question) :
    q ∈ s.listQuestions quizId ↔ s.findQuestion q.id = some q ∧ q.quizId = quizId := by
  rw [listQuestions, List.mem_mergeSort, List.mem_filter, h.questions.mem_values_iff, beq_iff_eq]
  rfl

theorem nodup_listQuestions (h : s.Keyed) (quizId : Int) :
    ((s.listQuestions quizId).map (·.id)).Nodup :=
  ((List.mergeSort_perm _ _).map _).nodup_iff.2
    (h.questions.nodup_map_key.sublist (List.filter_sublist.map _))

/-- The question of an identifier among those of a quiz. -/
theorem questionOf?_listQuestions (h : s.Keyed) (quizId id : Int) (q : Question) :
    questionOf? (s.listQuestions quizId) id = some q ↔
      s.findQuestion id = some q ∧ q.quizId = quizId := by
  unfold questionOf?
  constructor
  · intro hf
    have hid : q.id = id := by simpa using List.find?_some hf
    have hmem : q ∈ s.listQuestions quizId := List.mem_reverse.1 (List.mem_of_find?_eq_some hf)
    rw [h.mem_listQuestions, hid] at hmem
    exact hmem
  · rintro ⟨hq, hquiz⟩
    have hid := h.id_of_findQuestion hq
    cases hf : (s.listQuestions quizId).reverse.find? (·.id == id) with
    | none =>
      have hmem : q ∈ (s.listQuestions quizId).reverse := by
        rw [List.mem_reverse, h.mem_listQuestions, hid]
        exact ⟨hq, hquiz⟩
      exact absurd (List.find?_eq_none.1 hf q hmem) (by simp [hid])
    | some r =>
      have hr : r.id = id := by simpa using List.find?_some hf
      have hmem := List.mem_reverse.1 (List.mem_of_find?_eq_some hf)
      rw [h.mem_listQuestions, hr, hq] at hmem
      exact hmem.1.symm

/-! ## Answers -/

theorem mem_listAnswers (h : s.Keyed) (attemptId : Uuid) (a : Answer) :
    a ∈ s.listAnswers attemptId ↔ s.findAnswer a.id = some a ∧ a.attemptId = attemptId := by
  rw [listAnswers, List.mem_mergeSort, List.mem_filter, h.mem_answers_iff, beq_iff_eq]

theorem nodup_listAnswers (h : s.Keyed) (attemptId : Uuid) :
    ((s.listAnswers attemptId).map (·.id)).Nodup := by
  have hsub : ((s.answers.values.filter (·.attemptId == attemptId)).map (·.id)).Nodup :=
    h.answers.nodup_map_key.sublist (List.filter_sublist.map _)
  exact ((List.mergeSort_perm _ _).map _).nodup_iff.2 hsub

/-- Writing over an answer replaces it in every list. -/
theorem listAnswers_putAnswer (h : s.Keyed) {row old : Answer} (hold : s.findAnswer row.id = some old)
    (ha : row.attemptId = old.attemptId) (hq : row.questionId = old.questionId)
    (hc : row.createdAt = old.createdAt) (attemptId : Uuid) :
    (s.putAnswer row).listAnswers attemptId =
      (s.listAnswers attemptId).map fun a => if a.id = row.id then row else a := by
  have hvalues : (s.putAnswer row).answers.values =
      s.answers.values.map fun a => if a.id = row.id then row else a :=
    h.answers.values_insert_of_some hold row
  have hrow : ∀ a ∈ s.answers.values, a.id = row.id → a = old := by
    intro a hmem hid
    rw [h.mem_answers_iff, hid, hold] at hmem
    exact (Option.some.inj hmem).symm
  have hfilter : (s.answers.values.map fun a => if a.id = row.id then row else a).filter
        (·.attemptId == attemptId) =
      (s.answers.values.filter (·.attemptId == attemptId)).map fun a =>
        if a.id = row.id then row else a := by
    rw [List.filter_map]
    congr 1
    refine List.filter_congr fun a hmem => ?_
    simp only [Function.comp_apply]
    split
    · rename_i hid
      rw [ha, hrow a hmem hid]
    · rfl
  rw [listAnswers, hvalues, hfilter, listAnswers, List.map_mergeSort]
  -- the columns that the order looks at are those of the old row
  have hkey : ∀ a ∈ s.answers.values.filter (·.attemptId == attemptId),
      (if a.id = row.id then row else a).questionId = a.questionId ∧
        (if a.id = row.id then row else a).createdAt = a.createdAt := by
    intro a hmem
    split
    · rename_i hid
      rw [hrow a (List.mem_filter.1 hmem).1 hid]
      exact ⟨hq, hc⟩
    · exact ⟨rfl, rfl⟩
  intro a ha' b hb'
  rw [(hkey a ha').1, (hkey a ha').2, (hkey b hb').1, (hkey b hb').2]

/-- A row that fails a test, in the place of one that failed it or as a new one, leaves the
rows that pass it as they are. -/
theorem filter_putAnswer (h : s.Keyed) {row : Answer} {p : Answer → Bool} (hrow : p row = false)
    (hold : ∀ old, s.findAnswer row.id = some old → p old = false) :
    (s.putAnswer row).answers.values.filter p = s.answers.values.filter p := by
  cases hf : s.findAnswer row.id with
  | none =>
    have hvalues : (s.putAnswer row).answers.values = s.answers.values ++ [row] :=
      Table.values_insert_of_none hf row
    simp [hvalues, hrow]
  | some old =>
    have hvalues : (s.putAnswer row).answers.values =
        s.answers.values.map fun a => if a.id = row.id then row else a :=
      h.answers.values_insert_of_some hf row
    have hfails : ∀ a ∈ s.answers.values, a.id = row.id → p a = false := by
      intro a hmem hid
      rw [h.mem_answers_iff, hid] at hmem
      exact hold a hmem
    have hfilter : s.answers.values.filter (p ∘ fun a => if a.id = row.id then row else a) =
        s.answers.values.filter p := by
      refine List.filter_congr fun a hmem => ?_
      simp only [Function.comp_apply]
      split
      · rename_i hid
        rw [hrow, hfails a hmem hid]
      · rfl
    rw [hvalues, List.filter_map, hfilter]
    refine Eq.trans (List.map_congr_left fun a hmem => if_neg fun hid => ?_) (List.map_id _)
    obtain ⟨hmem, hp⟩ := List.mem_filter.1 hmem
    rw [hfails a hmem hid] at hp
    cases hp

/-- Writing an answer leaves the lists of other attempts as they are. -/
theorem listAnswers_putAnswer_of_ne (h : s.Keyed) {row : Answer} {attemptId : Uuid}
    (hne : row.attemptId ≠ attemptId)
    (hold : ∀ old, s.findAnswer row.id = some old → old.attemptId ≠ attemptId) :
    (s.putAnswer row).listAnswers attemptId = s.listAnswers attemptId := by
  have hfilter : (s.putAnswer row).answers.values.filter (·.attemptId == attemptId) =
      s.answers.values.filter (·.attemptId == attemptId) :=
    h.filter_putAnswer (beq_eq_false_iff_ne.2 hne) fun old hfound =>
      beq_eq_false_iff_ne.2 (hold old hfound)
  rw [listAnswers, hfilter, listAnswers]

/-- A row in the place of one that it agrees with leaves what is made of the rows that pass a
test as it is. -/
theorem map_filter_putAnswer (h : s.Keyed) {row old : Answer} {β : Type} {p : Answer → Bool}
    {f : Answer → β} (hold : s.findAnswer row.id = some old) (hp : p row = p old)
    (hf : f row = f old) :
    ((s.putAnswer row).answers.values.filter p).map f = (s.answers.values.filter p).map f := by
  have hvalues : (s.putAnswer row).answers.values =
      s.answers.values.map fun a => if a.id = row.id then row else a :=
    h.answers.values_insert_of_some hold row
  have hrow : ∀ a ∈ s.answers.values, a.id = row.id → a = old := by
    intro a hmem hid
    rw [h.mem_answers_iff, hid, hold] at hmem
    exact (Option.some.inj hmem).symm
  have hfilter : s.answers.values.filter (p ∘ fun a => if a.id = row.id then row else a) =
      s.answers.values.filter p := by
    refine List.filter_congr fun a hmem => ?_
    simp only [Function.comp_apply]
    split
    · rename_i hid
      rw [hp, hrow a hmem hid]
    · rfl
  rw [hvalues, List.filter_map, hfilter, List.map_map]
  refine List.map_congr_left fun a hmem => ?_
  simp only [Function.comp_apply]
  split
  · rename_i hid
    rw [hf, hrow a (List.mem_filter.1 hmem).1 hid]
  · rfl

end Keyed

end QuizEngine.Store
