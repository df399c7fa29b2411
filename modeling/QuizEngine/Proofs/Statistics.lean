import QuizEngine.Proofs.Run

/-!
# Statistics that are kept

The statistics of a quiz are computed from the answers on its submitted attempts when somebody
asks for a refresh, and kept until the next one. A refresh that does not overflow leaves one row
for each question of the quiz, each computed from the answers counted then (`Store.Reflects`),
and leaves the statistics of other quizzes alone (`refreshStatistics_spec`).

Nothing but a refresh writes statistics: calls put rows of attempts and of answers, and use up
the conflicts that are forced on them (`Store.Puts`, `Engine.puts_perform`).
-/

namespace QuizEngine

namespace Table

variable {κ α : Type} [DecidableEq κ] {t : Table κ α} {key : α → κ}

/-- Rows under new keys, each under its own, come last in their order. -/
theorem values_foldl_insert {rows : List α} (hn : (rows.map key).Nodup)
    (hnew : ∀ row ∈ rows, t.find? (key row) = none) :
    (rows.foldl (fun t row => t.insert (key row) row) t).values = t.values ++ rows := by
  induction rows generalizing t with
  | nil => simp
  | cons row rest ih =>
    rw [List.map_cons, List.nodup_cons] at hn
    rw [List.forall_mem_cons] at hnew
    have hrest : ∀ other ∈ rest, (t.insert (key row) row).find? (key other) = none := by
      intro other hmem
      have hne : key other ≠ key row := fun heq => hn.1 (heq ▸ List.mem_map_of_mem hmem)
      exact (find?_insert_of_ne t hne row).trans (hnew.2 other hmem)
    rw [List.foldl_cons, ih hn.2 hrest, values_insert_of_none hnew.1, List.append_assoc]
    rfl

/-- A row under a key that fails the test is left out with it. -/
theorem filterKeys_insert {p : κ → Bool} {k : κ} (hk : p k = false) (a : α) :
    (t.insert k a).filterKeys p = t.filterKeys p := by
  have hput : ∀ es : List (κ × α), (put k a es).filter (fun e => p e.1) = es.filter fun e => p e.1 := by
    intro es
    induction es with
    | nil => simp [put, hk]
    | cons e rest ih =>
      unfold put
      split
      · rename_i he
        rw [List.filter_cons_of_neg (by simp [hk]), List.filter_cons_of_neg (by simp [he, hk])]
      · rw [List.filter_cons, List.filter_cons, ih]
  simp only [filterKeys, insert, hput]

theorem filterKeys_foldl_insert {p : κ → Bool} {place : α → κ} {rows : List α}
    (hrows : ∀ row ∈ rows, p (place row) = false) :
    (rows.foldl (fun t row => t.insert (place row) row) t).filterKeys p = t.filterKeys p := by
  induction rows generalizing t with
  | nil => rfl
  | cons row rest ih =>
    rw [List.forall_mem_cons] at hrows
    rw [List.foldl_cons, ih hrows.2, filterKeys_insert hrows.1]

omit [DecidableEq κ] in
theorem filterKeys_filterKeys (t : Table κ α) (p : κ → Bool) :
    (t.filterKeys p).filterKeys p = t.filterKeys p := by
  simp [filterKeys, List.filter_filter]

namespace KeyedBy

theorem filterKeys (h : t.KeyedBy key) (p : κ → Bool) : (t.filterKeys p).KeyedBy key := by
  intro k a ha
  rw [find?_filterKeys] at ha
  split at ha
  · exact h k a ha
  · cases ha

theorem values_filterKeys (h : t.KeyedBy key) (p : κ → Bool) :
    (t.filterKeys p).values = t.values.filter fun a => p (key a) := by
  rw [values, Table.filterKeys, values, List.filter_map]
  refine congrArg _ (List.filter_congr fun e he => ?_)
  rw [Function.comp_apply, h e.1 e.2 ((find?_eq_some_iff t e.1 e.2).2 he)]

theorem foldl_insert (h : t.KeyedBy key) (rows : List α) :
    (rows.foldl (fun t row => t.insert (key row) row) t).KeyedBy key := by
  induction rows generalizing t with
  | nil => exact h
  | cons row rest ih => exact ih (h.insert rfl)

end KeyedBy

end Table

namespace QuestionStatistics

variable {quizId questionId : Int} {answers : List Answer} {row : QuestionStatistics}

/-- Computed statistics bear the quiz and the question. -/
theorem place_of_compute (h : compute quizId questionId answers = .ok row) :
    row.quizId = quizId ∧ row.questionId = questionId := by
  simp only [compute, bind_eq_ok_iff, pure, Except.pure, Except.ok.injEq] at h
  obtain ⟨_, -, rfl⟩ := h
  exact ⟨rfl, rfl⟩

/-- Computed statistics count the answers and their verdicts. -/
theorem counts_of_compute (h : compute quizId questionId answers = .ok row) :
    row.totalAttempts = answers.length ∧
      row.correctCount = answers.countP (·.isCorrect == some true) ∧
      row.incorrectCount = answers.countP (·.isCorrect == some false) := by
  simp only [compute, bind_eq_ok_iff, pure, Except.pure, Except.ok.injEq] at h
  obtain ⟨_, -, rfl⟩ := h
  exact ⟨rfl, rfl, rfl⟩

/-- Answers without a verdict do not have the statistics of answers of which one has. -/
theorem compute_ne_of_verdict (h : compute quizId questionId answers = .ok row)
    (hnone : ∀ a ∈ answers, a.isCorrect = none) {later : List Answer} {a : Answer} (ha : a ∈ later)
    {correct : Bool} (hverdict : a.isCorrect = some correct) :
    compute quizId questionId later ≠ .ok row := by
  intro h'
  obtain ⟨-, hcorrect, hincorrect⟩ := counts_of_compute h
  obtain ⟨-, hcorrect', hincorrect'⟩ := counts_of_compute h'
  have hzero : ∀ value, answers.countP (·.isCorrect == some value) = 0 :=
    fun value => List.countP_eq_zero.2 fun a ha => by simp [hnone a ha]
  have hpos : 0 < later.countP (·.isCorrect == some correct) :=
    List.countP_pos_iff.2 ⟨a, ha, by simp [hverdict]⟩
  rw [hzero] at hcorrect hincorrect
  cases correct <;> omega

end QuestionStatistics

namespace Store

variable {s t u : Store} {quizId : Int}

/-! ## Refreshing -/

/-- Statistics stand under their quiz and their question. -/
def StatisticsKeyed (s : Store) : Prop :=
  s.statistics.KeyedBy fun row => (row.quizId, row.questionId)

/-- The questions of a quiz, as they came in. -/
def questionsOf (s : Store) (quizId : Int) : List Question :=
  s.questions.values.filter (·.quizId == quizId)

/-- The statistics of the quiz in `t` are those of the answers counted in `s`: a row for each
question of the quiz, in the order of the questions. -/
structure Reflects (t s : Store) (quizId : Int) : Prop where
  ascending : (t.listStatistics quizId).Pairwise fun a b => a.questionId < b.questionId
  covers : ∀ questionId, questionId ∈ (t.listStatistics quizId).map (·.questionId) ↔
    ∃ question, s.findQuestion questionId = some question ∧ question.quizId = quizId
  computed : ∀ row ∈ t.listStatistics quizId,
    QuestionStatistics.compute quizId row.questionId (s.countedAnswers quizId row.questionId) =
      .ok row

theorem Keyed.mem_questionsOf (h : s.Keyed) (quizId : Int) (q : Question) :
    q ∈ s.questionsOf quizId ↔ s.findQuestion q.id = some q ∧ q.quizId = quizId := by
  rw [questionsOf, List.mem_filter, h.mem_questions_iff, beq_iff_eq]

theorem Keyed.nodup_questionsOf (h : s.Keyed) (quizId : Int) :
    ((s.questionsOf quizId).map (·.id)).Nodup :=
  h.questions.nodup_map_key.sublist (List.filter_sublist.map _)

/-- The rows that a refresh computes. -/
def Computes (s : Store) (quizId : Int) (rows : List QuestionStatistics) : Prop :=
  List.Forall₂ (fun q row =>
    QuestionStatistics.compute quizId q.id (s.countedAnswers quizId q.id) = .ok row)
    (s.questionsOf quizId) rows

namespace Computes

variable {rows : List QuestionStatistics}

theorem of_mem (h : s.Computes quizId rows) {row : QuestionStatistics} (hrow : row ∈ rows) :
    ∃ q ∈ s.questionsOf quizId,
      QuestionStatistics.compute quizId q.id (s.countedAnswers quizId q.id) = .ok row := by
  obtain ⟨hlen, hget⟩ := List.forall₂_iff_get.1 h
  obtain ⟨i, hi, rfl⟩ := List.mem_iff_getElem.1 hrow
  have hi' : i < (s.questionsOf quizId).length := hlen ▸ hi
  exact ⟨_, List.getElem_mem hi', hget i hi' hi⟩

theorem exists_of_mem (h : s.Computes quizId rows) {q : Question} (hq : q ∈ s.questionsOf quizId) :
    ∃ row, QuestionStatistics.compute quizId q.id (s.countedAnswers quizId q.id) = .ok row := by
  obtain ⟨hlen, hget⟩ := List.forall₂_iff_get.1 h
  obtain ⟨i, hi, rfl⟩ := List.mem_iff_getElem.1 hq
  exact ⟨_, hget i hi (hlen ▸ hi)⟩

theorem quizId_of_mem (h : s.Computes quizId rows) {row : QuestionStatistics} (hrow : row ∈ rows) :
    row.quizId = quizId := by
  obtain ⟨q, -, hq⟩ := h.of_mem hrow
  exact (QuestionStatistics.place_of_compute hq).1

/-- One row for each question. -/
theorem map_questionId (h : s.Computes quizId rows) :
    rows.map (·.questionId) = (s.questionsOf quizId).map (·.id) := by
  rw [Computes] at h
  generalize s.questionsOf quizId = questions at h
  induction h with
  | nil => rfl
  | cons hq _ ih => rw [List.map_cons, List.map_cons, ih, (QuestionStatistics.place_of_compute hq).2]

end Computes

/-- A refresh writes nothing but statistics. -/
theorem eq_of_refreshStatistics (hok : s.refreshStatistics quizId = .ok t) :
    t = { s with statistics := t.statistics } := by
  simp only [refreshStatistics, bind_eq_ok_iff, pure, Except.pure, Except.ok.injEq] at hok
  obtain ⟨rows, -, rfl⟩ := hok
  rfl

theorem sameRows_of_refreshStatistics (hok : s.refreshStatistics quizId = .ok t) : s.SameRows t := by
  rw [eq_of_refreshStatistics hok]
  exact ⟨⟨rfl, rfl, rfl⟩, rfl, rfl⟩

/-- A refresh puts the rows that it computes in the place of those of its quiz. -/
theorem refreshStatistics_eq_ok (h : s.Keyed) (hk : s.StatisticsKeyed)
    (hok : s.refreshStatistics quizId = .ok t) :
    t.StatisticsKeyed ∧ ∃ rows, s.Computes quizId rows ∧
      t.statistics.values = (s.statistics.values.filter fun row => row.quizId != quizId) ++ rows := by
  simp only [refreshStatistics, bind_eq_ok_iff, pure, Except.pure, Except.ok.injEq] at hok
  obtain ⟨rows, hrows, rfl⟩ := hok
  have hcomputes : s.Computes quizId rows := mapM_eq_ok_iff.1 hrows
  have hfold : rows.foldl (fun t row => t.insert (quizId, row.questionId) row)
      (s.statistics.filterKeys (·.1 != quizId)) =
      rows.foldl (fun t row => t.insert (row.quizId, row.questionId) row)
        (s.statistics.filterKeys (·.1 != quizId)) :=
    List.foldl_ext _ _ _ fun _ row hrow => by rw [hcomputes.quizId_of_mem hrow]
  have hnodup : (rows.map fun row => (row.quizId, row.questionId)).Nodup := by
    have hids : ((rows.map fun row => (row.quizId, row.questionId)).map (·.2)).Nodup := by
      rw [List.map_map]
      exact hcomputes.map_questionId ▸ h.nodup_questionsOf quizId
    exact hids.of_map _
  have hnew : ∀ row ∈ rows,
      (s.statistics.filterKeys (·.1 != quizId)).find? (row.quizId, row.questionId) = none := by
    intro row hrow
    rw [Table.find?_filterKeys, if_neg]
    simp [hcomputes.quizId_of_mem hrow]
  refine ⟨?_, rows, hcomputes, ?_⟩
  · rw [StatisticsKeyed, hfold]
    exact (Table.KeyedBy.filterKeys hk _).foldl_insert rows
  · rw [hfold, Table.values_foldl_insert hnodup hnew, Table.KeyedBy.values_filterKeys hk]

/-- Where the rows of a quiz are replaced, they are what is listed of it. -/
theorem listStatistics_of_replaced {rows : List QuestionStatistics}
    (hrows : ∀ row ∈ rows, row.quizId = quizId)
    (hvalues : t.statistics.values =
      (s.statistics.values.filter fun row => row.quizId != quizId) ++ rows) :
    t.listStatistics quizId = rows.mergeSort fun a b => decide (a.questionId ≤ b.questionId) := by
  have hothers : (s.statistics.values.filter fun row => row.quizId != quizId).filter
      (·.quizId == quizId) = [] := by
    rw [List.filter_filter, List.filter_eq_nil_iff]
    simp
  have hall : rows.filter (·.quizId == quizId) = rows :=
    List.filter_eq_self.2 fun row hrow => by simp [hrows row hrow]
  rw [listStatistics, hvalues, List.filter_append, hothers, hall, List.nil_append]

/-- Where the rows of a quiz are replaced, every other quiz has what it had. -/
theorem listStatistics_of_replaced_ne {rows : List QuestionStatistics}
    (hrows : ∀ row ∈ rows, row.quizId = quizId)
    (hvalues : t.statistics.values =
      (s.statistics.values.filter fun row => row.quizId != quizId) ++ rows)
    {other : Int} (hne : other ≠ quizId) : t.listStatistics other = s.listStatistics other := by
  have hnone : rows.filter (·.quizId == other) = [] := by
    rw [List.filter_eq_nil_iff]
    intro row hrow
    simp [hrows row hrow, hne.symm]
  rw [listStatistics, hvalues, List.filter_append, hnone, List.append_nil, List.filter_filter,
    listStatistics]
  congr 1
  refine List.filter_congr fun row _ => ?_
  by_cases heq : row.quizId = other
  · simp [heq, hne]
  · simp [heq]

/-- Rows on different questions ascend when they are sorted. -/
theorem pairwise_mergeSort_questionId {rows : List QuestionStatistics}
    (hn : (rows.map (·.questionId)).Nodup) :
    (rows.mergeSort fun a b => decide (a.questionId ≤ b.questionId)).Pairwise
      fun a b => a.questionId < b.questionId := by
  have hsorted : (rows.mergeSort fun a b => decide (a.questionId ≤ b.questionId)).Pairwise
      fun a b => decide (a.questionId ≤ b.questionId) = true := by
    refine List.pairwise_mergeSort (fun a b c hab hbc => ?_) (fun a b => ?_) rows
    · exact decide_eq_true (Int.le_trans (of_decide_eq_true hab) (of_decide_eq_true hbc))
    · simpa using Int.le_total a.questionId b.questionId
  have hnodup : ((rows.mergeSort fun a b => decide (a.questionId ≤ b.questionId)).map
      (·.questionId)).Nodup :=
    ((List.mergeSort_perm rows _).map _).nodup_iff.2 hn
  refine (hsorted.and (List.pairwise_map.1 hnodup)).imp ?_
  rintro a b ⟨hle, hne⟩
  exact Int.lt_iff_le_and_ne.2 ⟨of_decide_eq_true hle, hne⟩

/-- The rows that are computed, sorted, are statistics of their quiz. -/
theorem Computes.reflects_of_listed {rows : List QuestionStatistics} (hcomputes : s.Computes quizId rows)
    (h : s.Keyed)
    (hlist : t.listStatistics quizId =
      rows.mergeSort fun a b => decide (a.questionId ≤ b.questionId)) :
    t.Reflects s quizId := by
  refine ⟨?_, fun questionId => ?_, fun row hrow => ?_⟩
  · rw [hlist]
    exact pairwise_mergeSort_questionId (hcomputes.map_questionId ▸ h.nodup_questionsOf quizId)
  · rw [hlist, ((List.mergeSort_perm rows _).map _).mem_iff, hcomputes.map_questionId, List.mem_map]
    constructor
    · rintro ⟨q, hq, rfl⟩
      exact ⟨q, (h.mem_questionsOf quizId q).1 hq⟩
    · rintro ⟨q, hq, hquiz⟩
      obtain rfl := h.id_of_findQuestion hq
      exact ⟨q, (h.mem_questionsOf quizId q).2 ⟨hq, hquiz⟩, rfl⟩
  · rw [hlist, List.mem_mergeSort] at hrow
    obtain ⟨q, -, hq⟩ := hcomputes.of_mem hrow
    rwa [(QuestionStatistics.place_of_compute hq).2]

/-- A refresh leaves one computed row for each question of its quiz and the statistics of
every other quiz. -/
theorem refreshStatistics_spec (h : s.Keyed) (hk : s.StatisticsKeyed)
    (hok : s.refreshStatistics quizId = .ok t) :
    t.StatisticsKeyed ∧ t.Reflects s quizId ∧
      ∀ other, other ≠ quizId → t.listStatistics other = s.listStatistics other := by
  obtain ⟨hkeyed, rows, hcomputes, hvalues⟩ := refreshStatistics_eq_ok h hk hok
  have hrows : ∀ row ∈ rows, row.quizId = quizId := fun row hrow => hcomputes.quizId_of_mem hrow
  exact ⟨hkeyed, hcomputes.reflects_of_listed h (listStatistics_of_replaced hrows hvalues),
    fun other hne => listStatistics_of_replaced_ne hrows hvalues hne⟩

/-! ## Calls write no statistics -/

/-- From one store to the other, rows of attempts and answers are put and forced conflicts
are used up. -/
inductive Puts (s : Store) : Store → Prop where
  | refl : Puts s s
  | attempt {t : Store} (before : Puts s t) (row : Attempt) : Puts s (t.putAttempt row)
  | answer {t : Store} (before : Puts s t) (row : Answer) : Puts s (t.putAnswer row)
  | conflict {t : Store} (before : Puts s t) (id : Uuid) (left : Nat) :
      Puts s { t with forcedConflicts := t.forcedConflicts.insert id left }

theorem Puts.trans (h : s.Puts t) (h' : t.Puts u) : s.Puts u := by
  induction h' with
  | refl => exact h
  | attempt _ row ih => exact ih.attempt row
  | answer _ row ih => exact ih.answer row
  | conflict _ id left ih => exact ih.conflict id left

theorem Puts.statistics_eq (h : s.Puts t) : t.statistics = s.statistics := by
  induction h with
  | refl => rfl
  | attempt _ _ ih => exact ih
  | answer _ _ ih => exact ih
  | conflict _ _ _ ih => exact ih

theorem Puts.listStatistics_eq (h : s.Puts t) (quizId : Int) :
    t.listStatistics quizId = s.listStatistics quizId := by
  rw [listStatistics, h.statistics_eq, listStatistics]

theorem puts_checkVersion (s : Store) (attempt : Attempt) : s.Puts (s.checkVersion attempt).2 := by
  unfold checkVersion
  split
  · exact .refl
  · split
    · exact .conflict .refl ..
    · exact .refl

theorem puts_updateAttempt (s : Store) (attempt : Attempt) : s.Puts (s.updateAttempt attempt).2 := by
  have hcheck := s.puts_checkVersion attempt
  unfold updateAttempt
  split <;> rename_i heq <;> rw [heq] at hcheck
  · exact hcheck
  · exact hcheck.attempt _

theorem puts_of_saveGrade {answer row : Answer} (h : s.saveGrade answer = .ok (row, t)) :
    s.Puts t := by
  obtain ⟨-, rfl⟩ := saveGrade_eq_ok h
  exact .answer .refl row

theorem puts_saveGradeWithAttempt (s : Store) (answer : Answer) (attempt : Attempt) :
    s.Puts (s.saveGradeWithAttempt answer attempt).2 := by
  have hcheck := s.puts_checkVersion attempt
  unfold saveGradeWithAttempt
  split
  · exact .refl
  · split <;> rename_i heq <;> rw [heq] at hcheck
    · exact hcheck
    · exact (hcheck.answer _).attempt _

theorem puts_startAttempt (s : Store) (ctx : Context) (quizId : Int) (client : ClientInfo) :
    s.Puts (s.startAttempt ctx quizId client).2 := by
  unfold startAttempt
  dsimp only
  split
  · exact .refl
  · exact .refl
  · unfold insertAttempt
    split
    · exact .refl
    · rename_i heq
      split at heq
      · cases heq
      · obtain rfl := Except.ok.inj heq
        exact .attempt .refl _

theorem puts_gradeAtOnce (s : Store) (quiz : Quiz) (question : Question) (stored : Answer)
    (now : Instant) : s.Puts (s.gradeAtOnce quiz question stored now).2 := by
  unfold gradeAtOnce
  split
  · exact .refl
  · split
    · exact puts_of_saveGrade ‹_›
    · exact .refl

theorem puts_recordAnswer (s : Store) (ctx : Context) (attemptId : Uuid) (questionId : Int)
    (raw : Json) (seconds : Option Int) :
    s.Puts (s.recordAnswer ctx attemptId questionId raw seconds).2 := by
  unfold recordAnswer
  split
  · exact .refl
  · exact (Puts.answer .refl _).trans (puts_gradeAtOnce ..)

theorem puts_regrade (questions : List Question) (now : Instant) : ∀ (rows : List Answer) (s : Store),
    s.Puts (regrade questions now s rows).2
  | [], _ => .refl
  | a :: rest, s => by
    rcases regrade_cons_cases questions now s a rest with ⟨e, he⟩ | ⟨b, t, hj, hrest⟩
    · rw [he]
      exact .refl
    · have hput : s.Puts t := by
        cases hj with
        | keep _ => exact .refl
        | write _ _ _ => exact .answer .refl _
      have hputs := hput.trans (puts_regrade questions now rest t)
      rcases hrest with ⟨e, u, hu, heq⟩ | ⟨judged, u, hu, heq⟩
      · rw [heq]
        rwa [hu] at hputs
      · rw [heq]
        rwa [hu] at hputs

theorem puts_closeAttempt (s : Store) (now : Instant) (attempt : Attempt) (snapshot : Snapshot) :
    s.Puts (s.closeAttempt now attempt snapshot).2 := by
  unfold closeAttempt
  split
  · exact .refl
  · split
    · exact .refl
    · rename_i next _
      have hupdate := s.puts_updateAttempt next
      split <;> rename_i heq <;> rw [heq] at hupdate <;> exact hupdate

theorem puts_submitAttempt (s : Store) (ctx : Context) (attemptId : Uuid) :
    s.Puts (s.submitAttempt ctx attemptId).2 := by
  unfold submitAttempt
  dsimp only
  split
  · exact .refl
  · rename_i attempt snapshot _
    unfold submitLoaded
    split
    · have hregrade := puts_regrade snapshot.questions ctx.now snapshot.answers s
      split <;> rename_i heq <;> rw [heq] at hregrade
      · exact hregrade
      · exact hregrade.trans (puts_closeAttempt _ ctx.now attempt _)
    · exact puts_closeAttempt s ctx.now attempt snapshot

theorem puts_abandonAttempt (s : Store) (ctx : Context) (attemptId : Uuid) :
    s.Puts (s.abandonAttempt ctx attemptId).2 := by
  unfold abandonAttempt
  split
  · exact .refl
  · rename_i next _
    have hupdate := s.puts_updateAttempt next
    split <;> rename_i heq <;> rw [heq] at hupdate <;> exact hupdate

theorem puts_commitGrade (s : Store) (ctx : Context) (answer : Answer) :
    s.Puts (s.commitGrade ctx answer).2 := by
  unfold commitGrade
  dsimp only
  split
  · exact .refl
  · rename_i next _
    have hsave := s.puts_saveGradeWithAttempt answer next
    split <;> rename_i heq <;> rw [heq] at hsave <;> exact hsave

theorem puts_commitRetrying (ctx : Context) (answer : Answer) : ∀ (retries : Nat) (s : Store),
    s.Puts (commitRetrying ctx answer retries s).2
  | 0, s => s.puts_commitGrade ctx answer
  | retries + 1, s => by
    have hcommit := s.puts_commitGrade ctx answer
    unfold commitRetrying
    split
    · rename_i heq
      rw [heq] at hcommit
      exact hcommit.trans (puts_commitRetrying ctx answer retries _)
    · exact hcommit

theorem puts_gradeAnswer (s : Store) (ctx : Context) (answerId : Uuid) (grade : Grade) :
    s.Puts (s.gradeAnswer ctx answerId grade).2 := by
  unfold gradeAnswer
  split
  · exact .refl
  · exact puts_commitRetrying ctx _ maxConflicts s

theorem puts_applyBatch (ctx : Context) : ∀ (grades : List CheckedGrade) (applied : List Answer)
    (s : Store), s.Puts (applyBatch ctx applied grades s).2
  | [], _, _ => .refl
  | c :: rest, applied, s => by
    have happly := puts_commitRetrying ctx (c.row ctx) maxConflicts s
    rw [← applyGrade] at happly
    unfold applyBatch
    split <;> rename_i heq <;> rw [heq] at happly
    · exact happly.trans (puts_applyBatch ctx rest _ _)
    · exact happly
    · exact happly

theorem puts_bulkGrade (s : Store) (ctx : Context) (entries : List GradeEntry) :
    s.Puts (s.bulkGrade ctx entries).2 := by
  unfold bulkGrade
  split
  · exact .refl
  · exact puts_applyBatch ctx _ [] s

end Store

open Store in
/-- No call writes statistics. -/
theorem Engine.puts_perform (e : Engine) (ctx : Context) (asked : Call) :
    e.store.Puts (e.perform ctx asked).2.store := by
  cases asked with
  | start quizId client => exact e.store.puts_startAttempt ctx quizId client
  | record attemptId questionId raw seconds =>
    exact e.store.puts_recordAnswer ctx attemptId questionId raw seconds
  | submit attemptId =>
    have hsubmit := e.store.puts_submitAttempt ctx attemptId
    simp only [perform, submit]
    split <;> rename_i heq <;> rw [heq] at hsubmit <;> exact hsubmit
  | abandon attemptId => exact e.store.puts_abandonAttempt ctx attemptId
  | grade answerId grade => exact e.store.puts_gradeAnswer ctx answerId grade
  | bulkGrade entries => exact e.store.puts_bulkGrade ctx entries
  | result attemptId => exact .refl
  | review attemptId => exact .refl
  | summary attemptId => exact .refl
  | history quizId studentId => exact .refl
  | pending quizId => exact .refl
  | statistics quizId => exact .refl

end QuizEngine
