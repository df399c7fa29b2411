import QuizEngine.Proofs.Effects

/-!
# What a write leaves alone

A write to one attempt leaves the rows of every other attempt and of its answers as they are.
It removes no answer and moves none, and it leaves contents alone unless an answer is handed
in. An attempt that is closed stays so. All this is `Store.ChangesOnly`, which names the
attempts that may change and the places where something may be handed in. It is shown once for
every row that is written (`ChangesOnly.putAttempt`, `ChangesOnly.putAnswer`) and then for
every write (`Writes.changesOnly`).

None of it needs that the question of an answer is still where it was: every row stands under
its own identifier and a question of an attempt has one answer, and that is enough
(`Store.Placed`).
-/

namespace QuizEngine

/-! ## Columns of an answer -/

/-- The columns of an answer that stay. -/
def Answer.place (row : Answer) : Uuid × Uuid × Int × Instant :=
  (row.id, row.attemptId, row.questionId, row.createdAt)

theorem Answer.place_eq_iff {a b : Answer} : a.place = b.place ↔
    a.id = b.id ∧ a.attemptId = b.attemptId ∧ a.questionId = b.questionId ∧
      a.createdAt = b.createdAt := by
  simp [place]

/-- The columns that say what was handed in. -/
def Answer.content (row : Answer) : Payload × Instant × Option Int :=
  (row.payload, row.answeredAt, row.timeSpentSeconds)

namespace Store

variable {s t u : Store}

/-! ## Rows that stay -/

/-- The attempt and its answers are in both stores the same. -/
structure SameAttempt (s t : Store) (id : Uuid) : Prop where
  findAttempt_eq : t.findAttempt id = s.findAttempt id
  listAnswers_eq : t.listAnswers id = s.listAnswers id

theorem SameAttempt.refl (s : Store) (id : Uuid) : s.SameAttempt s id := ⟨rfl, rfl⟩

theorem SameAttempt.trans {id : Uuid} (h : s.SameAttempt t id) (h' : t.SameAttempt u id) :
    s.SameAttempt u id :=
  ⟨h'.findAttempt_eq.trans h.findAttempt_eq, h'.listAnswers_eq.trans h.listAnswers_eq⟩

theorem sameAttempt_putAttempt {a : Attempt} {id : Uuid} (hne : a.id ≠ id) :
    s.SameAttempt (s.putAttempt a) id :=
  ⟨(findAttempt_putAttempt s a id).trans (if_neg hne.symm), rfl⟩

/-- The answer is still there, to the same question of the same attempt. -/
def KeepsAnswer (t : Store) (a : Answer) : Prop :=
  ∃ b, t.findAnswer a.id = some b ∧ b.attemptId = a.attemptId ∧ b.questionId = a.questionId ∧
    b.createdAt = a.createdAt

/-! ## Limited changes -/

variable {touched : Uuid → Prop} {handedIn : Uuid → Int → Prop}

/-- From one store to the other only the touched attempts and their answers change. Answers
stay where they are, contents are new only where something was handed in, and an attempt that
is closed stays so. -/
structure ChangesOnly (touched : Uuid → Prop) (handedIn : Uuid → Int → Prop) (s t : Store) :
    Prop where
  placed : t.Placed
  sameAttempt : ∀ id, ¬touched id → s.SameAttempt t id
  closed : ∀ id attempt, s.findAttempt id = some attempt → attempt.status ≠ .inProgress →
    ∃ later, t.findAttempt id = some later ∧ later.status ≠ .inProgress
  kept : ∀ id row, s.findAnswer id = some row → ∃ later, t.findAnswer id = some later ∧
    later.place = row.place ∧ (later.content = row.content ∨ handedIn row.attemptId row.questionId)
  added : ∀ id later, s.findAnswer id = none → t.findAnswer id = some later →
    handedIn later.attemptId later.questionId

namespace ChangesOnly

/-- The rows of attempts and answers are the same. -/
theorem of_eq (h : t.Placed) (hattempts : t.attempts = s.attempts) (hanswers : t.answers = s.answers) :
    ChangesOnly touched handedIn s t where
  placed := h
  sameAttempt id _ := ⟨by rw [findAttempt, hattempts, findAttempt], by
    rw [listAnswers, hanswers, listAnswers]⟩
  closed id attempt ha hst := ⟨attempt, by rw [findAttempt, hattempts]; exact ha, hst⟩
  kept id row hrow := ⟨row, by rw [findAnswer, hanswers]; exact hrow, rfl, Or.inl rfl⟩
  added id later hnone hlater := by
    rw [findAnswer, hanswers] at hlater
    cases hnone.symm.trans hlater

theorem refl (h : s.Placed) : ChangesOnly touched handedIn s s := .of_eq h rfl rfl

theorem trans (h : ChangesOnly touched handedIn s t) (h' : ChangesOnly touched handedIn t u) :
    ChangesOnly touched handedIn s u where
  placed := h'.placed
  sameAttempt id hid := (h.sameAttempt id hid).trans (h'.sameAttempt id hid)
  closed id attempt ha hst := by
    obtain ⟨later, hlater, hst'⟩ := h.closed id attempt ha hst
    exact h'.closed id later hlater hst'
  kept id row hrow := by
    obtain ⟨later, hlater, hplace, hcontent⟩ := h.kept id row hrow
    obtain ⟨last, hlast, hplace', hcontent'⟩ := h'.kept id later hlater
    obtain ⟨-, hatt, hq, -⟩ := Answer.place_eq_iff.1 hplace
    refine ⟨last, hlast, hplace'.trans hplace, ?_⟩
    rcases hcontent with hsame | hin
    · exact hcontent'.imp (·.trans hsame) fun hin => hatt ▸ hq ▸ hin
    · exact Or.inr hin
  added id last hnone hlast := by
    cases hmid : t.findAnswer id with
    | none => exact h'.added id last hmid hlast
    | some later =>
      have hin := h.added id later hnone hmid
      obtain ⟨last', hlast', hplace, -⟩ := h'.kept id later hmid
      obtain rfl := Option.some.inj (hlast.symm.trans hlast')
      obtain ⟨-, hatt, hq, -⟩ := Answer.place_eq_iff.1 hplace
      rwa [hatt, hq]

theorem keepsAnswer (h : ChangesOnly touched handedIn s t) {a : Answer} (ha : s.KeepsAnswer a) :
    t.KeepsAnswer a := by
  obtain ⟨row, hrow, hatt, hq, hc⟩ := ha
  obtain ⟨later, hlater, hplace, -⟩ := h.kept _ row hrow
  obtain ⟨-, hatt', hq', hc'⟩ := Answer.place_eq_iff.1 hplace
  exact ⟨later, hlater, hatt'.trans hatt, hq'.trans hq, hc'.trans hc⟩

/-! ## One row written -/

/-- Writing an attempt, which is new or closed. -/
theorem putAttempt (h : s.Placed) {a : Attempt} (hid : touched a.id)
    (hst : s.findAttempt a.id = none ∨ a.status ≠ .inProgress) :
    ChangesOnly touched handedIn s (s.putAttempt a) where
  placed := ⟨h.toKeyed.putAttempt a, h.unique⟩
  sameAttempt id hn := sameAttempt_putAttempt fun heq => hn (heq ▸ hid)
  closed id attempt ha hclosed := by
    rw [findAttempt_putAttempt]
    split
    · rename_i heq
      refine ⟨a, rfl, hst.resolve_left fun hnone => ?_⟩
      rw [heq, hnone] at ha
      cases ha
    · exact ⟨attempt, ha, hclosed⟩
  kept id row hrow := ⟨row, hrow, rfl, Or.inl rfl⟩
  added id later hnone hlater := by cases hnone.symm.trans hlater

/-- Writing an answer, in the place of one with the same content or as it is handed in. -/
theorem putAnswer (h : s.Placed) {row : Answer} (hid : touched row.attemptId)
    (hplace : ∀ b, s.findAnswer b.id = some b → b.attemptId = row.attemptId →
      b.questionId = row.questionId → b.id = row.id)
    (hold : ∀ old, s.findAnswer row.id = some old → row.place = old.place ∧
      (row.content = old.content ∨ handedIn row.attemptId row.questionId))
    (hnew : s.findAnswer row.id = none → handedIn row.attemptId row.questionId) :
    ChangesOnly touched handedIn s (s.putAnswer row) where
  placed := h.putAnswer hplace
  sameAttempt id hn := by
    have hne : row.attemptId ≠ id := fun heq => hn (heq ▸ hid)
    refine ⟨rfl, h.listAnswers_putAnswer_of_ne hne fun old hfound heq => hne ?_⟩
    obtain ⟨-, hatt, -, -⟩ := Answer.place_eq_iff.1 (hold old hfound).1
    rw [hatt, heq]
  closed id attempt ha hclosed := ⟨attempt, ha, hclosed⟩
  kept id old hfound := by
    rw [findAnswer_putAnswer]
    split
    · rename_i heq
      obtain ⟨hplace, hcontent⟩ := hold old (heq ▸ hfound)
      obtain ⟨-, hatt, hq, -⟩ := Answer.place_eq_iff.1 hplace
      exact ⟨row, rfl, hplace, hatt ▸ hq ▸ hcontent⟩
    · exact ⟨old, hfound, rfl, Or.inl rfl⟩
  added id later hnone hlater := by
    rw [findAnswer_putAnswer] at hlater
    split at hlater
    · rename_i heq
      obtain rfl := Option.some.inj hlater
      exact hnew (heq ▸ hnone)
    · cases hnone.symm.trans hlater

/-- Writing a grade onto an answer. -/
theorem putAnswer_withGradeOf (h : s.Placed) {stored : Answer}
    (hs : s.findAnswer stored.id = some stored) (hid : touched stored.attemptId) (graded : Answer) :
    ChangesOnly touched handedIn s (s.putAnswer (stored.withGradeOf graded)) := by
  refine .putAnswer h hid (fun b hb hatt hq => ?_) (fun old hold => ?_) fun hnone => ?_
  · rw [h.unique b stored hb hs hatt hq]
    rfl
  · obtain rfl := Option.some.inj (hs.symm.trans hold)
    exact ⟨rfl, Or.inl rfl⟩
  · cases hs.symm.trans hnone

/-- Handing in an answer. -/
theorem putAnswer_upserted (h : s.Placed) {given : Answer} (hnew : s.findAnswer given.id = none)
    (hid : touched given.attemptId) (hin : handedIn given.attemptId given.questionId) :
    ChangesOnly touched handedIn s (s.putAnswer (s.upsertedAnswer given)) := by
  have hatt := s.attemptId_upsertedAnswer given
  have hq := s.questionId_upsertedAnswer given
  rw [← hatt] at hid
  rw [← hatt, ← hq] at hin
  refine .putAnswer h hid (fun b => h.id_upsertedAnswer given) (fun old hold => ⟨?_, Or.inr hin⟩)
    fun _ => hin
  exact Answer.place_eq_iff.2 ⟨(h.id_of_findAnswer hold).symm, h.place_upsertedAnswer hnew hold⟩

end ChangesOnly

/-! ## Every write -/

/-- A write that is no grade changes what it says of the attempt that it is made to. -/
theorem Writes.changesOnly {w : Write} (hw : s.Writes w t) (h : s.Placed)
    (hid : ∀ id, w.attempt? = some id → touched id)
    (hin : ∀ attemptId questionId, w = .handIn attemptId questionId → handedIn attemptId questionId) :
    ChangesOnly touched handedIn s t := by
  cases hw with
  | start _ _ isFresh => exact .putAttempt h (hid _ rfl) (Or.inl isFresh.1)
  | handIn isFresh _ => exact .putAnswer_upserted h isFresh.2 (hid _ rfl) (hin _ _ rfl)
  | @judge row _ _ question correct now isStored _ _ _ _ _ _ =>
    exact .putAnswer_withGradeOf h isStored (hid _ rfl) (row.withVerdict question correct now)
  | @submit _ _ _ _ _ score isOpen _ _ _ isNext =>
    obtain ⟨ha, -, -⟩ := openAttempt_eq_ok_iff.1 isOpen
    obtain ⟨-, rfl⟩ := Attempt.submitted_eq_ok_iff.1 isNext
    obtain rfl := h.id_of_findAttempt ha
    exact .putAttempt h (hid _ rfl) (Or.inr score.status_ne_inProgress)
  | abandon isAbandonable =>
    obtain ⟨_, _, ha, _, _, _, rfl⟩ := abandonable_eq_ok_iff.1 isAbandonable
    obtain rfl := h.id_of_findAttempt ha
    exact .putAttempt h (hid _ rfl) (Or.inr nofun)
  | @grade ctx _ _ checked attempt _ _ isChecked ofAttempt _ isNext =>
    obtain ⟨-, hans, -⟩ := checkGrade_eq_ok_iff.1 isChecked
    obtain ⟨score, -, -, rfl⟩ := Attempt.regraded_eq_ok_iff.1 isNext
    obtain rfl := h.id_of_findAnswer hans
    have hatt : touched checked.answer.attemptId := h.id_of_findAttempt ofAttempt ▸ hid _ rfl
    have hrow : ChangesOnly touched handedIn s (s.putAnswer (checked.row ctx)) :=
      .putAnswer_withGradeOf h hans hatt (checked.row ctx)
    exact hrow.trans (.putAttempt hrow.placed (hid _ rfl) (Or.inr score.status_ne_inProgress))
  | aside => exact .of_eq ⟨⟨h.quizzes, h.questions, h.attempts, h.answers⟩, h.unique⟩ rfl rfl

theorem WritesOnly.changesOnly {p : Write → Prop} (hw : WritesOnly p s t) (h : s.Placed)
    (hid : ∀ w id, p w → w.attempt? = some id → touched id)
    (hin : ∀ attemptId questionId, p (.handIn attemptId questionId) → handedIn attemptId questionId) :
    ChangesOnly touched handedIn s t :=
  hw.keeps (P := ChangesOnly touched handedIn s)
    (fun {a b w} hp hstep ih => ih.trans (hstep.changesOnly ih.placed (hid w · hp) (by
      rintro attemptId questionId rfl
      exact hin _ _ hp))) (.refl h)

/-- What leaves the rows alone changes nothing here. -/
theorem changesOnly_of_aside (hw : WritesOnly (· = .aside) s t) (h : s.Placed) :
    ChangesOnly touched handedIn s t :=
  hw.changesOnly h (by rintro _ _ rfl ⟨⟩) (by rintro _ _ ⟨⟩)

/-- A write to one attempt leaves every other one with its answers as it is. -/
theorem Writes.sameAttempt {w : Write} {id : Uuid} (hw : s.Writes w t) (h : s.Sound)
    (hne : w.attempt? ≠ some id) : s.SameAttempt t id := by
  have hchanges : ChangesOnly (fun other => w.attempt? = some other) (fun _ _ => True) s t :=
    hw.changesOnly h.placed (fun _ hid => hid) fun _ _ _ => trivial
  exact hchanges.sameAttempt id hne

/-- No write removes an answer or moves it. -/
theorem Writes.keepsAnswer {w : Write} {a : Answer} (hw : s.Writes w t) (h : s.Sound)
    (ha : s.KeepsAnswer a) : t.KeepsAnswer a := by
  have hchanges : ChangesOnly (fun _ => True) (fun _ _ => True) s t :=
    hw.changesOnly h.placed (fun _ _ => trivial) fun _ _ _ => trivial
  exact hchanges.keepsAnswer ha

end Store

end QuizEngine
