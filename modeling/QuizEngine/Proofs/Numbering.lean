import QuizEngine.Proofs.Run

/-!
# Numbers of attempts

The attempts of a student at a quiz are stored in the order in which they were started, with
the numbers one, two, three and so on; all but the last are closed, and there are no more
than the quiz allows (`Store.Numbered`). Every write keeps this (`Writes.numbered`) as long
as a number fits into thirty-two bits.

A start looks at the attempt with the highest number only, which is then the last
(`Numbered.latestAttempt_eq`). So it finds the attempt that is in progress, and the new
attempt never meets an obstacle (`Reachable.numbering`).
-/

namespace QuizEngine

namespace Store

variable {s t : Store} {quizId studentId : Int}

/-! ## Attempts of a student at a quiz -/

theorem Keyed.mem_attemptsOf (h : s.Keyed) (a : Attempt) :
    a ∈ s.attemptsOf quizId studentId ↔
      s.findAttempt a.id = some a ∧ a.quizId = quizId ∧ a.studentId = studentId := by
  rw [attemptsOf, List.mem_filter, h.mem_attempts_iff, Bool.and_eq_true, beq_iff_eq, beq_iff_eq]

/-- Writing over an attempt replaces it in its place. -/
theorem Keyed.attemptsOf_putAttempt (h : s.Keyed) {a old : Attempt}
    (hold : s.findAttempt a.id = some old) (hq : a.quizId = old.quizId)
    (hs : a.studentId = old.studentId) (quizId studentId : Int) :
    (s.putAttempt a).attemptsOf quizId studentId =
      (s.attemptsOf quizId studentId).map fun b => if b.id = a.id then a else b := by
  have hvalues : (s.putAttempt a).attempts.values =
      s.attempts.values.map fun b => if b.id = a.id then a else b :=
    h.attempts.values_insert_of_some hold a
  rw [attemptsOf, hvalues, List.filter_map, attemptsOf]
  congr 1
  refine List.filter_congr fun b hb => ?_
  simp only [Function.comp_apply]
  split
  · rename_i hid
    rw [h.mem_attempts_iff, hid, hold] at hb
    rw [hq, hs, Option.some.inj hb]
  · rfl

/-- A new attempt comes last. -/
theorem attemptsOf_putAttempt_new {a : Attempt} (hnew : s.findAttempt a.id = none)
    (hq : a.quizId = quizId) (hs : a.studentId = studentId) :
    (s.putAttempt a).attemptsOf quizId studentId = s.attemptsOf quizId studentId ++ [a] := by
  have hvalues : (s.putAttempt a).attempts.values = s.attempts.values ++ [a] :=
    Table.values_insert_of_none hnew a
  rw [attemptsOf, hvalues, List.filter_append, attemptsOf, List.filter_cons_of_pos (by simp [hq, hs]),
    List.filter_nil]

/-- A new attempt of somebody else or at another quiz changes nothing. -/
theorem attemptsOf_putAttempt_other {a : Attempt} (hnew : s.findAttempt a.id = none)
    (hne : ¬(a.quizId = quizId ∧ a.studentId = studentId)) :
    (s.putAttempt a).attemptsOf quizId studentId = s.attemptsOf quizId studentId := by
  have hvalues : (s.putAttempt a).attempts.values = s.attempts.values ++ [a] :=
    Table.values_insert_of_none hnew a
  rw [attemptsOf, hvalues, List.filter_append, attemptsOf, List.filter_cons_of_neg (by simpa using hne),
    List.filter_nil, List.append_nil]

/-- Among attempts of ascending numbers the latest is the last. -/
theorem foldl_laterAttempt :
    ∀ (rest : List Attempt) (a : Attempt), ((a :: rest).map (·.attemptNumber)).Pairwise (· < ·) →
      some (rest.foldl laterAttempt a) = (a :: rest).getLast?
  | [], _, _ => rfl
  | b :: rest, a, h => by
    rw [List.map_cons, List.pairwise_cons] at h
    have hab : a.attemptNumber < b.attemptNumber := h.1 _ (by simp)
    have hlater : laterAttempt a b = b := if_neg (by omega)
    rw [List.foldl_cons, hlater, foldl_laterAttempt rest b h.2, List.getLast?_cons_cons]

/-! ## Numbers -/

/-- The numbers of so many attempts. -/
def numbersUpTo (n : Nat) : List Int := (List.range n).map fun i : Nat => (i : Int) + 1

theorem numbersUpTo_succ (n : Nat) : numbersUpTo (n + 1) = numbersUpTo n ++ [(n : Int) + 1] := by
  simp [numbersUpTo, List.range_succ]

theorem mem_numbersUpTo {n : Nat} {k : Int} : k ∈ numbersUpTo n ↔ 1 ≤ k ∧ k ≤ n := by
  simp only [numbersUpTo, List.mem_map, List.mem_range]
  constructor
  · rintro ⟨i, hi, rfl⟩
    omega
  · rintro ⟨h1, hn⟩
    exact ⟨(k - 1).toNat, by omega, by omega⟩

theorem pairwise_numbersUpTo (n : Nat) : (numbersUpTo n).Pairwise (· < ·) := by
  rw [numbersUpTo, List.pairwise_map]
  exact List.pairwise_lt_range.imp fun h => by omega

/-- The attempts of a student at a quiz have the numbers from one on, all but the last are
closed, and there are as many as the quiz allows at most. -/
structure Numbered (s : Store) (quizId studentId : Int) : Prop where
  numbers : (s.attemptsOf quizId studentId).map (·.attemptNumber) =
    numbersUpTo (s.countAttempts quizId studentId)
  earlierClosed : ∀ a ∈ (s.attemptsOf quizId studentId).dropLast, a.status ≠ .inProgress
  withinLimit : ∀ quiz max, s.findQuiz quizId = some quiz → quiz.maxAttempts = some max →
    s.countAttempts quizId studentId ≤ max.toNat

namespace Numbered

theorem latestAttempt_eq (h : s.Numbered quizId studentId) :
    s.latestAttempt quizId studentId = (s.attemptsOf quizId studentId).getLast? := by
  have hascending := h.numbers ▸ pairwise_numbersUpTo (s.countAttempts quizId studentId)
  unfold latestAttempt
  split
  · rename_i hnil
    rw [hnil]
    rfl
  · rename_i a rest hcons
    rw [hcons] at hascending ⊢
    exact foldl_laterAttempt rest a hascending

/-- The number of the last attempt is how many there are. -/
theorem number_of_getLast? (h : s.Numbered quizId studentId) {a : Attempt}
    (ha : (s.attemptsOf quizId studentId).getLast? = some a) :
    a.attemptNumber = s.countAttempts quizId studentId := by
  have hlast := congrArg List.getLast? h.numbers
  rw [List.getLast?_map, ha] at hlast
  have hpos : s.countAttempts quizId studentId ≠ 0 := by
    intro hzero
    rw [countAttempts, List.length_eq_zero_iff] at hzero
    simp [hzero] at ha
  obtain ⟨n, hn⟩ := Nat.exists_eq_succ_of_ne_zero hpos
  rw [hn, Nat.succ_eq_add_one, numbersUpTo_succ] at hlast
  simpa [hn] using hlast

/-- An attempt in progress is the last one. -/
theorem getLast?_of_inProgress (h : s.Numbered quizId studentId) {a : Attempt}
    (ha : a ∈ s.attemptsOf quizId studentId) (hp : a.status = .inProgress) :
    (s.attemptsOf quizId studentId).getLast? = some a := by
  have hne : s.attemptsOf quizId studentId ≠ [] := List.ne_nil_of_mem ha
  rw [← List.dropLast_concat_getLast hne, List.mem_append, List.mem_singleton] at ha
  rcases ha with ha | ha
  · exact absurd hp (h.earlierClosed a ha)
  · rw [List.getLast?_eq_some_getLast hne, ← ha]

/-- The number after that of the latest attempt is one more than there are. -/
theorem numberAfter_latest (h : s.Numbered quizId studentId)
    (hcount : s.countAttempts quizId studentId + 1 < twoTo 31) :
    ((s.latestAttempt quizId studentId).map fun a => numberAfter a.attemptNumber).getD 1 =
      (s.countAttempts quizId studentId : Int) + 1 := by
  rw [h.latestAttempt_eq]
  cases hl : (s.attemptsOf quizId studentId).getLast? with
  | none =>
    rw [List.getLast?_eq_none_iff] at hl
    simp [hl, countAttempts]
  | some last =>
    rw [Option.map_some, Option.getD_some, h.number_of_getLast? hl, numberAfter, if_neg (by omega)]

theorem countP_inProgress_le_one (h : s.Numbered quizId studentId) :
    (s.attemptsOf quizId studentId).countP (·.status == .inProgress) ≤ 1 := by
  have hearlier : (s.attemptsOf quizId studentId).dropLast.countP (·.status == .inProgress) = 0 := by
    rw [List.countP_eq_zero]
    intro a ha
    simpa using h.earlierClosed a ha
  by_cases hnil : s.attemptsOf quizId studentId = []
  · simp [hnil]
  · rw [← List.dropLast_concat_getLast hnil, List.countP_append, hearlier, Nat.zero_add]
    exact List.countP_le_length

/-- When the last attempt is closed, all are. -/
theorem all_closed (h : s.Numbered quizId studentId)
    (hlast : ∀ a, (s.attemptsOf quizId studentId).getLast? = some a → a.status ≠ .inProgress) :
    ∀ a ∈ s.attemptsOf quizId studentId, a.status ≠ .inProgress :=
  fun a ha hp => hlast a (h.getLast?_of_inProgress ha hp) hp

end Numbered

/-! ## Writes -/

/-- The same attempts under the same catalog. -/
theorem Numbered.of_same (h : s.Numbered quizId studentId) (hcat : s.SameCatalog t)
    (hsame : t.attemptsOf quizId studentId = s.attemptsOf quizId studentId) :
    t.Numbered quizId studentId := by
  refine ⟨?_, ?_, ?_⟩
  · rw [countAttempts, hsame]
    exact h.numbers
  · rw [hsame]
    exact h.earlierClosed
  · rw [countAttempts, hsame, hcat.findQuiz_eq]
    exact h.withinLimit

/-- Closing or grading an attempt. -/
theorem Keyed.numbered_putAttempt (h : s.Keyed) {a old : Attempt}
    (hn : s.countAttempts quizId studentId < twoTo 31 → s.Numbered quizId studentId)
    (hold : s.findAttempt a.id = some old) (hq : a.quizId = old.quizId)
    (hs : a.studentId = old.studentId) (hnumber : a.attemptNumber = old.attemptNumber)
    (hstatus : a.status ≠ .inProgress)
    (hcount : (s.putAttempt a).countAttempts quizId studentId < twoTo 31) :
    (s.putAttempt a).Numbered quizId studentId := by
  have hof := h.attemptsOf_putAttempt hold hq hs quizId studentId
  have hsame : (s.putAttempt a).countAttempts quizId studentId =
      s.countAttempts quizId studentId := by
    rw [countAttempts, hof, List.length_map, countAttempts]
  have hn := hn (hsame ▸ hcount)
  refine ⟨?_, ?_, ?_⟩
  · rw [hsame, ← hn.numbers, hof, List.map_map]
    refine List.map_congr_left fun b hb => ?_
    simp only [Function.comp_apply]
    split
    · rename_i hid
      obtain ⟨hb, -, -⟩ := (h.mem_attemptsOf b).1 hb
      rw [hid, hold] at hb
      rw [hnumber, Option.some.inj hb]
    · rfl
  · rw [hof, List.map_dropLast.symm]
    intro b hb
    obtain ⟨c, hc, rfl⟩ := List.mem_map.1 hb
    split
    · exact hstatus
    · exact hn.earlierClosed c hc
  · rw [hsame]
    exact hn.withinLimit

/-- Starting an attempt. -/
theorem Numbered.start (hn : s.Numbered quizId studentId) {quiz : Quiz} {number : Int} {a : Attempt}
    (hcount : s.countAttempts quizId studentId + 1 < twoTo 31)
    (hnew : s.findAttempt a.id = none) (hq : a.quizId = quizId) (hs : a.studentId = studentId)
    (hquiz : s.findQuiz quizId = some quiz)
    (hnext : nextAttempt quiz (s.latestAttempt quizId studentId)
      (s.countAttempts quizId studentId) = .ok (.create number))
    (hnumber : a.attemptNumber = number) : (s.putAttempt a).Numbered quizId studentId := by
  obtain ⟨hclosed, hmax, hnum⟩ := nextAttempt_eq_create_iff.1 hnext
  rw [hn.latestAttempt_eq] at hclosed
  rw [hn.numberAfter_latest hcount] at hnum
  have hof : (s.putAttempt a).attemptsOf quizId studentId = s.attemptsOf quizId studentId ++ [a] :=
    attemptsOf_putAttempt_new hnew hq hs
  have hcount' : (s.putAttempt a).countAttempts quizId studentId =
      s.countAttempts quizId studentId + 1 := by
    rw [countAttempts, hof, List.length_append, countAttempts, List.length_singleton]
  refine ⟨?_, ?_, ?_⟩
  · rw [hof, List.map_append, hn.numbers, hcount', numbersUpTo_succ, List.map_singleton, hnumber,
      hnum]
  · rw [hof, List.dropLast_concat]
    exact hn.all_closed hclosed
  · intro found max hfound hm
    obtain rfl := Option.some.inj (hquiz.symm.trans hfound)
    have hlt := hmax max hm
    rw [hcount']
    omega

/-- Every write keeps the attempts of every student at every quiz numbered, while their
numbers fit into thirty-two bits. -/
theorem Writes.numbered {w : Write} (hw : s.Writes w t) (h : s.Sound)
    (hn : ∀ quizId studentId, s.countAttempts quizId studentId < twoTo 31 →
      s.Numbered quizId studentId) (quizId studentId : Int)
    (hcount : t.countAttempts quizId studentId < twoTo 31) : t.Numbered quizId studentId := by
  cases hw with
  | @start ctx quiz₀ number quiz client isOpen isNext isFresh =>
    have hnew : s.findAttempt
        (Attempt.start ctx.fresh quiz₀ ctx.caller.userId number ctx.now client).id = none := isFresh.1
    by_cases hpair : quiz₀ = quizId ∧ ctx.caller.userId = studentId
    · obtain ⟨rfl, rfl⟩ := hpair
      have hlast : (s.putAttempt _).attemptsOf quiz₀ ctx.caller.userId = _ ++ [_] :=
        attemptsOf_putAttempt_new hnew rfl rfl
      rw [countAttempts, hlast, List.length_append, List.length_singleton] at hcount
      exact (hn _ _ (Nat.lt_of_succ_lt hcount)).start hcount hnew rfl rfl
        (openQuiz_eq_ok_iff.1 isOpen).1 isNext rfl
    · have hsame := attemptsOf_putAttempt_other hnew hpair
      rw [countAttempts, hsame] at hcount
      exact (hn _ _ hcount).of_same ⟨rfl, rfl, rfl⟩ hsame
  | handIn _ _ => exact (hn _ _ hcount).of_same ⟨rfl, rfl, rfl⟩ rfl
  | judge _ _ _ _ _ _ _ => exact (hn _ _ hcount).of_same ⟨rfl, rfl, rfl⟩ rfl
  | @submit _ _ _ _ _ score isOpen _ _ _ isNext =>
    obtain ⟨ha, -, -⟩ := openAttempt_eq_ok_iff.1 isOpen
    obtain ⟨-, rfl⟩ := Attempt.submitted_eq_ok_iff.1 isNext
    obtain rfl := h.id_of_findAttempt ha
    exact h.numbered_putAttempt (hn _ _) ha rfl rfl rfl score.status_ne_inProgress hcount
  | abandon isAbandonable =>
    obtain ⟨_, _, ha, _, _, _, rfl⟩ := abandonable_eq_ok_iff.1 isAbandonable
    obtain rfl := h.id_of_findAttempt ha
    exact h.numbered_putAttempt (hn _ _) ha rfl rfl rfl nofun hcount
  | @grade ctx _ _ checked _ _ _ _ ofAttempt _ isNext =>
    obtain ⟨score, -, -, rfl⟩ := Attempt.regraded_eq_ok_iff.1 isNext
    rw [← h.id_of_findAttempt ofAttempt] at ofAttempt
    exact (h.toKeyed.putAnswer (checked.row ctx)).numbered_putAttempt
      (fun hc => (hn _ _ hc).of_same ⟨rfl, rfl, rfl⟩ rfl) ofAttempt rfl rfl rfl
      score.status_ne_inProgress hcount
  | aside => exact (hn _ _ hcount).of_same ⟨rfl, rfl, rfl⟩ rfl

/-! ## Starting -/

theorem insertObstacle?_eq_none_iff {given stored : Attempt} :
    insertObstacle? given stored = none ↔
      (stored.quizId = given.quizId → stored.studentId = given.studentId →
        stored.status ≠ .inProgress ∧ stored.attemptNumber ≠ given.attemptNumber) := by
  unfold insertObstacle?
  split
  · rename_i hne
    simp only [true_iff]
    intro hq hs
    exact absurd hne (by simp [hq, hs])
  · rename_i hsame
    simp only [not_or, Decidable.not_not] at hsame
    split
    · rename_i hp
      simp [hsame, hp]
    · rename_i hp
      split
      · rename_i hnum
        simp [hsame, hp, hnum]
      · rename_i hnum
        simp [hsame, hp, hnum]

/-- A new attempt of the next number meets no obstacle. -/
theorem Numbered.insertAttempt_eq_ok (hn : s.Numbered quizId studentId) (h : s.Keyed) {quiz : Quiz}
    {number : Int} {a : Attempt} (hq : a.quizId = quizId) (hs : a.studentId = studentId)
    (hnext : nextAttempt quiz (s.latestAttempt quizId studentId)
      (s.countAttempts quizId studentId) = .ok (.create number))
    (hnumber : a.attemptNumber = number) : s.insertAttempt a = .ok (s.putAttempt a) := by
  obtain ⟨hclosed, -, hnum⟩ := nextAttempt_eq_create_iff.1 hnext
  rw [hn.latestAttempt_eq] at hclosed hnum
  have hfree : s.attempts.values.findSome? (insertObstacle? a) = none := by
    rw [List.findSome?_eq_none_iff]
    intro stored hstored
    refine insertObstacle?_eq_none_iff.2 fun hsq hss => ?_
    have hmem : stored ∈ s.attemptsOf quizId studentId :=
      (h.mem_attemptsOf stored).2 ⟨(h.mem_attempts_iff stored).1 hstored, hsq.trans hq, hss.trans hs⟩
    refine ⟨hn.all_closed hclosed stored hmem, ?_⟩
    have htaken : stored.attemptNumber ∈ numbersUpTo (s.countAttempts quizId studentId) := by
      rw [← hn.numbers]
      exact List.mem_map_of_mem hmem
    obtain ⟨hpos, hle⟩ := mem_numbersUpTo.1 htaken
    have hlast := List.getLast?_eq_some_getLast (List.ne_nil_of_mem hmem)
    rw [hlast, Option.map_some, Option.getD_some, hn.number_of_getLast? hlast, numberAfter] at hnum
    rw [hnumber, hnum]
    split
    · -- the number after the greatest one is negative
      have hneg : -(twoTo 31 : Int) ≤ 0 := by decide
      omega
    · omega
  rw [insertAttempt, hfree]

theorem openQuiz_ne_conflict {ctx : Context} {message : String} :
    s.openQuiz ctx quizId ≠ .error (.conflict message) := by
  intro h
  unfold openQuiz requireQuiz at h
  cases hq : s.findQuiz quizId with
  | none => simp [hq, bind, Except.bind] at h
  | some quiz =>
    simp only [hq, bind, Except.bind] at h
    split at h
    · cases h
    · split at h <;> cases h

theorem nextAttempt_ne_conflict {quiz : Quiz} {latest : Option Attempt} {used : Nat}
    {message : String} : nextAttempt quiz latest used ≠ .error (.conflict message) := by
  unfold nextAttempt
  split
  · nofun
  · split <;> nofun

/-- A start never comes after somebody else's. -/
theorem Numbered.startAttempt_ne_conflict {ctx : Context} (hn : s.Numbered quizId ctx.caller.userId)
    (h : s.Keyed) (client : ClientInfo) (message : String) :
    (s.startAttempt ctx quizId client).1 ≠ .error (.refused (.conflict message)) := by
  intro hconflict
  unfold startAttempt at hconflict
  cases hopen : s.openQuiz ctx quizId with
  | error e =>
    simp only [hopen, bind, Except.bind, Outcome.refused, Except.error.injEq, Failure.refused.injEq]
      at hconflict
    exact openQuiz_ne_conflict (hconflict ▸ hopen)
  | ok quiz =>
    simp only [hopen, bind, Except.bind] at hconflict
    cases hnext : nextAttempt quiz (s.latestAttempt quizId ctx.caller.userId)
        (s.countAttempts quizId ctx.caller.userId) with
    | error e =>
      simp only [hnext, Outcome.refused, Except.error.injEq, Failure.refused.injEq] at hconflict
      exact nextAttempt_ne_conflict (hconflict ▸ hnext)
    | ok decision =>
      cases decision with
      | resume current => simp [hnext] at hconflict
      | create number =>
        have hfree := hn.insertAttempt_eq_ok (a := .start ctx.fresh quizId ctx.caller.userId number
          ctx.now client) h rfl rfl hnext rfl
        simp [hnext, hfree] at hconflict

/-- A start at a quiz that is open returns the attempt in progress. -/
theorem Numbered.startAttempt_of_inProgress {ctx : Context} {quiz : Quiz} {current : Attempt}
    (hn : s.Numbered quizId ctx.caller.userId) (hopen : s.openQuiz ctx quizId = .ok quiz)
    (hmem : current ∈ s.attemptsOf quizId ctx.caller.userId) (hp : current.status = .inProgress)
    (client : ClientInfo) : s.startAttempt ctx quizId client = (.ok current, s) := by
  have hlast := hn.getLast?_of_inProgress hmem hp
  simp only [startAttempt, hopen, bind, Except.bind, hn.latestAttempt_eq, hlast,
    nextAttempt_of_inProgress hp]

end Store

namespace Engine

variable {e : Engine}

theorem Reachable.numbered (h : e.Reachable) (quizId studentId : Int)
    (hcount : e.store.countAttempts quizId studentId < twoTo 31) :
    e.store.Numbered quizId studentId := by
  refine h.keeps (P := fun s => ∀ quizId studentId, s.countAttempts quizId studentId < twoTo 31 →
    s.Numbered quizId studentId) ?_ (fun hs hw hn => hw.numbered hs hn) quizId studentId hcount
  intro s hs quizId studentId _
  have hnone : s.attemptsOf quizId studentId = [] := by
    rw [Store.attemptsOf, hs.attempts_eq]
    rfl
  refine ⟨?_, ?_, ?_⟩
  · simp [Store.countAttempts, hnone, Store.numbersUpTo]
  · simp [hnone]
  · simp [Store.countAttempts, hnone]

/-- In every reachable state the attempts of a student at a quiz have the numbers from one
on, at most one of them is in progress, namely the last, and there are no more than the quiz
allows. A start at an open quiz returns the attempt in progress, and no start is refused
because of another. -/
theorem Reachable.numbering (h : e.Reachable) (quizId studentId : Int)
    (hcount : e.store.countAttempts quizId studentId < twoTo 31) :
    (e.store.attemptsOf quizId studentId).map (·.attemptNumber) =
        (List.range (e.store.countAttempts quizId studentId)).map (fun i : Nat => (i : Int) + 1) ∧
      (e.store.attemptsOf quizId studentId).countP (·.status == .inProgress) ≤ 1 ∧
      (∀ a ∈ e.store.attemptsOf quizId studentId, a.status = .inProgress →
        a.attemptNumber = e.store.countAttempts quizId studentId) ∧
      (∀ quiz max, e.store.findQuiz quizId = some quiz → quiz.maxAttempts = some max →
        e.store.countAttempts quizId studentId ≤ max.toNat) ∧
      (∀ ctx quiz client, ctx.caller.userId = studentId → e.store.openQuiz ctx quizId = .ok quiz →
        ∀ current ∈ e.store.attemptsOf quizId studentId, current.status = .inProgress →
          e.perform ctx (.start quizId client) = (.ok (.attempt current), e)) ∧
      ∀ ctx client message, ctx.caller.userId = studentId →
        (e.perform ctx (.start quizId client)).1 ≠ .error (.refused (.conflict message)) := by
  have hn := h.numbered quizId studentId hcount
  refine ⟨hn.numbers, hn.countP_inProgress_le_one, fun a ha hp =>
    hn.number_of_getLast? (hn.getLast?_of_inProgress ha hp), hn.withinLimit, ?_, ?_⟩
  · rintro ctx quiz client rfl hopen current hmem hp
    rw [perform, ofOutcome, hn.startAttempt_of_inProgress hopen hmem hp]
    rfl
  · rintro ctx client message rfl hconflict
    refine hn.startAttempt_ne_conflict h.sound.toKeyed client message ?_
    rw [perform, ofOutcome] at hconflict
    cases hr : (e.store.startAttempt ctx quizId client).1 with
    | ok a => simp [hr, Except.map] at hconflict
    | error cause => simpa [hr, Except.map] using hconflict

/-- Whoever starts again goes on with the attempt in progress. -/
theorem numbering_answered :
    Sample.answered.store.countAttempts 1 5 < twoTo 31 ∧
      Sample.answered.perform (Sample.student 9) (.start 1 {}) =
        (.ok (.attempt Sample.attempt), Sample.answered) := by
  have hcount : Sample.answered.store.countAttempts 1 5 < twoTo 31 := by decide +kernel
  have hopen : Sample.answered.store.openQuiz (Sample.student 9) 1 = .ok Sample.quiz :=
    Store.openQuiz_eq_ok_iff.2 (by decide +kernel)
  obtain ⟨-, -, -, -, hresume, -⟩ := Sample.reachable_answered.numbering 1 5 hcount
  exact ⟨hcount, hresume (Sample.student 9) Sample.quiz {} rfl hopen Sample.attempt
    (by decide +kernel) rfl⟩

end Engine

end QuizEngine
