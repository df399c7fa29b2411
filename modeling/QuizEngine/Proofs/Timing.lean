import QuizEngine.Proofs.Starts

/-!
# Times of an attempt

Every call reads the clock anew, and the clock may be set back between two calls. What follows
holds all the same (`Run.times_kept`): an attempt was started inside the window of its quiz, its
answers were handed in before the time was over, and the time that it took is counted up to the
call that closed it.

Whoever comes too late once comes too late from then on, unless the clock goes back. But the
seconds between two times are counted with the leap second of the one that is earlier in its
day, so that a clock that shows a leap second is ahead of the next second by up to a second:
an answer may be refused within the leap second and taken after it
(`Engine.recorded_after_leap_second`).
-/

namespace QuizEngine

open Time

/-! ## Spans of time -/

namespace Instant

/-- More than `n` whole seconds have passed when `n + 1` have. -/
theorem lt_elapsedSeconds_iff {n : Int} (hn : 0 ≤ n) (later earlier : Instant) :
    n < later.elapsedSeconds earlier ↔ (n + 1) * nanosPerSecond ≤ later.nanosSince earlier := by
  rw [elapsedSeconds, secondsSince]
  generalize later.nanosSince earlier = span
  have hsecond : (nanosPerSecond : Int) = 1000000000 := rfl
  rcases Int.le_total 0 span with hpos | hneg
  · rw [Int.tdiv_eq_ediv_of_nonneg hpos, hsecond]
    omega
  · have hdiv : 0 ≤ -span.tdiv nanosPerSecond :=
      Int.neg_tdiv span _ ▸ Int.tdiv_nonneg (by omega) (by omega)
    rw [hsecond] at hdiv ⊢
    omega

/-- Outside leap seconds only a leap second of the start is counted in. -/
theorem leapBetween_of_not_inLeapSecond {later earlier : Instant} (h : later.inLeapSecond = false) :
    leapBetween later earlier =
      if earlier.inLeapSecond = true ∧ earlier.secondOfDay < later.secondOfDay then 1 else 0 := by
  unfold leapBetween
  split
  · rename_i hlt
    simp [hlt]
  · rename_i hge
    simp [h, hge]

/-- A leap second is the last second of its minute. -/
def EndsMinute (t : Instant) : Prop := t.inLeapSecond = true → t.seconds % 60 = 59

/-- Outside leap seconds, once more than a number of whole minutes have passed since the start, more
have passed at every later time. -/
theorem lt_elapsedSeconds_of_le {start t t' : Instant} {minutes : Int} (hstart : start.EndsMinute)
    (ht : t.inLeapSecond = false) (ht' : t'.inLeapSecond = false) (hle : t ≤ t')
    (h : minutes * 60 < t.elapsedSeconds start) : minutes * 60 < t'.elapsedSeconds start := by
  rcases Int.lt_or_le minutes 0 with hneg | hpos
  · have := t'.elapsedSeconds_nonneg start
    omega
  rw [lt_elapsedSeconds_iff (by omega)] at h ⊢
  rw [nanosSince, leapBetween_of_not_inLeapSecond ht] at h
  rw [nanosSince, leapBetween_of_not_inLeapSecond ht']
  rw [le_iff_not_lt, lt_iff] at hle
  have hsecond : (nanosPerSecond : Int) = 1000000000 := rfl
  have hn : nanosPerSecond = 1000000000 := rfl
  have hfraction := start.nanos_lt
  simp only [inLeapSecond, decide_eq_false_iff_not, hn] at ht ht' hfraction
  rw [hsecond] at h ⊢
  cases hleap : start.inLeapSecond with
  | false =>
    simp only [hleap, Bool.false_eq_true, false_and, if_false] at h ⊢
    omega
  | true =>
    have hminute := hstart hleap
    have hsecond' : 1000000000 ≤ start.nanos := of_decide_eq_true hleap
    simp only [hleap, true_and, secondOfDay] at h ⊢
    split at h <;> split
    · omega
    · -- the leap second counts until midnight, when whole minutes have passed since it
      obtain ⟨midnight, hmidnight⟩ : ∃ n, n = 86400 * (t.seconds / 86400 + 1) := ⟨_, rfl⟩
      obtain ⟨passed, hpassed⟩ : ∃ n, midnight = start.seconds + 60 * n + 1 :=
        ⟨(midnight - start.seconds - 1) / 60, by omega⟩
      have hbefore : t.seconds < midnight := by omega
      have hafter : midnight ≤ t'.seconds := by omega
      have hless : minutes < passed := by omega
      omega
    · omega
    · omega

end Instant

/-- An attempt that is not past the limit of its quiz has run for less than a second more. -/
theorem Quiz.nanosSince_lt {quiz : Quiz} {attempt : Attempt} {now : Instant}
    (h : quiz.timeLimitExceeded (attempt.elapsedSeconds now) = false) {limit : Int}
    (hlimit : quiz.timeLimitMinutes = some limit) :
    now.nanosSince attempt.startedAt < (limit * 60 + 1) * nanosPerSecond := by
  rw [timeLimitExceeded, hlimit, decide_eq_false_iff_not, Int.not_lt] at h
  have hpos : 0 ≤ limit * 60 := Int.le_trans (now.elapsedSeconds_nonneg _) h
  rw [← Int.not_le, ← Instant.lt_elapsedSeconds_iff hpos]
  exact Int.not_lt.2 h

/-- Outside leap seconds an attempt that was past the limit is past it at every later time. -/
theorem Quiz.timeLimitExceeded_of_le {quiz : Quiz} {attempt : Attempt} {t t' : Instant}
    (hstart : attempt.startedAt.EndsMinute) (ht : t.inLeapSecond = false)
    (ht' : t'.inLeapSecond = false) (hle : t ≤ t')
    (h : quiz.timeLimitExceeded (attempt.elapsedSeconds t) = true) :
    quiz.timeLimitExceeded (attempt.elapsedSeconds t') = true := by
  unfold timeLimitExceeded at *
  split at h
  · exact decide_eq_true (Instant.lt_elapsedSeconds_of_le hstart ht ht' hle (of_decide_eq_true h))
  · cases h

/-! ## When things happen -/

namespace Event

/-- The time at which the event closes the attempt. -/
def closedAt? (attemptId : Uuid) : Event → Option Instant
  | .call ctx (.submit a) (.ok _) => if a = attemptId then some ctx.now else none
  | .call ctx (.abandon a) (.ok _) => if a = attemptId then some ctx.now else none
  | _ => none

/-- The time at which the event records an answer to a question of the attempt. -/
def recordedAt? (attemptId : Uuid) : Event → Option Instant
  | .call ctx (.record a _ _ _) (.ok _) => if a = attemptId then some ctx.now else none
  | _ => none

/-- The time at which an answer is refused because the time of the attempt is over. -/
def lateAt? (attemptId : Uuid) : Event → Option Instant
  | .call ctx (.record a _ _ _) (.error (.refused (.timeExceeded _))) =>
    if a = attemptId then some ctx.now else none
  | _ => none

end Event

namespace Store

variable {s t : Store} {ctx : Context} {id : Uuid}

/-! ## Starting -/

/-- A start leaves the store as it is, or it inserts the attempt that it returns, at a quiz
that is open to the caller. -/
theorem startAttempt_cases (s : Store) (ctx : Context) (quizId : Int) (client : ClientInfo) :
    (s.startAttempt ctx quizId client).2 = s ∨
    ∃ quiz number begun, s.openQuiz ctx quizId = .ok quiz ∧
      begun = Attempt.start ctx.fresh quizId ctx.caller.userId number ctx.now client ∧
      s.startAttempt ctx quizId client = (.ok begun, s.putAttempt begun) := by
  cases hopen : s.openQuiz ctx quizId with
  | error cause =>
    exact Or.inl (by simp only [startAttempt, hopen, bind, Except.bind, Outcome.refused])
  | ok quiz =>
    cases hnext : nextAttempt quiz (s.latestAttempt quizId ctx.caller.userId)
        (s.countAttempts quizId ctx.caller.userId) with
    | error cause =>
      exact Or.inl (by simp only [startAttempt, hopen, bind, Except.bind, hnext, Outcome.refused])
    | ok decision =>
      cases decision with
      | resume current =>
        exact Or.inl (by simp only [startAttempt, hopen, bind, Except.bind, hnext])
      | create number =>
        rw [startAttempt_of_create hopen hnext, beginAttempt, insertAttempt]
        split
        · rename_i cause hcause
          split at hcause
          · exact Or.inl rfl
          · cases hcause
        · rename_i t hok
          split at hok
          · cases hok
          · obtain rfl := Except.ok.inj hok
            exact Or.inr ⟨quiz, number, _, rfl, rfl, rfl⟩

/-- Who does not start an attempt does not add it. -/
theorem WritesOnly.findAttempt_eq_none {p : Write → Prop} (hw : WritesOnly p s t) (h : s.Sound)
    (hp : ¬p (.start id)) (hnone : s.findAttempt id = none) : t.findAttempt id = none := by
  refine hw.keeps_of_sound (P := fun s => s.findAttempt id = none) h
    (fun hpw hs hstep ih => ?_) hnone
  rw [Option.eq_none_iff_forall_ne_some]
  intro b hb
  obtain ⟨rfl, -⟩ := hstep.eq_start_of_new hs ih hb
  exact hp hpw

/-! ## Recording -/

theorem openAttempt_ne_timeExceeded {caller : Caller} {limit : Int} :
    s.openAttempt caller id ≠ .error (.timeExceeded limit) := by
  unfold openAttempt requireAttempt
  rw [ne_eq, bind_eq_error_iff, not_or]
  constructor
  · split <;> nofun
  · rintro ⟨attempt, -, hcause⟩
    split at hcause
    · cases hcause
    · split at hcause <;> cases hcause

theorem requireQuiz_ne_timeExceeded {quizId limit : Int} :
    s.requireQuiz quizId ≠ .error (.timeExceeded limit) := by
  unfold requireQuiz
  split <;> nofun

theorem requireQuestion_ne_timeExceeded {questionId limit : Int} :
    s.requireQuestion questionId ≠ .error (.timeExceeded limit) := by
  unfold requireQuestion
  split <;> nofun

theorem accept_ne_timeExceeded {question : Question} {raw : Json} {limit : Int} :
    question.accept raw ≠ .error (.timeExceeded limit) := by
  unfold Question.accept
  split
  · nofun
  · split <;> nofun

/-- Only the clock makes an answer come too late. -/
theorem exceeded_of_recordable_error {questionId : Int} {raw : Json} {limit : Int}
    (h : s.recordable ctx id questionId raw = .error (.timeExceeded limit)) :
    ∃ attempt quiz, s.findAttempt id = some attempt ∧ s.findQuiz attempt.quizId = some quiz ∧
      quiz.timeLimitExceeded (attempt.elapsedSeconds ctx.now) = true := by
  simp only [recordable, bind_eq_error_iff, ite_error_eq_error_iff, openAttempt_eq_ok_iff,
    requireQuiz_eq_ok_iff, requireQuiz_ne_timeExceeded, requireQuestion_ne_timeExceeded,
    accept_ne_timeExceeded, openAttempt_ne_timeExceeded, pure, Except.pure, reduceCtorEq, false_or,
    and_false, or_false, exists_false] at h
  obtain ⟨attempt, ⟨ha, -, -⟩, quiz, hquiz, htime⟩ := h
  refine ⟨attempt, quiz, ha, hquiz, ?_⟩
  by_contra hin
  rw [Bool.not_eq_true] at hin
  rw [ensureInTime_eq_ok_iff (u := ()) |>.2 hin] at htime
  cases htime

/-- Every answer was handed in before the time of its attempt was over. -/
def AllInTime (s : Store) : Prop :=
  ∀ answerId row attempt quiz, s.findAnswer answerId = some row →
    s.findAttempt row.attemptId = some attempt → s.findQuiz attempt.quizId = some quiz →
    quiz.timeLimitExceeded (attempt.elapsedSeconds row.answeredAt) = false

/-- A write that hands nothing in leaves every answer where it was, at the time at which it was
handed in. -/
theorem Writes.exists_old {w : Write} (hw : s.Writes w t) (h : s.Sound)
    (hne : ∀ attemptId questionId, w ≠ .handIn attemptId questionId) {answerId : Uuid}
    {later : Answer} (hlater : t.findAnswer answerId = some later) :
    ∃ row, s.findAnswer answerId = some row ∧ row.attemptId = later.attemptId ∧
      row.answeredAt = later.answeredAt := by
  have hchanges : ChangesOnly (fun _ => True) (fun _ _ => False) s t :=
    hw.changesOnly h.placed (fun _ _ => trivial) hne
  cases hrow : s.findAnswer answerId with
  | none => exact (hchanges.added answerId later hrow hlater).elim
  | some row =>
    obtain ⟨found, hfound, hplace, hcontent⟩ := hchanges.kept answerId row hrow
    obtain rfl := Option.some.inj (hlater.symm.trans hfound)
    obtain ⟨-, hatt, -, -⟩ := Answer.place_eq_iff.1 hplace
    obtain ⟨-, htime⟩ := Prod.mk.inj (hcontent.resolve_right id)
    exact ⟨row, rfl, hatt.symm, (Prod.mk.inj htime).1.symm⟩

/-- What is handed in is handed in at the time of the call. -/
theorem answeredAt_upsertedAnswer (s : Store) (given : Answer) :
    (s.upsertedAnswer given).answeredAt = given.answeredAt := by
  unfold upsertedAnswer
  split <;> rfl

theorem Writes.allInTime {w : Write} (hw : s.Writes w t) (h : s.Sound) (hall : s.AllScored)
    (hst : s.AllStamped) (hin : s.AllInTime) : t.AllInTime := by
  intro answerId row attempt quiz hrow hattempt hquiz
  rw [hw.sameCatalog.findQuiz_eq] at hquiz
  -- an answer that was stored before was in time, and its attempt started when it did
  have hold : ∀ old, s.findAnswer answerId = some old → old.attemptId = row.attemptId →
      old.answeredAt = row.answeredAt →
      quiz.timeLimitExceeded (attempt.elapsedSeconds row.answeredAt) = false := by
    intro old hstored hatt htime
    obtain ⟨before, -, hbefore, -⟩ := h.hasQuestion answerId old hstored
    obtain ⟨after, hafter, hbecomes⟩ := hw.becomesBy h hall hbefore
    obtain rfl := Option.some.inj ((hatt ▸ hafter).symm.trans hattempt)
    have hprecedes := hbecomes.precedes (hst _ before hbefore)
    rw [Attempt.elapsedSeconds, hprecedes.startedAt, ← htime]
    exact hin answerId old before quiz hstored hbefore (hprecedes.quizId ▸ hquiz)
  by_cases hhand : ∃ attemptId questionId, w = .handIn attemptId questionId
  · obtain ⟨attemptId, questionId, rfl⟩ := hhand
    cases hw with
    | @handIn ctx _ _ _ _ _ payload seconds _ isRecordable =>
      obtain ⟨open_, hopen, -, -, hopenQuiz, htime, -⟩ := recordable_eq_ok_iff.1 isRecordable
      rw [findAnswer_putAnswer] at hrow
      split at hrow
      · obtain rfl := Option.some.inj hrow
        rw [attemptId_upsertedAnswer] at hattempt
        obtain rfl := Option.some.inj (hopen.symm.trans hattempt)
        obtain rfl := Option.some.inj (hopenQuiz.symm.trans hquiz)
        rw [answeredAt_upsertedAnswer]
        exact htime
      · exact hold row hrow rfl rfl
  · obtain ⟨old, hstored, hatt, htime⟩ := hw.exists_old h
      (fun attemptId questionId heq => hhand ⟨attemptId, questionId, heq⟩) hrow
    exact hold old hstored hatt htime

/-! ## Closing -/

/-- An attempt that is abandoned was open, and it took the time up to the call. -/
theorem abandonAttempt_eq_ok {stored : Attempt} (hok : s.abandonAttempt ctx id = (.ok stored, t)) :
    ∃ attempt, s.findAttempt id = some attempt ∧
      t = s.putAttempt (nextVersion (attempt.abandonedAt ctx.now)) := by
  unfold abandonAttempt at hok
  split at hok
  · cases hok
  · rename_i next hnext
    obtain ⟨attempt, _, ha, -, -, -, rfl⟩ := abandonable_eq_ok_iff.1 hnext
    rcases s.updateAttempt_cases (attempt.abandonedAt ctx.now) with ⟨_, _, he, -⟩ | hwritten
    · rw [he] at hok
      cases hok
    · rw [hwritten] at hok
      exact ⟨attempt, ha, (congrArg Prod.snd hok).symm⟩

/-- An attempt that is in progress stays so until it is submitted or abandoned. -/
theorem WritesOnly.inProgress {p : Write → Prop} (hw : WritesOnly p s t) (h : s.Sound)
    (hall : s.AllScored) (hsubmit : ¬p (.submit id)) (habandon : ¬p (.abandon id))
    (ha : ∃ attempt, s.findAttempt id = some attempt ∧ attempt.status = .inProgress) :
    ∃ attempt, t.findAttempt id = some attempt ∧ attempt.status = .inProgress := by
  have hboth : t.AllScored ∧
      ∃ attempt, t.findAttempt id = some attempt ∧ attempt.status = .inProgress := by
    refine hw.keeps_of_sound (P := fun s => s.AllScored ∧
      ∃ attempt, s.findAttempt id = some attempt ∧ attempt.status = .inProgress) h
      (fun hpw hs hstep ih => ⟨hstep.allScored hs ih.1, ?_⟩) ⟨hall, ha⟩
    obtain ⟨hall, a, ha, hp⟩ := ih
    obtain ⟨b, hb, hbecomes⟩ := hstep.becomesBy hs hall ha
    obtain rfl := hs.id_of_findAttempt ha
    cases hbecomes with
    | keep _ => exact ⟨a, hb, hp⟩
    | submit _ => exact absurd hpw hsubmit
    | abandon _ => exact absurd hpw habandon
    | grade isGradeable _ =>
      rw [hp] at isGradeable
      cases isGradeable
  exact hboth.2

end Store

namespace Engine

variable {e e' e'' : Engine} {trace trace' : List Event} {event : Event} {id : Uuid}

/-! ## One event -/

/-- A new attempt is the one that a start returns, at a quiz that is open to the caller. -/
theorem Step.start_of_new (h : e.Step event e') (hs : e.store.Sound) {a : Attempt}
    (hnone : e.store.findAttempt id = none) (ha : e'.store.findAttempt id = some a) :
    ∃ ctx quizId client quiz number, event = .call ctx (.start quizId client) (.ok (.attempt a)) ∧
      e.store.openQuiz ctx quizId = .ok quiz ∧ ctx.fresh = id ∧
      a = .start ctx.fresh quizId ctx.caller.userId number ctx.now client := by
  have hpermits : event.permits (.start id) := by
    by_contra hnot
    cases ((h.writes hs).findAttempt_eq_none hs hnot hnone).symm.trans ha
  cases h with
  | call ctx asked isFresh =>
    cases asked with
    | start quizId client =>
      rcases e.store.startAttempt_cases ctx quizId client with
        hsame | ⟨quiz, number, begun, hopen, hbegun, hok⟩
      · simp only [perform, ofOutcome, withStore, hsame] at ha
        cases hnone.symm.trans ha
      · simp only [perform, ofOutcome, withStore, hok] at ha
        have hfresh : ctx.fresh = id := (Write.start.inj hpermits).symm
        have hid : begun.id = id := by rw [hbegun, ← hfresh]; rfl
        subst hid
        obtain rfl := Option.some.inj ((Store.findAttempt_putAttempt_self _ _).symm.trans ha)
        refine ⟨ctx, quizId, client, quiz, number, ?_, hopen, hfresh, hbegun⟩
        simp only [perform, ofOutcome, hok, Except.map]
    | record _ _ _ _ => simp [Event.permits, Call.permits] at hpermits
    | submit _ => simp [Event.permits, Call.permits] at hpermits
    | abandon _ => simp [Event.permits, Call.permits] at hpermits
    | grade _ _ => simp [Event.permits, Call.permits] at hpermits
    | bulkGrade _ => simp [Event.permits, Call.permits] at hpermits
    | result _ => cases hpermits
    | review _ => cases hpermits
    | summary _ => cases hpermits
    | history _ _ => cases hpermits
    | pending _ => cases hpermits
    | statistics _ => cases hpermits
  | refresh _ _ => cases hpermits
  | overflow _ _ => cases hpermits
  | dropWorker => cases hpermits
  | failGradeWrites _ => cases hpermits
  | forceConflicts _ _ => cases hpermits

/-- An event that closes an attempt leaves it with the time that it took until then. -/
theorem Step.of_closedAt? (h : e.Step event e') (hs : e.store.Sound) {now : Instant}
    (hnow : event.closedAt? id = some now) : ∃ b, e'.store.findAttempt id = some b ∧
      b.timeSpentSeconds = some (storedSeconds (b.elapsedSeconds now)) := by
  unfold Event.closedAt? at hnow
  split at hnow
  · rename_i ctx a reply
    obtain ⟨rfl, htime⟩ := Option.ite_none_right_eq_some.1 hnow
    obtain rfl := Option.some.inj htime
    have hperform := h.perform_eq
    cases hok : e.store.submitAttempt ctx a with
    | mk outcome t =>
      cases outcome with
      | error cause => simp [perform, submit, hok, Except.map] at hperform
      | ok result =>
        simp only [perform, submit, hok] at hperform
        obtain ⟨-, rfl⟩ := Prod.mk.inj hperform
        obtain ⟨attempt, quiz, score, u, hopen, -, -, -, -, rfl⟩ := hs.toKeyed.submitAttempt_eq_ok hok
        obtain ⟨ha, -, -⟩ := Store.openAttempt_eq_ok_iff.1 hopen
        obtain rfl := hs.id_of_findAttempt ha
        exact ⟨_, Store.findAttempt_putAttempt_self _ _, rfl⟩
  · rename_i ctx a reply
    obtain ⟨rfl, htime⟩ := Option.ite_none_right_eq_some.1 hnow
    obtain rfl := Option.some.inj htime
    have hperform := h.perform_eq
    cases hok : e.store.abandonAttempt ctx a with
    | mk outcome t =>
      cases outcome with
      | error cause => simp [perform, ofOutcome, hok, Except.map] at hperform
      | ok stored =>
        simp only [perform, ofOutcome, withStore, hok] at hperform
        obtain ⟨-, rfl⟩ := Prod.mk.inj hperform
        obtain ⟨attempt, ha, rfl⟩ := Store.abandonAttempt_eq_ok hok
        obtain rfl := hs.id_of_findAttempt ha
        exact ⟨_, Store.findAttempt_putAttempt_self _ _, rfl⟩
  · cases hnow

/-- An event that does not close an attempt leaves it in progress. -/
theorem Step.inProgress (h : e.Step event e') (hs : e.store.Sound) (hall : e.store.AllScored)
    (hnone : event.closedAt? id = none)
    (ha : ∃ attempt, e.store.findAttempt id = some attempt ∧ attempt.status = .inProgress) :
    ∃ attempt, e'.store.findAttempt id = some attempt ∧ attempt.status = .inProgress := by
  have hother : ¬event.permits (.submit id) → ¬event.permits (.abandon id) →
      ∃ attempt, e'.store.findAttempt id = some attempt ∧ attempt.status = .inProgress :=
    fun hsubmit habandon => (h.writes hs).inProgress hs hall hsubmit habandon ha
  cases h with
  | call ctx asked isFresh =>
    cases asked with
    | submit a =>
      by_cases hid : a = id
      · subst hid
        rcases Store.submitAttempt_cases hs ctx a with ⟨cause, t, he, hw⟩ | ⟨_, _, _, hok, -⟩
        · simp only [perform, submit, withStore, he]
          exact hw.inProgress hs hall (by simp) (by simp) ha
        · simp [Event.closedAt?, perform, submit, hok, Except.map] at hnone
      · exact hother (by simpa [Event.permits, Call.permits] using Ne.symm hid)
          (by simp [Event.permits, Call.permits])
    | abandon a =>
      by_cases hid : a = id
      · subst hid
        rcases e.store.abandonAttempt_cases ctx a with ⟨cause, t, he, hw⟩ | ⟨_, _, hok, -⟩
        · simp only [perform, ofOutcome, withStore, he]
          exact hw.inProgress hs hall (by simp) (by simp) ha
        · simp [Event.closedAt?, perform, ofOutcome, hok, Except.map] at hnone
      · exact hother (by simp [Event.permits, Call.permits])
          (by simpa [Event.permits, Call.permits] using Ne.symm hid)
    | _ => exact hother (by simp [Event.permits, Call.permits]) (by simp [Event.permits, Call.permits])
  | _ => exact hother (by simp [Event.permits]) (by simp [Event.permits])

/-- An answer that is recorded is recorded in time. -/
theorem Step.inTime_of_recordedAt? (h : e.Step event e') {now : Instant}
    (hnow : event.recordedAt? id = some now) :
    ∃ attempt quiz, e.store.findAttempt id = some attempt ∧
      e.store.findQuiz attempt.quizId = some quiz ∧
      quiz.timeLimitExceeded (attempt.elapsedSeconds now) = false := by
  unfold Event.recordedAt? at hnow
  split at hnow
  · rename_i ctx a questionId raw seconds reply
    obtain ⟨rfl, htime⟩ := Option.ite_none_right_eq_some.1 hnow
    obtain rfl := Option.some.inj htime
    have hperform := congrArg Prod.fst h.perform_eq
    simp only [perform, ofOutcome, Store.recordAnswer] at hperform
    split at hperform
    · cases hperform
    · rename_i quiz question payload hr
      obtain ⟨attempt, ha, -, -, hquiz, hin, -⟩ := Store.recordable_eq_ok_iff.1 hr
      exact ⟨attempt, quiz, ha, hquiz, hin⟩
  · cases hnow

/-- An answer that is refused for the time is refused after the time was over. -/
theorem Step.exceeded_of_lateAt? (h : e.Step event e') {now : Instant}
    (hnow : event.lateAt? id = some now) :
    ∃ attempt quiz, e.store.findAttempt id = some attempt ∧
      e.store.findQuiz attempt.quizId = some quiz ∧
      quiz.timeLimitExceeded (attempt.elapsedSeconds now) = true := by
  unfold Event.lateAt? at hnow
  split at hnow
  · rename_i ctx a questionId raw seconds limit
    obtain ⟨rfl, htime⟩ := Option.ite_none_right_eq_some.1 hnow
    obtain rfl := Option.some.inj htime
    have hperform := congrArg Prod.fst h.perform_eq
    simp only [perform, ofOutcome, Store.recordAnswer] at hperform
    split at hperform
    · rename_i cause hr
      obtain rfl := Failure.refused.inj (Except.error.inj hperform)
      exact Store.exceeded_of_recordable_error hr
    · cases hperform
  · cases hnow

/-! ## Runs -/

/-- What a run says of the times of the attempts that it leads to. -/
structure KeepsTimes (trace : List Event) (s : Store) : Prop where
  started : ∀ id a, s.findAttempt id = some a → ∃ ctx client begun quiz,
    Event.call ctx (.start a.quizId client) (.ok (.attempt begun)) ∈ trace ∧ begun.id = id ∧
      ctx.fresh = id ∧ ctx.now = a.startedAt ∧ ctx.caller.userId = a.studentId ∧
      s.openQuiz ctx a.quizId = .ok quiz
  isClosed : ∀ id a, s.findAttempt id = some a → a.status ≠ .inProgress →
    ∃ event ∈ trace, ∃ now, event.closedAt? id = some now
  closed : ∀ event ∈ trace, ∀ id now, event.closedAt? id = some now → ∃ a,
    s.findAttempt id = some a ∧ a.timeSpentSeconds = some (storedSeconds (a.elapsedSeconds now))

theorem Step.precedes (h : e.Step event e') (hr : e.Reachable) {a : Attempt}
    (ha : e.store.findAttempt id = some a) :
    ∃ b, e'.store.findAttempt id = some b ∧ a.Precedes b :=
  (Run.nil.snoc h).precedes hr ha

/-- The quiz stays open to whoever started an attempt at it, at the time of the start. -/
theorem Step.openQuiz_eq_ok (h : e.Step event e') (hs : e.store.Sound) {ctx : Context}
    {quizId : Int} {quiz : Quiz} (hopen : e.store.openQuiz ctx quizId = .ok quiz) :
    e'.store.openQuiz ctx quizId = .ok quiz := by
  rw [Store.openQuiz_eq_ok_iff] at hopen ⊢
  rwa [(h.writes hs).sameCatalog.findQuiz_eq]

theorem KeepsTimes.step (hk : KeepsTimes trace e.store) (h : e.Step event e') (hr : e.Reachable) :
    KeepsTimes (trace ++ [event]) e'.store where
  started id b hb := by
    cases ha : e.store.findAttempt id with
    | none =>
      obtain ⟨ctx, quizId, client, quiz, number, rfl, hopen, hfresh, rfl⟩ :=
        h.start_of_new hr.sound ha hb
      exact ⟨ctx, client, _, quiz, List.mem_append_right _ (List.mem_singleton_self _), hfresh, hfresh,
        rfl, rfl, h.openQuiz_eq_ok hr.sound hopen⟩
    | some a =>
      obtain ⟨_, hb', hab⟩ := h.precedes hr ha
      obtain rfl := Option.some.inj (hb.symm.trans hb')
      obtain ⟨ctx, client, begun, quiz, hmem, hid, hfresh, hnow, huser, hopen⟩ := hk.started id a ha
      rw [hab.quizId, hab.startedAt, hab.studentId]
      exact ⟨ctx, client, begun, quiz, List.mem_append_left _ hmem, hid, hfresh, hnow, huser,
        h.openQuiz_eq_ok hr.sound hopen⟩
  isClosed id b hb hclosed := by
    cases hevent : event.closedAt? id with
    | some now => exact ⟨event, List.mem_append_right _ (List.mem_singleton_self _), now, hevent⟩
    | none =>
      cases ha : e.store.findAttempt id with
      | none =>
        obtain ⟨_, _, _, _, _, -, -, -, rfl⟩ := h.start_of_new hr.sound ha hb
        exact absurd rfl hclosed
      | some a =>
        by_cases hp : a.status = .inProgress
        · obtain ⟨_, hb', hp'⟩ := h.inProgress hr.sound hr.allScored hevent ⟨a, ha, hp⟩
          obtain rfl := Option.some.inj (hb.symm.trans hb')
          exact absurd hp' hclosed
        · obtain ⟨event', hmem, now, hnow⟩ := hk.isClosed id a ha hp
          exact ⟨event', List.mem_append_left _ hmem, now, hnow⟩
  closed event' hmem id now hnow := by
    rcases List.mem_append.1 hmem with hmem | hmem
    · obtain ⟨a, ha, htime⟩ := hk.closed event' hmem id now hnow
      obtain ⟨b, hb, hab⟩ := h.precedes hr ha
      refine ⟨b, hb, ?_⟩
      rw [Attempt.elapsedSeconds, hab.startedAt]
      exact hab.timeSpentSeconds _ htime
    · obtain rfl := List.mem_singleton.1 hmem
      exact h.of_closedAt? hr.sound hnow

theorem Run.keepsTimes (hi : e.IsInitial) (h : e.Run trace e') : KeepsTimes trace e'.store := by
  induction h with
  | nil =>
    exact ⟨fun id a ha => by simp [Store.Authored.findAttempt_eq hi] at ha,
      fun id a ha => by simp [Store.Authored.findAttempt_eq hi] at ha, by simp⟩
  | snoc before step ih => exact ih.step step ⟨e, _, hi, before⟩

theorem Reachable.allInTime (h : e.Reachable) : e.store.AllInTime := by
  have hboth : (e.store.AllScored ∧ e.store.AllStamped) ∧ e.store.AllInTime :=
    h.keeps (P := fun s => (s.AllScored ∧ s.AllStamped) ∧ s.AllInTime)
      (fun s hs => ⟨⟨fun id a ha => by simp [hs.findAttempt_eq] at ha,
        fun id a ha => by simp [hs.findAttempt_eq] at ha⟩,
        fun id row _ _ hrow => by simp [hs.findAnswer_eq] at hrow⟩)
      fun hs hw ih => ⟨⟨hw.allScored hs ih.1.1, hw.allStamped hs ih.1.1 ih.1.2⟩,
        hw.allInTime hs ih.1.1 ih.1.2 ih.2⟩
  exact hboth.2

/-- Once an answer is refused for the time, none is recorded as long as the clock does not go
back. -/
theorem Run.lt_of_recorded_after_late {e₀ : Engine} (hi : e₀.IsInitial) (h : e₀.Run trace e)
    {attempt : Attempt} (ha : e.store.findAttempt id = some attempt) {front middle back : List Event}
    {late accepted : Event} {t t' : Instant}
    (htrace : trace = front ++ late :: (middle ++ accepted :: back))
    (hlate : late.lateAt? id = some t) (haccepted : accepted.recordedAt? id = some t')
    (hstart : attempt.startedAt.EndsMinute) (ht : t.inLeapSecond = false)
    (ht' : t'.inLeapSecond = false) : t' < t := by
  obtain ⟨e₁, e₂, hrun₁, hstep₁, hrest⟩ := h.exists_split htrace
  obtain ⟨e₃, e₄, hrun₂, hstep₂, hback⟩ := hrest.exists_split rfl
  have hr₁ : e₁.Reachable := ⟨e₀, _, hi, hrun₁⟩
  have hr₃ : e₃.Reachable := (hr₁.run (Run.nil.snoc hstep₁)).run hrun₂
  have hcat : e₁.store.SameCatalog e₃.store :=
    ((hstep₁.writes hr₁.sound).sameCatalog).trans (hrun₂.sameCatalog (hstep₁.sound hr₁.sound))
  obtain ⟨a, quiz, hfound, hquiz, hexceeded⟩ := hstep₁.exceeded_of_lateAt? hlate
  obtain ⟨b, quiz', hfound', hquiz', hin⟩ := hstep₂.inTime_of_recordedAt? haccepted
  -- the rows read by the two calls have the start and the quiz of the attempt
  obtain ⟨_, hlast, hab⟩ := (((Run.nil.snoc hstep₁).trans hrun₂)).precedes hr₁ hfound
  obtain rfl := Option.some.inj (hfound'.symm.trans hlast)
  obtain ⟨_, hend, hbc⟩ := (((Run.nil.snoc hstep₂).trans hback)).precedes hr₃ hfound'
  obtain rfl := Option.some.inj (ha.symm.trans hend)
  rw [hab.quizId, hcat.findQuiz_eq] at hquiz'
  obtain rfl := Option.some.inj (hquiz.symm.trans hquiz')
  rw [Attempt.elapsedSeconds, ← hab.startedAt] at hexceeded
  by_contra hnot
  rw [hbc.startedAt] at hstart
  have hstill := Quiz.timeLimitExceeded_of_le hstart ht ht' hnot hexceeded
  rw [hin] at hstill
  cases hstill

/-- An attempt that is stored after a run was started by a call inside the window of its quiz,
which was published or started by an administrator. Every answer of it was handed in before
the time limit and one second more had passed. It is closed when a call closed it, and took the
whole seconds up to that call. After an answer was refused for the time none is recorded
unless the clock goes back; leap seconds aside, in which a clock is ahead of itself. -/
theorem Run.times_kept {e₀ : Engine} (hi : e₀.IsInitial) (h : e₀.Run trace e) {attempt : Attempt}
    (hmem : attempt ∈ e.store.attempts.values) :
    ∃ quiz, e.store.findQuiz attempt.quizId = some quiz ∧
      ((∀ start ∈ quiz.availableFrom, start ≤ attempt.startedAt) ∧
        ∀ stop ∈ quiz.availableUntil, attempt.startedAt ≤ stop) ∧
      (∃ ctx client begun,
        Event.call ctx (.start attempt.quizId client) (.ok (.attempt begun)) ∈ trace ∧
        begun.id = attempt.id ∧ ctx.fresh = attempt.id ∧ ctx.now = attempt.startedAt ∧
        ctx.caller.userId = attempt.studentId ∧
        (quiz.isPublished = true ∨ ctx.caller.isPrivileged = true)) ∧
      (∀ row ∈ e.store.answers.values, row.attemptId = attempt.id →
        ∀ limit, quiz.timeLimitMinutes = some limit →
          row.answeredAt.nanosSince attempt.startedAt < (limit * 60 + 1) * nanosPerSecond) ∧
      (attempt.status ≠ .inProgress ↔
        ∃ event ∈ trace, ∃ now, event.closedAt? attempt.id = some now) ∧
      (∀ event ∈ trace, ∀ now, event.closedAt? attempt.id = some now →
        attempt.timeSpentSeconds = some (min
          (max ((now.nanosSince attempt.startedAt).tdiv nanosPerSecond) 0) 2147483647)) ∧
      ∀ front late middle accepted back t t',
        trace = front ++ late :: (middle ++ accepted :: back) →
        late.lateAt? attempt.id = some t → accepted.recordedAt? attempt.id = some t' →
        attempt.startedAt.EndsMinute → t.inLeapSecond = false → t'.inLeapSecond = false →
        t' < t := by
  have hr : e.Reachable := ⟨e₀, trace, hi, h⟩
  have hs := hr.sound
  have ha := (hs.mem_attempts_iff attempt).1 hmem
  have hk := h.keepsTimes hi
  obtain ⟨ctx, client, begun, quiz, hstart, hid, hfresh, hnow, huser, hopen⟩ := hk.started _ _ ha
  obtain ⟨hquiz, hpublished, hwindow⟩ := Store.openQuiz_eq_ok_iff.1 hopen
  have htime : ∀ event ∈ trace, ∀ now, event.closedAt? attempt.id = some now →
      attempt.timeSpentSeconds = some (storedSeconds (attempt.elapsedSeconds now)) := by
    intro event hevent now hclosed
    obtain ⟨_, hfound, hspent⟩ := hk.closed event hevent _ now hclosed
    obtain rfl := Option.some.inj (ha.symm.trans hfound)
    exact hspent
  refine ⟨quiz, hquiz, ?_, ⟨ctx, client, begun, hstart, hid, hfresh, hnow, huser, hpublished⟩,
    fun row hrow hatt limit hlimit => ?_, ⟨hk.isClosed _ _ ha, ?_⟩, htime,
    fun front late middle accepted back t t' htrace hlate haccepted =>
      h.lt_of_recorded_after_late hi ha htrace hlate haccepted⟩
  · rw [hnow] at hwindow
    exact (quiz.availabilityAt_eq_isOpen_iff _).1 hwindow
  · refine Quiz.nanosSince_lt ?_ hlimit
    exact hr.allInTime _ row attempt quiz ((hs.mem_answers_iff row).1 hrow) (hatt ▸ ha) hquiz
  · rintro ⟨event, hevent, now, hclosed⟩ hp
    have hnone := (hr.allStamped _ _ ha).timeSpentSeconds hp
    rw [htime event hevent now hclosed] at hnone
    cases hnone

/-- The attempt of the sample run was started by a call of the run and closed by another. -/
theorem times_kept_submitted : ∃ trace, Sample.initial.Run trace Sample.submitted ∧
    Sample.closed ∈ Sample.submitted.store.attempts.values ∧
    (∃ ctx client begun, Event.call ctx (.start 1 client) (.ok (.attempt begun)) ∈ trace ∧
      ctx.now = Sample.closed.startedAt) ∧
    ∃ event ∈ trace, ∃ now, event.closedAt? (Sample.uuid 1) = some now := by
  obtain ⟨trace, hr⟩ := Sample.exists_run_answered
  have hsubmit := hr.snoc (.call (Sample.student 4) (.submit (Sample.uuid 1)) (by decide +kernel))
  have hmem : Sample.closed ∈ Sample.submitted.store.attempts.values :=
    (Sample.reachable_submitted.sound.mem_attempts_iff _).2 Sample.findAttempt_submitted
  obtain ⟨_, -, -, ⟨ctx, client, begun, hstart, -, -, hnow, -⟩, -, hclosed, -⟩ :=
    hsubmit.times_kept Sample.isInitial_initial hmem
  exact ⟨_, hsubmit, hmem, ⟨ctx, client, begun, hstart, hnow⟩, hclosed.1 (by decide)⟩

end Engine

/-! ## A clock that shows a leap second -/

namespace Sample

/-- A call of the student at a time. -/
def studentAt (now : Instant) (fresh : Nat) : Context := ⟨⟨5, .student⟩, now, uuid fresh⟩

/-- The choice in a quiz of so many minutes. -/
def hasty (limit : Int) : Engine where
  store := (({} : Store).insertQuiz { quiz with timeLimitMinutes := some limit }).insertQuestion choice
  queue := { room := 1 }

variable (limit : Int) (start late accepted : Instant)

def hastyStarted : Engine := ((hasty limit).perform (studentAt start 1) (.start 1 {})).2

/-- The student hands the choice in. -/
def handIn : Call := .record (uuid 1) 1 choiceAnswer none

def hastyRefused : Engine := ((hastyStarted limit start).perform (studentAt late 2) handIn).2

def hastyRecorded : Engine := ((hastyRefused limit start late).perform (studentAt accepted 3) handIn).2

/-- An answer comes too late at one time and is recorded at the other, and the clock does not go
back between them. -/
def RecordsAfterLate : Prop :=
  ∃ front refusal recording, (hasty limit).IsInitial ∧
    (hasty limit).Run (front ++ [refusal, recording]) (hastyRecorded limit start late accepted) ∧
    refusal.lateAt? (uuid 1) = some late ∧ recording.recordedAt? (uuid 1) = some accepted ∧
    late ≤ accepted

variable {limit start late accepted}

theorem recordsAfterLate (hstarted : (hastyStarted limit start).store.IsFresh (uuid 2))
    (hrefused : (hastyRefused limit start late).store.IsFresh (uuid 3))
    (hlate : (Event.call (studentAt late 2) handIn
      ((hastyStarted limit start).perform (studentAt late 2) handIn).1).lateAt? (uuid 1) = some late)
    (haccepted : (Event.call (studentAt accepted 3) handIn
      ((hastyRefused limit start late).perform (studentAt accepted 3) handIn).1).recordedAt? (uuid 1) =
        some accepted)
    (hle : late ≤ accepted) : RecordsAfterLate limit start late accepted := by
  have hinitial : (hasty limit).IsInitial := (Store.Authored.empty.insertQuiz _).insertQuestion choice
  have hrun := ((Engine.Run.nil.snoc (.call (e := hasty limit) (studentAt start 1) (.start 1 {})
    ⟨hinitial.findAttempt_eq _, hinitial.findAnswer_eq _⟩)).snoc
      (.call (studentAt late 2) handIn hstarted)).snoc (.call (studentAt accepted 3) handIn hrefused)
  rw [List.append_assoc] at hrun
  exact ⟨_, _, _, hinitial, hrun, hlate, haccepted, hle⟩

end Sample

/-- Within a leap second an answer may come too late that is recorded in the second after it: ten
minutes from half a second before the first minute of 1970 is over. And an answer that comes
too late just before a leap second may be recorded within it, when the attempt was started on
the day before and later in that day. -/
theorem Engine.recorded_after_leap_second :
    Sample.RecordsAfterLate 10 ⟨59, 500000000, by decide, by decide⟩
        ⟨659, 1900000000, by decide, by decide⟩ ⟨660, 0, by decide, by decide⟩ ∧
      Sample.RecordsAfterLate 1439 ⟨36058, 500000000, by decide, by decide⟩
        ⟨122399, 600000000, by decide, by decide⟩ ⟨122399, 1200000000, by decide, by decide⟩ :=
  ⟨Sample.recordsAfterLate (by decide +kernel) (by decide +kernel) (by decide +kernel)
      (by decide +kernel) (by decide +kernel),
    Sample.recordsAfterLate (by decide +kernel) (by decide +kernel) (by decide +kernel)
      (by decide +kernel) (by decide +kernel)⟩

end QuizEngine
