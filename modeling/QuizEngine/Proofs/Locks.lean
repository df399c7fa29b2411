import QuizEngine.KeyedLocks
import Mathlib.Data.Finset.Card
import Mathlib.Data.List.Nodup

/-!
# Requests under one key

A registry of locks forgets the locks that nobody refers to, and gives a key whose lock is
forgotten a new one. For the key to be safe all who hold or wait for its lock have to refer
to the same one, and for that the registry must never forget or replace a lock too early.

`Registered` is what a registry keeps through every request and every release
(`Registered.after`): each request refers to the lock that stands under its key, and no two
keys share a lock. So the queue of a lock is the queue of its key (`Registered.queue_eq`),
and what is granted under one key does not depend on the others (`run_isFaithful`). What
somebody is told of a request is what they then have (`Registered.told`, `release_told`).
-/

namespace QuizEngine

/-- What somebody does with the locks. -/
inductive LockStep (κ ν : Type) where
  /-- Asks for a side of the lock of a key. -/
  | ask (name : ν) (key : κ) (side : LockSide)
  /-- Gives up the lock or the place in its queue. -/
  | giveUp (name : ν)

namespace KeyedLocks

variable {κ ν : Type} [DecidableEq κ] [DecidableEq ν] {l : KeyedLocks κ ν}

/-- The locks after a step. -/
def after (l : KeyedLocks κ ν) : LockStep κ ν → KeyedLocks κ ν
  | .ask name key side => (l.request name key side).2
  | .giveUp name => (l.release name).2

/-- The locks after steps one after the other. -/
def run (l : KeyedLocks κ ν) (steps : List (LockStep κ ν)) : KeyedLocks κ ν := steps.foldl after l

/-! ## Looking a lock up -/

omit [DecidableEq κ] [DecidableEq ν] in
theorem inUse_iff {lock : Nat} : l.inUse lock = true ↔ ∃ r ∈ l.requests, r.lock = lock := by
  simp [inUse]

omit [DecidableEq ν] in
/-- A key keeps the lock that is in use. Any other key gets a new one, and the locks that are
not in use are forgotten. -/
theorem lockFor_cases (l : KeyedLocks κ ν) (key : κ) :
    (∃ lock, l.entries.find? key = some lock ∧ l.inUse lock = true ∧ l.lockFor key = (lock, l)) ∨
    ((∀ lock, l.entries.find? key = some lock → l.inUse lock = false) ∧
      ∃ entries : Table κ Nat,
        (∀ k, entries.find? k =
          if k = key then some l.fresh else (l.entries.find? k).filter l.inUse) ∧
        l.lockFor key = (l.fresh, { l with entries := entries, fresh := l.fresh + 1 })) := by
  unfold lockFor
  cases hf : (l.entries.find? key).filter l.inUse with
  | some lock =>
    obtain ⟨hfind, huse⟩ := Option.filter_eq_some_iff.1 hf
    exact Or.inl ⟨lock, hfind, huse, rfl⟩
  | none =>
    refine Or.inr ⟨fun lock hlock => ?_, _, fun k => ?_, rfl⟩
    · simpa [hlock] using hf
    · rw [Table.find?_insert, Table.find?_filterKeys]
      cases l.entries.find? k <;> simp [Option.filter]

/-! ## What a registry keeps -/

/-- Every request refers to the lock that stands under its key. Locks and requests have
numbers below the next new ones, no lock stands under two keys, and no two requests have one
name. -/
structure Registered (l : KeyedLocks κ ν) : Prop where
  entry : ∀ r ∈ l.requests, l.entries.find? r.key = some r.lock
  earlier : ∀ r ∈ l.requests, r.ticket < l.ticket
  below : ∀ {key lock}, l.entries.find? key = some lock → lock < l.fresh
  injective : ∀ {key key' lock}, l.entries.find? key = some lock →
    l.entries.find? key' = some lock → key = key'
  distinct : (l.requests.map (·.name)).Nodup

omit [DecidableEq ν] in
/-- In the beginning nobody asks for anything. -/
theorem registered_empty : ({} : KeyedLocks κ ν).Registered where
  entry := by simp
  earlier := by simp
  below := by simp
  injective := by simp
  distinct := List.nodup_nil

namespace Registered

omit [DecidableEq ν] in
/-- Looking up the lock of a key changes no request, and afterwards that lock stands under
the key. -/
theorem lockFor (h : l.Registered) (key : κ) :
    (l.lockFor key).2.Registered ∧ (l.lockFor key).2.requests = l.requests ∧
      (l.lockFor key).2.entries.find? key = some (l.lockFor key).1 := by
  rcases l.lockFor_cases key with ⟨lock, hfind, -, heq⟩ | ⟨hunused, entries, hentries, heq⟩
  · rw [heq]
    exact ⟨h, rfl, hfind⟩
  · have hold : ∀ {k lock}, k ≠ key → entries.find? k = some lock →
        l.entries.find? k = some lock := by
      intro k lock hk hfind
      rw [hentries, if_neg hk] at hfind
      exact (Option.filter_eq_some_iff.1 hfind).1
    have hnew : ∀ {lock}, entries.find? key = some lock → lock = l.fresh := by
      intro lock hfind
      rw [hentries, if_pos rfl] at hfind
      exact (Option.some.inj hfind).symm
    rw [heq]
    refine ⟨⟨fun r hr => ?_, h.earlier, fun {k lock} hfind => ?_,
        fun {k k' lock} hfind hfind' => ?_, h.distinct⟩,
      rfl, by rw [hentries, if_pos rfl]⟩
    · -- a lock that a request refers to is in use, so its key is another one and it is kept
      have huse : l.inUse r.lock = true := inUse_iff.2 ⟨r, hr, rfl⟩
      have hne : r.key ≠ key := by
        rintro rfl
        exact absurd huse (by simp [hunused r.lock (h.entry r hr)])
      rw [hentries, if_neg hne]
      exact Option.filter_eq_some_iff.2 ⟨h.entry r hr, huse⟩
    · by_cases hk : k = key
      · subst hk
        exact (hnew hfind) ▸ Nat.lt_succ_self _
      · exact Nat.lt_succ_of_lt (h.below (hold hk hfind))
    · by_cases hk : k = key
      · subst hk
        by_cases hk' : k' = k
        · exact hk'.symm
        · exact absurd (h.below (hold hk' hfind')) (by simp [hnew hfind])
      · by_cases hk' : k' = key
        · subst hk'
          exact absurd (h.below (hold hk hfind)) (by simp [hnew hfind'])
        · exact h.injective (hold hk hfind) (hold hk' hfind')

theorem withdraw (h : l.Registered) (name : ν) : (l.withdraw name).Registered where
  entry := fun r hr => h.entry r (List.mem_filter.1 hr).1
  earlier := fun r hr => h.earlier r (List.mem_filter.1 hr).1
  below := h.below
  injective := h.injective
  distinct := h.distinct.sublist (List.filter_sublist.map _)

end Registered

/-- A request that is made comes after those of other names that stand. -/
theorem requests_request (l : KeyedLocks κ ν) (name : ν) (key : κ) (side : LockSide) :
    (l.request name key side).2.requests =
      (l.lockFor key).2.requests.filter (·.name != name) ++
        [⟨(l.lockFor key).2.ticket, name, key, (l.lockFor key).1, side⟩] := rfl

theorem Registered.request (h : l.Registered) (name : ν) (key : κ) (side : LockSide) :
    (l.request name key side).2.Registered := by
  obtain ⟨hlooked, -, hentry⟩ := h.lockFor key
  have hkept := hlooked.withdraw name
  refine ⟨fun r hr => ?_, fun r hr => ?_, hlooked.below, hlooked.injective, ?_⟩
  · rw [requests_request] at hr
    rcases List.mem_append.1 hr with hr | hr
    · exact hkept.entry r hr
    · rw [List.mem_singleton.1 hr]
      exact hentry
  · rw [requests_request] at hr
    rcases List.mem_append.1 hr with hr | hr
    · exact Nat.lt_succ_of_lt (hkept.earlier r hr)
    · rw [List.mem_singleton.1 hr]
      exact Nat.lt_succ_self _
  · rw [requests_request, List.map_append, List.map_singleton, ← List.concat_eq_append]
    refine List.Nodup.concat (fun hmem => ?_) hkept.distinct
    obtain ⟨r, hr, hname⟩ := List.mem_map.1 hmem
    exact bne_iff_ne.1 (List.mem_filter.1 hr).2 hname

omit [DecidableEq κ] in
theorem release_cases (l : KeyedLocks κ ν) (name : ν) :
    (l.release name).2 = l.withdraw name ∨ (l.release name).2 = l := by
  unfold release
  split
  · exact Or.inl rfl
  · exact Or.inr rfl

theorem Registered.release (h : l.Registered) (name : ν) : (l.release name).2.Registered := by
  rcases l.release_cases name with heq | heq
  · rw [heq]
    exact h.withdraw name
  · rw [heq]
    exact h

/-- Every step keeps a registry in order. -/
theorem Registered.after (h : l.Registered) (step : LockStep κ ν) : (l.after step).Registered := by
  cases step with
  | ask name key side => exact h.request name key side
  | giveUp name => exact h.release name

theorem Registered.run (h : l.Registered) (steps : List (LockStep κ ν)) : (l.run steps).Registered := by
  induction steps generalizing l with
  | nil => exact h
  | cons step rest ih => exact ih (h.after step)

/-! ## Locks and keys -/

/-- The requests for one key, oldest first. -/
def requestsFor (l : KeyedLocks κ ν) (key : κ) : List (LockRequest κ ν) :=
  l.requests.filter (·.key == key)

omit [DecidableEq ν] in
theorem mem_requestsFor {key : κ} {r : LockRequest κ ν} :
    r ∈ l.requestsFor key ↔ r ∈ l.requests ∧ r.key = key := by
  rw [requestsFor, List.mem_filter, beq_iff_eq]

namespace Registered

variable {r r' : LockRequest κ ν}

omit [DecidableEq ν] in
/-- Requests refer to one lock exactly when they are for one key. -/
theorem lock_eq_iff (h : l.Registered) (hr : r ∈ l.requests) (hr' : r' ∈ l.requests) :
    r.lock = r'.lock ↔ r.key = r'.key := by
  constructor
  · intro hlock
    exact h.injective (h.entry r hr) (hlock ▸ h.entry r' hr')
  · intro hkey
    exact Option.some.inj ((h.entry r hr).symm.trans (hkey ▸ h.entry r' hr'))

omit [DecidableEq ν] in
/-- The queue of a lock is the queue of its key. -/
theorem queue_eq (h : l.Registered) (hr : r ∈ l.requests) : l.queue r.lock = l.requestsFor r.key := by
  refine List.filter_congr fun r' hr' => ?_
  rw [Bool.eq_iff_iff, beq_iff_eq, beq_iff_eq, h.lock_eq_iff hr' hr]

theorem isHeld_iff (h : l.Registered) (hr : r ∈ l.requests) :
    l.isHeld r = true ↔ r ∈ holders (l.requestsFor r.key) := by
  rw [isHeld, h.queue_eq hr, List.contains_iff_mem]

/-- Who writes under a key has it alone. -/
theorem eq_of_isHeld (h : l.Registered) (hr : r ∈ l.requests) (hr' : r' ∈ l.requests)
    (hkey : r'.key = r.key) (hheld : l.isHeld r = true) (hwrite : r.side = .write)
    (hheld' : l.isHeld r' = true) : r' = r := by
  have hmem := (h.isHeld_iff hr).1 hheld
  have hmem' := (h.isHeld_iff hr').1 hheld'
  rw [hkey, holders_eq_singleton_of_write hmem hwrite] at hmem'
  exact List.mem_singleton.1 hmem'

end Registered

/-! ## What is granted at once -/

omit [DecidableEq κ] [DecidableEq ν] in
theorem mem_takeWhile_snoc_iff {p : LockRequest κ ν → Bool} {q : List (LockRequest κ ν)}
    {x : LockRequest κ ν} (hx : x ∉ q) :
    x ∈ (q ++ [x]).takeWhile p ↔ (∀ r ∈ q, p r = true) ∧ p x = true := by
  induction q with
  | nil => by_cases hp : p x = true <;> simp [hp]
  | cons a rest ih =>
    obtain ⟨hne, hrest⟩ := not_or.1 (mt List.mem_cons.2 hx)
    by_cases hp : p a = true
    · simp [hp, hne, ih hrest]
    · simp [hp]

omit [DecidableEq κ] [DecidableEq ν] in
/-- Who comes last holds the lock at once exactly when all who came before read, and so does
the last one. -/
theorem mem_holders_snoc_iff {q : List (LockRequest κ ν)} {x : LockRequest κ ν} (hx : x ∉ q) :
    x ∈ holders (q ++ [x]) ↔ ∀ r ∈ q, r.side = .read ∧ x.side = .read := by
  cases q with
  | nil => cases hs : x.side <;> simp [holders, hs]
  | cons a rest =>
    obtain ⟨hne, hrest⟩ := not_or.1 (mt List.mem_cons.2 hx)
    cases hs : a.side with
    | write => simp [holders, hs, hne]
    | read =>
      simp only [List.cons_append, holders, hs, List.mem_cons, hne, false_or,
        mem_takeWhile_snoc_iff hrest, beq_iff_eq, forall_eq_or_imp, true_and]
      constructor
      · rintro ⟨hall, hread⟩
        exact ⟨hread, fun r hr => ⟨hall r hr, hread⟩⟩
      · rintro ⟨hread, hall⟩
        exact ⟨fun r hr => (hall r hr).1, hread⟩

theorem isHeld_snoc_iff {x : LockRequest κ ν} (hx : x ∉ l.queue x.lock) (ticket : Nat) :
    ({ l with ticket := ticket, requests := l.requests ++ [x] } : KeyedLocks κ ν).isHeld x = true ↔
      ∀ r ∈ l.queue x.lock, r.side = .read ∧ x.side = .read := by
  have hqueue : queue { l with ticket := ticket, requests := l.requests ++ [x] } x.lock =
      l.queue x.lock ++ [x] := by simp [queue]
  rw [isHeld, hqueue, List.contains_iff_mem, mem_holders_snoc_iff hx]

theorem request_eq_or (l : KeyedLocks κ ν) (name : ν) (key : κ) (side : LockSide) :
    (l.request name key side).1 = .held ∨ (l.request name key side).1 = .waiting := by
  unfold request
  dsimp only
  split
  · exact Or.inl rfl
  · exact Or.inr rfl

/-- A request is granted at once exactly when all that stand for its key read, and so does the
new one. -/
theorem Registered.request_eq_held_iff (h : l.Registered) (name : ν) (key : κ) (side : LockSide) :
    (l.request name key side).1 = .held ↔
      ∀ r ∈ l.requests, r.key = key → r.side = .read ∧ side = .read := by
  obtain ⟨hlooked, hrequests, hentry⟩ := h.lockFor key
  set looked := (l.lockFor key).2
  let x : LockRequest κ ν := ⟨looked.ticket, name, key, (l.lockFor key).1, side⟩
  have hqueue : looked.queue x.lock = looked.requestsFor key := by
    refine List.filter_congr fun r hr => ?_
    rw [Bool.eq_iff_iff, beq_iff_eq, beq_iff_eq]
    constructor
    · intro hlock
      exact hlooked.injective ((hlooked.entry r hr).trans (congrArg some hlock)) hentry
    · intro hkey
      exact Option.some.inj ((hlooked.entry r hr).symm.trans (hkey ▸ hentry))
  -- the number of the new request is one that no other has
  have hnew : x ∉ looked.queue x.lock :=
    fun hmem => absurd (hlooked.earlier x (List.mem_filter.1 hmem).1) (Nat.lt_irrefl _)
  have hstate : (l.request name key side).1 =
      if isHeld { looked with ticket := looked.ticket + 1, requests := looked.requests ++ [x] } x
      then .held else .waiting := rfl
  have hstanding : (∀ r ∈ looked.queue x.lock, r.side = .read ∧ x.side = .read) ↔
      ∀ r ∈ l.requests, r.key = key → r.side = .read ∧ side = .read := by
    simp only [hqueue, mem_requestsFor, hrequests, and_imp, x]
  rw [hstate, ← hstanding, ← isHeld_snoc_iff hnew (looked.ticket + 1), ite_eq_left_iff]
  simp

/-! ## Holding a lock until it is given up -/

omit [DecidableEq κ] [DecidableEq ν] in
/-- A lock is held by the head of its queue, and by those before the first writer. -/
theorem mem_holders_iff {q : List (LockRequest κ ν)} {r : LockRequest κ ν} :
    r ∈ holders q ↔ q.head? = some r ∨ r ∈ q.takeWhile (·.side == .read) := by
  cases q with
  | nil => simp [holders]
  | cons a rest =>
    rw [List.head?_cons, Option.some.injEq, eq_comm]
    cases hs : a.side <;> simp [holders, hs]

omit [DecidableEq κ] [DecidableEq ν] in
theorem mem_of_mem_holders {q : List (LockRequest κ ν)} {r : LockRequest κ ν} (h : r ∈ holders q) :
    r ∈ q := by
  rcases mem_holders_iff.1 h with h | h
  · exact List.mem_of_head? h
  · exact List.takeWhile_subset _ h

omit [DecidableEq κ] [DecidableEq ν] in
/-- Who comes later takes nothing away. -/
theorem mem_holders_append {q : List (LockRequest κ ν)} {r : LockRequest κ ν} (h : r ∈ holders q)
    (later : List (LockRequest κ ν)) : r ∈ holders (q ++ later) := by
  rw [mem_holders_iff] at h ⊢
  rcases h with h | h
  · exact Or.inl (by rw [List.head?_append, h, Option.some_or])
  · rw [List.takeWhile_append]
    split
    · exact Or.inr (List.mem_append_left _ (List.takeWhile_subset _ h))
    · exact Or.inr h

omit [DecidableEq κ] [DecidableEq ν] in
theorem mem_takeWhile_filter {p t : LockRequest κ ν → Bool} {q : List (LockRequest κ ν)}
    {r : LockRequest κ ν} (h : r ∈ q.takeWhile t) (hp : p r = true) :
    r ∈ (q.filter p).takeWhile t := by
  induction q with
  | nil => simp at h
  | cons a rest ih =>
    by_cases ht : t a = true
    · rw [List.takeWhile_cons_of_pos ht, List.mem_cons] at h
      by_cases hpa : p a = true
      · rw [List.filter_cons_of_pos hpa, List.takeWhile_cons_of_pos ht, List.mem_cons]
        exact h.imp_right ih
      · rw [List.filter_cons_of_neg hpa]
        exact ih (h.resolve_left fun heq => hpa (heq ▸ hp))
    · simp [ht] at h

omit [DecidableEq κ] [DecidableEq ν] in
/-- Who leaves takes nothing away from those who stay. -/
theorem mem_holders_filter {q : List (LockRequest κ ν)} {r : LockRequest κ ν} (h : r ∈ holders q)
    {p : LockRequest κ ν → Bool} (hp : p r = true) : r ∈ holders (q.filter p) := by
  rw [mem_holders_iff] at h ⊢
  rcases h with h | h
  · obtain ⟨rest, rfl⟩ := List.head?_eq_some_iff.1 h
    exact Or.inl (by rw [List.filter_cons_of_pos hp, List.head?_cons])
  · exact Or.inr (mem_takeWhile_filter h hp)

/-- Who holds a lock holds it until they give it up. -/
theorem Registered.isHeld_after (h : l.Registered) {r : LockRequest κ ν} (hr : r ∈ l.requests)
    (hheld : l.isHeld r = true) (step : LockStep κ ν) (hr' : r ∈ (l.after step).requests) :
    (l.after step).isHeld r = true := by
  have hmem := (h.isHeld_iff hr).1 hheld
  rw [(h.after step).isHeld_iff hr']
  cases step with
  | ask name key side =>
    have hstays : (r.name != name) = true := by
      rw [KeyedLocks.after, requests_request, (h.lockFor key).2.1, List.mem_append,
        List.mem_filter] at hr'
      rcases hr' with hr' | hr'
      · exact hr'.2
      · -- the new request has a number of its own
        have hlt := (h.lockFor key).1.earlier r ((h.lockFor key).2.1 ▸ hr)
        rw [List.mem_singleton.1 hr'] at hlt
        exact absurd hlt (Nat.lt_irrefl _)
    rw [KeyedLocks.after, requestsFor, requests_request, (h.lockFor key).2.1, List.filter_append,
      List.filter_comm]
    exact mem_holders_append (mem_holders_filter hmem hstays) _
  | giveUp name =>
    rw [KeyedLocks.after] at hr' ⊢
    rcases l.release_cases name with heq | heq
    · rw [heq] at hr' ⊢
      rw [requestsFor, KeyedLocks.withdraw, List.filter_comm]
      exact mem_holders_filter hmem (List.mem_filter.1 hr').2
    · rw [heq]
      exact hmem

omit [DecidableEq κ] in
theorem mem_requests_release {name : ν} {r : LockRequest κ ν} :
    r ∈ (l.release name).2.requests ↔ r ∈ l.requests ∧ r.name ≠ name := by
  unfold release
  split
  · rw [withdraw, List.mem_filter, bne_iff_ne]
  · rename_i hnone
    rw [find?, List.find?_eq_none] at hnone
    exact ⟨fun hr => ⟨hr, fun hname => hnone r hr (beq_iff_eq.2 hname)⟩, And.left⟩

omit [DecidableEq κ] in
/-- Who gives up is told whether a request of theirs stood. -/
theorem release_told (l : KeyedLocks κ ν) (name : ν) :
    ((l.release name).1 = .released ↔ ∃ r ∈ l.requests, r.name = name) ∧
      ((l.release name).1 = .unknown ↔ ∀ r ∈ l.requests, r.name ≠ name) := by
  unfold release
  split
  · rename_i r hfound
    have hr : r ∈ l.requests := List.mem_of_find?_eq_some hfound
    have hname : r.name = name := by simpa using List.find?_some hfound
    exact ⟨iff_of_true rfl ⟨r, hr, hname⟩, iff_of_false nofun fun hall => hall r hr hname⟩
  · rename_i hnone
    rw [find?, List.find?_eq_none] at hnone
    have hall : ∀ r ∈ l.requests, r.name ≠ name :=
      fun r hr hname => hnone r hr (beq_iff_eq.2 hname)
    exact ⟨iff_of_false nofun fun ⟨r, hr, hname⟩ => hall r hr hname, iff_of_true rfl hall⟩

/-- A request that is made takes the place of an earlier one of its name. -/
theorem Registered.mem_requests_request_iff (h : l.Registered) {name : ν} {key : κ} {side : LockSide}
    {r : LockRequest κ ν} :
    r ∈ (l.request name key side).2.requests ↔ (r ∈ l.requests ∧ r.name ≠ name) ∨
      r = ⟨(l.lockFor key).2.ticket, name, key, (l.lockFor key).1, side⟩ := by
  rw [requests_request, (h.lockFor key).2.1, List.mem_append, List.mem_filter, bne_iff_ne,
    List.mem_singleton]

/-- A request that is made is new, and stands beside those of other names. -/
theorem Registered.exists_request (h : l.Registered) (name : ν) (key : κ) (side : LockSide) :
    ∃ r : LockRequest κ ν, r.name = name ∧ r.key = key ∧ r.side = side ∧ r ∉ l.requests ∧
      ∀ r', r' ∈ (l.request name key side).2.requests ↔
        (r' ∈ l.requests ∧ r'.name ≠ name) ∨ r' = r := by
  refine ⟨_, rfl, rfl, rfl, fun hmem => ?_, fun r' => h.mem_requests_request_iff⟩
  obtain ⟨hlooked, hrequests, -⟩ := h.lockFor key
  exact absurd (hlooked.earlier _ (hrequests ▸ hmem)) (Nat.lt_irrefl _)

/-- A request that was made holds its lock exactly when all that stand for its key under other
names read, and so does it. -/
theorem Registered.isHeld_request_iff (h : l.Registered) {name : ν} {key : κ} {side : LockSide}
    {r : LockRequest κ ν} (hr : r ∈ (l.request name key side).2.requests) (hname : r.name = name) :
    (l.request name key side).2.isHeld r = true ↔
      ∀ r' ∈ l.requests, r'.key = key → r'.name ≠ name → r'.side = .read ∧ side = .read := by
  have hmade := h.request name key side
  obtain rfl : r = ⟨(l.lockFor key).2.ticket, name, key, (l.lockFor key).1, side⟩ :=
    (h.mem_requests_request_iff.1 hr).resolve_left fun hold => hold.2 hname
  have hqueue : (l.request name key side).2.requestsFor key =
      (l.requestsFor key).filter (·.name != name) ++
        [⟨(l.lockFor key).2.ticket, name, key, (l.lockFor key).1, side⟩] := by
    rw [requestsFor, requests_request, (h.lockFor key).2.1, List.filter_append, List.filter_comm]
    simp [requestsFor]
  rw [hmade.isHeld_iff hr, hqueue, mem_holders_snoc_iff fun hmem => ?_]
  · simp only [List.mem_filter, mem_requestsFor, bne_iff_ne, and_imp]
  · exact bne_iff_ne.1 (List.mem_filter.1 hmem).2 rfl

/-- Who is told that they hold a lock does. Who is told that they wait does that too, unless an
earlier request of theirs was in the way. -/
theorem Registered.told (h : l.Registered) {name : ν} {key : κ} {side : LockSide}
    {r : LockRequest κ ν} (hr : r ∈ (l.request name key side).2.requests) (hname : r.name = name) :
    ((l.request name key side).1 = .held → (l.request name key side).2.isHeld r = true) ∧
      ((∀ r' ∈ l.requests, r'.key = key → r'.name ≠ name) → (l.request name key side).1 =
        if (l.request name key side).2.isHeld r then .held else .waiting) := by
  have hheld := h.isHeld_request_iff hr hname
  have htold := h.request_eq_held_iff name key side
  refine ⟨fun hstate => hheld.2 fun r' hr' hkey _ => htold.1 hstate r' hr' hkey, fun hothers => ?_⟩
  split
  · rename_i hgranted
    exact htold.2 fun r' hr' hkey => hheld.1 hgranted r' hr' hkey (hothers r' hr' hkey)
  · rename_i hwaits
    refine (l.request_eq_or name key side).resolve_left fun hstate => hwaits ?_
    exact hheld.2 fun r' hr' hkey _ => htold.1 hstate r' hr' hkey

/-- Giving up several locks takes away these requests and no others, and the others keep what
they hold. -/
theorem Registered.releaseAll (h : l.Registered) (names : List ν) :
    (l.releaseAll names).Registered ∧
      (∀ r, r ∈ (l.releaseAll names).requests ↔ r ∈ l.requests ∧ r.name ∉ names) ∧
      ∀ r ∈ (l.releaseAll names).requests, l.isHeld r = true →
        (l.releaseAll names).isHeld r = true := by
  induction names generalizing l with
  | nil => exact ⟨h, fun r => by simp [KeyedLocks.releaseAll], fun r _ hheld => hheld⟩
  | cons name rest ih =>
    obtain ⟨hreg, hmem, hheld⟩ := ih (h.release name)
    refine ⟨hreg, fun r => ?_, fun r hr hr' => ?_⟩
    · rw [KeyedLocks.releaseAll, List.foldl_cons, ← KeyedLocks.releaseAll, hmem, mem_requests_release,
        List.mem_cons, not_or, and_assoc]
    · have hbetween : r ∈ (l.release name).2.requests := ((hmem r).1 hr).1
      exact hheld r hr
        (h.isHeld_after (mem_requests_release.1 hbetween).1 hr' (.giveUp name) hbetween)

/-! ## Reading the state of a request -/

omit [DecidableEq ν] in
theorem Registered.eq_of_name (h : l.Registered) {r r' : LockRequest κ ν} (hr : r ∈ l.requests)
    (hr' : r' ∈ l.requests) (hname : r.name = r'.name) : r = r' :=
  List.inj_on_of_nodup_map h.distinct hr hr' hname

theorem Registered.find?_eq (h : l.Registered) {r : LockRequest κ ν} (hr : r ∈ l.requests) :
    l.find? r.name = some r := by
  cases hf : l.find? r.name with
  | none => exact absurd (beq_self_eq_true r.name) (List.find?_eq_none.1 hf r hr)
  | some r' =>
    have hname : r'.name = r.name := by simpa using List.find?_some hf
    rw [h.eq_of_name (List.mem_of_find?_eq_some hf) hr hname]

theorem Registered.state_eq (h : l.Registered) {r : LockRequest κ ν} (hr : r ∈ l.requests) :
    l.state r.name = if l.isHeld r then .held else .waiting := by
  rw [state, h.find?_eq hr]

theorem Registered.state_eq_held_iff (h : l.Registered) {r : LockRequest κ ν} (hr : r ∈ l.requests) :
    l.state r.name = .held ↔ l.isHeld r = true := by
  rw [h.state_eq hr]
  by_cases hheld : l.isHeld r = true <;> simp [hheld]

/-- When requests stand for a key one of them holds it. -/
theorem Registered.exists_holder (h : l.Registered) {r : LockRequest κ ν} (hr : r ∈ l.requests) :
    ∃ r' ∈ l.requests, r'.key = r.key ∧ l.isHeld r' = true := by
  have hne : l.requestsFor r.key ≠ [] := List.ne_nil_of_mem (mem_requestsFor.2 ⟨hr, rfl⟩)
  obtain ⟨r', hr'⟩ := List.exists_mem_of_ne_nil _ (holders_ne_nil hne)
  obtain ⟨hmem, hkey⟩ := mem_requestsFor.1 (mem_of_mem_holders hr')
  exact ⟨r', hmem, hkey, (h.isHeld_iff hmem).2 (hkey ▸ hr')⟩

/-! ## Counting the keys in use -/

omit [DecidableEq ν] in
/-- The registry counts the keys for which requests stand. -/
theorem Registered.active_eq (h : l.Registered) :
    l.active = (l.requests.map (·.key)).toFinset.card := by
  have hlive : l.active = ((l.entries.entries.filter fun e => l.inUse e.2).map (·.1)).length := by
    rw [active, Table.values, List.countP_map, List.countP_eq_length_filter, List.length_map]
    rfl
  have hnodup : ((l.entries.entries.filter fun e => l.inUse e.2).map (·.1)).Nodup :=
    l.entries.nodup.sublist (List.filter_sublist.map _)
  rw [hlive, ← List.toFinset_card_of_nodup hnodup]
  congr 1
  ext key
  simp only [List.mem_toFinset, List.mem_map, List.mem_filter, inUse_iff]
  constructor
  · rintro ⟨⟨k, lock⟩, ⟨hmem, r, hr, rfl⟩, rfl⟩
    exact ⟨r, hr, h.injective (h.entry r hr) ((l.entries.find?_eq_some_iff _ _).2 hmem)⟩
  · rintro ⟨r, hr, rfl⟩
    exact ⟨(r.key, r.lock), ⟨(l.entries.find?_eq_some_iff _ _).1 (h.entry r hr), r, hr, rfl⟩, rfl⟩

/-! ## Registries in use -/

/-- A step takes a lock away from its key only when nobody refers to it. -/
theorem not_inUse_of_after {key : κ} {lock : Nat} (hfind : l.entries.find? key = some lock)
    (step : LockStep κ ν) (hgone : (l.after step).entries.find? key ≠ some lock) :
    l.inUse lock = false := by
  cases step with
  | ask name asked side =>
    have hgone : (l.lockFor asked).2.entries.find? key ≠ some lock := hgone
    rcases l.lockFor_cases asked with ⟨_, -, -, heq⟩ | ⟨hunused, entries, hentries, heq⟩
    · rw [heq] at hgone
      exact absurd hfind hgone
    · by_cases hkey : key = asked
      · exact hunused lock (hkey ▸ hfind)
      · rw [heq, hentries, if_neg hkey, hfind] at hgone
        simpa [Option.filter] using hgone
  | giveUp name =>
    have hsame : (l.release name).2.entries = l.entries := by
      rcases l.release_cases name with heq | heq
      · rw [heq, withdraw]
      · rw [heq]
    exact absurd (hsame ▸ hfind) hgone

/-- What those who lock keys rely on. -/
structure IsFaithful (l : KeyedLocks κ ν) : Prop where
  /-- A request that is made is new, and stands beside those of other names. -/
  isMade : ∀ (name : ν) (key : κ) (side : LockSide), ∃ r : LockRequest κ ν,
    r.name = name ∧ r.key = key ∧ r.side = side ∧ r ∉ l.requests ∧
      ∀ r', r' ∈ (l.request name key side).2.requests ↔
        (r' ∈ l.requests ∧ r'.name ≠ name) ∨ r' = r
  /-- Who is told that they hold a key does. Who is told that they wait does that too, unless an
  earlier request of theirs for the key was in the way, which is gone by then. -/
  isTold : ∀ (name : ν) (key : κ) (side : LockSide),
    ∀ r ∈ (l.request name key side).2.requests, r.name = name →
      ((l.request name key side).1 = .held → (l.request name key side).2.isHeld r = true) ∧
      ((∀ r' ∈ l.requests, r'.key = key → r'.name ≠ name) → (l.request name key side).1 =
        if (l.request name key side).2.isHeld r then .held else .waiting)
  /-- Later they can ask which of the two it is. -/
  state_eq : ∀ r ∈ l.requests, l.state r.name = if l.isHeld r then .held else .waiting
  /-- Who gives up is told whether a request of theirs stood. It is gone, and no other is. -/
  isGone : ∀ name : ν,
    ((l.release name).1 = .released ↔ ∃ r ∈ l.requests, r.name = name) ∧
    ((l.release name).1 = .unknown ↔ ∀ r ∈ l.requests, r.name ≠ name) ∧
    ∀ r, r ∈ (l.release name).2.requests ↔ r ∈ l.requests ∧ r.name ≠ name
  /-- All who hold or wait for a key refer to one lock, and for two keys to two. -/
  lock_eq_iff : ∀ r ∈ l.requests, ∀ r' ∈ l.requests, r.lock = r'.lock ↔ r.key = r'.key
  /-- It is the lock that is registered under the key. -/
  isRegistered : ∀ r ∈ l.requests, l.entries.find? r.key = some r.lock
  /-- A lock is replaced or forgotten only when nobody holds it or waits for it. -/
  isKept : ∀ (step : LockStep κ ν) (key : κ) (lock : Nat), l.entries.find? key = some lock →
    (l.after step).entries.find? key ≠ some lock → ∀ r ∈ l.requests, r.lock ≠ lock
  /-- Who holds the write side of a key is the only one who holds the key. -/
  excludes : ∀ r ∈ l.requests, ∀ r' ∈ l.requests, r'.key = r.key → l.isHeld r = true →
    r.side = .write → l.isHeld r' = true → r' = r
  /-- Who holds a key holds it until they give it up. -/
  isLasting : ∀ (step : LockStep κ ν), ∀ r ∈ l.requests, l.isHeld r = true →
    r ∈ (l.after step).requests → (l.after step).isHeld r = true
  /-- Who holds a key is settled among the requests for that key. -/
  isHeld_iff : ∀ r ∈ l.requests, l.isHeld r = true ↔ r ∈ holders (l.requestsFor r.key)
  /-- A request is granted at once unless one for its own key is in the way. -/
  atOnce_iff : ∀ (name : ν) (key : κ) (side : LockSide), (l.request name key side).1 = .held ↔
    ∀ r ∈ l.requests, r.key = key → r.side = .read ∧ side = .read
  /-- The keys in use are counted. -/
  active_eq : l.active = (l.requests.map (·.key)).toFinset.card
  /-- When nobody holds or waits for anything no key is in use. -/
  active_nil : l.requests = [] → l.active = 0

/-- After any steps, in which anybody asks for any keys and gives up at any time, the registry
is one to rely on. -/
theorem run_isFaithful (steps : List (LockStep κ ν)) : (({} : KeyedLocks κ ν).run steps).IsFaithful := by
  have h : (({} : KeyedLocks κ ν).run steps).Registered := registered_empty.run steps
  refine
    { isMade := h.exists_request
      isTold := fun name key side r hr => h.told hr
      state_eq := fun r hr => h.state_eq hr
      isGone := fun name => ⟨(release_told _ name).1, (release_told _ name).2,
        fun r => mem_requests_release⟩
      lock_eq_iff := fun r hr r' hr' => h.lock_eq_iff hr hr'
      isRegistered := h.entry
      isKept := fun step key lock hfind hgone r hr hlock => ?_
      excludes := fun r hr r' hr' hkey => h.eq_of_isHeld hr hr' hkey
      isLasting := fun step r hr hheld => h.isHeld_after hr hheld step
      isHeld_iff := fun r hr => h.isHeld_iff hr
      atOnce_iff := h.request_eq_held_iff
      active_eq := h.active_eq
      active_nil := fun hnil => by
        rw [h.active_eq, hnil, List.map_nil, List.toFinset_nil, Finset.card_empty] }
  have hunused := not_inUse_of_after hfind step hgone
  rw [inUse_iff.2 ⟨r, hr, hlock⟩] at hunused
  cases hunused

end KeyedLocks

end QuizEngine
