/-!
# Tables

A `Table` holds at most one row per key, in the order in which the keys came in.
`Table.insert` gives a key a row, in the place of its old one where there is one. A table
is known by its `find?`: the lemmas say what an insertion does to it (`find?_insert_self`,
`find?_insert_of_ne`), and that the rows are the values found (`mem_values_iff`).

In a table that is `KeyedBy` a column every row stands under its own value of that column.
An insertion then replaces one row in its place (`values_insert_of_some`) or adds one at the
end (`values_insert_of_none`).
-/

namespace QuizEngine

/-- Rows under keys. -/
structure Table (κ α : Type) where
  /-- Keys with their rows. -/
  entries : List (κ × α)
  nodup : (entries.map (·.1)).Nodup

namespace Table

variable {κ α : Type} [DecidableEq κ]

omit [DecidableEq κ] in
/-- The table without rows. -/
def empty : Table κ α := ⟨[], List.nodup_nil⟩

instance : Inhabited (Table κ α) := ⟨empty⟩

/-! ## Lists of entries -/

/-- Gives a key a row. -/
def put (k : κ) (a : α) : List (κ × α) → List (κ × α)
  | [] => [(k, a)]
  | e :: rest => if e.1 = k then (k, a) :: rest else e :: put k a rest

theorem keys_put (k : κ) (a : α) (es : List (κ × α)) (j : κ) :
    j ∈ (put k a es).map (·.1) ↔ j = k ∨ j ∈ es.map (·.1) := by
  induction es with
  | nil => simp [put]
  | cons e rest ih =>
    unfold put
    split
    · rename_i h
      simp [h]
    · rw [List.map_cons, List.mem_cons, ih, List.map_cons, List.mem_cons, or_left_comm]

theorem nodup_put (k : κ) (a : α) {es : List (κ × α)} (h : (es.map (·.1)).Nodup) :
    ((put k a es).map (·.1)).Nodup := by
  induction es with
  | nil => simp [put]
  | cons e rest ih =>
    have hc := List.nodup_cons.1 h
    unfold put
    split
    · rename_i he
      rw [List.map_cons, List.nodup_cons]
      exact ⟨he ▸ hc.1, hc.2⟩
    · rename_i he
      rw [List.map_cons, List.nodup_cons, keys_put]
      exact ⟨fun ho => ho.elim he hc.1, ih hc.2⟩

theorem find?_put_self (k : κ) (a : α) (es : List (κ × α)) :
    (put k a es).find? (fun e => decide (e.1 = k)) = some (k, a) := by
  induction es with
  | nil => simp [put]
  | cons e rest ih =>
    unfold put
    split
    · simp
    · rename_i h
      rw [List.find?_cons_of_neg (by simpa using h), ih]

theorem find?_put_of_ne {k j : κ} (h : j ≠ k) (a : α) (es : List (κ × α)) :
    (put k a es).find? (fun e => decide (e.1 = j)) = es.find? (fun e => decide (e.1 = j)) := by
  induction es with
  | nil => simp [put, h.symm]
  | cons e rest ih =>
    unfold put
    split
    · rename_i he
      rw [List.find?_cons_of_neg (by simpa using h.symm),
        List.find?_cons_of_neg (by simpa [he] using h.symm)]
    · by_cases hj : e.1 = j
      · simp [hj]
      · rw [List.find?_cons_of_neg (by simpa using hj), List.find?_cons_of_neg (by simpa using hj),
          ih]

theorem put_put (k : κ) (a b : α) (es : List (κ × α)) : put k a (put k b es) = put k a es := by
  induction es with
  | nil => simp [put]
  | cons e rest ih =>
    by_cases he : e.1 = k
    · simp [put, he]
    · simp [put, he, ih]

theorem put_comm {k j : κ} (hne : k ≠ j) {es : List (κ × α)} (hk : k ∈ es.map (·.1)) (a b : α) :
    put j b (put k a es) = put k a (put j b es) := by
  induction es with
  | nil => cases hk
  | cons e rest ih =>
    by_cases hek : e.1 = k
    · have hej : e.1 ≠ j := fun hej => hne (hek.symm.trans hej)
      simp [put, hek, hne]
    · by_cases hej : e.1 = j
      · simp [put, hej, hne.symm]
      · have hrest : k ∈ rest.map (·.1) :=
          (List.mem_cons.1 (List.map_cons ▸ hk)).resolve_left fun h => hek h.symm
        simp [put, hek, hej, ih hrest]

theorem put_of_find? {k : κ} {a : α} {es : List (κ × α)}
    (h : es.find? (fun e => decide (e.1 = k)) = some (k, a)) : put k a es = es := by
  induction es with
  | nil => simp at h
  | cons e rest ih =>
    unfold put
    split
    · rename_i he
      rw [List.find?_cons_of_pos (by simpa using he)] at h
      rw [Option.some.inj h]
    · rename_i he
      rw [List.find?_cons_of_neg (by simpa using he)] at h
      rw [ih h]

/-! ## Operations -/

/-- The row of a key. -/
def find? (t : Table κ α) (k : κ) : Option α :=
  (t.entries.find? fun e => decide (e.1 = k)).map (·.2)

/-- Whether a key has a row. -/
def contains (t : Table κ α) (k : κ) : Bool := (t.find? k).isSome

/-- Gives a key a row. -/
def insert (t : Table κ α) (k : κ) (a : α) : Table κ α :=
  ⟨put k a t.entries, nodup_put k a t.nodup⟩

/-- Gives a key a row unless it has one. -/
def insertNew (t : Table κ α) (k : κ) (a : α) : Table κ α :=
  if t.contains k then t else t.insert k a

omit [DecidableEq κ] in
/-- The rows. -/
def values (t : Table κ α) : List α := t.entries.map (·.2)

omit [DecidableEq κ] in
/-- The rows whose keys pass a test. -/
def filterKeys (t : Table κ α) (p : κ → Bool) : Table κ α :=
  ⟨t.entries.filter fun e => p e.1,
    t.nodup.sublist (List.filter_sublist.map _)⟩

omit [DecidableEq κ] in
/-- The table with every row changed in its place. -/
def map {β : Type} (t : Table κ α) (f : α → β) : Table κ β :=
  ⟨t.entries.map fun e => (e.1, f e.2), by
    rw [List.map_map]
    exact t.nodup⟩

omit [DecidableEq κ] in
@[simp]
theorem values_map {β : Type} (t : Table κ α) (f : α → β) : (t.map f).values = t.values.map f := by
  rw [values, values, map, List.map_map, List.map_map]
  rfl

@[simp]
theorem find?_empty (k : κ) : (empty : Table κ α).find? k = none := rfl

@[simp]
theorem find?_insert_self (t : Table κ α) (k : κ) (a : α) : (t.insert k a).find? k = some a := by
  simp [find?, insert, find?_put_self]

@[simp]
theorem find?_insert_of_ne (t : Table κ α) {k j : κ} (h : j ≠ k) (a : α) :
    (t.insert k a).find? j = t.find? j := by
  simp [find?, insert, find?_put_of_ne h]

theorem find?_insert (t : Table κ α) (k j : κ) (a : α) :
    (t.insert k a).find? j = if j = k then some a else t.find? j := by
  split
  · rename_i h
    rw [h, find?_insert_self]
  · rename_i h
    rw [find?_insert_of_ne t h]

/-- Of two rows that are given to one key the later is kept. -/
@[simp]
theorem insert_insert (t : Table κ α) (k : κ) (a b : α) :
    (t.insert k b).insert k a = t.insert k a := by
  simp only [insert, put_put]

/-- What is found under a key is an entry with that key. -/
theorem find?_eq_some_iff (t : Table κ α) (k : κ) (a : α) :
    t.find? k = some a ↔ (k, a) ∈ t.entries := by
  obtain ⟨es, hn⟩ := t
  simp only [find?]
  induction es with
  | nil => simp
  | cons e rest ih =>
    have hc := List.nodup_cons.1 hn
    by_cases he : e.1 = k
    · rw [List.find?_cons_of_pos (by simpa using he)]
      constructor
      · intro h
        have h2 : e.2 = a := by simpa using h
        simp [← he, ← h2]
      · intro h
        rcases List.mem_cons.1 h with h | h
        · simp [← h]
        · exact absurd (List.mem_map.2 ⟨(k, a), h, he.symm⟩) hc.1
    · rw [List.find?_cons_of_neg (by simpa using he), ih hc.2, List.mem_cons]
      constructor
      · exact Or.inr
      · rintro (h | h)
        · exact absurd (by rw [← h]) he
        · exact h

/-- A key that is given the row it has leaves the table as it is. -/
theorem insert_of_find? {t : Table κ α} {k : κ} {a : α} (h : t.find? k = some a) : t.insert k a = t := by
  obtain ⟨⟨j, b⟩, he, rfl⟩ := Option.map_eq_some_iff.1 h
  obtain rfl : j = k := by simpa using List.find?_some he
  simp only [insert, put_of_find? he]

/-- The rows are those found under some key. -/
theorem mem_values_iff (t : Table κ α) (a : α) : a ∈ t.values ↔ ∃ k, t.find? k = some a := by
  simp only [values, List.mem_map, find?_eq_some_iff]
  constructor
  · rintro ⟨e, he, rfl⟩
    exact ⟨e.1, he⟩
  · rintro ⟨k, hk⟩
    exact ⟨(k, a), hk, rfl⟩

/-- The rows that are left when only the keys that pass a test are. -/
theorem find?_filterKeys (t : Table κ α) (p : κ → Bool) (k : κ) :
    (t.filterKeys p).find? k = if p k then t.find? k else none := by
  simp only [find?, filterKeys]
  induction t.entries with
  | nil => simp
  | cons e rest ih =>
    by_cases hp : p e.1 = true
    · rw [List.filter_cons_of_pos (by simpa using hp)]
      by_cases he : e.1 = k
      · simp [← he, hp]
      · rw [List.find?_cons_of_neg (by simpa using he), List.find?_cons_of_neg (by simpa using he), ih]
    · rw [List.filter_cons_of_neg (by simpa using hp), ih]
      by_cases he : e.1 = k
      · simp [← he, hp]
      · rw [List.find?_cons_of_neg (by simpa using he)]

@[simp]
theorem find?_map {β : Type} (t : Table κ α) (f : α → β) (k : κ) :
    (t.map f).find? k = (t.find? k).map f := by
  simp [find?, map, List.find?_map, Function.comp_def]

theorem map_put {β : Type} (f : α → β) (k : κ) (a : α) (es : List (κ × α)) :
    (put k a es).map (fun e => (e.1, f e.2)) = put k (f a) (es.map fun e => (e.1, f e.2)) := by
  induction es with
  | nil => rfl
  | cons e rest ih =>
    rw [List.map_cons, put, put]
    split
    · rfl
    · rw [List.map_cons, ih]

/-- Rows are changed in their places before or after one is put. -/
theorem map_insert {β : Type} (t : Table κ α) (f : α → β) (k : κ) (a : α) :
    (t.insert k a).map f = (t.map f).insert k (f a) := by
  simp only [map, insert, map_put]

/-! ## Rows in their order -/

theorem put_of_mem {k : κ} {es : List (κ × α)} (hn : (es.map (·.1)).Nodup)
    (hk : k ∈ es.map (·.1)) (a : α) :
    put k a es = es.map fun e => if e.1 = k then (k, a) else e := by
  induction es with
  | nil => simp at hk
  | cons e rest ih =>
    have hc := List.nodup_cons.1 hn
    unfold put
    split
    · rename_i he
      have hrest : rest.map (fun e => if e.1 = k then (k, a) else e) = rest.map id := by
        refine List.map_congr_left fun x hx => if_neg fun hxk => ?_
        exact hc.1 (List.mem_map.2 ⟨x, hx, hxk.trans he.symm⟩)
      rw [List.map_cons, if_pos he, hrest, List.map_id]
    · rename_i he
      have hmem : k ∈ rest.map (·.1) := by
        rcases List.mem_cons.1 hk with h | h
        · exact absurd h.symm he
        · exact h
      rw [List.map_cons, if_neg he, ih hc.2 hmem]

theorem put_of_not_mem {k : κ} {es : List (κ × α)} (hk : k ∉ es.map (·.1)) (a : α) :
    put k a es = es ++ [(k, a)] := by
  induction es with
  | nil => rfl
  | cons e rest ih =>
    rw [List.map_cons, List.mem_cons, not_or] at hk
    unfold put
    rw [if_neg (fun h => hk.1 h.symm), ih hk.2, List.cons_append]

theorem mem_keys_iff (t : Table κ α) (k : κ) : k ∈ t.entries.map (·.1) ↔ ∃ a, t.find? k = some a := by
  simp only [find?_eq_some_iff, List.mem_map]
  constructor
  · rintro ⟨e, he, rfl⟩
    exact ⟨e.2, he⟩
  · rintro ⟨a, ha⟩
    exact ⟨(k, a), ha, rfl⟩

/-- Two keys are given rows in any order, when one of them has a row already. -/
theorem insert_comm (t : Table κ α) {k j : κ} {c : α} (hk : t.find? k = some c) (hne : k ≠ j)
    (a b : α) : (t.insert k a).insert j b = (t.insert j b).insert k a := by
  simp only [insert, put_comm hne ((mem_keys_iff t k).2 ⟨c, hk⟩)]

/-- A row under a new key comes last. -/
theorem values_insert_of_none {t : Table κ α} {k : κ} (h : t.find? k = none) (a : α) :
    (t.insert k a).values = t.values ++ [a] := by
  have hk : k ∉ t.entries.map (·.1) := by
    rw [mem_keys_iff]
    rintro ⟨b, hb⟩
    simp [h] at hb
  simp [values, insert, put_of_not_mem hk]

/-- Every row stands under its own `key`. -/
def KeyedBy (t : Table κ α) (key : α → κ) : Prop := ∀ k a, t.find? k = some a → key a = k

namespace KeyedBy

variable {t : Table κ α} {key : α → κ}

theorem empty (key : α → κ) : (Table.empty : Table κ α).KeyedBy key := by
  intro k a h
  simp at h

theorem insert (h : t.KeyedBy key) {k : κ} {a : α} (hk : key a = k) : (t.insert k a).KeyedBy key := by
  intro j b hb
  rw [find?_insert] at hb
  split at hb
  · rename_i hj
    rw [hj, ← Option.some.inj hb, hk]
  · exact h j b hb

theorem mem_values_iff (h : t.KeyedBy key) (a : α) : a ∈ t.values ↔ t.find? (key a) = some a := by
  rw [Table.mem_values_iff]
  constructor
  · rintro ⟨k, hk⟩
    rw [h k a hk, hk]
  · exact fun ha => ⟨_, ha⟩

theorem map_key_values (h : t.KeyedBy key) : t.values.map key = t.entries.map (·.1) := by
  rw [values, List.map_map]
  refine List.map_congr_left fun e he => ?_
  exact h e.1 e.2 ((find?_eq_some_iff t e.1 e.2).2 he)

theorem nodup_map_key (h : t.KeyedBy key) : (t.values.map key).Nodup := h.map_key_values ▸ t.nodup

/-- A row under a key that has one takes its place. -/
theorem values_insert_of_some (h : t.KeyedBy key) {k : κ} {b : α} (hb : t.find? k = some b) (a : α) :
    (t.insert k a).values = t.values.map fun x => if key x = k then a else x := by
  have hput := put_of_mem t.nodup ((mem_keys_iff t k).2 ⟨b, hb⟩) a
  simp only [values, Table.insert, hput, List.map_map]
  refine List.map_congr_left fun e he => ?_
  have hkey : key e.2 = e.1 := h e.1 e.2 ((find?_eq_some_iff t e.1 e.2).2 he)
  simp only [Function.comp_apply, hkey]
  split <;> rfl

end KeyedBy

end Table

end QuizEngine
