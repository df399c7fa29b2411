import QuizEngine.Proofs.Effects

/-!
# Writes that are made to fail

Grades of some answers cannot be written, and the next writes of some attempts come too late.
A row that is written over a stored one meets nothing else: `gradeObstacle?_of_stored` for the
grade of an answer, `checkVersion_eq` for an attempt in the version that is stored.

How many conflicts are left is no part of the rows. `Store.withConflicts` is the store with
other conflicts: it is read as before, and puts rows as before.
-/

namespace QuizEngine.Store

variable {s : Store}

/-! ## Other conflicts -/

/-- The store with other forced conflicts. -/
def withConflicts (s : Store) (conflicts : Table Uuid Nat) : Store :=
  { s with forcedConflicts := conflicts }

theorem sameRows_withConflicts (s : Store) (conflicts : Table Uuid Nat) :
    s.SameRows (s.withConflicts conflicts) := ⟨⟨rfl, rfl, rfl⟩, rfl, rfl⟩

theorem sameRows_forceConflicts (s : Store) (attemptId : Uuid) (times : Nat) :
    s.SameRows (s.forceConflicts attemptId times) := s.sameRows_withConflicts _

theorem writes_withConflicts (s : Store) (conflicts : Table Uuid Nat) :
    s.Writes .aside (s.withConflicts conflicts) := .aside

/-- So many writes of the attempt are to fail as were asked for. -/
@[simp]
theorem conflictsLeft_forceConflicts (s : Store) (attemptId : Uuid) (times : Nat) :
    (s.forceConflicts attemptId times).conflictsLeft attemptId = times := by
  rw [conflictsLeft, forceConflicts, Table.find?_insert_self, Option.getD_some]

/-! ## Attempts -/

/-- The version that is stored is taken, unless a conflict is left. -/
theorem checkVersion_eq {attempt stored : Attempt} (hstored : s.findAttempt attempt.id = some stored)
    (hversion : stored.version = attempt.version) :
    s.checkVersion attempt = match s.conflictsLeft attempt.id with
      | left + 1 => (.error (lateWrite attempt.id), s.forceConflicts attempt.id left)
      | 0 => (.ok (), s) := by
  rw [checkVersion, hstored]
  cases s.conflictsLeft attempt.id with
  | zero => simp only [hversion, if_pos]
  | succ left => rfl

/-- An attempt is written over the one in the same version, unless a conflict is left. -/
theorem updateAttempt_eq {attempt stored : Attempt}
    (hstored : s.findAttempt attempt.id = some stored) (hversion : stored.version = attempt.version) :
    s.updateAttempt attempt = match s.conflictsLeft attempt.id with
      | left + 1 => (.error (lateWrite attempt.id), s.forceConflicts attempt.id left)
      | 0 => (.ok (nextVersion attempt), s.putAttempt (nextVersion attempt)) := by
  rw [updateAttempt, checkVersion_eq hstored hversion]
  cases s.conflictsLeft attempt.id <;> rfl

/-! ## Grades -/

/-- What is reported of an answer whose grade cannot be written. -/
def gradeUnwritable (answerId : Uuid) : Error :=
  .internal s!"grade write for answer {answerId} failed"

/-- The grade of a stored answer is written unless that is made to fail. -/
theorem gradeObstacle?_of_stored {answerId : Uuid} {old : Answer}
    (hold : s.findAnswer answerId = some old) :
    s.gradeObstacle? answerId =
      if answerId ∈ s.unwritableGrades then some (gradeUnwritable answerId) else none := by
  have hstored : s.answers.contains answerId = true := Option.isSome_iff_exists.2 ⟨old, hold⟩
  rw [gradeObstacle?, if_pos hstored]
  rfl

/-- A grade of the stored answer is written as it is, where it can be. -/
theorem gradedRow?_of_stored {row old : Answer} (hold : s.findAnswer row.id = some old)
    (hrow : old.withGradeOf row = row) :
    s.gradedRow? row =
      if row.id ∈ s.unwritableGrades then .error (gradeUnwritable row.id) else .ok row := by
  rw [gradedRow?, hold, gradeObstacle?_of_stored hold]
  by_cases hmarked : row.id ∈ s.unwritableGrades
  · simp only [if_pos hmarked]
  · simp only [if_neg hmarked, hrow]

theorem saveGrade_of_stored {row old : Answer} (hold : s.findAnswer row.id = some old)
    (hrow : old.withGradeOf row = row) :
    s.saveGrade row = if row.id ∈ s.unwritableGrades then .error (gradeUnwritable row.id)
      else .ok (row, s.putAnswer row) := by
  rw [saveGrade, gradedRow?_of_stored hold hrow]
  split <;> rfl

/-- A row that is stored is put there to no effect. -/
theorem putAnswer_of_stored {row : Answer} (h : s.findAnswer row.id = some row) :
    s.putAnswer row = s := by
  rw [putAnswer, Table.insert_of_find? h]

/-- Of two rows that are put under one identifier the later is kept. -/
theorem putAnswer_putAnswer (s : Store) {row other : Answer} (hid : row.id = other.id) :
    (s.putAnswer other).putAnswer row = s.putAnswer row := by
  simp only [putAnswer, hid, Table.insert_insert]

end QuizEngine.Store
