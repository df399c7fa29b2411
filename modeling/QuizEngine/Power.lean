/-!
# Powers of two and of ten

Bounds of numbers are powers of two, and digits move by powers of ten. `tenTo_add` moves
them in two steps, `tenTo_le_tenTo` compares two moves.
-/

namespace QuizEngine

/-- The power of two of an exponent. -/
def twoTo (exponent : Nat) : Nat := Nat.pow 2 exponent

/-- The power of ten of an exponent. -/
def tenTo (exponent : Nat) : Nat := Nat.pow 10 exponent

@[simp]
theorem tenTo_zero : tenTo 0 = 1 := rfl

theorem tenTo_pos (n : Nat) : 0 < tenTo n := Nat.pow_pos (by decide)

theorem tenTo_add (m n : Nat) : tenTo (m + n) = tenTo m * tenTo n := Nat.pow_add 10 m n

/-- A greater exponent makes a greater power. -/
theorem tenTo_le_tenTo {m n : Nat} (h : m ≤ n) : tenTo m ≤ tenTo n :=
  Nat.pow_le_pow_right (by decide) h

end QuizEngine
