/-!
# Pieces of a text

`pieces` are the parts of a text between the places where a separator stands. With the
separator between them they make up the text again (`intercalate_pieces`), and parts in which
it does not stand are the pieces of what they make up (`pieces_of_intercalate`).
-/

namespace QuizEngine.Text

/-- The parts of a text between the places where the separator stands. -/
def pieces (separator : Char) (s : String) : List String :=
  (s.toList.splitOn separator).map String.ofList

theorem intercalate_pieces (separator : Char) (s : String) :
    [separator].intercalate ((pieces separator s).map String.toList) = s.toList := by
  simp [pieces, Function.comp_def, List.intercalate_splitOn]

theorem pieces_of_intercalate {separator : Char} {s : String} {parts : List String}
    (hne : parts ≠ []) (hparts : ∀ p ∈ parts, separator ∉ p.toList)
    (hs : s.toList = [separator].intercalate (parts.map String.toList)) :
    pieces separator s = parts := by
  rw [pieces, hs, List.splitOn_intercalate separator (by simpa using hparts) (by simpa using hne)]
  simp [Function.comp_def]

end QuizEngine.Text
