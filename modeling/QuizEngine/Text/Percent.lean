/-!
# Bytes behind percent signs

In an address a byte may be written as a percent sign and two hexadecimal digits.
`unescaped` puts such bytes in their place; a percent sign without two digits behind it
stands for itself, and so does every other byte.
-/

namespace QuizEngine.Text

/-- The value of a hexadecimal digit. -/
def hexByte? (b : UInt8) : Option UInt8 :=
  if 48 ≤ b ∧ b ≤ 57 then some (b - 48)
  else if 97 ≤ b ∧ b ≤ 102 then some (b - 87)
  else if 65 ≤ b ∧ b ≤ 70 then some (b - 55)
  else none

/-- Bytes with each percent sign and the two digits behind it as the byte they stand for. -/
def unescaped : List UInt8 → List UInt8
  | 37 :: a :: b :: rest =>
    match hexByte? a, hexByte? b with
    | some high, some low => (high * 16 + low) :: unescaped rest
    | _, _ => 37 :: unescaped (a :: b :: rest)
  | b :: rest => b :: unescaped rest
  | [] => []

/-- The bytes of a text, each percent sign and two digits as the byte they stand for. -/
def unescapedBytes (s : List Char) : List UInt8 := unescaped (String.ofList s).toUTF8.toList

end QuizEngine.Text
