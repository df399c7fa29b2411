import QuizEngine.Text.HiddenTable

/-!
# Quoted text in messages

Messages quote the text they complain about. `quoted` puts it between quotation marks,
with a backslash before a quotation mark and a backslash, short names for the control
characters that have one, and the number of every other character that would not show.
-/

namespace QuizEngine.Text

/-- The digits of `n` to the base sixteen, without zeros in front. -/
def hexDigits (n : Nat) : List Char := Nat.toDigits 16 n

/-- One character of a quotation. -/
def quotedChar (c : Char) : List Char :=
  match c with
  | '"' => ['\\', '"']
  | '\\' => ['\\', '\\']
  | '\n' => ['\\', 'n']
  | '\r' => ['\\', 'r']
  | '\t' => ['\\', 't']
  | '\x00' => ['\\', '0']
  | c =>
    if 0x20 ≤ c.toNat ∧ c.toNat < 0x7f then [c]
    else if inRanges hiddenRanges c then ['\\', 'u', '\x7b'] ++ hexDigits c.toNat ++ ['\x7d']
    else [c]

/-- The text between quotation marks. -/
def quoted (s : String) : String :=
  String.ofList ('"' :: s.toList.flatMap quotedChar ++ ['"'])

end QuizEngine.Text
