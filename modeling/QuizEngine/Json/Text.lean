import QuizEngine.Json.Basic

/-!
# Compact JSON text

`Json.toText` writes a value without any space, the fields of an object in the order in
which they stand. Letters beyond ASCII stand as they are; a quotation mark, a backslash
and the control characters are escaped, in the short form where there is one.
-/

namespace QuizEngine.Json

/-- One digit to the base sixteen. -/
def hexDigit (n : Nat) : Char := (Nat.digitChar (n % 16))

/-- One character inside a JSON string. -/
def escaped (c : Char) : List Char :=
  match c with
  | '"' => ['\\', '"']
  | '\\' => ['\\', '\\']
  | '\x08' => ['\\', 'b']
  | '\x0c' => ['\\', 'f']
  | '\n' => ['\\', 'n']
  | '\r' => ['\\', 'r']
  | '\t' => ['\\', 't']
  | c =>
    if c.toNat < 0x20 then ['\\', 'u', '0', '0', hexDigit (c.toNat / 16), hexDigit c.toNat]
    else [c]

/-- A JSON string. -/
def stringText (s : String) : String :=
  String.ofList ('"' :: s.toList.flatMap escaped ++ ['"'])

mutual

/-- The compact text of a value. -/
def toText : Json → String
  | .null => "null"
  | .bool b => if b then "true" else "false"
  | .integer n => toString n
  | .float x => x.toText
  | .text s => stringText s
  | .array items => "[" ++ itemsText items ++ "]"
  | .object fields => "\x7b" ++ fieldsText fields ++ "\x7d"

/-- Items with commas between them. -/
def itemsText : List Json → String
  | [] => ""
  | [v] => v.toText
  | v :: rest => v.toText ++ "," ++ itemsText rest

/-- Fields with commas between them. -/
def fieldsText : List (String × Json) → String
  | [] => ""
  | [(name, v)] => stringText name ++ ":" ++ v.toText
  | (name, v) :: rest => stringText name ++ ":" ++ v.toText ++ "," ++ fieldsText rest

end

end QuizEngine.Json
