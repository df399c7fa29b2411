import QuizEngine.Text.CaseTable

/-!
# Lower case

`lower` writes a text in lower case, character by character. One capital becomes two
characters, the dotted `I`, and one depends on its place: a capital sigma is lowered to
its final form when it ends a word, that is when a cased character stands before it and
none after it, case-ignorable characters passed over.

`contains` looks for one text inside another (`contains_iff`).
-/

namespace QuizEngine.Text

/-! ## One character -/

/-- The lower-case characters of a character other than capital sigma. -/
def lowerChar (c : Char) : List Char :=
  if c.toNat < 0x80 then [c.toLower]
  else if c.toNat = 0x130 then ['i', '\u0307']
  else
    match lowerCaseRuns.find? fun r =>
        r.first ≤ c.toNat && c.toNat ≤ r.last && (c.toNat - r.first) % r.step == 0 with
    | some r => [Char.ofNat (c.toNat + r.distance).toNat]
    | none => [c]

/-- Whether the first character that is not case-ignorable has a case. -/
def startsCased (s : List Char) : Bool :=
  match s.dropWhile (inRanges caseIgnorableRanges) with
  | [] => false
  | c :: _ => inRanges casedRanges c

/-! ## A text -/

/-- The lower case of the rest of a text, the characters before it in reverse. -/
def lowerFrom (before : List Char) : List Char → List Char
  | [] => []
  | c :: rest =>
    (if c = 'Σ' then
        [if startsCased before && !startsCased rest then 'ς' else 'σ']
      else lowerChar c) ++ lowerFrom (c :: before) rest

/-- The text in lower case. -/
def lower (s : List Char) : List Char := lowerFrom [] s

/-! ## A text inside a text -/

/-- Whether `part` stands somewhere in the text. -/
def contains (part : List Char) : List Char → Bool
  | [] => part.isEmpty
  | c :: rest => part.isPrefixOf (c :: rest) || contains part rest

theorem contains_iff (part s : List Char) : contains part s = true ↔ part <:+: s := by
  induction s with
  | nil => simp [contains]
  | cons c rest ih => simp [contains, List.infix_cons_iff, ih]

end QuizEngine.Text
