import QuizEngine.Json.Basic

/-!
# Reading JSON text

`Draft.read` reads bytes from the left as far as they are JSON and keeps what it has read,
also when the text breaks off or goes wrong somewhere: then the place stands as `broken`,
or as a list that is not closed, and nothing after it is read. A reader of a draft can
thus complain about whatever comes first in the text, a value of the wrong kind or the
break.

A number may be too large and a string may be no text, and the text goes on behind them. Of
such a value a draft says whether the fault shows only when the whole value has been read.

`Draft.toJson?` is the value of a draft without a fault, its fields sorted and of a
repeated name the last one. `Json.parse?` is the value of a whole text.
-/

namespace QuizEngine

/-- What can be read of a JSON text. -/
inductive Draft where
  /-- A value that is no list: null, a boolean, a number or a string. -/
  | scalar (v : Json)
  /-- A number that is larger than every floating point number. -/
  | oversized (atEnd : Bool)
  /-- A string that names one half of a pair of code units, or whose bytes are no text. -/
  | badText (atEnd : Bool)
  /-- The items read, and whether the closing bracket was. -/
  | array (items : List Draft) (closed : Bool)
  /-- The fields read in order, and whether the closing brace was; a name that is no text is
  missing. -/
  | object (fields : List (Option String × Draft)) (closed : Bool)
  /-- No value starts here. -/
  | broken

namespace Draft

/-! ## Pieces of the text

A byte is read as the character of its number. -/

/-- The four blanks of JSON. -/
def isSpace (c : Char) : Bool := c == ' ' || c == '\n' || c == '\t' || c == '\r'

/-- The text from its first character that is not a blank. -/
def skipSpace (s : List Char) : List Char := s.dropWhile isSpace

/-- The value of a digit to the base sixteen. -/
def hexValue? (c : Char) : Option Nat :=
  if '0' ≤ c ∧ c ≤ '9' then some (c.toNat - 48)
  else if 'a' ≤ c ∧ c ≤ 'f' then some (c.toNat - 87)
  else if 'A' ≤ c ∧ c ≤ 'F' then some (c.toNat - 55)
  else none

/-- A string as far as it was read. -/
structure StringState where
  /-- The bytes, the last one first. -/
  bytes : List UInt8 := []
  /-- The first half of a pair of code units, which waits for the second. -/
  half : Option Nat := none
  /-- Whether every half found the other one so far. -/
  whole : Bool := true

/-- The bytes of a character, the last one first. -/
def reversedBytes (c : Char) : List UInt8 := (String.singleton c).toUTF8.toList.reverse

/-- Adds bytes, given the last one first. -/
def StringState.push (st : StringState) (bytes : List UInt8) : StringState :=
  ⟨bytes ++ st.bytes, none, st.whole && st.half.isNone⟩

/-- Adds a code unit of sixteen bits. -/
def StringState.pushUnit (st : StringState) (n : Nat) : StringState :=
  match st.half with
  | some high =>
    if 0xdc00 ≤ n ∧ n < 0xe000 then
      let c := Char.ofNat (0x10000 + (high - 0xd800) * 0x400 + (n - 0xdc00))
      ⟨reversedBytes c ++ st.bytes, none, st.whole⟩
    else ⟨st.bytes, none, false⟩
  | none =>
    if 0xd800 ≤ n ∧ n < 0xdc00 then { st with half := some n }
    else if 0xdc00 ≤ n ∧ n < 0xe000 then { st with whole := false }
    else { st with bytes := reversedBytes (Char.ofNat n) ++ st.bytes }

/-- The text at the closing mark, or whether the fault shows only there: a half that still
waits, or bytes that are no text. -/
def StringState.result (st : StringState) : Except Bool String :=
  if !st.whole then .error false
  else if st.half.isSome then .error true
  else
    match String.fromUTF8? (ByteArray.mk st.bytes.reverse.toArray) with
    | some s => .ok s
    | none => .error true

/-- The character a backslash and this one stand for. -/
def shortEscape? : Char → Option Char
  | '"' => some '"'
  | '\\' => some '\\'
  | '/' => some '/'
  | 'b' => some '\x08'
  | 'f' => some '\x0c'
  | 'n' => some '\n'
  | 'r' => some '\r'
  | 't' => some '\t'
  | _ => none

/-- Reads a string on to its closing mark; none where there is no string. -/
def string : List Char → StringState → Option (Except Bool String × List Char)
  | [], _ => none
  | '"' :: rest, st => some (st.result, rest)
  | '\\' :: 'u' :: a :: b :: c :: d :: rest, st =>
    match hexValue? a, hexValue? b, hexValue? c, hexValue? d with
    | some a, some b, some c, some d => string rest (st.pushUnit (((a * 16 + b) * 16 + c) * 16 + d))
    | _, _, _, _ => none
  | '\\' :: c :: rest, st =>
    match shortEscape? c with
    | some c => string rest (st.push [UInt8.ofNat c.toNat])
    | none => none
  | ['\\'], _ => none
  | c :: rest, st =>
    if c.toNat < 0x20 then none else string rest (st.push [UInt8.ofNat c.toNat])

/-- The digits at the start of a text and what follows them. -/
def digits (s : List Char) : List Char × List Char := (s.takeWhile Char.isDigit, s.dropWhile Char.isDigit)

/-- The number that the digits stand for. -/
def digitsValue (ds : List Char) : Nat := ds.foldl (fun n c => n * 10 + (c.toNat - 48)) 0

/-- Reads digits into a number below `2 ^ 64` as long as they fit, and counts those read
and those left over. -/
def significand : List Char → (n read : Nat) → Nat × Nat × Nat
  | [], n, read => (n, read, 0)
  | c :: rest, n, read =>
    if n * 10 + (c.toNat - 48) < twoTo 64 then significand rest (n * 10 + (c.toNat - 48)) (read + 1)
    else (n, read, rest.length + 1)

/-- The number of a sign, digits, digits behind a point, and an exponent. Without a point
and an exponent it is whole when it fits into sixty-four bits with its sign, and minus
zero is a floating point number. Digits before the point that no longer fit count as
zeros; those behind it go on from what fitted, as long as they fit themselves. -/
def numberOf (negative : Bool) (whole fraction : List Char) (exponent : Option Int) (atEnd : Bool) :
    Draft :=
  let (n, _, excess) := significand whole 0 0
  let plain := fraction.isEmpty && exponent.isNone
  if plain ∧ excess = 0 ∧ !negative then .scalar (.integer n)
  else if plain ∧ excess = 0 ∧ n ≠ 0 ∧ n ≤ twoTo 63 then .scalar (.integer (-n))
  else
    let (n, read, _) := significand fraction n 0
    let moved : Int := (excess : Int) - read
    match Binary64.ofDigits? negative n (moved + exponent.getD 0) with
    | some x => .scalar (.float x)
    | none => .oversized atEnd

/-- Whether an exponent of these digits is too large for thirty-two bits before its last
digit. -/
def overruns (ds : List Char) : Bool := decide (twoTo 31 ≤ digitsValue ds.dropLast)

/-- Reads a number behind its sign. -/
def unsigned (negative : Bool) (s : List Char) : Draft × Option (List Char) :=
  let (whole, rest) := digits s
  if whole.isEmpty ∨ (whole.head? = some '0' ∧ whole.length ≠ 1) then (.broken, none)
  else
    let (fraction, rest, wrong) := match rest with
      | '.' :: r => ((digits r).1, (digits r).2, (digits r).1.isEmpty)
      | r => ([], r, false)
    if wrong then (.broken, none)
    else
      match rest with
      | c :: r =>
        if c = 'e' ∨ c = 'E' then
          let (below, r) := match r with
            | '-' :: r => (true, r)
            | '+' :: r => (false, r)
            | r => (false, r)
          let (ds, r) := digits r
          if ds.isEmpty then (.broken, none)
          else
            let size : Int := digitsValue ds
            (numberOf negative whole fraction (some (if below then -size else size)) (!overruns ds),
              some r)
        else (numberOf negative whole fraction none true, some rest)
      | [] => (numberOf negative whole fraction none true, some [])

/-- What follows a word, where the text starts with it. -/
def afterWord? (word s : List Char) : Option (List Char) :=
  if word.isPrefixOf s then some (s.drop word.length) else none

/-- Reads a value that is a word. -/
def word (w : String) (v : Json) (s : List Char) : Draft × Option (List Char) :=
  match afterWord? w.toList s with
  | some rest => (.scalar v, some rest)
  | none => (.broken, none)

/-! ## Values -/

mutual

/-- Reads one value; nothing follows one that is broken. -/
def value : (fuel : Nat) → List Char → Draft × Option (List Char)
  | 0, _ => (.broken, none)
  | fuel + 1, s =>
    match skipSpace s with
    | '"' :: rest =>
      match string rest {} with
      | some (.ok t, rest) => (.scalar (.text t), some rest)
      | some (.error atEnd, rest) => (.badText atEnd, some rest)
      | none => (.broken, none)
    | '[' :: rest =>
      let (found, closed, rest) := items fuel true rest
      (.array found closed, rest)
    | '\x7b' :: rest =>
      let (found, closed, rest) := fields fuel true rest
      (.object found closed, rest)
    | '-' :: rest => unsigned true rest
    | c :: rest =>
      if c.isDigit then unsigned false (c :: rest)
      else if c = 'n' then word "null" .null (c :: rest)
      else if c = 't' then word "true" (.bool true) (c :: rest)
      else if c = 'f' then word "false" (.bool false) (c :: rest)
      else (.broken, none)
    | [] => (.broken, none)

/-- Reads the items of a list up to its closing bracket. -/
def items : (fuel : Nat) → (first : Bool) → List Char →
    List Draft × Bool × Option (List Char)
  | 0, _, _ => ([], false, none)
  | fuel + 1, first, s =>
    match skipSpace s with
    | ']' :: rest => ([], true, some rest)
    | c :: rest =>
      if !first && c ≠ ',' then ([], false, none)
      else
        let start := if first then c :: rest else rest
        match skipSpace start with
        | ']' :: _ => ([], false, none)
        | start =>
          match value fuel start with
          | (v, none) => ([v], false, none)
          | (v, some rest) =>
            let (more, closed, rest) := items fuel false rest
            (v :: more, closed, rest)
    | [] => ([], false, none)

/-- Reads the fields of an object up to its closing brace. -/
def fields : (fuel : Nat) → (first : Bool) → List Char →
    List (Option String × Draft) × Bool × Option (List Char)
  | 0, _, _ => ([], false, none)
  | fuel + 1, first, s =>
    match skipSpace s with
    | '\x7d' :: rest => ([], true, some rest)
    | c :: rest =>
      if !first && c ≠ ',' then ([], false, none)
      else
        let start := if first then c :: rest else rest
        match skipSpace start with
        | '"' :: rest =>
          match string rest {} with
          | none => ([], false, none)
          | some (name, rest) =>
            match skipSpace rest with
            | ':' :: rest =>
              match value fuel rest with
              | (v, none) => ([(name.toOption, v)], false, none)
              | (v, some rest) =>
                let (more, closed, rest) := fields fuel false rest
                ((name.toOption, v) :: more, closed, rest)
            | _ => ([(name.toOption, .broken)], false, none)
        | _ => ([], false, none)
    | [] => ([], false, none)

end

/-- What can be read of a text, and what follows it where it is whole so far. -/
def read (text : List UInt8) : Draft × Option (List Char) :=
  value (text.length + 1) (text.map fun b => Char.ofNat b.toNat)

/-! ## The value of a draft -/

mutual

/-- The value of a draft without a fault whose lists are fewer than `depth` deep. -/
def toJson? : (depth : Nat) → Draft → Option Json
  | _, .scalar v => some v
  | _, .oversized _ => none
  | _, .badText _ => none
  | _, .broken => none
  | depth, .array found closed =>
    if closed ∧ 2 ≤ depth then (itemsToJson? (depth - 1) found).map .array else none
  | depth, .object found closed =>
    if closed ∧ 2 ≤ depth then (fieldsToJson? (depth - 1) found []).map .object else none

/-- The values of items without a fault. -/
def itemsToJson? : (depth : Nat) → List Draft → Option (List Json)
  | _, [] => some []
  | depth, d :: rest => do
    let v ← toJson? depth d
    return v :: (← itemsToJson? depth rest)

/-- The fields without a fault, put into `known`. -/
def fieldsToJson? : (depth : Nat) → List (Option String × Draft) → (known : List (String × Json)) →
    Option (List (String × Json))
  | _, [], known => some known
  | depth, (name, d) :: rest, known => do
    let v ← toJson? depth d
    fieldsToJson? depth rest (Json.insertField (← name) v known)

end

mutual

/-- Whether a draft can be passed over: its text goes wrong nowhere, whatever it means. -/
def skippable : Draft → Bool
  | .scalar _ => true
  | .oversized _ => true
  | .badText _ => true
  | .broken => false
  | .array found closed => closed && itemsSkippable found
  | .object found closed => closed && fieldsSkippable found

/-- Whether all items can be passed over. -/
def itemsSkippable : List Draft → Bool
  | [] => true
  | d :: rest => d.skippable && itemsSkippable rest

/-- Whether all fields can be passed over. -/
def fieldsSkippable : List (Option String × Draft) → Bool
  | [] => true
  | (_, d) :: rest => d.skippable && fieldsSkippable rest

end

/-- How deep lists may stand inside each other, the outermost one counted. -/
def depthLimit : Nat := 128

end Draft

/-- What can be read of a text that ends behind its value, blanks passed over. -/
def Draft.ofWhole? (text : List UInt8) : Option Draft :=
  match Draft.read text with
  | (draft, some rest) => if (Draft.skipSpace rest).isEmpty then some draft else none
  | (_, none) => none

/-- The value of a text that holds one JSON value and blanks around it. -/
def Json.parse? (s : String) : Option Json := do
  (← Draft.ofWhole? s.toUTF8.toList).toJson? Draft.depthLimit

end QuizEngine
