/-!
# Characters in bytes

A character is one to four bytes, of which the first says how many follow and between which
bounds they lie (`following?`). `fault?` finds the first place where bytes are no
characters, and says how many bytes go wrong together or that bytes are missing at the end.
`lenient` reads on behind such places, with a replacement character for each.
-/

namespace QuizEngine.Text

/-- The least and the greatest byte at some place. -/
abbrev ByteBounds := UInt8 × UInt8

/-- The bounds of the bytes that follow a first byte; none where no character starts with
it. -/
def following? (b : UInt8) : Option (List ByteBounds) :=
  if b < 0x80 then some []
  else if b < 0xc2 then none
  else if b < 0xe0 then some [(0x80, 0xbf)]
  else if b < 0xf0 then
    some [(if b = 0xe0 then 0xa0 else 0x80, if b = 0xed then 0x9f else 0xbf), (0x80, 0xbf)]
  else if b < 0xf5 then
    some [(if b = 0xf0 then 0x90 else 0x80, if b = 0xf4 then 0x8f else 0xbf), (0x80, 0xbf),
      (0x80, 0xbf)]
  else none

/-! ## The first fault -/

/-- Why bytes are no characters. -/
inductive Utf8Fault where
  /-- Some bytes from a place on go wrong together. -/
  | invalid (length index : Nat)
  /-- The character that starts at a place is not complete. -/
  | incomplete (index : Nat)
  deriving DecidableEq

/-- What is reported of bytes that are no characters. -/
def Utf8Fault.message : Utf8Fault → String
  | .invalid length index => s!"invalid utf-8 sequence of {length} bytes from index {index}"
  | .incomplete index => s!"incomplete utf-8 byte sequence from index {index}"

/-- The first fault in bytes from `index` on, inside a character that started at `start` and
goes on with bytes between the bounds. -/
def faultFrom? (index start : Nat) : List ByteBounds → List UInt8 → Option Utf8Fault
  | [], [] => none
  | _ :: _, [] => some (.incomplete start)
  | [], b :: rest =>
    match following? b with
    | some bounds => faultFrom? (index + 1) index bounds rest
    | none => some (.invalid 1 index)
  | (least, greatest) :: bounds, b :: rest =>
    if least ≤ b ∧ b ≤ greatest then faultFrom? (index + 1) start bounds rest
    else some (.invalid (index - start) start)

/-- The first fault in bytes. -/
def fault? (bytes : List UInt8) : Option Utf8Fault := faultFrom? 0 0 [] bytes

/-! ## Reading on behind faults -/

/-- The character that stands for bytes that are none. -/
def replacement : Char := '\ufffd'

/-- A character as far as its bytes were read. -/
structure OpenChar where
  /-- The bits so far. -/
  bits : Nat := 0
  /-- The bounds of the bytes to come. -/
  bounds : List ByteBounds := []

/-- What a first byte completes, and the character that it opens. -/
def opened (b : UInt8) : List Char × OpenChar :=
  match following? b with
  | none => ([replacement], {})
  | some [] => ([Char.ofNat b.toNat], {})
  | some [one] => ([], ⟨b.toNat % 0x20, [one]⟩)
  | some [one, two] => ([], ⟨b.toNat % 0x10, [one, two]⟩)
  | some bounds => ([], ⟨b.toNat % 0x08, bounds⟩)

/-- What one more byte completes, and the character that stays open. -/
def OpenChar.next (o : OpenChar) (b : UInt8) : List Char × OpenChar :=
  match o.bounds with
  | [] => opened b
  | (least, greatest) :: bounds =>
    if least ≤ b ∧ b ≤ greatest then
      let bits := o.bits * 0x40 + b.toNat % 0x40
      if bounds.isEmpty then ([Char.ofNat bits], {}) else ([], ⟨bits, bounds⟩)
    else
      let (done, o) := opened b
      (replacement :: done, o)

/-- The characters of bytes that follow on an open character. -/
def lenientFrom (o : OpenChar) : List UInt8 → List Char
  | [] => if o.bounds.isEmpty then [] else [replacement]
  | b :: rest => (o.next b).1 ++ lenientFrom (o.next b).2 rest

/-- The text of bytes, with a replacement character wherever they are no characters. -/
def lenient (bytes : List UInt8) : String := String.ofList (lenientFrom {} bytes)

end QuizEngine.Text
