import QuizEngine.Decimal.Arithmetic

/-!
# The text of a decimal

A decimal is written with a minus sign when it is below zero and with exactly as many
digits behind the point as its scale says (`Decimal.toText`).

`Decimal.ofPlain?` reads a sign, digits with one point among them, and underscores after
the first digit. A digit behind the point that no longer fits, the twenty-ninth or one
that would reach the limit, rounds the number, five and above upwards; only digits and
underscores may follow it. `Decimal.ofText?` reads plain text, or plain text times a
power of ten such as `1e2`.
-/

namespace QuizEngine.Decimal

/-! ## Writing -/

/-- The decimal digits of `n`, at least `width` of them. -/
def paddedDigits (width n : Nat) : String :=
  let digits := toString n
  String.ofList (List.replicate (width - digits.length) '0') ++ digits

/-- A digit before the point at least, and `scale` digits behind it. -/
def toText (d : Decimal) : String :=
  let digits := (paddedDigits (d.scale + 1) d.coefficient.natAbs).toList
  let cut := digits.length - d.scale
  let whole := String.ofList (digits.take cut)
  let fraction := String.ofList (digits.drop cut)
  (if d.coefficient < 0 then "-" else "") ++
    (if d.scale = 0 then whole else whole ++ "." ++ fraction)

instance : ToString Decimal := ⟨toText⟩

/-! ## Reading plain text -/

/-- The value of an ASCII digit. -/
def digitValue? (c : Char) : Option Nat :=
  if '0' ≤ c ∧ c ≤ '9' then some (c.toNat - '0'.toNat) else none

/-- The number `size / 10 ^ scale` when the rest of its digits does not fit: the first of
them, underscores passed over, rounds it. Five and above count one up, and a size that
reaches the limit by that loses its last digit. -/
def ofOverlong? (negative : Bool) (size scale : Nat) (rest : List Char) : Option Decimal := do
  let digits ← (rest.filter (· != '_')).mapM digitValue?
  if digits.headD 0 < 5 then ofParts? negative size scale
  else if size + 1 < limit then ofParts? negative (size + 1) scale
  else if scale = 0 then none
  else ofParts? negative ((size + 5) / 10) (scale - 1)

/-- Reads digits, one point and underscores on from the number `size / 10 ^ scale`;
`point` says that the point was read and `digits` that a digit was. -/
def scan (negative : Bool) :
    List Char → (size scale : Nat) → (point digits : Bool) → Option Decimal
  | [], size, scale, _, digits => if digits then ofParts? negative size scale else none
  | c :: rest, size, scale, point, digits =>
    match digitValue? c with
    | some digit =>
      let size' := size * 10 + digit
      let scale' := if point then scale + 1 else 0
      if limit ≤ size' then
        if point then ofOverlong? negative size scale (c :: rest) else none
      else
        if point ∧ maxScale ≤ scale' then ofOverlong? negative size' scale' rest
        else scan negative rest size' scale' point true
    | none =>
      if c = '.' ∧ !point then scan negative rest size scale true digits
      else if c = '_' ∧ digits then scan negative rest size scale point digits
      else none

/-- The decimal a plain text stands for. -/
def ofPlain? (s : String) : Option Decimal :=
  match s.toList with
  | '-' :: rest => scan true rest 0 0 false false
  | '+' :: rest => scan false rest 0 0 false false
  | rest => scan false rest 0 0 false false

/-! ## Reading a power of ten -/

/-- An exponent: ASCII digits, perhaps after a plus sign, of a number below `2 ^ 32`. -/
def exponent? (s : List Char) : Option Nat := do
  let digits := match s with
    | '+' :: rest => rest
    | rest => rest
  if digits.isEmpty then none
  else
    let n ← digits.foldlM (fun n c => (digitValue? c).map (n * 10 + ·)) 0
    if n < twoTo 32 then some n else none

/-- The same digits with the point `scale` digits from the right. -/
def withScale? (d : Decimal) (scale : Nat) : Option Decimal :=
  ofParts? (d.coefficient < 0) d.coefficient.natAbs scale

/-- The size of a decimal with its last `count` digits dropped, a half of what is kept
rounded upwards. -/
def sizeWithout (count : Nat) (d : Decimal) : Nat :=
  let unit := tenTo count
  (2 * d.coefficient.natAbs + unit) / (2 * unit)

/-- `d / 10 ^ exponent` for an exponent of at most `maxScale`; the digits that would stand
behind the last place are rounded away. -/
def overPowerOfTen? (d : Decimal) (exponent : Nat) : Option Decimal :=
  let scale := d.scale + exponent
  if scale ≤ maxScale then d.withScale? scale
  else ofParts? (d.coefficient < 0) (d.sizeWithout (scale - maxScale)) maxScale

/-- `d * 10 ^ exponent` for an exponent of at most `maxScale`, in two products when the
power of ten has more than nineteen zeros. -/
def timesPowerOfTen? (d : Decimal) (exponent : Nat) : Option Decimal := do
  let power (n : Nat) : Option Decimal := ofInt? (tenTo n)
  let times (a b : Decimal) : Option Decimal := (mul a b).toOption
  let high := exponent - min exponent 19
  let first ← times d (← power (min exponent 19))
  if high = 0 then some first else times first (← power high)

/-- The decimal of a plain text, an `e` or `E`, and an exponent. A negative exponent moves
the point to the left and rounds; one that the digits behind the point can take moves it to
the right; a larger one multiplies, and drops the zeros behind the point. -/
def ofScientific? (s : String) : Option Decimal := do
  let isMark (c : Char) : Bool := c == 'e' || c == 'E'
  let before := s.toList.takeWhile (!isMark ·)
  match s.toList.dropWhile (!isMark ·) with
  | [] => none
  | _ :: exponent =>
    let base ← ofPlain? (String.ofList before)
    match exponent with
    | '-' :: digits =>
      let e ← exponent? digits
      if e ≤ maxScale then base.overPowerOfTen? e else none
    | digits =>
      let e ← exponent? digits
      if e ≤ base.scale then base.withScale? (base.scale - e)
      else if e ≤ maxScale then (base.timesPowerOfTen? e).map trimmed
      else none

/-- The decimal a text stands for, plain or with a power of ten. -/
def ofText? (s : String) : Option Decimal :=
  (ofPlain? s).orElse fun _ => ofScientific? s

end QuizEngine.Decimal
