import QuizEngine.Decimal.Basic

/-!
# Floating point numbers of sixty-four bits

A `Binary64` is a sign, a mantissa of at most fifty-three bits and an exponent of two. It
is exact data: `Binary64.nearest?` rounds a quotient of whole numbers to the closest such
number, ties to the even mantissa, and every operation is that rounding of an exact result.

`Binary64.ofDigits?` is the number that JSON digits with a power of ten stand for.
`Binary64.shortest` is the shortest run of decimal digits that reads back as the number;
`Binary64.toPlain` writes them without an exponent, `Binary64.toText` with an exponent
when the number is below `0.00001` or has more than sixteen digits before the point.
-/

namespace QuizEngine

/-- The number `mantissa * 2 ^ exponent`, negative when `negative` is. -/
structure Binary64 where
  /-- Whether the number has a minus sign. Zero has a sign too. -/
  negative : Bool
  /-- At most fifty-three bits. -/
  mantissa : Nat
  /-- From `-1074` to `971`. -/
  exponent : Int
  deriving DecidableEq

namespace Binary64

/-- `num / den` in units of `2 ^ exponent`, as numerator and denominator. -/
def inUnits (num den : Nat) (exponent : Int) : Nat × Nat :=
  if exponent < 0 then (num * twoTo (-exponent).toNat, den) else (num, den * twoTo exponent.toNat)

/-- The number closest to `num / den`, the even mantissa of two as close; none where it is
beyond the largest number. -/
def nearest? (negative : Bool) (num den : Nat) : Option Binary64 :=
  if num = 0 then some ⟨negative, 0, -1074⟩
  else
    let guess : Int := max (-1074) ((num.log2 : Int) - den.log2 - 53)
    let coarse := inUnits num den guess
    let exponent := if coarse.1 / coarse.2 < twoTo 53 then guess else guess + 1
    let exact := inUnits num den exponent
    let mantissa := roundHalfEven exact.1 exact.2
    let carried := mantissa = twoTo 53
    let exponent := if carried then exponent + 1 else exponent
    if 971 < exponent then none
    else some ⟨negative, if carried then twoTo 52 else mantissa, exponent⟩

/-- The size of the number as numerator and denominator. -/
def ratio (x : Binary64) : Nat × Nat :=
  if x.exponent < 0 then (x.mantissa, twoTo (-x.exponent).toNat)
  else (x.mantissa * twoTo x.exponent.toNat, 1)

/-- The number closest to a whole number. -/
def ofInt? (n : Int) : Option Binary64 := nearest? (n < 0) n.natAbs 1

/-- The product, rounded. -/
def mul? (x y : Binary64) : Option Binary64 :=
  nearest? (x.negative != y.negative) (x.ratio.1 * y.ratio.1) (x.ratio.2 * y.ratio.2)

/-- The quotient by a number other than zero, rounded. -/
def div? (x y : Binary64) : Option Binary64 :=
  nearest? (x.negative != y.negative) (x.ratio.1 * y.ratio.2) (x.ratio.2 * y.ratio.1)

/-- The signed numerator and the denominator. -/
def value (x : Binary64) : Int × Nat :=
  (if x.negative then -(x.ratio.1 : Int) else x.ratio.1, x.ratio.2)

/-- `x` is at most `y`. -/
def le (x y : Binary64) : Bool :=
  x.value.1 * y.value.2 ≤ y.value.1 * x.value.2

/-! ## Reading digits -/

/-- The number closest to `10 ^ exponent`. -/
def powerOfTen? (exponent : Nat) : Option Binary64 := nearest? false (tenTo exponent) 1

/-- `x * 10 ^ exponent`, by the rounded power of ten of at most `308`; an exponent below
that divides by `10 ^ 308` first. -/
def scaled? (x : Binary64) (exponent : Int) : Option Binary64 :=
  go (exponent.natAbs / 308 + 1) x exponent
where
  go : Nat → Binary64 → Int → Option Binary64
    | 0, x, _ => some x
    | fuel + 1, x, exponent =>
      if exponent.natAbs ≤ 308 then do
        let power ← powerOfTen? exponent.natAbs
        if 0 ≤ exponent then x.mul? power else x.div? power
      else if x.mantissa = 0 then some x
      else if 0 ≤ exponent then none
      else do go fuel (← x.div? (← powerOfTen? 308)) (exponent + 308)

/-- The number that the digits of `significand` with the point moved by `exponent` stand
for: the rounded significand times or over a rounded power of ten. -/
def ofDigits? (negative : Bool) (significand : Nat) (exponent : Int) : Option Binary64 := do
  let size ← (← nearest? false significand 1).scaled? exponent
  some { size with negative }

/-! ## Shortest digits -/

/-- How many digits `num / den` has before the point; zero or below counts the zeros
behind the point of a number below one. -/
def wholeDigits (num den : Nat) : Int :=
  if den ≤ num then (toString (num / den)).length
  else -(leadingZeros 400 0 : Nat)
where
  /-- How many zeros stand behind the point before the first other digit. -/
  leadingZeros : Nat → Nat → Nat
    | 0, zeros => zeros
    | fuel + 1, zeros =>
      if den ≤ num * tenTo (zeros + 1) then zeros else leadingZeros fuel (zeros + 1)

/-- The digits of a number and how many of them stand before the point. -/
structure Digits where
  /-- The digits, read as a whole number. -/
  digits : Nat
  /-- How many digits stand before the point. -/
  whole : Int

/-- Whether `num / den` reads back as `x`: it lies between the middles to the neighbours of
`x`, on a middle only when the mantissa is even. -/
def readsBack (x : Binary64) (num den : Nat) : Bool :=
  let low := if x.mantissa = twoTo 52 ∧ -1074 < x.exponent then 4 * x.mantissa - 1 else 4 * x.mantissa - 2
  let high := 4 * x.mantissa + 2
  let (n, d) := inUnits (4 * num) den x.exponent
  if x.mantissa % 2 = 0 then low * d ≤ n && n ≤ high * d else low * d < n && n < high * d

/-- The candidate with `count` digits that reads back as `x` and is closest to it. -/
def withDigits? (x : Binary64) (whole : Int) (count : Nat) : Option Digits :=
  let (num, den) := x.ratio
  let places := (count : Int) - whole
  let up := tenTo places.toNat
  let down := tenTo (-places).toNat
  let below := num * up / (den * down)
  let above := below + 1
  let left := 2 * (num * up - below * (den * down))
  let fits (c : Nat) : Bool := c ≠ 0 && x.readsBack (c * down) up
  let preferBelow := left < den * down ∨ (left = den * down ∧ below % 2 = 0)
  if fits below && (preferBelow || !fits above) then some ⟨below, whole⟩
  else if fits above then
    some (if above = tenTo count then ⟨1, whole + 1⟩ else ⟨above, whole⟩)
  else none

/-- The fewest digits that read back as `x`, and the closest of those. -/
def shortest (x : Binary64) : Digits :=
  if x.mantissa = 0 then ⟨0, 1⟩
  else
    let whole := wholeDigits x.ratio.1 x.ratio.2
    ((List.range 17).findSome? fun n => x.withDigits? whole (n + 1)).getD ⟨0, 1⟩

/-! ## Writing -/

/-- Digits with a point after the first `whole` of them, and with the zeros that needs. -/
def Digits.positional (d : Digits) : String :=
  let text := toString d.digits
  let zeros (n : Int) : String := String.ofList (List.replicate n.toNat '0')
  if d.whole ≤ 0 then "0." ++ zeros (-d.whole) ++ text
  else if text.length ≤ d.whole.toNat then text ++ zeros (d.whole - text.length)
  else
    String.ofList (text.toList.take d.whole.toNat) ++ "." ++
      String.ofList (text.toList.drop d.whole.toNat)

/-- The first digit, the others behind a point, and an exponent with its sign. -/
def Digits.scientific (d : Digits) : String :=
  let text := (toString d.digits).toList
  let exponent := d.whole - 1
  String.ofList (text.take 1) ++
    (if text.length ≤ 1 then "" else "." ++ String.ofList (text.drop 1)) ++
    (if exponent < 0 then "e-" else "e+") ++ toString exponent.natAbs

/-- The number without an exponent, and without a point when it is whole. -/
def toPlain (x : Binary64) : String :=
  (if x.negative then "-" else "") ++ x.shortest.positional

/-- The number with `.0` when it is whole, and with an exponent when it is very large or
very small. -/
def toText (x : Binary64) : String :=
  let d := x.shortest
  (if x.negative then "-" else "") ++
    if -5 < d.whole ∧ d.whole ≤ 16 then
      d.positional ++ (if (toString d.digits).length ≤ d.whole.toNat then ".0" else "")
    else d.scientific

end Binary64

end QuizEngine
