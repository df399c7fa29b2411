/-!
# Overflow

Some computations have no result: a sum, a product or a quotient of decimals is too large,
an instant leaves the calendar, a length of time or a queue is larger than there are
numbers for. Such an `Overflow` is not a refusal of what somebody asked for; it ends the
computation, and `Overflow.message` is what is reported of it.
-/

namespace QuizEngine

/-- A computation whose result has no representation. -/
inductive Overflow where
  /-- A sum of decimals. -/
  | addition
  /-- A product of decimals. -/
  | multiplication
  /-- A quotient of decimals. -/
  | division
  /-- A point in time moved outside the calendar. -/
  | instant
  /-- A length of time in milliseconds. -/
  | span
  /-- The room of a queue. -/
  | room
  deriving DecidableEq

/-- The most requests that a queue may have room for. -/
def greatestRoom : Nat := 2305843009213693951

/-- What is reported of an overflow. -/
def Overflow.message : Overflow → String
  | .addition => "Addition overflowed"
  | .multiplication => "Multiplication overflowed"
  | .division => "Division overflowed"
  | .instant => "`DateTime + TimeDelta` overflowed"
  | .span => "TimeDelta::milliseconds out of bounds"
  | .room => s!"a semaphore may not have more than MAX_PERMITS permits ({greatestRoom})"

end QuizEngine
