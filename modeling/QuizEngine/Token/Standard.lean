import QuizEngine.Token.Header

/-!
# Fields of claims that everybody knows

Besides the fields that are used here, claims may have the fields `nbf`, `iss` and `aud`,
which mean the same in all tokens. Who issued a token and from when on it counts is not
looked at. A token that names an audience is for somebody else (`isAudience`).

A value of another form stands for no value in these fields, as long as reading can go on
behind it. Whether it can depends on where the fault shows (`progress`): behind a number that
is too large, and behind a string that turns out to be no text at its end, when nothing
follows in the lists around it.
-/

namespace QuizEngine.Token

/-- How far the reading of a value comes. -/
inductive Progress where
  /-- The value is read. -/
  | read
  /-- It has a fault, and reading goes on behind it. -/
  | passed
  /-- It has a fault inside, where reading stops. -/
  | lost
  deriving DecidableEq

/-- Reading goes on behind a fault that shows only at the end. -/
def Progress.atEnd (atEnd : Bool) : Progress := if atEnd then .passed else .lost

/-- How far one comes with a value and what follows it in a list, which is empty when `last`. -/
def Progress.before (first : Progress) (last : Bool) (rest : Progress) : Progress :=
  match first with
  | .read => rest
  | .passed => .atEnd last
  | .lost => .lost

mutual

/-- How far one comes with a value whose lists are to be fewer than `depth` deep. -/
def progress : (depth : Nat) → Draft → Progress
  | _, .scalar _ => .read
  | _, .oversized atEnd => .atEnd atEnd
  | _, .badText atEnd => .atEnd atEnd
  | _, .broken => .lost
  | depth, .array items closed =>
    if closed ∧ 2 ≤ depth then itemsProgress (depth - 1) items else .lost
  | depth, .object fields closed =>
    if closed ∧ 2 ≤ depth then fieldsProgress (depth - 1) fields else .lost

/-- How far one comes with items. -/
def itemsProgress : (depth : Nat) → List Draft → Progress
  | _, [] => .read
  | depth, d :: rest => (progress depth d).before rest.isEmpty (itemsProgress depth rest)

/-- How far one comes with fields. -/
def fieldsProgress : (depth : Nat) → List (Option String × Draft) → Progress
  | _, [] => .read
  | depth, (name, d) :: rest =>
    if name.isSome then (progress depth d).before rest.isEmpty (fieldsProgress depth rest)
    else .lost

end

/-- How far one comes with a value inside an object. -/
def fieldProgress (d : Draft) : Progress := progress (Draft.depthLimit - 1) d

/-- Whether one comes past a value where a number is expected: of a list only its opening
mark is read, and its closing mark where that follows. -/
def passesAsNumber : Draft → Bool
  | .scalar _ => true
  | .oversized atEnd => atEnd
  | .badText atEnd => atEnd
  | .array items closed => items.isEmpty && closed
  | .object fields closed => fields.isEmpty && closed
  | .broken => false

/-- Whether a value is a text. -/
def isText : Draft → Bool
  | .scalar (.text _) => true
  | _ => false

/-- Whether a value names an audience, or several. -/
def isAudience : Draft → Bool
  | .array items _ => items.all isText
  | d => isText d

/-- Whether a field of claims lets a token pass. -/
def fieldPasses (name : String) (d : Draft) : Bool :=
  match name with
  | "nbf" => passesAsNumber d
  | "iss" => fieldProgress d != .lost
  | "aud" => fieldProgress d != .lost && !isAudience d
  | _ => true

/-- Whether the fields that everybody knows let a token pass; each may stand there once. -/
def standardFieldsPass : Draft → Bool
  | .object fields _ =>
    (fields.all fun f => (f.1.map (fieldPasses · f.2)).getD false) &&
      ["nbf", "iss", "aud"].all fun name => fields.countP (·.1 == some name) ≤ 1
  | _ => false

end QuizEngine.Token
