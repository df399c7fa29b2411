import QuizEngine.Json.Draft
import QuizEngine.Wire.Reader

/-!
# Reading values out of JSON text

A `DraftReader` reads what could be read of a JSON text. The text is taken from the left, and
the first fault decides: either it is no JSON there (`DraftFault.malformed`), or it is JSON
of another form than expected (`mismatch`). So `[true, oops` is a mismatch where a list of
numbers is expected and `[1, oops` is malformed. The content of unknown fields is not looked
at as long as it is JSON.
-/

namespace QuizEngine.Wire

/-- Why a text does not stand for a value of a domain. -/
inductive DraftFault where
  /-- It is no JSON. -/
  | malformed
  /-- It is JSON of another form. -/
  | mismatch
  deriving DecidableEq

/-- Reads a value that may break off. -/
abbrev DraftReader (α : Type) := Draft → Except DraftFault α

/-! ## Values -/

namespace DraftReader

/-- A value that is no list, by its reader. -/
def scalar (read : Reader α) : DraftReader α
  | .scalar v => (read v).mapError fun _ => .mismatch
  | .array _ _ => .error .mismatch
  | .object _ _ => .error .mismatch
  | .oversized _ => .error .malformed
  | .badText _ => .error .malformed
  | .broken => .error .malformed

/-- Null, or a value. -/
def orNull (read : DraftReader α) : DraftReader (Option α)
  | .scalar .null => .ok none
  | d => (read d).map some

/-- Any value, inside one object. -/
def anyValue : DraftReader Json := fun d =>
  match d.toJson? (Draft.depthLimit - 1) with
  | some v => .ok v
  | none => .error .malformed

/-- A list. -/
def listOf (read : DraftReader α) : DraftReader (List α)
  | .array items closed => do
    let found ← items.mapM read
    if closed then .ok found else .error .malformed
  | .scalar _ => .error .mismatch
  | .object _ _ => .error .mismatch
  | .oversized _ => .error .malformed
  | .badText _ => .error .malformed
  | .broken => .error .malformed

/-- One of some names; an object with the name for its only field, and null behind it, is that
name too. -/
def oneOf (names : List String) : DraftReader String
  | .object [(some name, v)] true =>
    match v with
    | .scalar .null => known name
    | .broken => .error .malformed
    | _ => .error .mismatch
  | d => do known (← scalar text d)
where
  /-- The name, where it is one of them. -/
  known (name : String) : Except DraftFault String :=
    if name ∈ names then .ok name else .error .mismatch

end DraftReader

/-! ## Records -/

/-- Reads some fields of a record. -/
structure DraftRecord (α : Type) where
  /-- Their names. -/
  names : List String
  /-- What is wrong with the value of one of them. -/
  faultOf : String → Draft → Option DraftFault
  /-- The fields, where none is missing. -/
  ofFields : List (Option String × Draft) → Option α
  /-- The fields from the elements of a list, and the elements that follow. -/
  ofItems : (closed : Bool) → List Draft → Except DraftFault (α × List Draft)

namespace DraftRecord

open DraftReader

/-- Reads two groups of fields. -/
def seq (f : DraftRecord (α → β)) (a : DraftRecord α) : DraftRecord β where
  names := f.names ++ a.names
  faultOf name d := (f.faultOf name d).or (a.faultOf name d)
  ofFields fields := do
    let g ← f.ofFields fields
    return g (← a.ofFields fields)
  ofItems closed items := do
    let (g, rest) ← f.ofItems closed items
    let (a, rest) ← a.ofItems closed rest
    return (g a, rest)

instance : Applicative DraftRecord where
  pure a := ⟨[], fun _ _ => none, fun _ => some a, fun _ items => .ok (a, items)⟩
  seq f a := seq f (a ())

/-- A field; `absent` is its value in an object without it. -/
def fieldOr (absent : Option α) (name : String) (read : DraftReader α) : DraftRecord α where
  names := [name]
  faultOf n d :=
    if n = name then
      match read d with
      | .ok _ => none
      | .error e => some e
    else none
  ofFields fields :=
    match fields.find? (·.1 == some name) with
    | some f => (read f.2).toOption
    | none => absent
  ofItems closed items :=
    match items with
    | d :: rest => (read d).map (·, rest)
    | [] => .error (if closed then .mismatch else .malformed)

/-- A field that has to be there. -/
def field (name : String) (read : DraftReader α) : DraftRecord α := fieldOr none name read

/-- A field that may be null or missing. -/
def optional (name : String) (read : DraftReader α) : DraftRecord (Option α) :=
  fieldOr (some none) name (orNull read)

/-- The first fault of fields in the order of the text. A field that was there before is
one. -/
def firstFault (r : DraftRecord α) : (seen : List String) → List (Option String × Draft) →
    Option DraftFault
  | _, [] => none
  | _, (none, _) :: _ => some .malformed
  | seen, (some name, d) :: rest =>
    if name ∈ r.names then
      if name ∈ seen then some .mismatch
      else (r.faultOf name d).or (r.firstFault (name :: seen) rest)
    else if d.skippable then r.firstFault seen rest
    else some .malformed

/-- Reads a record. -/
def record (r : DraftRecord α) : DraftReader α
  | .object fields closed =>
    match r.firstFault [] fields with
    | some e => .error e
    | none =>
      if !closed then .error .malformed
      else
        match r.ofFields fields with
        | some a => .ok a
        | none => .error .mismatch
  | .array items closed => do
    let (a, rest) ← r.ofItems closed items
    if rest.isEmpty && closed then .ok a else .error .malformed
  | .scalar _ => .error .mismatch
  | .oversized _ => .error .malformed
  | .badText _ => .error .malformed
  | .broken => .error .malformed

end DraftRecord

end QuizEngine.Wire
