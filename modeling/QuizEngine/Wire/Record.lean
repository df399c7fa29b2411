import QuizEngine.Wire.Reader

/-!
# Reading records

A record has two forms: an object with a field per name, unknown fields passed over, or a
list of its fields in order. A `RecordReader` reads both. Readers of single fields are put
together with `<$>` and `<*>` in the order of the record.

Of several faults one is reported. In an object that is the field with the least name among
those that are present and wrong, else the first field that is missing; in a list it is the
first element that is wrong or missing.
-/

namespace QuizEngine.Wire

/-- The faults of an object: fields that are wrong, and fields that are missing in the order
of the record. -/
structure FieldFaults where
  /-- Names with what is wrong with their values. -/
  wrong : List (String × ReadError)
  /-- Names without a value. -/
  missing : List String

/-- The wrong field with the least name. -/
def leastWrong : List (String × ReadError) → Option (String × ReadError)
  | [] => none
  | f :: rest =>
    match leastWrong rest with
    | some g => if g.1 < f.1 then some g else some f
    | none => some f

/-- The fault that is reported. -/
def FieldFaults.reported (faults : FieldFaults) : ReadError :=
  match leastWrong faults.wrong, faults.missing with
  | some f, _ => f.2
  | none, name :: _ => .missingField name
  | none, [] => .malformed ""

/-- Why a list is no record. -/
inductive ItemFault where
  /-- An element that is wrong. -/
  | wrong (e : ReadError)
  /-- The list ends before this element. -/
  | short (length : Nat)

/-- Reads some fields of a record. -/
structure RecordReader (α : Type) where
  /-- How many fields it reads. -/
  count : Nat
  /-- Reads them from the fields of an object. -/
  ofFields : List (String × Json) → Except FieldFaults α
  /-- Reads them from the elements of a list, of which `index` were read before. -/
  ofItems : (index : Nat) → List Json → Except ItemFault (α × List Json)

namespace RecordReader

/-- Reads two groups of fields, and takes the faults of both. -/
def seq (f : RecordReader (α → β)) (a : RecordReader α) : RecordReader β where
  count := f.count + a.count
  ofFields fields :=
    match f.ofFields fields, a.ofFields fields with
    | .ok f, .ok a => .ok (f a)
    | .error e, .ok _ => .error e
    | .ok _, .error e => .error e
    | .error e, .error e' => .error ⟨e.wrong ++ e'.wrong, e.missing ++ e'.missing⟩
  ofItems index items := do
    let (g, rest) ← f.ofItems index items
    let (a, rest) ← a.ofItems (index + f.count) rest
    return (g a, rest)

instance : Applicative RecordReader where
  pure a := ⟨0, fun _ => .ok a, fun _ items => .ok (a, items)⟩
  seq f a := seq f (a ())

/-- A field; `absent` is its value in an object without it, `cut` its value in a list that
is too short. -/
def fieldOr (absent cut : Option α) (name : String) (read : Reader α) : RecordReader α where
  count := 1
  ofFields fields :=
    match Json.lookup fields name with
    | some v => (read v).mapError fun e => ⟨[(name, e)], []⟩
    | none =>
      match absent with
      | some a => .ok a
      | none => .error ⟨[], [name]⟩
  ofItems index items :=
    match items with
    | v :: rest => ((read v).map (·, rest)).mapError .wrong
    | [] =>
      match cut with
      | some a => .ok (a, [])
      | none => .error (.short index)

/-- A field that has to be there. -/
def field (name : String) (read : Reader α) : RecordReader α := fieldOr none none name read

/-- A field that may be null or missing. -/
def optional (name : String) (read : Reader α) : RecordReader (Option α) :=
  fieldOr (some none) none name (nullable read)

/-- A field that may be null or missing, also at the end of a list. -/
def trailing (name : String) (read : Reader α) : RecordReader (Option α) :=
  fieldOr (some none) (some none) name (nullable read)

/-- A number of elements. -/
def elements (n : Nat) : String := toString n ++ (if n = 1 then " element" else " elements")

/-- Reads the elements of a list as a whole record called `name`. -/
def readItems (r : RecordReader α) (name tooLong : String) (items : List Json) :
    Except ReadError α :=
  match r.ofItems 0 items with
  | .error (.wrong e) => .error e
  | .error (.short n) => .error (.invalidLength n (name ++ " with " ++ elements r.count))
  | .ok (a, []) => .ok a
  | .ok (_, _ :: _) => .error (.invalidLength items.length tooLong)

/-- Reads the fields of an object as a record. -/
def readFields (r : RecordReader α) (fields : List (String × Json)) : Except ReadError α :=
  (r.ofFields fields).mapError FieldFaults.reported

/-- Reads a record called `name`. -/
def record (r : RecordReader α) (name : String) : Reader α
  | .object fields => r.readFields fields
  | .array items => r.readItems name "fewer elements in array" items
  | v => .error (.invalidType v.found name)

/-- Reads a record called `name` that stands inside a tagged value. -/
def innerRecord (r : RecordReader α) (name : String) : Reader α
  | .object fields => r.readFields fields
  | .array items => r.readItems name (elements r.count ++ " in sequence") items
  | v => .error (.invalidType v.found name)

end RecordReader

end QuizEngine.Wire
