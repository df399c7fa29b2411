import QuizEngine.Binary64

/-!
# JSON values

A JSON value with whole numbers and floating point numbers told apart: `1` and `1.0` are
two values. The fields of an object are a list of names with values; `Json.field?` reads
the first of a name, and `Json.insertField` keeps a list sorted by name with one value per
name, the last one given (`lookup_insertField`).
-/

namespace QuizEngine

/-- A JSON value. -/
inductive Json where
  | null
  | bool (b : Bool)
  | integer (n : Int)
  | float (x : Binary64)
  | text (s : String)
  | array (items : List Json)
  | object (fields : List (String × Json))

namespace Json

/-- The first value that stands under a name. -/
def lookup (fields : List (String × Json)) (name : String) : Option Json :=
  (fields.find? (·.1 == name)).map (·.2)

/-- The field of that name, of an object. -/
def field? (v : Json) (name : String) : Option Json :=
  match v with
  | .object fields => lookup fields name
  | _ => none

/-- The field of that name, or null. -/
def field (v : Json) (name : String) : Json := (v.field? name).getD .null

/-- The items of an array. -/
def items : Json → List Json
  | .array items => items
  | _ => []

/-- Gives a name a value in fields sorted by name. -/
def insertField (name : String) (v : Json) : List (String × Json) → List (String × Json)
  | [] => [(name, v)]
  | f :: rest =>
    if name = f.1 then (name, v) :: rest
    else if name < f.1 then (name, v) :: f :: rest
    else f :: insertField name v rest

@[simp]
theorem lookup_insertField (name : String) (v : Json) (fields : List (String × Json)) :
    lookup (insertField name v fields) name = some v := by
  induction fields with
  | nil => simp [insertField, lookup]
  | cons f rest ih =>
    unfold insertField
    split
    · simp [lookup]
    · rename_i hne
      split
      · simp [lookup]
      · simp only [lookup] at ih ⊢
        rw [List.find?_cons_of_neg (by simpa using fun h => hne h.symm)]
        exact ih

/-- Another name keeps its value. -/
theorem lookup_insertField_of_ne {name other : String} (h : other ≠ name) (v : Json)
    (fields : List (String × Json)) :
    lookup (insertField name v fields) other = lookup fields other := by
  induction fields with
  | nil => simp [insertField, lookup, h.symm]
  | cons f rest ih =>
    unfold insertField
    split
    · rename_i he
      simp only [lookup]
      rw [List.find?_cons_of_neg (by simpa using h.symm),
        List.find?_cons_of_neg (by simpa [← he] using h.symm)]
    · split
      · simp only [lookup]
        rw [List.find?_cons_of_neg (by simpa using h.symm)]
      · simp only [lookup] at ih ⊢
        by_cases hf : f.1 = other
        · simp [hf]
        · rw [List.find?_cons_of_neg (by simpa using hf),
            List.find?_cons_of_neg (by simpa using hf)]
          exact ih

/-- An absent value is null. -/
def ofOption (f : α → Json) : Option α → Json
  | some a => f a
  | none => .null

/-- A natural number as a value. -/
def nat (n : Nat) : Json := .integer n

end Json

end QuizEngine
