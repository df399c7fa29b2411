/-!
# Media types

A media type has a type and a subtype with a slash between them, and parameters behind a
semicolon: names with values, which may stand in quotation marks. Blanks may stand before a
name, and behind a value in quotation marks, and nowhere else.

`MediaType.isJson` says whether a media type is JSON: `application/json`, or one whose
subtype ends with `+json`.
-/

namespace QuizEngine.Http.MediaType

/-- Whether a character may stand in a name. -/
def isTokenChar (c : Char) : Bool :=
  c.isAlphanum || "!#$%&'*+-.^_`|~".toList.contains c

/-- Whether a character may stand between quotation marks. -/
def isQuotedChar (c : Char) : Bool := 0x20 ≤ c.toNat && c.toNat ≠ 0x7f

/-! ## Parameters -/

/-- Where one is while reading parameters. -/
inductive Place where
  /-- Before a name. -/
  | name
  /-- Inside a name. -/
  | inName
  /-- Before a value. -/
  | value
  /-- Inside a value. -/
  | inValue
  /-- Behind the mark that opens a quotation. -/
  | quotation
  /-- Inside a quotation that is not empty. -/
  | inQuotation
  /-- Behind a quotation. -/
  | closed
  deriving DecidableEq

/-- The place behind a character that may stand there. -/
def Place.next? : Place → Char → Option Place
  | .name, ' ' => some .name
  | .inName, '=' => some .value
  | .value, '"' => some .quotation
  | .inValue, ';' => some .name
  | .inQuotation, '"' => some .closed
  | .closed, ';' => some .name
  | .closed, ' ' => some .closed
  | .name, c => if isTokenChar c then some .inName else none
  | .inName, c => if isTokenChar c then some .inName else none
  | .value, c => if isTokenChar c then some .inValue else none
  | .inValue, c => if isTokenChar c then some .inValue else none
  | .quotation, c => if isQuotedChar c then some .inQuotation else none
  | .inQuotation, c => if isQuotedChar c then some .inQuotation else none
  | .closed, _ => none

/-- Whether a media type may end there. -/
def Place.mayEnd : Place → Bool
  | .name => true
  | .value => true
  | .inValue => true
  | .closed => true
  | .inName => false
  | .quotation => false
  | .inQuotation => false

/-- Whether a text holds parameters. -/
def areParameters (s : List Char) : Bool :=
  ((s.foldlM Place.next? .name).map Place.mayEnd).getD false

/-! ## Types -/

/-- Whether a subtype is JSON, by itself up to its last plus sign or by what follows that. A
plus sign in front does not count. -/
def isJsonSubtype (subtype : List Char) : Bool :=
  let suffix := (subtype.reverse.takeWhile (· != '+')).reverse
  let main := subtype.take (subtype.length - suffix.length - 1)
  if main.isEmpty then subtype == "json".toList
  else main == "json".toList || suffix == "json".toList

/-- Whether a media type is JSON. -/
def isJson (mediaType : String) : Bool :=
  let s := (mediaType.map Char.toLower).toList
  let type := s.takeWhile isTokenChar
  match s.drop type.length with
  | '/' :: s =>
    let subtype := s.takeWhile isTokenChar
    let behind := match s.drop subtype.length with
      | [] => true
      | ';' :: parameters => areParameters parameters
      | _ => false
    type == "application".toList && isJsonSubtype subtype && behind
  | _ => false

end QuizEngine.Http.MediaType
