import QuizEngine.Json.Text
import QuizEngine.Numeral
import QuizEngine.Text.Pieces
import QuizEngine.Token.Sha256
import QuizEngine.Token.Standard
import QuizEngine.Wire.Quiz

/-!
# Tokens

A token says who its bearer is (`Claims`) and is signed with a secret: a header, the claims
and the signature over both, in the URL alphabet with points between them (`Claims.sign`).
`Claims.ofToken?` gives back the claims of a token that is signed with the secret and has
not expired. `Claims.caller?` is the caller that claims stand for.
-/

namespace QuizEngine

open Wire RecordReader

/-- What a token says of its bearer. -/
structure Claims where
  /-- The user. -/
  subject : String
  /-- The second, counted from the beginning of 1970, at which the token expires. -/
  expires : Nat
  /-- The role of the user. -/
  role : Option String
  deriving DecidableEq

namespace Claims

/-- Reads claims. -/
def ofJson : Reader Claims :=
  (Claims.mk <$> field "sub" text <*> field "exp" size <*> optional "role" text).record
    "struct Claims"

/-- Reads claims out of JSON text. -/
def ofDraft : DraftReader Claims :=
  (Claims.mk <$> DraftRecord.field "sub" (DraftReader.scalar text)
    <*> DraftRecord.field "exp" (DraftReader.scalar size)
    <*> DraftRecord.optional "role" (DraftReader.scalar text)).record

/-- Claims. -/
def toJson (c : Claims) : Json :=
  .object [("sub", .text c.subject), ("exp", .nat c.expires), ("role", .ofOption .text c.role)]

/-- The caller that claims stand for. Without a role that is a student; an unknown role and
a subject that is no number stand for nobody. -/
def caller? (c : Claims) : Option Caller := do
  let userId ← (readLong (Text.trimmed c.subject)).toOption
  let role ← match c.role with
    | none => some .student
    | some name => Role.ofText? name
  some ⟨userId, role⟩

/-! ## Signing -/

/-- The bytes of a text. -/
def bytesOf (s : String) : List UInt8 := s.toUTF8.toList

/-- A text in the URL alphabet. -/
def part (s : String) : String := String.ofList (Token.encode (bytesOf s))

/-- The header of every token that is signed here. -/
def header : Json := .object [("typ", .text "JWT"), ("alg", .text Token.Header.algorithm)]

/-- The signature of a text. -/
def signature (secret signed : String) : String :=
  String.ofList (Token.encode (Token.hmac (bytesOf secret) (bytesOf signed)))

/-- The token of claims. -/
def sign (c : Claims) (secret : String) : String :=
  let signed := part header.toText ++ "." ++ part c.toJson.toText
  signed ++ "." ++ signature secret signed

/-! ## Verifying -/

/-- How many seconds a token lives on after it has expired. -/
def leeway : Nat := 60

/-- Whether the token has expired at a second. -/
def expired (c : Claims) (now : Nat) : Bool := c.expires + leeway < now

/-- The claims of a part of a token. -/
def ofPart? (part : String) : Option Claims := do
  let d ← Token.draftOf? part
  if Token.standardFieldsPass d then (ofDraft d).toOption else none

/-- The claims of a token with a good signature that has not expired. -/
def ofToken? (token secret : String) (now : Nat) : Option Claims :=
  match Text.pieces '.' token with
  | [head, body, sign] =>
    if Token.Header.isAccepted head && sign == signature secret (head ++ "." ++ body) then
      (ofPart? body).filter fun c => !c.expired now
    else none
  | _ => none

end Claims

end QuizEngine
