import QuizEngine.Token.Base64Url
import QuizEngine.Wire.Draft

/-!
# The header of a token

The header of a token names the algorithm of its signature. It may also name the type of the
token and of its content, and the key of the signature: by an identifier, by the place of a
certificate, or by the key itself.

Tokens are signed with one algorithm here, and `Header.isAccepted` says whether a part of a
token is a header that names it. None of the other fields is used, but one of another form
makes the part no header.
-/

namespace QuizEngine.Token

open Wire DraftReader DraftRecord

/-- What can be read of a part of a token, where the part is JSON up to its end. -/
def draftOf? (part : String) : Option Draft := do Draft.ofWhole? (← decode? part.toList)

/-! ## Keys -/

/-- The algorithms of signatures. -/
def signatureAlgorithms : List String :=
  ["HS256", "HS384", "HS512", "ES256", "ES384", "RS256", "RS384", "RS512", "PS256", "PS384",
    "PS512", "EdDSA"]

/-- The algorithms that a key may be for. -/
def keyAlgorithms : List String := signatureAlgorithms ++ ["RSA1_5", "RSA-OAEP", "RSA-OAEP-256"]

/-- The names of curves. -/
def curves : List String := ["P-256", "P-384", "P-521", "Ed25519"]

/-- What any key may say of itself. -/
def keyDescription : DraftRecord Unit :=
  (fun _ _ _ _ _ _ _ _ => ())
    <$> optional "use" (scalar text)
    <*> optional "key_ops" (listOf (scalar text))
    <*> optional "alg" (oneOf keyAlgorithms)
    <*> optional "kid" (scalar text)
    <*> optional "x5u" (scalar text)
    <*> optional "x5c" (listOf (scalar text))
    <*> optional "x5t" (scalar text)
    <*> optional "x5t#S256" (scalar text)

/-- The kinds of keys, each with what it consists of. -/
def keyForms : List (DraftRecord Unit) :=
  [(fun _ _ _ _ => ()) <$> field "kty" (oneOf ["EC"]) <*> field "crv" (oneOf curves)
      <*> field "x" (scalar text) <*> field "y" (scalar text),
    (fun _ _ _ => ()) <$> field "kty" (oneOf ["RSA"]) <*> field "n" (scalar text)
      <*> field "e" (scalar text),
    (fun _ _ => ()) <$> field "kty" (oneOf ["oct"]) <*> field "k" (scalar text),
    (fun _ _ _ => ()) <$> field "kty" (oneOf ["OKP"]) <*> field "crv" (oneOf curves)
      <*> field "x" (scalar text)]

/-- Reads a key of one of the kinds. -/
def key : DraftReader Unit := fun d =>
  match d with
  | .object _ _ => do
    let _ ← anyValue d
    keyDescription.record d
    if keyForms.any fun form => (form.record d).isOk then .ok () else .error .mismatch
  | d => scalar (fun v => .error (.invalidType v.found "a map")) d

/-! ## Headers -/

namespace Header

/-- The algorithm with which tokens are signed here. -/
def algorithm : String := "HS256"

/-- Reads the algorithm of a header. -/
def algorithmOf : DraftReader String :=
  ((fun _ algorithm _ _ _ _ _ _ _ _ => algorithm)
    <$> optional "typ" (scalar text)
    <*> field "alg" (oneOf signatureAlgorithms)
    <*> optional "cty" (scalar text)
    <*> optional "jku" (scalar text)
    <*> optional "jwk" key
    <*> optional "kid" (scalar text)
    <*> optional "x5u" (scalar text)
    <*> optional "x5c" (listOf (scalar text))
    <*> optional "x5t" (scalar text)
    <*> optional "x5t#S256" (scalar text)).record

/-- Whether a part of a token is a header that names the algorithm used here. -/
def isAccepted (part : String) : Bool :=
  match draftOf? part with
  | some d =>
    match algorithmOf d with
    | .ok name => name == algorithm
    | .error _ => false
  | none => false

end Header

end QuizEngine.Token
