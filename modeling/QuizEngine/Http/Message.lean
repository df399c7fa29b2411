import QuizEngine.Error
import QuizEngine.Http.MediaType
import QuizEngine.NetworkAddress
import QuizEngine.Text.Blank

/-!
# Requests and responses

A `Request` has a method, a path with a query behind it, headers and a body. Names of headers
are compared without regard to capitals, and of headers with one name the first counts. A
header can be read when it holds visible ASCII characters, blanks and tabs only.

`Request.clientInfo` is what is noted of the client: the address that a proxy names, when
proxies are trusted, else the address of the socket.
-/

namespace QuizEngine.Http

/-- What a client sends. -/
structure Request where
  /-- The method. -/
  method : String
  /-- The path, with the query behind a question mark. -/
  target : String
  /-- Names and values of headers in order. -/
  headers : List (String × String)
  /-- The body, which is a text: bytes that are not valid UTF-8 do not occur. -/
  body : String
  /-- The address of the socket. -/
  peer : Option SocketAddress

/-- What the client is sent back. -/
structure Response where
  /-- The status. -/
  status : Nat
  /-- The body, where it is JSON. -/
  body : Option Json

/-- A response without JSON. -/
def Response.bare (status : Nat) : Response := ⟨status, none⟩

/-- A response with JSON. -/
def Response.json (status : Nat) (body : Json) : Response := ⟨status, some body⟩

/-- The response to an error. -/
def Response.ofError (cause : Error) : Response := .json cause.kind.status cause.body

namespace Request

/-! ## Headers -/

/-- The value of the first header of a name. -/
def header? (r : Request) (name : String) : Option String :=
  (r.headers.find? fun h => h.1.map Char.toLower == name).map (·.2)

/-- Whether a header can be read. -/
def isReadable (value : String) : Bool :=
  value.toList.all fun c => c == '\t' || (0x20 ≤ c.toNat && c.toNat < 0x7f)

/-- The value of a header that can be read, without blanks at its ends, unless that leaves
nothing. -/
def trimmedHeader? (r : Request) (name : String) : Option String :=
  match (r.header? name).filter isReadable with
  | some value =>
    let value := Text.trimmed value
    if value.isEmpty then none else some value
  | none => none

/-- The address that a proxy names. -/
def forwardedAddress? (r : Request) : Option String :=
  let forwarded := (r.trimmedHeader? "x-forwarded-for").map fun value =>
    Text.trimmed (String.ofList (value.toList.takeWhile (· != ',')))
  (forwarded.filter fun s => !s.isEmpty).or (r.trimmedHeader? "x-real-ip")

/-- What is noted of the client. -/
def clientInfo (r : Request) (trustProxy : Bool) : ClientInfo where
  ipAddress :=
    (if trustProxy then r.forwardedAddress? else none).or (r.peer.map (·.ip.toText))
  userAgent := r.trimmedHeader? "user-agent"

/-! ## The type of the body -/

/-- Whether the body is said to be JSON. -/
def hasJsonBody (r : Request) : Bool :=
  match r.header? "content-type" with
  | some value => isReadable value && MediaType.isJson value
  | none => false

end Request

end QuizEngine.Http
