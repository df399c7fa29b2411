import QuizEngine.Engine
import QuizEngine.Http.Body
import QuizEngine.Http.Message
import QuizEngine.Http.Route
import QuizEngine.Token.Claims

/-!
# Answering requests

`Server.respond` answers a request. Who asks is found out from the token in the
`authorization` header before anything else (`Server.authenticate`), on every path but that
of the health check; paths of graders refuse students. Then comes the method, then the
identifiers of the path, then the query or the body, then the rules for the fields of the
body, and last the call itself.
-/

namespace QuizEngine.Http

/-- Where the rows are kept. -/
inductive StorageKind where
  | inMemory
  | postgres
  deriving DecidableEq

/-- The written name of a kind of storage. -/
def StorageKind.name : StorageKind → String
  | .inMemory => "in_memory"
  | .postgres => "postgres"

/-- What the server knows besides its engine. -/
structure Server where
  /-- The secret with which tokens are signed. -/
  tokenSecret : String
  /-- Whether the address of a client is taken from the headers of a proxy. -/
  trustProxy : Bool
  /-- Where the rows are kept. -/
  storage : StorageKind
  /-- The second at which tokens are checked. -/
  tokenTime : Nat

namespace Server

/-! ## Who asks -/

/-- Why nobody is known to ask. -/
inductive AuthFault where
  | missingAuthorization
  | badAuthorization
  | unsupportedScheme
  | invalidToken
  | invalidClaims
  deriving DecidableEq

/-- The written name of a fault. -/
def AuthFault.code : AuthFault → String
  | .missingAuthorization => "missing_authorization"
  | .badAuthorization => "bad_authorization"
  | .unsupportedScheme => "unsupported_scheme"
  | .invalidToken => "invalid_token"
  | .invalidClaims => "invalid_claims"

/-- A refusal with a code. -/
def refusal (status : Nat) (code : String) : Response :=
  .json status (.object [("error", .text code)])

/-- The token of a header that names the scheme of bearers. -/
def bearerToken? (value : String) : Option String :=
  let scheme := "Bearer "
  if scheme.toList.isPrefixOf value.toList then
    some (String.ofList (value.toList.drop scheme.length))
  else none

/-- The caller whom the token of a request names. -/
def authenticate (server : Server) (r : Request) : Except AuthFault Caller := do
  let some value := r.header? "authorization" | .error .missingAuthorization
  if !Request.isReadable value then .error .badAuthorization
  else
    let some token := bearerToken? value | .error .unsupportedScheme
    let some claims := Claims.ofToken? token server.tokenSecret server.tokenTime
      | .error .invalidToken
    let some caller := claims.caller? | .error .invalidClaims
    return caller

/-- The caller, where the path answers to the caller, or the refusal. -/
def callerFor (server : Server) (r : Request) (route : Route) : Except Response Caller :=
  match server.authenticate r with
  | .error fault => .error (refusal 401 fault.code)
  | .ok caller =>
    if route.isForGraders && !caller.mayGrade then .error (refusal 403 "forbidden")
    else .ok caller

/-! ## What is asked -/

/-- The status of a body that is no request. -/
def faultStatus : Wire.DraftFault → Nat
  | .malformed => 400
  | .mismatch => 422

/-- The most bytes of a body. -/
def largestBody : Nat := 2097152

/-- The request in a body, after the rules for its fields. -/
def bodyOf (r : Request) (read : Wire.DraftReader α) (violations : α → List FieldViolation) :
    Except Response α :=
  if !r.hasJsonBody then .error (.bare 415)
  else if largestBody < r.body.utf8ByteSize then .error (.bare 413)
  else
    match readBody read r.body with
    | .error fault => .error (.bare (faultStatus fault))
    | .ok a =>
      match refuseViolations (violations a) with
      | .error e => .error (.ofError e)
      | .ok () => .ok a

/-- What was read, or the refusal of a path or a query that cannot be read. -/
def orBadRequest : Option α → Except Response α
  | some a => .ok a
  | none => .error (.bare 400)

/-- The call that a request makes, by path and method. -/
def callOf (server : Server) (r : Request) (route : Route) (query : String) : Except Response Call :=
  match route with
  | .attempts quiz => do
    let quizId ← orBadRequest (quizId? quiz)
    if r.method = "POST" then return .start quizId (r.clientInfo server.trustProxy)
    else return .history quizId (← orBadRequest (studentId? query))
  | .answers attempt => do
    let id ← orBadRequest (uuid? attempt)
    let body ← bodyOf r recordBody RecordRequest.violations
    return .record id body.questionId body.answerData body.timeSpentSeconds
  | .submit attempt => do return .submit (← orBadRequest (uuid? attempt))
  | .result attempt => do return .result (← orBadRequest (uuid? attempt))
  | .review attempt => do return .review (← orBadRequest (uuid? attempt))
  | .summary attempt => do return .summary (← orBadRequest (uuid? attempt))
  | .abandon attempt => do return .abandon (← orBadRequest (uuid? attempt))
  | .grade answer => do
    let id ← orBadRequest (uuid? answer)
    return .grade id (← bodyOf r gradeBody Grade.violations)
  | .bulkGrade => do return .bulkGrade (← bodyOf r bulkBody BulkGradeRequest.violations).grades
  | .pending quiz => do return .pending (← orBadRequest (quizId? quiz))
  | .statistics quiz => do return .statistics (← orBadRequest (quizId? quiz))
  | .health => .error (.bare 404)
  | .unknown => .error (.bare 404)

/-! ## The answer -/

/-- The body of a reply: a batch names its answers, every other reply stands as it is. -/
def replyBody : Reply → Json
  | .answers as => .object [("graded", (Reply.answers as).toJson)]
  | reply => reply.toJson

/-- The body of the health check. -/
def healthBody (server : Server) : Json :=
  .object [("status", .text "ok"), ("storage", .text server.storage.name)]

/-- Whether a path answers a method; what is read may also be asked for without its body. -/
def answersMethod (route : Route) (method : String) : Bool :=
  route.methods.contains method || (method == "HEAD" && route.methods.contains "GET")

/-- The response to what a call returns; an overflow has none. -/
def answer : Except Failure Reply → Except Overflow Response
  | .ok reply => .ok (.json 200 (replyBody reply))
  | .error (.refused cause) => .ok (.ofError cause)
  | .error (.overflowed cause) => .error cause

/-- Answers a request of a known caller on a path that answers its method. -/
def serve (server : Server) (e : Engine) (caller : Caller) (now : Instant) (fresh : Uuid)
    (r : Request) (route : Route) (query : String) : Except Overflow Response × Engine :=
  match server.callOf r route query with
  | .error response => (.ok response, e)
  | .ok call =>
    let (outcome, e) := e.perform ⟨caller, now, fresh⟩ call
    (answer outcome, e)

/-- A response without its body, where a path is asked for what it only tells to those who
read it. -/
def withoutBody (route : Route) (method : String) (response : Response) : Response :=
  if method = "HEAD" ∧ route.methods.contains "GET" then { response with body := none }
  else response

/-- Answers a request on a path that is not for everybody. -/
def respondToCaller (server : Server) (e : Engine) (now : Instant) (fresh : Uuid) (r : Request)
    (route : Route) (query : String) : Except Overflow Response × Engine :=
  match server.callerFor r route with
  | .error response => (.ok response, e)
  | .ok caller =>
    if route = .unknown then (.ok (.bare 404), e)
    else if answersMethod route r.method then server.serve e caller now fresh r route query
    else (.ok (.bare 405), e)

/-- Answers a request. -/
def respond (server : Server) (e : Engine) (now : Instant) (fresh : Uuid) (r : Request) :
    Except Overflow Response × Engine :=
  let (path, query) := splitTarget r.target
  let route := Route.ofPath path
  let (response, e) :=
    if r.method = "OPTIONS" then (.ok (.bare 200), e)
    else if route.isPublic then
      (.ok (if answersMethod route r.method then .json 200 server.healthBody else .bare 405), e)
    else server.respondToCaller e now fresh r route query
  (response.map (withoutBody route r.method), e)

end Server

end QuizEngine.Http
