import QuizEngine.DatabaseAddress
import QuizEngine.Error
import QuizEngine.NetworkAddress
import QuizEngine.Numeral
import QuizEngine.RefreshQueue
import QuizEngine.Text.Blank

/-!
# Settings

`Settings.ofEnvironment` reads the settings of the program from named texts. A setting that
is required has to be there, one with a default may be missing or blank. The first setting
in order that is wrong is reported.

`startFault?` is why the program does not start with an environment: its settings, the
address of its database, the room of its queue, or the address that it should listen on.
-/

namespace QuizEngine

/-- The form of the log. -/
inductive LogFormat where
  | plain
  | json
  deriving DecidableEq

namespace LogFormat

/-- The written name. -/
def name : LogFormat → String
  | .plain => "text"
  | .json => "json"

/-- The text in small letters without blanks around it, in which names are compared. -/
def normalised (s : String) : String := (Text.trimmed s).map Char.toLower

/-- The log format of a name. -/
def ofText (s : String) : Except String LogFormat :=
  match normalised s with
  | "text" => .ok .plain
  | "pretty" => .ok .plain
  | "json" => .ok .json
  | other => .error ("unknown log format '" ++ other ++ "'")

end LogFormat

/-- Reads a boolean. -/
def readBool : String → Except String Bool
  | "true" => .ok true
  | "false" => .ok false
  | _ => .error "provided string was not `true` or `false`"

/-! ## Settings -/

/-- The settings of the program. -/
structure Settings where
  /-- The address to listen on. -/
  serverAddress : String
  /-- The address of the database; without one everything is kept in memory. -/
  databaseUrl : Option String
  /-- The most connections to the database. -/
  maxConnections : Nat
  /-- The secret with which tokens are signed. -/
  tokenSecret : String
  /-- How many refresh requests may wait. -/
  queueCapacity : Nat
  /-- The form of the log. -/
  logFormat : LogFormat
  /-- Whether the address of a client is taken from the headers of a proxy. -/
  trustProxyHeaders : Bool
  deriving DecidableEq

/-- Named texts. -/
abbrev Environment := String → Option String

namespace Settings

/-- The names of the settings, in the order in which they are read. -/
def names : List String :=
  ["SERVER_ADDRESS", "DATABASE_URL", "DATABASE_MAX_CONNECTIONS", "JWT_SECRET",
    "ANALYTICS_QUEUE_CAPACITY", "LOG_FORMAT", "TRUST_PROXY_HEADERS"]

/-- A setting that has to be there. -/
def required (env : Environment) (name : String) : Except Error String :=
  match env name with
  | some s => .ok s
  | none => .error (.config ("Missing environment variable: " ++ name))

/-- A setting with a default, which stands for a blank one too. -/
def withDefault (env : Environment) (name : String) (default : α) (read : String → Except String α) :
    Except Error α :=
  match (env name).filter fun s => !Text.isBlankText s with
  | none => .ok default
  | some s =>
    (read (Text.trimmed s)).mapError fun e =>
      .config ("Invalid value for " ++ name ++ ": " ++ e)

/-- Reads a number of some bits. -/
def number (bits : Nat) (s : String) : Except String Nat :=
  (readUnsigned bits s).mapError NumberError.message

/-- The settings of an environment. -/
def ofEnvironment (env : Environment) : Except Error Settings := do
  let serverAddress ← required env "SERVER_ADDRESS"
  let databaseUrl := (env "DATABASE_URL").filter fun s => !Text.isBlankText s
  let maxConnections ← withDefault env "DATABASE_MAX_CONNECTIONS" 20 (number 32)
  let tokenSecret ← required env "JWT_SECRET"
  let queueCapacity ← withDefault env "ANALYTICS_QUEUE_CAPACITY" 256 (number 64)
  let logFormat ← withDefault env "LOG_FORMAT" .plain LogFormat.ofText
  let trustProxyHeaders ← withDefault env "TRUST_PROXY_HEADERS" false readBool
  return {
    serverAddress := serverAddress
    databaseUrl := databaseUrl
    maxConnections := maxConnections
    tokenSecret := tokenSecret
    queueCapacity := queueCapacity
    logFormat := logFormat
    trustProxyHeaders := trustProxyHeaders }

/-- The error of settings that are read a second time. -/
def alreadyRead : Error := .config "Configuration has already been initialized"

end Settings

/-! ## Starting -/

/-- Why the program does not start. -/
inductive StartFault where
  /-- It is refused, for a reason. -/
  | refused (reason : String)
  /-- A computation has no result. -/
  | overflow (cause : Overflow)

namespace StartFault

/-- The exit code. -/
def exitCode : StartFault → Nat
  | .refused _ => 1
  | .overflow _ => 101

/-- What the program writes; its account of an overflow starts with an empty line. -/
def text : StartFault → String
  | .refused reason => "Error: " ++ reason
  | .overflow cause => "\n" ++ cause.message

end StartFault

/-- Why the program does not start; none where it goes on to open a connection. Where
everything is kept in memory, its queue is set up before the address to listen on is read. -/
def startFault? (env : Environment) : Option StartFault :=
  match Settings.ofEnvironment env with
  | .error e => some (.refused e.message)
  | .ok settings =>
    match settings.databaseUrl with
    | some url =>
      (DatabaseFault.ofText? url).map fun fault =>
        .refused (Error.database fault.message).message
    | none =>
      match RefreshQueue.ofCapacity settings.queueCapacity with
      | .error cause => some (.overflow cause)
      | .ok _ =>
        match SocketAddress.ofText? settings.serverAddress with
        | some _ => none
        | none => some (.refused SocketAddress.fault)

end QuizEngine
