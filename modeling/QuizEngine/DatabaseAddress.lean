import QuizEngine.Text.Quoted
import QuizEngine.Text.Utf8
import QuizEngine.Url.Basic

/-!
# The address of the database

The address of a database names its host, a user and the database in the parts of a `Url`,
and further options in its query. `DatabaseFault.ofText?` is what is wrong with it first:
the address itself, a part that is no text behind its percent signs, or an option with a
value that it cannot have. Options without a rule are passed over.
-/

namespace QuizEngine

/-- Why a text is no address of a database. -/
inductive DatabaseFault where
  /-- It is no address at all. -/
  | address (fault : Url.Fault)
  /-- A part of it is no text. -/
  | text (fault : Text.Utf8Fault)
  /-- An option is no number. -/
  | number (fault : NumberError)
  /-- An option names no way to encrypt. -/
  | encryption (value : String)
  /-- An option names no address of a machine. -/
  | machine

/-- How an error of the configuration is reported. -/
def configurationText (text : String) : String := "error with configuration: " ++ text

namespace DatabaseFault

/-- What is wrong. -/
def reason : DatabaseFault → String
  | .address fault => fault.message
  | .text fault => fault.message
  | .number fault => fault.message
  | .encryption value =>
    configurationText ("unknown value " ++ Text.quoted value ++ " for `ssl_mode`")
  | .machine => "invalid IP address syntax"

/-- What is reported of a text that is no address of a database. -/
def message (fault : DatabaseFault) : String := configurationText fault.reason

/-! ## The query -/

/-- A part of a field of a query as text: a plus sign is a blank. -/
def fieldText (s : List Char) : String :=
  Text.lenient (Text.unescapedBytes (s.map fun c => if c = '+' then ' ' else c))

/-- The names and the values of the fields of a query in order; empty fields do not count. -/
def fields (query : List Char) : List (String × String) :=
  ((query.splitOn '&').filter (!·.isEmpty)).map fun field =>
    let name := field.takeWhile (· != '=')
    (fieldText name, fieldText (field.drop (name.length + 1)))

/-- The ways to encrypt a connection. -/
def encryptions : List String :=
  ["disable", "allow", "prefer", "require", "verify-ca", "verify-full"]

/-- The address of a machine in a text. -/
def isMachine (s : String) : Bool :=
  match IpAddress.four? s.toList with
  | some (_, []) => true
  | _ => Url.Host.isSix s.toList

/-- The fault of a number of some bits. -/
def ofNumber? (bits : Nat) (value : String) : Option DatabaseFault :=
  match readUnsigned bits value with
  | .ok _ => none
  | .error e => some (.number e)

/-- The fault of an option. -/
def ofOption? (name value : String) : Option DatabaseFault :=
  match name with
  | "sslmode" | "ssl-mode" =>
    if encryptions.contains (value.map Char.toLower) then none else some (.encryption value)
  | "statement-cache-capacity" => ofNumber? 64 value
  | "port" => ofNumber? 16 value
  | "hostaddr" => if isMachine value then none else some .machine
  | _ => none

/-! ## The whole address -/

/-- The fault of a part that has to be a text. -/
def ofPart? (part : List Char) : Option DatabaseFault :=
  (Text.fault? (Text.unescapedBytes part)).map .text

/-- The first fault of a text as the address of a database. -/
def ofText? (s : String) : Option DatabaseFault :=
  match Url.ofText s with
  | .error fault => some (.address fault)
  | .ok url =>
    ([url.host, url.user, url.password, url.path].findSome? ofPart?).or
      ((fields url.query).findSome? fun field => ofOption? field.1 field.2)

end DatabaseFault

end QuizEngine
