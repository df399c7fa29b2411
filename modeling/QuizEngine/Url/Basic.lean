import QuizEngine.Numeral
import QuizEngine.Url.Host

/-!
# Addresses

An address is a scheme and a colon; then, behind two slashes, the name and the password of
a user before an at sign, a host, and the number of a service; then a path and a query.
`Url.ofText` reads it from the left, and the first fault counts.

The schemes of the web want a host, and take a backslash for a slash. A file has a host
only where two slashes stand before it.
-/

namespace QuizEngine

/-- An address, in so far as it names a service and what is asked of it. Percent signs stay
as they are written. -/
structure Url where
  /-- The name of the user. -/
  user : List Char := []
  /-- The password of the user. -/
  password : List Char := []
  /-- The host; empty where there is none. -/
  host : Url.Host.Written := []
  /-- The path, without slashes in front. -/
  path : List Char := []
  /-- The query; empty where there is none. -/
  query : List Char := []

namespace Url

/-! ## The scheme -/

/-- The kinds of schemes. -/
inductive SchemeKind where
  /-- A scheme of the web. -/
  | web
  /-- The scheme of files. -/
  | file
  /-- Any other scheme. -/
  | other
  deriving DecidableEq

/-- The kind of a scheme in small letters. -/
def SchemeKind.ofName (name : String) : SchemeKind :=
  if ["http", "https", "ws", "wss", "ftp"].contains name then .web
  else if name = "file" then .file
  else .other

/-- Whether a character separates the parts of a path. -/
def SchemeKind.isSlash (kind : SchemeKind) (c : Char) : Bool :=
  c == '/' || (c == '\\' && kind != .other)

/-- Whether a character ends the part with the user, the host and the service. -/
def SchemeKind.endsAuthority (kind : SchemeKind) (c : Char) : Bool :=
  kind.isSlash c || c == '?' || c == '#'

/-- A text without control characters and blanks at its ends, and without line ends and tabs
inside. -/
def cleaned (s : String) : List Char :=
  let inner := (s.toList.dropWhile (·.toNat ≤ 0x20)).reverse.dropWhile (·.toNat ≤ 0x20)
  inner.reverse.filter fun c => c != '\t' && c != '\n' && c != '\r'

/-- The scheme, which starts with a letter and ends at a colon, and what follows it. -/
def splitScheme? (s : List Char) : Option (SchemeKind × List Char) :=
  let isSchemeChar (c : Char) : Bool := c.isAlphanum || c == '+' || c == '-' || c == '.'
  let name := s.takeWhile isSchemeChar
  match name, s.dropWhile isSchemeChar with
  | c :: _, ':' :: rest =>
    if c.isAlpha then some (.ofName (String.ofList (name.map Char.toLower)), rest) else none
  | _, _ => none

/-! ## The path and the query -/

/-- An address with the path and the query that a text starts with. -/
def withPath (u : Url) (kind : SchemeKind) (s : List Char) : Url :=
  let s := s.takeWhile (· != '#')
  let path := s.takeWhile (· != '?')
  { u with path := path.dropWhile kind.isSlash, query := s.drop (path.length + 1) }

/-! ## The user, the host and the service -/

/-- A host, up to a colon outside brackets, and what follows it. -/
def splitHost (inBrackets : Bool) : List Char → List Char × List Char
  | [] => ([], [])
  | c :: rest =>
    if c = ':' ∧ !inBrackets then ([], c :: rest)
    else
      let (host, after) := splitHost (c == '[' || (inBrackets && c != ']')) rest
      (c :: host, after)

/-- Reads the number of a service behind a colon, if there is one, and returns what follows
it. -/
def afterService : List Char → Except Fault (List Char)
  | ':' :: s =>
    let ds := s.takeWhile Char.isDigit
    let rest := s.dropWhile Char.isDigit
    match readDigits 65536 .tooLarge 0 ds, rest.head? with
    | .error _, _ => .error .badService
    | .ok _, none => .ok rest
    | .ok _, some c => if ['/', '\\', '?', '#'].contains c then .ok rest else .error .badService
  | s => .ok s

/-- The host of a text. -/
def SchemeKind.host (kind : SchemeKind) (s : List Char) : Except Fault Host.Written :=
  match kind with
  | .web => if s.isEmpty then .error .noHost else Host.ofWeb s
  | .file => Host.ofWeb s
  | .other => Host.ofOther s

/-- Reads what follows the slashes behind a scheme that is not the one of files. -/
def ofAuthority (kind : SchemeKind) (s : List Char) : Except Fault Url := do
  let authority := s.takeWhile fun c => !kind.endsAuthority c
  let tail := s.drop authority.length
  let server := (authority.reverse.takeWhile (· != '@')).reverse
  let userInfo := authority.take (authority.length - server.length - 1)
  if authority = ['@'] ∧ tail ≠ [] then throw .noHost
  let user := userInfo.takeWhile (· != ':')
  let password := userInfo.drop (user.length + 1)
  let (written, after) := splitHost false server
  let host ← kind.host written
  if host.isEmpty ∧ after ≠ [] then throw .noHost
  let rest ← afterService (after ++ tail)
  if host.isEmpty ∧ (user ≠ [] ∨ password ≠ []) then throw .noHost
  return withPath { user := user, password := password, host := host } kind rest

/-- Whether a text is the letter of a disk. -/
def isDiskLetter : List Char → Bool
  | [c, d] => c.isAlpha && (d == ':' || d == '|')
  | _ => false

/-- Reads what follows the scheme of files. -/
def ofFile : List Char → Except Fault Url
  | a :: b :: s =>
    if SchemeKind.file.isSlash a && SchemeKind.file.isSlash b then do
      let written := s.takeWhile fun c => !SchemeKind.file.endsAuthority c
      if written.isEmpty || isDiskLetter written then return withPath {} .file s
      let host ← SchemeKind.file.host written
      return withPath { host := if host = "localhost".toList then [] else host } .file
        (s.drop written.length)
    else .ok (withPath {} .file (a :: b :: s))
  | s => .ok (withPath {} .file s)

/-! ## A whole address -/

/-- Reads an address. -/
def ofText (s : String) : Except Fault Url :=
  match splitScheme? (cleaned s) with
  | none => .error .noScheme
  | some (.web, rest) => ofAuthority .web (rest.dropWhile SchemeKind.web.isSlash)
  | some (.file, rest) => ofFile rest
  | some (.other, '/' :: '/' :: rest) => ofAuthority .other rest
  | some (.other, rest) => .ok (withPath {} .other rest)

end Url

end QuizEngine
