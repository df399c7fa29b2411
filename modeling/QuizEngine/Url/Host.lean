import QuizEngine.NetworkAddress
import QuizEngine.Text.Lowercase
import QuizEngine.Text.Percent
import QuizEngine.Url.DomainTable
import QuizEngine.Url.Punycode

/-!
# The host of an address

A host is an address in brackets, a name of the internet with full stops in it, or, where
the scheme is not one of the web, any text without separators. `Host.ofName` reads a name
of the internet: capitals and characters that stand for others are put in their plain form,
and a name that ends in a number has to be an address of four numbers.
-/

namespace QuizEngine.Url

/-- Why a text is no address. -/
inductive Fault where
  /-- It names no scheme. -/
  | noScheme
  /-- It names no host where there has to be one. -/
  | noHost
  /-- The host holds a separator. -/
  | separatorInHost
  /-- The host is no name of the internet. -/
  | badName
  /-- The host ends in a number and is no address of four numbers. -/
  | badFour
  /-- The host starts with a bracket and is no address of eight groups. -/
  | badSix
  /-- What names the service is no number below 65536. -/
  | badService
  deriving DecidableEq

/-- What is reported of a text that is no address. -/
def Fault.message : Fault → String
  | .noScheme => "relative URL without a base"
  | .noHost => "empty host"
  | .separatorInHost => "invalid domain character"
  | .badName => "invalid international domain name"
  | .badFour => "invalid IPv4 address"
  | .badSix => "invalid IPv6 address"
  | .badService => "invalid port number"

namespace Host

/-- A host in the form in which it is kept. -/
abbrev Written := List Char

/-! ## Addresses -/

/-- The value of one of four numbers, in tens, with a zero in front in eights, and with
`0x` in front in sixteens. -/
def fourNumber? (s : List Char) : Option Nat :=
  let value? (base : Nat) (ds : List Char) : Option Nat :=
    ds.foldlM (fun n c => (IpAddress.digit? base c).map (n * base + ·)) 0
  match s with
  | [] => none
  | '0' :: 'x' :: ds => value? 16 ds
  | '0' :: d :: ds => value? 8 (d :: ds)
  | ds => value? 10 ds

/-- The parts of a name between its full stops, without an empty one at the end. -/
def parts (name : List Char) : List (List Char) :=
  let all := name.splitOn '.'
  if all.getLast? = some [] then all.dropLast else all

/-- Whether the last part of a name is a number, also where its digits are too large for
their base. -/
def endsInNumber (name : List Char) : Bool :=
  match (parts name).getLast? with
  | none => false
  | some [] => false
  | some last => last.all Char.isDigit || (fourNumber? last).isSome

/-- Whether the parts are an address: each but the last below 256, and the last one below
what the numbers that are not there would count. -/
def isFour (parts : List (List Char)) : Bool :=
  match parts.mapM fourNumber? with
  | none => false
  | some numbers =>
    match numbers.reverse with
    | [] => false
    | last :: before =>
      before.length < 4 && before.all (· < 256) && last < twoTo (8 * (4 - before.length))

/-- Whether a text is an address of eight groups. -/
def isSix (s : List Char) : Bool :=
  match IpAddress.six? s with
  | some (_, rest) => rest.isEmpty
  | none => false

/-- A host in brackets. -/
def ofBracketed (s : List Char) : Except Fault Written :=
  if s.getLast? = some ']' ∧ isSix ((s.drop 1).dropLast) then .ok s else .error .badSix

/-! ## Names of the internet -/

/-- The plain form of a character; none for one that no name may hold. -/
def plainChar? (c : Char) : Option (List Char) :=
  if c.toNat < 0x80 then some [c.toLower]
  else
    match plainRuns.find? fun run => run.1 ≤ c.toNat && c.toNat ≤ run.2.1 with
    | some (first, _, stand) => some [(Char.ofNat (stand.toNat + (c.toNat - first))).toLower]
    | none =>
      if Text.inRanges refusedRanges c then none
      else if Text.inRanges vanishingRanges c then some []
      else some (Text.lowerChar c)

/-- Characters of ASCII that no name may hold. -/
def isForbidden (c : Char) : Bool :=
  c.toNat ≤ 0x20 || c.toNat = 0x7f ||
    ['%', '#', '/', ':', '<', '>', '?', '@', '[', '\\', ']', '^', '|'].contains c

/-- Whether a label can stand in a name. One that starts with `xn--` has to be the written
form of a label with characters beyond ASCII, all in their plain form. -/
def isLabel : List Char → Bool
  | 'x' :: 'n' :: '-' :: '-' :: code =>
    match Punycode.decode? code with
    | some cs =>
      code.all (·.toNat < 0x80) && cs.any (0x80 ≤ ·.toNat) &&
        cs.all fun c => plainChar? c = some [c]
    | none => false
  | _ => true

/-- The plain form of a name, given by its bytes; none where it holds what no name may. -/
def plainName? (bytes : List UInt8) : Option (List Char) := do
  let text ← String.fromUTF8? (ByteArray.mk bytes.toArray)
  let pieces ← text.toList.mapM plainChar?
  some pieces.flatten

/-- The host of a name of the internet, given by the bytes of the name. -/
def ofName (bytes : List UInt8) : Except Fault Written :=
  match plainName? bytes with
  | none => .error .badName
  | some name =>
    if name.any isForbidden || !(name.splitOn '.').all isLabel then .error .badName
    else if name.isEmpty then .error .noHost
    else if endsInNumber name && !isFour (parts name) then .error .badFour
    else .ok name

/-- The host of an address of the web. -/
def ofWeb : List Char → Except Fault Written
  | '[' :: s => ofBracketed ('[' :: s)
  | s => ofName (Text.unescapedBytes s)

/-! ## Other hosts -/

/-- Characters that separate the parts of an address. -/
def isSeparator (c : Char) : Bool :=
  ['\x00', '\t', '\n', '\r', ' ', '#', '/', ':', '<', '>', '?', '@', '[', '\\', ']', '^',
    '|'].contains c

/-- The host of an address that is not of the web; it may be empty. -/
def ofOther : List Char → Except Fault Written
  | '[' :: s => ofBracketed ('[' :: s)
  | s => if s.any isSeparator then .error .separatorInHost else .ok s

end Host

end QuizEngine.Url
