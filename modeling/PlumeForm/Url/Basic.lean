import PlumeForm.Url.Ipv4
import PlumeForm.Url.Ipv6

/-!
# Addresses

The parts of an absolute address. Six schemes are web schemes: their addresses always have a host, a
port that may be left out, and a path that is a list of segments. An address of another scheme may
lack the host, and its path may be one flat text, against which nothing can be resolved.
-/

namespace PlumeForm

/-- What a scheme means for the shape of an address. -/
inductive SchemeKind where
  /-- The scheme for local files. -/
  | file
  /-- A web scheme with a host. -/
  | web
  /-- Any other scheme. -/
  | other
deriving DecidableEq, Repr

namespace SchemeKind

/-- The kind of a scheme, given in small letters. -/
def ofScheme (scheme : String) : SchemeKind :=
  if scheme = "file" then file
  else if ["http", "https", "ws", "wss", "ftp"].contains scheme then web
  else other

/-- A backslash counts as a slash, and a host is a domain. -/
def isStandard : SchemeKind → Bool
  | other => false
  | _ => true

end SchemeKind

/-- The port that an address of the scheme has when it names none. -/
def defaultPort? (scheme : String) : Option Nat :=
  if scheme = "http" ∨ scheme = "ws" then some 80
  else if scheme = "https" ∨ scheme = "wss" then some 443
  else if scheme = "ftp" then some 21
  else none

/-- The host of an address. -/
inductive Host where
  | empty
  | domain (name : List Char)
  | ipv4 (address : Ipv4)
  | ipv6 (address : Ipv6)
deriving DecidableEq, Repr

/-- Who serves an address, and on whose behalf. -/
structure Authority where
  user : List Char := []
  password : List Char := []
  host : Host
  port : Option Nat := none
deriving DecidableEq, Repr

/-- The path of an address. -/
inductive UrlPath where
  | segments (names : List (List Char))
  | flat (text : List Char)
deriving DecidableEq, Repr

/-- An absolute address; its texts are in percent form already. -/
structure Url where
  scheme : String
  authority : Option Authority
  path : UrlPath
  query : Option (List Char) := none
  fragment : Option (List Char) := none
deriving DecidableEq, Repr

/-- Why a text is no address. -/
inductive UrlError where
  | emptyHost
  | badDomain
  | badPort
  | badIpv4
  | badIpv6
  | badHostCharacter
  | relativeWithoutBase
  | relativeToFlatBase
deriving DecidableEq, Repr

/-- The wording of the fault. -/
def UrlError.message : UrlError → String
  | emptyHost => "empty host"
  | badDomain => "invalid international domain name"
  | badPort => "invalid port number"
  | badIpv4 => "invalid IPv4 address"
  | badIpv6 => "invalid IPv6 address"
  | badHostCharacter => "invalid domain character"
  | relativeWithoutBase => "relative URL without a base"
  | relativeToFlatBase => "relative URL with a cannot-be-a-base base"

namespace Url

/-- What the scheme means for the shape of the address. -/
def kind (u : Url) : SchemeKind :=
  SchemeKind.ofScheme u.scheme

/-- The address has a flat path. -/
def isFlat (u : Url) : Bool :=
  match u.path with
  | .flat _ => true
  | .segments _ => false

/-- The segments of the path; a flat path has none. -/
def segments (u : Url) : List (List Char) :=
  match u.path with
  | .flat _ => []
  | .segments names => names

end Url

end PlumeForm
