import PlumeForm.Url.Basic

/-!
# Writing addresses

The parts of an address one after the other, each with its mark.
-/

namespace PlumeForm

/-- The text of a host. -/
def Host.render : Host → List Char
  | empty => []
  | domain name => name
  | ipv4 address => address.render
  | ipv6 address => '[' :: address.render ++ [']']

namespace Authority

/-- The user name and password with the marks that they need. -/
def renderUser (a : Authority) : List Char :=
  if a.user = [] ∧ a.password = [] then []
  else a.user ++ (if a.password = [] then [] else ':' :: a.password) ++ ['@']

/-- The port behind a colon, when there is one. -/
def renderPort (a : Authority) : List Char :=
  match a.port with
  | some n => ':' :: Nat.toDigits 10 n
  | none => []

/-- The text of an authority. -/
def render (a : Authority) : List Char :=
  a.renderUser ++ a.host.render ++ a.renderPort

end Authority

/-- The text of a path: every segment behind a slash. -/
def UrlPath.render : UrlPath → List Char
  | segments names => names.flatMap fun name => '/' :: name
  | flat text => text

namespace Url

/-- What stands between the scheme and the path. Without an authority, a path that begins with an
empty segment gets a point before it, so that it does not look like one. -/
def renderFront (u : Url) : List Char :=
  match u.authority with
  | some a => '/' :: '/' :: a.render
  | none =>
    match u.path with
    | .segments ([] :: _ :: _) => ['/', '.']
    | _ => []

/-- A part behind its mark, when there is one. -/
def renderPart (mark : Char) : Option (List Char) → List Char
  | some text => mark :: text
  | none => []

/-- The text of an address. -/
def render (u : Url) : String :=
  String.ofList
    (u.scheme.toList ++ ':' :: u.renderFront ++ u.path.render ++ renderPart '?' u.query ++
      renderPart '#' u.fragment)

end Url

end PlumeForm
