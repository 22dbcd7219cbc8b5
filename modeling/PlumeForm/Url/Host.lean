import PlumeForm.Url.Basic
import PlumeForm.Url.Domain
import PlumeForm.Url.Percent

/-!
# Reading hosts

The host of a web address is a domain name in ASCII and small letters, or a number; a host in
brackets is an address of eight pieces. Hosts of other schemes are kept as they are, as long as
they hold no mark that belongs to another part.
-/

namespace PlumeForm.Host

/-- Marks that the host of any scheme may not hold. -/
def forbiddenMarks : List Char :=
  ['\x00', '\t', '\n', '\r', ' ', '#', '/', ':', '<', '>', '?', '@', '[', '\\', ']', '^', '|']

/-- A character that a domain name may not hold: a mark, a percent sign or a control. -/
def isForbidden (c : Char) : Bool :=
  c.toNat ≤ 0x20 || c.toNat == 0x7F || c == '%' || forbiddenMarks.contains c

/-- An address in brackets. -/
def readBracketed (cs : List Char) : Except UrlError Host :=
  if cs.getLast? = some ']' then
    match Ipv6.read? (cs.drop 1).dropLast with
    | some a => .ok (.ipv6 a)
    | none => .error .badIpv6
  else .error .badIpv6

/-- The domain name that a text stands for, in ASCII. -/
def domainName? (cs : List Char) : Option (List Char) :=
  match (Percent.decode? cs).bind Domain.write? with
  | some name => if name.any isForbidden then none else some name
  | none => none

/-- The host of a web address. -/
def readDomain (cs : List Char) : Except UrlError Host :=
  match domainName? cs with
  | none => .error .badDomain
  | some name =>
    if name = [] then .error .emptyHost
    else if Ipv4.endsInNumber name then
      match Ipv4.read? name with
      | some a => .ok (.ipv4 a)
      | none => .error .badIpv4
    else .ok (.domain name)

/-- The host of an address of another scheme. -/
def readPlain (cs : List Char) : Except UrlError Host :=
  if cs.any forbiddenMarks.contains then .error .badHostCharacter
  else if cs = [] then .ok .empty
  else .ok (.domain (Percent.encode [] cs))

/-- The host of an address whose scheme is not the one for files. -/
def read (kind : SchemeKind) (cs : List Char) : Except UrlError Host :=
  if kind = .web ∧ cs = [] then .error .emptyHost
  else if cs.head? = some '[' then readBracketed cs
  else if kind = .web then readDomain cs
  else readPlain cs

end PlumeForm.Host
