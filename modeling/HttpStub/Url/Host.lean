import HttpStub.Url.Domain
import HttpStub.Url.Fault
import HttpStub.Url.Ip
import HttpStub.Url.Percent
import HttpStub.Url.Scheme

/-!
# Hosts

A host of the web is a domain name, or an address in figures. Other schemes have hosts of their own,
of which little is known.
-/

namespace HttpStub.Url

/-- The machine that a URL points to. -/
inductive Host where
  /-- A name; an empty one if the URL leaves the host open. -/
  | name (text : List Char)
  /-- An address of four bytes. -/
  | ipv4 (address : UInt32)
  /-- An address of eight pieces. -/
  | ipv6 (pieces : List Nat)
deriving DecidableEq

namespace Host

/-- No particular host: a `name` without characters. -/
def empty : Host := .name []

/-- The host in brackets, an address of the sixth version by `Ipv6.ofText?`. -/
def ofBrackets (text : List Char) : Except Fault Host :=
  if text.getLast? = some ']' then
    match Ipv6.ofText? (text.drop 1).dropLast with
    | some pieces => .ok (.ipv6 pieces)
    | none => .error .invalidIpv6
  else .error .invalidIpv6

/-- The host that a name of the web stands for, its escapes read by `Percent.decode` and its form
brought about by `Domain.toAscii?`. -/
def ofName (text : List Char) : Except Fault Host :=
  match (Text.Utf8.decode? (Percent.decode text)).bind Domain.toAscii? with
  | none => .error .invalidDomain
  -- A name of nothing but characters that leave no trace.
  | some [] => .error .emptyHost
  | some domain =>
    -- A name that ends in a number has to be an address.
    if Ipv4.isMeant domain then
      match Ipv4.ofName? domain with
      | some address => .ok (.ipv4 address)
      | none => .error .invalidIpv4
    else .ok (.name domain)

/-- Characters that no host contains. -/
def isForbidden (c : Char) : Bool :=
  ['\x00', '\t', '\n', '\r', ' ', '#', '/', ':', '<', '>', '?', '@', '[', '\\', ']', '^',
    '|'].contains c

/-- The host of a scheme that is not of the web: any text without a character that `isForbidden`. -/
def ofForeign (text : List Char) : Except Fault Host :=
  if text.any isForbidden then .error .invalidDomainCharacter
  else .ok (.name (Percent.encode Percent.controls text))

/-- The host of a text, by `ofBrackets`, `ofName` or `ofForeign`. -/
def ofText (scheme : Scheme) (text : List Char) : Except Fault Host :=
  if text.head? = some '[' then ofBrackets text
  else if scheme.isSpecial then ofName text
  else ofForeign text

/-- The text of a host, as `Url.text` has it. -/
def chars : Host → List Char
  | .name text => text
  | .ipv4 address => Ipv4.chars address
  | .ipv6 pieces => '[' :: Ipv6.chars pieces ++ [']']

end Host

end HttpStub.Url
