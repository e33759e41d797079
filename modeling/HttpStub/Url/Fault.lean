/-!
# Why a text is no URL
-/

namespace HttpStub.Url

/-- What is wrong with a text that should be a URL, found by `parse` at the first place that is
wrong. -/
inductive Fault where
  /-- There is no scheme in front. -/
  | relative
  /-- The host is missing where there has to be one. -/
  | emptyHost
  /-- The host is no domain name, as `Domain.toAscii?` has it. -/
  | invalidDomain
  /-- A host that is not of the web has a character of `Host.isForbidden`. -/
  | invalidDomainCharacter
  /-- The host ends in a number and is no address of the fourth version. -/
  | invalidIpv4
  /-- What stands in brackets is no address of the sixth version. -/
  | invalidIpv6
  /-- The port is no number below 65536, or something follows it. -/
  | invalidPort
deriving DecidableEq

/-- The wording of a `Fault`, which an invalid base URL is reported with. -/
def Fault.message : Fault → String
  | .relative => "relative URL without a base"
  | .emptyHost => "empty host"
  | .invalidDomain => "invalid international domain name"
  | .invalidDomainCharacter => "invalid domain character"
  | .invalidIpv4 => "invalid IPv4 address"
  | .invalidIpv6 => "invalid IPv6 address"
  | .invalidPort => "invalid port number"

end HttpStub.Url
