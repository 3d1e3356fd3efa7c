/-!
Why a text is not an absolute URI.
-/
namespace ArtifactCache.Uri

inductive Fault
  | relativeWithoutBase
  | emptyHost
  | invalidPort
  | invalidIpv4
  | invalidIpv6
  /-- The host of a web scheme is not a domain name. -/
  | invalidDomain
  /-- The host of another scheme holds a character that no host may hold. -/
  | invalidHostCharacter
  deriving DecidableEq, Repr

def Fault.message : Fault → String
  | .relativeWithoutBase => "relative URL without a base"
  | .emptyHost => "empty host"
  | .invalidPort => "invalid port number"
  | .invalidIpv4 => "invalid IPv4 address"
  | .invalidIpv6 => "invalid IPv6 address"
  | .invalidDomain => "invalid international domain name"
  | .invalidHostCharacter => "invalid domain character"

end ArtifactCache.Uri
