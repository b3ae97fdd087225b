/-!
# Faults of URLs

The reasons for which a text is not a URL.
-/

namespace CdnPublish.Url

/-- Why a text is not a URL. -/
inductive Fault where
  | emptyHost
  | invalidPort
  | invalidIpv4
  | invalidIpv6
  | invalidDomain
  | invalidDomainCharacter
  | relativeWithoutBase
  | relativeToOpaque
  | hostOnOpaque
  | tooLong
  deriving DecidableEq, Repr

/-- The wording of a URL fault. -/
def Fault.message : Fault → String
  | .emptyHost => "empty host"
  | .invalidPort => "invalid port number"
  | .invalidIpv4 => "invalid IPv4 address"
  | .invalidIpv6 => "invalid IPv6 address"
  | .invalidDomain => "invalid international domain name"
  | .invalidDomainCharacter => "invalid domain character"
  | .relativeWithoutBase => "relative URL without a base"
  | .relativeToOpaque => "relative URL with a cannot-be-a-base base"
  | .hostOnOpaque => "a cannot-be-a-base URL doesn’t have a host to set"
  | .tooLong => "URLs more than 4 GB are not supported"

end CdnPublish.Url
