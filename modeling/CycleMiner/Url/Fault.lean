/-!
# What can be wrong with a URL
-/

namespace CycleMiner

/-- why a text is no absolute URL -/
inductive UrlFault where
  | noScheme
  | emptyHost
  | portNumber
  | ipv4
  | ipv6
  | domain
  | hostCharacter
  deriving DecidableEq, Repr, Inhabited

namespace UrlFault

def message : UrlFault → String
  | noScheme => "relative URL without a base"
  | emptyHost => "empty host"
  | portNumber => "invalid port number"
  | ipv4 => "invalid IPv4 address"
  | ipv6 => "invalid IPv6 address"
  | domain => "invalid international domain name"
  | hostCharacter => "invalid domain character"

end UrlFault

end CycleMiner
