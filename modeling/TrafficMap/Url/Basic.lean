/-!
# URLs

The parts of an absolute URL, and why a text may fail to be one.
-/

namespace TrafficMap

inductive Host where
  /-- A name. -/
  | domain (name : String)
  /-- An address of 32 bits. -/
  | ipv4 (address : Nat)
  /-- An address of eight groups of 16 bits. -/
  | ipv6 (groups : List Nat)
  /-- The host of a scheme that has no rules for hosts. -/
  | opaqueName (name : String)
deriving Repr, BEq, DecidableEq

/-- An absolute URL. -/
structure Url where
  /-- In small letters, without the colon. -/
  scheme : String
  /-- User name and password as written. -/
  credentials : String
  host : Option Host
  /-- The port, unless it is the scheme's own. -/
  port : Option Nat
  /-- Path, query and fragment as written. -/
  tail : String
deriving Repr, BEq, DecidableEq

namespace Url

/-- The URL can be requested: it is a web address with a host. -/
def isRequestable (u : Url) : Bool :=
  (u.scheme == "http" || u.scheme == "https") && u.host.isSome

/-- Why a text is no absolute URL. -/
inductive Fault where
  | noScheme
  | emptyHost
  | invalidPort
  | invalidIpv4
  | invalidIpv6
  | invalidDomain
  | invalidDomainCharacter
deriving Repr, BEq, DecidableEq

def Fault.message : Fault → String
  | .noScheme => "relative URL without a base"
  | .emptyHost => "empty host"
  | .invalidPort => "invalid port number"
  | .invalidIpv4 => "invalid IPv4 address"
  | .invalidIpv6 => "invalid IPv6 address"
  | .invalidDomain => "invalid international domain name"
  | .invalidDomainCharacter => "invalid domain character"

end Url

end TrafficMap
