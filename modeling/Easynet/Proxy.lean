import Easynet.Net
/-!
# Proxy — what the transparent proxies share

`transparent_proxy/filter.rs` and the `UpstreamServer` of `transparent_proxy/mod.rs`: which pairs of addresses are let
through, and the address a session connects to in place of its target.
-/
namespace Easynet

def SocketAddr.ip : SocketAddr → IpAddr
  | .v4 ip _     => .v4 ip
  | .v6 ip _ _ _ => .v6 ip

def SocketAddr.port : SocketAddr → UInt16
  | .v4 _ port     => port
  | .v6 _ port _ _ => port

def SocketAddr.new (ip : IpAddr) (port : UInt16) : SocketAddr :=
  match ip with
  | .v4 ip => .v4 ip port
  | .v6 ip => .v6 ip port 0 0

namespace Ipv6Addr

def isMulticast (ip : Ipv6Addr) : Bool := ip.segments[0] &&& 0xff00 == 0xff00

def isUnspecified (ip : Ipv6Addr) : Bool := ip.segments == Vector.replicate 8 0

end Ipv6Addr

/-- `IpFilters`: a pair of addresses has to pass all of them. -/
abbrev IpFilters := List (IpAddr → IpAddr → Bool)

namespace IpFilters

def nonBroadcast : IpAddr → Bool
  | .v4 a => !(a.isBroadcast || a.isMulticast || a.isUnspecified)
  | .v6 a => !(a.isMulticast || a.isUnspecified)

def withNonBroadcast : IpFilters := [fun src dst => nonBroadcast src && nonBroadcast dst]

def isAllowed (filters : IpFilters) (src dst : IpAddr) : Bool := filters.all (fun filter => filter src dst)

end IpFilters

structure UpstreamServer where
  ip : Option IpAddr
  deriving DecidableEq, Repr

namespace UpstreamServer

def translateSocket (upstream : UpstreamServer) (addr : SocketAddr) : SocketAddr :=
  match upstream.ip with
  | some ip => .new ip addr.port
  | none    => addr

def translateIpv4 (upstream : UpstreamServer) (addr : Ipv4Addr) : Except IpAddr Ipv4Addr :=
  match upstream.ip with
  | some (.v4 ip) => .ok ip
  | some (.v6 ip) => .error (.v6 ip)
  | none          => .ok addr

end UpstreamServer

/-- What the proxies are started with. -/
structure ProxyConfig where
  filters : IpFilters
  upstream : UpstreamServer

/-- No upstream server, and the filters of `run_transparent_proxy`. -/
def ProxyConfig.plain : ProxyConfig := ⟨IpFilters.withNonBroadcast, ⟨none⟩⟩

end Easynet
