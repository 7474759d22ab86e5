import Easynet.Rules.Context
import Easynet.Rules.Rule
/-!
# Matcher — does a rule apply to a packet

A rule has up to nine conditions, and applies if all it has hold (`matches_iff`).  Each condition is a text that is read
again for every packet.  Networks are read by `ipnetwork` and countries come from a `maxminddb` database: both are
parameters.
-/
namespace Easynet

/-- `Ipv4Network`. -/
structure Ipv4Network where
  addr : Ipv4Addr
  prefixLen : Nat
  deriving DecidableEq, Repr

def Ipv4Addr.toBits (ip : Ipv4Addr) : List Bool :=
  [ip.a, ip.b, ip.c, ip.d].flatMap (fun octet => (List.range 8).map (fun i => octet.toNat.testBit (7 - i)))

/-- The address has the first bits of the network. -/
def Ipv4Network.contains (network : Ipv4Network) (ip : Ipv4Addr) : Bool :=
  ip.toBits.take network.prefixLen == network.addr.toBits.take network.prefixLen

/-- `Ipv4Network::from_str`, with the text of its error. -/
structure Ipnetwork where
  parse : String → Except String Ipv4Network

/-! ## Countries -/

/-- The codes of a `geoip2::Country`. -/
structure Country where
  country : Option String
  registeredCountry : Option String
  representedCountry : Option String
  deriving DecidableEq, Repr

/-- A database: the country it has for an address. -/
abbrev Reader := Ipv4Addr → Option Country

structure GeoIpMatcher where
  reader : Option Reader

def isCgnat (ip : Ipv4Addr) : Bool := ip.a == 100 && 64 ≤ ip.b && ip.b ≤ 127

def isPrivateIp (ip : Ipv4Addr) : Bool :=
  ip.isPrivate || ip.isLoopback || ip.isLinkLocal || ip.isUnspecified || ip.isBroadcast || ip.isMulticast || isCgnat ip

namespace GeoIpMatcher

def withoutDatabase : GeoIpMatcher := ⟨none⟩

def «matches» (geoip : GeoIpMatcher) (ip : Ipv4Addr) (code : String) : Bool :=
  if Text.toAsciiLowercase code == "private" then isPrivateIp ip
  else match geoip.reader with
    | none => false
    | some reader =>
      match reader ip with
      | none => false
      | some country =>
        let code := Text.toAsciiUppercase code
        country.country == some code || country.registeredCountry == some code || country.representedCountry == some code

end GeoIpMatcher

/-! ## Ports and protocols -/

def parseU16 (s : String) : Option UInt16 := (Text.parseUnsigned 65536 s).map UInt16.ofNat

def parsePortRange (s : String) : Except String (UInt16 × UInt16) :=
  if Text.contains s "-" then
    match Text.split '-' s with
    | [first, last] =>
      match parseU16 first with
      | none => .error "invalid start port"
      | some start =>
        match parseU16 last with
        | none => .error "invalid end port"
        | some stop => if stop < start then .error "start port is greater than end port" else .ok (start, stop)
    | _ => .error "invalid range format"
  else match parseU16 s with
    | none      => .error "invalid port"
    | some port => .ok (port, port)

/-- `Protocol::from_str`.  Of the other characters that `to_lowercase` changes, none becomes a letter of these names. -/
def Protocol.fromStr (s : String) : Option Protocol :=
  match Text.toAsciiLowercase s with
  | "tcp"  => some .tcp
  | "udp"  => some .udp
  | "icmp" => some .icmp
  | _      => none

namespace Matcher

def matchesIp (ipnetwork : Ipnetwork) (cidr : String) (ip : Ipv4Addr) : Bool :=
  match ipnetwork.parse cidr with
  | .ok network => network.contains ip
  | .error _    => Ipv4Addr.parse cidr == some ip

def matchesPort (portSpec : String) (packetPort : Option UInt16) : Bool :=
  match packetPort with
  | none => false
  | some port =>
    match parsePortRange portSpec with
    | .ok (start, stop) => decide (start ≤ port ∧ port ≤ stop)
    | .error _          => false

def matchesProtocol (proto : String) (packetProto : Protocol) : Bool :=
  match Protocol.fromStr proto with
  | some proto => proto == packetProto
  | none       => false

def matchesDomain (domain : String) (packetDomains : List String) : Bool :=
  packetDomains.any (fun value => value == domain)

def matchesDomainSuffix (suffix : String) (packetDomains : List String) : Bool :=
  packetDomains.any (fun value => value == suffix || Text.endsWith value ("." ++ suffix))

def matchesDomainKeyword (keyword : String) (packetDomains : List String) : Bool :=
  packetDomains.any (fun value => Text.contains value keyword)

def «matches» (ipnetwork : Ipnetwork) (rule : Rule) (packet : PacketContext) (geoip : GeoIpMatcher) : Bool :=
  rule.srcIpCidr.all (fun cidr => matchesIp ipnetwork cidr packet.srcIp) &&
  rule.dstIpCidr.all (fun cidr => matchesIp ipnetwork cidr packet.dstIp) &&
  rule.srcPort.all (fun port => matchesPort port packet.srcPort) &&
  rule.dstPort.all (fun port => matchesPort port packet.dstPort) &&
  rule.proto.all (fun proto => matchesProtocol proto packet.protocol) &&
  rule.domain.all (fun domain => matchesDomain domain packet.domains) &&
  rule.domainSuffix.all (fun suffix => matchesDomainSuffix suffix packet.domains) &&
  rule.domainKeyword.all (fun keyword => matchesDomainKeyword keyword packet.domains) &&
  rule.geoip.all (fun code => geoip.matches packet.dstIp code)

/-- **Every condition that a rule has holds for the packet.** -/
structure Holds (ipnetwork : Ipnetwork) (rule : Rule) (packet : PacketContext) (geoip : GeoIpMatcher) : Prop where
  srcIpCidr : ∀ cidr ∈ rule.srcIpCidr, matchesIp ipnetwork cidr packet.srcIp = true
  dstIpCidr : ∀ cidr ∈ rule.dstIpCidr, matchesIp ipnetwork cidr packet.dstIp = true
  srcPort : ∀ port ∈ rule.srcPort, matchesPort port packet.srcPort = true
  dstPort : ∀ port ∈ rule.dstPort, matchesPort port packet.dstPort = true
  proto : ∀ proto ∈ rule.proto, matchesProtocol proto packet.protocol = true
  domain : ∀ domain ∈ rule.domain, matchesDomain domain packet.domains = true
  domainSuffix : ∀ suffix ∈ rule.domainSuffix, matchesDomainSuffix suffix packet.domains = true
  domainKeyword : ∀ keyword ∈ rule.domainKeyword, matchesDomainKeyword keyword packet.domains = true
  geoip : ∀ code ∈ rule.geoip, geoip.matches packet.dstIp code = true

theorem matches_iff {ipnetwork : Ipnetwork} {rule : Rule} {packet : PacketContext} {geoip : GeoIpMatcher} :
    Matcher.matches ipnetwork rule packet geoip = true ↔ Holds ipnetwork rule packet geoip := by
  unfold Matcher.matches
  simp only [Bool.and_eq_true, Option.all_eq_true]
  constructor
  · rintro ⟨⟨⟨⟨⟨⟨⟨⟨h₁, h₂⟩, h₃⟩, h₄⟩, h₅⟩, h₆⟩, h₇⟩, h₈⟩, h₉⟩
    exact ⟨h₁, h₂, h₃, h₄, h₅, h₆, h₇, h₈, h₉⟩
  · rintro ⟨h₁, h₂, h₃, h₄, h₅, h₆, h₇, h₈, h₉⟩
    exact ⟨⟨⟨⟨⟨⟨⟨⟨h₁, h₂⟩, h₃⟩, h₄⟩, h₅⟩, h₆⟩, h₇⟩, h₈⟩, h₉⟩

end Matcher

end Easynet
