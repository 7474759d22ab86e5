import Easynet.Wire
/-!
# Context — what the rules see of a packet

`PacketContext::from_ip_packet` looks at a packet through `etherparse`, which cuts it into an internet and a transport
slice.  The slices are modelled by what is read from them, and the cutting is a parameter; `Etherparse.plain` cuts packets
without extension headers.
-/
namespace Easynet

inductive Protocol
  | tcp
  | udp
  | icmp
  | other (value : UInt8)
  deriving DecidableEq, Repr

structure PacketContext where
  srcIp : Ipv4Addr
  dstIp : Ipv4Addr
  srcPort : Option UInt16
  dstPort : Option UInt16
  protocol : Protocol
  domains : List String
  deriving DecidableEq, Repr

inductive InternetSlice
  | ipv4 (source destination : Ipv4Addr)
  | ipv6
  deriving DecidableEq, Repr

inductive TransportSlice
  | tcp (sourcePort destinationPort : UInt16)
  | udp (sourcePort destinationPort : UInt16) (payload : Bytes)
  | icmpv4
  | icmpv6
  deriving DecidableEq, Repr

structure SlicedPacket where
  net : Option InternetSlice
  transport : Option TransportSlice
  deriving DecidableEq, Repr

/-- `SlicedPacket::from_ip`, without the error. -/
structure Etherparse where
  fromIp : Bytes → Option SlicedPacket

/-- The transport slice of a packet that is no fragment, by its protocol and payload. -/
def TransportSlice.plain (protocol : UInt8) (payload : Bytes) : Option (Option TransportSlice) :=
  let sourcePort := UInt16.ofNat (Checksum.u16At 0 payload)
  let destinationPort := UInt16.ofNat (Checksum.u16At 2 payload)
  if protocol = 6 then if 20 ≤ payload.length then some (some (.tcp sourcePort destinationPort)) else none
  else if protocol = 17 then
    if 8 ≤ payload.length then some (some (.udp sourcePort destinationPort (payload.drop 8))) else none
  else if protocol = 1 then if 8 ≤ payload.length then some (some .icmpv4) else none
  else if protocol = 58 then if 8 ≤ payload.length then some (some .icmpv6) else none
  else some none

/-- Packets without extension headers: the fields of the header, and no transport slice for a fragment. -/
def Etherparse.plain : Etherparse where
  fromIp data :=
    if Ipv4Packet.version data = 4 ∧ 20 ≤ Ipv4Packet.headerLen data ∧ Ipv4Packet.checkLen data then
      let net := some (.ipv4 (Ipv4Packet.srcAddr data) (Ipv4Packet.dstAddr data))
      if Ipv4Packet.moreFrags data ∨ Ipv4Packet.fragOffset data ≠ 0 then some ⟨net, none⟩
      else (TransportSlice.plain (Ipv4Packet.nextHeader data) (Ipv4Packet.payload data)).map (⟨net, ·⟩)
    else if Ipv4Packet.version data = 6 ∧ 40 + Checksum.u16At 4 data ≤ data.length then
      (TransportSlice.plain (data.getD 6 0) ((data.drop 40).take (Checksum.u16At 4 data))).map (⟨some .ipv6, ·⟩)
    else none

namespace PacketContext

def new (srcIp dstIp : Ipv4Addr) (srcPort dstPort : Option UInt16) (protocol : Protocol) : PacketContext :=
  ⟨srcIp, dstIp, srcPort, dstPort, protocol, []⟩

def withDomains (packet : PacketContext) (domains : List String) : PacketContext := { packet with domains := domains }

def fromIpPacket (etherparse : Etherparse) (data : Bytes) : Option PacketContext :=
  match etherparse.fromIp data with
  | none => none
  | some sliced =>
    match sliced.net with
    | some (.ipv4 src dst) =>
      match sliced.transport with
      | some (.tcp sourcePort destinationPort)   => some (new src dst (some sourcePort) (some destinationPort) .tcp)
      | some (.udp sourcePort destinationPort _) => some (new src dst (some sourcePort) (some destinationPort) .udp)
      | some .icmpv4 => some (new src dst none none .icmp)
      | some .icmpv6 => none
      | none         => some (new src dst none none (.other 0))
    | _ => none

end PacketContext

end Easynet
