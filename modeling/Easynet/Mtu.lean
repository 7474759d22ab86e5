import Easynet.Agreement
import Easynet.Proto
import Easynet.Startup
import Easynet.Wire
/-!
# Mtu — the configured MTU, from the file to the packets

`tun_mtu` is cast to 16 bits for the server's own device; for a client it is cast to 32 bits, sent in the handshake reply
and cast to 16 bits there.  `tun_io_task` reads packets on either side into a buffer of 1500 bytes, whatever the MTU is.
-/
namespace Easynet

/-- The device that `run_client_from_config` makes from the configuration in the reply, alike in its four arms. -/
def clientTunDevice (std : AddrParser) (tun2 : Tun2) (tunConfig : TunConfig) : Except String Configuration := do
  let address ← std.parse tunConfig.address
  let netmask ← std.parse tunConfig.netmask
  let destination ← std.parse tunConfig.destination
  let dns ← tunConfig.dns.mapM std.parse
  createTunDevice tun2 tunConfig.name address netmask destination dns tunConfig.mtu.toUInt16

theorem clientTunDevice_mtu {std : AddrParser} {tun2 : Tun2} {tunConfig : TunConfig} {device : Configuration}
    (h : clientTunDevice std tun2 tunConfig = .ok device) : device.mtu = tunConfig.mtu.toUInt16 := by
  obtain ⟨address, -, h⟩ := Result.bind_eq_ok.1 h
  obtain ⟨netmask, -, h⟩ := Result.bind_eq_ok.1 h
  obtain ⟨destination, -, h⟩ := Result.bind_eq_ok.1 h
  obtain ⟨dns, -, h⟩ := Result.bind_eq_ok.1 h
  exact createTunDevice_mtu h

/-! ## The buffer of `tun_io_task` -/

/-- `TUN_MTU`. -/
def tunMtu : Nat := 1500

/-- `tun.read(&mut tun_buf)`: the buffer and the number of bytes read into it.  What does not fit of the packet is lost. -/
def readTun (tunBuf packet : Bytes) : Bytes × Nat :=
  let n := min tunBuf.length packet.length
  (packet.take n ++ tunBuf.drop n, n)

/-- What `tun_io_task` hands to `handle_packet_route`, of packets that it reads one after the other. -/
def readPackets (tunBuf : Bytes) : List Bytes → List Bytes
  | []                => []
  | packet :: packets =>
    let (tunBuf, n) := readTun tunBuf packet
    tunBuf.take n :: readPackets tunBuf packets

theorem length_readTun (tunBuf packet : Bytes) : (readTun tunBuf packet).1.length = tunBuf.length := by
  simp only [readTun, List.length_append, List.length_take, List.length_drop]
  omega

theorem take_readTun (tunBuf packet : Bytes) :
    (readTun tunBuf packet).1.take (readTun tunBuf packet).2 = packet.take tunBuf.length := by
  have hlen : (packet.take (min tunBuf.length packet.length)).length = min tunBuf.length packet.length := by
    rw [List.length_take]
    omega
  rw [readTun, List.take_left' hlen]
  rcases Nat.le_total tunBuf.length packet.length with hle | hle
  · rw [Nat.min_eq_left hle]
  · rw [Nat.min_eq_right hle, List.take_length, List.take_of_length_le hle]

/-- **A packet is handed on as far as it fits into the buffer**, whatever was read before it. -/
theorem readPackets_eq : ∀ (packets : List Bytes) (tunBuf : Bytes),
    readPackets tunBuf packets = packets.map (List.take tunBuf.length)
  | [], _ => rfl
  | packet :: packets, tunBuf => by
    have hcons : readPackets tunBuf (packet :: packets) =
        (readTun tunBuf packet).1.take (readTun tunBuf packet).2 :: readPackets (readTun tunBuf packet).1 packets := rfl
    rw [hcons, take_readTun, readPackets_eq packets, length_readTun, List.map_cons]

/-- An IP packet without anything after it. -/
def IsIpPacket (packet : Bytes) : Prop :=
  (Ipv4Packet.WellFormed packet ∧ Ipv4Packet.totalLen packet = packet.length) ∨
  (Ipv4Packet.version packet = 6 ∧ 40 ≤ packet.length ∧ 40 + Checksum.u16At 4 packet = packet.length)

/-- An IPv4 packet with this much payload. -/
def ipv4Packet (payloadLen : Nat) : Bytes :=
  Ipv4Repr.header ⟨.new 10 0 0 2, .new 10 0 0 1, 17, payloadLen, 64⟩ 0 0 ++ List.replicate payloadLen 0

theorem length_ipv4Packet (payloadLen : Nat) : (ipv4Packet payloadLen).length = 20 + payloadLen := by
  rw [ipv4Packet, List.length_append, List.length_replicate]
  rfl

theorem isIpPacket_ipv4Packet {payloadLen : Nat} (h : 20 + payloadLen < 65536) : IsIpPacket (ipv4Packet payloadLen) := by
  refine Or.inl ⟨Ipv4Repr.wellFormed_header (List.length_replicate).symm (by rwa [List.length_replicate]) 0 0, ?_⟩
  rw [length_ipv4Packet]
  exact Ipv4Repr.totalLen_header ⟨.new 10 0 0 2, .new 10 0 0 1, 17, payloadLen, 64⟩ 0 0 _ h

/-- Every packet of at most this length is handed on whole. -/
def ReadWhole (mtu : Nat) : Prop :=
  ∀ packets, (∀ packet ∈ packets, IsIpPacket packet ∧ packet.length ≤ mtu) →
    readPackets (List.replicate tunMtu 0) packets = packets

theorem readWhole_iff (mtu : Nat) : ReadWhole mtu ↔ mtu ≤ 1500 := by
  constructor
  · intro h
    by_contra hlong
    have hshort := h [ipv4Packet 1481] (fun packet hm => by
      cases List.mem_singleton.1 hm
      refine ⟨isIpPacket_ipv4Packet (by decide), ?_⟩
      rw [length_ipv4Packet]
      omega)
    rw [readPackets_eq, List.length_replicate] at hshort
    have hlen := congrArg List.length (List.cons.inj hshort).1
    rw [List.length_take, length_ipv4Packet] at hlen
    exact absurd hlen (by decide)
  · intro hle packets hall
    rw [readPackets_eq, List.length_replicate]
    have hwhole : ∀ packet ∈ packets, packet.take tunMtu = packet :=
      fun packet hm => List.take_of_length_le (Nat.le_trans (hall packet hm).2 hle)
    rw [List.map_congr_left hwhole, List.map_id']

/-! ## The MTU of a client -/

/-- The device that a client makes from this reply of the server has this MTU. -/
def ClientMtu (P : Prost) (std : AddrParser) (tun2 : Tun2) (mtu : Nat) (reply : Handshake) : Prop :=
  ∀ msg client file disk tunConfig device, P.decode (P.encodeToVec (.handshake reply)) = .ok msg →
    (handshakeAsync client file disk (.message msg)).result = .ok tunConfig →
    clientTunDevice std tun2 tunConfig = .ok device → device.mtu.toNat = mtu

/-- A configuration in a reply of a run is the one that was allocated with the session. -/
theorem replySent_owned {transport : Transport} {h : List (Server × Action)} {s : Server} (hr : ServerRun transport h s)
    {c : Nat} {reply : Handshake} (hm : reply ∈ repliesSent c h) {tunConfig : TunConfig}
    (htun : reply.tunConfig = some tunConfig) : ∃ id virtualIp, Owned h id virtualIp tunConfig := by
  obtain ⟨p, hp, hreply⟩ := List.mem_filterMap.1 hm
  unfold replySent at hreply
  split at hreply
  · rename_i i _
    split at hreply
    · rename_i hi
      subst hi
      obtain ⟨out, hout, hshake⟩ := Option.bind_eq_some_iff.1 hreply
      obtain ⟨conn, hc, hout⟩ := Option.bind_eq_some_iff.1 hout
      obtain ⟨dst, msg⟩ := out
      obtain rfl := Message.handshake?_eq_some hshake
      rcases outgoing_handshake hout with ⟨-, -, rfl⟩ | ⟨call, hphase, -, rfl⟩
      · cases htun
      · cases htun
        exact ⟨_, _, call_owned hr hp hc (by rw [hphase]; rfl)⟩
    · cases hreply
  · cases hreply

/-- **The MTU of a client's device is the configured one, cast twice.** -/
theorem clientMtu_of_run {P : Prost} (hP : P.RoundTrip) {transport : Transport} {h : List (Server × Action)} {s : Server}
    (hr : ServerRun transport h s) {mtu : Nat} (hload : ∀ p ∈ allocations h, p.2.tunMtu = mtu) {c : Nat}
    {reply : Handshake} (hm : reply ∈ repliesSent c h) (std : AddrParser) (tun2 : Tun2) :
    ClientMtu P std tun2 (mtu % 65536) reply := by
  intro msg client file disk tunConfig device hmsg hok hdevice
  cases (hP (.handshake reply)).symm.trans hmsg
  obtain ⟨reply', hreply, -, htun⟩ := handshakeAsync_ok hok
  cases hreply
  obtain ⟨id, virtualIp, k, config, hk, -, rfl⟩ := replySent_owned hr hm htun
  have hmtu : config.tunMtu = mtu := hload _ (List.mem_of_getElem? hk)
  rw [clientTunDevice_mtu hdevice, buildTunConfig, UInt32.toNat_toUInt16, UInt32.toNat_ofNat', hmtu]
  omega

/-! ## The whole way -/

/-- **The configured MTU is honoured**: by the server's device, by the device of every client that was sent a reply, and by
the buffer that packets are read into. -/
structure MtuHonoured (P : Prost) (std : AddrParser) (tun2 : Tun2) (mtu : Nat) (device : Configuration)
    (h : List (Server × Action)) : Prop where
  server : device.mtu.toNat = mtu
  clients : ∀ c, ∀ reply ∈ repliesSent c h, ClientMtu P std tun2 mtu reply
  packets : ReadWhole mtu

section Start

variable {Identity Acceptor Tcp Tls : Type} {host : Host Identity Acceptor Tcp Tls} {config : StartConfig}
  {rulesConfig : RulesConfig} {started : Started Acceptor}

/-- **A server honours the configured MTU if and only if that is at most 1500**, in every run whose handshakes load the
MTU with which the server was started. -/
theorem mtu_honoured_iff {P : Prost} (hP : P.RoundTrip)
    (hstart : runServerFromConfig host config rulesConfig = .ok started) {transport : Transport}
    {h : List (Server × Action)} {s : Server} (hr : ServerRun transport h s)
    (hload : ∀ p ∈ allocations h, p.2.tunMtu = config.tunMtu) (std : AddrParser) (tun2 : Tun2) :
    MtuHonoured P std tun2 config.tunMtu started.tun h ↔ config.tunMtu ≤ 1500 := by
  constructor
  · intro hall
    exact (readWhole_iff _).1 hall.packets
  · intro hle
    have hmod : config.tunMtu % 65536 = config.tunMtu := Nat.mod_eq_of_lt (by omega)
    refine ⟨?_, fun c reply hm => ?_, (readWhole_iff _).2 hle⟩
    · rw [(runServerFromConfig_ok hstart).1, UInt16.toNat_ofNat']
      exact hmod
    · have hclient := clientMtu_of_run hP hr hload hm std tun2
      rwa [hmod] at hclient

end Start

theorem mtu_honoured_default :
    ∃ started, runServerFromConfig willing (startConfig "tcp") ⟨.reject, [], none⟩ = .ok started ∧
      (repliesSent 0 (played .stream (handshakeRun "admin"))).length = 1 ∧
      MtuHonoured proto std willing.tun2 1400 started.tun (played .stream (handshakeRun "admin")) := by
  have hstart : runServerFromConfig willing (startConfig "tcp") ⟨.reject, [], none⟩ = .ok (.tcp _ _) := rfl
  exact ⟨_, hstart, by decide, (mtu_honoured_iff Proto.proto_roundTrip hstart (played_run (by decide)) (by decide) _ _).2
    (by decide)⟩

/-- The default configuration of a TCP server, with this MTU. -/
def mtuConfig (mtu : Nat) : StartConfig := { startConfig "tcp" with tunMtu := mtu }

/-- **With jumbo frames the server's device has the configured MTU, and a packet of 1501 bytes loses its last; above 16 bits
the device has another MTU.** -/
theorem mtu_not_honoured :
    (∃ started, runServerFromConfig willing (mtuConfig 9000) ⟨.reject, [], none⟩ = .ok started ∧ started.tun.mtu = 9000 ∧
      IsIpPacket (ipv4Packet 1481) ∧ (ipv4Packet 1481).length = 1501 ∧
      readPackets (List.replicate tunMtu 0) [ipv4Packet 1481] = [(ipv4Packet 1481).take 1500]) ∧
    (∃ started, runServerFromConfig willing (mtuConfig 70000) ⟨.reject, [], none⟩ = .ok started ∧
      started.tun.mtu = 4464) := by
  refine ⟨⟨_, rfl, rfl, isIpPacket_ipv4Packet (by decide), length_ipv4Packet 1481, ?_⟩, ⟨_, rfl, by decide⟩⟩
  rw [readPackets_eq, List.length_replicate]
  rfl

end Easynet
