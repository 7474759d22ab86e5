import Easynet.Rules.Engine
/-!
# Fragments — rules and the fragments of a datagram

A fragment has no transport slice, so that its context has no ports and the protocol `Other(0)`, whatever the header says.
No `PROTO` rule names that protocol: a fragment is treated as its datagram would be without the `PROTO` rules.
-/
namespace Easynet

/-- A part of a datagram: more of it follows, or some of it comes before. -/
def Fragmented (bytes : Bytes) : Prop := Ipv4Packet.moreFrags bytes = true ∨ Ipv4Packet.fragOffset bytes ≠ 0

/-- **The parts of a datagram**: the header's addresses, protocol and identification go into every part, the payload is cut
up, and each part says where it belongs and whether more follow. -/
structure Splits (whole : Bytes) (fragments : List Bytes) : Prop where
  wellFormed : Ipv4Packet.WellFormed whole ∧ ∀ f ∈ fragments, Ipv4Packet.WellFormed f
  unfragmented : ¬ Fragmented whole
  several : 2 ≤ fragments.length
  srcAddr : ∀ f ∈ fragments, Ipv4Packet.srcAddr f = Ipv4Packet.srcAddr whole
  dstAddr : ∀ f ∈ fragments, Ipv4Packet.dstAddr f = Ipv4Packet.dstAddr whole
  nextHeader : ∀ f ∈ fragments, Ipv4Packet.nextHeader f = Ipv4Packet.nextHeader whole
  ident : ∀ f ∈ fragments, Ipv4Packet.ident f = Ipv4Packet.ident whole
  nonempty : ∀ f ∈ fragments, Ipv4Packet.payload f ≠ []
  payload : (fragments.map Ipv4Packet.payload).flatten = Ipv4Packet.payload whole
  offset : ∀ i (hi : i < fragments.length),
    Ipv4Packet.fragOffset fragments[i] = ((fragments.take i).map Ipv4Packet.payload).flatten.length
  more : ∀ i (hi : i < fragments.length), Ipv4Packet.moreFrags fragments[i] = decide (i + 1 < fragments.length)

theorem Splits.fragmented {whole : Bytes} {fragments : List Bytes} (h : Splits whole fragments) {f : Bytes}
    (hf : f ∈ fragments) : Fragmented f := by
  obtain ⟨i, hi, rfl⟩ := List.getElem_of_mem hf
  by_cases hlast : i + 1 < fragments.length
  · exact Or.inl ((h.more i hi).trans (decide_eq_true hlast))
  · -- the last part comes after a part that is not empty
    have hpos : 0 < fragments.length := Nat.lt_of_le_of_lt (Nat.zero_le i) hi
    have hfirst : fragments[0] ∈ fragments.take i := by
      have hlen : 0 < (fragments.take i).length := by
        rw [List.length_take]
        have := h.several
        omega
      rw [← List.getElem_take (i := 0) (j := i) (h := hlen)]
      exact List.getElem_mem hlen
    refine Or.inr (fun hzero => ?_)
    rw [h.offset i hi, List.length_eq_zero_iff, List.flatten_eq_nil_iff] at hzero
    exact h.nonempty _ (List.getElem_mem hpos) (hzero _ (List.mem_map_of_mem hfirst))

/-- ICMP, TCP and UDP. -/
def slicedProtocols : List UInt8 := [1, 6, 17]

/-- `etherparse` slices the header of each fragment of an ICMP, TCP or UDP datagram, and leaves its transport slice empty. -/
def Etherparse.SlicesFragments (etherparse : Etherparse) : Prop :=
  ∀ bytes, Ipv4Packet.WellFormed bytes → Fragmented bytes → Ipv4Packet.nextHeader bytes ∈ slicedProtocols →
    etherparse.fromIp bytes = some ⟨some (.ipv4 (Ipv4Packet.srcAddr bytes) (Ipv4Packet.dstAddr bytes)), none⟩

theorem Etherparse.plain_slicesFragments : Etherparse.plain.SlicesFragments := by
  rintro bytes ⟨hversion, hheader, hlen⟩ hfrag -
  exact (if_pos ⟨hversion, hheader, hlen⟩).trans (if_pos hfrag)

/-! ## A context without a protocol -/

/-- The action for a packet whose destination has these names. -/
def actionFor (etherparse : Etherparse) (ipnetwork : Ipnetwork) (engine : RulesEngine) (domains : List String)
    (packet : Bytes) : Option RuleAction :=
  (PacketContext.fromIpPacket etherparse packet).map (fun packetCtx =>
    engine.matchPacket ipnetwork (packetCtx.withDomains domains))

theorem matchesProtocol_other (proto : String) (n : UInt8) : Matcher.matchesProtocol proto (.other n) = false := by
  have hnone : ∀ p, Protocol.fromStr proto = some p → p ≠ .other n := by
    intro p hp
    unfold Protocol.fromStr at hp
    split at hp
    · cases hp; exact Protocol.noConfusion
    · cases hp; exact Protocol.noConfusion
    · cases hp; exact Protocol.noConfusion
    · cases hp
  unfold Matcher.matchesProtocol
  split
  · rename_i p hp
    exact beq_false_of_ne (hnone p hp)
  · rfl

section Fragment

variable {ipnetwork : Ipnetwork} {geoip : GeoIpMatcher} {packet : PacketContext}

/-- What is left of a datagram's context in a fragment. -/
def PacketContext.fragment (packet : PacketContext) : PacketContext :=
  { packet with srcPort := none, dstPort := none, protocol := .other 0 }

theorem holds_fragment {rule : Rule} (hsrc : rule.srcPort = none) (hdst : rule.dstPort = none) :
    Matcher.Holds ipnetwork rule packet.fragment geoip ↔ rule.proto = none ∧ Matcher.Holds ipnetwork rule packet geoip := by
  constructor
  · intro h
    have hproto : rule.proto = none := by
      refine Option.eq_none_iff_forall_not_mem.2 (fun proto hm => ?_)
      have := h.proto proto hm
      rw [PacketContext.fragment, matchesProtocol_other] at this
      cases this
    refine ⟨hproto, { h with srcPort := ?_, dstPort := ?_, proto := ?_ }⟩
    · rw [hsrc]; exact fun _ hm => by cases hm
    · rw [hdst]; exact fun _ hm => by cases hm
    · rw [hproto]; exact fun _ hm => by cases hm
  · rintro ⟨hproto, h⟩
    refine { h with srcPort := ?_, dstPort := ?_, proto := ?_ }
    · rw [hsrc]; exact fun _ hm => by cases hm
    · rw [hdst]; exact fun _ hm => by cases hm
    · rw [hproto]; exact fun _ hm => by cases hm

/-- **A fragment is treated as its datagram would be without the `PROTO` rules.** -/
theorem matchRules_fragment {rules : List Rule} (hports : ∀ rule ∈ rules, rule.srcPort = none ∧ rule.dstPort = none) :
    RulesEngine.matchRules ipnetwork geoip packet.fragment rules =
      RulesEngine.matchRules ipnetwork geoip packet (rules.filter (fun rule => rule.proto.isNone)) := by
  induction rules with
  | nil => rfl
  | cons rule rules ih =>
    have hrest := ih (fun r hm => hports r (List.mem_cons_of_mem rule hm))
    obtain ⟨hsrc, hdst⟩ := hports rule List.mem_cons_self
    have hiff : Matcher.matches ipnetwork rule packet.fragment geoip = true ↔
        rule.proto = none ∧ Matcher.matches ipnetwork rule packet geoip = true := by
      rw [Matcher.matches_iff, Matcher.matches_iff]
      exact holds_fragment hsrc hdst
    rw [RulesEngine.matchRules, List.filter_cons, hrest]
    by_cases hproto : rule.proto = none
    · rw [if_pos (Option.isNone_iff_eq_none.2 hproto), RulesEngine.matchRules]
      by_cases hmatch : Matcher.matches ipnetwork rule packet geoip = true
      · rw [if_pos hmatch, if_pos (hiff.2 ⟨hproto, hmatch⟩)]
      · rw [if_neg hmatch, if_neg (fun h => hmatch (hiff.1 h).2)]
    · rw [if_neg (fun h => hproto (Option.isNone_iff_eq_none.1 h)), if_neg (fun h => hproto (hiff.1 h).1)]

end Fragment

/-- The contexts of a datagram and of its fragments. -/
theorem contexts {etherparse : Etherparse} (hslices : etherparse.SlicesFragments) {whole : Bytes} {fragments : List Bytes}
    (hsplit : Splits whole fragments) (hprotocol : Ipv4Packet.nextHeader whole ∈ slicedProtocols)
    {transport : TransportSlice} (hcarries : transport ≠ .icmpv6)
    (hwhole : etherparse.fromIp whole =
      some ⟨some (.ipv4 (Ipv4Packet.srcAddr whole) (Ipv4Packet.dstAddr whole)), some transport⟩) :
    ∃ packet, PacketContext.fromIpPacket etherparse whole = some packet ∧
      ∀ f ∈ fragments, PacketContext.fromIpPacket etherparse f = some packet.fragment := by
  have hfragment : ∀ f ∈ fragments, PacketContext.fromIpPacket etherparse f =
      some (.new (Ipv4Packet.srcAddr whole) (Ipv4Packet.dstAddr whole) none none (.other 0)) := by
    intro f hf
    have hslice := hslices f (hsplit.wellFormed.2 f hf) (hsplit.fragmented hf) (hsplit.nextHeader f hf ▸ hprotocol)
    rw [PacketContext.fromIpPacket, hslice, hsplit.srcAddr f hf, hsplit.dstAddr f hf]
  have hdatagram : ∃ srcPort dstPort protocol, PacketContext.fromIpPacket etherparse whole =
      some (.new (Ipv4Packet.srcAddr whole) (Ipv4Packet.dstAddr whole) srcPort dstPort protocol) := by
    rw [PacketContext.fromIpPacket, hwhole]
    cases transport with
    | icmpv6 => exact absurd rfl hcarries
    | tcp sourcePort destinationPort | udp sourcePort destinationPort payload | icmpv4 => exact ⟨_, _, _, rfl⟩
  obtain ⟨srcPort, dstPort, protocol, hcontext⟩ := hdatagram
  exact ⟨_, hcontext, hfragment⟩

/-- **Without port rules, every fragment gets the action of its datagram if and only if the rules without a `PROTO`
condition give the datagram that action by themselves.** -/
theorem fragments_iff {etherparse : Etherparse} (hslices : etherparse.SlicesFragments) {whole : Bytes}
    {fragments : List Bytes} (hsplit : Splits whole fragments) (hprotocol : Ipv4Packet.nextHeader whole ∈ slicedProtocols)
    {transport : TransportSlice} (hcarries : transport ≠ .icmpv6)
    (hwhole : etherparse.fromIp whole =
      some ⟨some (.ipv4 (Ipv4Packet.srcAddr whole) (Ipv4Packet.dstAddr whole)), some transport⟩)
    (ipnetwork : Ipnetwork) (engine : RulesEngine)
    (hports : ∀ rule ∈ engine.rules, rule.srcPort = none ∧ rule.dstPort = none) (domains : List String) :
    (∀ f ∈ fragments,
      actionFor etherparse ipnetwork engine domains f = actionFor etherparse ipnetwork engine domains whole) ↔
    actionFor etherparse ipnetwork { engine with rules := engine.rules.filter (fun rule => rule.proto.isNone) } domains
      whole = actionFor etherparse ipnetwork engine domains whole := by
  obtain ⟨packet, hpacket, hfragment⟩ := contexts hslices hsplit hprotocol hcarries hwhole
  have haction : ∀ f ∈ fragments, actionFor etherparse ipnetwork engine domains f =
      actionFor etherparse ipnetwork { engine with rules := engine.rules.filter (fun rule => rule.proto.isNone) } domains
        whole := by
    intro f hf
    rw [actionFor, actionFor, hpacket, hfragment f hf]
    exact congrArg some (@matchRules_fragment ipnetwork engine.geoip (packet.withDomains domains) _ hports)
  constructor
  · intro h
    have hpos : 0 < fragments.length := Nat.lt_of_lt_of_le Nat.zero_lt_two hsplit.several
    have hm := List.getElem_mem hpos
    rw [← haction _ hm]
    exact h _ hm
  · intro h f hf
    rw [haction f hf]
    exact h

/-- A UDP packet from `10.0.0.2` to `8.8.8.8`, with these flags and offset and this header checksum. -/
def udpPacket (flagsOffset checksum payload : Bytes) : Bytes :=
  [0x45, 0, 0, UInt8.ofNat (20 + payload.length), 0, 7] ++ flagsOffset ++ [64, 17] ++ checksum ++
    [10, 0, 0, 2, 8, 8, 8, 8] ++ payload

def udpDatagram : Bytes := udpPacket [0, 0] [96, 177] [195, 80, 0, 53, 0, 16, 0, 0, 1, 2, 3, 4, 5, 6, 7, 8]

def udpFragments : List Bytes :=
  [udpPacket [0x20, 0] [64, 185] [195, 80, 0, 53, 0, 16, 0, 0], udpPacket [0, 1] [96, 184] [1, 2, 3, 4, 5, 6, 7, 8]]

theorem splits_udpDatagram : Splits udpDatagram udpFragments where
  wellFormed := by decide
  unfragmented := by
    rintro (h | h)
    · exact absurd h (by decide)
    · exact h (by decide)
  several := by decide
  srcAddr := by decide
  dstAddr := by decide
  nextHeader := by decide
  ident := by decide
  nonempty := by decide
  payload := by decide
  offset := by decide
  more := by decide

def keywordProxied : RulesEngine := ⟨[{ Rule.new .proxy with domainKeyword := some "dns" }], .withoutDatabase⟩

theorem fragments_follow_keyword :
    Splits udpDatagram udpFragments ∧ ∀ f ∈ udpFragments,
      actionFor .plain RulesEngine.noNetworks keywordProxied ["dns.google"] f =
        actionFor .plain RulesEngine.noNetworks keywordProxied ["dns.google"] udpDatagram := by
  have hwhole : Etherparse.plain.fromIp udpDatagram =
      some ⟨some (.ipv4 (Ipv4Packet.srcAddr udpDatagram) (Ipv4Packet.dstAddr udpDatagram)),
        some (.udp 50000 53 [1, 2, 3, 4, 5, 6, 7, 8])⟩ := by decide
  exact ⟨splits_udpDatagram, (fragments_iff Etherparse.plain_slicesFragments splits_udpDatagram (by decide)
    TransportSlice.noConfusion hwhole RulesEngine.noNetworks keywordProxied (by decide) ["dns.google"]).2 (by decide)⟩

/-- UDP is rejected, and everything else goes into the tunnel. -/
def protocolRejected : RulesEngine :=
  ⟨[{ Rule.new .reject with proto := some "udp" }, { Rule.new .proxy with matchAll := true }], .withoutDatabase⟩

/-- **A rule that rejects UDP does not reject the fragments of a UDP datagram.** -/
theorem fragments_not_rejected :
    Splits udpDatagram udpFragments ∧
    actionFor .plain RulesEngine.noNetworks protocolRejected [] udpDatagram = some .reject ∧
    ∀ f ∈ udpFragments, actionFor .plain RulesEngine.noNetworks protocolRejected [] f = some .proxy :=
  ⟨splits_udpDatagram, by decide, by decide⟩

end Easynet
