import Easynet.Lib.Result
import Easynet.Wire
/-!
# Icmp — ICMP packets between a client and the host's network

The functions of `icmp_proxy.rs` on packets.  A session is keyed by what an inbound packet says; an echo request goes out
with the session's own identifier in place of the client's, and a reply that comes back with it gets the client's identifier
again and a new IPv4 header.  Messages of any other kind are passed on as they are.

The errors made here are all `InvalidData`, and are modelled by their texts.
-/
namespace Easynet

def defaultIpTtl : UInt8 := 64

structure IcmpSessionKey where
  client : Ipv4Addr
  target : Ipv4Addr
  kind : UInt8
  code : UInt8
  identifier : Option UInt16
  deriving DecidableEq, Repr

structure InboundIcmpPacket where
  key : IcmpSessionKey
  client : Ipv4Addr
  target : Ipv4Addr
  kind : UInt8
  code : UInt8
  icmpPayload : Bytes
  deriving DecidableEq, Repr

def extractIcmpIdentifier (payload : Bytes) : Option UInt16 :=
  if payload.length < 8 then none
  else if payload.getD 0 0 = 0 ∨ payload.getD 0 0 = 8 then some (UInt16.ofNat (Checksum.u16At 4 payload))
  else none

def parseInboundIcmpPacket (packet : Bytes) : Except String InboundIcmpPacket :=
  (Ipv4Packet.newChecked packet).bind (fun ipv4 =>
    if Ipv4Packet.nextHeader ipv4 ≠ ipProtocolIcmp then .error "raw packet is not icmp"
    else
      let payload := Ipv4Packet.payload ipv4
      if payload.length < 4 then .error "icmp payload too short"
      else
        let client := Ipv4Packet.srcAddr ipv4
        let target := Ipv4Packet.dstAddr ipv4
        let kind := payload.getD 0 0
        let code := payload.getD 1 0
        .ok ⟨⟨client, target, kind, code, extractIcmpIdentifier payload⟩, client, target, kind, code, payload⟩)

def rewriteIcmpEchoRequest (payload : Bytes) (proxyIdent : UInt16) : Except String Bytes :=
  (Icmpv4Packet.newChecked payload).bind (fun icmp =>
    if Icmpv4Packet.msgType icmp ≠ Icmpv4Packet.echoRequest then .ok icmp
    else .ok (Icmpv4Packet.fillChecksum (Icmpv4Packet.setEchoIdent proxyIdent icmp)))

/-- `forward_icmp_request` up to the send: the payload that is sent. -/
def forwardIcmpRequest (packet : Bytes) (proxyIdent : UInt16) : Except String Bytes :=
  (Ipv4Packet.newChecked packet).bind (fun ipv4 =>
    if Ipv4Packet.nextHeader ipv4 ≠ ipProtocolIcmp then .error "outbound packet is not icmp"
    else rewriteIcmpEchoRequest (Ipv4Packet.payload ipv4) proxyIdent)

def rewriteIcmpEchoReply (payload : Bytes) (originalIdent : Option UInt16) (proxyIdent : UInt16) : Except String Bytes :=
  (Icmpv4Packet.newChecked payload).bind (fun icmp =>
    if Icmpv4Packet.msgType icmp ≠ Icmpv4Packet.echoReply then .ok icmp
    else if Icmpv4Packet.echoIdent icmp ≠ proxyIdent then .error "icmp echo reply proxy ident mismatch"
    else .ok (Icmpv4Packet.fillChecksum (Icmpv4Packet.setEchoIdent (originalIdent.getD proxyIdent) icmp)))

/-- The ICMP message in what was received, and the hop limit to pass on: a message may come without an IPv4 header. -/
def replyParts (reply : Bytes) : UInt8 × Bytes :=
  match Ipv4Packet.newChecked reply with
  | .ok ipv4 =>
    if Ipv4Packet.nextHeader ipv4 = ipProtocolIcmp then (Ipv4Packet.hopLimit ipv4, Ipv4Packet.payload ipv4)
    else (defaultIpTtl, reply)
  | .error _ => (defaultIpTtl, reply)

/-- The packet made for the client, or `none` if the length overflows, which is a panic. -/
def emitReply (client target : Ipv4Addr) (hopLimit : UInt8) (payload : Bytes) : Option Bytes :=
  let repr : Ipv4Repr := ⟨target, client, ipProtocolIcmp, payload.length, hopLimit⟩
  if Ipv4Repr.bufferLen + payload.length < 65536 then
    let packet := repr.emit (List.replicate (Ipv4Repr.bufferLen + payload.length) 0)
    some (Ipv4Packet.fillChecksum (packet.take Ipv4Repr.bufferLen ++ payload))
  else none

/-- `build_icmp_reply_packet`, or `none` if it panics. -/
def buildIcmpReplyPacket (client target : Ipv4Addr) (reply : Bytes) (originalIdent : Option UInt16) (proxyIdent : UInt16) :
    Option (Except String Bytes) :=
  let (hopLimit, payload) := replyParts reply
  match rewriteIcmpEchoReply payload originalIdent proxyIdent with
  | .error e    => some (.error e)
  | .ok payload => (emitReply client target hopLimit payload).map .ok

/-! ## What the functions do -/

theorem Ipv4Packet.newChecked_eq_ok {bytes bytes' : Bytes} :
    Ipv4Packet.newChecked bytes = .ok bytes' ↔ Ipv4Packet.checkLen bytes = true ∧ bytes' = bytes := by
  unfold Ipv4Packet.newChecked
  split <;> rename_i h <;> simp [h, eq_comm]

theorem Icmpv4Packet.newChecked_eq_ok {bytes bytes' : Bytes} :
    Icmpv4Packet.newChecked bytes = .ok bytes' ↔ 8 ≤ bytes.length ∧ bytes' = bytes := by
  unfold Icmpv4Packet.newChecked
  split <;> rename_i h <;> simp [h, eq_comm]

/-- The session key of a packet. -/
def IcmpSessionKey.of (packet : Bytes) : IcmpSessionKey :=
  let payload := Ipv4Packet.payload packet
  ⟨Ipv4Packet.srcAddr packet, Ipv4Packet.dstAddr packet, payload.getD 0 0, payload.getD 1 0, extractIcmpIdentifier payload⟩

theorem parseInboundIcmpPacket_ok {packet : Bytes} {inbound : InboundIcmpPacket}
    (h : parseInboundIcmpPacket packet = .ok inbound) :
    Ipv4Packet.checkLen packet = true ∧ Ipv4Packet.nextHeader packet = ipProtocolIcmp ∧ inbound.key = .of packet := by
  obtain ⟨ipv4, hchecked, hinbound⟩ := Result.bind_eq_ok.1 h
  obtain ⟨hlen, rfl⟩ := Ipv4Packet.newChecked_eq_ok.1 hchecked
  split at hinbound
  · cases hinbound
  · rename_i hnext
    simp only at hinbound
    split at hinbound
    · cases hinbound
    · exact ⟨hlen, not_not.1 hnext, by rw [← Except.ok.inj hinbound]; rfl⟩

theorem extractIcmpIdentifier_request {payload : Bytes} (hlen : 8 ≤ payload.length)
    (htype : Icmpv4Packet.msgType payload = Icmpv4Packet.echoRequest) :
    extractIcmpIdentifier payload = some (Icmpv4Packet.echoIdent payload) := by
  rw [extractIcmpIdentifier, if_neg (by omega), if_pos (.inr htype)]
  rfl

theorem rewriteIcmpEchoRequest_ok {payload sent : Bytes} {proxyIdent : UInt16} :
    rewriteIcmpEchoRequest payload proxyIdent = .ok sent ↔ 8 ≤ payload.length ∧
      sent = if Icmpv4Packet.msgType payload = Icmpv4Packet.echoRequest
        then Icmpv4Packet.fillChecksum (Icmpv4Packet.setEchoIdent proxyIdent payload) else payload := by
  rw [rewriteIcmpEchoRequest, Result.bind_eq_ok]
  constructor
  · rintro ⟨icmp, hchecked, h⟩
    obtain ⟨hlen, rfl⟩ := Icmpv4Packet.newChecked_eq_ok.1 hchecked
    refine ⟨hlen, ?_⟩
    split at h
    · rename_i htype
      rw [if_neg htype, Except.ok.inj h]
    · rename_i htype
      rw [if_pos (not_not.1 htype), Except.ok.inj h]
  · rintro ⟨hlen, rfl⟩
    refine ⟨payload, Icmpv4Packet.newChecked_eq_ok.2 ⟨hlen, rfl⟩, ?_⟩
    by_cases htype : Icmpv4Packet.msgType payload = Icmpv4Packet.echoRequest
    · rw [if_neg (not_not.2 htype), if_pos htype]
    · rw [if_pos htype, if_neg htype]

theorem forwardIcmpRequest_eq {packet : Bytes} (hlen : Ipv4Packet.checkLen packet = true)
    (hnext : Ipv4Packet.nextHeader packet = ipProtocolIcmp) (proxyIdent : UInt16) :
    forwardIcmpRequest packet proxyIdent = rewriteIcmpEchoRequest (Ipv4Packet.payload packet) proxyIdent := by
  rw [forwardIcmpRequest, Ipv4Packet.newChecked_eq_ok.2 ⟨hlen, rfl⟩]
  exact if_neg (not_not.2 hnext)

/-- A message is delivered if it has a header and, being an echo reply, the session's identifier. -/
def Deliverable (proxyIdent : UInt16) (message : Bytes) : Prop :=
  8 ≤ message.length ∧ (Icmpv4Packet.msgType message = Icmpv4Packet.echoReply → Icmpv4Packet.echoIdent message = proxyIdent)

instance (proxyIdent : UInt16) (message : Bytes) : Decidable (Deliverable proxyIdent message) :=
  inferInstanceAs (Decidable (_ ∧ (_ → _)))

theorem rewriteIcmpEchoReply_ok {message payload : Bytes} {originalIdent : Option UInt16} {proxyIdent : UInt16} :
    rewriteIcmpEchoReply message originalIdent proxyIdent = .ok payload ↔ Deliverable proxyIdent message ∧
      payload = if Icmpv4Packet.msgType message = Icmpv4Packet.echoReply
        then Icmpv4Packet.fillChecksum (Icmpv4Packet.setEchoIdent (originalIdent.getD proxyIdent) message) else message := by
  rw [rewriteIcmpEchoReply, Result.bind_eq_ok]
  constructor
  · rintro ⟨icmp, hchecked, h⟩
    obtain ⟨hlen, rfl⟩ := Icmpv4Packet.newChecked_eq_ok.1 hchecked
    split at h
    · rename_i htype
      exact ⟨⟨hlen, fun h => absurd h htype⟩, by rw [if_neg htype, Except.ok.inj h]⟩
    · rename_i htype
      split at h
      · cases h
      · rename_i hident
        exact ⟨⟨hlen, fun _ => not_not.1 hident⟩, by rw [if_pos (not_not.1 htype), Except.ok.inj h]⟩
  · rintro ⟨⟨hlen, hident⟩, rfl⟩
    refine ⟨message, Icmpv4Packet.newChecked_eq_ok.2 ⟨hlen, rfl⟩, ?_⟩
    by_cases htype : Icmpv4Packet.msgType message = Icmpv4Packet.echoReply
    · rw [if_neg (not_not.2 htype), if_neg (not_not.2 (hident htype)), if_pos htype]
    · rw [if_pos htype, if_neg htype]

theorem replyParts_ipv4 {reply : Bytes} (hlen : Ipv4Packet.checkLen reply = true)
    (hnext : Ipv4Packet.nextHeader reply = ipProtocolIcmp) :
    replyParts reply = (Ipv4Packet.hopLimit reply, Ipv4Packet.payload reply) := by
  rw [replyParts, Ipv4Packet.newChecked_eq_ok.2 ⟨hlen, rfl⟩]
  exact if_pos hnext

/-- An IPv4 packet that carries an ICMP message from one address to another. -/
structure CarriesIcmp (source destination : Ipv4Addr) (hopLimit : UInt8) (payload packet : Bytes) : Prop where
  wellFormed : Ipv4Packet.WellFormed packet
  checksum : Ipv4Packet.ValidChecksum packet
  srcAddr : Ipv4Packet.srcAddr packet = source
  dstAddr : Ipv4Packet.dstAddr packet = destination
  nextHeader : Ipv4Packet.nextHeader packet = ipProtocolIcmp
  hopLimit : Ipv4Packet.hopLimit packet = hopLimit
  payload : Ipv4Packet.payload packet = payload

theorem emitReply_carries (client target : Ipv4Addr) (hopLimit : UInt8) {payload : Bytes}
    (hlen : Ipv4Repr.bufferLen + payload.length < 65536) :
    ∃ packet, emitReply client target hopLimit payload = some packet ∧
      CarriesIcmp target client hopLimit payload packet := by
  let repr : Ipv4Repr := ⟨target, client, ipProtocolIcmp, payload.length, hopLimit⟩
  obtain ⟨c₁, c₂, hemit⟩ := repr.fillChecksum_header 0 0
    ((List.replicate (Ipv4Repr.bufferLen + payload.length) 0).drop Ipv4Repr.bufferLen)
  obtain ⟨d₁, d₂, hfill⟩ := repr.fillChecksum_header c₁ c₂ payload
  have hvalid := repr.validChecksum_header c₁ c₂ payload
  refine ⟨Ipv4Packet.fillChecksum (repr.header c₁ c₂ ++ payload), ?_, ?_⟩
  · rw [emitReply, if_pos hlen]
    simp only [Ipv4Repr.emit]
    rw [hemit]
    rfl
  · rw [hfill] at hvalid ⊢
    exact ⟨Ipv4Repr.wellFormed_header rfl hlen d₁ d₂, hvalid, rfl, rfl, rfl, rfl, Ipv4Repr.payload_header rfl hlen d₁ d₂⟩

theorem buildIcmpReplyPacket_ok (client target : Ipv4Addr) {reply payload : Bytes} {originalIdent : Option UInt16}
    {proxyIdent : UInt16} (hrewrite : rewriteIcmpEchoReply (replyParts reply).2 originalIdent proxyIdent = .ok payload)
    (hlen : Ipv4Repr.bufferLen + payload.length < 65536) :
    ∃ packet, buildIcmpReplyPacket client target reply originalIdent proxyIdent = some (.ok packet) ∧
      CarriesIcmp target client (replyParts reply).1 payload packet := by
  obtain ⟨packet, hemit, hcarries⟩ := emitReply_carries client target (replyParts reply).1 hlen
  refine ⟨packet, ?_, hcarries⟩
  rw [buildIcmpReplyPacket]
  simp only [hrewrite, hemit, Option.map_some]

theorem length_rewrite {message payload : Bytes} {originalIdent : Option UInt16} {proxyIdent : UInt16}
    (h : rewriteIcmpEchoReply message originalIdent proxyIdent = .ok payload) : payload.length = message.length := by
  obtain ⟨hdeliverable, rfl⟩ := rewriteIcmpEchoReply_ok.1 h
  split
  · exact (Icmpv4Packet.renamed hdeliverable.1 _).length
  · rfl

theorem length_replyParts (reply : Bytes) : (replyParts reply).2.length ≤ reply.length := by
  unfold replyParts
  split
  · rename_i ipv4 hchecked
    obtain ⟨-, rfl⟩ := Ipv4Packet.newChecked_eq_ok.1 hchecked
    split
    · simp only [Ipv4Packet.payload, List.length_drop, List.length_take]
      omega
    · exact Nat.le_refl _
  · exact Nat.le_refl _

/-- **What is received is turned into a packet exactly if it is deliverable**, and no reply that fits into the buffer makes
the session panic. -/
theorem buildIcmpReplyPacket_iff (client target : Ipv4Addr) {reply : Bytes} (originalIdent : Option UInt16)
    (proxyIdent : UInt16) (hfits : Ipv4Repr.bufferLen + reply.length < 65536) :
    if Deliverable proxyIdent (replyParts reply).2
      then ∃ packet, buildIcmpReplyPacket client target reply originalIdent proxyIdent = some (.ok packet)
      else ∃ err, buildIcmpReplyPacket client target reply originalIdent proxyIdent = some (.error err) := by
  cases hrewrite : rewriteIcmpEchoReply (replyParts reply).2 originalIdent proxyIdent with
  | ok payload =>
    rw [if_pos (rewriteIcmpEchoReply_ok.1 hrewrite).1]
    have hparts := length_replyParts reply
    obtain ⟨packet, hbuild, -⟩ := buildIcmpReplyPacket_ok client target hrewrite (by rw [length_rewrite hrewrite]; omega)
    exact ⟨packet, hbuild⟩
  | error err =>
    rw [if_neg]
    · exact ⟨err, by simp only [buildIcmpReplyPacket, hrewrite]⟩
    · intro hdeliverable
      cases hrewrite.symm.trans (rewriteIcmpEchoReply_ok.2 ⟨hdeliverable, rfl⟩)

/-! ## Echo messages -/

theorem Ipv4Packet.length_payload_lt {bytes : Bytes} (h : Ipv4Packet.WellFormed bytes) :
    Ipv4Repr.bufferLen + (Ipv4Packet.payload bytes).length < 65536 := by
  obtain ⟨-, hheader, hlen⟩ := h
  have htotal : Ipv4Packet.totalLen bytes < 65536 := Checksum.word_lt _ _
  have hfits := of_decide_eq_true hlen
  simp only [Ipv4Packet.payload, Ipv4Repr.bufferLen, List.length_drop, List.length_take]
  omega

/-- An honest reply to an echo request: whatever its hop limit, its options and its checksums are. -/
structure HonestReply (sent reply : Bytes) : Prop where
  wellFormed : Ipv4Packet.WellFormed reply
  nextHeader : Ipv4Packet.nextHeader reply = ipProtocolIcmp
  long : 8 ≤ (Ipv4Packet.payload reply).length
  msgType : Icmpv4Packet.msgType (Ipv4Packet.payload reply) = Icmpv4Packet.echoReply
  echoIdent : Icmpv4Packet.echoIdent (Ipv4Packet.payload reply) = Icmpv4Packet.echoIdent sent
  echoSeqNo : Icmpv4Packet.echoSeqNo (Ipv4Packet.payload reply) = Icmpv4Packet.echoSeqNo sent
  data : Icmpv4Packet.data (Ipv4Packet.payload reply) = Icmpv4Packet.data sent

/-- The answer a client expects to an echo request. -/
structure AnswersEcho (request answer : Bytes) : Prop where
  wellFormed : Ipv4Packet.WellFormed answer
  nextHeader : Ipv4Packet.nextHeader answer = ipProtocolIcmp
  srcAddr : Ipv4Packet.srcAddr answer = Ipv4Packet.dstAddr request
  dstAddr : Ipv4Packet.dstAddr answer = Ipv4Packet.srcAddr request
  headerChecksum : Ipv4Packet.ValidChecksum answer
  msgType : Icmpv4Packet.msgType (Ipv4Packet.payload answer) = Icmpv4Packet.echoReply
  echoIdent : Icmpv4Packet.echoIdent (Ipv4Packet.payload answer) = Icmpv4Packet.echoIdent (Ipv4Packet.payload request)
  echoSeqNo : Icmpv4Packet.echoSeqNo (Ipv4Packet.payload answer) = Icmpv4Packet.echoSeqNo (Ipv4Packet.payload request)
  data : Icmpv4Packet.data (Ipv4Packet.payload answer) = Icmpv4Packet.data (Ipv4Packet.payload request)
  icmpChecksum : Icmpv4Packet.ValidChecksum (Ipv4Packet.payload answer)

/-- **Echo translation is transparent.**  An echo request that is accepted can be forwarded under any identifier, and from
every honest reply to what was sent the client gets the answer to its own request. -/
theorem echo_transparent {packet : Bytes} {inbound : InboundIcmpPacket}
    (hparse : parseInboundIcmpPacket packet = .ok inbound)
    (htype : Icmpv4Packet.msgType (Ipv4Packet.payload packet) = Icmpv4Packet.echoRequest)
    (hlong : 8 ≤ (Ipv4Packet.payload packet).length) (proxyIdent : UInt16) :
    ∃ sent, forwardIcmpRequest packet proxyIdent = .ok sent ∧
      ∀ reply, HonestReply sent reply → ∃ answer,
        buildIcmpReplyPacket inbound.key.client inbound.key.target reply inbound.key.identifier proxyIdent =
            some (.ok answer) ∧
          AnswersEcho packet answer := by
  obtain ⟨hchecked, hnext, hkey⟩ := parseInboundIcmpPacket_ok hparse
  have hident : inbound.key.identifier = some (Icmpv4Packet.echoIdent (Ipv4Packet.payload packet)) := by
    rw [hkey]
    exact extractIcmpIdentifier_request hlong htype
  have hsent := Icmpv4Packet.renamed hlong proxyIdent
  refine ⟨Icmpv4Packet.fillChecksum (Icmpv4Packet.setEchoIdent proxyIdent (Ipv4Packet.payload packet)), ?_,
    fun reply honest => ?_⟩
  · rw [forwardIcmpRequest_eq hchecked hnext]
    exact rewriteIcmpEchoRequest_ok.2 ⟨hlong, (if_pos htype).symm⟩
  -- the reply has the identifier that was sent, so the check lets it pass
  · have hparts := replyParts_ipv4 honest.wellFormed.2.2 honest.nextHeader
    have hdeliverable : Deliverable proxyIdent (Ipv4Packet.payload reply) :=
      ⟨honest.long, fun _ => honest.echoIdent.trans hsent.echoIdent⟩
    have hback := Icmpv4Packet.renamed honest.long (inbound.key.identifier.getD proxyIdent)
    have hrewrite : rewriteIcmpEchoReply (replyParts reply).2 inbound.key.identifier proxyIdent =
        .ok (Icmpv4Packet.fillChecksum
          (Icmpv4Packet.setEchoIdent (inbound.key.identifier.getD proxyIdent) (Ipv4Packet.payload reply))) := by
      rw [hparts]
      exact rewriteIcmpEchoReply_ok.2 ⟨hdeliverable, (if_pos honest.msgType).symm⟩
    obtain ⟨answer, hbuild, hcarries⟩ := buildIcmpReplyPacket_ok inbound.key.client inbound.key.target hrewrite
      (by rw [hback.length]; exact Ipv4Packet.length_payload_lt honest.wellFormed)
    have hclient : inbound.key.client = Ipv4Packet.srcAddr packet := by rw [hkey]; rfl
    have htarget : inbound.key.target = Ipv4Packet.dstAddr packet := by rw [hkey]; rfl
    refine ⟨answer, hbuild, hcarries.wellFormed, hcarries.nextHeader, hcarries.srcAddr.trans htarget,
      hcarries.dstAddr.trans hclient, hcarries.checksum, ?_, ?_, ?_, ?_, ?_⟩
    all_goals rw [hcarries.payload]
    · exact hback.msgType.trans honest.msgType
    · rw [hback.echoIdent, hident]
      rfl
    · exact hback.echoSeqNo.trans (honest.echoSeqNo.trans hsent.echoSeqNo)
    · exact hback.data.trans (honest.data.trans hsent.data)
    · exact hback.checksum

/-- A ping from 10.0.0.2 to 1.1.1.1 with identifier 7, and an honest reply with options to what is sent under 0x4000. -/
def ping : Bytes :=
  [0x45, 0, 0, 30, 0, 0, 0, 0, 64, 1, 110, 220, 10, 0, 0, 2, 1, 1, 1, 1, 8, 0, 150, 149, 0, 7, 0, 1, 97, 98]

def pong : Bytes :=
  [0x46, 0, 0, 34, 0, 0, 0, 0, 51, 1, 193, 39, 1, 1, 1, 1, 192, 168, 1, 9, 1, 1, 1, 0, 0, 0, 94, 156, 0x40, 0, 0, 1, 97, 98]

theorem echo_transparent_ping : ∃ sent, forwardIcmpRequest ping 0x4000 = .ok sent ∧ HonestReply sent pong ∧
    ∃ answer, buildIcmpReplyPacket ⟨10, 0, 0, 2⟩ ⟨1, 1, 1, 1⟩ pong (some 7) 0x4000 = some (.ok answer) ∧
      AnswersEcho ping answer := by
  have hparse : parseInboundIcmpPacket ping
      = .ok ⟨⟨⟨10, 0, 0, 2⟩, ⟨1, 1, 1, 1⟩, 8, 0, some 7⟩, ⟨10, 0, 0, 2⟩, ⟨1, 1, 1, 1⟩, 8, 0, Ipv4Packet.payload ping⟩ := rfl
  obtain ⟨sent, hsent, hanswers⟩ := echo_transparent hparse (by decide) (by decide) 0x4000
  have hrenamed : sent = Icmpv4Packet.fillChecksum (Icmpv4Packet.setEchoIdent 0x4000 (Ipv4Packet.payload ping)) :=
    (Except.ok.inj hsent).symm
  have honest : HonestReply sent pong := by
    rw [hrenamed]
    constructor <;> decide
  exact ⟨sent, hsent, honest, hanswers pong honest⟩

/-! ## Replies without a header

The first byte of an echo reply is zero, which as the first byte of an IPv4 header says that the header has no bytes.  So
what `new_checked` asks of a bare reply is that its checksum, read as the total length, is not over its own length. -/

/-- An echo reply with this identifier. -/
structure EchoReply (ident : UInt16) (message : Bytes) : Prop where
  long : 8 ≤ message.length
  msgType : Icmpv4Packet.msgType message = Icmpv4Packet.echoReply
  echoIdent : Icmpv4Packet.echoIdent message = ident
  checksum : Icmpv4Packet.ValidChecksum message

/-- The message can be read as an IPv4 packet with ICMP in it, one that ends before the message does. -/
def CutShort (message : Bytes) : Prop :=
  20 ≤ message.length ∧ Checksum.u16At 2 message < message.length ∧ message.getD 9 0 = ipProtocolIcmp

instance (message : Bytes) : Decidable (CutShort message) := inferInstanceAs (Decidable (_ ∧ _ ∧ _))

/-- The message with the client's identifier, and its checksum over that. -/
def restored (originalIdent : Option UInt16) (proxyIdent : UInt16) (message : Bytes) : Bytes :=
  Icmpv4Packet.fillChecksum (Icmpv4Packet.setEchoIdent (originalIdent.getD proxyIdent) message)

/-- The client gets an IPv4 packet with the restored message in it. -/
def Restores (client target : Ipv4Addr) (reply : Bytes) (originalIdent : Option UInt16) (proxyIdent : UInt16)
    (message : Bytes) : Prop :=
  ∃ packet, buildIcmpReplyPacket client target reply originalIdent proxyIdent = some (.ok packet) ∧
    Ipv4Packet.payload packet = restored originalIdent proxyIdent message

theorem EchoReply.rewrite {proxyIdent : UInt16} {message : Bytes} (h : EchoReply proxyIdent message)
    (originalIdent : Option UInt16) :
    rewriteIcmpEchoReply message originalIdent proxyIdent = .ok (restored originalIdent proxyIdent message) :=
  rewriteIcmpEchoReply_ok.2 ⟨⟨h.long, fun _ => h.echoIdent⟩, (if_pos h.msgType).symm⟩

theorem EchoReply.length_restored {proxyIdent : UInt16} {message : Bytes} (h : EchoReply proxyIdent message)
    (originalIdent : Option UInt16) : (restored originalIdent proxyIdent message).length = message.length :=
  (Icmpv4Packet.renamed h.long _).length

theorem EchoReply.headerLen {ident : UInt16} {message : Bytes} (h : EchoReply ident message) :
    Ipv4Packet.headerLen message = 0 := by
  have hzero : message.getD 0 0 = 0 := h.msgType
  rw [Ipv4Packet.headerLen, hzero]
  rfl

/-- **A bare reply is taken for a packet and cut at its checksum**, or kept as it is. -/
theorem EchoReply.replyParts {ident : UInt16} {message : Bytes} (h : EchoReply ident message) :
    (replyParts message).2 = if CutShort message then message.take (Checksum.u16At 2 message) else message := by
  have hpayload : Ipv4Packet.payload message = message.take (Checksum.u16At 2 message) := by
    rw [Ipv4Packet.payload, h.headerLen]
    rfl
  have hcheck : Ipv4Packet.checkLen message = true ↔
      20 ≤ message.length ∧ Checksum.u16At 2 message ≤ message.length := by
    rw [Ipv4Packet.checkLen, decide_eq_true_iff, h.headerLen, Ipv4Packet.totalLen]
    omega
  by_cases hlooks : Ipv4Packet.checkLen message = true ∧ Ipv4Packet.nextHeader message = ipProtocolIcmp
  · rw [replyParts_ipv4 hlooks.1 hlooks.2, hpayload]
    obtain ⟨hlong, hle⟩ := hcheck.1 hlooks.1
    split
    · rfl
    · -- not cut: the checksum is the length itself
      rename_i hcut
      have hge : message.length ≤ Checksum.u16At 2 message :=
        Nat.le_of_not_lt (fun hlt => hcut ⟨hlong, hlt, hlooks.2⟩)
      exact List.take_of_length_le hge
  · have hcut : ¬ CutShort message := by
      rintro ⟨hlong, hlt, hnext⟩
      exact hlooks ⟨hcheck.2 ⟨hlong, Nat.le_of_lt hlt⟩, hnext⟩
    rw [if_neg hcut, Easynet.replyParts]
    split
    · rename_i ipv4 hchecked
      obtain ⟨hlen, rfl⟩ := Ipv4Packet.newChecked_eq_ok.1 hchecked
      rw [if_neg (fun hnext => hlooks ⟨hlen, hnext⟩)]
    · rfl

theorem buildIcmpReplyPacket_eq_ok {client target : Ipv4Addr} {reply packet : Bytes} {originalIdent : Option UInt16}
    {proxyIdent : UInt16} (h : buildIcmpReplyPacket client target reply originalIdent proxyIdent = some (.ok packet)) :
    rewriteIcmpEchoReply (replyParts reply).2 originalIdent proxyIdent = .ok (Ipv4Packet.payload packet) ∧
      Ipv4Repr.bufferLen + (Ipv4Packet.payload packet).length < 65536 := by
  cases hrewrite : rewriteIcmpEchoReply (replyParts reply).2 originalIdent proxyIdent with
  | error e =>
    simp only [buildIcmpReplyPacket, hrewrite] at h
    cases h
  | ok payload =>
    by_cases hlen : Ipv4Repr.bufferLen + payload.length < 65536
    · obtain ⟨packet', hbuild, hcarries⟩ := buildIcmpReplyPacket_ok client target hrewrite hlen
      have heq : packet' = packet := by
        rw [hbuild] at h
        cases h
        rfl
      rw [← heq, hcarries.payload]
      exact ⟨rfl, hlen⟩
    · simp only [buildIcmpReplyPacket, hrewrite, emitReply, if_neg hlen, Option.map_none] at h
      cases h

/-- What is taken for the message decides: the rest of the way is the same with and without a header. -/
theorem EchoReply.restores {proxyIdent : UInt16} {reply message : Bytes} (h : EchoReply proxyIdent message)
    (client target : Ipv4Addr) (originalIdent : Option UInt16) (hparts : (Easynet.replyParts reply).2 = message)
    (hfits : Ipv4Repr.bufferLen + message.length < 65536) :
    Restores client target reply originalIdent proxyIdent message := by
  have hrewrite : rewriteIcmpEchoReply (Easynet.replyParts reply).2 originalIdent proxyIdent =
      .ok (restored originalIdent proxyIdent message) := by
    rw [hparts]
    exact h.rewrite originalIdent
  obtain ⟨packet, hbuild, hcarries⟩ := buildIcmpReplyPacket_ok client target hrewrite
    (by rwa [h.length_restored originalIdent])
  exact ⟨packet, hbuild, hcarries.payload⟩

/-- **A bare echo reply is restored exactly if it is not cut short**, and fits into a packet; inside an IPv4 packet it is
always restored. -/
theorem restores_bare_iff (client target : Ipv4Addr) (originalIdent : Option UInt16) (proxyIdent : UInt16)
    (message : Bytes) (h : EchoReply proxyIdent message) :
    (Restores client target message originalIdent proxyIdent message ↔
      Ipv4Repr.bufferLen + message.length < 65536 ∧ ¬ CutShort message) ∧
    ∀ ipv4, Ipv4Packet.WellFormed ipv4 → Ipv4Packet.nextHeader ipv4 = ipProtocolIcmp →
      Ipv4Packet.payload ipv4 = message → Restores client target ipv4 originalIdent proxyIdent message := by
  refine ⟨⟨?_, ?_⟩, ?_⟩
  · rintro ⟨packet, hok, hpayload⟩
    obtain ⟨hrewrite, hfits⟩ := buildIcmpReplyPacket_eq_ok hok
    have hlength := h.length_restored originalIdent
    rw [hpayload, hlength] at hfits
    refine ⟨hfits, fun hcut => ?_⟩
    have hkept := length_rewrite hrewrite
    rw [hpayload, hlength, h.replyParts, if_pos hcut, List.length_take] at hkept
    have := hcut.2.1
    omega
  · rintro ⟨hfits, hcut⟩
    exact h.restores client target originalIdent (by rw [h.replyParts, if_neg hcut]) hfits
  · intro ipv4 hwf hnext hpayload
    refine h.restores client target originalIdent ?_ (hpayload ▸ Ipv4Packet.length_payload_lt hwf)
    rw [replyParts_ipv4 hwf.2.2 hnext, hpayload]

/-- A bare reply of ten bytes under 0x4000, too short to be taken for a packet. -/
theorem restores_bare_iff_short : EchoReply 0x4000 [0, 0, 0x5e, 0x9c, 0x40, 0, 0, 1, 0x61, 0x62] ∧
    Restores ⟨10, 0, 0, 2⟩ ⟨1, 1, 1, 1⟩ [0, 0, 0x5e, 0x9c, 0x40, 0, 0, 1, 0x61, 0x62] (some 7) 0x4000
      [0, 0, 0x5e, 0x9c, 0x40, 0, 0, 1, 0x61, 0x62] := by
  have h : EchoReply 0x4000 [0, 0, 0x5e, 0x9c, 0x40, 0, 0, 1, 0x61, 0x62] :=
    ⟨by decide, by decide, by decide, by unfold Icmpv4Packet.ValidChecksum; decide⟩
  exact ⟨h, (restores_bare_iff ⟨10, 0, 0, 2⟩ ⟨1, 1, 1, 1⟩ (some 7) 0x4000 _ h).1.2 ⟨by decide, by decide⟩⟩

/-- A bare reply of twenty bytes with 16 for a checksum and 1 in its tenth byte: four bytes of its data are lost. -/
def cutReply : Bytes := [0, 0, 0, 16, 0x40, 0, 0, 1, 0, 1, 0xbf, 0xed, 0, 0, 0, 0, 0, 0, 0, 0]

theorem cutReply_not_restored : EchoReply 0x4000 cutReply ∧
    (buildIcmpReplyPacket ⟨10, 0, 0, 2⟩ ⟨1, 1, 1, 1⟩ cutReply (some 7) 0x4000).map
      (fun r => r.map (fun packet => (Ipv4Packet.payload packet).length)) = some (.ok 16) ∧
    (restored (some 7) 0x4000 cutReply).length = 20 ∧
    ¬ Restores ⟨10, 0, 0, 2⟩ ⟨1, 1, 1, 1⟩ cutReply (some 7) 0x4000 cutReply := by
  have hlen : (buildIcmpReplyPacket ⟨10, 0, 0, 2⟩ ⟨1, 1, 1, 1⟩ cutReply (some 7) 0x4000).map
      (fun r => r.map (fun packet => (Ipv4Packet.payload packet).length)) = some (.ok 16) := by decide +kernel
  have hrestored : (restored (some 7) 0x4000 cutReply).length = 20 := by decide +kernel
  refine ⟨⟨by decide, by decide, by decide, by unfold Icmpv4Packet.ValidChecksum; decide⟩, hlen, hrestored, ?_⟩
  rintro ⟨packet, hok, hpayload⟩
  rw [hok, Option.map_some, Except.map, hpayload, hrestored] at hlen
  simp at hlen

end Easynet
