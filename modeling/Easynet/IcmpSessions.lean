import Easynet.IcmpProxy
/-!
# IcmpSessions — sessions that share a target

Every message from a target reaches all sessions that are connected to it.  An echo reply with another identifier than its
own makes a session end, and messages of other kinds are not checked at all.
-/
namespace Easynet

open Machine (Throughout)

/-! ## Which packets a session is handed -/

/-- `parse_inbound_icmp_packet` accepts the packet. -/
def AcceptedIcmp (packet : Bytes) : Prop := ∃ inbound, parseInboundIcmpPacket packet = .ok inbound

theorem AcceptedIcmp.forward {packet : Bytes} (h : AcceptedIcmp packet) (proxyIdent : UInt16) :
    (∃ sent, forwardIcmpRequest packet proxyIdent = .ok sent) ↔ 8 ≤ (Ipv4Packet.payload packet).length := by
  obtain ⟨inbound, hparse⟩ := h
  obtain ⟨hlen, hnext, -⟩ := parseInboundIcmpPacket_ok hparse
  rw [forwardIcmpRequest_eq hlen hnext]
  simp only [rewriteIcmpEchoRequest_ok]
  exact ⟨fun ⟨_, hlong, _⟩ => hlong, fun hlong => ⟨_, hlong, rfl⟩⟩

theorem IcmpMove.queue {upstream : UpstreamServer} {senders : Bool} {ident : UInt16} {w w' : IcmpWorker}
    {act : IcmpSessionAct} (h : IcmpMove upstream senders ident w act w') : ∀ packet ∈ w'.queue, packet ∈ w.queue := by
  cases h with
  | forwarded hp hq | sendFailed hp hq | invalidRequest hp hq =>
    intro packet hmem
    rw [hq]
    exact List.mem_cons_of_mem _ hmem
  | start | returned | opened | openFailed | requestsClosed | delivered | invalidReply | repliesClosed | timeout | written
  | writeFailed | recvFailed | remove | finish => exact fun _ hmem => hmem

theorem IcmpRun.carries {config : ProxyConfig} {h : List (IcmpProxy × IcmpAct)} {s : IcmpProxy} (hr : IcmpRun config h s) :
    s.Carries AcceptedIcmp := by
  refine hr.invariant (fun s => s.Carries AcceptedIcmp) Dispatch.State.carries_init (fun s a s' hc hs => ?_)
  cases a with
  | session i act =>
    obtain ⟨w, w', hw, hmove, rfl⟩ := IcmpProxy.step_session hs
    exact (hc.removeIf _ _).put (fun packet hp => hc.queues w (List.mem_of_getElem? hw) packet (hmove.queue packet hp))
  | arrive source bytes cause =>
    cases hs
    refine ⟨hc.inbound, fun w' hw' => ?_⟩
    obtain ⟨w, hw, rfl⟩ := List.mem_map.1 hw'
    exact hc.queues w hw
  | inbound act =>
    obtain ⟨t, ht, rfl⟩ := IcmpProxy.step_inbound hs
    cases act with
    | recvFailed => rwa [IcmpProxy.inboundStep_recvFailed ht]
    | recv packet =>
      rcases IcmpProxy.inboundStep_recv ht with rfl | ⟨inbound, hparse, hreceive⟩
      · exact hc
      · exact hc.receive ⟨inbound, hparse⟩ hreceive
    | lookUp => exact hc.lookUp ht
    | send => exact hc.send ht
    | remove => exact hc.forget ht

/-! ## How a session ends -/

/-- The loop was ended, if it was, by an error of the session's own sockets, by a channel closing, or by the timeout. -/
def IcmpPhase.Proper (phase : IcmpPhase) : Prop :=
  ∀ result ∈ phase.result, result = .socket ∨ result = .closed ∨ result = .timeout

theorem IcmpPhase.proper_iff {phase : IcmpPhase} : phase.Proper ↔ ∀ err, phase.result ≠ some (.invalid err) := by
  constructor
  · intro h err he
    rcases h _ he with h | h | h <;> cases h
  · intro h result hr
    cases result with
    | closed => exact .inr (.inl rfl)
    | timeout => exact .inr (.inr rfl)
    | socket => exact .inl rfl
    | invalid err => exact absurd hr (h err)

/-- What a session takes from its channels can be passed on. -/
def IcmpWorker.Takes (w : IcmpWorker) : IcmpSessionAct → Prop
  | .request _ => ∀ packet ∈ w.queue.head?, 8 ≤ (Ipv4Packet.payload packet).length
  | .reply     => ∀ socket ∈ w.task.socket, ∀ reply ∈ socket.replies.head?, Deliverable socket.proxyIdent reply.message
  | _          => True

instance (w : IcmpWorker) : (act : IcmpSessionAct) → Decidable (w.Takes act)
  | .request _ => inferInstanceAs (Decidable (∀ packet ∈ w.queue.head?, _))
  | .reply => inferInstanceAs (Decidable (∀ socket ∈ w.task.socket, ∀ reply ∈ socket.replies.head?, _))
  | .start | .opened _ | .requestsClosed | .recvFailed | .repliesClosed | .written _ | .timeout | .remove | .finish =>
    inferInstanceAs (Decidable True)

theorem IcmpReply.build (reply : IcmpReply) (key : IcmpSessionKey) (proxyIdent : UInt16) :
    if Deliverable proxyIdent reply.message
      then ∃ packet, buildIcmpReplyPacket key.client key.target reply.bytes key.identifier proxyIdent = some (.ok packet)
      else ∃ err, buildIcmpReplyPacket key.client key.target reply.bytes key.identifier proxyIdent = some (.error err) := by
  have hfits := reply.fits
  exact buildIcmpReplyPacket_iff key.client key.target key.identifier proxyIdent
    (by simp only [Ipv4Repr.bufferLen, maxIcmpPacketSize] at *; omega)

theorem IcmpReply.deliverable_of_build {reply : IcmpReply} {key : IcmpSessionKey} {proxyIdent : UInt16} {packet : Bytes}
    (h : buildIcmpReplyPacket key.client key.target reply.bytes key.identifier proxyIdent = some (.ok packet)) :
    Deliverable proxyIdent reply.message := by
  have hbuild := reply.build key proxyIdent
  split at hbuild
  · assumption
  · obtain ⟨err, he⟩ := hbuild
    cases h.symm.trans he

theorem IcmpReply.not_deliverable_of_build {reply : IcmpReply} {key : IcmpSessionKey} {proxyIdent : UInt16} {err : String}
    (h : buildIcmpReplyPacket key.client key.target reply.bytes key.identifier proxyIdent = some (.error err)) :
    ¬ Deliverable proxyIdent reply.message := by
  have hbuild := reply.build key proxyIdent
  split at hbuild
  · obtain ⟨packet, hp⟩ := hbuild
    cases h.symm.trans hp
  · assumption

theorem IcmpWorker.takes_request {w : IcmpWorker} {packet : Bytes} {queue : List Bytes} (hq : w.queue = packet :: queue)
    (ok : Bool) : w.Takes (.request ok) ↔ 8 ≤ (Ipv4Packet.payload packet).length := by
  simp [IcmpWorker.Takes, hq]

theorem IcmpWorker.takes_reply {w : IcmpWorker} {socket : IcmpSocket} {reply : IcmpReply} {replies : List IcmpReply}
    (hp : w.task = .relay socket) (hr : socket.replies = reply :: replies) :
    w.Takes .reply ↔ Deliverable socket.proxyIdent reply.message := by
  simp [IcmpWorker.Takes, hp, IcmpPhase.socket, hr]

/-- **A session is well after its move exactly if it was before and took what it can pass on.** -/
theorem IcmpMove.proper_iff {upstream : UpstreamServer} {senders : Bool} {ident : UInt16} {w w' : IcmpWorker}
    {act : IcmpSessionAct} (h : IcmpMove upstream senders ident w act w') (hq : ∀ packet ∈ w.queue, AcceptedIcmp packet) :
    w'.task.Proper ↔ w.task.Proper ∧ w.Takes act := by
  simp only [IcmpPhase.proper_iff]
  cases h with
  | start hp | returned hp | opened hp | openFailed hp | requestsClosed hp | repliesClosed hp | timeout hp | written hp
  | writeFailed hp =>
    rw [hp]
    exact ⟨fun _ => ⟨nofun, trivial⟩, fun _ => nofun⟩
  | recvFailed hp =>
    simp only [IcmpWorker.to, IcmpPhase.result_setSocket]
    exact ⟨fun h => ⟨h, trivial⟩, And.left⟩
  | @forwarded socket packet sent queue hp hqueue hf =>
    rw [IcmpWorker.takes_request hqueue, ← (hq packet (by simp [hqueue])).forward socket.proxyIdent]
    exact ⟨fun h => ⟨h, sent, hf⟩, And.left⟩
  | @sendFailed socket packet sent queue hp hqueue hf =>
    rw [IcmpWorker.takes_request hqueue, ← (hq packet (by simp [hqueue])).forward socket.proxyIdent, hp]
    exact ⟨fun _ => ⟨nofun, sent, hf⟩, fun _ => nofun⟩
  | @invalidRequest socket packet queue err ok hp hqueue hf =>
    rw [IcmpWorker.takes_request hqueue, ← (hq packet (by simp [hqueue])).forward socket.proxyIdent]
    refine ⟨fun h => absurd rfl (h err), fun ⟨_, sent, hsent⟩ => ?_⟩
    cases hf.symm.trans hsent
  | delivered hp hr hb =>
    rw [IcmpWorker.takes_reply hp hr, hp]
    exact ⟨fun _ => ⟨nofun, IcmpReply.deliverable_of_build hb⟩, fun _ => nofun⟩
  | @invalidReply socket reply replies err hp hr hb =>
    rw [IcmpWorker.takes_reply hp hr]
    exact ⟨fun h => absurd rfl (h err), fun h => absurd h.2 (IcmpReply.not_deliverable_of_build hb)⟩
  | remove hp | finish hp =>
    rw [hp]
    exact ⟨fun h => ⟨h, trivial⟩, And.left⟩

namespace IcmpProxy

variable {config : ProxyConfig} {s s' : IcmpProxy} {h : List (IcmpProxy × IcmpAct)}

/-- The step takes from a channel only what can be passed on. -/
def Acceptable (s : IcmpProxy) : IcmpAct → Prop
  | .session i act => ∀ w ∈ s.workers[i]?, IcmpWorker.Takes w act
  | _              => True

instance (s : IcmpProxy) : (a : IcmpAct) → Decidable (Acceptable s a)
  | .session i act => inferInstanceAs (Decidable (∀ w ∈ s.workers[i]?, IcmpWorker.Takes w act))
  | .inbound _ | .arrive _ _ _ => inferInstanceAs (Decidable True)

def AllProper (s : IcmpProxy) : Prop := ∀ w ∈ s.workers, w.task.Proper

/-- A session's part in a step, as far as its end is concerned. -/
theorem Part.proper_iff {a : IcmpAct} {i : Nat} {w w' : IcmpWorker} (hpart : Part config s i a w')
    (hw : s.workers[i]? = some w) (hq : ∀ packet ∈ w.queue, AcceptedIcmp packet) :
    w'.task.Proper ↔ w.task.Proper ∧ ∀ act, a = .session i act → w.Takes act := by
  cases hpart with
  | kept hw₀ htask ha =>
    cases hw.symm.trans hw₀
    rw [htask]
    exact ⟨fun h => ⟨h, fun act he => absurd he (ha act)⟩, And.left⟩
  | spawned hw₀ => cases hw.symm.trans hw₀
  | received hw₀ =>
    cases hw.symm.trans hw₀
    rw [IcmpPhase.Proper, IcmpWorker.receive, IcmpWorker.to, IcmpPhase.result_setSocket]
    exact ⟨fun h => ⟨h, nofun⟩, And.left⟩
  | moved hw₀ hm =>
    cases hw.symm.trans hw₀
    rw [hm.proper_iff hq]
    exact and_congr_right (fun _ => ⟨fun h act he => (IcmpAct.session.inj he).2 ▸ h, fun h => h _ rfl⟩)

theorem step_proper_iff {a : IcmpAct} (hc : s.Carries AcceptedIcmp) (hs : step config s a = some s') :
    AllProper s' ↔ AllProper s ∧ Acceptable s a := by
  have hqueue {i : Nat} {w : IcmpWorker} (hw : s.workers[i]? = some w) := hc.queues w (List.mem_of_getElem? hw)
  constructor
  · intro hproper
    have hall {i : Nat} {w : IcmpWorker} (hw : s.workers[i]? = some w) :
        w.task.Proper ∧ ∀ act, a = .session i act → w.Takes act := by
      obtain ⟨w', hw'⟩ := step_some hs hw
      exact ((step_part hs hw').proper_iff hw (hqueue hw)).1 (hproper w' (List.mem_of_getElem? hw'))
    refine ⟨fun w hw => ?_, ?_⟩
    · obtain ⟨i, hi⟩ := List.getElem?_of_mem hw
      exact (hall hi).1
    · cases a with
      | session i act => exact fun w hw => (hall hw).2 act rfl
      | inbound | arrive => exact trivial
  · rintro ⟨hproper, hacceptable⟩ w' hw'
    obtain ⟨i, hi'⟩ := List.getElem?_of_mem hw'
    have hpart := step_part hs hi'
    cases hi : s.workers[i]? with
    | some w =>
      refine (hpart.proper_iff hi (hqueue hi)).2 ⟨hproper w (List.mem_of_getElem? hi), ?_⟩
      rintro act rfl
      exact hacceptable w hi
    | none =>
      cases hpart with
      | spawned hw₀ htask =>
        rw [htask]
        exact nofun
      | kept hw₀ | received hw₀ | moved hw₀ => cases hi.symm.trans hw₀

/-- **All sessions have ended properly exactly if nothing was taken that could not be passed on.** -/
theorem allProper_iff (hr : IcmpRun config h s) : AllProper s ↔ Throughout (fun _ => Acceptable) h := by
  refine hr.history_invariant (fun h s => AllProper s ↔ Throughout (fun _ => Acceptable) h) ?_ ?_
  · exact ⟨fun _ i hi => absurd hi (Nat.not_lt_zero i), fun _ w hw => absurd hw List.not_mem_nil⟩
  · intro h s a s' hr ih hs
    rw [Machine.throughout_snoc, ← ih]
    exact step_proper_iff (IcmpRun.carries hr) hs

/-- The step leaves a session that receives a reply to another session's request as it was, without the reply. -/
def Undisturbed (config : ProxyConfig) (s : IcmpProxy) (a : IcmpAct) : Prop :=
  ∀ i w socket reply replies c, a = .session i .reply → s.workers[i]? = some w → w.task = .relay socket →
    socket.replies = reply :: replies → reply.cause = some c → c ≠ i → 8 ≤ reply.message.length →
    Icmpv4Packet.msgType reply.message = Icmpv4Packet.echoReply →
    ∃ s' w', step config s a = some s' ∧ s'.workers[i]? = some w' ∧ w'.key = w.key ∧ w'.queue = w.queue ∧
      w'.task.socket = some { socket with replies := replies }

theorem undisturbed {a : IcmpAct} (hs : step config s a = some s') (ha : Acceptable s a) : Undisturbed config s a := by
  rintro i w socket reply replies c rfl hw hp hr - - - -
  have hdeliverable := (IcmpWorker.takes_reply hp hr).1 (ha w hw)
  obtain ⟨v, w', hv, hmove, rfl⟩ := step_session hs
  cases hw.symm.trans hv
  refine ⟨_, w', hs, (Dispatch.State.getElem?_put hw).trans (if_pos rfl), ?_⟩
  cases hmove with
  | delivered hp₀ hr₀ hb =>
    cases hp.symm.trans hp₀
    cases hr.symm.trans hr₀
    exact ⟨rfl, rfl, rfl⟩
  | invalidReply hp₀ hr₀ hb =>
    cases hp.symm.trans hp₀
    cases hr.symm.trans hr₀
    exact absurd hdeliverable (IcmpReply.not_deliverable_of_build hb)

/-- **Sessions leave each other alone exactly if what they take can be passed on.**  No reply to another session's request
disturbs a session, and every loop that ended did so by an error of its own sockets, a closed channel or the timeout, if and
only if each message taken was deliverable and each request taken had a whole ICMP header. -/
theorem sessions_survive_iff (hr : IcmpRun config h s) :
    (Throughout (fun _ => Undisturbed config) h ∧ AllProper s) ↔ Throughout (fun _ => Acceptable) h := by
  refine ⟨fun hall => (allProper_iff hr).1 hall.2, fun hacceptable => ⟨?_, (allProper_iff hr).2 hacceptable⟩⟩
  exact hr.throughout_of hacceptable (fun _ _ _ _ _ hs ha => undisturbed hs ha)

/-- A session is opened for the ping, and forwards it. -/
def pingRun : List IcmpAct :=
  [.inbound (.recv ping), .inbound .lookUp, .inbound .send, .session 0 .start, .session 0 (.opened true),
    .session 0 (.request true)]

/-- The reply comes back and is written to the client. -/
def ponged : List IcmpAct := [.arrive ⟨1, 1, 1, 1⟩ pong (some 0), .session 0 .reply, .session 0 (.written true)]

/-- The same ping from another client. -/
def otherPing : Bytes :=
  [0x45, 0, 0, 30, 0, 0, 0, 0, 64, 1, 110, 219, 10, 0, 0, 3, 1, 1, 1, 1, 8, 0, 150, 149, 0, 7, 0, 1, 97, 98]

/-- Two sessions with one target. -/
def sharedRun : List IcmpAct :=
  pingRun.append [.inbound (.recv otherPing), .inbound .lookUp, .inbound .send, .session 1 .start, .session 1 (.opened true),
    .session 1 (.request true)]

theorem sessions_survive_pong : ∃ h s, IcmpRun .plain h s ∧ h.map Prod.snd = sharedRun ++ ponged ∧
    s.workers.map (fun w => w.task.result) = [none, none] ∧ Throughout (fun _ => Undisturbed .plain) h ∧ AllProper s := by
  have hr : IcmpRun .plain (Machine.trace (step .plain) init (sharedRun ++ ponged)) _ := Machine.run_get (by decide +kernel)
  exact ⟨_, _, hr, by decide +kernel, by decide +kernel, (sessions_survive_iff hr).2 (by decide +kernel)⟩

/-- **The honest reply to one client's ping ends the other client's session.** -/
theorem reply_ends_session : ∃ h s, IcmpRun .plain h s ∧
    (∃ sent, forwardIcmpRequest ping 0x4000 = .ok sent ∧ HonestReply sent pong) ∧
    h.map Prod.snd = sharedRun.append [.arrive ⟨1, 1, 1, 1⟩ pong (some 0), .session 1 .reply] ∧
    s.workers.map (fun w => w.task.result) = [none, some (.invalid "icmp echo reply proxy ident mismatch")] := by
  have hr : IcmpRun .plain (Machine.trace (step .plain) init
      (sharedRun.append [.arrive ⟨1, 1, 1, 1⟩ pong (some 0), .session 1 .reply])) _ := Machine.run_get (by decide +kernel)
  refine ⟨_, _, hr, ⟨_, rfl, ?_⟩, by decide +kernel, by decide +kernel⟩
  constructor <;> decide +kernel

/-! ## Whose replies a session delivers -/

/-- A packet that a session writes to its client, with the session whose request elicited the message. -/
structure Delivery where
  session : Nat
  packet : Bytes
  cause : Option Nat
  deriving DecidableEq

def deliveredAt (s : IcmpProxy) : IcmpAct → Option Delivery
  | .session i .reply =>
    s.workers[i]?.bind (fun w => w.task.socket.bind (fun socket => socket.replies.head?.bind (fun reply =>
      match buildIcmpReplyPacket w.key.client w.key.target reply.bytes w.key.identifier socket.proxyIdent with
      | some (.ok packet) => some ⟨i, packet, reply.cause⟩
      | _                 => none)))
  | _ => none

/-- What the step writes to a client was elicited by the session that writes it. -/
def OwnOnly (s : IcmpProxy) (a : IcmpAct) : Prop := ∀ d ∈ deliveredAt s a, d.cause = some d.session

/-- The session is in its loop. -/
def live (s : IcmpProxy) (cause : Option Nat) : Bool :=
  (cause.bind (fun c => s.workers[c]?)).any (fun w => w.task.socket.isSome)

/-- **A message that does no harm**: elicited by the session that takes it, or too short, or an echo reply that a live
session elicited, or one with another identifier. -/
def Harmless (s : IcmpProxy) : IcmpAct → Prop
  | .session i .reply => ∀ w ∈ s.workers[i]?, ∀ socket ∈ w.task.socket, ∀ reply ∈ socket.replies.head?,
      reply.cause = some i ∨ reply.message.length < 8 ∨ (Icmpv4Packet.msgType reply.message = Icmpv4Packet.echoReply ∧
        (s.live reply.cause = true ∨ Icmpv4Packet.echoIdent reply.message ≠ socket.proxyIdent))
  | _ => True

instance (s : IcmpProxy) : (a : IcmpAct) → Decidable (Harmless s a)
  | .session i .reply => inferInstanceAs (Decidable (∀ w ∈ s.workers[i]?, ∀ socket ∈ w.task.socket,
      ∀ reply ∈ socket.replies.head?, _))
  | .session _ .start | .session _ (.opened _) | .session _ (.request _) | .session _ .requestsClosed
  | .session _ .recvFailed | .session _ .repliesClosed | .session _ (.written _) | .session _ .timeout | .session _ .remove
  | .session _ .finish | .inbound _ | .arrive _ _ _ => inferInstanceAs (Decidable True)

/-- Session `c` has opened its socket, and if the message is an echo reply, it has the identifier of that socket. -/
def Elicited (s : IcmpProxy) (c : Nat) (message : Bytes) : Prop :=
  ∃ w ∈ s.workers[c]?, w.task.left = true ∨ ∃ socket ∈ w.task.socket,
    (Icmpv4Packet.msgType message = Icmpv4Packet.echoReply → Icmpv4Packet.echoIdent message = socket.proxyIdent)

/-- Messages are elicited by the sessions that they carry. -/
def Honest (s : IcmpProxy) : IcmpAct → Prop
  | .arrive _ bytes (some c) => s.Elicited c (replyParts (bytes.take maxIcmpPacketSize)).2
  | _                        => True

instance (s : IcmpProxy) : (a : IcmpAct) → Decidable (Honest s a)
  | .arrive _ _ (some c) => inferInstanceAs (Decidable (∃ w ∈ s.workers[c]?, _ ∨ ∃ socket ∈ w.task.socket, _))
  | .arrive _ _ none | .session _ _ | .inbound _ => inferInstanceAs (Decidable True)

/-- Live sessions have distinct identifiers. -/
def Distinct (s : IcmpProxy) : Prop :=
  s.workers.Pairwise (fun w v => ∀ x ∈ w.task.socket, ∀ y ∈ v.task.socket, x.proxyIdent ≠ y.proxyIdent)

instance (s : IcmpProxy) : Decidable (Distinct s) := inferInstanceAs (Decidable (List.Pairwise _ _))

theorem Distinct.ne (hd : Distinct s) {i j : Nat} {w v : IcmpWorker} {x y : IcmpSocket} (hw : s.workers[i]? = some w)
    (hv : s.workers[j]? = some v) (hx : w.task.socket = some x) (hy : v.task.socket = some y) (hij : i ≠ j) :
    x.proxyIdent ≠ y.proxyIdent := by
  obtain ⟨hi, rfl⟩ := List.getElem?_eq_some_iff.1 hw
  obtain ⟨hj, rfl⟩ := List.getElem?_eq_some_iff.1 hv
  have hpair := List.pairwise_iff_getElem.1 hd
  rcases Nat.lt_or_gt_of_ne hij with hlt | hlt
  · exact hpair i j hi hj hlt x hx y hy
  · exact (hpair j i hj hi hlt y hy x hx).symm

end IcmpProxy

/-- What a session keeps over its move: it does not come back to its loop, in the loop it has one identifier, and it receives
nothing. -/
structure IcmpPhase.Goes (phase phase' : IcmpPhase) : Prop where
  left : phase.left = true → phase'.left = true
  socket : ∀ x ∈ phase.socket, phase'.left = true ∨ ∃ y ∈ phase'.socket, y.proxyIdent = x.proxyIdent
  replies : ∀ y ∈ phase'.socket, ∀ reply ∈ y.replies, ∃ x ∈ phase.socket, reply ∈ x.replies

theorem IcmpMove.goes {upstream : UpstreamServer} {senders : Bool} {ident : UInt16} {w w' : IcmpWorker}
    {act : IcmpSessionAct} (h : IcmpMove upstream senders ident w act w') : w.task.Goes w'.task := by
  cases h with
  | start hp | returned hp | openFailed hp =>
    rw [hp]
    exact ⟨nofun, nofun, nofun⟩
  | opened hp =>
    rw [hp]
    refine ⟨nofun, nofun, ?_⟩
    rintro y ⟨⟩
    exact nofun
  | forwarded => exact ⟨id, fun x hx => .inr ⟨x, hx, rfl⟩, fun y hy reply hr => ⟨y, hy, hr⟩⟩
  | sendFailed hp | invalidRequest hp | requestsClosed hp | invalidReply hp | repliesClosed hp | timeout hp
  | writeFailed hp =>
    rw [hp]
    exact ⟨fun _ => rfl, fun _ _ => .inl rfl, nofun⟩
  | delivered hp hr =>
    rw [hp]
    refine ⟨nofun, ?_, ?_⟩
    · rintro x ⟨⟩
      exact .inr ⟨_, rfl, rfl⟩
    · rintro y ⟨⟩ reply hmem
      exact ⟨_, rfl, by rw [hr]; exact List.mem_cons_of_mem _ hmem⟩
  | written hp =>
    rw [hp]
    exact ⟨nofun, fun x hx => .inr ⟨x, hx, rfl⟩, fun y hy reply hr => ⟨y, hy, hr⟩⟩
  | recvFailed hp =>
    refine ⟨fun h => by simpa [IcmpWorker.to] using h, ?_, ?_⟩
    · intro x hx
      refine .inr ⟨{ x with receiving := false }, ?_, rfl⟩
      rw [IcmpWorker.to, IcmpPhase.socket_setSocket, Option.mem_def.1 hx]
      rfl
    · intro y hy reply hr
      rw [IcmpWorker.to, IcmpPhase.socket_setSocket, Option.mem_def, Option.map_eq_some_iff] at hy
      obtain ⟨x, hx, rfl⟩ := hy
      exact ⟨x, hx, hr⟩
  | remove hp | finish hp =>
    rw [hp]
    exact ⟨fun _ => rfl, nofun, nofun⟩

/-- What a socket receives. -/
theorem IcmpSocket.receive_spec (source : Ipv4Addr) (bytes : Bytes) (cause : Option Nat) (socket : IcmpSocket) :
    (socket.receive source bytes cause).proxyIdent = socket.proxyIdent ∧
      ∀ reply ∈ (socket.receive source bytes cause).replies, reply ∈ socket.replies ∨
        (reply.bytes = bytes.take maxIcmpPacketSize ∧ reply.cause = cause) := by
  unfold IcmpSocket.receive
  split
  · refine ⟨rfl, fun reply hr => ?_⟩
    rcases List.mem_append.1 hr with hr | hr
    · exact .inl hr
    · rw [List.mem_singleton.1 hr]
      exact .inr ⟨rfl, rfl⟩
  · exact ⟨rfl, fun reply hr => .inl hr⟩

namespace IcmpProxy

variable {config : ProxyConfig} {s s' : IcmpProxy} {h : List (IcmpProxy × IcmpAct)}

/-- A message once elicited stays so. -/
theorem Elicited.step {a : IcmpAct} {c : Nat} {message : Bytes} (he : s.Elicited c message)
    (hs : step config s a = some s') : s'.Elicited c message := by
  obtain ⟨w, hw, hcase⟩ := he
  obtain ⟨w', hw'⟩ := step_some hs hw
  refine ⟨w', hw', ?_⟩
  cases step_part hs hw' with
  | kept hw₀ htask =>
    cases hw.symm.trans hw₀
    rwa [htask]
  | spawned hw₀ => cases hw.symm.trans hw₀
  | received hw₀ =>
    cases hw.symm.trans hw₀
    simp only [IcmpWorker.receive, IcmpWorker.to, IcmpPhase.left_setSocket, IcmpPhase.socket_setSocket]
    refine hcase.imp_right (fun ⟨x, hx, hident⟩ => ⟨_, by rw [hx]; rfl, ?_⟩)
    rwa [(IcmpSocket.receive_spec _ _ _ x).1]
  | moved hw₀ hm =>
    cases hw.symm.trans hw₀
    rcases hcase with hleft | ⟨x, hx, hident⟩
    · exact .inl (hm.goes.left hleft)
    · refine (hm.goes.socket x hx).imp_right (fun ⟨y, hy, hxy⟩ => ⟨y, hy, ?_⟩)
      rwa [hxy]

/-- Every message on its way to a session was elicited by the session that it carries. -/
def Traced (s : IcmpProxy) : Prop := ∀ w ∈ s.workers, ∀ socket ∈ w.task.socket, ∀ reply ∈ socket.replies,
  ∀ c, reply.cause = some c → s.Elicited c reply.message

theorem Traced.step {a : IcmpAct} (ht : s.Traced) (ha : s.Honest a) (hs : IcmpProxy.step config s a = some s') :
    s'.Traced := by
  intro w' hw' y hy reply hr c hc
  obtain ⟨i, hi'⟩ := List.getElem?_of_mem hw'
  refine Elicited.step ?_ hs
  cases step_part hs hi' with
  | kept hw₀ htask => exact ht _ (List.mem_of_getElem? hw₀) y (htask ▸ hy) reply hr c hc
  | spawned hw₀ htask =>
    rw [htask] at hy
    cases hy
  | received hw₀ =>
    rw [IcmpWorker.receive, IcmpWorker.to, IcmpPhase.socket_setSocket, Option.mem_def, Option.map_eq_some_iff] at hy
    obtain ⟨x, hx, rfl⟩ := hy
    rcases (IcmpSocket.receive_spec _ _ _ x).2 reply hr with hr | ⟨hbytes, hcause⟩
    · exact ht _ (List.mem_of_getElem? hw₀) x hx reply hr c hc
    · rw [hcause] at hc
      subst hc
      rw [IcmpReply.message, hbytes]
      exact ha
  | moved hw₀ hm =>
    obtain ⟨x, hx, hr⟩ := hm.goes.replies y hy reply hr
    exact ht _ (List.mem_of_getElem? hw₀) x hx reply hr c hc

theorem traced_run (hr : IcmpRun config h s) (honest : ∀ p ∈ h, Honest p.1 p.2) : s.Traced :=
  hr.invariant_of Honest honest Traced (fun _ hw => absurd hw List.not_mem_nil) (fun _ _ _ ht ha hs => ht.step ha hs)

/-- An echo reply that another live session elicited has not this session's identifier. -/
theorem not_deliverable_of_live (ht : s.Traced) (hd : s.Distinct) {i : Nat} {w : IcmpWorker} {socket : IcmpSocket}
    {reply : IcmpReply} (hw : s.workers[i]? = some w) (hsocket : w.task.socket = some socket) (hr : reply ∈ socket.replies)
    (hcause : reply.cause ≠ some i) (hecho : Icmpv4Packet.msgType reply.message = Icmpv4Packet.echoReply)
    (hlive : s.live reply.cause = true) : Icmpv4Packet.echoIdent reply.message ≠ socket.proxyIdent := by
  obtain ⟨c, hc⟩ : ∃ c, reply.cause = some c := by
    cases hc : reply.cause with
    | none =>
      rw [hc] at hlive
      cases hlive
    | some c => exact ⟨c, rfl⟩
  obtain ⟨v, hv, hcase⟩ := ht w (List.mem_of_getElem? hw) socket hsocket reply hr c hc
  have hv' : (v.task.socket).isSome = true := by
    rw [live, hc, Option.bind_some, Option.mem_def.1 hv] at hlive
    exact hlive
  obtain ⟨y, hy, hident⟩ : ∃ y ∈ v.task.socket, Icmpv4Packet.echoIdent reply.message = y.proxyIdent := by
    rcases hcase with hleft | ⟨y, hy, hident⟩
    · cases hp : v.task <;> simp [hp, IcmpPhase.left, IcmpPhase.socket] at hleft hv'
    · exact ⟨y, hy, hident hecho⟩
  rw [hident]
  exact hd.ne hv hw hy hsocket (fun he => hcause (he ▸ hc))

section Reply

variable {i : Nat} {w : IcmpWorker} {socket : IcmpSocket} {reply : IcmpReply} {replies : List IcmpReply}

theorem deliveredAt_reply (hw : s.workers[i]? = some w) (hp : w.task = .relay socket)
    (hr : socket.replies = reply :: replies) {packet : Bytes}
    (hb : buildIcmpReplyPacket w.key.client w.key.target reply.bytes w.key.identifier socket.proxyIdent =
      some (.ok packet)) :
    deliveredAt s (.session i .reply) = some ⟨i, packet, reply.cause⟩ := by
  simp only [deliveredAt, hw, hp, hr, hb, IcmpPhase.socket, Option.bind_some, List.head?_cons]

theorem deliveredAt_invalid (hw : s.workers[i]? = some w) (hp : w.task = .relay socket)
    (hr : socket.replies = reply :: replies) {err : String}
    (hb : buildIcmpReplyPacket w.key.client w.key.target reply.bytes w.key.identifier socket.proxyIdent
      = some (.error err)) : deliveredAt s (.session i .reply) = none := by
  simp only [deliveredAt, hw, hp, hr, hb, IcmpPhase.socket, Option.bind_some, List.head?_cons]

theorem harmless_reply (hw : s.workers[i]? = some w) (hp : w.task = .relay socket)
    (hr : socket.replies = reply :: replies) : Harmless s (.session i .reply) ↔ reply.cause = some i ∨
      reply.message.length < 8 ∨ (Icmpv4Packet.msgType reply.message = Icmpv4Packet.echoReply ∧
        (s.live reply.cause = true ∨ Icmpv4Packet.echoIdent reply.message ≠ socket.proxyIdent)) := by
  simp [Harmless, hw, hp, hr, IcmpPhase.socket]

end Reply

/-- **A step delivers only what its session elicited exactly if the message it takes does no harm.** -/
theorem ownOnly_iff_harmless {a : IcmpAct} (ht : s.Traced) (hd : s.Distinct) (hs : step config s a = some s') :
    OwnOnly s a ↔ Harmless s a := by
  cases a with
  | inbound | arrive => exact ⟨fun _ => trivial, fun _ => nofun⟩
  | session i act =>
    cases act with
    | reply =>
      obtain ⟨w, w', hw, hmove, -⟩ := step_session hs
      cases hmove with
      | @delivered socket reply replies packet hp hr hb =>
        rw [OwnOnly, deliveredAt_reply hw hp hr hb, harmless_reply hw hp hr]
        obtain ⟨hlong, hident⟩ := IcmpReply.deliverable_of_build hb
        have hsocket : w.task.socket = some socket := by rw [hp]; rfl
        constructor
        · exact fun hown => .inl (hown _ rfl)
        · rintro hharmless d ⟨⟩
          by_contra hcause
          rcases hharmless with hown | hshort | ⟨hecho, hlive | hne⟩
          · exact hcause hown
          · exact absurd hlong (Nat.not_le.2 hshort)
          · have hmem : reply ∈ socket.replies := by simp [hr]
            exact not_deliverable_of_live ht hd hw hsocket hmem hcause hecho hlive (hident hecho)
          · exact hne (hident hecho)
      | @invalidReply socket reply replies err hp hr hb =>
        rw [OwnOnly, deliveredAt_invalid hw hp hr hb, harmless_reply hw hp hr]
        refine ⟨fun _ => .inr ?_, fun _ => nofun⟩
        have hnot := IcmpReply.not_deliverable_of_build hb
        rw [Deliverable, not_and_or, Nat.not_le, Classical.not_imp] at hnot
        exact hnot.imp_right (fun h => ⟨h.1, .inr h.2⟩)
    | start | opened | request | requestsClosed | recvFailed | repliesClosed | written | timeout | remove | finish =>
      exact ⟨fun _ => trivial, fun _ => nofun⟩

/-- **Replies are delivered to the session that elicited them exactly if every other message does no harm.**  With honest
messages and distinct identifiers, a session writes to its client only what its own requests elicited if and only if each
message it takes that they did not elicit is too short, or is an echo reply: one that another live session elicited, or one
with another identifier. -/
theorem deliveries_own_iff (hr : IcmpRun config h s) (honest : ∀ p ∈ h, Honest p.1 p.2) (distinct : ∀ p ∈ h, Distinct p.1) :
    Throughout (fun _ => OwnOnly) h ↔ Throughout (fun _ => Harmless) h := by
  have hassumed : Throughout (fun h s _ => (∀ p ∈ h, Honest p.1 p.2) ∧ Distinct s) h := fun i hi =>
    ⟨Machine.throughout_past honest i hi, distinct _ (List.getElem_mem hi)⟩
  exact hr.throughout_congr hassumed
    (fun _ _ _ _ hr hs hE => ownOnly_iff_harmless (traced_run hr hE.1) hE.2 hs)

theorem deliveries_own_pong : ∃ h s, IcmpRun .plain h s ∧
    h.map Prod.snd = sharedRun ++ ponged ++ [IcmpAct.session 1 .reply] ∧
    (h.filterMap (fun p => deliveredAt p.1 p.2)).map (fun d => (d.session, d.cause)) = [(0, some 0)] ∧
    Throughout (fun _ => OwnOnly) h := by
  have hr : IcmpRun .plain (Machine.trace (step .plain) init (sharedRun ++ ponged ++ [IcmpAct.session 1 .reply])) _ :=
    Machine.run_get (by decide +kernel)
  exact ⟨_, _, hr, by decide +kernel, by decide +kernel,
    (deliveries_own_iff hr (by decide +kernel) (by decide +kernel)).2 (by decide +kernel)⟩

/-- Host unreachable, from 1.1.1.1, with the beginning of the first session's request. -/
def unreachable : Bytes :=
  [0x45, 0, 0, 56, 0, 0, 0, 0, 51, 1, 196, 18, 1, 1, 1, 1, 192, 168, 1, 9, 3, 1, 94, 97, 0, 0, 0, 0,
   0x45, 0, 0, 30, 0, 0, 0, 0, 1, 1, 246, 44, 192, 168, 1, 9, 1, 1, 1, 1, 8, 0, 86, 156, 0x40, 0, 0, 1]

/-- **A message that one client's request elicited is written to another client**: to 10.0.0.3, though what elicited it was
the ping from 10.0.0.2. -/
theorem message_cross_delivered : ∃ h s, IcmpRun .plain h s ∧ (∀ p ∈ h, Honest p.1 p.2) ∧ (∀ p ∈ h, Distinct p.1) ∧
    h.map Prod.snd = sharedRun ++ [IcmpAct.arrive ⟨1, 1, 1, 1⟩ unreachable (some 0), .session 1 .reply] ∧
    (h.filterMap (fun p => deliveredAt p.1 p.2)).map (fun d => (d.session, d.cause, Ipv4Packet.dstAddr d.packet)) =
      [(1, some 0, ⟨10, 0, 0, 3⟩)] := by
  have hr : IcmpRun .plain (Machine.trace (step .plain) init
      (sharedRun ++ [IcmpAct.arrive ⟨1, 1, 1, 1⟩ unreachable (some 0), .session 1 .reply])) _ :=
    Machine.run_get (by decide +kernel)
  exact ⟨_, _, hr, by decide +kernel, by decide +kernel, by decide +kernel, by decide +kernel⟩

end IcmpProxy

end Easynet
