import Easynet.IcmpSessions
import Easynet.Lib.Fifo
import Easynet.Lib.Flow
/-!
# IcmpFlows — the two directions of an ICMP session key

Over time several sessions serve one key, each with a raw socket and an identifier of its own.  Here is what the two ends see
of this: the target's side the messages that go out on the sockets, and the client the packets that are written to the TUN
side.  As for UDP, messages may be lost where sessions end, but they are not reordered or doubled; what changes is the
identifier of an echo message, and the header around it.

Several sockets receive each message of a target, so that what a session receives need not be an answer to its own requests;
but there is no session for a key for which the client has sent nothing.
-/
namespace Easynet

open Machine (Run)
open Fifo (items)

/-- A request on its way out: the socket's address and identifier, the client's packet and the message that is sent. -/
structure Forwarded where
  outbound : Ipv4Addr
  ident : UInt16
  packet : Bytes
  sent : Bytes
  deriving DecidableEq, Repr

/-- The packet that a session makes of what its socket has received, if it does. -/
def IcmpSessionKey.answer (key : IcmpSessionKey) (proxyIdent : UInt16) (bytes : Bytes) : Option Bytes :=
  (buildIcmpReplyPacket key.client key.target bytes key.identifier proxyIdent).bind Except.toOption

namespace IcmpWorker

/-- The request that a session has forwarded in this step. -/
def forwards (w : IcmpWorker) : IcmpSessionAct → Option Forwarded
  | .request true => w.task.socket.bind (fun socket => w.queue.head?.bind (fun packet =>
      (forwardIcmpRequest packet socket.proxyIdent).toOption.map (fun sent =>
        ⟨socket.outbound, socket.proxyIdent, packet, sent⟩)))
  | _ => none

/-- The packet that it has written to the TUN side. -/
def writes (w : IcmpWorker) : IcmpSessionAct → Option Bytes
  | .written true => match w.task with
    | .writing _ packet => some packet
    | _                 => none
  | _ => none

/-- What a message from `source` comes to, if it reaches the socket. -/
def arrives (w : IcmpWorker) (source : Ipv4Addr) (bytes : Bytes) : Option Bytes :=
  w.task.socket.bind (fun socket =>
    if socket.outbound = source ∧ socket.receiving = true then
      w.key.answer socket.proxyIdent (bytes.take maxIcmpPacketSize)
    else none)

/-- What it has still to forward. -/
def unforwarded (w : IcmpWorker) : List Bytes := if w.task.left then [] else w.queue

/-- The packets that it can make of what its socket has received. -/
def answers (w : IcmpWorker) (socket : IcmpSocket) : List Bytes :=
  socket.replies.filterMap (fun reply => w.key.answer socket.proxyIdent reply.bytes)

/-- What it has still to write. -/
def unwritten (w : IcmpWorker) : List Bytes :=
  match w.task with
  | .relay socket          => w.answers socket
  | .writing socket packet => packet :: w.answers socket
  | _                      => []

theorem unforwarded_left {w : IcmpWorker} (h : w.task.left = true) : w.unforwarded = [] := if_pos h

theorem unforwarded_of {w : IcmpWorker} {phase : IcmpPhase} (hp : w.task = phase) (hleft : phase.left = false) :
    w.unforwarded = w.queue := by
  rw [unforwarded, hp, hleft]
  rfl

theorem unwritten_receive (w : IcmpWorker) (source : Ipv4Addr) (bytes : Bytes) (cause : Option Nat) :
    (w.receive source bytes cause).unwritten = w.unwritten ++ (w.arrives source bytes).toList := by
  have hanswers (socket : IcmpSocket) : w.answers (socket.receive source bytes cause) = w.answers socket ++
      (if socket.outbound = source ∧ socket.receiving = true then
        w.key.answer socket.proxyIdent (bytes.take maxIcmpPacketSize) else none).toList := by
    unfold IcmpSocket.receive
    split
    · rw [answers, List.filterMap_append, List.filterMap_cons, List.filterMap_nil]
      cases w.key.answer socket.proxyIdent (bytes.take maxIcmpPacketSize) <;> rfl
    · exact (List.append_nil _).symm
  cases w with
  | mk key queue task =>
    cases task with
    | relay socket => exact hanswers socket
    | writing socket packet => exact congrArg (List.cons packet) (hanswers socket)
    | starting | opening | leaving | removed | gone => rfl

end IcmpWorker

section Moves

variable {upstream : UpstreamServer} {senders : Bool} {ident : UInt16} {w w' : IcmpWorker} {act : IcmpSessionAct}

/-- What a session forwards is the first of what it has to forward. -/
theorem IcmpMove.unforwarded (h : IcmpMove upstream senders ident w act w') :
    (((w.forwards act).map Forwarded.packet).toList ++ w'.unforwarded).Sublist w.unforwarded := by
  cases h with
  | @forwarded socket packet sent queue hp hq hf =>
    rw [IcmpWorker.unforwarded_of hp rfl, IcmpWorker.unforwarded_of (w := { w with queue := queue }) hp rfl,
      IcmpWorker.forwards, hp, hq]
    simp only [IcmpPhase.socket, Option.bind_some, List.head?_cons, hf]
    exact List.Sublist.refl _
  | @invalidRequest socket packet queue err ok hp hq hf =>
    have hnone : w.forwards (.request ok) = none := by
      cases ok with
      | false => rfl
      | true =>
        rw [IcmpWorker.forwards, hp, hq]
        simp only [IcmpPhase.socket, Option.bind_some, List.head?_cons, hf]
        rfl
    rw [hnone, IcmpWorker.unforwarded_left rfl]
    exact List.nil_sublist _
  | start hp | opened hp | delivered hp | written hp =>
    rw [IcmpWorker.unforwarded_of hp rfl]
    exact List.Sublist.refl _
  | @recvFailed socket hp =>
    have hkept : (w.to (w.task.setSocket (fun socket => { socket with receiving := false }))).unforwarded =
        w.unforwarded := by
      simp only [IcmpWorker.unforwarded, IcmpWorker.to, IcmpPhase.left_setSocket]
    rw [hkept]
    exact List.Sublist.refl _
  | returned hp | openFailed hp | sendFailed hp | requestsClosed hp | invalidReply hp | repliesClosed hp | timeout hp
  | writeFailed hp | remove hp | finish hp => exact List.nil_sublist _

/-- What a session writes is the first of what it has to write. -/
theorem IcmpMove.unwritten (h : IcmpMove upstream senders ident w act w') :
    ((w.writes act).toList ++ w'.unwritten).Sublist w.unwritten := by
  cases h with
  | @forwarded socket packet sent queue hp hq hf => exact List.Sublist.refl _
  | @delivered socket reply replies packet hp hr hb =>
    have hanswers : w.answers socket = packet :: w.answers { socket with replies := replies } := by
      rw [IcmpWorker.answers, hr]
      exact List.filterMap_cons_some (by rw [IcmpSessionKey.answer, hb]; rfl)
    rw [show w.unwritten = w.answers socket by rw [IcmpWorker.unwritten, hp], hanswers]
    exact List.Sublist.refl _
  | @written socket packet hp =>
    rw [IcmpWorker.writes, IcmpWorker.unwritten, IcmpWorker.unwritten, hp]
    exact List.Sublist.refl _
  | @recvFailed socket hp =>
    have hkept : (w.to (w.task.setSocket (fun socket => { socket with receiving := false }))).unwritten = w.unwritten := by
      cases w with
      | mk key queue task => cases task <;> rfl
    rw [hkept]
    exact List.Sublist.refl _
  | start | opened | returned | openFailed | sendFailed | invalidRequest | requestsClosed | invalidReply | repliesClosed
  | timeout | writeFailed | remove | finish => exact List.nil_sublist _

theorem IcmpMove.finish_of_removed (h : IcmpMove upstream senders ident w act w') (hstage : w.task.stage = .removed) :
    act = .finish := by
  rcases h.stage with ⟨-, hrun, -⟩ | ⟨rfl, -, -⟩ | ⟨-, -, hrun, -⟩ | ⟨-, hrun, -⟩
  · cases hstage.symm.trans hrun
  · rfl
  · cases hstage.symm.trans hrun
  · cases hstage.symm.trans hrun

end Moves

namespace IcmpProxy

variable {config : ProxyConfig} {s s' : IcmpProxy} {a : IcmpAct} {h : List (IcmpProxy × IcmpAct)} {key : IcmpSessionKey}

/-- The packets with this key that the client has sent and that were parsed and passed the filters. -/
def flowAccepted (config : ProxyConfig) (key : IcmpSessionKey) (_ : IcmpProxy) : IcmpAct → Option Bytes
  | .inbound (.recv packet) =>
    match parseInboundIcmpPacket (packet.take maxIcmpPacketSize) with
    | .ok inbound =>
      if config.filters.isAllowed (.v4 inbound.client) (.v4 inbound.target) ∧ inbound.key = key then
        some (packet.take maxIcmpPacketSize)
      else none
    | .error _ => none
  | _ => none

/-- What a session does in a step, if it is one of this key. -/
def ofFlow {β : Type} (f : IcmpWorker → IcmpSessionAct → Option β) (key : IcmpSessionKey) (s : IcmpProxy) :
    IcmpAct → Option β
  | .session i act => s.ofKey f key i act
  | _              => none

def flowForwarded : IcmpSessionKey → IcmpProxy → IcmpAct → Option Forwarded := ofFlow IcmpWorker.forwards

def flowWritten : IcmpSessionKey → IcmpProxy → IcmpAct → Option Bytes := ofFlow IcmpWorker.writes

/-- What a message comes to that reaches the socket of the session that serves the key. -/
def flowArrived (key : IcmpSessionKey) (s : IcmpProxy) : IcmpAct → Option Bytes
  | .arrive source bytes _ => (s.serving key).bind (fun w => IcmpWorker.arrives w source bytes)
  | _                      => none

def requestView : Dispatch.View (fun _ : IcmpSessionKey => IcmpPhase.starting) Bytes Bytes where
  worker := IcmpWorker.unforwarded
  message := fun msg => [msg]
  spawned := fun _ => rfl
  pushed := by
    intro w msg
    simp only [IcmpWorker.unforwarded]
    split
    · exact List.nil_sublist _
    · exact List.Sublist.refl _

def replyView : Dispatch.View (fun _ : IcmpSessionKey => IcmpPhase.starting) Bytes Bytes where
  worker := IcmpWorker.unwritten
  message := fun _ => []
  spawned := fun _ => rfl
  pushed := fun w _ => by rw [List.append_nil]; exact List.Sublist.refl _

/-! ## The two directions -/

theorem ofFlow_map {β γ : Type} (f : IcmpWorker → IcmpSessionAct → Option β) (g : β → γ) (key : IcmpSessionKey)
    (s : IcmpProxy) (a : IcmpAct) : (ofFlow f key s a).map g = ofFlow (fun w act => (f w act).map g) key s a := by
  cases a with
  | inbound act => rfl
  | arrive source bytes cause => rfl
  | session i act => exact Dispatch.State.ofKey_map f g key s.toState i act

/-- What the sessions of a key hold and give out. -/
theorem held_ofFlow {v : Dispatch.View (fun _ : IcmpSessionKey => IcmpPhase.starting) Bytes Bytes}
    {f : IcmpWorker → IcmpSessionAct → Option Bytes}
    (hmove : ∀ {upstream senders ident w act w'}, IcmpMove upstream senders ident w act w' →
      ((f w act).toList ++ v.worker w').Sublist (v.worker w))
    (hfinish : ∀ w, f w .finish = none) {i : Nat} {act : IcmpSessionAct} (hinv : (s.protocol IcmpPhase.stage).Inv)
    (hs : step config s (.session i act) = some s') (key : IcmpSessionKey) :
    ((ofFlow f key s (.session i act)).toList ++ s'.toState.held v key).Sublist (s.toState.held v key) := by
  obtain ⟨w, w', hw, hm, rfl⟩ := step_session hs
  have hnone : s.ofKey (fun _ (_ : IcmpSessionAct) => (none : Option Bytes)) key i act = none := by
    simp only [Dispatch.State.ofKey, ite_self, Option.bind_fun_none]
  have hheld := Dispatch.State.held_ofKey v (f := f) (g := fun _ _ => none) (b := act == .remove) hinv hw
    (by rw [Option.toList_none, List.append_nil]; exact hmove hm) ?_ key
  · rwa [hnone, Option.toList_none, List.append_nil] at hheld
  · by_cases hremoved : w.task.stage = .removed
    · -- a session that has left the table does nothing but end
      cases hm.finish_of_removed hremoved
      exact .inr ⟨hremoved, rfl, hfinish w⟩
    · rcases hm.stage with ⟨-, hrun, -⟩ | ⟨-, hrem, -⟩ | ⟨-, -, hrun, -⟩ | ⟨-, hrun, -⟩
      · exact .inl hrun
      · exact absurd hrem hremoved
      · exact .inl hrun
      · exact .inl hrun

/-- A message that arrives is held from now on by the sessions that receive it. -/
theorem serving_arrive (source : Ipv4Addr) (bytes : Bytes) (cause : Option Nat) (key : IcmpSessionKey) :
    Dispatch.State.serving key { s.toState with workers := s.workers.map (IcmpWorker.receive source bytes cause) } =
      (s.serving key).map (IcmpWorker.receive source bytes cause) := by
  simp only [Dispatch.State.serving, List.getElem?_map]
  cases s.table.lookup key <;> rfl

theorem held_arrive {v : Dispatch.View (fun _ : IcmpSessionKey => IcmpPhase.starting) Bytes Bytes} {source : Ipv4Addr}
    {bytes : Bytes} {cause : Option Nat} {g : IcmpWorker → List Bytes}
    (hreceive : ∀ w : IcmpWorker, v.worker (w.receive source bytes cause) = v.worker w ++ g w)
    (hs : step config s (.arrive source bytes cause) = some s') (key : IcmpSessionKey) :
    s'.toState.held v key = s.toState.held v key ++ (s.serving key).elim [] g := by
  cases hs
  rw [Dispatch.State.held, serving_arrive, Dispatch.State.held]
  cases s.serving key with
  | none => rfl
  | some w => exact hreceive w

/-- An accepted packet is in hand. -/
theorem inboundStep_accepted {packet : Bytes} {t : Dispatch.State IcmpSessionKey Bytes IcmpPhase}
    (ht : s.inboundStep config (.recv packet) = some t) :
    t = s.toState ∨ ∃ k, s.receive k (packet.take maxIcmpPacketSize) = some t ∧
      ∀ key, flowAccepted config key s (.inbound (.recv packet)) =
        if k = key then some (packet.take maxIcmpPacketSize) else none := by
  simp only [inboundStep] at ht
  split at ht
  case isFalse => cases ht
  case isTrue =>
    split at ht
    · exact .inl (Option.some.inj ht).symm
    · rename_i inbound hparse
      split at ht
      · rename_i hallowed
        refine .inr ⟨inbound.key, ht, fun key => ?_⟩
        simp only [flowAccepted, hparse, hallowed, true_and]
      · exact .inl (Option.some.inj ht).symm

theorem unforwarded_inbound {act : IcmpInboundAct} (hinv : (s.protocol IcmpPhase.stage).Inv)
    (hs : step config s (.inbound act) = some s') (key : IcmpSessionKey) :
    (s'.toState.held requestView key ++ s'.inbound.messagesFor key).Sublist
      (s.toState.held requestView key ++ s.inbound.messagesFor key ++
        (flowAccepted config key s (.inbound act)).toList) := by
  obtain ⟨t, ht, rfl⟩ := step_inbound hs
  cases act with
  | recvFailed =>
    rw [inboundStep_recvFailed ht]
    exact List.sublist_append_left _ _
  | recv packet =>
    rcases inboundStep_accepted ht with rfl | ⟨k, hreceive, haccepted⟩
    · exact List.sublist_append_left _ _
    · obtain ⟨hin, rfl⟩ := Dispatch.State.receive_eq_some hreceive
      rw [haccepted key, hin]
      simp only [Dispatch.Inbound.messagesFor, List.append_nil]
      refine List.Sublist.append_left ?_ _
      split <;> exact List.Sublist.refl _
  | lookUp =>
    obtain ⟨hheld, hmessages⟩ := Dispatch.State.held_lookUp requestView hinv ht key
    rw [hheld, hmessages]
    exact List.sublist_append_left _ _
  | send =>
    obtain ⟨hheld, hmessages⟩ := Dispatch.State.held_send requestView hinv ht key
    rw [show List.flatMap requestView.message (s.inbound.messagesFor key) = s.inbound.messagesFor key from
      List.flatMap_singleton' _] at hheld
    rw [hmessages, List.append_nil]
    exact hheld.trans (List.sublist_append_left _ _)
  | remove =>
    obtain ⟨hheld, hmessages⟩ := Dispatch.State.held_forget requestView ht key
    rw [hmessages, List.append_nil]
    exact hheld.trans ((List.sublist_append_left _ _).trans (List.sublist_append_left _ _))

theorem unwritten_inbound {act : IcmpInboundAct} (hinv : (s.protocol IcmpPhase.stage).Inv)
    (hs : step config s (.inbound act) = some s') (key : IcmpSessionKey) :
    (s'.toState.held replyView key).Sublist (s.toState.held replyView key) := by
  obtain ⟨t, ht, rfl⟩ := step_inbound hs
  cases act with
  | recvFailed => rw [inboundStep_recvFailed ht]
  | recv packet =>
    rcases inboundStep_recv ht with rfl | ⟨inbound, -, hreceive⟩
    · exact List.Sublist.refl _
    · obtain ⟨-, rfl⟩ := Dispatch.State.receive_eq_some hreceive
      exact List.Sublist.refl _
  | lookUp => rw [(Dispatch.State.held_lookUp replyView hinv ht key).1]
  | send =>
    have hheld := (Dispatch.State.held_send replyView hinv ht key).1
    rwa [show List.flatMap replyView.message (s.inbound.messagesFor key) = [] from
      List.flatMap_eq_nil_iff.2 (fun _ _ => rfl), List.append_nil] at hheld
  | remove => exact (Dispatch.State.held_forget replyView ht key).1

/-- What leaves on the sockets of a key. -/
theorem forwarded_lossy (config : ProxyConfig) (key : IcmpSessionKey) :
    Fifo.Lossy (step config) init (flowAccepted config key) (fun s a => (flowForwarded key s a).map Forwarded.packet)
      (fun s => s.toState.held requestView key ++ s.inbound.messagesFor key) where
  start := rfl
  keep := by
    intro h s a s' hr hs
    cases a with
    | inbound act => exact unforwarded_inbound (IcmpRun.inv hr) hs key
    | arrive source bytes cause =>
      have hheld := held_arrive (v := requestView) (g := fun _ => []) (fun w => by
        show IcmpWorker.unforwarded _ = _
        rw [List.append_nil, IcmpWorker.unforwarded, IcmpWorker.receive, IcmpWorker.to, IcmpPhase.left_setSocket]
        rfl) hs key
      have hinbound : s'.inbound = s.inbound := by cases hs; rfl
      rw [hheld, hinbound]
      cases s.serving key <;> simp [flowForwarded, ofFlow, flowAccepted]
    | session i act =>
      have hinbound : s'.inbound = s.inbound := by
        obtain ⟨w, w', -, -, rfl⟩ := step_session hs
        simp only [Dispatch.State.put, Dispatch.State.inbound_removeIf]
      have hflow := held_ofFlow (v := requestView) (f := fun w act => (w.forwards act).map Forwarded.packet)
        (fun hm => hm.unforwarded) (fun _ => rfl) (IcmpRun.inv hr) hs key
      rw [flowForwarded, ofFlow_map, hinbound, ← List.append_assoc]
      exact (hflow.append_right _).trans (List.sublist_append_left _ _)

/-- What comes back on them. -/
theorem written_lossy (config : ProxyConfig) (key : IcmpSessionKey) :
    Fifo.Lossy (step config) init (flowArrived key) (flowWritten key) (fun s => s.toState.held replyView key) where
  start := rfl
  keep := by
    intro h s a s' hr hs
    cases a with
    | inbound act => exact (unwritten_inbound (IcmpRun.inv hr) hs key).trans (List.sublist_append_left _ _)
    | arrive source bytes cause =>
      rw [held_arrive (v := replyView) (fun w => w.unwritten_receive source bytes cause) hs key, flowArrived]
      cases s.serving key <;> exact List.Sublist.refl _
    | session i act =>
      exact (held_ofFlow (v := replyView) (fun hm => hm.unwritten) (fun _ => rfl) (IcmpRun.inv hr) hs key).trans
        (List.sublist_append_left _ _)

/-! ## Solicited answers -/

/-- **Whoever serves a key was asked to**: the client has sent a packet with it, and the filters have passed it. -/
theorem solicited (hr : IcmpRun config h s) : s.Asked (fun key => items (flowAccepted config key) h ≠ []) := by
  refine hr.history_invariant (fun h s => s.Asked (fun key => items (flowAccepted config key) h ≠ []))
    Dispatch.State.asked_init (fun h s a s' _ ih hs => ?_)
  have hstill : s.Asked (fun key => items (flowAccepted config key) (h ++ [(s, a)]) ≠ []) := ih.mono (fun key hk => by
    rw [Fifo.items_snoc]
    exact List.append_ne_nil_of_left_ne_nil hk _)
  cases a with
  | session i act =>
    obtain ⟨w, w', hw, hm, rfl⟩ := step_session hs
    exact hstill.move hw hm.key _ _
  | arrive source bytes cause =>
    cases hs
    refine ⟨fun w hw => ?_, hstill.inbound⟩
    obtain ⟨v, hv, rfl⟩ := List.mem_map.1 hw
    exact hstill.workers v hv
  | inbound act =>
    obtain ⟨t, ht, rfl⟩ := step_inbound hs
    cases act with
    | recvFailed => exact inboundStep_recvFailed ht ▸ hstill
    | recv packet =>
      rcases inboundStep_accepted ht with rfl | ⟨k, hreceive, haccepted⟩
      · exact hstill
      · refine hstill.receive ?_ hreceive
        rw [Fifo.items_snoc, haccepted k, if_pos rfl]
        exact List.append_ne_nil_of_right_ne_nil _ (List.cons_ne_nil _ _)
    | lookUp => exact hstill.lookUp ht
    | send => exact hstill.send ht
    | remove => exact hstill.forget ht

end IcmpProxy

/-! ## Where the messages go, and what they are -/

/-- The address that a session's socket is connected to, or will be. -/
def IcmpPhase.outbound : IcmpPhase → Option Ipv4Addr
  | .opening outbound => some outbound
  | phase             => phase.socket.map IcmpSocket.outbound

theorem IcmpPhase.outbound_of_socket {phase : IcmpPhase} {socket : IcmpSocket} (h : phase.socket = some socket) :
    phase.outbound = some socket.outbound := by
  cases phase with
  | relay x | writing x packet => cases h; rfl
  | starting | opening | leaving | removed | gone => cases h

theorem IcmpMove.outbound {upstream : UpstreamServer} {senders : Bool} {ident : UInt16} {w w' : IcmpWorker}
    {act : IcmpSessionAct} (h : IcmpMove upstream senders ident w act w') :
    ∀ o ∈ w'.task.outbound, w.task.outbound = some o ∨ upstream.translateIpv4 w.key.target = .ok o := by
  cases h with
  | start hp ht =>
    rintro o ⟨⟩
    exact .inr ht
  | opened hp | delivered hp | written hp =>
    rintro o ⟨⟩
    exact .inl (by rw [hp]; rfl)
  | forwarded => exact fun o ho => .inl ho
  | @recvFailed socket hp =>
    have hkept : (w.task.setSocket (fun socket => { socket with receiving := false })).socket =
        some { socket with receiving := false } := by rw [IcmpPhase.socket_setSocket, hp, Option.map_some]
    intro o ho
    cases (IcmpPhase.outbound_of_socket hkept).symm.trans ho
    exact .inl ((IcmpPhase.outbound_of_socket hp).trans rfl)
  | returned | openFailed | sendFailed | invalidRequest | requestsClosed | invalidReply | repliesClosed | timeout
  | writeFailed | remove | finish =>
    intro o ho
    cases ho

/-- The message that is sent is that of the packet; an echo request has got another identifier. -/
def Forwarded.Proper (f : Forwarded) : Prop :=
  if Icmpv4Packet.msgType (Ipv4Packet.payload f.packet) = Icmpv4Packet.echoRequest then
    Icmpv4Packet.Renamed f.ident (Ipv4Packet.payload f.packet) f.sent
  else f.sent = Ipv4Packet.payload f.packet

theorem Forwarded.proper_of_forward {f : Forwarded} (h : forwardIcmpRequest f.packet f.ident = .ok f.sent) : f.Proper := by
  obtain ⟨ipv4, hchecked, hsent⟩ := Result.bind_eq_ok.1 h
  obtain ⟨-, rfl⟩ := Ipv4Packet.newChecked_eq_ok.1 hchecked
  split at hsent
  · cases hsent
  · obtain ⟨hlen, hsent⟩ := rewriteIcmpEchoRequest_ok.1 hsent
    unfold Forwarded.Proper
    split at hsent
    · rename_i htype
      rw [if_pos htype, hsent]
      exact Icmpv4Packet.renamed hlen f.ident
    · rename_i htype
      rwa [if_neg htype]

/-- **The packet that answers the client**: from its target, with the message that was received, in which an echo reply under
the session's identifier has got the client's. -/
def IcmpSessionKey.Answers (key : IcmpSessionKey) (proxyIdent : UInt16) (bytes packet : Bytes) : Prop :=
  CarriesIcmp key.target key.client (replyParts bytes).1 (Ipv4Packet.payload packet) packet ∧
    if Icmpv4Packet.msgType (replyParts bytes).2 = Icmpv4Packet.echoReply then
      Icmpv4Packet.echoIdent (replyParts bytes).2 = proxyIdent ∧
        Icmpv4Packet.Renamed (key.identifier.getD proxyIdent) (replyParts bytes).2 (Ipv4Packet.payload packet)
    else Ipv4Packet.payload packet = (replyParts bytes).2

theorem IcmpSessionKey.answers_of_answer {key : IcmpSessionKey} {proxyIdent : UInt16} {bytes packet : Bytes}
    (h : key.answer proxyIdent bytes = some packet) : key.Answers proxyIdent bytes packet := by
  obtain ⟨result, hbuild, hresult⟩ := Option.bind_eq_some_iff.1 h
  cases Result.toOption_eq_some hresult
  obtain ⟨hrewrite, hfits⟩ := buildIcmpReplyPacket_eq_ok hbuild
  obtain ⟨packet', hbuild', hcarries⟩ := buildIcmpReplyPacket_ok key.client key.target hrewrite hfits
  cases hbuild.symm.trans hbuild'
  refine ⟨hcarries, ?_⟩
  obtain ⟨⟨hlen, hident⟩, hpayload⟩ := rewriteIcmpEchoReply_ok.1 hrewrite
  split at hpayload
  · rename_i htype
    rw [if_pos htype, hpayload]
    exact ⟨hident htype, Icmpv4Packet.renamed hlen _⟩
  · rename_i htype
    rwa [if_neg htype]

namespace IcmpProxy

variable {config : ProxyConfig} {s s' : IcmpProxy} {h : List (IcmpProxy × IcmpAct)} {key : IcmpSessionKey}

/-- A session's socket is connected to the target, or to the upstream server in its place. -/
theorem outbound_of_run (hr : IcmpRun config h s) :
    ∀ w ∈ s.workers, ∀ o ∈ w.task.outbound, config.upstream.translateIpv4 w.key.target = .ok o := by
  refine hr.invariant
    (fun s => ∀ w ∈ s.workers, ∀ o ∈ w.task.outbound, config.upstream.translateIpv4 w.key.target = .ok o)
    (fun _ hw => absurd hw List.not_mem_nil) (fun s a s' ih hs w' hw' => ?_)
  cases a with
  | session i act =>
    obtain ⟨w, v, hw, hm, rfl⟩ := step_session hs
    simp only [Dispatch.State.put, Dispatch.State.workers_removeIf] at hw'
    rcases List.mem_or_eq_of_mem_set hw' with hw' | rfl
    · exact ih w' hw'
    · intro o ho
      rw [hm.key]
      exact (hm.outbound o ho).elim (ih w (List.mem_of_getElem? hw) o) id
  | arrive source bytes cause =>
    cases hs
    obtain ⟨w, hw, rfl⟩ := List.mem_map.1 hw'
    have houtbound : (w.task.setSocket (IcmpSocket.receive source bytes cause)).outbound = w.task.outbound := by
      have hsocket (socket : IcmpSocket) : (socket.receive source bytes cause).outbound = socket.outbound := by
        unfold IcmpSocket.receive
        split <;> rfl
      cases w.task with
      | relay socket | writing socket packet => exact congrArg some (hsocket socket)
      | starting | opening | leaving | removed | gone => rfl
    intro o ho
    exact ih w hw o (houtbound ▸ ho)
  | inbound act =>
    obtain ⟨t, ht, rfl⟩ := step_inbound hs
    obtain ⟨i, hi⟩ := List.getElem?_of_mem hw'
    rcases (inboundStep_extends ht).workers i w' hi with ⟨w, hw, hkey, htask⟩ | ⟨-, htask⟩
    · rw [hkey, htask]
      exact ih w (List.mem_of_getElem? hw)
    · rw [htask]
      exact fun o ho => absurd ho (Option.not_mem_none o)

/-- What was forwarded goes to the target, as the upstream server has it. -/
theorem forwarded_proper (hr : IcmpRun config h s) {f : Forwarded} (hf : f ∈ items (flowForwarded key) h) :
    config.upstream.translateIpv4 key.target = .ok f.outbound ∧ f.Proper := by
  obtain ⟨⟨s₁, a⟩, hp, he⟩ := List.mem_filterMap.1 hf
  obtain ⟨h₁, h₂, -, rfl, hr₁, -, -⟩ := hr.of_mem hp
  cases a with
  | inbound act => cases he
  | arrive source bytes cause => cases he
  | session i act =>
    obtain ⟨w, hw, rfl, hforwards⟩ := Dispatch.State.ofKey_eq_some he
    unfold IcmpWorker.forwards at hforwards
    split at hforwards
    · obtain ⟨socket, hsocket, hhead⟩ := Option.bind_eq_some_iff.1 hforwards
      obtain ⟨packet, -, hsome⟩ := Option.bind_eq_some_iff.1 hhead
      obtain ⟨sent, hsent, rfl⟩ := Option.map_eq_some_iff.1 hsome
      exact ⟨outbound_of_run hr₁ w hw _ (IcmpPhase.outbound_of_socket hsocket),
        Forwarded.proper_of_forward (Result.toOption_eq_some hsent)⟩
    · cases hforwards

/-- What arrives comes from there. -/
theorem arrived_answers (hr : IcmpRun config h s) {packet : Bytes} (hp : packet ∈ items (flowArrived key) h) :
    ∃ source bytes cause, IcmpAct.arrive source bytes cause ∈ h.map Prod.snd ∧
      config.upstream.translateIpv4 key.target = .ok source ∧
      ∃ proxyIdent, key.Answers proxyIdent (bytes.take maxIcmpPacketSize) packet := by
  obtain ⟨⟨s₁, a⟩, hstep, he⟩ := List.mem_filterMap.1 hp
  obtain ⟨h₁, h₂, -, rfl, hr₁, -, -⟩ := hr.of_mem hstep
  cases a with
  | inbound act => cases he
  | session i act => cases he
  | arrive source bytes cause =>
    obtain ⟨w, hserving, harrives⟩ := Option.bind_eq_some_iff.1 he
    obtain ⟨i, hlook, hw⟩ := Option.bind_eq_some_iff.1 hserving
    obtain ⟨v, hv, rfl, -⟩ := Dispatch.State.worker_of_entry (IcmpRun.inv hr₁) hlook
    cases hw.symm.trans hv
    obtain ⟨socket, hsocket, hanswer⟩ := Option.bind_eq_some_iff.1 harrives
    split at hanswer
    · rename_i hreaches
      refine ⟨source, bytes, cause, List.mem_map_of_mem hstep, ?_, socket.proxyIdent,
        IcmpSessionKey.answers_of_answer hanswer⟩
      rw [← hreaches.1]
      exact outbound_of_run hr₁ w (List.mem_of_getElem? hw) _ (IcmpPhase.outbound_of_socket hsocket)
    · cases hanswer

/-- **The ICMP proxy keeps the keys apart and in order.**  The packets that are forwarded for a key, over all the sessions
that serve it one after another, are in this order among those that the client has sent; each goes to the target's address
as the upstream server has it, with only the identifier of an echo request replaced.  The packets that the client receives
are in this order among those made of the messages that came from there, each a packet from the target to the client with
the message in it, and the client's identifier back in an echo reply.  Nothing comes back for a key with which the client
has sent nothing. -/
theorem flows_translated (hr : IcmpRun config h s) (key : IcmpSessionKey) :
    ((items (flowForwarded key) h).map Forwarded.packet).Sublist (items (flowAccepted config key) h) ∧
    (∀ f ∈ items (flowForwarded key) h, config.upstream.translateIpv4 key.target = .ok f.outbound ∧ f.Proper) ∧
    (items (flowWritten key) h).Sublist (items (flowArrived key) h) ∧
    (∀ packet ∈ items (flowArrived key) h, ∃ source bytes cause, IcmpAct.arrive source bytes cause ∈ h.map Prod.snd ∧
      config.upstream.translateIpv4 key.target = .ok source ∧
      ∃ proxyIdent, key.Answers proxyIdent (bytes.take maxIcmpPacketSize) packet) ∧
    (items (flowArrived key) h ≠ [] → items (flowAccepted config key) h ≠ []) := by
  refine ⟨?_, fun f hf => forwarded_proper hr hf, ?_, fun packet hp => arrived_answers hr hp, fun hne => ?_⟩
  · have hsub := (List.sublist_append_left _ _).trans ((forwarded_lossy config key).sublist hr)
    rwa [Fifo.items_map] at hsub
  · exact (List.sublist_append_left _ _).trans ((written_lossy config key).sublist hr)
  · -- the session that received it serves the key
    obtain ⟨packet, hp⟩ := List.exists_mem_of_ne_nil _ hne
    obtain ⟨⟨s₁, a⟩, hstep, he⟩ := List.mem_filterMap.1 hp
    obtain ⟨h₁, h₂, -, rfl, hr₁, -, -⟩ := hr.of_mem hstep
    cases a with
    | inbound act => cases he
    | session i act => cases he
    | arrive source bytes cause =>
      obtain ⟨w, hserving, -⟩ := Option.bind_eq_some_iff.1 he
      obtain ⟨i, hlook, hw⟩ := Option.bind_eq_some_iff.1 hserving
      obtain ⟨v, hv, rfl, -⟩ := Dispatch.State.worker_of_entry (IcmpRun.inv hr₁) hlook
      have hasked := (solicited hr₁).workers v (List.mem_of_getElem? hv)
      rw [items, List.filterMap_append]
      exact List.append_ne_nil_of_left_ne_nil hasked _

/-- The ping is answered, the session times out, and another session forwards the next ping under the next identifier. -/
def twicePinged : List IcmpAct :=
  pingRun ++ ponged ++
    [.session 0 .timeout, .session 0 .remove, .inbound (.recv ping), .inbound .lookUp, .inbound .send,
      .session 0 .finish, .session 1 .start, .session 1 (.opened true), .session 1 (.request true)]

theorem flows_translated_pings : ∃ h s, IcmpRun .plain h s ∧
    (items (flowForwarded (IcmpSessionKey.of ping)) h).map (fun f => (f.outbound, f.ident, f.packet)) =
      [(⟨1, 1, 1, 1⟩, 0x4000, ping), (⟨1, 1, 1, 1⟩, 0x4001, ping)] ∧
    (items (flowWritten (IcmpSessionKey.of ping)) h).length = 1 ∧
    ∀ f ∈ items (flowForwarded (IcmpSessionKey.of ping)) h, f.Proper := by
  have hr : IcmpRun .plain (Machine.trace (step .plain) init twicePinged) _ := Machine.run_get (by decide +kernel)
  exact ⟨_, _, hr, by decide +kernel, by decide +kernel,
    fun f hf => ((flows_translated hr (IcmpSessionKey.of ping)).2.1 f hf).2⟩

end IcmpProxy

end Easynet
