import Easynet.Icmp
import Easynet.Lib.Dispatch
import Easynet.Lib.Machine
import Easynet.Proxy
/-!
# IcmpProxy — the ICMP sessions of the transparent proxy

`handle_inbound_icmp` receives ICMP packets from the TUN side and hands each one to the session of its key, as the UDP proxy
does.  `handle_icmp_session` forwards them on a raw socket connected to the session's outbound target, and writes what that
socket receives to the client.  A thread of its own receives from the socket; here what arrives at the socket is at once
in the channel between the two.

Every raw socket connected to a target receives a copy of each message from it (`arrive`).  A message carries the session
whose request elicited it, which the proxy does not see and which only the properties speak about.
-/
namespace Easynet

open Machine (Run)

def maxIcmpPacketSize : Nat := 9000

/-- The first value of `NEXT_ICMP_PROXY_IDENT`. -/
def firstIcmpProxyIdent : UInt16 := 0x4000

/-- What a socket has received: no more than its buffer holds. -/
structure IcmpReply where
  bytes : Bytes
  cause : Option Nat
  fits : bytes.length ≤ maxIcmpPacketSize
  deriving DecidableEq

/-- The ICMP message, with or without an IPv4 header around it. -/
def IcmpReply.message (reply : IcmpReply) : Bytes := (replyParts reply.bytes).2

structure IcmpSocket where
  outbound : Ipv4Addr
  proxyIdent : UInt16
  replies : List IcmpReply
  /-- The receiving thread has not ended. -/
  receiving : Bool
  deriving DecidableEq

/-- How the loop of a session ended: a channel closed, idle, an error of one of its sockets, or a packet that could not be
parsed or rewritten. -/
inductive IcmpEnd
  | closed
  | timeout
  | socket
  | invalid (err : String)
  deriving DecidableEq, Repr

inductive IcmpPhase
  | starting
  | opening (outbound : Ipv4Addr)
  | relay (socket : IcmpSocket)
  | writing (socket : IcmpSocket) (packet : Bytes)
  | leaving (result : IcmpEnd)
  | removed (result : IcmpEnd)
  /-- With no result, if the session returned before it was counted. -/
  | gone (result : Option IcmpEnd)
  deriving DecidableEq

namespace IcmpPhase

def stage : IcmpPhase → Dispatch.Stage
  | .removed _ => .removed
  | .gone _    => .gone
  | _          => .running

/-- The socket of a session that is in its loop. -/
def socket : IcmpPhase → Option IcmpSocket
  | .relay socket | .writing socket _ => some socket
  | _                                 => none

def result : IcmpPhase → Option IcmpEnd
  | .leaving result | .removed result => some result
  | .gone result                      => result
  | _                                 => none

def left : IcmpPhase → Bool
  | .leaving _ | .removed _ | .gone _ => true
  | _                                 => false

def setSocket (f : IcmpSocket → IcmpSocket) : IcmpPhase → IcmpPhase
  | .relay socket          => .relay (f socket)
  | .writing socket packet => .writing (f socket) packet
  | phase                  => phase

@[simp] theorem result_setSocket (f : IcmpSocket → IcmpSocket) (phase : IcmpPhase) :
    (phase.setSocket f).result = phase.result := by
  cases phase <;> rfl

@[simp] theorem left_setSocket (f : IcmpSocket → IcmpSocket) (phase : IcmpPhase) :
    (phase.setSocket f).left = phase.left := by
  cases phase <;> rfl

@[simp] theorem socket_setSocket (f : IcmpSocket → IcmpSocket) (phase : IcmpPhase) :
    (phase.setSocket f).socket = phase.socket.map f := by
  cases phase <;> rfl

@[simp] theorem stage_setSocket (f : IcmpSocket → IcmpSocket) (phase : IcmpPhase) :
    (phase.setSocket f).stage = phase.stage := by
  cases phase <;> rfl

theorem stage_of_socket {phase : IcmpPhase} {socket : IcmpSocket} (h : phase.socket = some socket) :
    phase.stage = .running := by
  cases phase with
  | relay | writing => rfl
  | _ => cases h

end IcmpPhase

abbrev IcmpWorker := Dispatch.Worker IcmpSessionKey Bytes IcmpPhase

def IcmpWorker.to (w : IcmpWorker) (phase : IcmpPhase) : IcmpWorker := { w with task := phase }

structure IcmpProxy extends Dispatch.State IcmpSessionKey Bytes IcmpPhase where
  activeIcmp : Nat
  nextIcmpProxyIdent : UInt16

inductive IcmpInboundAct
  | recvFailed
  | recv (packet : Bytes)
  | lookUp
  | send
  | remove
  deriving DecidableEq, Repr

inductive IcmpSessionAct
  | start
  | opened (ok : Bool)
  | request (ok : Bool)
  | requestsClosed
  | recvFailed
  | reply
  | repliesClosed
  | written (ok : Bool)
  | timeout
  | remove
  | finish
  deriving DecidableEq, Repr

inductive IcmpAct
  | inbound (act : IcmpInboundAct)
  | session (i : Nat) (act : IcmpSessionAct)
  | arrive (source : Ipv4Addr) (bytes : Bytes) (cause : Option Nat)
  deriving DecidableEq, Repr

/-- The arm of the loop that forwards a request. -/
def forwardRequest (w : IcmpWorker) (socket : IcmpSocket) (packet : Bytes) (ok : Bool) : IcmpPhase :=
  match forwardIcmpRequest packet socket.proxyIdent with
  | .ok _      => if ok then w.task else .leaving .socket
  | .error err => .leaving (.invalid err)

/-- The arm of the loop that takes a reply, up to the write: `none` is a panic. -/
def buildReply (w : IcmpWorker) (socket : IcmpSocket) (reply : IcmpReply) : Option IcmpPhase :=
  (buildIcmpReplyPacket w.key.client w.key.target reply.bytes w.key.identifier socket.proxyIdent).map (fun
    | .ok packet => .writing socket packet
    | .error err => .leaving (.invalid err))

/-- A step of `handle_icmp_session`, as far as the session goes: `senders` says whether a sender of its channel is left, and
`ident` is the identifier that the next session takes. -/
def icmpSessionStep (upstream : UpstreamServer) (senders : Bool) (ident : UInt16) (w : IcmpWorker) (act : IcmpSessionAct) :
    Option IcmpWorker :=
  match w.task, act with
  | .starting, .start =>
    match upstream.translateIpv4 w.key.target with
    | .ok outbound => some (w.to (.opening outbound))
    -- the early return: the key stays in the table
    | .error _     => some (w.to (.gone none))
  | .opening outbound, .opened ok =>
    some (w.to (if ok then .relay ⟨outbound, ident, [], true⟩ else .leaving .socket))
  | .relay socket, .request ok =>
    match w.queue with
    | packet :: queue => some { w.to (forwardRequest w socket packet ok) with queue := queue }
    | []              => none
  | .relay _, .requestsClosed => if w.queue = [] ∧ senders = false then some (w.to (.leaving .closed)) else none
  | .relay socket, .reply =>
    match socket.replies with
    | reply :: replies => (buildReply w { socket with replies := replies } reply).map w.to
    | []               => none
  | .relay socket, .repliesClosed =>
    if socket.replies = [] ∧ socket.receiving = false then some (w.to (.leaving .closed)) else none
  | .relay _, .timeout => some (w.to (.leaving .timeout))
  | .writing socket _, .written ok => some (w.to (if ok then .relay socket else .leaving .socket))
  | .relay _, .recvFailed | .writing _ _, .recvFailed =>
    some (w.to (w.task.setSocket (fun socket => { socket with receiving := false })))
  | .leaving result, .remove => some (w.to (.removed result))
  | .removed result, .finish => some (w.to (.gone (some result)))
  | _, _ => none

/-- A message from `source` reaches the socket of a session. -/
def IcmpSocket.receive (source : Ipv4Addr) (bytes : Bytes) (cause : Option Nat) (socket : IcmpSocket) : IcmpSocket :=
  if socket.outbound = source ∧ socket.receiving = true then
    { socket with
      replies := socket.replies ++
        [⟨bytes.take maxIcmpPacketSize, cause, by rw [List.length_take]; exact Nat.min_le_left _ _⟩] }
  else socket

def IcmpWorker.receive (source : Ipv4Addr) (bytes : Bytes) (cause : Option Nat) (w : IcmpWorker) : IcmpWorker :=
  w.to (w.task.setSocket (IcmpSocket.receive source bytes cause))

namespace IcmpProxy

def init : IcmpProxy := ⟨.init, 0, firstIcmpProxyIdent⟩

/-- A step of `handle_inbound_icmp`. -/
def inboundStep (config : ProxyConfig) (s : IcmpProxy) :
    IcmpInboundAct → Option (Dispatch.State IcmpSessionKey Bytes IcmpPhase)
  | .recvFailed => if s.inbound = .receiving then some s.toState else none
  | .recv packet =>
    let packet := packet.take maxIcmpPacketSize
    if s.inbound = .receiving then
      match parseInboundIcmpPacket packet with
      | .error _    => some s.toState
      | .ok inbound =>
        if config.filters.isAllowed (.v4 inbound.client) (.v4 inbound.target) then s.receive inbound.key packet
        else some s.toState
    else none
  | .lookUp => s.lookUp (fun _ => .starting)
  | .send => s.send IcmpPhase.stage
  | .remove => s.forget

/-- What a step of a session does to the counter: the early return comes before the increment. -/
def counted (upstream : UpstreamServer) (w : IcmpWorker) (act : IcmpSessionAct) (activeIcmp : Nat) : Nat :=
  match w.task, act with
  | .starting, .start =>
    match upstream.translateIpv4 w.key.target with
    | .ok _    => activeIcmp + 1
    | .error _ => activeIcmp
  -- `Ok(())`
  | .removed .closed, .finish      => activeIcmp - 1
  | .removed .timeout, .finish     => activeIcmp - 1
  -- `Err(err)`
  | .removed .socket, .finish      => activeIcmp - 1
  | .removed (.invalid _), .finish => activeIcmp - 1
  | _, _                           => activeIcmp

/-- `next_icmp_proxy_ident`, which wraps. -/
def advanced (act : IcmpSessionAct) (nextIcmpProxyIdent : UInt16) : UInt16 :=
  if act = .opened true then nextIcmpProxyIdent + 1 else nextIcmpProxyIdent

def step (config : ProxyConfig) (s : IcmpProxy) : IcmpAct → Option IcmpProxy
  | .inbound act => (s.inboundStep config act).map (fun t => { s with toState := t })
  | .session i act =>
    s.workers[i]?.bind (fun w =>
      (icmpSessionStep config.upstream (s.hasSender i) s.nextIcmpProxyIdent w act).map (fun w' =>
        ⟨(s.removeIf (act == .remove) w.key).put i w', counted config.upstream w act s.activeIcmp,
          advanced act s.nextIcmpProxyIdent⟩))
  | .arrive source bytes cause => some { s with workers := s.workers.map (IcmpWorker.receive source bytes cause) }

end IcmpProxy

/-! ## What a step can do -/

/-- **The ways a session moves.** -/
inductive IcmpMove (upstream : UpstreamServer) (senders : Bool) (ident : UInt16) (w : IcmpWorker) :
    IcmpSessionAct → IcmpWorker → Prop
  | start {outbound : Ipv4Addr} (hp : w.task = .starting) (ht : upstream.translateIpv4 w.key.target = .ok outbound) :
      IcmpMove upstream senders ident w .start (w.to (.opening outbound))
  | returned {addr : IpAddr} (hp : w.task = .starting) (ht : upstream.translateIpv4 w.key.target = .error addr) :
      IcmpMove upstream senders ident w .start (w.to (.gone none))
  | opened {outbound : Ipv4Addr} (hp : w.task = .opening outbound) :
      IcmpMove upstream senders ident w (.opened true) (w.to (.relay ⟨outbound, ident, [], true⟩))
  | openFailed {outbound : Ipv4Addr} (hp : w.task = .opening outbound) :
      IcmpMove upstream senders ident w (.opened false) (w.to (.leaving .socket))
  | forwarded {socket : IcmpSocket} {packet sent : Bytes} {queue : List Bytes} (hp : w.task = .relay socket)
      (hq : w.queue = packet :: queue) (hf : forwardIcmpRequest packet socket.proxyIdent = .ok sent) :
      IcmpMove upstream senders ident w (.request true) { w with queue := queue }
  | sendFailed {socket : IcmpSocket} {packet sent : Bytes} {queue : List Bytes} (hp : w.task = .relay socket)
      (hq : w.queue = packet :: queue) (hf : forwardIcmpRequest packet socket.proxyIdent = .ok sent) :
      IcmpMove upstream senders ident w (.request false) { w.to (.leaving .socket) with queue := queue }
  | invalidRequest {socket : IcmpSocket} {packet : Bytes} {queue : List Bytes} {err : String} {ok : Bool}
      (hp : w.task = .relay socket) (hq : w.queue = packet :: queue)
      (hf : forwardIcmpRequest packet socket.proxyIdent = .error err) :
      IcmpMove upstream senders ident w (.request ok) { w.to (.leaving (.invalid err)) with queue := queue }
  | requestsClosed {socket : IcmpSocket} (hp : w.task = .relay socket) (hq : w.queue = []) (hs : senders = false) :
      IcmpMove upstream senders ident w .requestsClosed (w.to (.leaving .closed))
  | delivered {socket : IcmpSocket} {reply : IcmpReply} {replies : List IcmpReply} {packet : Bytes}
      (hp : w.task = .relay socket) (hr : socket.replies = reply :: replies)
      (hb : buildIcmpReplyPacket w.key.client w.key.target reply.bytes w.key.identifier socket.proxyIdent
        = some (.ok packet)) :
      IcmpMove upstream senders ident w .reply (w.to (.writing { socket with replies := replies } packet))
  | invalidReply {socket : IcmpSocket} {reply : IcmpReply} {replies : List IcmpReply} {err : String}
      (hp : w.task = .relay socket) (hr : socket.replies = reply :: replies)
      (hb : buildIcmpReplyPacket w.key.client w.key.target reply.bytes w.key.identifier socket.proxyIdent
        = some (.error err)) :
      IcmpMove upstream senders ident w .reply (w.to (.leaving (.invalid err)))
  | repliesClosed {socket : IcmpSocket} (hp : w.task = .relay socket) (hr : socket.replies = [])
      (hrecv : socket.receiving = false) : IcmpMove upstream senders ident w .repliesClosed (w.to (.leaving .closed))
  | timeout {socket : IcmpSocket} (hp : w.task = .relay socket) :
      IcmpMove upstream senders ident w .timeout (w.to (.leaving .timeout))
  | written {socket : IcmpSocket} {packet : Bytes} (hp : w.task = .writing socket packet) :
      IcmpMove upstream senders ident w (.written true) (w.to (.relay socket))
  | writeFailed {socket : IcmpSocket} {packet : Bytes} (hp : w.task = .writing socket packet) :
      IcmpMove upstream senders ident w (.written false) (w.to (.leaving .socket))
  | recvFailed {socket : IcmpSocket} (hp : w.task.socket = some socket) :
      IcmpMove upstream senders ident w .recvFailed
        (w.to (w.task.setSocket (fun socket => { socket with receiving := false })))
  | remove {result : IcmpEnd} (hp : w.task = .leaving result) :
      IcmpMove upstream senders ident w .remove (w.to (.removed result))
  | finish {result : IcmpEnd} (hp : w.task = .removed result) :
      IcmpMove upstream senders ident w .finish (w.to (.gone (some result)))

theorem icmpSessionStep_spec {upstream : UpstreamServer} {senders : Bool} {ident : UInt16} {w w' : IcmpWorker}
    {act : IcmpSessionAct} (h : icmpSessionStep upstream senders ident w act = some w') :
    IcmpMove upstream senders ident w act w' := by
  unfold icmpSessionStep at h
  split at h
  case h_1 hp =>
    split at h
    · cases h; exact .start hp ‹_›
    · cases h; exact .returned hp ‹_›
  case h_2 ok hp =>
    cases h
    cases ok
    · exact .openFailed hp
    · exact .opened hp
  case h_3 socket ok hp =>
    split at h
    · rename_i packet queue hq
      cases h
      unfold forwardRequest
      split
      · rename_i sent hf
        cases ok
        · exact .sendFailed hp hq hf
        · exact .forwarded hp hq hf
      · exact .invalidRequest hp hq ‹_›
    · cases h
  case h_4 hp =>
    split at h
    · rename_i hc
      cases h
      exact .requestsClosed hp hc.1 hc.2
    · cases h
  case h_5 hp =>
    split at h
    · rename_i reply replies hr
      obtain ⟨phase, hphase, rfl⟩ := Option.map_eq_some_iff.1 h
      obtain ⟨result, hb, rfl⟩ := Option.map_eq_some_iff.1 hphase
      cases result with
      | ok packet => exact .delivered hp hr hb
      | error err => exact .invalidReply hp hr hb
    · cases h
  case h_6 hp =>
    split at h
    · rename_i hc
      cases h
      exact .repliesClosed hp hc.1 hc.2
    · cases h
  case h_7 hp => cases h; exact .timeout hp
  case h_8 ok hp =>
    cases h
    cases ok
    · exact .writeFailed hp
    · exact .written hp
  case h_9 hp => cases h; exact .recvFailed (by rw [hp]; rfl)
  case h_10 hp => cases h; exact .recvFailed (by rw [hp]; rfl)
  case h_11 hp => cases h; exact .remove hp
  case h_12 hp => cases h; exact .finish hp
  case h_13 => cases h

theorem IcmpMove.key {upstream : UpstreamServer} {senders : Bool} {ident : UInt16} {w w' : IcmpWorker}
    {act : IcmpSessionAct} (h : IcmpMove upstream senders ident w act w') : w'.key = w.key := by
  cases h <;> rfl

/-- A session removes its key and then drops its receiver, or returns early and leaves its key; otherwise it stays at its
stage. -/
theorem IcmpMove.stage {upstream : UpstreamServer} {senders : Bool} {ident : UInt16} {w w' : IcmpWorker}
    {act : IcmpSessionAct} (h : IcmpMove upstream senders ident w act w') :
    (act = .remove ∧ w.task.stage = .running ∧ w'.task.stage = .removed) ∨
      (act = .finish ∧ w.task.stage = .removed ∧ w'.task.stage = .gone) ∨
      (act = .start ∧ (∃ addr, upstream.translateIpv4 w.key.target = .error addr) ∧ w.task.stage = .running ∧
        w'.task.stage = .gone) ∨
      (act ≠ .remove ∧ w.task.stage = .running ∧ w'.task.stage = .running) := by
  cases h with
  | remove hp => exact .inl ⟨rfl, by rw [hp]; rfl, rfl⟩
  | finish hp => exact .inr (.inl ⟨rfl, by rw [hp]; rfl, rfl⟩)
  | returned hp ht => exact .inr (.inr (.inl ⟨rfl, ⟨_, ht⟩, by rw [hp]; rfl, rfl⟩))
  | recvFailed hp =>
    have hrun := IcmpPhase.stage_of_socket hp
    exact .inr (.inr (.inr ⟨nofun, hrun, (IcmpPhase.stage_setSocket _ _).trans hrun⟩))
  | forwarded hp => exact .inr (.inr (.inr ⟨nofun, by rw [hp]; rfl, by rw [hp]; rfl⟩))
  | start hp | opened hp | openFailed hp | sendFailed hp | invalidRequest hp | requestsClosed hp | delivered hp
  | invalidReply hp | repliesClosed hp | timeout hp | written hp | writeFailed hp =>
    exact .inr (.inr (.inr ⟨nofun, by rw [hp]; rfl, rfl⟩))

namespace IcmpProxy

variable {config : ProxyConfig} {s s' : IcmpProxy}

theorem step_session {i : Nat} {act : IcmpSessionAct} (h : step config s (.session i act) = some s') :
    ∃ w w', s.workers[i]? = some w ∧ IcmpMove config.upstream (s.hasSender i) s.nextIcmpProxyIdent w act w' ∧
      s' = ⟨(s.removeIf (act == .remove) w.key).put i w', counted config.upstream w act s.activeIcmp,
        advanced act s.nextIcmpProxyIdent⟩ := by
  obtain ⟨w, hw, h⟩ := Option.bind_eq_some_iff.1 h
  obtain ⟨w', hw', rfl⟩ := Option.map_eq_some_iff.1 h
  exact ⟨w, w', hw, icmpSessionStep_spec hw', rfl⟩

theorem step_inbound {act : IcmpInboundAct} (h : step config s (.inbound act) = some s') :
    ∃ t, s.inboundStep config act = some t ∧ s' = { s with toState := t } := by
  obtain ⟨t, ht, rfl⟩ := Option.map_eq_some_iff.1 h
  exact ⟨t, ht, rfl⟩

theorem inboundStep_recvFailed {t : Dispatch.State IcmpSessionKey Bytes IcmpPhase}
    (h : s.inboundStep config .recvFailed = some t) : t = s.toState := by
  simp only [inboundStep] at h
  split at h
  · exact (Option.some.inj h).symm
  · cases h

/-- A packet that can be parsed and passes the filters is received; otherwise nothing happens. -/
theorem inboundStep_recv {packet : Bytes} {t : Dispatch.State IcmpSessionKey Bytes IcmpPhase}
    (h : s.inboundStep config (.recv packet) = some t) :
    t = s.toState ∨ ∃ inbound, parseInboundIcmpPacket (packet.take maxIcmpPacketSize) = .ok inbound ∧
      s.receive inbound.key (packet.take maxIcmpPacketSize) = some t := by
  simp only [inboundStep] at h
  split at h
  case isFalse => cases h
  case isTrue =>
    split at h
    · exact .inl (Option.some.inj h).symm
    · split at h
      · exact .inr ⟨_, ‹_›, h⟩
      · exact .inl (Option.some.inj h).symm

theorem inboundStep_extends {act : IcmpInboundAct} {t : Dispatch.State IcmpSessionKey Bytes IcmpPhase}
    (h : s.inboundStep config act = some t) : Dispatch.State.Extends (fun _ => .starting) s.toState t := by
  cases act with
  | recvFailed => exact .of_eq (by rw [inboundStep_recvFailed h])
  | recv packet =>
    rcases inboundStep_recv h with rfl | ⟨inbound, -, hreceive⟩
    · exact .of_eq rfl
    · obtain ⟨-, rfl⟩ := Dispatch.State.receive_eq_some hreceive
      exact .of_eq rfl
  | lookUp => exact Dispatch.State.lookUp_extends h
  | send => exact Dispatch.State.send_extends h
  | remove =>
    obtain ⟨key, -, rfl⟩ := Dispatch.State.forget_eq_some h
    exact .of_eq rfl

/-- **One session's part in a step.** -/
inductive Part (config : ProxyConfig) (s : IcmpProxy) (i : Nat) : IcmpAct → IcmpWorker → Prop
  | kept {a : IcmpAct} {w w' : IcmpWorker} (hw : s.workers[i]? = some w) (htask : w'.task = w.task)
      (ha : ∀ act, a ≠ .session i act) : Part config s i a w'
  | spawned {a : IcmpAct} {w : IcmpWorker} (hw : s.workers[i]? = none) (htask : w.task = .starting) : Part config s i a w
  | received {source : Ipv4Addr} {bytes : Bytes} {cause : Option Nat} {w : IcmpWorker} (hw : s.workers[i]? = some w) :
      Part config s i (.arrive source bytes cause) (w.receive source bytes cause)
  | moved {w w' : IcmpWorker} {act : IcmpSessionAct} (hw : s.workers[i]? = some w)
      (hm : IcmpMove config.upstream (s.hasSender i) s.nextIcmpProxyIdent w act w') : Part config s i (.session i act) w'

theorem step_part {a : IcmpAct} (hs : step config s a = some s') {i : Nat} {w' : IcmpWorker}
    (hw' : s'.workers[i]? = some w') : Part config s i a w' := by
  cases a with
  | session j act =>
    obtain ⟨w, v, hw, hmove, rfl⟩ := step_session hs
    rw [Dispatch.State.getElem?_put hw] at hw'
    split at hw'
    · subst i
      cases hw'
      exact .moved hw hmove
    · rename_i hij
      exact .kept hw' rfl (fun _ he => hij (IcmpAct.session.inj he).1.symm)
  | arrive source bytes cause =>
    cases hs
    rw [List.getElem?_map] at hw'
    obtain ⟨w, hw, rfl⟩ := Option.map_eq_some_iff.1 hw'
    exact .received hw
  | inbound act =>
    obtain ⟨t, ht, rfl⟩ := step_inbound hs
    rcases (inboundStep_extends ht).workers i w' hw' with ⟨w, hw, -, htask⟩ | ⟨hw, htask⟩
    · exact .kept hw htask nofun
    · exact .spawned hw htask

/-- No session disappears. -/
theorem step_some {a : IcmpAct} (hs : step config s a = some s') {i : Nat} {w : IcmpWorker} (hw : s.workers[i]? = some w) :
    ∃ w', s'.workers[i]? = some w' := by
  have hlt := (List.getElem?_eq_some_iff.1 hw).1
  refine ⟨_, List.getElem?_eq_getElem (Nat.lt_of_lt_of_le hlt ?_)⟩
  cases a with
  | session j act =>
    obtain ⟨v, v', -, -, rfl⟩ := step_session hs
    simp [Dispatch.State.put]
  | arrive source bytes cause =>
    cases hs
    simp
  | inbound act =>
    obtain ⟨t, ht, rfl⟩ := step_inbound hs
    exact (inboundStep_extends ht).length

/-- **The proxy runs the dispatching protocol.** -/
theorem step_protocol {a : IcmpAct} (h : step config s a = some s') :
    (s.protocol IcmpPhase.stage).Step (s'.protocol IcmpPhase.stage) ∨
      s'.protocol IcmpPhase.stage = s.protocol IcmpPhase.stage := by
  cases a with
  | inbound act =>
    obtain ⟨t, ht, rfl⟩ := step_inbound h
    cases act with
    | recvFailed => exact .inr (by rw [inboundStep_recvFailed ht])
    | recv packet =>
      rcases inboundStep_recv ht with rfl | ⟨inbound, -, hreceive⟩
      · exact .inr rfl
      · obtain ⟨hin, rfl⟩ := Dispatch.State.receive_eq_some hreceive
        exact .inl (.receive hin)
    | lookUp => exact .inl (Dispatch.State.lookUp_step (fun _ => rfl) ht)
    | send => exact .inl (Dispatch.State.send_step ht)
    | remove => exact .inl (Dispatch.State.forget_step ht)
  | session i act =>
    obtain ⟨w, w', hw, hmove, rfl⟩ := step_session h
    rcases hmove.stage with ⟨rfl, hrun, hrem⟩ | ⟨rfl, hrem, hgone⟩ | ⟨rfl, -, hrun, hgone⟩ | ⟨hact, hrun, hrun'⟩
    · exact .inl (Dispatch.State.leave_step hw hrun hmove.key hrem)
    · exact .inl (Dispatch.State.finish_step hw hrem hmove.key hgone)
    · exact .inl (Dispatch.State.abandon_step hw hrun hmove.key hgone)
    · rw [beq_false_of_ne hact]
      exact .inr (Dispatch.State.protocol_put_eq hw hmove.key (hrun'.trans hrun.symm))
  | arrive source bytes cause =>
    cases h
    refine .inr (congrArg (Dispatch.Protocol.mk s.table s.inbound) ?_)
    rw [List.map_map]
    exact List.map_congr_left (fun w _ => congrArg (Prod.mk w.key) (IcmpPhase.stage_setSocket _ _))

theorem step_inv {a : IcmpAct} (hinv : (s.protocol IcmpPhase.stage).Inv) (h : step config s a = some s') :
    (s'.protocol IcmpPhase.stage).Inv := by
  rcases step_protocol h with hp | hp
  · exact hinv.step hp
  · rwa [hp]

end IcmpProxy

abbrev IcmpRun (config : ProxyConfig) (h : List (IcmpProxy × IcmpAct)) (s : IcmpProxy) : Prop :=
  Run (IcmpProxy.step config) IcmpProxy.init h s

theorem IcmpRun.inv {config : ProxyConfig} {h : List (IcmpProxy × IcmpAct)} {s : IcmpProxy} (hr : IcmpRun config h s) :
    (s.protocol IcmpPhase.stage).Inv :=
  hr.invariant (fun s => (s.protocol IcmpPhase.stage).Inv) Dispatch.Protocol.inv_init
    (fun _ _ _ hinv hs => IcmpProxy.step_inv hinv hs)

end Easynet
