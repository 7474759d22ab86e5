import Easynet.Lib.Dispatch
import Easynet.Lib.Machine
import Easynet.Message
import Easynet.Proxy
/-!
# UdpProxy — the UDP sessions of the transparent proxy

`handle_inbound_datagram` receives datagrams from the TUN side and hands each one to the session of its client and target,
which `handle_udp_session` runs: it sends them on its own outbound socket and sends back what that socket receives.  The
tasks share the table of sessions and the counter, and a session's channel is unbounded.

A task is cut at its awaits and where it takes the lock; nothing is awaited while the lock is held.  The network, the clock
and the scheduler are the actions, so a session may time out at any moment at which it waits.
-/
namespace Easynet

open Machine (Run)

def maxUdpDatagramSize : Nat := 9000

/-- The client and the target. -/
abbrev UdpKey := SocketAddr × SocketAddr

/-- How the loop of a session ended: all senders dropped, idle, an error of the outbound socket (or in making it), or an
error of the TUN side. -/
inductive UdpEnd
  | closed
  | timeout
  | outbound
  | tun
  deriving DecidableEq, Repr

inductive UdpPhase
  | starting
  | opening
  | relay
  | sending (data : Bytes)
  | replying (data : Bytes)
  | leaving (result : UdpEnd)
  | removed (result : UdpEnd)
  | gone (result : UdpEnd)
  deriving DecidableEq, Repr

namespace UdpPhase

def stage : UdpPhase → Dispatch.Stage
  | .removed _ => .removed
  | .gone _    => .gone
  | _          => .running

/-- The result of the loop, once it has ended. -/
def result : UdpPhase → Option UdpEnd
  | .leaving result | .removed result | .gone result => some result
  | _                                                => none

end UdpPhase

structure UdpSession where
  outbound : SocketAddr
  phase : UdpPhase
  deriving DecidableEq, Repr

abbrev UdpWorker := Dispatch.Worker UdpKey Bytes UdpSession

structure UdpProxy extends Dispatch.State UdpKey Bytes UdpSession where
  activeUdp : Nat

inductive UdpInboundAct
  | recvFailed
  | recv (data : Bytes) (target client : SocketAddr)
  | lookUp
  | send
  | remove
  deriving DecidableEq, Repr

/-- The outcomes of `send_from` within its timeout. -/
inductive UdpReplied
  | ok
  | failed
  | timedOut
  deriving DecidableEq, Repr

inductive UdpSessionAct
  | start
  | opened (ok : Bool)
  | recv
  | closed
  | sent (ok : Bool)
  | reply (data : Option Bytes)
  | replied (result : UdpReplied)
  | timeout
  | remove
  | finish
  deriving DecidableEq, Repr

inductive UdpAct
  | inbound (act : UdpInboundAct)
  | session (i : Nat) (act : UdpSessionAct)
  deriving DecidableEq, Repr

def UdpSession.stage (session : UdpSession) : Dispatch.Stage := session.phase.stage

/-- The session that is spawned for a key. -/
def UdpSession.new (upstream : UpstreamServer) (key : UdpKey) : UdpSession := ⟨upstream.translateSocket key.2, .starting⟩

def UdpWorker.to (w : UdpWorker) (phase : UdpPhase) : UdpWorker := { w with task := { w.task with phase := phase } }

/-- A step of `handle_udp_session`, as far as the session goes: `senders` says whether a sender of its channel is left. -/
def udpSessionStep (senders : Bool) (w : UdpWorker) (act : UdpSessionAct) : Option UdpWorker :=
  match w.task.phase, act with
  | .starting, .start              => some (w.to .opening)
  | .opening, .opened ok           => some (w.to (if ok then .relay else .leaving .outbound))
  | .relay, .recv                  =>
    match w.queue with
    | data :: queue => some { w.to (.sending data) with queue := queue }
    | []            => none
  | .relay, .closed                => if w.queue = [] ∧ senders = false then some (w.to (.leaving .closed)) else none
  | .relay, .reply (some data)     => some (w.to (.replying (data.take maxUdpDatagramSize)))
  | .relay, .reply none            => some (w.to (.leaving .outbound))
  | .relay, .timeout               => some (w.to (.leaving .timeout))
  | .sending _, .sent ok           => some (w.to (if ok then .relay else .leaving .outbound))
  | .replying _, .replied .ok      => some (w.to .relay)
  | .replying _, .replied .failed  => some (w.to (.leaving .tun))
  -- the reply is dropped and the loop goes on
  | .replying _, .replied .timedOut => some (w.to .relay)
  | .leaving result, .remove       => some (w.to (.removed result))
  | .removed result, .finish       => some (w.to (.gone result))
  | _, _                           => none

namespace UdpProxy

def init : UdpProxy := ⟨.init, 0⟩

/-- A step of `handle_inbound_datagram`. -/
def inboundStep (config : ProxyConfig) (s : UdpProxy) : UdpInboundAct → Option (Dispatch.State UdpKey Bytes UdpSession)
  | .recvFailed => if s.inbound = .receiving then some s.toState else none
  | .recv data target client =>
    if s.inbound = .receiving ∧ config.filters.isAllowed client.ip target.ip = false then some s.toState
    else s.receive (client, target) (data.take maxUdpDatagramSize)
  | .lookUp => s.lookUp (UdpSession.new config.upstream)
  | .send => s.send UdpSession.stage
  | .remove => s.forget

/-- What a step of a session does to the counter. -/
def counted (w : UdpWorker) (act : UdpSessionAct) (activeUdp : Nat) : Nat :=
  match w.task.phase, act with
  | .starting, .start           => activeUdp + 1
  -- `Ok(())`
  | .removed .closed, .finish   => activeUdp - 1
  | .removed .timeout, .finish  => activeUdp - 1
  -- `Err(err)`
  | .removed .outbound, .finish => activeUdp - 1
  | .removed .tun, .finish      => activeUdp - 1
  | _, _                        => activeUdp

def step (config : ProxyConfig) (s : UdpProxy) : UdpAct → Option UdpProxy
  | .inbound act => (s.inboundStep config act).map (fun t => { s with toState := t })
  | .session i act =>
    s.workers[i]?.bind (fun w =>
      (udpSessionStep (s.hasSender i) w act).map (fun w' =>
        ⟨(s.removeIf (act == .remove) w.key).put i w', counted w act s.activeUdp⟩))

end UdpProxy

/-! ## What a step can do -/

/-- **The ways a session moves.** -/
inductive UdpMove (senders : Bool) (w : UdpWorker) : UdpSessionAct → UdpWorker → Prop
  | start (hp : w.task.phase = .starting) : UdpMove senders w .start (w.to .opening)
  | opened (hp : w.task.phase = .opening) : UdpMove senders w (.opened true) (w.to .relay)
  | openFailed (hp : w.task.phase = .opening) : UdpMove senders w (.opened false) (w.to (.leaving .outbound))
  | recv {data : Bytes} {queue : List Bytes} (hp : w.task.phase = .relay) (hq : w.queue = data :: queue) :
      UdpMove senders w .recv { w.to (.sending data) with queue := queue }
  | closed (hp : w.task.phase = .relay) (hq : w.queue = []) (hs : senders = false) :
      UdpMove senders w .closed (w.to (.leaving .closed))
  | sent {data : Bytes} (hp : w.task.phase = .sending data) : UdpMove senders w (.sent true) (w.to .relay)
  | sendFailed {data : Bytes} (hp : w.task.phase = .sending data) :
      UdpMove senders w (.sent false) (w.to (.leaving .outbound))
  | reply {data : Bytes} (hp : w.task.phase = .relay) :
      UdpMove senders w (.reply (some data)) (w.to (.replying (data.take maxUdpDatagramSize)))
  | recvFailed (hp : w.task.phase = .relay) : UdpMove senders w (.reply none) (w.to (.leaving .outbound))
  | replied {data : Bytes} {result : UdpReplied} (hp : w.task.phase = .replying data) (hr : result ≠ .failed) :
      UdpMove senders w (.replied result) (w.to .relay)
  | replyFailed {data : Bytes} (hp : w.task.phase = .replying data) :
      UdpMove senders w (.replied .failed) (w.to (.leaving .tun))
  | timeout (hp : w.task.phase = .relay) : UdpMove senders w .timeout (w.to (.leaving .timeout))
  | remove {result : UdpEnd} (hp : w.task.phase = .leaving result) : UdpMove senders w .remove (w.to (.removed result))
  | finish {result : UdpEnd} (hp : w.task.phase = .removed result) : UdpMove senders w .finish (w.to (.gone result))

theorem udpSessionStep_spec {senders : Bool} {w w' : UdpWorker} {act : UdpSessionAct}
    (h : udpSessionStep senders w act = some w') : UdpMove senders w act w' := by
  unfold udpSessionStep at h
  split at h
  case h_1 hp => cases h; exact .start hp
  case h_2 ok hp =>
    cases h
    cases ok
    · exact .openFailed hp
    · exact .opened hp
  case h_3 hp =>
    split at h
    · rename_i data queue hq
      cases h
      exact .recv hp hq
    · cases h
  case h_4 hp =>
    split at h
    · rename_i hc
      cases h
      exact .closed hp hc.1 hc.2
    · cases h
  case h_5 hp => cases h; exact .reply hp
  case h_6 hp => cases h; exact .recvFailed hp
  case h_7 hp => cases h; exact .timeout hp
  case h_8 ok hp =>
    cases h
    cases ok
    · exact .sendFailed hp
    · exact .sent hp
  case h_9 hp => cases h; exact .replied hp nofun
  case h_10 hp => cases h; exact .replyFailed hp
  case h_11 hp => cases h; exact .replied hp nofun
  case h_12 hp => cases h; exact .remove hp
  case h_13 hp => cases h; exact .finish hp
  case h_14 => cases h

theorem UdpMove.key {senders : Bool} {w w' : UdpWorker} {act : UdpSessionAct} (h : UdpMove senders w act w') :
    w'.key = w.key := by
  cases h <;> rfl

/-- A session removes its key, and then drops its receiver; otherwise it stays at its stage. -/
theorem UdpMove.stage {senders : Bool} {w w' : UdpWorker} {act : UdpSessionAct} (h : UdpMove senders w act w') :
    (act = .remove ∧ w.task.stage = .running ∧ w'.task.stage = .removed) ∨
      (act ≠ .remove ∧ w.task.stage = .removed ∧ w'.task.stage = .gone) ∨
      (act ≠ .remove ∧ w.task.stage = .running ∧ w'.task.stage = .running) := by
  cases h with
  | remove hp => exact .inl ⟨rfl, by rw [UdpSession.stage, hp]; rfl, rfl⟩
  | finish hp => exact .inr (.inl ⟨nofun, by rw [UdpSession.stage, hp]; rfl, rfl⟩)
  | start hp | opened hp | openFailed hp | recv hp | closed hp | sent hp | sendFailed hp | reply hp | recvFailed hp
  | replied hp | replyFailed hp | timeout hp => exact .inr (.inr ⟨nofun, by rw [UdpSession.stage, hp]; rfl, rfl⟩)

namespace UdpProxy

variable {config : ProxyConfig} {s s' : UdpProxy}

theorem step_session {i : Nat} {act : UdpSessionAct} (h : step config s (.session i act) = some s') :
    ∃ w w', s.workers[i]? = some w ∧ UdpMove (s.hasSender i) w act w' ∧
      s' = ⟨(s.removeIf (act == .remove) w.key).put i w', counted w act s.activeUdp⟩ := by
  obtain ⟨w, hw, h⟩ := Option.bind_eq_some_iff.1 h
  obtain ⟨w', hw', rfl⟩ := Option.map_eq_some_iff.1 h
  exact ⟨w, w', hw, udpSessionStep_spec hw', rfl⟩

theorem step_inbound {act : UdpInboundAct} (h : step config s (.inbound act) = some s') :
    ∃ t, s.inboundStep config act = some t ∧ s' = { s with toState := t } := by
  obtain ⟨t, ht, rfl⟩ := Option.map_eq_some_iff.1 h
  exact ⟨t, ht, rfl⟩

theorem inboundStep_recvFailed {t : Dispatch.State UdpKey Bytes UdpSession}
    (h : s.inboundStep config .recvFailed = some t) : t = s.toState := by
  simp only [inboundStep] at h
  split at h
  · exact (Option.some.inj h).symm
  · cases h

/-- A datagram is received, or nothing happens. -/
theorem inboundStep_recv {data : Bytes} {target client : SocketAddr} {t : Dispatch.State UdpKey Bytes UdpSession}
    (h : s.inboundStep config (.recv data target client) = some t) :
    s.inbound = .receiving ∧ if config.filters.isAllowed client.ip target.ip
      then t = { s.toState with inbound := .looking (client, target) (data.take maxUdpDatagramSize) }
      else t = s.toState := by
  simp only [inboundStep] at h
  split at h
  · rename_i hc
    rw [if_neg (by rw [hc.2]; exact Bool.false_ne_true)]
    exact ⟨hc.1, (Option.some.inj h).symm⟩
  · rename_i hc
    obtain ⟨hin, rfl⟩ := Dispatch.State.receive_eq_some h
    rw [if_pos (by simpa [hin] using hc)]
    exact ⟨hin, rfl⟩

/-- The steps that leave the sessions as they are. -/
theorem inboundStep_workers {act : UdpInboundAct} {t : Dispatch.State UdpKey Bytes UdpSession}
    (h : s.inboundStep config act = some t) (hlook : act ≠ .lookUp) (hsend : act ≠ .send) : t.workers = s.workers := by
  cases act with
  | recvFailed => rw [inboundStep_recvFailed h]
  | recv data target client =>
    obtain ⟨-, ht⟩ := inboundStep_recv h
    split at ht <;> rw [ht]
  | lookUp => exact absurd rfl hlook
  | send => exact absurd rfl hsend
  | remove =>
    obtain ⟨key, -, rfl⟩ := Dispatch.State.forget_eq_some h
    rfl

theorem inboundStep_extends {act : UdpInboundAct} {t : Dispatch.State UdpKey Bytes UdpSession}
    (h : s.inboundStep config act = some t) : Dispatch.State.Extends (UdpSession.new config.upstream) s.toState t := by
  cases act with
  | recvFailed | recv | remove => exact .of_eq (inboundStep_workers h nofun nofun)
  | lookUp => exact Dispatch.State.lookUp_extends h
  | send => exact Dispatch.State.send_extends h

/-- **The proxy runs the dispatching protocol.** -/
theorem step_protocol {a : UdpAct} (h : step config s a = some s') :
    (s.protocol UdpSession.stage).Step (s'.protocol UdpSession.stage) ∨
      s'.protocol UdpSession.stage = s.protocol UdpSession.stage := by
  cases a with
  | inbound act =>
    obtain ⟨t, ht, rfl⟩ := step_inbound h
    cases act with
    | recvFailed => exact .inr (by rw [inboundStep_recvFailed ht])
    | recv data target client =>
      obtain ⟨hin, ht⟩ := inboundStep_recv ht
      split at ht
      · subst ht
        exact .inl (.receive hin)
      · exact .inr (by rw [ht])
    | lookUp => exact .inl (Dispatch.State.lookUp_step (fun _ => rfl) ht)
    | send => exact .inl (Dispatch.State.send_step ht)
    | remove => exact .inl (Dispatch.State.forget_step ht)
  | session i act =>
    obtain ⟨w, w', hw, hmove, rfl⟩ := step_session h
    rcases hmove.stage with ⟨rfl, hrun, hrem⟩ | ⟨hact, hrem, hgone⟩ | ⟨hact, hrun, hrun'⟩
    · exact .inl (Dispatch.State.leave_step hw hrun hmove.key hrem)
    · rw [beq_false_of_ne hact]
      exact .inl (Dispatch.State.finish_step hw hrem hmove.key hgone)
    · rw [beq_false_of_ne hact]
      exact .inr (Dispatch.State.protocol_put_eq hw hmove.key (hrun'.trans hrun.symm))

theorem step_inv {a : UdpAct} (hinv : (s.protocol UdpSession.stage).Inv) (h : step config s a = some s') :
    (s'.protocol UdpSession.stage).Inv := by
  rcases step_protocol h with hp | hp
  · exact hinv.step hp
  · rwa [hp]

end UdpProxy

abbrev UdpRun (config : ProxyConfig) (h : List (UdpProxy × UdpAct)) (s : UdpProxy) : Prop :=
  Run (UdpProxy.step config) UdpProxy.init h s

theorem UdpRun.inv {config : ProxyConfig} {h : List (UdpProxy × UdpAct)} {s : UdpProxy} (hr : UdpRun config h s) :
    (s.protocol UdpSession.stage).Inv :=
  hr.invariant (fun s => (s.protocol UdpSession.stage).Inv) Dispatch.Protocol.inv_init
    (fun _ _ _ hinv hs => UdpProxy.step_inv hinv hs)

end Easynet
