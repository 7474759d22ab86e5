import Easynet.Lib.Machine
import Easynet.Proxy
/-!
# TcpProxy — the TCP connections of the transparent proxy

`handle_inbound_stream` accepts connections from the TUN side and spawns a task for each one that passes the filters.  The
task connects to the outbound address and copies between the two streams until one of them ends or fails.  It has no table
and no channel: the tasks share the counter of active connections only.  A task is cut at its awaits and around its steps
at the counter.
-/
namespace Easynet

/-- How a connection ended, each with a decrement of its own in the source. -/
inductive TcpEnd
  | finished
  | relayFailed
  | connectFailed
  deriving DecidableEq, Repr

inductive TcpPhase
  | starting
  | connecting
  | relaying
  | ended (result : TcpEnd)
  | gone (result : TcpEnd)
  deriving DecidableEq, Repr

structure TcpTask where
  peerAddr : SocketAddr
  localAddr : SocketAddr
  outboundAddr : SocketAddr
  phase : TcpPhase
  deriving DecidableEq, Repr

structure TcpProxy where
  tasks : List TcpTask
  activeTcp : Nat
  deriving DecidableEq, Repr

inductive TcpTaskAct
  | start
  | connected (ok : Bool)
  | relayed (ok : Bool)
  | finish
  deriving DecidableEq, Repr

inductive TcpAct
  | accept (peerAddr localAddr : SocketAddr)
  | task (i : Nat) (act : TcpTaskAct)
  deriving DecidableEq, Repr

def TcpTask.new (upstream : UpstreamServer) (peerAddr localAddr : SocketAddr) : TcpTask :=
  ⟨peerAddr, localAddr, upstream.translateSocket localAddr, .starting⟩

def TcpTask.to (task : TcpTask) (phase : TcpPhase) : TcpTask := { task with phase := phase }

def tcpTaskStep (task : TcpTask) (act : TcpTaskAct) : Option TcpTask :=
  match task.phase, act with
  | .starting, .start          => some (task.to .connecting)
  | .connecting, .connected ok => some (task.to (if ok then .relaying else .ended .connectFailed))
  | .relaying, .relayed ok     => some (task.to (.ended (if ok then .finished else .relayFailed)))
  | .ended result, .finish     => some (task.to (.gone result))
  | _, _                       => none

namespace TcpProxy

def init : TcpProxy := ⟨[], 0⟩

/-- What a step of a task does to the counter. -/
def counted (task : TcpTask) (act : TcpTaskAct) (activeTcp : Nat) : Nat :=
  match task.phase, act with
  | .starting, .start              => activeTcp + 1
  | .ended .finished, .finish      => activeTcp - 1
  | .ended .relayFailed, .finish   => activeTcp - 1
  | .ended .connectFailed, .finish => activeTcp - 1
  | _, _                           => activeTcp

def step (config : ProxyConfig) (s : TcpProxy) : TcpAct → Option TcpProxy
  | .accept peerAddr localAddr =>
    some (if config.filters.isAllowed peerAddr.ip localAddr.ip then
      { s with tasks := s.tasks ++ [.new config.upstream peerAddr localAddr] } else s)
  | .task i act =>
    s.tasks[i]?.bind (fun task => (tcpTaskStep task act).map (fun task' =>
      ⟨s.tasks.set i task', counted task act s.activeTcp⟩))

end TcpProxy

/-! ## What a step can do -/

/-- **The ways a task moves.** -/
inductive TcpMove (task : TcpTask) : TcpTaskAct → TcpTask → Prop
  | start (hp : task.phase = .starting) : TcpMove task .start (task.to .connecting)
  | connected (hp : task.phase = .connecting) : TcpMove task (.connected true) (task.to .relaying)
  | connectFailed (hp : task.phase = .connecting) : TcpMove task (.connected false) (task.to (.ended .connectFailed))
  | relayed (hp : task.phase = .relaying) : TcpMove task (.relayed true) (task.to (.ended .finished))
  | relayFailed (hp : task.phase = .relaying) : TcpMove task (.relayed false) (task.to (.ended .relayFailed))
  | finish {result : TcpEnd} (hp : task.phase = .ended result) : TcpMove task .finish (task.to (.gone result))

theorem tcpTaskStep_spec {task task' : TcpTask} {act : TcpTaskAct} (h : tcpTaskStep task act = some task') :
    TcpMove task act task' := by
  unfold tcpTaskStep at h
  split at h
  case h_1 hp => cases h; exact .start hp
  case h_2 ok hp =>
    cases h
    cases ok
    · exact .connectFailed hp
    · exact .connected hp
  case h_3 ok hp =>
    cases h
    cases ok
    · exact .relayFailed hp
    · exact .relayed hp
  case h_4 hp => cases h; exact .finish hp
  case h_5 => cases h

namespace TcpProxy

variable {config : ProxyConfig} {s s' : TcpProxy}

theorem step_task {i : Nat} {act : TcpTaskAct} (h : step config s (.task i act) = some s') :
    ∃ task task', s.tasks[i]? = some task ∧ TcpMove task act task' ∧
      s' = ⟨s.tasks.set i task', counted task act s.activeTcp⟩ := by
  obtain ⟨task, ht, h⟩ := Option.bind_eq_some_iff.1 h
  obtain ⟨task', ht', rfl⟩ := Option.map_eq_some_iff.1 h
  exact ⟨task, task', ht, tcpTaskStep_spec ht', rfl⟩

theorem step_accept {peerAddr localAddr : SocketAddr} (h : step config s (.accept peerAddr localAddr) = some s') :
    s' = s ∨ s' = { s with tasks := s.tasks ++ [.new config.upstream peerAddr localAddr] } := by
  cases h
  split
  · exact .inr rfl
  · exact .inl rfl

end TcpProxy

end Easynet
