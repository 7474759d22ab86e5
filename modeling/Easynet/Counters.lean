import Easynet.IcmpProxy
import Easynet.Lib.Counter
import Easynet.TcpProxy
import Easynet.UdpProxy
/-!
# Counters — the active sessions of the transparent proxy

`run_transparent_proxy` runs the three proxies side by side, with one counter for each.  Every task increments its counter
when it starts and decrements it on whichever way it ends; an ICMP session that returns early does neither.  In any
interleaving each counter is the number of tasks between the two.

The proxies end together, when the TCP listener fails: their receiving tasks are dropped, and the sessions go on.
-/
namespace Easynet

open Machine (Run Throughout)

structure ProxyStats where
  activeTcp : Nat
  activeUdp : Nat
  activeIcmp : Nat
  deriving DecidableEq, Repr

structure TransparentProxy where
  tcp : TcpProxy
  udp : UdpProxy
  icmp : IcmpProxy
  /-- `run_transparent_proxy` is in its `select!`. -/
  running : Bool

inductive ProxyAct
  | tcp (act : TcpAct)
  | udp (act : UdpAct)
  | icmp (act : IcmpAct)
  /-- `handle_inbound_stream` returns an error. -/
  | tcpFailed
  deriving DecidableEq, Repr

/-- A step of one of the three receiving tasks. -/
def ProxyAct.receives : ProxyAct → Bool
  | .tcp (.accept _ _) | .udp (.inbound _) | .icmp (.inbound _) | .tcpFailed => true
  | _                                                                        => false

namespace TransparentProxy

def init : TransparentProxy := ⟨.init, .init, .init, true⟩

def stats (s : TransparentProxy) : ProxyStats := ⟨s.tcp.activeTcp, s.udp.activeUdp, s.icmp.activeIcmp⟩

def step (config : ProxyConfig) (s : TransparentProxy) (a : ProxyAct) : Option TransparentProxy :=
  if a.receives && !s.running then none
  else match a with
    | .tcp act   => (s.tcp.step config act).map (fun t => { s with tcp := t })
    | .udp act   => (s.udp.step config act).map (fun t => { s with udp := t })
    | .icmp act  => (s.icmp.step config act).map (fun t => { s with icmp := t })
    -- the other two receiving tasks are dropped, with the senders they hold
    | .tcpFailed => some ⟨s.tcp, { s.udp with inbound := .receiving }, { s.icmp with inbound := .receiving }, false⟩

end TransparentProxy

/-! ## Tasks between their increment and their decrement -/

def TcpTask.between (task : TcpTask) : Bool :=
  match task.phase with
  | .starting | .gone _ => false
  | _                   => true

def UdpSession.between (session : UdpSession) : Bool :=
  match session.phase with
  | .starting | .gone _ => false
  | _                   => true

def IcmpPhase.between : IcmpPhase → Bool
  | .starting | .gone _ => false
  | _                   => true

theorem TcpMove.counted {task task' : TcpTask} {act : TcpTaskAct} (h : TcpMove task act task') (n : Nat) :
    Counter.Move TcpTask.between task task' n (TcpProxy.counted task act n) := by
  cases h with
  | start hp =>
    simp only [TcpProxy.counted, hp]
    exact .enter (by rw [TcpTask.between, hp]) rfl
  | @finish result hp =>
    have hsub : TcpProxy.counted task .finish n = n - 1 := by
      cases result <;> simp only [TcpProxy.counted, hp]
    rw [hsub]
    exact .leave (by rw [TcpTask.between, hp]) rfl
  | connected hp | connectFailed hp | relayed hp | relayFailed hp =>
    simp only [TcpProxy.counted, hp]
    exact .stay (by rw [TcpTask.between, TcpTask.between, hp]; rfl)

theorem UdpMove.counted {senders : Bool} {w w' : UdpWorker} {act : UdpSessionAct} (h : UdpMove senders w act w') (n : Nat) :
    Counter.Move UdpSession.between w.task w'.task n (UdpProxy.counted w act n) := by
  cases h with
  | start hp =>
    simp only [UdpProxy.counted, hp]
    exact .enter (by rw [UdpSession.between, hp]) rfl
  | @finish result hp =>
    have hsub : UdpProxy.counted w .finish n = n - 1 := by
      cases result <;> simp only [UdpProxy.counted, hp]
    rw [hsub]
    exact .leave (by rw [UdpSession.between, hp]) rfl
  | opened hp | openFailed hp | recv hp | closed hp | sent hp | sendFailed hp | reply hp | recvFailed hp | replied hp
  | replyFailed hp | timeout hp | remove hp =>
    simp only [UdpProxy.counted, hp]
    exact .stay (by rw [UdpSession.between, UdpSession.between, hp]; rfl)

theorem IcmpPhase.between_setSocket (f : IcmpSocket → IcmpSocket) (phase : IcmpPhase) :
    (phase.setSocket f).between = phase.between := by
  cases phase <;> rfl

/-- Only a session's first and last step are counted. -/
theorem IcmpProxy.counted_other {act : IcmpSessionAct} (hstart : act ≠ .start) (hfinish : act ≠ .finish)
    (upstream : UpstreamServer) (w : IcmpWorker) (n : Nat) : counted upstream w act n = n := by
  unfold counted
  split
  · exact absurd rfl hstart
  · exact absurd rfl hfinish
  · exact absurd rfl hfinish
  · exact absurd rfl hfinish
  · exact absurd rfl hfinish
  · rfl

theorem IcmpMove.counted {upstream : UpstreamServer} {senders : Bool} {ident : UInt16} {w w' : IcmpWorker}
    {act : IcmpSessionAct} (h : IcmpMove upstream senders ident w act w') (n : Nat) :
    Counter.Move IcmpPhase.between w.task w'.task n (IcmpProxy.counted upstream w act n) := by
  cases h with
  | start hp ht =>
    simp only [IcmpProxy.counted, hp, ht]
    exact .enter rfl rfl
  -- neither counted nor ever to be
  | returned hp ht =>
    simp only [IcmpProxy.counted, hp, ht]
    exact .stay rfl
  | @finish result hp =>
    have hsub : IcmpProxy.counted upstream w .finish n = n - 1 := by
      cases result <;> simp only [IcmpProxy.counted, hp]
    rw [hsub]
    exact .leave (by rw [hp]; rfl) rfl
  | recvFailed hp =>
    rw [IcmpProxy.counted_other (by decide) (by decide)]
    exact .stay (IcmpPhase.between_setSocket _ _)
  | forwarded hp =>
    rw [IcmpProxy.counted_other (by decide) (by decide)]
    exact .stay rfl
  | opened hp | openFailed hp | sendFailed hp | invalidRequest hp | requestsClosed hp | delivered hp
  | invalidReply hp | repliesClosed hp | timeout hp | written hp | writeFailed hp | remove hp =>
    rw [IcmpProxy.counted_other (fun he => IcmpSessionAct.noConfusion he) (fun he => IcmpSessionAct.noConfusion he)]
    exact .stay (by rw [hp]; rfl)

/-! ## One proxy -/

theorem TcpProxy.step_exact {config : ProxyConfig} {s s' : TcpProxy} {a : TcpAct}
    (h : Counter.Exact TcpTask.between s.tasks s.activeTcp) (hs : TcpProxy.step config s a = some s') :
    Counter.Exact TcpTask.between s'.tasks s'.activeTcp := by
  cases a with
  | accept peerAddr localAddr =>
    rcases step_accept hs with rfl | rfl
    · exact h
    · exact h.spawn (fun t ht => by rw [List.mem_singleton.1 ht]; rfl)
  | task i act =>
    obtain ⟨task, task', ht, hmove, rfl⟩ := step_task hs
    exact h.move ht (hmove.counted s.activeTcp)

theorem TcpProxy.pos_of_finish {config : ProxyConfig} {s s' : TcpProxy} {i : Nat}
    (h : Counter.Exact TcpTask.between s.tasks s.activeTcp) (hs : TcpProxy.step config s (.task i .finish) = some s') :
    0 < s.activeTcp := by
  obtain ⟨task, task', ht, hmove, -⟩ := step_task hs
  cases hmove with
  | finish hp => exact h.pos ht (by rw [TcpTask.between, hp])

section Workers

variable {κ μ φ : Type} {s : Dispatch.State κ μ φ} {i : Nat} {w w' : Dispatch.Worker κ μ φ}

theorem getElem?_tasks (hw : s.workers[i]? = some w) : (s.workers.map Dispatch.Worker.task)[i]? = some w.task := by
  rw [List.getElem?_map, hw]
  rfl

theorem tasks_put [DecidableEq κ] (b : Bool) (key : κ) : ((s.removeIf b key).put i w').workers.map Dispatch.Worker.task =
    (s.workers.map Dispatch.Worker.task).set i w'.task := by
  rw [Dispatch.State.put, Dispatch.State.workers_removeIf, List.map_set]

end Workers

theorem UdpProxy.step_exact {config : ProxyConfig} {s s' : UdpProxy} {a : UdpAct}
    (h : Counter.Exact UdpSession.between (s.workers.map Dispatch.Worker.task) s.activeUdp)
    (hs : UdpProxy.step config s a = some s') :
    Counter.Exact UdpSession.between (s'.workers.map Dispatch.Worker.task) s'.activeUdp := by
  cases a with
  | inbound act =>
    obtain ⟨t, ht, rfl⟩ := step_inbound hs
    obtain ⟨new, hnew, hfresh⟩ := (inboundStep_extends ht).tasks
    rw [hnew]
    exact h.spawn (fun session hm => by obtain ⟨key, rfl⟩ := hfresh session hm; rfl)
  | session i act =>
    obtain ⟨w, w', hw, hmove, rfl⟩ := step_session hs
    rw [tasks_put]
    exact h.move (getElem?_tasks hw) (hmove.counted s.activeUdp)

theorem UdpProxy.pos_of_finish {config : ProxyConfig} {s s' : UdpProxy} {i : Nat}
    (h : Counter.Exact UdpSession.between (s.workers.map Dispatch.Worker.task) s.activeUdp)
    (hs : UdpProxy.step config s (.session i .finish) = some s') : 0 < s.activeUdp := by
  obtain ⟨w, w', hw, hmove, -⟩ := step_session hs
  cases hmove with
  | finish hp => exact h.pos (getElem?_tasks hw) (by rw [UdpSession.between, hp])

theorem IcmpProxy.step_exact {config : ProxyConfig} {s s' : IcmpProxy} {a : IcmpAct}
    (h : Counter.Exact IcmpPhase.between (s.workers.map Dispatch.Worker.task) s.activeIcmp)
    (hs : IcmpProxy.step config s a = some s') :
    Counter.Exact IcmpPhase.between (s'.workers.map Dispatch.Worker.task) s'.activeIcmp := by
  cases a with
  | inbound act =>
    obtain ⟨t, ht, rfl⟩ := step_inbound hs
    obtain ⟨new, hnew, hfresh⟩ := (inboundStep_extends ht).tasks
    rw [hnew]
    exact h.spawn (fun phase hm => by obtain ⟨key, rfl⟩ := hfresh phase hm; rfl)
  | session i act =>
    obtain ⟨w, w', hw, hmove, rfl⟩ := step_session hs
    rw [tasks_put]
    exact h.move (getElem?_tasks hw) (hmove.counted s.activeIcmp)
  | arrive source bytes cause =>
    cases hs
    -- a reply that arrives changes the socket of a session only
    rw [Counter.Exact, List.map_map, List.countP_map, h, List.countP_map]
    exact List.countP_congr (fun w _ => by
      rw [Function.comp_apply, Function.comp_apply, Function.comp_apply]
      exact Bool.eq_iff_iff.1 (IcmpPhase.between_setSocket _ w.task).symm)

theorem IcmpProxy.pos_of_finish {config : ProxyConfig} {s s' : IcmpProxy} {i : Nat}
    (h : Counter.Exact IcmpPhase.between (s.workers.map Dispatch.Worker.task) s.activeIcmp)
    (hs : IcmpProxy.step config s (.session i .finish) = some s') : 0 < s.activeIcmp := by
  obtain ⟨w, w', hw, hmove, -⟩ := step_session hs
  cases hmove with
  | finish hp => exact h.pos (getElem?_tasks hw) (by rw [hp]; rfl)

/-! ## The three together -/

namespace TransparentProxy

variable {config : ProxyConfig} {s s' : TransparentProxy}

/-- **The three counters are exact.** -/
structure Exact (s : TransparentProxy) : Prop where
  tcp : Counter.Exact TcpTask.between s.tcp.tasks s.tcp.activeTcp
  udp : Counter.Exact UdpSession.between (s.udp.workers.map Dispatch.Worker.task) s.udp.activeUdp
  icmp : Counter.Exact IcmpPhase.between (s.icmp.workers.map Dispatch.Worker.task) s.icmp.activeIcmp

/-- **The ways the proxy moves**: one of its parts takes a step, or the receiving tasks end. -/
inductive Step (config : ProxyConfig) (s : TransparentProxy) : ProxyAct → TransparentProxy → Prop
  | tcp {act : TcpAct} {t : TcpProxy} (h : TcpProxy.step config s.tcp act = some t) :
      Step config s (.tcp act) { s with tcp := t }
  | udp {act : UdpAct} {t : UdpProxy} (h : UdpProxy.step config s.udp act = some t) :
      Step config s (.udp act) { s with udp := t }
  | icmp {act : IcmpAct} {t : IcmpProxy} (h : IcmpProxy.step config s.icmp act = some t) :
      Step config s (.icmp act) { s with icmp := t }
  | tcpFailed : Step config s .tcpFailed
      ⟨s.tcp, { s.udp with inbound := .receiving }, { s.icmp with inbound := .receiving }, false⟩

theorem step_spec {a : ProxyAct} (h : step config s a = some s') : Step config s a s' := by
  unfold step at h
  split at h
  · cases h
  cases a with
  | tcp act =>
    obtain ⟨t, ht, rfl⟩ := Option.map_eq_some_iff.1 h
    exact .tcp ht
  | udp act =>
    obtain ⟨t, ht, rfl⟩ := Option.map_eq_some_iff.1 h
    exact .udp ht
  | icmp act =>
    obtain ⟨t, ht, rfl⟩ := Option.map_eq_some_iff.1 h
    exact .icmp ht
  | tcpFailed =>
    cases h
    exact .tcpFailed

theorem Exact.step {a : ProxyAct} (h : Exact s) (hs : step config s a = some s') : Exact s' := by
  cases step_spec hs with
  | tcp ht => exact ⟨TcpProxy.step_exact h.tcp ht, h.udp, h.icmp⟩
  | udp ht => exact ⟨h.tcp, UdpProxy.step_exact h.udp ht, h.icmp⟩
  | icmp ht => exact ⟨h.tcp, h.udp, IcmpProxy.step_exact h.icmp ht⟩
  | tcpFailed => exact ⟨h.tcp, h.udp, h.icmp⟩

/-- The counter that a step decrements, as the step finds it. -/
def decremented (s : TransparentProxy) : ProxyAct → Option Nat
  | .tcp (.task _ .finish)     => some s.tcp.activeTcp
  | .udp (.session _ .finish)  => some s.udp.activeUdp
  | .icmp (.session _ .finish) => some s.icmp.activeIcmp
  | _                          => none

/-- **A step that decrements a counter finds it positive.** -/
theorem Exact.decremented_pos {a : ProxyAct} (h : Exact s) (hs : TransparentProxy.step config s a = some s') :
    ∀ n ∈ decremented s a, 0 < n := by
  intro n hn
  unfold decremented at hn
  split at hn
  · cases hn
    cases step_spec hs with
    | tcp ht => exact TcpProxy.pos_of_finish h.tcp ht
  · cases hn
    cases step_spec hs with
    | udp ht => exact UdpProxy.pos_of_finish h.udp ht
  · cases hn
    cases step_spec hs with
    | icmp ht => exact IcmpProxy.pos_of_finish h.icmp ht
  · cases hn

/-- No session is running: every task has returned. -/
def Idle (s : TransparentProxy) : Prop :=
  (∀ task ∈ s.tcp.tasks, ∃ result, task.phase = .gone result) ∧
  (∀ w ∈ s.udp.workers, ∃ result, w.task.phase = .gone result) ∧
  (∀ w ∈ s.icmp.workers, ∃ result, w.task = .gone result)

theorem Exact.idle (h : Exact s) (hidle : Idle s) : s.stats = ⟨0, 0, 0⟩ := by
  obtain ⟨htcp, hudp, hicmp⟩ := hidle
  have ht : s.tcp.activeTcp = 0 := h.tcp.eq_zero (fun task hm => by
    obtain ⟨result, hp⟩ := htcp task hm
    rw [TcpTask.between, hp])
  have hu : s.udp.activeUdp = 0 := h.udp.eq_zero (fun session hm => by
    obtain ⟨w, hw, rfl⟩ := List.mem_map.1 hm
    obtain ⟨result, hp⟩ := hudp w hw
    rw [UdpSession.between, hp])
  have hi : s.icmp.activeIcmp = 0 := h.icmp.eq_zero (fun phase hm => by
    obtain ⟨w, hw, rfl⟩ := List.mem_map.1 hm
    obtain ⟨result, hp⟩ := hicmp w hw
    rw [hp]
    rfl)
  rw [stats, ht, hu, hi]

end TransparentProxy

abbrev ProxyRun (config : ProxyConfig) (h : List (TransparentProxy × ProxyAct)) (s : TransparentProxy) : Prop :=
  Run (TransparentProxy.step config) TransparentProxy.init h s

theorem ProxyRun.exact {config : ProxyConfig} {h : List (TransparentProxy × ProxyAct)} {s : TransparentProxy}
    (hr : ProxyRun config h s) : s.Exact :=
  hr.invariant TransparentProxy.Exact ⟨rfl, rfl, rfl⟩ (fun _ _ _ hexact hs => hexact.step hs)

/-- **In any interleaving the counters are the numbers of tasks between their increment and their decrement**; none is
decremented at zero, and all are zero when no session is running. -/
theorem counters_exact {config : ProxyConfig} {h : List (TransparentProxy × ProxyAct)} {s : TransparentProxy}
    (hr : ProxyRun config h s) :
    s.stats = ⟨s.tcp.tasks.countP TcpTask.between, s.udp.workers.countP (fun w => w.task.between),
      s.icmp.workers.countP (fun w => w.task.between)⟩ ∧
    Throughout (fun _ t a => ∀ n ∈ t.decremented a, 0 < n) h ∧
    (s.Idle → s.stats = ⟨0, 0, 0⟩) := by
  refine ⟨?_, hr.throughout (fun _ t a _ hr hs => (ProxyRun.exact hr).decremented_pos hs), (ProxyRun.exact hr).idle⟩
  obtain ⟨htcp, hudp, hicmp⟩ := ProxyRun.exact hr
  rw [Counter.Exact, List.countP_map] at hudp hicmp
  rw [TransparentProxy.stats, htcp, hudp, hicmp]
  rfl

/-- A connection that cannot be made, a UDP session that times out and a ping, each up to its end or into its loop. -/
def mixedRun : List ProxyAct :=
  [.tcp (.accept (.v4 ⟨10, 0, 0, 2⟩ 40000) (.v4 ⟨1, 1, 1, 1⟩ 443)), .tcp (.task 0 .start),
   .udp (.inbound (.recv [1] (.v4 ⟨1, 1, 1, 1⟩ 53) (.v4 ⟨10, 0, 0, 2⟩ 40001))), .udp (.inbound .lookUp),
   .udp (.inbound .send), .icmp (.inbound (.recv ping)), .icmp (.inbound .lookUp), .udp (.session 0 .start),
   .udp (.session 0 (.opened true)), .icmp (.session 0 .start), .tcp (.task 0 (.connected false)), .tcp (.task 0 .finish),
   .tcpFailed, .udp (.session 0 .timeout), .udp (.session 0 .remove), .udp (.session 0 .finish)]

theorem counters_exact_mixed : ∃ h s, ProxyRun .plain h s ∧ h.map Prod.snd = mixedRun ∧ s.stats = ⟨0, 0, 1⟩ ∧
    s.stats = ⟨s.tcp.tasks.countP TcpTask.between, s.udp.workers.countP (fun w => w.task.between),
      s.icmp.workers.countP (fun w => w.task.between)⟩ := by
  have hr : ProxyRun .plain (Machine.trace (TransparentProxy.step .plain) .init mixedRun) _ :=
    Machine.run_get (by decide +kernel)
  exact ⟨_, _, hr, by decide +kernel, by decide +kernel, (counters_exact hr).1⟩

end Easynet
