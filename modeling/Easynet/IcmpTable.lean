import Easynet.IcmpProxy
/-!
# IcmpTable — the entries of the ICMP sessions

A session that ends its loop removes its key before it returns, so that the table has the keys of sessions whose receiver is
there.  A session that finds its upstream server to have an IPv6 address returns before its loop, and its key stays in the
table until another packet with the key finds the receiver gone.
-/
namespace Easynet

open Machine (Run)

theorem UpstreamServer.translateIpv4_error {upstream : UpstreamServer} (addr : Ipv4Addr) :
    (∃ err, upstream.translateIpv4 addr = .error err) ↔ ∃ ip, upstream.ip = some (.v6 ip) := by
  unfold translateIpv4
  constructor
  · rintro ⟨err, h⟩
    split at h
    · cases h
    · exact ⟨_, ‹_›⟩
    · cases h
  · rintro ⟨ip, h⟩
    rw [h]
    exact ⟨_, rfl⟩

namespace IcmpProxy

variable {config : ProxyConfig} {s s' : IcmpProxy} {h : List (IcmpProxy × IcmpAct)}

/-- **The table has sessions that have not returned**: one that has returned has no entry of its own, and the receiver of
every entry is there. -/
structure TableLive (s : IcmpProxy) : Prop where
  returned : ∀ (i : Nat) (w : IcmpWorker), s.workers[i]? = some w → w.task.stage = .gone → s.table.lookup w.key ≠ some i
  entry : ∀ key i, s.table.lookup key = some i → ∃ w : IcmpWorker, s.workers[i]? = some w ∧ w.task.stage ≠ .gone

theorem tableLive_of_live (hl : (s.protocol IcmpPhase.stage).Live) : TableLive s where
  returned := by
    intro i w hw hgone he
    obtain ⟨v, hv, -, hrun⟩ := Dispatch.State.of_workers_protocol IcmpPhase.stage (hl w.key i he)
    cases hw.symm.trans hv
    cases hgone.symm.trans hrun
  entry := by
    intro key i he
    obtain ⟨w, hw, -, hrun⟩ := Dispatch.State.of_workers_protocol IcmpPhase.stage (hl key i he)
    exact ⟨w, hw, by rw [hrun]; nofun⟩

/-- Only the early return takes a session from running to gone. -/
theorem start_of_gone {a : IcmpAct} (hs : step config s a = some s') {i : Nat} {w w' : IcmpWorker}
    (hw : s.workers[i]? = some w) (hw' : s'.workers[i]? = some w') (hrun : w.task.stage = .running)
    (hgone : w'.task.stage = .gone) : a = .session i .start ∧ ∃ ip, config.upstream.ip = some (.v6 ip) := by
  cases step_part hs hw' with
  | kept hv htask =>
    cases hw.symm.trans hv
    rw [htask, hrun] at hgone
    cases hgone
  | spawned hv => cases hw.symm.trans hv
  | received hv =>
    cases hw.symm.trans hv
    have hstage := hgone
    rw [IcmpWorker.receive, IcmpWorker.to, IcmpPhase.stage_setSocket, hrun] at hstage
    cases hstage
  | moved hv hm =>
    cases hw.symm.trans hv
    rcases hm.stage with ⟨-, -, hrem⟩ | ⟨-, hrem, -⟩ | ⟨rfl, herr, -, -⟩ | ⟨-, -, hrun'⟩
    · cases hgone.symm.trans hrem
    · cases hrun.symm.trans hrem
    · exact ⟨rfl, (UpstreamServer.translateIpv4_error _).1 herr⟩
    · cases hgone.symm.trans hrun'

theorem step_live {a : IcmpAct} (hl : (s.protocol IcmpPhase.stage).Live) (hs : step config s a = some s')
    (hok : (∀ ip, config.upstream.ip ≠ some (.v6 ip)) ∨ ∀ i, a ≠ .session i .start) :
    (s'.protocol IcmpPhase.stage).Live := by
  rcases step_protocol hs with hp | hp
  · refine hl.step hp (fun key i hrun hgone => ?_)
    obtain ⟨w, hw, -, hrun⟩ := Dispatch.State.of_workers_protocol IcmpPhase.stage hrun
    obtain ⟨w', hw', -, hgone⟩ := Dispatch.State.of_workers_protocol IcmpPhase.stage hgone
    obtain ⟨ha, ip, hip⟩ := start_of_gone hs hw hw' hrun hgone
    exact hok.elim (fun h => h ip hip) (fun h => h i ha)
  · rwa [hp]

theorem run_live (hr : IcmpRun config h s)
    (hok : (∀ ip, config.upstream.ip ≠ some (.v6 ip)) ∨ ∀ p ∈ h, ∀ i, p.2 ≠ .session i .start) :
    (s.protocol IcmpPhase.stage).Live := by
  refine hr.invariant_of (fun _ a => (∀ ip, config.upstream.ip ≠ some (.v6 ip)) ∨ ∀ i, a ≠ .session i .start)
    (fun p hp => hok.imp id (fun h => h p hp)) (fun s => (s.protocol IcmpPhase.stage).Live) ?_ ?_
  · exact fun _ _ he => nomatch he
  · exact fun _ _ _ hl ha hs => step_live hl hs ha

/-- The early return leaves the session's entry. -/
theorem not_tableLive_of_start {i : Nat} (hinv : (s.protocol IcmpPhase.stage).Inv) {ip : Ipv6Addr}
    (hip : config.upstream.ip = some (.v6 ip)) (hs : step config s (.session i .start) = some s') : ¬ TableLive s' := by
  intro hl
  obtain ⟨w, w', hw, hmove, rfl⟩ := step_session hs
  obtain ⟨err, herr⟩ := (UpstreamServer.translateIpv4_error w.key.target).2 ⟨ip, hip⟩
  cases hmove with
  | start hp ht => cases ht.symm.trans herr
  | returned hp ht =>
    have hrun : (s.protocol IcmpPhase.stage).workers[i]? = some (w.key, .running) := by
      rw [Dispatch.State.workers_protocol IcmpPhase.stage hw, hp]
      rfl
    refine hl.returned i _ ((Dispatch.State.getElem?_put hw).trans (if_pos rfl)) rfl ?_
    exact hinv.running w.key i hrun

/-- **In every state of a run the table has live sessions only, if and only if the upstream server's address is not an IPv6
address or no session has started.** -/
theorem tableLive_iff (hr : IcmpRun config h s) :
    (∀ t ∈ Machine.states h s, TableLive t) ↔
      (∀ ip, config.upstream.ip ≠ some (.v6 ip)) ∨ ∀ p ∈ h, ∀ i, p.2 ≠ .session i .start := by
  constructor
  · intro hl
    by_cases hip : ∃ ip, config.upstream.ip = some (.v6 ip)
    · obtain ⟨ip, hip⟩ := hip
      refine Or.inr (fun p hp i ha => ?_)
      obtain ⟨h₁, h₂, t, he, hr₁, hs, hr₂⟩ := hr.of_mem hp
      have ht : t ∈ Machine.states h s :=
        hr.mem_states.2 ⟨h₁ ++ [p], h₂, by rw [he, List.append_assoc, List.singleton_append], hr₁.snoc hs, hr₂⟩
      exact not_tableLive_of_start (IcmpRun.inv hr₁) hip (ha ▸ hs) (hl t ht)
    · exact Or.inl (fun ip he => hip ⟨ip, he⟩)
  · intro hok t ht
    obtain ⟨h₁, h₂, rfl, hr₁, -⟩ := hr.mem_states.1 ht
    exact tableLive_of_live (run_live hr₁ (hok.imp id (fun hno p hp => hno p (List.mem_append_left h₂ hp))))

/-- A ping whose session starts. -/
def startRun : List IcmpAct := [.inbound (.recv ping), .inbound .lookUp, .inbound .send, .session 0 .start]

/-- The upstream server is `::1`. -/
def ipv6Upstream : ProxyConfig := ⟨IpFilters.withNonBroadcast, ⟨some (.v6 ⟨#v[0, 0, 0, 0, 0, 0, 0, 1]⟩)⟩⟩

/-- The ping is answered, and the session times out and returns. -/
def returnedRun : List IcmpAct :=
  startRun.append [.session 0 (.opened true), .session 0 (.request true), .arrive ⟨1, 1, 1, 1⟩ pong (some 0),
    .session 0 .reply, .session 0 (.written true), .session 0 .timeout, .session 0 .remove, .session 0 .finish]

theorem tableLive_ping : ∃ h s, IcmpRun .plain h s ∧ h.map Prod.snd = returnedRun ∧
    s.workers.map (fun w => w.task.stage) = [.gone] ∧ s.table.entries.length = 0 ∧
    ∀ t ∈ Machine.states h s, TableLive t := by
  have hr : IcmpRun .plain (Machine.trace (step .plain) init returnedRun) _ := Machine.run_get (by decide +kernel)
  exact ⟨_, _, hr, by decide +kernel, by decide +kernel, by decide +kernel,
    (tableLive_iff hr).2 (Or.inl (fun _ he => nomatch he))⟩

/-- **With an IPv6 upstream server a ping leaves an entry whose session has returned.** -/
theorem stale_entry : ∃ h s, IcmpRun ipv6Upstream h s ∧ h.map Prod.snd = startRun ∧
    s.table.entries.map (fun e => (e.1.client, e.1.target, e.2)) = [(.new 10 0 0 2, .new 1 1 1 1, 0)] ∧
    s.workers.map (fun w => w.task) = [.gone none] := by
  have hr : IcmpRun ipv6Upstream (Machine.trace (step ipv6Upstream) init startRun) _ := Machine.run_get (by decide +kernel)
  exact ⟨_, _, hr, by decide +kernel, by decide +kernel, by decide +kernel⟩

end IcmpProxy

end Easynet
