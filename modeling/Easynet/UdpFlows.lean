import Easynet.Lib.Fifo
import Easynet.Lib.Flow
import Easynet.UdpDelivery
/-!
# UdpFlows — the two directions of a flow

A flow is a client and a target.  Over time several sessions serve it, each with an outbound socket of its own: a session
that was idle is gone, and the next datagram makes a new one.  Here is what the two ends of a flow see of this: the target's
side what is sent on the outbound sockets, and the client what is sent back to the TUN side.  Datagrams may be lost at the
ends of sessions, but they are not reordered, doubled or changed, not even where one session takes over from another.
-/
namespace Easynet

open Machine (Run)
open Fifo (items)

namespace UdpWorker

/-- The datagram that a session has sent in this step, and where to. -/
def sends (w : UdpWorker) : UdpSessionAct → Option (SocketAddr × Bytes)
  | .sent true => match w.task.phase with
    | .sending data => some (w.task.outbound, data)
    | _             => none
  | _ => none

/-- What its outbound socket has received. -/
def receives (_ : UdpWorker) : UdpSessionAct → Option Bytes
  | .reply (some data) => some (data.take maxUdpDatagramSize)
  | _                  => none

/-- The datagram that it has sent to the TUN side: its source, its destination and its payload. -/
def replies (w : UdpWorker) : UdpSessionAct → Option (SocketAddr × SocketAddr × Bytes)
  | .replied .ok => match w.task.phase with
    | .replying data => some (w.key.2, w.key.1, data)
    | _              => none
  | _ => none

/-- What it has still to send. -/
def unsent (w : UdpWorker) : List Bytes := if w.task.left then [] else w.task.phase.current ++ w.queue

/-- What it has received and not yet sent back. -/
def unreplied (w : UdpWorker) : List Bytes :=
  match w.task.phase with
  | .replying data => [data]
  | _              => []

theorem unsent_left {w : UdpWorker} (h : w.task.left = true) : w.unsent = [] := if_pos h

theorem unsent_phase {w : UdpWorker} {phase : UdpPhase} (hp : w.task.phase = phase) (hresult : phase.result = none) :
    w.unsent = phase.current ++ w.queue := by
  rw [unsent, if_neg (by rw [UdpSession.left, hp, hresult]; exact Bool.false_ne_true), hp]

theorem unreplied_phase {w : UdpWorker} {phase : UdpPhase} (hp : w.task.phase = phase)
    (hreplying : ∀ data, phase ≠ .replying data) : w.unreplied = [] := by
  rw [unreplied, hp]
  split
  · exact absurd rfl (hreplying _)
  · rfl

end UdpWorker

variable {senders : Bool} {w w' : UdpWorker} {act : UdpSessionAct}

/-- What a session sends is the first of what it has to send. -/
theorem UdpMove.unsent (h : UdpMove senders w act w') :
    (((w.sends act).map Prod.snd).toList ++ w'.unsent).Sublist w.unsent := by
  cases h with
  | start hp | opened hp | reply hp => exact (UdpWorker.unsent_phase hp rfl).symm ▸ List.Sublist.refl _
  | replied hp hr =>
    rename_i data result
    rw [show w.sends (.replied result) = none from rfl, UdpWorker.unsent_phase hp rfl]
    exact List.Sublist.refl _
  | recv hp hq =>
    rw [UdpWorker.unsent_phase hp rfl, hq]
    exact List.Sublist.refl _
  | sent hp =>
    rw [UdpWorker.unsent_phase hp rfl, UdpWorker.sends, hp]
    exact List.Sublist.refl _
  | openFailed hp | closed hp | sendFailed hp | recvFailed hp | replyFailed hp | timeout hp | remove hp | finish hp =>
    rw [UdpWorker.unsent_left (w := UdpWorker.to _ _) rfl]
    exact List.nil_sublist _

/-- What it sends back is what it has received. -/
theorem UdpMove.unreplied (h : UdpMove senders w act w') :
    (((w.replies act).map (fun d => d.2.2)).toList ++ w'.unreplied).Sublist (w.unreplied ++ (w.receives act).toList) := by
  cases h with
  | reply hp =>
    rw [UdpWorker.unreplied_phase hp (fun _ h => by cases h)]
    exact List.Sublist.refl _
  | @replied data result hp hr =>
    cases result with
    | ok =>
      simp only [UdpWorker.replies, UdpWorker.unreplied, hp]
      exact List.Sublist.refl _
    | timedOut => exact List.nil_sublist _
    | failed => exact absurd rfl hr
  | recv | start | opened | openFailed | closed | sent | sendFailed | recvFailed | replyFailed | timeout | remove | finish =>
    exact List.nil_sublist _

theorem UdpMove.outbound (h : UdpMove senders w act w') : w'.task.outbound = w.task.outbound := by
  cases h <;> rfl

theorem UdpMove.finish_of_removed (h : UdpMove senders w act w') (hstage : w.task.stage = .removed) : act = .finish := by
  cases h with
  | finish => rfl
  | start hp | opened hp | openFailed hp | recv hp | closed hp | sent hp | sendFailed hp | reply hp | recvFailed hp
  | replied hp | replyFailed hp | timeout hp | remove hp =>
    rw [UdpSession.stage, hp] at hstage
    cases hstage

namespace UdpProxy

variable {config : ProxyConfig} {s s' : UdpProxy} {a : UdpAct} {h : List (UdpProxy × UdpAct)} {key : UdpKey}

/-- What a session does in a step, if it is one of this flow. -/
def ofFlow {β : Type} (f : UdpWorker → UdpSessionAct → Option β) (key : UdpKey) (s : UdpProxy) : UdpAct → Option β
  | .session i act => s.ofKey f key i act
  | .inbound _     => none

/-- The datagrams of a flow that the client has sent and the filters have passed. -/
def flowAccepted (config : ProxyConfig) (key : UdpKey) (s : UdpProxy) (a : UdpAct) : Option Bytes :=
  (acceptedAt config (s, a)).bind (fun d => if d.1 = key then some d.2 else none)

def flowSent : UdpKey → UdpProxy → UdpAct → Option (SocketAddr × Bytes) := ofFlow UdpWorker.sends

def flowReceived : UdpKey → UdpProxy → UdpAct → Option Bytes := ofFlow UdpWorker.receives

def flowReplied : UdpKey → UdpProxy → UdpAct → Option (SocketAddr × SocketAddr × Bytes) := ofFlow UdpWorker.replies

def unsentView (config : ProxyConfig) : Dispatch.View (UdpSession.new config.upstream) Bytes Bytes where
  worker := UdpWorker.unsent
  message := fun msg => [msg]
  spawned := fun _ => rfl
  pushed := by
    intro w msg
    simp only [UdpWorker.unsent]
    split
    · exact List.nil_sublist _
    · rw [List.append_assoc]

def unrepliedView (config : ProxyConfig) : Dispatch.View (UdpSession.new config.upstream) Bytes Bytes where
  worker := UdpWorker.unreplied
  message := fun _ => []
  spawned := fun _ => rfl
  pushed := fun w _ => by rw [List.append_nil]; exact List.Sublist.refl _

/-! ## The two directions -/

theorem ofFlow_map {β γ : Type} (f : UdpWorker → UdpSessionAct → Option β) (g : β → γ) (key : UdpKey) (s : UdpProxy)
    (a : UdpAct) : (ofFlow f key s a).map g = ofFlow (fun w act => (f w act).map g) key s a := by
  cases a with
  | inbound act => rfl
  | session i act => exact Dispatch.State.ofKey_map f g key s.toState i act

/-- What the sessions of a flow hold, give out and take in. -/
theorem held_ofFlow {β : Type} {v : Dispatch.View (UdpSession.new config.upstream) Bytes β}
    {f g : UdpWorker → UdpSessionAct → Option β}
    (hmove : ∀ {senders w act w'}, UdpMove senders w act w' →
      ((f w act).toList ++ v.worker w').Sublist (v.worker w ++ (g w act).toList))
    (hfinish : ∀ w, f w .finish = none) {i : Nat} {act : UdpSessionAct} (hinv : (s.protocol UdpSession.stage).Inv)
    (hs : step config s (.session i act) = some s') (key : UdpKey) :
    ((ofFlow f key s (.session i act)).toList ++ s'.toState.held v key).Sublist
      (s.toState.held v key ++ (ofFlow g key s (.session i act)).toList) := by
  obtain ⟨w, w', hw, hm, rfl⟩ := step_session hs
  refine Dispatch.State.held_ofKey v hinv hw (hmove hm) ?_ key
  rcases hm.stage with ⟨-, hrun, -⟩ | ⟨hact, hremoved, -⟩ | ⟨-, hrun, -⟩
  · exact .inl hrun
  · -- a session that has left the table does nothing but end
    refine .inr ⟨hremoved, beq_false_of_ne hact, ?_⟩
    cases hm.finish_of_removed hremoved
    exact hfinish w
  · exact .inl hrun

theorem unsent_inbound {act : UdpInboundAct} (hinv : (s.protocol UdpSession.stage).Inv)
    (hs : step config s (.inbound act) = some s') (key : UdpKey) :
    (s'.toState.held (unsentView config) key ++ s'.inbound.messagesFor key).Sublist
      (s.toState.held (unsentView config) key ++ s.inbound.messagesFor key ++
        (flowAccepted config key s (.inbound act)).toList) := by
  obtain ⟨t, ht, rfl⟩ := step_inbound hs
  cases act with
  | recvFailed =>
    rw [inboundStep_recvFailed ht]
    exact List.sublist_append_left _ _
  | recv data target client =>
    obtain ⟨hin, ht⟩ := inboundStep_recv ht
    split at ht <;> rename_i hallowed
    · subst ht
      simp only [flowAccepted, acceptedAt, hallowed, hin, if_true, Option.bind_some, Dispatch.Inbound.messagesFor,
        List.append_nil]
      refine List.Sublist.append_left ?_ _
      split <;> exact List.Sublist.refl _
    · subst ht
      exact List.sublist_append_left _ _
  | lookUp =>
    obtain ⟨hheld, hmessages⟩ := Dispatch.State.held_lookUp (unsentView config) hinv ht key
    rw [hheld, hmessages]
    exact List.sublist_append_left _ _
  | send =>
    obtain ⟨hheld, hmessages⟩ := Dispatch.State.held_send (unsentView config) hinv ht key
    rw [show List.flatMap (unsentView config).message (s.inbound.messagesFor key) = s.inbound.messagesFor key from
      List.flatMap_singleton' _] at hheld
    rw [hmessages, List.append_nil]
    exact hheld.trans (List.sublist_append_left _ _)
  | remove =>
    obtain ⟨hheld, hmessages⟩ := Dispatch.State.held_forget (unsentView config) ht key
    rw [hmessages, List.append_nil]
    exact hheld.trans ((List.sublist_append_left _ _).trans (List.sublist_append_left _ _))

theorem unreplied_inbound {act : UdpInboundAct} (hinv : (s.protocol UdpSession.stage).Inv)
    (hs : step config s (.inbound act) = some s') (key : UdpKey) :
    (s'.toState.held (unrepliedView config) key).Sublist (s.toState.held (unrepliedView config) key) := by
  obtain ⟨t, ht, rfl⟩ := step_inbound hs
  cases act with
  | recvFailed =>
    rw [inboundStep_recvFailed ht]
  | recv data target client =>
    obtain ⟨-, ht⟩ := inboundStep_recv ht
    split at ht <;> subst ht <;> exact List.Sublist.refl _
  | lookUp =>
    rw [(Dispatch.State.held_lookUp (unrepliedView config) hinv ht key).1]
  | send =>
    have hheld := (Dispatch.State.held_send (unrepliedView config) hinv ht key).1
    rwa [show List.flatMap (unrepliedView config).message (s.inbound.messagesFor key) = [] from
      List.flatMap_eq_nil_iff.2 (fun _ _ => rfl), List.append_nil] at hheld
  | remove => exact (Dispatch.State.held_forget (unrepliedView config) ht key).1

/-- What leaves a flow on the outbound sockets. -/
theorem sent_lossy (config : ProxyConfig) (key : UdpKey) :
    Fifo.Lossy (step config) init (flowAccepted config key) (fun s a => (flowSent key s a).map Prod.snd)
      (fun s => s.toState.held (unsentView config) key ++ s.inbound.messagesFor key) where
  start := rfl
  keep := by
    intro h s a s' hr hs
    cases a with
    | inbound act => exact unsent_inbound (UdpRun.inv hr) hs key
    | session i act =>
      have hinbound : s'.inbound = s.inbound := by
        obtain ⟨w, w', -, -, rfl⟩ := step_session hs
        simp only [Dispatch.State.put, Dispatch.State.inbound_removeIf]
      have hflow := held_ofFlow (v := unsentView config) (f := fun w act => (w.sends act).map Prod.snd)
        (g := fun _ _ => none) (fun hm => by rw [Option.toList_none, List.append_nil]; exact hm.unsent) (fun _ => rfl)
        (UdpRun.inv hr) hs key
      have hnone : ofFlow (fun _ _ => (none : Option Bytes)) key s (.session i act) = none := by
        simp only [ofFlow, Dispatch.State.ofKey, ite_self, Option.bind_fun_none]
      rw [hnone, Option.toList_none, List.append_nil] at hflow
      rw [flowSent, ofFlow_map, hinbound, ← List.append_assoc]
      exact (hflow.append_right _).trans (List.sublist_append_left _ _)

/-- What comes back on them. -/
theorem replied_lossy (config : ProxyConfig) (key : UdpKey) :
    Fifo.Lossy (step config) init (flowReceived key) (fun s a => (flowReplied key s a).map (fun d => d.2.2))
      (fun s => s.toState.held (unrepliedView config) key) where
  start := rfl
  keep := by
    intro h s a s' hr hs
    cases a with
    | session i act =>
      rw [flowReplied, ofFlow_map]
      exact held_ofFlow (v := unrepliedView config) (fun hm => hm.unreplied) (fun _ => rfl) (UdpRun.inv hr) hs key
    | inbound act => exact (unreplied_inbound (UdpRun.inv hr) hs key).trans (List.sublist_append_left _ _)

/-! ## Solicited replies -/

/-- **Whoever serves a flow was asked to**: the client has sent a datagram on it, and the filters have passed it. -/
theorem solicited (hr : UdpRun config h s) : s.Asked (fun key => items (flowAccepted config key) h ≠ []) := by
  refine hr.history_invariant (fun h s => s.Asked (fun key => items (flowAccepted config key) h ≠ []))
    Dispatch.State.asked_init (fun h s a s' _ ih hs => ?_)
  have hstill : s.Asked (fun key => items (flowAccepted config key) (h ++ [(s, a)]) ≠ []) := ih.mono (fun key hk => by
    rw [Fifo.items_snoc]
    exact List.append_ne_nil_of_left_ne_nil hk _)
  cases a with
  | session i act =>
    obtain ⟨w, w', hw, hm, rfl⟩ := step_session hs
    exact hstill.move hw hm.key _ _
  | inbound act =>
    obtain ⟨t, ht, rfl⟩ := step_inbound hs
    cases act with
    | recvFailed => exact inboundStep_recvFailed ht ▸ hstill
    | recv data target client =>
      obtain ⟨hin, ht⟩ := inboundStep_recv ht
      split at ht <;> rename_i hallowed
      · subst ht
        refine ⟨hstill.workers, fun key hm => ?_⟩
        have hkey : (client, target) = key := not_not.1 (fun hk => hm (if_neg hk))
        rw [Fifo.items_snoc]
        refine List.append_ne_nil_of_right_ne_nil _ ?_
        simp [flowAccepted, acceptedAt, hallowed, hkey]
      · exact ht ▸ hstill
    | lookUp => exact hstill.lookUp ht
    | send => exact hstill.send ht
    | remove => exact hstill.forget ht

/-- What a session of the flow does, it does as a session that there is. -/
theorem mem_ofFlow {β : Type} {f : UdpWorker → UdpSessionAct → Option β} {b : β} (hb : b ∈ items (ofFlow f key) h) :
    ∃ p ∈ h, ∃ w ∈ p.1.workers, ∃ act, w.key = key ∧ f w act = some b := by
  obtain ⟨⟨s, a⟩, hp, he⟩ := List.mem_filterMap.1 hb
  cases a with
  | inbound act => cases he
  | session i act =>
    obtain ⟨w, hw, hkey, he⟩ := Dispatch.State.ofKey_eq_some he
    exact ⟨_, hp, w, hw, act, hkey, he⟩

/-- A session's outbound socket is connected to the target, or to the upstream server in its place. -/
theorem outbound_of_run (hr : UdpRun config h s) :
    ∀ w ∈ s.workers, w.task.outbound = config.upstream.translateSocket w.key.2 := by
  refine hr.invariant (fun s => ∀ w ∈ s.workers, w.task.outbound = config.upstream.translateSocket w.key.2)
    (fun _ hw => absurd hw List.not_mem_nil) (fun s a s' ih hs w' hw' => ?_)
  cases a with
  | session i act =>
    obtain ⟨w, v, hw, hm, rfl⟩ := step_session hs
    simp only [Dispatch.State.put, Dispatch.State.workers_removeIf] at hw'
    rcases List.mem_or_eq_of_mem_set hw' with hw' | rfl
    · exact ih w' hw'
    · rw [hm.key, hm.outbound]
      exact ih w (List.mem_of_getElem? hw)
  | inbound act =>
    obtain ⟨t, ht, rfl⟩ := step_inbound hs
    obtain ⟨i, hi⟩ := List.getElem?_of_mem hw'
    rcases (inboundStep_extends ht).workers i w' hi with ⟨w, hw, hkey, htask⟩ | ⟨-, htask⟩
    · rw [hkey, htask]
      exact ih w (List.mem_of_getElem? hw)
    · rw [htask]
      rfl

theorem addressed_sent (hr : UdpRun config h s) {d : SocketAddr × Bytes} (hd : d ∈ items (flowSent key) h) :
    (config.upstream.translateSocket key.2, d.2) = d := by
  obtain ⟨p, hp, w, hw, act, rfl, he⟩ := mem_ofFlow hd
  obtain ⟨h₁, h₂, -, rfl, hr₁, -, -⟩ := hr.of_mem hp
  rw [← outbound_of_run hr₁ w hw]
  unfold UdpWorker.sends at he
  split at he
  · split at he
    · cases he; rfl
    · cases he
  · cases he

theorem addressed_replied {d : SocketAddr × SocketAddr × Bytes} (hd : d ∈ items (flowReplied key) h) :
    (key.2, key.1, d.2.2) = d := by
  obtain ⟨p, -, w, -, act, rfl, he⟩ := mem_ofFlow hd
  unfold UdpWorker.replies at he
  split at he
  · split at he
    · cases he; rfl
    · cases he
  · cases he

/-- **The proxy keeps the flows apart and in order.**  What leaves a flow, over all the sessions that serve it one after
another, goes to the target's address as the upstream server has it, and is in this order among the datagrams that the client
has sent; what the client receives comes from the target's own address, and is in this order among what the outbound sockets
of the flow have received.  Nothing comes back on a flow on which the client has sent nothing. -/
theorem flows_relayed (hr : UdpRun config h s) (key : UdpKey) :
    (items (flowSent key) h).Sublist
      ((items (flowAccepted config key) h).map (fun data => (config.upstream.translateSocket key.2, data))) ∧
    (items (flowReplied key) h).Sublist ((items (flowReceived key) h).map (fun data => (key.2, key.1, data))) ∧
    (items (flowReceived key) h ≠ [] → items (flowAccepted config key) h ≠ []) := by
  refine ⟨?_, ?_, ?_⟩
  · have hsub := (List.sublist_append_left _ _).trans ((sent_lossy config key).sublist hr)
    rw [Fifo.items_map] at hsub
    exact Fifo.sublist_map_of_map hsub (fun d hd => addressed_sent hr hd)
  · have hsub := (List.sublist_append_left _ _).trans ((replied_lossy config key).sublist hr)
    rw [Fifo.items_map] at hsub
    exact Fifo.sublist_map_of_map hsub (fun d hd => addressed_replied hd)
  · intro hne
    obtain ⟨b, hb⟩ := List.exists_mem_of_ne_nil _ hne
    obtain ⟨p, hp, w, hw, act, rfl, -⟩ := mem_ofFlow hb
    obtain ⟨h₁, h₂, -, rfl, hr₁, -, -⟩ := hr.of_mem hp
    have hasked := (solicited hr₁).workers w hw
    rw [items, List.filterMap_append]
    exact List.append_ne_nil_of_left_ne_nil hasked _

/-- The datagram of `sentRun` is answered, the session times out, and a new one sends the next datagram and gets its
answer. -/
def answeredRun : List UdpAct :=
  sentRun.append [.session 0 (.reply (some [11])), .session 0 (.replied .ok), .session 0 .timeout, .session 0 .remove,
    .inbound (.recv [2] dnsKey.2 dnsKey.1), .inbound .lookUp, .inbound .send, .session 0 .finish, .session 1 .start,
    .session 1 (.opened true), .session 1 .recv, .session 1 (.sent true), .session 1 (.reply (some [12])),
    .session 1 (.replied .ok)]

theorem flows_relayed_answered : ∃ h s, UdpRun ⟨IpFilters.withNonBroadcast, ⟨some (.v4 ⟨10, 9, 9, 9⟩)⟩⟩ h s ∧
    items (flowSent dnsKey) h = [(.v4 ⟨10, 9, 9, 9⟩ 53, [1]), (.v4 ⟨10, 9, 9, 9⟩ 53, [2])] ∧
    items (flowReplied dnsKey) h = [(dnsKey.2, dnsKey.1, [11]), (dnsKey.2, dnsKey.1, [12])] ∧
    (items (flowReplied dnsKey) h).Sublist
      ((items (flowReceived dnsKey) h).map (fun data => (dnsKey.2, dnsKey.1, data))) := by
  have hr : UdpRun ⟨IpFilters.withNonBroadcast, ⟨some (.v4 ⟨10, 9, 9, 9⟩)⟩⟩
      (Machine.trace (step ⟨IpFilters.withNonBroadcast, ⟨some (.v4 ⟨10, 9, 9, 9⟩)⟩⟩) init answeredRun) _ :=
    Machine.run_get (by decide +kernel)
  exact ⟨_, _, hr, by decide +kernel, by decide +kernel, (flows_relayed hr dnsKey).2.1⟩

end UdpProxy

end Easynet
