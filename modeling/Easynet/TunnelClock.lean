import Easynet.TunnelFlow
/-!
# TunnelClock — the keepalives that come back

The timestamp of a keepalive that a client receives is the server's word: `handle_keepalive` sends back what it has
received.  Over a tunnel this word is the client's own.  Every timestamp that comes back was one that the client has put in
a keepalive, in the same order and not more often (`tunnel_echo`).  So the latency that it reports is the difference of two
readings of its own clock, and does not underflow unless this clock was set back (`tunnel_noUnderflow`).
-/
namespace Easynet

open Machine (Run)
open Fifo (items)

/-- The reading of the clock in this step. -/
def ClockedAct.reading : ClockedAct → Option SystemTime
  | .tick now        => some now
  | .keepalive now _ => some now
  | .other _ _       => none

/-- **A clock that is not set back**, that is never before the epoch and whose milliseconds since then are a `u64`. -/
structure SteadyReadings (readings : List SystemTime) : Prop where
  sorted : readings.Pairwise (· ≤ ·)
  epoch : ∀ now ∈ readings, 0 ≤ now
  fits : ∀ now ∈ readings, now.toNat / 1000000 < 2 ^ 64

/-- What is due was read off the clock. -/
theorem ClockedAct.ticked_reading {overflowChecks : Bool} {act : ClockedAct} {s : Pipeline} {timestamp : Int64}
    (h : s.ticked (act.pipelineAct overflowChecks) = some timestamp) :
    ∃ now, act = .tick now ∧ timestamp = tickTimestamp (now.toNat / 1000000) := by
  cases act with
  | tick now =>
    refine ⟨now, rfl, ?_⟩
    simp only [pipelineAct, outcome, millisSinceEpoch] at h
    split at h
    · cases h; rfl
    · cases h
  | keepalive now k =>
    simp only [pipelineAct, outcome] at h
    cases hmillis : millisSinceEpoch now with
    | none => rw [hmillis] at h; cases h
    | some millis =>
      rw [hmillis, Option.bind_some] at h
      cases hlatency : latencyMs overflowChecks (UInt64.ofNat millis) k.timestamp <;> rw [hlatency] at h <;> cases h
  | other act hact =>
    -- an action that reads no clock has no timestamp
    cases act with
    | tunIo act => cases h
    | transportIo act =>
      cases act with
      | tick timestamp => cases hact
      | _ => cases h

/-- Nothing has wrapped and nothing has panicked as long as the readings and the keepalives are timely. -/
theorem ClockedClient.noUnderflow_of_timely {overflowChecks : Bool} {capacity : Nat} {s : ClockedClient}
    {h : List (ClockedClient × ClockedAct)} (hr : Run (step overflowChecks capacity) init h s)
    (htimely : ∀ p ∈ h, p.2.Timely) : NoUnderflow s := by
  refine hr.invariant_of (fun _ a => a.Timely) htimely NoUnderflow ?_ ?_
  · exact ⟨rfl, fun _ hr => absurd hr List.not_mem_nil⟩
  · intro s a s' hs ha hstep
    exact (step_noUnderflow_iff hstep).2 ⟨hs, ha⟩

namespace Tunnel

variable {L : Link} {overflowChecks : Bool} {c : Nat} {t t' : Tunnel L} {a : TunnelAct L}
  {h : List (Tunnel L × TunnelAct L)}

/-- The reading of the client's clock in this step. -/
def reading (t : Tunnel L) (a : TunnelAct L) : Option SystemTime := (clockedAct t a).bind ClockedAct.reading

/-- **The keepalives that come back are ones that were sent**: the timestamps that the client takes off the link are, in
this order, among those that were due. -/
theorem echo_sublist (hr : Run (step overflowChecks c) (init L) h t) :
    (items (fun t a => (receivedDown t a).bind Message.timestamp) h).Sublist
      (items Pipeline.ticked (pipelineHistory overflowChecks h)) := by
  have hdown := ((linkDown_stage L overflowChecks c).isPrefix hr).filterMap Message.timestamp
  rw [← Fifo.items_bind, ← Fifo.items_bind] at hdown
  have hhanded : (items (fun t a => (pushedDown c t a).bind Message.timestamp) h).Sublist _ :=
    Fifo.items_sublist (fun t a t' hs => (step_moves hs).pushedDown_cases Message.timestamp) hr
  have hback := (keepalive_stage .stream c).isPrefix (serverRun hr)
  have hto : items (timestampTo c) (serverHistory c h) = _ := items_handedOn Message.timestamp h
  have hfrom : items (timestampFrom c) (serverHistory c h) = _ := items_receivedOn Message.timestamp h
  have hup := ((linkUp_stage L overflowChecks c).isPrefix hr).filterMap Message.timestamp
  rw [hto, hfrom] at hback
  rw [← Fifo.items_bind pushedUp] at hup
  have hsent := (handUp_stage L overflowChecks c Message.timestamp (fun _ => rfl)).isPrefix hr
  have hticked := (Pipeline.timestamp_stage channelCapacity).isPrefix (pipelineRun hr)
  have hout : items Pipeline.timestampOut (pipelineHistory overflowChecks h) = _ := items_handedOver Message.timestamp h
  rw [hout] at hticked
  exact hdown.sublist.trans (hhanded.trans (hback.trans (hup.trans (hsent.trans hticked))).sublist)

/-- What comes back in a keepalive was on the link. -/
theorem Moves.keepalive (hm : Moves overflowChecks c t a t') {now : SystemTime} {k : KeepAlive}
    (ha : clockedAct t a = some (.keepalive now k)) :
    (receivedDown t a).bind Message.timestamp = some k.timestamp ∧
      (pipelineAct overflowChecks t a).bind t.pipeline.ticked = none := by
  have hticked : (pipelineAct overflowChecks t a).bind t.pipeline.ticked = none := by
    rw [pipelineAct, ha]
    cases he : t.pipeline.ticked ((ClockedAct.keepalive now k).pipelineAct overflowChecks) with
    | none => exact he
    | some timestamp =>
      obtain ⟨_, hact, -⟩ := ClockedAct.ticked_reading he
      cases hact
  refine ⟨?_, hticked⟩
  cases hm with
  | task hp hw => cases ha; cases hw
  | @taskIdle tunConfig client env now' polled down hp hselect hpoll hidle =>
    simp only [clockedAct, hpoll, hidle] at ha
    cases ha
  | @taskPolled tunConfig client client' env now' polled down act hp hselect hpoll hact hs =>
    simp only [clockedAct, hpoll, hact] at ha
    cases ha
    simp only [receivedDown, hpoll]
    cases polled with
    | idle => cases hact
    | ended => cases hact
    | message msg =>
      obtain ⟨msg⟩ := msg
      rcases msg with _ | (handshake | data | k' | disconnect)
      · cases hact
      · cases hact
      · cases hact
      · cases hact; rfl
      · cases hact
  | taskSent hp hsending =>
    simp only [clockedAct, hp, Endpoint.clocked, hsending, TransportIo.outgoing] at ha
    cases ha
  | _ => cases ha

theorem ticked_reading {timestamp : Int64} (hm : timestamp ∈ items Pipeline.ticked (pipelineHistory overflowChecks h)) :
    ∃ now ∈ items reading h, timestamp = tickTimestamp (now.toNat / 1000000) := by
  rw [items_pipeline] at hm
  obtain ⟨p, hp, he⟩ := List.mem_filterMap.1 hm
  obtain ⟨act, hact, he⟩ := Option.bind_eq_some_iff.1 he
  obtain ⟨clocked, hclocked, rfl⟩ := Option.map_eq_some_iff.1 hact
  obtain ⟨now, rfl, htimestamp⟩ := ClockedAct.ticked_reading he
  refine ⟨now, List.mem_filterMap.2 ⟨p, hp, ?_⟩, htimestamp⟩
  rw [reading, hclocked]
  rfl

/-- With a steady clock, whatever a client reads and receives is timely. -/
theorem timely_of_steady (hr : Run (step overflowChecks c) (init L) h t) (hclock : SteadyReadings (items reading h))
    {p : Tunnel L × TunnelAct L} (hp : p ∈ h) {act : ClockedAct} (hact : clockedAct p.1 p.2 = some act) : act.Timely := by
  obtain ⟨h₁, h₂, t', rfl, hr₁, hs, -⟩ := hr.of_mem hp
  have hreading : items reading (h₁ ++ p :: h₂) = items reading h₁ ++ ((act.reading).toList ++ items reading h₂) := by
    have hone : reading p.1 p.2 = act.reading := by rw [reading, hact]; rfl
    rw [items, List.filterMap_append, List.filterMap_cons, hone]
    cases act.reading <;> rfl
  rw [hreading] at hclock
  cases act with
  | tick now => exact hclock.epoch now (by simp [ClockedAct.reading])
  | other => trivial
  | keepalive now k =>
    obtain ⟨hreceived, hticked⟩ := (step_moves hs).keepalive hact
    have hecho := echo_sublist (hr₁.snoc hs)
    rw [Fifo.items_snoc, hreceived, items_pipeline, Fifo.items_snoc, hticked, Option.toList_none, List.append_nil,
      ← items_pipeline] at hecho
    have hm : k.timestamp ∈ items Pipeline.ticked (pipelineHistory overflowChecks h₁) :=
      hecho.subset (List.mem_append_right _ (List.mem_singleton_self _))
    obtain ⟨sent, hsent, htimestamp⟩ := ticked_reading hm
    obtain ⟨timestamp⟩ := k
    cases htimestamp
    have hnow : now ∈ items reading h₁ ++
        ((ClockedAct.keepalive now ⟨tickTimestamp (sent.toNat / 1000000)⟩).reading.toList ++
          items reading h₂) := by simp [ClockedAct.reading]
    refine ClockedAct.timely_of_echo (hclock.epoch sent (List.mem_append_left _ hsent)) ?_ (hclock.fits now hnow)
    exact (List.pairwise_append.1 hclock.sorted).2.2 sent hsent now (by simp [ClockedAct.reading])

/-- **Over a tunnel keepalives come back as they were sent**: the timestamps that a client receives are among those of the
keepalives that were due, in the same order and none more often, whatever the server and its other clients do; so each of
them is a reading that the client's clock gave. -/
theorem tunnel_echo (hr : Run (step overflowChecks c) (init L) h t) :
    (items (fun t a => (receivedDown t a).bind Message.timestamp) h).Sublist
      (items Pipeline.ticked (pipelineHistory overflowChecks h)) ∧
    ∀ timestamp ∈ items (fun t a => (receivedDown t a).bind Message.timestamp) h,
      ∃ now ∈ items reading h, timestamp = tickTimestamp (now.toNat / 1000000) :=
  ⟨echo_sublist hr, fun _ hm => ticked_reading ((echo_sublist hr).subset hm)⟩

/-- A keepalive is sent at four seconds, and comes back at five. -/
def keepaliveEcho : List (TunnelAct tcp) :=
  [.task (.tick 4000000000), .taskSent (clear 0), .moveUp (clear 100), .serverPoll (clear 0) none "", .serverSent (clear 0),
   .moveDown (clear 100), .taskPoll (clear 0) 5000000000]

def echoTrace : List (Tunnel tcp × TunnelAct tcp) := Machine.trace (step true 0) (init tcp) (greeting ++ keepaliveEcho)

theorem tunnel_echo_keepalive :
    items (fun t a => (receivedDown t a).bind Message.timestamp) echoTrace = [4000] ∧
    ∃ t, Run (step true 0) (init tcp) echoTrace t ∧
      (items (fun t a => (receivedDown t a).bind Message.timestamp) echoTrace).Sublist
        (items Pipeline.ticked (pipelineHistory true echoTrace)) := by
  have hr : Run (step true 0) (init tcp) echoTrace _ := Machine.run_get (by decide +kernel)
  exact ⟨by decide +kernel, _, hr, (tunnel_echo hr).1⟩

/-- **A client whose clock is not set back, and shows a time of the epoch or later whose milliseconds fit, reports no
latency that has wrapped, and its task does not panic**, whether the build has overflow checks or not, and whatever the
server's other clients send. -/
theorem tunnel_noUnderflow (hr : Run (step overflowChecks c) (init L) h t) (hclock : SteadyReadings (items reading h)) :
    ClockedClient.NoUnderflow t.client.clocked := by
  refine ClockedClient.noUnderflow_of_timely (clockedRun hr) (fun q hq => ?_)
  obtain ⟨p, hp, he⟩ := List.mem_filterMap.1 hq
  obtain ⟨act, hact, rfl⟩ := Option.map_eq_some_iff.1 he
  exact timely_of_steady hr hclock hp hact

theorem tunnel_noUnderflow_keepalive :
    items reading echoTrace = [4000000000, 5000000000] ∧
    ∃ t, Run (step true 0) (init tcp) echoTrace t ∧ t.client.clocked.reports.map LatencyReport.latencyMs = [1000] ∧
      ClockedClient.NoUnderflow t.client.clocked := by
  have hr : Run (step true 0) (init tcp) echoTrace _ := Machine.run_get (by decide +kernel)
  have hreadings : items reading echoTrace = [4000000000, 5000000000] := by decide +kernel
  refine ⟨hreadings, _, hr, by decide +kernel, tunnel_noUnderflow hr ?_⟩
  rw [hreadings]
  exact ⟨by decide, by decide, by decide⟩

end Tunnel

end Easynet
