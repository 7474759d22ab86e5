import Easynet.Pipeline
/-!
# Keepalive — the latency that a client reports

Every three seconds `client_transport_io_task` reads the system clock and sends the milliseconds since the epoch in a
keepalive, which the server sends back as it is.  When a keepalive comes, the task reads the clock again and subtracts the
keepalive's timestamp, cast from `i64` to `u64`, from what it read.

The clock can be set back between the two readings, and the timestamp is whatever the server put there.  Where the
difference would be negative, a build with overflow checks panics and one without reports the difference modulo `2 ^ 64`
(`noUnderflow_iff`).
-/
namespace Easynet

open Machine (Run)

/-- A reading of the system clock: nanoseconds from the epoch, which it can be set to be before. -/
abbrev SystemTime := Int

/-- `duration_since(UNIX_EPOCH).unwrap().as_millis()`, or `none` if it panics. -/
def millisSinceEpoch (now : SystemTime) : Option Nat := if 0 ≤ now then some (now.toNat / 1000000) else none

/-- `received_timestamp - (sent_timestamp as u64)`, or `none` if it panics. -/
def latencyMs (overflowChecks : Bool) (receivedTimestamp : UInt64) (sentTimestamp : Int64) : Option UInt64 :=
  if receivedTimestamp < sentTimestamp.toUInt64 ∧ overflowChecks = true then none
  else some (receivedTimestamp - sentTimestamp.toUInt64)

/-- What the task logs of a keepalive. -/
structure LatencyReport where
  receivedTimestamp : UInt64
  sentTimestamp : Int64
  latencyMs : UInt64
  deriving DecidableEq, Repr

/-- The latency is the time that has passed. -/
def LatencyReport.Exact (report : LatencyReport) : Prop :=
  report.latencyMs.toNat + report.sentTimestamp.toUInt64.toNat = report.receivedTimestamp.toNat

/-- For these actions the task reads the clock. -/
def PipelineAct.readsClock : PipelineAct → Bool
  | .transportIo (.tick _)                         => true
  | .transportIo (.receive ⟨some (.keepalive _)⟩) => true
  | _                                              => false

/-- The actions of a pipeline, with the readings of the clock in them. -/
inductive ClockedAct
  | tick (now : SystemTime)
  | keepalive (now : SystemTime) (k : KeepAlive)
  | other (act : PipelineAct) (h : act.readsClock = false)
  deriving DecidableEq

/-- The tasks of a connected client, what they have logged, and whether one has panicked. -/
structure ClockedClient extends Pipeline where
  reports : List LatencyReport
  panicked : Bool
  deriving DecidableEq

/-- The timestamp of the keepalive that is sent. -/
def tickTimestamp (millis : Nat) : Int64 := (UInt64.ofNat millis).toInt64

/-- What the pipeline does and what is logged, or `none` if the task panics. -/
def ClockedAct.outcome (overflowChecks : Bool) : ClockedAct → Option (PipelineAct × Option LatencyReport)
  | .tick now => (millisSinceEpoch now).map (fun millis => (.transportIo (.tick (tickTimestamp millis)), none))
  | .keepalive now k =>
    (millisSinceEpoch now).bind (fun millis =>
      let receivedTimestamp := UInt64.ofNat millis
      (latencyMs overflowChecks receivedTimestamp k.timestamp).map (fun latency =>
        (.transportIo (.receive (.keepalive k)), some ⟨receivedTimestamp, k.timestamp, latency⟩)))
  | .other act _ => some (act, none)

namespace ClockedClient

def init : ClockedClient := ⟨.init, [], false⟩

/-- A task that panics is gone, as one that has returned. -/
def step (overflowChecks : Bool) (capacity : Nat) (s : ClockedClient) (a : ClockedAct) : Option ClockedClient :=
  match a.outcome overflowChecks with
  | some (act, report) =>
    (Pipeline.step capacity s.toPipeline act).map (fun p => ⟨p, s.reports ++ report.toList, s.panicked⟩)
  | none => (Pipeline.step capacity s.toPipeline (.transportIo .failed)).map (fun p => ⟨p, s.reports, true⟩)

variable {overflowChecks : Bool} {capacity : Nat} {s s' : ClockedClient} {a : ClockedAct}
  {h : List (ClockedClient × ClockedAct)}

/-- **What a step can do**: the pipeline's part of it, and a report or a panic. -/
theorem step_cases (hs : step overflowChecks capacity s a = some s') :
    (∃ act report, a.outcome overflowChecks = some (act, report) ∧
      Pipeline.step capacity s.toPipeline act = some s'.toPipeline ∧ s'.reports = s.reports ++ report.toList ∧
      s'.panicked = s.panicked) ∨
    (a.outcome overflowChecks = none ∧ Pipeline.step capacity s.toPipeline (.transportIo .failed) = some s'.toPipeline ∧
      s'.reports = s.reports ∧ s'.panicked = true) := by
  unfold step at hs
  split at hs
  · rename_i act report ho
    obtain ⟨p, hp, rfl⟩ := Option.map_eq_some_iff.1 hs
    exact .inl ⟨act, report, ho, hp, rfl, rfl⟩
  · rename_i ho
    obtain ⟨p, hp, rfl⟩ := Option.map_eq_some_iff.1 hs
    exact .inr ⟨ho, hp, rfl, rfl⟩

end ClockedClient

/-! ## When the difference is not negative -/

/-- **The clock is not before the epoch, and a keepalive's timestamp, as a `u64`, is not after the clock.** -/
def ClockedAct.Timely : ClockedAct → Prop
  | .tick now        => 0 ≤ now
  | .keepalive now k => 0 ≤ now ∧ k.timestamp.toUInt64 ≤ UInt64.ofNat (now.toNat / 1000000)
  | .other _ _       => True

instance : (a : ClockedAct) → Decidable a.Timely
  | .tick now      => inferInstanceAs (Decidable (0 ≤ now))
  | .keepalive _ _ => inferInstanceAs (Decidable (_ ∧ _))
  | .other _ _     => inferInstanceAs (Decidable True)

/-- **An echo is timely under a clock that has not gone back.** -/
theorem ClockedAct.timely_of_echo {sent now : SystemTime} (h0 : 0 ≤ sent) (hle : sent ≤ now)
    (hfits : now.toNat / 1000000 < 2 ^ 64) :
    (ClockedAct.keepalive now ⟨tickTimestamp (sent.toNat / 1000000)⟩).Timely := by
  refine ⟨Int.le_trans h0 hle, UInt64.le_iff_toNat_le.2 ?_⟩
  have hmono : sent.toNat / 1000000 ≤ now.toNat / 1000000 := Nat.div_le_div_right (Int.toNat_le_toNat hle)
  rw [tickTimestamp, UInt64.toUInt64_toInt64, UInt64.toNat_ofNat', UInt64.toNat_ofNat', Nat.mod_eq_of_lt hfits]
  exact Nat.le_trans (Nat.mod_le _ _) hmono

/-- With this century's readings: the timestamp is not negative, and not after the clock. -/
theorem ClockedAct.timely_iff {now : SystemTime} {timestamp : Int64} (hfits : now.toNat / 1000000 < 2 ^ 63) :
    (ClockedAct.keepalive now ⟨timestamp⟩).Timely ↔
      0 ≤ now ∧ 0 ≤ timestamp.toInt ∧ timestamp.toInt ≤ now.toNat / 1000000 := by
  have hlt : timestamp.toUInt64.toNat < 2 ^ 64 := timestamp.toUInt64.toNat_lt
  have hint : timestamp.toInt = if 2 * timestamp.toUInt64.toNat < 2 ^ 64 then (timestamp.toUInt64.toNat : Int)
      else timestamp.toUInt64.toNat - (2 : Int) ^ 64 := BitVec.toInt_eq_toNat_cond timestamp.toBitVec
  show 0 ≤ now ∧ timestamp.toUInt64 ≤ UInt64.ofNat (now.toNat / 1000000) ↔ _
  rw [UInt64.le_iff_toNat_le, UInt64.toNat_ofNat', Nat.mod_eq_of_lt (by omega)]
  refine and_congr_right (fun _ => ?_)
  by_cases hsign : 2 * timestamp.toUInt64.toNat < 2 ^ 64
  · rw [hint, if_pos hsign]
    omega
  · rw [hint, if_neg hsign]
    omega

theorem latencyMs_eq_none {overflowChecks : Bool} {received : UInt64} {sent : Int64}
    (h : latencyMs overflowChecks received sent = none) : ¬ sent.toUInt64 ≤ received := by
  unfold latencyMs at h
  split at h
  · rename_i hlt
    exact UInt64.not_le.2 hlt.1
  · cases h

/-- The latency is right exactly if the timestamp is not after the reading: otherwise it has wrapped. -/
theorem exact_latencyMs {overflowChecks : Bool} {received latency : UInt64} {sent : Int64}
    (h : latencyMs overflowChecks received sent = some latency) :
    (LatencyReport.mk received sent latency).Exact ↔ sent.toUInt64 ≤ received := by
  unfold latencyMs at h
  split at h
  · cases h
  · cases h
    have hr := received.toNat_lt
    have hs := sent.toUInt64.toNat_lt
    show (received - sent.toUInt64).toNat + sent.toUInt64.toNat = received.toNat ↔ _
    rw [UInt64.le_iff_toNat_le, UInt64.toNat_sub]
    omega

theorem ClockedAct.not_timely_of_panic {overflowChecks : Bool} {a : ClockedAct} (h : a.outcome overflowChecks = none) :
    ¬ a.Timely := by
  cases a with
  | tick now =>
    intro (h0 : 0 ≤ now)
    rw [outcome, millisSinceEpoch, if_pos h0] at h
    cases h
  | keepalive now k =>
    rintro ⟨h0, hle⟩
    rw [outcome, millisSinceEpoch, if_pos h0, Option.bind_some, Option.map_eq_none_iff] at h
    exact latencyMs_eq_none h hle
  | other act hact => cases h

theorem ClockedAct.timely_iff_exact {overflowChecks : Bool} {a : ClockedAct} {act : PipelineAct}
    {report : Option LatencyReport} (h : a.outcome overflowChecks = some (act, report)) :
    a.Timely ↔ ∀ r ∈ report, r.Exact := by
  cases a with
  | tick now =>
    obtain ⟨millis, hmillis, he⟩ := Option.map_eq_some_iff.1 h
    cases he
    refine iff_of_true ?_ (fun r hr => by cases hr)
    unfold millisSinceEpoch at hmillis
    split at hmillis
    · assumption
    · cases hmillis
  | keepalive now k =>
    obtain ⟨millis, hmillis, he⟩ := Option.bind_eq_some_iff.1 h
    obtain ⟨latency, hlatency, he⟩ := Option.map_eq_some_iff.1 he
    cases he
    unfold millisSinceEpoch at hmillis
    split at hmillis
    · rename_i h0
      cases hmillis
      rw [Timely, ← exact_latencyMs hlatency]
      exact ⟨fun ht r hr => Option.mem_some_iff.1 hr ▸ ht.2, fun hr => ⟨h0, hr _ rfl⟩⟩
    · cases hmillis
  | other act' hact =>
    cases h
    exact iff_of_true trivial (fun r hr => by cases hr)

/-! ## Runs -/

namespace ClockedClient

variable {overflowChecks : Bool} {capacity : Nat} {s s' : ClockedClient} {a : ClockedAct}
  {h : List (ClockedClient × ClockedAct)}

/-- **No task has panicked, and no latency that was reported had wrapped.** -/
structure NoUnderflow (s : ClockedClient) : Prop where
  panicked : s.panicked = false
  exact : ∀ report ∈ s.reports, report.Exact

theorem step_noUnderflow_iff (hs : step overflowChecks capacity s a = some s') :
    NoUnderflow s' ↔ NoUnderflow s ∧ a.Timely := by
  rcases step_cases hs with ⟨act, report, ho, -, hreports, hpanicked⟩ | ⟨ho, -, -, hpanicked⟩
  · rw [ClockedAct.timely_iff_exact ho]
    constructor
    · rintro ⟨hp, hexact⟩
      rw [hreports] at hexact
      refine ⟨⟨hpanicked ▸ hp, fun r hr => hexact r (List.mem_append_left _ hr)⟩, fun r hr => ?_⟩
      exact hexact r (List.mem_append_right _ (Option.mem_toList.2 hr))
    · rintro ⟨⟨hp, hexact⟩, hreport⟩
      refine ⟨hpanicked.trans hp, fun r hr => ?_⟩
      rw [hreports] at hr
      rcases List.mem_append.1 hr with hr | hr
      · exact hexact r hr
      · exact hreport r (Option.mem_toList.1 hr)
  · refine iff_of_false (fun hn => ?_) (fun hn => ClockedAct.not_timely_of_panic ho hn.2)
    cases hn.panicked.symm.trans hpanicked

/-- **The latency does not underflow, on a run, exactly if every reading and every keepalive of it is timely.** -/
theorem noUnderflow_iff (hr : Run (step overflowChecks capacity) init h s) :
    NoUnderflow s ↔ ∀ p ∈ h, p.2.Timely := by
  refine hr.history_invariant (fun h s => NoUnderflow s ↔ ∀ p ∈ h, p.2.Timely) ?_ ?_
  · exact iff_of_true ⟨rfl, fun _ hr => absurd hr List.not_mem_nil⟩ (fun _ hp => absurd hp List.not_mem_nil)
  · intro h s a s' _ ih hs
    rw [step_noUnderflow_iff hs, ih]
    simp [or_imp, forall_and]

/-- A keepalive is sent at four seconds and comes back at five. -/
def echoed : List ClockedAct :=
  [.tick 4000000000, .other (.transportIo (.sent true)) rfl, .keepalive 5000000000 ⟨4000⟩]

theorem noUnderflow_echoed : ∃ h s, Run (step true 4096) init h s ∧ h.map Prod.snd = echoed ∧
    s.reports.map LatencyReport.latencyMs = [1000] ∧ NoUnderflow s := by
  have hr : Run (step true 4096) init (Machine.trace (step true 4096) init echoed) _ := Machine.run_get (by decide +kernel)
  exact ⟨_, _, hr, by decide +kernel, by decide +kernel, (noUnderflow_iff hr).2 (by decide +kernel)⟩

/-- The same, but the clock is set back by two seconds in between. -/
def setBack : List ClockedAct :=
  [.tick 4000000000, .other (.transportIo (.sent true)) rfl, .keepalive 3000000000 ⟨4000⟩]

/-- **With overflow checks the task panics, without them it reports a latency of 584 million years**; and a timestamp of
-1 is enough for that. -/
theorem latency_underflows :
    (∃ h s, Run (step true 4096) init h s ∧ h.map Prod.snd = setBack ∧ s.panicked = true ∧ s.transportIo = .done) ∧
    (∃ h s, Run (step false 4096) init h s ∧ h.map Prod.snd = setBack ∧
      s.reports.map LatencyReport.latencyMs = [18446744073709550616]) ∧
    ∃ h s, Run (step true 4096) init h s ∧ h.map Prod.snd = [.keepalive 3000000000 ⟨-1⟩] ∧ s.panicked = true := by
  have hchecked : Run (step true 4096) init (Machine.trace (step true 4096) init setBack) _ :=
    Machine.run_get (by decide +kernel)
  have hwrapped : Run (step false 4096) init (Machine.trace (step false 4096) init setBack) _ :=
    Machine.run_get (by decide +kernel)
  have hnegative : Run (step true 4096) init (Machine.trace (step true 4096) init [.keepalive 3000000000 ⟨-1⟩]) _ :=
    Machine.run_get (by decide +kernel)
  exact ⟨⟨_, _, hchecked, by decide +kernel, by decide +kernel, by decide +kernel⟩,
    ⟨_, _, hwrapped, by decide +kernel, by decide +kernel⟩, _, _, hnegative, by decide +kernel, by decide +kernel⟩

end ClockedClient

end Easynet
