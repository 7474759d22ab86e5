import Easynet.Auth
import Mathlib.Data.List.Induction
/-!
# Expiry — what a cleanup round takes for an idle session

The only stamp a session has is `last_seen`, and only a handshake writes it: it is the time at which the handshake last
stored under the id was answered (`lastSeen_eq_answered`).  Keepalives and data leave it alone, so a cleanup round spares
the sessions of clients heard from within the hour exactly when those clients also shook hands within the hour.
-/
namespace Easynet

open Machine (Run Throughout throughout_past)

/-! ## The clock -/

/-- A step does not set the clock back. -/
def steadyClock (s : Server) : Action → Bool
  | .clock now => decide (s.clock ≤ now)
  | _          => true

theorem step_clock {s s' : Server} {a : Action} (h : step s a = some s') (hs : steadyClock s a = true) :
    s.clock ≤ s'.clock := by
  by_cases ha : ∃ now, a = .clock now
  · obtain ⟨now, rfl⟩ := ha
    cases h
    exact of_decide_eq_true hs
  · have hclock := (step_frame h).clock (fun now he => ha ⟨now, he⟩)
    exact Nat.le_of_eq hclock.symm

theorem clock_mono {s₀ s : Server} {h : List (Server × Action)} (hr : Run step s₀ h s)
    (hclock : ∀ p ∈ h, steadyClock p.1 p.2) : s₀.clock ≤ s.clock :=
  hr.invariant_of (fun s a => steadyClock s a = true) hclock (fun s => s₀.clock ≤ s.clock) (Nat.le_refl _)
    (fun _ _ _ ih hst hs => Nat.le_trans ih (step_clock hs hst))

theorem clock_le_of_mem {s₀ s : Server} {h : List (Server × Action)} (hr : Run step s₀ h s)
    (hclock : ∀ p ∈ h, steadyClock p.1 p.2) {p : Server × Action} (hp : p ∈ h) :
    s₀.clock ≤ p.1.clock ∧ p.1.clock ≤ s.clock := by
  obtain ⟨h₁, h₂, t', rfl, hr₁, hs, hr₂⟩ := hr.of_mem hp
  refine ⟨clock_mono hr₁ (fun q hq => hclock q (List.mem_append_left _ hq)), Nat.le_trans (step_clock hs (hclock p hp)) ?_⟩
  exact clock_mono hr₂ (fun q hq => hclock q (List.mem_append_right _ (List.mem_cons_of_mem _ hq)))

theorem mem_of_sentTimes {c time : Nat} {h : List (Server × Action)} (ht : (sentTimes c h).getLast? = some time) :
    ∃ p ∈ h, p.1.clock = time := by
  obtain ⟨p, hp, hpt⟩ := List.mem_filterMap.1 (List.mem_of_getLast? ht)
  refine ⟨p, hp, ?_⟩
  split at hpt
  · split at hpt
    · exact Option.some.inj hpt
    · cases hpt
  · cases hpt

/-! ## The stamp of a session -/

/-- The task that a step stores a handshake for, if it stores one under `id`. -/
def storedBy (id : String) (s : Server) (a : Action) : Option Nat :=
  match a, sessionOp s a with
  | .conn c _, some (.insert call _) => if call.sessionId = id then some c else none
  | _, _                             => none

/-- When the handshake last stored under `id` was answered, from the steps of a run, latest first. -/
def answeredRev (id : String) : List (Server × Action) → Option Nat
  | []             => none
  | (s, a) :: past => match storedBy id s a with
    | some c => (sentTimes c past.reverse).getLast?
    | none   => answeredRev id past

/-- When the handshake last stored under `id` was answered. -/
def answered (id : String) (h : List (Server × Action)) : Option Nat := answeredRev id h.reverse

theorem storedBy_eq_none {id : String} {s : Server} {a : Action}
    (h : ∀ call client, sessionOp s a = some (.insert call client) → call.sessionId ≠ id) : storedBy id s a = none := by
  unfold storedBy
  split
  · rename_i call client ho
    exact if_neg (h call client ho)
  · rfl

theorem answered_append (id : String) (h : List (Server × Action)) (s : Server) (a : Action) :
    answered id (h ++ [(s, a)]) = match storedBy id s a with
      | some c => (sentTimes c h).getLast?
      | none   => answered id h := by
  simp [answered, answeredRev]

theorem mem_of_answered {id : String} {time : Nat} : ∀ {h : List (Server × Action)},
    answered id h = some time → ∃ p ∈ h, p.1.clock = time := by
  intro h
  induction h using List.reverseRecOn with
  | nil => intro ha; cases ha
  | append_singleton h p ih =>
    intro ha
    rw [answered_append] at ha
    cases hst : storedBy id p.1 p.2 with
    | none =>
      obtain ⟨q, hq, hqt⟩ := ih (by simpa [hst] using ha)
      exact ⟨q, List.mem_append_left _ hq, hqt⟩
    | some c =>
      simp only [hst] at ha
      obtain ⟨q, hq, hqt⟩ := mem_of_sentTimes ha
      exact ⟨q, List.mem_append_left _ hq, hqt⟩

/-- **A stored session was last seen when the handshake last stored under its id was answered.** -/
theorem lastSeen_eq_answered {transport : Transport} {h : List (Server × Action)} {s : Server}
    (hr : ServerRun transport h s) {id : String} {client : Client} (hl : s.sessions.lookup id = some client) :
    answered id h = some client.lastSeen := by
  refine hr.history_invariant (fun h s => ∀ client, s.sessions.lookup id = some client →
    answered id h = some client.lastSeen) (fun client hl => by cases hl) (fun h s a s' hr ih hs client hl => ?_) client hl
  rw [answered_append]
  rcases lookup_of_step hs hl with ⟨call, ho, hid⟩ | ⟨hold, hne⟩
  · obtain ⟨c, conn, fresh, found, rfl, hc, hp⟩ := insert_of_sessionOp ho
    obtain ⟨tx, now, rfl, hnow⟩ := insert_stamped hr hc hp
    simpa only [storedBy, ho, if_pos hid, Call.client] using hnow
  · rw [storedBy_eq_none hne]
    exact ih client hold

/-! ## Cleanup rounds -/

/-- A step receives a handshake, data or keepalive from `addr`. -/
def hears (addr : SocketAddr) : Action → Bool
  | .conn _ (.receive src ⟨some (.handshake _)⟩ _ _) => decide (src = addr)
  | .conn _ (.receive src ⟨some (.data _)⟩ _ _)      => decide (src = addr)
  | .conn _ (.receive src ⟨some (.keepalive _)⟩ _ _) => decide (src = addr)
  | _                                                => false

/-- `addr` was heard from less than a session's lifetime before `now`. -/
def Heard (addr : SocketAddr) (now : Nat) (h : List (Server × Action)) : Prop :=
  ∃ p ∈ h, hears addr p.2 = true ∧ now < p.1.clock + sessionLifetime

instance (addr : SocketAddr) (now : Nat) (h : List (Server × Action)) : Decidable (Heard addr now h) :=
  inferInstanceAs (Decidable (∃ p ∈ h, hears addr p.2 = true ∧ now < p.1.clock + sessionLifetime))

theorem lookup_round {s s' : Server} (hs : step s (.cleanup .round) = some s') (id : String) :
    s'.sessions.lookup id = (s.sessions.lookup id).filter (shouldKeep s.clock) := by
  rw [step_sessions hs]
  exact lookup_cleanup ..

theorem round_keeps_iff {transport : Transport} {h : List (Server × Action)} {s s' : Server}
    (hr : ServerRun transport h s) (hclock : ∀ p ∈ h, steadyClock p.1 p.2) (hs : step s (.cleanup .round) = some s')
    {id : String} {client : Client} (hl : s.sessions.lookup id = some client) :
    s'.sessions.lookup id = some client ↔ ∃ time, answered id h = some time ∧ s.clock < time + sessionLifetime := by
  have ha := lastSeen_eq_answered hr hl
  obtain ⟨p, hp, hpt⟩ := mem_of_answered ha
  have hle : client.lastSeen ≤ s.clock := hpt ▸ (clock_le_of_mem hr hclock hp).2
  rw [lookup_round hs, hl, Option.filter_eq_some_iff, shouldKeep_iff hle, ha]
  simp

/-- **No cleanup round removes a session whose client was heard from within the hour, if and only if at every round each
such session has a handshake answered within the hour.** -/
theorem live_sessions_kept_iff {transport : Transport} {h : List (Server × Action)} {s : Server}
    (hr : ServerRun transport h s) (hclock : ∀ p ∈ h, steadyClock p.1 p.2) :
    Throughout (fun h t a => a = .cleanup .round → ∀ id client, t.sessions.lookup id = some client →
      Heard client.addr t.clock h → ∀ t', step t a = some t' → t'.sessions.lookup id = some client) h ↔
    Throughout (fun h t a => a = .cleanup .round → ∀ id client, t.sessions.lookup id = some client →
      Heard client.addr t.clock h → ∃ time, answered id h = some time ∧ t.clock < time + sessionLifetime) h := by
  refine hr.throughout_congr (throughout_past hclock) (fun h t a t' hr hs hsteady => ?_)
  refine forall_congr' (fun ha => forall_congr' fun id => forall_congr' fun client => forall_congr' fun hl =>
    forall_congr' fun _ => ?_)
  subst ha
  rw [← round_keeps_iff hr hsteady hs hl]
  exact ⟨fun hk => hk t' hs, fun hk t'' hs' => by cases hs.symm.trans hs'; exact hk⟩

/-- A handshake, a keepalive half an hour later, and a cleanup round at `now`. -/
def keepaliveRun (now : Nat) : List Action :=
  handshakeRun "admin" ++
  [Action.clock (1800 * second), .conn 0 (.receive alice (.keepalive ⟨0⟩) none ""), .conn 0 (.sent true),
   .clock now, .cleanup .wake, .cleanup .lock, .cleanup .round]

theorem live_sessions_kept_within_hour :
    Throughout (fun h t a => a = .cleanup .round → ∀ id client, t.sessions.lookup id = some client →
      Heard client.addr t.clock h → ∀ t', step t a = some t' → t'.sessions.lookup id = some client)
        (played .stream (keepaliveRun (3599 * second))) ∧
    ∃ p ∈ played .stream (keepaliveRun (3599 * second)), p.2 = .cleanup .round ∧
      (p.1.sessions.lookup "s0").map Client.addr = some alice := by
  refine ⟨(live_sessions_kept_iff (played_run (by decide)) (by decide)).2 (fun i hi ha id client hl _ => ?_), by decide⟩
  have hround : Throughout (fun h t a => a = .cleanup .round → (∀ e ∈ t.sessions.entries, e.1 = "s0") ∧
      answered "s0" h = some 0 ∧ t.clock < 0 + sessionLifetime) (played .stream (keepaliveRun (3599 * second))) := by
    decide
  obtain ⟨hids, hans, hlt⟩ := hround i hi ha
  obtain rfl : id = "s0" := hids _ (Table.lookup_eq_some_iff.1 hl)
  exact ⟨0, hans, hlt⟩

/-- A client that shook hands at the start and was heard from half an hour later has lost its session after the hour. -/
theorem heard_session_expired :
    ∃ s, ServerRun .stream (played .stream (keepaliveRun (3600 * second))) s ∧
      (∀ p ∈ played .stream (keepaliveRun (3600 * second)), steadyClock p.1 p.2) ∧
      (∃ p ∈ played .stream (keepaliveRun (3600 * second)), hears alice p.2 = true ∧ p.1.clock = 1800 * second) ∧
      (∃ p ∈ played .stream (keepaliveRun (3600 * second)), p.2 = .cleanup .round ∧ p.1.clock = 3600 * second ∧
        (p.1.sessions.lookup "s0").map Client.addr = some alice) ∧
      s.sessions.lookup "s0" = none :=
  ⟨_, played_run (by decide), by decide, by decide, by decide, by decide⟩

end Easynet
