import Easynet.Agreement
/-!
# FailedHandshake — a handshake that stores no session

`handle_handshake` can end without a session: the configuration cannot be loaded, the token is refused, or the reply cannot
be sent.  It writes `SESSIONS` only after the reply, so that a call that fails leaves the sessions as they were.  The
address of a new session, however, is allocated before the reply, and is not given back.

A call is a stretch of a run from any state of the server, in which only its own task acts and time may pass.
-/
namespace Easynet

open Machine (Run)

/-- The handshake is let in and is given a new session. -/
def NewSession (s : Server) (request : Handshake) (load : Option ServerConfig) : Prop :=
  ∃ config, load = some config ∧ tokenRefused (provided request.token) config.token = false ∧
    ∀ id, provided request.sessionId = some id → s.sessions.lookup id = none

/-- The action is one of task `c`, or time passes. -/
def Action.only (c : Nat) : Action → Bool
  | .conn i _ => i == c
  | .clock _  => true
  | _         => false

/-- **A call of `handle_handshake`** on task `c` that starts in `s₀` and has returned in `s`: the task receives the
handshake, nothing but the task and the clock acts, and the task is back in its loop for the first time at the end. -/
structure HandshakeCall (s₀ : Server) (c : Nat) (src : SocketAddr) (request : Handshake) (load : Option ServerConfig)
    (fresh : String) (h : List (Server × Action)) (s : Server) : Prop where
  run : Run step s₀ ((s₀, .conn c (.receive src (.handshake request) load fresh)) :: h) s
  alone : ∀ p ∈ h, p.2.only c = true
  busy : ∀ p ∈ h, p.1.phaseOf c ≠ some .select
  returned : s.phaseOf c = some .select

/-! ## How far a call has come -/

section Call

variable {s₀ : Server} {request : Handshake} {load : Option ServerConfig}

/-- The counter once it is settled whether there is a new session. -/
def Spent (s₀ : Server) (request : Handshake) (load : Option ServerConfig) (nextClientId : UInt32) : Prop :=
  (NewSession s₀ request load ∧ nextClientId = s₀.nextClientId + 1) ∨
    (¬ NewSession s₀ request load ∧ nextClientId = s₀.nextClientId)

/-- **The stages of a call**: where the task stands, and the counter. -/
inductive Progress (s₀ : Server) (request : Handshake) (load : Option ServerConfig) : Phase → UInt32 → Prop
  | waitingLookup {src : SocketAddr} {config : ServerConfig} {id : String} (hload : load = some config)
      (htok : tokenRefused (provided request.token) config.token = false) (hid : provided request.sessionId = some id) :
      Progress s₀ request load (.waiting (.lookup src request config id)) s₀.nextClientId
  | lookup {src : SocketAddr} {config : ServerConfig} {id : String} (hload : load = some config)
      (htok : tokenRefused (provided request.token) config.token = false) (hid : provided request.sessionId = some id) :
      Progress s₀ request load (.holding (.lookup src request config id)) s₀.nextClientId
  | refusing {src : SocketAddr} {n : UInt32} (hn : Spent s₀ request load n) :
      Progress s₀ request load (.refusing src request) n
  | replying {call : Call} {n : UInt32} (hn : Spent s₀ request load n) : Progress s₀ request load (.replying call) n
  | waitingInsert {call : Call} {client : Client} {n : UInt32} (hn : Spent s₀ request load n) :
      Progress s₀ request load (.waiting (.insert call client)) n
  | insert {call : Call} {client : Client} {n : UInt32} (hn : Spent s₀ request load n) :
      Progress s₀ request load (.holding (.insert call client)) n
  | returned {n : UInt32} (hn : Spent s₀ request load n) : Progress s₀ request load .select n

theorem spent_old (h : ¬ NewSession s₀ request load) : Spent s₀ request load s₀.nextClientId := Or.inr ⟨h, rfl⟩

theorem dispatch_progress (src : SocketAddr) (fresh : String) :
    Progress s₀ request load (dispatch s₀.nextClientId src (.handshake request) load fresh).1
      (dispatch s₀.nextClientId src (.handshake request) load fresh).2 := by
  have hd := dispatch_spec s₀.nextClientId src (.handshake request) load fresh
  generalize dispatch s₀.nextClientId src (.handshake request) load fresh = d at hd
  cases hd with
  | noConfig hload =>
    refine .returned (spent_old ?_)
    rintro ⟨config, hconfig, -⟩
    cases hload.symm.trans hconfig
  | refused hload htok =>
    refine .refusing (spent_old ?_)
    rintro ⟨config, hconfig, hlet, -⟩
    cases hload.symm.trans hconfig
    cases htok.symm.trans hlet
  | lookup hload htok hid => exact .waitingLookup hload htok hid
  | new hload htok hid => exact .replying (Or.inl ⟨⟨_, hload, htok, fun id he => by cases hid.symm.trans he⟩, rfl⟩)

/-- The look-up decides whether there is a new session. -/
theorem lookupSession_progress {src : SocketAddr} {config : ServerConfig} {id : String} (hload : load = some config)
    (htok : tokenRefused (provided request.token) config.token = false) (hid : provided request.sessionId = some id)
    (fresh : String) :
    Progress s₀ request load (lookupSession s₀.sessions s₀.nextClientId src request config id fresh).1
      (lookupSession s₀.sessions s₀.nextClientId src request config id fresh).2 := by
  unfold lookupSession
  cases hl : s₀.sessions.lookup id with
  | some client =>
    refine .replying (spent_old ?_)
    rintro ⟨_, -, -, hnone⟩
    cases hl.symm.trans (hnone id hid)
  | none => exact .replying (Or.inl ⟨⟨config, hload, htok, fun id' he => by cases hid.symm.trans he; exact hl⟩, rfl⟩)

/-- **A step of the task takes the call on**, as long as the task is in it and stores nothing. -/
theorem ConnStep.progress {s t : Server} {c : Nat} {conn conn' : Conn} {act : ConnAct} (hc : s.conns[c]? = some conn)
    (h : ConnStep s c conn act conn' t) (hsessions : s.sessions = s₀.sessions)
    (hprog : Progress s₀ request load conn.phase s.nextClientId) (hbusy : conn.phase ≠ .select)
    (hstored : Easynet.stored c s (.conn c act) = none) :
    t.sessions = s₀.sessions ∧ Progress s₀ request load conn'.phase t.nextClientId := by
  generalize hnext : s.nextClientId = n at hprog
  cases h with
  | receive hp | readEnd hp | forward hp | forwardTo hp | forwardNone hp | tunClosed hp => exact absurd hp hbusy
  | lock hp =>
    rw [hp] at hprog
    refine ⟨hsessions, ?_⟩
    cases hprog with
    | waitingLookup hload htok hid => exact hnext ▸ .lookup hload htok hid
    | waitingInsert hn => exact .insert (hnext ▸ hn)
  | lookup hp =>
    rw [hp] at hprog
    refine ⟨hsessions, ?_⟩
    cases hprog with
    | lookup hload htok hid =>
      show Progress s₀ request load (lookupSession s.sessions s.nextClientId _ _ _ _ _).1
        (lookupSession s.sessions s.nextClientId _ _ _ _ _).2
      rw [hsessions, hnext]
      exact lookupSession_progress hload htok hid _
  | insert hp =>
    rw [stored_eq hc, hp] at hstored
    cases hstored
  | refused hp =>
    rw [hp] at hprog
    cases hprog with
    | refusing hn => exact ⟨hsessions, .returned (hnext ▸ hn)⟩
  | replied hp =>
    rw [hp] at hprog
    cases hprog with
    | replying hn => exact ⟨hsessions, .waitingInsert (hnext ▸ hn)⟩
  | replyFailed hp =>
    rw [hp] at hprog
    cases hprog with
    | replying hn => exact ⟨hsessions, .returned (hnext ▸ hn)⟩
  | disconnect hp | final hp | toClient hp | toNobody hp | keptAlive hp | forwarded hp | forwardFailed hp | sentTo hp
  | enqueued hp | dropped hp =>
    rw [hp] at hprog
    cases hprog

/-- A call that has stored nothing has left the sessions alone. -/
theorem call_progress {s₁ s : Server} {c : Nat} {h : List (Server × Action)} (hr : Run step s₁ h s)
    (hsessions : s₁.sessions = s₀.sessions) {conn₁ : Conn} (hc₁ : s₁.conns[c]? = some conn₁)
    (hprog : Progress s₀ request load conn₁.phase s₁.nextClientId)
    (halone : ∀ p ∈ h, p.2.only c = true)
    (hbusy : ∀ p ∈ h, p.1.phaseOf c ≠ some .select) (hstored : ∀ p ∈ h, Easynet.stored c p.1 p.2 = none) :
    s.sessions = s₀.sessions ∧ ∃ conn, s.conns[c]? = some conn ∧ Progress s₀ request load conn.phase s.nextClientId := by
  refine hr.invariant_of (fun t a => a.only c = true ∧ t.phaseOf c ≠ some .select ∧ Easynet.stored c t a = none)
    (fun p hp => ⟨halone p hp, hbusy p hp, hstored p hp⟩)
    (fun t => t.sessions = s₀.sessions ∧
      ∃ conn, t.conns[c]? = some conn ∧ Progress s₀ request load conn.phase t.nextClientId)
    ⟨hsessions, conn₁, hc₁, hprog⟩ ?_
  rintro t a t' ⟨hsess, conn, hc, hprog⟩ ⟨halone, hbusy, hstored⟩ hs
  cases a with
  | conn i act =>
    obtain rfl : i = c := beq_iff_eq.1 halone
    obtain ⟨conn₀, conn', u, hc₀, hcs, rfl⟩ := step_connStep hs
    cases hc.symm.trans hc₀
    have hbusy : conn.phase ≠ .select := fun he => hbusy (by rw [phaseOf_eq hc, he])
    obtain ⟨hsess', hprog'⟩ := hcs.progress hc hsess hprog hbusy hstored
    exact ⟨hsess', conn', hcs.conn_after hc, hprog'⟩
  | clock now =>
    cases hs
    exact ⟨hsess, conn, hc, hprog⟩
  | accept | tunPacket | tunIo | cleanup => cases halone

end Call

/-- **A handshake that stores no session leaves the sessions as they were, and the counter exactly if it was not given a new
session.** -/
theorem failed_handshake_iff {s₀ s : Server} {c : Nat} {src : SocketAddr} {request : Handshake} {load : Option ServerConfig}
    {fresh : String} {h : List (Server × Action)} (hcall : HandshakeCall s₀ c src request load fresh h s)
    (hfailed : storedSessions c h = []) :
    s.sessions = s₀.sessions ∧ (s.nextClientId = s₀.nextClientId ↔ ¬ NewSession s₀ request load) := by
  obtain ⟨-, s₁, hs, hr₁⟩ := hcall.run.split [] _ _ h rfl
  obtain ⟨conn₀, conn₁, t, hc₀, hcs, rfl⟩ := step_connStep hs
  have hc₁ := hcs.conn_after hc₀
  have hprog₁ : t.sessions = s₀.sessions ∧ Progress s₀ request load conn₁.phase t.nextClientId := by
    cases hcs with
    | receive => exact ⟨rfl, dispatch_progress src fresh⟩
  obtain ⟨hsessions, conn, hc, hprog⟩ := call_progress hr₁ hprog₁.1 hc₁ hprog₁.2 hcall.alone hcall.busy
    (fun p hp => List.filterMap_eq_nil_iff.1 hfailed p hp)
  have hphase : conn.phase = .select := Option.some.inj ((phaseOf_eq hc).symm.trans hcall.returned)
  rw [hphase] at hprog
  refine ⟨hsessions, ?_⟩
  cases hprog with
  | returned hn =>
    rcases hn with ⟨hnew, hn⟩ | ⟨hold, hn⟩
    · have hne : s₀.nextClientId + 1 ≠ s₀.nextClientId := by simp
      rw [hn]
      exact ⟨fun he => absurd he hne, fun hold => absurd hnew hold⟩
    · rw [hn]
      exact ⟨fun _ => hold, fun _ => rfl⟩

/-- A handshake with this token, up to the send of the reply. -/
def replyRun (token : String) (ok : Bool) : List Action :=
  [.conn 0 (.receive alice (.handshake ⟨token, "", none⟩) (some adminConfig) "s0"), .conn 0 (.sent ok)]

def replyTrace (token : String) (ok : Bool) : List (Server × Action) := Machine.trace step oneConn (replyRun token ok)

theorem failed_handshake_refused : ∃ s, HandshakeCall oneConn 0 alice ⟨"guess", "", none⟩ (some adminConfig) "s0"
    (replyTrace "guess" true).tail s ∧ s.sessions = oneConn.sessions ∧ s.nextClientId = oneConn.nextClientId := by
  have hsome : (Machine.exec step oneConn (replyRun "guess" true)).isSome = true := by decide
  have hcall : HandshakeCall oneConn 0 alice ⟨"guess", "", none⟩ (some adminConfig) "s0" (replyTrace "guess" true).tail
      ((Machine.exec step oneConn (replyRun "guess" true)).get hsome) :=
    ⟨Machine.run_get hsome, by decide, by decide, rfl⟩
  obtain ⟨hsessions, hiff⟩ := failed_handshake_iff hcall (by decide)
  have hold : ¬ NewSession oneConn ⟨"guess", "", none⟩ (some adminConfig) := by
    rintro ⟨config, hload, htok, -⟩
    cases hload
    revert htok
    decide
  exact ⟨_, hcall, hsessions, hiff.2 hold⟩

/-- **The address of a new session whose reply cannot be sent is lost.** -/
theorem failed_reply_spends_address : ∃ s, HandshakeCall oneConn 0 alice ⟨"admin", "", none⟩ (some adminConfig) "s0"
    (replyTrace "admin" false).tail s ∧ storedSessions 0 (replyTrace "admin" false).tail = [] ∧
    s.sessions.keys = [] ∧ oneConn.nextClientId = 2 ∧ s.nextClientId = 3 := by
  have hsome : (Machine.exec step oneConn (replyRun "admin" false)).isSome = true := by decide
  exact ⟨_, ⟨Machine.run_get hsome, by decide, by decide, rfl⟩, by decide, rfl, rfl, rfl⟩

end Easynet
