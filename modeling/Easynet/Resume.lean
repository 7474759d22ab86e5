import Easynet.Address
/-!
# Resume — a client that comes back with its session id

A handshake that carries a stored id is answered with the session stored under it, and a session keeps its address for
as long as it is carried on.  But a connection's way out is `handle_disconnect`, which removes the session stored with
its peer's address: a client gets its session back only if its new handshake is looked up before that has happened.
-/
namespace Easynet

open Machine (Run)

/-- The session id and the address that a step has told a client. -/
def gave (s : Server) : Action → Option (String × Ipv4Addr)
  | .conn c (.sent true) =>
    match s.phaseOf c with
    | some (.replying call) => some (call.sessionId, call.virtualIp)
    | _                     => none
  | _ => none

section Runs

variable {transport : Transport} {h : List (Server × Action)} {s : Server}

/-- What a client was told about a session is what was allocated to it. -/
theorem gave_owned (hr : ServerRun transport h s) {p : Server × Action} (hp : p ∈ h) {id : String}
    {virtualIp : Ipv4Addr} (hg : gave p.1 p.2 = some (id, virtualIp)) : ∃ tunConfig, Owned h id virtualIp tunConfig := by
  unfold gave at hg
  split at hg
  · split at hg
    · rename_i call hph
      cases hg
      obtain ⟨conn, hc, hphase⟩ := Option.map_eq_some_iff.1 hph
      exact ⟨call.tunConfig, call_owned hr hp hc (by rw [hphase]; rfl)⟩
    · cases hg
  · cases hg

/-- While the clock does not go back, the rounds after a session was stored come after its stamp, and before the end of
its hour if the run does. -/
theorem cleanup_within (hr : ServerRun transport h s) (hclock : ∀ p ∈ h, steadyClock p.1 p.2)
    {h₁ h₂ : List (Server × Action)} {t : Server} {a : Action} (he : h = h₁ ++ (t, a) :: h₂)
    {call : Call} {client : Client} (hst : sessionOp t a = some (.insert call client))
    (htime : s.clock < client.lastSeen + sessionLifetime) {now : Nat} (hm : SessionOp.cleanup now ∈ sessionOps h₂) :
    client.lastSeen ≤ now ∧ now < client.lastSeen + sessionLifetime := by
  obtain ⟨p, hp, ho⟩ := List.mem_filterMap.1 hm
  obtain ⟨hr₁, t', hs, hr₂⟩ := hr.split h₁ t a h₂ he
  subst he
  obtain rfl := cleanup_of_sessionOp ho
  have hclock₁ : ∀ q ∈ h₁, steadyClock q.1 q.2 := fun q hq => hclock q (List.mem_append_left _ hq)
  have hclock₂ : ∀ q ∈ h₂, steadyClock q.1 q.2 :=
    fun q hq => hclock q (List.mem_append_right _ (List.mem_cons_of_mem _ hq))
  have hstep : t.clock ≤ t'.clock := step_clock hs (hclock (t, a) (List.mem_append_right _ List.mem_cons_self))
  -- the stamp is the time of a send before the insert
  obtain ⟨c, conn, fresh, found, rfl, hc, hphase⟩ := insert_of_sessionOp hst
  obtain ⟨tx, stamp, rfl, hstamp⟩ := insert_stamped hr₁ hc hphase
  obtain ⟨q, hq, rfl⟩ := mem_of_sentTimes hstamp
  have hq := (clock_le_of_mem hr₁ hclock₁ hq).2
  obtain ⟨hlo, hhi⟩ := clock_le_of_mem hr₂ hclock₂ hp
  exact ⟨Nat.le_trans hq (Nat.le_trans hstep hlo), Nat.lt_of_le_of_lt hhi htime⟩

/-- **A handshake that carries a session id the client was given is answered with that id and that address**, less than an
hour after the session was last stored, if nothing disconnected the address stored with it in between. -/
theorem resumed (hr : ServerRun transport h s) (hfresh : ((allocations h).map Prod.fst).Nodup)
    (hclock : ∀ p ∈ h, steadyClock p.1 p.2) (id : String) (virtualIp : Ipv4Addr)
    (hgave : ∃ p ∈ h, gave p.1 p.2 = some (id, virtualIp))
    (h₁ h₂ : List (Server × Action)) {t : Server} {a : Action} {call : Call} {client : Client}
    (he : h = h₁ ++ (t, a) :: h₂) (hst : sessionOp t a = some (.insert call client)) (hid : call.sessionId = id)
    (hlast : ∀ p ∈ h₂, ∀ call' client', sessionOp p.1 p.2 = some (.insert call' client') → call'.sessionId ≠ id)
    (hopen : ∀ p ∈ h₂, ∀ found, sessionOp p.1 p.2 ≠ some (.disconnect client.addr found))
    (htime : s.clock < client.lastSeen + sessionLifetime)
    (c : Nat) {conn : Conn} {src : SocketAddr} {request : Handshake} (config : ServerConfig) {fresh : String}
    {found : Option String} {s' : Server} (hc : s.conns[c]? = some conn)
    (hp : conn.phase = .holding (.lookup src request config id)) (hs : step s (.conn c (.body fresh found)) = some s') :
    lastReceived c h = some (src, .handshake request) ∧ request.sessionId = id ∧
    ∃ conn' tunConfig, s'.conns[c]? = some conn' ∧
      conn'.outgoing = some (src, .handshake ⟨config.token, id, some tunConfig⟩) ∧
      tunConfig.address = virtualIp.toText := by
  -- the session is still stored as the handshake left it
  have hl : s.sessions.lookup id = some client := by
    have hops : sessionOps h = sessionOps h₁ ++ SessionOp.insert call client :: sessionOps h₂ := by
      rw [he, sessionOps_append]; simp [sessionOps, hst]
    rw [← hid]
    refine lookup_of_leavesAlone hr hops (fun op hop => ?_)
    obtain ⟨p, hpm, ho⟩ := List.mem_filterMap.1 hop
    cases op with
    | insert call' client' => rw [hid]; exact hlast p hpm call' client' ho
    | disconnect addr found' => rintro rfl; exact hopen p hpm found' ho
    | cleanup now => exact cleanup_within hr hclock he hst htime hop
  -- and has the address the client was given
  obtain ⟨p, hpm, hg⟩ := hgave
  obtain ⟨_, hown⟩ := gave_owned hr hpm hg
  obtain ⟨k, cfg, hk, hip, hcfg⟩ := (session_owned hr).2 id client hl
  have hvip : client.virtualIp = virtualIp :=
    (Owned.virtualIp_eq hfresh ⟨k, cfg, hk, hip, hcfg⟩).trans (hown.virtualIp_eq hfresh).symm
  have hwant := wanted_provided hr hc (q := (request, id)) (by rw [hp]; rfl)
  refine ⟨(request_received hr hc (by rw [hp]; rfl)).1, ?_, ?_⟩
  · unfold provided at hwant
    split at hwant
    · cases hwant
    · exact Option.some.inj hwant
  · simp only [step, hc, connStep, hp, sectionBody, lookupSession, hl, Option.some.injEq] at hs
    subst hs
    refine ⟨_, client.tunConfig, getElem?_setConn hc _ c |>.trans (if_pos rfl), rfl, ?_⟩
    rw [hcfg, hvip]
    rfl

end Runs

/-- Where the client comes back from. -/
def returning : SocketAddr := .v4 (.new 192 0 2 1) 40001

/-- A new connection, and a handshake on it that carries the session id, up to its look-up. -/
def returnRun : List Action :=
  [.accept returning, .conn 1 (.receive returning (.handshake ⟨"admin", "s0", none⟩) (some adminConfig) "s1"),
   .conn 1 .lock]

/-- The first connection ends, and the client comes back before that connection's task has got to `SESSIONS`. -/
def soonRun : List Action := handshakeRun "admin" ++ Action.conn 0 .readEnd :: returnRun

theorem resumed_before_close :
    ∃ s s', ServerRun .stream (played .stream soonRun) s ∧
      step s (.conn 1 (.body "s1" none)) = some s' ∧
      ∃ (conn' : Conn) (tunConfig : TunConfig), s'.conns[1]? = some conn' ∧
        conn'.outgoing = some (returning, .handshake ⟨"admin", "s0", some tunConfig⟩) ∧
        tunConfig.address = (Ipv4Addr.new 10 0 0 2).toText := by
  have hquiet : ∀ p ∈ (played .stream soonRun).drop 5, sessionOp p.1 p.2 = none := by decide
  have hr : ServerRun .stream (played .stream soonRun) _ := played_run (by decide)
  have hs : step ((Machine.exec step (Server.init .stream) soonRun).get (by decide)) (.conn 1 (.body "s1" none)) =
    some _ := rfl
  refine ⟨_, _, hr, hs, (resumed hr (by decide) (by decide) "s0" (.new 10 0 0 2) (by decide)
    ((played .stream soonRun).take 4) _ rfl rfl rfl
    (fun p hp call client ho => ?_) (fun p hp found ho => ?_) (by decide) 1 adminConfig rfl rfl hs).2.2⟩
  · rw [hquiet p hp] at ho; cases ho
  · rw [hquiet p hp] at ho; cases ho

/-- The first connection is closed by its peer and its task runs to its end. -/
def closeRun : List Action := [.conn 0 .readEnd, .conn 0 .lock, .conn 0 (.body "" (some "s0"))]

/-- A client whose connection has ended comes back at once and gets another session and another address. -/
theorem session_lost_on_close :
    ∃ s, ServerRun .stream (played .stream
        (handshakeRun "admin" ++ closeRun ++ returnRun ++ [Action.conn 1 (.body "s1" none)])) s ∧
      (∃ p ∈ played .stream (handshakeRun "admin" ++ closeRun ++ returnRun ++ [Action.conn 1 (.body "s1" none)]),
        gave p.1 p.2 = some ("s0", .new 10 0 0 2)) ∧
      s.clock = 0 ∧
      received 1 (played .stream (handshakeRun "admin" ++ closeRun ++ returnRun ++ [Action.conn 1 (.body "s1" none)])) =
        [(returning, .handshake ⟨"admin", "s0", none⟩)] ∧
      s.conns[1]?.bind Conn.outgoing =
        some (returning, .handshake ⟨"admin", "s1", some (buildTunConfig adminConfig (.new 10 0 0 3))⟩) :=
  ⟨_, played_run (by decide), by decide, by decide, by decide, by decide⟩

/-! ## One binding for each id -/

/-- A session id with an address and a configuration: in a handshake reply that a task sends in the run, or in the table at
some moment of it. -/
inductive Bound (h : List (Server × Action)) (s : Server) : String → Ipv4Addr → TunConfig → Prop
  | reply {p : Server × Action} {c : Nat} {ok : Bool} {conn : Conn} {call : Call} (hp : p ∈ h)
      (ha : p.2 = .conn c (.sent ok)) (hc : p.1.conns[c]? = some conn) (hphase : conn.phase = .replying call) :
      Bound h s call.sessionId call.virtualIp call.tunConfig
  | entry {p : Server × Action} {id : String} {client : Client} (hp : p ∈ h)
      (hl : p.1.sessions.lookup id = some client) : Bound h s id client.virtualIp client.tunConfig
  | current {id : String} {client : Client} (hl : s.sessions.lookup id = some client) :
      Bound h s id client.virtualIp client.tunConfig

theorem Bound.owned {transport : Transport} {h : List (Server × Action)} {s : Server} (hr : ServerRun transport h s)
    {id : String} {virtualIp : Ipv4Addr} {tunConfig : TunConfig} (hb : Bound h s id virtualIp tunConfig) :
    Owned h id virtualIp tunConfig := by
  cases hb with
  | reply hp _ hc hphase => exact call_owned hr hp hc (by rw [hphase]; rfl)
  | @entry p _ client hp hl =>
    obtain ⟨h₁, h₂, -, rfl, hr₁, -⟩ := hr.of_mem hp
    exact ((session_owned hr₁).2 id client hl).append _
  | @current _ client hl => exact (session_owned hr).2 id client hl

/-- **Any two occurrences of a session id have the same virtual address and the same configuration, whose address is the
text of the virtual address**, in every run on which no new id is handed out twice. -/
theorem binding_stable {transport : Transport} {h : List (Server × Action)} {s : Server} (hr : ServerRun transport h s)
    (hfresh : ((allocations h).map Prod.fst).Nodup) {id : String} {ip₁ ip₂ : Ipv4Addr} {cfg₁ cfg₂ : TunConfig}
    (h₁ : Bound h s id ip₁ cfg₁) (h₂ : Bound h s id ip₂ cfg₂) :
    ip₁ = ip₂ ∧ cfg₁ = cfg₂ ∧ cfg₁.address = ip₁.toText := by
  obtain ⟨hip, hcfg⟩ := (h₁.owned hr).unique hfresh (h₂.owned hr)
  exact ⟨hip, hcfg, (h₁.owned hr).address_eq⟩

/-- A client comes back, and its session is removed between the look-up and the insert. -/
def reboundRun : List Action :=
  handshakeRun "admin" ++ returnRun ++ [Action.conn 1 (.body "s1" none)] ++ closeRun ++
    [Action.conn 1 (.sent true), .conn 1 .lock, .conn 1 (.body "" none)]

theorem binding_stable_rebound :
    ∃ s client, ServerRun .stream (played .stream reboundRun) s ∧ s.sessions.lookup "s0" = some client ∧
      (∃ p ∈ played .stream reboundRun, p.2 = .conn 0 (.body "" (some "s0"))) ∧
      client.virtualIp = .new 10 0 0 2 ∧ client.tunConfig = buildTunConfig adminConfig (.new 10 0 0 2) := by
  have hr : ServerRun .stream (played .stream reboundRun) _ := played_run (by decide)
  have hfirst : ∀ s, Bound (played .stream reboundRun) s "s0" (.new 10 0 0 2)
      (buildTunConfig adminConfig (.new 10 0 0 2)) := fun s =>
    .reply (p := (played .stream reboundRun)[2]) (c := 0) (List.getElem_mem _) rfl rfl rfl
  obtain ⟨hip, hcfg, -⟩ := binding_stable hr (by decide) (.current rfl) (hfirst _)
  exact ⟨_, _, hr, rfl, by decide, hip, hcfg⟩

end Easynet
