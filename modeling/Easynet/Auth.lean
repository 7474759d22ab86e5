import Easynet.Origin
/-!
# Auth — who gets a session, and whose packets reach the TUN device

`handle_handshake` validates a token only when one was provided, and the dispatchers turn an empty token into none.  So a
session, and the server's own token with it, goes to whoever sends the right token or no token at all.
`handle_data` looks at nothing: a payload reaches the TUN device whether or not its sender has a session.
-/
namespace Easynet

open Machine (Throughout throughout_past)

/-- The configuration that a step loads, if any, has server token `token`. -/
def loadsToken (token : String) : Action → Bool
  | .conn _ (.receive _ _ (some config) _) => config.token == token
  | _ => true

/-- A handshake that a step receives has a token. -/
def tokenGiven : Action → Bool
  | .conn _ (.receive _ ⟨some (.handshake request)⟩ _ _) => !request.token.isEmpty
  | _ => true

theorem token_of_not_refused {token serverToken : String} (ht : token.isEmpty = false) (hs : serverToken.isEmpty = false)
    (h : tokenRefused (provided token) serverToken = false) : token = serverToken := by
  simpa [tokenRefused, provided, validateToken, ht, hs] using h

section Token

variable {transport : Transport} {h : List (Server × Action)} {s : Server} {c : Nat} {conn : Conn} {token : String}

/-- With a server token set, a handshake that gave a token and got past the check gave that one. -/
theorem admitted_token (hr : ServerRun transport h s) (ht : token.isEmpty = false)
    (hload : ∀ p ∈ h, loadsToken token p.2) (hgiven : ∀ p ∈ h, tokenGiven p.2) (hc : s.conns[c]? = some conn)
    {q : Handshake × String} (hq : conn.phase.admitted = some q) : q.1.token = token ∧ q.2 = token := by
  obtain ⟨hok, p, hp, src, config, fresh, he, hcfg⟩ := admitted_checked hr hc hq
  have hl := hload p hp
  have hg := hgiven p hp
  rw [he] at hl hg
  have hl' : q.2 = token := by rw [← hcfg]; simpa [loadsToken] using hl
  have hg' : q.1.token.isEmpty = false := by simpa [tokenGiven, Message.handshake] using hg
  exact ⟨token_of_not_refused hg' ht (hl' ▸ hok), hl'⟩

/-- **Every session and every reply that gives one away answers a handshake with the server's token**, in every run on
which no handshake leaves its token empty. -/
theorem authenticated (hr : ServerRun transport h s) (ht : token.isEmpty = false)
    (hload : ∀ p ∈ h, loadsToken token p.2) (hgiven : ∀ p ∈ h, tokenGiven p.2) :
    Throughout (fun h t a => ∀ call client, sessionOp t a = some (.insert call client) →
      ∃ c act, a = .conn c act ∧ lastReceived c h = some (call.src, .handshake call.request) ∧
        call.request.token = token) h ∧
    (∀ c conn dst reply, s.conns[c]? = some conn → conn.outgoing = some (dst, .handshake reply) →
      reply.tunConfig ≠ none ∨ reply.token = token →
      ∃ request, lastReceived c h = some (dst, .handshake request) ∧ request.token = token) := by
  have hpast := throughout_past (fun p hp => And.intro (hload p hp) (hgiven p hp))
  refine ⟨hr.throughout_of hpast (fun h t a t' hr _ hD call client ho => ?_), fun c conn dst reply hc hout hgives => ?_⟩
  · obtain ⟨c, conn, fresh, found, rfl, hc, hp⟩ := insert_of_sessionOp ho
    have hadm := admitted_token hr ht (fun p hp => (hD p hp).1) (fun p hp => (hD p hp).2) hc
      (q := (call.request, call.serverToken)) (by rw [hp]; rfl)
    exact ⟨c, _, rfl, (request_received hr hc (by rw [hp]; rfl)).1, hadm.1⟩
  · rcases outgoing_handshake hout with ⟨-, -, rfl⟩ | ⟨call, hp, rfl, rfl⟩
    · -- the refusal carries neither
      rcases hgives with hg | hg
      · exact absurd rfl hg
      · subst hg; cases ht
    · have hadm := admitted_token hr ht hload hgiven hc (q := (call.request, call.serverToken)) (by rw [hp]; rfl)
      exact ⟨call.request, (request_received hr hc (by rw [hp]; rfl)).1, hadm.1⟩

end Token

def adminConfig : ServerConfig := { ServerConfig.default with token := "admin" }

def alice : SocketAddr := .v4 (.new 192 0 2 1) 40000

/-- A connection on which a handshake with this token is received and, if it is let in, answered and stored. -/
def handshakeRun (token : String) : List Action :=
  [.accept alice, .conn 0 (.receive alice (.handshake ⟨token, "", none⟩) (some adminConfig) "s0"),
   .conn 0 (.sent true), .conn 0 .lock, .conn 0 (.body "" none)]

theorem authenticated_admin :
    Throughout (fun h t a => ∀ call client, sessionOp t a = some (.insert call client) →
      ∃ c act, a = .conn c act ∧ lastReceived c h = some (call.src, .handshake call.request) ∧
        call.request.token = "admin") (played .stream (handshakeRun "admin")) ∧
    ∃ p ∈ played .stream (handshakeRun "admin"), (sessionOp p.1 p.2).isSome = true :=
  ⟨(authenticated (played_run (by decide)) (by decide) (by decide) (by decide)).1, by decide⟩

/-- With the server's token set to `admin`, a handshake without a token is told it and stored. -/
theorem handshake_without_token_admitted :
    ∃ s, ServerRun .stream (played .stream (handshakeRun "")) s ∧
      (∀ p ∈ played .stream (handshakeRun ""), loadsToken "admin" p.2) ∧
      received 0 (played .stream (handshakeRun "")) = [(alice, .handshake ⟨"", "", none⟩)] ∧
      (∃ p ∈ played .stream (handshakeRun ""), ∃ conn ∈ p.1.conns, conn.outgoing =
        some (alice, .handshake ⟨"admin", "s0", some (buildTunConfig adminConfig (.new 10 0 0 2))⟩)) ∧
      (s.sessions.lookup "s0").map Client.addr = some alice :=
  ⟨_, played_run (by decide), by decide, by decide, by decide, by decide⟩

/-! ## Data -/

/-- What a step puts on the transport channel, and who sent it. -/
def injected (s : Server) : Action → Option (SocketAddr × Bytes)
  | .conn c .enqueue =>
    match s.phaseOf c with
    | some (.data src payload) => if s.tunIo = .done then none else some (src, payload)
    | _                        => none
  | _ => none

theorem injected_spec {s s' : Server} {a : Action} (hs : step s a = some s') {src : SocketAddr} {payload : Bytes}
    (hi : injected s a = some (src, payload)) :
    s'.transportQueue = s.transportQueue ++ [payload] ∧
      ∃ c conn, a = .conn c .enqueue ∧ s.conns[c]? = some conn ∧ conn.phase = .data src payload := by
  unfold injected at hi
  split at hi
  · rename_i c
    obtain ⟨conn, conn', t, hc, hcs, rfl⟩ := step_connStep hs
    rw [phaseOf_eq hc] at hi
    cases hcs with
    | enqueued hp hio hroom =>
      rw [hp] at hi
      simp only [if_neg hio] at hi
      cases hi
      exact ⟨rfl, c, conn, rfl, hc, hp⟩
    | dropped hp hio =>
      rw [hp] at hi
      simp [if_pos hio] at hi
  · cases hi

/-- The log has a handshake of `addr` and, after it, only what leaves its session alone. -/
def Registered (addr : SocketAddr) (ops : List SessionOp) : Prop :=
  ∃ o₁ call client o₂, ops = o₁ ++ SessionOp.insert call client :: o₂ ∧ call.src = addr ∧
    ∀ op ∈ o₂, op.LeavesAlone call.sessionId client

theorem insert_addr {transport : Transport} {h : List (Server × Action)} {s : Server} (hr : ServerRun transport h s)
    {call : Call} {client : Client} (hm : SessionOp.insert call client ∈ sessionOps h) : client.addr = call.src := by
  obtain ⟨p, hp, ho⟩ := List.mem_filterMap.1 hm
  obtain ⟨i, hi, rfl⟩ := List.getElem_of_mem hp
  refine hr.throughout (C := fun _ t a => sessionOp t a = some (.insert call client) → client.addr = call.src)
    (fun h t a t' hr _ ho => ?_) i hi ho
  obtain ⟨c, conn, fresh, found, rfl, hc, hp⟩ := insert_of_sessionOp ho
  obtain ⟨tx, now, rfl, -⟩ := insert_stamped hr hc hp
  rfl

/-- **Every payload put on the transport channel came in a Data message from the address of a stored session**, in every
run on which each of them is sent by an address that has completed a handshake and been left alone since. -/
theorem injected_from_session {transport : Transport} {h : List (Server × Action)} {s : Server}
    (hr : ServerRun transport h s)
    (hreg : Throughout (fun h t a => ∀ src payload, injected t a = some (src, payload) →
      Registered src (sessionOps h)) h) :
    Throughout (fun h t a => ∀ src payload, injected t a = some (src, payload) →
      (∃ c, a = .conn c .enqueue ∧ lastReceived c h = some (src, .data ⟨payload⟩)) ∧
      ∃ id client, t.sessions.lookup id = some client ∧ client.addr = src) h := by
  refine hr.throughout_of hreg (fun h t a t' hr hs hD src payload hi => ?_)
  obtain ⟨-, c, conn, rfl, hc, hp⟩ := injected_spec hs hi
  obtain ⟨o₁, call, client, o₂, he, hsrc, hl⟩ := hD src payload hi
  refine ⟨⟨c, rfl, (request_received hr hc (by rw [hp]; rfl)).1⟩, call.sessionId, client, ?_, ?_⟩
  · exact lookup_of_leavesAlone hr he hl
  · have hm : SessionOp.insert call client ∈ sessionOps h := he ▸ List.mem_append_right _ List.mem_cons_self
    rw [insert_addr hr hm, hsrc]

/-- A handshake, and then a packet. -/
def packetRun : List Action :=
  handshakeRun "admin" ++ [Action.conn 0 (.receive alice (.data ⟨[69]⟩) none ""), .conn 0 .enqueue]

theorem injected_from_session_packet :
    Throughout (fun h t a => ∀ src payload, injected t a = some (src, payload) →
      (∃ c, a = .conn c .enqueue ∧ lastReceived c h = some (src, .data ⟨payload⟩)) ∧
      ∃ id client, t.sessions.lookup id = some client ∧ client.addr = src) (played .stream packetRun) ∧
    ∃ p ∈ played .stream packetRun, injected p.1 p.2 = some (alice, [69]) := by
  refine ⟨injected_from_session (played_run (by decide)) (fun i hi src payload hin => ?_), by decide⟩
  have hlast : ∀ i (hi : i < (played .stream packetRun).length),
      (injected (played .stream packetRun)[i].1 (played .stream packetRun)[i].2).isSome = true →
      i = 6 ∧ injected (played .stream packetRun)[i].1 (played .stream packetRun)[i].2 = some (alice, [69]) := by decide
  obtain ⟨rfl, he⟩ := hlast i hi (by rw [hin]; rfl)
  cases he.symm.trans hin
  exact ⟨[], _, _, [], rfl, rfl, by simp⟩

/-- A packet on a connection that never had a handshake reaches the transport channel. -/
theorem data_without_session_injected :
    ∃ s, ServerRun .stream (played .stream
        [.accept alice, .conn 0 (.receive alice (.data ⟨[69]⟩) (some adminConfig) ""), .conn 0 .enqueue]) s ∧
      s.transportQueue = [[69]] ∧ ∀ id, s.sessions.lookup id = none :=
  ⟨_, played_run (by decide), by decide, fun _ => rfl⟩

end Easynet
