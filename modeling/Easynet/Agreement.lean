import Easynet.Address
import Easynet.Client
/-!
# Agreement — one handshake, seen from both ends

`handle_handshake` lets a handshake in unless it was given a token and the server has another one; `handshake_async` takes
a reply whose token is its own and that has a TUN configuration.  The reply carries the server's token, so the two tests
agree exactly if neither side has a token or both have one.

An exchange is a stretch of a run, from any state of the server: it starts when a task receives the handshake and ends
when the task is out of its handler, with every other task doing what it likes in between.
-/
namespace Easynet

open Machine (Run filterMap_snoc filterMap_snoc_none)

/-- The handshake in a message. -/
def Message.handshake? (msg : Message) : Option Handshake :=
  match msg.msg with
  | some (.handshake handshake) => some handshake
  | _                           => none

theorem Message.handshake?_eq_some {msg : Message} {handshake : Handshake} (h : msg.handshake? = some handshake) :
    msg = .handshake handshake := by
  unfold Message.handshake? at h
  split at h
  · rename_i hmsg
    cases h
    rw [Message.handshake, ← hmsg]
  · cases h

/-- The handshake reply that a step of task `c` has sent. -/
def replySent (c : Nat) (s : Server) : Action → Option Handshake
  | .conn i (.sent true) =>
    if i = c then (s.conns[c]?.bind Conn.outgoing).bind (fun out => out.2.handshake?) else none
  | _ => none

/-- The session that a step of task `c` stores. -/
def stored (c : Nat) (s : Server) (a : Action) : Option (Call × Client) :=
  match a, sessionOp s a with
  | .conn i _, some (.insert call client) => if i = c then some (call, client) else none
  | _, _                                  => none

/-- The handshake replies that task `c` has sent, oldest first. -/
def repliesSent (c : Nat) (h : List (Server × Action)) : List Handshake := h.filterMap (fun p => replySent c p.1 p.2)

/-- The sessions that task `c` has stored, oldest first. -/
def storedSessions (c : Nat) (h : List (Server × Action)) : List (Call × Client) :=
  h.filterMap (fun p => stored c p.1 p.2)

/-- The session that a task is about to store, with the lock in its hand. -/
def Phase.inserting : Phase → Option (Call × Client)
  | .holding (.insert call client) => some (call, client)
  | _ => none

/-- The reply to a handshake that was let in. -/
def Call.reply (call : Call) : Handshake := ⟨call.serverToken, call.sessionId, some call.tunConfig⟩

/-- The reply to a handshake that was not. -/
def refusal : Handshake := ⟨"", "", none⟩

/-! ## How far an exchange has come -/

/-- **The stages of an exchange**: where the task stands, what it has replied and what it has stored since it received the
handshake. -/
inductive Stage (src : SocketAddr) (request : Handshake) (config : ServerConfig) :
    Phase → List Handshake → List (Call × Client) → Prop
  | refusing (htok : tokenRefused (provided request.token) config.token = true) :
      Stage src request config (.refusing src request) [] []
  | waitingLookup {id : String} (htok : tokenRefused (provided request.token) config.token = false) :
      Stage src request config (.waiting (.lookup src request config id)) [] []
  | lookup {id : String} (htok : tokenRefused (provided request.token) config.token = false) :
      Stage src request config (.holding (.lookup src request config id)) [] []
  | replying {call : Call} (htok : tokenRefused (provided request.token) config.token = false)
      (hcall : call.serverToken = config.token) : Stage src request config (.replying call) [] []
  | waitingInsert {call : Call} {tx : Sender} {now : Nat}
      (htok : tokenRefused (provided request.token) config.token = false) (hcall : call.serverToken = config.token) :
      Stage src request config (.waiting (.insert call (call.client tx now))) [call.reply] []
  | insert {call : Call} {tx : Sender} {now : Nat}
      (htok : tokenRefused (provided request.token) config.token = false) (hcall : call.serverToken = config.token) :
      Stage src request config (.holding (.insert call (call.client tx now))) [call.reply] []
  | refused {phase : Phase} (hidle : phase.request = none)
      (htok : tokenRefused (provided request.token) config.token = true) :
      Stage src request config phase [refusal] []
  | stored {phase : Phase} {call : Call} {tx : Sender} {now : Nat} (hidle : phase.request = none)
      (htok : tokenRefused (provided request.token) config.token = false) (hcall : call.serverToken = config.token) :
      Stage src request config phase [call.reply] [(call, call.client tx now)]

section Exchange

variable {src : SocketAddr} {request : Handshake} {config : ServerConfig}

theorem dispatch_stage (nextClientId : UInt32) (fresh : String) :
    Stage src request config (dispatch nextClientId src (.handshake request) (some config) fresh).1 [] [] := by
  have hd := dispatch_spec nextClientId src (.handshake request) (some config) fresh
  generalize dispatch nextClientId src (.handshake request) (some config) fresh = d at hd
  cases hd with
  | noConfig hload => cases hload
  | refused hload htok => cases hload; exact .refusing htok
  | lookup hload htok => cases hload; exact .waitingLookup htok
  | new hload htok => cases hload; exact .replying htok rfl

/-- A task that is out of its handlers stays out, replies nothing and stores nothing. -/
theorem Stage.idle {phase phase' : Phase} {replies : List Handshake} {sessions : List (Call × Client)}
    (hst : Stage src request config phase replies sessions) (hidle : phase.request = none)
    (hidle' : phase'.request = none) : Stage src request config phase' replies sessions := by
  cases hst with
  | refused _ htok => exact .refused hidle' htok
  | stored _ htok hcall => exact .stored hidle' htok hcall
  | _ => cases hidle

theorem Stage.quiet {phase : Phase} {replies : List Handshake} {sessions : List (Call × Client)} {reply : Option Handshake}
    {session : Option (Call × Client)} (hreply : reply = none) (hsession : session = none)
    (hst : Stage src request config phase replies sessions) :
    Stage src request config phase (replies ++ reply.toList) (sessions ++ session.toList) := by
  subst hreply hsession
  simpa using hst

theorem replySent_eq {s : Server} {c : Nat} {conn : Conn} (hc : s.conns[c]? = some conn) :
    replySent c s (.conn c (.sent true)) = conn.outgoing.bind (fun out => out.2.handshake?) := by
  simp only [replySent, hc, if_true]
  rfl

theorem stored_eq {s : Server} {c : Nat} {conn : Conn} (hc : s.conns[c]? = some conn) (fresh : String)
    (found : Option String) : Easynet.stored c s (.conn c (.body fresh found)) = conn.phase.inserting := by
  simp only [Easynet.stored, sessionOp, phaseOf_eq hc]
  cases conn.phase with
  | holding k =>
    cases k with
    | insert call client => exact if_pos rfl
    | _ => rfl
  | _ => rfl

/-- A step that neither receives a message nor fails to send one takes an exchange on. -/
theorem ConnStep.stage {s t : Server} {c : Nat} {conn conn' : Conn} {act : ConnAct} (hc : s.conns[c]? = some conn)
    (h : ConnStep s c conn act conn' t) (hrecv : ∀ src msg load fresh, act ≠ .receive src msg load fresh)
    (hsent : act ≠ .sent false) {replies : List Handshake} {sessions : List (Call × Client)}
    (hst : Stage src request config conn.phase replies sessions) :
    Stage src request config conn'.phase (replies ++ (replySent c s (.conn c act)).toList)
      (sessions ++ (Easynet.stored c s (.conn c act)).toList) := by
  have hreply := replySent_eq hc
  have hstored := stored_eq hc
  cases h with
  | receive => exact absurd rfl (hrecv _ _ _ _)
  | replyFailed | forwardFailed => exact absurd rfl hsent
  | readEnd hp =>
    rw [hp] at hst
    exact .quiet rfl rfl (hst.idle rfl (afterLoop_origin conn).1)
  | forward hp | forwardTo hp | forwardNone hp | tunClosed hp =>
    rw [hp] at hst
    exact .quiet rfl rfl (hst.idle rfl rfl)
  | lock hp =>
    rw [hp] at hst
    refine .quiet rfl rfl ?_
    cases hst with
    | waitingLookup htok => exact .lookup htok
    | waitingInsert htok hcall => exact .insert htok hcall
    | refused hidle htok => exact .refused hidle htok
    | stored hidle htok hcall => exact .stored hidle htok hcall
  | @lookup src' request' config' providedId fresh found hp =>
    obtain ⟨call, hnext, -, -, hcall⟩ :=
      lookupSession_spec s.sessions s.nextClientId src' request' config' providedId fresh
    rw [hp] at hst
    refine .quiet rfl (by rw [hstored, hp]; rfl) ?_
    show Stage src request config (lookupSession _ _ _ _ _ _ _).1 _ _
    rw [hnext]
    cases hst with
    | lookup htok => exact .replying htok hcall
    | refused hidle | stored hidle => cases hidle
  | @insert call client fresh found hp =>
    rw [hp] at hst
    have hins : Easynet.stored c s (.conn c (.body fresh found)) = some (call, client) := by rw [hstored, hp]; rfl
    rw [hins]
    cases hst with
    | insert htok hcall => exact .stored rfl htok hcall
    | refused hidle | stored hidle => cases hidle
  | disconnect hp | final hp | toClient hp | toNobody hp =>
    rw [hp] at hst
    exact .quiet rfl (by rw [hstored, hp]; rfl) (hst.idle rfl rfl)
  | @refused src' request' ok hp =>
    cases ok with
    | false => exact absurd rfl hsent
    | true =>
      rw [hp] at hst
      have hout : replySent c s (.conn c (.sent true)) = some refusal := by rw [hreply, Conn.outgoing, hp]; rfl
      rw [hout]
      cases hst with
      | refusing htok => exact .refused rfl htok
      | refused hidle | stored hidle => cases hidle
  | @replied call hp =>
    rw [hp] at hst
    have hout : replySent c s (.conn c (.sent true)) = some call.reply := by rw [hreply, Conn.outgoing, hp]; rfl
    rw [hout]
    cases hst with
    | replying htok hcall => exact .waitingInsert htok hcall
    | refused hidle | stored hidle => cases hidle
  | keptAlive hp | enqueued hp | dropped hp =>
    rw [hp] at hst
    cases hst with
    | refused hidle | stored hidle => cases hidle
  | forwarded hp =>
    rw [hp] at hst
    refine .quiet ?_ rfl (hst.idle rfl rfl)
    rw [hreply, Conn.outgoing, hp]
    cases conn.peer <;> rfl
  | @sentTo payload addr ok hp =>
    cases ok with
    | false => exact absurd rfl hsent
    | true =>
      rw [hp] at hst
      exact .quiet (by rw [hreply, Conn.outgoing, hp]; rfl) rfl (hst.idle rfl rfl)

theorem replySent_of_ne {s : Server} {c : Nat} {a : Action} (ha : ∀ act, a ≠ .conn c act) : replySent c s a = none := by
  unfold replySent
  split
  · rename_i i
    have hi : i ≠ c := fun he => ha (.sent true) (he ▸ rfl)
    exact if_neg hi
  · rfl

theorem stored_of_ne {s : Server} {c : Nat} {a : Action} (ha : ∀ act, a ≠ .conn c act) : stored c s a = none := by
  unfold Easynet.stored
  split
  · rename_i i act _ _ _
    have hi : i ≠ c := fun he => ha act (he ▸ rfl)
    exact if_neg hi
  · rfl

/-- **An exchange is in one of its stages** as long as its task receives nothing more and its sends succeed. -/
theorem exchange_stage {s₁ s : Server} {c : Nat} {h : List (Server × Action)} (hr : Run step s₁ h s) {conn₁ : Conn}
    (hc₁ : s₁.conns[c]? = some conn₁) (hst₁ : Stage src request config conn₁.phase [] [])
    (hone : ∀ p ∈ h, ∀ src msg load fresh, p.2 ≠ .conn c (.receive src msg load fresh))
    (hsent : ∀ p ∈ h, p.2 ≠ .conn c (.sent false)) :
    ∃ conn, s.conns[c]? = some conn ∧ Stage src request config conn.phase (repliesSent c h) (storedSessions c h) := by
  induction hr with
  | nil => exact ⟨conn₁, hc₁, hst₁⟩
  | @snoc h s a s' hr hs ih =>
    obtain ⟨conn, hc, hst⟩ := ih (fun p hp => hone p (List.mem_append_left _ hp))
      (fun p hp => hsent p (List.mem_append_left _ hp))
    have hlast : (s, a) ∈ h ++ [(s, a)] := List.mem_append_right _ List.mem_cons_self
    obtain ⟨conn', hc', -, ⟨hphase, hne⟩ | ⟨act, t, rfl, hcs⟩⟩ := step_conn_forward hs hc
    · refine ⟨conn', hc', ?_⟩
      rw [hphase, repliesSent, storedSessions, filterMap_snoc_none (replySent_of_ne hne),
        filterMap_snoc_none (stored_of_ne hne)]
      exact hst
    · refine ⟨conn', hc', ?_⟩
      rw [repliesSent, storedSessions, filterMap_snoc, filterMap_snoc]
      exact hcs.stage hc (fun _ _ _ _ he => hone _ hlast _ _ _ _ (congrArg (Action.conn c) he))
        (fun he => hsent _ hlast (congrArg (Action.conn c) he)) hst

end Exchange

/-! ## The two tests -/

theorem tokens_of_refused {token serverToken : String} (h : tokenRefused (provided token) serverToken = true) :
    token.isEmpty = false ∧ serverToken.isEmpty = false := by
  unfold provided tokenRefused validateToken at h
  cases ht : token.isEmpty with
  | true => simp [ht] at h
  | false =>
    cases hs : serverToken.isEmpty with
    | true => simp [ht, hs] at h
    | false => exact ⟨rfl, rfl⟩

/-- Once a handshake is let in, its token is the server's exactly if neither side has a token or both have one. -/
theorem token_eq_iff {token serverToken : String} (h : tokenRefused (provided token) serverToken = false) :
    serverToken = token ↔ token.isEmpty = serverToken.isEmpty := by
  constructor
  · rintro rfl
    rfl
  · intro he
    cases ht : token.isEmpty with
    | true =>
      have hs : serverToken.isEmpty = true := he ▸ ht
      rw [String.isEmpty_iff.1 ht, String.isEmpty_iff.1 hs]
    | false => exact (token_of_not_refused ht (he ▸ ht) h).symm

/-- With a state file that can be read and written, the client takes every reply with its token and a TUN configuration,
and the session id with it. -/
theorem handshakeAsync_accepts {client : ClientConfig} {file : StateFile} (hfile : file.sessionId ≠ none)
    {reply : Handshake} {tunConfig : TunConfig} (htok : reply.token = client.token)
    (htun : reply.tunConfig = some tunConfig) :
    (handshakeAsync client file .ok (.message (.handshake reply))).result = .ok tunConfig ∧
      (handshakeAsync client file .ok (.message (.handshake reply))).config.sessionId = reply.sessionId := by
  have hstep : handshakeAsync client file .ok (.message (.handshake reply)) =
      adopt client file .ok reply.sessionId tunConfig := by
    simp only [handshakeAsync, Message.handshake, htok, htun, ne_eq, not_true, if_false]
  rw [hstep, adopt]
  split
  · rename_i hid
    exact ⟨rfl, hid.symm⟩
  · cases file with
    | absent | saved state => exact ⟨rfl, rfl⟩
    | unreadable error => exact absurd rfl hfile

/-- **Both ends agree**: there is one reply, the server has stored a session exactly if the client takes the reply, and then
the client has the session's id and TUN configuration. -/
def Agree (client : ClientConfig) (file : StateFile) (replies : List Handshake) (sessions : List (Call × Client)) : Prop :=
  ∃ reply, replies = [reply] ∧
    ((∃ session, session ∈ sessions) ↔
      ∃ tunConfig, (handshakeAsync client file .ok (.message (.handshake reply))).result = .ok tunConfig) ∧
    ∀ call entry tunConfig, (call, entry) ∈ sessions →
      (handshakeAsync client file .ok (.message (.handshake reply))).result = .ok tunConfig →
      (handshakeAsync client file .ok (.message (.handshake reply))).config.sessionId = call.sessionId ∧
        tunConfig = entry.tunConfig

/-- Nothing is stored and the reply has no TUN configuration: the client refuses it too. -/
theorem agree_refusal (client : ClientConfig) (file : StateFile) : Agree client file [refusal] [] := by
  refine ⟨refusal, rfl, ⟨fun ⟨_, hm⟩ => absurd hm List.not_mem_nil, ?_⟩, fun _ _ _ hm => absurd hm List.not_mem_nil⟩
  rintro ⟨tunConfig, hok⟩
  obtain ⟨reply, hreply, -, htun⟩ := handshakeAsync_ok hok
  cases hreply
  cases htun

/-- A handler has stored its session and replied: the client takes the reply exactly if it has the client's token. -/
theorem agree_reply_iff {client : ClientConfig} {file : StateFile} (hfile : file.sessionId ≠ none) (call : Call)
    (tx : Sender) (now : Nat) :
    Agree client file [call.reply] [(call, call.client tx now)] ↔ call.reply.token = client.token := by
  constructor
  · rintro ⟨reply, hreplies, hiff, -⟩
    cases hreplies
    obtain ⟨tunConfig, hok⟩ := hiff.1 ⟨_, List.mem_singleton_self _⟩
    obtain ⟨reply, hreply, htok, -⟩ := handshakeAsync_ok hok
    cases hreply
    exact htok
  · intro htok
    obtain ⟨hok, hid⟩ := handshakeAsync_accepts hfile htok rfl
    refine ⟨call.reply, rfl, ⟨fun _ => ⟨_, hok⟩, fun _ => ⟨_, List.mem_singleton_self _⟩⟩, ?_⟩
    intro call' entry tunConfig hm hok'
    cases List.mem_singleton.1 hm
    cases hok.symm.trans hok'
    exact ⟨hid, rfl⟩

/-- What a run stores has the address that its TUN configuration says. -/
theorem stored_address {transport : Transport} {h : List (Server × Action)} {s : Server} (hr : ServerRun transport h s)
    {c : Nat} {call : Call} {entry : Client} (hm : (call, entry) ∈ storedSessions c h) :
    entry.tunConfig.address = entry.virtualIp.toText := by
  obtain ⟨p, hp, hst⟩ := List.mem_filterMap.1 hm
  obtain ⟨_, _, _, -, hr₁, -⟩ := hr.of_mem hp
  unfold stored at hst
  split at hst
  · rename_i ho
    split at hst
    · cases hst
      obtain ⟨i, conn, fresh, found, -, hc, hphase⟩ := insert_of_sessionOp ho
      obtain ⟨tx, now, rfl, -⟩ := insert_stamped hr₁ hc hphase
      exact (call_owned hr hp hc (by rw [hphase]; rfl)).address_eq
    · cases hst
  · cases hst

/-- **Both ends of a handshake agree if and only if neither has a token or both have one**, from any state of the server,
with any session id and whatever the other tasks do meanwhile. -/
theorem agree_iff {s₀ s : Server} {c : Nat} {src : SocketAddr} {config : ServerConfig} {fresh : String}
    (client : ClientConfig) {file : StateFile} (hfile : file.sessionId ≠ none) {h : List (Server × Action)}
    (hr : Run step s₀ ((s₀, .conn c (.receive src (.handshake client.request) (some config) fresh)) :: h) s)
    (hone : ∀ p ∈ h, ∀ src msg load fresh, p.2 ≠ .conn c (.receive src msg load fresh))
    (hsent : ∀ p ∈ h, p.2 ≠ .conn c (.sent false)) {phase : Phase} (hend : s.phaseOf c = some phase)
    (hidle : phase.request = none) :
    (Agree client file (repliesSent c h) (storedSessions c h) ↔ client.token.isEmpty = config.token.isEmpty) ∧
    (∀ transport h₀, ServerRun transport h₀ s₀ → ∀ call entry, (call, entry) ∈ storedSessions c h →
      entry.tunConfig.address = entry.virtualIp.toText) := by
  obtain ⟨-, s₁, hs, hr₁⟩ := hr.split [] _ _ h rfl
  refine ⟨?_, fun transport h₀ hr₀ call entry hm => ?_⟩
  · obtain ⟨conn₀, conn₁, t, hc₀, hcs, rfl⟩ := step_connStep hs
    have hc₁ := hcs.conn_after hc₀
    have hst₁ : Stage src client.request config conn₁.phase [] [] := by
      cases hcs with
      | receive => exact dispatch_stage ..
    obtain ⟨conn, hc, hst⟩ := exchange_stage hr₁ hc₁ hst₁ hone hsent
    have hphase : conn.phase = phase := Option.some.inj ((phaseOf_eq hc).symm.trans hend)
    rw [hphase] at hst
    generalize repliesSent c h = replies at hst
    generalize storedSessions c h = sessions at hst
    cases hst with
    | refused _ htok =>
      -- only a handshake with a token is refused, and only by a server with one
      obtain ⟨ht, hs⟩ := tokens_of_refused htok
      exact ⟨fun _ => ht.trans hs.symm, fun _ => agree_refusal client file⟩
    | @stored _ call tx now _ htok hcall =>
      -- let in: the reply has the server's token
      have htoken : call.reply.token = config.token := hcall
      rw [agree_reply_iff hfile, htoken]
      exact token_eq_iff htok
    | _ => cases hidle
  · have hmem : ∀ before, (call, entry) ∈ storedSessions c (before ++ h) := by
      intro before
      rw [storedSessions, List.filterMap_append]
      exact List.mem_append_right _ hm
    exact stored_address ((hr₀.snoc hs).trans hr₁) (hmem _)

/-- A server of the stream kind with one connection. -/
def oneConn : Server := { Server.init .stream with conns := [⟨some alice, .select, []⟩] }

/-- A handshake with this token on the connection, and its handler to its end. -/
def exchange (token : String) : List Action := (handshakeRun token).tail

def exchangeTrace (token : String) : List (Server × Action) := Machine.trace step oneConn (exchange token)

theorem agree_admin :
    Agree ⟨"tcp", "", "admin"⟩ .absent (repliesSent 0 (exchangeTrace "admin").tail)
      (storedSessions 0 (exchangeTrace "admin").tail) ∧
    (storedSessions 0 (exchangeTrace "admin").tail).length = 1 := by
  have hr : Run step oneConn ((oneConn, .conn 0 (.receive alice (.handshake ⟨"admin", "", none⟩) (some adminConfig) "s0")) ::
      (exchangeTrace "admin").tail) _ :=
    Machine.run_get (show (Machine.exec step oneConn (exchange "admin")).isSome = true by decide)
  have hone : received 0 (exchangeTrace "admin").tail = [] := by decide
  have hend : ((Machine.exec step oneConn (exchange "admin")).get (by decide)).phaseOf 0 = some .select := rfl
  refine ⟨(agree_iff ⟨"tcp", "", "admin"⟩ (by decide) hr (fun p hp src msg load fresh he => ?_) (by decide)
    hend rfl).1.2 rfl, by decide⟩
  have hm : (src, msg) ∈ received 0 (exchangeTrace "admin").tail :=
    List.mem_filterMap.2 ⟨p, hp, by rw [he]; exact if_pos rfl⟩
  rw [hone] at hm
  cases hm

/-- A client without a token at a server with one: the server stores a session, the client refuses the reply. -/
theorem client_refuses_stored_session :
    ∃ s, Run step oneConn (exchangeTrace "") s ∧ repliesSent 0 (exchangeTrace "") =
        [⟨"admin", "s0", some (buildTunConfig adminConfig (.new 10 0 0 2))⟩] ∧
      (s.sessions.lookup "s0").map Client.addr = some alice ∧
      ∀ reply ∈ repliesSent 0 (exchangeTrace ""),
        (handshakeAsync ⟨"tcp", "", ""⟩ .absent .ok (.message (.handshake reply))).result.toOption = none :=
  ⟨_, Machine.run_get (by decide), by decide, by decide, by decide⟩

end Easynet
