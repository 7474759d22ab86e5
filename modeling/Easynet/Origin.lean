import Easynet.SessionLog
/-!
# Origin — which message a handler is in, and what let it get there

A connection task receives its next message only back in its `select!`, so whatever a handler is about to do is about the
last message its task received, from the peer of the connection if it has one (`request_received`), and for a handshake
past its token check (`admitted_checked`).  What a handshake stores is stamped with the time of its reply
(`pending_stamped`).
-/
namespace Easynet

open Machine (filterMap_snoc_none filterMap_snoc_some)

/-- The messages task `c` has received, oldest first. -/
def received (c : Nat) (h : List (Server × Action)) : List (SocketAddr × Message) :=
  h.filterMap (fun p => match p.2 with
    | .conn i (.receive src msg _ _) => if i = c then some (src, msg) else none
    | _                              => none)

def lastReceived (c : Nat) (h : List (Server × Action)) : Option (SocketAddr × Message) := (received c h).getLast?

def Section.request : Section → Option (SocketAddr × Message)
  | .lookup src request _ _ => some (src, .handshake request)
  | .insert call _          => some (call.src, .handshake call.request)
  | _                       => none

/-- The message whose handler a task is in, with its sender. -/
def Phase.request : Phase → Option (SocketAddr × Message)
  | .waiting k | .holding k  => k.request
  | .refusing src request    => some (src, .handshake request)
  | .replying call           => some (call.src, .handshake call.request)
  | .data src payload        => some (src, .data ⟨payload⟩)
  | .keepalive src timestamp => some (src, .keepalive ⟨timestamp⟩)
  | _                        => none

def Section.admitted : Section → Option (Handshake × String)
  | .lookup _ request config _ => some (request, config.token)
  | .insert call _             => some (call.request, call.serverToken)
  | _                          => none

/-- The handshake that a task has let past the token check, and the server token it was checked against. -/
def Phase.admitted : Phase → Option (Handshake × String)
  | .waiting k | .holding k => k.admitted
  | .replying call          => some (call.request, call.serverToken)
  | _                       => none

/-- The session id a task looks up, with the handshake that provided it. -/
def Phase.wanted : Phase → Option (Handshake × String)
  | .waiting (.lookup _ request _ providedId) | .holding (.lookup _ request _ providedId) => some (request, providedId)
  | _ => none

def Section.pending : Section → Option (Call × Client)
  | .insert call client => some (call, client)
  | _                   => none

/-- The answered handshake whose client a task is about to insert. -/
def Phase.pending : Phase → Option (Call × Client)
  | .waiting k | .holding k => k.pending
  | _                       => none

def Section.leaving : Section → Option SocketAddr
  | .disconnect addr | .final addr => some addr
  | _ => none

/-- The address that a task's `handle_disconnect` was called with. -/
def Phase.leaving : Phase → Option SocketAddr
  | .waiting k | .holding k => k.leaving
  | _                       => none

/-- The times at which a send of task `c` has succeeded, oldest first. -/
def sentTimes (c : Nat) (h : List (Server × Action)) : List Nat :=
  h.filterMap (fun p => match p.2 with
    | .conn i (.sent true) => if i = c then some p.1.clock else none
    | _                    => none)

theorem lastReceived_receive (c : Nat) (h : List (Server × Action)) (s : Server) (src : SocketAddr) (msg : Message)
    (load : Option ServerConfig) (fresh : String) :
    lastReceived c (h ++ [(s, Action.conn c (.receive src msg load fresh))]) = some (src, msg) := by
  rw [lastReceived, received, filterMap_snoc_some (if_pos rfl)]
  exact List.getLast?_concat

theorem lastReceived_of_ne (c : Nat) (h : List (Server × Action)) (s : Server) {a : Action}
    (ha : ∀ src msg load fresh, a ≠ .conn c (.receive src msg load fresh)) :
    lastReceived c (h ++ [(s, a)]) = lastReceived c h := by
  refine congrArg List.getLast? (filterMap_snoc_none ?_)
  dsimp only
  split
  · rename_i i src msg load fresh
    have hi : i ≠ c := fun he => ha src msg load fresh (he ▸ rfl)
    exact if_neg hi
  · rfl

theorem sentTimes_of_ne (c : Nat) (h : List (Server × Action)) (s : Server) {a : Action}
    (ha : a ≠ .conn c (.sent true)) : sentTimes c (h ++ [(s, a)]) = sentTimes c h := by
  refine filterMap_snoc_none ?_
  dsimp only
  split
  · rename_i i
    have hi : i ≠ c := fun he => ha (he ▸ rfl)
    exact if_neg hi
  · rfl

/-! ## What the handlers lead to -/

section Dispatch

variable {nextClientId : UInt32} {src : SocketAddr} {msg : Message} {load : Option ServerConfig} {fresh : String}

theorem dispatch_request {q : SocketAddr × Message}
    (h : (dispatch nextClientId src msg load fresh).1.request = some q) : q = (src, msg) := by
  have hd := dispatch_spec nextClientId src msg load fresh
  generalize dispatch nextClientId src msg load fresh = d at hd h
  cases hd with
  | refused | lookup | new | data | keepalive => cases h; rfl
  | unknown | noConfig | disconnect => cases h

theorem dispatch_admitted {q : Handshake × String}
    (h : (dispatch nextClientId src msg load fresh).1.admitted = some q) :
    ∃ config, load = some config ∧ msg = .handshake q.1 ∧ q.2 = config.token ∧
      tokenRefused (provided q.1.token) config.token = false := by
  have hd := dispatch_spec nextClientId src msg load fresh
  generalize dispatch nextClientId src msg load fresh = d at hd h
  cases hd with
  | lookup hload htok | new hload htok => cases h; exact ⟨_, hload, rfl, rfl, htok⟩
  | unknown | noConfig | refused | data | keepalive | disconnect => cases h

theorem dispatch_pending : (dispatch nextClientId src msg load fresh).1.pending = none := by
  have hd := dispatch_spec nextClientId src msg load fresh
  generalize dispatch nextClientId src msg load fresh = d at hd
  cases hd <;> rfl

theorem dispatch_wanted {q : Handshake × String} (h : (dispatch nextClientId src msg load fresh).1.wanted = some q) :
    provided q.1.sessionId = some q.2 := by
  have hd := dispatch_spec nextClientId src msg load fresh
  generalize dispatch nextClientId src msg load fresh = d at hd h
  cases hd with
  | lookup hload htok hid => cases h; exact hid
  | _ => cases h

theorem dispatch_leaving {addr : SocketAddr} (h : (dispatch nextClientId src msg load fresh).1.leaving = some addr) :
    addr = src := by
  have hd := dispatch_spec nextClientId src msg load fresh
  generalize dispatch nextClientId src msg load fresh = d at hd h
  cases hd with
  | disconnect => exact (Option.some.inj h).symm
  | _ => cases h

end Dispatch

theorem afterLoop_origin (conn : Conn) : conn.afterLoop.request = none ∧ conn.afterLoop.admitted = none := by
  unfold Conn.afterLoop
  split <;> exact ⟨rfl, rfl⟩

/-- **A step of a task takes up the message it receives, goes on with the one it has, or is done with it.** -/
theorem ConnStep.origin {s t : Server} {c : Nat} {conn conn' : Conn} {act : ConnAct}
    (h : ConnStep s c conn act conn' t) :
    (∃ src msg load fresh, act = .receive src msg load fresh ∧ (∀ peer, conn.peer = some peer → peer = src) ∧
      conn'.phase = (dispatch s.nextClientId src msg load fresh).1) ∨
    ((∀ src msg load fresh, act ≠ .receive src msg load fresh) ∧
      (conn'.phase.request = none ∧ conn'.phase.admitted = none ∨
       conn'.phase.request = conn.phase.request ∧ conn'.phase.admitted = conn.phase.admitted)) := by
  cases h with
  | receive _ hsrc => exact Or.inl ⟨_, _, _, _, rfl, hsrc, rfl⟩
  | readEnd | forwardFailed => exact Or.inr ⟨fun _ _ _ _ he => ConnAct.noConfusion he, Or.inl (afterLoop_origin conn)⟩
  | lock hp | replied hp =>
    refine Or.inr ⟨fun _ _ _ _ he => ConnAct.noConfusion he, Or.inr ?_⟩
    rw [hp]; exact ⟨rfl, rfl⟩
  | @lookup src request config providedId fresh found hp =>
    refine Or.inr ⟨fun _ _ _ _ he => ConnAct.noConfusion he, Or.inr ?_⟩
    obtain ⟨call, hcall, rfl, rfl, htok⟩ := lookupSession_spec s.sessions s.nextClientId src request config providedId fresh
    rw [hp, hcall]
    exact ⟨rfl, congrArg (fun token => some (call.request, token)) htok⟩
  | _ => exact Or.inr ⟨fun _ _ _ _ he => ConnAct.noConfusion he, Or.inl ⟨rfl, rfl⟩⟩

theorem ConnStep.pending {s t : Server} {c : Nat} {conn conn' : Conn} {act : ConnAct}
    (h : ConnStep s c conn act conn' t) :
    (act = .sent true ∧ ∃ call, conn.phase = .replying call ∧
      conn'.phase.pending = some (call, call.client (conn.sender c) s.clock)) ∨
    conn'.phase.pending = none ∨ (act ≠ .sent true ∧ conn'.phase.pending = conn.phase.pending) := by
  cases h with
  | receive => exact Or.inr (Or.inl dispatch_pending)
  | readEnd | forwardFailed => unfold Conn.afterLoop; split <;> exact Or.inr (Or.inl rfl)
  | lock hp => exact Or.inr (Or.inr ⟨ConnAct.noConfusion, by rw [hp]; rfl⟩)
  | @lookup src request config providedId fresh =>
    obtain ⟨call, hcall, -⟩ := lookupSession_spec s.sessions s.nextClientId src request config providedId fresh
    exact Or.inr (Or.inl (by rw [hcall]; rfl))
  | replied hp => exact Or.inl ⟨rfl, _, hp, rfl⟩
  | _ => exact Or.inr (Or.inl rfl)

theorem ConnStep.wanted {s t : Server} {c : Nat} {conn conn' : Conn} {act : ConnAct} (h : ConnStep s c conn act conn' t)
    {q : Handshake × String} (hq : conn'.phase.wanted = some q) :
    conn.phase.wanted = some q ∨ provided q.1.sessionId = some q.2 := by
  cases h with
  | receive => exact Or.inr (dispatch_wanted hq)
  | readEnd | forwardFailed => unfold Conn.afterLoop at hq; split at hq <;> cases hq
  | @lookup src request config providedId fresh =>
    obtain ⟨call, hcall, -⟩ := lookupSession_spec s.sessions s.nextClientId src request config providedId fresh
    rw [hcall] at hq
    cases hq
  | @lock k hp =>
    rw [hp]
    cases k with
    | lookup => exact Or.inl hq
    | _ => cases hq
  | _ => cases hq

theorem ConnStep.leaving {s t : Server} {c : Nat} {conn conn' : Conn} {act : ConnAct} (h : ConnStep s c conn act conn' t)
    {addr : SocketAddr} (hl : conn'.phase.leaving = some addr) :
    conn.phase.leaving = some addr ∨ ∀ peer, conn.peer = some peer → peer = addr := by
  cases h with
  | receive hp hsrc =>
    obtain rfl := dispatch_leaving hl
    exact Or.inr hsrc
  | readEnd | forwardFailed =>
    refine Or.inr (fun peer hpeer => ?_)
    simp only [Conn.afterLoop, hpeer] at hl
    exact Option.some.inj hl
  | lock hp => rw [hp]; exact Or.inl hl
  | @lookup src request config providedId fresh =>
    obtain ⟨call, hcall, -⟩ := lookupSession_spec s.sessions s.nextClientId src request config providedId fresh
    rw [hcall] at hl
    cases hl
  | _ => cases hl

/-! ## Over a run -/

section Runs

variable {transport : Transport} {h : List (Server × Action)} {s : Server} {c : Nat} {conn : Conn}

/-- **A handler's message is the last one its task received**, from the connection's peer if it has one. -/
theorem request_received (hr : ServerRun transport h s) (hc : s.conns[c]? = some conn) {q : SocketAddr × Message}
    (hq : conn.phase.request = some q) :
    lastReceived c h = some q ∧ ∀ peer, conn.peer = some peer → peer = q.1 := by
  refine phase_invariant (P := fun h c peer? phase => ∀ q, phase.request = some q →
      lastReceived c h = some q ∧ ∀ peer, peer? = some peer → peer = q.1)
    (fun _ _ _ _ q hq => by cases hq) (fun _ hne ih q hq => ?_) (fun _ _ hcs ih q hq => ?_) hr hc q hq
  · rw [lastReceived_of_ne _ _ _ (fun _ _ _ _ => hne _)]
    exact ih q hq
  · rw [hcs.frame.peer]
    rcases hcs.origin with ⟨src, msg, load, fresh, rfl, hsrc, hd⟩ | ⟨hne, hk⟩
    · rw [hd] at hq
      rw [lastReceived_receive, dispatch_request hq]
      exact ⟨rfl, hsrc⟩
    · rw [lastReceived_of_ne _ _ _ (fun _ _ _ _ he => hne _ _ _ _ (Action.conn.inj he).2)]
      rcases hk with ⟨hn, -⟩ | ⟨he, -⟩
      · rw [hn] at hq; cases hq
      · exact ih q (he ▸ hq)

/-- **A handshake that is past the token check passed it** against the token of the configuration it loaded. -/
theorem admitted_checked (hr : ServerRun transport h s) (hc : s.conns[c]? = some conn) {q : Handshake × String}
    (hq : conn.phase.admitted = some q) :
    tokenRefused (provided q.1.token) q.2 = false ∧ ∃ p ∈ h, ∃ src config fresh,
      p.2 = .conn c (.receive src (.handshake q.1) (some config) fresh) ∧ config.token = q.2 := by
  refine phase_invariant (P := fun h c _ phase => ∀ q, phase.admitted = some q →
      tokenRefused (provided q.1.token) q.2 = false ∧ ∃ p ∈ h, ∃ src config fresh,
        p.2 = .conn c (.receive src (.handshake q.1) (some config) fresh) ∧ config.token = q.2)
    (fun _ _ _ _ q hq => by cases hq) (fun _ hne ih q hq => ?_) (fun _ _ hcs ih q hq => ?_) hr hc q hq
  · obtain ⟨hok, p, hp, hrest⟩ := ih q hq
    exact ⟨hok, p, List.mem_append_left _ hp, hrest⟩
  · rcases hcs.origin with ⟨src, msg, load, fresh, rfl, -, hd⟩ | ⟨-, hk⟩
    · rw [hd] at hq
      obtain ⟨config, rfl, rfl, htok, hok⟩ := dispatch_admitted hq
      exact ⟨htok ▸ hok, _, List.mem_append_right _ List.mem_cons_self, src, config, fresh, rfl, htok.symm⟩
    · rcases hk with ⟨-, hn⟩ | ⟨-, he⟩
      · rw [hn] at hq; cases hq
      · obtain ⟨hok, p, hp, hrest⟩ := ih q (he ▸ hq)
        exact ⟨hok, p, List.mem_append_left _ hp, hrest⟩

/-- **A client about to be stored is the one its handshake settled on, stamped when the reply had been sent.** -/
theorem pending_stamped (hr : ServerRun transport h s) (hc : s.conns[c]? = some conn) {call : Call} {client : Client}
    (hq : conn.phase.pending = some (call, client)) :
    ∃ tx now, client = call.client tx now ∧ (sentTimes c h).getLast? = some now := by
  refine phase_invariant (P := fun h c _ phase => ∀ call client, phase.pending = some (call, client) →
      ∃ tx now, client = call.client tx now ∧ (sentTimes c h).getLast? = some now)
    (fun _ _ _ _ _ _ hq => by cases hq) (fun _ hne ih => ?_) (fun _ _ hcs ih call client hq => ?_) hr hc call client hq
  · rw [sentTimes_of_ne _ _ _ (hne _)]
    exact ih
  · rcases hcs.pending with ⟨rfl, call', -, hp⟩ | hp | ⟨hne, hp⟩
    · rw [hp] at hq; cases hq
      exact ⟨_, _, rfl, by rw [sentTimes, filterMap_snoc_some (if_pos rfl)]; exact List.getLast?_concat⟩
    · rw [hp] at hq; cases hq
    · rw [sentTimes_of_ne _ _ _ (fun he => hne (Action.conn.inj he).2)]
      exact ih call client (hp ▸ hq)

theorem insert_stamped (hr : ServerRun transport h s) (hc : s.conns[c]? = some conn) {call : Call} {client : Client}
    (hp : conn.phase = .holding (.insert call client)) :
    ∃ tx now, client = call.client tx now ∧ (sentTimes c h).getLast? = some now :=
  pending_stamped hr hc (by rw [hp]; rfl)

/-- A client about to be stored has the sender of the task that stores it. -/
theorem pending_sender (hr : ServerRun transport h s) (hc : s.conns[c]? = some conn) {call : Call} {client : Client}
    (hq : conn.phase.pending = some (call, client)) : client.tx = conn.sender c := by
  refine phase_invariant (P := fun _ c peer phase => ∀ call client, phase.pending = some (call, client) →
      client.tx = Conn.sender ⟨peer, phase, []⟩ c)
    (fun _ _ _ _ _ _ hq => by cases hq) (fun _ _ ih => ih) (fun {_ _ _ c conn conn' _} _ _ hcs ih call client hq => ?_)
    hr hc call client hq
  have hsame : Conn.sender ⟨conn'.peer, conn'.phase, []⟩ c = conn.sender c := by rw [hcs.frame.peer]; rfl
  rw [hsame]
  rcases hcs.pending with ⟨-, call', -, hp⟩ | hp | ⟨-, hp⟩
  · rw [hp] at hq; cases hq; rfl
  · rw [hp] at hq; cases hq
  · exact ih call client (hp ▸ hq)

theorem sender_eq {conn : Conn} {c i : Nat} (h : conn.sender i = .conn c) : i = c ∧ ∃ peer, conn.peer = some peer := by
  unfold Conn.sender at h
  split at h
  · rename_i peer hpeer
    exact ⟨Sender.conn.inj h, peer, hpeer⟩
  · cases h

/-- **A session is stored with the sender of the task that stores it, and with its peer's address.** -/
theorem insert_by (hr : ServerRun transport h s) {a : Action} {call : Call} {client : Client}
    (ho : sessionOp s a = some (.insert call client)) :
    ∃ (c : Nat) (conn : Conn) (fresh : String) (found : Option String), a = .conn c (.body fresh found) ∧
      s.conns[c]? = some conn ∧ conn.phase = .holding (.insert call client) ∧ client.tx = conn.sender c ∧
      client.virtualIp = call.virtualIp ∧ ∀ peer, conn.peer = some peer → peer = client.addr := by
  obtain ⟨c, conn, fresh, found, ha, hc, hp⟩ := insert_of_sessionOp ho
  have hpend : conn.phase.pending = some (call, client) := by rw [hp]; rfl
  have htx := pending_sender hr hc hpend
  obtain ⟨tx, now, rfl, -⟩ := insert_stamped hr hc hp
  have hsrc := (request_received hr hc (q := (call.src, .handshake call.request)) (by rw [hp]; rfl)).2
  exact ⟨c, conn, fresh, found, ha, hc, hp, htx, rfl, hsrc⟩

/-- `handle_disconnect` is called with the address of the connection's peer. -/
theorem leaving_peer (hr : ServerRun transport h s) (hc : s.conns[c]? = some conn) {addr : SocketAddr}
    (hl : conn.phase.leaving = some addr) : ∀ peer, conn.peer = some peer → peer = addr := by
  refine phase_invariant (P := fun _ _ peer? phase => ∀ addr, phase.leaving = some addr →
      ∀ peer, peer? = some peer → peer = addr)
    (fun _ _ _ _ _ hl => by cases hl) (fun _ _ ih => ih) (fun _ _ hcs ih addr hl => ?_) hr hc addr hl
  rw [hcs.frame.peer]
  exact (hcs.leaving hl).elim (ih addr) id

/-- The tasks of a stream server have a peer. -/
theorem peer_of_stream (hr : ServerRun .stream h s) (hc : s.conns[c]? = some conn) : ∃ peer, conn.peer = some peer := by
  refine phase_invariant (P := fun _ _ peer? _ => ∃ peer, peer? = some peer) (fun _ _ peer? hp => ?_) (fun _ _ ih => ih)
    (fun _ _ hcs ih => by rw [hcs.frame.peer]; exact ih) hr hc
  cases peer? with
  | none => cases hp.1 rfl
  | some peer => exact ⟨peer, rfl⟩

/-- A session id that is looked up is the one the handshake provided. -/
theorem wanted_provided (hr : ServerRun transport h s) (hc : s.conns[c]? = some conn) {q : Handshake × String}
    (hq : conn.phase.wanted = some q) : provided q.1.sessionId = some q.2 := by
  refine phase_invariant (P := fun _ _ _ phase => ∀ q, phase.wanted = some q → provided q.1.sessionId = some q.2)
    (fun _ _ _ _ _ hq => by cases hq) (fun _ _ ih => ih) (fun _ _ hcs ih q hq => ?_) hr hc q hq
  exact (hcs.wanted hq).elim (ih q) id

end Runs

end Easynet
