import Easynet.Server
/-!
# ServerStep — what one step of the server can do

The machine read backwards.  `ConnStep` has one case for each way a connection task moves on, with what becomes of the
task and of what the tasks share; `connStep_spec` says that these are all.  `step_conn` says where any step can take a
connection, and `phase_invariant` is the induction over a run that follows one task.  The invariants of the server are
proved from these and do not unfold `step` again.
-/
namespace Easynet

/-- **The ways a connection task moves**: the action, the task afterwards, and the shared state afterwards. -/
inductive ConnStep (s : Server) (c : Nat) (conn : Conn) : ConnAct → Conn → Server → Prop
  | receive {src : SocketAddr} {msg : Message} {load : Option ServerConfig} {fresh : String}
      (hp : conn.phase = .select) (hsrc : ∀ peer, conn.peer = some peer → peer = src) :
      ConnStep s c conn (.receive src msg load fresh)
        { conn with phase := (dispatch s.nextClientId src msg load fresh).1 }
        { s with nextClientId := (dispatch s.nextClientId src msg load fresh).2 }
  | readEnd (hp : conn.phase = .select) : ConnStep s c conn .readEnd { conn with phase := conn.afterLoop } s
  | forward {data : Bytes} {queue : List Bytes} (hp : conn.phase = .select) (ht : s.transport = .stream)
      (hq : conn.queue = data :: queue) :
      ConnStep s c conn .forward { conn with phase := .forwarding data, queue := queue } s
  | forwardTo {data : Bytes} {tunQueue : List Bytes} {destIp : Ipv4Addr} (hp : conn.phase = .select)
      (ht : s.transport = .datagram) (hq : s.tunQueue = data :: tunQueue) (hd : getDestinationIp data = some destIp) :
      ConnStep s c conn .forward { conn with phase := .waiting (.toClient data destIp) } { s with tunQueue := tunQueue }
  | forwardNone {data : Bytes} {tunQueue : List Bytes} (hp : conn.phase = .select) (ht : s.transport = .datagram)
      (hq : s.tunQueue = data :: tunQueue) (hd : getDestinationIp data = none) :
      ConnStep s c conn .forward { conn with phase := .select } { s with tunQueue := tunQueue }
  | tunClosed (hp : conn.phase = .select) (ht : s.transport = .datagram) (hq : s.tunQueue = []) (hio : s.tunIo = .done) :
      ConnStep s c conn .tunClosed { conn with phase := .done } s
  | lock {k : Section} (hp : conn.phase = .waiting k) (hl : s.lock = none) :
      ConnStep s c conn .lock { conn with phase := .holding k } { s with lock := some (.conn c) }
  | lookup {src : SocketAddr} {request : Handshake} {config : ServerConfig} {providedId fresh : String}
      {found : Option String} (hp : conn.phase = .holding (.lookup src request config providedId)) :
      ConnStep s c conn (.body fresh found)
        { conn with phase := (lookupSession s.sessions s.nextClientId src request config providedId fresh).1 }
        { s with
          nextClientId := (lookupSession s.sessions s.nextClientId src request config providedId fresh).2
          lock := none }
  | insert {call : Call} {client : Client} {fresh : String} {found : Option String}
      (hp : conn.phase = .holding (.insert call client)) :
      ConnStep s c conn (.body fresh found) { conn with phase := .select }
        { s with sessions := s.sessions.insert call.sessionId client, lock := none }
  | disconnect {addr : SocketAddr} {fresh : String} {found : Option String}
      (hp : conn.phase = .holding (.disconnect addr)) (hf : findAddr addr s.sessions found = true) :
      ConnStep s c conn (.body fresh found) { conn with phase := .select }
        { s with sessions := handleDisconnect found s.sessions, lock := none }
  | final {addr : SocketAddr} {fresh : String} {found : Option String}
      (hp : conn.phase = .holding (.final addr)) (hf : findAddr addr s.sessions found = true) :
      ConnStep s c conn (.body fresh found) { conn with phase := .done }
        { s with sessions := handleDisconnect found s.sessions, lock := none }
  | toClient {data : Bytes} {destIp : Ipv4Addr} {fresh : String} {found : Option String} {client : Client}
      (hp : conn.phase = .holding (.toClient data destIp)) (hf : findVirtualIp destIp s.sessions found = true)
      (hcl : found.bind s.sessions.lookup = some client) :
      ConnStep s c conn (.body fresh found) { conn with phase := .sendingTo data client.addr } s
  | toNobody {data : Bytes} {destIp : Ipv4Addr} {fresh : String} {found : Option String}
      (hp : conn.phase = .holding (.toClient data destIp)) (hf : findVirtualIp destIp s.sessions found = true)
      (hcl : found.bind s.sessions.lookup = none) :
      ConnStep s c conn (.body fresh found) { conn with phase := .select } { s with lock := none }
  | refused {src : SocketAddr} {request : Handshake} {ok : Bool} (hp : conn.phase = .refusing src request) :
      ConnStep s c conn (.sent ok) { conn with phase := .select } s
  | replied {call : Call} (hp : conn.phase = .replying call) :
      ConnStep s c conn (.sent true)
        { conn with phase := .waiting (.insert call (call.client (conn.sender c) s.clock)) } s
  | replyFailed {call : Call} (hp : conn.phase = .replying call) :
      ConnStep s c conn (.sent false) { conn with phase := .select } s
  | keptAlive {src : SocketAddr} {timestamp : Int64} {ok : Bool} (hp : conn.phase = .keepalive src timestamp) :
      ConnStep s c conn (.sent ok) { conn with phase := .select } s
  | forwarded {payload : Bytes} (hp : conn.phase = .forwarding payload) :
      ConnStep s c conn (.sent true) { conn with phase := .select } s
  | forwardFailed {payload : Bytes} (hp : conn.phase = .forwarding payload) :
      ConnStep s c conn (.sent false) { conn with phase := conn.afterLoop } s
  | sentTo {payload : Bytes} {addr : SocketAddr} {ok : Bool} (hp : conn.phase = .sendingTo payload addr) :
      ConnStep s c conn (.sent ok) { conn with phase := .select } { s with lock := none }
  | enqueued {src : SocketAddr} {payload : Bytes} (hp : conn.phase = .data src payload) (hio : s.tunIo ≠ .done)
      (hroom : s.transportQueue.length < channelCapacity) :
      ConnStep s c conn .enqueue { conn with phase := .select }
        { s with transportQueue := s.transportQueue ++ [payload] }
  | dropped {src : SocketAddr} {payload : Bytes} (hp : conn.phase = .data src payload) (hio : s.tunIo = .done) :
      ConnStep s c conn .enqueue { conn with phase := .select } s

/-- What no step of a connection task changes. -/
structure ConnFrame (s t : Server) (conn conn' : Conn) : Prop where
  peer : conn'.peer = conn.peer
  transport : t.transport = s.transport
  clock : t.clock = s.clock
  conns : t.conns = s.conns
  tunPacket : t.tunPacket = s.tunPacket
  tunIo : t.tunIo = s.tunIo
  cleanup : t.cleanup = s.cleanup

theorem ConnStep.frame {s t : Server} {c : Nat} {conn conn' : Conn} {act : ConnAct} (h : ConnStep s c conn act conn' t) :
    ConnFrame s t conn conn' := by
  cases h <;> exact ⟨rfl, rfl, rfl, rfl, rfl, rfl, rfl⟩

/-- A task that has ended does nothing more. -/
theorem ConnStep.not_done {s t : Server} {c : Nat} {conn conn' : Conn} {act : ConnAct} (h : ConnStep s c conn act conn' t) :
    conn.phase ≠ .done := by
  cases h with
  | receive hp | readEnd hp | forward hp | forwardTo hp | forwardNone hp | tunClosed hp | lock hp | lookup hp | insert hp
  | disconnect hp | final hp | toClient hp | toNobody hp | refused hp | replied hp | replyFailed hp | keptAlive hp
  | forwarded hp | forwardFailed hp | sentTo hp | enqueued hp | dropped hp =>
    rw [hp]
    exact fun he => Phase.noConfusion he

/-! ## The handlers up to their first await -/

/-- **The ways a message is dispatched.** -/
inductive Dispatched (nextClientId : UInt32) (src : SocketAddr) (load : Option ServerConfig) (fresh : String) :
    Message → Phase × UInt32 → Prop
  | unknown : Dispatched nextClientId src load fresh ⟨none⟩ (.select, nextClientId)
  | noConfig {request : Handshake} (hload : load = none) :
      Dispatched nextClientId src load fresh ⟨some (.handshake request)⟩ (.select, nextClientId)
  | refused {request : Handshake} {config : ServerConfig} (hload : load = some config)
      (htok : tokenRefused (provided request.token) config.token = true) :
      Dispatched nextClientId src load fresh ⟨some (.handshake request)⟩ (.refusing src request, nextClientId)
  | lookup {request : Handshake} {config : ServerConfig} {providedId : String} (hload : load = some config)
      (htok : tokenRefused (provided request.token) config.token = false)
      (hid : provided request.sessionId = some providedId) :
      Dispatched nextClientId src load fresh ⟨some (.handshake request)⟩
        (.waiting (.lookup src request config providedId), nextClientId)
  | new {request : Handshake} {config : ServerConfig} (hload : load = some config)
      (htok : tokenRefused (provided request.token) config.token = false) (hid : provided request.sessionId = none) :
      Dispatched nextClientId src load fresh ⟨some (.handshake request)⟩
        (newSession nextClientId src request config fresh)
  | data {data : Data} : Dispatched nextClientId src load fresh ⟨some (.data data)⟩ (.data src data.payload, nextClientId)
  | keepalive {keepalive : KeepAlive} : Dispatched nextClientId src load fresh ⟨some (.keepalive keepalive)⟩
      (.keepalive src keepalive.timestamp, nextClientId)
  | disconnect {disconnect : Disconnect} : Dispatched nextClientId src load fresh ⟨some (.disconnect disconnect)⟩
      (.waiting (.disconnect src), nextClientId)

theorem dispatch_spec (nextClientId : UInt32) (src : SocketAddr) (msg : Message) (load : Option ServerConfig)
    (fresh : String) : Dispatched nextClientId src load fresh msg (dispatch nextClientId src msg load fresh) := by
  obtain ⟨msg⟩ := msg
  rcases msg with _ | (request | data | keepalive | disconnect)
  · exact .unknown
  · cases load with
    | none => exact .noConfig rfl
    | some config =>
      simp only [dispatch, handleHandshake]
      by_cases htok : tokenRefused (provided request.token) config.token = true
      · rw [if_pos htok]; exact .refused rfl htok
      · rw [if_neg htok]
        have htok : tokenRefused (provided request.token) config.token = false := Bool.not_eq_true _ ▸ htok
        cases hid : provided request.sessionId with
        | some providedId => exact .lookup rfl htok hid
        | none => exact .new rfl htok hid
  · exact .data
  · exact .keepalive
  · exact .disconnect

/-- A look-up ends in a reply to the handshake it is for. -/
theorem lookupSession_spec (sessions : Sessions) (nextClientId : UInt32) (src : SocketAddr) (request : Handshake)
    (config : ServerConfig) (providedId fresh : String) :
    ∃ call, (lookupSession sessions nextClientId src request config providedId fresh).1 = .replying call ∧
      call.src = src ∧ call.request = request ∧ call.serverToken = config.token := by
  unfold lookupSession
  split <;> exact ⟨_, rfl, rfl, rfl, rfl⟩

/-! ## A connection's step -/

theorem sectionBody_spec {s s' : Server} {c : Nat} {conn : Conn} {k : Section} {fresh : String} {found : Option String}
    (hp : conn.phase = .holding k) (h : sectionBody s c conn k fresh found = some s') :
    ∃ conn' t, ConnStep s c conn (.body fresh found) conn' t ∧ s' = t.setConn c conn' := by
  cases k with
  | lookup src request config providedId => cases h; exact ⟨_, _, .lookup hp, rfl⟩
  | insert call client => cases h; exact ⟨_, _, .insert hp, rfl⟩
  | disconnect addr =>
    simp only [sectionBody] at h
    split at h
    · rename_i hf; cases h; exact ⟨_, _, .disconnect hp hf, rfl⟩
    · cases h
  | final addr =>
    simp only [sectionBody] at h
    split at h
    · rename_i hf; cases h; exact ⟨_, _, .final hp hf, rfl⟩
    · cases h
  | toClient data destIp =>
    simp only [sectionBody] at h
    split at h
    · rename_i hf
      split at h
      · rename_i hcl; cases h; exact ⟨_, _, .toClient hp hf hcl, rfl⟩
      · rename_i hcl; cases h; exact ⟨_, _, .toNobody hp hf hcl, rfl⟩
    · cases h

theorem afterSend_spec {s s' : Server} {c : Nat} {conn : Conn} {ok : Bool} (h : afterSend s c conn ok = some s') :
    ∃ conn' t, ConnStep s c conn (.sent ok) conn' t ∧ s' = t.setConn c conn' := by
  unfold afterSend at h
  split at h
  · rename_i hp; cases h; exact ⟨_, _, .refused hp, rfl⟩
  · rename_i hp
    cases ok with
    | true => cases h; exact ⟨_, _, .replied hp, rfl⟩
    | false => cases h; exact ⟨_, _, .replyFailed hp, rfl⟩
  · rename_i hp; cases h; exact ⟨_, _, .keptAlive hp, rfl⟩
  · rename_i hp
    cases ok with
    | true => cases h; exact ⟨_, _, .forwarded hp, rfl⟩
    | false => cases h; exact ⟨_, _, .forwardFailed hp, rfl⟩
  · rename_i hp; cases h; exact ⟨_, _, .sentTo hp, rfl⟩
  · cases h

theorem forward_spec {s s' : Server} {c : Nat} {conn : Conn} (hp : conn.phase = .select)
    (h : forward s c conn = some s') :
    ∃ conn' t, ConnStep s c conn .forward conn' t ∧ s' = t.setConn c conn' := by
  unfold forward at h
  split at h
  · rename_i ht
    split at h
    · rename_i hq; cases h; exact ⟨_, _, .forward hp ht hq, rfl⟩
    · cases h
  · rename_i ht
    split at h
    · rename_i data tunQueue hq
      cases hd : getDestinationIp data with
      | none => rw [hd] at h; cases h; exact ⟨_, _, .forwardNone hp ht hq hd, rfl⟩
      | some destIp => rw [hd] at h; cases h; exact ⟨_, _, .forwardTo hp ht hq hd, rfl⟩
    · cases h

/-- **The cases of `ConnStep` are all the steps of a connection task.** -/
theorem connStep_spec {s s' : Server} {c : Nat} {conn : Conn} {act : ConnAct} (h : connStep s c conn act = some s') :
    ∃ conn' t, ConnStep s c conn act conn' t ∧ s' = t.setConn c conn' := by
  cases act with
  | receive src msg load fresh =>
    simp only [connStep] at h
    split at h
    · rename_i hc
      cases h
      refine ⟨_, _, .receive hc.1 (fun peer hpeer => ?_), rfl⟩
      simpa [hpeer] using hc.2
    · cases h
  | readEnd =>
    simp only [connStep] at h
    split at h
    · rename_i hp; cases h; exact ⟨_, _, .readEnd hp, rfl⟩
    · cases h
  | forward =>
    simp only [connStep] at h
    split at h
    · rename_i hp; exact forward_spec hp h
    · cases h
  | tunClosed =>
    simp only [connStep] at h
    split at h
    · rename_i hc; cases h; exact ⟨_, _, .tunClosed hc.1 hc.2.1 hc.2.2.1 hc.2.2.2, rfl⟩
    · cases h
  | lock =>
    simp only [connStep] at h
    split at h
    · rename_i hp
      split at h
      · rename_i hl; cases h; exact ⟨_, _, .lock hp hl, rfl⟩
      · cases h
    · cases h
  | body fresh found =>
    simp only [connStep] at h
    split at h
    · rename_i hp; exact sectionBody_spec hp h
    · cases h
  | sent ok => exact afterSend_spec h
  | enqueue =>
    simp only [connStep] at h
    split at h
    · rename_i hp
      split at h
      · rename_i hio; cases h; exact ⟨_, _, .dropped hp hio, rfl⟩
      · rename_i hio
        split at h
        · rename_i hroom; cases h; exact ⟨_, _, .enqueued hp hio hroom, rfl⟩
        · cases h
    · cases h

/-- And each of them is one. -/
theorem ConnStep.connStep_eq {s t : Server} {c : Nat} {conn conn' : Conn} {act : ConnAct}
    (h : ConnStep s c conn act conn' t) : connStep s c conn act = some (t.setConn c conn') := by
  cases h with
  | @receive src msg load fresh hp hsrc =>
    have hall : conn.peer.all (fun peer => decide (peer = src)) = true := by
      cases hpeer : conn.peer with
      | none => rfl
      | some peer => simpa using hsrc peer hpeer
    simp only [connStep, hp, hall]
    rfl
  | readEnd hp => simp only [connStep, hp]; rfl
  | forward hp ht hq => simp only [connStep, hp, Easynet.forward, ht, hq]; rfl
  | forwardTo hp ht hq hd | forwardNone hp ht hq hd =>
    cases s with
    | mk =>
      subst ht hq
      simp only [connStep, hp, Easynet.forward, hd]
      rfl
  | tunClosed hp ht hq hio => simp only [connStep, hp, ht, hq, hio]; rfl
  | lock hp hl => simp only [connStep, hp, hl]; rfl
  | lookup hp | insert hp => simp only [connStep, hp]; rfl
  | disconnect hp hf | final hp hf => simp only [connStep, hp, sectionBody, hf]; rfl
  | toClient hp hf hcl | toNobody hp hf hcl => simp only [connStep, hp, sectionBody, hf, hcl]; rfl
  | refused hp | replied hp | replyFailed hp | keptAlive hp | forwarded hp | forwardFailed hp | sentTo hp =>
    simp only [connStep, afterSend, hp]; rfl
  | enqueued hp hio hroom => simp only [connStep, hp, if_neg hio, if_pos hroom]; rfl
  | dropped hp hio => simp only [connStep, hp, if_pos hio]; rfl

theorem step_connStep {s s' : Server} {c : Nat} {act : ConnAct} (h : step s (.conn c act) = some s') :
    ∃ conn conn' t, s.conns[c]? = some conn ∧ ConnStep s c conn act conn' t ∧ s' = t.setConn c conn' := by
  simp only [step] at h
  split at h
  · rename_i conn hc
    obtain ⟨conn', t, hcs, he⟩ := connStep_spec h
    exact ⟨conn, conn', t, hc, hcs, he⟩
  · cases h

theorem getElem?_setConn {s : Server} {c : Nat} {conn : Conn} (h : s.conns[c]? = some conn) (conn' : Conn) (i : Nat) :
    (s.setConn c conn').conns[i]? = if i = c then some conn' else s.conns[i]? := by
  obtain ⟨hlt, -⟩ := List.getElem?_eq_some_iff.1 h
  show (s.conns.set c conn')[i]? = _
  rw [List.getElem?_set]
  by_cases hi : c = i
  · subst hi; simp [hlt]
  · rw [if_neg hi, if_neg (Ne.symm hi)]

/-- The task itself after its step. -/
theorem ConnStep.conn_after {s t : Server} {c : Nat} {conn conn' : Conn} {act : ConnAct} (h : ConnStep s c conn act conn' t)
    (hc : s.conns[c]? = some conn) : (t.setConn c conn').conns[c]? = some conn' :=
  (getElem?_setConn (h.frame.conns ▸ hc) conn' c).trans (if_pos rfl)

/-- A handshake that a task is sending is the refusal or the reply of its handler. -/
theorem outgoing_handshake {conn : Conn} {dst : SocketAddr} {reply : Handshake}
    (h : conn.outgoing = some (dst, .handshake reply)) :
    (∃ request, conn.phase = .refusing dst request ∧ reply = ⟨"", "", none⟩) ∨
    ∃ call, conn.phase = .replying call ∧ dst = call.src ∧
      reply = ⟨call.serverToken, call.sessionId, some call.tunConfig⟩ := by
  unfold Conn.outgoing at h
  split at h
  · rename_i src request hp
    cases h
    exact Or.inl ⟨request, hp, rfl⟩
  · rename_i call hp
    cases h
    exact Or.inr ⟨call, hp, rfl, rfl⟩
  · cases h
  · cases hpeer : conn.peer <;> rw [hpeer] at h <;> cases h
  · cases h
  · cases h

/-! ## The other tasks' steps -/

theorem sendToClient_spec {s s' : Server} {data : Bytes} {tx : Sender} (h : sendToClient s data tx = some s') :
    s' = s ∨ ∃ c conn, tx = .conn c ∧ s.conns[c]? = some conn ∧ conn.phase ≠ .done ∧
      conn.queue.length < channelCapacity ∧ s' = s.setConn c { conn with queue := conn.queue ++ [data] } := by
  unfold sendToClient at h
  split at h
  · cases h; exact Or.inl rfl
  · split at h
    · cases h; exact Or.inl rfl
    · rename_i c _ conn hc
      split at h
      · cases h; exact Or.inl rfl
      · rename_i hd
        split at h
        · rename_i hroom; cases h
          exact Or.inr ⟨c, conn, rfl, hc, hd, hroom, rfl⟩
        · cases h

/-- Where a connection task stands, apart from its queue. -/
def Conn.place (conn : Conn) : Option SocketAddr × Phase := (conn.peer, conn.phase)

/-- What a step of a task other than a connection leaves alone: every connection's place, and what only connections
write. -/
structure OtherFrame (s s' : Server) : Prop where
  transport : s'.transport = s.transport
  nextClientId : s'.nextClientId = s.nextClientId
  places : ∀ c : Nat, s'.conns[c]?.map Conn.place = s.conns[c]?.map Conn.place

theorem OtherFrame.of_eq {s s' : Server} (ht : s'.transport = s.transport) (hn : s'.nextClientId = s.nextClientId)
    (hc : s'.conns = s.conns) : OtherFrame s s' := ⟨ht, hn, fun _ => by rw [hc]⟩

theorem OtherFrame.conn {s s' : Server} (h : OtherFrame s s') {c : Nat} {conn' : Conn}
    (hc : s'.conns[c]? = some conn') :
    ∃ conn, s.conns[c]? = some conn ∧ conn'.phase = conn.phase ∧ conn'.peer = conn.peer := by
  have hp := h.places c
  rw [hc] at hp
  obtain ⟨conn, hcs, he⟩ := Option.map_eq_some_iff.1 hp.symm
  exact ⟨conn, hcs, (Prod.mk.inj he).2.symm, (Prod.mk.inj he).1.symm⟩

/-- The ways `handle_tun_packet` moves. -/
inductive TunPacketStep (s : Server) : TunPacketAct → Server → Prop
  | recv {data : Bytes} {tunQueue : List Bytes} (hp : s.tunPacket = .recv) (hq : s.tunQueue = data :: tunQueue) :
      TunPacketStep s .recv { s with tunPacket := .waiting data, tunQueue := tunQueue }
  | closed (hp : s.tunPacket = .recv) (hq : s.tunQueue = []) (hio : s.tunIo = .done) :
      TunPacketStep s .closed { s with tunPacket := .done }
  | lock {data : Bytes} (hp : s.tunPacket = .waiting data) (hl : s.lock = none) :
      TunPacketStep s .lock { s with tunPacket := .holding data, lock := some .tunPacket }
  | notIpv4 {data : Bytes} {found : Option String} (hp : s.tunPacket = .holding data)
      (hd : getDestinationIp data = none) : TunPacketStep s (.find found) { s with tunPacket := .recv, lock := none }
  | found {data : Bytes} {destIp : Ipv4Addr} {found : Option String} {client : Client}
      (hp : s.tunPacket = .holding data) (hd : getDestinationIp data = some destIp)
      (hf : findVirtualIp destIp s.sessions found = true) (hcl : found.bind s.sessions.lookup = some client) :
      TunPacketStep s (.find found) { s with tunPacket := .sending data client }
  | notFound {data : Bytes} {destIp : Ipv4Addr} {found : Option String}
      (hp : s.tunPacket = .holding data) (hd : getDestinationIp data = some destIp)
      (hf : findVirtualIp destIp s.sessions found = true) (hcl : found.bind s.sessions.lookup = none) :
      TunPacketStep s (.find found) { s with tunPacket := .recv, lock := none }
  | send {data : Bytes} {client : Client} {t : Server} (hp : s.tunPacket = .sending data client)
      (hs : sendToClient s data client.tx = some t) : TunPacketStep s .send { t with tunPacket := .recv, lock := none }

theorem tunPacketStep_spec {s s' : Server} {act : TunPacketAct} (h : tunPacketStep s act = some s') :
    TunPacketStep s act s' := by
  cases act with
  | recv =>
    simp only [tunPacketStep] at h
    split at h
    · rename_i hp hq; cases h; exact .recv hp hq
    · cases h
  | closed =>
    simp only [tunPacketStep] at h
    split at h
    · rename_i hc; cases h; exact .closed hc.1 hc.2.1 hc.2.2
    · cases h
  | lock =>
    simp only [tunPacketStep] at h
    split at h
    · rename_i hp
      split at h
      · rename_i hl; cases h; exact .lock hp hl
      · cases h
    · cases h
  | find found =>
    simp only [tunPacketStep] at h
    split at h
    · rename_i hp
      split at h
      · rename_i hd; cases h; exact .notIpv4 hp hd
      · rename_i hd
        split at h
        · rename_i hf
          split at h
          · rename_i hcl; cases h; exact .found hp hd hf hcl
          · rename_i hcl; cases h; exact .notFound hp hd hf hcl
        · cases h
    · cases h
  | send =>
    simp only [tunPacketStep] at h
    split at h
    · rename_i hp
      obtain ⟨t, hs, rfl⟩ := Option.map_eq_some_iff.1 h
      exact .send hp hs
    · cases h

theorem tunPacketStep_frame {s s' : Server} {act : TunPacketAct} (h : tunPacketStep s act = some s') :
    OtherFrame s s' ∧ s'.sessions = s.sessions ∧ s'.clock = s.clock ∧ s'.tunIo = s.tunIo ∧ s'.cleanup = s.cleanup := by
  cases tunPacketStep_spec h with
  | send hp hs =>
    rcases sendToClient_spec hs with rfl | ⟨c, conn, -, hc, -, -, rfl⟩
    · exact ⟨.of_eq rfl rfl rfl, rfl, rfl, rfl, rfl⟩
    · -- the packet is on the channel of connection `c`, whose task stands where it stood
      refine ⟨⟨rfl, rfl, fun i => ?_⟩, rfl, rfl, rfl, rfl⟩
      show ((s.setConn c _).conns[i]?).map Conn.place = _
      rw [getElem?_setConn hc]
      by_cases hic : i = c
      · rw [if_pos hic, hic, hc]; rfl
      · rw [if_neg hic]
  | _ => exact ⟨.of_eq rfl rfl rfl, rfl, rfl, rfl, rfl⟩

/-- The ways `tun_io_task` moves. -/
inductive TunIoStep (s : Server) : TunIoAct → Server → Prop
  | recv {payload : Bytes} {transportQueue : List Bytes} (hp : s.tunIo = .select)
      (hq : s.transportQueue = payload :: transportQueue) :
      TunIoStep s .recv { s with tunIo := .writing, transportQueue := transportQueue }
  | recvDirect (hp : s.tunIo = .select) : TunIoStep s .recvDirect { s with tunIo := .writing }
  | written {ok : Bool} (hp : s.tunIo = .writing) :
      TunIoStep s (.written ok) { s with tunIo := if ok then .select else .done }
  | proxy {data : Bytes} (hp : s.tunIo = .select) : TunIoStep s (.read data .proxy) { s with tunIo := .sending data }
  | direct {data : Bytes} (hp : s.tunIo = .select) : TunIoStep s (.read data .direct) { s with tunIo := .sendingDirect }
  | reject {data : Bytes} (hp : s.tunIo = .select) : TunIoStep s (.read data .reject) { s with tunIo := .select }
  | send {data : Bytes} (hp : s.tunIo = .sending data) (halive : s.tunReceiverAlive = true)
      (hroom : s.tunQueue.length < channelCapacity) :
      TunIoStep s .send { s with tunIo := .select, tunQueue := s.tunQueue ++ [data] }
  | sendFailed {data : Bytes} (hp : s.tunIo = .sending data) (hgone : ¬ s.tunReceiverAlive = true) :
      TunIoStep s .send { s with tunIo := .done }
  | sentDirect {ok : Bool} (hp : s.tunIo = .sendingDirect) :
      TunIoStep s (.sentDirect ok) { s with tunIo := if ok then .select else .done }
  | failed (hp : s.tunIo = .select) : TunIoStep s .failed { s with tunIo := .done }

theorem tunIoStep_spec {s s' : Server} {act : TunIoAct} (h : tunIoStep s act = some s') : TunIoStep s act s' := by
  cases act with
  | recv =>
    simp only [tunIoStep] at h
    split at h
    · rename_i hp hq; cases h; exact .recv hp hq
    · cases h
  | send =>
    simp only [tunIoStep] at h
    split at h
    · rename_i hp
      split at h
      · rename_i halive
        split at h
        · rename_i hroom; cases h; exact .send hp halive hroom
        · cases h
      · rename_i hgone; cases h; exact .sendFailed hp hgone
    · cases h
  | read data route =>
    simp only [tunIoStep] at h
    split at h
    · rename_i hp
      cases route with
      | proxy => cases h; exact .proxy hp
      | direct => cases h; exact .direct hp
      | reject => cases h; exact .reject hp
    · cases h
  | recvDirect =>
    simp only [tunIoStep] at h
    split at h
    · rename_i hp; cases h; exact .recvDirect hp
    · cases h
  | written ok =>
    simp only [tunIoStep] at h
    split at h
    · rename_i hp; cases h; exact .written hp
    · cases h
  | sentDirect ok =>
    simp only [tunIoStep] at h
    split at h
    · rename_i hp; cases h; exact .sentDirect hp
    · cases h
  | failed =>
    simp only [tunIoStep] at h
    split at h
    · rename_i hp; cases h; exact .failed hp
    · cases h

theorem tunIoStep_frame {s s' : Server} {act : TunIoAct} (h : tunIoStep s act = some s') :
    OtherFrame s s' ∧ s'.sessions = s.sessions ∧ s'.clock = s.clock ∧ s'.conns = s.conns ∧ s'.lock = s.lock ∧
      s'.tunPacket = s.tunPacket ∧ s'.cleanup = s.cleanup := by
  cases tunIoStep_spec h <;> exact ⟨.of_eq rfl rfl rfl, rfl, rfl, rfl, rfl, rfl, rfl⟩

/-- The ways `cleanup_expired_sessions` moves. -/
inductive CleanupStep (s : Server) : CleanupAct → Server → Prop
  | wake (hp : s.cleanup = .sleeping) : CleanupStep s .wake { s with cleanup := .waiting }
  | lock (hp : s.cleanup = .waiting) (hl : s.lock = none) :
      CleanupStep s .lock { s with cleanup := .holding, lock := some .cleanup }
  | round (hp : s.cleanup = .holding) : CleanupStep s .round
      { s with sessions := cleanupExpiredSessions s.clock s.sessions, cleanup := .sleeping, lock := none }

theorem cleanupStep_spec {s s' : Server} {act : CleanupAct} (h : cleanupStep s act = some s') : CleanupStep s act s' := by
  cases act with
  | wake =>
    simp only [cleanupStep] at h
    split at h
    · rename_i hp; cases h; exact .wake hp
    · cases h
  | lock =>
    simp only [cleanupStep] at h
    split at h
    · rename_i hp; cases h; exact .lock hp.1 hp.2
    · cases h
  | round =>
    simp only [cleanupStep] at h
    split at h
    · rename_i hp; cases h; exact .round hp
    · cases h

theorem cleanupStep_frame {s s' : Server} {act : CleanupAct} (h : cleanupStep s act = some s') :
    OtherFrame s s' ∧ s'.clock = s.clock ∧
      s'.sessions = (if act = .round then cleanupExpiredSessions s.clock s.sessions else s.sessions) ∧
      s'.conns = s.conns ∧ s'.tunPacket = s.tunPacket ∧ s'.tunIo = s.tunIo := by
  cases cleanupStep_spec h <;> exact ⟨.of_eq rfl rfl rfl, rfl, rfl, rfl, rfl, rfl⟩

/-! ## Any step -/

theorem step_accept {s s' : Server} {peer : SocketAddr} (h : step s (.accept peer) = some s') :
    s.transport = .stream ∧ s' = { s with conns := s.conns ++ [⟨some peer, .select, []⟩] } := by
  simp only [step] at h
  split at h
  · rename_i ht; cases h; exact ⟨ht, rfl⟩
  · cases h

/-- **Who writes what**: a field changes only in a step of the actions named for it. -/
structure StepFrame (s : Server) (a : Action) (s' : Server) : Prop where
  transport : s'.transport = s.transport
  clock : (∀ now, a ≠ .clock now) → s'.clock = s.clock
  nextClientId : (∀ c act, a ≠ .conn c act) → s'.nextClientId = s.nextClientId
  sessions : (∀ c act, a ≠ .conn c act) → a ≠ .cleanup .round → s'.sessions = s.sessions
  conns : (∀ peer, a ≠ .accept peer) → (∀ c act, a ≠ .conn c act) → (∀ act, a ≠ .tunPacket act) → s'.conns = s.conns
  tunPacket : (∀ act, a ≠ .tunPacket act) → s'.tunPacket = s.tunPacket
  tunIo : (∀ act, a ≠ .tunIo act) → s'.tunIo = s.tunIo
  cleanup : (∀ act, a ≠ .cleanup act) → s'.cleanup = s.cleanup

theorem step_frame {s s' : Server} {a : Action} (h : step s a = some s') : StepFrame s a s' := by
  cases a with
  | clock now =>
    cases h
    exact ⟨rfl, fun ha => absurd rfl (ha now), fun _ => rfl, fun _ _ => rfl, fun _ _ _ => rfl, fun _ => rfl,
      fun _ => rfl, fun _ => rfl⟩
  | accept peer =>
    obtain ⟨-, rfl⟩ := step_accept h
    exact ⟨rfl, fun _ => rfl, fun _ => rfl, fun _ _ => rfl, fun ha => absurd rfl (ha peer), fun _ => rfl,
      fun _ => rfl, fun _ => rfl⟩
  | conn c act =>
    obtain ⟨conn, conn', t, -, hcs, rfl⟩ := step_connStep h
    have hf := hcs.frame
    exact ⟨hf.transport, fun _ => hf.clock, fun ha => absurd rfl (ha c act), fun ha => absurd rfl (ha c act),
      fun _ ha => absurd rfl (ha c act), fun _ => hf.tunPacket, fun _ => hf.tunIo, fun _ => hf.cleanup⟩
  | tunPacket act =>
    obtain ⟨hf, hsessions, hclock, htunIo, hcleanup⟩ := tunPacketStep_frame h
    exact ⟨hf.transport, fun _ => hclock, fun _ => hf.nextClientId, fun _ _ => hsessions,
      fun _ _ ha => absurd rfl (ha act), fun ha => absurd rfl (ha act), fun _ => htunIo, fun _ => hcleanup⟩
  | tunIo act =>
    obtain ⟨hf, hsessions, hclock, hconns, -, htunPacket, hcleanup⟩ := tunIoStep_frame h
    exact ⟨hf.transport, fun _ => hclock, fun _ => hf.nextClientId, fun _ _ => hsessions, fun _ _ _ => hconns,
      fun _ => htunPacket, fun ha => absurd rfl (ha act), fun _ => hcleanup⟩
  | cleanup act =>
    obtain ⟨hf, hclock, hsessions, hconns, htunPacket, htunIo⟩ := cleanupStep_frame h
    refine ⟨hf.transport, fun _ => hclock, fun _ => hf.nextClientId, fun _ ha => ?_, fun _ _ _ => hconns,
      fun _ => htunPacket, fun _ => htunIo, fun ha => absurd rfl (ha act)⟩
    rw [hsessions, if_neg (fun he => ha (congrArg Action.cleanup he))]

/-- A `tun_io_task` that has ended does not come back. -/
theorem tunIo_done_step {s s' : Server} {a : Action} (hs : step s a = some s') (hd : s.tunIo = .done) :
    s'.tunIo = .done := by
  cases a with
  | tunIo act =>
    cases tunIoStep_spec hs with
    | recv hp | recvDirect hp | written hp | proxy hp | direct hp | reject hp | send hp | sendFailed hp | sentDirect hp
    | failed hp => cases hp.symm.trans hd
  | clock _ | accept _ | conn _ _ | tunPacket _ | cleanup _ =>
    exact ((step_frame hs).tunIo (fun _ he => Action.noConfusion he)).trans hd

theorem transport_eq {transport : Transport} {h : List (Server × Action)} {s : Server} (hr : ServerRun transport h s) :
    s.transport = transport :=
  hr.invariant (fun s => s.transport = transport) (by cases transport <;> rfl)
    (fun _ _ _ ih hs => (step_frame hs).transport.trans ih)

/-! ## Where a connection is after a step -/

theorem step_conn {s s' : Server} {a : Action} (h : step s a = some s') {c : Nat} {conn' : Conn}
    (hc : s'.conns[c]? = some conn') :
    (∃ conn, s.conns[c]? = some conn ∧ conn'.phase = conn.phase ∧ conn'.peer = conn.peer ∧ ∀ act, a ≠ .conn c act) ∨
    (∃ peer, a = .accept peer ∧ s.transport = .stream ∧ c = s.conns.length ∧ conn' = ⟨some peer, .select, []⟩) ∨
    (∃ conn act t, a = .conn c act ∧ s.conns[c]? = some conn ∧ ConnStep s c conn act conn' t) := by
  cases a with
  | clock now => cases h; exact Or.inl ⟨conn', hc, rfl, rfl, fun _ he => Action.noConfusion he⟩
  | accept peer =>
    obtain ⟨ht, rfl⟩ := step_accept h
    simp only [List.getElem?_append] at hc
    split at hc
    · exact Or.inl ⟨conn', hc, rfl, rfl, fun _ he => Action.noConfusion he⟩
    · rename_i hlen
      obtain ⟨h0, he⟩ := List.getElem?_eq_some_iff.1 hc
      simp only [List.length_cons, List.length_nil] at h0
      have hcl : c = s.conns.length := by omega
      subst hcl
      refine Or.inr (Or.inl ⟨peer, rfl, ht, rfl, ?_⟩)
      simpa using he.symm
  | conn i act =>
    obtain ⟨conn, conn₁, t, hi, hcs, rfl⟩ := step_connStep h
    rw [getElem?_setConn (hcs.frame.conns ▸ hi), hcs.frame.conns] at hc
    by_cases hic : c = i
    · subst hic
      rw [if_pos rfl] at hc; cases hc
      exact Or.inr (Or.inr ⟨conn, act, t, rfl, hi, hcs⟩)
    · rw [if_neg hic] at hc
      refine Or.inl ⟨conn', hc, rfl, rfl, fun _ he => hic ?_⟩
      cases he; rfl
  | tunPacket act =>
    obtain ⟨conn, hcs, hp, hpeer⟩ := (tunPacketStep_frame h).1.conn hc
    exact Or.inl ⟨conn, hcs, hp, hpeer, fun _ he => Action.noConfusion he⟩
  | tunIo act =>
    obtain ⟨conn, hcs, hp, hpeer⟩ := (tunIoStep_frame h).1.conn hc
    exact Or.inl ⟨conn, hcs, hp, hpeer, fun _ he => Action.noConfusion he⟩
  | cleanup act =>
    obtain ⟨conn, hcs, hp, hpeer⟩ := (cleanupStep_frame h).1.conn hc
    exact Or.inl ⟨conn, hcs, hp, hpeer, fun _ he => Action.noConfusion he⟩

theorem conns_length_le {s s' : Server} {a : Action} (h : step s a = some s') : s.conns.length ≤ s'.conns.length := by
  cases a with
  | accept peer =>
    obtain ⟨-, rfl⟩ := step_accept h
    rw [List.length_append]
    exact Nat.le_add_right ..
  | conn c act =>
    obtain ⟨conn, conn', t, -, hcs, rfl⟩ := step_connStep h
    show s.conns.length ≤ (t.conns.set c conn').length
    rw [List.length_set, hcs.frame.conns]
  | tunPacket act =>
    cases tunPacketStep_spec h with
    | send hp hs =>
      rcases sendToClient_spec hs with rfl | ⟨c, conn, -, -, -, -, rfl⟩
      · exact Nat.le_refl _
      · exact Nat.le_of_eq List.length_set.symm
    | _ => exact Nat.le_refl _
  | clock now => cases h; exact Nat.le_refl _
  | tunIo act | cleanup act =>
    rw [(step_frame h).conns (fun _ he => Action.noConfusion he) (fun _ _ he => Action.noConfusion he)
      (fun _ he => Action.noConfusion he)]

/-- **Where a step takes a connection there is**: nowhere, if it is another task's step. -/
theorem step_conn_forward {s s' : Server} {a : Action} (h : step s a = some s') {c : Nat} {conn : Conn}
    (hc : s.conns[c]? = some conn) : ∃ conn', s'.conns[c]? = some conn' ∧ conn'.peer = conn.peer ∧
      ((conn'.phase = conn.phase ∧ ∀ act, a ≠ .conn c act) ∨ ∃ act t, a = .conn c act ∧ ConnStep s c conn act conn' t) := by
  obtain ⟨hlt, -⟩ := List.getElem?_eq_some_iff.1 hc
  have hlt' : c < s'.conns.length := Nat.lt_of_lt_of_le hlt (conns_length_le h)
  refine ⟨s'.conns[c], List.getElem?_eq_getElem hlt', ?_⟩
  rcases step_conn h (List.getElem?_eq_getElem hlt') with
    ⟨conn₁, hc₁, hp, hpeer, hne⟩ | ⟨peer, -, -, rfl, -⟩ | ⟨conn₁, act, t, ha, hc₁, hcs⟩
  · cases hc.symm.trans hc₁
    exact ⟨hpeer, Or.inl ⟨hp, hne⟩⟩
  · exact absurd hlt (Nat.lt_irrefl _)
  · cases hc.symm.trans hc₁
    exact ⟨hcs.frame.peer, Or.inr ⟨act, t, ha, hcs⟩⟩

theorem init_conns {transport : Transport} {c : Nat} {conn : Conn} (h : (Server.init transport).conns[c]? = some conn) :
    transport = .datagram ∧ c = 0 ∧ conn = ⟨none, .select, []⟩ := by
  cases transport with
  | stream => simp [Server.init] at h
  | datagram =>
    obtain ⟨hlt, he⟩ := List.getElem?_eq_some_iff.1 h
    have h0 : c = 0 := by simpa [Server.init] using hlt
    subst h0
    exact ⟨rfl, rfl, he.symm⟩

/-- **A property of one task's place and the run so far holds of every task in every run**, if it holds of a new task,
which is in its `select!` and has a peer unless it is the UDP loop, survives the steps of the others, and the task's own
steps keep it. -/
theorem phase_invariant {transport : Transport} {P : List (Server × Action) → Nat → Option SocketAddr → Phase → Prop}
    (hnew : ∀ h c peer, (peer = none ↔ transport = .datagram) → P h c peer .select)
    (hother : ∀ {h s a s' c peer phase}, step s a = some s' → (∀ act, a ≠ .conn c act) → P h c peer phase →
      P (h ++ [(s, a)]) c peer phase)
    (hown : ∀ {h s act c conn conn' t}, ServerRun transport h s → s.conns[c]? = some conn →
      ConnStep s c conn act conn' t → P h c conn.peer conn.phase →
      P (h ++ [(s, Action.conn c act)]) c conn'.peer conn'.phase)
    {h : List (Server × Action)} {s : Server} (hr : ServerRun transport h s) :
    ∀ {c : Nat} {conn : Conn}, s.conns[c]? = some conn → P h c conn.peer conn.phase := by
  induction hr with
  | nil =>
    intro c conn hc
    obtain ⟨ht, -, rfl⟩ := init_conns hc
    exact hnew _ _ _ ⟨fun _ => ht, fun _ => rfl⟩
  | snoc hr hs ih =>
    intro c conn' hc
    rcases step_conn hs hc with ⟨conn, hcs, hp, hpeer, hne⟩ | ⟨peer, rfl, ht, rfl, rfl⟩ | ⟨conn, act, t, rfl, hcs, hps⟩
    · rw [hp, hpeer]
      exact hother hs hne (ih hcs)
    · refine hnew _ _ _ ⟨nofun, fun hd => ?_⟩
      rw [transport_eq hr, hd] at ht
      cases ht
    · exact hown hr hcs hps (ih hcs)

end Easynet
