import Easynet.Lib.Machine
import Easynet.Sessions
import Easynet.Rules.Rule
/-!
# Server — the server's tasks as one machine

The tasks of a running server and what they share: `SESSIONS` behind its mutex, `NEXT_CLIENT_ID`, each connection's
client channel, the tun channel and the transport channel.  A task is cut at its awaits: every phase is a place where it
waits for something, and every step is what it does once that has come.  The scheduler, the peers, the TUN device, the
clock and the configuration file are the machine's actions.

With a stream transport (TCP, WebSocket) every accepted connection has a task of its own, and `handle_tun_packet` routes
the packets of the TUN device.  With the datagram transport (UDP) one loop serves all peers; it is the only entry of
`conns`, has no fixed peer, and takes the packets of the TUN device itself.

A mutex guard is taken in one step and given back in another, so that a task can be seen holding it.  Between the two no
task but `handle_tun_packet` and the UDP loop has an await.
-/
namespace Easynet

inductive Transport
  | stream
  | datagram
  deriving DecidableEq, Repr

inductive Task
  | conn (c : Nat)
  | tunPacket
  | tunIo
  | cleanup
  deriving DecidableEq, Repr

/-- A handshake whose session is settled: the message it answers and the locals of `handle_handshake`. -/
structure Call where
  src : SocketAddr
  request : Handshake
  sessionId : String
  virtualIp : Ipv4Addr
  tunConfig : TunConfig
  serverToken : String
  deriving DecidableEq, Repr

/-- What a connection task does while it holds `SESSIONS`. -/
inductive Section
  | lookup (src : SocketAddr) (request : Handshake) (config : ServerConfig) (providedId : String)
  | insert (call : Call) (client : Client)
  | disconnect (addr : SocketAddr)
  | final (addr : SocketAddr)
  | toClient (data : Bytes) (destIp : Ipv4Addr)
  deriving DecidableEq, Repr

/-- Where a connection task stands: in its `select!`, before or in a critical section, or at an await of a handler. -/
inductive Phase
  | select
  | waiting (k : Section)
  | holding (k : Section)
  | refusing (src : SocketAddr) (request : Handshake)
  | replying (call : Call)
  | data (src : SocketAddr) (payload : Bytes)
  | keepalive (src : SocketAddr) (timestamp : Int64)
  | forwarding (payload : Bytes)
  | sendingTo (payload : Bytes) (addr : SocketAddr)
  | done
  deriving DecidableEq, Repr

/-- A connection task: `handle_tcp_connection`, `handle_ws_connection`, or, without a fixed peer, the UDP
`transport_io_task`.  The queue is its client channel. -/
structure Conn where
  peer : Option SocketAddr
  phase : Phase
  queue : List Bytes
  deriving DecidableEq, Repr

/-- `handle_tun_packet`. -/
inductive TunPacket
  | recv
  | waiting (data : Bytes)
  | holding (data : Bytes)
  | sending (data : Bytes) (client : Client)
  | done
  deriving DecidableEq, Repr

/-- `tun_io_task`. -/
inductive TunIo
  | select
  | writing
  | sending (data : Bytes)
  | sendingDirect
  | done
  deriving DecidableEq, Repr

/-- `cleanup_expired_sessions`. -/
inductive Cleanup
  | sleeping
  | waiting
  | holding
  deriving DecidableEq, Repr

structure Server where
  transport : Transport
  clock : Nat
  nextClientId : UInt32
  sessions : Sessions
  lock : Option Task
  conns : List Conn
  tunQueue : List Bytes
  transportQueue : List Bytes
  tunPacket : TunPacket
  tunIo : TunIo
  cleanup : Cleanup

/-- The capacity of every channel the server makes. -/
def channelCapacity : Nat := 4096

inductive ConnAct
  | receive (src : SocketAddr) (msg : Message) (load : Option ServerConfig) (fresh : String)
  | readEnd
  | forward
  | tunClosed
  | lock
  | body (fresh : String) (found : Option String)
  | sent (ok : Bool)
  | enqueue
  deriving DecidableEq, Repr

inductive TunPacketAct
  | recv
  | closed
  | lock
  | find (found : Option String)
  | send
  deriving DecidableEq, Repr

inductive TunIoAct
  | recv
  | recvDirect
  | written (ok : Bool)
  | read (data : Bytes) (route : RuleAction)
  | send
  | sentDirect (ok : Bool)
  | failed
  deriving DecidableEq, Repr

inductive CleanupAct
  | wake
  | lock
  | round
  deriving DecidableEq, Repr

inductive Action
  | clock (now : Nat)
  | accept (peer : SocketAddr)
  | conn (c : Nat) (act : ConnAct)
  | tunPacket (act : TunPacketAct)
  | tunIo (act : TunIoAct)
  | cleanup (act : CleanupAct)
  deriving DecidableEq, Repr

namespace Server

def init (transport : Transport) : Server where
  transport := transport
  clock := 0
  nextClientId := 2
  sessions := ∅
  lock := none
  conns := match transport with
    | .stream   => []
    | .datagram => [⟨none, .select, []⟩]
  tunQueue := []
  transportQueue := []
  tunPacket := match transport with
    | .stream   => .recv
    | .datagram => .done
  tunIo := .select
  cleanup := .sleeping

def setConn (s : Server) (c : Nat) (conn : Conn) : Server := { s with conns := s.conns.set c conn }

def setPhase (s : Server) (c : Nat) (conn : Conn) (phase : Phase) : Server := s.setConn c { conn with phase := phase }

/-- The receiver of the tun channel has not been dropped. -/
def tunReceiverAlive (s : Server) : Bool :=
  match s.transport with
  | .stream   => decide (s.tunPacket ≠ .done)
  | .datagram => s.conns.any (fun conn => decide (conn.phase ≠ .done))

end Server

/-! ## Connection tasks -/

/-- A new session: its id, its address and its configuration, and the counter afterwards. -/
def newSession (nextClientId : UInt32) (src : SocketAddr) (request : Handshake) (config : ServerConfig)
    (fresh : String) : Phase × UInt32 :=
  let (virtualIp, nextClientId) := allocateVirtualIp nextClientId
  (.replying ⟨src, request, fresh, virtualIp, buildTunConfig config virtualIp, config.token⟩, nextClientId)

/-- `handle_handshake` up to its first await. -/
def handleHandshake (nextClientId : UInt32) (src : SocketAddr) (request : Handshake) (load : Option ServerConfig)
    (fresh : String) : Phase × UInt32 :=
  match load with
  | none => (.select, nextClientId)
  | some config =>
    if tokenRefused (provided request.token) config.token then (.refusing src request, nextClientId)
    else match provided request.sessionId with
      | some providedId => (.waiting (.lookup src request config providedId), nextClientId)
      | none            => newSession nextClientId src request config fresh

/-- The look-up of a provided session id, under the lock. -/
def lookupSession (sessions : Sessions) (nextClientId : UInt32) (src : SocketAddr) (request : Handshake)
    (config : ServerConfig) (providedId fresh : String) : Phase × UInt32 :=
  match sessions.lookup providedId with
  | some existing =>
    (.replying ⟨src, request, providedId, existing.virtualIp, existing.tunConfig, config.token⟩, nextClientId)
  | none => newSession nextClientId src request config fresh

/-- The dispatch of a message to its handler, up to the handler's first await. -/
def dispatch (nextClientId : UInt32) (src : SocketAddr) (msg : Message) (load : Option ServerConfig)
    (fresh : String) : Phase × UInt32 :=
  match msg.msg with
  | some (.handshake handshake) => handleHandshake nextClientId src handshake load fresh
  | some (.data data)           => (.data src data.payload, nextClientId)
  | some (.keepalive keepalive) => (.keepalive src keepalive.timestamp, nextClientId)
  | some (.disconnect _)        => (.waiting (.disconnect src), nextClientId)
  | none                        => (.select, nextClientId)

/-- Where the loop goes when it breaks: a stream connection has its final `handle_disconnect`. -/
def Conn.afterLoop (conn : Conn) : Phase :=
  match conn.peer with
  | some peer => .waiting (.final peer)
  | none      => .done

/-- The sender a handshake on this task stores. -/
def Conn.sender (conn : Conn) (c : Nat) : Sender :=
  match conn.peer with
  | some _ => .conn c
  | none   => .dummy

/-- The message a task is handing to `transport.send`, and the address it is for. -/
def Conn.outgoing (conn : Conn) : Option (SocketAddr × Message) :=
  match conn.phase with
  | .refusing src _         => some (src, .handshake ⟨"", "", none⟩)
  | .replying call          => some (call.src, .handshake ⟨call.serverToken, call.sessionId, some call.tunConfig⟩)
  | .keepalive src time     => some (src, .keepalive ⟨time⟩)
  | .forwarding payload     => conn.peer.map (fun peer => (peer, .data ⟨payload⟩))
  | .sendingTo payload addr => some (addr, .data ⟨payload⟩)
  | _                       => none

/-- The client that a handshake stores, stamped when its reply has been sent. -/
def Call.client (call : Call) (tx : Sender) (now : Nat) : Client :=
  ⟨call.src, call.virtualIp, tx, call.tunConfig, now⟩

/-- The body of a critical section, up to the release of the lock or the await inside it. -/
def sectionBody (s : Server) (c : Nat) (conn : Conn) (k : Section) (fresh : String) (found : Option String) :
    Option Server :=
  match k with
  | .lookup src request config providedId =>
    let (phase, nextClientId) := lookupSession s.sessions s.nextClientId src request config providedId fresh
    some { (s.setPhase c conn phase) with nextClientId := nextClientId, lock := none }
  | .insert call client =>
    some { (s.setPhase c conn .select) with sessions := s.sessions.insert call.sessionId client, lock := none }
  | .disconnect addr =>
    if findAddr addr s.sessions found then
      some { (s.setPhase c conn .select) with sessions := handleDisconnect found s.sessions, lock := none }
    else none
  | .final addr =>
    if findAddr addr s.sessions found then
      some { (s.setPhase c conn .done) with sessions := handleDisconnect found s.sessions, lock := none }
    else none
  | .toClient data destIp =>
    if findVirtualIp destIp s.sessions found then
      match found.bind s.sessions.lookup with
      | some client => some (s.setPhase c conn (.sendingTo data client.addr))
      | none        => some { (s.setPhase c conn .select) with lock := none }
    else none

/-- What follows a `transport.send` of a connection task. -/
def afterSend (s : Server) (c : Nat) (conn : Conn) (ok : Bool) : Option Server :=
  match conn.phase with
  | .refusing _ _   => some (s.setPhase c conn .select)
  | .replying call  =>
    let phase := if ok then .waiting (.insert call (call.client (conn.sender c) s.clock)) else .select
    some (s.setPhase c conn phase)
  | .keepalive _ _  => some (s.setPhase c conn .select)
  | .forwarding _   => some (s.setPhase c conn (if ok then .select else conn.afterLoop))
  | .sendingTo _ _  => some { (s.setPhase c conn .select) with lock := none }
  | _               => none

/-- What `client_rx.recv()`, or in the UDP loop `tun_rx.recv()`, leads to. -/
def forward (s : Server) (c : Nat) (conn : Conn) : Option Server :=
  match s.transport with
  | .stream =>
    match conn.queue with
    | data :: queue => some (s.setConn c { conn with phase := .forwarding data, queue := queue })
    | []            => none
  | .datagram =>
    match s.tunQueue with
    | data :: tunQueue =>
      let phase := match getDestinationIp data with
        | some destIp => .waiting (.toClient data destIp)
        | none        => .select
      some { (s.setPhase c conn phase) with tunQueue := tunQueue }
    | [] => none

def connStep (s : Server) (c : Nat) (conn : Conn) : ConnAct → Option Server
  | .receive src msg load fresh =>
    if conn.phase = .select ∧ conn.peer.all (fun peer => decide (peer = src)) then
      let (phase, nextClientId) := dispatch s.nextClientId src msg load fresh
      some { (s.setPhase c conn phase) with nextClientId := nextClientId }
    else none
  | .readEnd => if conn.phase = .select then some (s.setPhase c conn conn.afterLoop) else none
  | .forward => if conn.phase = .select then forward s c conn else none
  | .tunClosed =>
    if conn.phase = .select ∧ s.transport = .datagram ∧ s.tunQueue = [] ∧ s.tunIo = .done then
      some (s.setPhase c conn .done)
    else none
  | .lock =>
    match conn.phase with
    | .waiting k =>
      if s.lock = none then some { (s.setPhase c conn (.holding k)) with lock := some (.conn c) } else none
    | _ => none
  | .body fresh found =>
    match conn.phase with
    | .holding k => sectionBody s c conn k fresh found
    | _          => none
  | .sent ok => afterSend s c conn ok
  | .enqueue =>
    match conn.phase with
    | .data _ payload =>
      if s.tunIo = .done then some (s.setPhase c conn .select)
      else if s.transportQueue.length < channelCapacity then
        some { (s.setPhase c conn .select) with transportQueue := s.transportQueue ++ [payload] }
      else none
    | _ => none

/-! ## The other tasks -/

/-- `client.tx.send(data)`: onto the client's channel when it has room, an error when its receiver is gone. -/
def sendToClient (s : Server) (data : Bytes) (tx : Sender) : Option Server :=
  match tx with
  | .dummy  => some s
  | .conn c =>
    match s.conns[c]? with
    | none => some s
    | some conn =>
      if conn.phase = .done then some s
      else if conn.queue.length < channelCapacity then some (s.setConn c { conn with queue := conn.queue ++ [data] })
      else none

def tunPacketStep (s : Server) : TunPacketAct → Option Server
  | .recv =>
    match s.tunPacket, s.tunQueue with
    | .recv, data :: tunQueue => some { s with tunPacket := .waiting data, tunQueue := tunQueue }
    | _, _                    => none
  | .closed =>
    if s.tunPacket = .recv ∧ s.tunQueue = [] ∧ s.tunIo = .done then some { s with tunPacket := .done } else none
  | .lock =>
    match s.tunPacket with
    | .waiting data =>
      if s.lock = none then some { s with tunPacket := .holding data, lock := some .tunPacket } else none
    | _ => none
  | .find found =>
    match s.tunPacket with
    | .holding data =>
      match getDestinationIp data with
      | none => some { s with tunPacket := .recv, lock := none }
      | some destIp =>
        if findVirtualIp destIp s.sessions found then
          match found.bind s.sessions.lookup with
          | some client => some { s with tunPacket := .sending data client }
          | none        => some { s with tunPacket := .recv, lock := none }
        else none
    | _ => none
  | .send =>
    match s.tunPacket with
    | .sending data client =>
      (sendToClient s data client.tx).map (fun s => { s with tunPacket := .recv, lock := none })
    | _ => none

def tunIoStep (s : Server) : TunIoAct → Option Server
  | .recv =>
    match s.tunIo, s.transportQueue with
    | .select, _ :: transportQueue => some { s with tunIo := .writing, transportQueue := transportQueue }
    | _, _                         => none
  | .recvDirect => if s.tunIo = .select then some { s with tunIo := .writing } else none
  | .written ok => if s.tunIo = .writing then some { s with tunIo := if ok then .select else .done } else none
  | .read data route =>
    if s.tunIo = .select then
      some { s with tunIo := match route with
        | .proxy  => .sending data
        | .direct => .sendingDirect
        | .reject => .select }
    else none
  | .send =>
    match s.tunIo with
    | .sending data =>
      if s.tunReceiverAlive then
        if s.tunQueue.length < channelCapacity then
          some { s with tunIo := .select, tunQueue := s.tunQueue ++ [data] }
        else none
      else some { s with tunIo := .done }
    | _ => none
  | .sentDirect ok => if s.tunIo = .sendingDirect then some { s with tunIo := if ok then .select else .done } else none
  | .failed => if s.tunIo = .select then some { s with tunIo := .done } else none

def cleanupStep (s : Server) : CleanupAct → Option Server
  | .wake => if s.cleanup = .sleeping then some { s with cleanup := .waiting } else none
  | .lock =>
    if s.cleanup = .waiting ∧ s.lock = none then some { s with cleanup := .holding, lock := some .cleanup } else none
  | .round =>
    if s.cleanup = .holding then
      some { s with sessions := cleanupExpiredSessions s.clock s.sessions, cleanup := .sleeping, lock := none }
    else none

def step (s : Server) : Action → Option Server
  | .clock now => some { s with clock := now }
  | .accept peer =>
    if s.transport = .stream then some { s with conns := s.conns ++ [⟨some peer, .select, []⟩] } else none
  | .conn c act =>
    match s.conns[c]? with
    | some conn => connStep s c conn act
    | none      => none
  | .tunPacket act => tunPacketStep s act
  | .tunIo act => tunIoStep s act
  | .cleanup act => cleanupStep s act

/-- **A run of the server** on a transport. -/
abbrev ServerRun (transport : Transport) (h : List (Server × Action)) (s : Server) : Prop :=
  Machine.Run step (Server.init transport) h s

/-- The history of a list of actions, from the start. -/
def played (transport : Transport) (acts : List Action) : List (Server × Action) :=
  Machine.trace step (Server.init transport) acts

theorem played_run {transport : Transport} {acts : List Action}
    (h : (Machine.exec step (Server.init transport) acts).isSome = true) :
    ServerRun transport (played transport acts) ((Machine.exec step (Server.init transport) acts).get h) :=
  Machine.run_get h

end Easynet
