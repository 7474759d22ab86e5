import Easynet.Link
import Easynet.ServerFlow
/-!
# Tunnel — one client, the server, and the links between them

The server with all its tasks and all its other clients, one client from its connection on, and the two directions of the
connection between them.  The client is the one whose connection the server accepts as its `c`-th.  It sends its
handshake, waits for the answer, makes its TUN device and starts its two tasks; from then on it is a `ClockedClient`.

Every step of the tunnel is a step of the server or none of its (`serverAct`), and a step of the client's tasks or none of
theirs (`clockedAct`), so that a run of the tunnel is a run of each (`serverRun`, `pipelineRun`, `clockedRun`).  The task
of connection `c` gets its messages from the link and puts them there; what the other clients do, and what everything
outside does, are actions.
-/
namespace Easynet

open Machine (Run)

/-- What an attempt of the client is at. -/
inductive Endpoint
  | offline
  | asking (config : ClientConfig)
  | waiting (config : ClientConfig)
  | connected (tunConfig : TunConfig) (client : ClockedClient)
  | failed
  deriving DecidableEq

/-- The client's tasks, as they start or as they are. -/
def Endpoint.clocked : Endpoint → ClockedClient
  | .connected _ client => client
  | _                   => .init

structure Tunnel (L : Link) where
  server : Server
  client : Endpoint
  up : L.State
  down : L.State

inductive TunnelAct (L : Link)
  | connect (peer : SocketAddr) (config : ClientConfig)
  | ask (env : L.Env)
  | greet (env : L.Env) (file : StateFile) (disk : Disk) (created : Bool)
  | timeout
  | task (act : ClockedAct)
  | taskPoll (env : L.Env) (now : SystemTime)
  | taskSent (env : L.Env)
  | server (act : Action)
  | serverPoll (env : L.Env) (load : Option ServerConfig) (fresh : String)
  | serverSent (env : L.Env)
  | moveUp (env : L.Env)
  | moveDown (env : L.Env)

/-! ## The actions of the components -/

/-- With these actions a task of the client receives or sends. -/
def PipelineAct.wired : PipelineAct → Bool
  | .transportIo (.receive _) | .transportIo (.sent _) => true
  | _ => false

def ClockedAct.wired : ClockedAct → Bool
  | .tick _        => false
  | .keepalive _ _ => true
  | .other act _   => act.wired

/-- `client_transport_io_task` receives a message, and reads the clock if it is a keepalive. -/
def ClockedAct.receive (now : SystemTime) : Message → ClockedAct
  | ⟨some (.keepalive k)⟩           => .keepalive now k
  | ⟨some (.handshake handshake)⟩   => .other (.transportIo (.receive ⟨some (.handshake handshake)⟩)) rfl
  | ⟨some (.data data)⟩             => .other (.transportIo (.receive ⟨some (.data data)⟩)) rfl
  | ⟨some (.disconnect disconnect)⟩ => .other (.transportIo (.receive ⟨some (.disconnect disconnect)⟩)) rfl
  | ⟨none⟩                          => .other (.transportIo (.receive ⟨none⟩)) rfl

def ClockedAct.sent (ok : Bool) : ClockedAct := .other (.transportIo (.sent ok)) rfl

/-- What the tasks do in a step that a panic may cut short. -/
def ClockedAct.pipelineAct (overflowChecks : Bool) (a : ClockedAct) : PipelineAct :=
  ((a.outcome overflowChecks).map Prod.fst).getD (.transportIo .failed)

theorem ClockedClient.step_pipelineAct {overflowChecks : Bool} {capacity : Nat} {s s' : ClockedClient} {a : ClockedAct}
    (hs : ClockedClient.step overflowChecks capacity s a = some s') :
    Pipeline.step capacity s.toPipeline (a.pipelineAct overflowChecks) = some s'.toPipeline := by
  rcases ClockedClient.step_cases hs with ⟨act, report, ho, hp, -, -⟩ | ⟨ho, hp, -, -⟩
  · rw [ClockedAct.pipelineAct, ho]
    exact hp
  · rw [ClockedAct.pipelineAct, ho]
    exact hp

/-- What `client_transport_io_task` makes of what `next` gives. -/
def Polled.clockedAct (now : SystemTime) : Polled → Option ClockedAct
  | .idle        => none
  | .message msg => some (.receive now msg)
  | .ended       => some (.other (.transportIo .failed) rfl)

/-- What a connection task makes of what `next` gives. -/
def Polled.connAct (peer : SocketAddr) (load : Option ServerConfig) (fresh : String) : Polled → Option ConnAct
  | .idle        => none
  | .message msg => some (.receive peer msg load fresh)
  | .ended       => some .readEnd

/-- What `handshake_async`, and after it the making of the TUN device, make of what `next` gives. -/
def Polled.greeted (config : ClientConfig) (file : StateFile) (disk : Disk) (created : Bool) : Polled → Endpoint
  | .idle => .waiting config
  | .message msg =>
    match (handshakeAsync config file disk (.message msg)).result with
    | .ok tunConfig => if created then .connected tunConfig .init else .failed
    | .error _      => .failed
  | .ended => .failed

/-- An action of the server that belongs to the client: its connection, and what goes over it. -/
def Server.reserved (s : Server) (c : Nat) : Action → Bool
  | .accept _                => decide (s.conns.length = c)
  | .conn i (.receive ..)    => decide (i = c)
  | .conn i (.sent _)        => decide (i = c)
  | _                        => false

namespace Tunnel

variable {L : Link}

def init (L : Link) : Tunnel L := ⟨Server.init .stream, .offline, L.new, L.new⟩

def step (overflowChecks : Bool) (c : Nat) (t : Tunnel L) : TunnelAct L → Option (Tunnel L)
  | .connect peer config =>
    match t.client with
    | .offline =>
      if t.server.conns.length = c then
        (Easynet.step t.server (.accept peer)).map (fun server => { t with server := server, client := .asking config })
      else none
    | _ => none
  | .ask env =>
    match t.client with
    | .asking config =>
      let (result, up) := L.send t.up (.handshake config.request) env
      some { t with up := up, client := if result.ok then .waiting config else .failed }
    | _ => none
  | .greet env file disk created =>
    match t.client with
    | .waiting config =>
      let (polled, down) := L.poll t.down env
      some { t with down := down, client := polled.greeted config file disk created }
    | _ => none
  | .timeout =>
    match t.client with
    | .waiting _ => some { t with client := .failed }
    | _          => none
  | .task act =>
    match t.client with
    | .connected tunConfig client =>
      if act.wired then none
      else (ClockedClient.step overflowChecks channelCapacity client act).map (fun client =>
        { t with client := .connected tunConfig client })
    | _ => none
  | .taskPoll env now =>
    match t.client with
    | .connected tunConfig client =>
      if client.transportIo = .select then
        let (polled, down) := L.poll t.down env
        match polled.clockedAct now with
        | none     => some { t with down := down }
        | some act => (ClockedClient.step overflowChecks channelCapacity client act).map (fun client =>
          { t with down := down, client := .connected tunConfig client })
      else none
    | _ => none
  | .taskSent env =>
    match t.client with
    | .connected tunConfig client =>
      match client.transportIo with
      | .sending msg =>
        let (result, up) := L.send t.up msg env
        (ClockedClient.step overflowChecks channelCapacity client (.sent result.ok)).map (fun client =>
          { t with up := up, client := .connected tunConfig client })
      | _ => none
    | _ => none
  | .server act =>
    if t.server.reserved c act then none
    else (Easynet.step t.server act).map (fun server => { t with server := server })
  | .serverPoll env load fresh =>
    match t.server.conns[c]? with
    | some ⟨some peer, .select, _⟩ =>
      let (polled, up) := L.poll t.up env
      match polled.connAct peer load fresh with
      | none     => some { t with up := up }
      | some act => (Easynet.step t.server (.conn c act)).map (fun server => { t with up := up, server := server })
    | _ => none
  | .serverSent env =>
    match t.server.conns[c]?.bind Conn.outgoing with
    | some (_, msg) =>
      let (result, down) := L.send t.down msg env
      (Easynet.step t.server (.conn c (.sent result.ok))).map (fun server => { t with down := down, server := server })
    | none => none
  | .moveUp env   => some { t with up := L.move t.up env }
  | .moveDown env => some { t with down := L.move t.down env }

/-! ## What one step of the tunnel can do -/

/-- **The ways the tunnel moves.** -/
inductive Moves (overflowChecks : Bool) (c : Nat) (t : Tunnel L) : TunnelAct L → Tunnel L → Prop
  | connect {peer : SocketAddr} {config : ClientConfig} {server : Server} (hp : t.client = .offline)
      (hlen : t.server.conns.length = c) (hs : Easynet.step t.server (.accept peer) = some server) :
      Moves overflowChecks c t (.connect peer config) { t with server := server, client := .asking config }
  | ask {config : ClientConfig} {env : L.Env} {result : SendResult} {up : L.State} (hp : t.client = .asking config)
      (hsend : L.send t.up (.handshake config.request) env = (result, up)) :
      Moves overflowChecks c t (.ask env) { t with up := up, client := if result.ok then .waiting config else .failed }
  | greet {config : ClientConfig} {env : L.Env} {file : StateFile} {disk : Disk} {created : Bool} {polled : Polled}
      {down : L.State} (hp : t.client = .waiting config) (hpoll : L.poll t.down env = (polled, down)) :
      Moves overflowChecks c t (.greet env file disk created)
        { t with down := down, client := polled.greeted config file disk created }
  | timeout {config : ClientConfig} (hp : t.client = .waiting config) :
      Moves overflowChecks c t .timeout { t with client := .failed }
  | task {tunConfig : TunConfig} {client client' : ClockedClient} {act : ClockedAct}
      (hp : t.client = .connected tunConfig client) (hw : act.wired = false)
      (hs : ClockedClient.step overflowChecks channelCapacity client act = some client') :
      Moves overflowChecks c t (.task act) { t with client := .connected tunConfig client' }
  | taskIdle {tunConfig : TunConfig} {client : ClockedClient} {env : L.Env} {now : SystemTime} {polled : Polled}
      {down : L.State} (hp : t.client = .connected tunConfig client) (hselect : client.transportIo = .select)
      (hpoll : L.poll t.down env = (polled, down)) (hidle : polled.clockedAct now = none) :
      Moves overflowChecks c t (.taskPoll env now) { t with down := down }
  | taskPolled {tunConfig : TunConfig} {client client' : ClockedClient} {env : L.Env} {now : SystemTime} {polled : Polled}
      {down : L.State} {act : ClockedAct} (hp : t.client = .connected tunConfig client)
      (hselect : client.transportIo = .select) (hpoll : L.poll t.down env = (polled, down))
      (hact : polled.clockedAct now = some act)
      (hs : ClockedClient.step overflowChecks channelCapacity client act = some client') :
      Moves overflowChecks c t (.taskPoll env now) { t with down := down, client := .connected tunConfig client' }
  | taskSent {tunConfig : TunConfig} {client client' : ClockedClient} {msg : Message} {env : L.Env} {result : SendResult}
      {up : L.State} (hp : t.client = .connected tunConfig client) (hsending : client.transportIo = .sending msg)
      (hsend : L.send t.up msg env = (result, up))
      (hs : ClockedClient.step overflowChecks channelCapacity client (.sent result.ok) = some client') :
      Moves overflowChecks c t (.taskSent env) { t with up := up, client := .connected tunConfig client' }
  | server {act : Action} {server : Server} (hfree : t.server.reserved c act = false)
      (hs : Easynet.step t.server act = some server) : Moves overflowChecks c t (.server act) { t with server := server }
  | serverIdle {peer : SocketAddr} {queue : List Bytes} {env : L.Env} {load : Option ServerConfig} {fresh : String}
      {polled : Polled} {up : L.State} (hc : t.server.conns[c]? = some ⟨some peer, .select, queue⟩)
      (hpoll : L.poll t.up env = (polled, up)) (hidle : polled.connAct peer load fresh = none) :
      Moves overflowChecks c t (.serverPoll env load fresh) { t with up := up }
  | serverPolled {peer : SocketAddr} {queue : List Bytes} {env : L.Env} {load : Option ServerConfig} {fresh : String}
      {polled : Polled} {up : L.State} {act : ConnAct} {server : Server}
      (hc : t.server.conns[c]? = some ⟨some peer, .select, queue⟩)
      (hpoll : L.poll t.up env = (polled, up)) (hact : polled.connAct peer load fresh = some act)
      (hs : Easynet.step t.server (.conn c act) = some server) :
      Moves overflowChecks c t (.serverPoll env load fresh) { t with up := up, server := server }
  | serverSent {conn : Conn} {dst : SocketAddr} {msg : Message} {env : L.Env} {result : SendResult} {down : L.State}
      {server : Server} (hc : t.server.conns[c]? = some conn) (hout : conn.outgoing = some (dst, msg))
      (hsend : L.send t.down msg env = (result, down))
      (hs : Easynet.step t.server (.conn c (.sent result.ok)) = some server) :
      Moves overflowChecks c t (.serverSent env) { t with down := down, server := server }
  | moveUp {env : L.Env} : Moves overflowChecks c t (.moveUp env) { t with up := L.move t.up env }
  | moveDown {env : L.Env} : Moves overflowChecks c t (.moveDown env) { t with down := L.move t.down env }

variable {overflowChecks : Bool} {c : Nat} {t t' : Tunnel L} {a : TunnelAct L}

theorem step_moves (h : step overflowChecks c t a = some t') : Moves overflowChecks c t a t' := by
  cases a with
  | connect peer config =>
    simp only [step] at h
    split at h
    · rename_i hp
      split at h
      · rename_i hlen
        obtain ⟨server, hs, rfl⟩ := Option.map_eq_some_iff.1 h
        exact .connect hp hlen hs
      · cases h
    · cases h
  | ask env =>
    simp only [step] at h
    split at h
    · rename_i hp
      cases h
      exact .ask hp rfl
    · cases h
  | greet env file disk created =>
    simp only [step] at h
    split at h
    · rename_i hp
      cases h
      exact .greet hp rfl
    · cases h
  | timeout =>
    simp only [step] at h
    split at h
    · rename_i hp
      cases h
      exact .timeout hp
    · cases h
  | task act =>
    simp only [step] at h
    split at h
    · rename_i hp
      split at h
      · cases h
      · rename_i hw
        obtain ⟨client', hs, rfl⟩ := Option.map_eq_some_iff.1 h
        exact .task hp (Bool.not_eq_true _ ▸ hw) hs
    · cases h
  | taskPoll env now =>
    simp only [step] at h
    split at h
    · rename_i hp
      split at h
      · rename_i hselect
        split at h
        · rename_i hidle
          cases h
          exact .taskIdle hp hselect rfl hidle
        · rename_i hact
          obtain ⟨client', hs, rfl⟩ := Option.map_eq_some_iff.1 h
          exact .taskPolled hp hselect rfl hact hs
      · cases h
    · cases h
  | taskSent env =>
    simp only [step] at h
    split at h
    · rename_i hp
      split at h
      · rename_i hsending
        obtain ⟨client', hs, rfl⟩ := Option.map_eq_some_iff.1 h
        exact .taskSent hp hsending rfl hs
      · cases h
    · cases h
  | server act =>
    simp only [step] at h
    split at h
    · cases h
    · rename_i hfree
      obtain ⟨server, hs, rfl⟩ := Option.map_eq_some_iff.1 h
      exact .server (Bool.not_eq_true _ ▸ hfree) hs
  | serverPoll env load fresh =>
    simp only [step] at h
    split at h
    · rename_i hc
      split at h
      · rename_i hidle
        cases h
        exact .serverIdle hc rfl hidle
      · rename_i hact
        obtain ⟨server, hs, rfl⟩ := Option.map_eq_some_iff.1 h
        exact .serverPolled hc rfl hact hs
    · cases h
  | serverSent env =>
    simp only [step] at h
    split at h
    · rename_i hout
      obtain ⟨conn, hc, hout⟩ := Option.bind_eq_some_iff.1 hout
      obtain ⟨server, hs, rfl⟩ := Option.map_eq_some_iff.1 h
      exact .serverSent hc hout rfl hs
    · cases h
  | moveUp env => cases h; exact .moveUp
  | moveDown env => cases h; exact .moveDown

/-! ## Its components -/

/-- The step of the server that a step of the tunnel is. -/
def serverAct (c : Nat) (t : Tunnel L) : TunnelAct L → Option Action
  | .connect peer _            => some (.accept peer)
  | .server act                => some act
  | .serverPoll env load fresh =>
    (t.server.conns[c]?.bind Conn.peer).bind (fun peer => ((L.poll t.up env).1.connAct peer load fresh).map (.conn c))
  | .serverSent env            =>
    (t.server.conns[c]?.bind Conn.outgoing).map (fun out => .conn c (.sent (L.send t.down out.2 env).1.ok))
  | _                          => none

/-- The step of the client's tasks that a step of the tunnel is. -/
def clockedAct (t : Tunnel L) : TunnelAct L → Option ClockedAct
  | .task act         => some act
  | .taskPoll env now => (L.poll t.down env).1.clockedAct now
  | .taskSent env     => t.client.clocked.transportIo.outgoing.map (fun msg => .sent (L.send t.up msg env).1.ok)
  | _                 => none

/-- The client's tasks without their clock. -/
def pipeline (t : Tunnel L) : Pipeline := t.client.clocked.toPipeline

def pipelineAct (overflowChecks : Bool) (t : Tunnel L) (a : TunnelAct L) : Option PipelineAct :=
  (clockedAct t a).map (ClockedAct.pipelineAct overflowChecks)

def serverHistory (c : Nat) (h : List (Tunnel L × TunnelAct L)) : List (Server × Action) :=
  Machine.project Tunnel.server (serverAct c) h

def clockedHistory (h : List (Tunnel L × TunnelAct L)) : List (ClockedClient × ClockedAct) :=
  Machine.project (fun t => t.client.clocked) clockedAct h

def pipelineHistory (overflowChecks : Bool) (h : List (Tunnel L × TunnelAct L)) : List (Pipeline × PipelineAct) :=
  Machine.project pipeline (pipelineAct overflowChecks) h

theorem Moves.server_eq (h : Moves overflowChecks c t a t') :
    (serverAct c t a).elim (t'.server = t.server) (fun act => Easynet.step t.server act = some t'.server) := by
  cases h with
  | connect _ _ hs | server _ hs => exact hs
  | serverIdle hc hpoll hidle => simp only [serverAct, hc, hpoll, hidle, Option.bind_some, Option.map_none, Option.elim_none]
  | serverPolled hc hpoll hact hs =>
    simp only [serverAct, hc, hpoll, hact, Option.bind_some, Option.map_some, Option.elim_some]
    exact hs
  | serverSent hc hout hsend hs =>
    simp only [serverAct, hc, hout, hsend, Option.bind_some, Option.map_some, Option.elim_some]
    exact hs
  | _ => rfl

theorem greeted_clocked (config : ClientConfig) (file : StateFile) (disk : Disk) (created : Bool) (polled : Polled) :
    (polled.greeted config file disk created).clocked = .init := by
  unfold Polled.greeted
  split
  · rfl
  · split
    · cases created <;> rfl
    · rfl
  · rfl

theorem Moves.clocked_eq (h : Moves overflowChecks c t a t') :
    (clockedAct t a).elim (t'.client.clocked = t.client.clocked)
      (fun act => ClockedClient.step overflowChecks channelCapacity t.client.clocked act = some t'.client.clocked) := by
  cases h with
  | connect hp => simp only [clockedAct, hp]; rfl
  | @ask config env result up hp =>
    simp only [clockedAct, hp]
    cases result.ok <;> rfl
  | greet hp =>
    simp only [clockedAct, hp]
    exact greeted_clocked ..
  | timeout hp => simp only [clockedAct, hp]; rfl
  | task hp _ hs => simp only [clockedAct, hp]; exact hs
  | taskIdle hp _ hpoll hidle => simp only [clockedAct, hpoll, hidle, Option.elim_none]
  | taskPolled hp _ hpoll hact hs => simp only [clockedAct, hp, hpoll, hact]; exact hs
  | taskSent hp hsending hsend hs =>
    simp only [clockedAct, hp, Endpoint.clocked, hsending, TransportIo.outgoing, Option.map_some, hsend]
    exact hs
  | _ => rfl

section Runs

variable {h : List (Tunnel L × TunnelAct L)}

/-- **In the tunnel the server does what it does.** -/
theorem serverRun (hr : Run (step overflowChecks c) (init L) h t) : ServerRun .stream (serverHistory c h) t.server := by
  show Run Easynet.step (Tunnel.server (init L)) (Machine.project Tunnel.server (serverAct c) h) (Tunnel.server t)
  refine Run.project (fun t a t' b hs hb => ?_) (fun t a t' hs hb => ?_) hr
  · have := (step_moves hs).server_eq
    rwa [hb] at this
  · have := (step_moves hs).server_eq
    rwa [hb] at this

/-- **In the tunnel the client does what it does.** -/
theorem clockedRun (hr : Run (step overflowChecks c) (init L) h t) :
    Run (ClockedClient.step overflowChecks channelCapacity) .init (clockedHistory h) t.client.clocked := by
  let part (t : Tunnel L) : ClockedClient := t.client.clocked
  show Run (ClockedClient.step overflowChecks channelCapacity) (part (init L)) (Machine.project part clockedAct h) (part t)
  refine Run.project (fun t a t' b hs hb => ?_) (fun t a t' hs hb => ?_) hr
  · have := (step_moves hs).clocked_eq
    rwa [hb] at this
  · have := (step_moves hs).clocked_eq
    rwa [hb] at this

theorem Moves.pipeline_eq (h : Moves overflowChecks c t a t') :
    (pipelineAct overflowChecks t a).elim (t'.pipeline = t.pipeline)
      (fun act => Pipeline.step channelCapacity t.pipeline act = some t'.pipeline) := by
  have hclocked := h.clocked_eq
  rw [pipelineAct]
  cases ha : clockedAct t a with
  | none =>
    rw [ha] at hclocked
    exact congrArg ClockedClient.toPipeline hclocked
  | some act =>
    rw [ha] at hclocked
    exact ClockedClient.step_pipelineAct hclocked

theorem pipelineRun (hr : Run (step overflowChecks c) (init L) h t) :
    Run (Pipeline.step channelCapacity) .init (pipelineHistory overflowChecks h) t.pipeline := by
  show Run (Pipeline.step channelCapacity) (pipeline (init L)) (Machine.project pipeline (pipelineAct overflowChecks) h)
    (pipeline t)
  refine Run.project (fun t a t' b hs hb => ?_) (fun t a t' hs hb => ?_) hr
  · have := (step_moves hs).pipeline_eq
    rwa [hb] at this
  · have := (step_moves hs).pipeline_eq
    rwa [hb] at this

end Runs

end Tunnel

end Easynet
