import Easynet.Lib.Machine
import Easynet.Lib.Text
import Easynet.Message
/-!
# Client — the handshake of the client, and the loop that retries it

`client.rs` and the state file of `config.rs`.  The session id of a client is in three places: in the configuration that
`run_client_with_retry` holds, in the clone of it that an attempt works on, and in the state file.  `handshake_async`
writes the last two.  An attempt is cut at its awaits, as the tasks of the server are; the network, the server and the
file system are the actions.

No attempt writes the configuration the loop holds, so every handshake carries the id loaded at the start
(`sent_loaded`), whatever the server has handed out since.
-/
namespace Easynet

open Machine (Run Throughout)

/-- The client's section of the configuration file, as far as the handshake and the loop read it. -/
structure ClientConfig where
  transportType : String
  sessionId : String
  token : String
  deriving DecidableEq, Repr

structure ClientState where
  sessionId : String
  deriving DecidableEq, Repr

def ClientState.default : ClientState := ⟨""⟩

/-- The state file, by what serde_yaml makes of its text. -/
inductive StateFile
  | absent
  | saved (state : ClientState)
  | unreadable (error : String)
  deriving DecidableEq, Repr

/-- What goes wrong with the file system: an error on reading, and an error on writing with the file it leaves. -/
structure Disk where
  readError : Option String
  writeError : Option (String × StateFile)
  deriving DecidableEq, Repr

def Disk.ok : Disk := ⟨none, none⟩

def loadClientState (disk : Disk) : StateFile → Except String ClientState
  | .absent           => .ok .default
  | .saved state      => disk.readError.elim (.ok state) .error
  | .unreadable error => .error (disk.readError.getD error)

def saveClientState (disk : Disk) (state : ClientState) : Except String Unit × StateFile :=
  match disk.writeError with
  | some (error, left) => (.error error, left)
  | none               => (.ok (), .saved state)

/-- The session id that the file holds. -/
def StateFile.sessionId (file : StateFile) : Option String :=
  (loadClientState .ok file).toOption.map ClientState.sessionId

/-- `AppConfig::load`: the client's section as the file has it, with the session id of the state file. -/
def loadAppConfig (disk : Disk) (client : ClientConfig) (file : StateFile) : Except String ClientConfig :=
  (loadClientState disk file).map (fun state => { client with sessionId := state.sessionId })

/-! ## The handshake -/

/-- What the `select!` of `handshake_async` comes up with. -/
inductive Received
  | message (msg : Message)
  | error (text : String)
  | closed
  | timeout
  deriving DecidableEq, Repr

/-- How `handshake_async` ends: its result, the configuration it was lent, and the state file. -/
structure HandshakeEnd where
  result : Except String TunConfig
  config : ClientConfig
  stateFile : StateFile

/-- The message that opens a handshake. -/
def ClientConfig.request (config : ClientConfig) : Handshake := ⟨config.token, config.sessionId, none⟩

/-- The session id of a reply, taken over and saved if it is a new one. -/
def adopt (config : ClientConfig) (file : StateFile) (disk : Disk) (sessionId : String) (tunConfig : TunConfig) :
    HandshakeEnd :=
  if sessionId = config.sessionId then ⟨.ok tunConfig, config, file⟩
  else
    let config := { config with sessionId := sessionId }
    match loadClientState disk file with
    | .error error => ⟨.error error, config, file⟩
    | .ok state =>
      match saveClientState disk { state with sessionId := sessionId } with
      | (.error error, file) => ⟨.error error, config, file⟩
      | (.ok (), file)       => ⟨.ok tunConfig, config, file⟩

/-- `handshake_async` from its `select!` on. -/
def handshakeAsync (config : ClientConfig) (file : StateFile) (disk : Disk) : Received → HandshakeEnd
  | .message msg =>
    match msg.msg with
    | some (.handshake handshake) =>
      if handshake.token ≠ config.token then ⟨.error "Invalid token in handshake response", config, file⟩
      else match handshake.tunConfig with
        | some tunConfig => adopt config file disk handshake.sessionId tunConfig
        | none           => ⟨.error "No TUN config in handshake response", config, file⟩
    | _ => ⟨.error "Invalid handshake response: unexpected message type", config, file⟩
  | .error text => ⟨.error ("Error during handshake: " ++ text), config, file⟩
  | .closed     => ⟨.error "Transport closed during handshake", config, file⟩
  | .timeout    => ⟨.error "Handshake timed out", config, file⟩

/-- A handshake that returns `Ok` was answered by a reply with the client's token and a TUN configuration. -/
theorem handshakeAsync_ok {config : ClientConfig} {file : StateFile} {disk : Disk} {received : Received}
    {tunConfig : TunConfig} (h : (handshakeAsync config file disk received).result = .ok tunConfig) :
    ∃ reply : Handshake, received = .message (.handshake reply) ∧ reply.token = config.token ∧
      reply.tunConfig = some tunConfig := by
  unfold handshakeAsync at h
  split at h
  · split at h
    · rename_i reply hmsg
      split at h
      · cases h
      rename_i htok
      split at h
      · rename_i tun htun
        have hsame : tun = tunConfig := by
          unfold adopt at h
          split at h
          · exact Except.ok.inj h
          split at h
          · cases h
          split at h
          · cases h
          · exact Except.ok.inj h
        exact ⟨reply, by rw [Message.handshake, ← hmsg], not_not.1 htok, hsame ▸ htun⟩
      · cases h
    · cases h
  all_goals cases h

/-- Nothing but a reply that passes the client's checks and has another session id writes the state file. -/
theorem handshakeAsync_stateFile {config : ClientConfig} {disk : Disk} {received : Received}
    (hsame : ∀ reply : Handshake, received = .message (.handshake reply) → reply.token = config.token →
      reply.tunConfig ≠ none → reply.sessionId = config.sessionId) (file : StateFile) :
    (handshakeAsync config file disk received).stateFile = file := by
  unfold handshakeAsync
  split
  · split
    · rename_i reply hmsg
      split
      · rfl
      rename_i htok
      split
      · rename_i tun htun
        have hid := hsame reply (by rw [Message.handshake, ← hmsg]) (not_not.1 htok) (by rw [htun]; nofun)
        rw [adopt, if_pos hid]
      · rfl
    · rfl
  all_goals rfl

/-! ## The retry loop -/

/-- Where an attempt stands, with the configuration it works on. -/
inductive ClientPhase
  | connecting (config : ClientConfig)
  | sending (config : ClientConfig)
  | waiting (config : ClientConfig)
  | running (config : ClientConfig) (tunConfig : TunConfig)
  | sleeping
  | completed
  deriving DecidableEq, Repr

/-- `run_client_with_retry`.  The delay is in seconds. -/
structure ClientLoop where
  config : ClientConfig
  retryDelay : Nat
  attempt : UInt32
  stateFile : StateFile
  phase : ClientPhase
  deriving DecidableEq, Repr

inductive ClientAct
  | connect (ok : Bool)
  | sent (ok : Bool)
  | received (received : Received) (disk : Disk)
  | ended (ok : Bool)
  | wake
  deriving DecidableEq, Repr

def maxRetryDelay : Nat := 300

/-- `run_client_from_config` has an arm for the transport type.  No character outside ASCII has the lower case of one of
the letters in question. -/
def knownTransport (transportType : String) : Bool :=
  ["tcp", "udp", "ws", "wss"].contains (Text.toAsciiLowercase transportType)

namespace ClientLoop

/-- The first attempt. -/
def start (config : ClientConfig) (file : StateFile) : ClientLoop := ⟨config, 1, 1, file, .connecting config⟩

/-- An attempt has failed, and the loop sleeps. -/
def failed (s : ClientLoop) : ClientLoop := { s with phase := .sleeping }

end ClientLoop

def clientStep (s : ClientLoop) : ClientAct → Option ClientLoop
  | .connect ok =>
    match s.phase with
    | .connecting config =>
      some (if knownTransport config.transportType && ok then { s with phase := .sending config } else s.failed)
    | _ => none
  | .sent ok =>
    match s.phase with
    | .sending config => some (if ok then { s with phase := .waiting config } else s.failed)
    | _               => none
  | .received received disk =>
    match s.phase with
    | .waiting config =>
      let e := handshakeAsync config s.stateFile disk received
      match e.result with
      | .ok tunConfig => some { s with stateFile := e.stateFile, phase := .running e.config tunConfig }
      | .error _      => some { s with stateFile := e.stateFile, phase := .sleeping }
    | _ => none
  | .ended ok =>
    match s.phase with
    | .running _ _ => some (if ok then { s with phase := .completed } else s.failed)
    | _            => none
  | .wake =>
    match s.phase with
    | .sleeping =>
      some { s with
        retryDelay := min (s.retryDelay * 2) maxRetryDelay
        attempt := s.attempt + 1
        phase := .connecting s.config }
    | _ => none

/-- **The ways the loop moves.** -/
inductive ClientStep (s : ClientLoop) : ClientAct → ClientLoop → Prop
  | connected {config : ClientConfig} (hp : s.phase = .connecting config)
      (hknown : knownTransport config.transportType = true) :
      ClientStep s (.connect true) { s with phase := .sending config }
  | connectFailed {config : ClientConfig} {ok : Bool} (hp : s.phase = .connecting config)
      (hfail : knownTransport config.transportType = false ∨ ok = false) : ClientStep s (.connect ok) s.failed
  | sent {config : ClientConfig} (hp : s.phase = .sending config) :
      ClientStep s (.sent true) { s with phase := .waiting config }
  | sendFailed {config : ClientConfig} (hp : s.phase = .sending config) : ClientStep s (.sent false) s.failed
  | accepted {config : ClientConfig} {received : Received} {disk : Disk} {tunConfig : TunConfig}
      (hp : s.phase = .waiting config) (hok : (handshakeAsync config s.stateFile disk received).result = .ok tunConfig) :
      ClientStep s (.received received disk) { s with
        stateFile := (handshakeAsync config s.stateFile disk received).stateFile
        phase := .running (handshakeAsync config s.stateFile disk received).config tunConfig }
  | refused {config : ClientConfig} {received : Received} {disk : Disk} {error : String}
      (hp : s.phase = .waiting config) (herr : (handshakeAsync config s.stateFile disk received).result = .error error) :
      ClientStep s (.received received disk) { s with
        stateFile := (handshakeAsync config s.stateFile disk received).stateFile
        phase := .sleeping }
  | completed {config : ClientConfig} {tunConfig : TunConfig} (hp : s.phase = .running config tunConfig) :
      ClientStep s (.ended true) { s with phase := .completed }
  | lost {config : ClientConfig} {tunConfig : TunConfig} (hp : s.phase = .running config tunConfig) :
      ClientStep s (.ended false) s.failed
  | wake (hp : s.phase = .sleeping) : ClientStep s .wake { s with
      retryDelay := min (s.retryDelay * 2) maxRetryDelay
      attempt := s.attempt + 1
      phase := .connecting s.config }

theorem clientStep_spec {s s' : ClientLoop} {a : ClientAct} (h : clientStep s a = some s') : ClientStep s a s' := by
  cases a with
  | connect ok =>
    simp only [clientStep] at h
    split at h
    · rename_i config hp
      cases h
      cases hknown : knownTransport config.transportType with
      | false => exact .connectFailed hp (Or.inl hknown)
      | true =>
        cases ok with
        | false => exact .connectFailed hp (Or.inr rfl)
        | true => exact .connected hp hknown
    · cases h
  | sent ok =>
    simp only [clientStep] at h
    split at h
    · rename_i config hp
      cases h
      cases ok with
      | true => exact .sent hp
      | false => exact .sendFailed hp
    · cases h
  | received received disk =>
    simp only [clientStep] at h
    split at h
    · rename_i config hp
      split at h
      · rename_i tunConfig hok
        cases h
        exact .accepted hp hok
      · rename_i error herr
        cases h
        exact .refused hp herr
    · cases h
  | ended ok =>
    simp only [clientStep] at h
    split at h
    · rename_i config tunConfig hp
      cases h
      cases ok with
      | true => exact .completed hp
      | false => exact .lost hp
    · cases h
  | wake =>
    simp only [clientStep] at h
    split at h
    · rename_i hp
      cases h
      exact .wake hp
    · cases h

/-- The handshake that a step sends. -/
def handshakeSent (s : ClientLoop) : ClientAct → Option Handshake
  | .sent _ =>
    match s.phase with
    | .sending config => some config.request
    | _               => none
  | _ => none

/-- The reply that a step accepts: `handshake_async` returns `Ok` on it. -/
def accepted (s : ClientLoop) : ClientAct → Option Handshake
  | .received (.message ⟨some (.handshake reply)⟩) disk =>
    match s.phase with
    | .waiting config =>
      match (handshakeAsync config s.stateFile disk (.message (.handshake reply))).result with
      | .ok _    => some reply
      | .error _ => none
    | _ => none
  | _ => none

/-- The replies accepted in a run, oldest first. -/
def acceptedReplies (h : List (ClientLoop × ClientAct)) : List Handshake := h.filterMap (fun p => accepted p.1 p.2)

theorem accepted_spec {s : ClientLoop} {a : ClientAct} {reply : Handshake} (h : accepted s a = some reply) :
    ∃ config disk, s.phase = .waiting config ∧ a = .received (.message (.handshake reply)) disk ∧
      reply.token = config.token ∧ reply.tunConfig ≠ none := by
  unfold accepted at h
  split at h
  · rename_i reply' disk
    split at h
    · rename_i config hp
      split at h
      · rename_i tunConfig hok
        cases h
        obtain ⟨reply', hmsg, htok, htun⟩ := handshakeAsync_ok hok
        cases hmsg
        exact ⟨config, disk, hp, rfl, htok, by rw [htun]; nofun⟩
      · cases h
    · cases h
  · cases h

/-! ## Over a run -/

/-- The configuration of an attempt up to the answer to its handshake. -/
def ClientPhase.asking : ClientPhase → Option ClientConfig
  | .connecting config | .sending config | .waiting config => some config
  | _ => none

/-- **No step writes the configuration of the loop, and an attempt asks with it.** -/
theorem clientStep_config {s s' : ClientLoop} {a : ClientAct} (h : clientStep s a = some s')
    (hs : ∀ config, s.phase.asking = some config → config = s.config) :
    s'.config = s.config ∧ ∀ config, s'.phase.asking = some config → config = s'.config := by
  cases clientStep_spec h with
  | connected hp | sent hp => exact ⟨rfl, fun config' he => hs config' (by rw [hp]; exact he)⟩
  | wake hp => exact ⟨rfl, fun config he => (Option.some.inj he).symm⟩
  | connectFailed hp | sendFailed hp | accepted hp | refused hp | completed hp | lost hp =>
    refine ⟨rfl, fun config he => ?_⟩
    cases he

/-- The state file is written by the answer to a handshake. -/
theorem clientStep_stateFile {s s' : ClientLoop} {a : ClientAct} (h : clientStep s a = some s') :
    s'.stateFile = s.stateFile ∨ ∃ config received disk, s.phase = .waiting config ∧ a = .received received disk ∧
      s'.stateFile = (handshakeAsync config s.stateFile disk received).stateFile := by
  cases clientStep_spec h with
  | accepted hp | refused hp => exact Or.inr ⟨_, _, _, hp, rfl, rfl⟩
  | _ => exact Or.inl rfl

section Runs

variable {config : ClientConfig} {file : StateFile} {h : List (ClientLoop × ClientAct)} {s : ClientLoop}

theorem loop_config (hr : Run clientStep (.start config file) h s) :
    s.config = config ∧ ∀ c, s.phase.asking = some c → c = config := by
  refine hr.invariant (fun s => s.config = config ∧ ∀ c, s.phase.asking = some c → c = config)
    ⟨rfl, fun c he => (Option.some.inj he).symm⟩ (fun s a s' ih hs => ?_)
  obtain ⟨hconfig, hask⟩ := ih
  obtain ⟨hconfig', hask'⟩ := clientStep_config hs (fun c he => (hask c he).trans hconfig.symm)
  exact ⟨hconfig'.trans hconfig, fun c he => (hask' c he).trans (hconfig'.trans hconfig)⟩

/-- **Every handshake of a run carries the session id that was loaded at the start.** -/
theorem sent_loaded (hr : Run clientStep (.start config file) h s) {a : ClientAct} {request : Handshake}
    (hsent : handshakeSent s a = some request) : request = config.request := by
  unfold handshakeSent at hsent
  split at hsent
  · split at hsent
    · rename_i c hp
      cases hsent
      rw [(loop_config hr).2 c (by rw [hp]; rfl)]
    · cases hsent
  · cases hsent

/-- The server answers with no session id but the one that was loaded. -/
def KeepsSession (config : ClientConfig) (h : List (ClientLoop × ClientAct)) : Prop :=
  ∀ p ∈ h, ∀ (reply : Handshake) (disk : Disk), p.2 = .received (.message (.handshake reply)) disk →
    reply.token = config.token → reply.tunConfig ≠ none → reply.sessionId = config.sessionId

theorem stateFile_eq (hr : Run clientStep (.start config file) h s) (hkeep : KeepsSession config h) :
    s.stateFile = file := by
  induction hr with
  | nil => rfl
  | @snoc h s a s' hr hs ih =>
    have hfile := ih (fun p hp => hkeep p (List.mem_append_left _ hp))
    have hlast := hkeep (s, a) (List.mem_append_right _ List.mem_cons_self)
    rcases clientStep_stateFile hs with hsame | ⟨c, received, disk, hp, rfl, hwritten⟩
    · rw [hsame, hfile]
    · obtain rfl := (loop_config hr).2 c (by rw [hp]; rfl)
      rw [hwritten, handshakeAsync_stateFile (fun reply he => hlast reply disk (by rw [he])), hfile]

/-- **Each handshake carries the session id of the last reply accepted before it, which is the one in the state file, or
the one loaded at the start when there was none**, in every run on which each reply that passes the client's checks has
the session id that was loaded. -/
theorem sent_current (disk : Disk) (client : ClientConfig) (hload : loadAppConfig disk client file = .ok config)
    (hr : Run clientStep (.start config file) h s) (hkeep : KeepsSession config h) :
    Throughout (fun h t a => ∀ request, handshakeSent t a = some request →
      match (acceptedReplies h).getLast? with
      | some reply => request.sessionId = reply.sessionId ∧ t.stateFile.sessionId = some reply.sessionId
      | none       => request.sessionId = config.sessionId) h := by
  -- the id that was loaded is the one in the file
  have hfile : file.sessionId = some config.sessionId := by
    unfold loadAppConfig at hload
    cases file with
    | absent => cases hload; rfl
    | saved state =>
      cases herr : disk.readError with
      | some error => rw [loadClientState, herr] at hload; cases hload
      | none => rw [loadClientState, herr] at hload; cases hload; rfl
    | unreadable error => cases hload
  have hpast : Throughout (fun h _ _ => KeepsSession config h) h := Machine.throughout_past hkeep
  refine hr.throughout_of hpast (fun h t a t' hr _ hkeep request hsent => ?_)
  have hreq := sent_loaded hr hsent
  cases hlast : (acceptedReplies h).getLast? with
  | none => rw [hreq]; rfl
  | some reply =>
    obtain ⟨p, hp, hacc⟩ := List.mem_filterMap.1 (List.mem_of_getLast? hlast)
    obtain ⟨c, disk, hphase, ha, htok, htun⟩ := accepted_spec hacc
    obtain ⟨h₁, h₂, -, he, hr₁, -⟩ := hr.of_mem hp
    obtain rfl := (loop_config hr₁).2 c (by rw [hphase]; rfl)
    have hid := hkeep p hp reply disk ha htok htun
    refine ⟨by rw [hreq, hid]; rfl, ?_⟩
    rw [stateFile_eq hr hkeep, hid, hfile]

end Runs

/-- A client of the default configuration with this session id. -/
def clientConfig (sessionId : String) : ClientConfig := ⟨"udp", sessionId, ""⟩

def tunConfig2 : TunConfig := ⟨"tun0", "10.0.0.2", "255.255.255.0", "10.0.0.0", [], 1400⟩

/-- An attempt that is answered with this session id and then loses its connection, and the next one up to its handshake. -/
def reconnect (sessionId : String) : List ClientAct :=
  [.connect true, .sent true, .received (.message (.handshake ⟨"", sessionId, some tunConfig2⟩)) .ok, .ended false, .wake,
   .connect true, .sent true]

def reconnectTrace (loaded sessionId : String) (file : StateFile) : List (ClientLoop × ClientAct) :=
  Machine.trace clientStep (.start (clientConfig loaded) file) (reconnect sessionId)

theorem sent_current_resumed :
    loadAppConfig .ok (clientConfig "") (.saved ⟨"s0"⟩) = .ok (clientConfig "s0") ∧
    Throughout (fun h t a => ∀ request, handshakeSent t a = some request →
      match (acceptedReplies h).getLast? with
      | some reply => request.sessionId = reply.sessionId ∧ t.stateFile.sessionId = some reply.sessionId
      | none       => request.sessionId = "s0") (reconnectTrace "s0" "s0" (.saved ⟨"s0"⟩)) ∧
    (acceptedReplies (reconnectTrace "s0" "s0" (.saved ⟨"s0"⟩))).length = 1 := by
  refine ⟨rfl, sent_current .ok (clientConfig "") rfl (Machine.run_get (by decide)) ?_, by decide⟩
  intro p hp reply disk he
  have hall : ∀ p ∈ reconnectTrace "s0" "s0" (.saved ⟨"s0"⟩), ∀ id ∈ (match p.2 with
      | .received (.message ⟨some (.handshake reply)⟩) _ => some reply.sessionId
      | _ => none), id = "s0" := by decide
  intro _ _
  exact hall p hp reply.sessionId (by rw [he]; rfl)

/-- A new client is given the session `s1`, which goes into the state file; its next attempt asks for a new session again. -/
theorem reconnect_sends_loaded :
    ∃ s, Run clientStep (.start (clientConfig "") .absent) (reconnectTrace "" "s1" .absent) s ∧
      loadAppConfig .ok (clientConfig "") .absent = .ok (clientConfig "") ∧
      ∃ p ∈ reconnectTrace "" "s1" .absent, p.1.attempt = 2 ∧ handshakeSent p.1 p.2 = some ⟨"", "", none⟩ ∧
        p.1.stateFile.sessionId = some "s1" ∧
        (acceptedReplies ((reconnectTrace "" "s1" .absent).take 6)).map Handshake.sessionId = ["s1"] :=
  ⟨_, Machine.run_get (by decide), rfl, by decide⟩

end Easynet
