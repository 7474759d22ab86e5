import Easynet.Server
/-!
# Pipeline — the two tasks of a connected client

`tun_io_task` reads packets from the TUN device and sends those for the server into the tun channel;
`client_transport_io_task` takes them out and sends them to the server, and sends what comes from the server into the
transport channel, which `tun_io_task` takes out.  Both channels are bounded, and each task waits for room inside the arm
of its `select!`, where it takes nothing out of the other channel.

As in the server, a task is cut at its awaits, and the scheduler, the TUN device, the server, the rules and the direct
proxy are the actions.  `failed` is every other way out of a `select!`: an error of the device or of the transport, a
closed connection, or a channel without senders.
-/
namespace Easynet

open Machine (Run)

/-- `client_transport_io_task`. -/
inductive TransportIo
  | select
  | delivering (payload : Bytes)
  | sending (msg : Message)
  | done
  deriving DecidableEq, Repr

/-- The tasks that `run_connected_client` spawns, with the channels between them. -/
structure Pipeline where
  tunIo : TunIo
  transportIo : TransportIo
  tunQueue : List Bytes
  transportQueue : List Bytes
  deriving DecidableEq, Repr

inductive TransportIoAct
  | receive (msg : Message)
  | deliver
  | recv
  | tick (timestamp : Int64)
  | sent (ok : Bool)
  | failed
  deriving DecidableEq, Repr

inductive PipelineAct
  | tunIo (act : TunIoAct)
  | transportIo (act : TransportIoAct)
  deriving DecidableEq, Repr

namespace Pipeline

def init : Pipeline := ⟨.select, .select, [], []⟩

def tunIoStep (capacity : Nat) (s : Pipeline) : TunIoAct → Option Pipeline
  | .recv =>
    match s.tunIo, s.transportQueue with
    | .select, _ :: transportQueue => some { s with tunIo := .writing, transportQueue := transportQueue }
    | _, _                         => none
  | .recvDirect => if s.tunIo = .select then some { s with tunIo := .writing } else none
  | .written ok => if s.tunIo = .writing then some { s with tunIo := if ok then .select else .done } else none
  | .read data route =>
    if s.tunIo = .select then
      some { s with tunIo := match route with
        | .proxy  => .sending data
        | .direct => .sendingDirect
        | .reject => .select }
    else none
  | .send =>
    match s.tunIo with
    | .sending data =>
      if s.transportIo = .done then some { s with tunIo := .done }
      else if s.tunQueue.length < capacity then some { s with tunIo := .select, tunQueue := s.tunQueue ++ [data] }
      else none
    | _ => none
  | .sentDirect ok => if s.tunIo = .sendingDirect then some { s with tunIo := if ok then .select else .done } else none
  | .failed => if s.tunIo = .select then some { s with tunIo := .done } else none

def transportIoStep (capacity : Nat) (s : Pipeline) : TransportIoAct → Option Pipeline
  | .receive msg =>
    if s.transportIo = .select then
      some { s with transportIo := match msg.msg with
        | some (.data data)    => .delivering data.payload
        | some (.disconnect _) => .done
        | _                    => .select }
    else none
  | .deliver =>
    match s.transportIo with
    | .delivering payload =>
      if s.tunIo = .done then some { s with transportIo := .done }
      else if s.transportQueue.length < capacity then
        some { s with transportIo := .select, transportQueue := s.transportQueue ++ [payload] }
      else none
    | _ => none
  | .recv =>
    match s.transportIo, s.tunQueue with
    | .select, data :: tunQueue => some { s with transportIo := .sending (.data ⟨data⟩), tunQueue := tunQueue }
    | _, _                      => none
  | .tick timestamp =>
    if s.transportIo = .select then some { s with transportIo := .sending (.keepalive ⟨timestamp⟩) } else none
  | .sent ok =>
    match s.transportIo with
    | .sending _ => some { s with transportIo := if ok then .select else .done }
    | _          => none
  | .failed => if s.transportIo = .select then some { s with transportIo := .done } else none

def step (capacity : Nat) (s : Pipeline) : PipelineAct → Option Pipeline
  | .tunIo act       => tunIoStep capacity s act
  | .transportIo act => transportIoStep capacity s act

/-- **Each task waits for the other**: both are sending on a full channel. -/
structure Locked (capacity : Nat) (s : Pipeline) : Prop where
  tunIo : ∃ data, s.tunIo = .sending data
  tunFull : capacity ≤ s.tunQueue.length
  transportIo : ∃ payload, s.transportIo = .delivering payload
  transportFull : capacity ≤ s.transportQueue.length

/-- With this action a task takes on a packet for the other. -/
def takes : PipelineAct → Bool
  | .tunIo (.read _ .proxy)      => true
  | .transportIo (.receive msg)  =>
    match msg.msg with
    | some (.data _) => true
    | _              => false
  | _ => false

/-! ## How a task comes to send on its channel -/

theorem tunIoStep_sending {capacity : Nat} {s s' : Pipeline} {act : TunIoAct} (hs : tunIoStep capacity s act = some s')
    {data : Bytes} (hp : s'.tunIo = .sending data) :
    takes (.tunIo act) = true ∧ s'.tunQueue = s.tunQueue ∧ s'.transportQueue = s.transportQueue := by
  cases act with
  | read data' route =>
    simp only [tunIoStep] at hs
    split at hs
    · cases hs
      cases route with
      | proxy => exact ⟨rfl, rfl, rfl⟩
      | direct | reject => cases hp
    · cases hs
  | recv =>
    simp only [tunIoStep] at hs
    split at hs
    · cases hs; cases hp
    · cases hs
  | recvDirect | failed =>
    simp only [tunIoStep] at hs
    split at hs
    · cases hs; cases hp
    · cases hs
  | written ok | sentDirect ok =>
    simp only [tunIoStep] at hs
    split at hs
    · cases hs
      cases ok <;> cases hp
    · cases hs
  | send =>
    simp only [tunIoStep] at hs
    split at hs
    · split at hs
      · cases hs; cases hp
      · split at hs
        · cases hs; cases hp
        · cases hs
    · cases hs

theorem transportIoStep_delivering {capacity : Nat} {s s' : Pipeline} {act : TransportIoAct}
    (hs : transportIoStep capacity s act = some s') {payload : Bytes} (hp : s'.transportIo = .delivering payload) :
    takes (.transportIo act) = true ∧ s'.tunQueue = s.tunQueue ∧ s'.transportQueue = s.transportQueue := by
  cases act with
  | receive msg =>
    simp only [transportIoStep] at hs
    split at hs
    · cases hs
      refine ⟨?_, rfl, rfl⟩
      obtain ⟨msg⟩ := msg
      rcases msg with _ | (request | data | keepalive | disconnect)
      · cases hp
      · cases hp
      · rfl
      · cases hp
      · cases hp
    · cases hs
  | deliver =>
    simp only [transportIoStep] at hs
    split at hs
    · split at hs
      · cases hs; cases hp
      · split at hs
        · cases hs; cases hp
        · cases hs
    · cases hs
  | recv | tick timestamp | failed =>
    simp only [transportIoStep] at hs
    split at hs
    · cases hs; cases hp
    · cases hs
  | sent ok =>
    simp only [transportIoStep] at hs
    split at hs
    · cases hs
      cases ok <;> cases hp
    · cases hs

/-- **The pipeline does not lock itself**, on any run on which no task takes on a packet for the other while both channels
are full. -/
theorem not_locked {capacity : Nat} {h : List (Pipeline × PipelineAct)} {s : Pipeline}
    (hr : Run (step capacity) init h s)
    (hroom : ∀ p ∈ h, takes p.2 = true → p.1.tunQueue.length < capacity ∨ p.1.transportQueue.length < capacity) :
    ¬ Locked capacity s := by
  refine hr.invariant_of
    (fun s a => takes a = true → s.tunQueue.length < capacity ∨ s.transportQueue.length < capacity) hroom
    (fun s => ¬ Locked capacity s) (fun hl => ?_) (fun s a s' _ hroom hs hl => ?_)
  · obtain ⟨data, hp⟩ := hl.tunIo
    cases hp
  · -- the step that locks is the one that takes on the packet, and both channels were full before it
    have htook : takes a = true ∧ s'.tunQueue = s.tunQueue ∧ s'.transportQueue = s.transportQueue := by
      cases a with
      | tunIo act =>
        obtain ⟨data, hp⟩ := hl.tunIo
        exact tunIoStep_sending hs hp
      | transportIo act =>
        obtain ⟨payload, hp⟩ := hl.transportIo
        exact transportIoStep_delivering hs hp
    obtain ⟨htakes, htun, htransport⟩ := htook
    have hfull := hl.tunFull
    have hfull' := hl.transportFull
    rw [htun] at hfull
    rw [htransport] at hfull'
    rcases hroom htakes with hlt | hlt
    · exact absurd hlt (Nat.not_lt.2 hfull)
    · exact absurd hlt (Nat.not_lt.2 hfull')

/-- A pipeline that is locked stays so: neither task has a step. -/
theorem Locked.stuck {capacity : Nat} {s : Pipeline} (hl : Locked capacity s) (a : PipelineAct) :
    step capacity s a = none := by
  obtain ⟨data, htun⟩ := hl.tunIo
  obtain ⟨payload, htransport⟩ := hl.transportIo
  have hfull := Nat.not_lt.2 hl.tunFull
  have hfull' := Nat.not_lt.2 hl.transportFull
  cases a with
  | tunIo act => cases act <;> simp [step, tunIoStep, htun, htransport, hfull]
  | transportIo act => cases act <;> simp [step, transportIoStep, htun, htransport, hfull']

/-- A packet comes from the TUN device and one from the server, and each task hands its packet on. -/
def roundTrip : List PipelineAct :=
  [.tunIo (.read [69] .proxy), .transportIo (.receive (.data ⟨[69]⟩)), .tunIo .send, .transportIo .deliver]

theorem not_locked_roundTrip :
    ∃ s, Run (step 4096) init (Machine.trace (step 4096) init roundTrip) s ∧ s.tunQueue = [[69]] ∧
      s.transportQueue = [[69]] ∧ ¬ Locked 4096 s := by
  have hr : Run (step 4096) init (Machine.trace (step 4096) init roundTrip) _ := Machine.run_get (by decide)
  exact ⟨_, hr, by decide, by decide, not_locked hr (by decide)⟩

/-! ## How it locks -/

/-- `k` packets on each channel. -/
def filled (k : Nat) : Pipeline := ⟨.select, .select, List.replicate k [69], List.replicate k [69]⟩

theorem exec_roundTrip {capacity k : Nat} (hk : k < capacity) :
    Machine.exec (step capacity) (filled k) roundTrip = some (filled (k + 1)) := by
  simp [roundTrip, filled, step, tunIoStep, transportIoStep, Message.data, hk, List.replicate_succ']

/-- The server and the TUN device are faster than the tasks: the channels fill up, and then each task takes on one packet
more. -/
def lockingRun (capacity : Nat) : List PipelineAct :=
  (List.range' 0 capacity).flatMap (fun _ => roundTrip) ++
    [.tunIo (.read [69] .proxy), .transportIo (.receive (.data ⟨[69]⟩))]

theorem exec_lockingRun (capacity : Nat) : Machine.exec (step capacity) init (lockingRun capacity) =
    some { filled capacity with tunIo := .sending [69], transportIo := .delivering [69] } := by
  have hfill := Machine.exec_blocks filled (fun _ => roundTrip) capacity (fun k hk => exec_roundTrip hk) capacity 0
    (by omega)
  rw [Nat.zero_add] at hfill
  exact Machine.exec_trans hfill rfl

/-- **With the channels of `run_connected_client` the pipeline can lock itself, for good.** -/
theorem pipeline_locks : ∃ h s, Run (step 4096) init h s ∧ Locked 4096 s ∧ ¬ ∃ a s', step 4096 s a = some s' := by
  have hr := Machine.run_of_exec (exec_lockingRun 4096)
  have hlocked : Locked 4096 { filled 4096 with tunIo := .sending [69], transportIo := .delivering [69] } :=
    ⟨⟨_, rfl⟩, Nat.le_of_eq List.length_replicate.symm, ⟨_, rfl⟩, Nat.le_of_eq List.length_replicate.symm⟩
  refine ⟨_, _, hr, hlocked, ?_⟩
  rintro ⟨a, s', hs⟩
  rw [hlocked.stuck a] at hs
  cases hs

end Pipeline

end Easynet
