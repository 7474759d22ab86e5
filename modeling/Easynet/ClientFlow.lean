import Easynet.Lib.Fifo
import Easynet.Downstream
import Easynet.Keepalive
/-!
# ClientFlow — packets through a connected client, in order

The two tasks of a connected client and the channels between them are two first-in first-out stages.  Packets that
`tun_io_task` has read and the rules have sent to the server come out as the `Data` messages that
`client_transport_io_task` hands to the transport; the payloads of the `Data` messages it has received come out where
`tun_io_task` takes them for the TUN device.  A direction loses packets only once the task at its end is gone
(`client_relays`).  The keepalives that are due are the ones handed to the transport, one after the other.
-/
namespace Easynet

open Machine (Run)
open Fifo (items)

/-- The packet in a `Data` message. -/
def Message.payload (msg : Message) : Option Bytes :=
  match msg.msg with
  | some (.data data) => some data.payload
  | _                 => none

/-- The timestamp in a keepalive. -/
def Message.timestamp (msg : Message) : Option Int64 :=
  match msg.msg with
  | some (.keepalive keepalive) => some keepalive.timestamp
  | _                           => none

@[simp] theorem Message.payload_data (data : Data) : (Message.data data).payload = some data.payload := rfl
@[simp] theorem Message.payload_keepalive (keepalive : KeepAlive) : (Message.keepalive keepalive).payload = none := rfl
@[simp] theorem Message.timestamp_data (data : Data) : (Message.data data).timestamp = none := rfl
@[simp] theorem Message.timestamp_keepalive (keepalive : KeepAlive) :
    (Message.keepalive keepalive).timestamp = some keepalive.timestamp := rfl

/-- The message that `client_transport_io_task` is sending. -/
def TransportIo.outgoing : TransportIo → Option Message
  | .sending msg => some msg
  | _            => none

/-- The packet that `client_transport_io_task` is putting on the transport channel. -/
def TransportIo.incoming : TransportIo → Option Bytes
  | .delivering payload => some payload
  | _                   => none

namespace Pipeline

/-! ## What one step of the client's tasks can do -/

/-- **The ways the two tasks move.** -/
inductive Moves (capacity : Nat) (s : Pipeline) : PipelineAct → Pipeline → Prop
  | taken {payload : Bytes} {transportQueue : List Bytes} (hp : s.tunIo = .select)
      (hq : s.transportQueue = payload :: transportQueue) :
      Moves capacity s (.tunIo .recv) { s with tunIo := .writing, transportQueue := transportQueue }
  | takenDirect (hp : s.tunIo = .select) : Moves capacity s (.tunIo .recvDirect) { s with tunIo := .writing }
  | written {ok : Bool} (hp : s.tunIo = .writing) :
      Moves capacity s (.tunIo (.written ok)) { s with tunIo := if ok then .select else .done }
  | proxy {data : Bytes} (hp : s.tunIo = .select) :
      Moves capacity s (.tunIo (.read data .proxy)) { s with tunIo := .sending data }
  | direct {data : Bytes} (hp : s.tunIo = .select) :
      Moves capacity s (.tunIo (.read data .direct)) { s with tunIo := .sendingDirect }
  | reject {data : Bytes} (hp : s.tunIo = .select) :
      Moves capacity s (.tunIo (.read data .reject)) { s with tunIo := .select }
  | queued {data : Bytes} (hp : s.tunIo = .sending data) (hopen : s.transportIo ≠ .done)
      (hroom : s.tunQueue.length < capacity) :
      Moves capacity s (.tunIo .send) { s with tunIo := .select, tunQueue := s.tunQueue ++ [data] }
  | refused {data : Bytes} (hp : s.tunIo = .sending data) (hgone : s.transportIo = .done) :
      Moves capacity s (.tunIo .send) { s with tunIo := .done }
  | sentDirect {ok : Bool} (hp : s.tunIo = .sendingDirect) :
      Moves capacity s (.tunIo (.sentDirect ok)) { s with tunIo := if ok then .select else .done }
  | tunFailed (hp : s.tunIo = .select) : Moves capacity s (.tunIo .failed) { s with tunIo := .done }
  | data {msg : Message} {payload : Bytes} (hp : s.transportIo = .select) (hm : msg.payload = some payload) :
      Moves capacity s (.transportIo (.receive msg)) { s with transportIo := .delivering payload }
  | disconnect {reason : Disconnect} (hp : s.transportIo = .select) :
      Moves capacity s (.transportIo (.receive ⟨some (.disconnect reason)⟩)) { s with transportIo := .done }
  | ignored {msg : Message} (hp : s.transportIo = .select) (hm : msg.payload = none) :
      Moves capacity s (.transportIo (.receive msg)) { s with transportIo := .select }
  | delivered {payload : Bytes} (hp : s.transportIo = .delivering payload) (hopen : s.tunIo ≠ .done)
      (hroom : s.transportQueue.length < capacity) :
      Moves capacity s (.transportIo .deliver)
        { s with transportIo := .select, transportQueue := s.transportQueue ++ [payload] }
  | undelivered {payload : Bytes} (hp : s.transportIo = .delivering payload) (hgone : s.tunIo = .done) :
      Moves capacity s (.transportIo .deliver) { s with transportIo := .done }
  | sending {data : Bytes} {tunQueue : List Bytes} (hp : s.transportIo = .select) (hq : s.tunQueue = data :: tunQueue) :
      Moves capacity s (.transportIo .recv) { s with transportIo := .sending (.data ⟨data⟩), tunQueue := tunQueue }
  | tick {timestamp : Int64} (hp : s.transportIo = .select) :
      Moves capacity s (.transportIo (.tick timestamp)) { s with transportIo := .sending (.keepalive ⟨timestamp⟩) }
  | sent {msg : Message} {ok : Bool} (hp : s.transportIo = .sending msg) :
      Moves capacity s (.transportIo (.sent ok)) { s with transportIo := if ok then .select else .done }
  | transportFailed (hp : s.transportIo = .select) :
      Moves capacity s (.transportIo .failed) { s with transportIo := .done }

variable {capacity : Nat} {s s' : Pipeline}

theorem tunIoStep_moves {act : TunIoAct} (hs : tunIoStep capacity s act = some s') : Moves capacity s (.tunIo act) s' := by
  cases act with
  | recv =>
    simp only [tunIoStep] at hs
    split at hs
    · rename_i hp hq; cases hs; exact .taken hp hq
    · cases hs
  | send =>
    simp only [tunIoStep] at hs
    split at hs
    · rename_i hp
      split at hs
      · rename_i hgone; cases hs; exact .refused hp hgone
      · rename_i hopen
        split at hs
        · rename_i hroom; cases hs; exact .queued hp hopen hroom
        · cases hs
    · cases hs
  | read data route =>
    simp only [tunIoStep] at hs
    split at hs
    · rename_i hp
      cases route with
      | proxy => cases hs; exact .proxy hp
      | direct => cases hs; exact .direct hp
      | reject => cases hs; exact .reject hp
    · cases hs
  | recvDirect =>
    simp only [tunIoStep] at hs
    split at hs
    · rename_i hp; cases hs; exact .takenDirect hp
    · cases hs
  | written ok =>
    simp only [tunIoStep] at hs
    split at hs
    · rename_i hp; cases hs; exact .written hp
    · cases hs
  | sentDirect ok =>
    simp only [tunIoStep] at hs
    split at hs
    · rename_i hp; cases hs; exact .sentDirect hp
    · cases hs
  | failed =>
    simp only [tunIoStep] at hs
    split at hs
    · rename_i hp; cases hs; exact .tunFailed hp
    · cases hs

theorem transportIoStep_moves {act : TransportIoAct} (hs : transportIoStep capacity s act = some s') :
    Moves capacity s (.transportIo act) s' := by
  cases act with
  | receive msg =>
    simp only [transportIoStep] at hs
    split at hs
    · rename_i hp
      obtain ⟨msg⟩ := msg
      rcases msg with _ | (handshake | data | keepalive | reason)
      · cases hs; exact .ignored hp rfl
      · cases hs; exact .ignored hp rfl
      · cases hs; exact .data hp rfl
      · cases hs; exact .ignored hp rfl
      · cases hs; exact .disconnect hp
    · cases hs
  | deliver =>
    simp only [transportIoStep] at hs
    split at hs
    · rename_i hp
      split at hs
      · rename_i hgone; cases hs; exact .undelivered hp hgone
      · rename_i hopen
        split at hs
        · rename_i hroom; cases hs; exact .delivered hp hopen hroom
        · cases hs
    · cases hs
  | recv =>
    simp only [transportIoStep] at hs
    split at hs
    · rename_i hp hq; cases hs; exact .sending hp hq
    · cases hs
  | tick timestamp =>
    simp only [transportIoStep] at hs
    split at hs
    · rename_i hp; cases hs; exact .tick hp
    · cases hs
  | sent ok =>
    simp only [transportIoStep] at hs
    split at hs
    · rename_i hp; cases hs; exact .sent hp
    · cases hs
  | failed =>
    simp only [transportIoStep] at hs
    split at hs
    · rename_i hp; cases hs; exact .transportFailed hp
    · cases hs

theorem step_moves {a : PipelineAct} (hs : step capacity s a = some s') : Moves capacity s a s' := by
  cases a with
  | tunIo act => exact tunIoStep_moves hs
  | transportIo act => exact transportIoStep_moves hs

/-! ## What comes in and what goes out -/

/-- The packet that is read from the TUN device for the server in this step. -/
def readForServer (_ : Pipeline) : PipelineAct → Option Bytes
  | .tunIo (.read data .proxy) => some data
  | _                          => none

/-- The message that is handed to `transport.send` in this step, whether it is sent or not. -/
def handedOver (s : Pipeline) : PipelineAct → Option Message
  | .transportIo (.sent _) =>
    match s.transportIo with
    | .sending msg => some msg
    | _            => none
  | _ => none

def receivedMsg (_ : Pipeline) : PipelineAct → Option Message
  | .transportIo (.receive msg) => some msg
  | _                           => none

/-- The packet from the server that is taken for the TUN device in this step. -/
def takenForTun (s : Pipeline) : PipelineAct → Option Bytes
  | .tunIo .recv => s.transportQueue.head?
  | _            => none

/-- The timestamp of the keepalive that is due in this step. -/
def ticked (_ : Pipeline) : PipelineAct → Option Int64
  | .transportIo (.tick timestamp) => some timestamp
  | _                              => none

def payloadOut (s : Pipeline) (a : PipelineAct) : Option Bytes := (handedOver s a).bind Message.payload

def payloadIn (s : Pipeline) (a : PipelineAct) : Option Bytes := (receivedMsg s a).bind Message.payload

def timestampOut (s : Pipeline) (a : PipelineAct) : Option Int64 := (handedOver s a).bind Message.timestamp

/-- The packets on their way to the server, oldest first. -/
def outbound (s : Pipeline) : List Bytes :=
  (s.transportIo.outgoing.bind Message.payload).toList ++ s.tunQueue ++ s.tunIo.packet.toList

/-- The packets on their way to the TUN device, oldest first. -/
def inbound (s : Pipeline) : List Bytes := s.transportQueue ++ s.transportIo.incoming.toList

/-- The timestamp of the keepalive that is being sent. -/
def timestampHeld (s : Pipeline) : List Int64 := (s.transportIo.outgoing.bind Message.timestamp).toList

/-! ## The stages -/

theorem Moves.back_transportIo {a : PipelineAct} (h : Moves capacity s a s') (hup : s'.transportIo ≠ .done) :
    s.transportIo ≠ .done := by
  cases h with
  | data hp | ignored hp | delivered hp | sending hp | tick hp | sent hp =>
    rw [hp]
    exact fun he => TransportIo.noConfusion he
  | disconnect | undelivered | transportFailed => exact absurd rfl hup
  | _ => exact hup

theorem Moves.back_tunIo {a : PipelineAct} (h : Moves capacity s a s') (hup : s'.tunIo ≠ .done) : s.tunIo ≠ .done := by
  cases h with
  | taken hp | takenDirect hp | written hp | proxy hp | direct hp | reject hp | queued hp | sentDirect hp =>
    rw [hp]; exact fun he => TunIo.noConfusion he
  | refused | tunFailed => exact absurd rfl hup
  | _ => exact hup

/-- The packet that comes in goes behind those on their way, and the one that goes out was the first of them. -/
theorem Moves.outbound {a : PipelineAct} (h : Moves capacity s a s') (hup : s'.transportIo ≠ .done) :
    outbound s ++ (readForServer s a).toList = (payloadOut s a).toList ++ outbound s' := by
  cases h with
  | taken hp | takenDirect hp | proxy hp | direct hp | reject hp | queued hp | tunFailed hp =>
    simp [Pipeline.outbound, readForServer, payloadOut, handedOver, hp, TunIo.packet]
  | @written ok hp | @sentDirect ok hp =>
    cases ok <;> simp [Pipeline.outbound, readForServer, payloadOut, handedOver, hp, TunIo.packet]
  | data hp | ignored hp | delivered hp | tick hp =>
    simp [Pipeline.outbound, readForServer, payloadOut, handedOver, hp, TransportIo.outgoing]
  | sending hp hq => simp [Pipeline.outbound, readForServer, payloadOut, handedOver, hp, hq, TransportIo.outgoing]
  | @sent msg ok hp =>
    cases ok with
    | true => simp [Pipeline.outbound, readForServer, payloadOut, handedOver, hp, TransportIo.outgoing]
    | false => exact absurd rfl hup
  | refused hp hgone => exact absurd hgone hup
  | disconnect | undelivered | transportFailed => exact absurd rfl hup

theorem Moves.inbound {a : PipelineAct} (h : Moves capacity s a s') (hup : s'.tunIo ≠ .done) :
    inbound s ++ (payloadIn s a).toList = (takenForTun s a).toList ++ inbound s' := by
  cases h with
  | taken hp hq => simp [Pipeline.inbound, payloadIn, receivedMsg, takenForTun, hq]
  | takenDirect | written | proxy | direct | reject | queued | sentDirect =>
    simp [Pipeline.inbound, payloadIn, receivedMsg, takenForTun]
  | data hp hm => simp [Pipeline.inbound, payloadIn, receivedMsg, takenForTun, hp, hm, TransportIo.incoming]
  | ignored hp hm => simp [Pipeline.inbound, payloadIn, receivedMsg, takenForTun, hp, hm, TransportIo.incoming]
  | disconnect hp =>
    simp [Pipeline.inbound, payloadIn, receivedMsg, takenForTun, hp, Message.payload, TransportIo.incoming]
  | delivered hp | sending hp | tick hp | transportFailed hp =>
    simp [Pipeline.inbound, payloadIn, receivedMsg, takenForTun, hp, TransportIo.incoming]
  | @sent msg ok hp =>
    cases ok <;> simp [Pipeline.inbound, payloadIn, receivedMsg, takenForTun, hp, TransportIo.incoming]
  | undelivered hp hgone => exact absurd hgone hup
  | refused | tunFailed => exact absurd rfl hup

theorem Moves.timestampHeld {a : PipelineAct} (h : Moves capacity s a s') (hup : s'.transportIo ≠ .done) :
    timestampHeld s ++ (ticked s a).toList = (timestampOut s a).toList ++ timestampHeld s' := by
  cases h with
  | data hp | ignored hp | delivered hp | tick hp | sending hp =>
    simp [Pipeline.timestampHeld, ticked, timestampOut, handedOver, hp, TransportIo.outgoing]
  | @sent msg ok hp =>
    cases ok with
    | true => simp [Pipeline.timestampHeld, ticked, timestampOut, handedOver, hp, TransportIo.outgoing]
    | false => exact absurd rfl hup
  | disconnect | undelivered | transportFailed => exact absurd rfl hup
  | _ => simp [Pipeline.timestampHeld, ticked, timestampOut, handedOver]

/-- What is handed over was being sent. -/
theorem Moves.handedOver_cases {a : PipelineAct} (h : Moves capacity s a s') :
    handedOver s a = none ∨ handedOver s a = s.transportIo.outgoing := by
  cases h with
  | sent hp => exact Or.inr (by simp [handedOver, hp, TransportIo.outgoing])
  | _ => exact Or.inl rfl

theorem Moves.handedOver_down {a : PipelineAct} (h : Moves capacity s a s') (hup : ¬ s.transportIo ≠ .done) :
    handedOver s a = none := by
  cases h with
  | sent hp => exact absurd hp (by rw [not_not.1 hup]; exact fun he => TransportIo.noConfusion he)
  | _ => rfl

theorem Moves.takenForTun_down {a : PipelineAct} (h : Moves capacity s a s') (hdone : s.tunIo = .done ∨ s'.tunIo = .done) :
    takenForTun s a = none := by
  cases h with
  | taken hp =>
    rcases hdone with he | he
    · exact TunIo.noConfusion (hp.symm.trans he)
    · exact TunIo.noConfusion he
  | _ => rfl

theorem outbound_stage (capacity : Nat) :
    Fifo.Stage (step capacity) init (fun s => s.transportIo ≠ .done) readForServer payloadOut outbound where
  start := rfl
  back hs hup := (step_moves hs).back_transportIo hup
  keep _ hs hup := (step_moves hs).outbound hup
  stop _ hs _ _ := by
    rw [payloadOut]
    rcases (step_moves hs).handedOver_cases with he | he
    · rw [he]
      exact List.nil_prefix
    · rw [he, outbound, List.append_assoc, List.append_assoc]
      exact List.prefix_append _ _
  down hs hup := by rw [payloadOut, (step_moves hs).handedOver_down hup]; rfl

theorem timestamp_stage (capacity : Nat) :
    Fifo.Stage (step capacity) init (fun s => s.transportIo ≠ .done) ticked timestampOut timestampHeld where
  start := rfl
  back hs hup := (step_moves hs).back_transportIo hup
  keep _ hs hup := (step_moves hs).timestampHeld hup
  stop _ hs _ _ := by
    rw [timestampOut]
    rcases (step_moves hs).handedOver_cases with he | he
    · rw [he]
      exact List.nil_prefix
    · rw [he]
      exact List.prefix_append _ _
  down hs hup := by rw [timestampOut, (step_moves hs).handedOver_down hup]; rfl

theorem inbound_stage (capacity : Nat) :
    Fifo.Stage (step capacity) init (fun s => s.tunIo ≠ .done) payloadIn takenForTun inbound where
  start := rfl
  back hs hup := (step_moves hs).back_tunIo hup
  keep _ hs hup := (step_moves hs).inbound hup
  stop _ hs _ hup' := by
    rw [(step_moves hs).takenForTun_down (Or.inr (not_not.1 hup'))]
    exact List.nil_prefix
  down hs hup := (step_moves hs).takenForTun_down (Or.inl (not_not.1 hup))

/-- **A connected client relays in order.**  In both directions, what has come out is the beginning of what has come in;
and as long as the task that a direction ends at is there, what came in is what came out and what is on its way. -/
theorem client_relays {h : List (Pipeline × PipelineAct)} (hr : Run (step capacity) init h s) :
    items payloadOut h <+: items readForServer h ∧
    (s.transportIo ≠ .done → items readForServer h = items payloadOut h ++ outbound s) ∧
    items takenForTun h <+: items payloadIn h ∧
    (s.tunIo ≠ .done → items payloadIn h = items takenForTun h ++ inbound s) :=
  ⟨(outbound_stage capacity).isPrefix hr, (outbound_stage capacity).eq hr, (inbound_stage capacity).isPrefix hr,
    (inbound_stage capacity).eq hr⟩

/-- A packet goes to the server and one comes from it, with a keepalive in between. -/
def relayed : List PipelineAct :=
  roundTrip ++ [.transportIo (.tick 3000), .transportIo (.sent true), .transportIo .recv, .transportIo (.sent true),
    .tunIo .recv]

theorem client_relays_relayed :
    items payloadOut (Machine.trace (step 4096) init relayed) = [[69]] ∧
    items takenForTun (Machine.trace (step 4096) init relayed) = [[69]] ∧
    ∃ s, Run (step 4096) init (Machine.trace (step 4096) init relayed) s ∧
      items readForServer (Machine.trace (step 4096) init relayed) =
        items payloadOut (Machine.trace (step 4096) init relayed) ++ outbound s := by
  have hr : Run (step 4096) init (Machine.trace (step 4096) init relayed) _ := Machine.run_get (by decide)
  exact ⟨by decide, by decide, _, hr, (client_relays hr).2.1 (by decide)⟩

end Pipeline

end Easynet
