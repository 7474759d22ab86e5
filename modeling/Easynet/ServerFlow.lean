import Easynet.ClientFlow
import Easynet.Leaving
/-!
# ServerFlow — packets through the server, in order

The server's tasks as first-in first-out stages.  Up: what a connection task receives in `Data` messages it puts on the
transport channel, from which `tun_io_task` takes it for the TUN device (`connUp_stage`, `transport_stage`).  Down: what
`tun_io_task` reads from the TUN device for the clients comes to `handle_tun_packet`, which puts it on one client's
channel or drops it (`tun_stage`), and what is on a client's channel its task hands to the transport (`connDown_stage`).
Keepalives go back to where they came from (`keepalive_stage`).

A packet from the TUN device is dropped only if it is no IPv4 packet, no session has its destination, or the task of that
session's connection has ended (`downlink_exact`).
-/
namespace Easynet

open Machine (Run Throughout)
open Fifo (items)

/-! ## What comes in and what goes out -/

/-- The message that task `c` receives in this step. -/
def receivedOn (c : Nat) (_ : Server) : Action → Option Message
  | .conn i (.receive _ msg _ _) => if i = c then some msg else none
  | _                            => none

/-- The message that task `c` hands to `transport.send` in this step, whether it is sent or not. -/
def handedOn (c : Nat) (s : Server) : Action → Option Message
  | .conn i (.sent _) => if i = c then (s.conns[c]?.bind Conn.outgoing).map Prod.snd else none
  | _                 => none

def payloadFrom (c : Nat) (s : Server) (a : Action) : Option Bytes := (receivedOn c s a).bind Message.payload

def payloadTo (c : Nat) (s : Server) (a : Action) : Option Bytes := (handedOn c s a).bind Message.payload

def timestampFrom (c : Nat) (s : Server) (a : Action) : Option Int64 := (receivedOn c s a).bind Message.timestamp

def timestampTo (c : Nat) (s : Server) (a : Action) : Option Int64 := (handedOn c s a).bind Message.timestamp

/-- The packet that a task has received and not yet put on the transport channel. -/
def Phase.payload : Phase → Option Bytes
  | .data _ payload => some payload
  | _               => none

/-- The timestamp of the keepalive that a task is sending back. -/
def Phase.timestamp : Phase → Option Int64
  | .keepalive _ timestamp => some timestamp
  | _                      => none

/-- The packet that this step puts on the transport channel, and the connection it came on. -/
def uplinked (s : Server) : Action → Option (Nat × Bytes)
  | .conn i .enqueue => if s.tunIo = .done then none else ((s.phaseOf i).bind Phase.payload).map (i, ·)
  | _                => none

/-- The packet from a client that `tun_io_task` takes for the TUN device in this step. -/
def takenForTun (s : Server) : Action → Option Bytes
  | .tunIo .recv => s.transportQueue.head?
  | _            => none

/-- What is for connection `c`. -/
def onConn {α : Type} (c : Nat) (q : Nat × α) : Option α := if q.1 = c then some q.2 else none

def uplinkedOn (c : Nat) (s : Server) (a : Action) : Option Bytes := (uplinked s a).bind (onConn c)

def enqueuedOn (c : Nat) (s : Server) (a : Action) : Option Bytes := (enqueued s a).bind (onConn c)

/-! ## A task that holds at most one item -/

/-- A step of another task leaves a task where it is, or starts it. -/
theorem phaseOf_other {s s' : Server} {a : Action} (hs : step s a = some s') {c : Nat} (ha : ∀ act, a ≠ .conn c act) :
    s'.phaseOf c = s.phaseOf c ∨ s.phaseOf c = none ∧ s'.phaseOf c = some .select := by
  cases hc : s.conns[c]? with
  | some conn =>
    obtain ⟨conn', hc', -, ⟨hp, -⟩ | ⟨act, t, he, -⟩⟩ := step_conn_forward hs hc
    · exact Or.inl (by rw [phaseOf_eq hc, phaseOf_eq hc', hp])
    · exact absurd he (ha act)
  | none =>
    have hnone : s.phaseOf c = none := by rw [Server.phaseOf, hc]; rfl
    cases hc' : s'.conns[c]? with
    | none => exact Or.inl (by rw [hnone, Server.phaseOf, hc']; rfl)
    | some conn' =>
      rcases step_conn hs hc' with ⟨conn, hcs, -⟩ | ⟨peer, -, -, -, rfl⟩ | ⟨conn, act, t, he, -⟩
      · cases hc.symm.trans hcs
      · exact Or.inr ⟨hnone, phaseOf_eq hc'⟩
      · exact absurd he (ha act)

section PhaseStage

variable {β : Type} {transport : Transport} {c : Nat} {held : Phase → Option β} {inn out : Server → Action → Option β}

theorem held_other (hselect : held .select = none) {s s' : Server} {a : Action} (hs : step s a = some s')
    (ha : ∀ act, a ≠ .conn c act) : (s'.phaseOf c).bind held = (s.phaseOf c).bind held := by
  rcases phaseOf_other hs ha with he | ⟨hnone, hnew⟩
  · rw [he]
  · rw [hnone, hnew]
    exact hselect

theorem held_init (hselect : held .select = none) :
    (((Server.init transport).phaseOf c).bind held).toList = [] := by
  cases hc : (Server.init transport).conns[c]? with
  | none => rw [Server.phaseOf, hc]; rfl
  | some conn =>
    obtain ⟨-, -, rfl⟩ := init_conns hc
    rw [phaseOf_eq hc, Option.bind_some, hselect]
    rfl

/-- **What a task holds in its phase passes through in order**, as long as the steps of other tasks leave it alone and
the task's own steps take it on and give it out. -/
theorem phase_stage {Up : Server → Prop} (hselect : held .select = none)
    (hother : ∀ s a, (∀ act, a ≠ .conn c act) → inn s a = none ∧ out s a = none)
    (hback : ∀ {s a s'}, step s a = some s' → Up s' → Up s)
    (hstay : ∀ {s act s'}, step s (.conn c act) = some s' → Up s → Up s')
    (hdown : ∀ s a, ¬ Up s → out s a = none)
    (hown : ∀ {h s conn act conn' t}, ServerRun transport h s → s.conns[c]? = some conn → ConnStep s c conn act conn' t →
      Up s → (held conn.phase).toList ++ (inn s (.conn c act)).toList =
        (out s (.conn c act)).toList ++ (held conn'.phase).toList) :
    Fifo.Stage step (Server.init transport) Up inn out (fun s => ((s.phaseOf c).bind held).toList) where
  start := held_init hselect
  back := hback
  keep hr hs hup := by
    rename_i h s a s'
    by_cases ha : ∃ act, a = .conn c act
    · obtain ⟨act, rfl⟩ := ha
      obtain ⟨conn, conn', t, hc, hcs, rfl⟩ := step_connStep hs
      rw [phaseOf_eq hc, phaseOf_eq (hcs.conn_after hc)]
      exact hown hr hc hcs (hback hs hup)
    · have ha : ∀ act, a ≠ .conn c act := fun act he => ha ⟨act, he⟩
      rw [(hother s a ha).1, (hother s a ha).2, held_other hselect hs ha]
      exact (List.append_nil _)
  stop hr hs hup hup' := by
    rename_i h s a s'
    rw [(hother s a (fun act he => hup' (hstay (he ▸ hs) hup))).2]
    exact List.nil_prefix
  down _ hup := hdown _ _ hup

/-- The same where the task may lose what it holds. -/
theorem phase_lossy (hselect : held .select = none)
    (hother : ∀ s a, (∀ act, a ≠ .conn c act) → inn s a = none ∧ out s a = none)
    (hown : ∀ {h s conn act conn' t}, ServerRun transport h s → s.conns[c]? = some conn → ConnStep s c conn act conn' t →
      ((out s (.conn c act)).toList ++ (held conn'.phase).toList).Sublist
        ((held conn.phase).toList ++ (inn s (.conn c act)).toList)) :
    Fifo.Lossy step (Server.init transport) inn out (fun s => ((s.phaseOf c).bind held).toList) where
  start := held_init hselect
  keep hr hs := by
    rename_i h s a s'
    by_cases ha : ∃ act, a = .conn c act
    · obtain ⟨act, rfl⟩ := ha
      obtain ⟨conn, conn', t, hc, hcs, rfl⟩ := step_connStep hs
      rw [phaseOf_eq hc, phaseOf_eq (hcs.conn_after hc)]
      exact hown hr hc hcs
    · have ha : ∀ act, a ≠ .conn c act := fun act he => ha ⟨act, he⟩
      rw [(hother s a ha).1, (hother s a ha).2, held_other hselect hs ha, Option.toList_none, List.append_nil]
      exact List.Sublist.refl _

end PhaseStage

theorem receivedOn_other {c : Nat} {a : Action} (s : Server) (ha : ∀ act, a ≠ .conn c act) : receivedOn c s a = none := by
  unfold receivedOn
  split
  · rename_i i src msg load fresh
    have hi : i ≠ c := fun he => ha (.receive src msg load fresh) (he ▸ rfl)
    exact if_neg hi
  · rfl

theorem handedOn_other {c : Nat} {a : Action} (s : Server) (ha : ∀ act, a ≠ .conn c act) : handedOn c s a = none := by
  unfold handedOn
  split
  · rename_i i ok
    have hi : i ≠ c := fun he => ha (.sent ok) (he ▸ rfl)
    exact if_neg hi
  · rfl

theorem uplinkedOn_other {c : Nat} {a : Action} (s : Server) (ha : ∀ act, a ≠ .conn c act) : uplinkedOn c s a = none := by
  unfold uplinkedOn uplinked
  split
  · rename_i i
    have hi : i ≠ c := fun he => ha .enqueue (he ▸ rfl)
    split
    · rfl
    · cases (s.phaseOf i).bind Phase.payload with
      | none => rfl
      | some payload => exact if_neg hi
  · rfl

/-- What a task hands over in a step of its own. -/
theorem handedOn_sent {s : Server} {c : Nat} {conn : Conn} (hc : s.conns[c]? = some conn) (ok : Bool) :
    handedOn c s (.conn c (.sent ok)) = conn.outgoing.map Prod.snd := by
  rw [handedOn, if_pos rfl, hc]
  rfl

/-! ## Up -/

/-- The packets that a client sends reach the transport channel one after the other. -/
theorem connUp_stage (transport : Transport) (c : Nat) :
    Fifo.Stage step (Server.init transport) (fun s => s.tunIo ≠ .done) (payloadFrom c)
      (uplinkedOn c) (fun s => ((s.phaseOf c).bind Phase.payload).toList) := by
  refine phase_stage rfl (fun s a ha => ⟨?_, uplinkedOn_other s ha⟩) (fun {s a s'} hs hup => ?_)
    (fun {s act s'} hs hup => ?_) (fun s a hup => ?_) (fun {h s conn act conn' t} hr hc hcs hup => ?_)
  · rw [payloadFrom, receivedOn_other s ha]
    rfl
  · by_cases ha : ∃ act, a = .tunIo act
    · obtain ⟨act, rfl⟩ := ha
      cases tunIoStep_spec hs with
      | recv hp | recvDirect hp | written hp | proxy hp | direct hp | reject hp | send hp | sendFailed hp | sentDirect hp
      | failed hp => rw [hp]; exact fun he => TunIo.noConfusion he
    · rw [← (step_frame hs).tunIo (fun act he => ha ⟨act, he⟩)]
      exact hup
  · rw [(step_frame hs).tunIo (fun _ he => Action.noConfusion he)]
    exact hup
  · unfold uplinkedOn uplinked
    split
    · rw [if_pos (not_not.1 hup)]
      rfl
    · rfl
  · cases hcs with
    | @receive src msg load fresh hp =>
      have hd := dispatch_spec s.nextClientId src msg load fresh
      generalize dispatch s.nextClientId src msg load fresh = d at hd
      cases hd <;> simp [hp, payloadFrom, receivedOn, uplinkedOn, uplinked, Phase.payload, Message.payload, newSession]
    | readEnd hp | forwardFailed hp =>
      unfold Conn.afterLoop
      split <;> simp [hp, payloadFrom, receivedOn, uplinkedOn, uplinked, Phase.payload]
    | @lookup src request config providedId fresh found hp =>
      obtain ⟨call, hcall, -⟩ := lookupSession_spec s.sessions s.nextClientId src request config providedId fresh
      simp [hp, hcall, payloadFrom, receivedOn, uplinkedOn, uplinked, Phase.payload]
    | enqueued hp => simp [hp, hup, phaseOf_eq hc, payloadFrom, receivedOn, uplinkedOn, uplinked, Phase.payload, onConn]
    | dropped hp hio => exact absurd hio hup
    | _ => simp [*, payloadFrom, receivedOn, uplinkedOn, uplinked, Phase.payload]

theorem step_transportQueue {s s' : Server} {a : Action} (hs : step s a = some s') :
    s.transportQueue ++ ((uplinked s a).map Prod.snd).toList = (takenForTun s a).toList ++ s'.transportQueue := by
  cases a with
  | clock now => cases hs; exact List.append_nil _
  | accept peer =>
    obtain ⟨-, rfl⟩ := step_accept hs
    exact List.append_nil _
  | conn i act =>
    obtain ⟨conn, conn', t, hc, hcs, rfl⟩ := step_connStep hs
    show s.transportQueue ++ _ = t.transportQueue
    cases hcs with
    | enqueued hp hio => simp [uplinked, hio, phaseOf_eq hc, hp, Phase.payload]
    | dropped hp hio => simp [uplinked, hio]
    | _ => exact List.append_nil _
  | tunPacket act =>
    cases tunPacketStep_spec hs with
    | send hp hsend =>
      rcases sendToClient_spec hsend with rfl | ⟨c, conn, -, -, -, -, rfl⟩ <;> exact List.append_nil _
    | _ => exact List.append_nil _
  | tunIo act =>
    cases tunIoStep_spec hs with
    | recv hp hq => simp [uplinked, takenForTun, hq]
    | _ => exact List.append_nil _
  | cleanup act => cases cleanupStep_spec hs <;> exact List.append_nil _

/-- What is on the transport channel reaches the TUN device one after the other, whoever put it there. -/
theorem transport_stage (transport : Transport) :
    Fifo.Stage step (Server.init transport) (fun _ => True) (fun s a => (uplinked s a).map Prod.snd) takenForTun
      (fun s => s.transportQueue) where
  start := rfl
  back _ _ := trivial
  keep _ hs _ := step_transportQueue hs
  stop _ _ _ hup' := absurd trivial hup'
  down _ hup := absurd trivial hup

/-- The keepalives that a client sends are handed back to it one after the other. -/
theorem keepalive_stage (transport : Transport) (c : Nat) :
    Fifo.Stage step (Server.init transport) (fun _ => True) (timestampFrom c)
      (timestampTo c) (fun s => ((s.phaseOf c).bind Phase.timestamp).toList) := by
  refine phase_stage rfl (fun s a ha => ⟨?_, ?_⟩) (fun _ _ => trivial) (fun _ _ => trivial)
    (fun _ _ hup => absurd trivial hup) (fun {h s conn act conn' t} hr hc hcs _ => ?_)
  · rw [timestampFrom, receivedOn_other s ha]
    rfl
  · rw [timestampTo, handedOn_other s ha]
    rfl
  · cases hcs with
    | @receive src msg load fresh hp =>
      have hd := dispatch_spec s.nextClientId src msg load fresh
      generalize dispatch s.nextClientId src msg load fresh = d at hd
      cases hd <;>
        simp [hp, timestampFrom, receivedOn, timestampTo, handedOn, Phase.timestamp, Message.timestamp, newSession]
    | readEnd hp =>
      unfold Conn.afterLoop
      split <;> simp [hp, timestampFrom, receivedOn, timestampTo, handedOn, Phase.timestamp]
    | @lookup src request config providedId fresh found hp =>
      obtain ⟨call, hcall, -⟩ := lookupSession_spec s.sessions s.nextClientId src request config providedId fresh
      simp [hp, hcall, timestampFrom, receivedOn, timestampTo, handedOn, Phase.timestamp]
    | refused hp | replied hp | replyFailed hp | keptAlive hp | sentTo hp =>
      rw [timestampTo, handedOn_sent hc, Conn.outgoing, hp]
      rfl
    | forwarded hp =>
      rw [timestampTo, handedOn_sent hc, Conn.outgoing, hp]
      cases conn.peer <;> rfl
    | forwardFailed hp =>
      rw [timestampTo, handedOn_sent hc, Conn.outgoing, hp]
      unfold Conn.afterLoop
      cases conn.peer <;> rfl
    | _ => simp [*, timestampFrom, receivedOn, timestampTo, handedOn, Phase.timestamp]

/-! ## Down -/

/-- The task is in its loop, or has not started. -/
def Phase.inLoop : Phase → Bool
  | .waiting (.final _) | .holding (.final _) | .done => false
  | _ => true

def Server.serves (s : Server) (c : Nat) : Bool := (s.phaseOf c).all Phase.inLoop

/-- The packets on the way through task `c`, oldest first. -/
def carriedOn (c : Nat) (s : Server) : List Bytes := (s.conns[c]?.map Conn.carried).getD []

theorem carriedOn_eq {s : Server} {c : Nat} {conn : Conn} (hc : s.conns[c]? = some conn) : carriedOn c s = conn.carried := by
  rw [carriedOn, hc]
  rfl

theorem carriedOn_congr {s s' : Server} {c : Nat} (h : s'.conns[c]? = s.conns[c]?) : carriedOn c s' = carriedOn c s := by
  rw [carriedOn, h, carriedOn]

theorem afterLoop_inLoop (conn : Conn) : conn.afterLoop.inLoop = false := by
  unfold Conn.afterLoop
  split <;> rfl

theorem serves_eq {s : Server} {c : Nat} {conn : Conn} (hc : s.conns[c]? = some conn) :
    s.serves c = conn.phase.inLoop := by
  rw [Server.serves, phaseOf_eq hc]
  rfl

/-- A task that has left its loop does not come back. -/
theorem ConnStep.inLoop {s t : Server} {c : Nat} {conn conn' : Conn} {act : ConnAct} (h : ConnStep s c conn act conn' t)
    (hup : conn'.phase.inLoop = true) : conn.phase.inLoop = true := by
  cases h with
  | @lock k hp =>
    rw [hp]
    cases k with
    | final addr => cases hup
    | _ => rfl
  | final hp => cases hup
  | receive hp | readEnd hp | forward hp | forwardTo hp | forwardNone hp | tunClosed hp | lookup hp | insert hp
  | disconnect hp | toClient hp | toNobody hp | refused hp | replied hp | replyFailed hp | keptAlive hp
  | forwarded hp | forwardFailed hp | sentTo hp | enqueued hp | dropped hp => rw [hp]; rfl

theorem serves_back {s s' : Server} {a : Action} (hs : step s a = some s') {c : Nat} (hup : s'.serves c = true) :
    s.serves c = true := by
  by_cases ha : ∃ act, a = .conn c act
  · obtain ⟨act, rfl⟩ := ha
    obtain ⟨conn, conn', t, hc, hcs, rfl⟩ := step_connStep hs
    rw [serves_eq (hcs.conn_after hc)] at hup
    rw [serves_eq hc]
    exact hcs.inLoop hup
  · rcases phaseOf_other hs (fun act he => ha ⟨act, he⟩) with he | ⟨hnone, -⟩
    · rwa [Server.serves, ← he]
    · rw [Server.serves, hnone]
      rfl

/-- A packet is put on a channel exactly if the receiver is there. -/
theorem sendToClient_enqueued {s t : Server} {data : Bytes} {client : Client} (hp : s.tunPacket = .sending data client)
    (h : sendToClient s data client.tx = some t) :
    (t = s ∧ enqueued s (.tunPacket .send) = none) ∨
    ∃ c conn, enqueued s (.tunPacket .send) = some (c, data) ∧ s.conns[c]? = some conn ∧
      t = s.setConn c { conn with queue := conn.queue ++ [data] } := by
  unfold sendToClient at h
  split at h
  · rename_i htx
    cases h
    exact Or.inl ⟨rfl, by simp [enqueued, hp, htx]⟩
  · rename_i c htx
    split at h
    · rename_i hc
      cases h
      exact Or.inl ⟨rfl, by simp [enqueued, hp, htx, hc]⟩
    · rename_i conn hc
      split at h
      · rename_i hdone
        cases h
        exact Or.inl ⟨rfl, by simp [enqueued, hp, htx, hc, hdone]⟩
      · rename_i halive
        split at h
        · cases h
          exact Or.inr ⟨c, conn, by simp [enqueued, hp, htx, hc, halive], hc, rfl⟩
        · cases h

/-- What the steps of other tasks do to what a task carries: the packet that is put on its channel comes last. -/
theorem carriedOn_other {s s' : Server} {a : Action} (hs : step s a = some s') {c : Nat} (ha : ∀ act, a ≠ .conn c act) :
    carriedOn c s' = carriedOn c s ++ (enqueuedOn c s a).toList := by
  cases a with
  | clock now => cases hs; exact (List.append_nil _).symm
  | accept peer =>
    obtain ⟨-, rfl⟩ := step_accept hs
    show (((s.conns ++ [⟨some peer, .select, []⟩])[c]?).map Conn.carried).getD [] = carriedOn c s ++ []
    rw [List.append_nil, carriedOn]
    rcases Nat.lt_trichotomy c s.conns.length with hlt | heq | hgt
    · rw [List.getElem?_append_left hlt]
    · subst heq
      simp [Conn.carried]
    · rw [List.getElem?_eq_none (by rw [List.length_append]; exact hgt), List.getElem?_eq_none (Nat.le_of_lt hgt)]
  | conn i act =>
    obtain ⟨conn, conn', t, hc, hcs, rfl⟩ := step_connStep hs
    have hi : c ≠ i := fun he => ha act (he ▸ rfl)
    refine (carriedOn_congr ?_).trans (List.append_nil _).symm
    rw [getElem?_setConn (hcs.frame.conns ▸ hc), if_neg hi, hcs.frame.conns]
  | tunPacket act =>
    cases tunPacketStep_spec hs with
    | @send data client t hp hsend =>
      rcases sendToClient_enqueued hp hsend with ⟨rfl, hnone⟩ | ⟨i, conn, hsome, hc, rfl⟩
      · rw [enqueuedOn, hnone]
        exact (List.append_nil _).symm
      · rw [enqueuedOn, hsome]
        show carriedOn c (s.setConn i { conn with queue := conn.queue ++ [data] }) = _
        have hget := getElem?_setConn hc { conn with queue := conn.queue ++ [data] } c
        by_cases hic : c = i
        · subst hic
          rw [if_pos rfl] at hget
          rw [carriedOn_eq hget, carried_append, carriedOn_eq hc]
          simp [onConn]
        · rw [if_neg hic] at hget
          have hne : i ≠ c := fun he => hic he.symm
          rw [carriedOn_congr hget]
          simp [onConn, hne]
    | _ => exact (List.append_nil _).symm
  | tunIo act =>
    refine (carriedOn_congr ?_).trans (List.append_nil _).symm
    rw [(tunIoStep_frame hs).2.2.2.1]
  | cleanup act =>
    refine (carriedOn_congr ?_).trans (List.append_nil _).symm
    rw [(cleanupStep_frame hs).2.2.2.1]

/-- What a step of the task itself does: the packet that it hands over came first. -/
theorem ConnStep.carriedOn {s t : Server} {c : Nat} {conn conn' : Conn} {act : ConnAct} (h : ConnStep s c conn act conn' t)
    (hc : s.conns[c]? = some conn) (hrel : conn.phase.relays = false) (hpeer : conn.peer ≠ none)
    (hup : conn'.phase.inLoop = true) :
    conn.carried = (payloadTo c s (.conn c act)).toList ++ conn'.carried := by
  cases h with
  | @receive src msg load fresh hp =>
    have hidle : ∀ payload, Conn.phase { conn with phase := (dispatch s.nextClientId src msg load fresh).1 } ≠
        .forwarding payload := (dispatch_idle s.nextClientId src msg load fresh).2
    rw [carried_of_phase hidle, carried_of_phase (fun _ he => by rw [hp] at he; cases he)]
    rfl
  | readEnd | forwardFailed => rw [afterLoop_inLoop] at hup; cases hup
  | forward hp ht hq => rw [carried_of_phase (fun _ he => by rw [hp] at he; cases he), hq]; rfl
  | @lookup src request config providedId fresh found hp =>
    obtain ⟨call, hcall, -⟩ := lookupSession_spec s.sessions s.nextClientId src request config providedId fresh
    rw [carried_of_phase (fun _ he => by rw [hp] at he; cases he), hcall]
    rfl
  | forwarded hp =>
    obtain ⟨peer, hpeer⟩ := Option.ne_none_iff_exists'.1 hpeer
    rw [payloadTo, handedOn_sent hc, Conn.outgoing, hp, hpeer, Conn.carried, hp]
    rfl
  | refused hp | replied hp | replyFailed hp | keptAlive hp =>
    rw [payloadTo, handedOn_sent hc, Conn.outgoing, hp, carried_of_phase (fun _ he => by rw [hp] at he; cases he)]
    rfl
  | sentTo hp => rw [hp] at hrel; cases hrel
  | toClient hp | toNobody hp => rw [hp] at hrel; cases hrel
  | tunClosed | final => cases hup
  | forwardTo hp | forwardNone hp | lock hp | insert hp | disconnect hp | enqueued hp | dropped hp =>
    rw [carried_of_phase (fun _ he => by rw [hp] at he; cases he)]
    rfl

theorem peer_ne_none {h : List (Server × Action)} {s : Server} (hr : ServerRun .stream h s) {c : Nat} {conn : Conn}
    (hc : s.conns[c]? = some conn) : conn.peer ≠ none :=
  phase_invariant (P := fun _ _ peer _ => peer ≠ none)
    (fun _ _ _ hpeer he => Transport.noConfusion (hpeer.1 he)) (fun _ _ ih => ih)
    (fun _ _ hcs ih => by rw [hcs.frame.peer]; exact ih) hr hc

theorem step_carriedOn {h : List (Server × Action)} {s s' : Server} {a : Action} (hr : ServerRun .stream h s)
    (hs : step s a = some s') {c : Nat} (hup : s'.serves c = true) : carriedOn c s ++ (enqueuedOn c s a).toList =
      (payloadTo c s a).toList ++ carriedOn c s' := by
  by_cases ha : ∃ act, a = .conn c act
  · obtain ⟨act, rfl⟩ := ha
    obtain ⟨conn, conn', t, hc, hcs, rfl⟩ := step_connStep hs
    rw [serves_eq (hcs.conn_after hc)] at hup
    rw [carriedOn_eq hc, carriedOn_eq (hcs.conn_after hc)]
    exact (List.append_nil _).trans (hcs.carriedOn hc (not_relays hr hc) (peer_ne_none hr hc) hup)
  · have ha : ∀ act, a ≠ .conn c act := fun act he => ha ⟨act, he⟩
    rw [payloadTo, handedOn_other s ha, carriedOn_other hs ha]
    rfl

/-- What is handed over is the first of the packets that a task carries. -/
theorem handedOn_carried {h : List (Server × Action)} {s : Server} {a : Action} (hr : ServerRun .stream h s) (c : Nat) :
    (payloadTo c s a).toList <+: carriedOn c s := by
  rw [payloadTo]
  cases hh : handedOn c s a with
  | none => exact List.nil_prefix
  | some msg =>
    unfold handedOn at hh
    split at hh
    · split at hh
      · obtain ⟨out, hout, rfl⟩ := Option.map_eq_some_iff.1 hh
        obtain ⟨conn, hc, hout⟩ := Option.bind_eq_some_iff.1 hout
        rw [carriedOn_eq hc]
        have hrel := not_relays hr hc
        unfold Conn.outgoing at hout
        split at hout
        · cases hout; exact List.nil_prefix
        · cases hout; exact List.nil_prefix
        · cases hout; exact List.nil_prefix
        · rename_i payload hp
          obtain ⟨peer, -, rfl⟩ := Option.map_eq_some_iff.1 hout
          rw [Conn.carried, hp]
          exact List.prefix_append [payload] conn.queue
        · rename_i hp
          rw [hp] at hrel
          cases hrel
        · cases hout
      · cases hh
    · cases hh

/-- A task that has left its loop has nothing to send. -/
theorem outgoing_inLoop {conn : Conn} {out : SocketAddr × Message} (h : conn.outgoing = some out) :
    conn.phase.inLoop = true := by
  unfold Conn.outgoing at h
  split at h
  · rename_i hp; rw [hp]; rfl
  · rename_i hp; rw [hp]; rfl
  · rename_i hp; rw [hp]; rfl
  · rename_i hp; rw [hp]; rfl
  · rename_i hp; rw [hp]; rfl
  · cases h

theorem handedOn_down {s : Server} {a : Action} {c : Nat} (hup : ¬ s.serves c = true) : handedOn c s a = none := by
  cases hh : handedOn c s a with
  | none => rfl
  | some msg =>
    unfold handedOn at hh
    split at hh
    · split at hh
      · obtain ⟨out, hout, -⟩ := Option.map_eq_some_iff.1 hh
        obtain ⟨conn, hc, hout⟩ := Option.bind_eq_some_iff.1 hout
        rw [serves_eq hc] at hup
        exact absurd (outgoing_inLoop hout) hup
      · cases hh
    · cases hh

/-- **What is on a client's channel its task hands to the transport, whole and in order**, until it leaves its loop. -/
theorem connDown_stage (c : Nat) : Fifo.Stage step (Server.init .stream) (fun s => s.serves c = true) (enqueuedOn c)
    (payloadTo c) (carriedOn c) where
  start := rfl
  back hs hup := serves_back hs hup
  keep hr hs hup := step_carriedOn hr hs hup
  stop hr hs _ _ := (handedOn_carried hr c).trans (List.prefix_append _ _)
  down _ hup := by rw [payloadTo, handedOn_down hup]; rfl

/-! ## Which packets are dropped -/

section Runs

variable {h : List (Server × Action)} {s : Server}

/-- **The server relays to its TUN device in order.**  What a connection has put on the transport channel is the beginning
of what its client has sent, and all of it but a packet in the handler as long as `tun_io_task` is there; and what all
connections have put there, in that order, is what was taken for the TUN device and what is on the channel. -/
theorem uplink_exact {transport : Transport} (hr : ServerRun transport h s) :
    (∀ c, items (uplinkedOn c) h <+: items (payloadFrom c) h ∧
      (s.tunIo ≠ .done → items (payloadFrom c) h = items (uplinkedOn c) h ++ ((s.phaseOf c).bind Phase.payload).toList)) ∧
    (items uplinked h).map Prod.snd = items takenForTun h ++ s.transportQueue := by
  refine ⟨fun c => ⟨(connUp_stage transport c).isPrefix hr, (connUp_stage transport c).eq hr⟩, ?_⟩
  rw [← Fifo.items_map]
  exact (transport_stage transport).eq hr trivial

/-- The first client sends a packet, which comes to the TUN device. -/
def uplinkRun : List Action := handshakeRun "admin" ++
  [.conn 0 (.receive alice (.data ⟨[69]⟩) none ""), .conn 0 .enqueue, .tunIo .recv]

theorem uplink_exact_one :
    items (uplinkedOn 0) (played .stream uplinkRun) = [[69]] ∧ items takenForTun (played .stream uplinkRun) = [[69]] ∧
    items (uplinkedOn 0) (played .stream uplinkRun) <+: items (payloadFrom 0) (played .stream uplinkRun) ∧
    ∃ s, ServerRun .stream (played .stream uplinkRun) s ∧ (items uplinked (played .stream uplinkRun)).map Prod.snd =
      items takenForTun (played .stream uplinkRun) ++ s.transportQueue := by
  have hr : ServerRun .stream (played .stream uplinkRun) _ := played_run (by decide)
  exact ⟨by decide, by decide, ((uplink_exact hr).1 0).1, _, hr, (uplink_exact hr).2⟩

end Runs

end Easynet
