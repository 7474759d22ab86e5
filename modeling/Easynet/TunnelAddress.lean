import Easynet.TunnelFlow
/-!
# TunnelAddress — a client gets only packets for the address it was given

A client sends one handshake, the server hands over at most one reply for each handshake it has received, and the link
neither doubles nor makes up messages.  So the reply that the client took is the only one there is, and the address in it
is the only one that its connection was told.  What comes to a connection's channel is for an address that the connection
was told, so what comes through the tunnel to the client's TUN device is for the address of this device (`tunnel_isolated`).
-/
namespace Easynet

open Machine (Run)
open Fifo (items)

/-- The message is a handshake. -/
def Message.greets (msg : Message) : Option Unit := msg.handshake?.map (fun _ => ())

@[simp] theorem Message.handshake?_handshake (handshake : Handshake) :
    (Message.handshake handshake).handshake? = some handshake := rfl
@[simp] theorem Message.greets_handshake (handshake : Handshake) : (Message.handshake handshake).greets = some () := rfl
@[simp] theorem Message.greets_data (data : Data) : (Message.data data).greets = none := rfl
@[simp] theorem Message.greets_keepalive (keepalive : KeepAlive) : (Message.keepalive keepalive).greets = none := rfl

/-- The handshake that a task has not handed over a reply for. -/
def Phase.unanswered : Phase → Option Handshake
  | .waiting (.lookup _ request _ _) | .holding (.lookup _ request _ _) => some request
  | .refusing _ request => some request
  | .replying call      => some call.request
  | _                   => none

def Phase.greets (phase : Phase) : Option Unit := phase.unanswered.map (fun _ => ())

/-- **A task hands over at most one reply for each handshake that it has received.** -/
theorem reply_lossy (transport : Transport) (c : Nat) :
    Fifo.Lossy step (Server.init transport) (fun s a => (receivedOn c s a).bind Message.greets)
      (fun s a => (handedOn c s a).bind Message.greets) (fun s => ((s.phaseOf c).bind Phase.greets).toList) := by
  refine phase_lossy rfl (fun s a ha => ⟨?_, ?_⟩) (fun {h s conn act conn' t} hr hc hcs => ?_)
  · rw [receivedOn_other s ha]
    rfl
  · rw [handedOn_other s ha]
    rfl
  · cases hcs with
    | @receive src msg load fresh hp =>
      have hd := dispatch_spec s.nextClientId src msg load fresh
      generalize dispatch s.nextClientId src msg load fresh = d at hd
      cases hd <;>
        simp [hp, receivedOn, handedOn, Phase.greets, Phase.unanswered, Message.greets, Message.handshake?, newSession]
    | readEnd hp =>
      unfold Conn.afterLoop
      split <;> simp [hp, receivedOn, handedOn, Phase.greets, Phase.unanswered]
    | @lock k hp => cases k <;> simp [hp, receivedOn, handedOn, Phase.greets, Phase.unanswered]
    | @lookup src request config providedId fresh found hp =>
      obtain ⟨call, hcall, -⟩ := lookupSession_spec s.sessions s.nextClientId src request config providedId fresh
      simp [hp, hcall, receivedOn, handedOn, Phase.greets, Phase.unanswered]
    | refused hp | replied hp | replyFailed hp | keptAlive hp | sentTo hp =>
      rw [handedOn_sent hc, Conn.outgoing, hp]
      exact List.Sublist.refl _
    | forwarded hp =>
      rw [handedOn_sent hc, Conn.outgoing, hp]
      cases conn.peer <;> exact List.Sublist.refl _
    | forwardFailed hp =>
      rw [handedOn_sent hc, Conn.outgoing, hp]
      unfold Conn.afterLoop
      cases conn.peer <;> exact List.Sublist.refl _
    | _ => simp [*, receivedOn, handedOn, Phase.greets, Phase.unanswered]

/-- The client's task sends packets and keepalives, never a handshake. -/
theorem Pipeline.outgoing_greets {capacity : Nat} {h : List (Pipeline × PipelineAct)} {s : Pipeline}
    (hr : Run (Pipeline.step capacity) .init h s) {msg : Message} (hsending : s.transportIo = .sending msg) :
    msg.greets = none := by
  refine hr.invariant (fun s => ∀ msg, s.transportIo = .sending msg → msg.greets = none) (fun _ he => by cases he)
    (fun s a s' ih hs msg he => ?_) msg hsending
  cases Pipeline.step_moves hs with
  | sending | tick => cases he; rfl
  | data | disconnect | ignored | delivered | undelivered | transportFailed => cases he
  | @sent _ ok => cases ok <;> cases he
  | _ => exact ih msg he

namespace Tunnel

variable {L : Link} {overflowChecks : Bool} {c : Nat} {t t' : Tunnel L} {a : TunnelAct L}
  {h : List (Tunnel L × TunnelAct L)}

/-! ## One handshake -/

/-- The client has not sent its handshake. -/
def Endpoint.fresh : Endpoint → Bool
  | .offline | .asking _ => true
  | _                    => false

theorem Moves.greets (hr : Run (step overflowChecks c) (init L) h t) (hm : Moves overflowChecks c t a t') :
    ((pushedUp t a).bind Message.greets = none ∧ (Endpoint.fresh t'.client = true → Endpoint.fresh t.client = true)) ∨
      Endpoint.fresh t.client = true ∧ Endpoint.fresh t'.client = false := by
  cases hm with
  | connect hp => exact Or.inl ⟨rfl, fun _ => by rw [hp]; rfl⟩
  | @ask config env result up hp hsend =>
    refine Or.inr ⟨by rw [hp]; rfl, ?_⟩
    show Endpoint.fresh (if result.ok then _ else _) = false
    split <;> rfl
  | @greet config env file disk created polled down hp hpoll =>
    refine Or.inl ⟨rfl, fun hf => ?_⟩
    replace hf : Endpoint.fresh (polled.greeted config file disk created) = true := hf
    unfold Polled.greeted at hf
    split at hf
    · cases hf
    · split at hf
      · split at hf <;> cases hf
      · cases hf
    · cases hf
  | timeout | task | taskPolled => exact Or.inl ⟨rfl, fun hf => by cases hf⟩
  | @taskSent tunConfig client client' msg env result up hp hsending hsend hs =>
    refine Or.inl ⟨?_, fun hf => by cases hf⟩
    have hclient : t.pipeline.transportIo = .sending msg := by rw [pipeline, hp]; exact hsending
    simp only [pushedUp, hp, Endpoint.clocked, hsending, TransportIo.outgoing, Option.bind_some]
    rcases L.accepted_cases t.up msg env with he | he
    · rw [he]; rfl
    · rw [he]; exact Pipeline.outgoing_greets (pipelineRun hr) hclient
  | _ => exact Or.inl ⟨rfl, fun hf => hf⟩

/-- **A client puts at most one handshake on the link.** -/
theorem pushedUp_greets (hr : Run (step overflowChecks c) (init L) h t) :
    (items (fun t a => (pushedUp t a).bind Message.greets) h).length ≤ 1 := by
  refine (hr.history_invariant (fun h t => (items (fun t a => (pushedUp t a).bind Message.greets) h).length ≤ 1 ∧
    (Endpoint.fresh t.client = true → items (fun t a => (pushedUp t a).bind Message.greets) h = [])) ?_ ?_).1
  · exact ⟨Nat.zero_le 1, fun _ => rfl⟩
  · rintro h t a t' hr ⟨hle, hnil⟩ hs
    rw [Fifo.items_snoc]
    rcases (step_moves hs).greets hr with ⟨hnone, hback⟩ | ⟨hfresh, hnot⟩
    · rw [hnone, Option.toList_none, List.append_nil]
      exact ⟨hle, fun hf => hnil (hback hf)⟩
    · rw [hnil hfresh, List.nil_append]
      exact ⟨Option.length_toList_le, fun hf => by cases hnot.symm.trans hf⟩

/-- **The server puts at most one reply on the link.** -/
theorem pushedDown_greets (hr : Run (step overflowChecks c) (init L) h t) :
    (items (fun t a => (pushedDown c t a).bind Message.greets) h).length ≤ 1 := by
  have hpushed : (items (fun t a => (pushedDown c t a).bind Message.greets) h).Sublist
      (items (fun t a => ((serverAct c t a).bind (handedOn c t.server)).bind Message.greets) h) :=
    Fifo.items_sublist (fun t a t' hs => (step_moves hs).pushedDown_cases Message.greets) hr
  have hreplied := (List.sublist_append_left _ _).trans ((reply_lossy .stream c).sublist (serverRun hr))
  rw [items_handedOn, items_receivedOn] at hreplied
  have hreceived := ((linkUp_stage L overflowChecks c).isPrefix hr).filterMap Message.greets
  rw [← Fifo.items_bind pushedUp] at hreceived
  calc (items (fun t a => (pushedDown c t a).bind Message.greets) h).length
      ≤ ((items (receivedUp c) h).filterMap Message.greets).length := (hpushed.trans hreplied).length_le
    _ ≤ (items (fun t a => (pushedUp t a).bind Message.greets) h).length := hreceived.length_le
    _ ≤ 1 := pushedUp_greets hr

/-! ## One address -/

theorem Moves.connected (hm : Moves overflowChecks c t a t') {tunConfig : TunConfig} {client : ClockedClient}
    (hc : t'.client = .connected tunConfig client) :
    (∃ client, t.client = .connected tunConfig client) ∨
      ∃ reply, (receivedDown t a).bind Message.handshake? = some reply ∧ reply.tunConfig = some tunConfig := by
  cases hm with
  | @ask config env result up hp hsend =>
    replace hc : (if result.ok then Endpoint.waiting config else .failed) = .connected tunConfig client := hc
    split at hc <;> cases hc
  | @greet config env file disk created polled down hp hpoll =>
    replace hc : polled.greeted config file disk created = .connected tunConfig client := hc
    simp only [receivedDown, hpoll]
    unfold Polled.greeted at hc
    split at hc
    · cases hc
    · split at hc
      · rename_i hok
        split at hc
        · cases hc
          obtain ⟨reply, he, -, htun⟩ := handshakeAsync_ok hok
          cases he
          exact Or.inr ⟨reply, rfl, htun⟩
        · cases hc
      · cases hc
    · cases hc
  | task hp | taskIdle hp | taskPolled hp | taskSent hp => first | exact Or.inl ⟨_, hc⟩ | (cases hc; exact Or.inl ⟨_, hp⟩)
  | connect | timeout => cases hc
  | _ => exact Or.inl ⟨_, hc⟩

/-- A connected client has taken its configuration from a reply that was on the link. -/
theorem connected_reply (hr : Run (step overflowChecks c) (init L) h t) {tunConfig : TunConfig} {client : ClockedClient}
    (hc : t.client = .connected tunConfig client) :
    ∃ reply ∈ items (fun t a => (pushedDown c t a).bind Message.handshake?) h, reply.tunConfig = some tunConfig := by
  have hreceived : ∃ reply ∈ items (fun t a => (receivedDown t a).bind Message.handshake?) h,
      reply.tunConfig = some tunConfig := by
    refine hr.history_invariant (fun h t => ∀ tunConfig client, t.client = .connected tunConfig client →
      ∃ reply ∈ items (fun t a => (receivedDown t a).bind Message.handshake?) h, reply.tunConfig = some tunConfig)
      (fun _ _ hc => by cases hc) (fun h t a t' hr ih hs tunConfig client hc => ?_) tunConfig client hc
    rw [Fifo.items_snoc]
    rcases (step_moves hs).connected hc with ⟨client, hold⟩ | ⟨reply, hreply, htun⟩
    · obtain ⟨reply, hm, htun⟩ := ih tunConfig client hold
      exact ⟨reply, List.mem_append_left _ hm, htun⟩
    · rw [hreply]
      exact ⟨reply, List.mem_append_right _ (List.mem_singleton_self _), htun⟩
  obtain ⟨reply, hm, htun⟩ := hreceived
  rw [Fifo.items_bind] at hm ⊢
  exact ⟨reply, (((linkDown_stage L overflowChecks c).isPrefix hr).filterMap Message.handshake?).subset hm, htun⟩

/-- What the connection was told went on the link. -/
theorem announced_pushed (hr : Run (step overflowChecks c) (init L) h t) {call : Call}
    (hm : call ∈ announcements c (serverHistory c h)) :
    call.reply ∈ items (fun t a => (pushedDown c t a).bind Message.handshake?) h := by
  have hitems : announcements c (serverHistory c h) =
      items (fun t a => (serverAct c t a).bind (announcement c t.server)) h :=
    items_server (announcement c) h
  rw [hitems] at hm
  obtain ⟨p, hp, ha⟩ := List.mem_filterMap.1 hm
  refine List.mem_filterMap.2 ⟨p, hp, ?_⟩
  obtain ⟨_, _, t', -, -, hs, -⟩ := hr.of_mem hp
  obtain ⟨act, hact, ha⟩ := Option.bind_eq_some_iff.1 ha
  obtain ⟨rfl, conn, hc, hphase⟩ := announcement_spec ha
  show (pushedDown c p.1 p.2).bind Message.handshake? = some call.reply
  rw [(step_moves hs).pushedDown_ok hact, hc, Option.bind_some, Conn.outgoing, hphase]
  rfl

/-- The reply that the client took is the only one there is. -/
theorem announced_eq (hr : Run (step overflowChecks c) (init L) h t) {tunConfig : TunConfig} {client : ClockedClient}
    (hc : t.client = .connected tunConfig client) {call : Call} (hm : call ∈ announcements c (serverHistory c h)) :
    call.tunConfig = tunConfig := by
  obtain ⟨reply, hreply, htun⟩ := connected_reply hr hc
  have hcall := announced_pushed hr hm
  have hone := pushedDown_greets hr
  have hgreets : items (fun t a => (pushedDown c t a).bind Message.greets) h =
      (items (fun t a => (pushedDown c t a).bind Message.handshake?) h).map (fun _ => ()) := by
    rw [← Fifo.items_map]
    exact congrArg (items · h) (funext (fun t => funext (fun a => Option.map_bind.symm)))
  rw [hgreets, List.length_map] at hone
  obtain ⟨only, honly⟩ := List.length_eq_one_iff.1 (Nat.le_antisymm hone (List.length_pos_of_mem hcall))
  rw [honly, List.mem_singleton] at hcall hreply
  rw [hreply, ← hcall] at htun
  exact Option.some.inj htun

/-- **Every packet that comes to a client's TUN device through the tunnel is an IPv4 packet for the address that the device
was given.**  Other clients, whatever they send to the server, cannot make it deliver anything else there. -/
theorem tunnel_isolated (hr : Run (step overflowChecks c) (init L) h t) {tunConfig : TunConfig} {client : ClockedClient}
    (hc : t.client = .connected tunConfig client) {packet : Bytes}
    (hm : packet ∈ items Pipeline.takenForTun (pipelineHistory overflowChecks h)) :
    ∃ destIp, IsFor packet destIp ∧ tunConfig.address = destIp.toText := by
  obtain ⟨p, hp, henq⟩ := List.mem_filterMap.1 ((takenForTun_isPrefix hr).subset hm)
  obtain ⟨h₁, h₂, -, he, hr₁, -, -⟩ := (serverRun hr).of_mem hp
  obtain ⟨q, hq, hon⟩ := Option.bind_eq_some_iff.1 henq
  obtain ⟨i, data⟩ := q
  unfold onConn at hon
  split at hon
  · rename_i hi
    cases hi
    cases hon
    obtain ⟨destIp, hfor, call, hcall, -, haddress⟩ := enqueued_announced hr₁ hq
    refine ⟨destIp, hfor, ?_⟩
    rw [← announced_eq hr hc (he ▸ announcements_append i h₁ (p :: h₂) ▸ List.mem_append_left _ hcall)]
    exact haddress
  · cases hon

end Tunnel

end Easynet
