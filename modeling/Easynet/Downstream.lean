import Easynet.Agreement
import Easynet.Waits
/-!
# Downstream — packets of the TUN device on their way to the clients

On a stream server a packet goes from the TUN device through the tun channel to `handle_tun_packet`, which puts it on the
channel of the client it finds for the destination, and from there to the task that owns the channel.  A sender gets into
the table only by an insert, an insert follows a reply that was sent, and the reply told the client the address under
which the entry is found.  So a task sends no packet before it has answered a handshake, and none for an address it has
not told its client.
-/
namespace Easynet

open Machine (Run Throughout filterMap_snoc filterMap_snoc_none filterMap_snoc_some)

/-- The handshake that task `c` has answered with a TUN configuration in this step. -/
def announcement (c : Nat) (s : Server) : Action → Option Call
  | .conn i (.sent true) =>
    match s.phaseOf c with
    | some (.replying call) => if i = c then some call else none
    | _                     => none
  | _ => none

/-- The handshakes that task `c` has answered with a TUN configuration, oldest first. -/
def announcements (c : Nat) (h : List (Server × Action)) : List Call := h.filterMap (fun p => announcement c p.1 p.2)

/-- A reply that was sent on connection `c` has told the client this address. -/
def Announced (c : Nat) (h : List (Server × Action)) (virtualIp : Ipv4Addr) : Prop :=
  ∃ call ∈ announcements c h, call.virtualIp = virtualIp ∧ call.tunConfig.address = virtualIp.toText

/-- An IPv4 packet with this destination. -/
def IsFor (data : Bytes) (destIp : Ipv4Addr) : Prop :=
  20 ≤ data.length ∧ data.getD 0 0 >>> 4 = 4 ∧ (data.drop 16).take 4 = [destIp.a, destIp.b, destIp.c, destIp.d]

/-- The packet that this step puts on a client's channel, and the connection whose channel it is. -/
def enqueued (s : Server) : Action → Option (Nat × Bytes)
  | .tunPacket .send =>
    match s.tunPacket with
    | .sending data client =>
      match client.tx with
      | .conn c => if s.conns[c]?.any (fun conn => decide (conn.phase ≠ .done)) then some (c, data) else none
      | .dummy  => none
    | _ => none
  | _ => none

/-- The packets that were put on clients' channels, oldest first. -/
def enqueues (h : List (Server × Action)) : List (Nat × Bytes) := h.filterMap (fun p => enqueued p.1 p.2)

def tunRead : Action → Option Bytes
  | .tunIo (.read data _) => some data
  | _                     => none

/-- The packets that were read from the TUN device, oldest first. -/
def tunReads (h : List (Server × Action)) : List Bytes := h.filterMap (fun p => tunRead p.2)

/-! ## What was announced -/

theorem announcements_append (c : Nat) (h h' : List (Server × Action)) :
    announcements c (h ++ h') = announcements c h ++ announcements c h' := List.filterMap_append

theorem mem_announcements_snoc {c : Nat} {h : List (Server × Action)} {call : Call} (hm : call ∈ announcements c h)
    (p : Server × Action) : call ∈ announcements c (h ++ [p]) := by
  rw [announcements_append]
  exact List.mem_append_left _ hm

theorem Announced.snoc {c : Nat} {h : List (Server × Action)} {virtualIp : Ipv4Addr} (ha : Announced c h virtualIp)
    (p : Server × Action) : Announced c (h ++ [p]) virtualIp := by
  obtain ⟨call, hm, hip⟩ := ha
  exact ⟨call, mem_announcements_snoc hm p, hip⟩

theorem announcement_eq {s : Server} {c : Nat} {conn : Conn} {call : Call} (hc : s.conns[c]? = some conn)
    (hp : conn.phase = .replying call) : announcement c s (.conn c (.sent true)) = some call := by
  simp only [announcement, phaseOf_eq hc, hp, if_true]

theorem announcement_spec {c : Nat} {s : Server} {a : Action} {call : Call} (h : announcement c s a = some call) :
    a = .conn c (.sent true) ∧ ∃ conn, s.conns[c]? = some conn ∧ conn.phase = .replying call := by
  unfold announcement at h
  split at h
  · split at h
    · rename_i i call' hp
      split at h
      · rename_i hi
        cases h
        obtain ⟨conn, hc, hphase⟩ := Option.map_eq_some_iff.1 hp
        exact ⟨by rw [hi], conn, hc, hphase⟩
      · cases h
    · cases h
  · cases h

/-- What was announced is in a reply that was sent. -/
theorem announcement_reply {c : Nat} {h : List (Server × Action)} {call : Call} (hm : call ∈ announcements c h) :
    call.reply ∈ repliesSent c h ∧ ∃ p ∈ h, p.2 = .conn c (.sent true) := by
  obtain ⟨p, hp, ha⟩ := List.mem_filterMap.1 hm
  obtain ⟨hact, conn, hc, hphase⟩ := announcement_spec ha
  refine ⟨List.mem_filterMap.2 ⟨p, hp, ?_⟩, p, hp, hact⟩
  rw [hact, replySent_eq hc, Conn.outgoing, hphase]
  rfl

/-! ## Steps -/

/-- The packets that a connection task is to send on: the one it is sending and those on its channel. -/
def Conn.carried (conn : Conn) : List Bytes :=
  match conn.phase with
  | .forwarding payload => payload :: conn.queue
  | _                   => conn.queue

def Section.relays : Section → Bool
  | .toClient _ _ => true
  | _             => false

/-- The task is delivering a packet by the table, as only the UDP loop does. -/
def Phase.relays : Phase → Bool
  | .waiting k | .holding k => k.relays
  | .sendingTo _ _          => true
  | _                       => false

theorem carried_of_phase {conn : Conn} (hp : ∀ payload, conn.phase ≠ .forwarding payload) : conn.carried = conn.queue := by
  unfold Conn.carried
  split
  · rename_i payload he
    exact absurd he (hp payload)
  · rfl

theorem mem_carried_of_mem_queue {conn : Conn} {data : Bytes} (hm : data ∈ conn.queue) : data ∈ conn.carried := by
  unfold Conn.carried
  split
  · exact List.mem_cons_of_mem _ hm
  · exact hm

theorem carried_append (conn : Conn) (data : Bytes) :
    Conn.carried { conn with queue := conn.queue ++ [data] } = conn.carried ++ [data] := by
  obtain ⟨peer, phase, queue⟩ := conn
  cases phase <;> rfl

theorem dispatch_idle (nextClientId : UInt32) (src : SocketAddr) (msg : Message) (load : Option ServerConfig)
    (fresh : String) : (dispatch nextClientId src msg load fresh).1.relays = false ∧
      ∀ payload, (dispatch nextClientId src msg load fresh).1 ≠ .forwarding payload := by
  have hd := dispatch_spec nextClientId src msg load fresh
  generalize dispatch nextClientId src msg load fresh = d at hd
  cases hd <;> exact ⟨rfl, fun _ he => Phase.noConfusion he⟩

theorem afterLoop_idle (conn : Conn) : conn.afterLoop.relays = false ∧ ∀ payload, conn.afterLoop ≠ .forwarding payload := by
  unfold Conn.afterLoop
  split <;> exact ⟨rfl, fun _ he => Phase.noConfusion he⟩

/-- A step of a connection task adds nothing to what the task carries. -/
theorem ConnStep.carried {s t : Server} {c : Nat} {conn conn' : Conn} {act : ConnAct} (h : ConnStep s c conn act conn' t)
    {data : Bytes} (hm : data ∈ conn'.carried) : data ∈ conn.carried := by
  cases h with
  | @receive src msg load fresh hp =>
    rw [carried_of_phase (dispatch_idle s.nextClientId src msg load fresh).2] at hm
    exact mem_carried_of_mem_queue hm
  | readEnd | forwardFailed =>
    rw [carried_of_phase (afterLoop_idle conn).2] at hm
    exact mem_carried_of_mem_queue hm
  | forward hp ht hq =>
    refine mem_carried_of_mem_queue ?_
    rw [hq]
    exact hm
  | @lookup src request config providedId fresh found hp =>
    obtain ⟨call, hcall, -⟩ := lookupSession_spec s.sessions s.nextClientId src request config providedId fresh
    rw [carried_of_phase (fun _ he => by rw [hcall] at he; cases he)] at hm
    exact mem_carried_of_mem_queue hm
  | _ => exact mem_carried_of_mem_queue hm

theorem ConnStep.relays {s t : Server} {c : Nat} {conn conn' : Conn} {act : ConnAct} (h : ConnStep s c conn act conn' t)
    (ht : s.transport = .stream) (hr : conn.phase.relays = false) : conn'.phase.relays = false := by
  cases h with
  | receive => exact (dispatch_idle ..).1
  | readEnd | forwardFailed => exact (afterLoop_idle conn).1
  | forwardTo hp hd => rw [ht] at hd; cases hd
  | lock hp => rw [hp] at hr; exact hr
  | @lookup src request config providedId fresh found hp =>
    obtain ⟨call, hcall, -⟩ := lookupSession_spec s.sessions s.nextClientId src request config providedId fresh
    rw [hcall]
    rfl
  | toClient hp => rw [hp] at hr; cases hr
  | _ => rfl

/-- **What a task carries it carried before, or the step has put it on the task's channel.** -/
theorem step_carried {s s' : Server} {a : Action} (hs : step s a = some s') {c : Nat} {conn' : Conn}
    (hc' : s'.conns[c]? = some conn') {data : Bytes} (hm : data ∈ conn'.carried) :
    (∃ conn, s.conns[c]? = some conn ∧ data ∈ conn.carried) ∨ enqueued s a = some (c, data) := by
  cases a with
  | clock now => cases hs; exact Or.inl ⟨conn', hc', hm⟩
  | accept peer =>
    obtain ⟨-, rfl⟩ := step_accept hs
    simp only [List.getElem?_append] at hc'
    split at hc'
    · exact Or.inl ⟨conn', hc', hm⟩
    · obtain ⟨_, he⟩ := List.getElem?_eq_some_iff.1 hc'
      rw [List.getElem_singleton] at he
      subst he
      cases hm
  | conn i act =>
    obtain ⟨conn, conn₁, t, hi, hcs, rfl⟩ := step_connStep hs
    rw [getElem?_setConn (hcs.frame.conns ▸ hi), hcs.frame.conns] at hc'
    by_cases hic : c = i
    · subst hic
      rw [if_pos rfl] at hc'
      cases hc'
      exact Or.inl ⟨conn, hi, hcs.carried hm⟩
    · rw [if_neg hic] at hc'
      exact Or.inl ⟨conn', hc', hm⟩
  | tunPacket act =>
    cases tunPacketStep_spec hs with
    | send hp hsend =>
      rcases sendToClient_spec hsend with rfl | ⟨i, conn, htx, hi, halive, -, rfl⟩
      · exact Or.inl ⟨conn', hc', hm⟩
      · replace hc' : (s.setConn i _).conns[c]? = some conn' := hc'
        rw [getElem?_setConn hi] at hc'
        by_cases hic : c = i
        · subst hic
          rw [if_pos rfl] at hc'
          cases hc'
          rw [carried_append] at hm
          rcases List.mem_append.1 hm with hold | hnew
          · exact Or.inl ⟨conn, hi, hold⟩
          · cases List.mem_singleton.1 hnew
            exact Or.inr (by simp [enqueued, hp, htx, hi, halive])
        · rw [if_neg hic] at hc'
          exact Or.inl ⟨conn', hc', hm⟩
    | _ => exact Or.inl ⟨conn', hc', hm⟩
  | tunIo act =>
    rw [(tunIoStep_frame hs).2.2.2.1] at hc'
    exact Or.inl ⟨conn', hc', hm⟩
  | cleanup act =>
    rw [(cleanupStep_frame hs).2.2.2.1] at hc'
    exact Or.inl ⟨conn', hc', hm⟩

/-! ## Who a packet is for -/

theorem getDestinationIp_isFor {data : Bytes} {destIp : Ipv4Addr} (h : getDestinationIp data = some destIp) :
    IsFor data destIp := by
  unfold getDestinationIp at h
  split at h
  · cases h
  rename_i hlen
  split at h
  · cases h
  rename_i hversion
  split at h
  · rename_i hdrop
    cases h
    refine ⟨Nat.not_lt.1 hlen, not_not.1 hversion, ?_⟩
    rw [hdrop]
    rfl
  · cases h

section Runs

variable {h : List (Server × Action)} {s : Server}

/-- A client about to be stored has been told its address. -/
theorem pending_announced (hr : ServerRun .stream h s) {c : Nat} {conn : Conn} (hc : s.conns[c]? = some conn)
    {call : Call} {client : Client} (hq : conn.phase.pending = some (call, client)) : Announced c h client.virtualIp := by
  refine phase_invariant (P := fun h c _ phase => ∀ call client, phase.pending = some (call, client) →
      Announced c h client.virtualIp)
    (fun _ _ _ _ _ _ hq => by cases hq) (fun _ _ ih call client hq => (ih call client hq).snoc _)
    (fun {h s _ c conn _ _} hr hc hcs ih call client hq => ?_) hr hc call client hq
  rcases hcs.pending with ⟨rfl, call', hp, hp'⟩ | hp | ⟨-, hp⟩
  · -- its reply has just been sent
    rw [hp'] at hq
    cases hq
    have howned := (session_owned hr).1 c conn call hc (by rw [hp]; rfl)
    refine ⟨call, ?_, rfl, howned.address_eq⟩
    rw [announcements, filterMap_snoc_some (announcement_eq hc hp)]
    exact List.mem_append_right _ (List.mem_singleton_self _)
  · rw [hp] at hq
    cases hq
  · exact (ih call client (hp ▸ hq)).snoc _

/-- **A sender in the table is stored with an address that its connection was told.** -/
theorem session_announced (hr : ServerRun .stream h s) {id : String} {client : Client} {c : Nat}
    (hl : s.sessions.lookup id = some client) (htx : client.tx = .conn c) : Announced c h client.virtualIp := by
  refine hr.history_invariant (fun h s => ∀ id client c, s.sessions.lookup id = some client → client.tx = .conn c →
    Announced c h client.virtualIp) (fun _ _ _ hl => by cases hl) (fun h s a s' hr ih hs id client c hl htx => ?_)
    id client c hl htx
  rcases lookup_of_step hs hl with ⟨call, ho, -⟩ | ⟨hold, -⟩
  · obtain ⟨i, conn, -, -, -, hc, hp, hsender, -⟩ := insert_by hr ho
    obtain ⟨rfl, -⟩ := sender_eq (hsender.symm.trans htx)
    have hpend : conn.phase.pending = some (call, client) := by rw [hp]; rfl
    exact (pending_announced hr hc hpend).snoc _
  · exact (ih id client c hold htx).snoc _

/-- The client that `handle_tun_packet` has found for its packet. -/
theorem sending_announced (hr : ServerRun .stream h s) {data : Bytes} {client : Client} {c : Nat}
    (hp : s.tunPacket = .sending data client) (htx : client.tx = .conn c) :
    IsFor data client.virtualIp ∧ Announced c h client.virtualIp := by
  refine hr.history_invariant (fun h s => ∀ data client c, s.tunPacket = .sending data client → client.tx = .conn c →
    IsFor data client.virtualIp ∧ Announced c h client.virtualIp) (fun _ _ _ hp => by cases hp)
    (fun h s a s' hr ih hs data client c hp htx => ?_) data client c hp htx
  by_cases ha : ∃ act, a = .tunPacket act
  · obtain ⟨act, rfl⟩ := ha
    cases tunPacketStep_spec hs with
    | @found _ destIp found _ hold hd hf hcl =>
      cases hp
      obtain ⟨id, rfl, hl⟩ := Option.bind_eq_some_iff.1 hcl
      obtain ⟨client', hl', hip⟩ := Table.isFind_some hf
      cases hl.symm.trans hl'
      rw [of_decide_eq_true hip]
      exact ⟨getDestinationIp_isFor hd, of_decide_eq_true hip ▸ (session_announced hr hl htx).snoc _⟩
    | _ => cases hp
  · have hsame := (step_frame hs).tunPacket (fun act he => ha ⟨act, he⟩)
    obtain ⟨hfor, hann⟩ := ih data client c (hsame ▸ hp) htx
    exact ⟨hfor, hann.snoc _⟩

theorem enqueued_announced (hr : ServerRun .stream h s) {a : Action} {c : Nat} {data : Bytes}
    (he : enqueued s a = some (c, data)) : ∃ destIp, IsFor data destIp ∧ Announced c h destIp := by
  unfold enqueued at he
  split at he
  · split at he
    · rename_i data' client hp
      split at he
      · rename_i i htx
        split at he
        · cases he
          exact ⟨_, sending_announced hr hp htx⟩
        · cases he
      · cases he
    · cases he
  · cases he

/-- **A task carries only packets for addresses that its client was told.** -/
theorem carried_announced (hr : ServerRun .stream h s) {c : Nat} {conn : Conn} (hc : s.conns[c]? = some conn)
    {data : Bytes} (hm : data ∈ conn.carried) : ∃ destIp, IsFor data destIp ∧ Announced c h destIp := by
  refine hr.history_invariant (fun h s => ∀ (c : Nat) (conn : Conn) data, s.conns[c]? = some conn → data ∈ conn.carried →
    ∃ destIp, IsFor data destIp ∧ Announced c h destIp) (fun _ _ _ hc => by cases hc)
    (fun h s a s' hr ih hs c conn' data hc' hm => ?_) c conn data hc hm
  have hbefore : ∃ destIp, IsFor data destIp ∧ Announced c h destIp := by
    rcases step_carried hs hc' hm with ⟨conn, hc, hold⟩ | he
    · exact ih c conn data hc hold
    · exact enqueued_announced hr he
  obtain ⟨destIp, hfor, hann⟩ := hbefore
  exact ⟨destIp, hfor, hann.snoc _⟩

theorem not_relays (hr : ServerRun .stream h s) {c : Nat} {conn : Conn} (hc : s.conns[c]? = some conn) :
    conn.phase.relays = false :=
  phase_invariant (P := fun _ _ _ phase => phase.relays = false) (fun _ _ _ _ => rfl) (fun _ _ ih => ih)
    (fun hr _ hcs ih => hcs.relays (transport_eq hr) ih) hr hc

/-- The packet in a `Data` message that a task sends. -/
theorem outgoing_carried (hr : ServerRun .stream h s) {c : Nat} {conn : Conn} (hc : s.conns[c]? = some conn)
    {dst : SocketAddr} {data : Data} (hout : conn.outgoing = some (dst, .data data)) : data.payload ∈ conn.carried := by
  unfold Conn.outgoing at hout
  split at hout
  · cases hout
  · cases hout
  · cases hout
  · rename_i payload hp
    obtain ⟨peer, -, he⟩ := Option.map_eq_some_iff.1 hout
    cases he
    rw [Conn.carried, hp]
    exact List.mem_cons_self
  · rename_i payload addr hp
    have := not_relays hr hc
    rw [hp] at this
    cases this
  · cases hout

/-! ## The reply comes first -/

def unexpectedType : String := "Invalid handshake response: unexpected message type"

/-- A handshake that is answered by a handshake fails with this text only if the state file does. -/
theorem handshakeAsync_unexpected {client : ClientConfig} {file : StateFile} {disk : Disk} {reply : Handshake}
    (he : (handshakeAsync client file disk (.message (.handshake reply))).result = .error unexpectedType) :
    loadClientState disk file = .error unexpectedType ∨ ∃ left, disk.writeError = some (unexpectedType, left) := by
  replace he : (if reply.token ≠ client.token then _ else _ : HandshakeEnd).result = .error unexpectedType := he
  split at he
  · exact absurd (Except.error.inj he) (by decide)
  · split at he
    · unfold adopt at he
      split at he
      · cases he
      split at he
      · rename_i error hload
        rw [hload, Except.error.inj he]
        exact Or.inl rfl
      · split at he
        · rename_i hsave
          unfold saveClientState at hsave
          split at hsave
          · rename_i hwrite
            cases hsave
            exact Or.inr ⟨_, Except.error.inj he ▸ hwrite⟩
          · cases hsave
        · cases he
    · exact absurd (Except.error.inj he) (by decide)

/-- A task that has received only handshakes has nothing but handshakes and packets to send. -/
theorem outgoing_handshake_or_data (hr : ServerRun .stream h s) {c : Nat} {conn : Conn} (hc : s.conns[c]? = some conn)
    {dst : SocketAddr} {msg : Message} (hout : conn.outgoing = some (dst, msg))
    (hrequests : ∀ q ∈ received c h, ∃ request, q.2 = .handshake request) :
    (∃ reply, msg = .handshake reply) ∨ ∃ data, msg = .data data := by
  unfold Conn.outgoing at hout
  split at hout
  · cases hout; exact Or.inl ⟨_, rfl⟩
  · cases hout; exact Or.inl ⟨_, rfl⟩
  · -- a keepalive is sent back for a keepalive only
    rename_i src time hp
    have hreq := (request_received hr hc (q := (src, .keepalive ⟨time⟩)) (by rw [hp]; rfl)).1
    obtain ⟨request, he⟩ := hrequests _ (List.mem_of_getLast? hreq)
    cases he
  · obtain ⟨peer, -, he⟩ := Option.map_eq_some_iff.1 hout
    cases he
    exact Or.inr ⟨_, rfl⟩
  · cases hout; exact Or.inr ⟨_, rfl⟩
  · cases hout

/-- **A connection's first message is a handshake reply.** A task that hands a `Data` message to its transport has sent a
reply with a TUN configuration before.  And to a client that has sent only handshakes, what it hands over before anything
has been sent is a handshake, so `handshake_async` does not fail for the type of the message. -/
theorem handshake_first (hr : ServerRun .stream h s) {c : Nat} {conn : Conn} (hc : s.conns[c]? = some conn)
    {dst : SocketAddr} {msg : Message} (hout : conn.outgoing = some (dst, msg)) :
    (∀ data, msg = .data data → ∃ reply ∈ repliesSent c h, reply.tunConfig.isSome = true) ∧
    ((∀ q ∈ received c h, ∃ request, q.2 = .handshake request) → (∀ p ∈ h, p.2 ≠ .conn c (.sent true)) →
      (∃ reply, msg = .handshake reply) ∧ ∀ (client : ClientConfig) (file : StateFile) (disk : Disk),
        (handshakeAsync client file disk (.message msg)).result = .error unexpectedType →
          loadClientState disk file = .error unexpectedType ∨ ∃ left, disk.writeError = some (unexpectedType, left)) := by
  have hfirst : ∀ data, msg = .data data → ∃ call, call ∈ announcements c h := by
    rintro data rfl
    obtain ⟨destIp, -, call, hm, -⟩ := carried_announced hr hc (outgoing_carried hr hc hout)
    exact ⟨call, hm⟩
  refine ⟨fun data hmsg => ?_, fun hrequests hunsent => ?_⟩
  · obtain ⟨call, hm⟩ := hfirst data hmsg
    exact ⟨call.reply, (announcement_reply hm).1, rfl⟩
  · rcases outgoing_handshake_or_data hr hc hout hrequests with ⟨reply, rfl⟩ | ⟨data, hmsg⟩
    · exact ⟨⟨reply, rfl⟩, fun client file disk he => handshakeAsync_unexpected he⟩
    · -- a packet comes after an announcement, and that has been sent
      obtain ⟨call, hm⟩ := hfirst data hmsg
      obtain ⟨-, p, hp, ha⟩ := announcement_reply hm
      exact absurd ha (hunsent p hp)

end Runs

/-- The first client's packet is put on its channel and taken off it again. -/
def deliveredRun : List Action := handshakeRun "admin" ++ routed ++ [.tunPacket .send, .conn 0 .forward]

theorem handshake_first_delivered :
    (∃ reply ∈ repliesSent 0 (played .stream deliveredRun), reply.tunConfig.isSome = true) ∧
    ∃ s conn msg, ServerRun .stream (played .stream ((handshakeRun "admin").take 2)) s ∧ s.conns[0]? = some conn ∧
      conn.outgoing = some (alice, msg) ∧ ∃ reply, msg = .handshake reply := by
  have hr : ServerRun .stream (played .stream deliveredRun) _ := played_run (by decide)
  have hr₂ : ServerRun .stream (played .stream ((handshakeRun "admin").take 2)) _ := played_run (by decide)
  have hrequests : ∀ q ∈ received 0 (played .stream ((handshakeRun "admin").take 2)),
      q.2 = .handshake ⟨"admin", "", none⟩ := by decide
  refine ⟨(handshake_first hr rfl (show Conn.outgoing _ = some (alice, .data ⟨packet⟩) from rfl)).1 _ rfl, _, _, _, hr₂,
    rfl, rfl, ?_⟩
  exact ((handshake_first hr₂ rfl rfl).2 (fun q hq => ⟨_, hrequests q hq⟩) (by decide)).1

section Runs

variable {h : List (Server × Action)} {s : Server}

/-! ## Each packet once, and only to those who were told its address -/

def TunPacket.packet : TunPacket → Option Bytes
  | .waiting data | .holding data | .sending data _ => some data
  | _ => none

def TunIo.packet : TunIo → Option Bytes
  | .sending data => some data
  | _             => none

/-- The packets between the TUN device and the clients' channels, oldest first. -/
def inFlight (s : Server) : List Bytes := s.tunPacket.packet.toList ++ s.tunQueue ++ s.tunIo.packet.toList

theorem enqueued_packet {s : Server} {a : Action} {c : Nat} {data : Bytes} (he : enqueued s a = some (c, data)) :
    a = .tunPacket .send ∧ s.tunPacket.packet = some data := by
  unfold enqueued at he
  split at he
  · split at he
    · rename_i data' client hp
      split at he
      · split at he
        · cases he
          exact ⟨rfl, by rw [hp]; rfl⟩
        · cases he
      · cases he
    · cases he
  · cases he

theorem ConnStep.tunQueue {s t : Server} {c : Nat} {conn conn' : Conn} {act : ConnAct} (h : ConnStep s c conn act conn' t)
    (ht : s.transport = .stream) : t.tunQueue = s.tunQueue := by
  cases h with
  | forwardTo hp hd | forwardNone hp hd => rw [ht] at hd; cases hd
  | _ => rfl

theorem TunPacketStep.inFlight {s s' : Server} {act : TunPacketAct} (h : TunPacketStep s act s') :
    (((enqueued s (.tunPacket act)).map Prod.snd).toList ++ inFlight s').Sublist (inFlight s) := by
  have hnone : act ≠ .send → enqueued s (.tunPacket act) = none := by
    intro hne
    cases he : enqueued s (.tunPacket act) with
    | none => rfl
    | some q => exact absurd (Action.tunPacket.inj (enqueued_packet he).1) hne
  cases h with
  | recv hp hq => simp [hnone, Easynet.inFlight, hp, hq, TunPacket.packet]
  | closed hp | lock hp | found hp | notIpv4 hp | notFound hp => simp [hnone, Easynet.inFlight, hp, TunPacket.packet]
  | @send data client t hp hs =>
    have hrest : Easynet.inFlight { t with tunPacket := .recv, lock := none } = s.tunQueue ++ s.tunIo.packet.toList := by
      rcases sendToClient_spec hs with rfl | ⟨c, conn, -, -, -, -, rfl⟩ <;> rfl
    have hput : ((enqueued s (.tunPacket .send)).map Prod.snd).toList.Sublist [data] := by
      cases he : enqueued s (.tunPacket .send) with
      | none => exact List.nil_sublist _
      | some q =>
        have hdata := (enqueued_packet he).2
        rw [hp] at hdata
        cases hdata
        exact List.Sublist.refl _
    rw [hrest, Easynet.inFlight, hp, List.append_assoc]
    exact hput.append (List.Sublist.refl _)

theorem TunIoStep.inFlight {s s' : Server} {act : TunIoAct} (h : TunIoStep s act s') :
    (inFlight s').Sublist (inFlight s ++ (tunRead (.tunIo act)).toList) := by
  cases h with
  | proxy hp | direct hp | reject hp | send hp | sendFailed hp | recv hp | recvDirect hp | failed hp =>
    simp [Easynet.inFlight, hp, TunIo.packet, tunRead]
  | @written ok hp | @sentDirect ok hp => cases ok <;> simp [Easynet.inFlight, hp, TunIo.packet, tunRead]

/-- **A step moves packets on, one behind the other, or drops them.** -/
theorem step_inFlight {s s' : Server} {a : Action} (hs : step s a = some s') (ht : s.transport = .stream) :
    (((enqueued s a).map Prod.snd).toList ++ inFlight s').Sublist (inFlight s ++ (tunRead a).toList) := by
  cases a with
  | clock now => cases hs; simp [enqueued, tunRead, inFlight]
  | accept peer =>
    obtain ⟨-, rfl⟩ := step_accept hs
    simp [enqueued, tunRead, inFlight]
  | conn c act =>
    obtain ⟨conn, conn', t, -, hcs, rfl⟩ := step_connStep hs
    have hsame : inFlight (t.setConn c conn') = inFlight s := by
      show t.tunPacket.packet.toList ++ t.tunQueue ++ t.tunIo.packet.toList = _
      rw [hcs.frame.tunPacket, hcs.frame.tunIo, hcs.tunQueue ht]
      rfl
    simp [hsame, enqueued, tunRead]
  | tunPacket act => simpa [tunRead] using (tunPacketStep_spec hs).inFlight
  | tunIo act => simpa [enqueued] using (tunIoStep_spec hs).inFlight
  | cleanup act => cases cleanupStep_spec hs <;> simp [enqueued, tunRead, inFlight]

/-- **What was enqueued and what is under way was read from the TUN device, in this order.** -/
theorem enqueues_sublist (hr : ServerRun .stream h s) :
    ((enqueues h).map Prod.snd ++ inFlight s).Sublist (tunReads h) := by
  refine hr.history_invariant (fun h s => ((enqueues h).map Prod.snd ++ inFlight s).Sublist (tunReads h))
    (List.Sublist.refl _) (fun h s a s' hr ih hs => ?_)
  have hstep := step_inFlight hs (transport_eq hr)
  have hsplit : (enqueues (h ++ [(s, a)])).map Prod.snd =
      (enqueues h).map Prod.snd ++ ((enqueued s a).map Prod.snd).toList := by
    rw [enqueues, filterMap_snoc, List.map_append]
    cases enqueued s a <;> rfl
  rw [hsplit, List.append_assoc, tunReads, filterMap_snoc]
  refine (hstep.append_left _).trans ?_
  rw [← List.append_assoc]
  exact ih.append_right _

/-- **Each packet goes to one channel at most, unchanged, and only to a connection that was told its destination.** The
packets that were put on clients' channels are, in order, some of those that were read; each of them is an IPv4 packet for
an address that a reply had told the client on that connection; and so is every packet that a task sends. -/
theorem downstream_isolated (hr : ServerRun .stream h s) :
    ((enqueues h).map Prod.snd).Sublist (tunReads h) ∧
    Throughout (fun h s a => ∀ c data, enqueued s a = some (c, data) →
      ∃ destIp, IsFor data destIp ∧ Announced c h destIp) h ∧
    ∀ (c : Nat) (conn : Conn) dst data, s.conns[c]? = some conn → conn.outgoing = some (dst, .data data) →
      ∃ destIp, IsFor data.payload destIp ∧ Announced c h destIp := by
  refine ⟨?_, ?_, fun c conn dst data hc hout => ?_⟩
  · exact (List.sublist_append_left _ _).trans (enqueues_sublist hr)
  · exact hr.throughout (fun h s a s' hr _ c data he => enqueued_announced hr he)
  · exact carried_announced hr hc (outgoing_carried hr hc hout)

end Runs

theorem downstream_isolated_delivered :
    enqueues (played .stream deliveredRun) = [(0, packet)] ∧ tunReads (played .stream deliveredRun) = [packet] ∧
    ∃ destIp, IsFor packet destIp ∧ Announced 0 (played .stream deliveredRun) destIp := by
  have hr : ServerRun .stream (played .stream deliveredRun) _ := played_run (by decide)
  exact ⟨by decide, by decide, (downstream_isolated hr).2.2 0 _ alice ⟨packet⟩ rfl rfl⟩

end Easynet
