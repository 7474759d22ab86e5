import Easynet.Lib.Locking
import Easynet.Resume
/-!
# Waits — who holds `SESSIONS`, and who waits for whom

`SESSIONS` names a task exactly while the task is inside its critical section (`lock_iff`).  `handle_tun_packet` keeps it
while it sends into a client's channel.  As long as no such send meets a full channel, no tasks of a stream server wait
for each other in a circle; if one does, the owner of the channel need only leave its loop.
-/
namespace Easynet

open Machine (Run Throughout)
open Locking (MutexStep Circular)

/-! ## The mutex -/

def Phase.holds : Phase → Bool
  | .holding _     => true
  | .sendingTo _ _ => true
  | _              => false

def TunPacket.holds : TunPacket → Bool
  | .holding _   => true
  | .sending _ _ => true
  | _            => false

/-- The task is between taking `SESSIONS` and giving it back. -/
def Server.holds (s : Server) : Task → Bool
  | .conn c    => (s.phaseOf c).any Phase.holds
  | .tunPacket => s.tunPacket.holds
  | .tunIo     => false
  | .cleanup   => decide (s.cleanup = .holding)

theorem dispatch_holds (nextClientId : UInt32) (src : SocketAddr) (msg : Message) (load : Option ServerConfig)
    (fresh : String) : (dispatch nextClientId src msg load fresh).1.holds = false := by
  have hd := dispatch_spec nextClientId src msg load fresh
  generalize dispatch nextClientId src msg load fresh = d at hd
  cases hd <;> rfl

theorem afterLoop_holds (conn : Conn) : conn.afterLoop.holds = false := by
  unfold Conn.afterLoop
  split <;> rfl

theorem ConnStep.mutex {s t : Server} {c : Nat} {conn conn' : Conn} {act : ConnAct} (h : ConnStep s c conn act conn' t) :
    (t.lock = s.lock ∧ conn'.phase.holds = conn.phase.holds) ∨
    (s.lock = none ∧ t.lock = some (.conn c) ∧ conn'.phase.holds = true) ∨
    (conn.phase.holds = true ∧ t.lock = none ∧ conn'.phase.holds = false) := by
  cases h with
  | receive hp => exact Or.inl ⟨rfl, by rw [hp]; exact dispatch_holds ..⟩
  | readEnd hp | forwardFailed hp => exact Or.inl ⟨rfl, by rw [hp]; exact afterLoop_holds conn⟩
  | lock hp hl => exact Or.inr (Or.inl ⟨hl, rfl, rfl⟩)
  | @lookup src request config providedId fresh found hp =>
    obtain ⟨call, hcall, -⟩ := lookupSession_spec s.sessions s.nextClientId src request config providedId fresh
    exact Or.inr (Or.inr ⟨by rw [hp]; rfl, rfl, by rw [hcall]; rfl⟩)
  | insert hp | disconnect hp | final hp | toNobody hp | sentTo hp => exact Or.inr (Or.inr ⟨by rw [hp]; rfl, rfl, rfl⟩)
  | toClient hp => exact Or.inl ⟨rfl, by rw [hp]; rfl⟩
  | forward hp | forwardTo hp | forwardNone hp | tunClosed hp | refused hp | replied hp | replyFailed hp | keptAlive hp
  | forwarded hp | enqueued hp | dropped hp => exact Or.inl ⟨rfl, by simp only [hp, Phase.holds]⟩

theorem setConn_holds {s t : Server} {c : Nat} {conn conn' : Conn} {act : ConnAct} (hc : s.conns[c]? = some conn)
    (h : ConnStep s c conn act conn' t) {u : Task} (hu : u ≠ .conn c) : (t.setConn c conn').holds u = s.holds u := by
  have hf := h.frame
  cases u with
  | conn i =>
    have hi : i ≠ c := fun he => hu (he ▸ rfl)
    show (((t.setConn c conn').conns[i]?).map Conn.phase).any Phase.holds = _
    rw [getElem?_setConn (hf.conns ▸ hc), if_neg hi, hf.conns]
    rfl
  | tunPacket => exact congrArg TunPacket.holds hf.tunPacket
  | tunIo => rfl
  | cleanup => exact congrArg (fun p => decide (p = Cleanup.holding)) hf.cleanup

theorem OtherFrame.phaseOf {s s' : Server} (h : OtherFrame s s') (c : Nat) : s'.phaseOf c = s.phaseOf c := by
  have hp := congrArg (Option.map Prod.snd) (h.places c)
  rwa [Option.map_map, Option.map_map] at hp

theorem OtherFrame.holds {s s' : Server} (h : OtherFrame s s') {u : Task}
    (htp : u = .tunPacket → s'.tunPacket = s.tunPacket) (hcl : u = .cleanup → s'.cleanup = s.cleanup) :
    s'.holds u = s.holds u := by
  cases u with
  | conn c => rw [Server.holds, Server.holds, h.phaseOf]
  | tunPacket => exact congrArg TunPacket.holds (htp rfl)
  | tunIo => rfl
  | cleanup => exact congrArg (fun p => decide (p = Cleanup.holding)) (hcl rfl)

theorem TunPacketStep.mutex {s s' : Server} {act : TunPacketAct} (h : TunPacketStep s act s') :
    (s'.lock = s.lock ∧ s'.tunPacket.holds = s.tunPacket.holds) ∨
    (s.lock = none ∧ s'.lock = some .tunPacket ∧ s'.tunPacket.holds = true) ∨
    (s.tunPacket.holds = true ∧ s'.lock = none ∧ s'.tunPacket.holds = false) := by
  cases h with
  | recv hp | closed hp => exact Or.inl ⟨rfl, by rw [hp]; rfl⟩
  | lock hp hl => exact Or.inr (Or.inl ⟨hl, rfl, rfl⟩)
  | found hp => exact Or.inl ⟨rfl, by rw [hp]; rfl⟩
  | notIpv4 hp | notFound hp | send hp => exact Or.inr (Or.inr ⟨by rw [hp]; rfl, rfl, rfl⟩)

/-- Every step treats `SESSIONS` as a mutex. -/
theorem step_mutex {s s' : Server} {a : Action} (h : step s a = some s') :
    ∃ v, MutexStep s.lock s'.lock (fun u => s.holds u = true) (fun u => s'.holds u = true) v := by
  cases a with
  | clock now => cases h; exact ⟨.tunIo, fun _ _ => Iff.rfl, Or.inl ⟨rfl, Iff.rfl⟩⟩
  | accept peer =>
    obtain ⟨-, rfl⟩ := step_accept h
    refine ⟨.tunIo, fun u _ => ?_, Or.inl ⟨rfl, Iff.rfl⟩⟩
    cases u with
    | conn c =>
      -- the new task is in its loop
      simp only [Server.holds, Server.phaseOf, List.getElem?_append]
      split
      · exact Iff.rfl
      · rename_i hlt
        rw [List.getElem?_eq_none_iff.2 (Nat.not_lt.1 hlt)]
        cases c - s.conns.length <;> simp [Phase.holds]
    | _ => exact Iff.rfl
  | conn c act =>
    obtain ⟨conn, conn', t, hc, hcs, rfl⟩ := step_connStep h
    refine ⟨.conn c, fun u hu => by rw [setConn_holds hc hcs hu], ?_⟩
    have hbefore : s.holds (.conn c) = conn.phase.holds := by rw [Server.holds, phaseOf_eq hc]; rfl
    have hafter : (t.setConn c conn').holds (.conn c) = conn'.phase.holds := by
      rw [Server.holds, phaseOf_eq (hcs.conn_after hc)]; rfl
    simp only [hbefore, hafter, Bool.not_eq_true]
    exact hcs.mutex.imp (And.imp_right (fun he => by rw [he])) id
  | tunPacket act =>
    obtain ⟨hframe, -, -, -, hcl⟩ := tunPacketStep_frame h
    refine ⟨.tunPacket, fun u hu => by rw [hframe.holds (fun he => absurd he hu) (fun _ => hcl)], ?_⟩
    simp only [Server.holds, Bool.not_eq_true]
    exact (tunPacketStep_spec h).mutex.imp (And.imp_right (fun he => by rw [he])) id
  | tunIo act =>
    obtain ⟨hframe, -, -, -, hlock, htp, hcl⟩ := tunIoStep_frame h
    exact ⟨.tunIo, fun u _ => by rw [hframe.holds (fun _ => htp) (fun _ => hcl)], Or.inl ⟨hlock, Iff.rfl⟩⟩
  | cleanup act =>
    obtain ⟨hframe, -, -, -, htp, -⟩ := cleanupStep_frame h
    refine ⟨.cleanup, fun u hu => by rw [hframe.holds (fun _ => htp) (fun he => absurd he hu)], ?_⟩
    cases cleanupStep_spec h with
    | wake hp => exact Or.inl ⟨rfl, by simp [Server.holds, hp]⟩
    | lock hp hl => exact Or.inr (Or.inl ⟨hl, rfl, rfl⟩)
    | round hp => exact Or.inr (Or.inr ⟨by simp [Server.holds, hp], rfl, by simp [Server.holds]⟩)

/-- **`SESSIONS` names a task exactly while the task is inside its critical section.** -/
theorem lock_iff {transport : Transport} {h : List (Server × Action)} {s : Server} (hr : ServerRun transport h s)
    (u : Task) : s.lock = some u ↔ s.holds u = true := by
  refine hr.invariant (fun s => ∀ u, s.lock = some u ↔ s.holds u = true) (fun u => ?_) (fun s a s' ih hs => ?_) u
  · refine ⟨nofun, fun hu => ?_⟩
    cases u with
    | conn c =>
      cases hc : (Server.init transport).conns[c]? with
      | none => simp [Server.holds, Server.phaseOf, hc] at hu
      | some conn =>
        obtain ⟨-, -, rfl⟩ := init_conns hc
        simp [Server.holds, Server.phaseOf, hc, Phase.holds] at hu
    | tunPacket => cases transport <;> cases hu
    | tunIo | cleanup => cases hu
  · obtain ⟨v, hm⟩ := step_mutex hs
    exact hm.exclusive ih

/-! ## Who waits for whom -/

/-- **A task of a stream server cannot go on before another does**: `SESSIONS` is taken, or the queue it sends on is
full and its receiver has not been dropped. -/
inductive BlockedOn (s : Server) : Task → Task → Prop
  | connLock {c : Nat} {conn : Conn} {k : Section} {u : Task} (hc : s.conns[c]? = some conn)
      (hp : conn.phase = .waiting k) (hl : s.lock = some u) : BlockedOn s (.conn c) u
  | tunPacketLock {data : Bytes} {u : Task} (hp : s.tunPacket = .waiting data) (hl : s.lock = some u) :
      BlockedOn s .tunPacket u
  | cleanupLock {u : Task} (hp : s.cleanup = .waiting) (hl : s.lock = some u) : BlockedOn s .cleanup u
  | clientChannel {data : Bytes} {client : Client} {c : Nat} {conn : Conn} (hp : s.tunPacket = .sending data client)
      (htx : client.tx = .conn c) (hc : s.conns[c]? = some conn) (halive : conn.phase ≠ .done)
      (hfull : channelCapacity ≤ conn.queue.length) : BlockedOn s .tunPacket (.conn c)
  | transportChannel {c : Nat} {conn : Conn} {src : SocketAddr} {payload : Bytes} (hc : s.conns[c]? = some conn)
      (hp : conn.phase = .data src payload) (halive : s.tunIo ≠ .done)
      (hfull : channelCapacity ≤ s.transportQueue.length) : BlockedOn s (.conn c) .tunIo
  | tunChannel {data : Bytes} (hp : s.tunIo = .sending data) (halive : s.tunPacket ≠ .done)
      (hfull : channelCapacity ≤ s.tunQueue.length) : BlockedOn s .tunIo .tunPacket

/-- Some tasks wait for each other in a circle. -/
def CircularWait (s : Server) : Prop := Circular (BlockedOn s)

/-- A send on a client channel would not block. -/
def Server.hasRoom (s : Server) : Sender → Bool
  | .dummy  => true
  | .conn c => s.conns[c]?.all (fun conn => decide (conn.phase = .done ∨ conn.queue.length < channelCapacity))

/-- The client that `handle_tun_packet` has found for its packet. -/
def target (s : Server) : Action → Option Client
  | .tunPacket (.find found) =>
    match s.tunPacket with
    | .holding data => (getDestinationIp data).bind (fun _ => found.bind s.sessions.lookup)
    | _             => none
  | _ => none

theorem ConnStep.queue {s t : Server} {c : Nat} {conn conn' : Conn} {act : ConnAct} (h : ConnStep s c conn act conn' t) :
    conn.phase ≠ .done ∧ conn'.queue.length ≤ conn.queue.length := by
  refine ⟨h.not_done, ?_⟩
  cases h with
  | forward hp ht hq => rw [hq]; exact Nat.le_succ _
  | _ => exact Nat.le_refl _

theorem hasRoom_conn {s : Server} {c : Nat} : s.hasRoom (.conn c) = true ↔
    ∀ conn, s.conns[c]? = some conn → conn.phase = .done ∨ conn.queue.length < channelCapacity := by
  cases hc : s.conns[c]? <;> simp [Server.hasRoom, hc]

/-- Only `handle_tun_packet` fills a client's channel. -/
theorem hasRoom_step {s s' : Server} {a : Action} (hs : step s a = some s') (ha : ∀ act, a ≠ .tunPacket act) {tx : Sender}
    (hroom : s.hasRoom tx = true) : s'.hasRoom tx = true := by
  cases tx with
  | dummy => rfl
  | conn i =>
    rw [hasRoom_conn] at hroom ⊢
    cases a with
    | accept peer =>
      obtain ⟨-, rfl⟩ := step_accept hs
      intro conn hc
      simp only [List.getElem?_append] at hc
      split at hc
      · exact hroom conn hc
      · obtain ⟨_, he⟩ := List.getElem?_eq_some_iff.1 hc
        rw [List.getElem_singleton] at he
        exact Or.inr (by rw [← he]; exact Nat.succ_pos 4095)
    | conn c act =>
      obtain ⟨conn, conn', t, hc, hcs, rfl⟩ := step_connStep hs
      have hconns := hcs.frame.conns
      intro conn₁ hc₁
      rw [getElem?_setConn (hconns ▸ hc), hconns] at hc₁
      by_cases hi : i = c
      · rw [if_pos hi] at hc₁; cases hc₁
        have := (hroom conn (hi ▸ hc)).resolve_left hcs.queue.1
        exact Or.inr (Nat.lt_of_le_of_lt hcs.queue.2 this)
      · rw [if_neg hi] at hc₁
        exact hroom conn₁ hc₁
    | tunPacket act => exact absurd rfl (ha act)
    | _ =>
      rw [(step_frame hs).conns (fun _ he => Action.noConfusion he) (fun _ _ he => Action.noConfusion he) ha]
      exact hroom

section Runs

variable {h : List (Server × Action)} {s : Server}

/-- While every client found has room, a send under way has room. -/
theorem sending_room {transport : Transport} (hr : ServerRun transport h s)
    (hroom : ∀ p ∈ h, ∀ client ∈ target p.1 p.2, p.1.hasRoom client.tx = true) {data : Bytes} {client : Client}
    (hp : s.tunPacket = .sending data client) : s.hasRoom client.tx = true := by
  refine hr.invariant_of (fun s a => ∀ client ∈ target s a, s.hasRoom client.tx = true) hroom
    (fun s => ∀ data client, s.tunPacket = .sending data client → s.hasRoom client.tx = true)
    (fun data client hp => by cases transport <;> cases hp) (fun s a s' ih hfind hs data client hp => ?_) data client hp
  by_cases ha : ∃ act, a = .tunPacket act
  · obtain ⟨act, rfl⟩ := ha
    cases tunPacketStep_spec hs with
    | found hold hd hf hcl =>
      cases hp
      exact hfind client (by simp [target, hold, hd, hcl])
    | _ => cases hp
  · have hne : ∀ act, a ≠ .tunPacket act := fun act he => ha ⟨act, he⟩
    have hsame := (step_frame hs).tunPacket hne
    exact hasRoom_step hs hne (ih data client (hsame ▸ hp))

/-- How many waits a task can be from one that can go on. -/
def waitRank (s : Server) : Task → Nat
  | .conn c => match s.phaseOf c with
    | some (.waiting _) => 1
    | some (.data _ _)  => 3
    | _                 => 0
  | .tunPacket => if s.tunPacket.holds then 0 else 1
  | .tunIo => 2
  | .cleanup => if s.cleanup = .holding then 0 else 1

theorem waitRank_of_holds {u : Task} (hu : s.holds u = true) : waitRank s u = 0 := by
  cases u with
  | conn c =>
    replace hu : (s.phaseOf c).any Phase.holds = true := hu
    cases hp : s.phaseOf c with
    | none => simp [waitRank, hp]
    | some phase =>
      rw [hp] at hu
      cases phase <;> first | simp [waitRank, hp]; done | cases hu
  | tunPacket => exact if_pos hu
  | tunIo => cases hu
  | cleanup => exact if_pos (of_decide_eq_true hu)

/-- **No circular wait on a stream server**, in any run on which `handle_tun_packet` never finds a client whose channel is
full and still has its receiver. -/
theorem no_circularWait (hr : ServerRun .stream h s)
    (hroom : ∀ p ∈ h, ∀ client ∈ target p.1 p.2, p.1.hasRoom client.tx = true) : ¬ CircularWait s := by
  refine Locking.not_circular_of_rank (waitRank s) (fun t u hb => ?_)
  have hholder : ∀ u, s.lock = some u → waitRank s u = 0 := fun u hl => waitRank_of_holds ((lock_iff hr u).1 hl)
  cases hb with
  | connLock hc hp hl => rw [hholder u hl, waitRank, phaseOf_eq hc, hp]; exact Nat.one_pos
  | tunPacketLock hp hl => rw [hholder u hl, waitRank, hp]; exact Nat.one_pos
  | cleanupLock hp hl => rw [hholder u hl, waitRank, hp]; exact Nat.one_pos
  | clientChannel hp htx hc halive hfull =>
    -- the channel had room when the client was found, and nobody else has sent on it since
    have hr := hasRoom_conn.1 (htx ▸ sending_room hr hroom hp) _ hc
    exact absurd (hr.resolve_left halive) (Nat.not_lt.2 hfull)
  | transportChannel hc hp => rw [waitRank, waitRank, phaseOf_eq hc, hp]; exact Nat.lt_succ_self 2
  | tunChannel hp =>
    rw [waitRank, waitRank]
    split
    · exact Nat.two_pos
    · exact Nat.lt_succ_self 1

/-- A send under way into a full channel whose owner is in its loop: the owner has only to leave the loop. -/
theorem circularWait_of_full (hr : ServerRun .stream h s) {data : Bytes} {client : Client} {c : Nat} {conn : Conn}
    (hp : s.tunPacket = .sending data client) (htx : client.tx = .conn c) (hc : s.conns[c]? = some conn)
    (hfull : channelCapacity ≤ conn.queue.length) (hsel : conn.phase = .select) {peer : SocketAddr}
    (hpeer : conn.peer = some peer) : ∃ s', step s (.conn c .readEnd) = some s' ∧ CircularWait s' := by
  have hl : s.lock = some .tunPacket := (lock_iff hr .tunPacket).2 (by rw [Server.holds, hp]; rfl)
  have hc' := (getElem?_setConn hc { conn with phase := conn.afterLoop } c).trans (if_pos rfl)
  refine ⟨s.setPhase c conn conn.afterLoop, by simp [step, hc, connStep, hsel], Locking.circular_of_two
    (.clientChannel hp htx hc' ?_ hfull) (.connLock (k := .final peer) hc' ?_ hl)⟩
  · simp [Conn.afterLoop, hpeer]
  · simp [Conn.afterLoop, hpeer]

end Runs

/-- A packet for the first session's address. -/
def packet : Bytes := 69 :: List.replicate 15 0 ++ [10, 0, 0, 2]

/-- The packet is read from the TUN device, and `handle_tun_packet` has found its client. -/
def routed : List Action :=
  [.tunIo (.read packet .proxy), .tunIo .send, .tunPacket .recv, .tunPacket .lock, .tunPacket (.find (some "s0"))]

theorem no_circularWait_routed :
    ∃ s, ServerRun .stream (played .stream (handshakeRun "admin" ++ routed)) s ∧ s.lock = some .tunPacket ∧
      ¬ CircularWait s :=
  ⟨_, played_run (by decide), by decide, no_circularWait (played_run (by decide)) (by decide)⟩

/-- The client of the first session, as it was stored. -/
def firstClient : Client := ⟨alice, .new 10 0 0 2, .conn 0, buildTunConfig adminConfig (.new 10 0 0 2), 0⟩

/-- The first connection's task is writing a packet to a peer that does not read, and `k` more are queued behind it. -/
def stalled (k : Nat) : Server :=
  { afterFirst 3 with conns := [⟨some alice, .forwarding packet, List.replicate k packet⟩] }

/-- And with one more packet on its way into the queue, the peer goes away. -/
def stuck (k : Nat) : Server :=
  { afterFirst 3 with
    lock := some .tunPacket
    tunPacket := .sending packet firstClient
    conns := [⟨some alice, .waiting (.final alice), List.replicate k packet⟩] }

theorem exec_stalled : Machine.exec step (afterFirst 3) (routed ++ [Action.tunPacket .send, .conn 0 .forward]) =
    some (stalled 0) := rfl

theorem exec_queued {k : Nat} (hk : k < channelCapacity) :
    Machine.exec step (stalled k) (routed ++ [Action.tunPacket .send]) = some (stalled (k + 1)) := by
  have hfind : Machine.exec step (stalled k) routed =
      some { stalled k with tunPacket := .sending packet firstClient, lock := some .tunPacket } := rfl
  refine Machine.exec_trans hfind ?_
  simp [step, tunPacketStep, sendToClient, firstClient, stalled, hk, Server.setConn, afterFirst,
    ← List.replicate_succ', Server.init]

theorem exec_stuck (k : Nat) :
    Machine.exec step (stalled k) (routed ++ [Action.conn 0 (.sent false)]) = some (stuck k) := rfl

/-- A peer stops reading while packets for it keep coming, and then goes away. -/
def stallRun : List Action :=
  handshakeRun "admin" ++ ((routed ++ [Action.tunPacket .send, .conn 0 .forward]) ++
    ((List.range' 0 channelCapacity).flatMap (fun _ => routed ++ [Action.tunPacket .send]) ++
      (routed ++ [Action.conn 0 (.sent false)])))

/-- `handle_tun_packet` holds `SESSIONS` and waits for room in the channel of a connection whose task, on its way out, waits
for `SESSIONS`. -/
theorem leaving_task_deadlocks :
    ∃ (s : Server) (conn : Conn), ServerRun .stream (played .stream stallRun) s ∧ s.lock = some .tunPacket ∧
      s.tunPacket = .sending packet firstClient ∧ firstClient.tx = .conn 0 ∧ s.conns[0]? = some conn ∧
      conn.phase = .waiting (.final alice) ∧ conn.queue.length = channelCapacity ∧ CircularWait s := by
  have hfill := Machine.exec_blocks stalled (fun _ => routed ++ [Action.tunPacket .send]) channelCapacity
    (fun k hk => exec_queued hk) channelCapacity 0 (by omega)
  have hexec := Machine.exec_trans exec_first (Machine.exec_trans exec_stalled
    (Machine.exec_trans hfill (exec_stuck (0 + channelCapacity))))
  have hlen : (List.replicate (0 + channelCapacity) packet).length = channelCapacity := by simp
  refine ⟨stuck (0 + channelCapacity), _, Machine.run_of_exec hexec, rfl, rfl, rfl, rfl, rfl, hlen,
    Locking.circular_of_two (.clientChannel rfl rfl rfl nofun (Nat.le_of_eq hlen.symm)) (.connLock rfl rfl rfl)⟩

end Easynet
