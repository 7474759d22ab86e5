import Easynet.UdpFramed
import Easynet.Waits
/-!
# UdpServer — the loop that serves all UDP peers, and what ends it

The UDP `transport_io_task` takes what `next()` gives it and leaves its loop at the first error.  What `next()` gives is
decided by the bytes of the datagrams (`nexts`), and a run reads some of it (`reads`).  Well-formed datagrams keep the loop
going; one datagram that is not ends it for every client.

The loop takes the packets of the TUN channel and fills the transport channel, and `tun_io_task` does the reverse.  With both
channels full each can wait for the other, and then both wait for ever (`Server.clogged`).
-/
namespace Easynet

open Drain (drain)

/-- What `next()` gives for a sequence of datagrams, up to the first error: a message with its sender, or the error. -/
def nexts (P : Prost) : ByteCodec → List Datagram → List (Option (SocketAddr × Message))
  | _, []      => []
  | c, d :: ds =>
    let r := readDatagram P c d
    r.items.map (fun m => some (d.src, m)) ++ if r.error.isSome then [none] else nexts P r.state ds

/-- What task `c` has got from `next()` in a run. -/
def reads (c : Nat) (h : List (Server × Action)) : List (Option (SocketAddr × Message)) :=
  h.filterMap (fun p => match p.2 with
    | .conn i (.receive src msg _ _) => if i = c then some (some (src, msg)) else none
    | .conn i .readEnd               => if i = c then some none else none
    | _                              => none)

theorem reads_append (c : Nat) (h h' : List (Server × Action)) : reads c (h ++ h') = reads c h ++ reads c h' :=
  List.filterMap_append

/-! ## Well-formed datagrams -/

/-- **The datagrams that a codec at a header takes without an error and without waiting for more.** -/
theorem readDatagram_wellFormed {P : Prost} {c : ByteCodec} (hs : c.state = .head) {d : Datagram} :
    ((readDatagram P c d).error = none ∧ (readDatagram P c d).state = c) ↔ WellFormed P c.maxFrameSize d.bytes := by
  constructor
  · rintro ⟨herr, hst⟩
    rcases drain_boundary P c hs d.bytes herr with ⟨hw, -⟩ | ⟨n, -, -, hbody⟩
    · exact hw
    · rw [readDatagram, hbody] at hst
      rw [← hst] at hs
      cases hs
  · rintro ⟨frames, hb, hf⟩
    rw [readDatagram, drain_eof, hb, drain_bodies P c hs frames hf]
    exact ⟨by simp, rfl⟩

/-- Well-formed datagrams give no error and leave nothing behind: what comes after them is read as if they had not been. -/
theorem nexts_wellFormed {P : Prost} {c : ByteCodec} (hs : c.state = .head) : ∀ (ds ds' : List Datagram),
    (∀ d ∈ ds, WellFormed P c.maxFrameSize d.bytes) →
      none ∉ nexts P c ds ∧ nexts P c (ds ++ ds') = nexts P c ds ++ nexts P c ds'
  | [], ds', _ => ⟨nofun, rfl⟩
  | d :: ds, ds', h => by
    obtain ⟨herr, hst⟩ := (readDatagram_wellFormed hs).2 (h d List.mem_cons_self)
    obtain ⟨hno, happ⟩ := nexts_wellFormed hs ds ds' (fun x hx => h x (List.mem_cons_of_mem _ hx))
    simp only [List.cons_append, nexts, herr, hst, Option.isSome_none, Bool.false_eq_true, if_false, happ]
    exact ⟨by simpa using hno, (List.append_assoc ..).symm⟩

theorem wellFormed_frame {P : Prost} (hP : P.RoundTrip) {maxFrameSize : Nat} {m : Message}
    (h32 : (P.encodeToVec m).length < 2 ^ 32) (hmax : (P.encodeToVec m).length ≤ maxFrameSize) :
    WellFormed P maxFrameSize (frame (P.encodeToVec m)) :=
  List.append_nil (frame _) ▸ WellFormed.cons h32 hmax (hP m) ⟨[], rfl, fun _ hp => absurd hp List.not_mem_nil⟩

/-- A frame alone in a datagram is one message of its sender. -/
theorem nexts_frame {P : Prost} (hP : P.RoundTrip) {c : ByteCodec} (hs : c.state = .head) (src : SocketAddr) {m : Message}
    (h32 : (P.encodeToVec m).length < 2 ^ 32) (hmax : (P.encodeToVec m).length ≤ c.maxFrameSize) :
    nexts P c [⟨src, frame (P.encodeToVec m)⟩] = [some (src, m)] := by
  have hd := drain_frames hP c hs [m] (by simpa using ⟨h32, hmax⟩)
  rw [List.flatMap_singleton] at hd
  simp [nexts, readDatagram, drain_eof, hd]

/-! ## The loop -/

/-- Places that only a connection with a peer of its own comes to. -/
def Phase.streamOnly : Phase → Bool
  | .forwarding _       => true
  | .waiting (.final _) => true
  | .holding (.final _) => true
  | _                   => false

theorem dispatch_streamOnly (nextClientId : UInt32) (src : SocketAddr) (msg : Message) (load : Option ServerConfig)
    (fresh : String) : (dispatch nextClientId src msg load fresh).1.streamOnly = false ∧
      (dispatch nextClientId src msg load fresh).1 ≠ .done := by
  have hd := dispatch_spec nextClientId src msg load fresh
  generalize dispatch nextClientId src msg load fresh = d at hd
  cases hd <;> exact ⟨rfl, nofun⟩

/-- **The UDP loop ends at an error or with the TUN channel.** -/
theorem ConnStep.datagram {s t : Server} {c : Nat} {conn conn' : Conn} {act : ConnAct} (h : ConnStep s c conn act conn' t)
    (ht : s.transport = .datagram) (hpeer : conn.peer = none) (hp : conn.phase.streamOnly = false) :
    conn'.phase.streamOnly = false ∧ (conn'.phase = .done → act = .readEnd ∨ s.tunIo = .done) := by
  cases h with
  | receive => exact ⟨(dispatch_streamOnly ..).1, fun he => absurd he (dispatch_streamOnly ..).2⟩
  | readEnd => exact ⟨by simp only [Conn.afterLoop, hpeer]; rfl, fun _ => Or.inl rfl⟩
  | forward _ hstream => rw [ht] at hstream; cases hstream
  | tunClosed _ _ _ hio => exact ⟨rfl, fun _ => Or.inr hio⟩
  | @lock k hk =>
    refine ⟨?_, fun he => Phase.noConfusion he⟩
    rw [hk] at hp
    cases k with
    | final addr => cases hp
    | _ => rfl
  | @lookup src request config providedId fresh =>
    obtain ⟨call, hcall, -⟩ := lookupSession_spec s.sessions s.nextClientId src request config providedId fresh
    simp only [hcall]
    exact ⟨rfl, fun he => Phase.noConfusion he⟩
  | final hk | forwarded hk | forwardFailed hk => rw [hk] at hp; cases hp
  | _ => exact ⟨rfl, fun he => Phase.noConfusion he⟩

theorem mem_reads_append {c : Nat} {h : List (Server × Action)} {r : Option (SocketAddr × Message)} (p : Server × Action)
    (hm : r ∈ reads c h) : r ∈ reads c (h ++ [p]) := by
  rw [reads_append]
  exact List.mem_append_left _ hm

/-- The loop has no peer of its own, and has ended only at an error or with the TUN task. -/
theorem loop_invariant {h : List (Server × Action)} {s : Server} {c : Nat} {conn : Conn} (hr : ServerRun .datagram h s)
    (hc : s.conns[c]? = some conn) :
    conn.peer = none ∧ conn.phase.streamOnly = false ∧
      (conn.phase = .done → none ∈ reads c h ∨ ∃ p ∈ h, p.1.tunIo = .done) := by
  refine phase_invariant (P := fun h c peer phase => peer = none ∧ phase.streamOnly = false ∧
      (phase = .done → none ∈ reads c h ∨ ∃ p ∈ h, p.1.tunIo = .done))
    (fun _ _ _ hpeer => ⟨hpeer.2 rfl, rfl, nofun⟩) (fun _ _ ih => ⟨ih.1, ih.2.1, fun hd => ?_⟩)
    (fun {h s act c conn conn' t} hr _ hcs ih => ?_) hr hc
  · exact (ih.2.2 hd).imp (mem_reads_append _) (fun ⟨p, hp, hio⟩ => ⟨p, List.mem_append_left _ hp, hio⟩)
  · obtain ⟨hso, hdone⟩ := hcs.datagram (transport_eq hr) ih.1 ih.2.1
    refine ⟨hcs.frame.peer.trans ih.1, hso, fun hd => ?_⟩
    rcases hdone hd with rfl | hio
    · exact Or.inl (List.mem_filterMap.2 ⟨_, List.mem_append_right _ List.mem_cons_self, if_pos rfl⟩)
    · exact Or.inr ⟨_, List.mem_append_right _ List.mem_cons_self, hio⟩

/-- With the datagram transport there is one connection task and no `handle_tun_packet`. -/
theorem datagram_tasks {h : List (Server × Action)} {s : Server} (hr : ServerRun .datagram h s) :
    s.tunPacket = .done ∧ s.conns.length = 1 := by
  refine hr.history_invariant (fun _ s => s.tunPacket = .done ∧ s.conns.length = 1) ⟨rfl, rfl⟩
    (fun h s a s' hr ih hs => ?_)
  obtain ⟨htp, hlen⟩ := ih
  have hf := step_frame hs
  cases a with
  | accept peer =>
    have ht := (step_accept hs).1
    rw [transport_eq hr] at ht
    cases ht
  | conn c act =>
    obtain ⟨conn, conn', t, -, hcs, rfl⟩ := step_connStep hs
    refine ⟨hcs.frame.tunPacket.trans htp, ?_⟩
    show (t.conns.set c conn').length = 1
    rw [List.length_set, hcs.frame.conns, hlen]
  | tunPacket act =>
    cases tunPacketStep_spec hs with
    | recv hp | closed hp | lock hp | notIpv4 hp | found hp | notFound hp | send hp => rw [htp] at hp; cases hp
  | _ =>
    refine ⟨(hf.tunPacket (fun _ he => Action.noConfusion he)).trans htp, ?_⟩
    rw [hf.conns (fun _ he => Action.noConfusion he) (fun _ _ he => Action.noConfusion he)
      (fun _ he => Action.noConfusion he), hlen]

/-! ## The loop and `tun_io_task` wait for each other -/

def Phase.isData : Phase → Bool
  | .data _ _ => true
  | _         => false

def TunIo.isSending : TunIo → Bool
  | .sending _ => true
  | _          => false

/-- The loop waits to put a payload on the transport channel, which `tun_io_task` empties and which is full, while
`tun_io_task` waits to put a packet on the TUN channel, which the loop empties and which is full. -/
def Server.clogged (s : Server) : Bool :=
  s.conns.any (fun conn => conn.phase.isData) && s.tunIo.isSending &&
    decide (channelCapacity ≤ s.transportQueue.length) && decide (channelCapacity ≤ s.tunQueue.length)

theorem phase_of_isData {phase : Phase} (h : phase.isData = true) : ∃ src payload, phase = .data src payload := by
  cases phase with
  | data src payload => exact ⟨src, payload, rfl⟩
  | _ => cases h

theorem tunIo_of_isSending {tunIo : TunIo} (h : tunIo.isSending = true) : ∃ data, tunIo = .sending data := by
  cases tunIo with
  | sending data => exact ⟨data, rfl⟩
  | _ => cases h

theorem loop_conn {h : List (Server × Action)} {s : Server} (hr : ServerRun .datagram h s) :
    ∃ conn : Conn, s.conns = [conn] := List.length_eq_one_iff.1 (datagram_tasks hr).2

theorem clogged_iff {s : Server} {conn : Conn} (hc : s.conns = [conn]) :
    s.clogged = true ↔ conn.phase.isData = true ∧ s.tunIo.isSending = true ∧
      channelCapacity ≤ s.transportQueue.length ∧ channelCapacity ≤ s.tunQueue.length := by
  simp [Server.clogged, hc, and_assoc]

/-- **Nothing that can happen ends it.** -/
theorem clogged_step {h : List (Server × Action)} {s s' : Server} {a : Action} (hr : ServerRun .datagram h s)
    (hcl : s.clogged = true) (hs : step s a = some s') : s'.clogged = true := by
  obtain ⟨conn, hconns⟩ := loop_conn hr
  obtain ⟨hdata, hsend, hfull, hfull'⟩ := (clogged_iff hconns).1 hcl
  obtain ⟨src, payload, hp⟩ := phase_of_isData hdata
  obtain ⟨data, hio⟩ := tunIo_of_isSending hsend
  cases a with
  | clock now => cases hs; exact hcl
  | accept peer =>
    have ht := (step_accept hs).1
    rw [transport_eq hr] at ht
    cases ht
  | conn i act =>
    obtain ⟨conn₁, conn', t, hc, hcs, -⟩ := step_connStep hs
    obtain rfl : conn₁ = conn := List.mem_singleton.1 (hconns ▸ List.mem_of_getElem? hc)
    cases hcs with
    | enqueued _ _ hroom => omega
    | dropped _ hdone => rw [hio] at hdone; cases hdone
    | receive hk | readEnd hk | forward hk | forwardTo hk | forwardNone hk | tunClosed hk | lock hk | lookup hk
    | insert hk | disconnect hk | final hk | toClient hk | toNobody hk | refused hk | replied hk | replyFailed hk
    | keptAlive hk | forwarded hk | forwardFailed hk | sentTo hk => rw [hp] at hk; cases hk
  | tunPacket act =>
    have htp := (datagram_tasks hr).1
    cases tunPacketStep_spec hs with
    | recv hk | closed hk | lock hk | notIpv4 hk | found hk | notFound hk | send hk => rw [htp] at hk; cases hk
  | tunIo act =>
    cases tunIoStep_spec hs with
    | send _ _ hroom => omega
    | sendFailed _ hgone =>
      refine absurd ?_ hgone
      simp [Server.tunReceiverAlive, transport_eq hr, hconns, hp]
    | recv hk | recvDirect hk | written hk | proxy hk | direct hk | reject hk | sentDirect hk | failed hk =>
      rw [hio] at hk; cases hk
  | cleanup act => cases cleanupStep_spec hs <;> exact hcl

theorem clogged_exec {acts : List Action} {h : List (Server × Action)} {s s' : Server} (hr : ServerRun .datagram h s)
    (hcl : s.clogged = true) (he : Machine.exec step s acts = some s') : s'.clogged = true := by
  induction acts generalizing h s with
  | nil => cases he; exact hcl
  | cons a acts ih =>
    obtain ⟨t, hs, he⟩ := Option.bind_eq_some_iff.1 he
    exact ih (hr.snoc hs) (clogged_step hr hcl hs) he

/-- So a run has come to it if and only if it ends there. -/
theorem clogged_states {h : List (Server × Action)} {s : Server} (hr : ServerRun .datagram h s) :
    (∀ t ∈ Machine.states h s, t.clogged = false) ↔ s.clogged = false := by
  refine ⟨fun hall => hall s (hr.mem_states.2 ⟨h, [], (List.append_nil h).symm, hr, .nil⟩), fun hs t ht => ?_⟩
  obtain ⟨h₁, h₂, -, hr₁, hr₂⟩ := hr.mem_states.1 ht
  have hkeep : t.clogged = true → s.clogged = true := fun hcl =>
    (hr₂.history_invariant (fun h' u => ServerRun .datagram (h₁ ++ h') u ∧ u.clogged = true)
      ⟨(List.append_nil h₁).symm ▸ hr₁, hcl⟩ (fun h' u a u' _ ih hs => by
        rw [← List.append_assoc]
        exact ⟨ih.1.snoc hs, clogged_step ih.1 ih.2 hs⟩)).2
  cases hcl : t.clogged with
  | false => rfl
  | true => rw [hkeep hcl] at hs; cases hs

/-- `k` payloads and `k` packets lie in the two channels. -/
def flooded (k : Nat) : Server :=
  { Server.init .datagram with transportQueue := List.replicate k [69], tunQueue := List.replicate k [69] }

/-- A client's payload is queued for the TUN device, and a packet of the TUN device for the loop. -/
def flood : List Action :=
  [.conn 0 (.receive alice (.data ⟨[69]⟩) none ""), .conn 0 .enqueue, .tunIo (.read [69] .proxy), .tunIo .send]

theorem exec_flood {k : Nat} (hk : k < channelCapacity) :
    Machine.exec step (flooded k) flood = some (flooded (k + 1)) := by
  simp [flood, flooded, step, connStep, dispatch, Message.data, tunIoStep, Server.tunReceiverAlive, Server.setPhase,
    Server.setConn, Server.init, hk, ← List.replicate_succ']

/-- And with one more of each on its way. -/
def overflowing (k : Nat) : Server :=
  { flooded k with conns := [⟨none, .data alice [69], []⟩], tunIo := .sending [69] }

theorem exec_overflowing (k : Nat) : Machine.exec step (flooded k)
    [Action.conn 0 (.receive alice (.data ⟨[69]⟩) none ""), .tunIo (.read [69] .proxy)] = some (overflowing k) := rfl

theorem reads_flood {k : Nat} (hk : k < channelCapacity) :
    reads 0 (Machine.trace step (flooded k) flood) = [some (alice, .data ⟨[69]⟩)] := by
  simp [flood, flooded, Machine.trace, step, connStep, dispatch, Message.data, tunIoStep, Server.tunReceiverAlive,
    Server.setPhase, Server.setConn, Server.init, hk, reads]

theorem reads_overflowing (k : Nat) : reads 0 (Machine.trace step (flooded k)
    [Action.conn 0 (.receive alice (.data ⟨[69]⟩) none ""), .tunIo (.read [69] .proxy)]) =
      [some (alice, .data ⟨[69]⟩)] := rfl

theorem flooded_run : ∀ k ≤ channelCapacity, ∃ h, ServerRun .datagram h (flooded k) ∧
    reads 0 h = List.replicate k (some (alice, .data ⟨[69]⟩))
  | 0, _ => ⟨[], .nil, rfl⟩
  | k + 1, hk => by
    obtain ⟨h, hr, hreads⟩ := flooded_run k (Nat.le_of_succ_le hk)
    refine ⟨_, hr.exec_append (exec_flood hk), ?_⟩
    rw [reads_append, hreads, reads_flood hk, List.replicate_succ']

theorem nexts_replicate {P : Prost} (hP : P.RoundTrip) {c : ByteCodec} (hs : c.state = .head) (src : SocketAddr)
    {m : Message} (h32 : (P.encodeToVec m).length < 2 ^ 32) (hmax : (P.encodeToVec m).length ≤ c.maxFrameSize) :
    ∀ n, nexts P c (List.replicate n ⟨src, frame (P.encodeToVec m)⟩) = List.replicate n (some (src, m))
  | 0 => rfl
  | n + 1 => by
    have happ := (nexts_wellFormed hs [⟨src, frame (P.encodeToVec m)⟩] (List.replicate n ⟨src, frame (P.encodeToVec m)⟩)
      (fun d hd => by rw [List.mem_singleton.1 hd]; exact wellFormed_frame hP h32 hmax)).2
    rw [List.replicate_succ, ← List.singleton_append, happ, nexts_frame hP hs src h32 hmax,
      nexts_replicate hP hs src h32 hmax n, List.singleton_append, List.replicate_succ]

/-- **Well-formed datagrams lead to it**, when they and the packets of the TUN device are not fetched in time. -/
theorem exists_clogged {P : Prost} (hP : P.RoundTrip) {maxFrameSize : Nat}
    (h32 : (P.encodeToVec (.data ⟨[69]⟩)).length < 2 ^ 32) (hmax : (P.encodeToVec (.data ⟨[69]⟩)).length ≤ maxFrameSize) :
    ∃ ds h s, (∀ d ∈ ds, WellFormed P maxFrameSize d.bytes) ∧ ServerRun .datagram h s ∧
      reads 0 h = nexts P (.withMaxFrameSize maxFrameSize) ds ∧ (∀ p ∈ h, p.1.tunIo ≠ .done) ∧ s.clogged = true := by
  obtain ⟨h, hr, hreads⟩ := flooded_run channelCapacity le_rfl
  have hr' := hr.exec_append (exec_overflowing channelCapacity)
  have hlen : (List.replicate channelCapacity ([69] : Bytes)).length = channelCapacity := List.length_replicate
  refine ⟨List.replicate (channelCapacity + 1) ⟨alice, frame (P.encodeToVec (.data ⟨[69]⟩))⟩, _, _, fun d hd => ?_, hr', ?_,
    fun p hp hd => ?_, (clogged_iff rfl).2 ⟨rfl, rfl, Nat.le_of_eq hlen.symm, Nat.le_of_eq hlen.symm⟩⟩
  · rw [(List.mem_replicate.1 hd).2]
    exact wellFormed_frame hP h32 hmax
  · rw [reads_append, hreads, reads_overflowing, nexts_replicate hP rfl alice h32 hmax, List.replicate_succ']
  · -- it would have to be so at the end
    obtain ⟨h₁, h₂, t, -, -, hs, hr₂⟩ := hr'.of_mem hp
    have hgone : (overflowing channelCapacity).tunIo = .done := hr₂.invariant (fun s => s.tunIo = .done)
      (tunIo_done_step hs hd) (fun _ _ _ ih hs => tunIo_done_step hs ih)
    cases hgone

/-! ## The loop comes back to its `select!` -/

/-- Nothing is taken from `next()`, and nothing fails. -/
def quiet : Action → Bool
  | .conn _ (.receive _ _ _ _) => false
  | .conn _ .readEnd           => false
  | .conn _ (.sent ok)         => ok
  | .tunIo (.written ok)       => ok
  | .tunIo (.sentDirect ok)    => ok
  | .tunIo .failed             => false
  | _                          => true

/-- The machine can go on, with nothing read and nothing failing, to where the loop is in its `select!`. -/
def Returns (s : Server) : Prop :=
  ∃ acts s' conn, Machine.exec step s acts = some s' ∧ (∀ a ∈ acts, quiet a = true) ∧ s'.conns[0]? = some conn ∧
    conn.peer = none ∧ conn.phase = .select

/-- The loop stands at `phase`, in a state of some run. -/
def LoopAt (s : Server) (phase : Phase) : Prop :=
  ∃ h conn, ServerRun .datagram h s ∧ s.conns[0]? = some conn ∧ conn.phase = phase

theorem transportQueue_le {transport : Transport} {h : List (Server × Action)} {s : Server}
    (hr : ServerRun transport h s) : s.transportQueue.length ≤ channelCapacity := by
  refine hr.invariant (fun s => s.transportQueue.length ≤ channelCapacity) (Nat.zero_le _) (fun s a s' ih hs => ?_)
  cases a with
  | clock now => cases hs; exact ih
  | accept peer => obtain ⟨-, rfl⟩ := step_accept hs; exact ih
  | conn c act =>
    obtain ⟨conn, conn', t, -, hcs, rfl⟩ := step_connStep hs
    show t.transportQueue.length ≤ channelCapacity
    cases hcs with
    | enqueued _ _ hroom =>
      rw [List.length_append]
      exact hroom
    | _ => exact ih
  | tunPacket act =>
    cases tunPacketStep_spec hs with
    | send _ hsend =>
      rcases sendToClient_spec hsend with rfl | ⟨c, conn, -, -, -, -, rfl⟩
      · exact ih
      · exact ih
    | _ => exact ih
  | tunIo act =>
    cases tunIoStep_spec hs with
    | recv _ hq =>
      rw [hq] at ih
      exact Nat.le_of_succ_le ih
    | _ => exact ih
  | cleanup act => cases cleanupStep_spec hs <;> exact ih

section Returns

variable {s s' : Server} {phase : Phase} {a : Action}

theorem Returns.step (hs : step s a = some s') (ha : quiet a = true) (h : Returns s') : Returns s := by
  obtain ⟨acts, t, conn, he, hq, hsel⟩ := h
  refine ⟨a :: acts, t, conn, by rw [Machine.exec_cons, hs]; exact he, fun x hx => ?_, hsel⟩
  rcases List.mem_cons.1 hx with rfl | hx
  · exact ha
  · exact hq x hx

theorem LoopAt.transportQueue_le (h : LoopAt s phase) : s.transportQueue.length ≤ channelCapacity := by
  obtain ⟨h, conn, hr, -⟩ := h
  exact Easynet.transportQueue_le hr

/-- A step of another task leaves the loop where it stands. -/
theorem LoopAt.other (h : LoopAt s phase) (hs : step s a = some s') (ha : ∀ act, a ≠ .conn 0 act) : LoopAt s' phase := by
  obtain ⟨h, conn, hr, hc, hp⟩ := h
  obtain ⟨conn', hc', -, ⟨hp', -⟩ | ⟨act, -, rfl, -⟩⟩ := step_conn_forward hs hc
  · exact ⟨_, conn', hr.snoc hs, hc', hp'.trans hp⟩
  · exact absurd rfl (ha act)

/-- It is enough that the loop comes back after one of its own steps. -/
theorem Returns.of_own (h : LoopAt s phase) (act : ConnAct) (ha : quiet (.conn 0 act) = true)
    (hown : ∀ conn : Conn, conn.phase = phase → ∃ conn' t, ConnStep s 0 conn act conn' t ∧
      ∀ s', LoopAt s' conn'.phase → Returns s') : Returns s := by
  obtain ⟨h, conn, hr, hc, hp⟩ := h
  obtain ⟨conn', t, hcs, hret⟩ := hown conn hp
  have hs : Easynet.step s (.conn 0 act) = some (t.setConn 0 conn') := by
    simp only [Easynet.step, hc]
    exact hcs.connStep_eq
  exact .step hs ha (hret _ ⟨_, conn', hr.snoc hs, hcs.conn_after hc, rfl⟩)

theorem Returns.of_select (h : LoopAt s .select) : Returns s := by
  obtain ⟨h, conn, hr, hc, hp⟩ := h
  exact ⟨[], s, conn, rfl, fun _ ha => absurd ha List.not_mem_nil, hc, (loop_invariant hr hc).1, hp⟩

/-- Nobody but the cleanup task can keep `SESSIONS` from the loop. -/
theorem LoopAt.lock_eq_none {k : Section} (h : LoopAt s (.waiting k)) (hcl : s.cleanup ≠ .holding) : s.lock = none := by
  obtain ⟨h, conn, hr, hc, hp⟩ := h
  obtain ⟨htp, hlen⟩ := datagram_tasks hr
  cases hl : s.lock with
  | none => rfl
  | some u =>
    have hu := (lock_iff hr u).1 hl
    cases u with
    | conn i =>
      -- the loop is the only connection task, and it is waiting
      by_cases hi : i = 0
      · rw [hi, Server.holds, phaseOf_eq hc, hp] at hu; cases hu
      · have hnone : s.conns[i]? = none := List.getElem?_eq_none_iff.2 (by omega)
        rw [Server.holds, Server.phaseOf, hnone] at hu; cases hu
    | tunPacket => rw [Server.holds, htp] at hu; cases hu
    | tunIo => cases hu
    | cleanup => exact absurd (of_decide_eq_true hu) hcl

theorem Returns.of_waiting {k : Section} (h : LoopAt s (.waiting k)) (hk : ∀ s', LoopAt s' (.holding k) → Returns s') :
    Returns s := by
  have hfree : ∀ {s : Server}, LoopAt s (.waiting k) → s.cleanup ≠ .holding → Returns s := fun h hcl =>
    .of_own h .lock rfl (fun _ hp => ⟨_, _, .lock hp (h.lock_eq_none hcl), hk⟩)
  by_cases hcl : s.cleanup = .holding
  · -- the round of the cleanup task can be finished
    have hs : Easynet.step s (.cleanup .round) = some _ := if_pos hcl
    exact .step hs rfl (hfree (h.other hs (fun _ he => Action.noConfusion he)) (fun he => Cleanup.noConfusion he))
  · exact hfree h hcl

theorem Returns.of_insert {call : Call} {client : Client} (h : LoopAt s (.holding (.insert call client))) : Returns s :=
  .of_own h (.body "" none) rfl (fun _ hp => ⟨_, _, .insert hp, fun _ => .of_select⟩)

/-- The reply is sent, and the session is stored. -/
theorem Returns.of_replying {call : Call} (h : LoopAt s (.replying call)) : Returns s :=
  .of_own h (.sent true) rfl (fun _ hp => ⟨_, _, .replied hp, fun _ h => .of_waiting h (fun _ => .of_insert)⟩)

theorem Returns.of_sendingTo {data : Bytes} {addr : SocketAddr} (h : LoopAt s (.sendingTo data addr)) : Returns s :=
  .of_own h (.sent true) rfl (fun _ hp => ⟨_, _, .sentTo hp, fun _ => .of_select⟩)

theorem Returns.of_holding {k : Section} (h : LoopAt s (.holding k)) (hk : ∀ addr, k ≠ .final addr) : Returns s := by
  cases k with
  | lookup src request config providedId =>
    obtain ⟨call, hcall, -⟩ := lookupSession_spec s.sessions s.nextClientId src request config providedId ""
    exact .of_own h (.body "" none) rfl (fun _ hp => ⟨_, _, .lookup hp, fun _ h => .of_replying (hcall ▸ h)⟩)
  | insert call client => exact .of_insert h
  | disconnect addr =>
    obtain ⟨found, hf⟩ := Table.exists_isFind (fun client : Client => decide (client.addr = addr)) s.sessions
    exact .of_own h (.body "" found) rfl (fun _ hp => ⟨_, _, .disconnect hp hf, fun _ => .of_select⟩)
  | final addr => exact absurd rfl (hk addr)
  | toClient data destIp =>
    obtain ⟨found, hf⟩ := Table.exists_isFind (fun client : Client => decide (client.virtualIp = destIp)) s.sessions
    cases hcl : found.bind s.sessions.lookup with
    | none => exact .of_own h (.body "" found) rfl (fun _ hp => ⟨_, _, .toNobody hp hf hcl, fun _ => .of_select⟩)
    | some client =>
      exact .of_own h (.body "" found) rfl (fun _ hp => ⟨_, _, .toClient hp hf hcl, fun _ => .of_sendingTo⟩)

section Data

variable {src : SocketAddr} {payload : Bytes}

theorem Returns.of_room (h : LoopAt s (.data src payload)) (hroom : s.transportQueue.length < channelCapacity) :
    Returns s := by
  by_cases hio : s.tunIo = .done
  · exact .of_own h .enqueue rfl (fun _ hp => ⟨_, _, .dropped hp hio, fun _ => .of_select⟩)
  · exact .of_own h .enqueue rfl (fun _ hp => ⟨_, _, .enqueued hp hio hroom, fun _ => .of_select⟩)

/-- In its `select!`, `tun_io_task` takes a payload from a full channel. -/
theorem Returns.of_tunIo_select (h : LoopAt s (.data src payload)) (hio : s.tunIo = .select) : Returns s := by
  by_cases hroom : s.transportQueue.length < channelCapacity
  · exact .of_room h hroom
  have hle := h.transportQueue_le
  cases hq : s.transportQueue with
  | nil => exact absurd (hq ▸ Nat.zero_lt_succ _) hroom
  | cons first queue =>
    have hs : Easynet.step s (.tunIo .recv) = some { s with tunIo := .writing, transportQueue := queue } := by
      simp only [Easynet.step, tunIoStep, hio, hq]
    refine .step hs rfl (.of_room (h.other hs (fun _ he => Action.noConfusion he)) ?_)
    rw [hq] at hle
    exact hle

/-- `tun_io_task` comes to its `select!`, unless the TUN channel is full as well. -/
theorem Returns.of_data (h : LoopAt s (.data src payload)) (hcl : s.clogged = false) : Returns s := by
  by_cases hroom : s.transportQueue.length < channelCapacity
  · exact .of_room h hroom
  have hnext : ∀ {act s'}, Easynet.step s (.tunIo act) = some s' → quiet (.tunIo act) = true → s'.tunIo = .select →
      Returns s := fun hs ha hsel =>
    .step hs ha (.of_tunIo_select (h.other hs (fun _ he => Action.noConfusion he)) hsel)
  cases hio : s.tunIo with
  | select => exact .of_tunIo_select h hio
  | writing =>
    have hs : Easynet.step s (.tunIo (.written true)) = some { s with tunIo := .select } := if_pos hio
    exact hnext hs rfl rfl
  | sendingDirect =>
    have hs : Easynet.step s (.tunIo (.sentDirect true)) = some { s with tunIo := .select } := if_pos hio
    exact hnext hs rfl rfl
  | done => exact .of_own h .enqueue rfl (fun _ hp => ⟨_, _, .dropped hp hio, fun _ => .of_select⟩)
  | sending data =>
    obtain ⟨_, conn, hr, hc, hp⟩ := h
    obtain ⟨conn₁, hconns⟩ := loop_conn hr
    obtain rfl : conn = conn₁ := List.mem_singleton.1 (hconns ▸ List.mem_of_getElem? hc)
    have halive : s.tunReceiverAlive = true := by simp [Server.tunReceiverAlive, transport_eq hr, hconns, hp]
    have hroom' : s.tunQueue.length < channelCapacity := by
      refine Nat.lt_of_not_le (fun hfull => ?_)
      rw [(clogged_iff hconns).2 ⟨by rw [hp]; rfl, by rw [hio]; rfl, Nat.le_of_not_lt hroom, hfull⟩] at hcl
      cases hcl
    have hs : Easynet.step s (.tunIo .send) = some { s with tunIo := .select, tunQueue := s.tunQueue ++ [data] } := by
      simp only [Easynet.step, tunIoStep, hio, halive, if_pos hroom', if_true]
    exact hnext hs rfl rfl

end Data

/-- **Wherever the loop stands, unless it has ended, it can come back to its `select!`**, if it and `tun_io_task` do not
wait for each other. -/
theorem returns_of_running {h : List (Server × Action)} {conn : Conn} (hr : ServerRun .datagram h s)
    (hc : s.conns[0]? = some conn) (hrun : conn.phase ≠ .done) (hcl : s.clogged = false) : Returns s := by
  obtain ⟨-, hso, -⟩ := loop_invariant hr hc
  have hfinal : ∀ k, conn.phase = .waiting k ∨ conn.phase = .holding k → ∀ addr, k ≠ .final addr := by
    rintro k (hk | hk) addr rfl <;> rw [hk] at hso <;> cases hso
  cases hp : conn.phase with
  | select => exact .of_select ⟨h, conn, hr, hc, hp⟩
  | waiting k => exact .of_waiting ⟨h, conn, hr, hc, hp⟩ (fun _ h => .of_holding h (hfinal k (Or.inl hp)))
  | holding k => exact .of_holding ⟨h, conn, hr, hc, hp⟩ (hfinal k (Or.inr hp))
  | refusing src request =>
    exact .of_own ⟨h, conn, hr, hc, hp⟩ (.sent true) rfl (fun _ hp => ⟨_, _, .refused hp, fun _ => .of_select⟩)
  | replying call => exact .of_replying ⟨h, conn, hr, hc, hp⟩
  | data src payload => exact .of_data ⟨h, conn, hr, hc, hp⟩ hcl
  | keepalive src timestamp =>
    exact .of_own ⟨h, conn, hr, hc, hp⟩ (.sent true) rfl (fun _ hp => ⟨_, _, .keptAlive hp, fun _ => .of_select⟩)
  | forwarding payload => rw [hp] at hso; cases hso
  | sendingTo payload addr => exact .of_sendingTo ⟨h, conn, hr, hc, hp⟩
  | done => exact absurd hp hrun

end Returns

/-! ## The loop and what it reads -/

/-- **The UDP loop goes on to the next well-formed datagram**, from any state of any run on which it has read well-formed
datagrams only and the TUN task is running: it has not ended, and the message of a datagram that comes next is what `next()`
gives.  With no send and no device failing the loop can come to where it takes it, if and only if in no state of the run it
and `tun_io_task` wait for each other at full channels. -/
theorem udp_loop_survives {P : Prost} (hP : P.RoundTrip) {maxFrameSize : Nat} {ds : List Datagram}
    (hds : ∀ d ∈ ds, WellFormed P maxFrameSize d.bytes) {h : List (Server × Action)} {s : Server}
    (hr : ServerRun .datagram h s) (hreads : reads 0 h <+: nexts P (.withMaxFrameSize maxFrameSize) ds)
    (htun : ∀ p ∈ h, p.1.tunIo ≠ .done) (src : SocketAddr)
    {m : Message} (h32 : (P.encodeToVec m).length < 2 ^ 32) (hmax : (P.encodeToVec m).length ≤ maxFrameSize) :
    (∃ conn : Conn, s.conns[0]? = some conn ∧ conn.phase ≠ .done) ∧
    nexts P (.withMaxFrameSize maxFrameSize) (ds ++ [Datagram.mk src (frame (P.encodeToVec m))]) =
      nexts P (.withMaxFrameSize maxFrameSize) ds ++ [some (src, m)] ∧
    ((∃ acts s', Machine.exec step s acts = some s' ∧ (∀ a ∈ acts, quiet a = true) ∧
        ∀ load fresh, (step s' (.conn 0 (.receive src m load fresh))).isSome = true) ↔
      ∀ t ∈ Machine.states h s, t.clogged = false) := by
  have hs : (ByteCodec.withMaxFrameSize maxFrameSize).state = .head := rfl
  obtain ⟨hno, happ⟩ := nexts_wellFormed hs ds [⟨src, frame (P.encodeToVec m)⟩] hds
  obtain ⟨conn, hconns⟩ := loop_conn hr
  have hc : s.conns[0]? = some conn := by rw [hconns]; rfl
  have hrun : conn.phase ≠ .done := by
    intro hd
    rcases (loop_invariant hr hc).2.2 hd with hn | ⟨p, hp, hio⟩
    · exact hno (hreads.subset hn)
    · exact htun p hp hio
  refine ⟨⟨conn, hc, hrun⟩, happ.trans (by rw [nexts_frame hP hs src h32 hmax]), ?_⟩
  rw [clogged_states hr]
  constructor
  · rintro ⟨acts, s', he, -, htake⟩
    cases hcl : s.clogged with
    | false => rfl
    | true =>
      -- the loop would be waiting to put a payload on the channel still
      have hr' := hr.exec_append he
      obtain ⟨conn', hconns'⟩ := loop_conn hr'
      have hdata := ((clogged_iff hconns').1 (clogged_exec hr hcl he)).1
      obtain ⟨t, ht⟩ := Option.isSome_iff_exists.1 (htake none "")
      obtain ⟨conn₁, _, _, hc₁, hcs, -⟩ := step_connStep ht
      obtain rfl : conn₁ = conn' := List.mem_singleton.1 (hconns' ▸ List.mem_of_getElem? hc₁)
      cases hcs with
      | receive hsel => rw [hsel] at hdata; cases hdata
  · intro hcl
    obtain ⟨acts, s', conn', he, hq, hc', hpeer, hsel⟩ := returns_of_running hr hc hrun hcl
    refine ⟨acts, s', he, hq, fun load fresh => ?_⟩
    have hstep : ConnStep s' 0 conn' (.receive src m load fresh) _ _ :=
      .receive hsel (fun peer hp => by rw [hpeer] at hp; cases hp)
    simp only [step, hc', hstep.connStep_eq, Option.isSome_some]

/-- A client's handshake, read, answered and stored by the UDP loop. -/
def udpRun : List Action :=
  [.conn 0 (.receive alice (.handshake ⟨"admin", "", none⟩) (some adminConfig) "s0"), .conn 0 (.sent true),
   .conn 0 .lock, .conn 0 (.body "" none)]

def udpHandshake : Datagram := ⟨alice, frame (proto.encodeToVec (.handshake ⟨"admin", "", none⟩))⟩

theorem udp_loop_survives_handshake :
    ∃ s, ServerRun .datagram (played .datagram udpRun) s ∧ (s.sessions.lookup "s0").map Client.addr = some alice ∧
      (∃ conn : Conn, s.conns[0]? = some conn ∧ conn.phase ≠ .done) ∧
      nexts proto (.withMaxFrameSize 64) ([udpHandshake] ++ [Datagram.mk alice (frame (proto.encodeToVec (.data ⟨[69]⟩)))]) =
        nexts proto (.withMaxFrameSize 64) [udpHandshake] ++ [some (alice, .data ⟨[69]⟩)] ∧
      ∃ acts s', Machine.exec step s acts = some s' ∧ (∀ a ∈ acts, quiet a = true) ∧
        ∀ load fresh, (step s' (.conn 0 (.receive alice (.data ⟨[69]⟩) load fresh))).isSome = true := by
  have hds : ∀ d ∈ [udpHandshake], WellFormed proto 64 d.bytes := by
    intro d hd
    rw [List.mem_singleton.1 hd]
    exact wellFormed_frame Proto.proto_roundTrip (by decide) (by decide)
  have hr : ServerRun .datagram (played .datagram udpRun) _ := played_run (by decide)
  obtain ⟨hrun, hnext, hback⟩ := udp_loop_survives Proto.proto_roundTrip hds hr (by decide) (by decide) alice
    (m := .data ⟨[69]⟩) (by decide) (by decide)
  exact ⟨_, hr, by decide, hrun, hnext, hback.2 (by decide)⟩

/-- One byte from anyone, too short to be a header, ends the loop for the client whose session is stored, with the TUN task
running. -/
theorem short_datagram_ends_udp_loop :
    ∃ (s : Server) (conn : Conn), ServerRun .datagram (played .datagram (udpRun ++ [Action.conn 0 .readEnd])) s ∧
      reads 0 (played .datagram (udpRun ++ [Action.conn 0 .readEnd])) = nexts proto .new [udpHandshake, ⟨attacker, [0]⟩] ∧
      s.tunIo = .select ∧ (s.sessions.lookup "s0").map Client.addr = some alice ∧
      s.conns[0]? = some conn ∧ conn.phase = .done :=
  ⟨_, _, played_run (by decide), by decide, by decide, by decide, rfl, by decide⟩

end Easynet
