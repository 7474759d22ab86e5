import Easynet.Resume
/-!
# Leaving — what the end of a connection does to the table

A stream connection ends in its final `handle_disconnect`, which removes one entry with the peer's address.  One
connection can store several sessions, so entries of an ended connection are left behind exactly if there were two at its
end, or if a handshake is stored for the address afterwards (`staleFree_iff`).  On the other hand a session that another
connection has taken over has that connection's address, and no disconnect of the connection it came from removes it
(`taken_over_kept`).
-/
namespace Easynet

open Machine (Run Throughout throughout_snoc)

/-! ## Whose a stored session is -/

/-- **A stored session has the sender of the task that stored it, and the address of the task's peer.** -/
theorem stored_by {transport : Transport} {h : List (Server × Action)} {s : Server} (hr : ServerRun transport h s)
    {id : String} {client : Client} (hl : s.sessions.lookup id = some client) :
    ∃ (c : Nat) (conn : Conn), s.conns[c]? = some conn ∧ client.tx = conn.sender c ∧
      ∀ peer, conn.peer = some peer → peer = client.addr := by
  refine hr.history_invariant (fun _ s => ∀ client, s.sessions.lookup id = some client → ∃ (c : Nat) (conn : Conn),
      s.conns[c]? = some conn ∧ client.tx = conn.sender c ∧ ∀ peer, conn.peer = some peer → peer = client.addr)
    (fun client hl => by cases hl) (fun h s a s' hr ih hs client hl => ?_) client hl
  -- the task that stored it is still there, with the peer it had
  have hkeep : ∀ (c : Nat) (conn : Conn), s.conns[c]? = some conn → client.tx = conn.sender c →
      (∀ peer, conn.peer = some peer → peer = client.addr) → ∃ (c : Nat) (conn : Conn), s'.conns[c]? = some conn ∧
        client.tx = conn.sender c ∧ ∀ peer, conn.peer = some peer → peer = client.addr := by
    intro c conn hc htx hpeer
    obtain ⟨conn', hc', hpeer', -⟩ := step_conn_forward hs hc
    refine ⟨c, conn', hc', htx.trans ?_, hpeer' ▸ hpeer⟩
    rw [Conn.sender, Conn.sender, hpeer']
  rcases lookup_of_step hs hl with ⟨call, ho, -⟩ | ⟨hold, -⟩
  · obtain ⟨c, conn, -, -, -, hc, -, htx, -, hpeer⟩ := insert_by hr ho
    exact hkeep c conn hc htx hpeer
  · obtain ⟨c, conn, hc, htx, hpeer⟩ := ih client hold
    exact hkeep c conn hc htx hpeer

/-! ## The end of a connection -/

theorem dispatch_done (nextClientId : UInt32) (src : SocketAddr) (msg : Message) (load : Option ServerConfig)
    (fresh : String) : (dispatch nextClientId src msg load fresh).1 ≠ .done := by
  have hd := dispatch_spec nextClientId src msg load fresh
  generalize dispatch nextClientId src msg load fresh = d at hd
  cases hd <;> exact fun he => Phase.noConfusion he

/-- A task with a peer ends with its final `handle_disconnect`. -/
theorem ConnStep.done {s t : Server} {c : Nat} {conn conn' : Conn} {act : ConnAct} (h : ConnStep s c conn act conn' t)
    (ht : s.transport = .stream) {peer : SocketAddr} (hpeer : conn.peer = some peer) (hd : conn'.phase = .done) :
    ∃ addr fresh found, act = .body fresh found ∧ conn.phase = .holding (.final addr) ∧
      findAddr addr s.sessions found = true ∧ t.sessions = handleDisconnect found s.sessions := by
  cases h with
  | receive => exact absurd hd (dispatch_done _ _ _ _ _)
  | readEnd | forwardFailed => simp only [Conn.afterLoop, hpeer] at hd; cases hd
  | tunClosed _ ht' => cases ht.symm.trans ht'
  | @lookup src request config providedId fresh =>
    obtain ⟨call, hcall, -⟩ := lookupSession_spec s.sessions s.nextClientId src request config providedId fresh
    rw [hcall] at hd
    cases hd
  | final hp hf => exact ⟨_, _, _, rfl, hp, hf, rfl⟩
  | _ => cases hd

/-- No later connection has had the address. -/
def Server.Latest (s : Server) (c : Nat) (addr : SocketAddr) : Prop :=
  ∀ (i : Nat) (conn : Conn), c < i → s.conns[i]? = some conn → conn.peer ≠ some addr

/-- **No session has the address or the sender of a connection that has ended**, as far as no later connection has had the
address. -/
def StaleFree (s : Server) : Prop :=
  ∀ (c : Nat) (conn : Conn) (addr : SocketAddr), s.conns[c]? = some conn → conn.phase = .done → conn.peer = some addr →
    s.Latest c addr → ∀ id client, s.sessions.lookup id = some client → client.addr ≠ addr ∧ client.tx ≠ .conn c

/-- A step leaves nothing of an ended connection behind: a final `handle_disconnect` has at most one entry to remove, and
no session is stored for the address of a connection that has ended. -/
structure LeavesNothing (s : Server) (a : Action) : Prop where
  final : ∀ (c : Nat) (conn : Conn) (addr : SocketAddr) (fresh : String) (found : Option String),
    a = .conn c (.body fresh found) → s.conns[c]? = some conn → conn.phase = .holding (.final addr) → s.Latest c addr →
    ∀ id₁ id₂ client₁ client₂, s.sessions.lookup id₁ = some client₁ → s.sessions.lookup id₂ = some client₂ →
      client₁.addr = addr → client₂.addr = addr → id₁ = id₂
  insert : ∀ call client, sessionOp s a = some (.insert call client) → ∀ (c : Nat) (conn : Conn), s.conns[c]? = some conn →
    conn.phase = .done → conn.peer = some client.addr → ¬ s.Latest c client.addr

section Step

variable {h : List (Server × Action)} {s s' : Server} {a : Action}

theorem Latest_of_step (hs : step s a = some s') {c : Nat} {addr : SocketAddr} (hlat : s'.Latest c addr) :
    s.Latest c addr := by
  intro i conn hi hc
  obtain ⟨conn', hc', hpeer, -⟩ := step_conn_forward hs hc
  rw [← hpeer]
  exact hlat i conn' hi hc'

theorem Latest_conn (hs : step s a = some s') (ha : ∀ peer, a ≠ .accept peer) {c : Nat} {addr : SocketAddr}
    (hlat : s.Latest c addr) : s'.Latest c addr := by
  intro i conn' hi hc'
  rcases step_conn hs hc' with ⟨conn, hc, -, hpeer, -⟩ | ⟨peer, he, -⟩ | ⟨conn, act, t, -, hc, hcs⟩
  · rw [hpeer]; exact hlat i conn hi hc
  · exact absurd he (ha peer)
  · rw [hcs.frame.peer]; exact hlat i conn hi hc

theorem step_final {c : Nat} {conn : Conn} {addr : SocketAddr} {fresh : String} {found : Option String}
    (hs : step s (.conn c (.body fresh found)) = some s') (hc : s.conns[c]? = some conn)
    (hp : conn.phase = .holding (.final addr)) :
    s'.conns[c]? = some { conn with phase := .done } ∧ s'.sessions = handleDisconnect found s.sessions := by
  simp only [step, hc, connStep, hp, sectionBody] at hs
  split at hs
  · cases hs
    exact ⟨(getElem?_setConn hc { conn with phase := .done } c).trans (if_pos rfl), rfl⟩
  · cases hs

/-- An ended task stays as it is. -/
theorem done_of_step (hs : step s a = some s') {c : Nat} {conn : Conn} (hc : s.conns[c]? = some conn)
    (hd : conn.phase = .done) : ∃ conn', s'.conns[c]? = some conn' ∧ conn'.phase = .done ∧ conn'.peer = conn.peer := by
  obtain ⟨conn', hc', hpeer, ⟨hphase, -⟩ | ⟨act, t, -, hcs⟩⟩ := step_conn_forward hs hc
  · exact ⟨conn', hc', hphase.trans hd, hpeer⟩
  · exact absurd hd hcs.not_done

theorem leavesNothing_of_staleFree (hr : ServerRun .stream h s) (hs : step s a = some s') (hfree : StaleFree s') :
    LeavesNothing s a := by
  constructor
  · rintro c conn addr fresh found rfl hc hp hlat id₁ id₂ client₁ client₂ h₁ h₂ ha₁ ha₂
    by_contra hne
    obtain ⟨peer, hpeer⟩ := peer_of_stream hr hc
    obtain rfl := leaving_peer hr hc (by rw [hp]; rfl) peer hpeer
    obtain ⟨hc', hsessions⟩ := step_final hs hc hp
    have hstale := hfree c _ peer hc' rfl hpeer (Latest_conn hs (fun _ he => Action.noConfusion he) hlat)
    -- the search removes one of the two, and the other stays
    by_cases hf : found = some id₁
    · have hl : s'.sessions.lookup id₂ = some client₂ := by
        rw [hsessions, lookup_handleDisconnect, if_neg (fun he => hne (Option.some.inj (hf.symm.trans he))), h₂]
      exact (hstale id₂ client₂ hl).1 ha₂
    · have hl : s'.sessions.lookup id₁ = some client₁ := by
        rw [hsessions, lookup_handleDisconnect, if_neg hf, h₁]
      exact (hstale id₁ client₁ hl).1 ha₁
  · intro call client ho c conn hc hd hpeer hlat
    obtain ⟨conn', hc', hd', hpeer'⟩ := done_of_step hs hc hd
    obtain ⟨i, conni, fresh, found, rfl, -, -⟩ := insert_of_sessionOp ho
    have hl : s'.sessions.lookup call.sessionId = some client := by
      rw [step_sessions hs, ho]
      exact AList.lookup_insert _
    have hlat' := Latest_conn hs (fun _ he => Action.noConfusion he) hlat
    exact (hfree c conn' client.addr hc' hd' (hpeer'.trans hpeer) hlat' call.sessionId client hl).1 rfl

theorem staleFree_of_leavesNothing (hr : ServerRun .stream h s) (hs : step s a = some s') (hfree : StaleFree s)
    (hnone : LeavesNothing s a) : StaleFree s' := by
  intro c conn' addr hc' hd' hpeer' hlat' id client hl
  have hlat := Latest_of_step hs hlat'
  rcases step_conn hs hc' with ⟨conn, hc, hphase, hpeer, hne⟩ | ⟨peer, -, -, -, rfl⟩ | ⟨conn, act, t, rfl, hc, hcs⟩
  · -- it had ended before
    have hd : conn.phase = .done := hphase.symm.trans hd'
    have haddr : conn.peer = some addr := hpeer.symm.trans hpeer'
    rcases lookup_of_step hs hl with ⟨call, ho, -⟩ | ⟨hold, -⟩
    · refine ⟨fun he => ?_, fun htx => ?_⟩
      · subst he
        exact hnone.insert call client ho c conn hc hd haddr hlat
      · obtain ⟨i, conni, fresh, found, rfl, -, -, hsender, -⟩ := insert_by hr ho
        obtain ⟨rfl, -⟩ := sender_eq (hsender.symm.trans htx)
        exact hne _ rfl
    · exact hfree c conn addr hc hd haddr hlat id client hold
  · cases hd'
  · -- it ends in this step
    have haddr : conn.peer = some addr := hcs.frame.peer.symm.trans hpeer'
    obtain ⟨addr', fresh, found, rfl, hp, hf, -⟩ := hcs.done (transport_eq hr) haddr hd'
    obtain rfl := leaving_peer hr hc (by rw [hp]; rfl) addr haddr
    obtain ⟨-, hsessions⟩ := step_final hs hc hp
    rw [hsessions, lookup_handleDisconnect] at hl
    split at hl
    · cases hl
    rename_i hfound
    have hother : client.addr ≠ addr := by
      intro he
      cases found with
      | none =>
        -- the search has found nothing, so there was nothing
        have hall := List.all_eq_true.1 hf ⟨id, client⟩ (Table.lookup_eq_some_iff.1 hl)
        simp [he] at hall
      | some id' =>
        obtain ⟨client', hl', ha'⟩ := Table.isFind_some hf
        have hone := hnone.final c conn addr fresh (some id') rfl hc hp hlat id' id client' client hl' hl
          (of_decide_eq_true ha') he
        exact hfound (congrArg some hone)
    refine ⟨hother, fun htx => hother ?_⟩
    obtain ⟨i, conni, hci, hsender, hpeeri⟩ := stored_by hr hl
    obtain ⟨rfl, -⟩ := sender_eq (hsender.symm.trans htx)
    cases hc.symm.trans hci
    exact (hpeeri addr haddr).symm

end Step

/-- **In every state of a run of a stream server no session has the address or the sender of a connection that has ended, if
and only if each final `handle_disconnect` finds at most one entry with its address and no session is stored for the
address of a connection that has ended** (as far as no later connection has had the address). -/
theorem staleFree_iff {h : List (Server × Action)} {s : Server} (hr : ServerRun .stream h s) :
    (Throughout (fun _ t _ => StaleFree t) h ∧ StaleFree s) ↔ Throughout (fun _ t a => LeavesNothing t a) h := by
  induction hr with
  | nil =>
    refine ⟨fun _ i hi => absurd hi (Nat.not_lt_zero i), fun _ => ⟨fun i hi => absurd hi (Nat.not_lt_zero i), ?_⟩⟩
    intro c conn addr hc
    cases (init_conns hc).1
  | @snoc h s a s' hr hs ih =>
    rw [throughout_snoc, throughout_snoc, ← ih]
    constructor
    · rintro ⟨⟨hall, hfree⟩, hfree'⟩
      exact ⟨⟨hall, hfree⟩, leavesNothing_of_staleFree hr hs hfree'⟩
    · rintro ⟨⟨hall, hfree⟩, hnone⟩
      exact ⟨⟨hall, hfree⟩, staleFree_of_leavesNothing hr hs hfree hnone⟩

/-- A connection with one session, to its end. -/
def oneSessionRun : List Action := handshakeRun "admin" ++ closeRun

theorem staleFree_one_session :
    ∃ s, ServerRun .stream (played .stream oneSessionRun) s ∧ s.phaseOf 0 = some .done ∧
      s.sessions.lookup "s0" = none ∧ StaleFree s := by
  have hr : ServerRun .stream (played .stream oneSessionRun) _ := played_run (by decide)
  refine ⟨_, hr, by decide, by decide, ((staleFree_iff hr).2 (fun i hi => ⟨?_, ?_⟩)).2⟩
  · intro c conn addr fresh found _ _ _ _ id₁ id₂ client₁ client₂ h₁ h₂ _ _
    have hids : Throughout (fun _ t _ => ∀ e ∈ t.sessions.entries, e.1 = "s0") (played .stream oneSessionRun) := by decide
    have hid₁ : id₁ = "s0" := hids i hi ⟨id₁, client₁⟩ (Table.lookup_eq_some_iff.1 h₁)
    have hid₂ : id₂ = "s0" := hids i hi ⟨id₂, client₂⟩ (Table.lookup_eq_some_iff.1 h₂)
    rw [hid₁, hid₂]
  · intro call client ho c conn hc hd
    have hopen : Throughout (fun _ t a => (sessionOp t a).bind SessionOp.inserted ≠ none →
        ∀ conn ∈ t.conns, conn.phase ≠ .done) (played .stream oneSessionRun) := by decide
    exact absurd hd (hopen i hi (by rw [ho]; exact Option.some_ne_none _) conn (List.mem_of_getElem? hc))

/-- Two handshakes without a session id on one connection: its end removes the first session and leaves the second. -/
theorem second_session_left_behind :
    ∃ s, ServerRun .stream (played .stream
        (handshakeRun "admin" ++ shakeHands "s1" :: storeAnswered ++ closeRun)) s ∧
      s.conns = [⟨some alice, .done, []⟩] ∧ s.sessions.lookup "s0" = none ∧
      (s.sessions.lookup "s1").map Client.addr = some alice ∧ (s.sessions.lookup "s1").map Client.tx = some (.conn 0) :=
  ⟨_, played_run (by decide), by decide, by decide, by decide, by decide⟩

/-! ## Sessions that are taken over -/

/-- Tasks that have not ended have different peers. -/
def PeersDistinct (s : Server) : Prop :=
  ∀ (i j : Nat) (conni connj : Conn), i ≠ j → s.conns[i]? = some conni → s.conns[j]? = some connj →
    conni.phase ≠ .done → connj.phase ≠ .done → conni.peer ≠ connj.peer

/-- A disconnect is carried out by the task that was called with it, for its peer's address. -/
theorem disconnect_of_sessionOp {h : List (Server × Action)} {s : Server} (hr : ServerRun .stream h s) {a : Action}
    {addr : SocketAddr} {found : Option String} (ho : sessionOp s a = some (.disconnect addr found)) :
    ∃ (c : Nat) (conn : Conn) (act : ConnAct), a = .conn c act ∧ s.conns[c]? = some conn ∧ conn.phase ≠ .done ∧
      conn.peer = some addr := by
  have hcalled : ∃ (c : Nat) (act : ConnAct) (phase : Phase), a = .conn c act ∧ s.phaseOf c = some phase ∧
      phase.leaving = some addr := by
    unfold sessionOp at ho
    split at ho
    · rename_i c fresh found
      split at ho
      · cases ho
      · rename_i hph
        cases ho
        exact ⟨c, _, _, rfl, hph, rfl⟩
      · rename_i hph
        cases ho
        exact ⟨c, _, _, rfl, hph, rfl⟩
      · cases ho
    · cases ho
    · cases ho
  obtain ⟨c, act, phase, rfl, hph, hleave⟩ := hcalled
  obtain ⟨conn, hc, rfl⟩ := Option.map_eq_some_iff.1 hph
  obtain ⟨peer, hpeer⟩ := peer_of_stream hr hc
  obtain rfl := leaving_peer hr hc hleave peer hpeer
  refine ⟨c, conn, act, rfl, hc, ?_, hpeer⟩
  intro hd
  rw [hd] at hleave
  cases hleave

/-- A task of a stream server that has not disconnected its peer has not ended. -/
theorem alive_of_no_disconnect {s₀ s : Server} {h₀ h : List (Server × Action)} (hr₀ : ServerRun .stream h₀ s₀)
    (hr : Run step s₀ h s) {c : Nat} {conn₀ : Conn} {addr : SocketAddr} (hc₀ : s₀.conns[c]? = some conn₀)
    (hpeer₀ : conn₀.peer = some addr) (halive₀ : conn₀.phase ≠ .done)
    (hstay : ∀ p ∈ h, ∀ act found, p.2 = .conn c act → sessionOp p.1 p.2 ≠ some (.disconnect addr found)) :
    ∃ conn, s.conns[c]? = some conn ∧ conn.peer = some addr ∧ conn.phase ≠ .done := by
  induction hr with
  | nil => exact ⟨conn₀, hc₀, hpeer₀, halive₀⟩
  | @snoc h s a s' hr hs ih =>
    obtain ⟨conn, hc, hpeer, halive⟩ := ih (fun p hp => hstay p (List.mem_append_left _ hp))
    have hlast := hstay (s, a) (List.mem_append_right _ List.mem_cons_self)
    obtain ⟨conn', hc', hpeer', ⟨hphase, -⟩ | ⟨act, t, rfl, hcs⟩⟩ := step_conn_forward hs hc
    · exact ⟨conn', hc', hpeer'.trans hpeer, hphase ▸ halive⟩
    · refine ⟨conn', hc', hpeer'.trans hpeer, fun hd => ?_⟩
      have hrs := hr₀.trans hr
      obtain ⟨addr', fresh, found, rfl, hp, -⟩ := hcs.done (transport_eq hrs) hpeer hd
      obtain rfl := leaving_peer hrs hc (by rw [hp]; rfl) addr hpeer
      exact hlast _ found rfl (by simp only [sessionOp, phaseOf_eq hc, hp])

/-- A task that has stored a session is in its loop again. -/
theorem alive_of_insert {h : List (Server × Action)} {s s' : Server} (hr : ServerRun .stream h s) {c : Nat} {act : ConnAct}
    (hs : step s (.conn c act) = some s') {conn : Conn} (hc : s.conns[c]? = some conn) {call : Call} {client : Client}
    (hp : conn.phase = .holding (.insert call client)) {addr : SocketAddr} (hpeer : conn.peer = some addr) :
    ∃ conn', s'.conns[c]? = some conn' ∧ conn'.peer = some addr ∧ conn'.phase ≠ .done := by
  obtain ⟨conn', hc', hpeer', hafter⟩ := step_conn_forward hs hc
  refine ⟨conn', hc', hpeer'.trans hpeer, fun hd => ?_⟩
  rcases hafter with ⟨hphase, -⟩ | ⟨act, u, -, hcs⟩
  · cases hp.symm.trans (hphase.symm.trans hd)
  · obtain ⟨addr', -, -, -, hfinal, -⟩ := hcs.done (transport_eq hr) hpeer hd
    cases hp.symm.trans hfinal

/-- **A session keeps the address, the sender and the virtual address of the connection that took it over** until another
handshake for it is stored, that connection itself disconnects, or a cleanup round finds it expired; in particular, no
disconnect of another connection that is still there removes it. -/
theorem taken_over_kept {h : List (Server × Action)} {s : Server} (hr : ServerRun .stream h s)
    (hdist : ∀ p ∈ h, PeersDistinct p.1) {h₁ h₂ : List (Server × Action)} {t : Server} {c : Nat} {act : ConnAct}
    {call : Call} {client : Client} (he : h = h₁ ++ (t, .conn c act) :: h₂)
    (hst : sessionOp t (.conn c act) = some (.insert call client))
    (hspare : ∀ p ∈ h₂, ∀ op, sessionOp p.1 p.2 = some op → op.Spares call.sessionId client ∨
      ∃ c' act' addr found, c' ≠ c ∧ p.2 = .conn c' act' ∧ op = .disconnect addr found) :
    s.sessions.lookup call.sessionId = some client ∧
    (∃ conn, t.conns[c]? = some conn ∧ conn.peer = some client.addr) ∧ client.tx = .conn c ∧
    client.virtualIp = call.virtualIp := by
  obtain ⟨hr₁, t', hs, hr₂⟩ := hr.split h₁ t _ h₂ he
  obtain ⟨c', conn, fresh, found, ha, hc, hp, htx, hip, hsrc⟩ := insert_by hr₁ hst
  cases ha
  obtain ⟨peer, hpeer⟩ := peer_of_stream hr₁ hc
  obtain rfl := hsrc peer hpeer
  refine ⟨?_, ⟨conn, hc, hpeer⟩, htx.trans (by rw [Conn.sender, hpeer]), hip⟩
  have hops : sessionOps h = sessionOps h₁ ++ SessionOp.insert call client :: sessionOps h₂ := by
    rw [he, sessionOps_append]; simp [sessionOps, hst]
  refine lookup_of_spares hr hops (fun op hop => ?_)
  obtain ⟨p, hpm, ho⟩ := List.mem_filterMap.1 hop
  rcases hspare p hpm op ho with hsp | ⟨c', act', addr, found', hne, ha, rfl⟩
  · exact hsp
  · -- another task disconnects its peer while this one, too, has not ended
    show addr ≠ client.addr
    obtain ⟨g₁, g₂, -, hg, hrg, -⟩ := hr₂.of_mem hpm
    have hstay : ∀ q ∈ g₁, ∀ act found, q.2 = .conn c act → sessionOp q.1 q.2 ≠ some (.disconnect client.addr found) := by
      intro q hq act found'' hact ho'
      have hq₂ : q ∈ h₂ := hg ▸ List.mem_append_left _ hq
      rcases hspare q hq₂ _ ho' with hsp | ⟨c'', _, _, _, hne', hact', -⟩
      · exact hsp rfl
      · exact hne' (Action.conn.inj (hact'.symm.trans hact)).1
    obtain ⟨conn', hc', hpeer', halive'⟩ := alive_of_insert hr₁ hs hc hp hpeer
    obtain ⟨conn₁, hc₁, hpeer₁, halive₁⟩ := alive_of_no_disconnect (hr₁.snoc hs) hrg hc' hpeer' halive' hstay
    obtain ⟨c'', conn₂, act'', ha'', hc₂, halive₂, hpeer₂⟩ := disconnect_of_sessionOp ((hr₁.snoc hs).trans hrg) ho
    obtain rfl : c'' = c' := (Action.conn.inj (ha''.symm.trans ha)).1
    have hp₁ : p ∈ h := he ▸ List.mem_append_right _ (List.mem_cons_of_mem _ hpm)
    intro heq
    exact hdist p hp₁ c'' c conn₂ conn₁ hne hc₂ hc₁ halive₂ halive₁ (by rw [hpeer₂, hpeer₁, heq])

theorem peersDistinct_of_nodup {s : Server} (hn : (s.conns.map Conn.peer).Nodup) : PeersDistinct s := by
  intro i j conni connj hne hi hj _ _ heq
  have hlt : i < (s.conns.map Conn.peer).length := by
    rw [List.length_map]
    exact (List.getElem?_eq_some_iff.1 hi).1
  refine hne ((List.getElem?_inj hlt hn).1 ?_)
  rw [List.getElem?_map, List.getElem?_map, hi, hj, Option.map_some, Option.map_some, heq]

/-- A second connection takes the first one's session over, and then the first one ends. -/
def takeOverRun : List Action :=
  handshakeRun "admin" ++ returnRun ++ [Action.conn 1 (.body "s1" none), .conn 1 (.sent true), .conn 1 .lock,
    .conn 1 (.body "" none), .conn 0 .readEnd, .conn 0 .lock, .conn 0 (.body "" none)]

theorem taken_over_kept_after_close :
    ∃ s, ServerRun .stream (played .stream takeOverRun) s ∧ s.phaseOf 0 = some .done ∧
      ∃ client, s.sessions.lookup "s0" = some client ∧ client.tx = .conn 1 := by
  have hr : ServerRun .stream (played .stream takeOverRun) _ := played_run (by decide)
  have hpeers : ∀ p ∈ played .stream takeOverRun, (p.1.conns.map Conn.peer).Nodup := by decide
  have hafter : ∀ p ∈ (played .stream takeOverRun).drop 12, ∀ op ∈ sessionOp p.1 p.2,
      op = .disconnect alice none ∧ p.2 = .conn 0 (.body "" none) := by decide
  have hsplit : played .stream takeOverRun = (played .stream takeOverRun).take 11 ++
      (_, .conn 1 (.body "" none)) :: (played .stream takeOverRun).drop 12 := rfl
  have hkept := taken_over_kept hr (fun p hp => peersDistinct_of_nodup (hpeers p hp)) hsplit rfl
    (fun p hp op ho => Or.inr ⟨0, _, _, _, by decide, (hafter p hp op ho).2, (hafter p hp op ho).1⟩)
  exact ⟨_, hr, by decide, _, hkept.1, hkept.2.2.1⟩

end Easynet
