import Easynet.Expiry
/-!
# Address — which virtual address a session has

`allocate_virtual_ip` is called once for every new session id, so the addresses are numbered by the ids handed out:
the session with the `k`-th id has the address of number `k`, for as long as it is carried on (`session_owned`).  The
counter has 32 bits and the address takes its lowest octet, so two sessions have the same address exactly when their
numbers agree modulo 256.
-/
namespace Easynet

open Machine (Run Throughout throughout_snoc)

/-- The new session id that a step takes, with the configuration the session is made from. -/
def allocated (s : Server) : Action → Option (String × ServerConfig)
  | .conn _ (.receive _ ⟨some (.handshake request)⟩ (some config) fresh) =>
    if tokenRefused (provided request.token) config.token then none
    else match provided request.sessionId with
      | some _ => none
      | none   => some (fresh, config)
  | .conn c (.body fresh _) =>
    match s.phaseOf c with
    | some (.holding (.lookup _ _ config providedId)) => match s.sessions.lookup providedId with
      | some _ => none
      | none   => some (fresh, config)
    | _ => none
  | _ => none

/-- The session ids handed out in a run, oldest first. -/
def allocations (h : List (Server × Action)) : List (String × ServerConfig) :=
  h.filterMap (fun p => allocated p.1 p.2)

/-- The address of the `k`-th allocation. -/
def addressOf (k : Nat) : Ipv4Addr := .new 10 0 0 (UInt32.ofNat (2 + k)).toUInt8

theorem allocations_append (h h' : List (Server × Action)) :
    allocations (h ++ h') = allocations h ++ allocations h' := List.filterMap_append ..

theorem allocations_singleton (s : Server) (a : Action) : allocations [(s, a)] = (allocated s a).toList := by
  cases ha : allocated s a <;> simp only [allocations, List.filterMap_cons, ha, List.filterMap_nil, Option.toList]

theorem toNat_lastOctet (k : Nat) : (UInt32.ofNat (2 + k)).toUInt8.toNat = (2 + k) % 256 := by
  rw [UInt32.toNat_toUInt8, UInt32.toNat_ofNat']
  omega

theorem addressOf_eq_iff (i j : Nat) : addressOf i = addressOf j ↔ i % 256 = j % 256 := by
  constructor
  · intro h
    have := congrArg (fun ip => ip.d.toNat) h
    simp only [addressOf, Ipv4Addr.new, toNat_lastOctet] at this
    omega
  · intro h
    have : (UInt32.ofNat (2 + i)).toUInt8 = (UInt32.ofNat (2 + j)).toUInt8 := by
      apply UInt8.toNat_inj.1
      rw [toNat_lastOctet, toNat_lastOctet]
      omega
    rw [addressOf, addressOf, this]

/-! ## What the handlers allocate -/

/-- The handshake a task has settled on a session for. -/
def Phase.call : Phase → Option Call
  | .replying call => some call
  | .waiting k | .holding k => k.pending.map Prod.fst
  | _ => none

/-- A handler leaves the counter alone, or takes the next address for a new session. -/
inductive Allocation (nextClientId : UInt32) : Option (String × ServerConfig) → Phase × UInt32 → Prop
  | none (phase : Phase) (h : phase.call = Option.none) : Allocation nextClientId Option.none (phase, nextClientId)
  | new (src : SocketAddr) (request : Handshake) (config : ServerConfig) (fresh : String) :
      Allocation nextClientId (some (fresh, config)) (newSession nextClientId src request config fresh)

theorem dispatch_allocation (s : Server) (c : Nat) (src : SocketAddr) (msg : Message) (load : Option ServerConfig)
    (fresh : String) :
    Allocation s.nextClientId (allocated s (.conn c (.receive src msg load fresh)))
      (dispatch s.nextClientId src msg load fresh) := by
  have hd := dispatch_spec s.nextClientId src msg load fresh
  generalize dispatch s.nextClientId src msg load fresh = d at hd
  cases hd with
  | noConfig hload => subst hload; exact .none _ rfl
  | refused hload htok => subst hload; simp only [allocated, htok, if_true]; exact .none _ rfl
  | lookup hload htok hid => subst hload; simp only [allocated, htok, hid]; exact .none _ rfl
  | new hload htok hid => subst hload; simp only [allocated, htok, hid]; exact .new src _ _ fresh
  | _ => exact .none _ rfl

/-- **A step of a task takes the next address for a new session, or leaves the counter alone** and is at most carrying
on a handshake it had or a session it found. -/
theorem ConnStep.allocation {s t : Server} {c : Nat} {conn conn' : Conn} {act : ConnAct} (hc : s.conns[c]? = some conn)
    (h : ConnStep s c conn act conn' t) :
    (∃ src request config fresh, allocated s (.conn c act) = some (fresh, config) ∧
      (conn'.phase, t.nextClientId) = newSession s.nextClientId src request config fresh) ∨
    (allocated s (.conn c act) = none ∧ t.nextClientId = s.nextClientId ∧
      ∀ call, conn'.phase.call = some call → conn.phase.call = some call ∨
        ∃ client, s.sessions.lookup call.sessionId = some client ∧ call.virtualIp = client.virtualIp ∧
          call.tunConfig = client.tunConfig) := by
  have hph := phaseOf_eq hc
  cases h with
  | @receive src msg load fresh =>
    have ha := dispatch_allocation s c src msg load fresh
    generalize hd : dispatch s.nextClientId src msg load fresh = d at ha
    generalize hal : allocated s (.conn c (.receive src msg load fresh)) = al at ha
    cases ha with
    | none phase hcall => exact Or.inr ⟨rfl, rfl, fun call h => by rw [hcall] at h; cases h⟩
    | new src request config fresh => exact Or.inl ⟨src, request, config, fresh, rfl, rfl⟩
  | @lookup src request config providedId fresh found hp =>
    rw [hp] at hph
    cases hl : s.sessions.lookup providedId with
    | some client =>
      refine Or.inr ⟨by simp [allocated, hph, hl], by simp [lookupSession, hl], fun call h => Or.inr ⟨client, ?_⟩⟩
      simp only [lookupSession, hl, Phase.call, Option.some.injEq] at h
      subst h
      exact ⟨hl, rfl, rfl⟩
    | none =>
      exact Or.inl ⟨src, request, config, fresh, by simp [allocated, hph, hl], by simp [lookupSession, hl]⟩
  | insert hp | disconnect hp | final hp | toClient hp | toNobody hp =>
    rw [hp] at hph
    exact Or.inr ⟨by simp [allocated, hph], rfl, fun call h => by cases h⟩
  | lock hp | replied hp => exact Or.inr ⟨rfl, rfl, fun call h => Or.inl (by rw [hp]; exact h)⟩
  | readEnd | forwardFailed =>
    refine Or.inr ⟨rfl, rfl, fun call h => ?_⟩
    unfold Conn.afterLoop at h
    split at h <;> cases h
  | _ => exact Or.inr ⟨rfl, rfl, fun call h => by cases h⟩

theorem step_allocation {s s' : Server} {a : Action} (hs : step s a = some s') :
    s'.nextClientId = s.nextClientId + UInt32.ofNat (allocated s a).toList.length := by
  cases a with
  | conn c act =>
    obtain ⟨conn, conn', t, hc, hcs, rfl⟩ := step_connStep hs
    rcases hcs.allocation hc with ⟨src, request, config, fresh, hal, he⟩ | ⟨hal, hn, -⟩
    · rw [hal]; exact congrArg Prod.snd he
    · rw [hal]; exact hn.trans (UInt32.add_zero _).symm
  | _ =>
    have hn := (step_frame hs).nextClientId (fun _ _ he => Action.noConfusion he)
    exact hn.trans (UInt32.add_zero _).symm

/-! ## Over a run -/

theorem nextClientId_eq {transport : Transport} {h : List (Server × Action)} {s : Server} (hr : ServerRun transport h s) :
    s.nextClientId = UInt32.ofNat (2 + (allocations h).length) := by
  induction hr with
  | nil => rfl
  | snoc _ hs ih =>
    rw [step_allocation hs, ih, allocations_append, allocations_singleton, List.length_append, ← Nat.add_assoc,
      ← UInt32.ofNat_add]

/-- The `k`-th allocation of the run was made for `id`, and this is its address and configuration. -/
def Owned (h : List (Server × Action)) (id : String) (virtualIp : Ipv4Addr) (tunConfig : TunConfig) : Prop :=
  ∃ k config, (allocations h)[k]? = some (id, config) ∧ virtualIp = addressOf k ∧
    tunConfig = buildTunConfig config virtualIp

theorem Owned.append {h : List (Server × Action)} {id : String} {virtualIp : Ipv4Addr} {tunConfig : TunConfig}
    (ho : Owned h id virtualIp tunConfig) (h' : List (Server × Action)) :
    Owned (h ++ h') id virtualIp tunConfig := by
  obtain ⟨k, config, hk, hrest⟩ := ho
  refine ⟨k, config, ?_, hrest⟩
  rw [allocations_append, List.getElem?_append_left (List.getElem?_eq_some_iff.1 hk).1]
  exact hk

/-- **Every session of a run, stored or on its way to be, has the address and the configuration it was allocated.** -/
theorem session_owned {transport : Transport} {h : List (Server × Action)} {s : Server} (hr : ServerRun transport h s) :
    (∀ (c : Nat) (conn : Conn) (call : Call), s.conns[c]? = some conn → conn.phase.call = some call →
      Owned h call.sessionId call.virtualIp call.tunConfig) ∧
    (∀ id client, s.sessions.lookup id = some client → Owned h id client.virtualIp client.tunConfig) := by
  induction hr with
  | nil =>
    refine ⟨fun c conn call hc hcall => ?_, fun id client hl => by cases hl⟩
    obtain ⟨-, -, rfl⟩ := init_conns hc
    cases hcall
  | @snoc h s a s' hr hs ih =>
    obtain ⟨ihc, ihs⟩ := ih
    refine ⟨fun c conn' call hc' hcall => ?_, fun id client hl => ?_⟩
    · rcases step_conn hs hc' with ⟨conn, hc, hp, -, -⟩ | ⟨peer, rfl, -, -, rfl⟩ | ⟨conn, act, t, rfl, hc, hcs⟩
      · exact (ihc c conn call hc (hp ▸ hcall)).append _
      · cases hcall
      · rcases hcs.allocation hc with ⟨src, request, config, fresh, hal, he⟩ | ⟨-, -, hkeep⟩
        · -- the new session has the number of the allocations before it
          obtain ⟨hphase, -⟩ := Prod.mk.inj he
          rw [hphase] at hcall
          cases hcall
          refine ⟨(allocations h).length, config, ?_, ?_, rfl⟩
          · rw [allocations_append, allocations_singleton, hal]; simp
          · rw [nextClientId_eq hr]; rfl
        · rcases hkeep call hcall with hold | ⟨client, hl, hip, hcfg⟩
          · exact (ihc c conn call hc hold).append _
          · rw [hip, hcfg]
            exact (ihs _ client hl).append _
    · refine Owned.append ?_ _
      rcases lookup_of_step hs hl with ⟨call, ho, rfl⟩ | ⟨hold, -⟩
      · obtain ⟨c, conn, fresh, found, rfl, hc, hp⟩ := insert_of_sessionOp ho
        obtain ⟨tx, now, rfl, -⟩ := insert_stamped hr hc hp
        exact ihc c conn call hc (by rw [hp]; rfl)
      · exact ihs id client hold

/-- The same of a session that was on its way at some moment of the run. -/
theorem call_owned {transport : Transport} {h : List (Server × Action)} {s : Server} (hr : ServerRun transport h s)
    {p : Server × Action} (hp : p ∈ h) {c : Nat} {conn : Conn} {call : Call} (hc : p.1.conns[c]? = some conn)
    (hcall : conn.phase.call = some call) : Owned h call.sessionId call.virtualIp call.tunConfig := by
  obtain ⟨h₁, h₂, -, rfl, hr₁, -⟩ := hr.of_mem hp
  exact ((session_owned hr₁).1 c conn call hc hcall).append _

/-! ## No two sessions with one address -/

/-- No two stored sessions have the same virtual address. -/
def UniqueAddresses (sessions : Sessions) : Prop :=
  ∀ id₁ id₂ client₁ client₂, sessions.lookup id₁ = some client₁ → sessions.lookup id₂ = some client₂ → id₁ ≠ id₂ →
    client₁.virtualIp ≠ client₂.virtualIp

theorem UniqueAddresses.mono {sessions sessions' : Sessions} (hu : UniqueAddresses sessions)
    (hsub : ∀ id client, sessions'.lookup id = some client → sessions.lookup id = some client) :
    UniqueAddresses sessions' :=
  fun id₁ id₂ client₁ client₂ h₁ h₂ => hu id₁ id₂ client₁ client₂ (hsub _ _ h₁) (hsub _ _ h₂)

/-- An entry stored beside others has an address of its own, or clashes with one of them. -/
theorem uniqueAddresses_insert {sessions : Sessions} (hu : UniqueAddresses sessions) {call : Call} {client : Client} :
    UniqueAddresses (SessionOp.apply sessions (.insert call client)) ↔
      ∀ id other, sessions.lookup id = some other → id ≠ call.sessionId → other.virtualIp ≠ client.virtualIp := by
  have hat : (SessionOp.apply sessions (.insert call client)).lookup call.sessionId = some client :=
    AList.lookup_insert _
  have hother : ∀ id, id ≠ call.sessionId →
      (SessionOp.apply sessions (.insert call client)).lookup id = sessions.lookup id :=
    fun id hne => AList.lookup_insert_ne hne
  constructor
  · intro hu' id other hl hne
    exact hu' id _ other _ ((hother id hne).trans hl) hat hne
  · intro hcond id₁ id₂ client₁ client₂ h₁ h₂ hne
    by_cases e₁ : id₁ = call.sessionId
    · subst e₁
      rw [hother id₂ (Ne.symm hne)] at h₂
      cases hat.symm.trans h₁
      exact (hcond id₂ client₂ h₂ (Ne.symm hne)).symm
    · rw [hother id₁ e₁] at h₁
      by_cases e₂ : id₂ = call.sessionId
      · subst e₂
        cases hat.symm.trans h₂
        exact hcond id₁ client₁ h₁ e₁
      · rw [hother id₂ e₂] at h₂
        exact hu id₁ id₂ client₁ client₂ h₁ h₂ hne

/-- The number of the allocation made for `id`. -/
def allocationOf (h : List (Server × Action)) (id : String) : Nat := ((allocations h).map Prod.fst).idxOf id

theorem Owned.virtualIp_eq {h : List (Server × Action)} {id : String} {virtualIp : Ipv4Addr} {tunConfig : TunConfig}
    (hfresh : ((allocations h).map Prod.fst).Nodup) (ho : Owned h id virtualIp tunConfig) :
    virtualIp = addressOf (allocationOf h id) := by
  obtain ⟨k, config, hk, rfl, -⟩ := ho
  have hk' : ((allocations h).map Prod.fst)[k]? = some id := by rw [List.getElem?_map, hk]; rfl
  obtain ⟨hlt, he⟩ := List.getElem?_eq_some_iff.1 hk'
  rw [allocationOf, ← he, hfresh.idxOf_getElem]

/-- A session id that was allocated once has one address and one configuration. -/
theorem Owned.unique {h : List (Server × Action)} {id : String} {ip₁ ip₂ : Ipv4Addr} {cfg₁ cfg₂ : TunConfig}
    (hfresh : ((allocations h).map Prod.fst).Nodup) (h₁ : Owned h id ip₁ cfg₁) (h₂ : Owned h id ip₂ cfg₂) :
    ip₁ = ip₂ ∧ cfg₁ = cfg₂ := by
  have hip : ip₁ = ip₂ := (h₁.virtualIp_eq hfresh).trans (h₂.virtualIp_eq hfresh).symm
  obtain ⟨k₁, config₁, hk₁, -, rfl⟩ := h₁
  obtain ⟨k₂, config₂, hk₂, -, rfl⟩ := h₂
  have hlt : k₁ < ((allocations h).map Prod.fst).length := by
    rw [List.length_map]
    exact (List.getElem?_eq_some_iff.1 hk₁).1
  have hk : k₁ = k₂ := by
    refine (List.getElem?_inj hlt hfresh).1 ?_
    rw [List.getElem?_map, List.getElem?_map, hk₁, hk₂]
    rfl
  subst hk
  cases hk₁.symm.trans hk₂
  exact ⟨hip, by rw [hip]⟩

theorem Owned.address_eq {h : List (Server × Action)} {id : String} {virtualIp : Ipv4Addr} {tunConfig : TunConfig}
    (ho : Owned h id virtualIp tunConfig) : tunConfig.address = virtualIp.toText := by
  obtain ⟨k, config, -, -, rfl⟩ := ho
  rfl

/-- A step keeps the addresses unique exactly if a session it stores is no multiple of 256 allocations from another. -/
theorem uniqueAddresses_step {transport : Transport} {h : List (Server × Action)} {s s' : Server} {a : Action}
    (hr : ServerRun transport h s) (hfresh : ((allocations h).map Prod.fst).Nodup) (hs : step s a = some s')
    (hu : UniqueAddresses s.sessions) :
    UniqueAddresses s'.sessions ↔ ∀ call client, sessionOp s a = some (.insert call client) →
      ∀ id other, s.sessions.lookup id = some other → id ≠ call.sessionId →
        allocationOf h id % 256 ≠ allocationOf h call.sessionId % 256 := by
  by_cases hins : ∃ call client, sessionOp s a = some (.insert call client)
  · obtain ⟨call, client, ho⟩ := hins
    rw [step_sessions hs, ho]
    show UniqueAddresses (SessionOp.apply s.sessions (.insert call client)) ↔ _
    obtain ⟨c, conn, fresh, found, rfl, hc, hp⟩ := insert_of_sessionOp ho
    obtain ⟨tx, now, rfl, -⟩ := insert_stamped hr hc hp
    have hnew : call.virtualIp = addressOf (allocationOf h call.sessionId) :=
      ((session_owned hr).1 c conn call hc (by rw [hp]; rfl)).virtualIp_eq hfresh
    -- two different entries clash exactly if their numbers agree modulo 256
    have hclash : ∀ id other, s.sessions.lookup id = some other →
        (other.virtualIp = call.virtualIp ↔ allocationOf h id % 256 = allocationOf h call.sessionId % 256) := by
      intro id other hl
      rw [hnew, ((session_owned hr).2 id other hl).virtualIp_eq hfresh, addressOf_eq_iff]
    rw [uniqueAddresses_insert hu]
    constructor
    · rintro hcond _ _ ⟨⟩ id other hl hne he
      exact hcond id other hl hne ((hclash id other hl).2 he)
    · intro hcond id other hl hne he
      exact hcond call _ rfl id other hl hne ((hclash id other hl).1 he)
  · -- nothing is stored: what is stored after the step was before
    refine ⟨fun _ call client he => absurd ⟨call, client, he⟩ hins, fun _ => hu.mono (fun id client hl => ?_)⟩
    rcases lookup_of_step hs hl with ⟨call, ho, -⟩ | ⟨hold, -⟩
    · exact absurd ⟨call, client, ho⟩ hins
    · exact hold

/-- **The stored sessions have different addresses in every state of a run, if and only if no session is stored beside one
whose address was allocated a multiple of 256 allocations earlier or later.** -/
theorem uniqueAddresses_iff {transport : Transport} {h : List (Server × Action)} {s : Server}
    (hr : ServerRun transport h s) (hfresh : ((allocations h).map Prod.fst).Nodup) :
    (Throughout (fun _ t _ => UniqueAddresses t.sessions) h ∧ UniqueAddresses s.sessions) ↔
    Throughout (fun h t a => ∀ call client, sessionOp t a = some (.insert call client) →
      ∀ id other, t.sessions.lookup id = some other → id ≠ call.sessionId →
        allocationOf h id % 256 ≠ allocationOf h call.sessionId % 256) h := by
  induction hr with
  | nil => exact ⟨fun _ i hi => absurd hi (Nat.not_lt_zero i),
      fun _ => ⟨fun i hi => absurd hi (Nat.not_lt_zero i), fun _ _ _ _ h₁ => by cases h₁⟩⟩
  | @snoc h s a s' hr hs ih =>
    have hfresh' : ((allocations h).map Prod.fst).Nodup := by
      rw [allocations_append, List.map_append] at hfresh
      exact hfresh.of_append_left
    rw [throughout_snoc, throughout_snoc, ← ih hfresh']
    constructor
    · rintro ⟨⟨hall, hu⟩, hu'⟩
      exact ⟨⟨hall, hu⟩, (uniqueAddresses_step hr hfresh' hs hu).1 hu'⟩
    · rintro ⟨⟨hall, hu⟩, hcond⟩
      exact ⟨⟨hall, hu⟩, (uniqueAddresses_step hr hfresh' hs hu).2 hcond⟩

/-- A new handshake on the first connection, up to its reply. -/
def shakeHands (fresh : String) : Action :=
  .conn 0 (.receive alice (.handshake ⟨"admin", "", none⟩) (some adminConfig) fresh)

def storeAnswered : List Action := [.conn 0 (.sent true), .conn 0 .lock, .conn 0 (.body "" none)]

theorem uniqueAddresses_two :
    let h := played .stream (handshakeRun "admin" ++ shakeHands "s1" :: storeAnswered)
    Throughout (fun _ t _ => UniqueAddresses t.sessions) h ∧
      ∃ p ∈ h, (sessionOp p.1 p.2).isSome = true ∧ p.1.sessions.lookup "s0" ≠ none := by
  refine ⟨((uniqueAddresses_iff (played_run (by decide)) (by decide)).2
    (fun i hi call client ho id other hl hne => ?_)).1, by decide⟩
  have hstored : Throughout (fun h t a => ∀ call ∈ (sessionOp t a).bind SessionOp.inserted, ∀ e ∈ t.sessions.entries,
      e.1 ≠ call.sessionId → allocationOf h e.1 % 256 ≠ allocationOf h call.sessionId % 256)
      (played .stream (handshakeRun "admin" ++ shakeHands "s1" :: storeAnswered)) := by decide
  exact hstored i hi call (by rw [ho]; rfl) ⟨id, other⟩ (Table.lookup_eq_some_iff.1 hl) hne

/-- The first session stored, and the counter at `nextClientId`. -/
def afterFirst (nextClientId : UInt32) : Server :=
  { Server.init .stream with
    nextClientId := nextClientId
    sessions := (∅ : Sessions).insert "s0"
      ⟨alice, .new 10 0 0 2, .conn 0, buildTunConfig adminConfig (.new 10 0 0 2), 0⟩
    conns := [⟨some alice, .select, []⟩] }

def attemptId (k : Nat) : String := String.ofList (List.replicate (k + 1) 'a')

/-- The `k`-th handshake whose reply cannot be sent: it takes an address and stores nothing. -/
def failedHandshake (k : Nat) : List Action := [shakeHands (attemptId k), .conn 0 (.sent false)]

/-- A session, 255 handshakes that fail at the reply, and a second session. -/
def reuseRun : List Action :=
  handshakeRun "admin" ++ ((List.range' 0 255).flatMap failedHandshake ++ shakeHands "s1" :: storeAnswered)

theorem exec_first : Machine.exec step (Server.init .stream) (handshakeRun "admin") = some (afterFirst 3) := rfl

theorem exec_failed (k : Nat) : Machine.exec step (afterFirst (UInt32.ofNat (3 + k))) (failedHandshake k) =
    some (afterFirst (UInt32.ofNat (3 + (k + 1)))) := by
  have hn : UInt32.ofNat (3 + (k + 1)) = UInt32.ofNat (3 + k) + 1 := by rw [← Nat.add_assoc, UInt32.ofNat_add]; rfl
  rw [hn]
  rfl

theorem exec_failures (n : Nat) : Machine.exec step (afterFirst 3) ((List.range' 0 n).flatMap failedHandshake) =
    some (afterFirst (UInt32.ofNat (3 + n))) := by
  have hblocks := Machine.exec_blocks (fun k => afterFirst (UInt32.ofNat (3 + k))) failedHandshake n
    (fun k _ => exec_failed k) n 0 (Nat.le_of_eq (Nat.zero_add n))
  rwa [Nat.zero_add] at hblocks

theorem allocations_reuse :
    (allocations (played .stream reuseRun)).map Prod.fst = "s0" :: ((List.range' 0 255).map attemptId ++ ["s1"]) := by
  have hone : ∀ k, (Machine.trace step (afterFirst (UInt32.ofNat (3 + k))) (failedHandshake k)).filterMap
      (fun p => allocated p.1 p.2) = [(attemptId k, adminConfig)] := fun k => rfl
  have htrace := Machine.trace_blocks (fun k => afterFirst (UInt32.ofNat (3 + k))) failedHandshake 255
    (fun k _ => exec_failed k) 255 0 (by omega)
  have hmid : (Machine.trace step (afterFirst 3) ((List.range' 0 255).flatMap failedHandshake)).filterMap
      (fun p => allocated p.1 p.2) = (List.range' 0 255).map (fun k => (attemptId k, adminConfig)) := by
    refine (congrArg (List.filterMap _) htrace).trans ?_
    rw [List.filterMap_flatMap, List.map_eq_flatMap]
    exact List.flatMap_congr (fun k _ => hone k)
  rw [played, reuseRun, Machine.trace_append exec_first, Machine.trace_append (exec_failures 255), allocations,
    List.filterMap_append, List.filterMap_append, hmid, List.map_append, List.map_append, List.map_map]
  rfl

theorem attemptId_nodup : ("s0" :: ((List.range' 0 255).map attemptId ++ ["s1"])).Nodup := by
  have hinj : Function.Injective attemptId := by
    intro i j h
    have := congrArg (fun s => s.toList.length) h
    simpa [attemptId] using this
  have hne : ∀ k, attemptId k ≠ "s0" ∧ attemptId k ≠ "s1" := by
    intro k
    refine ⟨fun h => ?_, fun h => ?_⟩ <;>
      simpa [attemptId, List.replicate_succ] using congrArg String.toList h
  refine List.nodup_cons.2 ⟨?_, List.nodup_append'.2 ⟨List.Nodup.map hinj List.nodup_range', by simp, ?_⟩⟩
  · simp only [List.mem_append, List.mem_map, not_or]
    exact ⟨fun ⟨k, _, hk⟩ => (hne k).1 hk, by decide⟩
  · intro x hx hx'
    obtain ⟨k, _, rfl⟩ := List.mem_map.1 hx
    exact (hne k).2 (List.mem_singleton.1 hx')

/-- After 256 allocations the next session has the address of the first, which is still stored. -/
theorem address_reused :
    ∃ s, ServerRun .stream (played .stream reuseRun) s ∧
      ((allocations (played .stream reuseRun)).map Prod.fst).Nodup ∧
      (s.sessions.lookup "s0").map Client.virtualIp = some (.new 10 0 0 2) ∧
      (s.sessions.lookup "s1").map Client.virtualIp = some (.new 10 0 0 2) := by
  have hlast : (Machine.exec step (afterFirst 258) (shakeHands "s1" :: storeAnswered)).isSome = true := by decide
  have hexec := Machine.exec_trans exec_first (Machine.exec_trans (exec_failures 255) (Option.some_get hlast).symm)
  exact ⟨_, Machine.run_of_exec hexec, allocations_reuse ▸ attemptId_nodup, rfl, rfl⟩

end Easynet
