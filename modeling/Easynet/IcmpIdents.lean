import Easynet.IcmpSessions
/-!
# IcmpIdents — the identifiers of live sessions

Identifiers are taken from a counter of 16 bits when a session's sockets are open, and nothing asks which of them are in
use.  So the identifier of a session is its number in the order of the openings, modulo `2 ^ 16`, and live sessions have
distinct identifiers exactly if no two of them were opened a multiple of `2 ^ 16` openings apart (`distinct_iff`).
-/
namespace Easynet

/-- The session that the action has take an identifier. -/
def IcmpAct.opens? : IcmpAct → Option Nat
  | .session i (.opened true) => some i
  | _                         => none

/-- The session has not taken an identifier. -/
def IcmpPhase.waiting : IcmpPhase → Bool
  | .starting | .opening _ => true
  | _                      => false

@[simp] theorem IcmpPhase.waiting_setSocket (f : IcmpSocket → IcmpSocket) (phase : IcmpPhase) :
    (phase.setSocket f).waiting = phase.waiting := by
  cases phase <;> rfl

theorem IcmpAct.opens?_eq_some {a : IcmpAct} {i : Nat} : a.opens? = some i ↔ a = .session i (.opened true) := by
  constructor
  · intro h
    unfold opens? at h
    split at h
    · cases h; rfl
    · cases h
  · rintro rfl
    rfl

/-- **A session takes one identifier in its life**, when it leaves off waiting, and keeps it. -/
theorem IcmpMove.ident {upstream : UpstreamServer} {senders : Bool} {ident : UInt16} {w w' : IcmpWorker}
    {act : IcmpSessionAct} (h : IcmpMove upstream senders ident w act w') :
    (act = .opened true ∧ w.task.waiting = true ∧ w'.task.waiting = false ∧ ∀ y ∈ w'.task.socket, y.proxyIdent = ident) ∨
      (act ≠ .opened true ∧ (w'.task.waiting = true → w.task.waiting = true) ∧
        ∀ y ∈ w'.task.socket, ∃ x ∈ w.task.socket, y.proxyIdent = x.proxyIdent) := by
  cases h with
  | opened hp =>
    refine .inl ⟨rfl, by rw [hp]; rfl, rfl, fun y hy => ?_⟩
    cases hy
    rfl
  | start hp => exact .inr ⟨by decide, fun _ => by rw [hp]; rfl, fun y hy => by cases hy⟩
  | forwarded => exact .inr ⟨by decide, id, fun y hy => ⟨y, hy, rfl⟩⟩
  | recvFailed =>
    refine .inr ⟨by decide, fun h => by simpa [IcmpWorker.to] using h, fun y hy => ?_⟩
    rw [IcmpWorker.to, IcmpPhase.socket_setSocket, Option.mem_def, Option.map_eq_some_iff] at hy
    obtain ⟨x, hx, rfl⟩ := hy
    exact ⟨x, hx, rfl⟩
  | @delivered socket reply replies packet hp =>
    refine .inr ⟨by decide, (fun h => by cases h), fun y hy => ?_⟩
    cases hy
    exact ⟨socket, by rw [hp]; rfl, rfl⟩
  | written hp =>
    refine .inr ⟨by decide, (fun h => by cases h), fun y hy => ?_⟩
    cases hy
    exact ⟨_, by rw [hp]; rfl, rfl⟩
  -- the loop has ended, or was never entered
  | returned | openFailed | sendFailed | invalidRequest | requestsClosed | invalidReply | repliesClosed | timeout
  | writeFailed | remove | finish =>
    exact .inr ⟨(fun h => by cases h), (fun h => by cases h), fun y hy => by cases hy⟩

namespace IcmpProxy

variable {config : ProxyConfig} {s s' : IcmpProxy} {h : List (IcmpProxy × IcmpAct)}

/-- The sessions of a history in the order in which they took their identifiers. -/
def openings (h : List (IcmpProxy × IcmpAct)) : List Nat := h.filterMap (fun p => p.2.opens?)

theorem openings_snoc (h : List (IcmpProxy × IcmpAct)) (s : IcmpProxy) (a : IcmpAct) :
    openings (h ++ [(s, a)]) = openings h ++ a.opens?.toList := by
  rw [openings, List.filterMap_append]
  rfl

theorem mem_openings_snoc {a : IcmpAct} {i : Nat} :
    i ∈ openings (h ++ [(s, a)]) ↔ i ∈ openings h ∨ a = .session i (.opened true) := by
  rw [openings_snoc, List.mem_append, Option.mem_toList, IcmpAct.opens?_eq_some]

/-- The identifier of the session that is opened after `k` others. -/
def identAt (k : Nat) : UInt16 := firstIcmpProxyIdent + UInt16.ofNat k

theorem identAt_inj {k l : Nat} : identAt k = identAt l ↔ k % 65536 = l % 65536 := by
  rw [identAt, identAt, UInt16.add_right_inj, ← UInt16.toNat_inj, UInt16.toNat_ofNat', UInt16.toNat_ofNat']

theorem identAt_succ (k : Nat) : identAt (k + 1) = identAt k + 1 := by
  rw [identAt, identAt, UInt16.ofNat_add, ← UInt16.add_assoc]
  rfl

/-- **Identifiers are given out by number**, each to a session of its own. -/
structure Numbered (h : List (IcmpProxy × IcmpAct)) (s : IcmpProxy) : Prop where
  next : s.nextIcmpProxyIdent = identAt (openings h).length
  nodup : (openings h).Nodup
  spawned : ∀ i ∈ openings h, ∃ w, s.workers[i]? = some w
  waiting : ∀ (i : Nat) (w : IcmpWorker), s.workers[i]? = some w → w.task.waiting = true → i ∉ openings h
  socket : ∀ (i : Nat) (w : IcmpWorker) (x : IcmpSocket), s.workers[i]? = some w → w.task.socket = some x →
    ∃ k, (openings h)[k]? = some i ∧ x.proxyIdent = identAt k

theorem numbered_init : Numbered [] init where
  next := rfl
  nodup := List.nodup_nil
  spawned := fun _ hi => absurd hi List.not_mem_nil
  waiting := fun _ _ hw _ => by cases hw
  socket := fun _ _ _ hw _ => by cases hw

/-- Only an opening moves the counter. -/
theorem step_next {a : IcmpAct} (hs : step config s a = some s') :
    s'.nextIcmpProxyIdent = if a.opens?.isSome then s.nextIcmpProxyIdent + 1 else s.nextIcmpProxyIdent := by
  cases a with
  | inbound act =>
    obtain ⟨t, -, rfl⟩ := step_inbound hs
    rfl
  | arrive source bytes cause =>
    cases hs
    rfl
  | session i act =>
    obtain ⟨w, w', -, -, rfl⟩ := step_session hs
    by_cases hact : act = .opened true
    · subst hact
      rfl
    · have hopens : (IcmpAct.session i act).opens? = none := by
        refine Option.eq_none_iff_forall_ne_some.2 (fun j hj => ?_)
        exact hact (IcmpAct.session.inj (IcmpAct.opens?_eq_some.1 hj)).2
      simp only [advanced, if_neg hact, hopens, Option.isSome_none, Bool.false_eq_true, if_false]

/-- A session that takes an identifier has been waiting for it. -/
theorem waiting_of_opens {i : Nat} (hs : step config s (.session i (.opened true)) = some s') :
    ∃ w, s.workers[i]? = some w ∧ w.task.waiting = true := by
  obtain ⟨w, w', hw, hmove, -⟩ := step_session hs
  rcases hmove.ident with ⟨-, hwaiting, -⟩ | ⟨hne, -⟩
  · exact ⟨w, hw, hwaiting⟩
  · exact absurd rfl hne

theorem Numbered.step_nodup {a : IcmpAct} (hn : Numbered h s) (hs : step config s a = some s') :
    (openings (h ++ [(s, a)])).Nodup := by
  rw [openings_snoc]
  cases ha : a.opens? with
  | none => simpa using hn.nodup
  | some i =>
    have hact := IcmpAct.opens?_eq_some.1 ha
    subst hact
    obtain ⟨w, hw, hwaiting⟩ := waiting_of_opens hs
    exact List.nodup_append'.2 ⟨hn.nodup, List.nodup_singleton i,
      fun j hj hji => hn.waiting i w hw hwaiting (List.mem_singleton.1 hji ▸ hj)⟩

theorem Numbered.step_waiting {a : IcmpAct} (hn : Numbered h s) (hs : step config s a = some s') {i : Nat}
    {w' : IcmpWorker} (hw' : s'.workers[i]? = some w') (hwaiting : w'.task.waiting = true) :
    i ∉ openings (h ++ [(s, a)]) := by
  rw [mem_openings_snoc, not_or]
  cases step_part hs hw' with
  | kept hw htask ha => exact ⟨hn.waiting i _ hw (htask ▸ hwaiting), ha _⟩
  | spawned hw =>
    refine ⟨fun hi => ?_, fun ha => ?_⟩
    · obtain ⟨w, hsome⟩ := hn.spawned i hi
      cases hw.symm.trans hsome
    · subst ha
      obtain ⟨w, hsome, -⟩ := waiting_of_opens hs
      cases hw.symm.trans hsome
  | received hw =>
    refine ⟨hn.waiting i _ hw ?_, fun ha => by cases ha⟩
    simpa [IcmpWorker.receive, IcmpWorker.to] using hwaiting
  | moved hw hm =>
    rcases hm.ident with ⟨-, -, hnot, -⟩ | ⟨hne, hback, -⟩
    · rw [hnot] at hwaiting
      cases hwaiting
    · exact ⟨hn.waiting i _ hw (hback hwaiting), fun ha => hne (IcmpAct.session.inj ha).2⟩

theorem Numbered.step_socket {a : IcmpAct} (hn : Numbered h s) (hs : step config s a = some s') {i : Nat}
    {w' : IcmpWorker} {y : IcmpSocket} (hw' : s'.workers[i]? = some w') (hy : w'.task.socket = some y) :
    ∃ k, (openings (h ++ [(s, a)]))[k]? = some i ∧ y.proxyIdent = identAt k := by
  rw [openings_snoc]
  -- an older number stands
  have hold : ∀ (w : IcmpWorker) (x : IcmpSocket), s.workers[i]? = some w → w.task.socket = some x →
      y.proxyIdent = x.proxyIdent → ∃ k, (openings h ++ a.opens?.toList)[k]? = some i ∧ y.proxyIdent = identAt k := by
    intro w x hw hx hident
    obtain ⟨k, hk, hxk⟩ := hn.socket i w x hw hx
    have hlt := (List.getElem?_eq_some_iff.1 hk).1
    exact ⟨k, (List.getElem?_append_left hlt).trans hk, hident.trans hxk⟩
  cases step_part hs hw' with
  | kept hw htask => exact hold _ y hw (htask ▸ hy) rfl
  | spawned hw htask =>
    rw [htask] at hy
    cases hy
  | received hw =>
    rw [IcmpWorker.receive, IcmpWorker.to, IcmpPhase.socket_setSocket, Option.map_eq_some_iff] at hy
    obtain ⟨x, hx, rfl⟩ := hy
    exact hold _ x hw hx (IcmpSocket.receive_spec _ _ _ x).1
  | moved hw hm =>
    rcases hm.ident with ⟨rfl, -, -, hident⟩ | ⟨-, -, hkept⟩
    · exact ⟨(openings h).length, List.getElem?_concat_length .., (hident y hy).trans hn.next⟩
    · obtain ⟨x, hx, hyx⟩ := hkept y hy
      exact hold _ x hw hx hyx

theorem Numbered.step {a : IcmpAct} (hn : Numbered h s) (hs : IcmpProxy.step config s a = some s') :
    Numbered (h ++ [(s, a)]) s' where
  next := by
    rw [step_next hs, openings_snoc, hn.next]
    cases a.opens? with
    | none => simp
    | some i => simp [identAt_succ]
  nodup := hn.step_nodup hs
  spawned := by
    intro i hi
    rcases mem_openings_snoc.1 hi with hi | rfl
    · obtain ⟨w, hw⟩ := hn.spawned i hi
      exact step_some hs hw
    · obtain ⟨w, hw, -⟩ := waiting_of_opens hs
      exact step_some hs hw
  waiting := fun _ _ hw' hwaiting => hn.step_waiting hs hw' hwaiting
  socket := fun _ _ _ hw' hy => hn.step_socket hs hw' hy

theorem numbered_run (hr : IcmpRun config h s) : Numbered h s :=
  hr.history_invariant Numbered numbered_init (fun _ _ _ _ _ hn hs => hn.step hs)

/-! ## When live sessions have distinct identifiers -/

/-- How many sessions are in their loops. -/
def liveSessions (s : IcmpProxy) : Nat := s.workers.countP (fun w => w.task.socket.isSome)

/-- No two live sessions were opened a multiple of `2 ^ 16` openings apart. -/
def OpenedApart (h : List (IcmpProxy × IcmpAct)) (s : IcmpProxy) : Prop :=
  ∀ k l i j, (openings h)[k]? = some i → (openings h)[l]? = some j → s.live (some i) = true → s.live (some j) = true →
    k ≠ l → k % 65536 ≠ l % 65536

theorem exists_socket_of_live {i : Nat} (hl : s.live (some i) = true) :
    ∃ w x, s.workers[i]? = some w ∧ w.task.socket = some x := by
  rw [live, Option.bind_some, Option.any_eq_true] at hl
  obtain ⟨w, hw, hsocket⟩ := hl
  obtain ⟨x, hx⟩ := Option.isSome_iff_exists.1 hsocket
  exact ⟨w, x, hw, hx⟩

theorem live_of_socket {i : Nat} {w : IcmpWorker} {x : IcmpSocket} (hw : s.workers[i]? = some w)
    (hx : w.task.socket = some x) : s.live (some i) = true := by
  rw [live, Option.bind_some, hw, Option.any_some, hx]
  rfl

/-- The identifier of a live session, by its place among the openings. -/
theorem Numbered.ident_eq (hn : Numbered h s) {k i : Nat} {w : IcmpWorker} {x : IcmpSocket}
    (hk : (openings h)[k]? = some i) (hw : s.workers[i]? = some w) (hx : w.task.socket = some x) :
    x.proxyIdent = identAt k := by
  obtain ⟨k', hk', hident⟩ := hn.socket i w x hw hx
  have hlt := (List.getElem?_eq_some_iff.1 hk).1
  rw [hident, (List.getElem?_inj hlt hn.nodup).1 (hk.trans hk'.symm)]

theorem Numbered.distinct_iff (hn : Numbered h s) : s.Distinct ↔ OpenedApart h s := by
  constructor
  · intro hd k l i j hk hl hi hj hkl hmod
    obtain ⟨w, x, hw, hx⟩ := exists_socket_of_live hi
    obtain ⟨v, y, hv, hy⟩ := exists_socket_of_live hj
    have hij : i ≠ j := by
      rintro rfl
      exact hkl ((List.getElem?_inj (List.getElem?_eq_some_iff.1 hk).1 hn.nodup).1 (hk.trans hl.symm))
    refine hd.ne hw hv hx hy hij ?_
    rw [hn.ident_eq hk hw hx, hn.ident_eq hl hv hy, identAt_inj.2 hmod]
  · intro happart
    refine List.pairwise_iff_getElem.2 (fun i j hi hj hij x hx y hy hxy => ?_)
    have hw := List.getElem?_eq_getElem hi
    have hv := List.getElem?_eq_getElem hj
    obtain ⟨k, hk, hxk⟩ := hn.socket i _ x hw hx
    obtain ⟨l, hl, hyl⟩ := hn.socket j _ y hv hy
    have hkl : k ≠ l := by
      rintro rfl
      exact Nat.ne_of_lt hij (Option.some.inj (hk.symm.trans hl))
    refine happart k l i j hk hl (live_of_socket hw hx) (live_of_socket hv hy) hkl (identAt_inj.1 ?_)
    rw [← hxk, ← hyl, hxy]

/-- **Live sessions have distinct identifiers exactly if no two of them were opened a multiple of `2 ^ 16` openings
apart**, in every state that a run reaches with fewer than `2 ^ 16` live sessions. -/
theorem live_idents_distinct_iff (hr : IcmpRun config h s) :
    (s.liveSessions < 65536 → s.Distinct) ↔ (s.liveSessions < 65536 → OpenedApart h s) :=
  imp_congr_right (fun _ => (numbered_run hr).distinct_iff)

theorem live_idents_distinct_shared : ∃ h s, IcmpRun .plain h s ∧ s.liveSessions = 2 ∧
    ((s.liveSessions < 65536 → s.Distinct) ↔ (s.liveSessions < 65536 → OpenedApart h s)) := by
  have hr : IcmpRun .plain (Machine.trace (step .plain) init sharedRun) _ := Machine.run_get (by decide +kernel)
  exact ⟨_, _, hr, by decide +kernel, live_idents_distinct_iff hr⟩

/-! ## A session that outlives the counter

A first client pings on and on.  A second one's session fails at its first request, so that its next ping opens another;
with the 65536th session after the first the counter is back where it began. -/

def pingKey : IcmpSessionKey := ⟨⟨10, 0, 0, 2⟩, ⟨1, 1, 1, 1⟩, 8, 0, some 7⟩

def otherKey : IcmpSessionKey := ⟨⟨10, 0, 0, 3⟩, ⟨1, 1, 1, 1⟩, 8, 0, some 7⟩

def relaying (key : IcmpSessionKey) (queue : List Bytes) (ident : UInt16) : IcmpWorker :=
  ⟨key, queue, .relay ⟨⟨1, 1, 1, 1⟩, ident, [], true⟩⟩

def failed : IcmpWorker := ⟨otherKey, [], .gone (some .socket)⟩

/-- The first session, and `k` others that came and went. -/
def afterRounds (k : Nat) : IcmpProxy :=
  ⟨⟨(∅ : AList _).insert pingKey 0, .receiving, relaying pingKey [] 0x4000 :: List.replicate k failed⟩, 1, identAt (k + 1)⟩

/-- The other client's ping opens session `i`. -/
def openOther (i : Nat) : List IcmpAct :=
  [.inbound (.recv otherPing), .inbound .lookUp, .inbound .send, .session i .start, .session i (.opened true)]

/-- The session ends, and the first client pings. -/
def failOther (i : Nat) : List IcmpAct :=
  [.session i (.request false), .session i .remove, .session i .finish, .inbound (.recv ping), .inbound .lookUp,
    .inbound .send, .session 0 (.request true)]

section Rounds

variable {ws : List IcmpWorker} {w w' : IcmpWorker} {table : AList (fun _ : IcmpSessionKey => Nat)} {ident : UInt16}

/-- A step of the session that was spawned last. -/
theorem step_last {inbound : Dispatch.Inbound IcmpSessionKey Bytes} {active : Nat} {act : IcmpSessionAct}
    (hact : ∀ senders, icmpSessionStep ProxyConfig.plain.upstream senders ident w act = some w') :
    step .plain ⟨⟨table, inbound, ws ++ [w]⟩, active, ident⟩ (.session ws.length act) =
      some ⟨⟨if act = .remove then table.erase w.key else table, inbound, ws ++ [w']⟩,
        counted ProxyConfig.plain.upstream w act active, advanced act ident⟩ := by
  have hget : (ws ++ [w])[ws.length]? = some w := List.getElem?_concat_length ..
  have hset : (ws ++ [w]).set ws.length w' = ws ++ [w'] := by simp
  simp only [step, hget, Option.bind_some, hact, Option.map_some]
  by_cases hrem : act = .remove
  · subst hrem
    simp [Dispatch.State.removeIf, Dispatch.State.remove, Dispatch.State.put, hset]
  · simp [Dispatch.State.removeIf, Dispatch.State.put, hset, hrem]

/-- The message is sent to the session that was spawned last. -/
theorem send_last {key : IcmpSessionKey} {packet : Bytes} {active : Nat} (hstage : w.task.stage ≠ .gone) :
    step .plain ⟨⟨table, .sending key packet ws.length, ws ++ [w]⟩, active, ident⟩ (.inbound .send) =
      some ⟨⟨table, .receiving, ws ++ [{ w with queue := w.queue ++ [packet] }]⟩, active, ident⟩ := by
  have hget : (ws ++ [w])[ws.length]? = some w := List.getElem?_concat_length ..
  have hset : ∀ v, (ws ++ [w]).set ws.length v = ws ++ [v] := by simp
  simp only [step, inboundStep, Dispatch.State.send, hget, Option.map_some, if_neg hstage, hset]

theorem exec_openOther (ws : List IcmpWorker) (ident : UInt16) :
    Machine.exec (step .plain) ⟨⟨(∅ : AList _).insert pingKey 0, .receiving, ws⟩, 1, ident⟩ (openOther ws.length) =
      some ⟨⟨((∅ : AList _).insert pingKey 0).insert otherKey ws.length, .receiving,
        ws ++ [relaying otherKey [otherPing] ident]⟩, 2, ident + 1⟩ := by
  have hrecv : step .plain ⟨⟨(∅ : AList _).insert pingKey 0, .receiving, ws⟩, 1, ident⟩ (.inbound (.recv otherPing)) =
      some ⟨⟨(∅ : AList _).insert pingKey 0, .looking otherKey otherPing, ws⟩, 1, ident⟩ := rfl
  have hlook : step .plain ⟨⟨(∅ : AList _).insert pingKey 0, .looking otherKey otherPing, ws⟩, 1, ident⟩ (.inbound .lookUp) =
      some ⟨⟨((∅ : AList _).insert pingKey 0).insert otherKey ws.length, .sending otherKey otherPing ws.length,
        ws ++ [⟨otherKey, [], .starting⟩]⟩, 1, ident⟩ := rfl
  have hrunning : IcmpPhase.starting.stage ≠ .gone := by decide
  rw [openOther, Machine.exec_cons, hrecv, Option.bind_some, Machine.exec_cons, hlook, Option.bind_some,
    Machine.exec_cons, send_last hrunning, Option.bind_some, Machine.exec_cons, step_last (fun _ => rfl), Option.bind_some,
    Machine.exec_cons, step_last (fun _ => rfl), Option.bind_some]
  rfl

theorem exec_failOther (rest : List IcmpWorker) (ident : UInt16) :
    Machine.exec (step .plain) ⟨⟨((∅ : AList _).insert pingKey 0).insert otherKey (rest.length + 1), .receiving,
        relaying pingKey [] 0x4000 :: rest ++ [relaying otherKey [otherPing] ident]⟩, 2, ident + 1⟩
        (failOther (rest.length + 1)) =
      some ⟨⟨(∅ : AList _).insert pingKey 0, .receiving, relaying pingKey [] 0x4000 :: rest ++ [failed]⟩, 1, ident + 1⟩ := by
  have hlen : rest.length + 1 = (relaying pingKey [] 0x4000 :: rest).length := rfl
  rw [failOther, hlen, Machine.exec_cons, step_last (fun _ => rfl), Option.bind_some,
    Machine.exec_cons, step_last (fun _ => rfl), Option.bind_some,
    Machine.exec_cons, step_last (fun _ => rfl), Option.bind_some]
  rfl

theorem exec_round (k : Nat) :
    Machine.exec (step .plain) (afterRounds k) (openOther (k + 1) ++ failOther (k + 1)) = some (afterRounds (k + 1)) := by
  have hlen : (relaying pingKey [] 0x4000 :: List.replicate k failed).length = k + 1 := by simp
  have hopen := exec_openOther (relaying pingKey [] 0x4000 :: List.replicate k failed) (identAt (k + 1))
  have hfail := exec_failOther (List.replicate k failed) (identAt (k + 1))
  rw [hlen] at hopen
  rw [List.length_replicate] at hfail
  refine (Machine.exec_trans hopen hfail).trans ?_
  rw [afterRounds, List.replicate_succ', identAt_succ (k + 1)]
  rfl

theorem exec_rounds (n : Nat) : Machine.exec (step .plain) (afterRounds 0)
    ((List.range' 0 n).flatMap (fun k => openOther (k + 1) ++ failOther (k + 1))) = some (afterRounds n) := by
  have hblocks := Machine.exec_blocks afterRounds (fun k => openOther (k + 1) ++ failOther (k + 1)) n
    (fun k _ => exec_round k) n 0 (Nat.le_of_eq (Nat.zero_add n))
  rwa [Nat.zero_add] at hblocks

/-- After `n` such sessions, one that is in its loop. -/
def withOther (n : Nat) : IcmpProxy :=
  ⟨⟨((∅ : AList _).insert pingKey 0).insert otherKey (n + 1), .receiving,
    relaying pingKey [] 0x4000 :: (List.replicate n failed ++ [relaying otherKey [otherPing] (identAt (n + 1))])⟩, 2,
    identAt (n + 2)⟩

theorem run_withOther (n : Nat) : ∃ h, IcmpRun .plain h (withOther n) := by
  have hfirst : Machine.exec (step .plain) init pingRun = some (afterRounds 0) := rfl
  have hlast := exec_openOther (relaying pingKey [] 0x4000 :: List.replicate n failed) (identAt (n + 1))
  rw [List.length_cons, List.length_replicate, ← identAt_succ] at hlast
  exact ⟨_, Machine.run_of_exec (Machine.exec_trans hfirst (Machine.exec_trans (exec_rounds n) hlast))⟩

theorem liveSessions_withOther (n : Nat) : (withOther n).liveSessions = 2 := by
  rw [liveSessions, withOther, List.countP_cons, List.countP_append, List.countP_replicate]
  rfl

theorem not_distinct_withOther {n : Nat} (hn : identAt (n + 1) = 0x4000) : ¬ (withOther n).Distinct := by
  intro hd
  have hpair := (List.pairwise_cons.1 hd).1 _ (List.mem_append_right _ (List.mem_singleton.2 rfl))
  exact hpair _ rfl _ rfl hn.symm

end Rounds

/-- **Two live sessions with one identifier**: the first, and the one opened 65536 openings after it. -/
theorem two_live_one_ident : ∃ h s, IcmpRun .plain h s ∧ s.liveSessions = 2 ∧ ¬ s.Distinct := by
  obtain ⟨h, hr⟩ := run_withOther 65535
  exact ⟨h, _, hr, liveSessions_withOther 65535, not_distinct_withOther (by decide)⟩

end IcmpProxy

end Easynet
