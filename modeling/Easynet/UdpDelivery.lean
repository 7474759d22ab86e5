import Easynet.UdpProxy
/-!
# UdpDelivery — what becomes of a datagram

A datagram that passes the filters is held by the receiving task until it hands it to a session, and is then pending until
the session sends it.  It is lost if the session leaves its loop while it is in the channel, or had left before it was put
there: then it lies in a channel that nobody reads, or the send fails.  `accounted` is the balance of one session over a run.
-/
namespace Easynet

open Dispatch (getElem?_set_of_some getElem?_concat_eq_some)
open Machine (Throughout)

def UdpSession.left (session : UdpSession) : Bool := session.phase.result.isSome

/-- The outbound socket could not be made, or an operation on it failed. -/
def UdpSession.failed (session : UdpSession) : Bool := session.phase.result == some .outbound

/-- The datagram in hand. -/
def UdpPhase.current : UdpPhase → List Bytes
  | .sending data => [data]
  | _             => []

/-- The exits of the loop that are not the outbound socket's. -/
def UdpSessionAct.leaves : UdpSessionAct → Bool
  | .closed | .timeout | .replied .failed => true
  | _                                     => false

namespace UdpProxy

def keyed (w : UdpWorker) (datas : List Bytes) : List (UdpKey × Bytes) := datas.map (fun data => (w.key, data))

/-- What a session has still to send. -/
def pending (w : UdpWorker) : List (UdpKey × Bytes) :=
  if w.task.left then [] else keyed w (w.task.phase.current ++ w.queue)

/-- What the receiving task has still to hand over. -/
def held (s : UdpProxy) : List (UdpKey × Bytes) :=
  match s.inbound with
  | .looking key data | .sending key data _ => [(key, data)]
  | _                                       => []

/-! ## What a step does with a datagram -/

def acceptedAt (config : ProxyConfig) (p : UdpProxy × UdpAct) : Option (UdpKey × Bytes) :=
  match p.2 with
  | .inbound (.recv data target client) =>
    if config.filters.isAllowed client.ip target.ip then some ((client, target), data.take maxUdpDatagramSize) else none
  | _ => none

/-- The datagram that is put on a session's channel, or that could not be put there. -/
def handedAt (p : UdpProxy × UdpAct) : Option (Nat × UdpKey × Bytes) :=
  match p.2, p.1.inbound with
  | .inbound .send, .sending key data i => some (i, key, data)
  | _, _                                => none

def sentAt (p : UdpProxy × UdpAct) : Option (Nat × UdpKey × Bytes) :=
  match p.2 with
  | .session i (.sent true) =>
    p.1.workers[i]?.bind (fun w => match w.task.phase with
      | .sending data => some (i, w.key, data)
      | _             => none)
  | _ => none

def ofSession (i : Nat) (d : Nat × UdpKey × Bytes) : Option (UdpKey × Bytes) := if d.1 = i then some d.2 else none

/-- What session `i` is never going to send: its channel as it leaves, and what is handed to it afterwards. -/
def lostAt (i : Nat) (p : UdpProxy × UdpAct) : List (UdpKey × Bytes) :=
  match p.1.workers[i]? with
  | none   => []
  | some w =>
    match p.2 with
    | .session j act => if j = i ∧ act.leaves = true then keyed w w.queue else []
    | .inbound _     => if w.task.left = true ∧ w.task.failed = false then ((handedAt p).bind (ofSession i)).toList else []

section Histories

variable (config : ProxyConfig) (i : Nat) (h : List (UdpProxy × UdpAct))

def accepted : List (UdpKey × Bytes) := h.filterMap (acceptedAt config)

def handed : List (Nat × UdpKey × Bytes) := h.filterMap handedAt

def handedTo : List (UdpKey × Bytes) := (handed h).filterMap (ofSession i)

def sentBy : List (UdpKey × Bytes) := (h.filterMap sentAt).filterMap (ofSession i)

def lost : List (UdpKey × Bytes) := h.flatMap (lostAt i)

variable (p : UdpProxy × UdpAct)

theorem handedTo_snoc : handedTo i (h ++ [p]) = handedTo i h ++ ((handedAt p).bind (ofSession i)).toList := by
  simp only [handedTo, handed, List.filterMap_filterMap]
  exact Machine.filterMap_snoc _ p

theorem sentBy_snoc : sentBy i (h ++ [p]) = sentBy i h ++ ((sentAt p).bind (ofSession i)).toList := by
  simp only [sentBy, List.filterMap_filterMap]
  exact Machine.filterMap_snoc _ p

theorem lost_snoc : lost i (h ++ [p]) = lost i h ++ lostAt i p := by
  rw [lost, List.flatMap_append, List.flatMap_singleton]
  rfl

end Histories

/-! ## One session's part in a step -/

/-- Nothing happens to the datagrams of session `i`. -/
structure Quiet (i : Nat) (p : UdpProxy × UdpAct) : Prop where
  handed : (handedAt p).bind (ofSession i) = none
  sent : (sentAt p).bind (ofSession i) = none
  lost : lostAt i p = []

variable {config : ProxyConfig} {s s' : UdpProxy} {i : Nat}

theorem quiet_session {j : Nat} (hj : j ≠ i) (act : UdpSessionAct) : Quiet i (s, .session j act) where
  handed := rfl
  sent := by
    simp only [sentAt]
    split
    · rename_i k he
      cases he
      cases hw : s.workers[j]? with
      | none => rfl
      | some w =>
        simp only [Option.bind_some]
        split
        · exact if_neg hj
        · rfl
    · rfl
  lost := by
    simp only [lostAt]
    split
    · rfl
    · exact if_neg (fun he => hj he.1)

theorem quiet_inbound {act : UdpInboundAct} (hact : (handedAt (s, .inbound act)).bind (ofSession i) = none) :
    Quiet i (s, .inbound act) where
  handed := hact
  sent := rfl
  lost := by
    simp only [lostAt, hact]
    split
    · rfl
    · split <;> rfl

theorem handedTo_send {key : UdpKey} {data : Bytes} :
    (handedAt (s, .inbound .send)).bind (ofSession i) = some (key, data) ↔ s.inbound = .sending key data i := by
  cases hin : s.inbound with
  | sending key' data' j =>
    simp only [handedAt, hin, Option.bind_some, ofSession, Dispatch.Inbound.sending.injEq]
    split
    · rename_i hj
      simp [hj]
    · rename_i hj
      simp [hj]
  | receiving | looking | removing => simp [handedAt, hin]

theorem handedAt_inbound {act : UdpInboundAct} (hact : act ≠ .send) : handedAt (s, .inbound act) = none := by
  cases act with
  | send => exact absurd rfl hact
  | recvFailed | recv | lookUp | remove => rfl

theorem pending_of_left {w : UdpWorker} (hw : w.task.left = true) : pending w = [] := if_pos hw

theorem pending_of_phase {w : UdpWorker} {phase : UdpPhase} (hp : w.task.phase = phase) (hleft : phase.result = none) :
    pending w = keyed w (phase.current ++ w.queue) := by
  rw [pending, if_neg (by rw [UdpSession.left, hp, hleft]; exact Bool.false_ne_true), hp]

theorem left_of_phase {w : UdpWorker} {phase : UdpPhase} (hp : w.task.phase = phase) :
    w.task.left = phase.result.isSome := by
  rw [UdpSession.left, hp]

theorem pending_push {w : UdpWorker} (hleft : w.task.left = false) (data : Bytes) :
    pending { w with queue := w.queue ++ [data] } = pending w ++ [(w.key, data)] := by
  simp [pending, hleft, keyed]

theorem left_of_gone {session : UdpSession} (hgone : session.stage = .gone) : session.left = true := by
  obtain ⟨outbound, phase⟩ := session
  cases phase with
  | gone => rfl
  | starting | opening | relay | sending | replying | leaving | removed => cases hgone

/-- **One session's part in a step.** -/
inductive Part (p : UdpProxy × UdpAct) (i : Nat) : UdpWorker → Prop
  | same {w : UdpWorker} (hw : p.1.workers[i]? = some w) (hq : Quiet i p) : Part p i w
  | spawned {w : UdpWorker} (hw : p.1.workers[i]? = none) (hq : Quiet i p) (hqueue : w.queue = [])
      (hphase : w.task.phase = .starting) : Part p i w
  | handed {w w' : UdpWorker} {data : Bytes} {act : UdpInboundAct} (ha : p.2 = .inbound act) (hw : p.1.workers[i]? = some w)
      (hd : (handedAt p).bind (ofSession i) = some (w.key, data)) (hkey : w'.key = w.key) (htask : w'.task = w.task)
      (hadd : w.task.left = false → pending w' = pending w ++ [(w.key, data)]) : Part p i w'
  | moved {w w' : UdpWorker} {act : UdpSessionAct} (ha : p.2 = .session i act) (hw : p.1.workers[i]? = some w)
      (hm : UdpMove (p.1.hasSender i) w act w') : Part p i w'

theorem step_part {a : UdpAct} (hinv : (s.protocol UdpSession.stage).Inv) (hs : step config s a = some s') {w' : UdpWorker}
    (hw' : s'.workers[i]? = some w') : Part (s, a) i w' := by
  cases a with
  | session j act =>
    obtain ⟨w, v, hw, hmove, rfl⟩ := step_session hs
    rw [Dispatch.State.getElem?_put hw] at hw'
    split at hw'
    · subst i
      cases hw'
      exact .moved rfl hw hmove
    · rename_i hij
      exact .same hw' (quiet_session (Ne.symm hij) act)
  | inbound act =>
    obtain ⟨t, ht, rfl⟩ := step_inbound hs
    have hquiet (hact : act ≠ .send) : Quiet i (s, .inbound act) :=
      quiet_inbound (by rw [handedAt_inbound hact]; rfl)
    cases act with
    | recvFailed | recv | remove =>
      rw [inboundStep_workers ht nofun nofun] at hw'
      exact .same hw' (hquiet nofun)
    | lookUp =>
      obtain ⟨key, data, hin, ⟨j, hl, rfl⟩ | ⟨hl, rfl⟩⟩ := Dispatch.State.lookUp_eq_some ht
      · exact .same hw' (hquiet nofun)
      · rcases getElem?_concat_eq_some.1 hw' with hw' | ⟨rfl, rfl⟩
        · exact .same hw' (hquiet nofun)
        · exact .spawned (List.getElem?_eq_none (Nat.le_refl _)) (hquiet nofun) rfl rfl
    | send =>
      obtain ⟨key, data, j, w, hin, hw, hcase⟩ := Dispatch.State.send_eq_some ht
      have hhanded : handedAt (s, .inbound .send) = some (j, key, data) := by
        simp only [handedAt, hin]
      -- the session that the receiving task holds has the datagram's key
      have hkey : w.key = key := by
        obtain ⟨⟨stage, hstage⟩, -⟩ := hinv.sending key data j hin
        have := (Dispatch.State.workers_protocol UdpSession.stage hw).symm.trans hstage
        exact congrArg Prod.fst (Option.some.inj this)
      by_cases hij : j = i
      · subst hij hkey
        have hd : (handedAt (s, .inbound .send)).bind (ofSession j) = some (w.key, data) := by
          rw [hhanded]
          exact if_pos rfl
        rcases hcase with ⟨-, rfl⟩ | ⟨hgone, rfl⟩
        · rw [getElem?_set_of_some hw, if_pos rfl] at hw'
          cases hw'
          exact .handed rfl hw hd rfl rfl (fun hleft => pending_push hleft data)
        -- a session whose receiver is gone has left
        · cases hw.symm.trans hw'
          exact .handed rfl hw hd rfl rfl (fun hleft => Bool.noConfusion (hleft.symm.trans (left_of_gone hgone)))
      · refine .same ?_ (quiet_inbound (by rw [hhanded]; exact if_neg hij))
        rcases hcase with ⟨-, rfl⟩ | ⟨-, rfl⟩
        · rwa [getElem?_set_of_some hw, if_neg (Ne.symm hij)] at hw'
        · exact hw'

/-- Before it is spawned, a session has no part in a step. -/
theorem step_fresh {a : UdpAct} (hs : step config s a = some s') (hw' : s'.workers[i]? = none) :
    s.workers[i]? = none ∧ Quiet i (s, a) := by
  cases a with
  | session j act =>
    obtain ⟨w, v, hw, -, rfl⟩ := step_session hs
    rw [Dispatch.State.getElem?_put hw] at hw'
    split at hw'
    · cases hw'
    · rename_i hij
      exact ⟨hw', quiet_session (Ne.symm hij) act⟩
  | inbound act =>
    obtain ⟨t, ht, rfl⟩ := step_inbound hs
    have hnone : s.workers[i]? = none := List.getElem?_eq_none
      (Nat.le_trans (inboundStep_extends ht).length (List.getElem?_eq_none_iff.1 hw'))
    refine ⟨hnone, quiet_inbound ?_⟩
    by_cases hact : act = .send
    · subst hact
      obtain ⟨key, data, j, w, hin, hw, -⟩ := Dispatch.State.send_eq_some ht
      simp only [handedAt, hin]
      exact if_neg (by rintro rfl; cases hw.symm.trans hnone)
    · rw [handedAt_inbound hact]
      rfl

/-- A session goes on under its key. -/
theorem step_key {a : UdpAct} (hinv : (s.protocol UdpSession.stage).Inv) (hs : step config s a = some s') {w : UdpWorker}
    (hw : s.workers[i]? = some w) : ∃ w', s'.workers[i]? = some w' ∧ w'.key = w.key := by
  cases hw' : s'.workers[i]? with
  | none => cases hw.symm.trans (step_fresh hs hw').1
  | some w' =>
    refine ⟨w', rfl, ?_⟩
    cases step_part hinv hs hw' with
    | same hw₀ => rw [Option.some.inj (hw.symm.trans hw₀)]
    | spawned hw₀ => cases hw.symm.trans hw₀
    | handed _ hw₀ _ hkey => rw [hkey, Option.some.inj (hw.symm.trans hw₀)]
    | moved _ hw₀ hm => rw [hm.key, Option.some.inj (hw.symm.trans hw₀)]

/-! ## The balance of a session -/

theorem lostAt_session {w : UdpWorker} (hw : s.workers[i]? = some w) (act : UdpSessionAct) :
    lostAt i (s, .session i act) = if act.leaves then keyed w w.queue else [] := by
  simp only [lostAt, hw, true_and]

theorem lostAt_inbound {w : UdpWorker} (hw : s.workers[i]? = some w) (act : UdpInboundAct) :
    lostAt i (s, .inbound act) = if w.task.left = true ∧ w.task.failed = false
      then ((handedAt (s, .inbound act)).bind (ofSession i)).toList else [] := by
  simp only [lostAt, hw]

theorem lostAt_inbound_eq_nil {w : UdpWorker} (hw : s.workers[i]? = some w)
    (hkeeps : w.task.left = false ∨ w.task.failed = true) (act : UdpInboundAct) : lostAt i (s, .inbound act) = [] := by
  rw [lostAt_inbound hw, if_neg]
  rintro ⟨hleft, hfailed⟩
  rcases hkeeps with hk | hk
  · exact Bool.noConfusion (hk.symm.trans hleft)
  · exact Bool.noConfusion (hfailed.symm.trans hk)

theorem sentAt_sending {w : UdpWorker} {data : Bytes} (hw : s.workers[i]? = some w) (hp : w.task.phase = .sending data) :
    (sentAt (s, .session i (.sent true))).bind (ofSession i) = some (w.key, data) := by
  simp only [sentAt, hw, Option.bind_some, hp]
  exact if_pos rfl

/-- **A session's balance over its own move**: what was pending is sent, pending or lost. -/
theorem balance_move {w w' : UdpWorker} {act : UdpSessionAct} {senders : Bool} (hw : s.workers[i]? = some w)
    (hm : UdpMove senders w act w') (hf : w'.task.failed = false) :
    pending w = ((sentAt (s, .session i act)).bind (ofSession i)).toList ++ pending w' ++ lostAt i (s, .session i act) := by
  rw [lostAt_session hw]
  cases hm with
  | start hp | opened hp | reply hp =>
    rw [pending_of_phase hp rfl, pending_of_phase rfl rfl]
    exact (List.append_nil _).symm
  | @replied data result hp hr =>
    have hstays : UdpSessionAct.leaves (.replied result) = false := by
      cases result with
      | failed => exact absurd rfl hr
      | ok | timedOut => rfl
    rw [pending_of_phase hp rfl, pending_of_phase rfl rfl, hstays]
    exact (List.append_nil _).symm
  | openFailed | sendFailed | recvFailed => cases hf
  | recv hp hq =>
    rw [pending_of_phase hp rfl, hq]
    exact (List.append_nil _).symm
  | closed hp | timeout hp | replyFailed hp =>
    rw [pending_of_phase hp rfl, pending_of_left rfl]
    rfl
  | sent hp =>
    rw [sentAt_sending hw hp, pending_of_phase hp rfl]
    exact (List.append_nil _).symm
  | remove hp | finish hp =>
    rw [pending_of_left (left_of_phase hp), pending_of_left rfl]
    rfl

/-- A session that has lost nothing had lost nothing before its move. -/
theorem intact_move {w w' : UdpWorker} {act : UdpSessionAct} {senders : Bool} (hm : UdpMove senders w act w')
    (hw' : w'.task.left = false ∨ w'.task.failed = true) :
    (w.task.left = false ∨ w.task.failed = true) ∧ act.leaves = false := by
  cases hm with
  | start hp | opened hp | openFailed hp | recv hp | sent hp | sendFailed hp | reply hp | recvFailed hp =>
    exact ⟨.inl (left_of_phase hp), rfl⟩
  | @replied data result hp hr =>
    refine ⟨.inl (left_of_phase hp), ?_⟩
    cases result with
    | failed => exact absurd rfl hr
    | ok | timedOut => rfl
  | closed | timeout | replyFailed => exact absurd hw' (by rintro (h | h) <;> cases h)
  | remove hp | finish hp =>
    refine ⟨.inr ?_, rfl⟩
    rw [UdpSession.failed, hp]
    exact hw'.resolve_left nofun

theorem failed_move {w w' : UdpWorker} {act : UdpSessionAct} {senders : Bool} (hm : UdpMove senders w act w')
    (hf : w'.task.failed = false) : w.task.failed = false := by
  cases hm with
  | start hp | opened hp | openFailed hp | recv hp | closed hp | sent hp | sendFailed hp | reply hp | recvFailed hp
  | replied hp | replyFailed hp | timeout hp =>
    rw [UdpSession.failed, hp]
    rfl
  | remove hp | finish hp =>
    rw [UdpSession.failed, hp]
    exact hf

/-- **What has become of the datagrams of session `i`.** -/
structure Account (i : Nat) (h : List (UdpProxy × UdpAct)) (s : UdpProxy) : Prop where
  fresh : s.workers[i]? = none → handedTo i h = [] ∧ sentBy i h = [] ∧ lost i h = []
  intact : ∀ w, s.workers[i]? = some w → w.task.left = false ∨ w.task.failed = true → lost i h = []
  balance : ∀ w, s.workers[i]? = some w → w.task.failed = false → handedTo i h = sentBy i h ++ pending w ++ lost i h

theorem Account.step {h : List (UdpProxy × UdpAct)} {a : UdpAct} (hacc : Account i h s)
    (hinv : (s.protocol UdpSession.stage).Inv) (hs : UdpProxy.step config s a = some s') :
    Account i (h ++ [(s, a)]) s' := by
  constructor
  · intro hw'
    obtain ⟨hw, hq⟩ := step_fresh hs hw'
    rw [handedTo_snoc, sentBy_snoc, lost_snoc, hq.handed, hq.sent, hq.lost]
    simpa using hacc.fresh hw
  · intro w' hw' hkeeps
    rw [lost_snoc]
    cases step_part hinv hs hw' with
    | same hw hq => rw [hacc.intact _ hw hkeeps, hq.lost]; rfl
    | spawned hw hq => rw [(hacc.fresh hw).2.2, hq.lost]; rfl
    | handed ha hw hd hkey htask =>
      subst ha
      rw [htask] at hkeeps
      rw [hacc.intact _ hw hkeeps, lostAt_inbound_eq_nil hw hkeeps]
      rfl
    | moved ha hw hm =>
      subst ha
      obtain ⟨hkeeps, hstays⟩ := intact_move hm hkeeps
      rw [hacc.intact _ hw hkeeps, lostAt_session hw, hstays]
      rfl
  · intro w' hw' hf
    rw [handedTo_snoc, sentBy_snoc, lost_snoc]
    cases step_part hinv hs hw' with
    | same hw hq =>
      rw [hq.handed, hq.sent, hq.lost, hacc.balance _ hw hf]
      simp
    | spawned hw hq hqueue hphase =>
      obtain ⟨h₁, h₂, h₃⟩ := hacc.fresh hw
      rw [h₁, h₂, h₃, hq.handed, hq.sent, hq.lost, pending_of_phase hphase rfl, hqueue]
      rfl
    | @handed w _ data act ha hw hd hkey htask hadd =>
      subst ha
      have hsent : (sentAt (s, .inbound act)).bind (ofSession i) = none := rfl
      rw [htask] at hf
      rw [hacc.balance w hw hf, lostAt_inbound hw, hd, hsent]
      cases hleft : w.task.left with
      | false =>
        rw [hacc.intact w hw (.inl hleft), hadd hleft, if_neg (fun he => Bool.false_ne_true he.1)]
        simp
      | true =>
        rw [pending_of_left hleft, pending_of_left (htask ▸ hleft), if_pos ⟨rfl, hf⟩]
        simp
    | @moved w _ act ha hw hm =>
      subst ha
      have hhanded : (handedAt (s, .session i act)).bind (ofSession i) = none := rfl
      rw [hhanded, hacc.balance w hw (failed_move hm hf), balance_move hw hm hf]
      -- what was lost before stands last: either nothing was, or nothing was pending
      cases hleft : w.task.left with
      | false =>
        rw [hacc.intact w hw (.inl hleft)]
        simp
      | true =>
        have hnil := balance_move hw hm hf
        rw [pending_of_left hleft] at hnil
        obtain ⟨hnil, hl⟩ := List.append_eq_nil_iff.1 hnil.symm
        obtain ⟨hs, hp⟩ := List.append_eq_nil_iff.1 hnil
        rw [hs, hp, hl]
        simp

theorem account_run {h : List (UdpProxy × UdpAct)} (hr : UdpRun config h s) (i : Nat) : Account i h s := by
  have hnone (w : UdpWorker) : init.workers[i]? ≠ some w := by simp [init, Dispatch.State.init]
  have hinit : Account i [] init :=
    ⟨fun _ => ⟨rfl, rfl, rfl⟩, fun w hw => absurd hw (hnone w), fun w hw => absurd hw (hnone w)⟩
  exact hr.history_invariant (fun h s => Account i h s) hinit (fun h s a s' hr hacc hs => hacc.step (UdpRun.inv hr) hs)

/-! ## The receiving task -/

/-- What a step of a session leaves to the receiving task. -/
theorem held_session {j : Nat} {act : UdpSessionAct} (hs : step config s (.session j act) = some s') : s'.held = s.held := by
  obtain ⟨w, w', -, -, rfl⟩ := step_session hs
  simp only [held, Dispatch.State.put, Dispatch.State.inbound_removeIf]

/-- **What has been accepted has been handed over or is held.** -/
theorem accepted_eq {h : List (UdpProxy × UdpAct)} (hr : UdpRun config h s) :
    accepted config h = (handed h).map Prod.snd ++ s.held := by
  refine hr.history_invariant (fun h s => accepted config h = (handed h).map Prod.snd ++ s.held) rfl ?_
  intro h s a s' _ ih hs
  rw [accepted, Machine.filterMap_snoc, ← accepted, handed, Machine.filterMap_snoc, ← handed, ih]
  cases a with
  | session j act =>
    have haccepted : acceptedAt config (s, .session j act) = none := rfl
    have hhanded : handedAt (s, .session j act) = none := rfl
    rw [held_session hs, haccepted, hhanded]
    simp
  | inbound act =>
    obtain ⟨t, ht, rfl⟩ := step_inbound hs
    cases act with
    | recvFailed =>
      rw [inboundStep_recvFailed ht]
      simp [acceptedAt, handedAt]
    | recv data target client =>
      obtain ⟨hin, ht⟩ := inboundStep_recv ht
      split at ht <;> rename_i hallowed
      · subst ht
        simp [acceptedAt, handedAt, held, hin, hallowed]
      · subst ht
        simp [acceptedAt, handedAt, held, hin, hallowed]
    | lookUp =>
      obtain ⟨key, data, hin, ⟨j, -, rfl⟩ | ⟨-, rfl⟩⟩ := Dispatch.State.lookUp_eq_some ht
      · simp [acceptedAt, handedAt, held, hin]
      · simp [acceptedAt, handedAt, held, hin]
    | send =>
      obtain ⟨key, data, j, w, hin, -, ⟨-, rfl⟩ | ⟨-, rfl⟩⟩ := Dispatch.State.send_eq_some ht
      · simp [acceptedAt, handedAt, held, hin]
      · simp [acceptedAt, handedAt, held, hin]
    | remove =>
      obtain ⟨key, hin, rfl⟩ := Dispatch.State.forget_eq_some ht
      simp [acceptedAt, handedAt, held, hin]

/-- What is handed to a session has its key. -/
theorem handed_key {h : List (UdpProxy × UdpAct)} (hr : UdpRun config h s) {key : UdpKey} {data : Bytes}
    (hd : (i, key, data) ∈ handed h) : ∃ w, s.workers[i]? = some w ∧ w.key = key := by
  refine hr.history_invariant (fun h s => (i, key, data) ∈ handed h → ∃ w, s.workers[i]? = some w ∧ w.key = key) nofun ?_ hd
  intro h s a s' hr ih hs hmem
  have hinv := UdpRun.inv hr
  have hnow : ∃ w, s.workers[i]? = some w ∧ w.key = key := by
    rw [handed, Machine.filterMap_snoc] at hmem
    rcases List.mem_append.1 hmem with hmem | hmem
    · exact ih hmem
    · obtain ⟨hin, -⟩ : s.inbound = .sending key data i ∧ a = .inbound .send := by
        have hat := Option.mem_toList.1 hmem
        simp only [handedAt] at hat
        split at hat
        · cases hat
          exact ⟨‹_›, rfl⟩
        · cases hat
      obtain ⟨⟨stage, hstage⟩, -⟩ := hinv.sending key data i hin
      obtain ⟨w, hw, hkey, -⟩ := Dispatch.State.of_workers_protocol _ hstage
      exact ⟨w, hw, hkey⟩
  obtain ⟨w, hw, rfl⟩ := hnow
  exact step_key hinv hs hw

/-- **The table of sessions is safe.**  A session that removes its key finds its own entry there; no two sessions of one key
are before that removal, and so in their loops; and what is put on a session's channel was received with its key. -/
theorem sessions_safe {h : List (UdpProxy × UdpAct)} (hr : UdpRun config h s) :
    Throughout (fun _ s a => ∀ i w, a = .session i .remove → s.workers[i]? = some w →
        s.table.lookup w.key = some i ∨ s.table.lookup w.key = none) h ∧
      (∀ (i j : Nat) (w v : UdpWorker), s.workers[i]? = some w → s.workers[j]? = some v → w.task.stage = .running →
        v.task.stage = .running → w.key = v.key → i = j) ∧
      ∀ i key data, (i, key, data) ∈ handed h →
        (key, data) ∈ accepted config h ∧ ∃ w, s.workers[i]? = some w ∧ w.key = key := by
  refine ⟨?_, ?_, ?_⟩
  · refine hr.throughout (fun h s a s' hr hs => ?_)
    rintro i w rfl hw
    obtain ⟨v, w', hv, hmove, -⟩ := step_session hs
    cases hw.symm.trans hv
    obtain ⟨-, hrun, -⟩ | ⟨hact, -⟩ | ⟨hact, -⟩ := hmove.stage
    · have hpw := Dispatch.State.workers_protocol UdpSession.stage hw
      rw [hrun] at hpw
      exact .inl ((UdpRun.inv hr).running w.key i hpw)
    · exact absurd rfl hact
    · exact absurd rfl hact
  · intro i j w v hw hv hwrun hvrun hkey
    have hpw := Dispatch.State.workers_protocol UdpSession.stage hw
    have hpv := Dispatch.State.workers_protocol UdpSession.stage hv
    rw [hwrun, hkey] at hpw
    rw [hvrun] at hpv
    exact (UdpRun.inv hr).unique hpw hpv
  · intro i key data hmem
    refine ⟨?_, handed_key hr hmem⟩
    rw [accepted_eq hr]
    exact List.mem_append_left _ (List.mem_map_of_mem hmem)

def dnsKey : UdpKey := (.v4 ⟨10, 0, 0, 2⟩ 5000, .v4 ⟨1, 1, 1, 1⟩ 53)

/-- A datagram is received, handed to a new session and sent. -/
def sentRun : List UdpAct :=
  [.inbound (.recv [1] dnsKey.2 dnsKey.1), .inbound .lookUp, .inbound .send, .session 0 .start, .session 0 (.opened true),
    .session 0 .recv, .session 0 (.sent true)]

/-- The session then times out, and a new one takes its place. -/
def replacedRun : List UdpAct :=
  sentRun.append [.session 0 .timeout, .session 0 .remove, .inbound (.recv [2] dnsKey.2 dnsKey.1), .inbound .lookUp,
    .inbound .send, .session 0 .finish, .session 1 .start, .session 1 (.opened true)]

theorem sessions_safe_replaced : ∃ h s, UdpRun .plain h s ∧ handed h = [(0, dnsKey, [1]), (1, dnsKey, [2])] ∧
    s.table.lookup dnsKey = some 1 ∧
    (∀ (i j : Nat) (w v : UdpWorker), s.workers[i]? = some w → s.workers[j]? = some v → w.task.stage = .running →
      v.task.stage = .running → w.key = v.key → i = j) ∧
    ∀ i key data, (i, key, data) ∈ handed h → ∃ w, s.workers[i]? = some w ∧ w.key = key := by
  have hr : UdpRun .plain (Machine.trace (step .plain) init replacedRun) _ :=
    Machine.run_get (by decide +kernel)
  obtain ⟨-, hunique, hhanded⟩ := sessions_safe hr
  exact ⟨_, _, hr, by decide +kernel, by decide +kernel, hunique, fun i key data hd => (hhanded i key data hd).2⟩

/-! ## No loss -/

/-- The session that the receiving task has found. -/
def receiver (s : UdpProxy) : Option UdpWorker :=
  match s.inbound with
  | .sending _ _ i => s.workers[i]?
  | _              => none

/-- **A step that loses nothing**: a session that times out, or that fails on the TUN side, has an empty channel, and a
datagram is handed to a session that is still going to take it, or whose outbound socket has failed. -/
def Kept (s : UdpProxy) : UdpAct → Prop
  | .session i act => act.leaves = true → ∀ w ∈ s.workers[i]?, w.queue = []
  | .inbound .send => ∀ w ∈ s.receiver, w.task.left = true → w.task.failed = true
  | .inbound _ => True

instance (s : UdpProxy) : (a : UdpAct) → Decidable (Kept s a)
  | .session _ _ => inferInstanceAs (Decidable (_ → _))
  | .inbound .send => inferInstanceAs (Decidable (∀ w ∈ s.receiver, _ → _))
  | .inbound .recvFailed | .inbound (.recv _ _ _) | .inbound .lookUp | .inbound .remove => inferInstanceAs (Decidable True)

theorem kept_iff {a : UdpAct} : Kept s a ↔ ∀ i, lostAt i (s, a) = [] := by
  cases a with
  | session j act =>
    constructor
    · intro hk i
      by_cases hij : j = i
      · subst hij
        cases hw : s.workers[j]? with
        | none => simp only [lostAt, hw]
        | some w =>
          rw [lostAt_session hw]
          split
          · rw [hk ‹_› w hw]
            rfl
          · rfl
      · exact (quiet_session hij act).lost
    · intro hl hleaves w hw
      have hnil := hl j
      rw [lostAt_session hw, if_pos hleaves] at hnil
      exact List.map_eq_nil_iff.1 hnil
  | inbound act =>
    by_cases hact : act = .send
    · subst hact
      constructor
      · intro hk i
        cases hw : s.workers[i]? with
        | none => simp only [lostAt, hw]
        | some w =>
          cases hd : (handedAt (s, .inbound .send)).bind (ofSession i) with
          | none => exact (quiet_inbound hd).lost
          | some d =>
            have hreceiver : s.receiver = some w := by
              rw [receiver, handedTo_send.1 hd]
              exact hw
            have hfailed := hk w hreceiver
            rw [lostAt_inbound hw, if_neg (fun he => Bool.noConfusion (he.2.symm.trans (hfailed he.1)))]
      · intro hl w hw hleft
        unfold receiver at hw
        split at hw
        case h_2 => cases hw
        case h_1 key data i hin =>
        have hnil := hl i
        rw [lostAt_inbound hw, handedTo_send.2 hin] at hnil
        cases hf : w.task.failed with
        | true => rfl
        | false =>
          rw [if_pos ⟨hleft, hf⟩] at hnil
          cases hnil
    · refine ⟨fun _ i => (quiet_inbound (by rw [handedAt_inbound hact]; rfl)).lost, fun _ => ?_⟩
      cases act with
      | send => exact absurd rfl hact
      | recvFailed | recv | lookUp | remove => exact trivial

/-- Every datagram handed to a session has been sent by it, or is pending, unless the session's outbound socket failed. -/
def NoLoss (h : List (UdpProxy × UdpAct)) (s : UdpProxy) : Prop :=
  ∀ i w, s.workers[i]? = some w → w.task.failed = false → handedTo i h = sentBy i h ++ pending w

theorem noLoss_iff {h : List (UdpProxy × UdpAct)} (hr : UdpRun config h s) : NoLoss h s ↔ ∀ i, lost i h = [] := by
  constructor
  · intro hno i
    have hacc := account_run hr i
    cases hw : s.workers[i]? with
    | none => exact (hacc.fresh hw).2.2
    | some w =>
      cases hf : w.task.failed with
      | true => exact hacc.intact w hw (.inr hf)
      | false =>
        have hbalance := hacc.balance w hw hf
        rw [hno i w hw hf] at hbalance
        exact List.self_eq_append_right.1 hbalance
  · intro hl i w hw hf
    rw [(account_run hr i).balance w hw hf, hl i, List.append_nil]

/-! ## Nothing waits for ever -/

/-- Nothing is held and nothing is pending. -/
def Settled (s : UdpProxy) : Prop := s.held = [] ∧ ∀ w ∈ s.workers, pending w = []

instance (s : UdpProxy) : Decidable (Settled s) := inferInstanceAs (Decidable (_ ∧ _))

/-- The tasks' own steps towards sending what they have: no datagram is received, and nothing fails or times out. -/
def smooth : UdpAct → Bool
  | .inbound .lookUp | .inbound .send                                                            => true
  | .session _ .start | .session _ (.opened true) | .session _ .recv | .session _ (.sent true)
  | .session _ (.replied .ok)                                                                    => true
  | _                                                                                            => false

def weight (w : UdpWorker) : Nat :=
  2 * w.queue.length + match w.task.phase with
    | .starting                           => 2
    | .opening | .sending _ | .replying _ => 1
    | _                                   => 0

def load (s : UdpProxy) : Nat :=
  (match s.inbound with
    | .looking _ _   => 6
    | .sending _ _ _ => 3
    | _              => 0) + (s.workers.map weight).sum

theorem load_session {w w' : UdpWorker} (hw : s.workers[i]? = some w) (hlt : weight w' < weight w) (act : UdpSessionAct) :
    load ⟨(s.removeIf (act == .remove) w.key).put i w', counted w act s.activeUdp⟩ < load s := by
  have hsum := Dispatch.sum_map_set weight w' hw
  simp only [load, Dispatch.State.put, Dispatch.State.workers_removeIf, Dispatch.State.inbound_removeIf]
  omega

/-- A session that has something to send has a step to make. -/
theorem pending_step {w : UdpWorker} (hp : pending w ≠ []) : ∃ act w', smooth (.session i act) = true ∧
    (∀ senders, udpSessionStep senders w act = some w') ∧ weight w' < weight w := by
  obtain ⟨key, queue, outbound, phase⟩ := w
  cases phase with
  | starting => exact ⟨.start, _, rfl, fun _ => rfl, by simp [weight, UdpWorker.to]⟩
  | opening => exact ⟨.opened true, _, rfl, fun _ => rfl, by simp [weight, UdpWorker.to]⟩
  | relay =>
    cases queue with
    | nil => exact absurd rfl hp
    | cons data queue =>
      refine ⟨.recv, _, rfl, fun _ => rfl, ?_⟩
      simp only [weight, UdpWorker.to, List.length_cons]
      omega
  | sending data => exact ⟨.sent true, _, rfl, fun _ => rfl, by simp [weight, UdpWorker.to]⟩
  | replying data => exact ⟨.replied .ok, _, rfl, fun _ => rfl, by simp [weight, UdpWorker.to]⟩
  | leaving | removed | gone => exact absurd rfl hp

theorem step_inbound_eq {act : UdpInboundAct} {t : Dispatch.State UdpKey Bytes UdpSession}
    (ht : s.inboundStep config act = some t) : step config s (.inbound act) = some { s with toState := t } := by
  simp only [step, ht, Option.map_some]

/-- The receiving task that has a datagram has a step to make. -/
theorem held_step (hinv : (s.protocol UdpSession.stage).Inv) (hheld : s.held ≠ []) :
    ∃ a s', smooth a = true ∧ step config s a = some s' ∧ load s' < load s := by
  cases hin : s.inbound with
  | receiving | removing =>
    simp only [held, hin] at hheld
    exact absurd rfl hheld
  | looking key data =>
    obtain ⟨t, ht⟩ := Dispatch.State.exists_lookUp hin (UdpSession.new config.upstream)
    refine ⟨.inbound .lookUp, { s with toState := t }, rfl, step_inbound_eq ht, ?_⟩
    obtain ⟨key', data', hin', ⟨i, -, rfl⟩ | ⟨-, rfl⟩⟩ := Dispatch.State.lookUp_eq_some ht
    · simp only [load, hin]
      omega
    · simp only [load, hin, List.map_append, List.sum_append, List.map_singleton, List.sum_singleton, weight, UdpSession.new,
        List.length_nil]
      omega
  | sending key data i =>
    obtain ⟨⟨stage, hstage⟩, -⟩ := hinv.sending key data i hin
    obtain ⟨w, hw, -⟩ := Dispatch.State.of_workers_protocol _ hstage
    obtain ⟨t, ht⟩ := Dispatch.State.exists_send hin hw UdpSession.stage
    refine ⟨.inbound .send, { s with toState := t }, rfl, step_inbound_eq ht, ?_⟩
    obtain ⟨key', data', j, v, hin', hv, ⟨-, rfl⟩ | ⟨-, rfl⟩⟩ := Dispatch.State.send_eq_some ht
    · have hsum := Dispatch.sum_map_set weight { v with queue := v.queue ++ [data'] } hv
      have hweight : weight { v with queue := v.queue ++ [data'] } = weight v + 2 := by
        simp only [weight, List.length_append, List.length_singleton]
        omega
      simp only [load, hin]
      omega
    · simp only [load, hin]
      omega

/-- **From every state the tasks can go on to where nothing is held or pending**, without a datagram being received and
without a failure or a timeout: each of their steps has less left to do. -/
theorem exists_settled (hinv : (s.protocol UdpSession.stage).Inv) :
    ∃ as s', Machine.exec (step config) s as = some s' ∧ (∀ a ∈ as, smooth a = true) ∧ Settled s' := by
  induction hn : load s using Nat.strong_induction_on generalizing s with
  | _ n ih =>
    by_cases hsettled : Settled s
    · exact ⟨[], s, rfl, nofun, hsettled⟩
    · obtain ⟨a, s', ha, hs, hlt⟩ : ∃ a s', smooth a = true ∧ step config s a = some s' ∧ load s' < load s := by
        by_cases hheld : s.held = []
        · have hpending : ¬ ∀ w ∈ s.workers, pending w = [] := fun h => hsettled ⟨hheld, h⟩
          push Not at hpending
          obtain ⟨w, hmem, hp⟩ := hpending
          obtain ⟨i, hw⟩ := List.getElem?_of_mem hmem
          obtain ⟨act, w', hact, hstep, hlt⟩ := pending_step hp
          refine ⟨.session i act, _, hact, ?_, load_session hw hlt act⟩
          simp only [step, hw, Option.bind_some, hstep, Option.map_some]
        · exact held_step hinv hheld
      obtain ⟨as, t, hexec, hsmooth, ht⟩ := ih (load s') (hn ▸ hlt) (step_inv hinv hs) rfl
      refine ⟨a :: as, t, ?_, ?_, ht⟩
      · rw [Machine.exec_cons, hs]
        exact hexec
      · exact List.forall_mem_cons.2 ⟨ha, hsmooth⟩

/-- **Nothing that was accepted is lost exactly if no step loses anything.**  What has been accepted is held or has been
handed to a session; each session whose outbound socket has not failed has sent what it was handed, up to what is pending, if
and only if every step was one that keeps it; and the tasks can always go on until nothing is held or pending. -/
theorem noLoss_iff_kept {h : List (UdpProxy × UdpAct)} (hr : UdpRun config h s) :
    accepted config h = (handed h).map Prod.snd ++ s.held ∧
      (NoLoss h s ↔ Throughout (fun _ => Kept) h) ∧
      ∃ as s', Machine.exec (step config) s as = some s' ∧ (∀ a ∈ as, smooth a = true) ∧ Settled s' := by
  refine ⟨accepted_eq hr, ?_, exists_settled (UdpRun.inv hr)⟩
  rw [noLoss_iff hr, Machine.throughout_iff_forall_mem]
  simp only [lost, List.flatMap_eq_nil_iff]
  exact ⟨fun hl p hp => kept_iff.2 (fun i => hl i p hp), fun hk i p hp => kept_iff.1 (hk p hp) i⟩

/-- The new session sends the second datagram. -/
def resentRun : List UdpAct := replacedRun.append [.session 1 .recv, .session 1 (.sent true)]

theorem noLoss_iff_kept_sent : ∃ h s, UdpRun .plain h s ∧ accepted .plain h = [(dnsKey, [1]), (dnsKey, [2])] ∧
    h.filterMap sentAt = [(0, dnsKey, [1]), (1, dnsKey, [2])] ∧ Settled s ∧ NoLoss h s := by
  have hr : UdpRun .plain (Machine.trace (step .plain) init resentRun) _ := Machine.run_get (by decide +kernel)
  exact ⟨_, _, hr, by decide +kernel, by decide +kernel, by decide +kernel, (noLoss_iff_kept hr).2.1.2 (by decide +kernel)⟩

/-- A session times out between the look-up of its key and the send: the datagram is put on a channel that nobody reads. -/
def lostRun : List UdpAct :=
  sentRun.append [.inbound (.recv [2] dnsKey.2 dnsKey.1), .inbound .lookUp, .session 0 .timeout, .inbound .send,
    .session 0 .remove, .session 0 .finish]

/-- **A datagram is lost**: nothing failed and nothing is left to be done, but one of the two was never sent. -/
theorem datagram_lost : ∃ h s, UdpRun .plain h s ∧ accepted .plain h = [(dnsKey, [1]), (dnsKey, [2])] ∧
    h.filterMap sentAt = [(0, dnsKey, [1])] ∧ Settled s ∧ s.workers.map (fun w => w.task.phase) = [.gone .timeout] ∧
    ¬ NoLoss h s := by
  have hr : UdpRun .plain (Machine.trace (step .plain) init lostRun) _ := Machine.run_get (by decide +kernel)
  have hlost : lost 0 (Machine.trace (step .plain) init lostRun) ≠ [] := by decide +kernel
  exact ⟨_, _, hr, by decide +kernel, by decide +kernel, by decide +kernel, by decide +kernel,
    fun hno => hlost ((noLoss_iff hr).1 hno 0)⟩

end UdpProxy

end Easynet
