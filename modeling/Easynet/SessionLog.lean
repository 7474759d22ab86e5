import Easynet.ServerStep
/-!
# SessionLog — `SESSIONS` as the log of what was done to it

Three things write the session table: the insert at the end of a handshake, the removal in `handle_disconnect`, and a
cleanup round.  `sessionOp` reads off a step which of them it is, and the table after a run is what the operations of the
run, in order, make of the empty table (`sessions_eq_replay`).  What becomes of one entry is then a question about the
list of operations alone, whatever the tasks did around them.
-/
namespace Easynet

open Machine (Run)

inductive SessionOp
  | insert (call : Call) (client : Client)
  | disconnect (addr : SocketAddr) (found : Option String)
  | cleanup (now : Nat)
  deriving DecidableEq, Repr

def SessionOp.apply (sessions : Sessions) : SessionOp → Sessions
  | .insert call client => sessions.insert call.sessionId client
  | .disconnect _ found => handleDisconnect found sessions
  | .cleanup now        => cleanupExpiredSessions now sessions

def SessionOp.inserted : SessionOp → Option Call
  | .insert call _ => some call
  | _              => none

def Server.phaseOf (s : Server) (c : Nat) : Option Phase := s.conns[c]?.map Conn.phase

/-- What a step does to `SESSIONS`, if it is one of the steps that write it. -/
def sessionOp (s : Server) : Action → Option SessionOp
  | .conn c (.body _ found) =>
    match s.phaseOf c with
    | some (.holding (.insert call client)) => some (.insert call client)
    | some (.holding (.disconnect addr))    => some (.disconnect addr found)
    | some (.holding (.final addr))         => some (.disconnect addr found)
    | _                                     => none
  | .cleanup .round => some (.cleanup s.clock)
  | _ => none

/-- The operations of a run, oldest first. -/
def sessionOps (h : List (Server × Action)) : List SessionOp := h.filterMap (fun p => sessionOp p.1 p.2)

def replay (ops : List SessionOp) : Sessions := ops.foldl SessionOp.apply ∅

theorem sessionOps_append (h₁ h₂ : List (Server × Action)) :
    sessionOps (h₁ ++ h₂) = sessionOps h₁ ++ sessionOps h₂ := List.filterMap_append ..

theorem phaseOf_eq {s : Server} {c : Nat} {conn : Conn} (hc : s.conns[c]? = some conn) :
    s.phaseOf c = some conn.phase := by
  rw [Server.phaseOf, hc]; rfl

theorem connStep_sessions {s t : Server} {c : Nat} {conn conn' : Conn} {act : ConnAct} (hc : s.conns[c]? = some conn)
    (h : ConnStep s c conn act conn' t) :
    t.sessions = (sessionOp s (.conn c act)).elim s.sessions (SessionOp.apply s.sessions) := by
  have hph := phaseOf_eq hc
  cases h with
  | lookup hp | insert hp | disconnect hp | final hp | toClient hp | toNobody hp =>
    rw [hp] at hph
    simp [sessionOp, hph, SessionOp.apply]
  | _ => rfl

theorem step_sessions {s s' : Server} {a : Action} (h : step s a = some s') :
    s'.sessions = (sessionOp s a).elim s.sessions (SessionOp.apply s.sessions) := by
  cases a with
  | conn c act =>
    obtain ⟨conn, conn', t, hc, hcs, rfl⟩ := step_connStep h
    exact (connStep_sessions hc hcs :)
  | cleanup act =>
    rw [(cleanupStep_frame h).2.2.1]
    cases act <;> rfl
  | _ => exact (step_frame h).sessions (fun _ _ he => Action.noConfusion he) (fun he => Action.noConfusion he)

/-- **The table is the replay of the run's operations.** -/
theorem sessions_eq_replay {transport : Transport} {h : List (Server × Action)} {s : Server}
    (hr : ServerRun transport h s) : s.sessions = replay (sessionOps h) := by
  induction hr with
  | nil => rfl
  | @snoc h s a s' _ hs ih =>
    rw [step_sessions hs, sessionOps_append, replay, List.foldl_append, ← replay, ← ih]
    cases ho : sessionOp s a <;> simp [sessionOps, ho]

/-- A search by address finds an entry with that address, and nothing only when there is none. -/
theorem findAddr_of_sessionOp {s s' : Server} {a : Action} (h : step s a = some s') {addr : SocketAddr}
    {found : Option String} (ho : sessionOp s a = some (.disconnect addr found)) :
    findAddr addr s.sessions found = true := by
  cases a with
  | conn c act =>
    obtain ⟨conn, conn', t, hc, hcs, -⟩ := step_connStep h
    have hph := phaseOf_eq hc
    cases hcs with
    | lookup hp | insert hp | toClient hp | toNobody hp =>
      rw [hp] at hph
      simp [sessionOp, hph] at ho
    | disconnect hp hf | final hp hf =>
      rw [hp] at hph
      simp only [sessionOp, hph, Option.some.injEq, SessionOp.disconnect.injEq] at ho
      obtain ⟨rfl, rfl⟩ := ho
      exact hf
    | _ => cases ho
  | cleanup act => cases act <;> cases ho
  | _ => cases ho

theorem insert_of_sessionOp {s : Server} {a : Action} {call : Call} {client : Client}
    (ho : sessionOp s a = some (.insert call client)) :
    ∃ c conn fresh found, a = .conn c (.body fresh found) ∧ s.conns[c]? = some conn ∧
      conn.phase = .holding (.insert call client) := by
  unfold sessionOp at ho
  split at ho
  · rename_i c fresh found
    split at ho
    · rename_i hph
      cases ho
      obtain ⟨conn, hc, hp⟩ := Option.map_eq_some_iff.1 hph
      exact ⟨c, conn, fresh, found, rfl, hc, hp⟩
    all_goals cases ho
  all_goals cases ho

theorem cleanup_of_sessionOp {s : Server} {a : Action} {now : Nat} (ho : sessionOp s a = some (.cleanup now)) :
    now = s.clock := by
  unfold sessionOp at ho
  split at ho
  · split at ho <;> cases ho
  · cases ho; rfl
  · cases ho

/-! ## One entry -/

theorem lookup_apply (op : SessionOp) (sessions : Sessions) (id : String) :
    (op.apply sessions).lookup id = match op with
      | .insert call client => if id = call.sessionId then some client else sessions.lookup id
      | .disconnect _ found => if found = some id then none else sessions.lookup id
      | .cleanup now        => (sessions.lookup id).filter (shouldKeep now) := by
  cases op with
  | insert call client => exact Table.lookup_insert_eq ..
  | disconnect addr found => exact lookup_handleDisconnect ..
  | cleanup now => exact lookup_cleanup ..

/-- **A stored entry was stored by this step or was there before it.** -/
theorem lookup_of_step {s s' : Server} {a : Action} (hs : step s a = some s') {id : String} {client : Client}
    (hl : s'.sessions.lookup id = some client) :
    (∃ call, sessionOp s a = some (.insert call client) ∧ call.sessionId = id) ∨
    (s.sessions.lookup id = some client ∧
      ∀ call client', sessionOp s a = some (.insert call client') → call.sessionId ≠ id) := by
  rw [step_sessions hs] at hl
  cases ho : sessionOp s a with
  | none =>
    rw [ho] at hl
    exact Or.inr ⟨hl, fun _ _ he => by cases he⟩
  | some op =>
    rw [ho] at hl
    replace hl : (op.apply s.sessions).lookup id = some client := hl
    rw [lookup_apply] at hl
    cases op with
    | insert call client' =>
      by_cases hid : id = call.sessionId
      · simp only [if_pos hid] at hl
        cases hl
        exact Or.inl ⟨call, rfl, hid.symm⟩
      · simp only [if_neg hid] at hl
        refine Or.inr ⟨hl, fun _ _ he => ?_⟩
        cases he
        exact Ne.symm hid
    | disconnect addr found =>
      by_cases hf : found = some id
      · simp only [if_pos hf] at hl; cases hl
      · simp only [if_neg hf] at hl
        exact Or.inr ⟨hl, fun _ _ he => by cases he⟩
    | cleanup now => exact Or.inr ⟨(Option.filter_eq_some_iff.1 hl).1, fun _ _ he => by cases he⟩

/-- What spares an entry: a handshake for another id, a disconnect of another address, a cleanup round that does not find
it expired. -/
def SessionOp.Spares (id : String) (client : Client) : SessionOp → Prop
  | .insert call _     => call.sessionId ≠ id
  | .disconnect addr _ => addr ≠ client.addr
  | .cleanup now       => shouldKeep now client = true

/-- What leaves an entry alone, told from its address and its stamp: a handshake for another id, a disconnect of another
address, a cleanup round before the session's hour is over. -/
def SessionOp.LeavesAlone (id : String) (client : Client) : SessionOp → Prop
  | .insert call _     => call.sessionId ≠ id
  | .disconnect addr _ => addr ≠ client.addr
  | .cleanup now       => client.lastSeen ≤ now ∧ now < client.lastSeen + sessionLifetime

theorem SessionOp.LeavesAlone.spares {op : SessionOp} {id : String} {client : Client} (h : op.LeavesAlone id client) :
    op.Spares id client := by
  cases op with
  | insert call _ => exact h
  | disconnect addr _ => exact h
  | cleanup now => exact (shouldKeep_iff h.1).2 h.2

theorem lookup_apply_of_spares {op : SessionOp} {sessions : Sessions} {id : String} {client : Client}
    (hl : sessions.lookup id = some client) (hop : op.Spares id client)
    (hf : ∀ addr found, op = .disconnect addr found → findAddr addr sessions found = true) :
    (op.apply sessions).lookup id = some client := by
  rw [lookup_apply]
  cases op with
  | insert call _ => exact (if_neg (Ne.symm hop)).trans hl
  | disconnect addr found =>
    refine (if_neg ?_).trans hl
    rintro rfl
    -- the search by address would have come up with this entry
    obtain ⟨b, hb, hbp⟩ := Table.isFind_some (hf addr _ rfl)
    cases hl.symm.trans hb
    exact hop (of_decide_eq_true hbp).symm
  | cleanup now => rw [hl]; exact Option.filter_some_pos hop

/-- **A session stays as a handshake left it while the operations after that spare it.** -/
theorem lookup_of_spares {transport : Transport} {h : List (Server × Action)} {s : Server}
    (hr : ServerRun transport h s) {o₁ o₂ : List SessionOp} {call : Call} {client : Client}
    (he : sessionOps h = o₁ ++ SessionOp.insert call client :: o₂) (hl : ∀ op ∈ o₂, op.Spares call.sessionId client) :
    s.sessions.lookup call.sessionId = some client := by
  induction hr generalizing o₂ with
  | nil => simp [sessionOps] at he
  | @snoc h s a s' hr hs ih =>
    rw [step_sessions hs]
    rw [sessionOps_append] at he
    cases ho : sessionOp s a with
    | none => exact ih (by simpa [sessionOps, ho] using he) hl
    | some op =>
      replace he : sessionOps h ++ [op] = o₁ ++ SessionOp.insert call client :: o₂ := by simpa [sessionOps, ho] using he
      rcases List.eq_nil_or_concat o₂ with rfl | ⟨o₂, op', rfl⟩
      · cases (List.append_inj' he rfl).2
        exact AList.lookup_insert _
      · rw [List.concat_eq_append] at he hl
        rw [← List.cons_append, ← List.append_assoc] at he
        obtain ⟨heh, hop⟩ := List.append_inj' he rfl
        cases hop
        refine lookup_apply_of_spares (ih heh (fun o hmem => hl o (List.mem_append_left _ hmem)))
          (hl op (List.mem_append_right _ List.mem_cons_self)) (fun addr found hd => ?_)
        exact findAddr_of_sessionOp hs (hd ▸ ho)

/-- **A session stays as a handshake left it while the operations after that leave it alone.** -/
theorem lookup_of_leavesAlone {transport : Transport} {h : List (Server × Action)} {s : Server}
    (hr : ServerRun transport h s) {o₁ o₂ : List SessionOp} {call : Call} {client : Client}
    (he : sessionOps h = o₁ ++ SessionOp.insert call client :: o₂) (hl : ∀ op ∈ o₂, op.LeavesAlone call.sessionId client) :
    s.sessions.lookup call.sessionId = some client :=
  lookup_of_spares hr he (fun op hop => (hl op hop).spares)

end Easynet
