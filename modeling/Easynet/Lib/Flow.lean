import Easynet.Lib.Dispatch
/-!
# Flow — the messages of one key

Workers come and go, and several may serve one key, one after another.  What they hold for a key is read off the worker that
the table has for it: no other worker of this key is running.  A `View` says what of a worker is looked at, and what a
message counts for that is put on its channel; what the steps of the dispatching protocol do to it is said once for every
view.
-/
namespace Dispatch

variable {κ μ φ β : Type*} [DecidableEq κ]

/-- The message in hand, if it is for this key. -/
def Inbound.messagesFor (key : κ) : Inbound κ μ → List μ
  | .looking k msg | .sending k msg _ => if k = key then [msg] else []
  | .receiving | .removing _          => []

/-- **What is looked at**: a new worker holds nothing of it, and a message on a worker's channel no more than it counts
for. -/
structure View (fresh : κ → φ) (μ β : Type*) where
  worker : Worker κ μ φ → List β
  message : μ → List β
  spawned : ∀ key, worker ⟨key, [], fresh key⟩ = []
  pushed : ∀ w msg, (worker { w with queue := w.queue ++ [msg] }).Sublist (worker w ++ message msg)

namespace State

variable {s s' : State κ μ φ} {stage : φ → Stage} {fresh : κ → φ} {key : κ} {i : Nat} {w w' : Worker κ μ φ}

/-- The worker that the table has for a key. -/
def serving (key : κ) (s : State κ μ φ) : Option (Worker κ μ φ) := (s.table.lookup key).bind (fun i => s.workers[i]?)

/-- What is held for a key. -/
def held (v : View fresh μ β) (key : κ) (s : State κ μ φ) : List β := (s.serving key).elim [] v.worker

theorem serving_of_entry (hl : s.table.lookup key = some i) : s.serving key = s.workers[i]? := by
  rw [serving, hl, Option.bind_some]

/-- The entries of the table are workers of their keys. -/
theorem worker_of_entry (hinv : (s.protocol stage).Inv) (hl : s.table.lookup key = some i) :
    ∃ w, s.workers[i]? = some w ∧ w.key = key ∧ stage w.task ≠ .removed := by
  obtain ⟨st, hst, hne⟩ := hinv.entry key i hl
  obtain ⟨w, hw, hkey, rfl⟩ := of_workers_protocol stage hst
  exact ⟨w, hw, hkey, hne⟩

/-! ## The receiving task -/

theorem held_lookUp (v : View fresh μ β) (hinv : (s.protocol stage).Inv) (h : s.lookUp fresh = some s') (key : κ) :
    s'.held v key = s.held v key ∧ s'.inbound.messagesFor key = s.inbound.messagesFor key := by
  obtain ⟨k, msg, hin, ⟨i, -, rfl⟩ | ⟨hl, rfl⟩⟩ := lookUp_eq_some h
  · exact ⟨rfl, by rw [hin]; rfl⟩
  · refine ⟨?_, by rw [hin]; rfl⟩
    by_cases hk : key = k
    · -- the new worker takes the place of none
      subst hk
      rw [held, serving_of_entry (i := s.workers.length) (by rw [Table.lookup_insert_eq, if_pos rfl]),
        List.getElem?_concat_length, held, serving, hl]
      exact v.spawned key
    · simp only [held, serving, Table.lookup_insert_eq, if_neg hk]
      cases hlook : s.table.lookup key with
      | none => rfl
      | some j =>
        obtain ⟨w, hw, -, -⟩ := worker_of_entry hinv hlook
        simp only [Option.bind_some]
        rw [List.getElem?_append_left (List.getElem?_eq_some_iff.1 hw).1]

/-- What is sent is held from now on, or lost: the worker may be gone, or not be in the table any more. -/
theorem held_send (v : View fresh μ β) (hinv : (s.protocol stage).Inv) (h : s.send stage = some s') (key : κ) :
    (s'.held v key).Sublist (s.held v key ++ (s.inbound.messagesFor key).flatMap v.message) ∧
      s'.inbound.messagesFor key = [] := by
  obtain ⟨k, msg, i, w, hin, hw, ⟨-, rfl⟩ | ⟨-, rfl⟩⟩ := send_eq_some h
  · refine ⟨?_, rfl⟩
    obtain ⟨⟨st, hst⟩, hown⟩ := hinv.sending k msg i hin
    have hkey : w.key = k := congrArg Prod.fst (Option.some.inj ((workers_protocol stage hw).symm.trans hst))
    simp only [held, serving]
    cases hlook : s.table.lookup key with
    | none => exact List.nil_sublist _
    | some j =>
      simp only [Option.bind_some, getElem?_set_of_some hw]
      by_cases hji : j = i
      · subst hji
        obtain ⟨w', hw', hkey', -⟩ := worker_of_entry hinv hlook
        cases hw.symm.trans hw'
        rw [if_pos rfl, hw, hin, Inbound.messagesFor, if_pos (hkey.symm.trans hkey'), List.flatMap_singleton]
        exact v.pushed w msg
      · rw [if_neg hji]
        exact List.sublist_append_left _ _
  · exact ⟨List.sublist_append_left _ _, rfl⟩

theorem held_forget (v : View fresh μ β) (h : s.forget = some s') (key : κ) :
    (s'.held v key).Sublist (s.held v key) ∧ s'.inbound.messagesFor key = [] := by
  obtain ⟨k, -, rfl⟩ := forget_eq_some h
  refine ⟨?_, rfl⟩
  simp only [held, serving, remove, Table.lookup_erase_eq]
  split
  · exact List.nil_sublist _
  · exact List.Sublist.refl _

/-! ## The workers -/

/-- A worker's step is not seen under other keys. -/
theorem serving_other (hinv : (s.protocol stage).Inv) (hw : s.workers[i]? = some w) (hk : key ≠ w.key) (b : Bool) :
    ((s.removeIf b w.key).put i w').serving key = s.serving key := by
  have htable : ((s.removeIf b w.key).put i w').table.lookup key = s.table.lookup key := by
    cases b with
    | false => rfl
    | true => exact (Table.lookup_erase_eq _ _ _).trans (if_neg hk)
  rw [serving, serving, htable]
  cases hlook : s.table.lookup key with
  | none => rfl
  | some j =>
    obtain ⟨v, hv, hkey, -⟩ := worker_of_entry hinv hlook
    have hji : j ≠ i := by
      rintro rfl
      cases hw.symm.trans hv
      exact hk hkey.symm
    rw [Option.bind_some, getElem?_put hw, if_neg hji]
    rfl

theorem held_other (v : View fresh μ β) (hinv : (s.protocol stage).Inv) (hw : s.workers[i]? = some w) (hk : key ≠ w.key)
    (b : Bool) : ((s.removeIf b w.key).put i w').held v key = s.held v key := by
  rw [held, serving_other hinv hw hk, held]

/-- A running worker is the one that serves its key. -/
theorem serving_running (hinv : (s.protocol stage).Inv) (hw : s.workers[i]? = some w) (hrun : stage w.task = .running) :
    s.serving w.key = some w := by
  rw [serving_of_entry (hinv.running w.key i (by rw [workers_protocol stage hw, hrun])), hw]

/-- What a running worker does to what it holds is what it does to what is held for its key. -/
theorem held_running (v : View fresh μ β) (hinv : (s.protocol stage).Inv) (hw : s.workers[i]? = some w)
    (hrun : stage w.task = .running) (b : Bool) {inn out : List β}
    (hmove : (out ++ v.worker w').Sublist (v.worker w ++ inn)) :
    (out ++ ((s.removeIf b w.key).put i w').held v w.key).Sublist (s.held v w.key ++ inn) := by
  have hbefore : s.held v w.key = v.worker w := by rw [held, serving_running hinv hw hrun]; rfl
  rw [hbefore]
  refine List.Sublist.trans ?_ hmove
  refine List.Sublist.append_left ?_ out
  cases b with
  | true =>
    -- the worker has left the table
    have hgone : ((s.removeIf true w.key).put i w').serving w.key = none := by
      rw [serving, show ((s.removeIf true w.key).put i w').table.lookup w.key = none from
        (Table.lookup_erase_eq _ _ _).trans (if_pos rfl)]
      rfl
    rw [held, hgone]
    exact List.nil_sublist _
  | false =>
    have hentry : ((s.removeIf false w.key).put i w').table.lookup w.key = some i :=
      hinv.running w.key i (by rw [workers_protocol stage hw, hrun])
    have hstays : ((s.removeIf false w.key).put i w').serving w.key = some w' := by
      rw [serving_of_entry hentry, getElem?_put hw, if_pos rfl]
    rw [held, hstays]
    exact List.Sublist.refl _

/-- A worker that has removed its key is not seen any more. -/
theorem held_removed (v : View fresh μ β) (hinv : (s.protocol stage).Inv) (hw : s.workers[i]? = some w)
    (hremoved : stage w.task = .removed) (key : κ) : (s.put i w').held v key = s.held v key := by
  have hserving : (s.put i w').serving key = s.serving key := by
    show (s.table.lookup key).bind (fun j => (s.workers.set i w')[j]?) = _
    rw [serving]
    cases hlook : s.table.lookup key with
    | none => rfl
    | some j =>
      obtain ⟨u, hu, -, hne⟩ := worker_of_entry hinv hlook
      have hji : j ≠ i := by
        rintro rfl
        cases hw.symm.trans hu
        exact hne hremoved
      rw [Option.bind_some, getElem?_set_of_some hw, if_neg hji]
      rfl
  rw [held, hserving, held]

/-- What a worker does in a step, if it is one of this key. -/
def ofKey {α β : Type*} (f : Worker κ μ φ → α → Option β) (key : κ) (s : State κ μ φ) (i : Nat) (act : α) : Option β :=
  s.workers[i]?.bind (fun w => if w.key = key then f w act else none)

theorem ofKey_of_worker {α β : Type*} {f : Worker κ μ φ → α → Option β} (hw : s.workers[i]? = some w) (act : α) :
    s.ofKey f key i act = if w.key = key then f w act else none := by
  rw [ofKey, hw, Option.bind_some]

theorem ofKey_map {α β γ : Type*} (f : Worker κ μ φ → α → Option β) (g : β → γ) (key : κ) (s : State κ μ φ) (i : Nat)
    (act : α) : (s.ofKey f key i act).map g = s.ofKey (fun w act => (f w act).map g) key i act := by
  rw [ofKey, ofKey, Option.map_bind]
  congr
  funext w
  show (if w.key = key then f w act else none).map g = _
  split <;> rfl

/-- What a worker of the key has done. -/
theorem ofKey_eq_some {α β : Type*} {f : Worker κ μ φ → α → Option β} {act : α} {b : β} (h : s.ofKey f key i act = some b) :
    ∃ w ∈ s.workers, w.key = key ∧ f w act = some b := by
  obtain ⟨w, hw, h⟩ := Option.bind_eq_some_iff.1 h
  split at h
  · exact ⟨w, List.mem_of_getElem? hw, ‹_›, h⟩
  · cases h

/-- **What the workers of a key hold, give out and take in is what the worker in the table does.** -/
theorem held_ofKey {α : Type*} (v : View fresh μ β) {f g : Worker κ μ φ → α → Option β} {act : α} {b : Bool}
    (hinv : (s.protocol stage).Inv) (hw : s.workers[i]? = some w)
    (hmove : ((f w act).toList ++ v.worker w').Sublist (v.worker w ++ (g w act).toList))
    (hstage : stage w.task = .running ∨ stage w.task = .removed ∧ b = false ∧ f w act = none) (key : κ) :
    ((s.ofKey f key i act).toList ++ ((s.removeIf b w.key).put i w').held v key).Sublist
      (s.held v key ++ (s.ofKey g key i act).toList) := by
  rw [ofKey_of_worker hw, ofKey_of_worker hw]
  by_cases hkey : w.key = key
  · subst hkey
    rw [if_pos rfl, if_pos rfl]
    rcases hstage with hrun | ⟨hremoved, rfl, hnone⟩
    · exact held_running v hinv hw hrun b hmove
    · -- a worker that has left the table is not seen
      rw [hnone]
      show ((s.put i w').held v w.key).Sublist _
      rw [held_removed v hinv hw hremoved]
      exact List.sublist_append_left _ _
  · rw [if_neg hkey, if_neg hkey, held_other v hinv hw (Ne.symm hkey)]
    exact List.sublist_append_left _ _

/-! ## The keys that are served -/

/-- **Whoever is served has asked for it**: there are workers for such keys only, and messages in hand. -/
structure Asked (asked : κ → Prop) (s : State κ μ φ) : Prop where
  workers : ∀ w ∈ s.workers, asked w.key
  inbound : ∀ key, s.inbound.messagesFor key ≠ [] → asked key

variable {asked : κ → Prop}

theorem asked_init : Asked asked (init : State κ μ φ) :=
  ⟨fun _ hw => absurd hw List.not_mem_nil, fun _ hm => absurd rfl hm⟩

theorem Asked.mono (ha : Asked asked s) {asked' : κ → Prop} (h : ∀ key, asked key → asked' key) : Asked asked' s :=
  ⟨fun w hw => h _ (ha.workers w hw), fun key hm => h key (ha.inbound key hm)⟩

theorem Asked.receive (ha : Asked asked s) {msg : μ} (hkey : asked key) (h : s.receive key msg = some s') :
    Asked asked s' := by
  obtain ⟨-, rfl⟩ := receive_eq_some h
  refine ⟨ha.workers, fun k hm => ?_⟩
  by_cases hk : key = k
  · exact hk ▸ hkey
  · exact absurd (if_neg hk) hm

theorem Asked.lookUp (ha : Asked asked s) (h : s.lookUp fresh = some s') : Asked asked s' := by
  obtain ⟨k, msg, hin, hcase⟩ := lookUp_eq_some h
  have hinbound (key : κ) (hm : (Inbound.looking k msg).messagesFor key ≠ []) : asked key := ha.inbound key (hin ▸ hm)
  rcases hcase with ⟨i, -, rfl⟩ | ⟨-, rfl⟩
  · exact ⟨ha.workers, hinbound⟩
  · refine ⟨fun w hw => ?_, hinbound⟩
    rcases List.mem_append.1 hw with hw | hw
    · exact ha.workers w hw
    · rw [List.mem_singleton.1 hw]
      exact hinbound k (by simp [Inbound.messagesFor])

omit [DecidableEq κ] in
theorem key_of_mem_set (hw : s.workers[i]? = some w) (hkey : w'.key = w.key) (h : ∀ u ∈ s.workers, asked u.key) :
    ∀ u ∈ s.workers.set i w', asked u.key := by
  intro u hu
  rcases List.mem_or_eq_of_mem_set hu with hu | rfl
  · exact h u hu
  · rw [hkey]
    exact h w (List.mem_of_getElem? hw)

theorem Asked.send (ha : Asked asked s) (h : s.send stage = some s') : Asked asked s' := by
  obtain ⟨k, msg, i, w, -, hw, ⟨-, rfl⟩ | ⟨-, rfl⟩⟩ := send_eq_some h
  · exact ⟨key_of_mem_set hw rfl ha.workers, fun _ hm => absurd rfl hm⟩
  · exact ⟨ha.workers, fun _ hm => absurd rfl hm⟩

theorem Asked.forget (ha : Asked asked s) (h : s.forget = some s') : Asked asked s' := by
  obtain ⟨k, -, rfl⟩ := forget_eq_some h
  exact ⟨ha.workers, fun _ hm => absurd rfl hm⟩

theorem Asked.move (ha : Asked asked s) (hw : s.workers[i]? = some w) (hkey : w'.key = w.key) (b : Bool) (k : κ) :
    Asked asked ((s.removeIf b k).put i w') := by
  refine ⟨?_, fun key hm => ha.inbound key ?_⟩
  · simp only [put, workers_removeIf]
    exact key_of_mem_set hw hkey ha.workers
  · simpa only [put, inbound_removeIf] using hm

end State

end Dispatch
