import Mathlib.Algebra.GroupWithZero.Nat
import Easynet.Lib.Table
/-!
# Dispatch — one task that hands messages to workers by key

A receiving task looks a message's key up in a table, under a lock; if there is no entry it inserts one and spawns a worker.
Outside the lock it then sends the message to the entry's worker, and if that fails, because the worker's receiver has been
dropped, it removes the key, under the lock again.  A worker removes its own key before it drops its receiver.  The table is
cleaned by key, not by identity.

`Protocol` is what this is about: the table, where the receiving task stands, and the key and the stage of each worker.
`Protocol.Step` has the steps of the receiving task and of the workers in any order, and `Protocol.Inv` is kept by all of
them.  Unless a worker drops its receiver without removing its key, the table has entries of running workers only
(`Protocol.Live`).  `State` is a program's state over it, with a queue and a task of any type for each worker.
-/
namespace Dispatch

/-- The receiving task, cut where it waits and where it takes the lock. -/
inductive Inbound (κ μ : Type*)
  | receiving
  | looking (key : κ) (msg : μ)
  | sending (key : κ) (msg : μ) (i : Nat)
  | removing (key : κ)
  deriving DecidableEq, Repr

def Inbound.message {κ μ : Type*} : Inbound κ μ → Option μ
  | .looking _ msg | .sending _ msg _ => some msg
  | _                                 => none

inductive Stage
  /-- The worker has not removed its key. -/
  | running
  /-- It has, and its receiver is still there. -/
  | removed
  /-- Its receiver has been dropped. -/
  | gone
  deriving DecidableEq, Repr

structure Protocol (κ μ : Type*) where
  table : AList (fun _ : κ => Nat)
  inbound : Inbound κ μ
  workers : List (κ × Stage)

section Workers

variable {α : Type*} {l : List α}

theorem getElem?_set_of_some {i : Nat} {a : α} (h : l[i]? = some a) (b : α) (j : Nat) :
    (l.set i b)[j]? = if j = i then some b else l[j]? := by
  rw [List.getElem?_set]
  by_cases hj : i = j
  · subst hj
    simp [(List.getElem?_eq_some_iff.1 h).1]
  · rw [if_neg hj, if_neg (Ne.symm hj)]

theorem getElem?_concat_eq_some {a b : α} {j : Nat} :
    (l ++ [a])[j]? = some b ↔ l[j]? = some b ∨ (j = l.length ∧ b = a) := by
  rcases Nat.lt_trichotomy j l.length with hj | rfl | hj
  · rw [List.getElem?_append_left hj]
    exact ⟨.inl, fun h => h.resolve_right (fun h => Nat.ne_of_lt hj h.1)⟩
  · simp [eq_comm]
  · have hnone : l[j]? = none := List.getElem?_eq_none (Nat.le_of_lt hj)
    have hnone' : (l ++ [a])[j]? = none := List.getElem?_eq_none (by rw [List.length_append]; exact hj)
    rw [hnone, hnone']
    exact ⟨nofun, fun h => h.elim nofun (fun h => absurd h.1 (Nat.ne_of_gt hj))⟩

theorem sum_map_set (f : α → Nat) {a : α} (b : α) : ∀ {l : List α} {i : Nat}, l[i]? = some a →
    ((l.set i b).map f).sum + f a = (l.map f).sum + f b
  | x :: l, 0, h => by
    cases h
    simp only [List.set_cons_zero, List.map_cons, List.sum_cons]
    omega
  | x :: l, i + 1, h => by
    have ih := sum_map_set f b (l := l) h
    simp only [List.set_cons_succ, List.map_cons, List.sum_cons]
    omega

end Workers

namespace Protocol

variable {κ μ : Type*} [DecidableEq κ]

/-- **The steps of the receiving task and of the workers.** -/
inductive Step (p : Protocol κ μ) : Protocol κ μ → Prop
  | receive {key : κ} {msg : μ} (h : p.inbound = .receiving) : Step p { p with inbound := .looking key msg }
  | find {key : κ} {msg : μ} {i : Nat} (h : p.inbound = .looking key msg) (hl : p.table.lookup key = some i) :
      Step p { p with inbound := .sending key msg i }
  | spawn {key : κ} {msg : μ} (h : p.inbound = .looking key msg) (hl : p.table.lookup key = none) :
      Step p ⟨p.table.insert key p.workers.length, .sending key msg p.workers.length, p.workers ++ [(key, .running)]⟩
  | sent {key : κ} {msg : μ} {i : Nat} (h : p.inbound = .sending key msg i) : Step p { p with inbound := .receiving }
  | unsent {key key' : κ} {msg : μ} {i : Nat} (h : p.inbound = .sending key msg i)
      (hw : p.workers[i]? = some (key', .gone)) : Step p { p with inbound := .removing key }
  | forget {key : κ} (h : p.inbound = .removing key) :
      Step p { p with table := p.table.erase key, inbound := .receiving }
  | leave {key : κ} {i : Nat} (hw : p.workers[i]? = some (key, .running)) :
      Step p { p with table := p.table.erase key, workers := p.workers.set i (key, .removed) }
  | finish {key : κ} {i : Nat} (hw : p.workers[i]? = some (key, .removed)) :
      Step p { p with workers := p.workers.set i (key, .gone) }
  /-- A worker that drops its receiver and leaves its key behind. -/
  | abandon {key : κ} {i : Nat} (hw : p.workers[i]? = some (key, .running)) :
      Step p { p with workers := p.workers.set i (key, .gone) }

/-- **What holds between the table, the receiving task and the workers.** -/
structure Inv (p : Protocol κ μ) : Prop where
  running : ∀ key i, p.workers[i]? = some (key, .running) → p.table.lookup key = some i
  entry : ∀ key i, p.table.lookup key = some i → ∃ stage, p.workers[i]? = some (key, stage) ∧ stage ≠ .removed
  sending : ∀ key msg i, p.inbound = .sending key msg i → (∃ stage, p.workers[i]? = some (key, stage)) ∧
    ∀ j, p.table.lookup key = some j → j = i
  removing : ∀ key i, p.inbound = .removing key → p.table.lookup key = some i → p.workers[i]? = some (key, .gone)

theorem inv_init : Inv (⟨∅, .receiving, []⟩ : Protocol κ μ) := ⟨nofun, nofun, nofun, nofun⟩

/-- The receiving task's part of the invariant, where it holds no worker. -/
theorem Inv.idle {p : Protocol κ μ} (h : Inv p) {inbound : Inbound κ μ}
    (hsending : ∀ key msg i, inbound ≠ .sending key msg i) (hremoving : ∀ key, inbound ≠ .removing key) :
    Inv { p with inbound := inbound } where
  running := h.running
  entry := h.entry
  sending := fun key msg i he => absurd he (hsending key msg i)
  removing := fun key _ he => absurd he (hremoving key)

/-- A worker that drops its receiver and leaves the table alone. -/
theorem Inv.drop {p : Protocol κ μ} (h : Inv p) {i : Nat} {key : κ} {stage : Stage}
    (hw : p.workers[i]? = some (key, stage)) : Inv { p with workers := p.workers.set i (key, .gone) } := by
  have hset := getElem?_set_of_some hw (key, Stage.gone)
  constructor
  · intro k j hj
    rw [hset] at hj
    split at hj
    · cases hj
    · exact h.running k j hj
  · intro k j hl
    obtain ⟨stage', hj, hne⟩ := h.entry k j hl
    simp only [hset]
    split
    · subst j
      cases hw.symm.trans hj
      exact ⟨.gone, rfl, nofun⟩
    · exact ⟨stage', hj, hne⟩
  · intro k msg j he
    obtain ⟨⟨stage', hj⟩, hl⟩ := h.sending k msg j he
    refine ⟨?_, hl⟩
    simp only [hset]
    split
    · subst j
      cases hw.symm.trans hj
      exact ⟨.gone, rfl⟩
    · exact ⟨stage', hj⟩
  · intro k j he hl
    have hj := h.removing k j he hl
    simp only [hset]
    split
    · subst j
      cases hw.symm.trans hj
      rfl
    · exact hj

/-- An entry that is left after a key has been removed. -/
theorem Inv.lookup_erase {p : Protocol κ μ} (h : Inv p) {key k : κ} {i : Nat} (hl : (p.table.erase key).lookup k = some i) :
    k ≠ key ∧ p.table.lookup k = some i ∧ ∃ stage, p.workers[i]? = some (k, stage) ∧ stage ≠ .removed := by
  rw [Table.lookup_erase_eq] at hl
  split at hl
  · cases hl
  · exact ⟨‹_›, hl, h.entry k i hl⟩

theorem Inv.spawn {p : Protocol κ μ} (h : Inv p) {key : κ} (msg : μ) (hl : p.table.lookup key = none) :
    Inv ⟨p.table.insert key p.workers.length, .sending key msg p.workers.length, p.workers ++ [(key, .running)]⟩ := by
  refine ⟨?_, ?_, ?_, nofun⟩
  · intro k i hw
    rw [Table.lookup_insert_eq]
    rcases getElem?_concat_eq_some.1 hw with hw | ⟨rfl, hkey⟩
    -- an older worker has another key, since the table has none for this one
    · have hi := h.running k i hw
      rw [if_neg (by rintro rfl; cases hl.symm.trans hi)]
      exact hi
    · cases hkey
      rw [if_pos rfl]
  · intro k i hi
    rw [Table.lookup_insert_eq] at hi
    split at hi
    · subst k
      cases hi
      exact ⟨.running, getElem?_concat_eq_some.2 (.inr ⟨rfl, rfl⟩), nofun⟩
    · obtain ⟨stage, hw, hne⟩ := h.entry k i hi
      exact ⟨stage, getElem?_concat_eq_some.2 (.inl hw), hne⟩
  · rintro k m i ⟨⟩
    refine ⟨⟨.running, getElem?_concat_eq_some.2 (.inr ⟨rfl, rfl⟩)⟩, fun j hj => ?_⟩
    rw [AList.lookup_insert] at hj
    exact (Option.some.inj hj).symm

theorem Inv.leave {p : Protocol κ μ} (h : Inv p) {key : κ} {i : Nat} (hw : p.workers[i]? = some (key, .running)) :
    Inv { p with table := p.table.erase key, workers := p.workers.set i (key, .removed) } := by
  have hset := getElem?_set_of_some hw (key, Stage.removed)
  have hown := h.running key i hw
  refine ⟨?_, ?_, ?_, ?_⟩
  · intro k j hj
    rw [hset] at hj
    split at hj
    · cases hj
    -- the only running worker with this key is `i`
    · rename_i hji
      have hl := h.running k j hj
      rw [Table.lookup_erase_eq, if_neg (by rintro rfl; exact hji (Option.some.inj (hl.symm.trans hown)))]
      exact hl
  · intro k j hl
    obtain ⟨hk, -, stage, hj, hne⟩ := h.lookup_erase hl
    refine ⟨stage, ?_, hne⟩
    rw [hset, if_neg (by rintro rfl; cases hw.symm.trans hj; exact hk rfl)]
    exact hj
  · intro k msg j he
    obtain ⟨⟨stage, hj⟩, hl⟩ := h.sending k msg j he
    refine ⟨?_, fun j' hj' => hl j' (h.lookup_erase hj').2.1⟩
    simp only [hset]
    split
    · subst j
      cases hw.symm.trans hj
      exact ⟨.removed, rfl⟩
    · exact ⟨stage, hj⟩
  · intro k j he hl
    have hj := h.removing k j he (h.lookup_erase hl).2.1
    simp only [hset]
    rw [if_neg (by rintro rfl; cases hw.symm.trans hj)]
    exact hj

/-- **The invariant is kept by every step.** -/
theorem Inv.step {p p' : Protocol κ μ} (h : Inv p) (hs : Step p p') : Inv p' := by
  cases hs with
  | receive | sent => exact h.idle nofun nofun
  | find hin hl =>
    refine ⟨h.running, h.entry, ?_, nofun⟩
    rintro k msg j ⟨⟩
    obtain ⟨stage, hw, -⟩ := h.entry _ _ hl
    exact ⟨⟨stage, hw⟩, fun i hi => Option.some.inj (hi.symm.trans hl)⟩
  | spawn hin hl => exact h.spawn _ hl
  | unsent hin hw =>
    refine ⟨h.running, h.entry, nofun, ?_⟩
    rintro k j ⟨⟩ hl
    obtain ⟨⟨stage, hi⟩, hj⟩ := h.sending _ _ _ hin
    obtain rfl := hj j hl
    cases hw.symm.trans hi
    exact hw
  | @forget key hin =>
    refine ⟨?_, fun k i hi => (h.lookup_erase hi).2.2, nofun, nofun⟩
    intro k i hw
    have hi := h.running k i hw
    -- a worker that runs is not gone
    rw [Table.lookup_erase_eq, if_neg (by rintro rfl; cases hw.symm.trans (h.removing _ i hin hi))]
    exact hi
  | leave hw => exact h.leave hw
  | finish hw => exact h.drop hw
  | abandon hw => exact h.drop hw

/-- **Every entry of the table is that of a running worker.** -/
def Live (p : Protocol κ μ) : Prop := ∀ key i, p.table.lookup key = some i → p.workers[i]? = some (key, .running)

/-- A step keeps the entries live, unless a running worker drops its receiver in it. -/
theorem Live.step {p p' : Protocol κ μ} (h : Live p) (hs : Step p p')
    (hkept : ∀ (key : κ) (i : Nat), p.workers[i]? = some (key, .running) → p'.workers[i]? ≠ some (key, .gone)) :
    Live p' := by
  cases hs with
  | receive | find | sent | unsent => exact h
  | spawn =>
    intro k i hl
    rw [Table.lookup_insert_eq] at hl
    split at hl
    · subst k
      cases hl
      exact getElem?_concat_eq_some.2 (.inr ⟨rfl, rfl⟩)
    · exact getElem?_concat_eq_some.2 (.inl (h k i hl))
  | forget =>
    intro k i hl
    rw [Table.lookup_erase_eq] at hl
    split at hl
    · cases hl
    · exact h k i hl
  | @leave key j hw =>
    intro k i hl
    rw [Table.lookup_erase_eq] at hl
    split at hl
    · cases hl
    · rename_i hk
      have hi := h k i hl
      rw [getElem?_set_of_some hw, if_neg (by rintro rfl; cases hw.symm.trans hi; exact hk rfl)]
      exact hi
  | @finish key j hw =>
    intro k i hl
    have hi := h k i hl
    rw [getElem?_set_of_some hw, if_neg (by rintro rfl; cases hw.symm.trans hi)]
    exact hi
  | @abandon key j hw =>
    refine absurd ?_ (hkept key j hw)
    rw [getElem?_set_of_some hw, if_pos rfl]

/-- **No two running workers have one key.** -/
theorem Inv.unique {p : Protocol κ μ} (h : Inv p) {key : κ} {i j : Nat} (hi : p.workers[i]? = some (key, .running))
    (hj : p.workers[j]? = some (key, .running)) : i = j :=
  Option.some.inj ((h.running key i hi).symm.trans (h.running key j hj))

end Protocol

/-! ## A program over the protocol -/

structure Worker (κ μ φ : Type*) where
  key : κ
  queue : List μ
  task : φ
  deriving DecidableEq, Repr

structure State (κ μ φ : Type*) where
  table : AList (fun _ : κ => Nat)
  inbound : Inbound κ μ
  workers : List (Worker κ μ φ)

namespace State

variable {κ μ φ : Type*}

def init : State κ μ φ := ⟨∅, .receiving, []⟩

def put (i : Nat) (w : Worker κ μ φ) (s : State κ μ φ) : State κ μ φ := { s with workers := s.workers.set i w }

/-- Some sender of a worker's channel is left, in the table or with the receiving task. -/
def hasSender (i : Nat) (s : State κ μ φ) : Bool :=
  s.table.entries.any (fun e => e.2 == i) || match s.inbound with
    | .sending _ _ j => j == i
    | _              => false

def receive (key : κ) (msg : μ) (s : State κ μ φ) : Option (State κ μ φ) :=
  match s.inbound with
  | .receiving => some { s with inbound := .looking key msg }
  | _          => none

def send (stage : φ → Stage) (s : State κ μ φ) : Option (State κ μ φ) :=
  match s.inbound with
  | .sending key msg i =>
    s.workers[i]?.map (fun w =>
      if stage w.task = .gone then { s with inbound := .removing key }
      else { s with inbound := .receiving, workers := s.workers.set i { w with queue := w.queue ++ [msg] } })
  | _ => none

variable [DecidableEq κ]

/-- Look the key up, or insert it and spawn a worker. -/
def lookUp (fresh : κ → φ) (s : State κ μ φ) : Option (State κ μ φ) :=
  match s.inbound with
  | .looking key msg =>
    match s.table.lookup key with
    | some i => some { s with inbound := .sending key msg i }
    | none   =>
      some ⟨s.table.insert key s.workers.length, .sending key msg s.workers.length, s.workers ++ [⟨key, [], fresh key⟩]⟩
  | _ => none

def remove (key : κ) (s : State κ μ φ) : State κ μ φ := { s with table := s.table.erase key }

/-- What a worker does to the table, if this is where it removes its key. -/
def removeIf (b : Bool) (key : κ) (s : State κ μ φ) : State κ μ φ := if b then s.remove key else s

@[simp] theorem workers_removeIf (b : Bool) (key : κ) (s : State κ μ φ) : (s.removeIf b key).workers = s.workers := by
  cases b <;> rfl

@[simp] theorem inbound_removeIf (b : Bool) (key : κ) (s : State κ μ φ) : (s.removeIf b key).inbound = s.inbound := by
  cases b <;> rfl

theorem getElem?_put {s : State κ μ φ} {i j : Nat} {w w' : Worker κ μ φ} {b : Bool} (hw : s.workers[j]? = some w) :
    ((s.removeIf b w.key).put j w').workers[i]? = if i = j then some w' else s.workers[i]? := by
  simp only [put, workers_removeIf]
  exact getElem?_set_of_some hw w' i

def forget (s : State κ μ φ) : Option (State κ μ φ) :=
  match s.inbound with
  | .removing key => some { s.remove key with inbound := .receiving }
  | _             => none

/-! What the receiving task can do. -/

omit [DecidableEq κ] in
theorem receive_eq_some {key : κ} {msg : μ} {s s' : State κ μ φ} (h : s.receive key msg = some s') :
    s.inbound = .receiving ∧ s' = { s with inbound := .looking key msg } := by
  unfold receive at h
  split at h
  · exact ⟨‹_›, (Option.some.inj h).symm⟩
  · cases h

omit [DecidableEq κ] in
theorem send_eq_some {stage : φ → Stage} {s s' : State κ μ φ} (h : s.send stage = some s') :
    ∃ key msg i w, s.inbound = .sending key msg i ∧ s.workers[i]? = some w ∧
      ((stage w.task ≠ .gone ∧
          s' = { s with inbound := .receiving, workers := s.workers.set i { w with queue := w.queue ++ [msg] } }) ∨
        (stage w.task = .gone ∧ s' = { s with inbound := .removing key })) := by
  unfold send at h
  split at h
  · rename_i key msg i hin
    obtain ⟨w, hw, rfl⟩ := Option.map_eq_some_iff.1 h
    refine ⟨key, msg, i, w, hin, hw, ?_⟩
    split
    · exact .inr ⟨‹_›, rfl⟩
    · exact .inl ⟨‹_›, rfl⟩
  · cases h

theorem lookUp_eq_some {fresh : κ → φ} {s s' : State κ μ φ} (h : s.lookUp fresh = some s') :
    ∃ key msg, s.inbound = .looking key msg ∧
      ((∃ i, s.table.lookup key = some i ∧ s' = { s with inbound := .sending key msg i }) ∨
        (s.table.lookup key = none ∧ s' = ⟨s.table.insert key s.workers.length, .sending key msg s.workers.length,
          s.workers ++ [⟨key, [], fresh key⟩]⟩)) := by
  unfold lookUp at h
  split at h
  · rename_i key msg hin
    refine ⟨key, msg, hin, ?_⟩
    split at h
    · exact .inl ⟨_, ‹_›, (Option.some.inj h).symm⟩
    · exact .inr ⟨‹_›, (Option.some.inj h).symm⟩
  · cases h

theorem exists_lookUp {s : State κ μ φ} {key : κ} {msg : μ} (h : s.inbound = .looking key msg) (fresh : κ → φ) :
    ∃ s', s.lookUp fresh = some s' := by
  simp only [lookUp, h]
  split <;> exact ⟨_, rfl⟩

omit [DecidableEq κ] in
theorem exists_send {s : State κ μ φ} {key : κ} {msg : μ} {i : Nat} {w : Worker κ μ φ} (h : s.inbound = .sending key msg i)
    (hw : s.workers[i]? = some w) (stage : φ → Stage) : ∃ s', s.send stage = some s' := by
  simp only [send, h, hw]
  exact ⟨_, rfl⟩

theorem forget_eq_some {s s' : State κ μ φ} (h : s.forget = some s') :
    ∃ key, s.inbound = .removing key ∧ s' = { s.remove key with inbound := .receiving } := by
  unfold forget at h
  split at h
  · exact ⟨_, ‹_›, (Option.some.inj h).symm⟩
  · cases h

/-- **What the receiving task does to the workers**: they keep their keys and tasks, and a new one may be spawned. -/
structure Extends (fresh : κ → φ) (s s' : State κ μ φ) : Prop where
  length : s.workers.length ≤ s'.workers.length
  workers : ∀ (i : Nat) (w' : Worker κ μ φ), s'.workers[i]? = some w' →
    (∃ w : Worker κ μ φ, s.workers[i]? = some w ∧ w'.key = w.key ∧ w'.task = w.task) ∨
      (s.workers[i]? = none ∧ w'.task = fresh w'.key)

section Extends

variable {fresh : κ → φ} {s s' : State κ μ φ}

omit [DecidableEq κ] in
theorem Extends.of_eq (h : s'.workers = s.workers) : Extends fresh s s' :=
  ⟨Nat.le_of_eq (by rw [h]), fun _ w' hw' => .inl ⟨w', h ▸ hw', rfl, rfl⟩⟩

omit [DecidableEq κ] in
/-- The tasks are those there were, and then the new ones. -/
theorem Extends.tasks (h : Extends fresh s s') : ∃ new, s'.workers.map Worker.task = s.workers.map Worker.task ++ new ∧
    ∀ t ∈ new, ∃ key, t = fresh key := by
  refine ⟨(s'.workers.drop s.workers.length).map Worker.task, ?_, fun t ht => ?_⟩
  · have hold : (s'.workers.take s.workers.length).map Worker.task = s.workers.map Worker.task := by
      refine List.ext_getElem (by simp [h.length]) (fun i hi hi' => ?_)
      have hlt : i < s'.workers.length := Nat.lt_of_lt_of_le (by simpa using hi') h.length
      rcases h.workers i _ (List.getElem?_eq_getElem hlt) with ⟨w, hw, -, htask⟩ | ⟨hnone, -⟩
      · obtain ⟨_, rfl⟩ := List.getElem?_eq_some_iff.1 hw
        simp [htask]
      · exact absurd (List.getElem?_eq_none_iff.1 hnone) (by simpa using hi')
    rw [← hold, ← List.map_append, List.take_append_drop]
  · obtain ⟨w', hw', rfl⟩ := List.mem_map.1 ht
    obtain ⟨j, hj⟩ := List.getElem?_of_mem hw'
    rw [List.getElem?_drop] at hj
    rcases h.workers _ w' hj with ⟨w, hw, -⟩ | ⟨-, htask⟩
    · exact absurd (List.getElem?_eq_some_iff.1 hw).1 (by omega)
    · exact ⟨w'.key, htask⟩

theorem lookUp_extends (h : s.lookUp fresh = some s') : Extends fresh s s' := by
  obtain ⟨key, msg, -, ⟨i, -, rfl⟩ | ⟨-, rfl⟩⟩ := lookUp_eq_some h
  · exact .of_eq rfl
  · refine ⟨by simp, fun i w' hw' => ?_⟩
    rcases getElem?_concat_eq_some.1 hw' with hw' | ⟨rfl, rfl⟩
    · exact .inl ⟨w', hw', rfl, rfl⟩
    · exact .inr ⟨List.getElem?_eq_none (Nat.le_refl _), rfl⟩

omit [DecidableEq κ] in
theorem send_extends {stage : φ → Stage} (h : s.send stage = some s') : Extends fresh s s' := by
  obtain ⟨key, msg, j, w, -, hw, ⟨-, rfl⟩ | ⟨-, rfl⟩⟩ := send_eq_some h
  · refine ⟨Nat.le_of_eq List.length_set.symm, fun i w' hw' => .inl ?_⟩
    rw [getElem?_set_of_some hw] at hw'
    split at hw'
    · subst i
      cases hw'
      exact ⟨w, hw, rfl, rfl⟩
    · exact ⟨w', hw', rfl, rfl⟩
  · exact .of_eq rfl

end Extends

/-- Every message that is on its way has a property. -/
structure Carries (P : μ → Prop) (s : State κ μ φ) : Prop where
  inbound : ∀ msg ∈ s.inbound.message, P msg
  queues : ∀ w ∈ s.workers, ∀ msg ∈ w.queue, P msg

section Carries

variable {P : μ → Prop} {s s' : State κ μ φ}

omit [DecidableEq κ] in
theorem carries_init : Carries P (init : State κ μ φ) :=
  ⟨fun msg hm => absurd hm (Option.not_mem_none msg), fun _ hw => absurd hw List.not_mem_nil⟩

omit [DecidableEq κ] in
theorem Carries.receive (hc : Carries P s) {key : κ} {msg : μ} (hmsg : P msg) (h : s.receive key msg = some s') :
    Carries P s' := by
  obtain ⟨-, rfl⟩ := receive_eq_some h
  exact ⟨fun m hm => Option.some.inj hm ▸ hmsg, hc.queues⟩

theorem Carries.lookUp (hc : Carries P s) {fresh : κ → φ} (h : s.lookUp fresh = some s') : Carries P s' := by
  obtain ⟨key, msg, hin, hcase⟩ := lookUp_eq_some h
  have hmsg : P msg := hc.inbound msg (by rw [hin]; rfl)
  rcases hcase with ⟨i, -, rfl⟩ | ⟨-, rfl⟩
  · exact ⟨fun m hm => Option.some.inj hm ▸ hmsg, hc.queues⟩
  · refine ⟨fun m hm => Option.some.inj hm ▸ hmsg, fun w hw => ?_⟩
    rcases List.mem_append.1 hw with hw | hw
    · exact hc.queues w hw
    · rw [List.mem_singleton.1 hw]
      exact nofun

omit [DecidableEq κ] in
theorem Carries.put (hc : Carries P s) {i : Nat} {w : Worker κ μ φ} (hw : ∀ msg ∈ w.queue, P msg) : Carries P (s.put i w) :=
  ⟨hc.inbound, fun v hv => (List.mem_or_eq_of_mem_set hv).elim (hc.queues v) (fun he => he ▸ hw)⟩

omit [DecidableEq κ] in
theorem Carries.send (hc : Carries P s) {stage : φ → Stage} (h : s.send stage = some s') : Carries P s' := by
  obtain ⟨key, msg, j, w, hin, hw, ⟨-, rfl⟩ | ⟨-, rfl⟩⟩ := send_eq_some h
  · have hput : Carries P (s.put j { w with queue := w.queue ++ [msg] }) := hc.put (fun m hm => by
      rcases List.mem_append.1 hm with hm | hm
      · exact hc.queues w (List.mem_of_getElem? hw) m hm
      · rw [List.mem_singleton.1 hm]
        exact hc.inbound msg (by rw [hin]; rfl))
    exact ⟨nofun, hput.queues⟩
  · exact ⟨nofun, hc.queues⟩

theorem Carries.forget (hc : Carries P s) (h : s.forget = some s') : Carries P s' := by
  obtain ⟨key, -, rfl⟩ := forget_eq_some h
  exact ⟨nofun, hc.queues⟩

theorem Carries.removeIf (hc : Carries P s) (b : Bool) (key : κ) : Carries P (s.removeIf b key) :=
  ⟨by rw [inbound_removeIf]; exact hc.inbound, by rw [workers_removeIf]; exact hc.queues⟩

end Carries

/-! The program's steps are steps of the protocol. -/

section Refinement

variable (stage : φ → Stage)

def protocol (s : State κ μ φ) : Protocol κ μ := ⟨s.table, s.inbound, s.workers.map (fun w => (w.key, stage w.task))⟩

variable {s s' : State κ μ φ} {i : Nat} {w w' : Worker κ μ φ}

omit [DecidableEq κ] in
theorem workers_protocol (hw : s.workers[i]? = some w) : (s.protocol stage).workers[i]? = some (w.key, stage w.task) := by
  rw [protocol, List.getElem?_map, hw]
  rfl

omit [DecidableEq κ] in
theorem of_workers_protocol {key : κ} {st : Stage} (h : (s.protocol stage).workers[i]? = some (key, st)) :
    ∃ w, s.workers[i]? = some w ∧ w.key = key ∧ stage w.task = st := by
  rw [protocol, List.getElem?_map] at h
  obtain ⟨w, hw, he⟩ := Option.map_eq_some_iff.1 h
  exact ⟨w, hw, congrArg Prod.fst he, congrArg Prod.snd he⟩

omit [DecidableEq κ] in
theorem protocol_put : (s.put i w').protocol stage =
    { s.protocol stage with workers := (s.protocol stage).workers.set i (w'.key, stage w'.task) } := by
  simp only [protocol, put, List.map_set]

variable {stage}

omit [DecidableEq κ] in
/-- A worker that keeps its key and its stage is where it was. -/
theorem protocol_put_eq (hw : s.workers[i]? = some w) (hkey : w'.key = w.key) (hstage : stage w'.task = stage w.task) :
    (s.put i w').protocol stage = s.protocol stage := by
  obtain ⟨hlt, heq⟩ := List.getElem?_eq_some_iff.1 (workers_protocol stage hw)
  have hset : (s.protocol stage).workers.set i (w.key, stage w.task) = (s.protocol stage).workers := by
    rw [← heq]
    exact List.set_getElem_self hlt
  rw [protocol_put, hkey, hstage, hset]

theorem lookUp_step {fresh : κ → φ} (hfresh : ∀ key, stage (fresh key) = .running) (h : s.lookUp fresh = some s') :
    (s.protocol stage).Step (s'.protocol stage) := by
  obtain ⟨key, msg, hin, ⟨i, hl, rfl⟩ | ⟨hl, rfl⟩⟩ := lookUp_eq_some h
  · exact .find hin hl
  · have hspawn := Protocol.Step.spawn (p := s.protocol stage) hin hl
    simpa [protocol, hfresh] using hspawn

theorem send_step (h : s.send stage = some s') : (s.protocol stage).Step (s'.protocol stage) := by
  obtain ⟨key, msg, i, w, hin, hw, ⟨-, rfl⟩ | ⟨hgone, rfl⟩⟩ := send_eq_some h
  · have hput : (s.put i { w with queue := w.queue ++ [msg] }).protocol stage = s.protocol stage :=
      protocol_put_eq hw rfl rfl
    have hworkers : (s.put i { w with queue := w.queue ++ [msg] }).workers.map (fun w => (w.key, stage w.task))
        = (s.protocol stage).workers := congrArg Protocol.workers hput
    have hsent := Protocol.Step.sent (p := s.protocol stage) hin
    rw [← hworkers] at hsent
    exact hsent
  · have hgone' := workers_protocol stage hw
    rw [hgone] at hgone'
    exact .unsent hin hgone'

theorem forget_step (h : s.forget = some s') : (s.protocol stage).Step (s'.protocol stage) := by
  obtain ⟨key, hin, rfl⟩ := forget_eq_some h
  exact .forget hin

/-- A worker that has removed its key. -/
theorem leave_step (hw : s.workers[i]? = some w) (hrunning : stage w.task = .running) (hkey : w'.key = w.key)
    (hremoved : stage w'.task = .removed) : (s.protocol stage).Step (((s.remove w.key).put i w').protocol stage) := by
  have hw' := workers_protocol stage hw
  rw [hrunning] at hw'
  rw [protocol_put, hkey, hremoved]
  exact .leave hw'

/-- A worker that drops its receiver. -/
theorem finish_step (hw : s.workers[i]? = some w) (hremoved : stage w.task = .removed) (hkey : w'.key = w.key)
    (hgone : stage w'.task = .gone) : (s.protocol stage).Step ((s.put i w').protocol stage) := by
  have hw' := workers_protocol stage hw
  rw [hremoved] at hw'
  rw [protocol_put, hkey, hgone]
  exact .finish hw'

/-- A worker that drops its receiver and leaves its key in the table. -/
theorem abandon_step (hw : s.workers[i]? = some w) (hrunning : stage w.task = .running) (hkey : w'.key = w.key)
    (hgone : stage w'.task = .gone) : (s.protocol stage).Step ((s.put i w').protocol stage) := by
  have hw' := workers_protocol stage hw
  rw [hrunning] at hw'
  rw [protocol_put, hkey, hgone]
  exact .abandon hw'

end Refinement

end State

end Dispatch
