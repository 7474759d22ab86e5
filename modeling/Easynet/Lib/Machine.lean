import Mathlib.Data.List.Basic
import Mathlib.Logic.Relation
/-!
# Machine — runs of a partial step function, with their history

A machine is a step function `σ → α → Option σ`: the action resolves every choice the environment and the scheduler
have, and `none` says that the action is not enabled.  A run is kept with its **history**, the list of its steps, each
as the state before it and its action, oldest first, so that a statement can speak about what happened earlier without
ghost fields in the state.

The rules here are the ones a development uses: an invariant of every run (`Run.invariant`), an invariant of the runs
whose steps all meet a condition (`Run.invariant_of`), a relation between the history and the state
(`Run.history_invariant`), and the split of a run at one of its steps (`Run.split`).
-/
namespace Machine

variable {σ α : Type*}

def exec (step : σ → α → Option σ) : σ → List α → Option σ
  | s, []      => some s
  | s, a :: as => (step s a).bind (fun s' => exec step s' as)

/-- **A run from `s₀`**: its history and the state it reaches. -/
inductive Run (step : σ → α → Option σ) (s₀ : σ) : List (σ × α) → σ → Prop
  | nil : Run step s₀ [] s₀
  | snoc {h : List (σ × α)} {s : σ} {a : α} {s' : σ} :
      Run step s₀ h s → step s a = some s' → Run step s₀ (h ++ [(s, a)]) s'

section Exec

variable {step : σ → α → Option σ}

@[simp] theorem exec_nil (s : σ) : exec step s [] = some s := rfl

@[simp] theorem exec_cons (s : σ) (a : α) (as : List α) :
    exec step s (a :: as) = (step s a).bind (fun s' => exec step s' as) := rfl

theorem exec_append (s : σ) (as bs : List α) :
    exec step s (as ++ bs) = (exec step s as).bind (fun s' => exec step s' bs) := by
  induction as generalizing s with
  | nil => rfl
  | cons a as ih =>
    rw [List.cons_append, exec_cons, exec_cons]
    cases hs : step s a with
    | none => rfl
    | some s' => exact ih s'

theorem exec_trans {s t u : σ} {as bs : List α} (h₁ : exec step s as = some t) (h₂ : exec step t bs = some u) :
    exec step s (as ++ bs) = some u := by
  rw [exec_append, h₁]; exact h₂

/-- **A family of states walked by one block of actions**: from `S k`, a block reaches `S (k + 1)`; `n` blocks
reach `S (k + n)`. -/
theorem exec_blocks (S : Nat → σ) (block : Nat → List α) (N : Nat)
    (hstep : ∀ k, k < N → exec step (S k) (block k) = some (S (k + 1))) :
    ∀ (n k : Nat), k + n ≤ N →
      exec step (S k) ((List.range' k n).flatMap block) = some (S (k + n))
  | 0, k, _ => rfl
  | n + 1, k, hN => by
    rw [List.range'_succ, List.flatMap_cons]
    refine exec_trans (hstep k (by omega)) ?_
    have := exec_blocks S block N hstep n (k + 1) (by omega)
    rw [this]
    congr 2; omega

/-- The history of executing a list of actions. -/
def trace (step : σ → α → Option σ) : σ → List α → List (σ × α)
  | _, []      => []
  | s, a :: as => (step s a).elim [] (fun s' => (s, a) :: trace step s' as)

theorem trace_append {bs : List α} {t : σ} : ∀ {as : List α} {s : σ}, exec step s as = some t →
    trace step s (as ++ bs) = trace step s as ++ trace step t bs
  | [], s, he => by cases he; rfl
  | a :: as, s, he => by
    rw [exec_cons, Option.bind_eq_some_iff] at he
    obtain ⟨s', hs, he⟩ := he
    simp [trace, hs, trace_append he]

theorem trace_blocks (S : Nat → σ) (block : Nat → List α) (N : Nat)
    (hstep : ∀ k, k < N → exec step (S k) (block k) = some (S (k + 1))) :
    ∀ (n k : Nat), k + n ≤ N → trace step (S k) ((List.range' k n).flatMap block) =
      (List.range' k n).flatMap (fun i => trace step (S i) (block i))
  | 0, k, _ => rfl
  | n + 1, k, hN => by
    rw [List.range'_succ, List.flatMap_cons, List.flatMap_cons, trace_append (hstep k (by omega)),
      trace_blocks S block N hstep n (k + 1) (by omega)]

theorem Run.exec_append {s₀ t : σ} : ∀ {as : List α} {h : List (σ × α)} {s : σ}, Run step s₀ h s →
    exec step s as = some t → Run step s₀ (h ++ trace step s as) t
  | [], h, s, hr, he => by
    cases he
    simpa [trace] using hr
  | a :: as, h, s, hr, he => by
    rw [exec_cons, Option.bind_eq_some_iff] at he
    obtain ⟨s', hs, he⟩ := he
    have := Run.exec_append (hr.snoc hs) he
    simpa [trace, hs] using this

theorem run_of_exec {s₀ s : σ} {as : List α} (he : exec step s₀ as = some s) :
    Run step s₀ (trace step s₀ as) s :=
  Run.exec_append (.nil : Run step s₀ [] s₀) he

/-- The run of an executable list of actions. -/
theorem run_get {s₀ : σ} {as : List α} (he : (exec step s₀ as).isSome = true) :
    Run step s₀ (trace step s₀ as) ((exec step s₀ as).get he) :=
  run_of_exec (Option.some_get he).symm

end Exec

section Rules

variable {step : σ → α → Option σ} {s₀ s : σ} {h : List (σ × α)}

/-- **An invariant of every run.** -/
theorem Run.invariant (hr : Run step s₀ h s) (I : σ → Prop) (h0 : I s₀)
    (hstep : ∀ s a s', I s → step s a = some s' → I s') : I s := by
  induction hr with
  | nil => exact h0
  | snoc _ hs ih => exact hstep _ _ _ ih hs

/-- **An invariant of the runs whose steps all meet a condition.** -/
theorem Run.invariant_of (hr : Run step s₀ h s) (C : σ → α → Prop) (hC : ∀ p ∈ h, C p.1 p.2) (I : σ → Prop)
    (h0 : I s₀) (hstep : ∀ s a s', I s → C s a → step s a = some s' → I s') : I s := by
  induction hr with
  | nil => exact h0
  | snoc _ hs ih =>
    exact hstep _ _ _ (ih (fun p hp => hC p (List.mem_append_left _ hp)))
      (hC _ (List.mem_append_right _ List.mem_cons_self)) hs

/-- **A relation between the history and the state**, started by the empty history and kept by every step. -/
theorem Run.history_invariant (hr : Run step s₀ h s) (I : List (σ × α) → σ → Prop) (h0 : I [] s₀)
    (hstep : ∀ h s a s', Run step s₀ h s → I h s → step s a = some s' → I (h ++ [(s, a)]) s') : I h s := by
  induction hr with
  | nil => exact h0
  | snoc hr hs ih => exact hstep _ _ _ _ hr ih hs

/-- A run and a run from where it ends are one run. -/
theorem Run.trans {t : σ} (hr : Run step s₀ h t) {h' : List (σ × α)} (hr' : Run step t h' s) :
    Run step s₀ (h ++ h') s := by
  induction hr' with
  | nil => rwa [List.append_nil]
  | snoc _ hs ih =>
    rw [← List.append_assoc]
    exact ih.snoc hs

/-- What is read off a history step by step. -/
theorem filterMap_snoc {β : Type*} (f : σ × α → Option β) (p : σ × α) :
    (h ++ [p]).filterMap f = h.filterMap f ++ (f p).toList := by
  rw [List.filterMap_append]
  cases hp : f p <;> simp [hp]

/-- What is read off a history step by step, when the last step gives nothing. -/
theorem filterMap_snoc_none {β : Type*} {f : σ × α → Option β} {p : σ × α} (hp : f p = none) :
    (h ++ [p]).filterMap f = h.filterMap f := by
  rw [List.filterMap_append, List.filterMap_cons_none hp, List.filterMap_nil, List.append_nil]

theorem filterMap_snoc_some {β : Type*} {f : σ × α → Option β} {p : σ × α} {b : β} (hp : f p = some b) :
    (h ++ [p]).filterMap f = h.filterMap f ++ [b] := by
  rw [List.filterMap_append, List.filterMap_cons_some hp, List.filterMap_nil]

/-- **Split a run at one of its steps**: the run up to it, the step, and the run from there. -/
theorem Run.split (hr : Run step s₀ h s) : ∀ (h₁ : List (σ × α)) (t : σ) (a : α) (h₂ : List (σ × α)),
    h = h₁ ++ (t, a) :: h₂ → Run step s₀ h₁ t ∧ ∃ t', step t a = some t' ∧ Run step t' h₂ s := by
  induction hr with
  | nil =>
    intro h₁ t a h₂ he
    cases h₁ <;> cases he
  | @snoc h s b s' hr hs ih =>
    intro h₁ t a h₂ he
    rcases List.eq_nil_or_concat h₂ with rfl | ⟨h₂', q, rfl⟩
    · obtain ⟨rfl, hq⟩ := List.append_inj' he rfl
      simp only [List.cons.injEq, Prod.mk.injEq, and_true] at hq
      obtain ⟨rfl, rfl⟩ := hq
      exact ⟨hr, s', hs, .nil⟩
    · rw [List.concat_eq_append, ← List.cons_append, ← List.append_assoc] at he
      obtain ⟨rfl, hq⟩ := List.append_inj' he rfl
      simp only [List.cons.injEq, and_true] at hq
      subst hq
      obtain ⟨h1, t', ht, h2⟩ := ih h₁ t a h₂' rfl
      rw [List.concat_eq_append]
      exact ⟨h1, t', ht, h2.snoc hs⟩

/-- The same at a step that the run has. -/
theorem Run.of_mem (hr : Run step s₀ h s) {p : σ × α} (hp : p ∈ h) :
    ∃ h₁ h₂ t, h = h₁ ++ p :: h₂ ∧ Run step s₀ h₁ p.1 ∧ step p.1 p.2 = some t ∧ Run step t h₂ s := by
  obtain ⟨h₁, h₂, he⟩ := List.append_of_mem hp
  obtain ⟨hr₁, t, hs, hr₂⟩ := hr.split h₁ p.1 p.2 h₂ he
  exact ⟨h₁, h₂, t, he, hr₁, hs, hr₂⟩

theorem Run.eq_of_nil (hr : Run step s₀ [] s) : s = s₀ := by
  generalize he : ([] : List (σ × α)) = h at hr
  cases hr with
  | nil => rfl
  | snoc => exact absurd he.symm (List.append_ne_nil_of_right_ne_nil _ (List.cons_ne_nil _ _))

/-- The states of a run, from the first to the last. -/
def states (h : List (σ × α)) (s : σ) : List σ := h.map Prod.fst ++ [s]

/-- **The states of a run are those at which it can be cut.** -/
theorem Run.mem_states (hr : Run step s₀ h s) {t : σ} :
    t ∈ states h s ↔ ∃ h₁ h₂, h = h₁ ++ h₂ ∧ Run step s₀ h₁ t ∧ Run step t h₂ s := by
  rw [states, List.mem_append, List.mem_map, List.mem_singleton]
  constructor
  · rintro (⟨p, hp, rfl⟩ | rfl)
    · obtain ⟨h₁, h₂, t', he, hr₁, hs, hr₂⟩ := hr.of_mem hp
      exact ⟨h₁, p :: h₂, he, hr₁, (Run.nil.snoc hs).trans hr₂⟩
    · exact ⟨h, [], (List.append_nil h).symm, hr, .nil⟩
  · rintro ⟨h₁, h₂, rfl, -, hr₂⟩
    cases h₂ with
    | nil => exact Or.inr hr₂.eq_of_nil.symm
    | cons p h₂ =>
      obtain ⟨hnil, -⟩ := hr₂.split [] p.1 p.2 h₂ rfl
      exact Or.inl ⟨p, List.mem_append_right _ List.mem_cons_self, hnil.eq_of_nil⟩

/-- `C` at every step of a history: of the steps before it, the state it starts from, and its action. -/
def Throughout (C : List (σ × α) → σ → α → Prop) (h : List (σ × α)) : Prop :=
  ∀ i (hi : i < h.length), C (h.take i) h[i].1 h[i].2

instance (C : List (σ × α) → σ → α → Prop) [∀ h s a, Decidable (C h s a)] (h : List (σ × α)) :
    Decidable (Throughout C h) :=
  inferInstanceAs (Decidable (∀ i (hi : i < h.length), C (h.take i) h[i].1 h[i].2))

theorem throughout_snoc {C : List (σ × α) → σ → α → Prop} {a : α} :
    Throughout C (h ++ [(s, a)]) ↔ Throughout C h ∧ C h s a := by
  constructor
  · intro hC
    refine ⟨fun i hi => ?_, ?_⟩
    · have := hC i (by rw [List.length_append]; omega)
      simpa [List.getElem_append_left hi, List.take_append_of_le_length (Nat.le_of_lt hi)] using this
    · simpa using hC h.length (by simp)
  · rintro ⟨hC, ha⟩ i hi
    rcases Nat.lt_or_ge i h.length with hlt | hge
    · simpa [List.getElem_append_left hlt, List.take_append_of_le_length (Nat.le_of_lt hlt)] using hC i hlt
    · obtain rfl : i = h.length := by simp at hi; omega
      simpa using ha

/-- A condition on the step alone. -/
theorem throughout_iff_forall_mem {C : σ → α → Prop} : Throughout (fun _ => C) h ↔ ∀ p ∈ h, C p.1 p.2 := by
  constructor
  · intro hC p hp
    obtain ⟨i, hi, rfl⟩ := List.getElem_of_mem hp
    exact hC i hi
  · exact fun hC i hi => hC _ (List.getElem_mem hi)

/-- What all steps meet, all steps before a step meet. -/
theorem throughout_past {Q : σ × α → Prop} (hQ : ∀ p ∈ h, Q p) : Throughout (fun h _ _ => ∀ p ∈ h, Q p) h :=
  fun _ _ p hp => hQ p (List.mem_of_mem_take hp)

/-- **What holds at every step of a run**, from what holds at a step that meets `D`. -/
theorem Run.throughout_of (hr : Run step s₀ h s) {C D : List (σ × α) → σ → α → Prop} (hD : Throughout D h)
    (hC : ∀ h s a s', Run step s₀ h s → step s a = some s' → D h s a → C h s a) : Throughout C h := by
  intro i hi
  have he : h = h.take i ++ (h[i].1, h[i].2) :: h.drop (i + 1) := by
    rw [← List.drop_eq_getElem_cons hi, List.take_append_drop]
  obtain ⟨hr₁, t', hs, -⟩ := hr.split _ _ _ _ he
  exact hC _ _ _ _ hr₁ hs (hD i hi)

theorem Run.throughout (hr : Run step s₀ h s) {C : List (σ × α) → σ → α → Prop}
    (hC : ∀ h s a s', Run step s₀ h s → step s a = some s' → C h s a) : Throughout C h :=
  hr.throughout_of (D := fun _ _ _ => True) (fun _ _ => trivial) (fun h s a s' hr hs _ => hC h s a s' hr hs)

theorem Run.throughout_congr (hr : Run step s₀ h s) {C D E : List (σ × α) → σ → α → Prop} (hE : Throughout E h)
    (hCD : ∀ h s a s', Run step s₀ h s → step s a = some s' → E h s a → (C h s a ↔ D h s a)) :
    Throughout C h ↔ Throughout D h := by
  have hiff := hr.throughout_of (C := fun h s a => C h s a ↔ D h s a) hE hCD
  exact ⟨fun hC i hi => (hiff i hi).1 (hC i hi), fun hD i hi => (hiff i hi).2 (hD i hi)⟩

end Rules

/-! ## Components -/

/-- The part that one component has in a history: the steps that are an action of it. -/
def project {τ β : Type*} (part : σ → τ) (act : σ → α → Option β) (h : List (σ × α)) : List (τ × β) :=
  h.filterMap (fun p => (act p.1 p.2).map (part p.1, ·))

/-- **A run of a machine is a run of its component**, if every step either is a step of the component or leaves it as it
is. -/
theorem Run.project {τ β : Type*} {step : σ → α → Option σ} {step' : τ → β → Option τ} {part : σ → τ}
    {act : σ → α → Option β} {s₀ s : σ} {h : List (σ × α)}
    (hact : ∀ s a s' b, step s a = some s' → act s a = some b → step' (part s) b = some (part s'))
    (hidle : ∀ s a s', step s a = some s' → act s a = none → part s' = part s) (hr : Run step s₀ h s) :
    Run step' (part s₀) (Machine.project part act h) (part s) := by
  induction hr with
  | nil => exact .nil
  | @snoc h s a s' hr hs ih =>
    cases ha : act s a with
    | some b =>
      rw [Machine.project, filterMap_snoc_some (b := (part s, b)) (by rw [ha]; rfl)]
      exact ih.snoc (hact s a s' b hs ha)
    | none =>
      rw [Machine.project, filterMap_snoc_none (by rw [ha]; rfl), hidle s a s' hs ha]
      exact ih

/-- What is read off the component's history is what its actions give in the whole. -/
theorem filterMap_project {τ β γ : Type*} {part : σ → τ} {act : σ → α → Option β} (f : τ → β → Option γ)
    (h : List (σ × α)) : (Machine.project part act h).filterMap (fun p => f p.1 p.2) =
      h.filterMap (fun p => (act p.1 p.2).bind (f (part p.1))) := by
  rw [Machine.project, List.filterMap_filterMap]
  refine List.filterMap_congr (fun p _ => ?_)
  cases act p.1 p.2 <;> rfl

end Machine
