import Mathlib.Logic.Relation
/-!
# Locking — one mutex among many tasks, and tasks that wait for each other

`MutexStep` is what a step of one task may do to a mutex: leave it, take it while it is free, or give it back; it says
nothing about the others.  Under it the mutex names a task exactly while that task holds it (`MutexStep.exclusive`), so no
two tasks do.  A circular wait is a cycle of tasks each blocked on the next; a rank that falls along every wait rules it
out.
-/
namespace Locking

variable {τ : Type*}

/-- A step of task `v`, as far as the mutex is concerned: `lock` names the task that has it, `holds` says of each task
whether it is past taking it and before giving it back. -/
structure MutexStep (lock lock' : Option τ) (holds holds' : τ → Prop) (v : τ) : Prop where
  others : ∀ u, u ≠ v → (holds' u ↔ holds u)
  own : (lock' = lock ∧ (holds' v ↔ holds v)) ∨ (lock = none ∧ lock' = some v ∧ holds' v) ∨
    (holds v ∧ lock' = none ∧ ¬ holds' v)

/-- **A mutex that names its holder goes on doing so.** -/
theorem MutexStep.exclusive {lock lock' : Option τ} {holds holds' : τ → Prop} {v : τ}
    (h : MutexStep lock lock' holds holds' v) (hx : ∀ u, lock = some u ↔ holds u) (u : τ) :
    lock' = some u ↔ holds' u := by
  by_cases hu : u = v
  · subst hu
    rcases h.own with ⟨hl, hh⟩ | ⟨-, hl, hh⟩ | ⟨-, hl, hh⟩
    · rw [hl, hh]; exact hx u
    · rw [hl]; exact ⟨fun _ => hh, fun _ => rfl⟩
    · rw [hl]; exact ⟨nofun, fun hu => absurd hu hh⟩
  · rw [h.others u hu, ← hx u]
    rcases h.own with ⟨hl, -⟩ | ⟨hn, hl, -⟩ | ⟨hv, hl, -⟩
    · rw [hl]
    · rw [hl, hn]
      exact ⟨fun he => absurd (Option.some.inj he).symm hu, nofun⟩
    · rw [hl, (hx v).2 hv]
      exact ⟨nofun, fun he => absurd (Option.some.inj he).symm hu⟩

/-- A cycle of tasks, each blocked on the next. -/
def Circular (blockedOn : τ → τ → Prop) : Prop := ∃ t, Relation.TransGen blockedOn t t

theorem not_circular_of_rank {blockedOn : τ → τ → Prop} (rank : τ → Nat)
    (h : ∀ t u, blockedOn t u → rank u < rank t) : ¬ Circular blockedOn := by
  have hfall : ∀ t u, Relation.TransGen blockedOn t u → rank u < rank t := by
    intro t u ht
    induction ht with
    | single hb => exact h _ _ hb
    | tail _ hb ih => exact Nat.lt_trans (h _ _ hb) ih
  rintro ⟨t, ht⟩
  exact Nat.lt_irrefl _ (hfall t t ht)

theorem circular_of_two {blockedOn : τ → τ → Prop} {t u : τ} (h₁ : blockedOn t u) (h₂ : blockedOn u t) :
    Circular blockedOn := ⟨t, .tail (.single h₁) h₂⟩

end Locking
