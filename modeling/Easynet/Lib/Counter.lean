import Mathlib.Data.List.Count
/-!
# Counter — a number of tasks, kept by hand

Tasks that share a counter increment it at one point of their program and decrement it at a later one.  The counter is
exact if it is the number of tasks between the two: then a task that is to decrement it finds it positive.  A step of one
task enters the section, leaves it, or stays on its side of either point, and the counter has to move with it (`Move`).
-/
namespace Counter

variable {τ : Type*} {between : τ → Bool} {tasks : List τ} {n i : Nat} {a b : τ}

/-- **The counter is the number of tasks between their increment and their decrement.** -/
def Exact (between : τ → Bool) (tasks : List τ) (n : Nat) : Prop := n = tasks.countP between

theorem Exact.pos (h : Exact between tasks n) (ha : tasks[i]? = some a) (hin : between a = true) : 0 < n := by
  rw [h]
  exact List.countP_pos_iff.2 ⟨a, List.mem_of_getElem? ha, hin⟩

theorem Exact.countP_set (h : Exact between tasks n) (ha : tasks[i]? = some a) (b : τ) :
    (tasks.set i b).countP between = n - (if between a = true then 1 else 0) + (if between b = true then 1 else 0) := by
  obtain ⟨hi, rfl⟩ := List.getElem?_eq_some_iff.1 ha
  rw [List.countP_set hi, h]

theorem Exact.enter (h : Exact between tasks n) (ha : tasks[i]? = some a) (hout : between a = false)
    (hin : between b = true) : Exact between (tasks.set i b) (n + 1) := by
  rw [Exact, h.countP_set ha, hout, hin]
  rfl

theorem Exact.leave (h : Exact between tasks n) (ha : tasks[i]? = some a) (hin : between a = true)
    (hout : between b = false) : Exact between (tasks.set i b) (n - 1) := by
  rw [Exact, h.countP_set ha, hin, hout]
  rfl

theorem Exact.stay (h : Exact between tasks n) (ha : tasks[i]? = some a) (hside : between b = between a) :
    Exact between (tasks.set i b) n := by
  rw [Exact, h.countP_set ha, hside]
  split
  · exact (Nat.sub_add_cancel (h.pos ha ‹_›)).symm
  · rfl

/-- **What a step of a task does to the counter**: the task is `a` before the step and `b` after it, the counter `n`. -/
inductive Move (between : τ → Bool) (a b : τ) (n : Nat) : Nat → Prop
  | enter (hout : between a = false) (hin : between b = true) : Move between a b n (n + 1)
  | leave (hin : between a = true) (hout : between b = false) : Move between a b n (n - 1)
  | stay (hside : between b = between a) : Move between a b n n

theorem Exact.move {n' : Nat} (h : Exact between tasks n) (ha : tasks[i]? = some a) (hm : Move between a b n n') :
    Exact between (tasks.set i b) n' := by
  cases hm with
  | enter hout hin => exact h.enter ha hout hin
  | leave hin hout => exact h.leave ha hin hout
  | stay hside => exact h.stay ha hside

theorem Exact.spawn (h : Exact between tasks n) {new : List τ} (hout : ∀ t ∈ new, between t = false) :
    Exact between (tasks ++ new) n := by
  have hnone : new.countP between = 0 := List.countP_eq_zero.2 (fun t ht => Bool.eq_false_iff.1 (hout t ht))
  rw [Exact, List.countP_append, hnone, Nat.add_zero, h]

theorem Exact.eq_zero (h : Exact between tasks n) (hout : ∀ t ∈ tasks, between t = false) : n = 0 := by
  rw [h]
  exact List.countP_eq_zero.2 (fun t ht => Bool.eq_false_iff.1 (hout t ht))

end Counter
