import Mathlib.Data.List.AList
/-!
# Table — finite maps without an order

A hash map's entries have no order a program can rely on.  Here a map is an `AList`, `retain` keeps the entries that
pass a test, and a search (`iter().find(..)`) has every matching entry as a possible answer: `isFind` says which keys
a search may return, and that it returns none only when no entry matches.
-/
namespace Table

variable {α β : Type*} [DecidableEq α]

def retain (p : α → β → Bool) (t : AList (fun _ : α => β)) : AList (fun _ : α => β) :=
  ⟨t.entries.filter (fun e => p e.1 e.2), t.nodupKeys.sublist List.filter_sublist⟩

/-- `pick` is a possible answer of a search for an entry whose value passes `p`. -/
def isFind (p : β → Bool) (t : AList (fun _ : α => β)) : Option α → Bool
  | some a => match t.lookup a with
    | some b => p b
    | none   => false
  | none   => t.entries.all (fun e => !p e.2)

theorem lookup_eq_some_iff {t : AList (fun _ : α => β)} {a : α} {b : β} :
    t.lookup a = some b ↔ (⟨a, b⟩ : Sigma (fun _ : α => β)) ∈ t.entries := by
  rw [← AList.mem_lookup_iff]; rfl

theorem lookup_retain (p : α → β → Bool) (t : AList (fun _ : α => β)) (a : α) :
    (retain p t).lookup a = (t.lookup a).filter (p a) := by
  apply Option.ext
  intro b
  rw [Option.filter_eq_some_iff, lookup_eq_some_iff, lookup_eq_some_iff]
  exact List.mem_filter

theorem lookup_insert_eq (t : AList (fun _ : α => β)) (a a' : α) (b : β) :
    (t.insert a b).lookup a' = if a' = a then some b else t.lookup a' := by
  by_cases h : a' = a
  · subst h; rw [AList.lookup_insert, if_pos rfl]
  · rw [AList.lookup_insert_ne h, if_neg h]

theorem lookup_erase_eq (t : AList (fun _ : α => β)) (a a' : α) :
    (t.erase a).lookup a' = if a' = a then none else t.lookup a' := by
  by_cases h : a' = a
  · subst h; rw [AList.lookup_erase, if_pos rfl]
  · rw [AList.lookup_erase_ne h, if_neg h]

theorem isFind_some {p : β → Bool} {t : AList (fun _ : α => β)} {a : α} (h : isFind p t (some a) = true) :
    ∃ b, t.lookup a = some b ∧ p b = true := by
  unfold isFind at h
  cases hl : t.lookup a with
  | none => simp [hl] at h
  | some b => exact ⟨b, rfl, by simpa [hl] using h⟩

/-- A search has an answer. -/
theorem exists_isFind (p : β → Bool) (t : AList (fun _ : α => β)) : ∃ pick, isFind p t pick = true := by
  by_cases h : ∃ a b, t.lookup a = some b ∧ p b = true
  · obtain ⟨a, b, hl, hp⟩ := h
    exact ⟨some a, by simp [isFind, hl, hp]⟩
  · refine ⟨none, List.all_eq_true.2 (fun e he => ?_)⟩
    have hl : t.lookup e.1 = some e.2 := lookup_eq_some_iff.2 he
    simpa using fun hp => h ⟨e.1, e.2, hl, hp⟩

end Table
