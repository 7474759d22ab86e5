import Mathlib.Data.List.Nodup
/-!
# Timed — lists of entries that expire

A list of entries, each with a key and a deadline, stands for a map from keys to deadlines: `deadlineOf` reads it, `put`
sets one key, and dropping the entries whose deadline has come cannot be seen at any later time (`liveAt_filter`).  The
list holds a key at most once (`nodup_put`), so that what is left after dropping are exactly the live keys.
-/
namespace Timed

variable {ε α : Type*} [DecidableEq α] (key : ε → α) (deadline : ε → Nat)

/-- The entry takes the place of the first one with its key, or comes last. -/
def put (entry : ε) : List ε → List ε
  | []           => [entry]
  | e :: entries => if key e = key entry then entry :: entries else e :: put entry entries

def deadlineOf (entries : List ε) (a : α) : Option Nat :=
  (entries.find? (fun e => decide (key e = a))).map deadline

/-- The deadline has not come at time `t`. -/
def LiveAt (t : Nat) (d : Option Nat) : Prop := ∃ at', d = some at' ∧ t < at'

variable {key deadline}

theorem deadlineOf_cons (e : ε) (entries : List ε) (a : α) : deadlineOf key deadline (e :: entries) a =
    if key e = a then some (deadline e) else deadlineOf key deadline entries a := by
  unfold deadlineOf
  rw [List.find?_cons]
  by_cases h : key e = a
  · rw [if_pos h, decide_eq_true h]
    rfl
  · rw [if_neg h, decide_eq_false h]

theorem keys_put (entry : ε) : ∀ entries : List ε, (put key entry entries).map key =
    if key entry ∈ entries.map key then entries.map key else entries.map key ++ [key entry]
  | [] => rfl
  | e :: entries => by
    rw [put]
    by_cases h : key e = key entry
    · rw [if_pos h, List.map_cons, List.map_cons, ← h, if_pos List.mem_cons_self]
    · rw [if_neg h, List.map_cons, List.map_cons, keys_put entry entries]
      by_cases hm : key entry ∈ entries.map key
      · rw [if_pos hm, if_pos (List.mem_cons_of_mem _ hm)]
      · rw [if_neg hm, if_neg (fun hc => (List.mem_cons.1 hc).elim (fun he => h he.symm) hm), List.cons_append]

/-- **Setting a key keeps the keys distinct.** -/
theorem nodup_put {entries : List ε} (hn : (entries.map key).Nodup) (entry : ε) :
    ((put key entry entries).map key).Nodup := by
  rw [keys_put]
  by_cases hm : key entry ∈ entries.map key
  · rw [if_pos hm]
    exact hn
  · rw [if_neg hm]
    exact hn.append (List.nodup_singleton _) (List.disjoint_singleton.2 hm)

theorem deadlineOf_put (entry : ε) (a : α) : ∀ entries : List ε, deadlineOf key deadline (put key entry entries) a =
    if key entry = a then some (deadline entry) else deadlineOf key deadline entries a
  | [] => deadlineOf_cons entry [] a
  | e :: entries => by
    rw [put]
    by_cases h : key e = key entry
    · rw [if_pos h, deadlineOf_cons, deadlineOf_cons, h]
      by_cases ha : key entry = a
      · rw [if_pos ha, if_pos ha]
      · rw [if_neg ha, if_neg ha, if_neg ha]
    · rw [if_neg h, deadlineOf_cons, deadlineOf_cons, deadlineOf_put entry a entries]
      by_cases ha : key entry = a
      · rw [if_pos ha, if_pos ha, if_neg (fun he => h (he.trans ha.symm))]
      · rw [if_neg ha, if_neg ha]

theorem deadlineOf_isSome {entries : List ε} {a : α} :
    (deadlineOf key deadline entries a).isSome = true ↔ a ∈ entries.map key := by
  rw [deadlineOf, Option.isSome_map, List.find?_isSome, List.mem_map]
  simp only [decide_eq_true_eq]

/-- Dropping entries drops their deadlines, as long as no key has a second entry. -/
theorem deadlineOf_filter {n : Nat} (a : α) : ∀ {entries : List ε}, (entries.map key).Nodup →
    deadlineOf key deadline (entries.filter (fun e => decide (n < deadline e))) a =
      (deadlineOf key deadline entries a).filter (fun d => decide (n < d))
  | [], _ => rfl
  | e :: entries, hn => by
    rw [List.map_cons, List.nodup_cons] at hn
    have ih := deadlineOf_filter (n := n) a hn.2
    rw [List.filter_cons, deadlineOf_cons]
    by_cases hlive : n < deadline e
    · rw [if_pos (decide_eq_true hlive), deadlineOf_cons, ih]
      by_cases ha : key e = a
      · rw [if_pos ha, if_pos ha, Option.filter_some, if_pos (decide_eq_true hlive)]
      · rw [if_neg ha, if_neg ha]
    · rw [if_neg (by rwa [decide_eq_true_eq]), ih]
      by_cases ha : key e = a
      · -- the key has no other entry
        have hnone : deadlineOf key deadline entries a = none := by
          refine Option.not_isSome_iff_eq_none.1 (fun hs => ?_)
          exact hn.1 (ha ▸ deadlineOf_isSome.1 hs)
        rw [if_pos ha, hnone, Option.filter_some, if_neg (by rwa [decide_eq_true_eq])]
        rfl
      · rw [if_neg ha]

/-- **What has expired cannot be seen any more.** -/
theorem liveAt_filter {now t : Nat} (h : now ≤ t) (d : Option Nat) :
    LiveAt t (d.filter (fun d => decide (now < d))) ↔ LiveAt t d := by
  constructor
  · rintro ⟨at', hd, hlt⟩
    exact ⟨at', (Option.filter_eq_some_iff.1 hd).1, hlt⟩
  · rintro ⟨at', hd, hlt⟩
    exact ⟨at', Option.filter_eq_some_iff.2 ⟨hd, decide_eq_true (Nat.lt_of_le_of_lt h hlt)⟩, hlt⟩

/-- **The entries that are left at a time are those of the live keys.** -/
theorem mem_live_iff {now : Nat} {entries : List ε} (hn : (entries.map key).Nodup) (a : α) :
    a ∈ (entries.filter (fun e => decide (now < deadline e))).map key ↔ LiveAt now (deadlineOf key deadline entries a) := by
  rw [← @deadlineOf_isSome _ _ _ key deadline, deadlineOf_filter a hn, Option.isSome_iff_exists]
  simp only [Option.filter_eq_some_iff, decide_eq_true_eq]
  exact Iff.rfl

end Timed
