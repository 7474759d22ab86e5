import Easynet.Lib.Machine
/-!
# Fifo — what passes through a machine in order

A stage of a machine takes items in and gives them out.  What it holds is a list, read off the state, and the law of a
stage is about one step: what it held, with the item that comes in behind, is the item that goes out, with what it holds
then behind.  Such a law holds as long as the stage is **up**; a stage that goes down may lose what it holds, and gives
out nothing more.

Over a run that ends with the stage up, what came in is what went out followed by what is held (`Stage.eq`); over any run,
what went out is the beginning of what came in (`Stage.isPrefix`).  Stages of one machine are composed by these
two: what goes out of one comes in to the next.
-/
namespace Fifo

open Machine (Run filterMap_snoc)

variable {σ α β γ : Type*}

/-- The items that the steps of a history give, oldest first. -/
def items (f : σ → α → Option β) (h : List (σ × α)) : List β := h.filterMap (fun p => f p.1 p.2)

@[simp] theorem items_nil (f : σ → α → Option β) : items f [] = [] := rfl

theorem items_snoc (f : σ → α → Option β) (h : List (σ × α)) (s : σ) (a : α) :
    items f (h ++ [(s, a)]) = items f h ++ (f s a).toList := filterMap_snoc _ _

theorem items_map (f : σ → α → Option β) (g : β → γ) (h : List (σ × α)) :
    items (fun s a => (f s a).map g) h = (items f h).map g := by
  rw [items, items, List.map_filterMap]

theorem items_bind (f : σ → α → Option β) (g : β → Option γ) (h : List (σ × α)) :
    items (fun s a => (f s a).bind g) h = (items f h).filterMap g := by
  rw [items, items, List.filterMap_filterMap]

/-- What is given only where something else is. -/
theorem items_sublist {step : σ → α → Option σ} {s₀ s : σ} {h : List (σ × α)} {f g : σ → α → Option β}
    (hfg : ∀ s a s', step s a = some s' → f s a = none ∨ f s a = g s a) (hr : Run step s₀ h s) :
    (items f h).Sublist (items g h) := by
  induction hr with
  | nil => exact List.Sublist.refl _
  | @snoc h s a s' _ hs ih =>
    rw [items_snoc, items_snoc]
    rcases hfg s a s' hs with he | he
    · rw [he]
      exact (List.append_nil _) ▸ ih.trans (List.sublist_append_left _ _)
    · rw [he]
      exact ih.append_right _

/-- Items that are told by a part of them are among those with that part. -/
theorem sublist_map_of_map {l : List β} {m : List γ} {f : β → γ} {g : γ → β} (h : (l.map f).Sublist m)
    (hg : ∀ b ∈ l, g (f b) = b) : l.Sublist (m.map g) := by
  have hl : (l.map f).map g = l := by
    rw [List.map_map]
    exact (List.map_congr_left hg).trans (List.map_id _)
  exact hl ▸ h.map g

/-- **A first-in first-out stage** of a machine. -/
structure Stage (step : σ → α → Option σ) (s₀ : σ) (Up : σ → Prop) (inn out : σ → α → Option β)
    (held : σ → List β) : Prop where
  start : held s₀ = []
  back : ∀ {s a s'}, step s a = some s' → Up s' → Up s
  keep : ∀ {h s a s'}, Run step s₀ h s → step s a = some s' → Up s' →
    held s ++ (inn s a).toList = (out s a).toList ++ held s'
  stop : ∀ {h s a s'}, Run step s₀ h s → step s a = some s' → Up s → ¬ Up s' →
    (out s a).toList <+: held s ++ (inn s a).toList
  down : ∀ {s a s'}, step s a = some s' → ¬ Up s → out s a = none

variable {step : σ → α → Option σ} {s₀ s : σ} {Up : σ → Prop} {inn out : σ → α → Option β} {held : σ → List β}
  {h : List (σ × α)}

/-- **As long as a stage is up nothing is lost, doubled or overtaken**: what came in is what went out and what is held. -/
theorem Stage.eq (hst : Stage step s₀ Up inn out held) (hr : Run step s₀ h s) (hup : Up s) :
    items inn h = items out h ++ held s := by
  induction hr with
  | nil => rw [hst.start]; rfl
  | snoc hr hs ih =>
    rw [items_snoc, items_snoc, ih (hst.back hs hup), List.append_assoc, List.append_assoc, hst.keep hr hs hup]

/-- **What went out is the beginning of what came in**, whether the stage is up or not. -/
theorem Stage.isPrefix (hst : Stage step s₀ Up inn out held) (hr : Run step s₀ h s) : items out h <+: items inn h := by
  induction hr with
  | nil => exact List.prefix_refl _
  | @snoc h s a s' hr hs ih =>
    by_cases hup' : Up s'
    · exact ⟨held s', (hst.eq (hr.snoc hs) hup').symm⟩
    · rw [items_snoc, items_snoc]
      by_cases hup : Up s
      · rw [hst.eq hr hup, List.append_assoc]
        exact List.prefix_append_right_inj _ |>.2 (hst.stop hr hs hup hup')
      · rw [hst.down hs hup, Option.toList_none, List.append_nil]
        exact ih.trans (List.prefix_append _ _)

/-- **A stage that may lose items**, but does not double or reorder them. -/
structure Lossy (step : σ → α → Option σ) (s₀ : σ) (inn out : σ → α → Option β) (held : σ → List β) : Prop where
  start : held s₀ = []
  keep : ∀ {h s a s'}, Run step s₀ h s → step s a = some s' →
    ((out s a).toList ++ held s').Sublist (held s ++ (inn s a).toList)

theorem Lossy.sublist (hst : Lossy step s₀ inn out held) (hr : Run step s₀ h s) :
    (items out h ++ held s).Sublist (items inn h) := by
  induction hr with
  | nil => rw [hst.start]; exact List.Sublist.refl _
  | snoc hr hs ih =>
    rw [items_snoc, items_snoc, List.append_assoc]
    refine ((hst.keep hr hs).append_left _).trans ?_
    rw [← List.append_assoc]
    exact ih.append_right _

end Fifo
