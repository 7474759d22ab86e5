import Mathlib.Data.List.Basic
/-!
# Drain — stateful decoders called until they ask for more

A decoder reads from the front of a buffer and keeps a state between calls.  One call either takes an item off the
buffer, or asks for more bytes, or fails; in all three cases it may have changed its state and consumed bytes.
`drain` calls it until it does not return an item (`Calls` counts how often), and `feed` appends chunks to the buffer
one by one and drains after each, stopping at the first failure.  `next` takes chunks only until there is an item.

A decoder is **incremental** when bytes that arrive later do not change a call that returned an item or failed, and a
call that asked for more can be resumed where it stopped.  Of an incremental decoder the chunks are invisible:
`feed_eq_drain` says that feeding is draining the concatenation, and `feed_congr` that two ways to cut one string
agree.
-/
namespace Drain

variable {σ β ι ε : Type*}

/-- **A decoder**, with a size that every returned item brings down. -/
structure Decoder (σ β ι ε : Type*) where
  decode : σ → List β → Except ε (Option ι) × σ × List β
  size : σ → List β → Nat
  item_size : ∀ {s b i s' r}, decode s b = (.ok (some i), s', r) → size s' r < size s b

structure Result (σ β ι ε : Type*) where
  items : List ι
  error : Option ε
  state : σ
  rest : List β

namespace Result

def prepend (is : List ι) (r : Result σ β ι ε) : Result σ β ι ε := { r with items := is ++ r.items }

@[simp] theorem prepend_items (is : List ι) (r : Result σ β ι ε) : (r.prepend is).items = is ++ r.items := rfl
@[simp] theorem prepend_error (is : List ι) (r : Result σ β ι ε) : (r.prepend is).error = r.error := rfl

theorem prepend_prepend (is js : List ι) (r : Result σ β ι ε) : (r.prepend js).prepend is = r.prepend (is ++ js) := by
  simp [prepend]

end Result

variable (d : Decoder σ β ι ε)

def drainUpTo : Nat → σ → List β → Result σ β ι ε
  | 0, s, b     => ⟨[], none, s, b⟩
  | n + 1, s, b =>
    match d.decode s b with
    | (.error e, s', r)     => ⟨[], some e, s', r⟩
    | (.ok none, s', r)     => ⟨[], none, s', r⟩
    | (.ok (some i), s', r) => (drainUpTo n s' r).prepend [i]

/-- **Call the decoder until it asks for more or fails.**  Its size bounds the number of calls. -/
def drain (s : σ) (b : List β) : Result σ β ι ε := drainUpTo d (d.size s b + 1) s b

def feed : σ → List β → List (List β) → Result σ β ι ε
  | s, b, []      => ⟨[], none, s, b⟩
  | s, b, c :: cs =>
    let r := drain d s (b ++ c)
    if r.error.isSome then r else (feed r.state r.rest cs).prepend r.items

/-- **One item off a stream**: whenever the decoder asks for more, the next chunk is put behind what it left; after the
last one `decodeEof` has the word.  With the answer comes what is left of the buffer and of the chunks. -/
def next (decodeEof : σ → List β → Except ε (Option ι) × σ × List β) :
    σ → List β → List (List β) → Except ε (Option ι) × σ × List β × List (List β)
  | s, b, []      =>
    let (o, s', r) := decodeEof s b
    (o, s', r, [])
  | s, b, c :: cs =>
    match d.decode s b with
    | (.ok none, s', r) => next decodeEof s' (r ++ c) cs
    | (o, s', r)        => (o, s', r, c :: cs)

/-- **`n` calls, up to the first that returns no item**: its failure if it failed, and the state and bytes it left. -/
inductive Calls : σ → List β → Nat → Option ε → σ → List β → Prop
  | error {s b e s' r} : d.decode s b = (.error e, s', r) → Calls s b 1 (some e) s' r
  | more {s b s' r} : d.decode s b = (.ok none, s', r) → Calls s b 1 none s' r
  | item {s b i s' r n e t q} : d.decode s b = (.ok (some i), s', r) → Calls s' r n e t q → Calls s b (n + 1) e t q

/-- **Later bytes do not change an answer**: an item and a failure stand, a request for more is resumed. -/
structure Incremental : Prop where
  item : ∀ {s b i s' r} (x : List β), d.decode s b = (.ok (some i), s', r) →
    d.decode s (b ++ x) = (.ok (some i), s', r ++ x)
  error : ∀ {s b e s' r} (x : List β), d.decode s b = (.error e, s', r) → d.decode s (b ++ x) = (.error e, s', r ++ x)
  more : ∀ {s b s' r} (x : List β), d.decode s b = (.ok none, s', r) → d.decode s (b ++ x) = d.decode s' (r ++ x)

/-- The decoder asks for more without changing anything: what a drained decoder does. -/
def Settled (s : σ) (b : List β) : Prop := d.decode s b = (.ok none, s, b)

variable {d}

/-! ## One call -/

theorem drainUpTo_eq : ∀ (n m : Nat) (s : σ) (b : List β), d.size s b < n → d.size s b < m →
    drainUpTo d n s b = drainUpTo d m s b
  | 0, _, _, _, h, _ => absurd h (Nat.not_lt_zero _)
  | _, 0, _, _, _, h => absurd h (Nat.not_lt_zero _)
  | n + 1, m + 1, s, b, hn, hm => by
    simp only [drainUpTo]
    split
    · rfl
    · rfl
    · rename_i i s' r hd
      have := d.item_size hd
      rw [drainUpTo_eq n m s' r (by omega) (by omega)]

theorem drain_of_error {s s' : σ} {b r : List β} {e : ε} (h : d.decode s b = (.error e, s', r)) :
    drain d s b = ⟨[], some e, s', r⟩ := by simp [drain, drainUpTo, h]

theorem drain_of_more {s s' : σ} {b r : List β} (h : d.decode s b = (.ok none, s', r)) :
    drain d s b = ⟨[], none, s', r⟩ := by simp [drain, drainUpTo, h]

theorem drain_of_item {s s' : σ} {b r : List β} {i : ι} (h : d.decode s b = (.ok (some i), s', r)) :
    drain d s b = (drain d s' r).prepend [i] := by
  have hlt := d.item_size h
  rw [drain, drainUpTo, h]
  simp only
  rw [drain, drainUpTo_eq _ (d.size s' r + 1) s' r hlt (by omega)]

/-- **Induction along a drain**: one case for each answer of the call. -/
theorem drain_induct {motive : σ → List β → Prop}
    (error : ∀ s b e s' r, d.decode s b = (.error e, s', r) → motive s b)
    (more : ∀ s b s' r, d.decode s b = (.ok none, s', r) → motive s b)
    (item : ∀ s b i s' r, d.decode s b = (.ok (some i), s', r) → motive s' r → motive s b) :
    ∀ s b, motive s b := by
  intro s b
  induction hn : d.size s b using Nat.strongRecOn generalizing s b with
  | ind n ih =>
    subst hn
    match h : d.decode s b with
    | (.error e, s', r) => exact error s b e s' r h
    | (.ok none, s', r) => exact more s b s' r h
    | (.ok (some i), s', r) => exact item s b i s' r h (ih _ (d.item_size h) s' r rfl)

/-- **A drain that did not fail ended on a request for more.** -/
theorem drain_ends : ∀ (s : σ) (b : List β), (drain d s b).error = none →
    ∃ s₁ b₁, d.decode s₁ b₁ = (.ok none, (drain d s b).state, (drain d s b).rest) := by
  refine drain_induct (d := d) (fun s b e s' r h he => ?_) (fun s b s' r h _ => ?_) (fun s b i s' r h ih he => ?_)
  · rw [drain_of_error h] at he; cases he
  · exact ⟨s, b, by rw [drain_of_more h]; exact h⟩
  · rw [drain_of_item h] at he ⊢; exact ih he

/-! ## Counting the calls -/

theorem drain_calls : ∀ (s : σ) (b : List β),
    ∃ n, Calls d s b n (drain d s b).error (drain d s b).state (drain d s b).rest := by
  refine drain_induct (d := d) (fun s b e s' r h => ?_) (fun s b s' r h => ?_) (fun s b i s' r h ⟨n, ih⟩ => ?_)
  · rw [drain_of_error h]; exact ⟨1, .error h⟩
  · rw [drain_of_more h]; exact ⟨1, .more h⟩
  · rw [drain_of_item h]; exact ⟨n + 1, .item h ih⟩

/-- **No more calls than bytes, and one**, where every item takes bytes off the buffer. -/
theorem Calls.le_length {s t : σ} {b q : List β} {n : Nat} {e : Option ε} {I : σ → Prop}
    (hitem : ∀ {s b i s' r}, I s → d.decode s b = (.ok (some i), s', r) → I s' ∧ r.length < b.length)
    (h : Calls d s b n e t q) (hs : I s) : n ≤ b.length + 1 := by
  induction h with
  | error _ | more _ => exact Nat.le_add_left 1 _
  | item hd _ ih =>
    obtain ⟨hs', hlt⟩ := hitem hs hd
    have := ih hs'
    omega

/-- What a request for more leaves is what the drain leaves. -/
theorem Calls.of_more {s t : σ} {b q : List β} {n : Nat} {e : Option ε} {I : σ → Prop} {Q : σ → List β → Prop}
    (hitem : ∀ {s b i s' r}, I s → d.decode s b = (.ok (some i), s', r) → I s')
    (hmore : ∀ {s b s' r}, I s → d.decode s b = (.ok none, s', r) → Q s' r)
    (h : Calls d s b n e t q) (hs : I s) (he : e = none) : Q t q := by
  induction h with
  | error _ => cases he
  | more hd => exact hmore hs hd
  | item hd _ ih => exact ih (hitem hs hd) he

/-! ## Incremental decoders -/

section Incremental

variable (hd : Incremental d)
include hd

theorem settled_of_more {s s' : σ} {b r : List β} (h : d.decode s b = (.ok none, s', r)) : Settled d s' r := by
  have := hd.more [] h
  rw [List.append_nil, List.append_nil] at this
  rw [Settled, ← this, h]

theorem settled_drain (s : σ) (b : List β) (h : (drain d s b).error = none) :
    Settled d (drain d s b).state (drain d s b).rest := by
  obtain ⟨s₁, b₁, h₁⟩ := drain_ends s b h
  exact settled_of_more hd h₁

theorem drain_more_append {s s' : σ} {b r : List β} (x : List β) (h : d.decode s b = (.ok none, s', r)) :
    drain d s (b ++ x) = drain d s' (r ++ x) := by
  have hx := hd.more x h
  match hm : d.decode s' (r ++ x) with
  | (.error e, t, q) => rw [drain_of_error hm, drain_of_error (hx.trans hm)]
  | (.ok none, t, q) => rw [drain_of_more hm, drain_of_more (hx.trans hm)]
  | (.ok (some i), t, q) => rw [drain_of_item hm, drain_of_item (hx.trans hm)]

/-- **Draining a concatenation** after a first part that did not fail goes on from where that part was left. -/
theorem drain_append : ∀ (s : σ) (b x : List β), (drain d s b).error = none →
    drain d s (b ++ x) = (drain d (drain d s b).state ((drain d s b).rest ++ x)).prepend (drain d s b).items := by
  intro s b x
  refine drain_induct (d := d) (motive := fun s b => (drain d s b).error = none → drain d s (b ++ x) =
    (drain d (drain d s b).state ((drain d s b).rest ++ x)).prepend (drain d s b).items)
    (fun s b e s' r h he => ?_) (fun s b s' r h _ => ?_) (fun s b i s' r h ih he => ?_) s b
  · rw [drain_of_error h] at he; cases he
  · rw [drain_of_more h, drain_more_append hd x h]; rfl
  · rw [drain_of_item h] at he ⊢
    rw [drain_of_item (hd.item x h), ih he, Result.prepend_prepend]
    rfl

/-- A failure is not undone by later bytes: the same items come before it. -/
theorem drain_append_error : ∀ (s : σ) (b x : List β), (drain d s b).error.isSome →
    drain d s (b ++ x) = { drain d s b with rest := (drain d s b).rest ++ x } := by
  intro s b x
  refine drain_induct (d := d) (motive := fun s b => (drain d s b).error.isSome → drain d s (b ++ x) =
    { drain d s b with rest := (drain d s b).rest ++ x })
    (fun s b e s' r h _ => ?_) (fun s b s' r h he => ?_) (fun s b i s' r h ih he => ?_) s b
  · rw [drain_of_error h, drain_of_error (hd.error x h)]
  · rw [drain_of_more h] at he; cases he
  · rw [drain_of_item h] at he ⊢
    rw [drain_of_item (hd.item x h), ih he]
    rfl

/-- **Feeding is draining the concatenation**: the same items and the same failure, and without a failure the same
state and unread bytes. -/
theorem feed_eq_drain : ∀ (cs : List (List β)) (s : σ) (b : List β), Settled d s b →
    (feed d s b cs).items = (drain d s (b ++ cs.flatten)).items ∧
    (feed d s b cs).error = (drain d s (b ++ cs.flatten)).error ∧
    ((feed d s b cs).error = none → feed d s b cs = drain d s (b ++ cs.flatten))
  | [], s, b, hs => by
    simp only [feed, List.flatten_nil, List.append_nil]
    rw [drain_of_more hs]
    simp
  | c :: cs, s, b, _ => by
    rw [List.flatten_cons, ← List.append_assoc]
    simp only [feed]
    cases he : (drain d s (b ++ c)).error with
    | some e =>
      have hx := drain_append_error hd s (b ++ c) cs.flatten (by rw [he]; rfl)
      rw [hx]
      simp [he]
    | none =>
      have hx := drain_append hd s (b ++ c) cs.flatten he
      obtain ⟨h1, h2, h3⟩ := feed_eq_drain cs _ _ (settled_drain hd s (b ++ c) he)
      rw [hx]
      simp only [Option.isSome_none, Bool.false_eq_true, if_false, Result.prepend_items, Result.prepend_error]
      exact ⟨by rw [h1], h2, fun hn => by rw [h3 hn]⟩

/-- **Two ways to cut one string agree.** -/
theorem feed_congr (cs cs' : List (List β)) (hc : cs.flatten = cs'.flatten) (s : σ) (b : List β) (hs : Settled d s b) :
    (feed d s b cs).items = (feed d s b cs').items ∧ (feed d s b cs).error = (feed d s b cs').error ∧
    ((feed d s b cs).error = none → feed d s b cs = feed d s b cs') := by
  obtain ⟨h1, h2, h3⟩ := feed_eq_drain hd cs s b hs
  obtain ⟨h1', h2', h3'⟩ := feed_eq_drain hd cs' s b hs
  rw [hc] at h1 h2 h3
  refine ⟨h1.trans h1'.symm, h2.trans h2'.symm, fun hn => ?_⟩
  rw [h3 hn, h3' (by rw [h2', ← h2, hn])]

/-- **An item or a failure of the whole stream is the next answer**, however the stream is cut. -/
theorem next_of_answer {decodeEof : σ → List β → Except ε (Option ι) × σ × List β}
    (heof : ∀ {s b o s' r}, d.decode s b = (o, s', r) → o ≠ .ok none → decodeEof s b = (o, s', r))
    {o : Except ε (Option ι)} {s' : σ} {r : List β} (ho : o ≠ .ok none) : ∀ (cs : List (List β)) (s : σ) (b : List β),
    d.decode s (b ++ cs.flatten) = (o, s', r) →
      ∃ b' cs', next d decodeEof s b cs = (o, s', b', cs') ∧ b' ++ cs'.flatten = r
  | [], s, b, h => by
    rw [List.flatten_nil, List.append_nil] at h
    exact ⟨r, [], by rw [next, heof h ho], List.append_nil r⟩
  | c :: cs, s, b, h => by
    rw [next]
    match hb : d.decode s b with
    | (.ok none, s₁, r₁) =>
      rw [hd.more _ hb, List.flatten_cons, ← List.append_assoc] at h
      exact next_of_answer heof ho cs s₁ (r₁ ++ c) h
    | (.ok (some i), s₁, r₁) =>
      rw [hd.item _ hb] at h
      cases h
      exact ⟨r₁, c :: cs, rfl, rfl⟩
    | (.error e, s₁, r₁) =>
      rw [hd.error _ hb] at h
      cases h
      exact ⟨r₁, c :: cs, rfl, rfl⟩

end Incremental

/-- **A stream with nothing left ends cleanly.** -/
theorem next_of_end {decodeEof : σ → List β → Except ε (Option ι) × σ × List β} {s : σ} (hs : Settled d s [])
    (heof : decodeEof s [] = (.ok none, s, [])) : ∀ (cs : List (List β)), cs.flatten = [] →
      next d decodeEof s [] cs = (.ok none, s, [], [])
  | [], _ => by rw [next, heof]
  | c :: cs, h => by
    obtain ⟨rfl, hcs⟩ := List.append_eq_nil_iff.1 (List.flatten_cons ▸ h)
    rw [next, hs]
    exact next_of_end hs heof cs hcs

end Drain
