import Easynet.Lib.Drain
/-!
# Pipe — a byte stream with a decoder at its end

The bytes of a stream are in three places: with the sender, who has not written them yet, on the way, or in the buffer
from which the receiver's decoder takes items.  They move from one place to the next in any portions, and the decoder may
be called at any moment.

`pending` are the items that the decoder will make of all the bytes in the pipe.  A pipe into which only whole frames were
put is `Whole`, and stays so: a frame that is put in comes last among the pending items, an item that is taken out was
first, and moving bytes along changes nothing.
-/
namespace Drain

variable {σ β ι ε : Type*}

structure Pipe (σ β : Type*) where
  unsent : List β
  onTheWay : List β
  state : σ
  buffer : List β
  deriving DecidableEq

namespace Pipe

def new (s₀ : σ) : Pipe σ β := ⟨[], [], s₀, []⟩

def push (p : Pipe σ β) (frame : List β) : Pipe σ β := { p with unsent := p.unsent ++ frame }

/-- The sender writes `n` bytes. -/
def flush (p : Pipe σ β) (n : Nat) : Pipe σ β :=
  { p with unsent := p.unsent.drop n, onTheWay := p.onTheWay ++ p.unsent.take n }

/-- The receiver reads `n` bytes. -/
def arrive (p : Pipe σ β) (n : Nat) : Pipe σ β :=
  { p with onTheWay := p.onTheWay.drop n, buffer := p.buffer ++ p.onTheWay.take n }

/-- One call of the decoder. -/
def poll (d : Decoder σ β ι ε) (p : Pipe σ β) : Except ε (Option ι) × Pipe σ β :=
  let (answer, state, buffer) := d.decode p.state p.buffer
  (answer, { p with state := state, buffer := buffer })

/-- The bytes in the pipe, in the order in which the decoder gets them. -/
def bytes (p : Pipe σ β) : List β := p.buffer ++ (p.onTheWay ++ p.unsent)

def pending (d : Decoder σ β ι ε) (p : Pipe σ β) : List ι := (drain d p.state p.bytes).items

/-- **The bytes in the pipe are whole items**: decoding them all ends without a failure, in the state `s₀`, with no byte
left. -/
structure Whole (d : Decoder σ β ι ε) (s₀ : σ) (p : Pipe σ β) : Prop where
  error : (drain d p.state p.bytes).error = none
  state : (drain d p.state p.bytes).state = s₀
  rest : (drain d p.state p.bytes).rest = []

variable {d : Decoder σ β ι ε} {s₀ : σ} {p p' : Pipe σ β}

@[simp] theorem bytes_push (p : Pipe σ β) (frame : List β) : (p.push frame).bytes = p.bytes ++ frame := by
  simp [push, bytes]

@[simp] theorem bytes_flush (p : Pipe σ β) (n : Nat) : (p.flush n).bytes = p.bytes := by
  simp [flush, bytes]

@[simp] theorem bytes_arrive (p : Pipe σ β) (n : Nat) : (p.arrive n).bytes = p.bytes := by
  simp only [arrive, bytes, List.append_assoc]
  rw [← List.append_assoc (p.onTheWay.take n), List.take_append_drop]

/-- Moving bytes along changes nothing. -/
theorem Whole.congr (hw : Whole d s₀ p) (hs : p'.state = p.state) (hb : p'.bytes = p.bytes) :
    Whole d s₀ p' ∧ p'.pending d = p.pending d := by
  refine ⟨⟨?_, ?_, ?_⟩, ?_⟩
  · rw [hs, hb]; exact hw.error
  · rw [hs, hb]; exact hw.state
  · rw [hs, hb]; exact hw.rest
  · rw [pending, hs, hb, pending]

theorem Whole.flush (hw : Whole d s₀ p) (n : Nat) : Whole d s₀ (p.flush n) ∧ (p.flush n).pending d = p.pending d :=
  hw.congr rfl (bytes_flush p n)

theorem Whole.arrive (hw : Whole d s₀ p) (n : Nat) : Whole d s₀ (p.arrive n) ∧ (p.arrive n).pending d = p.pending d :=
  hw.congr rfl (bytes_arrive p n)

theorem whole_new (h₀ : Settled d s₀ []) : Whole d s₀ (new s₀) ∧ (new s₀).pending d = [] := by
  have hd : drain d s₀ [] = ⟨[], none, s₀, []⟩ := drain_of_more h₀
  exact ⟨⟨congrArg Result.error hd, congrArg Result.state hd, congrArg Result.rest hd⟩, congrArg Result.items hd⟩

/-- **A frame that is put in is one item more, at the end.** -/
theorem whole_push (hd : Incremental d) (h₀ : Settled d s₀ []) (hw : Whole d s₀ p) {frame : List β} {i : ι}
    (hf : d.decode s₀ frame = (.ok (some i), s₀, [])) :
    Whole d s₀ (p.push frame) ∧ (p.push frame).pending d = p.pending d ++ [i] := by
  have hdrain : drain d (p.push frame).state (p.push frame).bytes = ⟨p.pending d ++ [i], none, s₀, []⟩ := by
    show drain d p.state (p.push frame).bytes = _
    rw [bytes_push, drain_append hd _ _ _ hw.error, hw.state, hw.rest, List.nil_append, drain_of_item hf, drain_of_more h₀]
    simp [Result.prepend, pending]
  refine ⟨⟨?_, ?_, ?_⟩, ?_⟩
  · rw [hdrain]
  · rw [hdrain]
  · rw [hdrain]
  · rw [pending, hdrain]

/-- What is left when items were taken off the front. -/
theorem Whole.of_prepend (hw : Whole d s₀ p) (p' : Pipe σ β) (items : List ι)
    (h : drain d p.state p.bytes = (drain d p'.state p'.bytes).prepend items) :
    Whole d s₀ p' ∧ p.pending d = items ++ p'.pending d := by
  refine ⟨⟨?_, ?_, ?_⟩, congrArg Result.items h⟩
  · exact (congrArg Result.error h).symm.trans hw.error
  · exact (congrArg Result.state h).symm.trans hw.state
  · exact (congrArg Result.rest h).symm.trans hw.rest

/-- **What the decoder takes out was first**, it takes nothing else, and it does not fail. -/
theorem whole_poll (hd : Incremental d) (hw : Whole d s₀ p) {answer : Except ε (Option ι)}
    (h : p.poll d = (answer, p')) :
    Whole d s₀ p' ∧ ∃ item : Option ι, answer = .ok item ∧ p.pending d = item.toList ++ p'.pending d := by
  obtain ⟨unsent, onTheWay, state, buffer⟩ := p
  simp only [poll] at h
  match hdec : d.decode state buffer with
  | (.error e, s', r) =>
    have herr : (drain d state (buffer ++ (onTheWay ++ unsent))).error = none := hw.error
    rw [drain_of_error (hd.error _ hdec)] at herr
    cases herr
  | (.ok none, s', r) =>
    simp only [hdec, Prod.mk.injEq] at h
    obtain ⟨rfl, rfl⟩ := h
    obtain ⟨hw', hp⟩ := hw.of_prepend ⟨unsent, onTheWay, s', r⟩ [] (drain_more_append hd _ hdec)
    exact ⟨hw', none, rfl, hp⟩
  | (.ok (some i), s', r) =>
    simp only [hdec, Prod.mk.injEq] at h
    obtain ⟨rfl, rfl⟩ := h
    obtain ⟨hw', hp⟩ := hw.of_prepend ⟨unsent, onTheWay, s', r⟩ [i] (drain_of_item (hd.item _ hdec))
    exact ⟨hw', some i, rfl, hp⟩

end Pipe

end Drain
