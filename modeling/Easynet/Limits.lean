import Easynet.CodecStream
/-!
# Limits — what the maximum frame size bounds

The encoder compares `max_frame_size` with the header and the body, the decoder with the body alone.  So there are four
lengths at which one end reads a frame that it would not write (`accepts_iff_emits_iff`).

What the decoder keeps between calls is bounded by the limit.  A pending body is never empty: a zero length is decoded
at once.  So every message takes bytes off the buffer, a drain makes at most one call more than there are bytes, and
what it leaves is part of a header, or part of a body of at most `max_frame_size` bytes (`drain_leaves`).
-/
namespace Easynet

open Drain (drain Calls)

namespace ByteCodec

variable {P : Prost} {c : ByteCodec} {M : Nat}

/-! ## The frame of a message at the two ends -/

/-- The decoder takes the frame off the buffer, with the message for an answer. -/
def Accepts (P : Prost) (M : Nat) (m : Message) : Prop :=
  (withMaxFrameSize M).decode P (frame (P.encodeToVec m)) = (.ok (some m), withMaxFrameSize M, [])

instance (m : Message) : Decidable (Accepts P M m) := inferInstanceAs (Decidable (_ = _))

/-- The encoder writes the frame, to any buffer. -/
def Emits (P : Prost) (M : Nat) (m : Message) : Prop :=
  ∀ dst, (withMaxFrameSize M).encode P m dst = .ok (dst ++ frame (P.encodeToVec m))

theorem emits_iff (m : Message) : Emits P M m ↔ headerSize + (P.encodeToVec m).length ≤ M := by
  constructor
  · intro h
    exact (encode_ok (h [])).1
  · intro hle dst
    have hfits : ¬ (withMaxFrameSize M).maxFrameSize < headerSize + (P.encodeToVec m).length := Nat.not_lt.2 hle
    simp only [encode]
    rw [if_neg hfits, frame, List.append_assoc]

/-- A length that does not fit the header is written modulo `2 ^ 32`: bytes of the body stay behind. -/
theorem decode_frame_of_overflow (hs : c.state = .head) (body : Bytes) (hu32 : 2 ^ 32 ≤ body.length)
    {o : Except IoError (Option Message)} {c' : ByteCodec} {r : Bytes}
    (h : c.decode P (frame body) = (o, c', r)) : r ≠ [] := by
  obtain ⟨b₀, b₁, b₂, b₃, hframe, -⟩ := frame_eq body
  have hlen : (getU32Le b₀ b₁ b₂ b₃).toNat < body.length := by
    have := (getU32Le b₀ b₁ b₂ b₃).toNat_lt
    omega
  rw [hframe] at h
  by_cases hmax : c.maxFrameSize < (getU32Le b₀ b₁ b₂ b₃).toNat
  · have hd := (decode_of_long hs hmax).symm.trans h
    simp only [Prod.mk.injEq] at hd
    obtain ⟨-, -, rfl⟩ := hd
    exact List.ne_nil_of_length_pos (by omega)
  · have hd := (decode_of_atBody (.head hs (Nat.le_of_not_lt hmax))).symm.trans h
    rw [decodeBody_of_le (Nat.le_of_lt hlen)] at hd
    simp only [Prod.mk.injEq] at hd
    obtain ⟨-, -, rfl⟩ := hd
    exact List.ne_nil_of_length_pos (by rw [List.length_drop]; omega)

theorem accepts_iff (hP : P.RoundTrip) (m : Message) :
    Accepts P M m ↔ (P.encodeToVec m).length ≤ M ∧ (P.encodeToVec m).length < 2 ^ 32 := by
  by_cases hu32 : (P.encodeToVec m).length < 2 ^ 32
  · by_cases hle : (P.encodeToVec m).length ≤ M
    · refine iff_of_true ?_ ⟨hle, hu32⟩
      have hd := decode_frame P (withMaxFrameSize M) _ [] rfl hu32 hle
      rwa [List.append_nil, answer, hP m] at hd
    · refine iff_of_false (fun h => ?_) (fun h => hle h.1)
      obtain ⟨e, hd⟩ := decode_frame_of_long P (withMaxFrameSize M) _ [] rfl hu32 (Nat.lt_of_not_le hle)
      rw [List.append_nil] at hd
      cases h.symm.trans hd
  · refine iff_of_false (fun h => ?_) (fun h => hu32 h.2)
    exact decode_frame_of_overflow rfl _ (Nat.le_of_not_lt hu32) h rfl

/-- **The two ends agree on a frame** unless its body is within the limit and its header takes it over. -/
theorem accepts_iff_emits_iff (P : Prost) (hP : P.RoundTrip) (M : Nat) (hM : M ≤ 2 ^ 32) (m : Message) :
    (Accepts P M m ↔ Emits P M m) ↔
      (headerSize + (P.encodeToVec m).length ≤ M ∨ M < (P.encodeToVec m).length ∨
        2 ^ 32 ≤ (P.encodeToVec m).length) := by
  rw [accepts_iff hP, emits_iff, headerSize]
  omega

theorem accepts_iff_emits_iff_keepalive : (Accepts proto 8 (.keepalive ⟨1⟩) ↔ Emits proto 8 (.keepalive ⟨1⟩)) ↔
    (headerSize + (proto.encodeToVec (.keepalive ⟨1⟩)).length ≤ 8 ∨
      8 < (proto.encodeToVec (.keepalive ⟨1⟩)).length ∨ 2 ^ 32 ≤ (proto.encodeToVec (.keepalive ⟨1⟩)).length) :=
  accepts_iff_emits_iff proto Proto.proto_roundTrip 8 (by decide) (.keepalive ⟨1⟩)

/-- A body of six bytes under a limit of eight comes in and cannot go out. -/
theorem accepts_not_emits_data : (8 : Nat) ≤ 2 ^ 32 ∧ Accepts proto 8 (.data ⟨[1, 2]⟩) ∧
    (withMaxFrameSize 8).encode proto (.data ⟨[1, 2]⟩) [] = .error ⟨.invalidData, "Frame size 10 exceeds maximum 8"⟩ ∧
    ¬ (Accepts proto 8 (.data ⟨[1, 2]⟩) ↔ Emits proto 8 (.data ⟨[1, 2]⟩)) := by
  have hacc : Accepts proto 8 (.data ⟨[1, 2]⟩) := by decide +kernel
  have henc : (withMaxFrameSize 8).encode proto (.data ⟨[1, 2]⟩) [] =
      .error ⟨.invalidData, "Frame size 10 exceeds maximum 8"⟩ := by decide +kernel
  refine ⟨by decide, hacc, henc, fun h => ?_⟩
  have hemit := h.1 hacc []
  rw [henc] at hemit
  cases hemit

/-! ## What a drained decoder holds back -/

/-- **The codecs a stream can lead to** from a fresh one: calls on any buffers, none of which failed. -/
inductive Reachable (P : Prost) (M : Nat) : ByteCodec → Prop
  | fresh : Reachable P M (withMaxFrameSize M)
  | call {c c' : ByteCodec} {src r : Bytes} {o : Option Message} :
      Reachable P M c → c.decode P src = (.ok o, c', r) → Reachable P M c'

/-- A pending body is neither empty nor over the limit. -/
structure Pending (M : Nat) (c : ByteCodec) : Prop where
  limit : c.maxFrameSize = M
  state : c.state = .head ∨ ∃ n, c.state = .body n ∧ 1 ≤ n ∧ n ≤ M

/-- What a call that asks for more leaves unread: part of a header, or part of the pending body. -/
def Unfinished (M : Nat) (c : ByteCodec) (rest : Bytes) : Prop :=
  (c.state = .head ∧ rest.length < headerSize) ∨ ∃ n, c.state = .body n ∧ 1 ≤ n ∧ n ≤ M ∧ rest.length < n

theorem Unfinished.length_le {rest : Bytes} (h : Unfinished M c rest) : rest.length ≤ max 3 M := by
  rcases h with ⟨-, hlt⟩ | ⟨n, -, -, hn, hlt⟩
  · exact Nat.le_trans (Nat.le_of_lt_succ hlt) (Nat.le_max_left 3 M)
  · exact Nat.le_trans (Nat.le_trans (Nat.le_of_lt hlt) hn) (Nat.le_max_right 3 M)

theorem Pending.le_of_atBody {src rest : Bytes} {n : Nat} (hc : Pending M c) (hat : AtBody c src n rest) : n ≤ M := by
  cases hat with
  | head hs hmax => exact hc.limit ▸ hmax
  | body hs =>
    rcases hc.state with hs' | ⟨k, hs', -, hk⟩
    · rw [hs] at hs'; cases hs'
    · rw [hs] at hs'; cases hs'; exact hk

/-- The header, or a pending body that is not empty, comes off the buffer. -/
theorem Pending.drop_lt_of_atBody {src rest : Bytes} {n : Nat} (hc : Pending M c) (hat : AtBody c src n rest)
    (hle : n ≤ rest.length) : (rest.drop n).length < src.length := by
  rw [List.length_drop]
  cases hat with
  | head hs hmax => simp only [List.length_cons]; omega
  | body hs =>
    rcases hc.state with hs' | ⟨k, hs', hk, -⟩
    · rw [hs] at hs'; cases hs'
    · rw [hs] at hs'; cases hs'; omega

/-- **One call**: a message takes bytes off the buffer and goes back to the header; a request for more leaves less than
it waits for. -/
theorem Pending.decode {src r : Bytes} {c' : ByteCodec} {o : Option Message} (hc : Pending M c)
    (h : c.decode P src = (.ok o, c', r)) :
    Pending M c' ∧ (o.isSome → r.length < src.length) ∧ (o = none → Unfinished M c' r) := by
  rcases decode_cases c src with ⟨hs, hlen⟩ | ⟨b₀, b₁, b₂, b₃, rest, hs, rfl, hmax⟩ | ⟨n, rest, hat⟩
  · rw [decode_of_short hs hlen] at h
    cases h
    exact ⟨hc, fun hi => by simp at hi, fun _ => .inl ⟨hs, hlen⟩⟩
  · rw [decode_of_long hs hmax] at h
    cases h
  · rw [decode_of_atBody hat] at h
    by_cases hlen : rest.length < n
    · rw [decodeBody_of_short hlen] at h
      cases h
      -- fewer bytes than the length: the length is not zero
      have hn : 1 ≤ n := by omega
      have hM := hc.le_of_atBody hat
      exact ⟨⟨hc.limit, .inr ⟨n, rfl, hn, hM⟩⟩, fun hi => by simp at hi, fun _ => .inr ⟨n, rfl, hn, hM, hlen⟩⟩
    · have hle := Nat.le_of_not_lt hlen
      rw [decodeBody_of_le hle] at h
      simp only [Prod.mk.injEq] at h
      obtain ⟨ho, rfl, rfl⟩ := h
      refine ⟨⟨hc.limit, .inl rfl⟩, fun _ => hc.drop_lt_of_atBody hat hle, fun hi => ?_⟩
      subst hi
      exact absurd ho (answer_ne_more _)

theorem Pending.item {src r : Bytes} {c' : ByteCodec} {m : Message} (hc : Pending M c)
    (h : (decoder P).decode c src = (.ok (some m), c', r)) : Pending M c' ∧ r.length < src.length :=
  ⟨(hc.decode h).1, (hc.decode h).2.1 rfl⟩

theorem Pending.more {src r : Bytes} {c' : ByteCodec} (hc : Pending M c)
    (h : (decoder P).decode c src = (.ok none, c', r)) : Unfinished M c' r :=
  (hc.decode h).2.2 rfl

theorem Reachable.pending (h : Reachable P M c) : Pending M c := by
  induction h with
  | fresh => exact ⟨rfl, .inl rfl⟩
  | call _ hd ih => exact (ih.decode hd).1

/-- **What a drain takes and leaves**, from any reachable state and on any buffer.  It makes at most one call more than
there are bytes, and every message takes bytes.  Where it ends on a request for more, the decoder has part of a header
or part of a body of at most `max_frame_size` bytes: as many bytes unread, or three if that is more. -/
theorem drain_leaves (P : Prost) (M : Nat) (c : ByteCodec) (hc : Reachable P M c) (src : Bytes) :
    (∃ n ≤ src.length + 1, Calls (decoder P) c src n (drain (decoder P) c src).error (drain (decoder P) c src).state
      (drain (decoder P) c src).rest) ∧
    (∀ m c' r, c.decode P src = (.ok (some m), c', r) → r.length < src.length) ∧
    ((drain (decoder P) c src).error = none →
      Unfinished M (drain (decoder P) c src).state (drain (decoder P) c src).rest ∧
      (drain (decoder P) c src).rest.length ≤ max 3 M) := by
  obtain ⟨n, hcalls⟩ := Drain.drain_calls (d := decoder P) c src
  refine ⟨⟨n, ?_, hcalls⟩, fun m c' r hd => (hc.pending.item hd).2, fun he => ?_⟩
  · exact hcalls.le_length Pending.item hc.pending
  · have hleft := hcalls.of_more (fun hs hd => (Pending.item hs hd).1) Pending.more hc.pending he
    exact ⟨hleft, hleft.length_le⟩

/-- Two frames without a body, and half of a header. -/
theorem drain_leaves_header : Reachable proto 8 (withMaxFrameSize 8) ∧
    (drain (decoder proto) (withMaxFrameSize 8) [0, 0, 0, 0, 0, 0, 0, 0, 9, 0]).error = none ∧
    Unfinished 8 (drain (decoder proto) (withMaxFrameSize 8) [0, 0, 0, 0, 0, 0, 0, 0, 9, 0]).state
      (drain (decoder proto) (withMaxFrameSize 8) [0, 0, 0, 0, 0, 0, 0, 0, 9, 0]).rest :=
  ⟨.fresh, by decide +kernel,
    ((drain_leaves proto 8 _ .fresh [0, 0, 0, 0, 0, 0, 0, 0, 9, 0]).2.2 (by decide +kernel)).1⟩

/-- Under a limit of two bytes, three bytes of a header are held back. -/
theorem header_held_over_limit : Reachable proto 2 (withMaxFrameSize 2) ∧
    Calls (decoder proto) (withMaxFrameSize 2) [0, 0, 0] 1 none (withMaxFrameSize 2) [0, 0, 0] ∧
    ¬ ([0, 0, 0] : Bytes).length ≤ 2 :=
  ⟨.fresh, .more (by decide +kernel), by decide⟩

end ByteCodec

end Easynet
