import Easynet.Codec
import Easynet.Proto
/-!
# CodecStream — frames on a segmented stream

`TcpTransport` sends by `encode` into one buffer and receives by appending what the socket gives to a buffer and calling
`decode` until it answers `None`.  Cutting the stream is invisible to the receiver (`feed_segmentation`), and what the
encoder accepted comes out again, message by message, with nothing left (`feed_encodeAll`).
-/
namespace Easynet

open Drain (drain feed)

/-- Encode one message after the other into one buffer. -/
def encodeAll (P : Prost) (c : ByteCodec) : List Message → Bytes → Except IoError Bytes
  | [], dst      => .ok dst
  | m :: ms, dst =>
    match c.encode P m dst with
    | .ok dst  => encodeAll P c ms dst
    | .error e => .error e

def frame (body : Bytes) : Bytes := putU32Le (UInt32.ofNat body.length) ++ body

/-! ## What the encoder accepts -/

theorem encode_ok {P : Prost} {c : ByteCodec} {m : Message} {dst out : Bytes} (h : c.encode P m dst = .ok out) :
    headerSize + (P.encodeToVec m).length ≤ c.maxFrameSize ∧ out = dst ++ frame (P.encodeToVec m) := by
  unfold ByteCodec.encode at h
  simp only at h
  split at h
  · cases h
  · rename_i hmax
    cases h
    exact ⟨Nat.le_of_not_lt hmax, by simp [frame]⟩

theorem encodeAll_ok (P : Prost) (c : ByteCodec) : ∀ (ms : List Message) (dst out : Bytes),
    encodeAll P c ms dst = .ok out →
      (∀ m ∈ ms, headerSize + (P.encodeToVec m).length ≤ c.maxFrameSize) ∧
      out = dst ++ ms.flatMap (fun m => frame (P.encodeToVec m))
  | [], dst, out, h => by
    cases h
    simp
  | m :: ms, dst, out, h => by
    rw [encodeAll] at h
    cases he : c.encode P m dst with
    | error e => rw [he] at h; cases h
    | ok dst' =>
      rw [he] at h
      obtain ⟨hm, rfl⟩ := encode_ok he
      obtain ⟨hms, rfl⟩ := encodeAll_ok P c ms _ out h
      refine ⟨fun x hx => ?_, by simp⟩
      rcases List.mem_cons.1 hx with rfl | hx
      · exact hm
      · exact hms x hx

/-! ## What the decoder makes of a frame -/

/-- A frame is four bytes, which write the length of its body modulo `2 ^ 32`, and the body. -/
theorem frame_eq (body : Bytes) : ∃ b₀ b₁ b₂ b₃, frame body = b₀ :: b₁ :: b₂ :: b₃ :: body ∧
    (getU32Le b₀ b₁ b₂ b₃).toNat = body.length % 2 ^ 32 := by
  obtain ⟨b₀, b₁, b₂, b₃, hput, hget⟩ := getU32Le_putU32Le (UInt32.ofNat body.length)
  refine ⟨b₀, b₁, b₂, b₃, ?_, ?_⟩
  · rw [frame, hput]
    rfl
  · rw [hget, UInt32.toNat_ofNat']

/-- **A whole frame at the header** is taken off the buffer and its body decoded. -/
theorem decode_frame (P : Prost) (c : ByteCodec) (body rest : Bytes) (hs : c.state = .head)
    (hu32 : body.length < 2 ^ 32) (hmax : body.length ≤ c.maxFrameSize) :
    c.decode P (frame body ++ rest) = (ByteCodec.answer P body, c, rest) := by
  obtain ⟨b₀, b₁, b₂, b₃, hframe, hlen⟩ := frame_eq body
  rw [Nat.mod_eq_of_lt hu32] at hlen
  have hat : ByteCodec.AtBody c (frame body ++ rest) body.length (body ++ rest) := by
    rw [hframe, ← hlen]
    exact .head hs (by rw [hlen]; exact hmax)
  rw [ByteCodec.decode_of_atBody hat, ByteCodec.decodeBody_of_le (by simp), List.take_left, List.drop_left, ← hs]

/-- A frame over the limit costs its header and is an error. -/
theorem decode_frame_of_long (P : Prost) (c : ByteCodec) (body rest : Bytes) (hs : c.state = .head)
    (hu32 : body.length < 2 ^ 32) (hmax : c.maxFrameSize < body.length) :
    ∃ e, c.decode P (frame body ++ rest) = (.error e, c, body ++ rest) := by
  obtain ⟨b₀, b₁, b₂, b₃, hframe, hlen⟩ := frame_eq body
  rw [Nat.mod_eq_of_lt hu32] at hlen
  rw [hframe]
  exact ⟨_, ByteCodec.decode_of_long hs (hlen ▸ hmax)⟩

theorem settled_head (P : Prost) (c : ByteCodec) (hs : c.state = .head) : Drain.Settled (decoder P) c [] := by
  show ByteCodec.decode P c [] = _
  exact ByteCodec.decode_of_short hs (Nat.zero_lt_succ 3)

/-- Draining frames gives the messages of their bodies; the induction is on the frames not yet read. -/
theorem drain_bodies (P : Prost) (c : ByteCodec) (hs : c.state = .head) : ∀ (frames : List (Bytes × Message)),
    (∀ p ∈ frames, p.1.length < 2 ^ 32 ∧ p.1.length ≤ c.maxFrameSize ∧ P.decode p.1 = .ok p.2) →
      drain (decoder P) c (frames.flatMap (fun p => frame p.1)) = ⟨frames.map Prod.snd, none, c, []⟩
  | [], _ => Drain.drain_of_more (settled_head P c hs)
  | p :: frames, h => by
    obtain ⟨hu32, hmax, hdec⟩ := h p List.mem_cons_self
    have hd : (decoder P).decode c ((p :: frames).flatMap (fun p => frame p.1)) =
        (.ok (some p.2), c, frames.flatMap (fun p => frame p.1)) := by
      rw [List.flatMap_cons]
      exact (decode_frame P c _ _ hs hu32 hmax).trans (by rw [ByteCodec.answer, hdec])
    rw [Drain.drain_of_item hd, drain_bodies P c hs frames (fun x hx => h x (List.mem_cons_of_mem _ hx))]
    rfl

theorem drain_frames {P : Prost} (hP : P.RoundTrip) (c : ByteCodec) (hs : c.state = .head) (ms : List Message)
    (h : ∀ m ∈ ms, (P.encodeToVec m).length < 2 ^ 32 ∧ (P.encodeToVec m).length ≤ c.maxFrameSize) :
    drain (decoder P) c (ms.flatMap (fun m => frame (P.encodeToVec m))) = ⟨ms, none, c, []⟩ := by
  have hd := drain_bodies P c hs (ms.map (fun m => (P.encodeToVec m, m))) (fun p hp => by
    obtain ⟨m, hm, rfl⟩ := List.mem_map.1 hp
    exact ⟨(h m hm).1, (h m hm).2, hP m⟩)
  rwa [List.flatMap_map, List.map_map, show Prod.snd ∘ (fun m => (P.encodeToVec m, m)) = id from rfl, List.map_id] at hd

/-! ## Streams -/

/-- **The round trip on a segmented stream**: whatever the encoder accepted into one buffer, and however the buffer is
cut, a fresh decoder gives back exactly those messages, and ends at a header with nothing unread. -/
theorem feed_encodeAll (P : Prost) (hP : P.RoundTrip) (maxFrameSize : Nat) (hmax : maxFrameSize ≤ 2 ^ 32)
    (ms : List Message) (bytes : Bytes)
    (henc : encodeAll P (ByteCodec.withMaxFrameSize maxFrameSize) ms [] = .ok bytes)
    (chunks : List Bytes) (hcut : chunks.flatten = bytes) :
    feed (decoder P) (ByteCodec.withMaxFrameSize maxFrameSize) [] chunks =
      ⟨ms, none, ByteCodec.withMaxFrameSize maxFrameSize, []⟩ := by
  obtain ⟨hms, rfl⟩ := encodeAll_ok P _ ms [] bytes henc
  have hlen : ∀ m ∈ ms, (P.encodeToVec m).length < 2 ^ 32 ∧
      (P.encodeToVec m).length ≤ (ByteCodec.withMaxFrameSize maxFrameSize).maxFrameSize := fun m hm => by
    have := hms m hm
    simp only [ByteCodec.withMaxFrameSize, headerSize] at this ⊢
    omega
  have hdrain := drain_frames hP (ByteCodec.withMaxFrameSize maxFrameSize) rfl ms hlen
  obtain ⟨-, herr, hfeed⟩ := Drain.feed_eq_drain (decoder_incremental P) chunks _ _
    (settled_head P (.withMaxFrameSize maxFrameSize) rfl)
  rw [hcut, List.nil_append, List.nil_append, hdrain] at herr hfeed
  exact hfeed herr

/-- Two messages, cut inside both headers and in a body, with an empty chunk. -/
theorem feed_encodeAll_two :
    feed (decoder proto) (ByteCodec.withMaxFrameSize 64) [] [[4, 0], [], [0, 0, 26, 2, 8], [1, 2], [0, 0, 0, 18, 0]] =
      ⟨[.keepalive ⟨1⟩, .data ⟨[]⟩], none, ByteCodec.withMaxFrameSize 64, []⟩ :=
  feed_encodeAll proto Proto.proto_roundTrip 64 (by decide) [.keepalive ⟨1⟩, .data ⟨[]⟩]
    [4, 0, 0, 0, 26, 2, 8, 1, 2, 0, 0, 0, 18, 0] (by rfl) _ (by decide)

/-- **Segmentation independence**, on any byte string: two ways to cut it give the same messages, the same error or
none, and without an error the same state and unread bytes. -/
theorem feed_segmentation (P : Prost) (maxFrameSize : Nat) (bytes : Bytes) (chunks chunks' : List Bytes)
    (hcut : chunks.flatten = bytes) (hcut' : chunks'.flatten = bytes) :
    let r := feed (decoder P) (ByteCodec.withMaxFrameSize maxFrameSize) [] chunks
    let r' := feed (decoder P) (ByteCodec.withMaxFrameSize maxFrameSize) [] chunks'
    r.items = r'.items ∧ r.error = r'.error ∧ (r.error = none → r.state = r'.state ∧ r.rest = r'.rest) := by
  obtain ⟨hi, he, hr⟩ := Drain.feed_congr (decoder_incremental P) chunks chunks' (hcut.trans hcut'.symm) _ _
    (settled_head P (.withMaxFrameSize maxFrameSize) rfl)
  refine ⟨hi, he, fun hn => ?_⟩
  rw [hr hn]
  exact ⟨rfl, rfl⟩

/-- A hostile string: a message with an empty body, then a length over the limit. -/
theorem feed_segmentation_hostile :
    let r := feed (decoder proto) (ByteCodec.withMaxFrameSize 8) [] [[0, 0, 0], [0, 9, 0, 0, 0, 7]]
    let r' := feed (decoder proto) (ByteCodec.withMaxFrameSize 8) [] [[0, 0, 0, 0, 9, 0], [0], [0, 7]]
    r.items = [⟨none⟩] ∧ r.error = some ⟨.invalidData, "Data length 9 exceeds maximum 8"⟩ ∧
    r.items = r'.items ∧ r.error = r'.error ∧ (r.error = none → r.state = r'.state ∧ r.rest = r'.rest) :=
  ⟨by decide, by decide, feed_segmentation proto 8 [0, 0, 0, 0, 9, 0, 0, 0, 7] _ _ (by decide) (by decide)⟩

end Easynet
