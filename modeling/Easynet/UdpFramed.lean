import Easynet.CodecStream
import Easynet.Net
/-!
# UdpFramed — one codec for the datagrams of all peers

tokio-util's `UdpFramed` as `UdpTransport` uses it: the bytes of a datagram are put in an empty buffer and `decode_eof` is
called until it answers `None` or fails, then the buffer is cleared.  The codec stays.  A datagram that stops right after
a header leaves it waiting for a body, and the next datagram, from whomever, is read as that body: datagrams are read
independently exactly when they are whole frames (`isolated_iff`).
-/
namespace Easynet

open Drain (drain)

structure Datagram where
  src : SocketAddr
  bytes : Bytes
  deriving DecidableEq, Repr

/-- The error of the default `decode_eof`. -/
def bytesRemaining : IoError := ⟨.other, "bytes remaining on stream"⟩

/-- The default `decode_eof`: no more bytes will come, so what `decode` leaves behind is an error. -/
def decodeEof (P : Prost) (c : ByteCodec) (src : Bytes) : Except IoError (Option Message) × ByteCodec × Bytes :=
  match c.decode P src with
  | (.ok none, c', rest) => (if rest.isEmpty then .ok none else .error bytesRemaining, c', rest)
  | answered             => answered

theorem decodeEof_of_more {P : Prost} {c c' : ByteCodec} {src rest : Bytes}
    (h : c.decode P src = (.ok none, c', rest)) :
    decodeEof P c src = (if rest.isEmpty then .ok none else .error bytesRemaining, c', rest) := by
  rw [decodeEof, h]

theorem decodeEof_of_answer {P : Prost} {c c' : ByteCodec} {src rest : Bytes} {o : Except IoError (Option Message)}
    (h : c.decode P src = (o, c', rest)) (ho : o ≠ .ok none) : decodeEof P c src = (o, c', rest) := by
  rw [decodeEof, h]
  split
  · rename_i he; cases he; exact absurd rfl ho
  · rfl

def eofDecoder (P : Prost) : Drain.Decoder ByteCodec UInt8 Message IoError where
  decode := decodeEof P
  size := ByteCodec.size
  item_size := by
    intro c b m c' r h
    unfold decodeEof at h
    split at h
    · split at h <;> cases h
    · exact ByteCodec.decode_item_size h

/-- **Draining a datagram is draining its bytes**, where what is left over is an error. -/
theorem drain_eof (P : Prost) : ∀ (c : ByteCodec) (b : Bytes), drain (eofDecoder P) c b =
    { drain (decoder P) c b with
      error := if (drain (decoder P) c b).error = none ∧ (drain (decoder P) c b).rest ≠ [] then some bytesRemaining
        else (drain (decoder P) c b).error } := by
  refine Drain.drain_induct (d := decoder P) (fun c b e c' r h => ?_) (fun c b c' r h => ?_)
    (fun c b m c' r h ih => ?_)
  · have he : (eofDecoder P).decode c b = (.error e, c', r) := decodeEof_of_answer h (by simp)
    rw [Drain.drain_of_error h, Drain.drain_of_error he]
    simp
  · rw [Drain.drain_of_more h]
    have he : (eofDecoder P).decode c b = _ := decodeEof_of_more h
    cases r with
    | nil => rw [Drain.drain_of_more he]; simp
    | cons x r => rw [Drain.drain_of_error he]; simp
  · have he : (eofDecoder P).decode c b = (.ok (some m), c', r) := decodeEof_of_answer h (by simp)
    rw [Drain.drain_of_item h, Drain.drain_of_item he, ih]
    rfl

/-! ## A sequence of datagrams -/

def readDatagram (P : Prost) (c : ByteCodec) (d : Datagram) : Drain.Result ByteCodec UInt8 Message IoError :=
  drain (eofDecoder P) c d.bytes

/-- What a datagram delivers: its messages, with its sender, and the error it ends in. -/
def delivered (P : Prost) (c : ByteCodec) (d : Datagram) : List (SocketAddr × Message) × Option IoError :=
  ((readDatagram P c d).items.map (fun m => (d.src, m)), (readDatagram P c d).error)

/-- The codec after a sequence of datagrams. -/
def codecAfter (P : Prost) : ByteCodec → List Datagram → ByteCodec
  | c, []      => c
  | c, d :: ds => codecAfter P (readDatagram P c d).state ds

/-- None of the datagrams ends in an error. -/
def noError (P : Prost) : ByteCodec → List Datagram → Bool
  | _, []      => true
  | c, d :: ds => (readDatagram P c d).error.isNone && noError P (readDatagram P c d).state ds

/-- The bytes are whole frames, one after the other. -/
def WholeFrames (bytes : Bytes) : Prop :=
  ∃ bodies : List Bytes, (∀ body ∈ bodies, body.length < 2 ^ 32) ∧ bytes = bodies.flatMap frame

/-- The bytes are whole frames within the limit, with bodies that prost decodes. -/
def WellFormed (P : Prost) (maxFrameSize : Nat) (bytes : Bytes) : Prop :=
  ∃ frames : List (Bytes × Message), bytes = frames.flatMap (fun p => frame p.1) ∧
    ∀ p ∈ frames, p.1.length < 2 ^ 32 ∧ p.1.length ≤ maxFrameSize ∧ P.decode p.1 = .ok p.2

/-! ## Where a datagram leaves the codec -/

theorem header_eq_frame (b₀ b₁ b₂ b₃ : UInt8) (rest : Bytes) (h : (getU32Le b₀ b₁ b₂ b₃).toNat ≤ rest.length) :
    b₀ :: b₁ :: b₂ :: b₃ :: rest =
      frame (rest.take (getU32Le b₀ b₁ b₂ b₃).toNat) ++ rest.drop (getU32Le b₀ b₁ b₂ b₃).toNat := by
  have hlen : (rest.take (getU32Le b₀ b₁ b₂ b₃).toNat).length = (getU32Le b₀ b₁ b₂ b₃).toNat := by
    rw [List.length_take, Nat.min_eq_left h]
  rw [frame, hlen, UInt32.ofNat_toNat, putU32Le_getU32Le, List.append_assoc, List.take_append_drop]
  rfl

theorem WellFormed.wholeFrames {P : Prost} {maxFrameSize : Nat} {bytes : Bytes} (h : WellFormed P maxFrameSize bytes) :
    WholeFrames bytes := by
  obtain ⟨frames, rfl, hf⟩ := h
  refine ⟨frames.map Prod.fst, fun body hb => ?_, by rw [List.flatMap_map]⟩
  obtain ⟨p, hp, rfl⟩ := List.mem_map.1 hb
  exact (hf p hp).1

theorem WellFormed.cons {P : Prost} {maxFrameSize : Nat} {body bytes : Bytes} {m : Message} (h32 : body.length < 2 ^ 32)
    (hmax : body.length ≤ maxFrameSize) (hm : P.decode body = .ok m) (h : WellFormed P maxFrameSize bytes) :
    WellFormed P maxFrameSize (frame body ++ bytes) := by
  obtain ⟨frames, rfl, hf⟩ := h
  refine ⟨(body, m) :: frames, rfl, fun p hp => ?_⟩
  rcases List.mem_cons.1 hp with rfl | hp
  · exact ⟨h32, hmax, hm⟩
  · exact hf p hp

/-- **What a call at a header can come to**: the end of the datagram, an error, a header with nothing behind it, or a
whole frame. -/
theorem decodeEof_head_cases (P : Prost) (c : ByteCodec) (hs : c.state = .head) (b : Bytes) :
    (b = [] ∧ decodeEof P c b = (.ok none, c, [])) ∨
    (∃ e c' r, decodeEof P c b = (.error e, c', r)) ∨
    (∃ n, n < 2 ^ 32 ∧ n ≤ c.maxFrameSize ∧ decodeEof P c b = (.ok none, { c with state := .body n }, [])) ∨
    (∃ body rest, body.length < 2 ^ 32 ∧ body.length ≤ c.maxFrameSize ∧ b = frame body ++ rest ∧
      decodeEof P c b = (ByteCodec.answer P body, c, rest)) := by
  rcases ByteCodec.decode_cases c b with ⟨-, hlen⟩ | ⟨b₀, b₁, b₂, b₃, rest, -, rfl, hmax⟩ | ⟨n, rest, hb⟩
  · have hd := decodeEof_of_more (ByteCodec.decode_of_short (P := P) hs hlen)
    cases b with
    | nil => exact Or.inl ⟨rfl, hd⟩
    | cons x b => exact Or.inr (Or.inl ⟨_, _, _, hd⟩)
  · exact Or.inr (Or.inl ⟨_, _, _, decodeEof_of_answer (ByteCodec.decode_of_long (P := P) hs hmax) (by simp)⟩)
  · cases hb with
    | body hbody => rw [hs] at hbody; cases hbody
    | @head b₀ b₁ b₂ b₃ _ _ hmax =>
      have hat := ByteCodec.decode_of_atBody (P := P) (.head hs hmax : ByteCodec.AtBody c _ _ rest)
      by_cases hlen : rest.length < (getU32Le b₀ b₁ b₂ b₃).toNat
      · rw [ByteCodec.decodeBody_of_short hlen] at hat
        have hd := decodeEof_of_more hat
        cases rest with
        | nil => exact Or.inr (Or.inr (Or.inl ⟨_, UInt32.toNat_lt _, hmax, hd⟩))
        | cons x rest => exact Or.inr (Or.inl ⟨_, _, _, hd⟩)
      · have hle := Nat.le_of_not_lt hlen
        rw [ByteCodec.decodeBody_of_le hle, ← hs] at hat
        have htake : (rest.take (getU32Le b₀ b₁ b₂ b₃).toNat).length = (getU32Le b₀ b₁ b₂ b₃).toNat := by
          rw [List.length_take, Nat.min_eq_left hle]
        exact Or.inr (Or.inr (Or.inr ⟨_, _, by rw [htake]; exact UInt32.toNat_lt _, by rw [htake]; exact hmax,
          header_eq_frame b₀ b₁ b₂ b₃ rest hle, decodeEof_of_answer hat (ByteCodec.answer_ne_more _)⟩))

/-- **A datagram that ends in no error was well formed, or stopped right after a header** that leaves the codec waiting
for a body. -/
theorem drain_boundary (P : Prost) (c : ByteCodec) (hs : c.state = .head) (b : Bytes)
    (h : (drain (eofDecoder P) c b).error = none) :
    (WellFormed P c.maxFrameSize b ∧ (drain (eofDecoder P) c b).state = c) ∨
    ∃ n, n < 2 ^ 32 ∧ n ≤ c.maxFrameSize ∧ (drain (eofDecoder P) c b).state = { c with state := .body n } := by
  induction hn : b.length using Nat.strongRecOn generalizing b with
  | ind n ih =>
    subst hn
    rcases decodeEof_head_cases P c hs b with ⟨rfl, hd⟩ | ⟨e, c', r, hd⟩ | ⟨n, h32, hmax, hd⟩ |
      ⟨body, rest, h32, hmax, rfl, hd⟩
    · rw [Drain.drain_of_more (d := eofDecoder P) hd]
      exact Or.inl ⟨⟨[], rfl, nofun⟩, rfl⟩
    · rw [Drain.drain_of_error (d := eofDecoder P) hd] at h; cases h
    · rw [Drain.drain_of_more (d := eofDecoder P) hd]
      exact Or.inr ⟨n, h32, hmax, rfl⟩
    · rcases ByteCodec.answer_cases P body with ⟨e, ha⟩ | ⟨m, ha, hm⟩ <;> rw [ha] at hd
      · rw [Drain.drain_of_error (d := eofDecoder P) hd] at h; cases h
      · rw [Drain.drain_of_item (d := eofDecoder P) hd] at h ⊢
        refine (ih rest.length ?_ rest h rfl).imp (fun ⟨hw, hst⟩ => ⟨hw.cons h32 hmax hm, hst⟩) id
        simp [frame, putU32Le]
        omega

/-- Whole frames that end in no error leave the codec as it was. -/
theorem drain_whole (P : Prost) (c : ByteCodec) (hs : c.state = .head) : ∀ (bodies : List Bytes),
    (∀ body ∈ bodies, body.length < 2 ^ 32) → (drain (eofDecoder P) c (bodies.flatMap frame)).error = none →
      (drain (eofDecoder P) c (bodies.flatMap frame)).state = c
  | [], _, _ => by
    have hd : (eofDecoder P).decode c [] = _ := decodeEof_of_more (ByteCodec.decode_of_short hs (Nat.zero_lt_succ 3))
    rw [List.flatMap_nil, Drain.drain_of_more hd]
  | body :: bodies, hlen, h => by
    rw [List.flatMap_cons] at h ⊢
    have hb := hlen body List.mem_cons_self
    by_cases hmax : body.length ≤ c.maxFrameSize
    · have hd := decodeEof_of_answer (decode_frame P c body (bodies.flatMap frame) hs hb hmax)
        (ByteCodec.answer_ne_more _)
      rcases ByteCodec.answer_cases P body with ⟨e, ha⟩ | ⟨m, ha, -⟩ <;> rw [ha] at hd
      · rw [Drain.drain_of_error (d := eofDecoder P) hd] at h; cases h
      · rw [Drain.drain_of_item (d := eofDecoder P) hd] at h ⊢
        exact drain_whole P c hs bodies (fun x hx => hlen x (List.mem_cons_of_mem _ hx)) h
    · obtain ⟨e, hd⟩ := decode_frame_of_long P c body (bodies.flatMap frame) hs hb (Nat.lt_of_not_le hmax)
      rw [Drain.drain_of_error (d := eofDecoder P) (decodeEof_of_answer hd (by simp))] at h
      cases h

theorem codecAfter_whole (P : Prost) (c : ByteCodec) (hs : c.state = .head) : ∀ (ds : List Datagram),
    noError P c ds = true → (∀ d ∈ ds, WholeFrames d.bytes) → codecAfter P c ds = c
  | [], _, _ => rfl
  | d :: ds, hok, hw => by
    simp only [noError, Bool.and_eq_true, Option.isNone_iff_eq_none] at hok
    obtain ⟨bodies, hlen, hb⟩ := hw d List.mem_cons_self
    have hst : (readDatagram P c d).state = c := by
      rw [readDatagram, hb] at hok ⊢
      exact drain_whole P c hs bodies hlen hok.1
    rw [hst] at hok
    rw [codecAfter, hst]
    exact codecAfter_whole P c hs ds hok.2 (fun x hx => hw x (List.mem_cons_of_mem _ hx))

theorem noError_left (P : Prost) : ∀ (ds₁ ds₂ : List Datagram) (c : ByteCodec),
    noError P c (ds₁ ++ ds₂) = true → noError P c ds₁ = true
  | [], _, _, _ => rfl
  | d :: ds₁, ds₂, c, h => by
    simp only [List.cons_append, noError, Bool.and_eq_true] at h ⊢
    exact ⟨h.1, noError_left P ds₁ ds₂ _ h.2⟩

/-! ## Telling a codec that waits for a body from a fresh one -/

/-- A datagram of `n` bytes that no codec at a header gets a message from, and that is no error of prost's to it. -/
def probe (n : Nat) : Bytes :=
  if n < 4 then List.replicate n 0 else putU32Le (UInt32.ofNat n) ++ List.replicate (n - 4) 0

theorem length_probe (n : Nat) : (probe n).length = n := by
  unfold probe
  split
  · exact List.length_replicate
  · simp [putU32Le]; omega

theorem probe_head (P : Prost) (c : ByteCodec) (hs : c.state = .head) {n : Nat} (h32 : n < 2 ^ 32)
    (hmax : n ≤ c.maxFrameSize) : (drain (eofDecoder P) c (probe n)).items = [] ∧
      ∀ e, (drain (eofDecoder P) c (probe n)).error ≠ some ⟨.invalidData, e⟩ := by
  rw [drain_eof]
  -- the plain decoder asks for more
  have hmore : ∃ c' r, (decoder P).decode c (probe n) = (.ok none, c', r) := by
    by_cases h4 : n < 4
    · exact ⟨_, _, ByteCodec.decode_of_short hs (by rw [length_probe]; exact h4)⟩
    · obtain ⟨b₀, b₁, b₂, b₃, hput, hget⟩ := getU32Le_putU32Le (UInt32.ofNat n)
      have hlen : (getU32Le b₀ b₁ b₂ b₃).toNat = n := by rw [hget]; exact UInt32.toNat_ofNat_of_lt h32
      have hat : ByteCodec.AtBody c (probe n) n (List.replicate (n - 4) 0) := by
        rw [probe, if_neg h4, hput]
        conv => arg 3; rw [← hlen]
        exact .head hs (by rw [hlen]; exact hmax)
      refine ⟨_, _, (ByteCodec.decode_of_atBody hat).trans (ByteCodec.decodeBody_of_short ?_)⟩
      rw [List.length_replicate]; omega
  obtain ⟨c', r, hd⟩ := hmore
  rw [Drain.drain_of_more hd]
  refine ⟨rfl, fun e => ?_⟩
  split <;> simp [bytesRemaining]

theorem probe_body (P : Prost) (c : ByteCodec) (n : Nat) :
    (drain (eofDecoder P) { c with state := .body n } (probe n)).items ≠ [] ∨
      ∃ e, (drain (eofDecoder P) { c with state := .body n } (probe n)).error = some ⟨.invalidData, e⟩ := by
  have hd := ByteCodec.decode_of_atBody (P := P) (.body rfl : ByteCodec.AtBody { c with state := .body n } (probe n) n _)
  rw [ByteCodec.decodeBody_of_le (Nat.le_of_eq (length_probe n).symm)] at hd
  have hd := decodeEof_of_answer hd (ByteCodec.answer_ne_more _)
  rcases ByteCodec.answer_cases P ((probe n).take n) with ⟨e, ha⟩ | ⟨m, ha, -⟩ <;> rw [ha] at hd
  · rw [Drain.drain_of_error (d := eofDecoder P) hd]; exact Or.inr ⟨e, rfl⟩
  · rw [Drain.drain_of_item (d := eofDecoder P) hd]; exact Or.inl (by simp)

theorem delivered_probe_ne (P : Prost) (c : ByteCodec) (hs : c.state = .head) {n : Nat} (h32 : n < 2 ^ 32)
    (hmax : n ≤ c.maxFrameSize) (src : SocketAddr) :
    delivered P { c with state := .body n } ⟨src, probe n⟩ ≠ delivered P c ⟨src, probe n⟩ := by
  intro he
  obtain ⟨hi, herr⟩ := Prod.mk.inj he
  obtain ⟨hnil, hno⟩ := probe_head P c hs h32 hmax
  simp only [readDatagram, hnil, List.map_nil, List.map_eq_nil_iff] at hi herr
  rcases probe_body P c n with hne | ⟨e, hee⟩
  · exact hne hi
  · exact hno e (herr.symm.trans hee)

/-! ## Isolation -/

/-- **Every datagram delivers what it delivers to a fresh codec, whatever came before it, if and only if what came before
it was whole frames**, for datagrams that have ended in no error so far. -/
theorem isolated_iff (P : Prost) (maxFrameSize : Nat) (ds : List Datagram)
    (hok : noError P (.withMaxFrameSize maxFrameSize) ds = true) :
    (∀ ds₁, ds₁ <+: ds → ∀ d, delivered P (codecAfter P (.withMaxFrameSize maxFrameSize) ds₁) d =
      delivered P (.withMaxFrameSize maxFrameSize) d) ↔ ∀ d ∈ ds, WholeFrames d.bytes := by
  have hs : (ByteCodec.withMaxFrameSize maxFrameSize).state = .head := rfl
  generalize ByteCodec.withMaxFrameSize maxFrameSize = c at hok hs
  constructor
  · intro hiso
    induction ds with
    | nil => nofun
    | cons d ds ih =>
      simp only [noError, Bool.and_eq_true, Option.isNone_iff_eq_none] at hok
      have hnext : ∀ ds₁, ds₁ <+: ds → ∀ d', delivered P (codecAfter P (readDatagram P c d).state ds₁) d' =
          delivered P c d' := fun ds₁ hp d' => hiso (d :: ds₁) ((List.prefix_cons_inj d).2 hp) d'
      rcases drain_boundary P c hs d.bytes hok.1 with ⟨hw, hst⟩ | ⟨n, h32, hmax, hst⟩
      · rw [readDatagram, hst] at hok hnext
        intro x hx
        rcases List.mem_cons.1 hx with rfl | hx
        · exact hw.wholeFrames
        · exact ih hok.2 hnext x hx
      · -- the next datagram could be the one that tells the difference
        have := hnext [] List.nil_prefix ⟨d.src, probe n⟩
        rw [codecAfter, readDatagram, hst] at this
        exact absurd this (delivered_probe_ne P c hs h32 hmax d.src)
  · rintro hw ds₁ ⟨ds₂, rfl⟩ d
    rw [codecAfter_whole P c hs ds₁ (noError_left P ds₁ ds₂ c hok) (fun x hx => hw x (List.mem_append_left _ hx))]

def attacker : SocketAddr := .v4 (.new 198 51 100 9) 53

def bystander : SocketAddr := .v4 (.new 192 0 2 7) 40000

/-- Two frames in one datagram, and an empty datagram. -/
def twoFrames : List Datagram := [⟨attacker, [2, 0, 0, 0, 18, 0, 4, 0, 0, 0, 26, 2, 8, 1]⟩, ⟨bystander, []⟩]

theorem isolated_two_frames :
    noError proto (.withMaxFrameSize 64) twoFrames = true ∧
    ∀ ds₁, ds₁ <+: twoFrames → ∀ d, delivered proto (codecAfter proto (.withMaxFrameSize 64) ds₁) d =
      delivered proto (.withMaxFrameSize 64) d := by
  refine ⟨by decide, (isolated_iff proto 64 twoFrames (by decide)).2 (fun d hd => ?_)⟩
  simp only [twoFrames, List.mem_cons, List.not_mem_nil, or_false] at hd
  rcases hd with rfl | rfl
  · exact ⟨[[18, 0], [26, 2, 8, 1]], by decide, by decide⟩
  · exact ⟨[], nofun, rfl⟩

/-- The bytes of a packet that a bystander sends. -/
def bystanderPacket : Bytes := 7 :: (List.replicate 18 [26, 0]).flatten

/-- An attacker's datagram that ends after a header is no error and delivers nothing; the packet the bystander sends next
then comes out as a keepalive. -/
theorem header_alone_rereads_next_datagram :
    noError proto .new [⟨attacker, [45, 0, 0, 0]⟩] = true ∧
    delivered proto .new ⟨bystander, frame (proto.encodeToVec (.data ⟨bystanderPacket⟩))⟩ =
      ([(bystander, .data ⟨bystanderPacket⟩)], none) ∧
    delivered proto (codecAfter proto .new [⟨attacker, [45, 0, 0, 0]⟩])
        ⟨bystander, frame (proto.encodeToVec (.data ⟨bystanderPacket⟩))⟩ =
      ([(bystander, .keepalive ⟨0⟩)], none) := by
  refine ⟨by decide, by decide, by decide⟩

end Easynet
