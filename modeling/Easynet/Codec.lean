import Mathlib.Algebra.Group.Nat.Defs
import Easynet.Lib.Drain
import Easynet.Message
/-!
# Codec — the frame codec

`ByteCodec` of `codec/codec.rs`: a frame is a four-byte little-endian length and a protobuf body.  The encoder appends
frames to a buffer; the decoder is a two-state machine that takes the header off the buffer before the body is there.
prost is a parameter (`Prost`): its encoder, and its decoder with the text of its error.

`decoder` is the decoder as a `Drain.Decoder`, and `decoder_incremental` is what every result about streams rests on.
-/
namespace Easynet

/-- The error kinds of `std::io` that the codec and the transports use. -/
inductive ErrorKind
  | invalidData
  | brokenPipe
  | notFound
  | connectionRefused
  | other
  deriving DecidableEq, Repr

structure IoError where
  kind : ErrorKind
  message : String
  deriving DecidableEq, Repr

/-- **prost's code for `Message`**, which the build generates. -/
structure Prost where
  encodeToVec : Message → Bytes
  decode : Bytes → Except String Message

/-- What prost promises: decoding an encoded message gives it back. -/
def Prost.RoundTrip (P : Prost) : Prop := ∀ m, P.decode (P.encodeToVec m) = .ok m

/-! ## The little-endian header -/

def headerSize : Nat := 4

def putU32Le (n : UInt32) : Bytes :=
  [UInt8.ofNat n.toNat, UInt8.ofNat (n.toNat / 2 ^ 8), UInt8.ofNat (n.toNat / 2 ^ 16), UInt8.ofNat (n.toNat / 2 ^ 24)]

def getU32Le (b₀ b₁ b₂ b₃ : UInt8) : UInt32 :=
  UInt32.ofNat (b₀.toNat + 2 ^ 8 * b₁.toNat + 2 ^ 16 * b₂.toNat + 2 ^ 24 * b₃.toNat)

/-- Four bytes are the length they write. -/
theorem getU32Le_toNat (b₀ b₁ b₂ b₃ : UInt8) :
    (getU32Le b₀ b₁ b₂ b₃).toNat = b₀.toNat + 2 ^ 8 * b₁.toNat + 2 ^ 16 * b₂.toNat + 2 ^ 24 * b₃.toNat := by
  have := b₀.toNat_lt; have := b₁.toNat_lt; have := b₂.toNat_lt; have := b₃.toNat_lt
  rw [getU32Le, UInt32.toNat_ofNat']
  omega

theorem putU32Le_getU32Le (b₀ b₁ b₂ b₃ : UInt8) : putU32Le (getU32Le b₀ b₁ b₂ b₃) = [b₀, b₁, b₂, b₃] := by
  have := b₀.toNat_lt; have := b₁.toNat_lt; have := b₂.toNat_lt; have := b₃.toNat_lt
  have hb : ∀ (n : Nat) (b : UInt8), n % 2 ^ 8 = b.toNat → UInt8.ofNat n = b := fun n b h => by
    apply UInt8.toNat_inj.1; rw [UInt8.toNat_ofNat', h]
  rw [putU32Le, getU32Le_toNat, hb _ b₀ (by omega), hb _ b₁ (by omega), hb _ b₂ (by omega), hb _ b₃ (by omega)]

theorem getU32Le_putU32Le (n : UInt32) :
    ∃ b₀ b₁ b₂ b₃, putU32Le n = [b₀, b₁, b₂, b₃] ∧ getU32Le b₀ b₁ b₂ b₃ = n := by
  refine ⟨_, _, _, _, rfl, ?_⟩
  have := n.toNat_lt
  apply UInt32.toNat_inj.1
  rw [getU32Le_toNat]
  simp only [UInt8.toNat_ofNat']
  omega

/-! ## The codec -/

/-- The decoder's state machine. -/
inductive DecodeState
  | head
  | body (dataLen : Nat)
  deriving DecidableEq, Repr

def defaultMaxFrameSize : Nat := 1024 * 1024

structure ByteCodec where
  state : DecodeState
  maxFrameSize : Nat
  deriving DecidableEq, Repr

namespace ByteCodec

def new : ByteCodec := ⟨.head, defaultMaxFrameSize⟩

def withMaxFrameSize (maxFrameSize : Nat) : ByteCodec := ⟨.head, maxFrameSize⟩

variable (P : Prost)

/-- `Encoder::encode`: the buffer with the frame appended. -/
def encode (c : ByteCodec) (item : Message) (dst : Bytes) : Except IoError Bytes :=
  let body := P.encodeToVec item
  let required := headerSize + body.length
  if c.maxFrameSize < required then
    .error ⟨.invalidData,
      "Frame size " ++ toString required ++ " exceeds maximum " ++ toString c.maxFrameSize⟩
  else .ok (dst ++ putU32Le (UInt32.ofNat body.length) ++ body)

/-- `decode` in the state `Body`. -/
def decodeBody (c : ByteCodec) (dataLen : Nat) (src : Bytes) : Except IoError (Option Message) × ByteCodec × Bytes :=
  if src.length < dataLen then (.ok none, { c with state := .body dataLen }, src)
  else
    let data := src.take dataLen
    let result := match P.decode data with
      | .ok m    => .ok (some m)
      | .error e => .error ⟨.invalidData, e⟩
    (result, { c with state := .head }, src.drop dataLen)

/-- `Decoder::decode`: the answer, the codec and the buffer afterwards. -/
def decode (c : ByteCodec) (src : Bytes) : Except IoError (Option Message) × ByteCodec × Bytes :=
  match c.state with
  | .head =>
    match src with
    | b₀ :: b₁ :: b₂ :: b₃ :: src =>
      let dataLen := (getU32Le b₀ b₁ b₂ b₃).toNat
      if c.maxFrameSize < dataLen then
        (.error ⟨.invalidData,
          "Data length " ++ toString dataLen ++ " exceeds maximum " ++ toString c.maxFrameSize⟩, c, src)
      else decodeBody P c dataLen src
    -- fewer than `headerSize` bytes
    | _ => (.ok none, c, src)
  | .body dataLen => decodeBody P c dataLen src

end ByteCodec

/-! ## One call

A call either stops at the header (fewer than four bytes, or a length over the limit) or comes to a body of a known
length. -/

namespace ByteCodec

variable {P : Prost} {c : ByteCodec} {src : Bytes}

/-- The call comes to a body of `dataLen` bytes, with `rest` in the buffer. -/
inductive AtBody (c : ByteCodec) : Bytes → Nat → Bytes → Prop
  | head {b₀ b₁ b₂ b₃ : UInt8} {rest : Bytes} (hs : c.state = .head)
      (hmax : (getU32Le b₀ b₁ b₂ b₃).toNat ≤ c.maxFrameSize) :
      AtBody c (b₀ :: b₁ :: b₂ :: b₃ :: rest) (getU32Le b₀ b₁ b₂ b₃).toNat rest
  | body {rest : Bytes} {dataLen : Nat} (hs : c.state = .body dataLen) : AtBody c rest dataLen rest

theorem decode_of_atBody {dataLen : Nat} {rest : Bytes} (h : AtBody c src dataLen rest) :
    decode P c src = decodeBody P c dataLen rest := by
  cases h with
  | head hs hmax => simp only [decode, hs]; rw [if_neg (by omega)]
  | body hs => simp only [decode, hs]

theorem decode_of_short (hs : c.state = .head) (hlen : src.length < headerSize) :
    decode P c src = (.ok none, c, src) := by
  simp only [decode, hs]
  split
  · simp only [List.length_cons, headerSize] at hlen; omega
  · rfl

theorem decode_of_long {b₀ b₁ b₂ b₃ : UInt8} {rest : Bytes} (hs : c.state = .head)
    (hmax : c.maxFrameSize < (getU32Le b₀ b₁ b₂ b₃).toNat) :
    decode P c (b₀ :: b₁ :: b₂ :: b₃ :: rest) = (.error ⟨.invalidData, "Data length " ++
      toString (getU32Le b₀ b₁ b₂ b₃).toNat ++ " exceeds maximum " ++ toString c.maxFrameSize⟩, c, rest) := by
  simp only [decode, hs]; rw [if_pos hmax]

theorem exists_four_of_headerSize_le (h : headerSize ≤ src.length) :
    ∃ b₀ b₁ b₂ b₃ rest, src = b₀ :: b₁ :: b₂ :: b₃ :: rest := by
  match src, h with
  | b₀ :: b₁ :: b₂ :: b₃ :: rest, _ => exact ⟨b₀, b₁, b₂, b₃, rest, rfl⟩

/-- **Where a call can go.** -/
theorem decode_cases (c : ByteCodec) (src : Bytes) :
    (c.state = .head ∧ src.length < headerSize) ∨
    (∃ b₀ b₁ b₂ b₃ rest, c.state = .head ∧ src = b₀ :: b₁ :: b₂ :: b₃ :: rest ∧
      c.maxFrameSize < (getU32Le b₀ b₁ b₂ b₃).toNat) ∨
    ∃ dataLen rest, AtBody c src dataLen rest := by
  cases hs : c.state with
  | body dataLen => exact Or.inr (Or.inr ⟨dataLen, src, .body hs⟩)
  | head =>
    by_cases hlen : src.length < headerSize
    · exact Or.inl ⟨rfl, hlen⟩
    · obtain ⟨b₀, b₁, b₂, b₃, rest, rfl⟩ := exists_four_of_headerSize_le (Nat.le_of_not_lt hlen)
      by_cases hmax : c.maxFrameSize < (getU32Le b₀ b₁ b₂ b₃).toNat
      · exact Or.inr (Or.inl ⟨b₀, b₁, b₂, b₃, rest, rfl, rfl, hmax⟩)
      · exact Or.inr (Or.inr ⟨_, rest, .head hs (Nat.le_of_not_lt hmax)⟩)

theorem AtBody.append {dataLen : Nat} {rest : Bytes} (h : AtBody c src dataLen rest) (x : Bytes) :
    AtBody c (src ++ x) dataLen (rest ++ x) := by
  cases h with
  | head hs hmax => exact .head hs hmax
  | body hs => exact .body hs

theorem decodeBody_of_short {dataLen : Nat} (h : src.length < dataLen) :
    decodeBody P c dataLen src = (.ok none, { c with state := .body dataLen }, src) := by
  rw [decodeBody, if_pos h]

/-- What decoding a body answers. -/
def answer (P : Prost) (data : Bytes) : Except IoError (Option Message) :=
  match P.decode data with
  | .ok m    => .ok (some m)
  | .error e => .error ⟨.invalidData, e⟩

theorem answer_cases (P : Prost) (data : Bytes) :
    (∃ e, answer P data = .error ⟨.invalidData, e⟩) ∨ ∃ m, answer P data = .ok (some m) ∧ P.decode data = .ok m := by
  unfold answer
  cases hd : P.decode data with
  | ok m => exact Or.inr ⟨m, rfl, rfl⟩
  | error e => exact Or.inl ⟨e, rfl⟩

theorem answer_ne_more (data : Bytes) : answer P data ≠ .ok none := by
  rcases answer_cases P data with ⟨e, ha⟩ | ⟨m, ha, -⟩ <;> rw [ha] <;> simp

theorem decodeBody_of_le {dataLen : Nat} (h : dataLen ≤ src.length) :
    decodeBody P c dataLen src = (answer P (src.take dataLen), { c with state := .head }, src.drop dataLen) := by
  rw [decodeBody, if_neg (by omega)]; rfl

/-! ## The decoder as a drain -/

def size (c : ByteCodec) (src : Bytes) : Nat :=
  2 * src.length + match c.state with
    | .head   => 0
    | .body _ => 1

theorem size_lt_of_atBody {dataLen : Nat} {rest : Bytes} (h : AtBody c src dataLen rest) :
    2 * (rest.length - dataLen) < size c src := by
  cases h with
  | head hs _ => simp only [size, hs, List.length_cons]; omega
  | body hs => simp only [size, hs]; omega

/-- A returned message has taken the codec back to the header, and bytes or the pending body off it. -/
theorem decode_item_size {m : Message} {c' : ByteCodec} {r : Bytes}
    (h : decode P c src = (.ok (some m), c', r)) : size c' r < size c src := by
  rcases decode_cases c src with ⟨hs, hlen⟩ | ⟨b₀, b₁, b₂, b₃, rest, hs, rfl, hmax⟩ | ⟨n, rest, hb⟩
  · rw [decode_of_short hs hlen] at h; simp at h
  · rw [decode_of_long hs hmax] at h; simp at h
  · rw [decode_of_atBody hb] at h
    by_cases hlen : rest.length < n
    · rw [decodeBody_of_short hlen] at h; simp at h
    · rw [decodeBody_of_le (Nat.le_of_not_lt hlen)] at h
      simp only [Prod.mk.injEq] at h
      obtain ⟨-, rfl, rfl⟩ := h
      have := size_lt_of_atBody hb
      simp only [size, List.length_drop, Nat.add_zero]
      exact this

end ByteCodec

open ByteCodec in
def decoder (P : Prost) : Drain.Decoder ByteCodec UInt8 Message IoError where
  decode := decode P
  size := size
  item_size := decode_item_size

namespace ByteCodec

variable {P : Prost} {c : ByteCodec} {src : Bytes}

/-- **Bytes that arrive later do not change an answer.** -/
theorem decode_append {o : Except IoError (Option Message)} {c' : ByteCodec} {r : Bytes}
    (h : decode P c src = (o, c', r)) (x : Bytes) :
    decode P c (src ++ x) = if o = .ok none then decode P c' (r ++ x) else (o, c', r ++ x) := by
  rcases decode_cases c src with ⟨hs, hlen⟩ | ⟨b₀, b₁, b₂, b₃, rest, hs, rfl, hmax⟩ | ⟨n, rest, hb⟩
  · rw [decode_of_short hs hlen, Prod.mk.injEq, Prod.mk.injEq] at h
    obtain ⟨rfl, rfl, rfl⟩ := h
    rw [if_pos rfl]
  · rw [decode_of_long hs hmax, Prod.mk.injEq, Prod.mk.injEq] at h
    obtain ⟨rfl, rfl, rfl⟩ := h
    rw [if_neg (by simp)]
    exact decode_of_long hs hmax
  · rw [decode_of_atBody hb] at h
    rw [decode_of_atBody (hb.append x)]
    by_cases hlen : rest.length < n
    · -- the header is gone: the call is resumed at the body
      rw [decodeBody_of_short hlen, Prod.mk.injEq, Prod.mk.injEq] at h
      obtain ⟨rfl, rfl, rfl⟩ := h
      rw [if_pos rfl, decode_of_atBody (.body rfl)]
      rfl
    · have hle : n ≤ rest.length := Nat.le_of_not_lt hlen
      rw [decodeBody_of_le hle, Prod.mk.injEq, Prod.mk.injEq] at h
      obtain ⟨rfl, rfl, rfl⟩ := h
      rw [decodeBody_of_le (by rw [List.length_append]; omega), List.take_append_of_le_length hle,
        List.drop_append_of_le_length hle, if_neg (answer_ne_more _)]

end ByteCodec

theorem decoder_incremental (P : Prost) : Drain.Incremental (decoder P) where
  item x h := (ByteCodec.decode_append (P := P) h x).trans (if_neg (by simp))
  error x h := (ByteCodec.decode_append (P := P) h x).trans (if_neg (by simp))
  more x h := (ByteCodec.decode_append (P := P) h x).trans (if_pos rfl)

end Easynet
