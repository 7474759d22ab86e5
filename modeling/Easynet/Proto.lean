import Easynet.Lib.Protobuf
import Easynet.Codec
/-!
# Proto — the messages on the wire

A concrete `Prost` for `proto/message.proto`: every message type is written as its fields in tag order, a field with its
default value is left out, and a message is read by merging its fields one by one into the default value, where unknown
tags are skipped.  `proto_roundTrip` is the promise the codec's results are stated under; nothing but the concrete
inputs of the development is about this instance.
-/
namespace Easynet
namespace Proto

open Protobuf (Field utf8 readUtf8 readFields writeFields)

/-! ## Writing -/

def stringField (tag : Nat) (s : String) : List Field := if s = "" then [] else [⟨tag, .len (utf8 s)⟩]

def varintField (tag n : Nat) : List Field := if n = 0 then [] else [⟨tag, .varint n⟩]

def bytesField (tag : Nat) (b : Bytes) : List Field := if b = [] then [] else [⟨tag, .len b⟩]

def tunConfigFields (c : TunConfig) : List Field :=
  stringField 1 c.name ++ stringField 2 c.address ++ stringField 3 c.netmask ++ stringField 4 c.destination ++
    c.dns.map (fun s => ⟨5, .len (utf8 s)⟩) ++ varintField 6 c.mtu.toNat

def handshakeFields (h : Handshake) : List Field :=
  stringField 1 h.token ++ stringField 2 h.sessionId ++
    (h.tunConfig.map (fun c => (⟨3, .len (writeFields (tunConfigFields c))⟩ : Field))).toList

def messageTypeField : MessageType → Field
  | .handshake h  => ⟨1, .len (writeFields (handshakeFields h))⟩
  | .data d       => ⟨2, .len (writeFields (bytesField 1 d.payload))⟩
  | .keepalive k  => ⟨3, .len (writeFields (varintField 1 k.timestamp.toUInt64.toNat))⟩
  | .disconnect d => ⟨4, .len (writeFields (stringField 1 d.reason))⟩

def encodeToVec (m : Message) : Bytes := writeFields (m.msg.map messageTypeField).toList

/-! ## Reading -/

/-- A sub-message: its fields merged into what is there. -/
def merge {α : Type} (mergeField : α → Field → Option α) (a : α) (b : Bytes) : Option α :=
  (readFields b).bind (fun fs => fs.foldlM mergeField a)

def mergeTunConfig (c : TunConfig) (f : Field) : Option TunConfig :=
  match f.tag, f.value with
  | 1, .len b    => (readUtf8 b).map (fun s => { c with name := s })
  | 2, .len b    => (readUtf8 b).map (fun s => { c with address := s })
  | 3, .len b    => (readUtf8 b).map (fun s => { c with netmask := s })
  | 4, .len b    => (readUtf8 b).map (fun s => { c with destination := s })
  | 5, .len b    => (readUtf8 b).map (fun s => { c with dns := c.dns ++ [s] })
  | 6, .varint n => some { c with mtu := UInt32.ofNat n }
  | tag, _       => if tag ≤ 6 then none else some c

def mergeHandshake (h : Handshake) (f : Field) : Option Handshake :=
  match f.tag, f.value with
  | 1, .len b => (readUtf8 b).map (fun s => { h with token := s })
  | 2, .len b => (readUtf8 b).map (fun s => { h with sessionId := s })
  | 3, .len b =>
    (merge mergeTunConfig (h.tunConfig.getD ⟨"", "", "", "", [], 0⟩) b).map (fun c => { h with tunConfig := some c })
  | tag, _    => if tag ≤ 3 then none else some h

def mergeData (d : Data) (f : Field) : Option Data :=
  match f.tag, f.value with
  | 1, .len b => some { d with payload := b }
  | tag, _    => if tag ≤ 1 then none else some d

def mergeKeepAlive (k : KeepAlive) (f : Field) : Option KeepAlive :=
  match f.tag, f.value with
  | 1, .varint n => some { k with timestamp := (UInt64.ofNat n).toInt64 }
  | tag, _       => if tag ≤ 1 then none else some k

def mergeDisconnect (d : Disconnect) (f : Field) : Option Disconnect :=
  match f.tag, f.value with
  | 1, .len b => (readUtf8 b).map (fun s => { d with reason := s })
  | tag, _    => if tag ≤ 1 then none else some d

/-- The `oneof`: a field of the variant that is set is merged into it, another one replaces it. -/
def mergeMessage (m : Message) (f : Field) : Option Message :=
  match f.tag, f.value with
  | 1, .len b =>
    let h := match m.msg with
      | some (.handshake h) => h
      | _                   => ⟨"", "", none⟩
    (merge mergeHandshake h b).map (fun h => ⟨some (.handshake h)⟩)
  | 2, .len b =>
    let d := match m.msg with
      | some (.data d) => d
      | _              => ⟨[]⟩
    (merge mergeData d b).map (fun d => ⟨some (.data d)⟩)
  | 3, .len b =>
    let k := match m.msg with
      | some (.keepalive k) => k
      | _                   => ⟨0⟩
    (merge mergeKeepAlive k b).map (fun k => ⟨some (.keepalive k)⟩)
  | 4, .len b =>
    let d := match m.msg with
      | some (.disconnect d) => d
      | _                    => ⟨""⟩
    (merge mergeDisconnect d b).map (fun d => ⟨some (.disconnect d)⟩)
  | tag, _ => if tag ≤ 4 then none else some m

def decode (b : Bytes) : Except String Message :=
  match merge mergeMessage ⟨none⟩ b with
  | some m => .ok m
  | none   => .error "failed to decode Protobuf message"

end Proto

def proto : Prost := ⟨Proto.encodeToVec, Proto.decode⟩

namespace Proto

open Protobuf (Field utf8 readUtf8 readFields writeFields)

/-! ## The round trip -/

theorem merge_writeFields {α : Type} (mergeField : α → Field → Option α) (a : α) (fs : List Field)
    (hf : ∀ f ∈ fs, f.wf = true) : merge mergeField a (writeFields fs) = fs.foldlM mergeField a := by
  rw [merge, Protobuf.readFields_writeFields fs hf]; rfl

theorem stringField_wf {tag : Nat} (ht : 0 < tag) (s : String) : ∀ f ∈ stringField tag s, f.wf = true := by
  intro f hf
  unfold stringField at hf
  split at hf
  · cases hf
  · rw [List.mem_singleton.1 hf]; simp [Field.wf, ht]

theorem varintField_wf {tag : Nat} (ht : 0 < tag) (n : Nat) : ∀ f ∈ varintField tag n, f.wf = true := by
  intro f hf
  unfold varintField at hf
  split at hf
  · cases hf
  · rw [List.mem_singleton.1 hf]; simp [Field.wf, ht]

theorem bytesField_wf {tag : Nat} (ht : 0 < tag) (b : Bytes) : ∀ f ∈ bytesField tag b, f.wf = true := by
  intro f hf
  unfold bytesField at hf
  split at hf
  · cases hf
  · rw [List.mem_singleton.1 hf]; simp [Field.wf, ht]

/-- A text field, left out when empty, sets its field from the default. -/
theorem foldlM_stringField {α : Type} {mergeField : α → Field → Option α} {tag : Nat} {s : String} {a a' : α}
    (hset : mergeField a ⟨tag, .len (utf8 s)⟩ = some a') (hdef : s = "" → a = a') :
    (stringField tag s).foldlM mergeField a = some a' := by
  unfold stringField
  by_cases h : s = ""
  · rw [if_pos h, hdef h]; rfl
  · rw [if_neg h]; simp [hset]

theorem foldlM_varintField {α : Type} {mergeField : α → Field → Option α} {tag n : Nat} {a a' : α}
    (hset : mergeField a ⟨tag, .varint n⟩ = some a') (hdef : n = 0 → a = a') :
    (varintField tag n).foldlM mergeField a = some a' := by
  unfold varintField
  by_cases h : n = 0
  · rw [if_pos h, hdef h]; rfl
  · rw [if_neg h]; simp [hset]

theorem foldlM_dns : ∀ (dns : List String) (c : TunConfig),
    (dns.map (fun s => (⟨5, .len (utf8 s)⟩ : Field))).foldlM mergeTunConfig c =
      some { c with dns := c.dns ++ dns }
  | [], c => by simp
  | s :: dns, c => by
    rw [List.map_cons, List.foldlM_cons]
    simp only [mergeTunConfig, Protobuf.readUtf8_utf8, Option.map_some]
    have := foldlM_dns dns { c with dns := c.dns ++ [s] }
    simpa using this

theorem merge_tunConfig (c : TunConfig) :
    merge mergeTunConfig ⟨"", "", "", "", [], 0⟩ (writeFields (tunConfigFields c)) = some c := by
  obtain ⟨name, address, netmask, destination, dns, mtu⟩ := c
  have hwf : ∀ f ∈ tunConfigFields ⟨name, address, netmask, destination, dns, mtu⟩, f.wf = true := by
    intro f hf
    simp only [tunConfigFields, List.mem_append] at hf
    rcases hf with ((((hf | hf) | hf) | hf) | hf) | hf
    · exact stringField_wf (by decide) _ f hf
    · exact stringField_wf (by decide) _ f hf
    · exact stringField_wf (by decide) _ f hf
    · exact stringField_wf (by decide) _ f hf
    · obtain ⟨s, -, rfl⟩ := List.mem_map.1 hf; rfl
    · exact varintField_wf (by decide) _ f hf
  have h1 : (stringField 1 name).foldlM mergeTunConfig ⟨"", "", "", "", [], 0⟩ = some ⟨name, "", "", "", [], 0⟩ :=
    foldlM_stringField (by simp [mergeTunConfig, Protobuf.readUtf8_utf8]) (by rintro rfl; rfl)
  have h2 : (stringField 2 address).foldlM mergeTunConfig ⟨name, "", "", "", [], 0⟩ =
      some ⟨name, address, "", "", [], 0⟩ :=
    foldlM_stringField (by simp [mergeTunConfig, Protobuf.readUtf8_utf8]) (by rintro rfl; rfl)
  have h3 : (stringField 3 netmask).foldlM mergeTunConfig ⟨name, address, "", "", [], 0⟩ =
      some ⟨name, address, netmask, "", [], 0⟩ :=
    foldlM_stringField (by simp [mergeTunConfig, Protobuf.readUtf8_utf8]) (by rintro rfl; rfl)
  have h4 : (stringField 4 destination).foldlM mergeTunConfig ⟨name, address, netmask, "", [], 0⟩ =
      some ⟨name, address, netmask, destination, [], 0⟩ :=
    foldlM_stringField (by simp [mergeTunConfig, Protobuf.readUtf8_utf8]) (by rintro rfl; rfl)
  have h6 : (varintField 6 mtu.toNat).foldlM mergeTunConfig ⟨name, address, netmask, destination, dns, 0⟩ =
      some ⟨name, address, netmask, destination, dns, mtu⟩ :=
    foldlM_varintField (by simp [mergeTunConfig]) (fun h => by rw [show mtu = 0 from UInt32.toNat_inj.1 h])
  rw [merge_writeFields _ _ _ hwf]
  simp only [tunConfigFields, List.foldlM_append, h1, h2, h3, h4, foldlM_dns, h6, Option.bind_eq_bind, Option.bind_some,
    List.nil_append]

theorem merge_handshake (h : Handshake) :
    merge mergeHandshake ⟨"", "", none⟩ (writeFields (handshakeFields h)) = some h := by
  obtain ⟨token, sessionId, tunConfig⟩ := h
  have hwf : ∀ f ∈ handshakeFields ⟨token, sessionId, tunConfig⟩, f.wf = true := by
    intro f hf
    simp only [handshakeFields, List.mem_append, Option.mem_toList, Option.map_eq_some_iff] at hf
    rcases hf with (hf | hf) | ⟨c, -, rfl⟩
    · exact stringField_wf (by decide) _ f hf
    · exact stringField_wf (by decide) _ f hf
    · rfl
  have h1 : (stringField 1 token).foldlM mergeHandshake ⟨"", "", none⟩ = some ⟨token, "", none⟩ :=
    foldlM_stringField (by simp [mergeHandshake, Protobuf.readUtf8_utf8]) (by rintro rfl; rfl)
  have h2 : (stringField 2 sessionId).foldlM mergeHandshake ⟨token, "", none⟩ = some ⟨token, sessionId, none⟩ :=
    foldlM_stringField (by simp [mergeHandshake, Protobuf.readUtf8_utf8]) (by rintro rfl; rfl)
  rw [merge_writeFields _ _ _ hwf]
  simp only [handshakeFields, List.foldlM_append, h1, h2, Option.bind_eq_bind, Option.bind_some]
  cases tunConfig with
  | none => rfl
  | some c => simp [mergeHandshake, merge_tunConfig]

theorem merge_messageTypeField (t : MessageType) : mergeMessage ⟨none⟩ (messageTypeField t) = some ⟨some t⟩ := by
  cases t with
  | handshake h => simp [messageTypeField, mergeMessage, merge_handshake]
  | data d =>
    have h : merge mergeData ⟨[]⟩ (writeFields (bytesField 1 d.payload)) = some d := by
      rw [merge_writeFields _ _ _ (bytesField_wf (by decide) _)]
      unfold bytesField
      by_cases hd : d.payload = []
      · rw [if_pos hd]; rw [← hd]; rfl
      · rw [if_neg hd]; simp [mergeData]
    simp [messageTypeField, mergeMessage, h]
  | keepalive k =>
    have h : merge mergeKeepAlive ⟨0⟩ (writeFields (varintField 1 k.timestamp.toUInt64.toNat)) = some k := by
      rw [merge_writeFields _ _ _ (varintField_wf (by decide) _)]
      refine foldlM_varintField (by simp [mergeKeepAlive]) (fun h => ?_)
      have h0 : k.timestamp.toUInt64 = 0 := UInt64.toNat_inj.1 h
      have : k.timestamp = 0 := by
        have := congrArg UInt64.toInt64 h0
        simpa using this
      rw [← this]
    simp [messageTypeField, mergeMessage, h]
  | disconnect d =>
    have h : merge mergeDisconnect ⟨""⟩ (writeFields (stringField 1 d.reason)) = some d := by
      rw [merge_writeFields _ _ _ (stringField_wf (by decide) _)]
      exact foldlM_stringField (by simp [mergeDisconnect, Protobuf.readUtf8_utf8]) (fun h => by rw [← h])
    simp [messageTypeField, mergeMessage, h]

/-- **Decoding an encoded message gives it back.** -/
theorem proto_roundTrip : proto.RoundTrip := by
  rintro ⟨msg⟩
  have hwf : ∀ f ∈ (msg.map messageTypeField).toList, f.wf = true := by
    intro f hf
    simp only [Option.mem_toList, Option.map_eq_some_iff] at hf
    obtain ⟨t, -, rfl⟩ := hf
    cases t <;> rfl
  have h : merge mergeMessage ⟨none⟩ (encodeToVec ⟨msg⟩) = some ⟨msg⟩ := by
    rw [encodeToVec, merge_writeFields _ _ _ hwf]
    cases msg with
    | none => rfl
    | some t => simp [merge_messageTypeField]
  simp only [proto, decode, h]

end Proto
end Easynet
