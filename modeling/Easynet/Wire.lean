import Easynet.Lib.Checksum
import Easynet.Message
import Easynet.Net
/-!
# Wire — the fields of IPv4 and ICMP packets

The accessors of `smoltcp::wire` that the proxy uses, on a packet's bytes: where a field stands, how it is read and
written, and what `new_checked` asks of a buffer before it lets the fields be read.  `new_checked` looks at lengths only:
not at the version, and not for a header length below the least one.
-/
namespace Easynet

open Checksum (u16At setU16)

/-- The text of `smoltcp`'s only error. -/
def wireError : String := "wire::Error"

/-- `IpProtocol::Icmp`. -/
def ipProtocolIcmp : UInt8 := 1

namespace Ipv4Packet

def version (bytes : Bytes) : Nat := (bytes.getD 0 0).toNat / 16

def headerLen (bytes : Bytes) : Nat := 4 * ((bytes.getD 0 0).toNat % 16)

def totalLen (bytes : Bytes) : Nat := u16At 2 bytes

def ident (bytes : Bytes) : Nat := u16At 4 bytes

def moreFrags (bytes : Bytes) : Bool := (bytes.getD 6 0).toNat.testBit 5

/-- In bytes. -/
def fragOffset (bytes : Bytes) : Nat := 8 * (u16At 6 bytes % 8192)

def hopLimit (bytes : Bytes) : UInt8 := bytes.getD 8 0

def nextHeader (bytes : Bytes) : UInt8 := bytes.getD 9 0

def srcAddr (bytes : Bytes) : Ipv4Addr := ⟨bytes.getD 12 0, bytes.getD 13 0, bytes.getD 14 0, bytes.getD 15 0⟩

def dstAddr (bytes : Bytes) : Ipv4Addr := ⟨bytes.getD 16 0, bytes.getD 17 0, bytes.getD 18 0, bytes.getD 19 0⟩

def payload (bytes : Bytes) : Bytes := (bytes.take (totalLen bytes)).drop (headerLen bytes)

/-- `check_len`. -/
def checkLen (bytes : Bytes) : Bool :=
  decide (20 ≤ bytes.length ∧ headerLen bytes ≤ bytes.length ∧ headerLen bytes ≤ totalLen bytes ∧
    totalLen bytes ≤ bytes.length)

def newChecked (bytes : Bytes) : Except String Bytes := if checkLen bytes then .ok bytes else .error wireError

/-- `fill_checksum`, over the header. -/
def fillChecksum (bytes : Bytes) : Bytes := Checksum.fill 10 (headerLen bytes) bytes

/-- The header's sum is all ones. -/
def ValidChecksum (bytes : Bytes) : Prop := Checksum.sum (bytes.take (headerLen bytes)) = 65535

/-- A version 4 packet whose lengths fit. -/
def WellFormed (bytes : Bytes) : Prop := version bytes = 4 ∧ 20 ≤ headerLen bytes ∧ checkLen bytes = true

instance (bytes : Bytes) : Decidable (WellFormed bytes) := inferInstanceAs (Decidable (_ ∧ _ ∧ _))

end Ipv4Packet

/-- What `Ipv4Repr` says of a header. -/
structure Ipv4Repr where
  srcAddr : Ipv4Addr
  dstAddr : Ipv4Addr
  nextHeader : UInt8
  payloadLen : Nat
  hopLimit : UInt8
  deriving DecidableEq, Repr

namespace Ipv4Repr

/-- `buffer_len`. -/
def bufferLen : Nat := 20

/-- The twenty bytes that `emit` writes, with this checksum: no options, no fragments. -/
def header (repr : Ipv4Repr) (c₁ c₂ : UInt8) : Bytes :=
  let totalLen := bufferLen + repr.payloadLen
  [0x45, 0, UInt8.ofNat (totalLen / 256), UInt8.ofNat totalLen, 0, 0, 0x40, 0, repr.hopLimit, repr.nextHeader, c₁, c₂,
    repr.srcAddr.a, repr.srcAddr.b, repr.srcAddr.c, repr.srcAddr.d,
    repr.dstAddr.a, repr.dstAddr.b, repr.dstAddr.c, repr.dstAddr.d]

/-- `emit` on a buffer that has room for the header, without the payload. -/
def emit (repr : Ipv4Repr) (bytes : Bytes) : Bytes :=
  Ipv4Packet.fillChecksum (repr.header 0 0 ++ bytes.drop bufferLen)

/-- The checksum of an emitted header is the only thing that `fill_checksum` changes. -/
theorem fillChecksum_header (repr : Ipv4Repr) (c₁ c₂ : UInt8) (payload : Bytes) :
    ∃ d₁ d₂, Ipv4Packet.fillChecksum (repr.header c₁ c₂ ++ payload) = repr.header d₁ d₂ ++ payload :=
  ⟨_, _, rfl⟩

theorem headerLen_header (repr : Ipv4Repr) (c₁ c₂ : UInt8) (payload : Bytes) :
    Ipv4Packet.headerLen (repr.header c₁ c₂ ++ payload) = bufferLen := by
  have hfirst : (repr.header c₁ c₂ ++ payload).getD 0 0 = 0x45 := rfl
  rw [Ipv4Packet.headerLen, hfirst]
  decide

theorem validChecksum_header (repr : Ipv4Repr) (c₁ c₂ : UInt8) (payload : Bytes) :
    Ipv4Packet.ValidChecksum (Ipv4Packet.fillChecksum (repr.header c₁ c₂ ++ payload)) := by
  have hroom : bufferLen ≤ (repr.header c₁ c₂ ++ payload).length := by
    rw [List.length_append]
    exact Nat.le_add_right 20 payload.length
  obtain ⟨d₁, d₂, hfill⟩ := fillChecksum_header repr c₁ c₂ payload
  rw [Ipv4Packet.ValidChecksum, hfill, headerLen_header, ← hfill, Ipv4Packet.fillChecksum, headerLen_header]
  exact Checksum.sum_fill (k := 5) hroom (by decide)

theorem totalLen_header (repr : Ipv4Repr) (c₁ c₂ : UInt8) (payload : Bytes) (hlen : bufferLen + repr.payloadLen < 65536) :
    Ipv4Packet.totalLen (repr.header c₁ c₂ ++ payload) = bufferLen + repr.payloadLen :=
  Checksum.word_ofNat hlen

section Emitted

variable {repr : Ipv4Repr} {payload : Bytes}

theorem payload_header (hpayload : repr.payloadLen = payload.length) (hlen : bufferLen + payload.length < 65536)
    (c₁ c₂ : UInt8) : Ipv4Packet.payload (repr.header c₁ c₂ ++ payload) = payload := by
  rw [Ipv4Packet.payload, headerLen_header, totalLen_header repr c₁ c₂ payload (by rwa [hpayload]), hpayload,
    List.take_of_length_le (by rw [List.length_append]; exact Nat.le_refl _)]
  rfl

theorem wellFormed_header (hpayload : repr.payloadLen = payload.length) (hlen : bufferLen + payload.length < 65536)
    (c₁ c₂ : UInt8) : Ipv4Packet.WellFormed (repr.header c₁ c₂ ++ payload) := by
  have hversion : Ipv4Packet.version (repr.header c₁ c₂ ++ payload) = (0x45 : UInt8).toNat / 16 := rfl
  have htotal : Ipv4Packet.totalLen (repr.header c₁ c₂ ++ payload) = bufferLen + payload.length := by
    rw [totalLen_header repr c₁ c₂ payload (by rwa [hpayload]), hpayload]
  have hlength : (repr.header c₁ c₂ ++ payload).length = bufferLen + payload.length := List.length_append
  rw [Ipv4Packet.WellFormed, Ipv4Packet.checkLen, hversion, headerLen_header, htotal, hlength]
  refine ⟨by decide, Nat.le_refl 20, decide_eq_true ⟨Nat.le_add_right 20 _, Nat.le_add_right _ _, Nat.le_add_right _ _, ?_⟩⟩
  exact Nat.le_refl _

end Emitted

end Ipv4Repr

namespace Icmpv4Packet

def msgType (bytes : Bytes) : UInt8 := bytes.getD 0 0

/-- `Icmpv4Message::EchoReply`. -/
def echoReply : UInt8 := 0

/-- `Icmpv4Message::EchoRequest`. -/
def echoRequest : UInt8 := 8

def msgCode (bytes : Bytes) : UInt8 := bytes.getD 1 0

def echoIdent (bytes : Bytes) : UInt16 := UInt16.ofNat (u16At 4 bytes)

def echoSeqNo (bytes : Bytes) : UInt16 := UInt16.ofNat (u16At 6 bytes)

/-- What follows the header of an echo message. -/
def data (bytes : Bytes) : Bytes := bytes.drop 8

def newChecked (bytes : Bytes) : Except String Bytes := if 8 ≤ bytes.length then .ok bytes else .error wireError

def setEchoIdent (ident : UInt16) (bytes : Bytes) : Bytes := setU16 4 ident.toNat bytes

def fillChecksum (bytes : Bytes) : Bytes := Checksum.fill 2 bytes.length bytes

def ValidChecksum (bytes : Bytes) : Prop := Checksum.sum bytes = 65535

/-- An echo message that has got another identifier: nothing else has changed, and the checksum is right. -/
structure Renamed (ident : UInt16) (bytes bytes' : Bytes) : Prop where
  length : bytes'.length = bytes.length
  msgType : msgType bytes' = msgType bytes
  msgCode : msgCode bytes' = msgCode bytes
  echoIdent : echoIdent bytes' = ident
  echoSeqNo : echoSeqNo bytes' = echoSeqNo bytes
  data : data bytes' = data bytes
  checksum : ValidChecksum bytes'

theorem renamed {bytes : Bytes} (hlen : 8 ≤ bytes.length) (ident : UInt16) :
    Renamed ident bytes (fillChecksum (setEchoIdent ident bytes)) where
  length := by simp [fillChecksum, setEchoIdent]
  msgType := by
    simp only [msgType, fillChecksum, setEchoIdent, Checksum.fill]
    iterate 3 rw [Checksum.getD_setU16_ne (by decide) (by decide)]
  msgCode := by
    simp only [msgCode, fillChecksum, setEchoIdent, Checksum.fill]
    iterate 3 rw [Checksum.getD_setU16_ne (by decide) (by decide)]
  echoIdent := by
    have hv : ident.toNat < 65536 := ident.toNat_lt
    simp only [echoIdent, fillChecksum, setEchoIdent, Checksum.fill]
    iterate 2 rw [Checksum.u16At_setU16_ne (by decide)]
    rw [Checksum.u16At_setU16_self (by omega) hv]
    exact UInt16.ofNat_toNat
  echoSeqNo := by
    simp only [echoSeqNo, fillChecksum, setEchoIdent, Checksum.fill]
    iterate 3 rw [Checksum.u16At_setU16_ne (by decide)]
  data := by
    simp only [data, fillChecksum, setEchoIdent, Checksum.fill]
    iterate 3 rw [Checksum.drop_setU16 (by decide)]
  checksum := by
    have hroom : 2 * 1 + 2 ≤ (setEchoIdent ident bytes).length := by
      simp only [setEchoIdent, Checksum.length_setU16]
      omega
    have hsum := Checksum.sum_fill (Nat.le_refl (setEchoIdent ident bytes).length) hroom
    rwa [List.take_of_length_le (Nat.le_of_eq (Checksum.length_fill ..))] at hsum

end Icmpv4Packet

end Easynet
