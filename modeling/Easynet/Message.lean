import Mathlib.Data.List.Basic
/-!
# Message — the protocol's messages

`proto/message.proto` as prost generates it, and the convenience constructors of `codec/codec.rs`.
-/
namespace Easynet

abbrev Bytes := List UInt8

structure TunConfig where
  name : String
  address : String
  netmask : String
  destination : String
  dns : List String
  mtu : UInt32
  deriving DecidableEq, Repr

structure Handshake where
  token : String
  sessionId : String
  tunConfig : Option TunConfig
  deriving DecidableEq, Repr

structure Data where
  payload : Bytes
  deriving DecidableEq, Repr

structure KeepAlive where
  timestamp : Int64
  deriving DecidableEq, Repr

structure Disconnect where
  reason : String
  deriving DecidableEq, Repr

/-- The `oneof` of a message. -/
inductive MessageType
  | handshake (handshake : Handshake)
  | data (data : Data)
  | keepalive (keepalive : KeepAlive)
  | disconnect (disconnect : Disconnect)
  deriving DecidableEq, Repr

structure Message where
  msg : Option MessageType
  deriving DecidableEq, Repr

namespace Message

def handshake (handshake : Handshake) : Message := ⟨some (.handshake handshake)⟩

def data (data : Data) : Message := ⟨some (.data data)⟩

def keepalive (keepalive : KeepAlive) : Message := ⟨some (.keepalive keepalive)⟩

end Message

end Easynet
