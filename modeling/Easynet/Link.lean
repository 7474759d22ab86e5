import Easynet.Lib.Pipe
import Easynet.Transports
/-!
# Link — one direction of a connection

What the tunnel needs of a transport is a link: messages are handed to `send` at one end and polled from `next` at the
other, and in between they wait, in order.  `Link` has this as its law, with the messages in between as a list.  `send` can
fail before it has taken the message on, and after that, when the peer may still get it.

`TcpTransport` and `WsTransport` are links.  Over TCP the messages in between are bytes, some of them not yet written, some
on the way, and some in the receiver's buffer, where a frame may be cut; over WebSocket they are binary messages, with any
others in between.
-/
namespace Easynet

open Drain (Pipe)

/-- What becomes of a message that is handed to `send`. -/
inductive SendResult
  | refused
  | lost
  | sent
  deriving DecidableEq, Repr

/-- `send` returns `Ok`. -/
def SendResult.ok : SendResult → Bool
  | .sent => true
  | _     => false

/-- The message is on the link. -/
def SendResult.taken : SendResult → Bool
  | .refused => false
  | _        => true

theorem SendResult.taken_of_ok {r : SendResult} (h : r.ok = true) : r.taken = true := by
  cases r with
  | sent => rfl
  | refused | lost => cases h

/-- What polling `next` gives: nothing yet, a message, or an error or the end of the stream. -/
inductive Polled
  | idle
  | message (msg : Message)
  | ended
  deriving DecidableEq, Repr

def Polled.msg : Polled → Option Message
  | .message msg => some msg
  | _            => none

/-- **One direction of a connection**, with what its environment decides and with the messages in between. -/
structure Link where
  State : Type
  Env : Type
  new : State
  send : State → Message → Env → SendResult × State
  poll : State → Env → Polled × State
  move : State → Env → State
  pending : State → List Message
  Good : State → Prop
  good_new : Good new
  pending_new : pending new = []
  send_spec : ∀ {s msg env r s'}, Good s → send s msg env = (r, s') →
    Good s' ∧ pending s' = pending s ++ (if r.taken then [msg] else [])
  poll_spec : ∀ {s env polled s'}, Good s → poll s env = (polled, s') →
    Good s' ∧ pending s = polled.msg.toList ++ pending s'
  move_spec : ∀ {s} env, Good s → Good (move s env) ∧ pending (move s env) = pending s

namespace Link

/-- The message, if `send` takes it on. -/
def accepted (L : Link) (s : L.State) (msg : Message) (env : L.Env) : Option Message :=
  if (L.send s msg env).1.taken then some msg else none

variable {L : Link} {s s' : L.State} {msg : Message} {env : L.Env} {r : SendResult}

theorem accepted_eq (h : L.send s msg env = (r, s')) : L.accepted s msg env = if r.taken then some msg else none := by
  rw [accepted, h]

theorem accepted_of_ok (h : L.send s msg env = (r, s')) (hok : r.ok = true) : L.accepted s msg env = some msg := by
  rw [accepted_eq h, if_pos (SendResult.taken_of_ok hok)]

/-- What is accepted is the message. -/
theorem accepted_cases (L : Link) (s : L.State) (msg : Message) (env : L.Env) :
    L.accepted s msg env = none ∨ L.accepted s msg env = some msg := by
  unfold accepted
  split
  · exact Or.inr rfl
  · exact Or.inl rfl

theorem send_accepted (hg : L.Good s) (h : L.send s msg env = (r, s')) :
    L.Good s' ∧ L.pending s' = L.pending s ++ (L.accepted s msg env).toList := by
  obtain ⟨hg', hp⟩ := L.send_spec hg h
  refine ⟨hg', ?_⟩
  rw [hp, accepted_eq h]
  cases r <;> rfl

end Link

/-- A failure of the connection: none, one at once, or one after the message was taken on. -/
inductive Fault
  | none
  | before
  | after
  deriving DecidableEq, Repr

/-! ## TCP -/

/-- One direction of a `Framed<TcpStream, ByteCodec>`. -/
abbrev TcpStream := Pipe ByteCodec UInt8

structure TcpEnv where
  fault : Fault
  bytes : Nat
  deriving DecidableEq, Repr

namespace TcpStream

variable (P : Prost)

/-- `framed.send`: the frame is appended to what has not been written, and all of it is written. -/
def send (s : TcpStream) (msg : Message) (env : TcpEnv) : SendResult × TcpStream :=
  if env.fault = .before then (.refused, s)
  else match ByteCodec.new.encode P msg s.unsent with
    | .error _ => (.refused, s)
    | .ok unsent =>
      let s : TcpStream := { s with unsent := unsent }
      if env.fault = .after then (.lost, s.flush env.bytes) else (.sent, s.flush unsent.length)

/-- `framed.next`, up to the next read of the socket. -/
def poll (s : TcpStream) (env : TcpEnv) : Polled × TcpStream :=
  if env.fault ≠ .none then (.ended, s)
  else match Pipe.poll (decoder P) s with
    | (.ok (some msg), s) => (.message msg, s)
    | (.ok none, s)       => (.idle, s)
    | (.error _, s)       => (.ended, s)

variable {P}

theorem send_spec (hP : P.RoundTrip) {s s' : TcpStream} {msg : Message} {env : TcpEnv} {r : SendResult}
    (hw : Pipe.Whole (decoder P) ByteCodec.new s) (h : send P s msg env = (r, s')) :
    Pipe.Whole (decoder P) ByteCodec.new s' ∧
      s'.pending (decoder P) = s.pending (decoder P) ++ (if r.taken then [msg] else []) := by
  have hrefused : (SendResult.refused, s) = (r, s') → Pipe.Whole (decoder P) ByteCodec.new s' ∧
      s'.pending (decoder P) = s.pending (decoder P) ++ (if r.taken then [msg] else []) := by
    rintro he
    cases he
    exact ⟨hw, (List.append_nil _).symm⟩
  unfold send at h
  split at h
  · exact hrefused h
  split at h
  · exact hrefused h
  · rename_i unsent henc
    obtain ⟨hlen, rfl⟩ := encode_ok henc
    -- the frame is whole, so it is one more message
    have hmax : (P.encodeToVec msg).length ≤ ByteCodec.new.maxFrameSize := by omega
    have hframe : (decoder P).decode ByteCodec.new (frame (P.encodeToVec msg)) = (.ok (some msg), ByteCodec.new, []) := by
      have := decode_frame P ByteCodec.new (P.encodeToVec msg) [] rfl (Nat.lt_of_le_of_lt hmax (by decide)) hmax
      rw [List.append_nil, ByteCodec.answer, hP msg] at this
      exact this
    obtain ⟨hw', hp'⟩ := Pipe.whole_push (decoder_incremental P) (settled_head P ByteCodec.new rfl) hw hframe
    simp only at h
    split at h
    · cases h
      exact ⟨(hw'.flush env.bytes).1, (hw'.flush env.bytes).2.trans hp'⟩
    · cases h
      exact ⟨(hw'.flush _).1, (hw'.flush _).2.trans hp'⟩

theorem poll_spec {s s' : TcpStream} {env : TcpEnv} {polled : Polled}
    (hw : Pipe.Whole (decoder P) ByteCodec.new s) (h : poll P s env = (polled, s')) :
    Pipe.Whole (decoder P) ByteCodec.new s' ∧ s.pending (decoder P) = polled.msg.toList ++ s'.pending (decoder P) := by
  unfold poll at h
  split at h
  · cases h
    exact ⟨hw, rfl⟩
  · cases hpoll : Pipe.poll (decoder P) s with
    | mk answer t =>
      obtain ⟨hw', item, rfl, hp⟩ := Pipe.whole_poll (decoder_incremental P) hw hpoll
      rw [hpoll] at h
      cases item <;> cases h <;> exact ⟨hw', hp⟩

end TcpStream

/-- **TCP is a link**, however its bytes are cut. -/
def tcpLink (P : Prost) (hP : P.RoundTrip) : Link where
  State := TcpStream
  Env := TcpEnv
  new := Pipe.new ByteCodec.new
  send := TcpStream.send P
  poll := TcpStream.poll P
  move s env := s.arrive env.bytes
  pending := Pipe.pending (decoder P)
  Good := Pipe.Whole (decoder P) ByteCodec.new
  good_new := (Pipe.whole_new (settled_head P ByteCodec.new rfl)).1
  pending_new := (Pipe.whole_new (settled_head P ByteCodec.new rfl)).2
  send_spec := TcpStream.send_spec hP
  poll_spec := TcpStream.poll_spec
  move_spec env hw := hw.arrive env.bytes

/-! ## WebSocket -/

/-- One direction of a `WebSocketStream`: the messages on it, oldest first. -/
abbrev WsStream := List WsMessage

/-- With the message that a peer or a proxy puts in between, and its place. -/
structure WsEnv where
  fault : Fault
  other : WsMessage
  place : Nat
  deriving DecidableEq, Repr

namespace WsStream

variable (P : Prost)

def send (s : WsStream) (msg : Message) (env : WsEnv) : SendResult × WsStream :=
  match env.fault with
  | .before => (.refused, s)
  | .after  => (.lost, s ++ [.binary (P.encodeToVec msg)])
  | .none   => (.sent, s ++ [.binary (P.encodeToVec msg)])

/-- One round of the loop of `WsTransport::next`. -/
def poll (s : WsStream) (env : WsEnv) : Polled × WsStream :=
  if env.fault ≠ .none then (.ended, s)
  else match s with
    | [] => (.idle, [])
    | .binary bytes :: s =>
      match P.decode bytes with
      | .ok msg  => (.message msg, s)
      | .error _ => (.ended, s)
    | _ :: s => (.idle, s)

/-- A message that is not binary comes in between. -/
def move (s : WsStream) (env : WsEnv) : WsStream :=
  match env.other.binary? with
  | some _ => s
  | none   => s.take env.place ++ env.other :: s.drop env.place

/-- The message that a binary message decodes to. -/
def decoded (message : WsMessage) : Option Message := message.binary?.bind (fun bytes => (P.decode bytes).toOption)

/-- Every binary message decodes. -/
def Good (s : WsStream) : Prop := ∀ message ∈ s, ∀ bytes, message.binary? = some bytes → (decoded P message).isSome = true

variable {P}

theorem decoded_binary (hP : P.RoundTrip) (msg : Message) : decoded P (.binary (P.encodeToVec msg)) = some msg := by
  show (P.decode (P.encodeToVec msg)).toOption = some msg
  rw [hP msg]
  rfl

theorem good_snoc (hP : P.RoundTrip) {s : WsStream} (hg : Good P s) (msg : Message) :
    Good P (s ++ [WsMessage.binary (P.encodeToVec msg)]) ∧
      (s ++ [WsMessage.binary (P.encodeToVec msg)]).filterMap (decoded P) = s.filterMap (decoded P) ++ [msg] := by
  refine ⟨fun message hm bytes hb => ?_, ?_⟩
  · rcases List.mem_append.1 hm with hm | hm
    · exact hg message hm bytes hb
    · rw [List.mem_singleton.1 hm, decoded_binary hP]
      rfl
  · rw [List.filterMap_append, List.filterMap_cons_some (decoded_binary hP msg), List.filterMap_nil]

theorem send_spec (hP : P.RoundTrip) {s s' : WsStream} {msg : Message} {env : WsEnv} {r : SendResult} (hg : Good P s)
    (h : send P s msg env = (r, s')) : Good P s' ∧
      s'.filterMap (decoded P) = s.filterMap (decoded P) ++ (if r.taken then [msg] else []) := by
  unfold send at h
  split at h
  · cases h
    exact ⟨hg, (List.append_nil _).symm⟩
  · cases h
    exact good_snoc hP hg msg
  · cases h
    exact good_snoc hP hg msg

theorem poll_spec {s s' : WsStream} {env : WsEnv} {polled : Polled} (hg : Good P s) (h : poll P s env = (polled, s')) :
    Good P s' ∧ s.filterMap (decoded P) = polled.msg.toList ++ s'.filterMap (decoded P) := by
  unfold poll at h
  split at h
  · cases h
    exact ⟨hg, rfl⟩
  split at h
  · cases h
    exact ⟨hg, rfl⟩
  · rename_i bytes s
    have hrest : Good P s := fun message hm => hg message (List.mem_cons_of_mem _ hm)
    have hsome := hg _ List.mem_cons_self bytes rfl
    split at h
    · rename_i msg hdec
      cases h
      have hd : decoded P (.binary bytes) = some msg := by
        show (P.decode bytes).toOption = some msg
        rw [hdec]
        rfl
      exact ⟨hrest, List.filterMap_cons_some hd⟩
    · -- every binary message decodes
      rename_i hdec
      replace hsome : (P.decode bytes).toOption.isSome = true := hsome
      rw [hdec] at hsome
      cases hsome
  · rename_i message s hne
    cases h
    have hb : message.binary? = none := by
      cases message with
      | binary bytes => exact absurd rfl (hne bytes)
      | text _ | ping _ | pong _ | close => rfl
    refine ⟨fun m hm => hg m (List.mem_cons_of_mem _ hm), ?_⟩
    rw [List.filterMap_cons_none (by rw [decoded, hb]; rfl)]
    rfl

theorem move_spec {s : WsStream} (env : WsEnv) (hg : Good P s) :
    Good P (move s env) ∧ (move s env).filterMap (decoded P) = s.filterMap (decoded P) := by
  unfold move
  split
  · exact ⟨hg, rfl⟩
  · rename_i hb
    refine ⟨fun message hm bytes hbin => ?_, ?_⟩
    · rcases List.mem_append.1 hm with hm | hm
      · exact hg message (List.mem_of_mem_take hm) bytes hbin
      · rcases List.mem_cons.1 hm with rfl | hm
        · cases hb.symm.trans hbin
        · exact hg message (List.mem_of_mem_drop hm) bytes hbin
    · rw [List.filterMap_append, List.filterMap_cons_none (by rw [decoded, hb]; rfl), ← List.filterMap_append,
        List.take_append_drop]

end WsStream

/-- **WebSocket is a link**, whatever other messages come in between. -/
def wsLink (P : Prost) (hP : P.RoundTrip) : Link where
  State := WsStream
  Env := WsEnv
  new := []
  send := WsStream.send P
  poll := WsStream.poll P
  move := WsStream.move
  pending := List.filterMap (WsStream.decoded P)
  Good := WsStream.Good P
  good_new := fun _ hm => absurd hm List.not_mem_nil
  pending_new := rfl
  send_spec := WsStream.send_spec hP
  poll_spec := WsStream.poll_spec
  move_spec := WsStream.move_spec

end Easynet
