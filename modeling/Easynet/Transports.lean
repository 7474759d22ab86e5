import Easynet.UdpFramed
/-!
# Transports — what `next` answers over TCP and over WebSocket

Both transports implement one trait.  Over TCP `next` is that of a `Framed` stream: a body that prost refuses is the
decoder's error.  Over WebSocket it takes the next binary message and turns prost's error into an `Option` by `ok`, so
that the same body is reported as the end of the stream.  Up to there the results are the same, for every way to cut the
bytes and with any other messages in between (`sameResults_iff`).
-/
namespace Easynet

/-- What `TransportTrait::next` answers: a message with its sender, an error, or the end of the stream. -/
abbrev NextResult := Option (Except IoError (Message × SocketAddr))

/-! ## TCP -/

/-- tokio-util's `Framed` on its reading side, with the reads that the socket will give before it is closed. -/
structure Framed where
  codec : ByteCodec
  buffer : Bytes
  incoming : List Bytes
  deriving DecidableEq

/-- `Framed::next`: the buffer is decoded, and read into whenever the codec asks for more. -/
def Framed.next (P : Prost) (framed : Framed) : Option (Except IoError Message) × Framed :=
  let (answer, codec, buffer, incoming) := Drain.next (decoder P) (decodeEof P) framed.codec framed.buffer framed.incoming
  let result := match answer with
    | .ok none     => none
    | .ok (some m) => some (.ok m)
    | .error e     => some (.error e)
  (result, ⟨codec, buffer, incoming⟩)

def TcpTransport.next (P : Prost) (peerAddr : SocketAddr) (framed : Framed) : NextResult × Framed :=
  let (result, framed) := framed.next P
  (result.map (fun r => r.map (fun msg => (msg, peerAddr))), framed)

/-! ## WebSocket -/

/-- What a WebSocket stream yields. -/
inductive WsMessage
  | text (text : String)
  | binary (bytes : Bytes)
  | ping (bytes : Bytes)
  | pong (bytes : Bytes)
  | close
  deriving DecidableEq, Repr

def WsMessage.binary? : WsMessage → Option Bytes
  | .binary bytes => some bytes
  | _             => none

/-- The loop of `WsTransport::next`, over what the stream will yield before it ends. -/
def WsTransport.next (P : Prost) (peerAddr : SocketAddr) :
    List (Except String WsMessage) → NextResult × List (Except String WsMessage)
  | []                              => (none, [])
  | .ok (.binary bytes) :: wsStream =>
    -- `map_err(..).ok()`: the error is made and dropped
    let decoded := match P.decode bytes with
      | .ok msg  => Except.ok (Except.ok (msg, peerAddr))
      | .error e => Except.error (IoError.mk .invalidData e)
    (decoded.toOption, wsStream)
  | .ok _ :: wsStream               => WsTransport.next P peerAddr wsStream
  | .error e :: wsStream            => (some (.error ⟨.brokenPipe, e⟩), wsStream)

/-! ## Successive calls -/

/-- The results of `n` calls, or of fewer: up to and including the first that is no message. -/
def results {σ : Type} (next : σ → NextResult × σ) : Nat → σ → List NextResult
  | 0, _     => []
  | n + 1, s =>
    match next s with
    | (some (.ok msg), s') => some (.ok msg) :: results next n s'
    | (result, _)          => [result]

/-- The same message, or two errors, or two ends. -/
def SameResult : NextResult → NextResult → Prop
  | some (.ok msg), some (.ok msg')  => msg = msg'
  | some (.error _), some (.error _) => True
  | none, none                       => True
  | _, _                             => False

/-- The results of receiving bodies, where `refused` is made of a body that prost refuses. -/
def receivedBodies (P : Prost) (peerAddr : SocketAddr) (refused : String → NextResult) :
    Nat → List Bytes → List NextResult
  | 0, _                  => []
  | _ + 1, []             => [none]
  | n + 1, body :: bodies =>
    match P.decode body with
    | .ok msg  => some (.ok (msg, peerAddr)) :: receivedBodies P peerAddr refused n bodies
    | .error e => [refused e]

section Received

variable {P : Prost} {peerAddr : SocketAddr}

/-- **One call over TCP**, at a header: the next frame's body is decoded, whatever reads it comes in. -/
theorem TcpTransport.next_frame {c : ByteCodec} (hs : c.state = .head) {buffer : Bytes} {incoming : List Bytes}
    {body rest : Bytes} (hu32 : body.length < 2 ^ 32) (hmax : body.length ≤ c.maxFrameSize)
    (h : buffer ++ incoming.flatten = frame body ++ rest) :
    ∃ buffer' incoming', buffer' ++ incoming'.flatten = rest ∧
      TcpTransport.next P peerAddr ⟨c, buffer, incoming⟩ =
        (match P.decode body with
          | .ok msg  => some (.ok (msg, peerAddr))
          | .error e => some (.error ⟨.invalidData, e⟩), ⟨c, buffer', incoming'⟩) := by
  have hdec : (decoder P).decode c (buffer ++ incoming.flatten) = (ByteCodec.answer P body, c, rest) := by
    rw [h]
    exact decode_frame P c body rest hs hu32 hmax
  obtain ⟨buffer', incoming', hnext, hrest⟩ := Drain.next_of_answer (decoder_incremental P) decodeEof_of_answer
    (ByteCodec.answer_ne_more body) incoming c buffer hdec
  refine ⟨buffer', incoming', hrest, ?_⟩
  simp only [TcpTransport.next, Framed.next, hnext, ByteCodec.answer]
  cases P.decode body <;> rfl

theorem TcpTransport.next_end {c : ByteCodec} (hs : c.state = .head) {incoming : List Bytes}
    (h : incoming.flatten = []) : TcpTransport.next P peerAddr ⟨c, [], incoming⟩ = (none, ⟨c, [], []⟩) := by
  have hmore : c.decode P [] = (.ok none, c, []) := settled_head P c hs
  have hnext := Drain.next_of_end (settled_head P c hs) (decodeEof_of_more hmore) incoming h
  simp only [TcpTransport.next, Framed.next, hnext]
  rfl

/-- **TCP reports an error at a refused body.**  The induction is on the calls; between them the codec is at a header. -/
theorem tcp_results {c : ByteCodec} (hs : c.state = .head) : ∀ (n : Nat) (bodies : List Bytes) (buffer : Bytes)
    (incoming : List Bytes), (∀ b ∈ bodies, b.length < 2 ^ 32 ∧ b.length ≤ c.maxFrameSize) →
      buffer ++ incoming.flatten = bodies.flatMap frame →
      results (TcpTransport.next P peerAddr) n ⟨c, buffer, incoming⟩ =
        receivedBodies P peerAddr (fun e => some (.error ⟨.invalidData, e⟩)) n bodies
  | 0, _, _, _, _, _ => rfl
  | n + 1, [], buffer, incoming, _, hcut => by
    obtain ⟨rfl, hin⟩ := List.append_eq_nil_iff.1 hcut
    rw [results, TcpTransport.next_end hs hin]
    rfl
  | n + 1, body :: bodies, buffer, incoming, hlen, hcut => by
    obtain ⟨hu32, hmax⟩ := hlen body List.mem_cons_self
    obtain ⟨buffer', incoming', hrest, hnext⟩ := TcpTransport.next_frame hs hu32 hmax hcut
    rw [results, hnext, receivedBodies]
    cases P.decode body with
    | error e => rfl
    | ok msg =>
      simp only
      rw [tcp_results hs n bodies buffer' incoming' (fun b hb => hlen b (List.mem_cons_of_mem _ hb)) hrest]

/-- The loop skips what is no binary message. -/
theorem WsTransport.next_of_binary? {message : WsMessage} (h : message.binary? = none)
    (wsStream : List (Except String WsMessage)) :
    WsTransport.next P peerAddr (.ok message :: wsStream) = WsTransport.next P peerAddr wsStream := by
  cases message with
  | binary bytes => cases h
  | text _ | ping _ | pong _ | close => rfl

/-- **WebSocket reports the end of the stream at a refused body.** -/
theorem ws_results : ∀ (n : Nat) (messages : List WsMessage),
    results (WsTransport.next P peerAddr) n (messages.map .ok) =
      receivedBodies P peerAddr (fun _ => none) n (messages.filterMap WsMessage.binary?)
  | 0, _ => rfl
  | n + 1, [] => rfl
  | n + 1, message :: messages => by
    cases hb : message.binary? with
    | none =>
      have ih := ws_results (n + 1) messages
      rw [results] at ih
      rw [results, List.map_cons, WsTransport.next_of_binary? hb, List.filterMap_cons_none hb, ih]
    | some bytes =>
      have hbin : message = .binary bytes := by
        cases message with
        | binary _ => cases hb; rfl
        | text _ | ping _ | pong _ | close => cases hb
      subst hbin
      rw [results, List.map_cons, List.filterMap_cons_some hb, receivedBodies, WsTransport.next]
      cases P.decode bytes with
      | error e => rfl
      | ok msg => simp only [Except.toOption]; rw [ws_results n messages]

/-- Two receivers that differ at a refused body differ exactly if there is one. -/
theorem receivedBodies_same_iff (peerAddr : SocketAddr) {refused refused' : String → NextResult}
    (hne : ∀ e, ¬ SameResult (refused e) (refused' e)) : ∀ bodies : List Bytes,
      (∀ n, List.Forall₂ SameResult (receivedBodies P peerAddr refused n bodies)
        (receivedBodies P peerAddr refused' n bodies)) ↔
        ∀ body ∈ bodies, ∃ msg, P.decode body = .ok msg
  | [] => by
    refine iff_of_true (fun n => ?_) (fun body hm => absurd hm List.not_mem_nil)
    cases n with
    | zero => exact .nil
    | succ n => exact .cons trivial .nil
  | body :: bodies => by
    have ih := receivedBodies_same_iff peerAddr hne bodies
    rw [List.forall_mem_cons, ← ih]
    constructor
    · intro h
      cases hd : P.decode body with
      | error e =>
        have h1 := h 1
        simp only [receivedBodies, hd] at h1
        exact absurd (List.forall₂_cons.1 h1).1 (hne e)
      | ok msg =>
        refine ⟨⟨msg, rfl⟩, fun n => ?_⟩
        have hn := h (n + 1)
        simp only [receivedBodies, hd] at hn
        exact (List.forall₂_cons.1 hn).2
    · rintro ⟨⟨msg, hmsg⟩, h⟩ n
      cases n with
      | zero => exact .nil
      | succ n =>
        simp only [receivedBodies, hmsg]
        exact .cons rfl (h n)

end Received

/-- **The two transports report the same results, up to the first failure, exactly if prost accepts every body.**  The
bodies come as frames cut into any reads, and as binary messages with any others in between. -/
theorem sameResults_iff (P : Prost) (peerAddr : SocketAddr) (bodies : List Bytes)
    (hsize : ∀ body ∈ bodies, body.length ≤ defaultMaxFrameSize) (incoming : List Bytes)
    (hcut : incoming.flatten = bodies.flatMap frame) (messages : List WsMessage)
    (hbinary : messages.filterMap WsMessage.binary? = bodies) :
    (∀ n, List.Forall₂ SameResult (results (TcpTransport.next P peerAddr) n ⟨.new, [], incoming⟩)
      (results (WsTransport.next P peerAddr) n (messages.map .ok))) ↔
      ∀ body ∈ bodies, ∃ msg, P.decode body = .ok msg := by
  have hlen : ∀ body ∈ bodies, body.length < 2 ^ 32 ∧ body.length ≤ ByteCodec.new.maxFrameSize := by
    intro body hb
    exact ⟨Nat.lt_of_le_of_lt (hsize body hb) (by decide), hsize body hb⟩
  -- an error is never the same as an end
  have hdiffer : ∀ e, ¬ SameResult (some (.error ⟨.invalidData, e⟩)) none := fun e h => h
  rw [← receivedBodies_same_iff peerAddr hdiffer]
  refine forall_congr' (fun n => ?_)
  rw [tcp_results rfl n bodies [] incoming hlen hcut, ws_results n messages, hbinary]

/-- A keepalive, cut in its header, and over WebSocket after a ping. -/
theorem sameResults_iff_keepalive :
    (∀ n, List.Forall₂ SameResult
      (results (TcpTransport.next proto (.v4 (.new 192 0 2 1) 40000)) n ⟨.new, [], [[4, 0], [0, 0, 26, 2, 8, 1]]⟩)
      (results (WsTransport.next proto (.v4 (.new 192 0 2 1) 40000)) n [.ok (.ping []), .ok (.binary [26, 2, 8, 1])])) ↔
      ∀ body ∈ [[26, 2, 8, 1]], ∃ msg, proto.decode body = .ok msg :=
  sameResults_iff proto (.v4 (.new 192 0 2 1) 40000) [[26, 2, 8, 1]] (by decide) [[4, 0], [0, 0, 26, 2, 8, 1]]
    (by decide) [.ping [], .binary [26, 2, 8, 1]] (by decide)

/-- One byte that is no message: an error over TCP, a clean end over WebSocket. -/
theorem refused_body_ends_ws :
    [[1, 0, 0, 0, 0]].flatten = [[0]].flatMap frame ∧
    results (TcpTransport.next proto (.v4 (.new 192 0 2 1) 40000)) 1 ⟨.new, [], [[1, 0, 0, 0, 0]]⟩ =
      [some (.error ⟨.invalidData, "failed to decode Protobuf message"⟩)] ∧
    results (WsTransport.next proto (.v4 (.new 192 0 2 1) 40000)) 1 [.ok (.binary [0])] = [none] ∧
    ¬ List.Forall₂ SameResult
      (results (TcpTransport.next proto (.v4 (.new 192 0 2 1) 40000)) 1 ⟨.new, [], [[1, 0, 0, 0, 0]]⟩)
      (results (WsTransport.next proto (.v4 (.new 192 0 2 1) 40000)) 1 [.ok (.binary [0])]) := by
  have htcp : results (TcpTransport.next proto (.v4 (.new 192 0 2 1) 40000)) 1 ⟨.new, [], [[1, 0, 0, 0, 0]]⟩ =
      [some (.error ⟨.invalidData, "failed to decode Protobuf message"⟩)] := by decide +kernel
  have hws : results (WsTransport.next proto (.v4 (.new 192 0 2 1) 40000)) 1 [.ok (.binary [0])] = [none] := by
    decide +kernel
  refine ⟨by decide, htcp, hws, ?_⟩
  rw [htcp, hws]
  exact fun h => (List.forall₂_cons.1 h).1

end Easynet
