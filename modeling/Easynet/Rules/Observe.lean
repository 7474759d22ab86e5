import Easynet.Rules.Context
import Easynet.Rules.DomainCache
/-!
# Observe — the names in DNS responses

`DomainCache::observe_packet` looks for a DNS response in a packet and inserts the name of every A record of its answers,
with the record's ttl.  The queried name is not looked at, and CNAME records are passed over: an address is known under the
name that its A record has, which is the last alias and not the name that was asked for.

`hickory_proto` decodes the payload, and is a parameter; `Hickory.plain` decodes messages whose names are ASCII.  The clock
is read at every insert.
-/
namespace Easynet

open Checksum (u16At)
open Machine (exec)

inductive RData
  | a (addr : Ipv4Addr)
  | cname (target : String)
  | other
  deriving DecidableEq, Repr

/-- A resource record, with the text of its name and its ttl in seconds. -/
structure Record where
  name : String
  ttl : UInt32
  data : RData
  deriving DecidableEq, Repr

inductive DnsMessageType
  | query
  | response
  deriving DecidableEq, Repr

structure DnsMessage where
  messageType : DnsMessageType
  queries : List String
  answers : List Record
  deriving DecidableEq, Repr

/-- `Message::from_vec`, without the error. -/
structure Hickory where
  fromVec : Bytes → Option DnsMessage

/-! ## Messages on the wire -/

namespace DnsWire

/-- The labels of the name at `pos`, and where the message goes on behind it.  A pointer continues the name at an earlier
place; `fuel` bounds the labels and pointers that are followed. -/
def readLabels (message : Bytes) : Nat → Nat → Option (List Bytes × Nat)
  | 0, _ => none
  | fuel + 1, pos =>
    match message.drop pos with
    | [] => none
    | len :: rest =>
      if len = 0 then some ([], pos + 1)
      else if len < 64 then
        if len.toNat ≤ rest.length then
          (readLabels message fuel (pos + 1 + len.toNat)).map (fun r => (rest.take len.toNat :: r.1, r.2))
        else none
      else if 192 ≤ len ∧ rest ≠ [] ∧ u16At pos message - 0xc000 < pos then
        (readLabels message fuel (u16At pos message - 0xc000)).map (fun r => (r.1, pos + 2))
      else none

/-- The text of a name, as `to_utf8` gives it: every label with a dot behind it. -/
def nameText : List Bytes → String
  | []     => "."
  | labels => String.join (labels.map (fun label => String.ofList (label.map (fun b => Char.ofNat b.toNat)) ++ "."))

def readName (message : Bytes) (pos : Nat) : Option (String × Nat) :=
  (readLabels message (message.length + 1) pos).map (fun r => (nameText r.1, r.2))

/-- A query: its name, type and class. -/
def readQuery (message : Bytes) (pos : Nat) : Option (String × Nat) :=
  (readName message pos).bind (fun r => if r.2 + 4 ≤ message.length then some (r.1, r.2 + 4) else none)

/-- The data of a record, by its type and length. -/
def readData (message : Bytes) (type len pos : Nat) : Option RData :=
  if type = 1 then
    match (message.drop pos).take len with
    | [a, b, c, d] => some (.a ⟨a, b, c, d⟩)
    | _            => none
  else if type = 5 then (readName message pos).map (fun r => .cname r.1)
  else some .other

/-- A record: its name, type, class, ttl and data. -/
def readRecord (message : Bytes) (pos : Nat) : Option (Record × Nat) :=
  (readName message pos).bind (fun r =>
    let len := u16At (r.2 + 8) message
    let ttl := UInt32.ofNat (u16At (r.2 + 4) message * 65536 + u16At (r.2 + 6) message)
    if r.2 + 10 + len ≤ message.length then
      (readData message (u16At r.2 message) len (r.2 + 10)).map (fun data => (⟨r.1, ttl, data⟩, r.2 + 10 + len))
    else none)

/-- So many of them, one after the other. -/
def readMany {α : Type} (read : Nat → Option (α × Nat)) : Nat → Nat → Option (List α × Nat)
  | 0, pos     => some ([], pos)
  | n + 1, pos =>
    (read pos).bind (fun r => (readMany read n r.2).map (fun rs => (r.1 :: rs.1, rs.2)))

end DnsWire

open DnsWire in
/-- The header with its counts, the queries, the answers, and the records that are not looked at. -/
def Hickory.plain : Hickory where
  fromVec message :=
    if message.length < 12 then none
    else do
      let (queries, pos) ← readMany (readQuery message) (u16At 4 message) 12
      let (answers, pos) ← readMany (readRecord message) (u16At 6 message) pos
      let _ ← readMany (readRecord message) (u16At 8 message + u16At 10 message) pos
      return ⟨if message.getD 2 0 < 128 then .query else .response, queries, answers⟩

/-! ## The loop over the answers -/

/-- `Duration::from_secs`, in nanoseconds. -/
def fromSecs (secs : UInt32) : Nat := secs.toNat * 1000000000

def dnsResponsePayload (etherparse : Etherparse) (packet : Bytes) : Option Bytes :=
  match etherparse.fromIp packet with
  | none => none
  | some sliced =>
    match sliced.transport with
    | some (.udp sourcePort _ payload) => if sourcePort ≠ 53 then none else some payload
    | _                                => none

namespace DomainCache

/-- The loop of `observe_packet` over the answers, each with the time at which the loop comes to it. -/
def observeAnswers (lastInstant : Nat) : List (Nat × Record) → DomainCache → Option DomainCache
  | [], cache                       => some cache
  | (now, answer) :: answers, cache =>
    match answer.data with
    | .a addr =>
      (cache.insert lastInstant now addr answer.name (fromSecs answer.ttl)).bind (observeAnswers lastInstant answers)
    | _       => observeAnswers lastInstant answers cache

/-- The answers of a message with the times at which the loop comes to them. -/
def timed (clock : Nat → Nat) (answers : List Record) : List (Nat × Record) :=
  answers.mapIdx (fun i answer => (clock i, answer))

/-- `observe_packet`, or `none` if it panics; `clock i` is the time at which the loop comes to answer `i`. -/
def observePacket (etherparse : Etherparse) (hickory : Hickory) (lastInstant : Nat) (clock : Nat → Nat)
    (cache : DomainCache) (packet : Bytes) : Option DomainCache :=
  match dnsResponsePayload etherparse packet with
  | none => some cache
  | some payload =>
    match hickory.fromVec payload with
    | none => some cache
    | some message =>
      if message.messageType ≠ .response then some cache
      else observeAnswers lastInstant (timed clock message.answers) cache

/-! ## Observing is inserting -/

/-- What the loop does with an answer. -/
def observed : Nat × Record → Option (Nat × CacheOp)
  | (now, ⟨name, ttl, .a addr⟩) => some (now, .insert addr name (fromSecs ttl))
  | _                           => none

theorem observeAnswers_eq (lastInstant : Nat) (answers : List (Nat × Record)) : observeAnswers lastInstant answers =
    fun cache => exec (apply lastInstant) cache (answers.filterMap observed) := by
  induction answers with
  | nil => rfl
  | cons p answers ih =>
    funext cache
    obtain ⟨now, name, ttl, data⟩ := p
    cases data with
    | a addr =>
      have hcons : observeAnswers lastInstant ((now, ⟨name, ttl, .a addr⟩) :: answers) cache =
          (apply lastInstant cache (now, .insert addr name (fromSecs ttl))).bind (observeAnswers lastInstant answers) := rfl
      rw [hcons, ih]
      rfl
    | cname target | other =>
      rw [observeAnswers, ih]
      rfl

/-- The time and the ttl of an A record of the address under this name, unless the ttl is zero. -/
def answerFor (ip : Ipv4Addr) (name : String) : Nat × Record → Option (Nat × Nat)
  | (now, ⟨raw, ttl, .a addr⟩) =>
    if addr = ip ∧ ttl ≠ 0 ∧ normalizeDomain raw = some name then some (now, fromSecs ttl) else none
  | _ => none

theorem fromSecs_ne_zero {ttl : UInt32} : fromSecs ttl ≠ 0 ↔ ttl ≠ 0 := by
  have hzero : ttl.toNat = 0 ↔ ttl = 0 := ⟨fun h => UInt32.toNat_inj.1 h, fun h => h ▸ rfl⟩
  unfold fromSecs
  rw [Ne, Ne, ← hzero]
  omega

theorem inserted_observed (ip : Ipv4Addr) (name : String) (p : Nat × Record) :
    (observed p).bind (inserted ip name) = answerFor ip name p := by
  obtain ⟨now, raw, ttl, data⟩ := p
  cases data with
  | a addr =>
    show (if addr = ip ∧ fromSecs ttl ≠ 0 ∧ _ then _ else _ : Option (Nat × Nat)) = if _ then _ else _
    simp only [fromSecs_ne_zero]
  | cname target => rfl
  | other => rfl

theorem filterMap_observed (ip : Ipv4Addr) (name : String) (answers : List (Nat × Record)) :
    (answers.filterMap observed).filterMap (inserted ip name) = answers.filterMap (answerFor ip name) := by
  rw [List.filterMap_filterMap]
  exact List.filterMap_congr (fun p _ => inserted_observed ip name p)

theorem answer_mem_iff {lastInstant : Nat} {ops : List (Nat × CacheOp)} {now : Nat}
    (htimes : ops.Pairwise (fun a b => a.1 ≤ b.1)) (hnow : ∀ op ∈ ops, op.1 ≤ now) {ip : Ipv4Addr} {name : String} :
    (∃ domains, answer lastInstant ops now ip = some domains ∧ name ∈ domains) ↔
      (∀ op ∈ ops, Fits lastInstant op) ∧ Live ops ip name now := by
  rw [← @answer_isSome lastInstant ops now ip]
  constructor
  · rintro ⟨domains, ha, hm⟩
    exact ⟨⟨domains, ha⟩, ((answer_live htimes hnow ha).2 name).1 hm⟩
  · rintro ⟨⟨domains, ha⟩, hlive⟩
    exact ⟨domains, ha, ((answer_live htimes hnow ha).2 name).2 hlive⟩

/-- A look-up after further operations. -/
theorem lookup_after {lastInstant : Nat} {before ops : List (Nat × CacheOp)} {cache : DomainCache}
    (hbefore : exec (apply lastInstant) new before = some cache) {now : Nat} {ip : Ipv4Addr} {name : String} :
    (∃ cache', exec (apply lastInstant) cache ops = some cache' ∧ name ∈ (cache'.lookup now ip).1) ↔
      ∃ domains, answer lastInstant (before ++ ops) now ip = some domains ∧ name ∈ domains := by
  rw [answer, Machine.exec_append, hbefore, Option.bind_some]
  simp only [Option.map_eq_some_iff]
  constructor
  · rintro ⟨cache', he, hm⟩
    exact ⟨_, ⟨cache', he, rfl⟩, hm⟩
  · rintro ⟨_, ⟨cache', he, rfl⟩, hm⟩
    exact ⟨cache', he, hm⟩

/-- The later operations decide, if they insert the name at all. -/
theorem live_append {before ops : List (Nat × CacheOp)} {ip : Ipv4Addr} {name : String} {now : Nat} :
    Live (before ++ ops) ip name now ↔
      Live ops ip name now ∨ (ops.filterMap (inserted ip name) = [] ∧ Live before ip name now) := by
  unfold Live
  rw [List.filterMap_append, List.getLast?_append]
  cases hlast : (ops.filterMap (inserted ip name)).getLast? with
  | none => simp [List.getLast?_eq_none_iff.1 hlast]
  | some q =>
    have hne : ops.filterMap (inserted ip name) ≠ [] := by
      intro he
      rw [he] at hlast
      cases hlast
    simp [hne]

section Observed

variable {clock : Nat → Nat}

theorem time_of_mem_timed {answers : List Record} {p : Nat × Record} (hp : p ∈ timed clock answers) :
    ∃ i, i < answers.length ∧ p.1 = clock i := by
  obtain ⟨i, hi, rfl⟩ := List.mem_mapIdx.1 hp
  exact ⟨i, hi, rfl⟩

theorem time_of_observed {p : Nat × Record} {op : Nat × CacheOp} (h : observed p = some op) : op.1 = p.1 := by
  obtain ⟨now, name, ttl, data⟩ := p
  cases data with
  | a addr => cases h; rfl
  | cname target | other => cases h

theorem pairwise_observed (answers : List Record) (hmono : ∀ i j, i ≤ j → clock i ≤ clock j) :
    ((timed clock answers).filterMap observed).Pairwise (fun a b => a.1 ≤ b.1) := by
  have htimed : (timed clock answers).Pairwise (fun a b => a.1 ≤ b.1) := by
    refine List.pairwise_iff_getElem.2 (fun i j hi hj hij => ?_)
    simp only [timed, List.getElem_mapIdx]
    exact hmono i j (Nat.le_of_lt hij)
  refine htimed.filterMap observed (fun p q hpq op hop op' hop' => ?_)
  rw [time_of_observed hop, time_of_observed hop']
  exact hpq

end Observed

theorem observePacket_eq {etherparse : Etherparse} {hickory : Hickory} {lastInstant : Nat} {clock : Nat → Nat}
    {packet payload : Bytes} {message : DnsMessage} (hpayload : dnsResponsePayload etherparse packet = some payload)
    (hmessage : hickory.fromVec payload = some message) (hresponse : message.messageType = .response) (cache : DomainCache) :
    observePacket etherparse hickory lastInstant clock cache packet =
      exec (apply lastInstant) cache ((timed clock message.answers).filterMap observed) := by
  rw [observePacket, hpayload]
  simp only [hmessage]
  rw [if_neg (fun hne => hne hresponse), observeAnswers_eq]

/-- **After a DNS response an address is known under a name, such as the one that was asked for, if and only if no insert
overflows and the last A record of the address under that very name has not expired, or the answers have no such record
and the name was live before**: whatever aliases the answers have for the name. -/
theorem known_name_iff {etherparse : Etherparse} {hickory : Hickory} {lastInstant : Nat} {clock : Nat → Nat}
    {before : List (Nat × CacheOp)} {cache : DomainCache} (hbefore : exec (apply lastInstant) new before = some cache)
    (htimes : before.Pairwise (fun a b => a.1 ≤ b.1)) (hmono : ∀ i j, i ≤ j → clock i ≤ clock j)
    (hclock : ∀ op ∈ before, op.1 ≤ clock 0) {packet payload : Bytes} {message : DnsMessage}
    (hpayload : dnsResponsePayload etherparse packet = some payload) (hmessage : hickory.fromVec payload = some message)
    (hresponse : message.messageType = .response) {now : Nat} (hnow : ∀ i, i ≤ message.answers.length → clock i ≤ now)
    (ip : Ipv4Addr) (name : String) :
    (∃ cache', observePacket etherparse hickory lastInstant clock cache packet = some cache' ∧
      name ∈ (cache'.lookup now ip).1) ↔
    (∀ op ∈ (timed clock message.answers).filterMap observed, Fits lastInstant op) ∧
      ((∃ t₀ ttl, ((timed clock message.answers).filterMap (answerFor ip name)).getLast? = some (t₀, ttl) ∧ now < t₀ + ttl) ∨
        ((timed clock message.answers).filterMap (answerFor ip name) = [] ∧ Live before ip name now)) := by
  have hops := pairwise_observed message.answers hmono
  have htimed : ∀ op ∈ (timed clock message.answers).filterMap observed, clock 0 ≤ op.1 ∧ op.1 ≤ now := by
    intro op hm
    obtain ⟨p, hp, ho⟩ := List.mem_filterMap.1 hm
    obtain ⟨i, hi, hpi⟩ := time_of_mem_timed hp
    rw [time_of_observed ho, hpi]
    exact ⟨hmono 0 i (Nat.zero_le i), hnow i (Nat.le_of_lt hi)⟩
  rw [observePacket_eq hpayload hmessage hresponse, ← filterMap_observed]
  generalize (timed clock message.answers).filterMap observed = ops at hops htimed
  have hall : (before ++ ops).Pairwise (fun a b => a.1 ≤ b.1) :=
    List.pairwise_append.2 ⟨htimes, hops, fun a ha b hb => Nat.le_trans (hclock a ha) (htimed b hb).1⟩
  have hpast : ∀ op ∈ before ++ ops, op.1 ≤ now := by
    intro op hm
    rcases List.mem_append.1 hm with hm | hm
    · exact Nat.le_trans (hclock op hm) (hnow 0 (Nat.zero_le _))
    · exact (htimed op hm).2
  have hfits : ∀ op ∈ before, Fits lastInstant op := exec_isSome.1 (by rw [hbefore]; rfl)
  rw [lookup_after hbefore, answer_mem_iff hall hpast, live_append, List.forall_mem_append]
  exact ⟨fun ⟨⟨_, hf⟩, hlive⟩ => ⟨hf, hlive⟩, fun ⟨hf, hlive⟩ => ⟨⟨hfits, hf⟩, hlive⟩⟩

/-- The answers lead from one name to another by `CNAME` records with a ttl. -/
inductive AliasChain (answers : List Record) : String → String → Prop
  | nil (name : String) : AliasChain answers name name
  | cons {name next last : String} {ttl : UInt32} (hm : ⟨name, ttl, .cname next⟩ ∈ answers) (httl : ttl ≠ 0)
      (hchain : AliasChain answers next last) : AliasChain answers name last

/-- A response to `www.Example.com` with one address. -/
def directMessage : Bytes :=
  [26, 43, 129, 128, 0, 1, 0, 1, 0, 0, 0, 0,
   3, 119, 119, 119, 7, 69, 120, 97, 109, 112, 108, 101, 3, 99, 111, 109, 0, 0, 1, 0, 1,
   192, 12, 0, 1, 0, 1, 0, 0, 0, 60, 0, 4, 93, 184, 216, 34]

/-- The message in a UDP packet from `8.8.8.8`. -/
def directPacket : Bytes :=
  [69, 0, 0, 77, 0, 0, 0, 0, 64, 17, 96, 143, 8, 8, 8, 8, 10, 0, 0, 2, 0, 53, 207, 8, 0, 57, 7, 78] ++ directMessage

def directResponse : DnsMessage :=
  ⟨.response, ["www.Example.com."], [⟨"www.Example.com.", 60, .a (.new 93 184 216 34)⟩]⟩

theorem known_name_direct :
    dnsResponsePayload .plain directPacket = some directMessage ∧ Hickory.plain.fromVec directMessage = some directResponse ∧
    ∃ cache', observePacket .plain .plain lastInstantI64 (fun _ => 0) new directPacket = some cache' ∧
      "www.example.com" ∈ (cache'.lookup 1 (.new 93 184 216 34)).1 := by
  have hpayload : dnsResponsePayload .plain directPacket = some directMessage := by decide +kernel
  have hmessage : Hickory.plain.fromVec directMessage = some directResponse := by decide +kernel
  have hmono : ∀ i j : Nat, i ≤ j → (fun _ => 0 : Nat → Nat) i ≤ (fun _ => 0 : Nat → Nat) j := fun _ _ _ => Nat.le_refl 0
  have hstart : exec (apply lastInstantI64) new [] = some new := rfl
  refine ⟨hpayload, hmessage, (known_name_iff hstart List.Pairwise.nil hmono (fun op hm => absurd hm List.not_mem_nil)
    hpayload hmessage rfl (fun _ _ => Nat.zero_le 1) _ _).2
    ⟨?_, Or.inl ⟨0, 60000000000, by decide +kernel, by decide⟩⟩⟩
  intro op hm
  cases List.mem_singleton.1 hm
  exact Or.inr (Or.inr (by decide))

/-- A response to `www.example.com` with an alias and the address of that. -/
def aliasMessage : Bytes :=
  [26, 43, 129, 128, 0, 1, 0, 2, 0, 0, 0, 0,
   3, 119, 119, 119, 7, 101, 120, 97, 109, 112, 108, 101, 3, 99, 111, 109, 0, 0, 1, 0, 1,
   192, 12, 0, 5, 0, 1, 0, 0, 0, 60, 0, 17, 3, 99, 100, 110, 7, 101, 120, 97, 109, 112, 108, 101, 3, 110, 101, 116, 0,
   192, 45, 0, 1, 0, 1, 0, 0, 0, 60, 0, 4, 93, 184, 216, 34]

def aliasPacket : Bytes :=
  [69, 0, 0, 106, 0, 0, 0, 0, 64, 17, 96, 114, 8, 8, 8, 8, 10, 0, 0, 2, 0, 53, 207, 8, 0, 86, 138, 179] ++ aliasMessage

def aliasResponse : DnsMessage :=
  ⟨.response, ["www.example.com."],
    [⟨"www.example.com.", 60, .cname "cdn.example.net."⟩, ⟨"cdn.example.net.", 60, .a (.new 93 184 216 34)⟩]⟩

/-- **After a response with one alias the address is known under the alias only.** -/
theorem queried_name_forgotten :
    dnsResponsePayload .plain aliasPacket = some aliasMessage ∧ Hickory.plain.fromVec aliasMessage = some aliasResponse ∧
    "www.example.com." ∈ aliasResponse.queries ∧
    AliasChain aliasResponse.answers "www.example.com." "cdn.example.net." ∧
    ⟨"cdn.example.net.", 60, .a (.new 93 184 216 34)⟩ ∈ aliasResponse.answers ∧
    (observePacket .plain .plain lastInstantI64 (fun _ => 0) new aliasPacket).map
      (fun cache => (cache.lookup 1 (.new 93 184 216 34)).1) = some ["cdn.example.net"] :=
  ⟨by decide +kernel, by decide +kernel, by decide, .cons List.mem_cons_self (by decide) (.nil _), by decide,
    by decide +kernel⟩

end DomainCache

end Easynet
