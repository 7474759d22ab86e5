import Easynet.ClientFlow
import Easynet.Route
import Easynet.Rules.Observe
/-!
# Router — the TUN task of a client with its rules and its domain cache

`tun_io_task` shows the domain cache every packet that it writes to the TUN device, from the server or from the direct proxy,
and asks the rules about every packet that it reads from there.  A router is a pipeline with this cache in it: where a packet
goes is no longer for the environment to say.

The clock only moves on: each action that reads it says how much time has passed before each reading.  So the operations on
the cache are in the order of their times, and what a look-up returns are the names in those A records, of the DNS responses
written to the TUN device so far, that were the last for their address and name and have not expired (`routed_by_answers`).
-/
namespace Easynet

open Machine (Run Throughout exec)
open Fifo (items)

/-- What a router is set up with. -/
structure Routing where
  etherparse : Etherparse
  hickory : Hickory
  ipnetwork : Ipnetwork
  lastInstant : Nat
  rulesEngine : RulesEngine

/-- The answers of the DNS response in a packet. -/
def Routing.answers (R : Routing) (packet : Bytes) : List Record :=
  match (dnsResponsePayload R.etherparse packet).bind R.hickory.fromVec with
  | some message => if message.messageType ≠ .response then [] else message.answers
  | none         => []

/-- A client's two tasks, with the domain cache of `tun_io_task` and the time. -/
structure Router extends Pipeline where
  domainCache : DomainCache
  now : Nat

/-- With these actions `tun_io_task` uses its domain cache. -/
def PipelineAct.caching : PipelineAct → Bool
  | .tunIo .recv | .tunIo .recvDirect | .tunIo (.read _ _) => true
  | _ => false

/-- The actions of a pipeline; a packet is routed by the rules, and the clock is read. -/
inductive RouterAct
  | recv (elapsed : List Nat)
  | recvDirect (data : Bytes) (elapsed : List Nat)
  | read (data : Bytes) (elapsed : Nat)
  | other (act : PipelineAct) (h : act.caching = false)

/-- The readings of a clock that starts at `now`, when so much time passes before each of them. -/
def clockFrom (now : Nat) (elapsed : List Nat) (i : Nat) : Nat := now + (elapsed.take (i + 1)).sum

theorem sum_take_le (k : Nat) (elapsed : List Nat) : (elapsed.take k).sum ≤ elapsed.sum := by
  have hsum : (elapsed.take k).sum + (elapsed.drop k).sum = elapsed.sum := by
    rw [← List.sum_append, List.take_append_drop]
  omega

theorem clockFrom_mono (now : Nat) (elapsed : List Nat) (i j : Nat) (hij : i ≤ j) :
    clockFrom now elapsed i ≤ clockFrom now elapsed j := by
  have htake : elapsed.take (i + 1) = (elapsed.take (j + 1)).take (i + 1) := by
    rw [List.take_take, Nat.min_eq_left (Nat.succ_le_succ hij)]
  rw [clockFrom, clockFrom, htake]
  exact Nat.add_le_add_left (sum_take_le (i + 1) _) now

theorem clockFrom_le (now : Nat) (elapsed : List Nat) (i : Nat) : clockFrom now elapsed i ≤ now + elapsed.sum :=
  Nat.add_le_add_left (sum_take_le (i + 1) elapsed) now

/-- To observe a packet is to insert its answers. -/
theorem Routing.observePacket_eq (R : Routing) (clock : Nat → Nat) (cache : DomainCache) (packet : Bytes) :
    cache.observePacket R.etherparse R.hickory R.lastInstant clock packet =
      exec (DomainCache.apply R.lastInstant) cache
        ((DomainCache.timed clock (R.answers packet)).filterMap DomainCache.observed) := by
  unfold DomainCache.observePacket Routing.answers
  cases dnsResponsePayload R.etherparse packet with
  | none => rfl
  | some payload =>
    simp only [Option.bind_some]
    cases R.hickory.fromVec payload with
    | none => rfl
    | some message =>
      simp only
      split
      · rfl
      · rw [DomainCache.observeAnswers_eq]

namespace Router

def init : Router := ⟨.init, .new, 0⟩

/-- `tun_io_task` observes a packet and goes on to write it; a task that panics is gone. -/
def observe (R : Routing) (capacity : Nat) (s : Router) (data : Bytes) (elapsed : List Nat) (act : TunIoAct) :
    Option Router :=
  match s.domainCache.observePacket R.etherparse R.hickory R.lastInstant (clockFrom s.now elapsed) data with
  | some domainCache =>
    (Pipeline.step capacity s.toPipeline (.tunIo act)).map (fun p => ⟨p, domainCache, s.now + elapsed.sum⟩)
  | none =>
    (Pipeline.step capacity s.toPipeline (.tunIo .failed)).map (fun p => ⟨p, s.domainCache, s.now + elapsed.sum⟩)

/-- Where the rules send a packet at this time, and the cache after it. -/
def routed (R : Routing) (s : Router) (data : Bytes) (now : Nat) : RuleAction × DomainCache :=
  let (route, domainCache) := handlePacketRoute R.etherparse R.ipnetwork now data R.rulesEngine s.domainCache
  (routeOf route, domainCache)

def step (R : Routing) (capacity : Nat) (s : Router) : RouterAct → Option Router
  | .recv elapsed =>
    match s.transportQueue with
    | data :: _ => observe R capacity s data elapsed .recv
    | []        => none
  | .recvDirect data elapsed => observe R capacity s data elapsed .recvDirect
  | .read data elapsed =>
    let (route, domainCache) := routed R s data (s.now + elapsed)
    (Pipeline.step capacity s.toPipeline (.tunIo (.read data route))).map (fun p => ⟨p, domainCache, s.now + elapsed⟩)
  | .other act _ => (Pipeline.step capacity s.toPipeline act).map (fun p => ⟨p, s.domainCache, s.now⟩)

/-! ## What one step of a router can do -/

variable {R : Routing} {capacity : Nat} {s s' : Router} {a : RouterAct} {h : List (Router × RouterAct)}

/-- **The ways a router moves.** -/
inductive Moves (R : Routing) (capacity : Nat) (s : Router) : RouterAct → Router → Prop
  | recv {elapsed : List Nat} {data : Bytes} {queue : List Bytes} {domainCache : DomainCache} {p : Pipeline}
      (hq : s.transportQueue = data :: queue)
      (ho : s.domainCache.observePacket R.etherparse R.hickory R.lastInstant (clockFrom s.now elapsed) data =
        some domainCache)
      (hp : Pipeline.step capacity s.toPipeline (.tunIo .recv) = some p) :
      Moves R capacity s (.recv elapsed) ⟨p, domainCache, s.now + elapsed.sum⟩
  | recvDirect {data : Bytes} {elapsed : List Nat} {domainCache : DomainCache} {p : Pipeline}
      (ho : s.domainCache.observePacket R.etherparse R.hickory R.lastInstant (clockFrom s.now elapsed) data =
        some domainCache)
      (hp : Pipeline.step capacity s.toPipeline (.tunIo .recvDirect) = some p) :
      Moves R capacity s (.recvDirect data elapsed) ⟨p, domainCache, s.now + elapsed.sum⟩
  | recvPanicked {elapsed : List Nat} {data : Bytes} {queue : List Bytes} {p : Pipeline}
      (hq : s.transportQueue = data :: queue)
      (ho : s.domainCache.observePacket R.etherparse R.hickory R.lastInstant (clockFrom s.now elapsed) data = none)
      (hp : Pipeline.step capacity s.toPipeline (.tunIo .failed) = some p) :
      Moves R capacity s (.recv elapsed) ⟨p, s.domainCache, s.now + elapsed.sum⟩
  | directPanicked {data : Bytes} {elapsed : List Nat} {p : Pipeline}
      (ho : s.domainCache.observePacket R.etherparse R.hickory R.lastInstant (clockFrom s.now elapsed) data = none)
      (hp : Pipeline.step capacity s.toPipeline (.tunIo .failed) = some p) :
      Moves R capacity s (.recvDirect data elapsed) ⟨p, s.domainCache, s.now + elapsed.sum⟩
  | read {data : Bytes} {elapsed : Nat} {p : Pipeline}
      (hp : Pipeline.step capacity s.toPipeline (.tunIo (.read data (routed R s data (s.now + elapsed)).1)) = some p) :
      Moves R capacity s (.read data elapsed) ⟨p, (routed R s data (s.now + elapsed)).2, s.now + elapsed⟩
  | other {act : PipelineAct} {hact : act.caching = false} {p : Pipeline}
      (hp : Pipeline.step capacity s.toPipeline act = some p) :
      Moves R capacity s (.other act hact) ⟨p, s.domainCache, s.now⟩

theorem step_moves (hs : step R capacity s a = some s') : Moves R capacity s a s' := by
  cases a with
  | recv elapsed =>
    simp only [step] at hs
    split at hs
    · rename_i data queue hq
      unfold observe at hs
      split at hs
      · rename_i domainCache ho
        obtain ⟨p, hp, rfl⟩ := Option.map_eq_some_iff.1 hs
        exact .recv hq ho hp
      · rename_i ho
        obtain ⟨p, hp, rfl⟩ := Option.map_eq_some_iff.1 hs
        exact .recvPanicked hq ho hp
    · cases hs
  | recvDirect data elapsed =>
    simp only [step, observe] at hs
    split at hs
    · rename_i domainCache ho
      obtain ⟨p, hp, rfl⟩ := Option.map_eq_some_iff.1 hs
      exact .recvDirect ho hp
    · rename_i ho
      obtain ⟨p, hp, rfl⟩ := Option.map_eq_some_iff.1 hs
      exact .directPanicked ho hp
  | read data elapsed =>
    obtain ⟨p, hp, rfl⟩ := Option.map_eq_some_iff.1 hs
    exact .read hp
  | other act hact =>
    obtain ⟨p, hp, rfl⟩ := Option.map_eq_some_iff.1 hs
    exact .other hp

/-- What the pipeline does in a step of the router. -/
def pipelineAct (R : Routing) (s : Router) : RouterAct → Option PipelineAct
  | .recv elapsed =>
    s.transportQueue.head?.map (fun data =>
      if (s.domainCache.observePacket R.etherparse R.hickory R.lastInstant (clockFrom s.now elapsed) data).isSome
      then .tunIo .recv else .tunIo .failed)
  | .recvDirect data elapsed =>
    if (s.domainCache.observePacket R.etherparse R.hickory R.lastInstant (clockFrom s.now elapsed) data).isSome
    then some (.tunIo .recvDirect) else some (.tunIo .failed)
  | .read data elapsed => some (.tunIo (.read data (routed R s data (s.now + elapsed)).1))
  | .other act _ => some act

def pipelineHistory (R : Routing) (h : List (Router × RouterAct)) : List (Pipeline × PipelineAct) :=
  Machine.project Router.toPipeline (pipelineAct R) h

theorem Moves.pipeline_eq (hm : Moves R capacity s a s') :
    ∃ act, pipelineAct R s a = some act ∧ Pipeline.step capacity s.toPipeline act = some s'.toPipeline := by
  cases hm with
  | recv hq ho hp => exact ⟨_, by simp [pipelineAct, hq, ho], hp⟩
  | recvDirect ho hp => exact ⟨_, by simp [pipelineAct, ho], hp⟩
  | recvPanicked hq ho hp => exact ⟨_, by simp [pipelineAct, hq, ho], hp⟩
  | directPanicked ho hp => exact ⟨_, by simp [pipelineAct, ho], hp⟩
  | read hp | other hp => exact ⟨_, rfl, hp⟩

/-- **A router runs a pipeline.** -/
theorem pipelineRun (hr : Run (step R capacity) init h s) :
    Run (Pipeline.step capacity) .init (pipelineHistory R h) s.toPipeline := by
  show Run (Pipeline.step capacity) (Router.toPipeline init) (Machine.project Router.toPipeline (pipelineAct R) h)
    (Router.toPipeline s)
  refine Run.project (fun s a s' act hs hact => ?_) (fun s a s' hs hnone => ?_) hr
  · obtain ⟨act', hact', hp⟩ := (step_moves hs).pipeline_eq
    cases hact.symm.trans hact'
    exact hp
  · obtain ⟨act', hact', -⟩ := (step_moves hs).pipeline_eq
    cases hnone.symm.trans hact'

/-! ## What the cache has seen -/

/-- The answers of the DNS responses that a step shows the cache, with the times at which it comes to them. -/
def answersOf (R : Routing) (s : Router) : RouterAct → List (Nat × Record)
  | .recv elapsed =>
    s.transportQueue.head?.elim [] (fun data => DomainCache.timed (clockFrom s.now elapsed) (R.answers data))
  | .recvDirect data elapsed => DomainCache.timed (clockFrom s.now elapsed) (R.answers data)
  | _ => []

/-- The operations on the cache in a step. -/
def cacheOps (R : Routing) (s : Router) : RouterAct → List (Nat × CacheOp)
  | .read data elapsed =>
    (PacketContext.fromIpPacket R.etherparse data).elim [] (fun packetCtx => [(s.now + elapsed, .lookup packetCtx.dstIp)])
  | a => (answersOf R s a).filterMap DomainCache.observed

/-- The answers that the cache has seen on a run, oldest first. -/
def answersSeen (R : Routing) (h : List (Router × RouterAct)) : List (Nat × Record) :=
  h.flatMap (fun p => answersOf R p.1 p.2)

def cacheHistory (R : Routing) (h : List (Router × RouterAct)) : List (Nat × CacheOp) :=
  h.flatMap (fun p => cacheOps R p.1 p.2)

theorem cacheHistory_snoc (h : List (Router × RouterAct)) (s : Router) (a : RouterAct) :
    cacheHistory R (h ++ [(s, a)]) = cacheHistory R h ++ cacheOps R s a := by
  rw [cacheHistory, List.flatMap_append, List.flatMap_singleton, cacheHistory]

/-- The inserts of the cache are the answers that it has seen: a look-up inserts nothing. -/
theorem inserted_cacheHistory (ip : Ipv4Addr) (name : String) : ∀ h : List (Router × RouterAct),
    (cacheHistory R h).filterMap (DomainCache.inserted ip name) =
      (answersSeen R h).filterMap (DomainCache.answerFor ip name)
  | [] => rfl
  | (s, a) :: h => by
    have hone : (cacheOps R s a).filterMap (DomainCache.inserted ip name) =
        (answersOf R s a).filterMap (DomainCache.answerFor ip name) := by
      cases a with
      | read data elapsed =>
        rw [cacheOps]
        cases PacketContext.fromIpPacket R.etherparse data <;> rfl
      | recv | recvDirect | other => exact DomainCache.filterMap_observed ip name _
    rw [cacheHistory, answersSeen, List.flatMap_cons, List.flatMap_cons, List.filterMap_append, List.filterMap_append, hone]
    exact congrArg _ (inserted_cacheHistory ip name h)

theorem routed_eq (data : Bytes) (now : Nat) :
    routed R s data now = match PacketContext.fromIpPacket R.etherparse data with
      | none           => (.proxy, s.domainCache)
      | some packetCtx =>
        (R.rulesEngine.matchPacket R.ipnetwork (packetCtx.withDomains (s.domainCache.lookup now packetCtx.dstIp).1),
          (s.domainCache.lookup now packetCtx.dstIp).2) := by
  unfold routed handlePacketRoute
  cases PacketContext.fromIpPacket R.etherparse data with
  | none => rfl
  | some packetCtx =>
    simp only
    cases R.rulesEngine.matchPacket R.ipnetwork
      (packetCtx.withDomains (s.domainCache.lookup now packetCtx.dstIp).1) <;> rfl

theorem cacheOps_recv {elapsed : List Nat} {data : Bytes} {queue : List Bytes} (hq : s.transportQueue = data :: queue) :
    cacheOps R s (.recv elapsed) =
      (DomainCache.timed (clockFrom s.now elapsed) (R.answers data)).filterMap DomainCache.observed := by
  show (answersOf R s (.recv elapsed)).filterMap DomainCache.observed = _
  rw [answersOf, hq]
  rfl

theorem cacheOps_recvDirect {elapsed : List Nat} {data : Bytes} : cacheOps R s (.recvDirect data elapsed) =
    (DomainCache.timed (clockFrom s.now elapsed) (R.answers data)).filterMap DomainCache.observed := rfl

/-- The operations of a step are made between the time before it and the time after it, one after the other, and make of the
cache what it is afterwards, unless the task has panicked. -/
theorem Moves.cacheOps (hm : Moves R capacity s a s') :
    (cacheOps R s a).Pairwise (fun x y => x.1 ≤ y.1) ∧ (∀ op ∈ cacheOps R s a, s.now ≤ op.1 ∧ op.1 ≤ s'.now) ∧
      s.now ≤ s'.now ∧
      (s'.tunIo ≠ .done → exec (DomainCache.apply R.lastInstant) s.domainCache (cacheOps R s a) = some s'.domainCache) := by
  -- the answers of one packet
  have hanswers : ∀ (elapsed : List Nat) (data : Bytes),
      ((DomainCache.timed (clockFrom s.now elapsed) (R.answers data)).filterMap DomainCache.observed).Pairwise
        (fun x y => x.1 ≤ y.1) ∧
      ∀ op ∈ (DomainCache.timed (clockFrom s.now elapsed) (R.answers data)).filterMap DomainCache.observed,
        s.now ≤ op.1 ∧ op.1 ≤ s.now + elapsed.sum := by
    intro elapsed data
    refine ⟨DomainCache.pairwise_observed _ (clockFrom_mono s.now elapsed), fun op hop => ?_⟩
    obtain ⟨p, hp, ho⟩ := List.mem_filterMap.1 hop
    obtain ⟨i, -, hi⟩ := DomainCache.time_of_mem_timed hp
    rw [DomainCache.time_of_observed ho, hi]
    exact ⟨Nat.le_add_right _ _, clockFrom_le s.now elapsed i⟩
  -- a pipeline in which `tun_io_task` has failed
  have hfailed : ∀ {p}, Pipeline.step capacity s.toPipeline (.tunIo .failed) = some p → p.tunIo = .done := by
    intro p hp
    cases Pipeline.step_moves hp with
    | tunFailed => rfl
  cases hm with
  | @recv elapsed data queue domainCache p hq ho hp =>
    rw [cacheOps_recv hq]
    refine ⟨(hanswers elapsed data).1, (hanswers elapsed data).2, Nat.le_add_right _ _, fun _ => ?_⟩
    rw [R.observePacket_eq] at ho
    exact ho
  | @recvDirect data elapsed domainCache p ho hp =>
    rw [cacheOps_recvDirect]
    refine ⟨(hanswers elapsed data).1, (hanswers elapsed data).2, Nat.le_add_right _ _, fun _ => ?_⟩
    rw [R.observePacket_eq] at ho
    exact ho
  | @recvPanicked elapsed data queue p hq ho hp =>
    rw [cacheOps_recv hq]
    exact ⟨(hanswers elapsed data).1, (hanswers elapsed data).2, Nat.le_add_right _ _, fun hne => absurd (hfailed hp) hne⟩
  | @directPanicked data elapsed p ho hp =>
    rw [cacheOps_recvDirect]
    exact ⟨(hanswers elapsed data).1, (hanswers elapsed data).2, Nat.le_add_right _ _, fun hne => absurd (hfailed hp) hne⟩
  | @read data elapsed p hp =>
    rw [Router.cacheOps, routed_eq]
    cases PacketContext.fromIpPacket R.etherparse data with
    | none => exact ⟨List.Pairwise.nil, fun op hop => absurd hop List.not_mem_nil, Nat.le_add_right _ _, fun _ => rfl⟩
    | some packetCtx =>
      refine ⟨List.pairwise_singleton _ _, fun op hop => ?_, Nat.le_add_right _ _, fun _ => rfl⟩
      cases List.mem_singleton.1 hop
      exact ⟨Nat.le_add_right _ _, Nat.le_refl _⟩
  | other =>
    exact ⟨List.Pairwise.nil, fun op hop => absurd hop List.not_mem_nil, Nat.le_refl _, fun _ => rfl⟩

/-- **The cache is what the operations of the run have made of it**, each made after the ones before it. -/
structure Cached (R : Routing) (h : List (Router × RouterAct)) (s : Router) : Prop where
  times : (cacheHistory R h).Pairwise (fun x y => x.1 ≤ y.1)
  past : ∀ op ∈ cacheHistory R h, op.1 ≤ s.now
  cache : s.tunIo ≠ .done → exec (DomainCache.apply R.lastInstant) .new (cacheHistory R h) = some s.domainCache

theorem cached (hr : Run (step R capacity) init h s) : Cached R h s := by
  refine hr.history_invariant (fun h s => Cached R h s)
    ⟨List.Pairwise.nil, fun _ hm => absurd hm List.not_mem_nil, fun _ => rfl⟩
    (fun h s a s' hr ih hs => ?_)
  obtain ⟨hpair, hbetween, hnow, hcache⟩ := (step_moves hs).cacheOps
  refine ⟨?_, ?_, fun hne => ?_⟩
  · rw [cacheHistory_snoc]
    exact List.pairwise_append.2 ⟨ih.times, hpair, fun x hx y hy => Nat.le_trans (ih.past x hx) (hbetween y hy).1⟩
  · intro op hop
    rw [cacheHistory_snoc] at hop
    rcases List.mem_append.1 hop with hop | hop
    · exact Nat.le_trans (ih.past op hop) hnow
    · exact (hbetween op hop).2
  · obtain ⟨act, -, hp⟩ := (step_moves hs).pipeline_eq
    have hbefore := (Pipeline.step_moves hp).back_tunIo hne
    rw [cacheHistory_snoc, Machine.exec_append, ih.cache hbefore]
    exact hcache hne

/-! ## Where packets go -/

/-- **The address was resolved from the name**: the last answer for it, of those seen, has not expired. -/
def Answered (answers : List (Nat × Record)) (ip : Ipv4Addr) (name : String) (now : Nat) : Prop :=
  ∃ t₀ ttl, (answers.filterMap (DomainCache.answerFor ip name)).getLast? = some (t₀, ttl) ∧ now < t₀ + ttl

/-- **What the rules say of a packet**, with the names that the answers have for its destination: a packet without a context
goes to the server. -/
def Ruled (R : Routing) (answers : List (Nat × Record)) (now : Nat) (data : Bytes) (action : RuleAction) : Prop :=
  match PacketContext.fromIpPacket R.etherparse data with
  | none           => action = .proxy
  | some packetCtx => ∃ domains : List String, domains.Nodup ∧
      (∀ name, name ∈ domains ↔ Answered answers packetCtx.dstIp name now) ∧
      action = R.rulesEngine.matchPacket R.ipnetwork (packetCtx.withDomains domains)

/-- The packet that is read in this step, with the time and where it goes. -/
def readRouted (R : Routing) (s : Router) : RouterAct → Option (Nat × Bytes × RuleAction)
  | .read data elapsed => some (s.now + elapsed, data, (routed R s data (s.now + elapsed)).1)
  | _                  => none

/-- The packet, if it goes to the server. -/
def proxied (q : Nat × Bytes × RuleAction) : Option Bytes := if q.2.2 = .proxy then some q.2.1 else none

theorem readForServer_eq (s : Router) (a : RouterAct) :
    (pipelineAct R s a).bind s.readForServer = (readRouted R s a).bind proxied := by
  cases a with
  | recv elapsed =>
    simp only [pipelineAct, readRouted]
    cases s.transportQueue.head? with
    | none => rfl
    | some data =>
      simp only [Option.map_some, Option.bind_some]
      split <;> rfl
  | recvDirect data elapsed =>
    simp only [pipelineAct, readRouted]
    split <;> rfl
  | read data elapsed =>
    simp only [pipelineAct, readRouted, Option.bind_some, proxied]
    cases (routed R s data (s.now + elapsed)).1 <;> rfl
  | other act hact =>
    -- an action without the cache reads nothing
    cases act with
    | transportIo act => rfl
    | tunIo act =>
      cases act with
      | read data route => cases hact
      | _ => rfl

theorem items_readForServer (h : List (Router × RouterAct)) :
    items Pipeline.readForServer (pipelineHistory R h) = (items (readRouted R) h).filterMap proxied := by
  rw [← Fifo.items_bind]
  refine (Machine.filterMap_project Pipeline.readForServer h).trans ?_
  exact congrArg (items · h) (funext (fun s => funext (readForServer_eq s)))

theorem ruled_of_run (hr : Run (step R capacity) init h s) (hne : s.tunIo ≠ .done) (data : Bytes) (elapsed : Nat) :
    Ruled R (answersSeen R h) (s.now + elapsed) data (routed R s data (s.now + elapsed)).1 := by
  have hcached := cached hr
  unfold Ruled
  rw [routed_eq]
  cases PacketContext.fromIpPacket R.etherparse data with
  | none => rfl
  | some packetCtx =>
    have hpast : ∀ op ∈ cacheHistory R h, op.1 ≤ s.now + elapsed := fun op hop =>
      Nat.le_trans (hcached.past op hop) (Nat.le_add_right _ _)
    have hanswer : DomainCache.answer R.lastInstant (cacheHistory R h) (s.now + elapsed) packetCtx.dstIp =
        some (s.domainCache.lookup (s.now + elapsed) packetCtx.dstIp).1 := by
      rw [DomainCache.answer, hcached.cache hne]
      rfl
    obtain ⟨hnodup, hlive⟩ := DomainCache.answer_live hcached.times hpast hanswer
    refine ⟨_, hnodup, fun name => (hlive name).trans ?_, rfl⟩
    rw [DomainCache.Live, inserted_cacheHistory]
    rfl

/-- **Packets go where the rules send them, with the names of the DNS responses that have been written to the TUN device.**
Each packet that is read is treated by the rules with exactly those names for its destination whose last answer has not
expired; and what is handed to the transport are the packets for which this says `Proxy`, from the beginning on and in order,
all but those on their way as long as the transport task is there. -/
theorem routed_by_answers (hr : Run (step R capacity) init h s) :
    Throughout (fun h s a => ∀ now data action, readRouted R s a = some (now, data, action) →
      Ruled R (answersSeen R h) now data action) h ∧
    items Pipeline.payloadOut (pipelineHistory R h) <+: (items (readRouted R) h).filterMap proxied ∧
    (s.transportIo ≠ .done → (items (readRouted R) h).filterMap proxied =
      items Pipeline.payloadOut (pipelineHistory R h) ++ s.outbound) := by
  rw [← items_readForServer]
  refine ⟨hr.throughout (fun h s a s' hr hs now data action hread => ?_),
    (Pipeline.outbound_stage capacity).isPrefix (pipelineRun hr), (Pipeline.outbound_stage capacity).eq (pipelineRun hr)⟩
  cases step_moves hs with
  | @read _ elapsed p hp =>
    cases hread
    have hselect : s.tunIo = .select := by
      generalize (routed R s data (s.now + elapsed)).1 = route at hp
      cases Pipeline.step_moves hp with
      | proxy hselect | direct hselect | reject hselect => exact hselect
    refine ruled_of_run hr ?_ data elapsed
    rw [hselect]
    exact fun he => TunIo.noConfusion he
  | recv | recvDirect | recvPanicked | directPanicked | other => cases hread

/-- Packets to `www.example.com` go directly, others to the server. -/
def exampleDirect : Routing where
  etherparse := .plain
  hickory := .plain
  ipnetwork := RulesEngine.noNetworks
  lastInstant := DomainCache.lastInstantI64
  rulesEngine := ⟨[{ Rule.new .direct with domain := some "www.example.com" }, Rule.catchAll .proxy], .withoutDatabase⟩

/-- A packet to the address in `directResponse`. -/
def examplePing : Bytes :=
  [0x45, 0, 0, 28, 0, 0, 0, 0, 64, 1, 59, 5, 10, 0, 0, 2, 93, 184, 216, 34, 8, 0, 247, 253, 0, 1, 0, 1]

/-- The packet is read before the response has come, while its answer is live, and after that. -/
def threePings : List RouterAct :=
  [.read examplePing 1, .other (.tunIo .send) rfl, .other (.transportIo (.receive (.data ⟨DomainCache.directPacket⟩))) rfl,
   .other (.transportIo .deliver) rfl, .recv [1, 1], .other (.tunIo (.written true)) rfl, .read examplePing 1000000000,
   .other (.tunIo (.sentDirect true)) rfl, .read examplePing 60000000000]

def pingTrace : List (Router × RouterAct) := Machine.trace (step exampleDirect 4096) init threePings

theorem routed_by_answers_pings :
    (items (readRouted exampleDirect) pingTrace).map (fun q => q.2.2) = [.proxy, .direct, .proxy] ∧
    ∃ s, Run (step exampleDirect 4096) init pingTrace s ∧
      Throughout (fun h s a => ∀ now data action, readRouted exampleDirect s a = some (now, data, action) →
        Ruled exampleDirect (answersSeen exampleDirect h) now data action) pingTrace := by
  have hr : Run (step exampleDirect 4096) init pingTrace _ := Machine.run_get (by decide +kernel)
  exact ⟨by decide +kernel, _, hr, (routed_by_answers hr).1⟩

end Router

end Easynet
