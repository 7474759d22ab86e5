import Easynet.Pipeline
import Easynet.Rules.DomainCache
import Easynet.Rules.Engine
/-!
# Route — where a packet from the TUN device goes

`handle_packet_route` asks the rules about a packet, with the names that the domain cache has for its destination, and
sends it to the transport channel, to the direct proxy or nowhere.  A packet that gives no context is not shown to the
rules: it goes to the transport channel.
-/
namespace Easynet

/-- The channels that `handle_packet_route` is given. -/
inductive Outlet
  | tun
  | directProxy
  deriving DecidableEq, Repr

/-- `handle_packet_route` up to its await: the channel it sends on and what it sends, and the domain cache. -/
def handlePacketRoute (etherparse : Etherparse) (ipnetwork : Ipnetwork) (now : Nat) (packet : Bytes)
    (rulesEngine : RulesEngine) (domainCache : DomainCache) : Option (Outlet × Bytes) × DomainCache :=
  match PacketContext.fromIpPacket etherparse packet with
  | none => (some (.tun, packet), domainCache)
  | some packetCtx =>
    let (domains, domainCache) := domainCache.lookup now packetCtx.dstIp
    match rulesEngine.matchPacket ipnetwork (packetCtx.withDomains domains) with
    | .direct => (some (.directProxy, packet), domainCache)
    | .proxy  => (some (.tun, packet), domainCache)
    | .reject => (none, domainCache)

/-- The way of a packet through `tun_io_task`, which knows of no rules. -/
def routeOf : Option (Outlet × Bytes) → RuleAction
  | some (.tun, _)         => .proxy
  | some (.directProxy, _) => .direct
  | none                   => .reject

/-- What the action of a rule says of a packet. -/
def RuleAction.treatment (action : RuleAction) (packet : Bytes) : Option (Outlet × Bytes) :=
  match action with
  | .direct => some (.directProxy, packet)
  | .proxy  => some (.tun, packet)
  | .reject => none

theorem handlePacketRoute_none {etherparse : Etherparse} {packet : Bytes}
    (h : PacketContext.fromIpPacket etherparse packet = none) (ipnetwork : Ipnetwork) (now : Nat)
    (rulesEngine : RulesEngine) (domainCache : DomainCache) :
    handlePacketRoute etherparse ipnetwork now packet rulesEngine domainCache = (some (.tun, packet), domainCache) := by
  rw [handlePacketRoute, h]

theorem handlePacketRoute_some {etherparse : Etherparse} {packet : Bytes} {packetCtx : PacketContext}
    (h : PacketContext.fromIpPacket etherparse packet = some packetCtx) (ipnetwork : Ipnetwork) (now : Nat)
    (rulesEngine : RulesEngine) (domainCache : DomainCache) :
    (handlePacketRoute etherparse ipnetwork now packet rulesEngine domainCache).1 =
      (rulesEngine.matchPacket ipnetwork
        (packetCtx.withDomains (domainCache.lookup now packetCtx.dstIp).1)).treatment packet := by
  rw [handlePacketRoute, h]
  simp only
  split
  · rename_i haction
    rw [haction]; rfl
  · rename_i haction
    rw [haction]; rfl
  · rename_i haction
    rw [haction]; rfl

/-- **`tun_io_task` sends what it has read on the channel that `handle_packet_route` chooses.** -/
theorem tunIoStep_routed {capacity : Nat} {s : Pipeline} (hs : s.tunIo = .select) (etherparse : Etherparse)
    (ipnetwork : Ipnetwork) (now : Nat) (packet : Bytes) (rulesEngine : RulesEngine) (domainCache : DomainCache) :
    let route := (handlePacketRoute etherparse ipnetwork now packet rulesEngine domainCache).1
    Pipeline.tunIoStep capacity s (.read packet (routeOf route)) = some { s with tunIo := match route with
      | some (.tun, data)      => .sending data
      | some (.directProxy, _) => .sendingDirect
      | none                   => .select } := by
  intro route
  have htreated : ∃ action : RuleAction, route = action.treatment packet := by
    cases h : PacketContext.fromIpPacket etherparse packet with
    | none => exact ⟨.proxy, congrArg Prod.fst (handlePacketRoute_none h ipnetwork now rulesEngine domainCache)⟩
    | some packetCtx => exact ⟨_, handlePacketRoute_some h ipnetwork now rulesEngine domainCache⟩
  obtain ⟨action, haction⟩ := htreated
  rw [haction]
  cases action <;> exact if_pos hs

/-- The rule that `MATCH` is read as. -/
def Rule.catchAll (action : RuleAction) : Rule := { Rule.new action with matchAll := true }

theorem Rule.holds_catchAll (ipnetwork : Ipnetwork) (action : RuleAction) (packet : PacketContext) (geoip : GeoIpMatcher) :
    Matcher.Holds ipnetwork (Rule.catchAll action) packet geoip :=
  Matcher.matches_iff.1 rfl

/-- **A catch-all rule in the first place decides about a packet if and only if the packet gives a context or the rule's
action is `Proxy`**, whatever the packet, the other rules and the domain cache are. -/
theorem catchAll_iff (etherparse : Etherparse) (ipnetwork : Ipnetwork) (now : Nat) (packet : Bytes) (action : RuleAction)
    (rules : List Rule) (geoip : GeoIpMatcher) (domainCache : DomainCache) :
    (handlePacketRoute etherparse ipnetwork now packet ⟨Rule.catchAll action :: rules, geoip⟩ domainCache).1 =
        action.treatment packet ↔
      (PacketContext.fromIpPacket etherparse packet).isSome = true ∨ action = .proxy := by
  cases h : PacketContext.fromIpPacket etherparse packet with
  | none =>
    rw [handlePacketRoute_none h]
    cases action <;> simp [RuleAction.treatment]
  | some packetCtx =>
    rw [handlePacketRoute_some h]
    have hmatch : RulesEngine.matchPacket ipnetwork ⟨Rule.catchAll action :: rules, geoip⟩
        (packetCtx.withDomains (domainCache.lookup now packetCtx.dstIp).1) = action :=
      RulesEngine.matchRules_first (fun r hm => absurd hm List.not_mem_nil) (Rule.holds_catchAll ipnetwork action _ geoip)
    rw [hmatch]
    simp

/-- An ICMPv6 echo request between two addresses of the documentation network. -/
def ipv6Ping : Bytes :=
  [0x60, 0, 0, 0, 0, 8, 58, 64] ++ ([0x20, 0x01, 0x0d, 0xb8] ++ List.replicate 11 0 ++ [1]) ++
    ([0x20, 0x01, 0x0d, 0xb8] ++ List.replicate 11 0 ++ [2]) ++ [128, 0, 0, 0, 0, 1, 0, 1]

/-- **An IPv6 packet is sent into the tunnel although the only rule rejects everything.** -/
theorem ipv6_not_rejected :
    ∃ rule, Rule.parseCompact "MATCH,reject" = .ok rule ∧ rule = Rule.catchAll .reject ∧
      (handlePacketRoute .plain RulesEngine.noNetworks 0 ipv6Ping ⟨[rule], .withoutDatabase⟩ .new).1 =
        some (.tun, ipv6Ping) :=
  ⟨_, by decide +kernel, rfl, by decide +kernel⟩

end Easynet
