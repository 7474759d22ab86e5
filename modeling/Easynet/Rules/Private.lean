import Easynet.Rules.Engine
import Easynet.Subnet
/-!
# Private — the addresses of `GEOIP,PRIVATE`

Without any database, `GEOIP,PRIVATE` selects the destinations that `is_private_ip` says are private.  That test goes by the
octets of the address; the addresses it accepts are those of nine networks, so that a `GEOIP,PRIVATE` rule and one
`DST-IP-CIDR` rule for each of these are the same at any place of any list of rules.
-/
namespace Easynet

/-! ## Networks by octets -/

section Octets

variable {addr ip : Ipv4Addr} {p : Nat}

/-- A network whose prefix ends in the first octet. -/
theorem contains_first (h : p ≤ 8) :
    (Ipv4Network.mk addr p).contains ip = true ↔ ip.a.toNat / 2 ^ (8 - p) = addr.a.toNat / 2 ^ (8 - p) := by
  rw [Ipv4Network.contains, beq_iff_eq, ip.toBits_octets, addr.toBits_octets,
    List.take_append_of_le_length (by simpa using h), List.take_append_of_le_length (by simpa using h),
    Bits.take_bits_eq_iff h ip.a.toNat_lt addr.a.toNat_lt]

theorem take_toBits (h : p ≤ 8) (ip : Ipv4Addr) :
    ip.toBits.take (8 + p) = Bits.bits 8 ip.a.toNat ++ (Bits.bits 8 ip.b.toNat).take p := by
  rw [ip.toBits_octets, List.take_append, List.take_of_length_le (by simp), Bits.length_bits, Nat.add_sub_cancel_left,
    List.take_append_of_le_length (by simpa using h)]

/-- A network whose prefix ends in the second octet. -/
theorem contains_second (h : p ≤ 8) :
    (Ipv4Network.mk addr (8 + p)).contains ip = true ↔
      ip.a = addr.a ∧ ip.b.toNat / 2 ^ (8 - p) = addr.b.toNat / 2 ^ (8 - p) := by
  rw [Ipv4Network.contains, beq_iff_eq, take_toBits h, take_toBits h, ← UInt8.toNat_inj,
    ← Bits.bits_inj ip.a.toNat_lt addr.a.toNat_lt, ← Bits.take_bits_eq_iff h ip.b.toNat_lt addr.b.toNat_lt]
  constructor
  · exact fun he => List.append_inj he (by simp)
  · rintro ⟨ha, hb⟩
    rw [ha, hb]

theorem contains_all : (Ipv4Network.mk addr 32).contains ip = true ↔ ip = addr := by
  rw [Ipv4Network.contains_iff addr (Nat.le_refl 32), Nat.sub_self, Nat.pow_zero, Nat.div_one, Nat.div_one,
    Ipv4Addr.toNat_inj]

end Octets

/-! ## The nine networks -/

/-- The networks of the private addresses, with their texts. -/
def privateCidrs : List (String × Ipv4Network) :=
  [("10.0.0.0/8", ⟨.new 10 0 0 0, 8⟩), ("172.16.0.0/12", ⟨.new 172 16 0 0, 12⟩), ("192.168.0.0/16", ⟨.new 192 168 0 0, 16⟩),
   ("127.0.0.0/8", ⟨.new 127 0 0 0, 8⟩), ("169.254.0.0/16", ⟨.new 169 254 0 0, 16⟩), ("0.0.0.0/32", ⟨.new 0 0 0 0, 32⟩),
   ("255.255.255.255/32", ⟨.new 255 255 255 255, 32⟩), ("224.0.0.0/4", ⟨.new 224 0 0 0, 4⟩),
   ("100.64.0.0/10", ⟨.new 100 64 0 0, 10⟩)]

section Kinds

variable {ip : Ipv4Addr}

theorem octet_eq_iff {a b : UInt8} : a.toNat / 2 ^ (8 - 8) = b.toNat / 2 ^ (8 - 8) ↔ a = b := by
  rw [Nat.sub_self, Nat.pow_zero, Nat.div_one, Nat.div_one, UInt8.toNat_inj]

theorem isPrivate_iff : ip.isPrivate = true ↔ (Ipv4Network.mk (.new 10 0 0 0) 8).contains ip = true ∨
    (Ipv4Network.mk (.new 172 16 0 0) 12).contains ip = true ∨
    (Ipv4Network.mk (.new 192 168 0 0) 16).contains ip = true := by
  have hrange : ip.b.toNat / 2 ^ (8 - 4) = (Ipv4Addr.new 172 16 0 0).b.toNat / 2 ^ (8 - 4) ↔ 16 ≤ ip.b ∧ ip.b ≤ 31 := by
    rw [UInt8.le_iff_toNat_le, UInt8.le_iff_toNat_le]
    show ip.b.toNat / 16 = 1 ↔ 16 ≤ ip.b.toNat ∧ ip.b.toNat ≤ 31
    omega
  rw [contains_first (Nat.le_refl 8), octet_eq_iff, contains_second (p := 4) (by decide), hrange,
    contains_second (p := 8) (Nat.le_refl 8), octet_eq_iff, Ipv4Addr.isPrivate]
  simp only [Bool.or_eq_true, Bool.and_eq_true, beq_iff_eq, decide_eq_true_iff, or_assoc, and_assoc]
  rfl

theorem isLoopback_iff : ip.isLoopback = true ↔ (Ipv4Network.mk (.new 127 0 0 0) 8).contains ip = true := by
  rw [contains_first (Nat.le_refl 8), octet_eq_iff, Ipv4Addr.isLoopback, beq_iff_eq]
  rfl

theorem isLinkLocal_iff : ip.isLinkLocal = true ↔ (Ipv4Network.mk (.new 169 254 0 0) 16).contains ip = true := by
  rw [contains_second (p := 8) (Nat.le_refl 8), octet_eq_iff, Ipv4Addr.isLinkLocal, Bool.and_eq_true, beq_iff_eq, beq_iff_eq]
  rfl

theorem isUnspecified_iff : ip.isUnspecified = true ↔ (Ipv4Network.mk (.new 0 0 0 0) 32).contains ip = true := by
  rw [contains_all, Ipv4Addr.isUnspecified, beq_iff_eq]
  rfl

theorem isBroadcast_iff : ip.isBroadcast = true ↔ (Ipv4Network.mk (.new 255 255 255 255) 32).contains ip = true := by
  rw [contains_all, Ipv4Addr.isBroadcast, beq_iff_eq]
  rfl

theorem isMulticast_iff : ip.isMulticast = true ↔ (Ipv4Network.mk (.new 224 0 0 0) 4).contains ip = true := by
  rw [contains_first (by decide), Ipv4Addr.isMulticast, Bool.and_eq_true, decide_eq_true_iff, decide_eq_true_iff,
    UInt8.le_iff_toNat_le, UInt8.le_iff_toNat_le]
  show 224 ≤ ip.a.toNat ∧ ip.a.toNat ≤ 239 ↔ ip.a.toNat / 16 = 14
  omega

theorem isCgnat_iff : isCgnat ip = true ↔ (Ipv4Network.mk (.new 100 64 0 0) 10).contains ip = true := by
  have hrange : ip.b.toNat / 2 ^ (8 - 2) = (Ipv4Addr.new 100 64 0 0).b.toNat / 2 ^ (8 - 2) ↔ 64 ≤ ip.b ∧ ip.b ≤ 127 := by
    rw [UInt8.le_iff_toNat_le, UInt8.le_iff_toNat_le]
    show ip.b.toNat / 64 = 1 ↔ 64 ≤ ip.b.toNat ∧ ip.b.toNat ≤ 127
    omega
  rw [contains_second (p := 2) (by decide), hrange, isCgnat]
  simp only [Bool.and_eq_true, beq_iff_eq, decide_eq_true_iff, and_assoc]
  rfl

/-- **The private addresses are those of the nine networks.** -/
theorem isPrivateIp_eq (ip : Ipv4Addr) : isPrivateIp ip = privateCidrs.any (fun p => p.2.contains ip) := by
  rw [Bool.eq_iff_iff, isPrivateIp, privateCidrs]
  simp only [Bool.or_eq_true, List.any_cons, List.any_nil, Bool.or_false, isPrivate_iff, isLoopback_iff, isLinkLocal_iff,
    isUnspecified_iff, isBroadcast_iff, isMulticast_iff, isCgnat_iff, or_assoc]

end Kinds

/-! ## Rules -/

namespace RulesEngine

section Lists

variable {ipnetwork : Ipnetwork} {geoip : GeoIpMatcher} {packet : PacketContext}

/-- What comes after a list of rules matters only to the packets that reach it. -/
theorem matchRules_append_congr (pre : List Rule) {xs ys : List Rule}
    (h : matchRules ipnetwork geoip packet xs = matchRules ipnetwork geoip packet ys) :
    matchRules ipnetwork geoip packet (pre ++ xs) = matchRules ipnetwork geoip packet (pre ++ ys) := by
  induction pre with
  | nil => exact h
  | cons rule pre ih => rw [List.cons_append, List.cons_append, matchRules, matchRules, ih]

/-- Rules that all have one action are one rule, for the packets to which one of them applies. -/
theorem matchRules_block {action : RuleAction} {rules : List Rule} (haction : ∀ rule ∈ rules, rule.action = action)
    (post : List Rule) :
    matchRules ipnetwork geoip packet (rules ++ post) =
      if rules.any (fun rule => Matcher.matches ipnetwork rule packet geoip) then action
      else matchRules ipnetwork geoip packet post := by
  induction rules with
  | nil => rfl
  | cons rule rules ih =>
    rw [List.cons_append, matchRules, ih (fun r hm => haction r (List.mem_cons_of_mem rule hm)), List.any_cons,
      haction rule List.mem_cons_self]
    cases Matcher.matches ipnetwork rule packet geoip <;> rfl

end Lists

/-- `GEOIP,PRIVATE` with this action. -/
def privateRule (action : RuleAction) : Rule := { Rule.new action with geoip := some "PRIVATE" }

/-- `DST-IP-CIDR` with a network's text and this action. -/
def cidrRule (action : RuleAction) (cidr : String) : Rule := { Rule.new action with dstIpCidr := some cidr }

theorem matches_privateRule (ipnetwork : Ipnetwork) (action : RuleAction) (packet : PacketContext) (geoip : GeoIpMatcher) :
    Matcher.matches ipnetwork (privateRule action) packet geoip = isPrivateIp packet.dstIp := by
  have hprivate : Text.toAsciiLowercase "PRIVATE" = "private" := by decide +kernel
  have hgeoip : geoip.matches packet.dstIp "PRIVATE" = isPrivateIp packet.dstIp := by
    rw [GeoIpMatcher.matches, hprivate]
    rfl
  exact hgeoip

theorem matches_cidrRule {ipnetwork : Ipnetwork} {cidr : String} {network : Ipv4Network}
    (h : ipnetwork.parse cidr = .ok network) (action : RuleAction) (packet : PacketContext) (geoip : GeoIpMatcher) :
    Matcher.matches ipnetwork (cidrRule action cidr) packet geoip = network.contains packet.dstIp := by
  have hip : Matcher.matchesIp ipnetwork cidr packet.dstIp = network.contains packet.dstIp := by
    rw [Matcher.matchesIp, h]
  rw [← hip]
  simp [Matcher.matches, cidrRule, Rule.new]

theorem parseCompact_privateRule (action : RuleAction) :
    Rule.parseCompact (Rule.conditionText "GEOIP" "PRIVATE" action) = .ok (privateRule action) := by
  cases action <;> decide +kernel

theorem parseCompact_cidrRule (action : RuleAction) :
    ∀ p ∈ privateCidrs, Rule.parseCompact (Rule.conditionText "DST-IP-CIDR" p.1 action) = .ok (cidrRule action p.1) := by
  have hcomma : ∀ p ∈ privateCidrs, ',' ∉ p.1.toList := by decide +kernel
  have htrim : ∀ p ∈ privateCidrs, Text.trim p.1 = p.1 := by decide +kernel
  have hne : ∀ p ∈ privateCidrs, p.1.isEmpty = false := by decide +kernel
  intro p hm
  rw [Rule.parseCompact, parts_condition ⟨by decide, by decide⟩ ⟨hcomma p hm, htrim p hm⟩]
  exact Result.map_eq_ok.2 ⟨(p.1, action), parseFieldRuleParts_eq (hne p hm) "DST-IP-CIDR" action, rfl⟩

/-- **`GEOIP,PRIVATE` is the nine networks**, with any action, database, packet and rules before and after it. -/
theorem matchPacket_private {ipnetwork : Ipnetwork} (hread : ∀ p ∈ privateCidrs, ipnetwork.parse p.1 = .ok p.2)
    (geoip : GeoIpMatcher) (pre post : List Rule) (action : RuleAction) (packet : PacketContext) :
    Rule.parseCompact (Rule.conditionText "GEOIP" "PRIVATE" action) = .ok (privateRule action) ∧
    (∀ p ∈ privateCidrs, Rule.parseCompact (Rule.conditionText "DST-IP-CIDR" p.1 action) = .ok (cidrRule action p.1)) ∧
    matchPacket ipnetwork ⟨pre ++ [privateRule action] ++ post, geoip⟩ packet =
      matchPacket ipnetwork ⟨pre ++ privateCidrs.map (fun p => cidrRule action p.1) ++ post, geoip⟩ packet := by
  refine ⟨parseCompact_privateRule action, parseCompact_cidrRule action, ?_⟩
  have hone : ∀ rule ∈ [privateRule action], rule.action = action := by
    intro rule hm
    rw [List.mem_singleton.1 hm]
    rfl
  have hnine : ∀ rule ∈ privateCidrs.map (fun p => cidrRule action p.1), rule.action = action := by
    intro rule hm
    obtain ⟨p, -, rfl⟩ := List.mem_map.1 hm
    rfl
  have hany : (privateCidrs.map (fun p => cidrRule action p.1)).any
      (fun rule => Matcher.matches ipnetwork rule packet geoip) = isPrivateIp packet.dstIp := by
    rw [List.any_map, isPrivateIp_eq]
    rw [Bool.eq_iff_iff, List.any_eq_true, List.any_eq_true]
    exact exists_congr (fun p => and_congr_right (fun hm => by
      rw [Function.comp_apply, matches_cidrRule (hread p hm)]))
  rw [matchPacket, matchPacket, List.append_assoc, List.append_assoc]
  refine matchRules_append_congr pre ?_
  rw [matchRules_block hone, matchRules_block hnine, hany, List.any_cons, List.any_nil, Bool.or_false, matches_privateRule]

/-- Networks read from a table of the nine texts. -/
def privateNetworks : Ipnetwork :=
  ⟨fun cidr => match privateCidrs.lookup cidr with
    | some network => .ok network
    | none         => .error ("invalid address: " ++ cidr)⟩

/-- A DNS query to a router of the local network. -/
def localQuery : PacketContext := .new (.new 10 0 0 2) (.new 192 168 1 1) (some 53000) (some 53) .udp

theorem matchPacket_private_udp :
    (∀ p ∈ privateCidrs, privateNetworks.parse p.1 = .ok p.2) ∧
    matchPacket privateNetworks ⟨[privateRule .direct, { Rule.new .proxy with matchAll := true }], ⟨none⟩⟩ localQuery =
      .direct ∧
    matchPacket privateNetworks ⟨[privateRule .direct, { Rule.new .proxy with matchAll := true }], ⟨none⟩⟩ localQuery =
      matchPacket privateNetworks ⟨privateCidrs.map (fun p => cidrRule .direct p.1) ++
        [{ Rule.new .proxy with matchAll := true }], ⟨none⟩⟩ localQuery := by
  have hread : ∀ p ∈ privateCidrs, privateNetworks.parse p.1 = .ok p.2 := by decide +kernel
  exact ⟨hread, by decide +kernel,
    (matchPacket_private hread ⟨none⟩ [] [{ Rule.new .proxy with matchAll := true }] .direct localQuery).2.2⟩

end RulesEngine

end Easynet
