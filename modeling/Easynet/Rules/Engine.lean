import Easynet.Rules.Matcher
/-!
# Engine — the first rule that applies

A `RulesEngine` is made from a configuration whose rules pass `validate`, and gives every packet the action of the first
rule that applies.  The configuration has an action for the packets to which no rule applies; the engine does not keep it
and lets them go directly.
-/
namespace Easynet

/-- `ConfigError`, as far as a configuration that has been read can fail. -/
inductive ConfigError
  | validationError (msg : String)
  | invalidCidr (cidr : String)
  | invalidPortRange (range : String)
  deriving DecidableEq, Repr

/-! ## The checks of a configuration -/

def Rule.hasConditions (rule : Rule) : Bool :=
  rule.matchAll || rule.srcIpCidr.isSome || rule.dstIpCidr.isSome || rule.srcPort.isSome || rule.dstPort.isSome ||
    rule.proto.isSome || rule.domain.isSome || rule.domainSuffix.isSome || rule.domainKeyword.isSome || rule.geoip.isSome

/-- A check of the condition in a field, which its error names. -/
def validateField (check : String → Except String Unit) (error : String → ConfigError) (label field : String) :
    Option String → Except ConfigError Unit
  | none       => .ok ()
  | some value => (check value).mapError (fun e =>
      error (label ++ " has an invalid " ++ field ++ ": " ++ value ++ " (" ++ e ++ ")"))

def validateCidr (ipnetwork : Ipnetwork) (label field : String) : Option String → Except ConfigError Unit :=
  validateField (fun cidr => (ipnetwork.parse cidr).map (fun _ => ())) .invalidCidr label field

def validatePort (label field : String) : Option String → Except ConfigError Unit :=
  validateField (fun port => (parsePortRange port).map (fun _ => ())) .invalidPortRange label field

def validateProto (label : String) : Option String → Except ConfigError Unit :=
  validateField (fun proto => if (Protocol.fromStr proto).isNone then .error "must be tcp/udp/icmp" else .ok ())
    .validationError label "PROTO"

def validateDomainRuleValue (ruleName field : String) : Option String → Except ConfigError Unit
  | none => .ok ()
  | some value =>
    if value.isEmpty then .error (.validationError ("rule '" ++ ruleName ++ "' has an empty " ++ field ++ " value"))
    else if value.toList.any invalidInName then
      .error (.validationError ("rule '" ++ ruleName ++ "' has an invalid " ++ field ++ " value: " ++ value))
    else .ok ()

def validateGeoipRuleValue (ruleName : String) : Option String → Except ConfigError Unit :=
  validateDomainRuleValue ruleName "GEOIP"

/-- The body of `validate`'s loop. -/
def validateRule (ipnetwork : Ipnetwork) (label : String) (rule : Rule) : Except ConfigError Unit := do
  if !rule.hasConditions then throw (.validationError (label ++ " has no match conditions"))
  validateCidr ipnetwork label "SRC-IP-CIDR" rule.srcIpCidr
  validateCidr ipnetwork label "DST-IP-CIDR" rule.dstIpCidr
  validatePort label "SRC-PORT" rule.srcPort
  validatePort label "DST-PORT" rule.dstPort
  validateProto label rule.proto
  validateDomainRuleValue label "DOMAIN" rule.domain
  validateDomainRuleValue label "DOMAIN-SUFFIX" rule.domainSuffix
  validateDomainRuleValue label "DOMAIN-KEYWORD" rule.domainKeyword
  validateGeoipRuleValue label rule.geoip

/-- `validate`'s loop, from the rule with this index on. -/
def validateFrom (ipnetwork : Ipnetwork) : Nat → List Rule → Except ConfigError Unit
  | _, []                => .ok ()
  | index, rule :: rules => do
    validateRule ipnetwork ("rule at index " ++ toString index) rule
    validateFrom ipnetwork (index + 1) rules

def RulesConfig.validate (ipnetwork : Ipnetwork) (config : RulesConfig) : Except ConfigError Unit :=
  validateFrom ipnetwork 0 config.rules

/-! ## The engine -/

/-- `Reader::open_readfile`, without the error. -/
structure Maxminddb where
  openReadfile : String → Option Reader

def GeoIpMatcher.load (maxminddb : Maxminddb) (configPath : Option String) : GeoIpMatcher :=
  ⟨(configPath.filter (fun path => !(Text.trim path).isEmpty)).bind maxminddb.openReadfile⟩

structure RulesEngine where
  rules : List Rule
  geoip : GeoIpMatcher

namespace RulesEngine

def fromConfig (ipnetwork : Ipnetwork) (maxminddb : Maxminddb) (config : RulesConfig) : Except ConfigError RulesEngine :=
  (config.validate ipnetwork).map (fun _ => ⟨config.rules, .load maxminddb config.geoipPath⟩)

/-- `match_packet`'s loop. -/
def matchRules (ipnetwork : Ipnetwork) (geoip : GeoIpMatcher) (packet : PacketContext) : List Rule → RuleAction
  | []            => .direct
  | rule :: rules =>
    if Matcher.matches ipnetwork rule packet geoip then rule.action else matchRules ipnetwork geoip packet rules

def matchPacket (ipnetwork : Ipnetwork) (engine : RulesEngine) (packet : PacketContext) : RuleAction :=
  matchRules ipnetwork engine.geoip packet engine.rules

section Loop

variable {ipnetwork : Ipnetwork} {geoip : GeoIpMatcher} {packet : PacketContext}

/-- **The first rule that applies decides.** -/
theorem matchRules_first {before after : List Rule} {rule : Rule}
    (hbefore : ∀ r ∈ before, ¬ Matcher.Holds ipnetwork r packet geoip) (hrule : Matcher.Holds ipnetwork rule packet geoip) :
    matchRules ipnetwork geoip packet (before ++ rule :: after) = rule.action := by
  induction before with
  | nil => exact if_pos (Matcher.matches_iff.2 hrule)
  | cons r before ih =>
    have hr : ¬ Matcher.matches ipnetwork r packet geoip = true :=
      fun h => hbefore r List.mem_cons_self (Matcher.matches_iff.1 h)
    rw [List.cons_append, matchRules, if_neg hr]
    exact ih (fun r' hm => hbefore r' (List.mem_cons_of_mem r hm))

theorem matchRules_none {rules : List Rule} (hnone : ∀ r ∈ rules, ¬ Matcher.Holds ipnetwork r packet geoip) :
    matchRules ipnetwork geoip packet rules = .direct := by
  induction rules with
  | nil => rfl
  | cons r rules ih =>
    have hr : ¬ Matcher.matches ipnetwork r packet geoip = true :=
      fun h => hnone r List.mem_cons_self (Matcher.matches_iff.1 h)
    rw [matchRules, if_neg hr]
    exact ih (fun r' hm => hnone r' (List.mem_cons_of_mem r hm))

end Loop

theorem fromConfig_ok {ipnetwork : Ipnetwork} {maxminddb : Maxminddb} {config : RulesConfig} {engine : RulesEngine}
    (h : fromConfig ipnetwork maxminddb config = .ok engine) :
    engine = ⟨config.rules, .load maxminddb config.geoipPath⟩ := by
  obtain ⟨_, _, hengine⟩ := Result.bind_eq_ok.1 h
  exact (Except.ok.inj hengine).symm

/-- **The engine gives a packet the action of the first rule whose conditions all hold and, if there is none, the default
action of the configuration, if and only if there is one or the default action is `Direct`.** -/
theorem matchPacket_iff {ipnetwork : Ipnetwork} {maxminddb : Maxminddb} {config : RulesConfig} {engine : RulesEngine}
    (hload : fromConfig ipnetwork maxminddb config = .ok engine) (packet : PacketContext) :
    ((∀ before rule after, config.rules = before ++ rule :: after →
        (∀ r ∈ before, ¬ Matcher.Holds ipnetwork r packet engine.geoip) →
        Matcher.Holds ipnetwork rule packet engine.geoip → matchPacket ipnetwork engine packet = rule.action) ∧
      ((∀ r ∈ config.rules, ¬ Matcher.Holds ipnetwork r packet engine.geoip) →
        matchPacket ipnetwork engine packet = config.defaultAction)) ↔
    ((∃ r ∈ config.rules, Matcher.Holds ipnetwork r packet engine.geoip) ∨ config.defaultAction = .direct) := by
  have hrules : engine.rules = config.rules := congrArg RulesEngine.rules (fromConfig_ok hload)
  rw [matchPacket, hrules]
  constructor
  · rintro ⟨-, hdefault⟩
    by_cases hsome : ∃ r ∈ config.rules, Matcher.Holds ipnetwork r packet engine.geoip
    · exact Or.inl hsome
    · have hnone : ∀ r ∈ config.rules, ¬ Matcher.Holds ipnetwork r packet engine.geoip :=
        fun r hm hr => hsome ⟨r, hm, hr⟩
      exact Or.inr ((hdefault hnone).symm.trans (matchRules_none hnone))
  · intro hcond
    refine ⟨fun before rule after he hbefore hrule => ?_, fun hnone => ?_⟩
    · rw [he]
      exact matchRules_first hbefore hrule
    · rcases hcond with ⟨r, hm, hr⟩ | hdirect
      · exact absurd hr (hnone r hm)
      · rw [matchRules_none hnone, hdirect]

/-- Networks that are never read, for rules without any. -/
def noNetworks : Ipnetwork := ⟨fun cidr => .error ("invalid address: " ++ cidr)⟩

def noDatabases : Maxminddb := ⟨fun _ => none⟩

/-- A DNS query over UDP. -/
def query : PacketContext := .new (.new 10 0 0 2) (.new 8 8 8 8) (some 53000) (some 53) .udp

/-- A rule for another port, then one for the packet's protocol. -/
def udpRejected : RulesConfig :=
  ⟨.reject, [{ Rule.new .proxy with dstPort := some "8000-9000" }, { Rule.new .reject with proto := some "udp" }], none⟩

theorem matchPacket_udpRejected :
    ∃ engine, fromConfig noNetworks noDatabases udpRejected = .ok engine ∧
      matchPacket noNetworks engine query = .reject ∧
      ∀ before rule after, udpRejected.rules = before ++ rule :: after →
        (∀ r ∈ before, ¬ Matcher.Holds noNetworks r query engine.geoip) →
        Matcher.Holds noNetworks rule query engine.geoip → matchPacket noNetworks engine query = rule.action := by
  have hvalid : udpRejected.validate noNetworks = .ok () := by decide +kernel
  have hload : fromConfig noNetworks noDatabases udpRejected = .ok ⟨udpRejected.rules, ⟨none⟩⟩ := by
    rw [fromConfig, hvalid]
    rfl
  refine ⟨_, hload, by decide +kernel, ((matchPacket_iff hload query).2 (Or.inl ?_)).1⟩
  exact ⟨_, List.mem_cons_of_mem _ List.mem_cons_self, Matcher.matches_iff.1 (by decide +kernel)⟩

/-- **With no rule and the default action `Reject` a packet is let through directly.** -/
theorem default_action_ignored :
    ∃ engine, fromConfig noNetworks noDatabases ⟨.reject, [], none⟩ = .ok engine ∧
      matchPacket noNetworks engine query = .direct :=
  ⟨⟨[], ⟨none⟩⟩, rfl, rfl⟩

end RulesEngine

end Easynet
