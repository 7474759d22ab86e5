import Easynet.Rules.Engine
import Easynet.Rules.Ports
/-!
# Checked — what the checks at load time are good for

The texts in a rule are looked at three times: `parse_compact` normalises and checks names, `validate` checks every text,
and the matcher reads networks, ports and protocols again for each packet, with a fallback if it cannot.  A rule that was
read has exactly one condition and, if that is a name or `MATCH`, passes `validate`; and in a rule that passed it the
matcher can read everything, so that none of its fallbacks is ever taken.
-/
namespace Easynet

namespace Rule

/-- Which of the ten ways to select packets the rule has. -/
def conditions (rule : Rule) : List Bool :=
  [rule.matchAll, rule.srcIpCidr.isSome, rule.dstIpCidr.isSome, rule.srcPort.isSome, rule.dstPort.isSome, rule.proto.isSome,
   rule.domain.isSome, rule.domainSuffix.isSome, rule.domainKeyword.isSome, rule.geoip.isSome]

/-- The rule selects by a name, a country, or not at all: nothing that `parse_compact` leaves for `validate` to check. -/
def named (rule : Rule) : Bool :=
  rule.matchAll || rule.domain.isSome || rule.domainSuffix.isSome || rule.domainKeyword.isSome || rule.geoip.isSome

end Rule

/-! ## Rules that were read -/

/-- A value that both the parser and `validate` accept as a name. -/
def ValidName (value : String) : Prop := value.isEmpty = false ∧ value.toList.any invalidInName = false

/-- **The rules that `parse_compact` returns.** -/
inductive Rule.Parsed (action : RuleAction) : Rule → Prop
  | matchAll : Parsed action { Rule.new action with matchAll := true }
  | srcIpCidr (value : String) : Parsed action { Rule.new action with srcIpCidr := some value }
  | dstIpCidr (value : String) : Parsed action { Rule.new action with dstIpCidr := some value }
  | srcPort (value : String) : Parsed action { Rule.new action with srcPort := some value }
  | dstPort (value : String) : Parsed action { Rule.new action with dstPort := some value }
  | proto (value : String) : Parsed action { Rule.new action with proto := some value }
  | domain {value : String} (h : ValidName value) : Parsed action { Rule.new action with domain := some value }
  | domainSuffix {value : String} (h : ValidName value) : Parsed action { Rule.new action with domainSuffix := some value }
  | domainKeyword {value : String} (h : ValidName value) : Parsed action { Rule.new action with domainKeyword := some value }
  | geoip {value : String} (h : ValidName value) : Parsed action { Rule.new action with geoip := some value }

theorem validName_of_checked (normalize : String → String) {parts : List String} {field kind value : String}
    {action : RuleAction} (h : (parseFieldRuleParts parts field).bind (fun p =>
      (checkRuleValue kind (normalize p.1)).map (fun value => (value, p.2))) = .ok (value, action)) : ValidName value := by
  obtain ⟨p, -, h⟩ := Result.bind_eq_ok.1 h
  obtain ⟨value', hcheck, he⟩ := Result.map_eq_ok.1 h
  obtain ⟨rfl, hne, hvalid⟩ := checkRuleValue_ok hcheck
  cases he
  exact ⟨hne, hvalid⟩

theorem validName_of_domain {parts : List String} {field value : String} {action : RuleAction}
    (h : parseDomainRuleParts parts field = .ok (value, action)) : ValidName value :=
  validName_of_checked (fun value => Text.toAsciiLowercase (Text.trimEndMatches '.' (Text.trim value))) h

theorem validName_of_geoip {parts : List String} {field value : String} {action : RuleAction}
    (h : parseGeoipRuleParts parts field = .ok (value, action)) : ValidName value :=
  validName_of_checked (fun value => Text.toAsciiUppercase (Text.trim value)) h

theorem parsed_of_parseCompact {s : String} {rule : Rule} (h : Rule.parseCompact s = .ok rule) :
    ∃ action, Rule.Parsed action rule := by
  unfold Rule.parseCompact Rule.parseParts at h
  generalize (Text.split ',' s).map Text.trim = parts at h
  split at h
  · cases h
  split at h
  · cases h
  simp only at h
  split at h
  · split at h
    · obtain ⟨action, -, rfl⟩ := Result.map_eq_ok.1 h
      exact ⟨action, .matchAll⟩
    · cases h
  · obtain ⟨⟨value, action⟩, -, rfl⟩ := Result.map_eq_ok.1 h
    exact ⟨action, .srcIpCidr value⟩
  · obtain ⟨⟨value, action⟩, -, rfl⟩ := Result.map_eq_ok.1 h
    exact ⟨action, .dstIpCidr value⟩
  · obtain ⟨⟨value, action⟩, -, rfl⟩ := Result.map_eq_ok.1 h
    exact ⟨action, .srcPort value⟩
  · obtain ⟨⟨value, action⟩, -, rfl⟩ := Result.map_eq_ok.1 h
    exact ⟨action, .dstPort value⟩
  · obtain ⟨⟨value, action⟩, -, rfl⟩ := Result.map_eq_ok.1 h
    exact ⟨action, .proto value⟩
  · obtain ⟨⟨value, action⟩, hp, rfl⟩ := Result.map_eq_ok.1 h
    exact ⟨action, .domain (validName_of_domain hp)⟩
  · obtain ⟨⟨value, action⟩, hp, rfl⟩ := Result.map_eq_ok.1 h
    exact ⟨action, .domainSuffix (validName_of_domain hp)⟩
  · obtain ⟨⟨value, action⟩, hp, rfl⟩ := Result.map_eq_ok.1 h
    exact ⟨action, .domainKeyword (validName_of_domain hp)⟩
  · obtain ⟨⟨value, action⟩, hp, rfl⟩ := Result.map_eq_ok.1 h
    exact ⟨action, .geoip (validName_of_geoip hp)⟩
  · cases h

theorem validateDomainRuleValue_of_valid {value : String} (h : ValidName value) (ruleName field : String) :
    validateDomainRuleValue ruleName field (some value) = .ok () := by
  unfold validateDomainRuleValue
  simp only [h.1, h.2, Bool.false_eq_true, if_false]

theorem Rule.Parsed.count_conditions {action : RuleAction} {rule : Rule} (h : Parsed action rule) :
    rule.conditions.count true = 1 := by
  cases h <;> rfl

/-- A rule for names that was read passes `validate`. -/
theorem Rule.Parsed.validateRule {action : RuleAction} {rule : Rule} (h : Parsed action rule) (hnamed : rule.named = true)
    (ipnetwork : Ipnetwork) (label : String) : Easynet.validateRule ipnetwork label rule = .ok () := by
  cases h with
  | matchAll => rfl
  | domain h =>
    show (validateDomainRuleValue label "DOMAIN" (some _)).bind (fun _ => .ok ()) = .ok ()
    rw [validateDomainRuleValue_of_valid h]
    rfl
  | domainSuffix h =>
    show (validateDomainRuleValue label "DOMAIN-SUFFIX" (some _)).bind (fun _ => .ok ()) = .ok ()
    rw [validateDomainRuleValue_of_valid h]
    rfl
  | domainKeyword h =>
    show (validateDomainRuleValue label "DOMAIN-KEYWORD" (some _)).bind (fun _ => .ok ()) = .ok ()
    rw [validateDomainRuleValue_of_valid h]
    rfl
  | geoip h => exact validateDomainRuleValue_of_valid h label "GEOIP"
  | _ => cases hnamed

/-! ## The loop of `validate` -/

theorem validateFrom_error {ipnetwork : Ipnetwork} {e : ConfigError} :
    ∀ {rules : List Rule} {index : Nat}, validateFrom ipnetwork index rules = .error e →
      ∃ k rule, rules[k]? = some rule ∧
        validateRule ipnetwork ("rule at index " ++ toString (index + k)) rule = .error e
  | [], _, h => by cases h
  | rule :: rules, index, h => by
    rcases Result.bind_eq_error.1 h with hrule | ⟨_, -, hrest⟩
    · exact ⟨0, rule, rfl, hrule⟩
    · obtain ⟨k, rule', hk, he⟩ := validateFrom_error hrest
      refine ⟨k + 1, rule', hk, ?_⟩
      rwa [Nat.add_right_comm, Nat.add_assoc] at he

theorem validateFrom_ok {ipnetwork : Ipnetwork} :
    ∀ {rules : List Rule} {index : Nat}, validateFrom ipnetwork index rules = .ok () →
      ∀ rule ∈ rules, ∃ label, validateRule ipnetwork label rule = .ok ()
  | [], _, _, rule, hm => by cases hm
  | first :: rules, index, h, rule, hm => by
    obtain ⟨_, hfirst, hrest⟩ := Result.bind_eq_ok.1 h
    rcases List.mem_cons.1 hm with rfl | hm
    · exact ⟨_, hfirst⟩
    · exact validateFrom_ok hrest rule hm

/-! ## Rules that were validated -/

/-- **Every text of a rule that the matcher reads stands for a set, and its condition holds for what is in it.** -/
structure Rule.Denotes (ipnetwork : Ipnetwork) (rule : Rule) : Prop where
  cidr : ∀ cidr, cidr ∈ rule.srcIpCidr ∨ cidr ∈ rule.dstIpCidr → ∃ network, ipnetwork.parse cidr = .ok network ∧
    ∀ ip, Matcher.matchesIp ipnetwork cidr ip = network.contains ip
  port : ∀ port, port ∈ rule.srcPort ∨ port ∈ rule.dstPort → ∃ start stop, parsePortRange port = .ok (start, stop) ∧
    ∀ packetPort, Matcher.matchesPort port packetPort = true ↔ ∃ p, packetPort = some p ∧ start ≤ p ∧ p ≤ stop
  proto : ∀ proto ∈ rule.proto, ∃ protocol, Protocol.fromStr proto = some protocol ∧
    ∀ packetProto, Matcher.matchesProtocol proto packetProto = true ↔ packetProto = protocol

theorem validateField_ok {check : String → Except String Unit} {error : String → ConfigError} {label field value : String}
    {field? : Option String} (h : validateField check error label field field? = .ok ()) (hv : value ∈ field?) :
    check value = .ok () := by
  cases hv
  cases hc : check value with
  | error e =>
    simp only [validateField, hc, Except.mapError] at h
    cases h
  | ok u => rfl

theorem denotes_cidr {ipnetwork : Ipnetwork} {label field cidr : String} {field? : Option String}
    (h : validateCidr ipnetwork label field field? = .ok ()) (hv : cidr ∈ field?) :
    ∃ network, ipnetwork.parse cidr = .ok network ∧ ∀ ip, Matcher.matchesIp ipnetwork cidr ip = network.contains ip := by
  obtain ⟨network, hparse, -⟩ := Result.map_eq_ok.1 (validateField_ok h hv)
  refine ⟨network, hparse, fun ip => ?_⟩
  rw [Matcher.matchesIp, hparse]

theorem denotes_port {label field port : String} {field? : Option String} (h : validatePort label field field? = .ok ())
    (hv : port ∈ field?) : ∃ start stop, parsePortRange port = .ok (start, stop) ∧
      ∀ packetPort, Matcher.matchesPort port packetPort = true ↔ ∃ p, packetPort = some p ∧ start ≤ p ∧ p ≤ stop := by
  obtain ⟨⟨start, stop⟩, hparse, -⟩ := Result.map_eq_ok.1 (validateField_ok h hv)
  refine ⟨start, stop, hparse, fun packetPort => ?_⟩
  rw [matchesPort_eq_true, hparse]
  constructor
  · rintro ⟨p, _, _, hp, he, hin⟩
    cases he
    exact ⟨p, hp, hin⟩
  · rintro ⟨p, hp, hin⟩
    exact ⟨p, start, stop, hp, rfl, hin⟩

theorem denotes_proto {label proto : String} {field? : Option String} (h : validateProto label field? = .ok ())
    (hv : proto ∈ field?) : ∃ protocol, Protocol.fromStr proto = some protocol ∧
      ∀ packetProto, Matcher.matchesProtocol proto packetProto = true ↔ packetProto = protocol := by
  have hcheck := validateField_ok h hv
  cases hp : Protocol.fromStr proto with
  | none => rw [hp] at hcheck; cases hcheck
  | some protocol =>
    refine ⟨protocol, rfl, fun packetProto => ?_⟩
    rw [Matcher.matchesProtocol, hp, beq_iff_eq, eq_comm]

theorem denotes_of_validateRule {ipnetwork : Ipnetwork} {label : String} {rule : Rule}
    (h : validateRule ipnetwork label rule = .ok ()) : rule.Denotes ipnetwork := by
  unfold validateRule at h
  simp only at h
  split at h
  · cases h
  obtain ⟨_, hsrcIp, h⟩ := Result.bind_eq_ok.1 h
  obtain ⟨_, hdstIp, h⟩ := Result.bind_eq_ok.1 h
  obtain ⟨_, hsrcPort, h⟩ := Result.bind_eq_ok.1 h
  obtain ⟨_, hdstPort, h⟩ := Result.bind_eq_ok.1 h
  obtain ⟨_, hproto, -⟩ := Result.bind_eq_ok.1 h
  refine ⟨fun cidr hv => ?_, fun port hv => ?_, fun proto hv => denotes_proto hproto hv⟩
  · exact hv.elim (denotes_cidr hsrcIp) (denotes_cidr hdstIp)
  · exact hv.elim (denotes_port hsrcPort) (denotes_port hdstPort)

/-- **What `parse_compact` returns has one condition, which `validate` does not refuse if it is a name, a country or
`MATCH`; and in the rules of an engine every condition stands for a set that its text says.** -/
theorem checks_cover_matching (ipnetwork : Ipnetwork) :
    (∀ s rule, Rule.parseCompact s = .ok rule → rule.conditions.count true = 1 ∧
      (rule.named = true → ∀ label, validateRule ipnetwork label rule = .ok ())) ∧
    (∀ (config : RulesConfig) (e : ConfigError), (∀ rule ∈ config.rules, ∃ s, Rule.parseCompact s = .ok rule) →
      config.validate ipnetwork = .error e → ∃ (index : Nat) (rule : Rule), config.rules[index]? = some rule ∧
        rule.named = false ∧ validateRule ipnetwork ("rule at index " ++ toString index) rule = .error e) ∧
    (∀ maxminddb config engine, RulesEngine.fromConfig ipnetwork maxminddb config = .ok engine →
      ∀ rule ∈ engine.rules, rule.Denotes ipnetwork) := by
  refine ⟨fun s rule h => ?_, fun config e hread h => ?_, fun maxminddb config engine h rule hm => ?_⟩
  · obtain ⟨action, hp⟩ := parsed_of_parseCompact h
    exact ⟨hp.count_conditions, fun hnamed label => hp.validateRule hnamed ipnetwork label⟩
  · obtain ⟨index, rule, hrule, he⟩ := validateFrom_error h
    rw [Nat.zero_add] at he
    obtain ⟨s, hs⟩ := hread rule (List.mem_of_getElem? hrule)
    obtain ⟨action, hp⟩ := parsed_of_parseCompact hs
    refine ⟨index, rule, hrule, Bool.eq_false_iff.2 (fun hnamed => ?_), he⟩
    rw [hp.validateRule hnamed] at he
    cases he
  · obtain ⟨_, hvalid, -⟩ := Result.map_eq_ok.1 h
    have hrules : engine.rules = config.rules := congrArg RulesEngine.rules (RulesEngine.fromConfig_ok h)
    obtain ⟨label, hrule⟩ := validateFrom_ok hvalid rule (hrules ▸ hm)
    exact denotes_of_validateRule hrule

/-- A rule for a country, then one whose ports are in the wrong order. -/
def portsReversed : RulesConfig :=
  ⟨.reject, [{ Rule.new .direct with geoip := some "CN" }, { Rule.new .proxy with dstPort := some "9000-8000" }], none⟩

theorem checks_cover_matching_port :
    (∃ rule, Rule.parseCompact "geoip,cn,direct" = .ok rule ∧ rule.conditions.count true = 1 ∧
      validateRule RulesEngine.noNetworks "rule" rule = .ok ()) ∧
    (∃ (index : Nat) (rule : Rule), portsReversed.rules[index]? = some rule ∧ rule.named = false) ∧
    (∃ engine, RulesEngine.fromConfig RulesEngine.noNetworks RulesEngine.noDatabases RulesEngine.udpRejected = .ok engine ∧
      ∀ rule ∈ engine.rules, rule.Denotes RulesEngine.noNetworks) := by
  obtain ⟨hparse, hlist, hengine⟩ := checks_cover_matching RulesEngine.noNetworks
  have hgeoip : Rule.parseCompact "geoip,cn,direct" = .ok { Rule.new .direct with geoip := some "CN" } := by decide +kernel
  have hport : Rule.parseCompact "dst-port,9000-8000,proxy" = .ok { Rule.new .proxy with dstPort := some "9000-8000" } := by
    decide +kernel
  obtain ⟨hcount, hnamed⟩ := hparse _ _ hgeoip
  refine ⟨⟨_, hgeoip, hcount, hnamed rfl "rule"⟩, ?_, ?_⟩
  · have hfails : portsReversed.validate RulesEngine.noNetworks = .error (.invalidPortRange
        "rule at index 1 has an invalid DST-PORT: 9000-8000 (start port is greater than end port)") := by decide +kernel
    have hread : ∀ rule ∈ portsReversed.rules, ∃ s, Rule.parseCompact s = .ok rule := by
      intro rule hm
      rcases List.mem_cons.1 hm with rfl | hm
      · exact ⟨_, hgeoip⟩
      · exact ⟨_, List.mem_singleton.1 hm ▸ hport⟩
    obtain ⟨index, rule, hrule, hname, -⟩ := hlist portsReversed _ hread hfails
    exact ⟨index, rule, hrule, hname⟩
  · have hvalid : RulesEngine.udpRejected.validate RulesEngine.noNetworks = .ok () := by decide +kernel
    have hload : RulesEngine.fromConfig RulesEngine.noNetworks RulesEngine.noDatabases RulesEngine.udpRejected =
        .ok ⟨RulesEngine.udpRejected.rules, ⟨none⟩⟩ := by
      rw [RulesEngine.fromConfig, hvalid]
      rfl
    exact ⟨_, hload, hengine _ _ _ hload⟩

end Easynet
