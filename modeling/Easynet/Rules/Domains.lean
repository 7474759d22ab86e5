import Easynet.Lib.Result
import Easynet.Rules.DomainCache
import Easynet.Rules.Engine
/-!
# Domains — domain rules and the names of an address

A domain rule compares its value with the names that the domain cache has for a packet's destination.  Both sides were
written by someone else, with white space, dots at the end and capital letters; both are folded in the same way before they
are stored, so that the comparison is one of folded names: equality, a suffix of the labels, or a part of the text.
-/
namespace Easynet

/-- Outer white space trimmed, then dots at the end removed, then ASCII letters in lower case. -/
def foldName (name : String) : String := Text.toAsciiLowercase (Text.trimEndMatches '.' (Text.trim name))

/-- The text of a rule, as it is written. -/
def ruleText (keyword value action : String) : String := keyword ++ "," ++ value ++ "," ++ action

theorem foldName_trim (name : String) : foldName (Text.trim name) = foldName name := by
  rw [foldName, Text.trim_trim, foldName]

/-! ## What a domain rule is read as -/

theorem parseFieldRuleParts_parts {parts : List String} {field value : String} {action : RuleAction}
    (h : parseFieldRuleParts parts field = .ok (value, action)) : ∃ head last, parts = [head, value, last] := by
  unfold parseFieldRuleParts at h
  split at h
  · rename_i head value' last
    split at h
    · cases h
    · obtain ⟨action', -, heq⟩ := Result.map_eq_ok.1 h
      cases heq
      exact ⟨head, last, rfl⟩
  · cases h

theorem parseDomainRuleParts_ok {parts : List String} {field value : String} {action : RuleAction}
    (h : parseDomainRuleParts parts field = .ok (value, action)) :
    ∃ head raw last, parts = [head, raw, last] ∧ value = foldName raw := by
  obtain ⟨p, hp, h⟩ := Result.bind_eq_ok.1 h
  obtain ⟨value', hn, heq⟩ := Result.map_eq_ok.1 h
  obtain ⟨head, last, hparts⟩ := parseFieldRuleParts_parts hp
  have hfold : foldName p.1 = value' := (checkRuleValue_ok hn).1
  exact ⟨head, p.1, last, hparts, (Prod.mk.inj heq).1.symm.trans hfold.symm⟩

/-- The parts of a rule's text, if there are three. -/
theorem parts_ruleText {keyword value action head raw last : String} (hk : ',' ∉ keyword.toList)
    (h : (Text.split ',' (ruleText keyword value action)).map Text.trim = [head, raw, last]) : raw = Text.trim value := by
  have htext : ruleText keyword value action =
      keyword ++ String.singleton ',' ++ (value ++ String.singleton ',' ++ action) := by
    show keyword ++ "," ++ value ++ "," ++ action = _
    simp only [String.append_assoc]
    rfl
  rw [htext, Text.split_append hk, List.map_cons] at h
  obtain ⟨-, hrest⟩ := List.cons.inj h
  have hvalue : Text.split ',' (value ++ String.singleton ',' ++ action) = Text.split ',' value ++ Text.split ',' action :=
    Text.split_append_append ',' value action
  rw [hvalue, List.map_append] at hrest
  -- each side has at least one part, so the value has one
  have hlen := congrArg List.length hrest
  have hne := Text.length_split_pos ',' value
  have hne' := Text.length_split_pos ',' action
  simp only [List.length_append, List.length_map, List.length_cons, List.length_nil] at hlen
  have hone : (Text.split ',' value).length = 1 := by omega
  rw [Text.split_of_length_one hone, List.map_singleton, List.singleton_append] at hrest
  exact (List.cons.inj hrest).1.symm

/-- A domain rule that is read has the folded value. -/
theorem parse_domain_rule (keyword : String) (set : String × RuleAction → Rule) (hk : Plain keyword)
    (hparse : ∀ rest, Rule.parseParts (keyword :: rest) = (parseDomainRuleParts (keyword :: rest) keyword).map set)
    {value action : String} {rule : Rule} (h : Rule.parseCompact (ruleText keyword value action) = .ok rule) :
    ∃ action, rule = set (foldName value, action) := by
  have hparts : ∃ rest, (Text.split ',' (ruleText keyword value action)).map Text.trim = keyword :: rest := by
    have htext : ruleText keyword value action = keyword ++ String.singleton ',' ++ (value ++ "," ++ action) := by
      show keyword ++ "," ++ value ++ "," ++ action = _
      simp only [String.append_assoc]
      rfl
    exact ⟨_, by rw [htext, Text.split_append hk.comma, List.map_cons, hk.trim]⟩
  obtain ⟨rest, hrest⟩ := hparts
  rw [Rule.parseCompact, hrest, hparse] at h
  obtain ⟨⟨folded, action'⟩, hp, rfl⟩ := Result.map_eq_ok.1 h
  obtain ⟨head, raw, last, hthree, hfold⟩ := parseDomainRuleParts_ok hp
  rw [parts_ruleText hk.comma (hrest.trans hthree), foldName_trim] at hfold
  exact ⟨action', by rw [hfold]⟩

/-! ## What it matches -/

theorem eq_singleton {domains : List String} {name : String} (hn : domains.Nodup) (h : ∀ d, d ∈ domains ↔ d = name) :
    domains = [name] := by
  have hperm : domains.Perm [name] :=
    (List.perm_ext_iff_of_nodup hn (List.nodup_singleton name)).2 (fun d => (h d).trans List.mem_singleton.symm)
  exact List.perm_singleton.1 hperm

/-- **A domain rule compares folded names**: for a packet whose destination has one live name, a `DOMAIN` rule matches if and
only if the folded names are equal, a `DOMAIN-SUFFIX` rule if and only if the labels of its value are the last labels of
the name, and a `DOMAIN-KEYWORD` rule if and only if its value is a part of the name. -/
theorem domain_rules_fold {lastInstant : Nat} {ops : List (Nat × CacheOp)} {now : Nat} {packet : PacketContext}
    (htimes : ops.Pairwise (fun a b => a.1 ≤ b.1)) (hnow : ∀ op ∈ ops, op.1 ≤ now)
    (hcache : DomainCache.answer lastInstant ops now packet.dstIp = some packet.domains) {name : String}
    (hlive : DomainCache.Live ops packet.dstIp (foldName name) now)
    (honly : ∀ domain, DomainCache.Live ops packet.dstIp domain now → domain = foldName name)
    (ipnetwork : Ipnetwork) (geoip : GeoIpMatcher) (value action : String) :
    (∀ rule, Rule.parseCompact (ruleText "DOMAIN" value action) = .ok rule →
      (Matcher.matches ipnetwork rule packet geoip = true ↔ foldName name = foldName value)) ∧
    (∀ rule, Rule.parseCompact (ruleText "DOMAIN-SUFFIX" value action) = .ok rule →
      (Matcher.matches ipnetwork rule packet geoip = true ↔
        Text.split '.' (foldName value) <:+ Text.split '.' (foldName name))) ∧
    (∀ rule, Rule.parseCompact (ruleText "DOMAIN-KEYWORD" value action) = .ok rule →
      (Matcher.matches ipnetwork rule packet geoip = true ↔ (foldName value).toList <:+: (foldName name).toList)) := by
  obtain ⟨hnodup, hmem⟩ := DomainCache.answer_live htimes hnow hcache
  have hdomains : packet.domains = [foldName name] := by
    refine eq_singleton hnodup (fun domain => (hmem domain).trans ⟨honly domain, ?_⟩)
    rintro rfl
    exact hlive
  refine ⟨fun rule h => ?_, fun rule h => ?_, fun rule h => ?_⟩
  · obtain ⟨action', rfl⟩ := parse_domain_rule "DOMAIN" (fun p => { Rule.new p.2 with domain := some p.1 })
      ⟨by decide, by decide⟩ (fun _ => rfl) h
    simp [Matcher.matches, Rule.new, Matcher.matchesDomain, hdomains]
  · obtain ⟨action', rfl⟩ := parse_domain_rule "DOMAIN-SUFFIX" (fun p => { Rule.new p.2 with domainSuffix := some p.1 })
      ⟨by decide, by decide⟩ (fun _ => rfl) h
    rw [Text.split_suffix_iff]
    simp [Matcher.matches, Rule.new, Matcher.matchesDomainSuffix, hdomains]
  · obtain ⟨action', rfl⟩ := parse_domain_rule "DOMAIN-KEYWORD" (fun p => { Rule.new p.2 with domainKeyword := some p.1 })
      ⟨by decide, by decide⟩ (fun _ => rfl) h
    simp [Matcher.matches, Rule.new, Matcher.matchesDomainKeyword, hdomains, Text.contains]

/-- A name is resolved, as a resolver writes it. -/
def wwwResolved : List (Nat × CacheOp) := [(0, .insert (.new 93 184 216 34) " WWW.Example.com. " 60)]

/-- A packet to the address, with what the cache knows of it. -/
def wwwPacket : PacketContext :=
  (PacketContext.new (.new 10 0 0 2) (.new 93 184 216 34) (some 50000) (some 443) .tcp).withDomains ["www.example.com"]

theorem live_wwwResolved {domain : String} (h : DomainCache.Live wwwResolved (.new 93 184 216 34) domain 1) :
    domain = foldName "www.example.com" := by
  obtain ⟨t₀, ttl, hlast, -⟩ := h
  obtain ⟨op, hm, hi⟩ := List.mem_filterMap.1 (List.mem_of_getLast? hlast)
  cases List.mem_singleton.1 hm
  have hname : normalizeDomain " WWW.Example.com. " = some "www.example.com" := by decide
  have hfold : foldName "www.example.com" = "www.example.com" := by decide
  rw [DomainCache.inserted_insert (by decide) hname] at hi
  split at hi
  · rename_i he
    rw [hfold, he]
  · cases hi

theorem domain_rules_fold_suffix :
    ∃ rule, Rule.parseCompact (ruleText "DOMAIN-SUFFIX" " Example.COM. " "proxy") = .ok rule ∧
      Matcher.matches RulesEngine.noNetworks rule wwwPacket .withoutDatabase = true := by
  have hparse : Rule.parseCompact (ruleText "DOMAIN-SUFFIX" " Example.COM. " "proxy") =
      .ok { Rule.new .proxy with domainSuffix := some "example.com" } := by decide +kernel
  have hcache : DomainCache.answer 1000 wwwResolved 1 wwwPacket.dstIp = some wwwPacket.domains := by decide +kernel
  have hlive : DomainCache.Live wwwResolved wwwPacket.dstIp (foldName "www.example.com") 1 :=
    ⟨0, 60, by decide +kernel, by decide⟩
  have hrules := domain_rules_fold (by decide) (by decide) hcache hlive (fun _ h => live_wwwResolved h)
    RulesEngine.noNetworks .withoutDatabase " Example.COM. " "proxy"
  exact ⟨_, hparse, (hrules.2.1 _ hparse).2 (by decide +kernel)⟩

end Easynet
