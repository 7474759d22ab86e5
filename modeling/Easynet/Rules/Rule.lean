import Easynet.Lib.Result
import Easynet.Lib.Text
/-!
# Rule — routing rules and their text

A rule is written as a keyword, a value and an action, with commas between them, or as `MATCH` and an action.
`Rule::parse_compact` takes such a text apart, `Display` writes it again, and the deserializer and the serializer of
`RulesConfig` do the same for a list of rules.  A rule that was read has exactly one condition, whose value was trimmed and
normalised, so that its text is read as the same rule.
-/
namespace Easynet

/-- What the rules say about a packet read from the TUN device. -/
inductive RuleAction
  | direct
  | proxy
  | reject
  deriving DecidableEq, Repr

def RuleAction.toText : RuleAction → String
  | .direct => "Direct"
  | .proxy  => "Proxy"
  | .reject => "Reject"

structure Rule where
  srcIpCidr : Option String
  dstIpCidr : Option String
  srcPort : Option String
  dstPort : Option String
  proto : Option String
  domain : Option String
  domainSuffix : Option String
  domainKeyword : Option String
  geoip : Option String
  matchAll : Bool
  action : RuleAction
  deriving DecidableEq, Repr

/-! ## Reading a rule -/

def parseAction (value : String) : Except String RuleAction :=
  match Text.toAsciiLowercase value with
  | "direct" => .ok .direct
  | "proxy"  => .ok .proxy
  | "reject" => .ok .reject
  | "drop"   => .ok .reject
  | _        => .error ("unknown rule action '" ++ value ++ "'")

def parseFieldRuleParts (parts : List String) (field : String) : Except String (String × RuleAction) :=
  match parts with
  | [_, value, action] =>
    if value.isEmpty then .error (field ++ " rule value cannot be empty")
    else (parseAction action).map (fun action => (value, action))
  | _ => .error (field ++ " rule format must be " ++ field ++ ",value,action")

/-- The characters that no name in a rule has. -/
def invalidInName (c : Char) : Bool := Text.isWhitespace c || c == '/' || c == ','

/-- The checks on the normalised value of a `kind` rule, which its errors name. -/
def checkRuleValue (kind value : String) : Except String String :=
  if value.isEmpty then .error (kind ++ " rule value cannot be empty")
  else if value.toList.any invalidInName then .error ("invalid " ++ kind ++ " rule value '" ++ value ++ "'")
  else .ok value

def normalizeDomainRuleValue (value : String) : Except String String :=
  checkRuleValue "domain" (Text.toAsciiLowercase (Text.trimEndMatches '.' (Text.trim value)))

def parseDomainRuleParts (parts : List String) (field : String) : Except String (String × RuleAction) :=
  (parseFieldRuleParts parts field).bind (fun p => (normalizeDomainRuleValue p.1).map (fun value => (value, p.2)))

def normalizeGeoipRuleValue (value : String) : Except String String :=
  checkRuleValue "GEOIP" (Text.toAsciiUppercase (Text.trim value))

def parseGeoipRuleParts (parts : List String) (field : String) : Except String (String × RuleAction) :=
  (parseFieldRuleParts parts field).bind (fun p => (normalizeGeoipRuleValue p.1).map (fun value => (value, p.2)))

namespace Rule

def new (action : RuleAction) : Rule := ⟨none, none, none, none, none, none, none, none, none, false, action⟩

/-- `parse_compact`, from the trimmed parts on. -/
def parseParts (parts : List String) : Except String Rule :=
  match parts with
  | [] => .error "rule is empty"
  | head :: rest =>
    if head.isEmpty then .error "rule is empty"
    else
      let field := Text.toAsciiUppercase head
      match field with
      | "MATCH" =>
        match rest with
        | [action] => (parseAction action).map (fun action => { new action with matchAll := true })
        | _        => .error "MATCH rule format must be MATCH,action"
      | "SRC-IP-CIDR" => (parseFieldRuleParts parts field).map (fun p => { new p.2 with srcIpCidr := some p.1 })
      | "DST-IP-CIDR" => (parseFieldRuleParts parts field).map (fun p => { new p.2 with dstIpCidr := some p.1 })
      | "SRC-PORT" => (parseFieldRuleParts parts field).map (fun p => { new p.2 with srcPort := some p.1 })
      | "DST-PORT" => (parseFieldRuleParts parts field).map (fun p => { new p.2 with dstPort := some p.1 })
      | "PROTO" => (parseFieldRuleParts parts field).map (fun p => { new p.2 with proto := some p.1 })
      | "DOMAIN" => (parseDomainRuleParts parts field).map (fun p => { new p.2 with domain := some p.1 })
      | "DOMAIN-SUFFIX" => (parseDomainRuleParts parts field).map (fun p => { new p.2 with domainSuffix := some p.1 })
      | "DOMAIN-KEYWORD" => (parseDomainRuleParts parts field).map (fun p => { new p.2 with domainKeyword := some p.1 })
      | "GEOIP" => (parseGeoipRuleParts parts field).map (fun p => { new p.2 with geoip := some p.1 })
      | _ => .error ("unknown rule field '" ++ head ++ "'")

def parseCompact (value : String) : Except String Rule := parseParts ((Text.split ',' value).map Text.trim)

/-! ## Writing a rule -/

def conditionText (keyword value : String) (action : RuleAction) : String :=
  keyword ++ "," ++ value ++ "," ++ action.toText

/-- `Display`: the first condition there is. -/
def toText (rule : Rule) : String :=
  if rule.matchAll then "MATCH," ++ rule.action.toText
  else match rule.srcIpCidr with
  | some value => conditionText "SRC-IP-CIDR" value rule.action
  | none => match rule.dstIpCidr with
  | some value => conditionText "DST-IP-CIDR" value rule.action
  | none => match rule.srcPort with
  | some value => conditionText "SRC-PORT" value rule.action
  | none => match rule.dstPort with
  | some value => conditionText "DST-PORT" value rule.action
  | none => match rule.proto with
  | some value => conditionText "PROTO" value rule.action
  | none => match rule.domain with
  | some value => conditionText "DOMAIN" value rule.action
  | none => match rule.domainSuffix with
  | some value => conditionText "DOMAIN-SUFFIX" value rule.action
  | none => match rule.domainKeyword with
  | some value => conditionText "DOMAIN-KEYWORD" value rule.action
  | none => match rule.geoip with
  | some value => conditionText "GEOIP" value rule.action
  | none => "MATCH," ++ rule.action.toText

end Rule

structure RulesConfig where
  defaultAction : RuleAction
  rules : List Rule
  geoipPath : Option String
  deriving DecidableEq, Repr

namespace RulesConfig

/-- The deserializer, from the strings of the sequence. -/
def visitSeq (seq : List String) : Except String RulesConfig :=
  (seq.mapM Rule.parseCompact).map (fun rules => ⟨.reject, rules, none⟩)

def serialize (config : RulesConfig) : List String := config.rules.map Rule.toText

end RulesConfig

/-! ## Parts and their text -/

/-- A part of a rule's text that is read as it was written. -/
structure Plain (value : String) : Prop where
  comma : ',' ∉ value.toList
  trim : Text.trim value = value

theorem plain_of_mem_parts {s part : String} (h : part ∈ (Text.split ',' s).map Text.trim) : Plain part := by
  obtain ⟨raw, hraw, rfl⟩ := List.mem_map.1 h
  exact ⟨fun hc => Text.notMem_of_mem_split hraw (Text.mem_of_mem_trim hc), Text.trim_trim raw⟩

theorem plain_action (action : RuleAction) : Plain action.toText := by
  cases action <;> exact ⟨by decide, by decide⟩

theorem plain_of_valid {value : String} (h : value.toList.any invalidInName = false) : Plain value := by
  have hall : ∀ c ∈ value.toList, invalidInName c = false := by
    intro c hc
    exact Bool.eq_false_iff.2 (fun hi => Bool.eq_false_iff.1 h (List.any_eq_true.2 ⟨c, hc, hi⟩))
  refine ⟨fun hc => ?_, Text.trim_of_none (fun c hc => ?_)⟩
  · have := hall ',' hc
    cases this
  · have := hall c hc
    simp only [invalidInName, Bool.or_eq_false_iff] at this
    exact this.1.1

theorem parseAction_toText (action : RuleAction) : parseAction action.toText = .ok action := by
  cases action <;> rfl

theorem parts_match (action : RuleAction) :
    (Text.split ',' ("MATCH," ++ action.toText)).map Text.trim = ["MATCH", action.toText] := by
  cases action <;> decide

theorem parts_condition {keyword value : String} (hk : Plain keyword) (hv : Plain value) (action : RuleAction) :
    (Text.split ',' (Rule.conditionText keyword value action)).map Text.trim = [keyword, value, action.toText] := by
  have ha := plain_action action
  have htext : Rule.conditionText keyword value action =
      keyword ++ String.singleton ',' ++ (value ++ String.singleton ',' ++ action.toText) := by
    show keyword ++ "," ++ value ++ "," ++ action.toText = _
    simp only [String.append_assoc]
    rfl
  rw [htext, Text.split_append hk.comma, Text.split_append hv.comma, Text.split_of_notMem ha.comma]
  simp only [List.map_cons, List.map_nil, hk.trim, hv.trim, ha.trim]

/-! ## What was read is read again -/

/-- A way to read a condition that reads its own result as it stands. -/
def Stable (parse : List String → String → Except String (String × RuleAction)) : Prop :=
  ∀ {parts field value action}, (∀ part ∈ parts, Plain part) → parse parts field = .ok (value, action) →
    Plain value ∧ ∀ field', parse [field', value, action.toText] field' = .ok (value, action)

theorem parseFieldRuleParts_ok {parts : List String} {field value : String} {action : RuleAction}
    (h : parseFieldRuleParts parts field = .ok (value, action)) :
    value ∈ parts ∧ value.isEmpty = false := by
  unfold parseFieldRuleParts at h
  split at h
  · split at h
    · cases h
    · rename_i value' last hne
      obtain ⟨action', -, he⟩ := Result.map_eq_ok.1 h
      cases he
      exact ⟨List.mem_cons_of_mem _ List.mem_cons_self, Bool.eq_false_iff.2 hne⟩
  · cases h

theorem parseFieldRuleParts_eq {value : String} (hne : value.isEmpty = false) (field : String) (action : RuleAction) :
    parseFieldRuleParts [field, value, action.toText] field = .ok (value, action) := by
  show (if value.isEmpty then _ else (parseAction action.toText).map _ : Except String (String × RuleAction)) = _
  rw [hne, parseAction_toText]
  rfl

theorem stable_field : Stable parseFieldRuleParts := by
  intro parts field value action hplain h
  obtain ⟨hm, hne⟩ := parseFieldRuleParts_ok h
  exact ⟨hplain value hm, fun field' => parseFieldRuleParts_eq hne field' action⟩

theorem checkRuleValue_ok {kind value value' : String} (h : checkRuleValue kind value = .ok value') :
    value = value' ∧ value.isEmpty = false ∧ value.toList.any invalidInName = false := by
  unfold checkRuleValue at h
  split at h
  · cases h
  · rename_i hne
    split at h
    · cases h
    · rename_i hvalid
      exact ⟨Except.ok.inj h, Bool.eq_false_iff.2 hne, Bool.eq_false_iff.2 hvalid⟩

/-- A condition whose value is normalised and checked, by a normalisation that leaves its own results as they are. -/
theorem stable_normalized (normalize : String → String) (kind : String)
    (hidem : ∀ raw, Plain (normalize raw) → normalize (normalize raw) = normalize raw)
    {parse : List String → String → Except String (String × RuleAction)}
    (hparse : ∀ parts field, parse parts field = (parseFieldRuleParts parts field).bind (fun p =>
      (checkRuleValue kind (normalize p.1)).map (fun value => (value, p.2)))) : Stable parse := by
  intro parts field value action hplain h
  rw [hparse] at h
  obtain ⟨p, -, h⟩ := Result.bind_eq_ok.1 h
  obtain ⟨value', hn, he⟩ := Result.map_eq_ok.1 h
  cases he
  obtain ⟨hvalue, hne, hvalid⟩ := checkRuleValue_ok hn
  have hv := plain_of_valid hvalid
  have hagain := hidem p.1 hv
  rw [hvalue] at hn hne hv hagain
  refine ⟨hv, fun field' => ?_⟩
  rw [hparse, parseFieldRuleParts_eq hne]
  exact Result.map_eq_ok.2 ⟨value, by rw [hagain, hn], rfl⟩

theorem stable_domain : Stable parseDomainRuleParts := by
  refine stable_normalized (fun raw => Text.toAsciiLowercase (Text.trimEndMatches '.' (Text.trim raw))) "domain"
    (fun raw hv => ?_) (fun _ _ => rfl)
  rw [hv.trim, Text.trimEndMatches_toAsciiLowercase (by decide), Text.toAsciiLowercase_idem]

theorem stable_geoip : Stable parseGeoipRuleParts := by
  refine stable_normalized (fun raw => Text.toAsciiUppercase (Text.trim raw)) "GEOIP" (fun raw hv => ?_) (fun _ _ => rfl)
  rw [hv.trim, Text.toAsciiUppercase_idem]

namespace Rule

/-- One kind of condition: its parts are read by `parse`, its rule is built by `set`, and its text starts with the
keyword. -/
theorem parseCompact_condition {parse : List String → String → Except String (String × RuleAction)} (hstable : Stable parse)
    {set : String × RuleAction → Rule} {keyword : String} (hk : Plain keyword)
    (htext : ∀ value action, (set (value, action)).toText = conditionText keyword value action)
    (hparse : ∀ value last, parseParts [keyword, value, last] = (parse [keyword, value, last] keyword).map set)
    {parts : List String} {field : String} (hplain : ∀ part ∈ parts, Plain part) {rule : Rule}
    (h : (parse parts field).map set = .ok rule) : parseCompact rule.toText = .ok rule := by
  obtain ⟨⟨value, action⟩, hp, rfl⟩ := Result.map_eq_ok.1 h
  obtain ⟨hv, hagain⟩ := hstable hplain hp
  rw [parseCompact, htext, parts_condition hk hv, hparse, hagain]
  rfl

theorem parseCompact_toText {s : String} {rule : Rule} (h : parseCompact s = .ok rule) :
    parseCompact rule.toText = .ok rule := by
  have hplain : ∀ part ∈ (Text.split ',' s).map Text.trim, Plain part := fun part hm => plain_of_mem_parts hm
  unfold parseCompact parseParts at h
  generalize (Text.split ',' s).map Text.trim = parts at h hplain
  split at h
  · cases h
  split at h
  · cases h
  simp only at h
  split at h
  · -- `MATCH`
    split at h
    · rename_i last
      obtain ⟨action, -, rfl⟩ := Result.map_eq_ok.1 h
      have htext : toText { new action with matchAll := true } = "MATCH," ++ action.toText := rfl
      rw [parseCompact, htext, parts_match]
      exact Result.map_eq_ok.2 ⟨action, parseAction_toText action, rfl⟩
    · cases h
  iterate 5 exact parseCompact_condition stable_field ⟨by decide, by decide⟩ (fun _ _ => rfl) (fun _ _ => rfl) hplain h
  iterate 3 exact parseCompact_condition stable_domain ⟨by decide, by decide⟩ (fun _ _ => rfl) (fun _ _ => rfl) hplain h
  · exact parseCompact_condition stable_geoip ⟨by decide, by decide⟩ (fun _ _ => rfl) (fun _ _ => rfl) hplain h
  · cases h

end Rule

theorem mapM_parseCompact_toText : ∀ {seq : List String} {rules : List Rule}, seq.mapM Rule.parseCompact = .ok rules →
    (rules.map Rule.toText).mapM Rule.parseCompact = .ok rules
  | [], rules, h => by
    cases h
    rfl
  | s :: seq, rules, h => by
    rw [List.mapM_cons] at h
    obtain ⟨rule, hs, h⟩ := Result.bind_eq_ok.1 h
    obtain ⟨rest, hseq, h⟩ := Result.bind_eq_ok.1 h
    cases h
    rw [List.map_cons, List.mapM_cons, Rule.parseCompact_toText hs, mapM_parseCompact_toText hseq]
    rfl

/-- **A rule that was read is read from its own text, and so is a list of rules**, in every field and in its order. -/
theorem rules_roundtrip :
    (∀ (s : String) (rule : Rule), Rule.parseCompact s = .ok rule → Rule.parseCompact rule.toText = .ok rule) ∧
    (∀ (seq : List String) (config : RulesConfig), RulesConfig.visitSeq seq = .ok config →
      RulesConfig.visitSeq config.serialize = .ok config) := by
  refine ⟨fun s rule h => Rule.parseCompact_toText h, fun seq config h => ?_⟩
  obtain ⟨rules, hseq, rfl⟩ := Result.map_eq_ok.1 h
  exact Result.map_eq_ok.2 ⟨rules, mapM_parseCompact_toText hseq, rfl⟩

theorem rules_roundtrip_domain :
    ∃ rule, Rule.parseCompact " domain-Suffix , Example.COM.. ,drop" = .ok rule ∧
      rule = { Rule.new .reject with domainSuffix := some "example.com" } ∧
      rule.toText = "DOMAIN-SUFFIX,example.com,Reject" ∧ Rule.parseCompact rule.toText = .ok rule := by
  have hparse : Rule.parseCompact " domain-Suffix , Example.COM.. ,drop" =
      .ok { Rule.new .reject with domainSuffix := some "example.com" } := by decide
  exact ⟨_, hparse, rfl, by decide, rules_roundtrip.1 _ _ hparse⟩

end Easynet
