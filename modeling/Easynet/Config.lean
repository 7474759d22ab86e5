import Easynet.AddrText
import Easynet.Client
import Easynet.Lib.Serde
import Easynet.Startup
/-!
# Config — the configuration file

`AppConfig` as serde reads it from `config/easynet.yaml` and writes it there, each struct with the attributes of its fields,
and `AppConfig::load` around it: a file that is not there is written with the defaults, the session id comes from the state
file, and the path of the GeoIP database from the rule sets to the rules.

A file is the document that it holds: that `serde_yaml` reads the document which it has written is assumed.  What has been
loaded is loaded again from the file that is left, and from the file that it is saved to (`load_again`), whatever the file
had looked like: with DNS servers in one string, rules in any case and spacing, fields left out and keys that nobody reads.
-/
namespace Easynet

open Serde (Node Scalars Format Fields)

structure RuntimeConfig where
  mode : String
  logLevel : String
  deriving DecidableEq, Repr

/-- The client's section, in full. -/
structure ConnectConfig extends ClientConfig where
  serverAddr : SocketAddr
  caCertPath : String
  deriving DecidableEq, Repr

structure RuleSetConfig where
  geoipPath : Option String
  deriving DecidableEq, Repr

structure TransparentProxyConfig where
  interface : String
  smoltcpAddr : IpAddr
  smoltcpNetmask : IpAddr
  smoltcpGateway : IpAddr
  upstreamServer : Option IpAddr
  deriving DecidableEq, Repr

structure AppConfig where
  runtime : RuntimeConfig
  client : ConnectConfig
  server : StartConfig
  rules : RulesConfig
  ruleSets : RuleSetConfig
  transparentProxy : TransparentProxyConfig
  deriving DecidableEq, Repr

/-! ## The defaults -/

def RuntimeConfig.default : RuntimeConfig := ⟨"client", "info"⟩

def ConnectConfig.default : ConnectConfig where
  transportType := "udp"
  sessionId := ""
  token := ""
  serverAddr := .v4 (.new 127 0 0 1) 12345
  caCertPath := "certs/ca-cert.pem"

def StartConfig.default : StartConfig where
  toServerConfig := .default
  bindAddr := .v4 (.new 127 0 0 1) 12345
  certPath := "certs/server-cert.pem"
  keyPath := "certs/server-key.pem"

def defaultRules : RulesConfig := ⟨.reject, [], none⟩

def RuleSetConfig.default : RuleSetConfig := ⟨none⟩

def TransparentProxyConfig.default : TransparentProxyConfig where
  interface := ""
  smoltcpAddr := .v4 (.new 10 0 0 2)
  smoltcpNetmask := .v4 (.new 255 255 255 0)
  smoltcpGateway := .v4 (.new 10 0 0 1)
  upstreamServer := none

def AppConfig.default : AppConfig where
  runtime := .default
  client := .default
  server := .default
  rules := defaultRules
  ruleSets := .default
  transparentProxy := .default

/-! ## The types of the fields -/

section

variable (y : Scalars)

def IpAddr.format : Format IpAddr :=
  y.parsed (fun s => (IpAddr.fromStr s).toOption) IpAddr.toText (fun {_ ip} _ => by rw [IpAddr.fromStr_toText ip]; rfl)

def SocketAddr.format : Format SocketAddr :=
  y.parsed (fun s => (SocketAddr.fromStr s).toOption) SocketAddr.toText (fun {_ addr} h => by
    rw [SocketAddr.fromStr_toText addr, SocketAddr.displayed_of_fromStr (Result.toOption_eq_some h)]
    rfl)

/-- What `deserialize_any` finds for the DNS servers. -/
def dnsValue (node : Node) : Option DnsValue :=
  ((y.anyString node).map DnsValue.str).or ((Scalars.texts node).map DnsValue.seq)

def dnsServersFormat : Format (List IpAddr) where
  read node := (dnsValue y node).bind (fun value => (DnsServers.deserializeTunDnsServers std value).toOption)
  write ips := .seq ((ips.map IpAddr.toText).map y.str)
  Valid _ := True
  kept := id
  valid_of_read _ := trivial
  read_write {ips} _ := by
    have hvalue : dnsValue y (.seq ((ips.map IpAddr.toText).map y.str)) = some (.seq (ips.map IpAddr.toText)) := by
      rw [dnsValue, Scalars.texts_str]
      rfl
    rw [hvalue, Option.bind_some, DnsServers.deserializeTunDnsServers, DnsServers.visitSeq_eq, parseDnsServers_toText]
    rfl

def RulesConfig.format : Format RulesConfig where
  read node := (Scalars.texts node).bind (fun seq => (RulesConfig.visitSeq seq).toOption)
  write config := .seq (config.serialize.map y.str)
  Valid config := RulesConfig.visitSeq config.serialize = .ok config
  kept := id
  valid_of_read {node} {config} hread := by
    obtain ⟨seq, -, hread⟩ := Option.bind_eq_some_iff.1 hread
    obtain ⟨rules, hseq, rfl⟩ := Result.map_eq_ok.1 (Result.toOption_eq_some hread)
    exact Result.map_eq_ok.2 ⟨rules, mapM_parseCompact_toText hseq, rfl⟩
  read_write hvalid := by
    rw [Scalars.texts_str, Option.bind_some, hvalid]
    rfl

/-! ## The sections -/

open Serde.Fields (required defaulted skipped)

def RuntimeConfig.format : Format RuntimeConfig :=
  (((required "mode" y.string).and (required "log_level" y.string)).iso
    (fun (mode, logLevel) => ⟨mode, logLevel⟩)
    (fun config => (config.mode, config.logLevel)) (fun _ => rfl)).struct
    (by show ["mode", "log_level"].Nodup; decide)

def ConnectConfig.format : Format ConnectConfig :=
  (((required "transport_type" y.string).and
    ((required "server_addr" (SocketAddr.format y)).and
    ((required "ca_cert_path" y.string).and
    ((skipped "session_id" y.string "").and
    (required "token" y.string))))).iso
    (fun (transportType, serverAddr, caCertPath, sessionId, token) =>
      ⟨⟨transportType, sessionId, token⟩, serverAddr, caCertPath⟩)
    (fun config => (config.transportType, config.serverAddr, config.caCertPath, config.sessionId, config.token))
    (fun _ => rfl)).struct
    (by show ["transport_type", "server_addr", "ca_cert_path", "session_id", "token"].Nodup; decide)

def StartConfig.format : Format StartConfig :=
  (((required "transport_type" y.string).and
    ((required "bind_addr" (SocketAddr.format y)).and
    ((required "tun_name" y.string).and
    ((required "tun_addr" (IpAddr.format y)).and
    ((required "tun_netmask" (IpAddr.format y)).and
    ((required "tun_destination" (IpAddr.format y)).and
    ((defaulted "tun_dns_servers" (dnsServersFormat y) [] trivial).and
    ((required "tun_mtu" y.unsigned64).and
    ((required "cert_path" y.string).and
    ((required "key_path" y.string).and
    (required "token" y.string))))))))))).iso
    (fun (transportType, bindAddr, tunName, tunAddr, tunNetmask, tunDestination, tunDnsServers, tunMtu, certPath, keyPath,
        token) =>
      ⟨⟨transportType, tunName, tunAddr, tunNetmask, tunDestination, tunDnsServers, tunMtu, token⟩, bindAddr, certPath,
        keyPath⟩)
    (fun config => (config.transportType, config.bindAddr, config.tunName, config.tunAddr, config.tunNetmask,
      config.tunDestination, config.tunDnsServers, config.tunMtu, config.certPath, config.keyPath, config.token))
    (fun _ => rfl)).struct
    (by
      show ["transport_type", "bind_addr", "tun_name", "tun_addr", "tun_netmask", "tun_destination", "tun_dns_servers",
        "tun_mtu", "cert_path", "key_path", "token"].Nodup
      decide)

def RuleSetConfig.format : Format RuleSetConfig :=
  ((defaulted "geoip_path" (y.option y.string (y.isNone_str ·)) none (by simp [Scalars.option])).iso
    (fun geoipPath => ⟨geoipPath⟩) RuleSetConfig.geoipPath (fun _ => rfl)).struct
    (by show ["geoip_path"].Nodup; decide)

/-- A field of type `Option` may be left out. -/
def TransparentProxyConfig.format : Format TransparentProxyConfig :=
  (((required "interface" y.string).and
    ((required "smoltcp_addr" (IpAddr.format y)).and
    ((required "smoltcp_netmask" (IpAddr.format y)).and
    ((required "smoltcp_gateway" (IpAddr.format y)).and
    (defaulted "upstream_server" (y.option (IpAddr.format y) (fun ip => y.isNone_str ip.toText)) none
      (by simp [Scalars.option])))))).iso
    (fun (interface, smoltcpAddr, smoltcpNetmask, smoltcpGateway, upstreamServer) =>
      ⟨interface, smoltcpAddr, smoltcpNetmask, smoltcpGateway, upstreamServer⟩)
    (fun config => (config.interface, config.smoltcpAddr, config.smoltcpNetmask, config.smoltcpGateway,
      config.upstreamServer)) (fun _ => rfl)).struct
    (by show ["interface", "smoltcp_addr", "smoltcp_netmask", "smoltcp_gateway", "upstream_server"].Nodup; decide)

theorem RuntimeConfig.valid_default : (RuntimeConfig.format y).Valid .default := ⟨rfl, rfl⟩

theorem SocketAddr.valid_v4 (ip : Ipv4Addr) (port : UInt16) : (SocketAddr.format y).Valid (.v4 ip port) :=
  congrArg Except.toOption (SocketAddr.fromStr_toText (.v4 ip port))

theorem IpAddr.valid (ip : IpAddr) : (IpAddr.format y).Valid ip := congrArg Except.toOption (IpAddr.fromStr_toText ip)

theorem ConnectConfig.valid_default : (ConnectConfig.format y).Valid .default :=
  ⟨rfl, SocketAddr.valid_v4 y _ _, rfl, trivial, rfl⟩

theorem StartConfig.valid_default : (StartConfig.format y).Valid .default :=
  ⟨rfl, SocketAddr.valid_v4 y _ _, rfl, IpAddr.valid y _, IpAddr.valid y _, IpAddr.valid y _, trivial,
    (by decide : 1400 < UInt64.size), rfl, rfl, rfl⟩

theorem RulesConfig.valid_default : (RulesConfig.format y).Valid defaultRules := rfl

theorem RuleSetConfig.valid_default : (RuleSetConfig.format y).Valid .default := fun _ h => absurd h (Option.not_mem_none _)

theorem TransparentProxyConfig.valid_default : (TransparentProxyConfig.format y).Valid .default :=
  ⟨rfl, IpAddr.valid y _, IpAddr.valid y _, IpAddr.valid y _, fun _ h => absurd h (Option.not_mem_none _)⟩

def AppConfig.format : Format AppConfig :=
  (((defaulted "runtime" (RuntimeConfig.format y) .default (RuntimeConfig.valid_default y)).and
    ((defaulted "client" (ConnectConfig.format y) .default (ConnectConfig.valid_default y)).and
    ((defaulted "server" (StartConfig.format y) .default (StartConfig.valid_default y)).and
    ((defaulted "rules" (RulesConfig.format y) defaultRules (RulesConfig.valid_default y)).and
    ((defaulted "rule_sets" (RuleSetConfig.format y) .default (RuleSetConfig.valid_default y)).and
    (defaulted "transparent_proxy" (TransparentProxyConfig.format y) .default
      (TransparentProxyConfig.valid_default y))))))).iso
    (fun (runtime, client, server, rules, ruleSets, transparentProxy) =>
      ⟨runtime, client, server, rules, ruleSets, transparentProxy⟩)
    (fun config => (config.runtime, config.client, config.server, config.rules, config.ruleSets, config.transparentProxy))
    (fun _ => rfl)).struct
    (by show ["runtime", "client", "server", "rules", "rule_sets", "transparent_proxy"].Nodup; decide)

theorem AppConfig.valid_default : (AppConfig.format y).Valid .default :=
  ⟨RuntimeConfig.valid_default y, ConnectConfig.valid_default y, StartConfig.valid_default y, RulesConfig.valid_default y,
    RuleSetConfig.valid_default y, TransparentProxyConfig.valid_default y⟩

/-- The client's section, with this session id. -/
def AppConfig.withSession (config : AppConfig) (sessionId : String) : AppConfig :=
  { config with client := { config.client with sessionId := sessionId } }

/-- Only the session id is not written. -/
theorem AppConfig.kept (config : AppConfig) : (AppConfig.format y).kept config = config.withSession "" := by
  have hoption {α : Type} (o : Option α) : o.map id = o := congrFun Option.map_id o
  obtain ⟨runtime, client, server, rules, ⟨geoipPath⟩, ⟨interface, addr, netmask, gateway, upstream⟩⟩ := config
  show AppConfig.mk runtime _ server rules ⟨geoipPath.map id⟩ ⟨interface, addr, netmask, gateway, upstream.map id⟩ = _
  rw [hoption, hoption]
  rfl

/-! ## Loading and saving -/

/-- The configuration file, by what libyaml makes of its text. -/
inductive ConfigFile
  | absent
  | document (node : Node)
  | unreadable

/-- What goes wrong with the configuration file: whether it cannot be read, and what a write leaves that fails. -/
structure ConfigDisk where
  readFails : Bool
  writeFails : Option ConfigFile

def ConfigDisk.ok : ConfigDisk := ⟨false, none⟩

namespace AppConfig

def saveToFile (disk : ConfigDisk) (config : AppConfig) : Option Unit × ConfigFile :=
  match disk.writeFails with
  | some left => (none, left)
  | none      => (some (), .document ((format y).write config))

def loadFromFile (disk : ConfigDisk) : ConfigFile → Option AppConfig × ConfigFile
  | .absent =>
    match saveToFile y disk .default with
    | (some (), file) => (some .default, file)
    | (none, file)    => (none, file)
  | .document node => (if disk.readFails then none else (format y).read node, .document node)
  | .unreadable    => (none, .unreadable)

def applyRuleSetPaths (config : AppConfig) : AppConfig :=
  { config with rules := { config.rules with geoipPath := config.ruleSets.geoipPath } }

/-- `AppConfig::load`, with the file that it leaves. -/
def load (disk : ConfigDisk) (stateDisk : Disk) (file : ConfigFile) (state : StateFile) : Option AppConfig × ConfigFile :=
  match loadFromFile y disk file with
  | (some config, file) =>
    ((loadClientState stateDisk state).toOption.map (fun state => (config.withSession state.sessionId).applyRuleSetPaths),
      file)
  | (none, file) => (none, file)

theorem withSession_applyRuleSetPaths (config : AppConfig) (id id' : String) :
    (config.withSession id).applyRuleSetPaths.withSession id' = (config.withSession id').applyRuleSetPaths := rfl

variable {y} {disk : ConfigDisk} {stateDisk : Disk} {file left : ConfigFile} {state : StateFile} {config : AppConfig}

/-- What was read is valid, and the file that is left says the same. -/
theorem loadFromFile_ok (h : loadFromFile y disk file = (some config, left)) :
    (format y).Valid config ∧ loadFromFile y .ok left = (some config, left) := by
  cases file with
  | absent =>
    unfold loadFromFile saveToFile at h
    cases hwrite : disk.writeFails with
    | some file => simp [hwrite] at h
    | none =>
      simp only [hwrite, Prod.mk.injEq, Option.some.injEq] at h
      obtain ⟨rfl, rfl⟩ := h
      refine ⟨valid_default y, ?_⟩
      show ((format y).read ((format y).write .default), _) = _
      rw [(format y).read_write (valid_default y), kept]
      rfl
  | document node =>
    unfold loadFromFile at h
    simp only [Prod.mk.injEq] at h
    obtain ⟨hread, rfl⟩ := h
    split at hread
    · cases hread
    · exact ⟨(format y).valid_of_read hread, Prod.ext hread rfl⟩
  | unreadable => simp [loadFromFile] at h

theorem load_ok (h : load y disk stateDisk file state = (some config, left)) :
    ∃ config₀ state₀, loadFromFile y disk file = (some config₀, left) ∧ loadClientState stateDisk state = .ok state₀ ∧
      config = (config₀.withSession state₀.sessionId).applyRuleSetPaths := by
  unfold load at h
  split at h
  · rename_i config₀ file' hfile
    simp only [Prod.mk.injEq] at h
    obtain ⟨hloaded, rfl⟩ := h
    obtain ⟨state₀, hstate, rfl⟩ := Option.map_eq_some_iff.1 hloaded
    exact ⟨config₀, state₀, hfile, Result.toOption_eq_some hstate, rfl⟩
  · simp at h

theorem load_of_loadFromFile {state₀ : ClientState} (hfile : loadFromFile y disk file = (some config, left))
    (hstate : loadClientState stateDisk state = .ok state₀) :
    load y disk stateDisk file state = (some (config.withSession state₀.sessionId).applyRuleSetPaths, left) := by
  rw [load, hfile, hstate]
  rfl

/-- A file that is there is left as it is. -/
theorem load_file (hfile : file ≠ .absent) : (load y disk stateDisk file state).2 = file := by
  have hread : (loadFromFile y disk file).2 = file := by
    cases file with
    | absent => exact absurd rfl hfile
    | document node => rfl
    | unreadable => rfl
  unfold load
  split
  · rename_i config left hload
    rw [hload] at hread
    exact hread
  · rename_i left hload
    rw [hload] at hread
    exact hread

/-- **What has been loaded is loaded again**, from the file that is left and from the one that it is saved to, with the
session id that the state file has by then.  A file that was there is left as it was.  Saving writes no session id, so that
it writes the same document whatever that is. -/
theorem load_again (h : load y disk stateDisk file state = (some config, left)) (state' : StateFile) (state₁ : ClientState)
    (hstate : loadClientState .ok state' = .ok state₁) :
    (file ≠ .absent → left = file) ∧
    load y .ok .ok left state' = (some (config.withSession state₁.sessionId), left) ∧
    ∃ saved, (∀ id, saveToFile y .ok (config.withSession id) = (some (), saved)) ∧
      load y .ok .ok saved state' = (some (config.withSession state₁.sessionId), saved) := by
  have hleft : file ≠ .absent → left = file := fun hfile => by rw [← load_file hfile, h]
  obtain ⟨config₀, state₀, hfile, -, rfl⟩ := load_ok h
  obtain ⟨hvalid, hagain⟩ := loadFromFile_ok hfile
  rw [withSession_applyRuleSetPaths]
  refine ⟨hleft, load_of_loadFromFile hagain hstate, .document ((format y).write config₀), fun id => rfl, ?_⟩
  have hread : loadFromFile y .ok (.document ((format y).write config₀)) =
      (some (config₀.withSession ""), .document ((format y).write config₀)) := by
    show ((format y).read ((format y).write config₀), _) = _
    rw [(format y).read_write hvalid, kept]
  have hload := load_of_loadFromFile hread hstate
  exact hload

end AppConfig

end

/-- What a plain scalar cannot start with. -/
def indicators : List Char := "#,[]\x7b\x7d&*!|>'\"%@`".toList

/-- The text can stand without quotes: no indicator starts it, no space begins or ends it, and nothing in it starts a value
or a comment. -/
def plainText (text : String) : Bool :=
  !text.toList.head?.any indicators.contains && Text.trim text == text && !Text.contains text ": " &&
    !Text.contains text " #"

def nullWords : List String := ["", "~", "null", "Null", "NULL"]

def booleanWords : List String := ["true", "True", "TRUE", "false", "False", "FALSE"]

/-- A text that stands for a string: neither null nor a boolean nor a number. -/
def plainString (text : String) : Bool :=
  !nullWords.contains text && (!booleanWords.contains text && (Text.parseUnsigned UInt64.size text).isNone)

/-- Scalars whose numbers are decimal and not negative. -/
def decimalScalars : Scalars where
  isNull := nullWords.contains
  isString := plainString
  unsigned := Text.parseUnsigned UInt64.size
  writesPlain text := plainString text && plainText text
  null := by decide
  string_of_plain h := (Bool.and_eq_true_iff.1 h).1
  not_null h := Bool.not_eq_eq_eq_not.1 (Bool.and_eq_true_iff.1 h).1
  unsigned_lt h := (Text.parseUnsigned_eq_some.1 h).2
  unsigned_toString h := Text.parseUnsigned_eq_some.2 ⟨Text.isNumeral_toString _, h⟩

example : decimalScalars.str "[fe80::1%3]:443" = .quoted "[fe80::1%3]:443" := if_neg (by decide +kernel)

/-- A file as one may write it. -/
def handWritten : Node :=
  .map [("comment", .plain "1"),
    ("client", .map [("token", .plain "admin"), ("session_id", .plain "old"), ("transport_type", .plain "ws"),
      ("server_addr", .quoted "[fe80:0:0::1%3]:443"), ("ca_cert_path", .plain "certs/ca-cert.pem")]),
    ("server", .map [("transport_type", .plain "ws"), ("bind_addr", .plain "0.0.0.0:12345"), ("tun_name", .plain "tun1"),
      ("tun_addr", .plain "10.0.0.1"), ("tun_netmask", .plain "255.255.255.0"), ("tun_destination", .plain "10.0.0.0"),
      ("tun_dns_servers", .plain "8.8.8.8, 2001:DB8::1,"), ("tun_mtu", .plain "1400"), ("cert_path", .plain "c"),
      ("key_path", .plain "k"), ("token", .plain "12345")]),
    ("rules", .seq [.quoted " domain-Suffix , Example.COM.. ,drop", .quoted "match,PROXY"]),
    ("rule_sets", .map [("geoip_path", .plain "GeoLite2-Country.mmdb")])]

theorem AppConfig.load_again_handWritten : ∃ config : AppConfig,
    config.client.sessionId = "s0" ∧ config.client.serverAddr = .v6 (.ofGroups [0xfe80, 0, 0, 0, 0, 0, 0, 1]) 443 0 3 ∧
    config.server.tunDnsServers = [.v4 (.new 8 8 8 8), .v6 (.ofGroups [0x2001, 0xdb8, 0, 0, 0, 0, 0, 1])] ∧
    config.rules.rules =
      [{ Rule.new .reject with domainSuffix := some "example.com" }, { Rule.new .proxy with matchAll := true }] ∧
    config.rules.geoipPath = some "GeoLite2-Country.mmdb" ∧
    AppConfig.load decimalScalars .ok .ok (.document handWritten) (.saved ⟨"s0"⟩) = (some config, .document handWritten) ∧
    ∃ saved, (∀ id, AppConfig.saveToFile decimalScalars .ok (config.withSession id) = (some (), saved)) ∧
      AppConfig.load decimalScalars .ok .ok saved (.saved ⟨"s1"⟩) = (some (config.withSession "s1"), saved) := by
  have hload : (AppConfig.load decimalScalars .ok .ok (.document handWritten) (.saved ⟨"s0"⟩)).1 = some
      { runtime := .default
        client := ⟨⟨"ws", "s0", "admin"⟩, .v6 (.ofGroups [0xfe80, 0, 0, 0, 0, 0, 0, 1]) 443 0 3, "certs/ca-cert.pem"⟩
        server := ⟨⟨"ws", "tun1", .v4 (.new 10 0 0 1), .v4 (.new 255 255 255 0), .v4 (.new 10 0 0 0),
          [.v4 (.new 8 8 8 8), .v6 (.ofGroups [0x2001, 0xdb8, 0, 0, 0, 0, 0, 1])], 1400, "12345"⟩,
          .v4 (.new 0 0 0 0) 12345, "c", "k"⟩
        rules := ⟨.reject, [{ Rule.new .reject with domainSuffix := some "example.com" },
          { Rule.new .proxy with matchAll := true }], some "GeoLite2-Country.mmdb"⟩
        ruleSets := ⟨some "GeoLite2-Country.mmdb"⟩
        transparentProxy := .default } := by decide +kernel
  have hfile : ConfigFile.document handWritten ≠ .absent := fun h => by cases h
  have hpair : _ = (some _, ConfigFile.document handWritten) := Prod.ext hload (AppConfig.load_file hfile)
  exact ⟨_, rfl, rfl, rfl, rfl, rfl, hpair, (AppConfig.load_again hpair (.saved ⟨"s1"⟩) ⟨"s1"⟩ rfl).2.2⟩

end Easynet
