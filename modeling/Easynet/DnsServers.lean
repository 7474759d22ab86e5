import Easynet.Lib.Result
import Easynet.Lib.Text
import Easynet.Net
/-!
# DnsServers — the DNS servers of a configuration

`tun_dns_servers` is a list of addresses or one string with commas between them.  The list is read by a loop that keeps what
it has, the string is split and then filtered, parsed and collected; blank entries count in neither.  Splitting undoes
joining, so that both ways of writing the same addresses are read as the same.
-/
namespace Easynet

/-- What the deserializer finds. -/
inductive DnsValue
  | str (value : String)
  | seq (values : List String)
  deriving DecidableEq, Repr

namespace DnsServers

def parseDnsServers (std : AddrParser) (values : List String) : Except String (List IpAddr) :=
  ((values.map Text.trim).filter (fun value => !value.isEmpty)).mapM std.parse

def visitStr (std : AddrParser) (value : String) : Except String (List IpAddr) := parseDnsServers std (Text.split ',' value)

/-- `visit_seq`'s loop. -/
def visitNext (std : AddrParser) (dnsServers : List IpAddr) : List String → Except String (List IpAddr)
  | []           => .ok dnsServers
  | value :: seq =>
    let value := Text.trim value
    if !value.isEmpty then (std.parse value).bind (fun ip => visitNext std (dnsServers ++ [ip]) seq)
    else visitNext std dnsServers seq

def visitSeq (std : AddrParser) (seq : List String) : Except String (List IpAddr) := visitNext std [] seq

def deserializeTunDnsServers (std : AddrParser) : DnsValue → Except String (List IpAddr)
  | .str value  => visitStr std value
  | .seq values => visitSeq std values

section

variable {std : AddrParser}

theorem parseDnsServers_blank {value : String} (h : (Text.trim value).isEmpty = true) (values : List String) :
    parseDnsServers std (value :: values) = parseDnsServers std values := by
  unfold parseDnsServers
  rw [List.map_cons, List.filter_cons_of_neg (by rw [h]; exact Bool.false_ne_true)]

theorem parseDnsServers_cons {value : String} (h : (Text.trim value).isEmpty = false) (values : List String) :
    parseDnsServers std (value :: values) =
      (std.parse (Text.trim value)).bind (fun ip => (parseDnsServers std values).map (fun ips => ip :: ips)) := by
  unfold parseDnsServers
  rw [List.map_cons, List.filter_cons_of_pos (by rw [h]; rfl), List.mapM_cons]
  rfl

/-- The loop adds to what it has what the iterator collects. -/
theorem visitNext_eq : ∀ (seq : List String) (dnsServers : List IpAddr),
    visitNext std dnsServers seq = (parseDnsServers std seq).map (fun ips => dnsServers ++ ips)
  | [], dnsServers => congrArg Except.ok (List.append_nil dnsServers).symm
  | value :: seq, dnsServers => by
    cases hblank : (Text.trim value).isEmpty with
    | true => simp only [visitNext, hblank, Bool.not_true, Bool.false_eq_true, if_false, parseDnsServers_blank hblank,
        visitNext_eq seq]
    | false =>
      simp only [visitNext, hblank, Bool.not_false, if_true, parseDnsServers_cons hblank, visitNext_eq seq]
      cases std.parse (Text.trim value) with
      | error e => rfl
      | ok ip =>
        cases parseDnsServers std seq with
        | error e => rfl
        | ok ips => exact congrArg Except.ok (List.append_assoc dnsServers [ip] ips)

theorem visitSeq_eq (seq : List String) : visitSeq std seq = parseDnsServers std seq := by
  rw [visitSeq, visitNext_eq]
  cases parseDnsServers std seq <;> rfl

end

/-- **A list of addresses and the string that joins them are read alike**: as the same addresses in the same order, or with
the same error. -/
theorem deserialize_join (std : AddrParser) {values : List String} (h : ∀ value ∈ values, ',' ∉ value.toList) :
    deserializeTunDnsServers std (.seq values) = deserializeTunDnsServers std (.str (String.intercalate "," values)) := by
  have hcomma : "," = String.singleton ',' := by decide
  show visitSeq std values = parseDnsServers std (Text.split ',' (String.intercalate "," values))
  rw [visitSeq_eq, hcomma]
  cases values with
  | nil => rfl
  | cons value values => rw [Text.split_intercalate h (List.cons_ne_nil value values)]

theorem deserialize_join_padded :
    deserializeTunDnsServers std (.seq [" 8.8.8.8", "", "1.1.1.1 "]) =
      deserializeTunDnsServers std (.str " 8.8.8.8,,1.1.1.1 ") ∧
    deserializeTunDnsServers std (.seq [" 8.8.8.8", "", "1.1.1.1 "]) =
      .ok [.v4 (.new 8 8 8 8), .v4 (.new 1 1 1 1)] := by
  have hjoin : String.intercalate "," [" 8.8.8.8", "", "1.1.1.1 "] = " 8.8.8.8,,1.1.1.1 " := by decide +kernel
  exact ⟨hjoin ▸ deserialize_join std (by decide +kernel), by decide +kernel⟩

end DnsServers

end Easynet
