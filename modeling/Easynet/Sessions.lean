import Mathlib.Algebra.Group.Nat.Defs
import Easynet.Lib.Table
import Easynet.Message
import Easynet.Net
/-!
# Sessions — the session table and the pure parts of its handlers

`server.rs` without its awaits: the token check, the address counter, the TUN configuration a session gets, and what
`handle_disconnect` and a cleanup round do to `SESSIONS` while they hold its lock.  Times are nanoseconds.
-/
namespace Easynet

/-- The server's section of the configuration file, as far as the server and the session handlers read it. -/
structure ServerConfig where
  transportType : String
  tunName : String
  tunAddr : IpAddr
  tunNetmask : IpAddr
  tunDestination : IpAddr
  tunDnsServers : List IpAddr
  tunMtu : Nat
  token : String
  deriving DecidableEq, Repr

/-- `ServerConfig::default`. -/
def ServerConfig.default : ServerConfig where
  transportType := "udp"
  tunName := "tun0"
  tunAddr := .v4 (.new 10 0 0 1)
  tunNetmask := .v4 (.new 255 255 255 0)
  tunDestination := .v4 (.new 10 0 0 0)
  tunDnsServers := [.v4 (.new 114 114 114 114), .v4 (.new 8 8 8 8)]
  tunMtu := 1400
  token := ""

/-- The sending half of a client channel: a connection's own, or the one the UDP loop makes up and whose receiver it
drops at once. -/
inductive Sender
  | conn (c : Nat)
  | dummy
  deriving DecidableEq, Repr

structure Client where
  addr : SocketAddr
  virtualIp : Ipv4Addr
  tx : Sender
  tunConfig : TunConfig
  lastSeen : Nat
  deriving DecidableEq, Repr

abbrev Sessions := AList (fun _ : String => Client)

def validateToken (token serverToken : String) : Bool :=
  if serverToken.isEmpty then true else token == serverToken

/-- What the dispatchers make of a token or a session id: the empty string counts as none. -/
def provided (s : String) : Option String := if s.isEmpty then none else some s

/-- The token check of `handle_handshake`: only a token that was provided is validated. -/
def tokenRefused (providedToken : Option String) (serverToken : String) : Bool :=
  match providedToken with
  | some handshakeToken => !validateToken handshakeToken serverToken
  | none                => false

def getDestinationIp (data : Bytes) : Option Ipv4Addr :=
  if data.length < 20 then none
  else if data.getD 0 0 >>> 4 ≠ 4 then none
  else match data.drop 16 with
    | a :: b :: c :: d :: _ => some ⟨a, b, c, d⟩
    | _                     => none

/-- The address for a client id, and the counter after `fetch_add(1)`. -/
def allocateVirtualIp (nextClientId : UInt32) : Ipv4Addr × UInt32 :=
  (.new 10 0 0 nextClientId.toUInt8, nextClientId + 1)

def buildTunConfig (config : ServerConfig) (virtualIp : Ipv4Addr) : TunConfig where
  name := config.tunName
  address := virtualIp.toText
  netmask := config.tunNetmask.toText
  destination := config.tunDestination.toText
  dns := config.tunDnsServers.map IpAddr.toText
  mtu := UInt32.ofNat config.tunMtu

/-! ## Under the lock -/

def second : Nat := 1000000000

def sessionLifetime : Nat := 3600 * second

/-- `Duration::MAX`, which an unreadable age counts as. -/
def durationMax : Nat := (2 ^ 64 - 1) * second + 999999999

def elapsed (now lastSeen : Nat) : Nat := if lastSeen ≤ now then now - lastSeen else durationMax

def shouldKeep (now : Nat) (client : Client) : Bool := decide (elapsed now client.lastSeen < sessionLifetime)

/-- A round of `cleanup_expired_sessions`. -/
def cleanupExpiredSessions (now : Nat) (sessions : Sessions) : Sessions :=
  Table.retain (fun _ client => shouldKeep now client) sessions

/-- `handle_disconnect`: remove the entry the search by address came up with. -/
def handleDisconnect (found : Option String) (sessions : Sessions) : Sessions :=
  match found with
  | some sessionId => sessions.erase sessionId
  | none           => sessions

/-- What a search by address may find. -/
def findAddr (addr : SocketAddr) (sessions : Sessions) (found : Option String) : Bool :=
  Table.isFind (fun client => decide (client.addr = addr)) sessions found

/-- What a search by virtual address may find. -/
def findVirtualIp (ip : Ipv4Addr) (sessions : Sessions) (found : Option String) : Bool :=
  Table.isFind (fun client => decide (client.virtualIp = ip)) sessions found

theorem shouldKeep_iff {now : Nat} {client : Client} (h : client.lastSeen ≤ now) :
    shouldKeep now client = true ↔ now < client.lastSeen + sessionLifetime := by
  simp only [shouldKeep, elapsed, if_pos h, decide_eq_true_eq]
  omega

theorem lookup_cleanup (now : Nat) (sessions : Sessions) (id : String) :
    (cleanupExpiredSessions now sessions).lookup id = (sessions.lookup id).filter (shouldKeep now) :=
  Table.lookup_retain _ _ _

theorem lookup_handleDisconnect (found : Option String) (sessions : Sessions) (id : String) :
    (handleDisconnect found sessions).lookup id = if found = some id then none else sessions.lookup id := by
  cases found with
  | none => simp [handleDisconnect]
  | some a =>
    simp only [handleDisconnect, Table.lookup_erase_eq, Option.some.injEq]
    by_cases h : id = a
    · rw [if_pos h, if_pos h.symm]
    · rw [if_neg h, if_neg (Ne.symm h)]

end Easynet
