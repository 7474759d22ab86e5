import Easynet.Lib.Scan
/-!
# Net — addresses and their text

`std::net` as far as the repository uses it: IPv4 and IPv6 addresses and socket addresses, their `Display` texts, `FromStr`,
which reads from the front of a text and wants nothing left, and the kinds of IPv4 addresses.
-/
namespace Easynet

structure Ipv4Addr where
  a : UInt8
  b : UInt8
  c : UInt8
  d : UInt8
  deriving DecidableEq, Repr

structure Ipv6Addr where
  segments : Vector UInt16 8
  deriving DecidableEq, Repr

inductive IpAddr
  | v4 (ip : Ipv4Addr)
  | v6 (ip : Ipv6Addr)
  deriving DecidableEq, Repr

inductive SocketAddr
  | v4 (ip : Ipv4Addr) (port : UInt16)
  | v6 (ip : Ipv6Addr) (port : UInt16) (flowinfo scopeId : UInt32)
  deriving DecidableEq, Repr

namespace Ipv4Addr

def new (a b c d : UInt8) : Ipv4Addr := ⟨a, b, c, d⟩

/-- Dotted decimal. -/
def toText (ip : Ipv4Addr) : String :=
  toString ip.a.toNat ++ "." ++ toString ip.b.toNat ++ "." ++ toString ip.c.toNat ++ "." ++ toString ip.d.toNat

def isPrivate (ip : Ipv4Addr) : Bool :=
  ip.a == 10 || (ip.a == 172 && 16 ≤ ip.b && ip.b ≤ 31) || (ip.a == 192 && ip.b == 168)

def isLoopback (ip : Ipv4Addr) : Bool := ip.a == 127

def isLinkLocal (ip : Ipv4Addr) : Bool := ip.a == 169 && ip.b == 254

def isUnspecified (ip : Ipv4Addr) : Bool := ip == ⟨0, 0, 0, 0⟩

def isBroadcast (ip : Ipv4Addr) : Bool := ip == ⟨255, 255, 255, 255⟩

def isMulticast (ip : Ipv4Addr) : Bool := 224 ≤ ip.a && ip.a ≤ 239

end Ipv4Addr

namespace Ipv6Addr

/-- `::ffff:a.b.c.d`, when the address is an IPv4-mapped one. -/
def toIpv4Mapped (ip : Ipv6Addr) : Option Ipv4Addr :=
  match ip.segments.toList with
  | [0, 0, 0, 0, 0, 0xffff, x, y] =>
    some ⟨UInt8.ofNat (x.toNat / 256), UInt8.ofNat x.toNat, UInt8.ofNat (y.toNat / 256), UInt8.ofNat y.toNat⟩
  | _ => none

/-- The first of the longest runs of zero segments, as its start and length: the run `current` ends at segment `i`. -/
def zeroes (i : Nat) (current longest : Nat × Nat) : List UInt16 → Nat × Nat
  | []              => longest
  | segment :: rest =>
    if segment = 0 then
      let current := if current.2 = 0 then (i, 1) else (current.1, current.2 + 1)
      zeroes (i + 1) current (if longest.2 < current.2 then current else longest) rest
    else zeroes (i + 1) (0, 0) longest rest

def hex (segment : UInt16) : String := String.ofList (Nat.toDigits 16 segment.toNat)

def subslice (chunk : List UInt16) : String := String.intercalate ":" (chunk.map hex)

def toText (ip : Ipv6Addr) : String :=
  match ip.toIpv4Mapped with
  | some ipv4 => "::ffff:" ++ ipv4.toText
  | none =>
    let segments := ip.segments.toList
    let (start, len) := zeroes 0 (0, 0) (0, 0) segments
    if 1 < len then subslice (segments.take start) ++ "::" ++ subslice (segments.drop (start + len))
    else subslice segments

end Ipv6Addr

def IpAddr.toText : IpAddr → String
  | .v4 ip => ip.toText
  | .v6 ip => ip.toText

def SocketAddr.toText : SocketAddr → String
  | .v4 ip port           => ip.toText ++ ":" ++ toString port.toNat
  | .v6 ip port _ scopeId =>
    if scopeId = 0 then "[" ++ ip.toText ++ "]:" ++ toString port.toNat
    else "[" ++ ip.toText ++ "%" ++ toString scopeId.toNat ++ "]:" ++ toString port.toNat

/-! ## Reading -/

open Scan

def readOctet : Reader Nat := number 10 (some 3) false 256

def readIpv4Addr : Reader Ipv4Addr := fun text =>
  (separated '.' readOctet 0 4 text).map (fun (groups, rest) =>
    (⟨.ofNat (groups.getD 0 0), .ofNat (groups.getD 1 0), .ofNat (groups.getD 2 0), .ofNat (groups.getD 3 0)⟩, rest))

/-- The two groups in whose place an IPv4 address is written. -/
def Ipv4Addr.groups (ip : Ipv4Addr) : List UInt16 :=
  [.ofNat (256 * ip.a.toNat + ip.b.toNat), .ofNat (256 * ip.c.toNat + ip.d.toNat)]

def readGroup : Reader Nat := number 16 (some 4) true 65536

/-- `read_groups`, from group `i` on: the groups that are read, and whether an IPv4 address ends them. -/
def readGroups : Nat → Nat → List Char → (List UInt16 × Bool) × List Char
  | 0, _, text         => (([], false), text)
  | slots + 1, i, text =>
    -- an IPv4 address takes two groups
    match if 0 < slots then separator ':' i readIpv4Addr text else none with
    | some (ip, rest) => ((ip.groups, true), rest)
    | none =>
      match separator ':' i readGroup text with
      | some (group, rest) =>
        ((UInt16.ofNat group :: (readGroups slots (i + 1) rest).1.1, (readGroups slots (i + 1) rest).1.2),
          (readGroups slots (i + 1) rest).2)
      | none => (([], false), text)

def Ipv6Addr.ofGroups (groups : List UInt16) : Ipv6Addr := ⟨Vector.ofFn (fun i => groups.getD i.val 0)⟩

def readIpv6Addr : Reader Ipv6Addr := fun text =>
  let ((head, headIpv4), text) := readGroups 8 0 text
  if head.length = 8 then some (.ofGroups head, text)
  else if headIpv4 then none
  else
    (char ':' text).bind (fun p => (char ':' p.2).map (fun q =>
      let ((tail, _), text) := readGroups (8 - (head.length + 1)) 0 q.2
      (.ofGroups (head ++ List.replicate (8 - tail.length - head.length) 0 ++ tail), text)))

def readIpAddr : Reader IpAddr := fun text =>
  match readIpv4Addr text with
  | some (ip, rest) => some (.v4 ip, rest)
  | none            => (readIpv6Addr text).map (fun (ip, rest) => (.v6 ip, rest))

def readPort : Reader Nat := fun text => (char ':' text).bind (fun p => number 10 none true 65536 p.2)

def readScopeId : Reader Nat := fun text => (char '%' text).bind (fun p => number 10 none true 4294967296 p.2)

def readSocketAddrV4 : Reader SocketAddr := fun text =>
  (readIpv4Addr text).bind (fun (ip, text) => (readPort text).map (fun (port, text) => (.v4 ip (.ofNat port), text)))

def readSocketAddrV6 : Reader SocketAddr := fun text =>
  (char '[' text).bind (fun p => (readIpv6Addr p.2).bind (fun (ip, text) =>
    let (scopeId, text) := (readScopeId text).getD (0, text)
    (char ']' text).bind (fun p => (readPort p.2).map (fun (port, text) =>
      (.v6 ip (.ofNat port) 0 (.ofNat scopeId), text)))))

def readSocketAddr : Reader SocketAddr := fun text => (readSocketAddrV4 text).or (readSocketAddrV6 text)

/-- `parse_with`: nothing may be left. -/
def parseWith {α : Type} (inner : Reader α) (error s : String) : Except String α :=
  match inner s.toList with
  | some (value, []) => .ok value
  | _                => .error error

/-- `from_str`, without the error. -/
def Ipv4Addr.parse (s : String) : Option Ipv4Addr := (parseWith readIpv4Addr "invalid IPv4 address syntax" s).toOption

def IpAddr.fromStr : String → Except String IpAddr := parseWith readIpAddr "invalid IP address syntax"

def SocketAddr.fromStr : String → Except String SocketAddr := parseWith readSocketAddr "invalid socket address syntax"

/-- `IpAddr::from_str`, with the text of its error. -/
structure AddrParser where
  parse : String → Except String IpAddr

/-- That of `std`. -/
def std : AddrParser := ⟨IpAddr.fromStr⟩

end Easynet
