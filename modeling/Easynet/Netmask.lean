import Easynet.Subnet
/-!
# Netmask — prefix lengths read from netmasks

The stand-alone `transparent-proxy` binary turns a netmask into a prefix length by its leading ones and refuses a mask
with ones after them (`netmask_to_prefix_len`); `prefix_to_netmask` goes the other way, and the two are inverse
(`netmaskToPrefixLen_inverse`).  `create_net_with_channels` of the library counts the ones wherever they are, and so
reads every mask, also those that are none (`sameReading_iff`).

`none` is a panic: of an overflowing shift or subtraction, or of smoltcp's assertion on the length of a prefix.
-/
namespace Easynet

/-! ## Addresses as 32-bit integers -/

namespace Ipv4Addr

/-- `u32::from`. -/
def toU32 (ip : Ipv4Addr) : UInt32 := UInt32.ofNat ip.toNat

/-- `Ipv4Addr::from`. -/
def ofU32 (bits : UInt32) : Ipv4Addr :=
  ⟨UInt8.ofNat (bits.toNat / 2 ^ 24), UInt8.ofNat (bits.toNat / 2 ^ 16), UInt8.ofNat (bits.toNat / 2 ^ 8),
    UInt8.ofNat bits.toNat⟩

theorem toU32_toNat (ip : Ipv4Addr) : ip.toU32.toNat = ip.toNat := UInt32.toNat_ofNat_of_lt ip.toNat_lt

theorem ofU32_toNat (bits : UInt32) : (ofU32 bits).toNat = bits.toNat := by
  have := bits.toNat_lt
  simp only [ofU32, toNat_eq, UInt8.toNat_ofNat']
  omega

theorem toBits_ofU32 (bits : UInt32) : (ofU32 bits).toBits = Bits.bits 32 bits.toNat := by
  rw [toBits_eq, ofU32_toNat]

theorem bits_toU32 (ip : Ipv4Addr) : Bits.bits 32 ip.toU32.toNat = ip.toBits := by
  rw [toBits_eq, toU32_toNat]

theorem length_toBits (ip : Ipv4Addr) : ip.toBits.length = 32 := by
  rw [toBits_eq, Bits.length_bits]

theorem toBits_inj {ip ip' : Ipv4Addr} : ip.toBits = ip'.toBits ↔ ip = ip' := by
  rw [toBits_eq, toBits_eq, Bits.bits_inj ip.toNat_lt ip'.toNat_lt, toNat_inj]

end Ipv4Addr

/-- A number of bits of an address survives the cast to `u8`. -/
theorem toNat_ofNat_of_le_32 {n : Nat} (h : n ≤ 32) : (UInt8.ofNat n).toNat = n :=
  UInt8.toNat_ofNat_of_lt (Nat.lt_of_le_of_lt h (by decide))

/-! ## The binary: a mask is its leading ones -/

/-- `u32::MAX << (32 - prefix_len)`, with the checks on both operators. -/
def maxShl (prefixLen : UInt8) : Option UInt32 :=
  if 32 < prefixLen then none
  else
    let shift := 32 - prefixLen
    if shift < 32 then some (0xffffffff <<< shift.toUInt32) else none

/-- The mask of a prefix length, as both functions compute it. -/
def prefixMask (prefixLen : UInt8) : Option UInt32 := if prefixLen = 0 then some 0 else maxShl prefixLen

def netmaskToPrefixLen (netmask : Ipv4Addr) : Option (Except String UInt8) :=
  let bits := netmask.toU32
  let prefixLen := UInt8.ofNat (Bits.leadingOnes (Bits.bits 32 bits.toNat))
  (prefixMask prefixLen).map (fun expected =>
    if bits ≠ expected then .error ("invalid ipv4 netmask: " ++ netmask.toText) else .ok prefixLen)

def prefixToNetmask (prefixLen : UInt8) : Option (Except String Ipv4Addr) :=
  if 32 < prefixLen then some (.error ("invalid ipv4 prefix length: " ++ toString prefixLen.toNat))
  else (prefixMask prefixLen).map (fun mask => .ok (Ipv4Addr.ofU32 mask))

theorem maxShl_eq : ∀ p : Nat, 1 ≤ p → p ≤ 32 →
    maxShl (UInt8.ofNat p) = some (UInt32.ofNat (2 ^ 32 - 2 ^ (32 - p))) := by
  intro p h1 h32
  have hall : ∀ q < 33, 1 ≤ q → maxShl (UInt8.ofNat q) = some (UInt32.ofNat (2 ^ 32 - 2 ^ (32 - q))) := by decide
  exact hall p (by omega) h1

/-- **The mask of a prefix length**: its ones come first, and there are as many of them. -/
theorem prefixMask_spec {p : Nat} (h : p ≤ 32) : ∃ mask, prefixMask (UInt8.ofNat p) = some mask ∧
    Bits.bits 32 mask.toNat = List.replicate p true ++ List.replicate (32 - p) false := by
  rcases Nat.eq_zero_or_pos p with rfl | hpos
  · exact ⟨0, rfl, Bits.bits_zero 32⟩
  · have hne : UInt8.ofNat p ≠ 0 := by
      intro hz
      have := congrArg UInt8.toNat hz
      rw [toNat_ofNat_of_le_32 h, UInt8.toNat_zero] at this
      omega
    have hval : (UInt32.ofNat (2 ^ 32 - 2 ^ (32 - p))).toNat = 2 ^ 32 - 2 ^ (32 - p) :=
      UInt32.toNat_ofNat_of_lt (Nat.sub_lt (by decide) (Nat.two_pow_pos _))
    refine ⟨_, (if_neg hne).trans (maxShl_eq p hpos h), ?_⟩
    rw [hval, Bits.bits_high h]

theorem Netmask.le_32 {mask : Ipv4Addr} {p : Nat} (h : Netmask mask p) : p ≤ 32 := by
  have hlen := congrArg List.length h
  rw [mask.length_toBits, List.length_append, List.length_replicate, List.length_replicate] at hlen
  omega

theorem Netmask.leadingOnes_eq {mask : Ipv4Addr} {p : Nat} (h : Netmask mask p) : Bits.leadingOnes mask.toBits = p := by
  rw [h, Bits.leadingOnes_high]

theorem Netmask.unique {mask mask' : Ipv4Addr} {p : Nat} (h : Netmask mask p) (h' : Netmask mask' p) : mask = mask' :=
  Ipv4Addr.toBits_inj.1 (h.trans h'.symm)

/-- **The binary reads a mask by its leading ones**, if there are no others. -/
theorem netmaskToPrefixLen_eq (mask : Ipv4Addr) :
    netmaskToPrefixLen mask = some (if Netmask mask (Bits.leadingOnes mask.toBits)
      then .ok (UInt8.ofNat (Bits.leadingOnes mask.toBits)) else .error ("invalid ipv4 netmask: " ++ mask.toText)) := by
  have hle : Bits.leadingOnes mask.toBits ≤ 32 := mask.length_toBits ▸ Bits.leadingOnes_le mask.toBits
  obtain ⟨expected, hmask, hbits⟩ := prefixMask_spec hle
  have hiff : mask.toU32 = expected ↔ Netmask mask (Bits.leadingOnes mask.toBits) := by
    rw [Netmask, ← hbits, mask.toBits_eq, Bits.bits_inj mask.toNat_lt expected.toNat_lt, ← mask.toU32_toNat,
      UInt32.toNat_inj]
  simp only [netmaskToPrefixLen, mask.bits_toU32, hmask, Option.map_some, ne_eq, ite_not, hiff]

theorem netmaskToPrefixLen_ok_iff {mask : Ipv4Addr} {p : UInt8} :
    netmaskToPrefixLen mask = some (.ok p) ↔ Netmask mask p.toNat := by
  rw [netmaskToPrefixLen_eq]
  constructor
  · intro h
    split at h
    · rename_i hm
      have hp : UInt8.ofNat (Bits.leadingOnes mask.toBits) = p := by simpa using h
      rwa [← hp, toNat_ofNat_of_le_32 hm.le_32]
    · simp at h
  · intro hm
    rw [hm.leadingOnes_eq, if_pos hm, UInt8.ofNat_toNat]

theorem prefixToNetmask_of_le {p : UInt8} (h : p.toNat ≤ 32) :
    ∃ mask, prefixToNetmask p = some (.ok mask) ∧ Netmask mask p.toNat := by
  obtain ⟨bits, hmask, hbits⟩ := prefixMask_spec h
  rw [UInt8.ofNat_toNat] at hmask
  have hlt : ¬ 32 < p := fun hlt => absurd (UInt8.lt_iff_toNat_lt.1 hlt) (Nat.not_lt.2 h)
  refine ⟨.ofU32 bits, ?_, ?_⟩
  · rw [prefixToNetmask, if_neg hlt, hmask, Option.map_some]
  · rw [Netmask, Ipv4Addr.toBits_ofU32, hbits]

theorem prefixToNetmask_of_lt {p : UInt8} (h : 32 < p.toNat) :
    prefixToNetmask p = some (.error ("invalid ipv4 prefix length: " ++ toString p.toNat)) := by
  have hlt : 32 < p := UInt8.lt_iff_toNat_lt.2 h
  rw [prefixToNetmask, if_pos hlt]

theorem prefixToNetmask_ok_iff {p : UInt8} {mask : Ipv4Addr} :
    prefixToNetmask p = some (.ok mask) ↔ Netmask mask p.toNat := by
  by_cases h : p.toNat ≤ 32
  · obtain ⟨mask', heq, hm'⟩ := prefixToNetmask_of_le h
    rw [heq]
    constructor
    · intro hok
      have hmask : mask' = mask := by simpa using hok
      rwa [← hmask]
    · intro hm
      rw [hm'.unique hm]
  · rw [prefixToNetmask_of_lt (Nat.lt_of_not_le h)]
    exact iff_of_false (by simp) (fun hm => h hm.le_32)

/-- **Netmask and prefix length are inverse.**  A mask is read if its ones come first, with their number for a result,
and refused otherwise; the mask of that number is the mask again; every accepted number is read back from its mask; and
neither function evaluates a shift or a subtraction that overflows. -/
theorem netmaskToPrefixLen_inverse :
    (∀ mask p, netmaskToPrefixLen mask = some (.ok p) ↔ Netmask mask p.toNat) ∧
    (∀ mask, (∀ p : Nat, ¬ Netmask mask p) →
      netmaskToPrefixLen mask = some (.error ("invalid ipv4 netmask: " ++ mask.toText))) ∧
    (∀ mask p, netmaskToPrefixLen mask = some (.ok p) → prefixToNetmask p = some (.ok mask)) ∧
    (∀ p mask, prefixToNetmask p = some (.ok mask) → netmaskToPrefixLen mask = some (.ok p)) ∧
    (∀ mask, netmaskToPrefixLen mask ≠ none) ∧ ∀ p, prefixToNetmask p ≠ none := by
  refine ⟨fun mask p => netmaskToPrefixLen_ok_iff, fun mask hno => ?_, fun mask p h => ?_, fun p mask h => ?_,
    fun mask => ?_, fun p => ?_⟩
  · rw [netmaskToPrefixLen_eq, if_neg (hno _)]
  · exact prefixToNetmask_ok_iff.2 (netmaskToPrefixLen_ok_iff.1 h)
  · exact netmaskToPrefixLen_ok_iff.2 (prefixToNetmask_ok_iff.1 h)
  · rw [netmaskToPrefixLen_eq]; simp
  · by_cases h : p.toNat ≤ 32
    · obtain ⟨mask, heq, -⟩ := prefixToNetmask_of_le h
      rw [heq]; simp
    · rw [prefixToNetmask_of_lt (Nat.lt_of_not_le h)]; simp

example : netmaskToPrefixLen (.new 0 0 0 0) = some (.ok 0) ∧ prefixToNetmask 32 = some (.ok (.new 255 255 255 255)) := by
  decide

/-! ## The library: a mask is the number of its ones -/

def Ipv6Addr.toBits (ip : Ipv6Addr) : List Bool := ip.segments.toList.flatMap (fun s => Bits.bits 16 s.toNat)

/-- smoltcp's `IpCidr`. -/
structure IpCidr where
  addr : IpAddr
  prefixLen : UInt8
  deriving DecidableEq, Repr

/-- `IpCidr::new` asserts that the prefix is not longer than the address. -/
def IpCidr.new (addr : IpAddr) (prefixLen : UInt8) : Option IpCidr :=
  let width : UInt8 := match addr with
    | .v4 _ => 32
    | .v6 _ => 128
  if prefixLen ≤ width then some ⟨addr, prefixLen⟩ else none

/-- What `Net` is configured with: the address of its interface and its gateways. -/
structure NetConfig where
  ipAddr : IpCidr
  gateway : List IpAddr
  deriving DecidableEq, Repr

/-- The configuration that `create_net_with_channels` hands to `Net`. -/
def createNetWithChannels (smoltcpAddr smoltcpNetmask smoltcpGateway : IpAddr) : Option NetConfig :=
  let prefixLen := match smoltcpNetmask with
    | .v4 mask => UInt8.ofNat ((Bits.bits 32 mask.toU32.toNat).count true)
    | .v6 mask => UInt8.ofNat (mask.toBits.count true)
  (IpCidr.new smoltcpAddr prefixLen).map (fun cidr => ⟨cidr, [smoltcpGateway]⟩)

/-- The library and the binary read the same prefix length from a mask, or both refuse it. -/
def SameReading (smoltcpAddr smoltcpGateway : IpAddr) (mask : Ipv4Addr) : Prop :=
  ∀ p, netmaskToPrefixLen mask = some (.ok p) ↔
    (createNetWithChannels smoltcpAddr (.v4 mask) smoltcpGateway).map (·.ipAddr.prefixLen) = some p

/-- **The library refuses no IPv4 mask.** -/
theorem createNetWithChannels_v4 (addr gateway : IpAddr) (mask : Ipv4Addr) :
    createNetWithChannels addr (.v4 mask) gateway =
      some ⟨⟨addr, UInt8.ofNat (mask.toBits.count true)⟩, [gateway]⟩ := by
  have hle : mask.toBits.count true ≤ 32 := mask.length_toBits ▸ List.count_le_length
  have hnew : IpCidr.new addr (UInt8.ofNat (mask.toBits.count true)) =
      some ⟨addr, UInt8.ofNat (mask.toBits.count true)⟩ := by
    unfold IpCidr.new
    refine if_pos (UInt8.le_iff_toNat_le.2 ?_)
    rw [toNat_ofNat_of_le_32 hle]
    cases addr with
    | v4 _ => exact hle
    | v6 _ => exact Nat.le_trans hle (show 32 ≤ 128 by decide)
  simp only [createNetWithChannels, mask.bits_toU32, hnew, Option.map_some]

/-- **The two builds read a mask the same way exactly if its ones come first.** -/
theorem sameReading_iff (smoltcpAddr smoltcpGateway : IpAddr) (mask : Ipv4Addr) :
    SameReading smoltcpAddr smoltcpGateway mask ↔ ∃ p : Nat, Netmask mask p := by
  constructor
  · intro h
    -- the library always reads some length; where the binary reads it too, the mask has that many leading ones
    have hcount := (h (UInt8.ofNat (mask.toBits.count true))).2 (by rw [createNetWithChannels_v4, Option.map_some])
    exact ⟨_, netmaskToPrefixLen_ok_iff.1 hcount⟩
  · rintro ⟨p, hp⟩ q
    rw [createNetWithChannels_v4, hp.count_eq, netmaskToPrefixLen_eq, hp.leadingOnes_eq, if_pos hp]
    simp

/-- Two octets of ones that are not the first two: 16 for the library, no mask for the binary. -/
theorem netmask_with_hole_read :
    createNetWithChannels (.v4 (.new 10 0 0 1)) (.v4 (.new 255 0 255 0)) (.v4 (.new 10 0 0 2)) =
      some ⟨⟨.v4 (.new 10 0 0 1), 16⟩, [.v4 (.new 10 0 0 2)]⟩ ∧
    netmaskToPrefixLen (.new 255 0 255 0) = some (.error "invalid ipv4 netmask: 255.0.255.0") ∧
    ¬ SameReading (.v4 (.new 10 0 0 1)) (.v4 (.new 10 0 0 2)) (.new 255 0 255 0) := by
  have hlib : createNetWithChannels (.v4 (.new 10 0 0 1)) (.v4 (.new 255 0 255 0)) (.v4 (.new 10 0 0 2)) =
      some ⟨⟨.v4 (.new 10 0 0 1), 16⟩, [.v4 (.new 10 0 0 2)]⟩ := by decide +kernel
  have hbin : netmaskToPrefixLen (.new 255 0 255 0) = some (.error "invalid ipv4 netmask: 255.0.255.0") := by
    decide +kernel
  refine ⟨hlib, hbin, fun h => ?_⟩
  have hread := (h 16).2 (by rw [hlib]; rfl)
  rw [hbin] at hread
  simp at hread

end Easynet
