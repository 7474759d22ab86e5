import Easynet.Lib.Bits
import Easynet.Rules.Matcher
/-!
# Subnet — addresses as numbers, and the addresses of a subnet

An IPv4 address is the 32 bits of a number, and a network contains those with its first bits: the numbers that are equal to
its own after division (`contains_iff`).  The hosts of a subnet are its addresses without the first and the last, which
stand for the network itself and for all hosts.
-/
namespace Easynet

namespace Ipv4Addr

def toNat (ip : Ipv4Addr) : Nat := 2 ^ 24 * ip.a.toNat + (2 ^ 16 * ip.b.toNat + (2 ^ 8 * ip.c.toNat + ip.d.toNat))

theorem toNat_eq (ip : Ipv4Addr) :
    ip.toNat = 16777216 * ip.a.toNat + (65536 * ip.b.toNat + (256 * ip.c.toNat + ip.d.toNat)) := rfl

theorem toNat_lt (ip : Ipv4Addr) : ip.toNat < 2 ^ 32 := by
  have ha := ip.a.toNat_lt
  have hb := ip.b.toNat_lt
  have hc := ip.c.toNat_lt
  have hd := ip.d.toNat_lt
  rw [toNat_eq]
  omega

theorem toNat_inj {ip ip' : Ipv4Addr} : ip.toNat = ip'.toNat ↔ ip = ip' := by
  refine ⟨fun h => ?_, fun h => h ▸ rfl⟩
  obtain ⟨a, b, c, d⟩ := ip
  obtain ⟨a', b', c', d'⟩ := ip'
  have hb := b.toNat_lt
  have hc := c.toNat_lt
  have hd := d.toNat_lt
  have hb' := b'.toNat_lt
  have hc' := c'.toNat_lt
  have hd' := d'.toNat_lt
  simp only [toNat_eq] at h
  rw [mk.injEq, ← UInt8.toNat_inj, ← UInt8.toNat_inj, ← UInt8.toNat_inj, ← UInt8.toNat_inj]
  omega

theorem toBits_octets (ip : Ipv4Addr) : ip.toBits = Bits.bits 8 ip.a.toNat ++ (Bits.bits 8 ip.b.toNat ++
    (Bits.bits 8 ip.c.toNat ++ (Bits.bits 8 ip.d.toNat ++ []))) := rfl

theorem toBits_eq (ip : Ipv4Addr) : ip.toBits = Bits.bits 32 ip.toNat := by
  have hb := ip.b.toNat_lt
  have hc := ip.c.toNat_lt
  have hd := ip.d.toNat_lt
  rw [toBits_octets, List.append_nil, Bits.bits_append _ _ hd, Bits.bits_append _ _ (by omega),
    Bits.bits_append _ _ (by omega)]
  rfl

end Ipv4Addr

/-! ## Subnets -/

/-- A network contains the addresses that are its own after division by the size of its host part. -/
theorem Ipv4Network.contains_iff (addr : Ipv4Addr) {p : Nat} (h : p ≤ 32) (ip : Ipv4Addr) :
    (Ipv4Network.mk addr p).contains ip = true ↔ ip.toNat / 2 ^ (32 - p) = addr.toNat / 2 ^ (32 - p) := by
  rw [contains, beq_iff_eq, ip.toBits_eq, addr.toBits_eq, Bits.take_bits_eq_iff h ip.toNat_lt addr.toNat_lt]

/-- A mask whose first bits, and only these, are set. -/
def Netmask (mask : Ipv4Addr) (prefixLen : Nat) : Prop :=
  mask.toBits = List.replicate prefixLen true ++ List.replicate (32 - prefixLen) false

instance (mask : Ipv4Addr) (prefixLen : Nat) : Decidable (Netmask mask prefixLen) := inferInstanceAs (Decidable (_ = _))

example : Netmask (.new 255 255 255 0) 24 := by decide

/-- The number of its set bits is the length of a mask. -/
theorem Netmask.count_eq {mask : Ipv4Addr} {prefixLen : Nat} (h : Netmask mask prefixLen) :
    mask.toBits.count true = prefixLen := by
  rw [h, List.count_append, List.count_replicate_self, List.count_replicate]
  rfl

/-- The first address of the subnet of an address. -/
def IsNetworkAddr (addr : Ipv4Addr) (prefixLen : Nat) (ip : Ipv4Addr) : Prop :=
  ip.toBits = addr.toBits.take prefixLen ++ List.replicate (32 - prefixLen) false

/-- The last one. -/
def IsBroadcastAddr (addr : Ipv4Addr) (prefixLen : Nat) (ip : Ipv4Addr) : Prop :=
  ip.toBits = addr.toBits.take prefixLen ++ List.replicate (32 - prefixLen) true

/-- **An address that another host in the subnet of `addr` can have.** -/
structure Usable (addr : Ipv4Addr) (prefixLen : Nat) (ip : Ipv4Addr) : Prop where
  contained : (Ipv4Network.mk addr prefixLen).contains ip = true
  ne_addr : ip ≠ addr
  not_network : ¬ IsNetworkAddr addr prefixLen ip
  not_broadcast : ¬ IsBroadcastAddr addr prefixLen ip

section Hosts

variable {addr ip : Ipv4Addr} {p : Nat}

/-- The address with the first bits of `addr` and `host` in the others. -/
theorem toBits_eq_take_append (hp : p ≤ 32) {host : Nat} (hhost : host < 2 ^ (32 - p)) :
    ip.toBits = addr.toBits.take p ++ Bits.bits (32 - p) host ↔
      ip.toNat = 2 ^ (32 - p) * (addr.toNat / 2 ^ (32 - p)) + host := by
  have hle : 2 ^ (32 - p) * (addr.toNat / 2 ^ (32 - p)) + host < 2 ^ 32 := by
    have hlt : addr.toNat / 2 ^ (32 - p) < 2 ^ p := by
      refine Nat.div_lt_of_lt_mul ?_
      rw [← Nat.pow_add, Nat.sub_add_cancel hp]
      exact addr.toNat_lt
    calc 2 ^ (32 - p) * (addr.toNat / 2 ^ (32 - p)) + host
        < 2 ^ (32 - p) * (addr.toNat / 2 ^ (32 - p)) + 2 ^ (32 - p) := Nat.add_lt_add_left hhost _
      _ = 2 ^ (32 - p) * (addr.toNat / 2 ^ (32 - p) + 1) := by rw [Nat.mul_add, Nat.mul_one]
      _ ≤ 2 ^ (32 - p) * 2 ^ p := Nat.mul_le_mul_left _ hlt
      _ = 2 ^ 32 := by rw [← Nat.pow_add, Nat.sub_add_cancel hp]
  rw [ip.toBits_eq, addr.toBits_eq, Bits.take_bits hp, Bits.bits_append _ _ hhost, Nat.add_sub_cancel' hp,
    Bits.bits_inj ip.toNat_lt hle]

theorem isNetworkAddr_iff (hp : p ≤ 32) :
    IsNetworkAddr addr p ip ↔ ip.toNat = 2 ^ (32 - p) * (addr.toNat / 2 ^ (32 - p)) := by
  rw [IsNetworkAddr, ← Bits.bits_zero, toBits_eq_take_append hp (Nat.two_pow_pos _), Nat.add_zero]

theorem isBroadcastAddr_iff (hp : p ≤ 32) :
    IsBroadcastAddr addr p ip ↔ ip.toNat = 2 ^ (32 - p) * (addr.toNat / 2 ^ (32 - p)) + (2 ^ (32 - p) - 1) := by
  rw [IsBroadcastAddr, ← Bits.bits_ones, toBits_eq_take_append hp (Nat.sub_one_lt_of_lt (Nat.two_pow_pos _))]

/-- **Usable addresses, by their numbers**: in the subnet, and not the first, the last or the address itself. -/
theorem usable_iff (hp : p ≤ 32) :
    Usable addr p ip ↔ ip.toNat / 2 ^ (32 - p) = addr.toNat / 2 ^ (32 - p) ∧ ip.toNat ≠ addr.toNat ∧
      ip.toNat % 2 ^ (32 - p) ≠ 0 ∧ ip.toNat % 2 ^ (32 - p) ≠ 2 ^ (32 - p) - 1 := by
  have hdiv := Nat.div_add_mod ip.toNat (2 ^ (32 - p))
  constructor
  · rintro ⟨hin, hne, hnet, hbroad⟩
    rw [Ipv4Network.contains_iff addr hp] at hin
    rw [isNetworkAddr_iff hp, ← hin] at hnet
    rw [isBroadcastAddr_iff hp, ← hin] at hbroad
    exact ⟨hin, fun h => hne (Ipv4Addr.toNat_inj.1 h), by omega, by omega⟩
  · rintro ⟨hin, hne, hnet, hbroad⟩
    refine ⟨(Ipv4Network.contains_iff addr hp ip).2 hin, fun h => hne (h ▸ rfl), ?_, ?_⟩
    · rw [isNetworkAddr_iff hp, ← hin]
      omega
    · rw [isBroadcastAddr_iff hp, ← hin]
      omega

end Hosts

end Easynet
