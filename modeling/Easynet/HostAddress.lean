import Easynet.AddrText
import Easynet.Address
import Easynet.Subnet
/-!
# HostAddress — is the address of a session one of the server's subnet

The address of a new session is `10.0.0.` and the lowest octet of the counter, whatever `tun_addr` and `tun_netmask` are.
It is usable if that is an address of their subnet other than the server's own, the first and the last; with the default
configuration three of 256 are not.
-/
namespace Easynet

open Machine (Throughout)

/-- The configuration from which a step makes a new session, and the `TunConfig` that its task then has for it. -/
def newTunConfig (s : Server) (a : Action) : Option (ServerConfig × TunConfig) :=
  match a with
  | .conn c _ =>
    (allocated s a).bind (fun p =>
      (((step s a).bind (fun s' => s'.phaseOf c)).bind Phase.call).map (fun call => (p.2, call.tunConfig)))
  | _ => none

/-- **The address in a `TunConfig` is one that a host of the server's subnet can have.** -/
def UsableIn (config : ServerConfig) (tunConfig : TunConfig) : Prop :=
  ∀ addr mask p, config.tunAddr = .v4 addr → config.tunNetmask = .v4 mask → Netmask mask p → p ≤ 30 →
    ∃ ip, Ipv4Addr.parse tunConfig.address = some ip ∧ Usable addr p ip

/-- The same of the `k`-th allocation, as numbers: `10.0.0.0` is 167772160. -/
def Clear (config : ServerConfig) (k : Nat) : Prop :=
  ∀ addr mask p, config.tunAddr = .v4 addr → config.tunNetmask = .v4 mask → Netmask mask p → p ≤ 30 →
    (167772160 + (2 + k) % 256) / 2 ^ (32 - p) = addr.toNat / 2 ^ (32 - p) ∧
    167772160 + (2 + k) % 256 ≠ addr.toNat ∧
    (167772160 + (2 + k) % 256) % 2 ^ (32 - p) ≠ 0 ∧
    (167772160 + (2 + k) % 256) % 2 ^ (32 - p) ≠ 2 ^ (32 - p) - 1

theorem toNat_addressOf (k : Nat) : (addressOf k).toNat = 167772160 + (2 + k) % 256 := by
  have hoctet := toNat_lastOctet k
  show 2 ^ 24 * 10 + (2 ^ 16 * 0 + (2 ^ 8 * 0 + (UInt32.ofNat (2 + k)).toUInt8.toNat)) = _
  rw [hoctet]
  omega

theorem usableIn_iff (config : ServerConfig) (k : Nat) :
    UsableIn config (buildTunConfig config (addressOf k)) ↔ Clear config k := by
  have hparse : Ipv4Addr.parse (buildTunConfig config (addressOf k)).address = some (addressOf k) :=
    (addressOf k).parse_toText
  constructor
  · intro h addr mask p haddr hmask hp hle
    obtain ⟨ip, hip, husable⟩ := h addr mask p haddr hmask hp hle
    cases hparse.symm.trans hip
    rw [← toNat_addressOf]
    exact (usable_iff (Nat.le_trans hle (by decide))).1 husable
  · intro h addr mask p haddr hmask hp hle
    refine ⟨addressOf k, hparse, (usable_iff (Nat.le_trans hle (by decide))).2 ?_⟩
    rw [toNat_addressOf]
    exact h addr mask p haddr hmask hp hle

/-- The `TunConfig` of a new session is the one of its allocation. -/
theorem newTunConfig_eq {transport : Transport} {h : List (Server × Action)} {s s' : Server} {a : Action}
    (hr : ServerRun transport h s) (hs : step s a = some s') :
    newTunConfig s a =
      (allocated s a).map (fun p => (p.2, buildTunConfig p.2 (addressOf (allocations h).length))) := by
  cases a with
  | conn c act =>
    obtain ⟨conn, conn', t, hc, hcs, rfl⟩ := step_connStep hs
    have hphase : (t.setConn c conn').phaseOf c = some conn'.phase :=
      phaseOf_eq (hcs.conn_after hc)
    simp only [newTunConfig, hs, Option.bind_some, hphase]
    rcases hcs.allocation hc with ⟨src, request, config, fresh, hal, he⟩ | ⟨hal, -, -⟩
    · obtain ⟨hnew, -⟩ := Prod.mk.inj he
      rw [hal, hnew, nextClientId_eq hr]
      rfl
    · rw [hal]
      rfl
  | _ => rfl

/-- **Every new session of a run is given a usable address, if and only if the number of its allocation falls on one of the
configured subnet.** -/
theorem addresses_usable_iff {transport : Transport} {h : List (Server × Action)} {s : Server}
    (hr : ServerRun transport h s) :
    Throughout (fun _ t a =>
        ∀ config tunConfig, newTunConfig t a = some (config, tunConfig) → UsableIn config tunConfig) h ↔
      Throughout (fun h t a =>
        ∀ id config, allocated t a = some (id, config) → Clear config (allocations h).length) h := by
  refine hr.throughout_congr (E := fun _ _ _ => True) (fun _ _ => trivial) (fun h t a t' hr hs _ => ?_)
  rw [newTunConfig_eq hr hs]
  constructor
  · intro hall id config hal
    exact (usableIn_iff config _).1 (hall config _ (by rw [hal]; rfl))
  · intro hall config tunConfig hnew
    obtain ⟨⟨id, config'⟩, hal, he⟩ := Option.map_eq_some_iff.1 hnew
    cases he
    exact (usableIn_iff config' _).2 (hall id config' hal)

/-- In the default subnet the first, the second and the last address of 256 are not clear. -/
theorem clear_default_iff {config : ServerConfig} (haddr : config.tunAddr = .v4 (.new 10 0 0 1))
    (hmask : config.tunNetmask = .v4 (.new 255 255 255 0)) (k : Nat) :
    Clear config k ↔ (2 + k) % 256 ≠ 0 ∧ (2 + k) % 256 ≠ 1 ∧ (2 + k) % 256 ≠ 255 := by
  constructor
  · intro h
    obtain ⟨-, hne, hfirst, hlast⟩ := h _ _ 24 haddr hmask (by decide) (by decide)
    have hserver : (Ipv4Addr.new 10 0 0 1).toNat = 167772161 := rfl
    rw [hserver] at hne
    have hsize : 2 ^ (32 - 24) = 256 := rfl
    rw [hsize] at hfirst hlast
    omega
  · rintro ⟨h0, h1, h255⟩ addr mask p haddr' hmask' hp -
    cases haddr.symm.trans haddr'
    cases hmask.symm.trans hmask'
    obtain rfl : 24 = p := hp.count_eq
    have hserver : (Ipv4Addr.new 10 0 0 1).toNat = 167772161 := rfl
    have hsize : 2 ^ (32 - 24) = 256 := rfl
    rw [hserver, hsize]
    omega

theorem addresses_usable_first :
    Throughout (fun _ t a => ∀ config tunConfig, newTunConfig t a = some (config, tunConfig) → UsableIn config tunConfig)
      (played .stream (handshakeRun "admin")) ∧
    ∃ p ∈ played .stream (handshakeRun "admin"), (newTunConfig p.1 p.2).isSome = true := by
  refine ⟨(addresses_usable_iff (played_run (by decide))).2 (fun i hi id config hal => ?_), by decide⟩
  have hall : Throughout (fun h t a => ∀ p ∈ allocated t a, p.2 = adminConfig ∧ (allocations h).length = 0)
      (played .stream (handshakeRun "admin")) := by decide
  obtain ⟨rfl, hlen⟩ := hall i hi (id, config) hal
  rw [hlen]
  exact (clear_default_iff rfl rfl 0).2 (by decide)

/-- A session, 252 handshakes that fail at the reply, and a second session. -/
def broadcastRun : List Action :=
  handshakeRun "admin" ++ ((List.range' 0 252).flatMap failedHandshake ++ [shakeHands "s1"])

/-- **With the default subnet the 254th new session is given its broadcast address.** -/
theorem broadcast_address_handed_out :
    ∃ s call, ServerRun .stream (played .stream broadcastRun) s ∧ (s.phaseOf 0).bind Phase.call = some call ∧
      call.sessionId = "s1" ∧ call.tunConfig.address = "10.0.0.255" ∧
      adminConfig.tunAddr = .v4 (.new 10 0 0 1) ∧ adminConfig.tunNetmask = .v4 (.new 255 255 255 0) ∧
      IsBroadcastAddr (.new 10 0 0 1) 24 (.new 10 0 0 255) := by
  have hlast : (Machine.exec step (afterFirst 255) [shakeHands "s1"]).isSome = true := by decide
  have hexec := Machine.exec_trans exec_first (Machine.exec_trans (exec_failures 252) (Option.some_get hlast).symm)
  refine ⟨_, _, Machine.run_of_exec hexec, rfl, rfl, ?_, rfl, rfl, ?_⟩
  · decide +kernel
  · exact (isBroadcastAddr_iff (by decide)).2 rfl

end Easynet
