import Easynet.AddrText
import Easynet.Mtu
import Easynet.TunnelAddress
/-!
# TunnelDevice — the TUN device of a client

The server writes the addresses of a `TunConfig` as texts, the reply goes over the link, and the client reads the texts and
makes its device of them.  So the device is the one that the server's configuration describes, with the address of the
client's session, and whatever comes to it through the tunnel is for this address.
-/
namespace Easynet

open Machine (Run)
open Fifo (items)

theorem Ipv4Addr.toText_inj {ip ip' : Ipv4Addr} (h : ip.toText = ip'.toText) : ip = ip' := by
  have htext : (IpAddr.v4 ip).toText = (IpAddr.v4 ip').toText := h
  have hread := std_parse (.v4 ip)
  rw [htext, std_parse] at hread
  exact (IpAddr.v4.inj (Except.ok.inj hread)).symm

/-- **A client makes the device that the server's configuration describes**: the texts are all read, as what was written. -/
theorem clientTunDevice_buildTunConfig (tun2 : Tun2) (config : ServerConfig) (virtualIp : Ipv4Addr) :
    clientTunDevice std tun2 (buildTunConfig config virtualIp) =
      createTunDevice tun2 config.tunName (.v4 virtualIp) config.tunNetmask config.tunDestination config.tunDnsServers
        (UInt32.ofNat config.tunMtu).toUInt16 := by
  have haddress : virtualIp.toText = (IpAddr.v4 virtualIp).toText := rfl
  simp only [clientTunDevice, buildTunConfig, haddress, std_parse, mapM_parse_toText]
  rfl

namespace Tunnel

variable {L : Link} {overflowChecks : Bool} {c : Nat} {t : Tunnel L} {h : List (Tunnel L × TunnelAct L)}

/-- The configuration of a connected client is the one that the server allocated with a session of this run. -/
theorem connected_owned (hr : Run (step overflowChecks c) (init L) h t) {tunConfig : TunConfig} {client : ClockedClient}
    (hc : t.client = .connected tunConfig client) : ∃ id virtualIp, Owned (serverHistory c h) id virtualIp tunConfig := by
  obtain ⟨reply, hreply, htun⟩ := connected_reply hr hc
  have hpushed : (items (fun t a => (pushedDown c t a).bind Message.handshake?) h).Sublist
      (items (fun t a => ((serverAct c t a).bind (handedOn c t.server)).bind Message.handshake?) h) :=
    Fifo.items_sublist (fun t a t' hs => (step_moves hs).pushedDown_cases Message.handshake?) hr
  have hm := hpushed.subset hreply
  rw [← items_handedOn] at hm
  obtain ⟨p, hp, he⟩ := List.mem_filterMap.1 hm
  obtain ⟨msg, hmsg, hshake⟩ := Option.bind_eq_some_iff.1 he
  cases Message.handshake?_eq_some hshake
  unfold handedOn at hmsg
  split at hmsg
  · split at hmsg
    · obtain ⟨⟨dst, msg⟩, hout, he⟩ := Option.map_eq_some_iff.1 hmsg
      cases he
      obtain ⟨conn, hconn, hout⟩ := Option.bind_eq_some_iff.1 hout
      rcases outgoing_handshake hout with ⟨-, -, rfl⟩ | ⟨call, hphase, -, rfl⟩
      · cases htun
      · cases htun
        exact ⟨_, _, call_owned (serverRun hr) hp hconn (by rw [hphase]; rfl)⟩
    · cases hmsg
  · cases hmsg

/-- **A client's TUN device is the one that the server's configuration describes, with the address of a session that was
allocated in the run, and what comes to it through the tunnel are packets for this address only.**  Reading the texts of the
configuration never fails, so that whether there is a device is up to the operating system. -/
theorem tunnel_device (hr : Run (step overflowChecks c) (init L) h t) {tunConfig : TunConfig} {client : ClockedClient}
    (hc : t.client = .connected tunConfig client) (tun2 : Tun2) :
    ∃ (id : String) (config : ServerConfig) (k : Nat), (allocations (serverHistory c h))[k]? = some (id, config) ∧
      clientTunDevice std tun2 tunConfig =
        createTunDevice tun2 config.tunName (.v4 (addressOf k)) config.tunNetmask config.tunDestination
          config.tunDnsServers (UInt32.ofNat config.tunMtu).toUInt16 ∧
      ∀ packet ∈ items Pipeline.takenForTun (pipelineHistory overflowChecks h), IsFor packet (addressOf k) := by
  obtain ⟨id, virtualIp, k, config, hk, rfl, rfl⟩ := connected_owned hr hc
  refine ⟨id, config, k, hk, clientTunDevice_buildTunConfig tun2 config _, fun packet hm => ?_⟩
  obtain ⟨destIp, hfor, haddress⟩ := tunnel_isolated hr hc hm
  exact Ipv4Addr.toText_inj haddress ▸ hfor

/-- The end of `downTrace`. -/
def afterPacket : Tunnel tcp := (Machine.exec (step true 0) (init tcp) (greeting ++ packetDown)).get (by decide +kernel)

theorem tunnel_device_packet :
    Run (step true 0) (init tcp) downTrace afterPacket ∧
    ∃ client, afterPacket.client = .connected (buildTunConfig adminConfig (.new 10 0 0 2)) client ∧
      packet ∈ items Pipeline.takenForTun (pipelineHistory true downTrace) ∧
      ∃ (id : String) (config : ServerConfig) (k : Nat), (allocations (serverHistory 0 downTrace))[k]? = some (id, config) ∧
        clientTunDevice std willing.tun2 (buildTunConfig adminConfig (.new 10 0 0 2)) =
          createTunDevice willing.tun2 config.tunName (.v4 (addressOf k)) config.tunNetmask config.tunDestination
            config.tunDnsServers (UInt32.ofNat config.tunMtu).toUInt16 ∧
        IsFor packet (addressOf k) := by
  have hr : Run (step true 0) (init tcp) downTrace afterPacket := Machine.run_get (by decide +kernel)
  have hm : packet ∈ items Pipeline.takenForTun (pipelineHistory true downTrace) := by decide +kernel
  have hclient : afterPacket.client =
      .connected (buildTunConfig adminConfig (.new 10 0 0 2)) afterPacket.client.clocked := by decide +kernel
  obtain ⟨id, config, k, hk, hdevice, hpackets⟩ := tunnel_device hr hclient willing.tun2
  exact ⟨hr, _, hclient, hm, id, config, k, hk, hdevice, hpackets packet hm⟩

end Tunnel

end Easynet
