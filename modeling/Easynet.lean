import Easynet.Lib.Machine
import Easynet.Lib.Drain
import Easynet.Lib.Protobuf
import Easynet.Lib.Table
import Easynet.Lib.Text
import Easynet.Lib.Result
import Easynet.Lib.Locking
import Easynet.Lib.Timed
import Easynet.Lib.Checksum
import Easynet.Lib.Dispatch
import Easynet.Lib.Bits
import Easynet.Lib.Counter
import Easynet.Net
import Easynet.DnsServers
import Easynet.Message
import Easynet.Codec
import Easynet.Proto
import Easynet.CodecStream
import Easynet.Limits
import Easynet.Wire
import Easynet.Rules.Rule
import Easynet.Rules.DomainCache
import Easynet.Rules.Context
import Easynet.Rules.Matcher
import Easynet.Rules.Engine
import Easynet.Rules.Domains
import Easynet.Rules.Observe
import Easynet.Rules.Fragments
import Easynet.Rules.Ports
import Easynet.Rules.Checked
import Easynet.Subnet
import Easynet.Netmask
import Easynet.Rules.Private
import Easynet.Sessions
import Easynet.Server
import Easynet.ServerStep
import Easynet.SessionLog
import Easynet.Address
import Easynet.HostAddress
import Easynet.Resume
import Easynet.Leaving
import Easynet.Client
import Easynet.Agreement
import Easynet.FailedHandshake
import Easynet.Downstream
import Easynet.Pipeline
import Easynet.Keepalive
import Easynet.Route
import Easynet.Startup
import Easynet.Mtu
import Easynet.UdpFramed
import Easynet.Transports
import Easynet.UdpServer
import Easynet.Proxy
import Easynet.UdpProxy
import Easynet.UdpDelivery
import Easynet.Icmp
import Easynet.IcmpProxy
import Easynet.IcmpSessions
import Easynet.IcmpIdents
import Easynet.IcmpTable
import Easynet.TcpProxy
import Easynet.Counters
import Easynet.Lib.Fifo
import Easynet.Lib.Flow
import Easynet.Lib.Scan
import Easynet.Lib.Serde
import Easynet.Lib.Pipe
import Easynet.ClientFlow
import Easynet.ServerFlow
import Easynet.Link
import Easynet.Tunnel
import Easynet.TunnelFlow
import Easynet.TunnelAddress
import Easynet.TunnelClock
import Easynet.Router
import Easynet.UdpDownlink
import Easynet.UdpFlows
import Easynet.IcmpFlows
import Easynet.AddrText
import Easynet.TunnelDevice
import Easynet.Config
