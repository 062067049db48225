import VpnRouter.Lib.Transition
import VpnRouter.Lib.Memory
import VpnRouter.Lib.OnesComplement
import VpnRouter.Lib.Bag
import VpnRouter.Data
import VpnRouter.Table
import VpnRouter.ArpWait
import VpnRouter.ArpWaitBag
import VpnRouter.IpPack
import VpnRouter.IpProcess
import VpnRouter.NextHop
import VpnRouter.Tunnel
import VpnRouter.Device
import VpnRouter.LocalDelivery
import VpnRouter.Route
import VpnRouter.Ttl
import VpnRouter.Arp
import VpnRouter.Lib.RingBuffer
import VpnRouter.Lib.Mailbox
import VpnRouter.PacketRing
import VpnRouter.RingDeadlock
import VpnRouter.RingSafety
import VpnRouter.RingLock
import VpnRouter.Lib.Monitor
import VpnRouter.TcpPack
import VpnRouter.Tcp
import VpnRouter.TcpAck
import VpnRouter.TcpOrder
import VpnRouter.TcpSequence
import VpnRouter.TcpInput
import VpnRouter.ArpCache
import VpnRouter.Capacity
import VpnRouter.RingQueue
import VpnRouter.TcpUnpack
import VpnRouter.ArpFlush
import VpnRouter.UnpackVpn
import VpnRouter.IpHeader
import VpnRouter.TcpHeader
import VpnRouter.Conservation
import VpnRouter.TcpOptions
import VpnRouter.FailedLookups
import VpnRouter.Forwarding
import VpnRouter.ReceiveLengths
import VpnRouter.Checksum
import VpnRouter.Lib.LongestMatch
import VpnRouter.LongestPrefix
import VpnRouter.TcpPayload
import VpnRouter.ArpMessage
import VpnRouter.InOut
import VpnRouter.Discovery
import VpnRouter.Message
import VpnRouter.Boot
import VpnRouter.Lib.Encapsulation
import VpnRouter.Network
import VpnRouter.Path
import VpnRouter.Sockets
import VpnRouter.Handler
import VpnRouter.Program
import VpnRouter.Progress
import VpnRouter.Bounds
import VpnRouter.TcpRecord
import VpnRouter.TcpPacket
import VpnRouter.TcpBuffer
import VpnRouter.Wire
import VpnRouter.Syscall
import VpnRouter.Waiting
import VpnRouter.Known
import VpnRouter.RingFifo
