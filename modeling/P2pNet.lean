import P2pNet.Lib.Table
import P2pNet.Lib.Run
import P2pNet.Lib.Checked
import P2pNet.Lib.Bytes
import P2pNet.Common.Basic
import P2pNet.Lib.Text
import P2pNet.Api.AppMessage
import P2pNet.Api.Fragment
import P2pNet.Api.Reassembler
import P2pNet.Api.FragmentJson
import P2pNet.Api.ReassemblerRuns
import P2pNet.Api.FragmentRoundTrip
import P2pNet.Lib.ReplayCache
import P2pNet.Protocol.HeartbeatWire
import P2pNet.Protocol.MessageSecurity
import P2pNet.Protocol.Reputation
import P2pNet.Protocol.ReplayProtection
import P2pNet.Node.Events.App
import P2pNet.Common.Multiaddr
import P2pNet.Connectivity.PeerBook
import P2pNet.Connectivity.PeerAddresses
import P2pNet.Connectivity.ConnectionStrategy
import P2pNet.Lib.Firsts
import P2pNet.Connectivity.PlanOrder
import P2pNet.Lib.Occurrences
import P2pNet.Connectivity.TransportFilter
import P2pNet.Node.Dial
import P2pNet.Node.DialRuns
import P2pNet.Api.Metrics
import P2pNet.Node.ReceivedTraffic
import P2pNet.Node.SentTraffic
import P2pNet.Lib.Serde
import P2pNet.Node.Events.FrameFormats
import P2pNet.Node.Subscriptions
import P2pNet.Node.AutoDial
import P2pNet.Node.DialOwners
import P2pNet.Node.Maintenance
import P2pNet.Connectivity.Limits
import P2pNet.Node.Events.Connection
import P2pNet.Node.StalePlans
import P2pNet.Connectivity.PeerRecords
import P2pNet.Node.Events.Discovery
import P2pNet.Node.Commands
import P2pNet.Node.Runtime
import P2pNet.Node.Connectedness
import P2pNet.Node.Presence
import P2pNet.Node.RetryWindow
import P2pNet.Node.DhtSchedule
import P2pNet.Node.Release
import P2pNet.Node.SelfKnowledge
import P2pNet.Connectivity.AddrClass
import P2pNet.Stack.Dcutr
import P2pNet.Stack.DnsTransport
import P2pNet.Stack.ExternalAddresses
import P2pNet.Stack.IdentifyState
import P2pNet.Node.ListenAddresses
import P2pNet.Relay.CopyFuture
import P2pNet.Node.Events.RelayClient
import P2pNet.Node.Events.ReservationBackoff
import P2pNet.Connectivity.RelayConfig
import P2pNet.Connectivity.Namespace
import P2pNet.Connectivity.DiscoveryConfig
import P2pNet.Connectivity.DhtKeys
import P2pNet.Node.Capabilities
import P2pNet.Node.Events.DirectUpgrade
import P2pNet.Node.PublicAddress
import P2pNet.Connectivity.Components
import P2pNet.Node.PublicIp
import P2pNet.Node.PlanIdentity
import P2pNet.Connectivity.RelayDiscovery
import P2pNet.Node.Events.RelayFinder
import P2pNet.Connectivity.PeerCache
import P2pNet.Connectivity.PeerCacheBatch
import P2pNet.Lib.Framed
import P2pNet.Connectivity.NamespaceSeparation
import P2pNet.Connectivity.ApplicationProtocol
import P2pNet.Connectivity.Rendezvous
import P2pNet.Stack.RendezvousRefresh
import P2pNet.Stack.RendezvousNames
import P2pNet.Stack.RendezvousDiscovery
import P2pNet.Stack.RendezvousRegistration
import P2pNet.Connectivity.IpText
import P2pNet.Connectivity.Turn.Server
import P2pNet.Lib.Asking
import P2pNet.Connectivity.DnsTxt
import P2pNet.Connectivity.Dnsaddr
import P2pNet.Lib.RateWindow
import P2pNet.Connectivity.Ice
import P2pNet.Connectivity.IceLanguage
import P2pNet.Connectivity.Turn.Credentials
import P2pNet.Connectivity.Turn.ClientConfig
import P2pNet.Connectivity.Turn.Client
import P2pNet.Connectivity.Turn.Cooldown
import P2pNet.Connectivity.Turn.Config
import P2pNet.Node.IcePlan
import P2pNet.Connectivity.Turn.Broker
import P2pNet.Connectivity.Turn.RefreshPacing
import P2pNet.Connectivity.Turn.BrokerLimits
import P2pNet.Connectivity.Turn.Lifetimes
import P2pNet.Node.TurnRuntime
import P2pNet.Connectivity.Identity
import P2pNet.Stack.MessageId
import P2pNet.Connectivity.RelayOpening
import P2pNet.Lib.OrderedSet
import P2pNet.Lib.Fifo
