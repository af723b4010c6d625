/-
**Components of addresses.**

Some functions of the program look at the components of an address one by one and build a new address from them.
`Components` reads the text of a component as the `multiaddr` crate does, and writes that of an IP address;
`BuildAddr` is `Multiaddr::empty` with `push`.
-/

import P2pNet.Connectivity.AddrClass

namespace P2pNet.Connectivity

variable {PeerId Addr : Type}

/-! ### IP addresses -/

inductive IpAddr
  | v4 (a b c d : UInt8)
  | v6 (segments : Fin 8 → UInt16)
  deriving DecidableEq

namespace IpAddr

def toHost : IpAddr → Host
  | v4 a b c d => .ip4 a b c d
  | v6 segments => .ip6 segments

/-- `is_public_ip`. -/
def isPublic : IpAddr → Bool
  | v4 a b c d => isPublicIpv4 a b c d
  | v6 segments => isPublicIpv6 segments

def isLoopback : IpAddr → Bool
  | v4 a _ _ _ => a = 127
  | v6 segments => decide (∀ index, segments index = if index.val = 7 then 1 else 0)

def isUnspecified : IpAddr → Bool
  | v4 a b c d => (a, b, c, d) = (0, 0, 0, 0)
  | v6 segments => decide (∀ index, segments index = 0)

def sameFamily : IpAddr → IpAddr → Bool
  | v4 .., v4 .. | v6 _, v6 _ => true
  | _, _ => false

/-- `is_local_source` and `is_local_ipv4`, `is_local_ipv6`: loopback, private or link-local. -/
def isLocalSource : IpAddr → Bool
  | v4 a b _ _ => a = 127 ∨ (a = 10 ∨ a = 172 ∧ 16 ≤ b ∧ b ≤ 31 ∨ a = 192 ∧ b = 168) ∨ a = 169 ∧ b = 254
  | v6 segments => (∀ index, segments index = if index.val = 7 then 1 else 0) ∨
      firstSegment segments &&& 0xfe00 = 0xfc00 ∨ firstSegment segments &&& 0xffc0 = 0xfe80

theorem isLocalIp_toHost (ip : IpAddr) : ip.toHost.isLocalIp = !ip.isPublic := by
  cases ip <;> rfl

end IpAddr

/-! ### Components -/

inductive Component
  | ip (address : IpAddr)
  | dns
  | dnsaddr
  | tcp (port : UInt16)
  | udp (port : UInt16)
  | webRtcDirect
  | certhash
  | webTransport
  | other
  deriving DecidableEq

namespace Component

def host : Component → Option Host
  | ip address => some address.toHost
  | dns => some .dns
  | dnsaddr => some .dnsaddr
  | _ => none

def isIp : Component → Bool
  | ip _ => true
  | _ => false

end Component

/-- A reader of the texts of components, and a writer of IP components. -/
structure Components where
  read : String → Component
  write : IpAddr → String

namespace Components

variable (components : Components)

def of : Protocol PeerId → Component
  | .other text => components.read text
  | _ => .other

def hostOf (protocol : Protocol PeerId) : Option Host := (components.of protocol).host

/-- The component of an IP address. -/
def ip (address : IpAddr) : Protocol PeerId := .other (components.write address)

/-- The text of the IP address reads back. -/
def ReadsBack (ip : IpAddr) : Prop := components.read (components.write ip) = .ip ip

end Components

def hasUnspecifiedIp [Multiaddr PeerId Addr] (components : Components) (addr : Addr) : Bool :=
  (Multiaddr.iter addr).any fun protocol => match components.of protocol with
    | .ip address => address.isUnspecified
    | _ => false

/-- `Multiaddr::empty` and `push`, all at once. -/
class BuildAddr (PeerId : outParam Type) (Addr : Type) [Multiaddr PeerId Addr] where
  ofProtocols : List (Protocol PeerId) → Addr
  iter_ofProtocols : ∀ protocols, Multiaddr.iter (ofProtocols protocols) = protocols

/-! ### Peers of an address -/

/-- The peer of a `/p2p` component. -/
def peerOf : Protocol PeerId → Option PeerId
  | .p2p peer => some peer
  | _ => none

/-- The peers that an address names, in order. -/
def peersOf [Multiaddr PeerId Addr] (addr : Addr) : List PeerId := (Multiaddr.iter addr).filterMap peerOf

/-- `has_p2p_peer_id` and `contains_any_p2p`. -/
def hasP2pPeerId [Multiaddr PeerId Addr] (addr : Addr) : Bool :=
  (Multiaddr.iter addr).any fun protocol => match protocol with
    | .p2p _ => true
    | _ => false

/-- **The last peer of an address.** -/
theorem extractP2pPeerId_eq [Multiaddr PeerId Addr] (addr : Addr) : extractP2pPeerId addr = (peersOf addr).getLast? := by
  have general : ∀ (protocols : List (Protocol PeerId)) (seen : Option PeerId),
      protocols.foldl (fun peer protocol => match protocol with
        | .p2p id => some id
        | _ => peer) seen = ((protocols.filterMap peerOf).getLast?).or seen := by
    intro protocols
    induction protocols with
    | nil => exact fun _ => rfl
    | cons protocol rest ih =>
      intro seen
      rw [List.foldl_cons, ih]
      cases protocol with
      | p2p peer =>
        have first : (Protocol.p2p peer :: rest).filterMap peerOf = peer :: rest.filterMap peerOf := rfl
        rw [first, List.getLast?_cons]
        cases (rest.filterMap peerOf).getLast? with
        | none => rfl
        | some last => rfl
      | _ => rfl
  exact (general (Multiaddr.iter addr) none).trans Option.or_none

theorem isP2pCircuitAddr_eq_false_iff [PeerIdentity PeerId] [Multiaddr PeerId Addr] (addr : Addr) :
    isP2pCircuitAddr addr = false ↔ Protocol.p2pCircuit ∉ Multiaddr.iter addr := by
  unfold isP2pCircuitAddr
  rw [List.any_eq_false]
  constructor
  · exact fun nowhere member => nowhere _ member (beq_self_eq_true _)
  · exact fun nowhere protocol member same => nowhere (eq_of_beq same ▸ member)

/-! ### Paths of the seeds -/

/-- An address as the list of its components. -/
structure SeedPath where
  protocols : List (Protocol Seed)
  deriving DecidableEq

namespace SeedPath

def protocolText : Protocol Seed → String
  | .quic => "/quic"
  | .quicV1 => "/quic-v1"
  | .p2pCircuit => "/p2p-circuit"
  | .p2p peer => "/p2p/" ++ peer.text
  | .other text => text

def text (path : SeedPath) : String := String.join (path.protocols.map protocolText)

/-- A TCP endpoint, with what follows it. -/
def tcp (host : String) (rest : List (Protocol Seed)) : SeedPath := ⟨.other host :: .other "/tcp/4001" :: rest⟩

/-- The paths the reader knows: a listener on the local network, one behind a relay there, and two that lead on to
another host. -/
def known : List SeedPath :=
  [tcp "/ip4/192.168.0.5" [], tcp "/ip4/192.168.0.5" [.p2p .qcu2, .p2pCircuit],
    tcp "/ip4/8.8.8.8" [.other "/ip4/192.168.0.5", .other "/tcp/4001"],
    tcp "/ip4/192.168.0.5" [.other "/dns4/example.org"]]

instance : Multiaddr Seed SeedPath where
  toText := text
  parse written := match known.find? fun path => path.text = written with
    | some path => .ok path
    | none => .error "unknown protocol string"
  iter := protocols

instance : BuildAddr Seed SeedPath where
  ofProtocols := mk
  iter_ofProtocols _ := rfl

/-- A reader of the hosts above. -/
def components : Components where
  read written :=
    if written = "/ip4/8.8.8.8" then .ip (.v4 8 8 8 8)
    else if written = "/ip4/192.168.0.5" then .ip (.v4 192 168 0 5)
    else if written = "/tcp/4001" then .tcp 4001
    else if written = "/dns4/example.org" then .dns
    else .other
  write
    | .v4 a b c d => s!"/ip4/{a}.{b}.{c}.{d}"
    | .v6 _ => "/ip6/::"

end SeedPath

end P2pNet.Connectivity
