/-
**Public and local addresses** (`crates/connectivity/addr.rs`, `crates/connectivity/relay/address.rs`).

An address is classified by the hosts its protocols name. `hostOf` reads the host of a protocol, as the
`multiaddr` crate does. `isPublicDirectAddr_iff`: a public address names a host, and every IP address in it
is public, so that no address is both public and local.
-/

import P2pNet.Connectivity.ConnectionStrategy

namespace P2pNet.Connectivity

variable {PeerId Addr : Type}

/-! ### Hosts -/

/-- What a protocol names: an IP address, a name that is looked up, or a name that stands for addresses. -/
inductive Host
  | ip4 (a b c d : UInt8)
  | ip6 (segments : Fin 8 → UInt16)
  | dns
  | dnsaddr

def isPublicIpv4 (a b c d : UInt8) : Bool :=
  let unspecified := (a, b, c, d) = (0, 0, 0, 0)
  let loopback := a = 127
  let privateUse := a = 10 ∨ a = 172 ∧ 16 ≤ b ∧ b ≤ 31 ∨ a = 192 ∧ b = 168
  let linkLocal := a = 169 ∧ b = 254
  let multicast := 224 ≤ a ∧ a ≤ 239
  let broadcast := (a, b, c, d) = (255, 255, 255, 255)
  let carrierGradeNat := a = 100 ∧ 64 ≤ b ∧ b ≤ 127
  let documentation := (a, b, c) = (192, 0, 2) ∨ (a, b, c) = (198, 51, 100) ∨ (a, b, c) = (203, 0, 113)
  !decide (unspecified ∨ loopback ∨ privateUse ∨ linkLocal ∨ multicast ∨ broadcast) &&
    !decide carrierGradeNat && !decide documentation

/-- The eight segments of an IPv6 address are written as numerals. -/
instance neZero_segments : NeZero 8 := ⟨by decide⟩

/-- `segments()[0]`. -/
def firstSegment (segments : Fin 8 → UInt16) : UInt16 := segments 0

def isPublicIpv6 (segments : Fin 8 → UInt16) : Bool :=
  let first := segments 0
  let unspecified := ∀ index, segments index = 0
  let loopback := ∀ index, segments index = if index = 7 then 1 else 0
  let multicast := first &&& 0xff00 = 0xff00
  let uniqueLocal := first &&& 0xfe00 = 0xfc00
  let linkLocal := first &&& 0xffc0 = 0xfe80
  let documentation := first = 0x2001 ∧ segments 1 = 0x0db8
  !decide (unspecified ∨ loopback ∨ multicast) && !decide uniqueLocal && !decide linkLocal &&
    !decide documentation

namespace Host

/-- Is the host an IP address that is not public? -/
def isLocalIp : Host → Bool
  | ip4 a b c d => !isPublicIpv4 a b c d
  | ip6 segments => !isPublicIpv6 segments
  | dns | dnsaddr => false

/-- Can the host be reached without a lookup of further addresses? -/
def isReachable : Host → Bool
  | dnsaddr => false
  | _ => true

end Host

/-! ### Addresses -/

section Addresses

variable (hostOf : Protocol PeerId → Option Host)

def hasReachableTransport (protocols : List (Protocol PeerId)) : Bool :=
  protocols.any fun protocol => (hostOf protocol).any Host.isReachable

/-- The loop of `is_public_direct_addr`, with what it has found so far. -/
def publicLoop : List (Protocol PeerId) → Bool → Bool
  | [], hasRoutableEndpoint => hasRoutableEndpoint
  | protocol :: rest, hasRoutableEndpoint =>
    match hostOf protocol with
    | some host => if host.isLocalIp then false else publicLoop rest true
    | none => publicLoop rest hasRoutableEndpoint

def isPublicDirectAddr [Multiaddr PeerId Addr] (addr : Addr) : Bool :=
  publicLoop hostOf (Multiaddr.iter addr) false

def isLocalDirectAddr (protocols : List (Protocol PeerId)) : Bool :=
  protocols.any fun protocol => (hostOf protocol).any Host.isLocalIp

theorem publicLoop_iff (protocols : List (Protocol PeerId)) (hasRoutableEndpoint : Bool) :
    publicLoop hostOf protocols hasRoutableEndpoint = true ↔
      (hasRoutableEndpoint = true ∨ ∃ protocol ∈ protocols, (hostOf protocol).isSome) ∧
        isLocalDirectAddr hostOf protocols = false := by
  induction protocols generalizing hasRoutableEndpoint with
  | nil => simp [publicLoop, isLocalDirectAddr]
  | cons protocol rest ih =>
    unfold publicLoop
    cases named : hostOf protocol with
    | none => simp [ih, named, isLocalDirectAddr]
    | some host =>
      cases near : host.isLocalIp with
      | true => simp [isLocalDirectAddr, named, near]
      | false => simp [ih, isLocalDirectAddr, named, near]

variable [Multiaddr PeerId Addr]

/-- **Public addresses.** -/
theorem isPublicDirectAddr_iff (addr : Addr) : isPublicDirectAddr hostOf addr = true ↔
    (∃ protocol ∈ Multiaddr.iter addr, (hostOf protocol).isSome) ∧
      isLocalDirectAddr hostOf (Multiaddr.iter addr) = false := by
  unfold isPublicDirectAddr
  rw [publicLoop_iff]
  simp

/-- The peer before the circuit, which is the relay. -/
def relayPeerIdLoop : List (Protocol PeerId) → Option PeerId
  | [] => none
  | .p2p peer :: _ => some peer
  | .p2pCircuit :: _ => none
  | _ :: rest => relayPeerIdLoop rest

def relayPeerId (addr : Addr) : Option PeerId := relayPeerIdLoop (Multiaddr.iter addr)

end Addresses

end P2pNet.Connectivity
