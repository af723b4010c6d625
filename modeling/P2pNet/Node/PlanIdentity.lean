/-
**Whose address a plan dials** (`crates/connectivity/connection_strategy.rs`, with the recording paths of
`crates/stack/discovery.rs`, `crates/connectivity/rendezvous.rs` and `crates/node/events`).

A plan for a peer tries the addresses that the peer book has for it. They come from Identify, rendezvous,
Kademlia, the local network, connections and commands. `BoundTo` says that an address names no peer or ends at
the peer of the plan.
-/

import P2pNet.Connectivity.Components
import P2pNet.Connectivity.PlanOrder
import P2pNet.Node.SelfKnowledge

set_option linter.unusedSectionVars false

namespace P2pNet

open Lib PeerIdentity Connectivity

variable {PeerId Addr : Type} [PeerIdentity PeerId] [DecidableEq Addr] [Multiaddr PeerId Addr]

namespace Connectivity

/-! ### Addresses that end at a peer -/

/-- `peer_record_addrs` for one address of a registered record. -/
def peerRecordAddr [AppendPeer PeerId Addr] (peer : PeerId) (addr : Addr) : Addr :=
  if (Multiaddr.iter addr).any fun protocol => match protocol with
    | .p2p _ => true
    | _ => false
  then addr else AppendPeer.withP2p addr peer

def peerRecordAddrs [AppendPeer PeerId Addr] (peer : PeerId) (addresses : List Addr) : List Addr :=
  addresses.map (peerRecordAddr peer)

/-! ### Plans of a book -/

namespace PeerBook

variable {book : PeerBook PeerId}

end PeerBook

end Connectivity

/-! ### Runs -/

namespace Node

open PeerBook

variable (setup : NodeSetup PeerId Addr) (capabilities : TransportCapabilities)

variable {capabilities}

namespace OnePeerKnown

/-- A rendezvous node reports one registered peer with the address of another one. -/
def discovered (registered named : KeyPeer) : List (NodeEvent KeyPeer KeyHost × Moment) :=
  [(.rendezvousDiscovered ⟨9⟩ [⟨registered, "mesh", [⟨named⟩]⟩] fun _ _ => none, moment 1)]

end OnePeerKnown

/-! ### A node of the seeds -/

namespace SeedDialer

def route : SeedRoute := ⟨[.publicHost, .tcp, .p2p .qcu2]⟩

def config : NodeSetup Seed SeedRoute where
  localPeer := .nnoo
  autoConnectDiscoveredPeers := true
  dcutrPolicy := ⟨true, true, true⟩
  wasm32 := false
  applicationNamespaces := ["mesh"]
  applicationProtocolVersion := "/mesh/1"
  messageSecurity := .default
  relayEnabled := false
  rendezvousClientEnabled := true
  rendezvousNamespaces := ["mesh"]
  rendezvousPeers := []
  blake3 := OnePeerKnown.config.blake3

/-- A node that knows nobody. -/
def start : NodeState Seed SeedRoute where
  connection := {
    dial := {
      pendingConnections := .empty
      peerBook := .default
      cacheFailures := []
      dhtState := ⟨.empty, .empty⟩
      autoDialStats := ⟨0, .empty⟩
      lastApplicationDialError := none
      connectionLimitEvents := 0
      pulses := [] }
    connectionCaps := .new (some 8) (some 64)
    relayHealth := .disabled
    unverifiedRelayedPeers := ∅
    cacheSeen := [] }
  autoConnectRetry := ∅
  autoConnectRetryOrder := []
  dialAttempts := 0
  suppressed := .empty
  replayCache := Protocol.HeartbeatReplayCache.new .default
  connections := []

theorem started : Started start := ⟨⟨[], 0, fun _ member => absurd member List.not_mem_nil, rfl⟩, rfl, rfl⟩

end SeedDialer

end Node

end P2pNet
