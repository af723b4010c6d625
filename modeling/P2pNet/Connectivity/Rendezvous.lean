/-
**What the node remembers of rendezvous points** (`RendezvousState` of `crates/connectivity/rendezvous.rs`).

Requests in flight are remembered twice, by peer and by peer and namespace. A discovered answer carries no namespace:
`complete_discover_for_peer` takes the first key of the peer that it finds in an unordered set. `walk` is the order in
which the set is walked, and `first` what a walk over the discovered peers meets first.
-/

import P2pNet.Lib.Table
import P2pNet.Lib.Checked

namespace P2pNet.Connectivity

open Lib

def maxDiscoveredPeerHistory : ℕ := 8192

structure RendezvousPeerNamespace (PeerId : Type) where
  peer : PeerId
  name : String
  deriving DecidableEq

structure RendezvousState (PeerId Cookie : Type) where
  registeredWith : Finset PeerId
  registerInflight : Finset PeerId
  discoverInflight : Finset PeerId
  registeredNamespaces : Finset (RendezvousPeerNamespace PeerId)
  registerInflightNamespaces : Finset (RendezvousPeerNamespace PeerId)
  discoverInflightNamespaces : Finset (RendezvousPeerNamespace PeerId)
  discoveredPeers : Finset PeerId
  cookies : Table PeerId Cookie
  cookiesByNamespace : Table (RendezvousPeerNamespace PeerId) Cookie
  registerAttempts : ℕ
  registerFailures : ℕ
  discoverAttempts : ℕ
  discoverFailures : ℕ

namespace RendezvousState

variable {PeerId Cookie : Type}

def default : RendezvousState PeerId Cookie where
  registeredWith := ∅
  registerInflight := ∅
  discoverInflight := ∅
  registeredNamespaces := ∅
  registerInflightNamespaces := ∅
  discoverInflightNamespaces := ∅
  discoveredPeers := ∅
  cookies := ∅
  cookiesByNamespace := ∅
  registerAttempts := 0
  registerFailures := 0
  discoverAttempts := 0
  discoverFailures := 0

variable [DecidableEq PeerId] (state : RendezvousState PeerId Cookie)

def recordDiscoveredPeer (first : Finset PeerId → Option PeerId) (peer : PeerId) : RendezvousState PeerId Cookie :=
  if peer ∈ state.discoveredPeers then state
  else if state.discoveredPeers.card ≥ maxDiscoveredPeerHistory then
    match first state.discoveredPeers with
    | some evicted => { state with discoveredPeers := insert peer (state.discoveredPeers.erase evicted) }
    | none => { state with discoveredPeers := insert peer state.discoveredPeers }
  else { state with discoveredPeers := insert peer state.discoveredPeers }

def markRegisterInflight (peer : PeerId) (name : String) : RendezvousState PeerId Cookie :=
  { state with
    registerInflight := insert peer state.registerInflight
    registerInflightNamespaces := insert ⟨peer, name⟩ state.registerInflightNamespaces }

def markRegistered (peer : PeerId) (name : String) : RendezvousState PeerId Cookie :=
  { state with
    registerInflight := state.registerInflight.erase peer
    registeredWith := insert peer state.registeredWith
    registerInflightNamespaces := state.registerInflightNamespaces.erase ⟨peer, name⟩
    registeredNamespaces := insert ⟨peer, name⟩ state.registeredNamespaces }

def markRegisterFailed (peer : PeerId) (name : String) : RendezvousState PeerId Cookie :=
  { state with
    registerInflight := state.registerInflight.erase peer
    registerInflightNamespaces := state.registerInflightNamespaces.erase ⟨peer, name⟩ }

def isRegisterInflight (peer : PeerId) (name : String) : Bool := ⟨peer, name⟩ ∈ state.registerInflightNamespaces

def isRegistered (peer : PeerId) (name : String) : Bool := ⟨peer, name⟩ ∈ state.registeredNamespaces

def markDiscoverInflight (peer : PeerId) (name : String) : RendezvousState PeerId Cookie :=
  { state with
    discoverInflight := insert peer state.discoverInflight
    discoverInflightNamespaces := insert ⟨peer, name⟩ state.discoverInflightNamespaces }

def discoverCookie (peer : PeerId) (name : String) : Option Cookie :=
  (state.cookiesByNamespace.lookup ⟨peer, name⟩).or (state.cookies.lookup peer)

def completeDiscoverForPeer (walk : List (RendezvousPeerNamespace PeerId)) (peer : PeerId) (cookie : Cookie) :
    Option String × RendezvousState PeerId Cookie :=
  let state := { state with
    discoverInflight := state.discoverInflight.erase peer
    cookies := state.cookies.insert peer cookie }
  match walk.find? fun candidate => candidate.peer = peer with
  | some key =>
    (some key.name, { state with
      discoverInflightNamespaces := state.discoverInflightNamespaces.erase key
      cookiesByNamespace := state.cookiesByNamespace.insert key cookie })
  | none => (none, state)

def failDiscover (peer : PeerId) (name : Option String) : RendezvousState PeerId Cookie :=
  let state := { state with discoverInflight := state.discoverInflight.erase peer }
  match name with
  | some name =>
    { state with discoverInflightNamespaces := state.discoverInflightNamespaces.erase ⟨peer, name⟩ }
  | none =>
    { state with
      discoverInflightNamespaces := state.discoverInflightNamespaces.filter fun candidate => candidate.peer ≠ peer }

/-! ### What a discovered peer changes -/

/-- Everything but the history of discovered peers stays. -/
theorem recordDiscoveredPeer_eq (first : Finset PeerId → Option PeerId) (peer : PeerId) :
    ∃ peers, state.recordDiscoveredPeer first peer = { state with discoveredPeers := peers } := by
  unfold recordDiscoveredPeer
  split_ifs with known full
  · exact ⟨_, rfl⟩
  · cases first state.discoveredPeers with
    | some evicted => exact ⟨_, rfl⟩
    | none => exact ⟨_, rfl⟩
  · exact ⟨_, rfl⟩

theorem foldl_recordDiscoveredPeer_eq (first : Finset PeerId → Option PeerId) (peers : List PeerId) :
    ∃ known, peers.foldl (fun state peer => state.recordDiscoveredPeer first peer) state =
      { state with discoveredPeers := known } := by
  induction peers generalizing state with
  | nil => exact ⟨_, rfl⟩
  | cons peer rest ih =>
    obtain ⟨known, recorded⟩ := state.recordDiscoveredPeer_eq first peer
    obtain ⟨others, folded⟩ := ih (state.recordDiscoveredPeer first peer)
    rw [List.foldl_cons, folded, recorded]
    exact ⟨others, rfl⟩

end RendezvousState

end P2pNet.Connectivity
