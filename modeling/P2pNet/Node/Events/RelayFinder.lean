/-
**Relays that Identify finds** (`crates/node/events/connection/identify.rs`, with
`crates/connectivity/relay/address.rs`).

A peer that offers the relay service tells its listen addresses. `maybeReserveDhtRelay` picks the best of them and
asks for a reservation there. An address that names no peer is completed with the peer that told it; one that names
a peer is used as it is.
-/

import P2pNet.Connectivity.RelayDiscovery
import P2pNet.Node.Events.Discovery
import P2pNet.Node.Events.RelayClient

set_option linter.unusedSectionVars false

namespace P2pNet

open Lib PeerIdentity Connectivity

variable {PeerId Addr : Type} [PeerIdentity PeerId] [DecidableEq Addr] [Multiaddr PeerId Addr]
  [AppendPeer PeerId Addr] [BuildAddr PeerId Addr]

namespace Connectivity

/-! ### Addresses of relays -/

def relayReservationAddr (relayAddr : Addr) : Option Addr :=
  if !hasP2pPeerId relayAddr || isP2pCircuitAddr relayAddr then none
  else some (BuildAddr.ofProtocols (Multiaddr.iter relayAddr ++ [.p2pCircuit]))

/-- A listen address, completed with the peer that told it. -/
def withSender (peer : PeerId) (addr : Addr) : Addr := if hasP2pPeerId addr then addr else AppendPeer.withP2p addr peer

theorem relayPeerIdLoop_append {protocols : List (Protocol PeerId)} (rest : List (Protocol PeerId))
    (direct : Protocol.p2pCircuit ∉ protocols) :
    relayPeerIdLoop (protocols ++ rest) = (relayPeerIdLoop protocols).or (relayPeerIdLoop rest) := by
  induction protocols with
  | nil => rfl
  | cons protocol others ih =>
    rw [List.mem_cons, not_or] at direct
    cases protocol with
    | p2pCircuit => exact absurd rfl direct.1
    | p2p peer => rfl
    | _ => exact ih direct.2

/-- Without a circuit the relay of an address is the first peer it names. -/
theorem hasP2pPeerId_eq {addr : Addr} (direct : isP2pCircuitAddr addr = false) :
    hasP2pPeerId addr = (relayPeerId addr).isSome := by
  have nowhere := (isP2pCircuitAddr_eq_false_iff addr).mp direct
  unfold hasP2pPeerId relayPeerId
  generalize Multiaddr.iter addr = protocols at nowhere ⊢
  induction protocols with
  | nil => rfl
  | cons protocol rest ih =>
    rw [List.mem_cons, not_or] at nowhere
    cases protocol with
    | p2pCircuit => exact absurd rfl nowhere.1
    | p2p peer => rfl
    | _ => exact ih nowhere.2

/-- The reservation is requested at the relay that the address names. -/
theorem relayPeerId_relayReservationAddr {addr reservation : Addr}
    (requested : relayReservationAddr addr = some reservation) : relayPeerId reservation = relayPeerId addr := by
  unfold relayReservationAddr at requested
  split_ifs at requested with refused
  rw [Bool.or_eq_true, not_or, Bool.not_eq_true'] at refused
  have direct := Bool.eq_false_of_not_eq_true refused.2
  obtain rfl := Option.some.inj requested
  unfold relayPeerId
  rw [BuildAddr.iter_ofProtocols, relayPeerIdLoop_append _ ((isP2pCircuitAddr_eq_false_iff addr).mp direct)]
  exact Option.or_none

/-- **Whom a completed address names**: its own first peer, or else the sender. -/
theorem relayPeerId_withSender (peer : PeerId) {addr : Addr} (direct : isP2pCircuitAddr addr = false) :
    relayPeerId (withSender peer addr) = (relayPeerId addr).or (some peer) := by
  unfold withSender
  rw [hasP2pPeerId_eq direct]
  cases named : relayPeerId addr with
  | some other => exact named
  | none =>
    unfold relayPeerId at named ⊢
    rw [Option.isSome_none, if_neg Bool.false_ne_true, AppendPeer.iter_withP2p,
      relayPeerIdLoop_append _ ((isP2pCircuitAddr_eq_false_iff addr).mp direct), named]
    rfl

theorem isP2pCircuitAddr_withSender (peer : PeerId) (addr : Addr) :
    isP2pCircuitAddr (withSender peer addr) = isP2pCircuitAddr addr := by
  unfold withSender
  split_ifs
  · rfl
  · unfold isP2pCircuitAddr
    rw [AppendPeer.iter_withP2p, List.any_append]
    exact Bool.or_false _

end Connectivity

namespace Node

/-! ### The finder -/

def maxPublicDhtRelayAttempts : ℕ := 8

structure RelayFinderSetup (PeerId : Type) where
  localPeer : PeerId
  components : Components
  windows : Bool
  relayDiscovery : RelayDiscoveryPolicy
  publicBootstrap : PublicBootstrapConfig

def RelayFinderSetup.client (setup : RelayFinderSetup PeerId) : RelayClientSetup PeerId where
  hostOf := setup.components.hostOf
  windows := setup.windows
  localPeer := setup.localPeer

/-- The relay client with the part of `RelayState` that discovery changes. -/
structure RelayFinder (PeerId Addr : Type) [PeerIdentity PeerId] [DecidableEq Addr] where
  client : RelayClient PeerId Addr
  relayClientAttemptedPeers : Finset PeerId
  relayDiscoveryCandidateCount : ℕ
  relayDiscoveryPublicCandidates : ℕ
  relayDiscoverySelectedRelays : Finset String
  relayDiscoveryFailures : ℕ

/-- What the handler asks of the swarm, and for whom. -/
structure RelayRequest (PeerId Addr : Type) where
  sender : PeerId
  /-- `add_peer_address_to_discovery`. -/
  discovered : PeerId × Addr
  /-- `listen_on`. -/
  reservationAddr : Addr
  pulse : String

namespace RelayFinder

def new : RelayFinder PeerId Addr := ⟨.new, ∅, 0, 0, ∅, 0⟩

variable (setup : RelayFinderSetup PeerId)

/-- Is another relay wanted, and may this peer be asked? -/
def mayReserve (s : RelayFinder PeerId Addr) (peer : PeerId) : Bool :=
  let policy := setup.relayDiscovery
  peer ≠ setup.localPeer && policy.enabled && policy.useDhtRelays && setup.publicBootstrap.mode.isEnabled &&
    s.client.listen.relayClientReservations.card < policy.minReservations &&
    s.relayClientAttemptedPeers.card < maxPublicDhtRelayAttempts && peer ∉ s.relayClientAttemptedPeers

/-- The listen addresses that can be used, with their scores. -/
def scoredRelays (peer : PeerId) (listenAddrs : List Addr) : List (ℕ × RelayCandidateAddr PeerId Addr) :=
  let remote := listenAddrs.filter fun addr => !isLocalDirectAddr setup.components.hostOf (Multiaddr.iter addr)
  let candidates := remote.filterMap fun addr =>
    relayCandidateAddr setup.components .publicFallback (withSender peer addr)
  candidates.filterMap fun candidate =>
    (supportedRelayAddrScore setup.components candidate.addr).map (·, candidate)

def maybeReserveDhtRelay (s : RelayFinder PeerId Addr) (peer : PeerId) (listenAddrs : List Addr)
    (answer : Except String Unit) : Option (RelayRequest PeerId Addr) × RelayFinder PeerId Addr :=
  if s.mayReserve setup peer then
    match (scoredRelays setup peer listenAddrs).argmin Prod.fst with
    | none => (none, s)
    | some (_, candidate) =>
      match relayReservationAddr candidate.addr with
      | none => (none, s)
      | some reservationAddr =>
        let text := Multiaddr.toText reservationAddr
        let s := { s with
          client := s.client.requestReservation reservationAddr answer
          relayClientAttemptedPeers := insert peer s.relayClientAttemptedPeers
          relayDiscoveryCandidateCount := saturatingAdd s.relayDiscoveryCandidateCount 1
          relayDiscoveryPublicCandidates := saturatingAdd s.relayDiscoveryPublicCandidates 1
          relayDiscoverySelectedRelays := insert (Multiaddr.toText candidate.addr) s.relayDiscoverySelectedRelays }
        match answer with
        | .ok () =>
          (some ⟨peer, (peer, candidate.addr), reservationAddr,
            s!"relay_discovery dht reservation requested relay={toText peer} addr={text}"⟩, s)
        | .error err =>
          (some ⟨peer, (peer, candidate.addr), reservationAddr,
            s!"relay_discovery dht reservation failed relay={toText peer} addr={text} error={err}"⟩,
            { s with relayDiscoveryFailures := saturatingAdd s.relayDiscoveryFailures 1 })
  else (none, s)

end RelayFinder

/-! ### Runs -/

inductive RelayFinderEvent (PeerId Addr : Type)
  /-- `handle_identify_observed_addr`, and what `listen_on` answers if it is called. -/
  | identified (info : IdentifyInfo PeerId Addr) (answer : Except String Unit)
  | client (op : RelayClientOp PeerId Addr)

def relayFinderStep (setup : RelayFinderSetup PeerId) (s : RelayFinder PeerId Addr) :
    RelayFinderEvent PeerId Addr → Option (RelayRequest PeerId Addr) × RelayFinder PeerId Addr
  | .identified info answer =>
    if info.supportsRelayHop then s.maybeReserveDhtRelay setup info.peer info.listenAddrs answer else (none, s)
  | .client op => (none, { s with client := (relayClientStep setup.client s.client op).2 })

/-! ### The chosen address -/

section Chosen

variable (setup : RelayFinderSetup PeerId)

/-- How much a listen address is preferred, if it can be used. -/
def preference (peer : PeerId) (addr : Addr) : Option ℕ :=
  if isLocalDirectAddr setup.components.hostOf (Multiaddr.iter addr) then none
  else if isEligible setup.components (withSender peer addr) then
    supportedRelayAddrScore setup.components (withSender peer addr)
  else none

/-- **The first of the best listen addresses.** -/
def Chosen (peer : PeerId) (listenAddrs : List Addr) (addr : Addr) : Prop :=
  ∃ before after score, listenAddrs = before ++ addr :: after ∧ preference setup peer addr = some score ∧
    (∀ other ∈ before, ∀ worse, preference setup peer other = some worse → score < worse) ∧
    ∀ other ∈ after, ∀ worse, preference setup peer other = some worse → score ≤ worse

/-- The three filters of the listen addresses as one. -/
def scored (peer : PeerId) (addr : Addr) : Option (ℕ × RelayCandidateAddr PeerId Addr) :=
  if isLocalDirectAddr setup.components.hostOf (Multiaddr.iter addr) then none
  else (relayCandidateAddr setup.components .publicFallback (withSender peer addr)).bind fun candidate =>
    (supportedRelayAddrScore setup.components candidate.addr).map (·, candidate)

theorem scoredRelays_eq (peer : PeerId) (listenAddrs : List Addr) :
    RelayFinder.scoredRelays setup peer listenAddrs = listenAddrs.filterMap (scored setup peer) := by
  unfold RelayFinder.scoredRelays
  dsimp only
  rw [List.filterMap_filterMap, List.filterMap_filter]
  refine List.filterMap_congr fun addr _ => ?_
  unfold scored
  cases isLocalDirectAddr setup.components.hostOf (Multiaddr.iter addr) <;> rfl

theorem map_fst_scored (peer : PeerId) (addr : Addr) :
    (scored setup peer addr).map Prod.fst = preference setup peer addr := by
  unfold scored preference
  split_ifs with near eligible
  · rfl
  · obtain ⟨relay, named⟩ := Option.isSome_iff_exists.mp ((isEligible_iff setup.components _).mp eligible).1
    rw [relayCandidateAddr_eq, if_pos eligible, named, Option.map_some, Option.bind_some, Option.map_map]
    exact Option.map_id'
  · rw [relayCandidateAddr_eq, if_neg eligible]
    rfl

theorem scored_addr {peer : PeerId} {addr : Addr} {score : ℕ} {candidate : RelayCandidateAddr PeerId Addr}
    (found : scored setup peer addr = some (score, candidate)) : candidate.addr = withSender peer addr := by
  unfold scored at found
  split_ifs at found
  obtain ⟨other, accepted, paired⟩ := Option.bind_eq_some_iff.mp found
  obtain ⟨_, _, same⟩ := Option.map_eq_some_iff.mp paired
  obtain rfl := (Prod.mk.inj same).2
  exact (relayCandidateAddr_some setup.components accepted).2.2

theorem preference_some {peer : PeerId} {addr : Addr} {score : ℕ}
    (preferred : preference setup peer addr = some score) :
    isP2pCircuitAddr addr = false ∧ isEligible setup.components (withSender peer addr) = true := by
  unfold preference at preferred
  split_ifs at preferred with near eligible
  refine ⟨?_, eligible⟩
  rw [← isP2pCircuitAddr_withSender peer]
  exact ((isEligible_iff setup.components _).mp eligible).2.1

theorem chosen_of_picked {peer : PeerId} {listenAddrs : List Addr} {score : ℕ}
    {candidate : RelayCandidateAddr PeerId Addr}
    (best : (RelayFinder.scoredRelays setup peer listenAddrs).argmin Prod.fst = some (score, candidate)) :
    ∃ addr, Chosen setup peer listenAddrs addr ∧ candidate.addr = withSender peer addr := by
  rw [scoredRelays_eq] at best
  obtain ⟨before, addr, after, split, found, better, good⟩ := argmin_filterMap_eq_some_iff.mp best
  refine ⟨addr, ⟨before, after, score, split, ?_, ?_, ?_⟩, scored_addr setup found⟩
  · rw [← map_fst_scored, found, Option.map_some]
  all_goals
    intro other member worse preferred
    rw [← map_fst_scored] at preferred
    obtain ⟨seen, read, rfl⟩ := Option.map_eq_some_iff.mp preferred
  · exact better other member seen read
  · exact good other member seen read

theorem picked_of_chosen {peer : PeerId} {listenAddrs : List Addr} {addr : Addr}
    (chosen : Chosen setup peer listenAddrs addr) :
    ∃ score candidate, (RelayFinder.scoredRelays setup peer listenAddrs).argmin Prod.fst = some (score, candidate) ∧
      candidate.addr = withSender peer addr := by
  obtain ⟨before, after, score, split, preferred, better, good⟩ := chosen
  rw [← map_fst_scored] at preferred
  obtain ⟨⟨score, candidate⟩, found, rfl⟩ := Option.map_eq_some_iff.mp preferred
  refine ⟨score, candidate, ?_, scored_addr setup found⟩
  rw [scoredRelays_eq, argmin_filterMap_eq_some_iff]
  refine ⟨before, addr, after, split, found, fun other member seen read => ?_, fun other member seen read => ?_⟩
  · refine better other member seen.1 ?_
    rw [← map_fst_scored, read, Option.map_some]
  · refine good other member seen.1 ?_
    rw [← map_fst_scored, read, Option.map_some]

/-- An eligible address can be turned into a reservation. -/
theorem relayReservationAddr_of_chosen {peer : PeerId} {listenAddrs : List Addr} {addr : Addr}
    (chosen : Chosen setup peer listenAddrs addr) :
    ∃ reservation, relayReservationAddr (withSender peer addr) = some reservation := by
  obtain ⟨_, _, _, _, preferred, _⟩ := chosen
  obtain ⟨named, direct, _⟩ := (isEligible_iff setup.components _).mp (preference_some setup preferred).2
  unfold relayReservationAddr
  rw [hasP2pPeerId_eq direct, named, direct]
  exact ⟨_, rfl⟩

end Chosen

/-! ### Where reservations are requested -/

section Requests

variable (setup : RelayFinderSetup PeerId)

/-- The request that follows from a chosen address. -/
def RequestFor (peer : PeerId) (addr : Addr) (request : RelayRequest PeerId Addr) : Prop :=
  request.sender = peer ∧ request.discovered = (peer, withSender peer addr) ∧
    relayReservationAddr (withSender peer addr) = some request.reservationAddr

theorem maybeReserveDhtRelay_some {s : RelayFinder PeerId Addr} {peer : PeerId} {listenAddrs : List Addr}
    {answer : Except String Unit} {request : RelayRequest PeerId Addr}
    (requested : (s.maybeReserveDhtRelay setup peer listenAddrs answer).1 = some request) :
    s.mayReserve setup peer = true ∧
      ∃ addr, Chosen setup peer listenAddrs addr ∧ RequestFor peer addr request := by
  unfold RelayFinder.maybeReserveDhtRelay at requested
  split_ifs at requested with allowed
  refine ⟨allowed, ?_⟩
  cases best : (RelayFinder.scoredRelays setup peer listenAddrs).argmin Prod.fst with
  | none =>
    rw [best] at requested
    cases requested
  | some picked =>
    obtain ⟨score, candidate⟩ := picked
    obtain ⟨addr, chosen, same⟩ := chosen_of_picked setup best
    obtain ⟨reservation, built⟩ := relayReservationAddr_of_chosen setup chosen
    rw [best] at requested
    simp only [same, built] at requested
    refine ⟨addr, chosen, ?_⟩
    cases answer with
    | ok _ =>
      obtain rfl := Option.some.inj requested
      exact ⟨rfl, rfl, built⟩
    | error err =>
      obtain rfl := Option.some.inj requested
      exact ⟨rfl, rfl, built⟩

theorem maybeReserveDhtRelay_of_chosen {s : RelayFinder PeerId Addr} {peer : PeerId} {listenAddrs : List Addr}
    (answer : Except String Unit) (allowed : s.mayReserve setup peer = true) {addr : Addr}
    (chosen : Chosen setup peer listenAddrs addr) :
    ∃ request, (s.maybeReserveDhtRelay setup peer listenAddrs answer).1 = some request ∧
      RequestFor peer addr request := by
  obtain ⟨score, candidate, best, same⟩ := picked_of_chosen setup chosen
  obtain ⟨reservation, built⟩ := relayReservationAddr_of_chosen setup chosen
  unfold RelayFinder.maybeReserveDhtRelay
  rw [if_pos allowed, best]
  simp only [same, built]
  cases answer with
  | ok _ => exact ⟨_, rfl, rfl, rfl, built⟩
  | error err => exact ⟨_, rfl, rfl, rfl, built⟩

/-- **The reservation is at the sender**, and so is what discovery learns. -/
def RelayRequest.AtSender (request : RelayRequest PeerId Addr) : Prop :=
  relayPeerId request.reservationAddr = some request.sender ∧ request.discovered.1 = request.sender

theorem atSender_iff {peer : PeerId} {listenAddrs : List Addr} {addr : Addr} {request : RelayRequest PeerId Addr}
    (chosen : Chosen setup peer listenAddrs addr) (follows : RequestFor peer addr request) :
    request.AtSender ↔ ∀ other, relayPeerId addr = some other → other = peer := by
  obtain ⟨sender, discovered, built⟩ := follows
  obtain ⟨_, _, _, _, preferred, _⟩ := chosen
  unfold RelayRequest.AtSender
  rw [relayPeerId_relayReservationAddr built, relayPeerId_withSender peer (preference_some setup preferred).1, sender,
    discovered]
  cases relayPeerId addr with
  | none => exact iff_of_true ⟨rfl, rfl⟩ nofun
  | some first =>
    constructor
    · rintro ⟨same, _⟩ other named
      exact Option.some.inj (named.symm.trans same)
    · exact fun only => ⟨congrArg some (only first rfl), rfl⟩

/-- The addresses of an event name nobody else where it matters. -/
def NamesNobodyElse (s : RelayFinder PeerId Addr) : RelayFinderEvent PeerId Addr → Prop
  | .identified info _ => info.supportsRelayHop = true → s.mayReserve setup info.peer = true →
      ∀ addr, Chosen setup info.peer info.listenAddrs addr → ∀ other, relayPeerId addr = some other → other = info.peer
  | .client _ => True

theorem relayFinderStep_atSender_iff (s : RelayFinder PeerId Addr) (event : RelayFinderEvent PeerId Addr) :
    (∀ request ∈ (relayFinderStep setup s event).1, request.AtSender) ↔ NamesNobodyElse setup s event := by
  cases event with
  | client op => exact iff_of_true nofun trivial
  | identified info answer =>
    unfold relayFinderStep NamesNobodyElse
    dsimp only
    cases info.supportsRelayHop with
    | false => exact iff_of_true nofun fun offered => absurd offered Bool.false_ne_true
    | true =>
      rw [if_pos rfl]
      constructor
      · intro atSender _ allowed addr chosen
        obtain ⟨request, requested, follows⟩ := maybeReserveDhtRelay_of_chosen setup answer allowed chosen
        exact (atSender_iff setup chosen follows).mp (atSender request requested)
      · intro only request requested
        obtain ⟨allowed, addr, chosen, follows⟩ := maybeReserveDhtRelay_some setup requested
        exact (atSender_iff setup chosen follows).mpr (only rfl allowed addr chosen)

/-- **Discovered relays**: requests go to the senders exactly when no chosen address names another peer. -/
theorem reserved_at_sender_iff (start : RelayFinder PeerId Addr) (events : List (RelayFinderEvent PeerId Addr)) :
    (∀ output ∈ outputs (relayFinderStep setup) start events, ∀ request ∈ output, request.AtSender) ↔
      Each (relayFinderStep setup) (NamesNobodyElse setup) start events := by
  have steps : (∀ output ∈ outputs (relayFinderStep setup) start events, ∀ request ∈ output, request.AtSender) ↔
      Each (relayFinderStep setup) (fun s event => ∀ request ∈ (relayFinderStep setup s event).1, request.AtSender)
        start events := forall_mem_outputs_iff_each (relayFinderStep setup)
  rw [steps]
  exact each_congr _ (relayFinderStep_atSender_iff setup)

end Requests

/-! ### A relay that sends the node to another one -/

/-- An address as the list of its components, over the Ed25519 identities. -/
structure KeyPath where
  protocols : List (Protocol KeyPeer)
  deriving DecidableEq

namespace KeyPath

def protocolText : Protocol KeyPeer → String
  | .quic => "/quic"
  | .quicV1 => "/quic-v1"
  | .p2pCircuit => "/p2p-circuit"
  | .p2p peer => "/p2p/" ++ peer.text
  | .other text => text

/-- None of these addresses is read back. -/
instance : Multiaddr KeyPeer KeyPath where
  toText path := String.join (path.protocols.map protocolText)
  parse _ := .error "unknown protocol string"
  iter := protocols

instance : AppendPeer KeyPeer KeyPath where
  withP2p path peer := ⟨path.protocols ++ [.p2p peer]⟩
  iter_withP2p _ _ := rfl

instance : BuildAddr KeyPeer KeyPath where
  ofProtocols := mk
  iter_ofProtocols _ := rfl

end KeyPath

namespace SentElsewhere

def sender : KeyPeer := ⟨1⟩

def other : KeyPeer := ⟨2⟩

def setup : RelayFinderSetup KeyPeer where
  localPeer := ⟨0⟩
  components := SeedPath.components
  windows := false
  relayDiscovery := OneRelayTwice.policy.toRelayDiscoveryPolicy
  publicBootstrap := ⟨.always, [], [], ["/ip4/8.8.8.8/tcp/4001"]⟩

def event : RelayFinderEvent KeyPeer KeyPath :=
  .identified ⟨sender, "/mesh/1", ["/libp2p/circuit/relay/0.2.0/hop"],
    [⟨[.other "/ip4/8.8.8.8", .other "/tcp/4001", .p2p other]⟩], false⟩ (.ok ())

/-- The sender tells an address of another peer, and the reservation is requested there. -/
theorem reserved_elsewhere : ∃ request : RelayRequest KeyPeer KeyPath,
    (relayFinderStep setup RelayFinder.new event).1 = some request ∧ request.sender = sender ∧
      relayPeerId request.reservationAddr = some other ∧ other ≠ sender :=
  ⟨_, rfl, rfl, rfl, by decide⟩

end SentElsewhere

end Node

end P2pNet
