/-
**What the node learns about peers** (`crates/node/events/{kademlia,rendezvous,gossip}.rs`,
`events/connection/identify.rs`, `on_identify_event` and `refresh_rendezvous` of
`crates/stack/discovery.rs` and `handle_lan_announcement` of `crates/node/runtime/driver_native.rs`).

Each source of peers writes the peer book by a sequence of calls and may dial the peers it brought. The
paths to a dial differ in what they ask first: DHT results ask whether the user has suppressed the peer and
whether the retry policy allows it, LAN beacons ask for the suppression only, rendezvous registrations for
nothing.

`dhtTurns_spec`, `reconnectTurns_spec`, `announcedTurn_spec` and `rendezvousTurns_spec`: whom the turns of
a path dial.
-/

import P2pNet.Connectivity.PeerRecords
import P2pNet.Node.Maintenance

set_option linter.unusedSectionVars false

namespace P2pNet.Node

open Lib PeerIdentity Connectivity PeerBook

variable {PeerId Addr : Type} [PeerIdentity PeerId] [DecidableEq Addr] [Multiaddr PeerId Addr]

/-! ### Kademlia -/

structure AutoDialCandidate (PeerId : Type) where
  peer : PeerId
  addressUpdated : Bool

/-- A provider the swarm is connected to is marked at once. -/
def dhtProviderCalls (Addr : Type) (connected : Finset PeerId) (name : String) (providers : List PeerId) :
    List (Call PeerId Addr) :=
  providers.flatMap fun provider =>
    .recordNamespace provider name .dhtProvider ::
      if provider ∈ connected then [.recordConnected provider none] else []

def isDhtProvider (book : PeerBook PeerId) (peer : PeerId) : Bool :=
  ((book.record peer).map fun record => decide (PeerSource.dhtProvider ∈ record.sources)).getD false

/-- The calls of `record_known_provider_addrs` for a provider. -/
def providerAddrCalls (peer : PeerId) (addrs : List Addr) : List (Call PeerId Addr) :=
  addrs.map (fun addr => .recordAddr peer addr .dhtProvider) ++
    if addrs.any isP2pCircuitAddr then [.recordRelayPreferred peer true] else []

def recordKnownProviderAddrs (book : PeerBook PeerId) (peer : PeerId) (addrs : List Addr) (nowUnixSecs : ℕ) :
    PeerBook PeerId × List (AutoDialCandidate PeerId) :=
  if isDhtProvider book peer then
    (book.recordAll (providerAddrCalls peer addrs) nowUnixSecs, [⟨peer, true⟩])
  else (book, [])

/-- An accepted address record names its peer as a provider first. -/
def recordDhtPeerAddressRecord (book : PeerBook PeerId) (peer : PeerId) (name : String) (addrs : List Addr)
    (nowUnixSecs : ℕ) : PeerBook PeerId × List (AutoDialCandidate PeerId) :=
  let named := book.recordAll [(.recordNamespace peer name .dhtProvider : Call PeerId Addr)] nowUnixSecs
  recordKnownProviderAddrs named peer addrs nowUnixSecs

/-- One turn of `maybe_auto_dial_dht_providers`. -/
def dialDhtCandidate (view : DialView PeerId) (answers : PeerId → DialAnswers) (nowUnixSecs : ℕ)
    (s : Upkeep PeerId Addr) (candidate : AutoDialCandidate PeerId) : Turn PeerId Addr × Upkeep PeerId Addr :=
  let peer := candidate.peer
  if s.autoDialStats.isSuppressed peer then (.none, s)
  else
    let (allowed, dhtState) :=
      if candidate.addressUpdated then s.dhtState.shouldAutoConnectAfterAddrUpdate peer nowUnixSecs
      else s.dhtState.shouldAutoConnectProviderResult peer nowUnixSecs
    if !allowed then (.none, { s with dhtState })
    else
      let auto := autoDialDhtProvider view s.pendingConnections peer (answers peer)
      (auto.turn "dht provider" peer,
        { s.record peer auto with dhtState := dhtState.noteOutcome peer nowUnixSecs auto.outcome })

def maybeAutoDialDhtProviders (view : DialView PeerId) (answers : PeerId → DialAnswers) (nowUnixSecs : ℕ)
    (s : Upkeep PeerId Addr) (candidates : List (AutoDialCandidate PeerId)) :
    Turn PeerId Addr × Upkeep PeerId Addr :=
  (Turn.join (outputs (dialDhtCandidate view answers nowUnixSecs) s candidates),
    final (dialDhtCandidate view answers nowUnixSecs) s candidates)

/-! ### Rendezvous -/

/-- A registration; `addrs` are its addresses as `peer_record_addrs` returns them. -/
structure Registration (PeerId Addr : Type) where
  peer : PeerId
  name : String
  addrs : List Addr

def discoveredPeerSource (book : PeerBook PeerId) (rendezvousNode : PeerId) : PeerSource :=
  if ((book.record rendezvousNode).map fun record =>
      decide (PeerSource.publicRendezvous ∈ record.sources)).getD false then .publicRendezvous
  else .rendezvous

def registrationCalls (source : PeerSource) (registrations : List (Registration PeerId Addr)) :
    List (Call PeerId Addr) :=
  registrations.flatMap fun registration =>
    .recordNamespace registration.peer registration.name source ::
      registration.addrs.map fun addr => .recordAddr registration.peer addr source

/-- The registered peers, each once. -/
def registeredPeers (registrations : List (Registration PeerId Addr)) : List PeerId :=
  registrations.foldl (fun peers registration =>
    if registration.peer ∈ peers then peers else peers ++ [registration.peer]) []

/-- One turn of `maybe_auto_dial_rendezvous_peers`. -/
def dialRendezvousPeer (view : DialView PeerId) (answers : PeerId → DialAnswers) (s : Upkeep PeerId Addr)
    (peer : PeerId) : Turn PeerId Addr × Upkeep PeerId Addr :=
  let auto := autoDialPeerFromBook view s.pendingConnections peer (answers peer)
  (auto.turn "rendezvous" peer, s.record peer auto)

def maybeAutoDialRendezvousPeers (view : DialView PeerId) (answers : PeerId → DialAnswers)
    (s : Upkeep PeerId Addr) (peers : List PeerId) : Turn PeerId Addr × Upkeep PeerId Addr :=
  (Turn.join (outputs (dialRendezvousPeer view answers) s peers), final (dialRendezvousPeer view answers) s peers)

/-- The addresses that `refresh_rendezvous` dials; `namespaces` are the valid ones. -/
def refreshRendezvous (clientEnabled : Bool) (namespaces : List String) (rendezvousAddrs : List Addr) :
    List Addr :=
  if !clientEnabled || namespaces.isEmpty then []
  else rendezvousAddrs.filter fun addr => (extractP2pPeerId addr).isSome

/-! ### LAN beacons -/

def maxLanDiscoveredPeers : ℕ := 2048

/-- Does the node take the announcement? -/
def admitsAnnouncement (book : PeerBook PeerId) (localPeer peer : PeerId) : Bool :=
  ¬ (peer = localPeer ∨ (book.record peer).isNone ∧ book.len ≥ maxLanDiscoveredPeers)

def announcementCalls (namespaces : List String) (peer : PeerId) (addrs : List Addr) : List (Call PeerId Addr) :=
  namespaces.map (fun name => .recordNamespace peer name .lanDiscovery) ++
    addrs.map fun addr => .recordAddr peer addr .lanDiscovery

/-- The dial of an announced peer. -/
def dialAnnouncedPeer (view : DialView PeerId) (answer : DialAnswers) (s : Upkeep PeerId Addr) (peer : PeerId) :
    Turn PeerId Addr × Upkeep PeerId Addr :=
  if s.autoDialStats.isSuppressed peer then (.none, s)
  else
    let auto := autoDialPeerFromBook view s.pendingConnections peer answer
    (auto.turn "lan discovery" peer, s.record peer auto)

/-! ### Heartbeats and Identify -/

/-- The calls of `record_heartbeat_peer`, and of Identify for a peer of the same application. -/
def verifiedPeerCalls (Addr : Type) (namespaces : List String) (peer : PeerId) : List (Call PeerId Addr) :=
  namespaces.map (fun name => .recordNamespace peer name .connected) ++ [.recordConnected peer none]

/-- `Received` of Identify. `relayReserved` says whether `maybe_reserve_dht_relay` returned a line. -/
structure IdentifyInfo (PeerId Addr : Type) where
  peer : PeerId
  protocolVersion : String
  protocols : List String
  listenAddrs : List Addr
  relayReserved : Bool

def maxIdentifyAddrsPerPeer : ℕ := 8

/-- `starts_with`. -/
def startsWith (text part : String) : Bool := decide (part.toList <+: text.toList)

namespace IdentifyInfo

variable (info : IdentifyInfo PeerId Addr)

def supportsRelayHop : Bool := info.protocols.any (· == "/libp2p/circuit/relay/0.2.0/hop")

def supportsRendezvous : Bool := info.protocols.any fun protocol => startsWith protocol "/rendezvous/"

def supportsDcutr : Bool := info.protocols.any fun protocol => startsWith protocol "/libp2p/dcutr"

/-- The calls of `handle_identify_observed_addr` about capabilities, in the book after its first calls. -/
def capabilityCalls (book : PeerBook PeerId) : List (Call PeerId Addr) :=
  if (book.record info.peer).isSome || (info.supportsRelayHop && info.relayReserved) then
    [.recordCapabilities info.peer (some info.supportsRelayHop) (some info.supportsRendezvous)
      (some info.supportsDcutr)]
  else []

/-- The calls of `on_identify_event`. -/
def addressCalls (book : PeerBook PeerId) : List (Call PeerId Addr) :=
  if (book.record info.peer).isSome then
    (info.listenAddrs.take maxIdentifyAddrsPerPeer).map fun addr => .recordAddr info.peer addr .connected
  else []

end IdentifyInfo

def recordIdentify (book : PeerBook PeerId) (info : IdentifyInfo PeerId Addr) (applicationVersion : String)
    (namespaces : List String) (nowUnixSecs : ℕ) : PeerBook PeerId :=
  let verified :=
    if info.protocolVersion = applicationVersion then
      book.recordAll (verifiedPeerCalls Addr namespaces info.peer) nowUnixSecs
    else book
  let capable := verified.recordAll (info.capabilityCalls verified) nowUnixSecs
  capable.recordAll (info.addressCalls capable) nowUnixSecs

/-! ### Whom the turns dial -/

/-- Turns suppress and allow nobody, and they end no plan. -/
structure Follows (before after : Upkeep PeerId Addr) : Prop where
  suppressed : after.autoDialStats.suppressed = before.autoDialStats.suppressed
  pending : ∀ peer, before.pendingConnections.isPending peer = true →
    after.pendingConnections.isPending peer = true

theorem Follows.refl (s : Upkeep PeerId Addr) : Follows s s := ⟨rfl, fun _ => id⟩

theorem Follows.trans {first second third : Upkeep PeerId Addr} (one : Follows first second)
    (two : Follows second third) : Follows first third :=
  ⟨two.suppressed.trans one.suppressed, fun peer pending => two.pending peer (one.pending peer pending)⟩

/-- What a sequence of turns hands out, each target for its peer. -/
structure TurnsSpec (Allowed : PeerId → DialTarget PeerId Addr → Prop) (before : Upkeep PeerId Addr)
    (result : Turn PeerId Addr × Upkeep PeerId Addr) : Prop where
  dialed : ∀ peer target, (peer, target) ∈ result.1.dialed → Allowed peer target
  follows : Follows before result.2

theorem TurnsSpec.none {Allowed : PeerId → DialTarget PeerId Addr → Prop} {before after : Upkeep PeerId Addr}
    (follows : Follows before after) : TurnsSpec Allowed before (.none, after) := ⟨nofun, follows⟩

/-- The turn of one automatic dial. -/
theorem TurnsSpec.record {Allowed : PeerId → DialTarget PeerId Addr → Prop} {before : Upkeep PeerId Addr}
    {peer : PeerId} {auto : AutoDial PeerId Addr} {path : String} (dhtState : DhtProviderState PeerId)
    (dialed : ∀ target ∈ auto.dialed, Allowed peer target)
    (pending : ∀ other, before.pendingConnections.isPending other = true → auto.plans.isPending other = true) :
    TurnsSpec Allowed before (auto.turn path peer, { before.record peer auto with dhtState }) where
  dialed other target member := by
    obtain ⟨_, inside, pair⟩ := List.mem_map.mp member
    cases pair
    exact dialed _ inside
  follows := ⟨before.autoDialStats.recordOutcome_suppressed peer auto.outcome, pending⟩

/-- **From one turn to all of them.** -/
theorem TurnsSpec.run {ι : Type} {step : Upkeep PeerId Addr → ι → Turn PeerId Addr × Upkeep PeerId Addr}
    {Allowed : PeerId → DialTarget PeerId Addr → Prop} {candidates : List ι} {start : Upkeep PeerId Addr}
    (each : ∀ s, ∀ candidate ∈ candidates, Follows start s → TurnsSpec Allowed s (step s candidate)) :
    TurnsSpec Allowed start (Turn.join (outputs step start candidates), final step start candidates) := by
  have general : ∀ s, Follows start s →
      TurnsSpec Allowed start (Turn.join (outputs step s candidates), final step s candidates) := by
    induction candidates with
    | nil => exact fun s follows => ⟨nofun, follows⟩
    | cons candidate later ih =>
      intro s follows
      have first := each s candidate List.mem_cons_self follows
      have rest := ih (fun s next member => each s next (List.mem_cons_of_mem candidate member))
        (step s candidate).2 (follows.trans first.follows)
      refine ⟨fun peer target member => ?_, rest.follows⟩
      unfold outputs at member
      rw [Turn.join_cons] at member
      exact (List.mem_append.mp member).elim (first.dialed peer target) (rest.dialed peer target)
  exact general start (.refl start)

section Specs

variable (view : DialView PeerId) (answers : PeerId → DialAnswers) (nowUnixSecs : ℕ)

/-- A target of a peer that is not suppressed. -/
def Unsuppressed (s : Upkeep PeerId Addr) (peer : PeerId) (target : DialTarget PeerId Addr) : Prop :=
  peer ∉ s.autoDialStats.suppressed.peers ∧ Targets view peer target

/-- A target of a peer that the swarm is not connected to and that has no plan. -/
def Undialed (s : Upkeep PeerId Addr) (peer : PeerId) (target : DialTarget PeerId Addr) : Prop :=
  MayDial view s.pendingConnections peer ∧ PlanTarget view peer target

/-- **DHT results leave suppressed peers alone.** -/
theorem dhtTurns_spec (s : Upkeep PeerId Addr) (candidates : List (AutoDialCandidate PeerId)) :
    TurnsSpec (Unsuppressed view s) s (maybeAutoDialDhtProviders view answers nowUnixSecs s candidates) := by
  refine TurnsSpec.run fun current candidate _ follows => ?_
  unfold dialDhtCandidate
  dsimp only
  split
  · exact .none (.refl current)
  · rename_i free
    generalize (if candidate.addressUpdated = true then
      current.dhtState.shouldAutoConnectAfterAddrUpdate candidate.peer nowUnixSecs
      else current.dhtState.shouldAutoConnectProviderResult candidate.peer nowUnixSecs) = gate
    obtain ⟨allowed, dhtState⟩ := gate
    cases allowed with
    | false => exact .none ⟨rfl, fun _ => id⟩
    | true =>
      refine .record _ (fun target dialed => ⟨?_, autoDialDhtProvider_targets view _ _ _ dialed⟩) ?_
      · rw [← follows.suppressed]
        simpa [AutoDialRecords.isSuppressed] using free
      · intro other pending
        rw [autoDialDhtProvider_plans]
        exact autoDialPeerFromBook_pending view _ _ _ pending

/-- **Maintenance leaves suppressed peers alone.** -/
theorem reconnectTurns_spec (s : Upkeep PeerId Addr) :
    TurnsSpec (Unsuppressed view s) s (maintainApplicationConnections view answers nowUnixSecs s) := by
  unfold maintainApplicationConnections
  split
  · exact .none (.refl s)
  · refine TurnsSpec.run fun current candidate chosen _ => ?_
    have free : candidate ∉ s.autoDialStats.suppressed.peers := by
      have kept := List.mem_of_mem_take chosen
      simpa [AutoDialRecords.isSuppressed] using (List.mem_filter.mp kept).2
    unfold reconnectPeer
    generalize current.dhtState.shouldAutoConnectProviderResult candidate nowUnixSecs = gate
    obtain ⟨allowed, dhtState⟩ := gate
    cases allowed with
    | false => exact .none ⟨rfl, fun _ => id⟩
    | true =>
      exact .record _ (fun target dialed => ⟨free, .inr (autoDialPeerFromBook_targets view _ _ _ dialed).2⟩)
        fun other => autoDialPeerFromBook_pending view _ _ _

/-- **LAN beacons leave suppressed peers alone.** -/
theorem announcedTurn_spec (answer : DialAnswers) (s : Upkeep PeerId Addr) (peer : PeerId) :
    TurnsSpec (Unsuppressed view s) s (dialAnnouncedPeer view answer s peer) := by
  unfold dialAnnouncedPeer
  split
  · exact .none (.refl s)
  · rename_i free
    refine .record _ (fun target dialed => ⟨?_, .inr (autoDialPeerFromBook_targets view _ _ _ dialed).2⟩)
      fun other => autoDialPeerFromBook_pending view _ _ _
    simpa [AutoDialRecords.isSuppressed] using free

/-- Rendezvous results dial whom they bring. -/
theorem rendezvousTurns_spec (s : Upkeep PeerId Addr) (peers : List PeerId) :
    TurnsSpec (fun peer target => peer ∈ peers ∧ Undialed view s peer target) s
      (maybeAutoDialRendezvousPeers view answers s peers) := by
  refine TurnsSpec.run fun current candidate member follows => ?_
  refine .record _ (fun target dialed => ⟨member, ?_⟩) fun other => autoDialPeerFromBook_pending view _ _ _
  obtain ⟨⟨enabled, remote, disconnected, free⟩, targets⟩ := autoDialPeerFromBook_targets view _ _ _ dialed
  refine ⟨⟨enabled, remote, disconnected, ?_⟩, targets⟩
  rw [Bool.eq_false_iff] at free ⊢
  exact fun pending => free (follows.pending candidate pending)

end Specs

end P2pNet.Node
