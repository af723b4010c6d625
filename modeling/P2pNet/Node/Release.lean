/-
**Room for application dials** (`maybe_auto_dial_dht_providers` and
`release_outbound_dht_infrastructure_for_app_dial` of `crates/node/events/kademlia.rs`).

When the cap on outgoing connections is reached, the handler of Kademlia events disconnects a peer that only
serves the DHT before it dials a provider. It does so once the gate of automatic connections lets the
provider pass, whatever becomes of the dial.
-/

import P2pNet.Lib.Firsts
import P2pNet.Node.Connectedness

set_option linter.unusedSectionVars false

namespace P2pNet.Node

open Lib PeerIdentity Connectivity

variable {PeerId Addr : Type} [PeerIdentity PeerId] [DecidableEq Addr] [Multiaddr PeerId Addr]

/-! ### The handler -/

def applicationDialRequiredHeadroom : UInt32 := 1

/-- What a release looks at: the caps, the peer book, and the relays this node uses or tried to use. -/
structure ReleaseView (PeerId : Type) [PeerIdentity PeerId] where
  connectionCaps : ConnectionCapState PeerId
  peerBook : PeerBook PeerId
  relayClientReservations : Finset PeerId
  relayClientAttemptedPeers : Finset PeerId

/-- The peers that `swarm.disconnect_peer_id` is called with. -/
def releaseOutboundDhtInfrastructureForAppDial (release : ReleaseView PeerId) (target : PeerId) : List PeerId :=
  let toRelease := release.connectionCaps.outgoingConnectionsToRelease applicationDialRequiredHeadroom
  if toRelease = 0 then []
  else
    let peers := release.connectionCaps.outgoingPeers.filter (· ≠ target)
    let peers := peers.filter fun peer => (release.peerBook.record peer).isNone
    let peers := peers.filter (· ∉ release.relayClientReservations)
    let peers := peers.filter (· ∉ release.relayClientAttemptedPeers)
    (firstsBy id peers).take toRelease

/-- What one turn does: the peers it disconnects, the outcome of the dial if there was one, and the rest. -/
structure ReleasingTurn (PeerId Addr : Type) where
  released : List PeerId
  outcome : Option AutoDialOutcome
  turn : Turn PeerId Addr

def releasePulse (released : List PeerId) (peer : PeerId) : List String :=
  if released.length > 0 then
    [s!"dht provider auto-connect released {released.length} unrelated outbound DHT peer(s) because the outbound cap blocked application dial target={toText peer}"]
  else []

/-- One turn of `maybe_auto_dial_dht_providers`. -/
def dialReleasing (release : ReleaseView PeerId) (view : DialView PeerId) (answers : PeerId → DialAnswers)
    (nowUnixSecs : ℕ) (s : Upkeep PeerId Addr) (candidate : AutoDialCandidate PeerId) :
    ReleasingTurn PeerId Addr × Upkeep PeerId Addr :=
  let peer := candidate.peer
  if s.autoDialStats.isSuppressed peer then (⟨[], none, .none⟩, s)
  else
    let (allowed, dhtState) :=
      if candidate.addressUpdated then s.dhtState.shouldAutoConnectAfterAddrUpdate peer nowUnixSecs
      else s.dhtState.shouldAutoConnectProviderResult peer nowUnixSecs
    if !allowed then (⟨[], none, .none⟩, { s with dhtState })
    else
      let released :=
        if peer = view.localPeer then [] else releaseOutboundDhtInfrastructureForAppDial release peer
      let auto := autoDialDhtProvider view s.pendingConnections peer (answers peer)
      let turn := auto.turn "dht provider" peer
      (⟨released, some auto.outcome, { turn with pulses := releasePulse released peer ++ turn.pulses }⟩,
        { s.record peer auto with dhtState := dhtState.noteOutcome peer nowUnixSecs auto.outcome })

section Handler

variable (setup : NodeSetup PeerId Addr) (relayClientReservations relayClientAttemptedPeers : Finset PeerId)

def NodeState.releaseView (s : NodeState PeerId Addr) : ReleaseView PeerId where
  connectionCaps := s.connection.connectionCaps
  peerBook := s.peerBook
  relayClientReservations
  relayClientAttemptedPeers

/-- `maybe_auto_dial_dht_providers`, with the turns one by one. -/
def handleCandidates (s : NodeState PeerId Addr) (candidates : List (AutoDialCandidate PeerId))
    (answers : PeerId → DialAnswers) (nowUnixSecs : ℕ) :
    List (ReleasingTurn PeerId Addr) × NodeState PeerId Addr :=
  let step := dialReleasing (s.releaseView relayClientReservations relayClientAttemptedPeers) (s.view setup)
    answers nowUnixSecs
  (outputs step s.upkeep candidates, s.withUpkeep (final step s.upkeep candidates))

end Handler

/-! ### When a peer is released -/

/-- The cap is reached, and an outgoing connection belongs to nobody the node knows or relays through. -/
def CanRelease (release : ReleaseView PeerId) (target : PeerId) : Prop :=
  (∃ limit, release.connectionCaps.maxEstablishedOutgoing = some limit ∧
    limit.toNat ≤ release.connectionCaps.outgoingByConnection.entries.length) ∧
  ∃ peer ∈ release.connectionCaps.outgoingPeers, peer ≠ target ∧ (release.peerBook.record peer).isNone ∧
    peer ∉ release.relayClientReservations ∧ peer ∉ release.relayClientAttemptedPeers

theorem outgoingConnectionsToRelease_ne_zero_iff (caps : ConnectionCapState PeerId) :
    caps.outgoingConnectionsToRelease applicationDialRequiredHeadroom ≠ 0 ↔
      ∃ limit, caps.maxEstablishedOutgoing = some limit ∧
        limit.toNat ≤ caps.outgoingByConnection.entries.length := by
  unfold ConnectionCapState.outgoingConnectionsToRelease
  cases caps.maxEstablishedOutgoing with
  | none => simp
  | some limit =>
    have small : limit.toNat < 2 ^ 32 := limit.toNat_lt
    have headroom : applicationDialRequiredHeadroom.toNat = 1 := rfl
    simp only [headroom, Option.some.injEq, exists_eq_left']
    omega

theorem releaseOutboundDhtInfrastructureForAppDial_ne_nil_iff (release : ReleaseView PeerId) (target : PeerId) :
    releaseOutboundDhtInfrastructureForAppDial release target ≠ [] ↔ CanRelease release target := by
  unfold releaseOutboundDhtInfrastructureForAppDial CanRelease
  rw [← outgoingConnectionsToRelease_ne_zero_iff]
  dsimp only
  split_ifs with none
  · simp [none]
  · rw [Ne, List.take_eq_nil_iff, not_or, firstsBy_eq_nil_iff, List.eq_nil_iff_forall_not_mem, not_forall_not]
    simp only [List.mem_filter, decide_eq_true_eq, and_assoc, Ne]

theorem releaseOutboundDhtInfrastructureForAppDial_subset (release : ReleaseView PeerId) (target : PeerId) :
    releaseOutboundDhtInfrastructureForAppDial release target ⊆ release.connectionCaps.outgoingPeers := by
  unfold releaseOutboundDhtInfrastructureForAppDial
  dsimp only
  split_ifs
  · exact List.nil_subset _
  · intro peer member
    have chosen := (firstsBy_sublist id _).subset (List.mem_of_mem_take member)
    simp only [List.mem_filter] at chosen
    exact chosen.1.1.1.1

/-! ### When a dial starts -/

def AutoDialOutcome.started : AutoDialOutcome → Bool
  | dialStarted _ | addressResolutionStarted _ => true
  | _ => false

theorem firstAccepted_isSome_iff (answer : DialAnswers) (calls : ℕ) :
    (firstAccepted answer calls).isSome ↔ ∃ index < calls, answer index = none := by
  induction calls generalizing answer with
  | zero => simp [firstAccepted]
  | succ calls ih =>
    unfold firstAccepted
    cases first : answer 0 with
    | none => exact iff_of_true rfl ⟨0, Nat.succ_pos _, first⟩
    | some error =>
      rw [Option.isSome_map, ih]
      constructor
      · rintro ⟨index, within, accepted⟩
        exact ⟨index + 1, Nat.succ_lt_succ within, accepted⟩
      · rintro ⟨index, within, accepted⟩
        cases index with
        | zero => rw [first] at accepted; cases accepted
        | succ index => exact ⟨index, Nat.lt_of_succ_lt_succ within, accepted⟩

/-- A plan is under way exactly when an attempt of it is accepted. -/
theorem dialLoop_result (plans : PendingConnectionPlans PeerId Addr) (plan : ConnectionPlan PeerId Addr)
    (attempts : List (ConnectionAttempt Addr)) (answer : DialAnswers) (errors : List String) :
    (dialLoop plans plan attempts answer errors).result = .ok () ↔
      (firstAccepted answer attempts.length).isSome := by
  induction attempts generalizing answer errors with
  | nil => exact iff_of_false (by simp [dialLoop]) (by simp [firstAccepted])
  | cons attempt rest ih =>
    rw [List.length_cons]
    unfold dialLoop firstAccepted
    cases answer 0 with
    | none => exact iff_of_true rfl rfl
    | some error =>
      rw [Option.isSome_map]
      exact ih answer.rest _

/-- The swarm accepts a dial of the peer: an attempt of the plan, or without a plan the dial by id. -/
def Starts (view : DialView PeerId) (plans : PendingConnectionPlans PeerId Addr) (peer : PeerId)
    (answer : DialAnswers) : Prop :=
  MayDial view plans peer ∧
    if (bookPlan Addr view peer).attempts = [] then view.wasm32 = false ∧ answer 0 = none
    else ∃ index < (bookPlan Addr view peer).attempts.length, answer index = none

/-- The outcome of dialing a plan with attempts. -/
theorem autoDialPeerFromBook_outcome {view : DialView PeerId} {plans : PendingConnectionPlans PeerId Addr}
    {peer : PeerId} (may : MayDial view plans peer) (attempts : (bookPlan Addr view peer).attempts ≠ [])
    (answer : DialAnswers) :
    (autoDialPeerFromBook view plans peer answer).outcome ≠ .awaitingAddress ∧
      ((autoDialPeerFromBook view plans peer answer).outcome.started = true ↔
        ∃ index < (bookPlan Addr view peer).attempts.length, answer index = none) := by
  have dialed := dialLoop_result plans (bookPlan Addr view peer) (bookPlan Addr view peer).attempts answer []
  rw [firstAccepted_isSome_iff] at dialed
  have filled : ¬ (bookPlan Addr view peer).attempts.isEmpty = true := fun none =>
    attempts (List.isEmpty_iff.mp none)
  unfold autoDialPeerFromBook
  unfold bookPlan at dialed filled ⊢
  rw [may.1, if_neg (by decide), if_neg may.2.1, if_neg may.2.2.1, may.2.2.2, if_neg (by decide)]
  dsimp only
  rw [if_neg filled, ← dialed]
  unfold dialConnectionPlan
  generalize dialLoop plans _ _ answer [] = dial
  cases dial.result with
  | ok result => exact ⟨nofun, iff_of_true rfl rfl⟩
  | error error => exact ⟨nofun, iff_of_false nofun nofun⟩

theorem autoDialDhtProvider_started (view : DialView PeerId) (plans : PendingConnectionPlans PeerId Addr)
    (peer : PeerId) (answer : DialAnswers) :
    (autoDialDhtProvider view plans peer answer).outcome.started = true ↔ Starts view plans peer answer := by
  unfold autoDialDhtProvider Starts
  rcases autoDialPeerFromBook_case view plans peer answer with
    ⟨closed, outcome, skipped, auto⟩ | ⟨may, none, auto⟩ | ⟨may, attempts, -, -⟩
  · rw [auto]
    have other : outcome ≠ .awaitingAddress ∧ outcome.started = false := by
      cases outcome <;> first | exact ⟨AutoDialOutcome.noConfusion, rfl⟩ | cases skipped
    dsimp only
    rw [if_pos other.1, other.2]
    exact iff_of_false nofun fun starts => closed starts.1
  · rw [auto, if_pos none]
    dsimp only
    rw [if_neg (fun other => other rfl)]
    cases view.wasm32 with
    | true =>
      have inBrowser : TransportCapabilities.ofTarget true = .browser := rfl
      rw [if_pos inBrowser]
      exact iff_of_false nofun fun starts => nomatch starts.2.1
    | false =>
      have native : TransportCapabilities.ofTarget false ≠ .browser := by decide
      rw [if_neg native]
      cases answer 0 with
      | none => exact iff_of_true rfl ⟨may, rfl, rfl⟩
      | some error => exact iff_of_false nofun fun starts => nomatch starts.2.2
  · obtain ⟨other, started⟩ := autoDialPeerFromBook_outcome may attempts answer
    dsimp only
    rw [if_pos other, started, if_neg attempts]
    exact ⟨fun accepted => ⟨may, accepted⟩, fun starts => starts.2⟩

/-! ### Turns -/

section Turns

variable (release : ReleaseView PeerId) (view : DialView PeerId) (answers : PeerId → DialAnswers)
variable (nowUnixSecs : ℕ)

/-- The gate of a candidate. -/
def gateAnswer (state : DhtProviderState PeerId) (candidate : AutoDialCandidate PeerId) :
    Bool × DhtProviderState PeerId :=
  if candidate.addressUpdated then state.shouldAutoConnectAfterAddrUpdate candidate.peer nowUnixSecs
  else state.shouldAutoConnectProviderResult candidate.peer nowUnixSecs

/-- The candidate is not suppressed, and the gate lets it pass. -/
def Considered (s : Upkeep PeerId Addr) (candidate : AutoDialCandidate PeerId) : Prop :=
  s.autoDialStats.isSuppressed candidate.peer = false ∧ (gateAnswer nowUnixSecs s.dhtState candidate).1 = true

/-- A turn in cases. -/
theorem dialReleasing_case (s : Upkeep PeerId Addr) (candidate : AutoDialCandidate PeerId) :
    let turn := (dialReleasing release view answers nowUnixSecs s candidate).1
    (¬ Considered nowUnixSecs s candidate ∧ turn.released = [] ∧ turn.outcome = none) ∨
    (Considered nowUnixSecs s candidate ∧
      turn.released = (if candidate.peer = view.localPeer then []
        else releaseOutboundDhtInfrastructureForAppDial release candidate.peer) ∧
      turn.outcome = some (autoDialDhtProvider view s.pendingConnections candidate.peer
        (answers candidate.peer)).outcome) := by
  unfold dialReleasing Considered gateAnswer
  dsimp only
  generalize (if candidate.addressUpdated then
    s.dhtState.shouldAutoConnectAfterAddrUpdate candidate.peer nowUnixSecs
    else s.dhtState.shouldAutoConnectProviderResult candidate.peer nowUnixSecs) = gate
  obtain ⟨allowed, dhtState⟩ := gate
  cases suppressed : s.autoDialStats.isSuppressed candidate.peer with
  | true => exact .inl ⟨fun considered => Bool.noConfusion considered.1, rfl, rfl⟩
  | false =>
    cases allowed with
    | false => exact .inl ⟨fun considered => Bool.noConfusion considered.2, rfl, rfl⟩
    | true => exact .inr ⟨⟨rfl, rfl⟩, rfl, rfl⟩

/-- **When a turn releases a peer.** -/
theorem released_iff (s : Upkeep PeerId Addr) (candidate : AutoDialCandidate PeerId) :
    (dialReleasing release view answers nowUnixSecs s candidate).1.released ≠ [] ↔
      Considered nowUnixSecs s candidate ∧ candidate.peer ≠ view.localPeer ∧
        CanRelease release candidate.peer := by
  rcases dialReleasing_case release view answers nowUnixSecs s candidate with
    ⟨refused, released, -⟩ | ⟨considered, released, -⟩
  · rw [released]
    exact iff_of_false (fun some => some rfl) fun conditions => refused conditions.1
  · rw [released]
    split_ifs with own
    · exact iff_of_false (fun some => some rfl) fun conditions => conditions.2.1 own
    · rw [releaseOutboundDhtInfrastructureForAppDial_ne_nil_iff]
      exact ⟨fun can => ⟨considered, own, can⟩, fun conditions => conditions.2.2⟩

/-- The turn starts a dial. -/
def ReleasingTurn.Started (turn : ReleasingTurn PeerId Addr) : Prop :=
  ∃ outcome, turn.outcome = some outcome ∧ outcome.started = true

/-- **When a turn starts a dial.** -/
theorem started_iff (s : Upkeep PeerId Addr) (candidate : AutoDialCandidate PeerId) :
    (dialReleasing release view answers nowUnixSecs s candidate).1.Started ↔
      Considered nowUnixSecs s candidate ∧
        Starts view s.pendingConnections candidate.peer (answers candidate.peer) := by
  unfold ReleasingTurn.Started
  rcases dialReleasing_case release view answers nowUnixSecs s candidate with
    ⟨refused, -, outcome⟩ | ⟨considered, -, outcome⟩
  · rw [outcome]
    exact iff_of_false (by simp) fun conditions => refused conditions.1
  · rw [outcome, ← autoDialDhtProvider_started]
    simp only [Option.some.injEq, exists_eq_left', considered, true_and]

/-- The connections that the turn leaves open. -/
def ReleasingTurn.leaves (turn : ReleasingTurn PeerId Addr) (connections : List (PeerId × ConnectionId)) :
    List (PeerId × ConnectionId) :=
  connections.filter fun connection => turn.released.all (· ≠ connection.1)

/-- The connections that count as outgoing are open. -/
def OutgoingOpen (caps : ConnectionCapState PeerId) (connections : List (PeerId × ConnectionId)) : Prop :=
  ∀ connection peer, caps.outgoingByConnection.lookup connection = some peer → (peer, connection) ∈ connections

/-- A turn that releases a peer closes a connection. -/
theorem leaves_eq_self_iff {connections : List (PeerId × ConnectionId)}
    (tracked : OutgoingOpen release.connectionCaps connections) (s : Upkeep PeerId Addr)
    (candidate : AutoDialCandidate PeerId) :
    let turn := (dialReleasing release view answers nowUnixSecs s candidate).1
    turn.leaves connections = connections ↔ turn.released = [] := by
  intro turn
  have outgoing : turn.released ⊆ release.connectionCaps.outgoingPeers := by
    rcases dialReleasing_case release view answers nowUnixSecs s candidate with
      ⟨-, released, -⟩ | ⟨-, released, -⟩
    · rw [released]
      exact List.nil_subset _
    · rw [released]
      split_ifs
      · exact List.nil_subset _
      · exact releaseOutboundDhtInfrastructureForAppDial_subset release candidate.peer
  unfold ReleasingTurn.leaves
  rw [List.filter_eq_self]
  constructor
  · intro kept
    rw [List.eq_nil_iff_forall_not_mem]
    intro peer chosen
    obtain ⟨⟨connection, owner⟩, entry, rfl⟩ := List.mem_map.mp (outgoing chosen)
    have still := kept _ (tracked connection owner (Table.mem_entries_iff.mp entry))
    exact of_decide_eq_true (List.all_eq_true.mp still owner chosen) rfl
  · intro none connection _
    rw [none]
    rfl

end Turns

/-! ### The handler as a whole -/

section Whole

variable (setup : NodeSetup PeerId Addr) (relayClientReservations relayClientAttemptedPeers : Finset PeerId)
variable (s : NodeState PeerId Addr) (candidates : List (AutoDialCandidate PeerId))
variable (answers : PeerId → DialAnswers) (nowUnixSecs : ℕ)

/-- **Releases and dials.** Peers are disconnected only for dials that start, exactly when no turn finds the
cap reached and a peer to release while its dial does not start. The same is exact for the connections: a
turn without a dial leaves all of them open. -/
theorem release_only_for_dial_iff :
    let release := s.releaseView relayClientReservations relayClientAttemptedPeers
    let turns := (handleCandidates setup relayClientReservations relayClientAttemptedPeers s candidates answers
      nowUnixSecs).1
    let sound := Each (dialReleasing release (s.view setup) answers nowUnixSecs)
      (fun current candidate => Considered nowUnixSecs current candidate →
        candidate.peer ≠ setup.localPeer → CanRelease release candidate.peer →
          Starts (s.view setup) current.pendingConnections candidate.peer (answers candidate.peer))
      s.upkeep candidates
    ((∀ turn ∈ turns, turn.released ≠ [] → turn.Started) ↔ sound) ∧
    (OutgoingOpen s.connection.connectionCaps s.connections →
      ((∀ turn ∈ turns, ¬ turn.Started → turn.leaves s.connections = s.connections) ↔ sound)) := by
  intro release turns sound
  have first : (∀ turn ∈ turns, turn.released ≠ [] → turn.Started) ↔ sound := by
    refine (forall_mem_outputs_iff_each _).trans (each_congr _ fun current candidate => ?_)
    rw [released_iff, started_iff]
    constructor
    · intro only considered other can
      exact (only ⟨considered, other, can⟩).2
    · rintro starts ⟨considered, other, can⟩
      exact ⟨considered, starts considered other can⟩
  refine ⟨first, fun tracked => ?_⟩
  rw [← first]
  refine (forall_mem_outputs_iff_each _).trans (Iff.trans ?_ (forall_mem_outputs_iff_each _).symm)
  refine each_congr _ fun current candidate => ?_
  have kept := leaves_eq_self_iff release (s.view setup) answers nowUnixSecs tracked current candidate
  exact (imp_congr_right fun _ => kept).trans not_imp_comm

end Whole

namespace OnePeerKnown

def routingPeer : KeyPeer := ⟨3⟩

/-- Room for one outgoing connection, which is open to a peer of the DHT. -/
def capReached (connections : List (KeyPeer × ConnectionId)) : NodeState KeyPeer KeyHost :=
  { start with
    connection := { start.connection with
      connectionCaps := { (ConnectionCapState.new none (some 1) : ConnectionCapState KeyPeer) with
        outgoingByConnection := (∅ : Table ConnectionId KeyPeer).insert 7 routingPeer } }
    connections := connections }

/-- The turns for a provider of the application, when the swarm accepts every dial. -/
def providerTurns (s : NodeState KeyPeer KeyHost) (provider : KeyPeer) : List (ReleasingTurn KeyPeer KeyHost) :=
  (handleCandidates config ∅ ∅ s [⟨provider, false⟩] (fun _ _ => none) 1700000000).1

theorem release_only_for_dial_iff_dialed :
    let s := capReached [(routingPeer, 7)]
    OutgoingOpen s.connection.connectionCaps s.connections ∧
      ∀ turn ∈ providerTurns s ⟨5⟩, ¬ turn.Started → turn.leaves s.connections = s.connections := by
  intro s
  have tracked : OutgoingOpen s.connection.connectionCaps s.connections := by
    intro connection peer entry
    obtain ⟨⟩ := List.mem_singleton.mp (Table.mem_entries_iff.mpr entry)
    exact List.mem_cons_self
  refine ⟨tracked, ((release_only_for_dial_iff config ∅ ∅ s [⟨⟨5⟩, false⟩] (fun _ _ => none) 1700000000).2
    tracked).mpr ?_⟩
  rw [each_cons]
  refine ⟨fun _ _ _ => ⟨by decide, ?_⟩, each_nil _ _ _⟩
  rw [if_pos (by decide)]
  exact ⟨rfl, rfl⟩

/-- The provider is connected already, and a peer of the DHT is disconnected. -/
theorem released_without_dial :
    (providerTurns (capReached [(routingPeer, 7), (known, 8)]) known).map (·.outcome) = [some .alreadyConnected] ∧
      (providerTurns (capReached [(routingPeer, 7), (known, 8)]) known).map (·.released) = [[routingPeer]] ∧
      (providerTurns (capReached [(routingPeer, 7), (known, 8)]) known).map (·.leaves [(routingPeer, 7), (known, 8)])
        = [[(known, 8)]] := by
  refine ⟨by decide, by decide, by decide⟩

end OnePeerKnown

end P2pNet.Node
