/-
**The node as a machine.**

One step is one event as the runtime sees it: a swarm event, a gossip message, a tick of the maintenance, a
LAN beacon or a command. The state holds what the handlers share; the connections of the swarm are part of
it, so that a handler that asks `swarm.is_connected` is answered by the events before. What an event reads
of the outside, clocks and the answers of `swarm.dial`, comes with it.

`nodeStep_written`: a step writes the peer book by the calls of `bookCalls`, and only two kinds of events
write the connections, two commands the suppressed peers.
-/

import P2pNet.Protocol.ReplayProtection
import P2pNet.Node.Commands
import P2pNet.Node.Events.Connection
import P2pNet.Node.Events.Discovery

set_option linter.unusedSectionVars false

namespace P2pNet.Node

open Lib PeerIdentity Connectivity PeerBook Protocol

variable {PeerId Addr : Type} [PeerIdentity PeerId] [DecidableEq Addr] [Multiaddr PeerId Addr]

/-! ### States and events -/

/-- The configuration, as far as the handlers read it. -/
structure NodeSetup (PeerId Addr : Type) where
  localPeer : PeerId
  autoConnectDiscoveredPeers : Bool
  dcutrPolicy : DcutrPolicy
  wasm32 : Bool
  applicationNamespaces : List String
  applicationProtocolVersion : String
  messageSecurity : MessageSecurityConfig
  relayEnabled : Bool
  rendezvousClientEnabled : Bool
  rendezvousNamespaces : List String
  rendezvousPeers : List Addr
  blake3 : Blake3

structure NodeState (PeerId Addr : Type) [PeerIdentity PeerId] where
  connection : ConnectionContext PeerId Addr
  autoConnectRetry : Table PeerId AutoConnectRetryState
  autoConnectRetryOrder : List PeerId
  dialAttempts : ℕ
  suppressed : PeerQueue PeerId
  replayCache : HeartbeatReplayCache PeerId
  connections : List (PeerId × ConnectionId)

/-- What every event reads of the outside. -/
structure Moment where
  unixSecs : ℕ
  unixNs : UInt64
  instant : ℕ
  isOpenNowUtc : Bool

inductive NodeEvent (PeerId Addr : Type)
  | tick (answers : PeerId → DialAnswers)
  /-- A result of a provider query for a namespace. -/
  | providersFound (name : String) (providers : List PeerId) (answers : PeerId → DialAnswers)
  /-- Kademlia reports addresses of a peer. -/
  | providerAddrs (peer : PeerId) (addrs : List Addr) (answers : PeerId → DialAnswers)
  /-- A signed address record of a peer was accepted. -/
  | addressRecord (peer : PeerId) (name : String) (addrs : List Addr) (answers : PeerId → DialAnswers)
  | rendezvousDiscovered (rendezvousNode : PeerId) (registrations : List (Registration PeerId Addr))
      (answers : PeerId → DialAnswers)
  | newListenAddr
  | lanAnnouncement (peer : PeerId) (addrs : List Addr) (answer : DialAnswers)
  /-- A heartbeat with its authenticated author. -/
  | heartbeat (author : Option PeerId) (data : List UInt8)
  | identify (info : IdentifyInfo PeerId Addr)
  | established (connection : EstablishedConnection PeerId Addr)
  | closed (peer : PeerId) (connection : ConnectionId)
  | outgoingError (peer : Option PeerId) (errorDebug : String) (answer : DialAnswers)
  | connectPeer (addr : Addr) (answer : DialAnswers)
  /-- `accepted` is the answer of `swarm.disconnect_peer_id`. -/
  | disconnectPeer (peer : PeerId) (accepted : Bool)
  | wake (answers : ℕ → DialAnswers)

structure NodeOutput (PeerId Addr : Type) where
  dials : List (NodeDial PeerId Addr)
  requests : List (SwarmRequest PeerId)
  pulses : List String

namespace NodeOutput

def none : NodeOutput PeerId Addr := ⟨[], [], []⟩

def ofDials (dials : List (NodeDial PeerId Addr)) : NodeOutput PeerId Addr := ⟨dials, [], []⟩

def ofRequests (requests : List (SwarmRequest PeerId)) : NodeOutput PeerId Addr := ⟨[], requests, []⟩

def ofTurn (path : DialPath) (turn : Turn PeerId Addr) : NodeOutput PeerId Addr where
  dials := turn.dialed.map fun dial => ⟨path, [dial.1], dial.2⟩
  requests := []
  pulses := turn.pulses

end NodeOutput

namespace NodeState

variable (s : NodeState PeerId Addr)

def peerBook : PeerBook PeerId := s.connection.dial.peerBook

def withPeerBook (peerBook : PeerBook PeerId) : NodeState PeerId Addr :=
  { s with connection := { s.connection with dial := { s.connection.dial with peerBook } } }

def upkeep : Upkeep PeerId Addr where
  pendingConnections := s.connection.dial.pendingConnections
  dhtState := {
    toDhtAutoConnect := s.connection.dial.dhtState
    autoConnectRetry := s.autoConnectRetry
    autoConnectRetryOrder := s.autoConnectRetryOrder }
  autoDialStats := {
    toAutoDialStats := s.connection.dial.autoDialStats
    dialAttempts := s.dialAttempts
    suppressed := s.suppressed }

def withUpkeep (upkeep : Upkeep PeerId Addr) : NodeState PeerId Addr :=
  { s with
    connection := { s.connection with dial := { s.connection.dial with
      pendingConnections := upkeep.pendingConnections
      dhtState := upkeep.dhtState.toDhtAutoConnect
      autoDialStats := upkeep.autoDialStats.toAutoDialStats } }
    autoConnectRetry := upkeep.dhtState.autoConnectRetry
    autoConnectRetryOrder := upkeep.dhtState.autoConnectRetryOrder
    dialAttempts := upkeep.autoDialStats.dialAttempts
    suppressed := upkeep.autoDialStats.suppressed }

def withPlans (pendingConnections : PendingConnectionPlans PeerId Addr) : NodeState PeerId Addr :=
  { s with connection := { s.connection with dial := { s.connection.dial with pendingConnections } } }

/-- `unverified_relayed_peers.remove` of peers that turned out to belong to the application. -/
def verified (peers : List PeerId) : NodeState PeerId Addr :=
  { s with connection := { s.connection with
    unverifiedRelayedPeers := peers.foldl (fun unverified peer => unverified.erase peer)
      s.connection.unverifiedRelayedPeers } }

/-- `swarm.connected_peers()`. -/
def connectedPeers : Finset PeerId := (s.connections.map Prod.fst).toFinset

def view (setup : NodeSetup PeerId Addr) : DialView PeerId where
  localPeer := setup.localPeer
  enabled := setup.autoConnectDiscoveredPeers
  connectedPeers := s.connectedPeers
  peerBook := s.peerBook
  dcutrPolicy := setup.dcutrPolicy
  wasm32 := setup.wasm32

end NodeState

/-! ### Steps -/

variable (setup : NodeSetup PeerId Addr)

/-- The calls and the turns of a Kademlia event. -/
def dialDhtProviders (s : NodeState PeerId Addr) (candidates : List (AutoDialCandidate PeerId))
    (answers : PeerId → DialAnswers) (nowUnixSecs : ℕ) : NodeOutput PeerId Addr × NodeState PeerId Addr :=
  let turns := maybeAutoDialDhtProviders (s.view setup) answers nowUnixSecs s.upkeep candidates
  (.ofTurn .dhtProvider turns.1, s.withUpkeep turns.2)

/-- Is the heartbeat accepted? -/
def acceptsHeartbeat (cache : HeartbeatReplayCache PeerId) (author : PeerId) (data : List UInt8)
    (nowNs : UInt64) : Bool :=
  match (heartbeatStep setup.blake3 setup.messageSecurity cache ⟨author, data, nowNs⟩).1 with
  | .ok ⟨.accept, some _⟩ => true
  | _ => false

def handleHeartbeatMessage (s : NodeState PeerId Addr) (author : PeerId) (data : List UInt8)
    (now : Moment) : NodeState PeerId Addr :=
  let replayCache :=
    (heartbeatStep setup.blake3 setup.messageSecurity s.replayCache ⟨author, data, now.unixNs⟩).2
  if acceptsHeartbeat setup s.replayCache author data now.unixNs then
    { (s.withPeerBook (s.peerBook.recordAll
        (verifiedPeerCalls Addr setup.applicationNamespaces author) now.unixSecs)).verified [author] with
      replayCache }
  else { s with replayCache }

def handleIdentify (s : NodeState PeerId Addr) (info : IdentifyInfo PeerId Addr) (nowUnixSecs : ℕ) :
    NodeState PeerId Addr :=
  let recorded := s.withPeerBook (recordIdentify s.peerBook info setup.applicationProtocolVersion
    setup.applicationNamespaces nowUnixSecs)
  if info.protocolVersion = setup.applicationProtocolVersion then recorded.verified [info.peer] else recorded

def handleConnectPeer (s : NodeState PeerId Addr) (addr : Addr) (answer : DialAnswers) (nowUnixSecs : ℕ) :
    NodeOutput PeerId Addr × NodeState PeerId Addr :=
  let dial (s : NodeState PeerId Addr) : NodeOutput PeerId Addr × NodeState PeerId Addr :=
    let plan := requestPlan (s.view setup) addr
    let dialed := dialConnectionPlan s.connection.dial.pendingConnections plan answer
    (.ofDials (dialed.dialed.map fun attempt =>
        ⟨.connectCommand, plan.targetPeer.toList, .address attempt.addr⟩),
      s.withPlans dialed.plans)
  match extractP2pPeerId addr with
  | some peer =>
    -- refusing to dial local peer id
    if peer = setup.localPeer then (.none, s)
    else
      let allowed := s.withUpkeep { s.upkeep with autoDialStats := s.upkeep.autoDialStats.allowPeer peer }
      dial (allowed.withPeerBook (s.peerBook.recordAddr peer nowUnixSecs addr .manual))
  | none => dial s

def nodeStep (s : NodeState PeerId Addr) (event : NodeEvent PeerId Addr × Moment) :
    NodeOutput PeerId Addr × NodeState PeerId Addr :=
  let now := event.2
  match event.1 with
  | .tick answers =>
    let turns := maintainApplicationConnections (s.view setup) answers now.unixSecs s.upkeep
    (.ofTurn .maintenance turns.1, s.withUpkeep turns.2)
  | .providersFound name providers answers =>
    let book := s.peerBook.recordAll (dhtProviderCalls Addr s.connectedPeers name providers) now.unixSecs
    let recorded := (s.withPeerBook book).verified (providers.filter (· ∈ s.connectedPeers))
    dialDhtProviders setup recorded (providers.map fun peer => ⟨peer, false⟩) answers now.unixSecs
  | .providerAddrs peer addrs answers =>
    let recorded := recordKnownProviderAddrs s.peerBook peer addrs now.unixSecs
    dialDhtProviders setup (s.withPeerBook recorded.1) recorded.2 answers now.unixSecs
  | .addressRecord peer name addrs answers =>
    let recorded := recordDhtPeerAddressRecord s.peerBook peer name addrs now.unixSecs
    dialDhtProviders setup (s.withPeerBook recorded.1) recorded.2 answers now.unixSecs
  | .rendezvousDiscovered rendezvousNode registrations answers =>
    let source := discoveredPeerSource s.peerBook rendezvousNode
    let recorded := s.withPeerBook (s.peerBook.recordAll (registrationCalls source registrations) now.unixSecs)
    let turns := maybeAutoDialRendezvousPeers (recorded.view setup) answers recorded.upkeep
      (registeredPeers registrations)
    (.ofTurn .rendezvous turns.1, recorded.withUpkeep turns.2)
  | .newListenAddr =>
    let addrs := refreshRendezvous setup.rendezvousClientEnabled setup.rendezvousNamespaces setup.rendezvousPeers
    (.ofDials (addrs.map fun addr => ⟨.rendezvousRefresh, (extractP2pPeerId addr).toList, .address addr⟩), s)
  | .lanAnnouncement peer addrs answer =>
    if admitsAnnouncement s.peerBook setup.localPeer peer then
      let recorded := s.withPeerBook (s.peerBook.recordAll
        (announcementCalls setup.applicationNamespaces peer addrs) now.unixSecs)
      let turn := dialAnnouncedPeer (recorded.view setup) answer recorded.upkeep peer
      (.ofTurn .lanBeacon turn.1, recorded.withUpkeep turn.2)
    else (.none, s)
  | .heartbeat none _ => (.none, s)
  | .heartbeat (some author) data => (.none, handleHeartbeatMessage setup s author data now)
  | .identify info => (.none, handleIdentify setup s info now.unixSecs)
  | .established connection =>
    let handled := handleConnectionEstablished s.connection connection
      ⟨setup.relayEnabled, now.isOpenNowUtc, now.instant, now.unixSecs⟩
    (.ofRequests handled.1,
      { s with
        connection := handled.2
        connections := (connection.peerId, connection.connectionId) :: s.connections })
  | .closed peer connection =>
    let connections := s.connections.erase (peer, connection)
    (.none, { s with
      connection := handleConnectionClosed s.connection peer connection
        (connections.any (·.1 = peer)) now.unixSecs
      connections })
  | .outgoingError peer errorDebug answer =>
    let handled := handleOutgoingConnectionError s.connection.dial peer errorDebug answer now.unixSecs
    (.ofDials (handled.2.map fun attempt => ⟨.fallback, peer.toList, .address attempt.addr⟩),
      { s with connection := { s.connection with dial := handled.1 } })
  | .connectPeer addr answer => handleConnectPeer setup s addr answer now.unixSecs
  | .disconnectPeer peer accepted =>
    (.ofRequests [.disconnectPeer peer],
      if accepted then s.withUpkeep { s.upkeep with autoDialStats := s.upkeep.autoDialStats.suppressPeer peer }
      else s)
  | .wake answers =>
    if setup.wasm32 then
      let handled := handleWake (s.view setup) answers s.connection.dial.pendingConnections
      (.ofDials handled.1, s.withPlans handled.2)
    else (.none, s)

/-! ### The peer book -/

/-- **The calls of a step on the peer book.** -/
def bookCalls (s : NodeState PeerId Addr) (event : NodeEvent PeerId Addr × Moment) : List (Call PeerId Addr) :=
  let now := event.2
  match event.1 with
  | .tick _ | .newListenAddr | .disconnectPeer _ _ | .wake _ | .heartbeat none _ => []
  | .providersFound name providers _ => dhtProviderCalls Addr s.connectedPeers name providers
  | .providerAddrs peer addrs _ => if isDhtProvider s.peerBook peer then providerAddrCalls peer addrs else []
  | .addressRecord peer name addrs _ =>
    let named := s.peerBook.recordAll [(.recordNamespace peer name .dhtProvider : Call PeerId Addr)] now.unixSecs
    .recordNamespace peer name .dhtProvider ::
      if isDhtProvider named peer then providerAddrCalls peer addrs else []
  | .rendezvousDiscovered rendezvousNode registrations _ =>
    registrationCalls (discoveredPeerSource s.peerBook rendezvousNode) registrations
  | .lanAnnouncement peer addrs _ =>
    if admitsAnnouncement s.peerBook setup.localPeer peer then
      announcementCalls setup.applicationNamespaces peer addrs
    else []
  | .heartbeat (some author) data =>
    if acceptsHeartbeat setup s.replayCache author data now.unixNs then
      verifiedPeerCalls Addr setup.applicationNamespaces author
    else []
  | .identify info =>
    let compatible :=
      if info.protocolVersion = setup.applicationProtocolVersion then
        verifiedPeerCalls Addr setup.applicationNamespaces info.peer
      else []
    let verified := s.peerBook.recordAll compatible now.unixSecs
    let capable := verified.recordAll (info.capabilityCalls verified) now.unixSecs
    compatible ++ info.capabilityCalls verified ++ info.addressCalls capable
  | .established connection =>
    if Admitted s.connection connection ⟨setup.relayEnabled, now.isOpenNowUtc, now.instant, now.unixSecs⟩ ∧
        shouldTrackPeerInPeerBook s.peerBook connection.peerId = true then
      [.recordConnected connection.peerId (some connection.remoteAddr)]
    else []
  | .closed peer connection =>
    if (s.connections.erase (peer, connection)).any (·.1 = peer) then [] else [.recordDisconnectedIfKnown peer]
  | .outgoingError peer _ _ => match peer with
    | some peer => if (s.peerBook.record peer).isSome then [.recordFailure peer] else []
    | none => []
  | .connectPeer addr _ => match extractP2pPeerId addr with
    | some peer => if peer = setup.localPeer then [] else [.recordAddr peer addr .manual]
    | none => []

theorem recordKnownProviderAddrs_eq (s : NodeState PeerId Addr) (peer : PeerId) (addrs : List Addr)
    (answers : PeerId → DialAnswers) (now : Moment) :
    (recordKnownProviderAddrs s.peerBook peer addrs now.unixSecs).1
      = s.peerBook.recordAll (bookCalls setup s (.providerAddrs peer addrs answers, now)) now.unixSecs := by
  unfold recordKnownProviderAddrs bookCalls
  dsimp only
  split_ifs
  · rfl
  · rfl

theorem recordDhtPeerAddressRecord_eq (s : NodeState PeerId Addr) (peer : PeerId) (name : String)
    (addrs : List Addr) (answers : PeerId → DialAnswers) (now : Moment) :
    (recordDhtPeerAddressRecord s.peerBook peer name addrs now.unixSecs).1
      = s.peerBook.recordAll (bookCalls setup s (.addressRecord peer name addrs answers, now)) now.unixSecs := by
  unfold recordDhtPeerAddressRecord recordKnownProviderAddrs bookCalls
  dsimp only
  split_ifs
  · rfl
  · rfl

theorem recordIdentify_eq (s : NodeState PeerId Addr) (info : IdentifyInfo PeerId Addr) (now : Moment) :
    recordIdentify s.peerBook info setup.applicationProtocolVersion setup.applicationNamespaces now.unixSecs
      = s.peerBook.recordAll (bookCalls setup s (.identify info, now)) now.unixSecs := by
  unfold recordIdentify bookCalls
  dsimp only
  split_ifs
  · rw [recordAll_append, recordAll_append]
  · rw [List.nil_append, recordAll_append]
    rfl

theorem handleOutgoingConnectionError_peerBook (s : NodeState PeerId Addr) (peer : Option PeerId)
    (errorDebug : String) (answer : DialAnswers) (now : Moment) :
    (handleOutgoingConnectionError s.connection.dial peer errorDebug answer now.unixSecs).1.peerBook
      = s.peerBook.recordAll (bookCalls setup s (.outgoingError peer errorDebug answer, now)) now.unixSecs := by
  cases peer with
  | none => rfl
  | some peer =>
    have failed : (failedPeer s.connection.dial peer errorDebug answer now.unixSecs).1.peerBook
        = if (s.peerBook.record peer).isSome then s.peerBook.recordFailure peer now.unixSecs else s.peerBook := by
      unfold failedPeer
      rcases fallback s.connection.dial.pendingConnections peer answer with ⟨started, plans, dialed, pulses⟩
      rcases s.connection.dial.dhtState.markAutoConnectFailed peer with ⟨retry, dhtState⟩
      cases started with
      | true => rfl
      | false =>
        cases retry with
        | true => rfl
        | false => rfl
    show (failedPeer s.connection.dial peer errorDebug answer now.unixSecs).1.peerBook = _
    rw [failed]
    unfold bookCalls
    dsimp only
    split_ifs
    · rfl
    · rfl

theorem established_peerBook (s : NodeState PeerId Addr) (connection : EstablishedConnection PeerId Addr)
    (now : Moment) :
    (handleConnectionEstablished s.connection connection
        ⟨setup.relayEnabled, now.isOpenNowUtc, now.instant, now.unixSecs⟩).2.dial.peerBook
      = s.peerBook.recordAll (bookCalls setup s (.established connection, now)) now.unixSecs := by
  unfold bookCalls
  dsimp only
  rcases established_case s.connection connection
    ⟨setup.relayEnabled, now.isOpenNowUtc, now.instant, now.unixSecs⟩ with
    ⟨refused, _, _, book, _⟩ | ⟨admitted, taken⟩
  · rw [book, if_neg fun both => refused both.1]
    rfl
  · rw [taken]
    unfold takeOver
    dsimp only
    split_ifs with tracked both both
    · rfl
    · exact absurd ⟨admitted, tracked⟩ both
    · exact absurd both.2 tracked
    · rfl

theorem closed_peerBook (s : NodeState PeerId Addr) (peer : PeerId) (connection : ConnectionId)
    (now : Moment) :
    (handleConnectionClosed s.connection peer connection
        ((s.connections.erase (peer, connection)).any (·.1 = peer)) now.unixSecs).dial.peerBook
      = s.peerBook.recordAll (bookCalls setup s (.closed peer connection, now)) now.unixSecs := by
  unfold bookCalls
  dsimp only
  cases (s.connections.erase (peer, connection)).any (·.1 = peer) with
  | true => rfl
  | false => rfl

/-! ### What a step writes -/

def connectionsAfter (s : NodeState PeerId Addr) : NodeEvent PeerId Addr → List (PeerId × ConnectionId)
  | .established connection => (connection.peerId, connection.connectionId) :: s.connections
  | .closed peer connection => s.connections.erase (peer, connection)
  | _ => s.connections

/-- The peer that a command allows to be dialed again. -/
def allowedPeer : NodeEvent PeerId Addr → Option PeerId
  | .connectPeer addr _ => match extractP2pPeerId addr with
    | some peer => if peer = setup.localPeer then none else some peer
    | none => none
  | _ => none

def suppressedAfter (s : NodeState PeerId Addr) (event : NodeEvent PeerId Addr) : PeerQueue PeerId :=
  match event, allowedPeer setup event with
  | .disconnectPeer peer true, _ => (s.suppressed.insert peer).2.prune maxAutoDialAwaitingPeers
  | _, some peer => (s.suppressed.remove peer).2
  | _, none => s.suppressed

/-- **What a step writes**: the peer book by its calls, the connections where one is established or closed,
the suppressed peers by the two commands about a peer. -/
structure Written (s : NodeState PeerId Addr) (event : NodeEvent PeerId Addr) (now : Moment)
    (after : NodeState PeerId Addr) : Prop where
  peerBook : after.peerBook = s.peerBook.recordAll (bookCalls setup s (event, now)) now.unixSecs
  connections : after.connections = connectionsAfter s event
  suppressed : after.suppressed = suppressedAfter setup s event

/-- Turns that follow upon a book leave the suppressed peers as they are. -/
theorem Written.turns {s recorded : NodeState PeerId Addr} {event : NodeEvent PeerId Addr} {now : Moment}
    {upkeep : Upkeep PeerId Addr} (written : Written setup s event now recorded)
    (follows : Follows recorded.upkeep upkeep) : Written setup s event now (recorded.withUpkeep upkeep) :=
  ⟨written.peerBook, written.connections, follows.suppressed.trans written.suppressed⟩

theorem connectPeer_written (s : NodeState PeerId Addr) (addr : Addr) (answer : DialAnswers)
    (now : Moment) : Written setup s (.connectPeer addr answer) now
      (handleConnectPeer setup s addr answer now.unixSecs).2 := by
  unfold handleConnectPeer
  cases named : extractP2pPeerId addr with
  | none =>
    refine ⟨?_, rfl, ?_⟩
    · simp only [bookCalls, named]
      rfl
    · simp only [suppressedAfter, allowedPeer, named]
      rfl
  | some peer =>
    by_cases own : peer = setup.localPeer
    · simp only [if_pos own]
      refine ⟨?_, rfl, ?_⟩
      · simp only [bookCalls, named, if_pos own]
        rfl
      · simp only [suppressedAfter, allowedPeer, named, if_pos own]
    · simp only [if_neg own]
      refine ⟨?_, rfl, ?_⟩
      · simp only [bookCalls, named, if_neg own]
        rfl
      · simp only [suppressedAfter, allowedPeer, named, if_neg own]
        rfl

theorem announcement_written (s : NodeState PeerId Addr) (peer : PeerId) (addrs : List Addr)
    (answer : DialAnswers) (now : Moment) : Written setup s (.lanAnnouncement peer addrs answer) now
      (nodeStep setup s (.lanAnnouncement peer addrs answer, now)).2 := by
  unfold nodeStep
  dsimp only
  by_cases admitted : admitsAnnouncement s.peerBook setup.localPeer peer = true
  · rw [if_pos admitted]
    refine Written.turns setup ⟨?_, rfl, rfl⟩ (announcedTurn_spec _ answer _ peer).follows
    unfold bookCalls
    dsimp only
    rw [if_pos admitted]
    rfl
  · rw [if_neg admitted]
    refine ⟨?_, rfl, rfl⟩
    unfold bookCalls
    dsimp only
    rw [if_neg admitted]
    rfl

theorem heartbeat_written (s : NodeState PeerId Addr) (author : PeerId) (data : List UInt8) (now : Moment) :
    Written setup s (.heartbeat (some author) data) now (handleHeartbeatMessage setup s author data now) := by
  unfold handleHeartbeatMessage
  by_cases accepted : acceptsHeartbeat setup s.replayCache author data now.unixNs = true
  · rw [if_pos accepted]
    refine ⟨?_, rfl, rfl⟩
    unfold bookCalls
    dsimp only
    rw [if_pos accepted]
    rfl
  · rw [if_neg accepted]
    refine ⟨?_, rfl, rfl⟩
    unfold bookCalls
    dsimp only
    rw [if_neg accepted]
    rfl

theorem nodeStep_written (s : NodeState PeerId Addr) (event : NodeEvent PeerId Addr) (now : Moment) :
    Written setup s event now (nodeStep setup s (event, now)).2 := by
  cases event with
  | newListenAddr => exact ⟨rfl, rfl, rfl⟩
  | tick answers =>
    exact Written.turns setup ⟨rfl, rfl, rfl⟩ (reconnectTurns_spec (s.view setup) answers now.unixSecs _).follows
  | providersFound name providers answers =>
    refine Written.turns setup ?_ (dhtTurns_spec _ answers now.unixSecs _ _).follows
    exact ⟨rfl, rfl, rfl⟩
  | providerAddrs peer addrs answers =>
    refine Written.turns setup ?_ (dhtTurns_spec _ answers now.unixSecs _ _).follows
    exact ⟨recordKnownProviderAddrs_eq setup s peer addrs answers now, rfl, rfl⟩
  | addressRecord peer name addrs answers =>
    refine Written.turns setup ?_ (dhtTurns_spec _ answers now.unixSecs _ _).follows
    exact ⟨recordDhtPeerAddressRecord_eq setup s peer name addrs answers now, rfl, rfl⟩
  | rendezvousDiscovered rendezvousNode registrations answers =>
    refine Written.turns setup ?_ (rendezvousTurns_spec _ answers _ _).follows
    exact ⟨rfl, rfl, rfl⟩
  | lanAnnouncement peer addrs answer => exact announcement_written setup s peer addrs answer now
  | heartbeat author data =>
    cases author with
    | none => exact ⟨rfl, rfl, rfl⟩
    | some author => exact heartbeat_written setup s author data now
  | identify info =>
    show Written setup s _ now (handleIdentify setup s info now.unixSecs)
    unfold handleIdentify
    dsimp only
    rw [recordIdentify_eq]
    split_ifs
    · exact ⟨rfl, rfl, rfl⟩
    · exact ⟨rfl, rfl, rfl⟩
  | established connection => exact ⟨established_peerBook setup s connection now, rfl, rfl⟩
  | closed peer connection => exact ⟨closed_peerBook setup s peer connection now, rfl, rfl⟩
  | outgoingError peer errorDebug answer =>
    exact ⟨handleOutgoingConnectionError_peerBook setup s peer errorDebug answer now, rfl, rfl⟩
  | connectPeer addr answer => exact connectPeer_written setup s addr answer now
  | disconnectPeer peer accepted =>
    cases accepted with
    | true => exact ⟨rfl, rfl, rfl⟩
    | false => exact ⟨rfl, rfl, rfl⟩
  | wake answers =>
    unfold nodeStep
    dsimp only
    split_ifs
    · exact ⟨rfl, rfl, rfl⟩
    · exact ⟨rfl, rfl, rfl⟩

/-! ### Startup -/

/-- A call on the peer book at startup: configured and cached addresses go to the peer they name. -/
def StartupCall : Call PeerId Addr → Prop
  | .recordAddr peer addr _ => extractP2pPeerId addr = some peer
  | .recordPeer _ _ => True
  | _ => False

/-- The node after startup. -/
structure Started (s : NodeState PeerId Addr) : Prop where
  peerBook : ∃ (calls : List (Call PeerId Addr)) (nowUnixSecs : ℕ), (∀ call ∈ calls, StartupCall call) ∧
    s.peerBook = PeerBook.default.recordAll calls nowUnixSecs
  connections : s.connections = []
  suppressed : s.suppressed = .empty

/-! ### A node that knows one peer -/

namespace OnePeerKnown

def known : KeyPeer := ⟨1⟩

def addr : KeyHost := ⟨known⟩

def config : NodeSetup KeyPeer KeyHost where
  localPeer := ⟨0⟩
  autoConnectDiscoveredPeers := true
  dcutrPolicy := ⟨true, true, true⟩
  wasm32 := false
  applicationNamespaces := ["mesh"]
  applicationProtocolVersion := "/mesh/1"
  messageSecurity := .default
  relayEnabled := false
  rendezvousClientEnabled := true
  rendezvousNamespaces := ["mesh"]
  rendezvousPeers := []
  blake3 := fun _ => ⟨List.replicate 32 171, rfl⟩

def start : NodeState KeyPeer KeyHost where
  connection := {
    dial := {
      pendingConnections := .empty
      peerBook := PeerBook.default.recordAddr known 1700000000 addr .peerCache
      cacheFailures := []
      dhtState := ⟨.empty, .empty⟩
      autoDialStats := ⟨0, .empty⟩
      lastApplicationDialError := none
      connectionLimitEvents := 0
      pulses := [] }
    connectionCaps := .new (some 8) (some 64)
    relayHealth := .disabled
    unverifiedRelayedPeers := ∅
    cacheSeen := [] }
  autoConnectRetry := ∅
  autoConnectRetryOrder := []
  dialAttempts := 0
  suppressed := .empty
  replayCache := HeartbeatReplayCache.new .default
  connections := []

theorem started : Started start where
  peerBook := by
    refine ⟨[.recordAddr known addr .peerCache], 1700000000, fun call member => ?_, rfl⟩
    rw [List.mem_singleton.mp member]
    show extractP2pPeerId addr = some known
    decide
  connections := rfl
  suppressed := rfl

/-- The clocks at a second after the start. -/
def moment (second : ℕ) : Moment := ⟨1700000000 + second, 1700000000000000000, second, true⟩

def connection : EstablishedConnection KeyPeer KeyHost where
  peerId := known
  connectionId := 1
  remoteAddr := addr
  relayedEndpoint := false
  outgoing := true
  endpointDebug := "Dialer"

end OnePeerKnown

end P2pNet.Node
