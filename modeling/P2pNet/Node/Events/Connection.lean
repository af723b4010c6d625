/-
**Connections that are established and closed** (`crates/node/events/connection.rs`).

`handleConnectionEstablished` has three ends: it closes the connection while the relay is closed by its
schedule, it closes a connection above the cap of its address, and otherwise it takes the connection over,
which is where the plan of the peer ends (`established_queue`).
-/

import P2pNet.Connectivity.Limits
import P2pNet.Node.AutoDial

set_option linter.unusedSectionVars false

namespace P2pNet.Node

open Lib PeerIdentity Connectivity

variable {PeerId Addr : Type} [PeerIdentity PeerId] [DecidableEq Addr] [Multiaddr PeerId Addr]

inductive RelayServiceHealth
  | disabled
  | enabled
  | closedBySchedule
  | atCapacity
  | rateLimited
  | error
  deriving DecidableEq, Repr

def maxUnverifiedRelayedPeers : ℕ := 8

/-- The part of the event context that a connection changes. `cacheSeen` are the calls of
`peer_cache_writes.record_seen`; the unverified relayed peers carry the moment of their connection. -/
structure ConnectionContext (PeerId Addr : Type) [PeerIdentity PeerId] where
  dial : DialContext PeerId Addr
  connectionCaps : ConnectionCapState PeerId
  relayHealth : RelayServiceHealth
  unverifiedRelayedPeers : Table PeerId ℕ
  cacheSeen : List (PeerId × Addr)

structure EstablishedConnection (PeerId Addr : Type) where
  peerId : PeerId
  connectionId : ConnectionId
  remoteAddr : Addr
  relayedEndpoint : Bool
  outgoing : Bool
  endpointDebug : String

/-- What a handler reads of the outside: is the relay server on and its schedule open, and the time as
`Instant` and as Unix seconds. -/
structure Surroundings where
  relayEnabled : Bool
  isOpenNowUtc : Bool
  instant : ℕ
  nowUnixSecs : ℕ

/-- What a handler asks of the swarm beside dials. -/
inductive SwarmRequest (PeerId : Type)
  | closeConnection (connection : ConnectionId)
  | disconnectPeer (peer : PeerId)
  deriving DecidableEq

/-! ### Established connections -/

/-- The peer that has waited longest for its verification. -/
def oldestUnverified (unverified : Table PeerId ℕ) : Option PeerId :=
  (unverified.entries.foldl (fun oldest entry => match oldest with
    | some (peer, since) => if entry.2 < since then some (entry.1, entry.2) else some (peer, since)
    | none => some (entry.1, entry.2)) none).map Prod.fst

/-- A relayed connection of a peer nobody vouches for takes one of a few places; the oldest makes room. -/
def awaitVerification (unverified : Table PeerId ℕ) (peer : PeerId) (instant : ℕ) :
    Option PeerId × Table PeerId ℕ :=
  let evicted :=
    if (unverified.lookup peer).isNone ∧ unverified.entries.length ≥ maxUnverifiedRelayedPeers then
      oldestUnverified unverified
    else none
  let unverified := match evicted with
    | some oldest => unverified.erase oldest
    | none => unverified
  (evicted, unverified.insert peer instant)

/-- `record_established` of the caps at a connection. -/
def capAnswer (caps : ConnectionCapState PeerId) (connection : EstablishedConnection PeerId Addr) :
    Bool × ConnectionCapState PeerId :=
  caps.recordEstablished connection.connectionId connection.peerId connection.remoteAddr connection.outgoing

/-- The end of the handler at a connection that stays. -/
def takeOver (ctx : ConnectionContext PeerId Addr) (connection : EstablishedConnection PeerId Addr)
    (now : Surroundings) : List (SwarmRequest PeerId) × ConnectionContext PeerId Addr :=
  let peer := connection.peerId
  let tracked := shouldTrackPeerInPeerBook ctx.dial.peerBook peer
  let (evicted, unverified) :=
    if connection.relayedEndpoint && !tracked then
      awaitVerification ctx.unverifiedRelayedPeers peer now.instant
    else (none, ctx.unverifiedRelayedPeers.erase peer)
  let endpointLine :=
    s!"connection endpoint peer={toText peer} relayed={connection.relayedEndpoint} {connection.endpointDebug}"
  let evictedLine := evicted.toList.map fun oldest =>
    s!"rotated unverified relayed peer={toText oldest} for new verification candidate={toText peer}; slots={maxUnverifiedRelayedPeers}"
  (evicted.toList.map .disconnectPeer,
    { ctx with
      unverifiedRelayedPeers := unverified
      cacheSeen := if tracked then ctx.cacheSeen ++ [(peer, connection.remoteAddr)] else ctx.cacheSeen
      dial := { ctx.dial with
        peerBook :=
          if tracked then ctx.dial.peerBook.recordConnected peer now.nowUnixSecs (some connection.remoteAddr)
          else ctx.dial.peerBook
        pendingConnections := ctx.dial.pendingConnections.complete peer
        autoDialStats := { ctx.dial.autoDialStats with
          awaitingAddress := (ctx.dial.autoDialStats.awaitingAddress.remove peer).2 }
        pulses := (endpointLine :: evictedLine).foldl pushPulse ctx.dial.pulses } })

def handleConnectionEstablished (ctx : ConnectionContext PeerId Addr)
    (connection : EstablishedConnection PeerId Addr) (now : Surroundings) :
    List (SwarmRequest PeerId) × ConnectionContext PeerId Addr :=
  if now.relayEnabled && !now.isOpenNowUtc then
    ([.closeConnection connection.connectionId],
      { ctx with
        relayHealth := .closedBySchedule
        dial := { ctx.dial with
          pulses := pushPulse ctx.dial.pulses
            s!"relay_server schedule closed; closing connection from {toText connection.peerId}" } })
  else
    let (overIpCap, connectionCaps) := capAnswer ctx.connectionCaps connection
    if overIpCap then
      ([.closeConnection connection.connectionId],
        { ctx with
          connectionCaps
          dial := { ctx.dial with
            connectionLimitEvents := saturatingAdd ctx.dial.connectionLimitEvents 1
            pulses := pushPulse ctx.dial.pulses
              s!"connection cap exceeded; closing connection ConnectionId({connection.connectionId}) from {Multiaddr.toText connection.remoteAddr}" } })
    else takeOver { ctx with connectionCaps } connection now

/-- The connection is neither closed by the schedule nor by the cap. -/
def Admitted (ctx : ConnectionContext PeerId Addr) (connection : EstablishedConnection PeerId Addr)
    (now : Surroundings) : Prop :=
  (now.relayEnabled && !now.isOpenNowUtc) = false ∧ (capAnswer ctx.connectionCaps connection).1 = false

instance (ctx : ConnectionContext PeerId Addr) (connection : EstablishedConnection PeerId Addr)
    (now : Surroundings) : Decidable (Admitted ctx connection now) := by
  unfold Admitted
  infer_instance

/-- **The ends of the handler**: the connection is closed at once and neither plans nor records nor the peers
that wait for their verification change, or it is taken over. -/
theorem established_case (ctx : ConnectionContext PeerId Addr)
    (connection : EstablishedConnection PeerId Addr) (now : Surroundings) :
    (¬ Admitted ctx connection now ∧
      (handleConnectionEstablished ctx connection now).1 = [.closeConnection connection.connectionId] ∧
      (handleConnectionEstablished ctx connection now).2.dial.pendingConnections
        = ctx.dial.pendingConnections ∧
      (handleConnectionEstablished ctx connection now).2.dial.peerBook = ctx.dial.peerBook ∧
      (handleConnectionEstablished ctx connection now).2.unverifiedRelayedPeers = ctx.unverifiedRelayedPeers) ∨
    (Admitted ctx connection now ∧ handleConnectionEstablished ctx connection now
      = takeOver { ctx with connectionCaps := (capAnswer ctx.connectionCaps connection).2 } connection now) := by
  unfold handleConnectionEstablished Admitted
  by_cases closed : (now.relayEnabled && !now.isOpenNowUtc) = true
  · rw [if_pos closed]
    exact .inl ⟨fun admitted => Bool.false_ne_true (admitted.1.symm.trans closed), rfl, rfl, rfl, rfl⟩
  · rw [if_neg closed]
    rcases capAnswer ctx.connectionCaps connection with ⟨overIpCap, connectionCaps⟩
    cases overIpCap with
    | true => exact .inl ⟨fun admitted => Bool.false_ne_true admitted.2.symm, rfl, rfl, rfl, rfl⟩
    | false => exact .inr ⟨⟨Bool.eq_false_iff.mpr closed, rfl⟩, rfl⟩

/-- **The plan of a peer ends where its connection is taken over**, and nowhere else. -/
theorem established_queue (ctx : ConnectionContext PeerId Addr)
    (connection : EstablishedConnection PeerId Addr) (now : Surroundings) (peer : PeerId) :
    (handleConnectionEstablished ctx connection now).2.dial.pendingConnections.queue peer =
      if Admitted ctx connection now ∧ peer = connection.peerId then none
      else ctx.dial.pendingConnections.queue peer := by
  rcases established_case ctx connection now with ⟨refused, _, plans, _⟩ | ⟨admitted, taken⟩
  · rw [plans, if_neg fun both => refused both.1]
  · rw [taken]
    show (ctx.dial.pendingConnections.complete connection.peerId).queue peer = _
    rw [PendingConnectionPlans.complete_queue]
    exact if_congr (and_iff_right admitted).symm rfl rfl

/-! ### Closed connections -/

/-- `connected` says whether the swarm still has a connection to the peer. -/
def handleConnectionClosed (ctx : ConnectionContext PeerId Addr) (peer : PeerId) (connection : ConnectionId)
    (connected : Bool) (nowUnixSecs : ℕ) : ConnectionContext PeerId Addr :=
  let ctx := { ctx with connectionCaps := ctx.connectionCaps.recordClosed connection }
  if connected then ctx
  else
    let named := ((ctx.dial.peerBook.record peer).map fun record => decide record.namespaces.Nonempty).getD false
    { ctx with
      unverifiedRelayedPeers := ctx.unverifiedRelayedPeers.erase peer
      dial := { ctx.dial with
        dhtState := if named then ctx.dial.dhtState.markAutoConnectDisconnected peer else ctx.dial.dhtState
        peerBook := ctx.dial.peerBook.recordDisconnectedIfKnown peer nowUnixSecs } }

theorem closed_plans (ctx : ConnectionContext PeerId Addr) (peer : PeerId) (connection : ConnectionId)
    (connected : Bool) (nowUnixSecs : ℕ) :
    (handleConnectionClosed ctx peer connection connected nowUnixSecs).dial.pendingConnections
      = ctx.dial.pendingConnections := by
  cases connected <;> rfl

end P2pNet.Node
