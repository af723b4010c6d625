/-
**Connection plans** (`crates/connectivity/connection_strategy.rs`).

A plan lists the addresses to try for a peer: the requested one and those of the peer book, without
repetition, those the transports allow, in the order QUIC, other direct paths, relays, or relays first
where the record prefers them. `PendingConnectionPlans` keeps what is left of a plan while an attempt of
it is under way.
-/

import P2pNet.Lib.Text
import P2pNet.Connectivity.PeerBook

set_option linter.unusedSectionVars false

namespace P2pNet.Connectivity

open Lib PeerIdentity

variable {PeerId Addr : Type} [PeerIdentity PeerId] [DecidableEq Addr] [Multiaddr PeerId Addr]

/-! ### Transports -/

structure TransportCapabilities where
  tcp : Bool
  quic : Bool
  webrtcDirect : Bool
  secureWebsocket : Bool
  webtransport : Bool
  circuitRelay : Bool
  browserWebrtc : Bool
  relayAssistedUpgrade : Bool
  deriving DecidableEq, Repr

namespace TransportCapabilities

def native : TransportCapabilities where
  tcp := true
  quic := true
  webrtcDirect := true
  secureWebsocket := true
  webtransport := false
  circuitRelay := true
  browserWebrtc := false
  relayAssistedUpgrade := true

def browser : TransportCapabilities where
  tcp := false
  quic := false
  webrtcDirect := true
  secureWebsocket := true
  webtransport := true
  circuitRelay := true
  browserWebrtc := true
  relayAssistedUpgrade := true

/-- The default of the build target. -/
def ofTarget (wasm32 : Bool) : TransportCapabilities := if wasm32 then browser else native

def allows (capabilities : TransportCapabilities) (addr : Addr) : Bool :=
  let raw := Multiaddr.toText addr
  let transport := Text.before raw "/p2p-circuit"
  if Text.contains raw "/p2p-circuit" && !capabilities.circuitRelay then false
  else if Text.contains transport "/webrtc-direct" then capabilities.webrtcDirect
  else if Text.contains transport "/webtransport" then capabilities.webtransport
  else if Text.endsWith transport "/webrtc" || Text.contains transport "/webrtc/" then
    capabilities.browserWebrtc
  else if Text.contains transport "/wss" || Text.contains transport "/tls/ws" then
    capabilities.secureWebsocket
  else if Text.contains transport "/quic" then capabilities.quic
  else if Text.contains transport "/tcp/" then capabilities.tcp
  -- native nodes stay open to memory and custom transports
  else capabilities == native

end TransportCapabilities

/-! ### Attempts and plans -/

inductive ConnectionAttemptKind
  | directQuic
  | direct
  | relay
  deriving DecidableEq, Repr

def ConnectionAttemptKind.asStr : ConnectionAttemptKind → String
  | directQuic => "direct_quic"
  | direct => "direct"
  | relay => "relay"

structure ConnectionAttempt (Addr : Type) where
  addr : Addr
  kind : ConnectionAttemptKind
  deriving DecidableEq

structure ConnectionPlan (PeerId Addr : Type) where
  targetPeer : Option PeerId
  attempts : List (ConnectionAttempt Addr)
  relayPreferred : Bool
  attemptDcutrAfterRelay : Bool
  keepRelayFallback : Bool

/-- `{:?}` of an optional peer id. -/
def debugPeer : Option PeerId → String
  | some peer => "Some(PeerId(\"" ++ toText peer ++ "\"))"
  | none => "None"

namespace ConnectionPlan

def firstAttempt (plan : ConnectionPlan PeerId Addr) : Option (ConnectionAttempt Addr) := plan.attempts.head?

def describe (plan : ConnectionPlan PeerId Addr) : String :=
  let kinds := ",".intercalate (plan.attempts.map fun attempt => attempt.kind.asStr)
  let target := debugPeer plan.targetPeer
  s!"target_peer={target} attempts={plan.attempts.length} relay_preferred={plan.relayPreferred} dcutr_after_relay={plan.attemptDcutrAfterRelay} keep_relay_fallback={plan.keepRelayFallback} order=[{kinds}]"

end ConnectionPlan

/-! ### Building plans -/

/-- The switches of `DcutrPolicy` a plan copies. -/
structure DcutrPolicy where
  enabled : Bool
  attemptAfterRelayConnection : Bool
  keepRelayFallback : Bool

def isP2pCircuitAddr (addr : Addr) : Bool := (Multiaddr.iter addr).any (· == .p2pCircuit)

def classifyAddr (addr : Addr) : ConnectionAttemptKind :=
  if isP2pCircuitAddr addr then .relay
  else if (Multiaddr.iter addr).any fun protocol => protocol == .quic || protocol == .quicV1 then .directQuic
  else .direct

/-- The last peer id of the address. -/
def extractP2pPeerId (addr : Addr) : Option PeerId :=
  (Multiaddr.iter addr).foldl (fun peer protocol => match protocol with
    | .p2p id => some id
    | _ => peer) none

/-- The candidates so far and the texts seen. -/
abbrev Candidates (Addr : Type) := List Addr × Finset String

def pushCandidate (candidates : Candidates Addr) (addr : Addr) : Candidates Addr :=
  if Multiaddr.toText addr ∈ candidates.2 then candidates
  else (candidates.1 ++ [addr], insert (Multiaddr.toText addr) candidates.2)

/-- A stored text that does not parse is passed over. -/
def pushText (candidates : Candidates Addr) (text : String) : Candidates Addr :=
  match (Multiaddr.parse text : Except String Addr) with
  | .ok addr => pushCandidate candidates addr
  | .error _ => candidates

/-- The addresses of a record, in the order of their texts. -/
def pushRecord (candidates : Candidates Addr) (record : Option (PeerRecord PeerId)) : Candidates Addr :=
  match record with
  | none => candidates
  | some record => (record.addresses.sort (· ≤ ·)).foldl pushText candidates

def orderedAttempts (candidates : List Addr) (relayPreferred : Bool) : List (ConnectionAttempt Addr) :=
  let attempts := candidates.map fun addr => (⟨addr, classifyAddr addr⟩ : ConnectionAttempt Addr)
  let directQuic := attempts.filter (·.kind == .directQuic)
  let direct := attempts.filter (·.kind == .direct)
  let relay := attempts.filter (·.kind == .relay)
  if relayPreferred then relay ++ directQuic ++ direct else directQuic ++ direct ++ relay

/-- The plan for a list of candidates. -/
def planFor (targetPeer : Option PeerId) (record : Option (PeerRecord PeerId)) (candidates : List Addr)
    (dcutrPolicy : DcutrPolicy) (capabilities : TransportCapabilities) : ConnectionPlan PeerId Addr :=
  let relayPreferred := (record.map PeerRecord.relayPreferred).getD false
  { targetPeer
    attempts := orderedAttempts (candidates.filter capabilities.allows) relayPreferred
    relayPreferred
    attemptDcutrAfterRelay := dcutrPolicy.enabled && dcutrPolicy.attemptAfterRelayConnection
    keepRelayFallback := dcutrPolicy.keepRelayFallback }

def buildPeerBookConnectionPlanWithCapabilities (peer : PeerId) (peerBook : PeerBook PeerId)
    (dcutrPolicy : DcutrPolicy) (capabilities : TransportCapabilities) : ConnectionPlan PeerId Addr :=
  let record := peerBook.record peer
  planFor (some peer) record (pushRecord ([], ∅) record).1 dcutrPolicy capabilities

def buildConnectionPlanWithCapabilities (requested : Addr) (peerBook : PeerBook PeerId)
    (dcutrPolicy : DcutrPolicy) (capabilities : TransportCapabilities) : ConnectionPlan PeerId Addr :=
  let targetPeer := extractP2pPeerId requested
  let record := targetPeer.bind peerBook.record
  planFor targetPeer record (pushRecord (pushCandidate ([], ∅) requested) record).1 dcutrPolicy capabilities

/-! ### Where the attempts come from -/

structure PendingConnectionPlans (PeerId Addr : Type) where
  pending : Table PeerId (List (ConnectionAttempt Addr))

namespace PendingConnectionPlans

def empty : PendingConnectionPlans PeerId Addr := ⟨∅⟩

/-- What follows the first occurrence of the attempt. -/
def remainingAfter (attempted : ConnectionAttempt Addr) :
    List (ConnectionAttempt Addr) → List (ConnectionAttempt Addr)
  | [] => []
  | candidate :: rest => if candidate = attempted then rest else remainingAfter attempted rest

def trackRemaining (plans : PendingConnectionPlans PeerId Addr) (plan : ConnectionPlan PeerId Addr)
    (attempted : ConnectionAttempt Addr) : PendingConnectionPlans PeerId Addr :=
  match plan.targetPeer with
  | none => plans
  | some peer => ⟨plans.pending.insert peer (remainingAfter attempted plan.attempts)⟩

/-- `pop_front` on the queue of the peer, then an entry with nothing left in it is removed. -/
def nextAfterFailure (plans : PendingConnectionPlans PeerId Addr) (peer : PeerId) :
    Option (ConnectionAttempt Addr) × PendingConnectionPlans PeerId Addr :=
  let next := (plans.pending.lookup peer).bind List.head?
  let pending := match plans.pending.lookup peer with
    | some (_ :: rest) => plans.pending.insert peer rest
    | _ => plans.pending
  let empty := ((pending.lookup peer).map List.isEmpty).getD false
  (next, ⟨if empty then pending.erase peer else pending⟩)

def complete (plans : PendingConnectionPlans PeerId Addr) (peer : PeerId) : PendingConnectionPlans PeerId Addr :=
  ⟨plans.pending.erase peer⟩

def isPending (plans : PendingConnectionPlans PeerId Addr) (peer : PeerId) : Bool :=
  (plans.pending.lookup peer).isSome

def pendingCount (plans : PendingConnectionPlans PeerId Addr) : ℕ := plans.pending.entries.length

/-! ### The queue of one peer -/

/-- The queue of a peer, if it has one. -/
def queue (plans : PendingConnectionPlans PeerId Addr) (peer : PeerId) : Option (List (ConnectionAttempt Addr)) :=
  plans.pending.lookup peer

/-- A queue with nothing in it is not kept. -/
def kept (queue : List (ConnectionAttempt Addr)) : Option (List (ConnectionAttempt Addr)) :=
  if queue.isEmpty then none else some queue

theorem kept_getD (queue : List (ConnectionAttempt Addr)) : (kept queue).getD [] = queue := by
  unfold kept
  cases queue with
  | nil => rfl
  | cons attempt rest => rfl

theorem complete_queue (plans : PendingConnectionPlans PeerId Addr) (peer other : PeerId) :
    (plans.complete peer).queue other = if other = peer then none else plans.queue other :=
  Table.lookup_erase_eq _ _ _

theorem trackRemaining_queue (plans : PendingConnectionPlans PeerId Addr) {plan : ConnectionPlan PeerId Addr}
    {peer : PeerId} (target : plan.targetPeer = some peer) (attempted : ConnectionAttempt Addr)
    (other : PeerId) : (plans.trackRemaining plan attempted).queue other
      = if other = peer then some (remainingAfter attempted plan.attempts) else plans.queue other := by
  unfold trackRemaining
  rw [target]
  exact Table.lookup_insert_eq _ _ _ _

/-- **The next attempt is the head of the queue**, and the queue goes with its last element. -/
theorem nextAfterFailure_spec (plans : PendingConnectionPlans PeerId Addr) (peer : PeerId) :
    (plans.nextAfterFailure peer).1 = (plans.queue peer).bind List.head? ∧
      ∀ other, (plans.nextAfterFailure peer).2.queue other
        = if other = peer then (plans.queue peer).bind fun queue => kept queue.tail else plans.queue other := by
  refine ⟨rfl, ?_⟩
  intro other
  unfold nextAfterFailure queue kept
  cases found : plans.pending.lookup peer with
  | none =>
    by_cases same : other = peer
    · subst same
      simp [found]
    · simp [found, same]
  | some queue =>
    cases queue with
    | nil =>
      simp only [found, Option.map_some, List.isEmpty_nil, Option.getD_some, if_true, Table.lookup_erase_eq,
        Option.bind_some, List.tail_nil]
    | cons attempt rest =>
      cases rest with
      | nil =>
        by_cases same : other = peer
        · simp [Table.lookup_erase_eq, same]
        · simp [same]
      | cons next rest => simp [Table.lookup_insert_eq]

end PendingConnectionPlans

end P2pNet.Connectivity
