/-
**The books of automatic dialing** (`AutoDialStats` of `crates/node/dial.rs`, the retry policy of
`crates/connectivity/dht/state.rs`).

An automatic dial of a peer is gated by what happened to earlier ones: a peer that was attempted and not
reported yet is left alone, a peer without an address waits for one, and a peer that failed is tried again
after a cooldown and a few times in a window only. The sets of peers are bounded; the oldest member makes
room. A peer the user disconnected is suppressed, in a set of the same kind.

`autoDialPeerFromBook_case`: an automatic dial is skipped, waits for an address, or hands the attempts of
the peer's plan to the swarm; `autoDialPeerFromBook_targets`, `autoDialDhtProvider_targets`: it hands out
nothing else.
-/

import P2pNet.Node.Dial

set_option linter.unusedSectionVars false

namespace P2pNet.Node

open Lib PeerIdentity Connectivity

variable {PeerId Addr : Type} [PeerIdentity PeerId] [DecidableEq Addr] [Multiaddr PeerId Addr]

/-! ### Bounded sets of peers -/

namespace PeerQueue

def empty : PeerQueue PeerId := ⟨∅, []⟩

/-- A new member goes to the back; was it new? -/
def insert (queue : PeerQueue PeerId) (peer : PeerId) : Bool × PeerQueue PeerId :=
  if peer ∈ queue.peers then (false, queue) else (true, ⟨Insert.insert peer queue.peers, queue.order ++ [peer]⟩)

def pruneLoop (maxEntries : ℕ) (peers : Finset PeerId) : List PeerId → PeerQueue PeerId
  | [] => ⟨peers, []⟩
  | evicted :: order =>
    if peers.card > maxEntries then pruneLoop maxEntries (peers.erase evicted) order
    else ⟨peers, evicted :: order⟩

/-- `prune_peer_set`: the oldest member goes while there are too many. -/
def prune (queue : PeerQueue PeerId) (maxEntries : ℕ) : PeerQueue PeerId :=
  pruneLoop maxEntries queue.peers queue.order

end PeerQueue

/-! ### Counters and suppressed peers -/

def maxAutoDialAwaitingPeers : ℕ := 2048

/-- All of `AutoDialStats`. -/
structure AutoDialRecords (PeerId : Type) extends AutoDialStats PeerId where
  dialAttempts : ℕ
  suppressed : PeerQueue PeerId

namespace AutoDialRecords

variable (stats : AutoDialRecords PeerId)

def empty : AutoDialRecords PeerId := ⟨⟨0, .empty⟩, 0, .empty⟩

def removeAwaiting (peer : PeerId) : AutoDialRecords PeerId :=
  { stats with awaitingAddress := (stats.awaitingAddress.remove peer).2 }

def markAwaitingAddress (peer : PeerId) : AutoDialRecords PeerId :=
  { stats with awaitingAddress := (stats.awaitingAddress.insert peer).2.prune maxAutoDialAwaitingPeers }

def recordOutcome (peer : PeerId) : AutoDialOutcome → AutoDialRecords PeerId
  | .dialStarted _ => { stats with dialAttempts := saturatingAdd stats.dialAttempts 1 }.removeAwaiting peer
  | .dialFailed _ =>
    { stats with
      dialAttempts := saturatingAdd stats.dialAttempts 1
      dialFailures := saturatingAdd stats.dialFailures 1 }.removeAwaiting peer
  | .awaitingAddress => stats.markAwaitingAddress peer
  | .addressResolutionStarted _ =>
    { stats with dialAttempts := saturatingAdd stats.dialAttempts 1 }.markAwaitingAddress peer
  | .alreadyConnected => stats.removeAwaiting peer
  | _ => stats

def suppressPeer (peer : PeerId) : AutoDialRecords PeerId :=
  { stats with suppressed := (stats.suppressed.insert peer).2.prune maxAutoDialAwaitingPeers }

def allowPeer (peer : PeerId) : AutoDialRecords PeerId :=
  { stats with suppressed := (stats.suppressed.remove peer).2 }

def isSuppressed (peer : PeerId) : Bool := peer ∈ stats.suppressed.peers

/-- No outcome suppresses or allows anybody. -/
theorem recordOutcome_suppressed (peer : PeerId) (outcome : AutoDialOutcome) :
    (stats.recordOutcome peer outcome).suppressed = stats.suppressed := by
  cases outcome <;> rfl

end AutoDialRecords

namespace AutoDialOutcome

def shouldPulse : AutoDialOutcome → Bool
  | awaitingAddress | addressResolutionStarted _ | dialStarted _ | dialFailed _ => true
  | _ => false

def describe (outcome : AutoDialOutcome) (peer : PeerId) : String :=
  match outcome with
  | disabled => s!"auto-connect disabled peer={toText peer}"
  | localPeer => s!"auto-connect skipped local peer={toText peer}"
  | alreadyConnected => s!"auto-connect skipped connected peer={toText peer}"
  | alreadyPending => s!"auto-connect skipped pending peer={toText peer}"
  | awaitingAddress =>
    s!"auto-connect awaiting dialable address peer={toText peer}; peer is known/discovered but not yet dialable"
  | addressResolutionStarted plan => s!"auto-connect address resolution started peer={toText peer} {plan}"
  | dialStarted plan => s!"auto-connect dial started peer={toText peer} {plan}"
  | dialFailed reason => s!"auto-connect dial failed peer={toText peer} reason={reason}"

end AutoDialOutcome

/-! ### The retry policy -/

def maxTrackedProviderPeers : ℕ := 2048
def autoConnectRetryCooldownSecs : ℕ := 5
def autoConnectRetryWindowSecs : ℕ := 300
def maxAutoConnectAttemptsPerWindow : UInt32 := 8

structure AutoConnectRetryState where
  attempts : UInt32
  windowStartedUnixSecs : ℕ
  lastAttemptUnixSecs : ℕ
  deriving DecidableEq

/-- `Default`. -/
def AutoConnectRetryState.zero : AutoConnectRetryState := ⟨0, 0, 0⟩

/-- One more attempt, in a new window when the old one is over. -/
def AutoConnectRetryState.attempt (retry : AutoConnectRetryState) (nowUnixSecs : ℕ) : AutoConnectRetryState :=
  let retry :=
    if retry.windowStartedUnixSecs = 0
        ∨ nowUnixSecs - retry.windowStartedUnixSecs ≥ autoConnectRetryWindowSecs then
      { retry with attempts := 0, windowStartedUnixSecs := nowUnixSecs }
    else retry
  { retry with
    attempts := UInt32.ofNat (min (retry.attempts.toNat + 1) (2 ^ 32 - 1))
    lastAttemptUnixSecs := nowUnixSecs }

def DhtAutoConnect.markAutoConnectDisconnected (state : DhtAutoConnect PeerId) (peer : PeerId) :
    DhtAutoConnect PeerId :=
  ⟨(state.waitingForAddrs.remove peer).2, (state.attemptedPeers.remove peer).2⟩

/-- The part of `DhtProviderState` that decides about automatic connections. -/
structure DhtProviderState (PeerId : Type) [PeerIdentity PeerId] extends DhtAutoConnect PeerId where
  autoConnectRetry : Table PeerId AutoConnectRetryState
  autoConnectRetryOrder : List PeerId

namespace DhtProviderState

def empty : DhtProviderState PeerId := ⟨⟨.empty, .empty⟩, ∅, []⟩

def pruneRetry (maxEntries : ℕ) (retry : Table PeerId AutoConnectRetryState) :
    List PeerId → Table PeerId AutoConnectRetryState × List PeerId
  | [] => (retry, [])
  | evicted :: order =>
    if retry.entries.length > maxEntries then pruneRetry maxEntries (retry.erase evicted) order
    else (retry, evicted :: order)

variable (state : DhtProviderState PeerId)

def markAutoConnectAttempted (peer : PeerId) (nowUnixSecs : ℕ) : DhtProviderState PeerId :=
  let waitingForAddrs := (state.waitingForAddrs.remove peer).2
  let (inserted, attemptedPeers) := state.attemptedPeers.insert peer
  if inserted then
    let (retry, known) := state.autoConnectRetry.entryOr peer .zero
    let order :=
      if (state.autoConnectRetry.lookup peer).isNone then state.autoConnectRetryOrder ++ [peer]
      else state.autoConnectRetryOrder
    let (autoConnectRetry, autoConnectRetryOrder) :=
      pruneRetry maxTrackedProviderPeers (known.insert peer (retry.attempt nowUnixSecs)) order
    { waitingForAddrs
      attemptedPeers := attemptedPeers.prune maxTrackedProviderPeers
      autoConnectRetry
      autoConnectRetryOrder }
  else { state with waitingForAddrs }

def markAutoConnectWaitingForAddrs (peer : PeerId) : DhtProviderState PeerId :=
  if peer ∈ state.attemptedPeers.peers then state
  else
    let (inserted, waitingForAddrs) := state.waitingForAddrs.insert peer
    if inserted then { state with waitingForAddrs := waitingForAddrs.prune maxTrackedProviderPeers } else state

/-- `mark_auto_connect_failed` without its answer. -/
def markAutoConnectFailed (peer : PeerId) : DhtProviderState PeerId :=
  { state with toDhtAutoConnect := (state.toDhtAutoConnect.markAutoConnectFailed peer).2 }

/-- The retry history stays. -/
def markAutoConnectDisconnected (peer : PeerId) : DhtProviderState PeerId :=
  { state with toDhtAutoConnect := state.toDhtAutoConnect.markAutoConnectDisconnected peer }

/-- May the peer be dialed now? A window that is over is started anew. -/
def autoConnectRetryAllowed (peer : PeerId) (nowUnixSecs : ℕ) : Bool × DhtProviderState PeerId :=
  if peer ∈ state.attemptedPeers.peers then (false, state)
  else match state.autoConnectRetry.lookup peer with
    | none => (true, state)
    | some retry =>
      if nowUnixSecs - retry.windowStartedUnixSecs ≥ autoConnectRetryWindowSecs then
        (true, { state with
          autoConnectRetry :=
            state.autoConnectRetry.insert peer { AutoConnectRetryState.zero with windowStartedUnixSecs := nowUnixSecs } })
      else
        (retry.attempts < maxAutoConnectAttemptsPerWindow
          && decide (nowUnixSecs - retry.lastAttemptUnixSecs ≥ autoConnectRetryCooldownSecs), state)

def shouldAutoConnectProviderResult (peer : PeerId) (nowUnixSecs : ℕ) : Bool × DhtProviderState PeerId :=
  if peer ∈ state.waitingForAddrs.peers then (false, state) else state.autoConnectRetryAllowed peer nowUnixSecs

def shouldAutoConnectAfterAddrUpdate (peer : PeerId) (nowUnixSecs : ℕ) : Bool × DhtProviderState PeerId :=
  state.autoConnectRetryAllowed peer nowUnixSecs

/-- What both users of an automatic dial do with its outcome. -/
def noteOutcome (peer : PeerId) (nowUnixSecs : ℕ) : AutoDialOutcome → DhtProviderState PeerId
  | .dialStarted _ | .addressResolutionStarted _ => state.markAutoConnectAttempted peer nowUnixSecs
  | .dialFailed _ => (state.markAutoConnectAttempted peer nowUnixSecs).markAutoConnectFailed peer
  | .awaitingAddress => state.markAutoConnectWaitingForAddrs peer
  | _ => state

end DhtProviderState

/-! ### Turns -/

/-- What the automatic paths change. -/
structure Upkeep (PeerId Addr : Type) [PeerIdentity PeerId] where
  pendingConnections : PendingConnectionPlans PeerId Addr
  dhtState : DhtProviderState PeerId
  autoDialStats : AutoDialRecords PeerId

/-- What one turn hands out: the targets of `swarm.dial`, each with the peer it is for, and lines for the
log. -/
structure Turn (PeerId Addr : Type) where
  dialed : List (PeerId × DialTarget PeerId Addr)
  pulses : List String

def Turn.none : Turn PeerId Addr := ⟨[], []⟩

/-- Turns one after another. -/
def Turn.join (turns : List (Turn PeerId Addr)) : Turn PeerId Addr where
  dialed := turns.flatMap Turn.dialed
  pulses := turns.flatMap Turn.pulses

theorem Turn.join_cons (turn : Turn PeerId Addr) (later : List (Turn PeerId Addr)) :
    (Turn.join (turn :: later)).dialed = turn.dialed ++ (Turn.join later).dialed := List.flatMap_cons

/-- The turn of a peer, after the name of its path. -/
def AutoDial.turn (auto : AutoDial PeerId Addr) (path : String) (peer : PeerId) : Turn PeerId Addr where
  dialed := auto.dialed.map fun target => (peer, target)
  pulses := if auto.outcome.shouldPulse then [s!"{path} {auto.outcome.describe peer}"] else []

/-- The plans and the counters after an automatic dial. -/
def Upkeep.record (s : Upkeep PeerId Addr) (peer : PeerId) (auto : AutoDial PeerId Addr) : Upkeep PeerId Addr :=
  { s with
    pendingConnections := auto.plans
    autoDialStats := s.autoDialStats.recordOutcome peer auto.outcome }

/-! ### When an automatic dial reaches the swarm -/

/-- Nothing keeps an automatic dial from building a plan for the peer. -/
def MayDial (view : DialView PeerId) (plans : PendingConnectionPlans PeerId Addr) (peer : PeerId) : Prop :=
  view.enabled = true ∧ peer ≠ view.localPeer ∧ peer ∉ view.connectedPeers ∧ plans.isPending peer = false

instance (view : DialView PeerId) (plans : PendingConnectionPlans PeerId Addr) (peer : PeerId) :
    Decidable (MayDial view plans peer) := by
  unfold MayDial
  infer_instance

/-- The plan of an automatic dial. -/
def bookPlan (Addr : Type) [DecidableEq Addr] [Multiaddr PeerId Addr] (view : DialView PeerId) (peer : PeerId) :
    ConnectionPlan PeerId Addr :=
  buildPeerBookConnectionPlanWithCapabilities peer view.peerBook view.dcutrPolicy (.ofTarget view.wasm32)

/-- The answers of an automatic dial that builds no plan. -/
def AutoDialOutcome.skipped : AutoDialOutcome → Bool
  | disabled | localPeer | alreadyConnected | alreadyPending => true
  | _ => false

theorem DhtProviderState.noteOutcome_skipped (state : DhtProviderState PeerId) (peer : PeerId)
    (nowUnixSecs : ℕ) {outcome : AutoDialOutcome} (skipped : outcome.skipped = true) :
    state.noteOutcome peer nowUnixSecs outcome = state := by
  cases outcome <;> first | rfl | cases skipped

theorem dialConnectionPlan_dialed_ne_nil (plans : PendingConnectionPlans PeerId Addr)
    {plan : ConnectionPlan PeerId Addr} (attempts : plan.attempts ≠ []) (answer : DialAnswers) :
    (dialConnectionPlan plans plan answer).dialed ≠ [] := by
  have spec := dialConnectionPlan_spec plans plan answer
  cases found : firstAccepted answer plan.attempts.length with
  | some index =>
    simp only [found] at spec
    obtain ⟨_, _, dialed, _⟩ := spec
    rw [dialed, Ne, List.take_eq_nil_iff, not_or]
    exact ⟨Nat.succ_ne_zero index, attempts⟩
  | none =>
    simp only [found] at spec
    rw [spec.1]
    exact attempts

/-- **An automatic dial in cases**: it is skipped, there is no address, or the attempts of the plan go to the
swarm. -/
theorem autoDialPeerFromBook_case (view : DialView PeerId) (plans : PendingConnectionPlans PeerId Addr)
    (peer : PeerId) (answer : DialAnswers) :
    (¬ MayDial view plans peer ∧ ∃ outcome, outcome.skipped = true ∧
      autoDialPeerFromBook view plans peer answer = ⟨outcome, plans, []⟩) ∨
    (MayDial view plans peer ∧ (bookPlan Addr view peer).attempts = [] ∧
      autoDialPeerFromBook view plans peer answer = ⟨.awaitingAddress, plans, []⟩) ∨
    (MayDial view plans peer ∧ (bookPlan Addr view peer).attempts ≠ [] ∧
      (autoDialPeerFromBook view plans peer answer).plans
        = (dialConnectionPlan plans (bookPlan Addr view peer) answer).plans ∧
      (autoDialPeerFromBook view plans peer answer).dialed
        = (dialConnectionPlan plans (bookPlan Addr view peer) answer).dialed.map fun attempt =>
          .address attempt.addr) := by
  unfold autoDialPeerFromBook MayDial
  dsimp only
  split_ifs with disabled own connected pending empty
  · refine .inl ⟨fun may => ?_, _, rfl, rfl⟩
    rw [may.1] at disabled
    cases disabled
  · exact .inl ⟨fun may => may.2.1 own, _, rfl, rfl⟩
  · exact .inl ⟨fun may => may.2.2.1 connected, _, rfl, rfl⟩
  · refine .inl ⟨fun may => ?_, _, rfl, rfl⟩
    rw [may.2.2.2] at pending
    cases pending
  · rw [Bool.not_eq_true, Bool.not_eq_false'] at disabled
    exact .inr (.inl ⟨⟨disabled, own, connected, Bool.eq_false_iff.mpr pending⟩, List.isEmpty_iff.mp empty, rfl⟩)
  · rw [Bool.not_eq_true, Bool.not_eq_false'] at disabled
    exact .inr (.inr ⟨⟨disabled, own, connected, Bool.eq_false_iff.mpr pending⟩,
      fun none => empty (List.isEmpty_iff.mpr none), rfl, rfl⟩)

/-- The target is an address of the peer's plan. -/
def PlanTarget (view : DialView PeerId) (peer : PeerId) (target : DialTarget PeerId Addr) : Prop :=
  ∃ attempt ∈ (bookPlan Addr view peer).attempts, target = .address attempt.addr

/-- What an automatic dial of the peer may hand to the swarm: an address of its plan, or its id. -/
def Targets (view : DialView PeerId) (peer : PeerId) (target : DialTarget PeerId Addr) : Prop :=
  target = .peer peer ∨ PlanTarget view peer target

theorem dialConnectionPlan_dialed_subset (plans : PendingConnectionPlans PeerId Addr)
    (plan : ConnectionPlan PeerId Addr) (answer : DialAnswers) :
    (dialConnectionPlan plans plan answer).dialed ⊆ plan.attempts := by
  have spec := dialConnectionPlan_spec plans plan answer
  cases found : firstAccepted answer plan.attempts.length with
  | some index =>
    simp only [found] at spec
    obtain ⟨_, _, dialed, _⟩ := spec
    rw [dialed]
    exact List.take_subset _ _
  | none =>
    simp only [found] at spec
    rw [spec.1]
    exact List.Subset.refl _

/-- **An automatic dial stays with its peer**, and it dials only where nothing keeps it from doing so. -/
theorem autoDialPeerFromBook_targets (view : DialView PeerId) (plans : PendingConnectionPlans PeerId Addr)
    (peer : PeerId) (answer : DialAnswers) {target : DialTarget PeerId Addr}
    (dialed : target ∈ (autoDialPeerFromBook view plans peer answer).dialed) :
    MayDial view plans peer ∧ PlanTarget view peer target := by
  rcases autoDialPeerFromBook_case view plans peer answer with
    ⟨_, _, _, auto⟩ | ⟨_, _, auto⟩ | ⟨may, _, _, handed⟩
  · rw [auto] at dialed
    cases dialed
  · rw [auto] at dialed
    cases dialed
  · rw [handed] at dialed
    obtain ⟨attempt, member, rfl⟩ := List.mem_map.mp dialed
    exact ⟨may, attempt, dialConnectionPlan_dialed_subset plans _ answer member, rfl⟩

theorem dialConnectionPlan_pending (plans : PendingConnectionPlans PeerId Addr)
    (plan : ConnectionPlan PeerId Addr) (answer : DialAnswers) {peer : PeerId}
    (pending : plans.isPending peer = true) :
    (dialConnectionPlan plans plan answer).plans.isPending peer = true := by
  have spec := dialConnectionPlan_spec plans plan answer
  cases found : firstAccepted answer plan.attempts.length with
  | some index =>
    simp only [found] at spec
    obtain ⟨attempt, _, _, tracked⟩ := spec
    rw [tracked]
    cases target : plan.targetPeer with
    | none =>
      unfold PendingConnectionPlans.trackRemaining
      rw [target]
      exact pending
    | some owner =>
      show ((plans.trackRemaining plan attempt).queue peer).isSome = true
      rw [PendingConnectionPlans.trackRemaining_queue _ target]
      split_ifs
      · rfl
      · exact pending
  | none =>
    simp only [found] at spec
    rw [spec.2]
    exact pending

/-- No automatic dial ends a plan. -/
theorem autoDialPeerFromBook_pending (view : DialView PeerId) (plans : PendingConnectionPlans PeerId Addr)
    (peer : PeerId) (answer : DialAnswers) {other : PeerId} (pending : plans.isPending other = true) :
    (autoDialPeerFromBook view plans peer answer).plans.isPending other = true := by
  rcases autoDialPeerFromBook_case view plans peer answer with
    ⟨_, _, _, auto⟩ | ⟨_, _, auto⟩ | ⟨_, _, tracked, _⟩
  · rw [auto]
    exact pending
  · rw [auto]
    exact pending
  · rw [tracked]
    exact dialConnectionPlan_pending plans _ answer pending

theorem autoDialDhtProvider_plans (view : DialView PeerId) (plans : PendingConnectionPlans PeerId Addr)
    (peer : PeerId) (answer : DialAnswers) : (autoDialDhtProvider view plans peer answer).plans
      = (autoDialPeerFromBook view plans peer answer).plans := by
  unfold autoDialDhtProvider
  dsimp only
  split_ifs
  · rfl
  · rfl
  · rfl

theorem autoDialDhtProvider_targets (view : DialView PeerId) (plans : PendingConnectionPlans PeerId Addr)
    (peer : PeerId) (answer : DialAnswers) {target : DialTarget PeerId Addr}
    (dialed : target ∈ (autoDialDhtProvider view plans peer answer).dialed) : Targets view peer target := by
  unfold autoDialDhtProvider at dialed
  dsimp only at dialed
  split_ifs at dialed
  · exact .inr (autoDialPeerFromBook_targets view plans peer answer dialed).2
  · exact .inr (autoDialPeerFromBook_targets view plans peer answer dialed).2
  · rcases List.mem_append.mp dialed with fromBook | byId
    · exact .inr (autoDialPeerFromBook_targets view plans peer answer fromBook).2
    · exact .inl (List.mem_singleton.mp byId)

end P2pNet.Node
