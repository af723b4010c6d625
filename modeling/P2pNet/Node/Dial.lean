/-
**Dialing** (`crates/node/dial.rs` and `handle_outgoing_connection_error` of
`crates/node/events/connection/errors.rs`).

`swarm.dial` answers at once, with an error or with an acceptance whose outcome is reported later. The
answers are inputs here: `answer n` is the answer to the `n`-th call of `swarm.dial` in one call of a
handler, `none` for an acceptance and the text of the error otherwise; the addresses dialed are part of
every result, in order.

A plan is walked by two loops: `dialConnectionPlan` over the attempts of the plan, and the loop of
`handleOutgoingConnectionError` over what is left of it. Both stop at the first attempt that is accepted:
`dialConnectionPlan_spec` and `fallbackLoop_spec` say where they stop (`firstAccepted`), what they have
dialed by then and which queue they leave.
-/

import P2pNet.Connectivity.ConnectionStrategy

set_option linter.unusedSectionVars false

namespace P2pNet.Node

open Lib PeerIdentity Connectivity

variable {PeerId Addr : Type} [PeerIdentity PeerId] [DecidableEq Addr] [Multiaddr PeerId Addr]

/-! ### Books kept about automatic dials -/

/-- A set of peers with the order in which they came. -/
structure PeerQueue (PeerId : Type) where
  peers : Finset PeerId
  order : List PeerId

/-- `remove_peer_from_bounded_set`: was the peer there? -/
def PeerQueue.remove (queue : PeerQueue PeerId) (peer : PeerId) : Bool × PeerQueue PeerId :=
  if peer ∈ queue.peers then (true, ⟨queue.peers.erase peer, queue.order.filter (· ≠ peer)⟩)
  else (false, queue)

/-- The part of `DhtProviderState` about automatic connections. -/
structure DhtAutoConnect (PeerId : Type) where
  waitingForAddrs : PeerQueue PeerId
  attemptedPeers : PeerQueue PeerId

def DhtAutoConnect.markAutoConnectFailed (state : DhtAutoConnect PeerId) (peer : PeerId) :
    Bool × DhtAutoConnect PeerId :=
  let (removed, attemptedPeers) := state.attemptedPeers.remove peer
  (removed, ⟨(state.waitingForAddrs.remove peer).2, attemptedPeers⟩)

/-- The part of `AutoDialStats` a failure changes. -/
structure AutoDialStats (PeerId : Type) where
  dialFailures : ℕ
  awaitingAddress : PeerQueue PeerId

def AutoDialStats.recordAsyncFailure (stats : AutoDialStats PeerId) (peer : PeerId) : AutoDialStats PeerId :=
  ⟨saturatingAdd stats.dialFailures 1, (stats.awaitingAddress.remove peer).2⟩

/-! ### Dialing a plan -/

/-- The answers of `swarm.dial` to the calls of one handler. -/
abbrev DialAnswers := ℕ → Option String

/-- The answers after the first one. -/
def DialAnswers.rest (answer : DialAnswers) : DialAnswers := fun call => answer (call + 1)

structure PlanDial (PeerId Addr : Type) where
  result : Except NetError Unit
  plans : PendingConnectionPlans PeerId Addr
  dialed : List (ConnectionAttempt Addr)

/-- The error text of `dial_connection_attempt`. -/
def immediateError (attempt : ConnectionAttempt Addr) (error : String) : String :=
  s!"{attempt.kind.asStr} {Multiaddr.toText attempt.addr} failed immediately: {error}"

def dialLoop (plans : PendingConnectionPlans PeerId Addr) (plan : ConnectionPlan PeerId Addr) :
    List (ConnectionAttempt Addr) → DialAnswers → List String → PlanDial PeerId Addr
  | [], _, errors =>
    { result := .error (.dial ((plan.targetPeer.map toText).getD "<unknown>")
        (if errors.isEmpty then s!"connection plan had no dial attempts: {plan.describe}"
          else "; ".intercalate errors))
      plans
      dialed := [] }
  | attempt :: attempts, answer, errors =>
    match answer 0 with
    | none => { result := .ok (), plans := plans.trackRemaining plan attempt, dialed := [attempt] }
    | some error =>
      let later := dialLoop plans plan attempts answer.rest (errors ++ [immediateError attempt error])
      { later with dialed := attempt :: later.dialed }

def dialConnectionPlan (plans : PendingConnectionPlans PeerId Addr) (plan : ConnectionPlan PeerId Addr)
    (answer : DialAnswers) : PlanDial PeerId Addr :=
  dialLoop plans plan plan.attempts answer []

/-! ### Automatic dials -/

inductive AutoDialOutcome
  | disabled
  | localPeer
  | alreadyConnected
  | alreadyPending
  | awaitingAddress
  | addressResolutionStarted (plan : String)
  | dialStarted (plan : String)
  | dialFailed (reason : String)
  deriving DecidableEq, Repr

/-- What is handed to `swarm.dial`: an address, or a peer whose addresses a behaviour knows. -/
inductive DialTarget (PeerId Addr : Type)
  | address (addr : Addr)
  | peer (peer : PeerId)

structure AutoDial (PeerId Addr : Type) where
  outcome : AutoDialOutcome
  plans : PendingConnectionPlans PeerId Addr
  dialed : List (DialTarget PeerId Addr)

/-- `NetError` as text, at the one error a dial has. -/
def dialErrorText : NetError → String
  | .dial target reason => s!"dial failed for {target}: {reason}"
  | .gossipCodec reason => s!"gossip message encode/decode failed: {reason}"
  | .config path reason => s!"config failed for {path}: {reason}"
  | .appTopic topic reason => s!"app topic `{topic}` is invalid: {reason}"
  | .appMessage topic reason => s!"app message for topic `{topic}` failed: {reason}"

/-- What an automatic dial looks at: the local peer, the switch, the peers the swarm is connected to, the
peer book, the DCUtR policy and the build target. -/
structure DialView (PeerId : Type) [PeerIdentity PeerId] where
  localPeer : PeerId
  enabled : Bool
  connectedPeers : Finset PeerId
  peerBook : PeerBook PeerId
  dcutrPolicy : DcutrPolicy
  wasm32 : Bool

def autoDialPeerFromBook (view : DialView PeerId) (plans : PendingConnectionPlans PeerId Addr) (peer : PeerId)
    (answer : DialAnswers) : AutoDial PeerId Addr :=
  if !view.enabled then ⟨.disabled, plans, []⟩
  else if peer = view.localPeer then ⟨.localPeer, plans, []⟩
  else if peer ∈ view.connectedPeers then ⟨.alreadyConnected, plans, []⟩
  else if plans.isPending peer then ⟨.alreadyPending, plans, []⟩
  else
    let plan : ConnectionPlan PeerId Addr := buildPeerBookConnectionPlanWithCapabilities peer view.peerBook
      view.dcutrPolicy (.ofTarget view.wasm32)
    if plan.attempts.isEmpty then ⟨.awaitingAddress, plans, []⟩
    else
      let dial := dialConnectionPlan plans plan answer
      let outcome := match dial.result with
        | .ok () => .dialStarted plan.describe
        | .error error => .dialFailed (dialErrorText error)
      ⟨outcome, dial.plans, dial.dialed.map fun attempt => .address attempt.addr⟩

def autoDialDhtProvider (view : DialView PeerId) (plans : PendingConnectionPlans PeerId Addr) (peer : PeerId)
    (answer : DialAnswers) : AutoDial PeerId Addr :=
  let fromBook := autoDialPeerFromBook view plans peer answer
  if fromBook.outcome ≠ .awaitingAddress then fromBook
  else if TransportCapabilities.ofTarget view.wasm32 = .browser then ⟨.awaitingAddress, fromBook.plans, fromBook.dialed⟩
  else
    let outcome := match answer 0 with
      | none => .addressResolutionStarted "source=kademlia address_resolution=behaviour"
      | some _ => .awaitingAddress
    ⟨outcome, fromBook.plans, fromBook.dialed ++ [.peer peer]⟩

/-! ### Failed dials -/

/-- The part of the event context that a failed dial changes. `cacheFailures` are the calls of
`peer_cache_writes.record_failure`. -/
structure DialContext (PeerId Addr : Type) [PeerIdentity PeerId] where
  pendingConnections : PendingConnectionPlans PeerId Addr
  peerBook : PeerBook PeerId
  cacheFailures : List PeerId
  dhtState : DhtAutoConnect PeerId
  autoDialStats : AutoDialStats PeerId
  lastApplicationDialError : Option String
  connectionLimitEvents : ℕ
  pulses : List String

/-- The newest line first, 24 lines at most. -/
def pushPulse (pulses : List String) (line : String) : List String := (line :: pulses).take 24

def shouldTrackPeerInPeerBook (peerBook : PeerBook PeerId) (peer : PeerId) : Bool :=
  match peerBook.record peer with
  | none => false
  | some record =>
    record.sources ∩ {.manual, .peerCache, .rendezvous, .publicRendezvous, .dhtProvider, .lanDiscovery} ≠ ∅
      ∨ record.namespaces.Nonempty

structure Fallback (PeerId Addr : Type) where
  started : Bool
  plans : PendingConnectionPlans PeerId Addr
  dialed : List (ConnectionAttempt Addr)
  pulses : List String

def fallbackPulse (peer : PeerId) (attempt : ConnectionAttempt Addr) : Option String → String
  | none => s!"connection planner fallback dial peer={toText peer} kind={attempt.kind.asStr} addr={Multiaddr.toText attempt.addr}"
  | some error => s!"connection planner fallback failed immediately peer={toText peer} kind={attempt.kind.asStr} addr={Multiaddr.toText attempt.addr} error={error}"

/-- The loop over `next_after_failure`; every round but the last takes one attempt from the queue. -/
def fallbackLoop (peer : PeerId) : ℕ → DialAnswers → PendingConnectionPlans PeerId Addr → Fallback PeerId Addr
  | 0, _, plans => ⟨false, plans, [], []⟩
  | rounds + 1, answer, plans =>
    match plans.nextAfterFailure peer with
    | (none, plans) => ⟨false, plans, [], []⟩
    | (some attempt, plans) =>
      match answer 0 with
      | none => ⟨true, plans, [attempt], [fallbackPulse peer attempt none]⟩
      | some error =>
        let later := fallbackLoop peer rounds answer.rest plans
        { later with
          dialed := attempt :: later.dialed
          pulses := fallbackPulse peer attempt (some error) :: later.pulses }

/-- The attempts left for a peer. -/
def remaining (plans : PendingConnectionPlans PeerId Addr) (peer : PeerId) : List (ConnectionAttempt Addr) :=
  (plans.queue peer).getD []

def fallback (plans : PendingConnectionPlans PeerId Addr) (peer : PeerId) (answer : DialAnswers) :
    Fallback PeerId Addr :=
  fallbackLoop peer ((remaining plans peer).length + 1) answer plans

/-- The handler at a peer: bookkeeping of the failure, then the next attempts of its plan. -/
def failedPeer (ctx : DialContext PeerId Addr) (peer : PeerId) (errorDebug : String) (answer : DialAnswers)
    (nowUnixSecs : ℕ) : DialContext PeerId Addr × List String × List (ConnectionAttempt Addr) :=
  let tracked := shouldTrackPeerInPeerBook ctx.peerBook peer
  let known := (ctx.peerBook.record peer).isSome
  let tried := fallback ctx.pendingConnections peer answer
  let (retry, dhtState) := ctx.dhtState.markAutoConnectFailed peer
  let ctx := { ctx with
    pendingConnections := tried.plans
    lastApplicationDialError :=
      if tracked then some s!"peer={toText peer} error={errorDebug}" else ctx.lastApplicationDialError
    cacheFailures := if known then ctx.cacheFailures ++ [peer] else ctx.cacheFailures
    peerBook := if known then ctx.peerBook.recordFailure peer nowUnixSecs else ctx.peerBook }
  if tried.started then (ctx, tried.pulses, tried.dialed)
  else if retry then
    ({ ctx with dhtState, autoDialStats := ctx.autoDialStats.recordAsyncFailure peer },
      tried.pulses ++
        [s!"dht provider auto-connect retry scheduled peer={toText peer} on next provider result"],
      tried.dialed)
  else ({ ctx with dhtState }, tried.pulses, tried.dialed)

/-- The new context and the attempts dialed. -/
def handleOutgoingConnectionError (ctx : DialContext PeerId Addr) (peer : Option PeerId) (errorDebug : String)
    (answer : DialAnswers) (nowUnixSecs : ℕ) : DialContext PeerId Addr × List (ConnectionAttempt Addr) :=
  let (ctx, plannerPulses, dialed) := match peer with
    | some peer => failedPeer ctx peer errorDebug answer nowUnixSecs
    | none => (ctx, [], [])
  let line := s!"outgoing connection error peer={debugPeer peer} error={errorDebug}"
  ({ ctx with
    connectionLimitEvents := saturatingAdd ctx.connectionLimitEvents 1
    pulses := plannerPulses.foldl pushPulse (pushPulse ctx.pulses line) }, dialed)

/-! ### Where the loops stop -/

/-- The first of a number of calls that `swarm.dial` accepts. -/
def firstAccepted : DialAnswers → ℕ → Option ℕ
  | _, 0 => none
  | answer, calls + 1 =>
    match answer 0 with
    | none => some 0
    | some _ => (firstAccepted answer.rest calls).map (· + 1)

theorem firstAccepted_lt {answer : DialAnswers} {calls index : ℕ}
    (accepted : firstAccepted answer calls = some index) : index < calls := by
  induction calls generalizing answer index with
  | zero => cases accepted
  | succ calls ih =>
    unfold firstAccepted at accepted
    cases first : answer 0 with
    | none =>
      rw [first] at accepted
      cases accepted
      exact Nat.succ_pos _
    | some error =>
      rw [first] at accepted
      obtain ⟨earlier, found, rfl⟩ := Option.map_eq_some_iff.mp accepted
      exact Nat.succ_lt_succ (ih found)

/-- **Dialing a plan**: the attempts up to the first that is accepted, and the plan is tracked from it; or
all of them, and nothing is tracked. -/
theorem dialLoop_spec (plans : PendingConnectionPlans PeerId Addr) (plan : ConnectionPlan PeerId Addr)
    (attempts : List (ConnectionAttempt Addr)) (answer : DialAnswers) (errors : List String) :
    match firstAccepted answer attempts.length with
    | some index => ∃ attempt, attempts[index]? = some attempt ∧
        (dialLoop plans plan attempts answer errors).dialed = attempts.take (index + 1) ∧
        (dialLoop plans plan attempts answer errors).plans = plans.trackRemaining plan attempt
    | none => (dialLoop plans plan attempts answer errors).dialed = attempts ∧
        (dialLoop plans plan attempts answer errors).plans = plans := by
  induction attempts generalizing answer errors with
  | nil => exact ⟨rfl, rfl⟩
  | cons attempt rest ih =>
    rw [List.length_cons]
    unfold firstAccepted dialLoop
    cases answer 0 with
    | none => exact ⟨attempt, rfl, rfl, rfl⟩
    | some error =>
      have later := ih answer.rest (errors ++ [immediateError attempt error])
      cases found : firstAccepted answer.rest rest.length with
      | none =>
        simp only [found] at later
        exact ⟨congrArg (attempt :: ·) later.1, later.2⟩
      | some index =>
        simp only [found] at later
        obtain ⟨accepted, at_index, dialed, tracked⟩ := later
        exact ⟨accepted, at_index, congrArg (attempt :: ·) dialed, tracked⟩

theorem dialConnectionPlan_spec (plans : PendingConnectionPlans PeerId Addr) (plan : ConnectionPlan PeerId Addr)
    (answer : DialAnswers) :
    match firstAccepted answer plan.attempts.length with
    | some index => ∃ attempt, plan.attempts[index]? = some attempt ∧
        (dialConnectionPlan plans plan answer).dialed = plan.attempts.take (index + 1) ∧
        (dialConnectionPlan plans plan answer).plans = plans.trackRemaining plan attempt
    | none => (dialConnectionPlan plans plan answer).dialed = plan.attempts ∧
        (dialConnectionPlan plans plan answer).plans = plans :=
  dialLoop_spec plans plan plan.attempts answer []

/-- The next attempt is the first of the remaining ones. -/
theorem nextAfterFailure_remaining (plans : PendingConnectionPlans PeerId Addr) (peer : PeerId) :
    (plans.nextAfterFailure peer).1 = (remaining plans peer).head? ∧
      (plans.nextAfterFailure peer).2.queue peer = PendingConnectionPlans.kept (remaining plans peer).tail ∧
      ∀ other, other ≠ peer → (plans.nextAfterFailure peer).2.queue other = plans.queue other := by
  obtain ⟨next, queues⟩ := plans.nextAfterFailure_spec peer
  refine ⟨?_, ?_, fun other different => ?_⟩
  · rw [next, remaining]
    cases plans.queue peer with
    | none => rfl
    | some queue => rfl
  · rw [queues, if_pos rfl, remaining]
    cases plans.queue peer with
    | none => rfl
    | some queue => rfl
  · rw [queues, if_neg different]

theorem fallbackLoop_spec (peer : PeerId) {rounds : ℕ} {plans : PendingConnectionPlans PeerId Addr}
    (enough : (remaining plans peer).length < rounds) (answer : DialAnswers) :
    (∀ other, other ≠ peer → (fallbackLoop peer rounds answer plans).plans.queue other = plans.queue other) ∧
    match firstAccepted answer (remaining plans peer).length with
    | some index => (fallbackLoop peer rounds answer plans).dialed = (remaining plans peer).take (index + 1) ∧
        (fallbackLoop peer rounds answer plans).plans.queue peer
          = PendingConnectionPlans.kept ((remaining plans peer).drop (index + 1))
    | none => (fallbackLoop peer rounds answer plans).dialed = remaining plans peer ∧
        (fallbackLoop peer rounds answer plans).plans.queue peer = none := by
  induction rounds generalizing plans answer with
  | zero => exact absurd enough (Nat.not_lt_zero _)
  | succ rounds ih =>
    obtain ⟨next, left, others⟩ := nextAfterFailure_remaining plans peer
    generalize stepped : plans.nextAfterFailure peer = popped at next left others
    obtain ⟨attempt, popped⟩ := popped
    simp only at next left others
    unfold fallbackLoop
    rw [stepped, next]
    cases attempts : remaining plans peer with
    | nil =>
      rw [attempts] at left
      exact ⟨others, rfl, left⟩
    | cons head rest =>
      rw [attempts, List.tail_cons] at left
      rw [List.length_cons]
      unfold firstAccepted
      cases answer 0 with
      | none => exact ⟨others, rfl, left⟩
      | some error =>
        have rest_eq : remaining popped peer = rest := by
          rw [remaining, left, PendingConnectionPlans.kept_getD]
        have fewer : (remaining popped peer).length < rounds := by
          rw [attempts, List.length_cons] at enough
          rw [rest_eq]
          omega
        obtain ⟨same, later⟩ := ih fewer answer.rest
        rw [rest_eq] at later
        refine ⟨fun other different => (same other different).trans (others other different), ?_⟩
        cases accepted : firstAccepted answer.rest rest.length with
        | none =>
          simp only [accepted] at later
          exact ⟨congrArg (head :: ·) later.1, later.2⟩
        | some index =>
          simp only [accepted] at later
          exact ⟨congrArg (head :: ·) later.1, later.2⟩

/-- **Falling back**: the queued attempts up to the first that is accepted leave the queue; without one the
peer has no queue any more. -/
theorem fallback_spec (plans : PendingConnectionPlans PeerId Addr) (peer : PeerId) (answer : DialAnswers) :
    (∀ other, other ≠ peer → (fallback plans peer answer).plans.queue other = plans.queue other) ∧
    match firstAccepted answer (remaining plans peer).length with
    | some index => (fallback plans peer answer).dialed = (remaining plans peer).take (index + 1) ∧
        (fallback plans peer answer).plans.queue peer
          = PendingConnectionPlans.kept ((remaining plans peer).drop (index + 1))
    | none => (fallback plans peer answer).dialed = remaining plans peer ∧
        (fallback plans peer answer).plans.queue peer = none :=
  fallbackLoop_spec peer (Nat.lt_succ_self _) answer

theorem failedPeer_plans (ctx : DialContext PeerId Addr) (peer : PeerId) (errorDebug : String)
    (answer : DialAnswers) (nowUnixSecs : ℕ) :
    (failedPeer ctx peer errorDebug answer nowUnixSecs).1.pendingConnections
        = (fallback ctx.pendingConnections peer answer).plans ∧
      (failedPeer ctx peer errorDebug answer nowUnixSecs).2.2
        = (fallback ctx.pendingConnections peer answer).dialed := by
  unfold failedPeer
  generalize ctx.dhtState.markAutoConnectFailed peer = marked
  obtain ⟨retry, dhtState⟩ := marked
  generalize fallback ctx.pendingConnections peer answer = tried
  obtain ⟨started, plans, dialed, pulses⟩ := tried
  cases started with
  | true => exact ⟨rfl, rfl⟩
  | false =>
    cases retry with
    | true => exact ⟨rfl, rfl⟩
    | false => exact ⟨rfl, rfl⟩

/-- **What a reported failure does to the plans**: the loop over the peer's fallbacks. -/
theorem handleOutgoingConnectionError_peer (ctx : DialContext PeerId Addr) (peer : PeerId) (errorDebug : String)
    (answer : DialAnswers) (nowUnixSecs : ℕ) :
    (handleOutgoingConnectionError ctx (some peer) errorDebug answer nowUnixSecs).1.pendingConnections
        = (fallback ctx.pendingConnections peer answer).plans ∧
      (handleOutgoingConnectionError ctx (some peer) errorDebug answer nowUnixSecs).2
        = (fallback ctx.pendingConnections peer answer).dialed :=
  failedPeer_plans ctx peer errorDebug answer nowUnixSecs

end P2pNet.Node
