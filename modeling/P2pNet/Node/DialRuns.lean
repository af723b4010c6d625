/-
**Runs of dials, failures and connections.**

The state of a run is the event context and, beside it, the attempts of plans that were handed to the
swarm and not reported yet. A plan may be dialed at any time; the outcome of a dial is reported later, as
a failure (`handleOutgoingConnectionError`) or as an established connection
(`PendingConnectionPlans::complete`); reports of dials that belong to no plan arrive as well.
-/

import P2pNet.Lib.Run
import P2pNet.Node.Dial

set_option linter.unusedSectionVars false

namespace P2pNet.Node

open Lib PeerIdentity Connectivity

variable {PeerId Addr : Type} [PeerIdentity PeerId] [DecidableEq Addr] [Multiaddr PeerId Addr]

/-! ### Runs -/

structure Dialing (PeerId Addr : Type) [PeerIdentity PeerId] where
  ctx : DialContext PeerId Addr
  inFlight : PeerId → List (ConnectionAttempt Addr)

/-- An attempt of a plan for a peer. -/
abbrev OwnAttempt (PeerId Addr : Type) := PeerId × ConnectionAttempt Addr

inductive DialEvent (PeerId Addr : Type)
  | dial (plan : ConnectionPlan PeerId Addr) (answer : DialAnswers)
  /-- A dial failed; `own` is the attempt if it is one of a plan. -/
  | failed (reported : Option PeerId) (own : Option (OwnAttempt PeerId Addr)) (errorDebug : String)
      (answer : DialAnswers) (nowUnixSecs : ℕ)
  | established (peer : PeerId) (own : Option (OwnAttempt PeerId Addr))

/-- The dialed attempt that the swarm accepted. -/
def acceptedAttempt (answer : DialAnswers) (dialed : List (ConnectionAttempt Addr)) :
    Option (ConnectionAttempt Addr) :=
  (firstAccepted answer dialed.length).bind fun index => dialed[index]?

def launch (inFlight : PeerId → List (ConnectionAttempt Addr)) (peer : Option PeerId)
    (attempt : Option (ConnectionAttempt Addr)) : PeerId → List (ConnectionAttempt Addr) :=
  match peer, attempt with
  | some peer, some attempt => Function.update inFlight peer (attempt :: inFlight peer)
  | _, _ => inFlight

def settle (inFlight : PeerId → List (ConnectionAttempt Addr)) (own : Option (OwnAttempt PeerId Addr)) :
    PeerId → List (ConnectionAttempt Addr) :=
  match own with
  | some (peer, attempt) => Function.update inFlight peer ((inFlight peer).erase attempt)
  | none => inFlight

/-- One event; the output is the attempts it hands to the swarm. -/
def dialStep (s : Dialing PeerId Addr) :
    DialEvent PeerId Addr → List (ConnectionAttempt Addr) × Dialing PeerId Addr
  | .dial plan answer =>
    let dial := dialConnectionPlan s.ctx.pendingConnections plan answer
    (dial.dialed,
      { ctx := { s.ctx with pendingConnections := dial.plans }
        inFlight := launch s.inFlight plan.targetPeer (acceptedAttempt answer dial.dialed) })
  | .failed reported own errorDebug answer nowUnixSecs =>
    let handled := handleOutgoingConnectionError s.ctx reported errorDebug answer nowUnixSecs
    (handled.2,
      { ctx := handled.1
        inFlight := launch (settle s.inFlight own) reported (acceptedAttempt answer handled.2) })
  | .established peer own =>
    ([], { ctx := { s.ctx with pendingConnections := s.ctx.pendingConnections.complete peer }
           inFlight := settle s.inFlight own })

/-- The queue of a peer. -/
def Dialing.queue (s : Dialing PeerId Addr) (peer : PeerId) : Option (List (ConnectionAttempt Addr)) :=
  s.ctx.pendingConnections.queue peer

/-! ### What a step does to one peer -/

theorem firstAccepted_stop {answer : DialAnswers} {calls index : ℕ}
    (accepted : firstAccepted answer calls = some index) : firstAccepted answer (index + 1) = some index := by
  induction calls generalizing answer index with
  | zero => cases accepted
  | succ calls ih =>
    unfold firstAccepted at accepted ⊢
    cases first : answer 0 with
    | none =>
      rw [first] at accepted
      cases accepted
      rfl
    | some error =>
      rw [first] at accepted
      obtain ⟨earlier, found, rfl⟩ := Option.map_eq_some_iff.mp accepted
      show (firstAccepted answer.rest (earlier + 1)).map _ = _
      rw [ih found]
      rfl

/-- The accepted attempt is the one the loop stopped at. -/
theorem acceptedAttempt_take {answer : DialAnswers} {attempts : List (ConnectionAttempt Addr)} {index : ℕ}
    (accepted : firstAccepted answer attempts.length = some index) :
    acceptedAttempt answer (attempts.take (index + 1)) = attempts[index]? := by
  have within := firstAccepted_lt accepted
  unfold acceptedAttempt
  rw [List.length_take, min_eq_left (by omega), firstAccepted_stop accepted, Option.bind_some,
    List.getElem?_take_of_succ]

theorem acceptedAttempt_none {answer : DialAnswers} {attempts : List (ConnectionAttempt Addr)}
    (refused : firstAccepted answer attempts.length = none) : acceptedAttempt answer attempts = none := by
  unfold acceptedAttempt
  rw [refused]
  rfl

theorem launch_other {inFlight : PeerId → List (ConnectionAttempt Addr)} {reported : Option PeerId}
    {peer : PeerId} (other : reported ≠ some peer) (attempt : Option (ConnectionAttempt Addr)) :
    launch inFlight reported attempt peer = inFlight peer := by
  unfold launch
  split
  · rename_i target accepted
    have different : peer ≠ target := fun same => other (congrArg some same.symm)
    exact Function.update_of_ne different _ _
  · rfl

theorem settle_subset (inFlight : PeerId → List (ConnectionAttempt Addr))
    (own : Option (OwnAttempt PeerId Addr)) (peer : PeerId) : settle inFlight own peer ⊆ inFlight peer := by
  unfold settle
  split
  · rename_i target attempt
    by_cases same : peer = target
    · subst same
      rw [Function.update_self]
      exact List.erase_subset
    · rw [Function.update_of_ne same]
      exact List.Subset.refl _
  · exact List.Subset.refl _

section Steps

variable (s : Dialing PeerId Addr) {peer : PeerId}

/-- **Dialing a plan of the peer.** -/
theorem dialStep_dial {plan : ConnectionPlan PeerId Addr} (target : plan.targetPeer = some peer)
    (answer : DialAnswers) :
    match firstAccepted answer plan.attempts.length with
    | some index => ∃ attempt, plan.attempts[index]? = some attempt ∧
        (dialStep s (.dial plan answer)).1 = plan.attempts.take (index + 1) ∧
        (dialStep s (.dial plan answer)).2.queue peer
          = some (PendingConnectionPlans.remainingAfter attempt plan.attempts) ∧
        (dialStep s (.dial plan answer)).2.inFlight peer = attempt :: s.inFlight peer
    | none => (dialStep s (.dial plan answer)).1 = plan.attempts ∧
        (dialStep s (.dial plan answer)).2.queue peer = s.queue peer ∧
        (dialStep s (.dial plan answer)).2.inFlight peer = s.inFlight peer := by
  have spec := dialConnectionPlan_spec s.ctx.pendingConnections plan answer
  unfold dialStep Dialing.queue
  cases found : firstAccepted answer plan.attempts.length with
  | some index =>
    simp only [found] at spec
    obtain ⟨attempt, at_index, dialed, plans⟩ := spec
    refine ⟨attempt, at_index, dialed, ?_, ?_⟩
    · show (dialConnectionPlan _ _ _).plans.queue peer = _
      rw [plans, PendingConnectionPlans.trackRemaining_queue _ target, if_pos rfl]
    · show launch _ _ (acceptedAttempt answer (dialConnectionPlan _ _ _).dialed) peer = _
      rw [dialed, acceptedAttempt_take found, at_index, target]
      exact Function.update_self ..
  | none =>
    simp only [found] at spec
    refine ⟨spec.1, ?_, ?_⟩
    · show (dialConnectionPlan _ _ _).plans.queue peer = _
      rw [spec.2]
    · show launch _ _ (acceptedAttempt answer (dialConnectionPlan _ _ _).dialed) peer = _
      rw [spec.1, acceptedAttempt_none found, target]
      rfl

/-- A plan of another peer. -/
theorem dialStep_dial_other {plan : ConnectionPlan PeerId Addr} (other : plan.targetPeer ≠ some peer)
    (answer : DialAnswers) :
    (dialStep s (.dial plan answer)).2.queue peer = s.queue peer ∧
      (dialStep s (.dial plan answer)).2.inFlight peer = s.inFlight peer := by
  refine ⟨?_, launch_other other _⟩
  show (dialConnectionPlan s.ctx.pendingConnections plan answer).plans.queue peer = _
  have spec := dialConnectionPlan_spec s.ctx.pendingConnections plan answer
  cases found : firstAccepted answer plan.attempts.length with
  | some index =>
    simp only [found] at spec
    obtain ⟨attempt, _, _, plans⟩ := spec
    rw [plans]
    cases target : plan.targetPeer with
    | none =>
      unfold PendingConnectionPlans.trackRemaining
      rw [target]
      rfl
    | some owner =>
      have different : peer ≠ owner := by
        rintro rfl
        exact other target
      rw [PendingConnectionPlans.trackRemaining_queue _ target, if_neg different]
      rfl
  | none =>
    simp only [found] at spec
    rw [spec.2]
    rfl

/-- **A failure reported for the peer.** -/
theorem dialStep_failed (peer : PeerId) (own : Option (OwnAttempt PeerId Addr)) (errorDebug : String)
    (answer : DialAnswers) (nowUnixSecs : ℕ) :
    let event := DialEvent.failed (some peer) own errorDebug answer nowUnixSecs
    let rest := remaining s.ctx.pendingConnections peer
    match firstAccepted answer rest.length with
    | some index => ∃ attempt, rest[index]? = some attempt ∧
        (dialStep s event).1 = rest.take (index + 1) ∧
        (dialStep s event).2.queue peer = PendingConnectionPlans.kept (rest.drop (index + 1)) ∧
        (dialStep s event).2.inFlight peer = attempt :: settle s.inFlight own peer
    | none => (dialStep s event).1 = rest ∧ (dialStep s event).2.queue peer = none ∧
        (dialStep s event).2.inFlight peer = settle s.inFlight own peer := by
  intro event rest
  obtain ⟨plans, dialed⟩ :=
    handleOutgoingConnectionError_peer s.ctx peer errorDebug answer nowUnixSecs
  obtain ⟨_, spec⟩ := fallback_spec s.ctx.pendingConnections peer answer
  rw [← plans, ← dialed, show remaining s.ctx.pendingConnections peer = rest from rfl] at spec
  cases found : firstAccepted answer rest.length with
  | some index =>
    simp only [found] at spec
    obtain ⟨attempt, at_index⟩ : ∃ attempt, rest[index]? = some attempt :=
      ⟨_, List.getElem?_eq_getElem (firstAccepted_lt found)⟩
    refine ⟨attempt, at_index, spec.1, spec.2, ?_⟩
    show launch _ _ (acceptedAttempt answer (handleOutgoingConnectionError _ _ _ _ _).2) peer = _
    rw [spec.1, acceptedAttempt_take found, at_index]
    exact Function.update_self ..
  | none =>
    simp only [found] at spec
    refine ⟨spec.1, spec.2, ?_⟩
    show launch _ _ (acceptedAttempt answer (handleOutgoingConnectionError _ _ _ _ _).2) peer = _
    rw [spec.1, acceptedAttempt_none found]
    rfl

/-- A failure reported for another peer or for none. -/
theorem dialStep_failed_other {reported : Option PeerId} (other : reported ≠ some peer)
    (own : Option (OwnAttempt PeerId Addr)) (errorDebug : String) (answer : DialAnswers) (nowUnixSecs : ℕ) :
    (dialStep s (.failed reported own errorDebug answer nowUnixSecs)).2.queue peer = s.queue peer ∧
      (dialStep s (.failed reported own errorDebug answer nowUnixSecs)).2.inFlight peer
        = settle s.inFlight own peer := by
  refine ⟨?_, launch_other other _⟩
  cases reported with
  | none => rfl
  | some failed =>
    obtain ⟨plans, _⟩ := handleOutgoingConnectionError_peer s.ctx failed errorDebug answer nowUnixSecs
    obtain ⟨others, _⟩ := fallback_spec s.ctx.pendingConnections failed answer
    show (handleOutgoingConnectionError s.ctx (some failed) _ _ _).1.pendingConnections.queue peer = _
    rw [plans]
    refine others peer ?_
    rintro rfl
    exact other rfl

end Steps

/-! ### Attempts in flight -/

/-- An automatic dial of the peer does nothing, and says so unless something else stops it first. -/
def LeavesAlone (s : Dialing PeerId Addr) (peer : PeerId) (auto : AutoDial PeerId Addr)
    (view : DialView PeerId) : Prop :=
  auto.plans = s.ctx.pendingConnections ∧ auto.dialed = [] ∧
    (view.enabled = true → peer ≠ view.localPeer → peer ∉ view.connectedPeers →
      auto.outcome = .alreadyPending)

/-- **A peer with an attempt in flight is pending**, and automatic dialing leaves it alone. -/
def Guarded (peer : PeerId) (s : Dialing PeerId Addr) : Prop :=
  s.inFlight peer ≠ [] → s.ctx.pendingConnections.isPending peer = true ∧
    ∀ (view : DialView PeerId) (answer : DialAnswers),
      LeavesAlone s peer (autoDialPeerFromBook view s.ctx.pendingConnections peer answer) view ∧
      LeavesAlone s peer (autoDialDhtProvider view s.ctx.pendingConnections peer answer) view

/-- The step neither hands out the last fallback of the peer nor ends its plan while another attempt of it
is in flight. -/
def KeepsGuard (peer : PeerId) (s : Dialing PeerId Addr) : DialEvent PeerId Addr → Prop
  | .dial _ _ => True
  | .failed reported own _ answer _ => reported = some peer →
    match firstAccepted answer (remaining s.ctx.pendingConnections peer).length with
    | some index => index + 1 < (remaining s.ctx.pendingConnections peer).length
    | none => settle s.inFlight own peer = []
  | .established connected own => connected = peer → settle s.inFlight own peer = []

theorem leavesAlone_of_isPending {s : Dialing PeerId Addr} {peer : PeerId}
    (pending : s.ctx.pendingConnections.isPending peer = true) (view : DialView PeerId) (answer : DialAnswers) :
    LeavesAlone s peer (autoDialPeerFromBook view s.ctx.pendingConnections peer answer) view ∧
      (autoDialPeerFromBook view s.ctx.pendingConnections peer answer).outcome ≠ .awaitingAddress := by
  unfold autoDialPeerFromBook
  split_ifs with disabled own connected
  · refine ⟨⟨rfl, rfl, fun enabled => ?_⟩, nofun⟩
    rw [enabled] at disabled
    cases disabled
  · exact ⟨⟨rfl, rfl, fun _ different => absurd own different⟩, nofun⟩
  · exact ⟨⟨rfl, rfl, fun _ _ absent => absurd connected absent⟩, nofun⟩
  · exact ⟨⟨rfl, rfl, fun _ _ _ => rfl⟩, nofun⟩

/-- The guard is the queue. -/
theorem guarded_iff (peer : PeerId) (s : Dialing PeerId Addr) :
    Guarded peer s ↔ (s.inFlight peer ≠ [] → s.queue peer ≠ none) := by
  have marked : s.ctx.pendingConnections.isPending peer = true ↔ s.queue peer ≠ none :=
    Option.isSome_iff_ne_none
  constructor
  · intro guarded flying
    exact marked.mp (guarded flying).1
  · intro queued flying
    have pending := marked.mpr (queued flying)
    refine ⟨pending, fun view answer => ?_⟩
    obtain ⟨alone, outcome⟩ := leavesAlone_of_isPending pending view answer
    refine ⟨alone, ?_⟩
    unfold autoDialDhtProvider
    rw [if_pos outcome]
    exact alone

/-- **One step keeps the guard exactly when it meets the condition.** -/
theorem dialStep_guarded_iff {peer : PeerId} {s : Dialing PeerId Addr} (guarded : Guarded peer s)
    (event : DialEvent PeerId Addr) : Guarded peer (dialStep s event).2 ↔ KeepsGuard peer s event := by
  rw [guarded_iff] at guarded ⊢
  have shrinks : ∀ own, settle s.inFlight own peer ≠ [] → s.queue peer ≠ none := by
    intro own left
    refine guarded fun nothing => left ?_
    have subset := settle_subset s.inFlight own peer
    rw [nothing] at subset
    exact List.subset_nil.mp subset
  cases event with
  | dial plan answer =>
    refine iff_of_true ?_ trivial
    by_cases target : plan.targetPeer = some peer
    · have spec := dialStep_dial s target answer
      cases found : firstAccepted answer plan.attempts.length with
      | some index =>
        simp only [found] at spec
        obtain ⟨_, _, _, queue, _⟩ := spec
        rw [queue]
        exact fun _ => Option.some_ne_none _
      | none =>
        simp only [found] at spec
        rw [spec.2.1, spec.2.2]
        exact guarded
    · obtain ⟨queue, flying⟩ := dialStep_dial_other s target answer
      rw [queue, flying]
      exact guarded
  | failed reported own errorDebug answer nowUnixSecs =>
    by_cases own_report : reported = some peer
    · subst own_report
      have spec := dialStep_failed s peer own errorDebug answer nowUnixSecs
      unfold KeepsGuard
      simp only [forall_const]
      cases found : firstAccepted answer (remaining s.ctx.pendingConnections peer).length with
      | some index =>
        simp only [found] at spec
        obtain ⟨attempt, _, _, queue, flying⟩ := spec
        rw [queue, flying]
        simp [PendingConnectionPlans.kept]
      | none =>
        simp only [found] at spec
        rw [spec.2.1, spec.2.2]
        simp
    · obtain ⟨queue, flying⟩ := dialStep_failed_other s own_report own errorDebug answer nowUnixSecs
      rw [queue, flying]
      exact iff_of_true (shrinks own) fun same => absurd same own_report
  | established connected own =>
    have queue : (dialStep s (.established connected own)).2.queue peer
        = if peer = connected then none else s.queue peer :=
      PendingConnectionPlans.complete_queue _ _ _
    have flying : (dialStep s (.established connected own)).2.inFlight peer = settle s.inFlight own peer := rfl
    rw [queue, flying]
    unfold KeepsGuard
    by_cases same : connected = peer
    · simp [same]
    · rw [if_neg (Ne.symm same)]
      exact iff_of_true (shrinks own) fun equal => absurd equal same

/-- **Attempts in flight are guarded throughout a run exactly when every step keeps the guard**: no report
hands out the last queued fallback of the peer, and none ends its plan while another attempt of it is in
flight. -/
theorem in_flight_guarded_iff (peer : PeerId) {start : Dialing PeerId Addr} (idle : start.inFlight peer = [])
    (events : List (DialEvent PeerId Addr)) :
    (∀ count ≤ events.length, Guarded peer (final dialStep start (events.take count))) ↔
      ∀ (count : ℕ) (event : DialEvent PeerId Addr), events[count]? = some event →
        KeepsGuard peer (final dialStep start (events.take count)) event := by
  refine always_iff_each dialStep (fun _ => True) (Guarded peer) (KeepsGuard peer) events
    (fun _ => trivial) ?_ fun s event _ _ guarded => dialStep_guarded_iff guarded event
  exact fun flying => absurd idle flying

/-! ### A plan of two attempts -/

namespace TwoAttempts

def quic : ConnectionAttempt Endpoint := ⟨⟨(203, 0, 113, 1), 4001, true, .nnoo⟩, .directQuic⟩

def tcp : ConnectionAttempt Endpoint := ⟨⟨(203, 0, 113, 1), 4001, false, .nnoo⟩, .direct⟩

def plan (attempts : List (ConnectionAttempt Endpoint)) : ConnectionPlan Seed Endpoint where
  targetPeer := some .nnoo
  attempts := attempts
  relayPreferred := false
  attemptDcutrAfterRelay := true
  keepRelayFallback := true

/-- The node knows the TCP address of the peer. -/
def book : PeerBook Seed := PeerBook.default.recordAddr .nnoo 1700000000 tcp.addr .manual

def start : Dialing Seed Endpoint where
  ctx := {
    pendingConnections := .empty
    peerBook := book
    cacheFailures := []
    dhtState := ⟨⟨∅, []⟩, ⟨∅, []⟩⟩
    autoDialStats := ⟨0, ⟨∅, []⟩⟩
    lastApplicationDialError := none
    connectionLimitEvents := 0
    pulses := [] }
  inFlight := fun _ => []

/-- Every call of `swarm.dial` is accepted. -/
def accepting : DialAnswers := fun _ => none

def failure (own : ConnectionAttempt Endpoint) (answer : DialAnswers) : DialEvent Seed Endpoint :=
  .failed (some .nnoo) (some (.nnoo, own)) "Transport([])" answer 1700000001

/-- A plan of one attempt fails. -/
def singleRun : List (DialEvent Seed Endpoint) := [.dial (plan [quic]) accepting, failure quic accepting]

def view : DialView Seed where
  localPeer := .qcu2
  enabled := true
  connectedPeers := ∅
  peerBook := book
  dcutrPolicy := ⟨true, true, true⟩
  wasm32 := false

end TwoAttempts

open TwoAttempts in
theorem in_flight_guarded_iff_single :
    (final dialStep start (singleRun.take 1)).inFlight Seed.nnoo = [quic] ∧
      Guarded Seed.nnoo (final dialStep start (singleRun.take 1)) ∧
      Guarded Seed.nnoo (final dialStep start singleRun) := by
  have idle : start.inFlight Seed.nnoo = [] := rfl
  have guarded := (in_flight_guarded_iff Seed.nnoo idle singleRun).mpr (by
    intro count event found
    match count, found with
    | 0, found =>
      cases found
      trivial
    | 1, found =>
      cases found
      intro _
      show settle (final dialStep start (singleRun.take 1)).inFlight (some (Seed.nnoo, quic)) Seed.nnoo = []
      decide)
  refine ⟨?_, guarded 1 (by decide), guarded 2 (by decide)⟩
  decide

open TwoAttempts in
/-- **The last fallback is in flight and nothing says so**: its peer is not pending, and an automatic dial
starts a second plan for it. -/
theorem last_fallback_unguarded :
    let s := final dialStep start [.dial (plan [quic, tcp]) accepting, failure quic accepting]
    s.inFlight .nnoo = [tcp] ∧ s.ctx.pendingConnections.isPending .nnoo = false ∧
      (autoDialPeerFromBook view s.ctx.pendingConnections .nnoo accepting).dialed ≠ [] ∧
      (autoDialPeerFromBook view s.ctx.pendingConnections .nnoo accepting).outcome ≠ .alreadyPending := by
  decide +kernel

/-! ### The whole plan, once -/

theorem remaining_of_queue {peer : PeerId} {s : Dialing PeerId Addr}
    {queue : Option (List (ConnectionAttempt Addr))} (tracked : s.queue peer = queue) :
    remaining s.ctx.pendingConnections peer = queue.getD [] :=
  congrArg (Option.getD · []) tracked

theorem settle_only {inFlight : PeerId → List (ConnectionAttempt Addr)} {peer : PeerId}
    {attempt : ConnectionAttempt Addr} (only : inFlight peer = [attempt]) :
    settle inFlight (some (peer, attempt)) peer = [] := by
  show Function.update inFlight peer ((inFlight peer).erase attempt) peer = []
  rw [only, Function.update_self, List.erase_cons_head]

end P2pNet.Node
