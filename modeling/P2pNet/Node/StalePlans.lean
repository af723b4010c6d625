/-
**Plans that outlive their attempts.**

The plan of a peer ends in the event handlers: with the connection of one of its attempts, or with the
failure of the last one. A run consists of plans that are dialed, of failures, and of connections that are
established and closed; the state keeps, beside the event context, the attempts in flight, the connections
of the swarm and the peers whose plan has been reported as established since it was dialed.

`no_stale_plan_iff`: throughout a run no peer with such a report and no peer without an attempt in flight is
pending, exactly when every report of an attempt that gets through is handled to the end for that peer, and
no failure of the last attempt in flight is reported without naming the peer; unless the plan has ended
before. `stale_plan_after_schedule_close`: a connection that is closed by the relay schedule leaves its plan
behind, and the peer is never dialed again.
-/

import P2pNet.Node.DialRuns
import P2pNet.Node.Events.Connection

set_option linter.unusedSectionVars false

namespace P2pNet.Node

open Lib PeerIdentity Connectivity

variable {PeerId Addr : Type} [PeerIdentity PeerId] [DecidableEq Addr] [Multiaddr PeerId Addr]

/-! ### Runs -/

structure Connecting (PeerId Addr : Type) [PeerIdentity PeerId] where
  ctx : ConnectionContext PeerId Addr
  inFlight : PeerId → List (ConnectionAttempt Addr)
  connections : List (PeerId × ConnectionId)
  reached : Finset PeerId

inductive ConnectionEvent (PeerId Addr : Type)
  | dial (plan : ConnectionPlan PeerId Addr) (answer : DialAnswers)
  | failed (reported : Option PeerId) (own : Option (OwnAttempt PeerId Addr)) (errorDebug : String)
      (answer : DialAnswers) (nowUnixSecs : ℕ)
  /-- `own` is the attempt that got through, if it is one of a plan. -/
  | established (connection : EstablishedConnection PeerId Addr) (own : Option (OwnAttempt PeerId Addr))
      (now : Surroundings)
  | closed (peer : PeerId) (connection : ConnectionId) (nowUnixSecs : ℕ)

namespace Connecting

variable (s : Connecting PeerId Addr)

def dialing : Dialing PeerId Addr := ⟨s.ctx.dial, s.inFlight⟩

def withDialing (dialing : Dialing PeerId Addr) : Connecting PeerId Addr :=
  { s with ctx := { s.ctx with dial := dialing.ctx }, inFlight := dialing.inFlight }

def queue (peer : PeerId) : Option (List (ConnectionAttempt Addr)) := s.ctx.dial.pendingConnections.queue peer

/-- The report is about an attempt that the plan of the peer has in flight. -/
def OwnReport (peer : PeerId) (own : Option (OwnAttempt PeerId Addr)) : Prop :=
  ∃ attempt ∈ s.inFlight peer, own = some (peer, attempt)

/-- A plan the swarm has accepted an attempt of starts anew. -/
def reachedOnDial (plan : ConnectionPlan PeerId Addr) (accepted : Option (ConnectionAttempt Addr)) :
    Finset PeerId :=
  match plan.targetPeer, accepted with
  | some peer, some _ => s.reached.erase peer
  | _, _ => s.reached

/-- The peers reached after a connection. -/
def reachedAfter : Option (OwnAttempt PeerId Addr) → Finset PeerId
  | some (peer, attempt) => if attempt ∈ s.inFlight peer then insert peer s.reached else s.reached
  | none => s.reached

end Connecting

/-- One event; the output is what the handler asks of the swarm. -/
def connectionStep (s : Connecting PeerId Addr) :
    ConnectionEvent PeerId Addr → List (SwarmRequest PeerId) × Connecting PeerId Addr
  | .dial plan answer =>
    let dialed := dialStep s.dialing (.dial plan answer)
    ([], { s.withDialing dialed.2 with reached := s.reachedOnDial plan (acceptedAttempt answer dialed.1) })
  | .failed reported own errorDebug answer nowUnixSecs =>
    ([], s.withDialing (dialStep s.dialing (.failed reported own errorDebug answer nowUnixSecs)).2)
  | .established connection own now =>
    let handled := handleConnectionEstablished s.ctx connection now
    (handled.1,
      { ctx := handled.2
        inFlight := settle s.inFlight own
        connections := (connection.peerId, connection.connectionId) :: s.connections
        reached := s.reachedAfter own })
  | .closed peer connection nowUnixSecs =>
    let connections := s.connections.erase (peer, connection)
    let connected := connections.any (·.1 = peer)
    ([], { s with
      ctx := handleConnectionClosed s.ctx peer connection connected nowUnixSecs
      connections })

/-! ### No plan is stale -/

/-- **The peer has no entry** once an attempt of its plan has been reported as established, and none while no
attempt of it is in flight; no automatic dial is then answered `AlreadyPending`. -/
structure NoStalePlan (peer : PeerId) (s : Connecting PeerId Addr) : Prop where
  reached : peer ∈ s.reached → s.queue peer = none
  idle : s.inFlight peer = [] → s.queue peer = none ∧
    ∀ (view : DialView PeerId) (answer : DialAnswers),
      (autoDialPeerFromBook view s.ctx.dial.pendingConnections peer answer).outcome ≠ .alreadyPending ∧
      (autoDialDhtProvider view s.ctx.dial.pendingConnections peer answer).outcome ≠ .alreadyPending

/-- The step ends the plan of the peer with its last attempt: the report of an attempt that got through is
handled to the end for this peer, and the failure of the last attempt in flight is reported for this peer,
unless the plan has ended before. -/
def EndsPlan (peer : PeerId) (s : Connecting PeerId Addr) : ConnectionEvent PeerId Addr → Prop
  | .dial _ _ => True
  | .failed reported own _ _ _ =>
    reported ≠ some peer → settle s.inFlight own peer = [] → s.queue peer = none
  | .established connection own now => s.OwnReport peer own →
    (Admitted s.ctx connection now ∧ peer = connection.peerId) ∨ s.queue peer = none
  | .closed _ _ _ => True

theorem outcome_ne_alreadyPending {plans : PendingConnectionPlans PeerId Addr} {peer : PeerId}
    (absent : plans.queue peer = none) (view : DialView PeerId) (answer : DialAnswers) :
    (autoDialPeerFromBook view plans peer answer).outcome ≠ .alreadyPending ∧
      (autoDialDhtProvider view plans peer answer).outcome ≠ .alreadyPending := by
  have free : plans.isPending peer = false := by
    unfold PendingConnectionPlans.isPending
    exact Option.isSome_eq_false_iff.mpr (Option.isNone_iff_eq_none.mpr absent)
  have fromBook : (autoDialPeerFromBook view plans peer answer).outcome ≠ .alreadyPending := by
    unfold autoDialPeerFromBook
    rw [free]
    dsimp only
    split_ifs with _ _ _ impossible
    · exact nofun
    · exact nofun
    · exact nofun
    · exact impossible.elim
    · exact nofun
    · split
      · exact nofun
      · exact nofun
  refine ⟨fromBook, ?_⟩
  unfold autoDialDhtProvider
  dsimp only
  split_ifs
  · exact fromBook
  · exact nofun
  · cases answer 0 with
    | none => exact nofun
    | some _ => exact nofun

/-- What the property says about the plans. -/
theorem noStalePlan_iff (peer : PeerId) (s : Connecting PeerId Addr) :
    NoStalePlan peer s ↔ (peer ∈ s.reached ∨ s.inFlight peer = [] → s.queue peer = none) := by
  constructor
  · rintro ⟨reached, idle⟩ (through | none)
    · exact reached through
    · exact (idle none).1
  · intro clear
    refine ⟨fun through => clear (.inl through), fun none => ⟨clear (.inr none), ?_⟩⟩
    exact outcome_ne_alreadyPending (clear (.inr none))

theorem settle_of_not_own {s : Connecting PeerId Addr} {peer : PeerId}
    {own : Option (OwnAttempt PeerId Addr)} (foreign : ¬ s.OwnReport peer own) :
    settle s.inFlight own peer = s.inFlight peer := by
  unfold settle
  split
  · rename_i target attempt
    by_cases same : peer = target
    · subst same
      rw [Function.update_self, List.erase_of_not_mem]
      exact fun flying => foreign ⟨attempt, flying, rfl⟩
    · exact Function.update_of_ne same _ _
  · rfl

theorem mem_reachedAfter (s : Connecting PeerId Addr) (peer : PeerId)
    (own : Option (OwnAttempt PeerId Addr)) :
    peer ∈ s.reachedAfter own ↔ s.OwnReport peer own ∨ peer ∈ s.reached := by
  unfold Connecting.reachedAfter Connecting.OwnReport
  split
  · rename_i target attempt
    split_ifs with flying
    · rw [Finset.mem_insert]
      refine or_congr_left ⟨?_, ?_⟩
      · rintro rfl
        exact ⟨attempt, flying, rfl⟩
      · rintro ⟨_, _, same⟩
        cases same
        rfl
    · refine (or_iff_right ?_).symm
      rintro ⟨_, member, same⟩
      cases same
      exact flying member
  · refine (or_iff_right ?_).symm
    rintro ⟨_, _, same⟩
    cases same

theorem mem_reachedOnDial (s : Connecting PeerId Addr) (peer : PeerId) (plan : ConnectionPlan PeerId Addr)
    (accepted : Option (ConnectionAttempt Addr)) :
    peer ∈ s.reachedOnDial plan accepted ↔
      peer ∈ s.reached ∧ ¬ (plan.targetPeer = some peer ∧ accepted.isSome = true) := by
  unfold Connecting.reachedOnDial
  split
  · rename_i target attempt named
    rw [Finset.mem_erase, named, and_comm]
    refine and_congr_right fun _ => not_congr ?_
    constructor
    · rintro rfl
      exact ⟨rfl, rfl⟩
    · rintro ⟨same, _⟩
      exact (Option.some.inj same).symm
  · rename_i absent
    refine (and_iff_left ?_).symm
    rintro ⟨named, accepts⟩
    obtain ⟨attempt, taken⟩ := Option.isSome_iff_exists.mp accepts
    exact absent peer attempt named taken

section Steps

variable {peer : PeerId} {s : Connecting PeerId Addr} (clear : NoStalePlan peer s)

/-- The property after a step, from what the step does to the report, the attempts and the plan. -/
theorem noStalePlan_of_eq (peer : PeerId) (s : Connecting PeerId Addr) (event : ConnectionEvent PeerId Addr)
    {through : Prop} {flying : List (ConnectionAttempt Addr)} {queue : Option (List (ConnectionAttempt Addr))}
    (through_iff : peer ∈ (connectionStep s event).2.reached ↔ through)
    (flying_eq : (connectionStep s event).2.inFlight peer = flying)
    (queue_eq : (connectionStep s event).2.queue peer = queue) :
    NoStalePlan peer (connectionStep s event).2 ↔ (through ∨ flying = [] → queue = none) := by
  rw [noStalePlan_iff, through_iff, flying_eq, queue_eq]

include clear in
theorem dial_noStalePlan (plan : ConnectionPlan PeerId Addr) (answer : DialAnswers) :
    NoStalePlan peer (connectionStep s (.dial plan answer)).2 := by
  rw [noStalePlan_iff] at clear
  have renewed := mem_reachedOnDial s peer plan
    (acceptedAttempt answer (dialStep s.dialing (.dial plan answer)).1)
  by_cases target : plan.targetPeer = some peer
  · have spec := dialStep_dial s.dialing target answer
    cases found : firstAccepted answer plan.attempts.length with
    | some index =>
      -- the new plan has an attempt in flight and has not been reached yet
      simp only [found] at spec
      obtain ⟨attempt, here, dialed, queue, flying⟩ := spec
      rw [noStalePlan_of_eq peer s (.dial plan answer) renewed flying queue, dialed,
        acceptedAttempt_take found, here]
      rintro (⟨_, old⟩ | none)
      · exact absurd ⟨target, rfl⟩ old
      · cases none
    | none =>
      simp only [found] at spec
      obtain ⟨_, queue, flying⟩ := spec
      rw [noStalePlan_of_eq peer s (.dial plan answer) renewed flying queue]
      exact fun left => clear (left.imp_left And.left)
  · obtain ⟨queue, flying⟩ := dialStep_dial_other s.dialing target answer
    rw [noStalePlan_of_eq peer s (.dial plan answer) renewed flying queue]
    exact fun left => clear (left.imp_left And.left)

include clear in
theorem failed_noStalePlan_iff (reported : Option PeerId) (own : Option (OwnAttempt PeerId Addr))
    (errorDebug : String) (answer : DialAnswers) (nowUnixSecs : ℕ) :
    NoStalePlan peer (connectionStep s (.failed reported own errorDebug answer nowUnixSecs)).2 ↔
      (reported ≠ some peer → settle s.inFlight own peer = [] → s.queue peer = none) := by
  rw [noStalePlan_iff] at clear
  by_cases reports : reported = some peer
  · subst reports
    refine iff_of_true ?_ (fun other => absurd rfl other)
    have spec := dialStep_failed s.dialing peer own errorDebug answer nowUnixSecs
    cases found : firstAccepted answer (remaining s.dialing.ctx.pendingConnections peer).length with
    | some index =>
      simp only [found] at spec
      obtain ⟨attempt, _, _, queue, flying⟩ := spec
      rw [noStalePlan_of_eq peer s (.failed _ own errorDebug answer nowUnixSecs) Iff.rfl flying queue]
      rintro (through | none)
      · -- a peer that was reached has no fallback to dial
        have nothing : remaining s.dialing.ctx.pendingConnections peer = [] :=
          congrArg (Option.getD · []) (clear (.inl through))
        rw [nothing] at found
        cases found
      · cases none
    | none =>
      simp only [found] at spec
      rw [noStalePlan_of_eq peer s (.failed _ own errorDebug answer nowUnixSecs) Iff.rfl spec.2.2 spec.2.1]
      exact fun _ => rfl
  · obtain ⟨queue, flying⟩ := dialStep_failed_other s.dialing reports own errorDebug answer nowUnixSecs
    rw [noStalePlan_of_eq peer s (.failed _ own errorDebug answer nowUnixSecs) Iff.rfl flying queue]
    constructor
    · exact fun kept _ none => kept (.inr none)
    · rintro ends (through | none)
      · exact clear (.inl through)
      · exact ends reports none

include clear in
theorem established_noStalePlan_iff (connection : EstablishedConnection PeerId Addr)
    (own : Option (OwnAttempt PeerId Addr)) (now : Surroundings) :
    NoStalePlan peer (connectionStep s (.established connection own now)).2 ↔
      (s.OwnReport peer own →
        (Admitted s.ctx connection now ∧ peer = connection.peerId) ∨ s.queue peer = none) := by
  rw [noStalePlan_iff] at clear
  have flying : (connectionStep s (.established connection own now)).2.inFlight peer
    = settle s.inFlight own peer := rfl
  rw [noStalePlan_of_eq peer s (.established connection own now) (mem_reachedAfter s peer own) flying
    (established_queue s.ctx connection now peer)]
  by_cases ends : Admitted s.ctx connection now ∧ peer = connection.peerId
  · rw [if_pos ends]
    exact iff_of_true (fun _ => rfl) (fun _ => .inl ends)
  · rw [if_neg ends]
    constructor
    · exact fun kept report => .inr (kept (.inl (.inl report)))
    · intro handled left
      by_cases report : s.OwnReport peer own
      · exact (handled report).resolve_left ends
      · rw [or_iff_right report] at left
        exact clear (left.imp_right (settle_of_not_own report).symm.trans)

/-- **One step keeps the plans clear exactly when it ends the plan with its last attempt.** -/
theorem connectionStep_noStalePlan_iff {peer : PeerId} {s : Connecting PeerId Addr}
    (clear : NoStalePlan peer s) (event : ConnectionEvent PeerId Addr) :
    NoStalePlan peer (connectionStep s event).2 ↔ EndsPlan peer s event := by
  cases event with
  | dial plan answer => exact iff_of_true (dial_noStalePlan clear plan answer) trivial
  | failed reported own errorDebug answer nowUnixSecs =>
    exact failed_noStalePlan_iff clear reported own errorDebug answer nowUnixSecs
  | established connection own now => exact established_noStalePlan_iff clear connection own now
  | closed closing connection nowUnixSecs =>
    refine iff_of_true ?_ trivial
    have queue : (connectionStep s (.closed closing connection nowUnixSecs)).2.queue peer = s.queue peer :=
      congrArg (PendingConnectionPlans.queue · peer) (closed_plans ..)
    rw [noStalePlan_of_eq peer s (.closed closing connection nowUnixSecs) Iff.rfl rfl queue]
    exact (noStalePlan_iff peer s).mp clear

end Steps

/-- **No plan is stale throughout a run exactly when every step ends the plan with its last attempt.** -/
theorem no_stale_plan_iff (peer : PeerId) {start : Connecting PeerId Addr} (fresh : start.queue peer = none)
    (events : List (ConnectionEvent PeerId Addr)) :
    (∀ count ≤ events.length, NoStalePlan peer (final connectionStep start (events.take count))) ↔
      ∀ (count : ℕ) (event : ConnectionEvent PeerId Addr), events[count]? = some event →
        EndsPlan peer (final connectionStep start (events.take count)) event := by
  refine always_iff_each connectionStep (fun _ => True) (NoStalePlan peer) (EndsPlan peer) events
    (fun _ => trivial) ?_ fun s event _ _ clear => connectionStep_noStalePlan_iff clear event
  exact (noStalePlan_iff peer start).mpr fun _ => fresh

/-! ### A connection while the relay is closed -/

namespace ScheduledRelay

open TwoAttempts

def start : Connecting Seed Endpoint where
  ctx := {
    dial := TwoAttempts.start.ctx
    connectionCaps := .new (some 8) (some 64)
    relayHealth := .enabled
    unverifiedRelayedPeers := ∅
    cacheSeen := [] }
  inFlight := fun _ => []
  connections := []
  reached := ∅

def connection : EstablishedConnection Seed Endpoint where
  peerId := .nnoo
  connectionId := 1
  remoteAddr := quic.addr
  relayedEndpoint := false
  outgoing := true
  endpointDebug := "Dialer"

/-- The plan of one attempt gets through, and the connection is closed later. -/
def run (isOpenNowUtc : Bool) : List (ConnectionEvent Seed Endpoint) :=
  [.dial (plan [quic]) accepting,
    .established connection (some (.nnoo, quic)) ⟨true, isOpenNowUtc, 1, 1700000001⟩,
    .closed .nnoo 1 1700000002]

end ScheduledRelay

open ScheduledRelay in
theorem no_stale_plan_iff_open :
    (final connectionStep start ((run true).take 1)).inFlight Seed.nnoo = [TwoAttempts.quic] ∧
      NoStalePlan Seed.nnoo (final connectionStep start (run true)) := by
  have fresh : start.queue Seed.nnoo = none := by decide
  refine ⟨by decide, (no_stale_plan_iff Seed.nnoo fresh (run true)).mpr ?_ 3 (by decide)⟩
  intro count event here
  match count, here with
  | 0, here =>
    cases here
    trivial
  | 1, here =>
    cases here
    refine fun _ => .inl ⟨?_, rfl⟩
    show Admitted (final connectionStep start ((run true).take 1)).ctx connection ⟨true, true, 1, 1700000001⟩
    decide
  | 2, here =>
    cases here
    trivial

open ScheduledRelay in
/-- **A connection that the schedule closes leaves its plan behind**: nothing is in flight or connected any
more, and the peer is pending for good. -/
theorem stale_plan_after_schedule_close :
    let s := final connectionStep start (run false)
    Seed.nnoo ∈ s.reached ∧ s.inFlight .nnoo = [] ∧ s.connections = [] ∧ s.queue .nnoo = some [] ∧
      (autoDialPeerFromBook TwoAttempts.view s.ctx.dial.pendingConnections .nnoo
        TwoAttempts.accepting).outcome = .alreadyPending ∧
      (autoDialDhtProvider TwoAttempts.view s.ctx.dial.pendingConnections .nnoo
        TwoAttempts.accepting).outcome = .alreadyPending := by
  decide

end P2pNet.Node
