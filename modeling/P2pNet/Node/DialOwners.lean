/-
**Whose failure moves a plan on.**

`handleOutgoingConnectionError` is told the peer of a failed dial and not the dial. While an attempt of a
plan is in flight, a dial to the same peer that belongs to no plan, started by another behaviour, may fail
as well; to the handler it is a failure of the plan.

`own_failures_only_iff`: along a run of one plan, at most one of its attempts is in flight and no failure
of another dial takes a fallback, if and only if every such failure finds no fallback left.
`foreign_failure_takes_fallback`: both attempts of a plan are in flight after one failure of another dial.
-/

import P2pNet.Node.DialRuns

set_option linter.unusedSectionVars false

namespace P2pNet.Node

open Lib PeerIdentity Connectivity

variable {PeerId Addr : Type} [PeerIdentity PeerId] [DecidableEq Addr] [Multiaddr PeerId Addr]

/-- A failure reported for the peer that is not one of an attempt its plan has in flight. -/
def Foreign (peer : PeerId) (s : Dialing PeerId Addr) : DialEvent PeerId Addr → Prop
  | .failed reported own _ _ _ =>
    reported = some peer ∧ ∀ attempt ∈ s.inFlight peer, own ≠ some (peer, attempt)
  | _ => False

/-- A failure that is not the plan's own dials nothing and takes nothing from the plan. -/
def OwnFailuresOnly (peer : PeerId) (s : Dialing PeerId Addr) (event : DialEvent PeerId Addr) : Prop :=
  Foreign peer s event → (dialStep s event).1 = [] ∧
    remaining (dialStep s event).2.ctx.pendingConnections peer = remaining s.ctx.pendingConnections peer

/-- The event dials another plan for the peer. -/
def DialsFor (peer : PeerId) : DialEvent PeerId Addr → Prop
  | .dial plan _ => plan.targetPeer = some peer
  | _ => False

theorem settle_length_le (inFlight : PeerId → List (ConnectionAttempt Addr))
    (own : Option (OwnAttempt PeerId Addr)) (peer : PeerId) :
    (settle inFlight own peer).length ≤ (inFlight peer).length := by
  unfold settle
  split
  · rename_i target attempt
    by_cases same : peer = target
    · subst same
      rw [Function.update_self]
      exact List.length_erase_le
    · rw [Function.update_of_ne same]
  · exact le_rfl

/-- **A foreign failure takes what is left of the plan**, up to the first dial that is accepted. -/
theorem ownFailuresOnly_iff (peer : PeerId) (s : Dialing PeerId Addr) (event : DialEvent PeerId Addr) :
    OwnFailuresOnly peer s event ↔
      (Foreign peer s event → remaining s.ctx.pendingConnections peer = []) := by
  unfold OwnFailuresOnly
  refine imp_congr_right fun foreign => ?_
  match event, foreign with
  | .failed _ own errorDebug answer nowUnixSecs, ⟨rfl, _⟩ =>
    have spec := dialStep_failed s peer own errorDebug answer nowUnixSecs
    constructor
    · rintro ⟨silent, _⟩
      cases found : firstAccepted answer (remaining s.ctx.pendingConnections peer).length with
      | some index =>
        simp only [found] at spec
        obtain ⟨_, _, dialed, _⟩ := spec
        rw [silent, eq_comm, List.take_eq_nil_iff] at dialed
        exact dialed.resolve_left (Nat.succ_ne_zero index)
      | none =>
        simp only [found] at spec
        rw [← spec.1, silent]
    · intro nothing
      have refused : firstAccepted answer (remaining s.ctx.pendingConnections peer).length = none := by
        rw [nothing]
        rfl
      simp only [refused] at spec
      rw [remaining_of_queue spec.2.1, spec.1, nothing]
      exact ⟨rfl, rfl⟩

/-- **One step keeps a single attempt in flight** unless a foreign failure takes a fallback. -/
theorem dialStep_single {peer : PeerId} {s : Dialing PeerId Addr} (single : (s.inFlight peer).length ≤ 1)
    {event : DialEvent PeerId Addr} (alone : ¬ DialsFor peer event)
    (exhausted : Foreign peer s event → remaining s.ctx.pendingConnections peer = []) :
    ((dialStep s event).2.inFlight peer).length ≤ 1 := by
  cases event with
  | dial plan answer =>
    rw [(dialStep_dial_other s alone answer).2]
    exact single
  | failed reported own errorDebug answer nowUnixSecs =>
    have settled := (settle_length_le s.inFlight own peer).trans single
    by_cases reports : reported = some peer
    · subst reports
      have spec := dialStep_failed s peer own errorDebug answer nowUnixSecs
      by_cases foreign : Foreign peer s (.failed (some peer) own errorDebug answer nowUnixSecs)
      · have refused : firstAccepted answer (remaining s.ctx.pendingConnections peer).length = none := by
          rw [exhausted foreign]
          rfl
        simp only [refused] at spec
        rw [spec.2.2]
        exact settled
      · -- the failure of the one attempt in flight leaves room for the next
        have free : settle s.inFlight own peer = [] := by
          simp only [Foreign, true_and, not_forall, not_not] at foreign
          obtain ⟨attempt, flying, rfl⟩ := foreign
          refine settle_only ?_
          obtain ⟨only, same⟩ := List.length_eq_one_iff.mp
            (le_antisymm single (List.length_pos_of_mem flying))
          rw [same, List.mem_singleton] at flying
          rw [same, flying]
        cases found : firstAccepted answer (remaining s.ctx.pendingConnections peer).length with
        | some index =>
          simp only [found] at spec
          obtain ⟨attempt, _, _, _, flying⟩ := spec
          rw [flying, free]
          exact le_rfl
        | none =>
          simp only [found] at spec
          rw [spec.2.2]
          exact settled
    · rw [(dialStep_failed_other s reports own errorDebug answer nowUnixSecs).2]
      exact settled
  | established connected own => exact (settle_length_le s.inFlight own peer).trans single

theorem dialStep_opened {peer : PeerId} {s : Dialing PeerId Addr} (idle : s.inFlight peer = [])
    {plan : ConnectionPlan PeerId Addr} (target : plan.targetPeer = some peer) (answer : DialAnswers) :
    ((dialStep s (.dial plan answer)).2.inFlight peer).length ≤ 1 := by
  have spec := dialStep_dial s target answer
  cases found : firstAccepted answer plan.attempts.length with
  | some index =>
    simp only [found] at spec
    obtain ⟨attempt, _, _, _, flying⟩ := spec
    rw [flying, idle]
    exact le_rfl
  | none =>
    simp only [found] at spec
    rw [spec.2.2, idle]
    exact Nat.zero_le 1

/-- **One attempt at a time.** A plan of the peer is dialed, and then its reports come in among the events
of all other dials: at most one of its attempts is in flight at any time and no failure of another dial
takes a fallback, exactly when every such failure finds no fallback left. -/
theorem own_failures_only_iff (peer : PeerId) {start : Dialing PeerId Addr} (idle : start.inFlight peer = [])
    {plan : ConnectionPlan PeerId Addr} (target : plan.targetPeer = some peer) (answer : DialAnswers)
    (events : List (DialEvent PeerId Addr)) (alone : ∀ event ∈ events, ¬ DialsFor peer event) :
    let opened := (dialStep start (.dial plan answer)).2
    ((∀ count ≤ events.length, ((final dialStep opened (events.take count)).inFlight peer).length ≤ 1) ∧
      ∀ (count : ℕ) (event : DialEvent PeerId Addr), events[count]? = some event →
        OwnFailuresOnly peer (final dialStep opened (events.take count)) event) ↔
    ∀ (count : ℕ) (event : DialEvent PeerId Addr), events[count]? = some event →
      Foreign peer (final dialStep opened (events.take count)) event →
        remaining (final dialStep opened (events.take count)).ctx.pendingConnections peer = [] := by
  intro opened
  constructor
  · intro holds count event here
    exact (ownFailuresOnly_iff peer _ event).mp (holds.2 count event here)
  · intro exhausted
    refine ⟨fun count => ?_, fun count event here =>
      (ownFailuresOnly_iff peer _ event).mpr (exhausted count event here)⟩
    induction count with
    | zero => exact fun _ => dialStep_opened idle target answer
    | succ count ih =>
      intro within
      have here := List.getElem?_eq_getElem (l := events) within
      rw [List.take_add_one, here, Option.toList_some, final_concat]
      exact dialStep_single (ih (Nat.le_of_succ_le within)) (alone _ (List.getElem_mem within))
        (exhausted count _ here)

open TwoAttempts in
theorem own_failures_only_iff_single :
    ((final dialStep (dialStep start (.dial (plan [quic, tcp]) accepting)).2
      [TwoAttempts.failure quic accepting]).inFlight Seed.nnoo).length ≤ 1 := by
  have idle : start.inFlight Seed.nnoo = [] := rfl
  have target : (plan [quic, tcp]).targetPeer = some Seed.nnoo := rfl
  have alone : ∀ event ∈ [TwoAttempts.failure quic accepting], ¬ DialsFor Seed.nnoo event := by
    intro event member
    rw [List.mem_singleton.mp member]
    exact id
  have flying : (dialStep start (.dial (plan [quic, tcp]) accepting)).2.inFlight Seed.nnoo = [quic] := by
    decide
  refine ((own_failures_only_iff Seed.nnoo idle target accepting [TwoAttempts.failure quic accepting]
    alone).mpr ?_).1 1 le_rfl
  intro count event here foreign
  obtain ⟨within, rfl⟩ := List.getElem?_eq_some_iff.mp here
  obtain rfl : count = 0 := Nat.lt_one_iff.mp within
  -- the failure is the plan's own
  refine absurd rfl (foreign.2 quic ?_)
  show quic ∈ (dialStep start (.dial (plan [quic, tcp]) accepting)).2.inFlight Seed.nnoo
  rw [flying]
  exact List.mem_singleton_self quic

open TwoAttempts in
/-- **A failure of another dial moves the plan on**: the first attempt is still in flight when the second
one is dialed. -/
theorem foreign_failure_takes_fallback :
    let opened := (dialStep start (.dial (plan [quic, tcp]) accepting)).2
    let foreign := DialEvent.failed (some Seed.nnoo) none "Transport([])" accepting 1700000001
    opened.inFlight .nnoo = [quic] ∧ (dialStep opened foreign).1 = [tcp] ∧
      (dialStep opened foreign).2.inFlight .nnoo = [tcp, quic] := by
  decide

end P2pNet.Node
