/-
**External addresses** (`crates/stack/external_addresses.rs`).

`ExternalAddressCandidates` is a behaviour that hands public addresses to the swarm. It remembers the last
32 addresses it was given, so that each is confirmed once, and queues what the swarm is to be told; the
swarm takes one action from the queue with every poll. The swarm keeps the confirmed addresses itself.
-/

import P2pNet.Lib.Run
import P2pNet.Lib.Fifo
import P2pNet.Common.Multiaddr

set_option linter.unusedSectionVars false

namespace P2pNet.Stack

open Lib

variable {PeerId Addr : Type} [DecidableEq Addr] [Multiaddr PeerId Addr]

/-! ### A bounded memory -/

def maxExternalAddressCache : ℕ := 32

structure SeenAddresses (Addr : Type) where
  seen : Finset Addr
  order : List Addr

namespace SeenAddresses

def empty : SeenAddresses Addr := ⟨∅, []⟩

/-- The loop of `remember_bounded`: the first address of the queue that is remembered is forgotten. -/
def evictLoop (maxEntries : ℕ) (seen : Finset Addr) : List Addr → Option Addr × SeenAddresses Addr
  | [] => (none, ⟨seen, []⟩)
  | oldest :: rest =>
    if seen.card > maxEntries then
      if oldest ∈ seen then (some oldest, ⟨seen.erase oldest, rest⟩) else evictLoop maxEntries seen rest
    else (none, ⟨seen, oldest :: rest⟩)

/-- For a new address, the one that was forgotten for it, or itself. -/
def rememberBounded (memory : SeenAddresses Addr) (address : Addr) (maxEntries : ℕ) :
    Option Addr × SeenAddresses Addr :=
  if address ∈ memory.seen then (none, memory)
  else
    let (evicted, memory) := evictLoop maxEntries (insert address memory.seen) (memory.order ++ [address])
    (some (evicted.getD address), memory)

end SeenAddresses

/-! ### The behaviour -/

inductive ExternalAddressAction (Addr : Type)
  | candidate (address : Addr)
  | confirm (address : Addr)
  | expire (address : Addr)
  deriving DecidableEq

structure ExternalAddressCandidates (Addr : Type) where
  pending : List (ExternalAddressAction Addr)
  candidate : SeenAddresses Addr
  confirmed : SeenAddresses Addr

/-- Is the protocol `Tcp`? -/
def isTcp : Protocol PeerId → Bool
  | .other text => decide (['/', 't', 'c', 'p', '/'] <+: text.toList)
  | _ => false

def supportsDcutrPortReuse (windows : Bool) (address : Addr) : Bool :=
  if windows then !(Multiaddr.iter address).any isTcp else true

namespace ExternalAddressCandidates

def new : ExternalAddressCandidates Addr := ⟨[], .empty, .empty⟩

variable (candidates : ExternalAddressCandidates Addr)

def addCandidate (windows : Bool) (address : Addr) : ExternalAddressCandidates Addr :=
  if !supportsDcutrPortReuse windows address then candidates
  else
    let (fresh, candidate) := candidates.candidate.rememberBounded address maxExternalAddressCache
    { candidates with
      candidate
      pending := if fresh.isSome then candidates.pending ++ [.candidate address] else candidates.pending }

def addConfirmed (windows : Bool) (address : Addr) : ExternalAddressCandidates Addr :=
  let candidates := candidates.addCandidate windows address
  let (fresh, confirmed) := candidates.confirmed.rememberBounded address maxExternalAddressCache
  let actions := match fresh with
    | none => []
    | some evicted => (if evicted ≠ address then [.expire evicted] else []) ++ [.confirm address]
  { candidates with confirmed, pending := candidates.pending ++ actions }

def poll : Option (ExternalAddressAction Addr) × ExternalAddressCandidates Addr :=
  match candidates.pending with
  | [] => (none, candidates)
  | action :: rest => (some action, { candidates with pending := rest })

end ExternalAddressCandidates

/-! ### The swarm -/

/-- The behaviour and the confirmed addresses of the swarm. -/
structure ExternalAddresses (Addr : Type) where
  candidates : ExternalAddressCandidates Addr
  external : Finset Addr

/-- What the swarm does with an action. -/
def ExternalAddressAction.perform (external : Finset Addr) : ExternalAddressAction Addr → Finset Addr
  | .candidate _ => external
  | .confirm address => insert address external
  | .expire address => external.erase address

namespace ExternalAddresses

variable (s : ExternalAddresses Addr)

/-- The swarm polls the behaviour. -/
def pollStep : ExternalAddresses Addr :=
  match s.candidates.poll with
  | (none, candidates) => ⟨candidates, s.external⟩
  | (some action, candidates) => ⟨candidates, action.perform s.external⟩

/-- Polling as long as there is something to do. -/
def drained : ExternalAddresses Addr :=
  final (fun s (_ : Unit) => ((), pollStep s)) s (List.replicate s.candidates.pending.length ())

def addConfirmed (windows : Bool) (address : Addr) : ExternalAddresses Addr :=
  { s with candidates := s.candidates.addConfirmed windows address }

def addCandidate (windows : Bool) (address : Addr) : ExternalAddresses Addr :=
  { s with candidates := s.candidates.addCandidate windows address }

end ExternalAddresses

/-! ### What is remembered -/

namespace SeenAddresses

/-- The queue holds the remembered addresses, each once, and there are not too many. -/
structure Kept (maxEntries : ℕ) (memory : SeenAddresses Addr) : Prop where
  nodup : memory.order.Nodup
  mem_order : ∀ address, address ∈ memory.order ↔ address ∈ memory.seen
  bounded : memory.seen.card ≤ maxEntries

theorem kept_empty (maxEntries : ℕ) : Kept maxEntries (empty : SeenAddresses Addr) where
  nodup := List.nodup_nil
  mem_order address := by simp [empty]
  bounded := Nat.zero_le _

variable {memory : SeenAddresses Addr} {address : Addr}

theorem rememberBounded_of_mem (known : address ∈ memory.seen) (maxEntries : ℕ) :
    memory.rememberBounded address maxEntries = (none, memory) := if_pos known

theorem rememberBounded_isSome_iff (memory : SeenAddresses Addr) (address : Addr) (maxEntries : ℕ) :
    (memory.rememberBounded address maxEntries).1.isSome ↔ address ∉ memory.seen := by
  unfold rememberBounded
  split_ifs with known
  · simp [known]
  · exact iff_of_true rfl known

theorem Kept.queued {maxEntries : ℕ} (kept : Kept maxEntries memory) : Queued memory.order memory.seen :=
  ⟨kept.nodup, kept.mem_order⟩

/-- **A new address** is remembered, if need be for the oldest one. -/
theorem Kept.rememberBounded_fresh {maxEntries : ℕ} (kept : Kept maxEntries memory) (room : 0 < maxEntries)
    (fresh : address ∉ memory.seen) :
    (memory.seen.card < maxEntries ∧ memory.rememberBounded address maxEntries
        = (some address, ⟨insert address memory.seen, memory.order ++ [address]⟩)) ∨
      ∃ oldest rest, memory.order = oldest :: rest ∧ oldest ∈ memory.seen ∧ oldest ≠ address ∧
        memory.seen.card = maxEntries ∧ memory.rememberBounded address maxEntries
          = (some oldest, ⟨(insert address memory.seen).erase oldest, rest ++ [address]⟩) := by
  have count := Finset.card_insert_of_notMem fresh
  unfold SeenAddresses.rememberBounded
  rw [if_neg fresh]
  by_cases full : memory.seen.card < maxEntries
  · have small : ¬ (insert address memory.seen).card > maxEntries := by omega
    refine .inl ⟨full, ?_⟩
    cases memory.order <;> simp [evictLoop, small]
  · have exactly := le_antisymm kept.bounded (not_lt.mp full)
    obtain ⟨oldest, rest, order, member, different, _⟩ := kept.queued.cycle fresh (by omega)
    have large : (insert address memory.seen).card > maxEntries := by omega
    have inside : oldest ∈ insert address memory.seen := Finset.mem_insert_of_mem member
    refine .inr ⟨oldest, rest, order, member, different, exactly, ?_⟩
    rw [order]
    simp only [List.cons_append, evictLoop, if_pos large, if_pos inside, Option.getD_some]

theorem Kept.rememberBounded {maxEntries : ℕ} (kept : Kept maxEntries memory) (room : 0 < maxEntries)
    (address : Addr) : Kept maxEntries (memory.rememberBounded address maxEntries).2 := by
  by_cases fresh : address ∈ memory.seen
  · rw [rememberBounded_of_mem fresh]
    exact kept
  · have pushed := kept.queued.push fresh
    have count := Finset.card_insert_of_notMem fresh
    rcases kept.rememberBounded_fresh room fresh with ⟨free, same⟩ | ⟨oldest, rest, order, member, _, full, same⟩
    · rw [same]
      exact ⟨pushed.nodup, pushed.mem_order, count.trans_le free⟩
    · rw [order] at pushed
      rw [same]
      refine ⟨pushed.pop.nodup, pushed.pop.mem_order, ?_⟩
      rw [Finset.card_erase_of_mem (Finset.mem_insert_of_mem member)]
      omega

/-- A new address is not the one that is forgotten for it. -/
theorem Kept.mem_rememberBounded {maxEntries : ℕ} (kept : Kept maxEntries memory) (room : 0 < maxEntries)
    (address : Addr) : address ∈ (memory.rememberBounded address maxEntries).2.seen := by
  by_cases fresh : address ∈ memory.seen
  · rw [rememberBounded_of_mem fresh]
    exact fresh
  · rcases kept.rememberBounded_fresh room fresh with ⟨_, same⟩ | ⟨oldest, rest, _, _, different, _, same⟩
    · rw [same]
      exact Finset.mem_insert_self _ _
    · rw [same]
      exact Finset.mem_erase.mpr ⟨different.symm, Finset.mem_insert_self _ _⟩

end SeenAddresses

/-! ### What the swarm is told -/

/-- The confirmed addresses after a sequence of actions. -/
def performAll (external : Finset Addr) (actions : List (ExternalAddressAction Addr)) : Finset Addr :=
  actions.foldl ExternalAddressAction.perform external

theorem performAll_append (external : Finset Addr) (first second : List (ExternalAddressAction Addr)) :
    performAll external (first ++ second) = performAll (performAll external first) second :=
  List.foldl_append

/-- Actions that do not confirm an address do not make it external. -/
theorem notMem_performAll {external : Finset Addr} {actions : List (ExternalAddressAction Addr)} {address : Addr}
    (absent : address ∉ external) (silent : .confirm address ∉ actions) :
    address ∉ performAll external actions := by
  induction actions generalizing external with
  | nil => exact absent
  | cons action rest ih =>
    obtain ⟨other, later⟩ := List.ne_and_not_mem_of_not_mem_cons silent
    refine ih ?_ later
    cases action with
    | candidate _ => exact absent
    | confirm added =>
      refine fun inside => (Finset.mem_insert.mp inside).elim (fun same => other ?_) absent
      rw [same]
    | expire removed => exact fun inside => absent (Finset.mem_of_mem_erase inside)

namespace ExternalAddresses

theorem pollStep_cons {s : ExternalAddresses Addr} {action : ExternalAddressAction Addr}
    {rest : List (ExternalAddressAction Addr)} (queued : s.candidates.pending = action :: rest) :
    pollStep s = ⟨{ s.candidates with pending := rest }, action.perform s.external⟩ := by
  unfold pollStep ExternalAddressCandidates.poll
  rw [queued]

/-- **Polling until the queue is empty.** -/
theorem drained_eq (s : ExternalAddresses Addr) : s.drained
    = ⟨{ s.candidates with pending := [] }, performAll s.external s.candidates.pending⟩ := by
  unfold drained
  generalize queued : s.candidates.pending = pending
  induction pending generalizing s with
  | nil =>
    obtain ⟨⟨_, candidate, confirmed⟩, external⟩ := s
    cases queued
    rfl
  | cons action rest ih =>
    rw [List.length_cons, List.replicate_succ, final_cons]
    dsimp only
    rw [pollStep_cons queued, ih _ rfl]
    rfl

end ExternalAddresses

namespace ExternalAddressCandidates

variable {candidates : ExternalAddressCandidates Addr} (windows : Bool) (address : Addr)

/-- A candidate is at most announced as such. -/
theorem addCandidate_case (candidates : ExternalAddressCandidates Addr) :
    (candidates.addCandidate windows address).confirmed = candidates.confirmed ∧
      ((candidates.addCandidate windows address).pending = candidates.pending ∨
        (candidates.addCandidate windows address).pending = candidates.pending ++ [.candidate address]) := by
  unfold addCandidate
  split
  · exact ⟨rfl, .inl rfl⟩
  · refine ⟨rfl, ?_⟩
    dsimp only
    split_ifs
    · exact .inr rfl
    · exact .inl rfl

/-- A remembered address is not confirmed again. -/
theorem addConfirmed_of_mem (known : address ∈ candidates.confirmed.seen) :
    candidates.addConfirmed windows address = candidates.addCandidate windows address := by
  have same := (candidates.addCandidate_case windows address).1
  unfold addConfirmed
  dsimp only
  rw [same, SeenAddresses.rememberBounded_of_mem known]
  dsimp only
  rw [List.append_nil, ← same]

/-- A new address is confirmed last. -/
theorem addConfirmed_of_notMem (fresh : address ∉ candidates.confirmed.seen) :
    ∃ earlier : List (ExternalAddressAction Addr), (∀ other, .confirm other ∉ earlier) ∧
      (candidates.addConfirmed windows address).pending
        = candidates.pending ++ earlier ++ [ExternalAddressAction.confirm address] := by
  obtain ⟨same, pending⟩ := candidates.addCandidate_case windows address
  rw [← SeenAddresses.rememberBounded_isSome_iff _ _ maxExternalAddressCache] at fresh
  obtain ⟨evicted, remembered⟩ := Option.isSome_iff_exists.mp fresh
  have queue : (candidates.addConfirmed windows address).pending = (candidates.addCandidate windows address).pending
      ++ ((if evicted ≠ address then [.expire evicted] else []) ++ [.confirm address]) := by
    unfold addConfirmed
    dsimp only
    rw [same, remembered]
  have quiet (other : Addr) : ExternalAddressAction.confirm other
      ∉ (if evicted ≠ address then [.expire evicted] else []) := by
    split_ifs <;> simp
  rcases pending with unchanged | queued
  · refine ⟨_, quiet, ?_⟩
    rw [queue, unchanged, List.append_assoc]
  · refine ⟨.candidate address :: (if evicted ≠ address then [.expire evicted] else []), ?_, ?_⟩
    · intro other member
      rcases List.mem_cons.mp member with candidate | expired
      · cases candidate
      · exact quiet other expired
    · rw [queue, queued]
      simp only [List.append_assoc, List.cons_append, List.nil_append]

/-- What the addition of an address confirms. -/
theorem confirm_mem_addConfirmed {other : Addr}
    (queued : .confirm other ∈ (candidates.addConfirmed windows address).pending) :
    .confirm other ∈ candidates.pending ∨ other = address ∧ address ∉ candidates.confirmed.seen := by
  by_cases known : address ∈ candidates.confirmed.seen
  · rw [addConfirmed_of_mem windows address known] at queued
    rcases (candidates.addCandidate_case windows address).2 with same | candidate
    · exact .inl (same ▸ queued)
    · rw [candidate] at queued
      refine .inl ((List.mem_append.mp queued).resolve_right fun last => ?_)
      cases List.mem_singleton.mp last
  · obtain ⟨earlier, quiet, pending⟩ := addConfirmed_of_notMem windows address known
    rw [pending] at queued
    rcases List.mem_append.mp queued with before | last
    · exact .inl ((List.mem_append.mp before).resolve_right (quiet other))
    · cases List.mem_singleton.mp last
      exact .inr ⟨rfl, known⟩

end ExternalAddressCandidates

/-- **When an added address is confirmed.** -/
theorem ExternalAddresses.mem_drained_addConfirmed_iff (s : ExternalAddresses Addr) (windows : Bool)
    (address : Addr) : address ∈ (s.addConfirmed windows address).drained.external ↔
      address ∉ s.candidates.confirmed.seen ∨ address ∈ s.drained.external := by
  simp only [drained_eq, addConfirmed]
  by_cases known : address ∈ s.candidates.confirmed.seen
  · have candidate (external : Finset Addr) : performAll external [.candidate address] = external := rfl
    rw [ExternalAddressCandidates.addConfirmed_of_mem windows address known]
    rcases (s.candidates.addCandidate_case windows address).2 with same | queued
    · simp [same, known]
    · rw [queued, performAll_append, candidate]
      simp [known]
  · obtain ⟨earlier, -, pending⟩ :=
      ExternalAddressCandidates.addConfirmed_of_notMem windows address known
    refine iff_of_true ?_ (.inl known)
    rw [pending, performAll_append]
    exact Finset.mem_insert_self _ _

/-! ### Effects -/

/-- What may happen to the external addresses in one step. `elsewhere` are the addresses that other
behaviours of the swarm confirm. -/
inductive Effect (windows : Bool) (elsewhere : Addr → Prop) (s : ExternalAddresses Addr) :
    ExternalAddresses Addr → Prop
  | same : Effect windows elsewhere s s
  | polled : Effect windows elsewhere s s.pollStep
  | added (address : Addr) : Effect windows elsewhere s (s.addConfirmed windows address)
  | offered (address : Addr) : Effect windows elsewhere s (s.addCandidate windows address)
  | removed (address : Addr) : Effect windows elsewhere s { s with external := s.external.erase address }
  | confirmed (address : Addr) (other : elsewhere address) :
      Effect windows elsewhere s { s with external := insert address s.external }

/-- A poll takes one action from the queue. -/
theorem ExternalAddresses.pollStep_case (s : ExternalAddresses Addr) :
    s.pollStep = s ∨ ∃ action rest, s.candidates.pending = action :: rest ∧
      s.pollStep = ⟨{ s.candidates with pending := rest }, action.perform s.external⟩ := by
  cases queued : s.candidates.pending with
  | nil =>
    refine .inl ?_
    unfold pollStep ExternalAddressCandidates.poll
    rw [queued]
  | cons action rest => exact .inr ⟨action, rest, rfl, pollStep_cons queued⟩

/-- The address is remembered, but neither confirmed nor about to be. -/
structure Lost (address : Addr) (s : ExternalAddresses Addr) : Prop where
  remembered : address ∈ s.candidates.confirmed.seen
  unqueued : .confirm address ∉ s.candidates.pending
  absent : address ∉ s.external

namespace Lost

variable {address : Addr} {s after : ExternalAddresses Addr} {windows : Bool} {elsewhere : Addr → Prop}

theorem notMem_drained (lost : Lost address s) : address ∉ s.drained.external := by
  rw [ExternalAddresses.drained_eq]
  exact notMem_performAll lost.absent lost.unqueued

/-- **A lost address stays lost** while it is remembered and nobody else confirms it. -/
theorem effect (lost : Lost address s) (effect : Effect windows elsewhere s after)
    (remembered : address ∈ after.candidates.confirmed.seen) (other : ¬ elsewhere address) :
    Lost address after := by
  refine ⟨remembered, ?_, ?_⟩
  · cases effect with
    | same => exact lost.unqueued
    | polled =>
      rcases s.pollStep_case with same | ⟨action, rest, queued, polled⟩
      · rw [same]
        exact lost.unqueued
      · rw [polled]
        intro later
        refine lost.unqueued ?_
        rw [queued]
        exact List.mem_cons_of_mem action later
    | added added =>
      intro queued
      rcases ExternalAddressCandidates.confirm_mem_addConfirmed windows added queued with before | ⟨rfl, fresh⟩
      · exact lost.unqueued before
      · exact fresh lost.remembered
    | offered offered =>
      intro queued
      rcases (s.candidates.addCandidate_case windows offered).2 with same | candidate
      · exact lost.unqueued (same ▸ queued)
      · change _ ∈ (s.candidates.addCandidate windows offered).pending at queued
        rw [candidate] at queued
        refine lost.unqueued ((List.mem_append.mp queued).resolve_right fun last => ?_)
        cases List.mem_singleton.mp last
    | removed _ => exact lost.unqueued
    | confirmed _ _ => exact lost.unqueued
  · cases effect with
    | same => exact lost.absent
    | polled =>
      rcases s.pollStep_case with same | ⟨action, rest, queued, polled⟩
      · rw [same]
        exact lost.absent
      · rw [polled]
        show address ∉ performAll s.external [action]
        refine notMem_performAll lost.absent fun only => lost.unqueued ?_
        rw [queued, List.mem_singleton.mp only]
        exact List.mem_cons_self
    | added _ => exact lost.absent
    | offered _ => exact lost.absent
    | removed removed => exact fun inside => lost.absent (Finset.mem_of_mem_erase inside)
    | confirmed added elsewhere =>
      refine fun inside => (Finset.mem_insert.mp inside).elim (fun same => other ?_) lost.absent
      rw [same]
      exact elsewhere

end Lost

/-- Both memories of the behaviour are in order. -/
structure Remembering (s : ExternalAddresses Addr) : Prop where
  candidate : s.candidates.candidate.Kept maxExternalAddressCache
  confirmed : s.candidates.confirmed.Kept maxExternalAddressCache

namespace Remembering

variable {s after : ExternalAddresses Addr} {windows : Bool} {elsewhere : Addr → Prop}

theorem addCandidate (remembering : Remembering s) (windows : Bool) (address : Addr) :
    Remembering (s.addCandidate windows address) := by
  refine ⟨?_, ?_⟩
  · show ((s.candidates.addCandidate windows address).candidate).Kept _
    unfold ExternalAddressCandidates.addCandidate
    split
    · exact remembering.candidate
    · exact remembering.candidate.rememberBounded (by decide) address
  · show ((s.candidates.addCandidate windows address).confirmed).Kept _
    rw [(s.candidates.addCandidate_case windows address).1]
    exact remembering.confirmed

theorem mem_addConfirmed (remembering : Remembering s) (windows : Bool) (address : Addr) :
    address ∈ (s.addConfirmed windows address).candidates.confirmed.seen :=
  (remembering.addCandidate windows address).confirmed.mem_rememberBounded (by decide) address

end Remembering

/-! ### Replaying what the swarm is told -/

inductive BehaviourCall (Addr : Type)
  | addCandidate (address : Addr)
  | addConfirmed (address : Addr)
  | poll

def behaviourStep (windows : Bool) (candidates : ExternalAddressCandidates Addr) :
    BehaviourCall Addr → Option (ExternalAddressAction Addr) × ExternalAddressCandidates Addr
  | .addCandidate address => (none, candidates.addCandidate windows address)
  | .addConfirmed address => (none, candidates.addConfirmed windows address)
  | .poll => candidates.poll

/-- Only an address that is not confirmed is confirmed, while there is room, and only a confirmed one expires. -/
def ExternalAddressAction.Fits (external : Finset Addr) : ExternalAddressAction Addr → Prop
  | .candidate _ => True
  | .confirm address => address ∉ external ∧ external.card < maxExternalAddressCache
  | .expire address => address ∈ external

def Orderly : Finset Addr → List (ExternalAddressAction Addr) → Prop
  | _, [] => True
  | external, action :: rest => action.Fits external ∧ Orderly (action.perform external) rest

theorem orderly_append {external : Finset Addr} {first second : List (ExternalAddressAction Addr)} :
    Orderly external (first ++ second) ↔ Orderly external first ∧ Orderly (performAll external first) second := by
  induction first generalizing external with
  | nil => simp [Orderly, performAll]
  | cons action rest ih => simp [Orderly, ih, performAll, and_assoc]

theorem card_performAll_le {external : Finset Addr} {actions : List (ExternalAddressAction Addr)}
    (orderly : Orderly external actions) (few : external.card ≤ maxExternalAddressCache) :
    (performAll external actions).card ≤ maxExternalAddressCache := by
  induction actions generalizing external with
  | nil => exact few
  | cons action rest ih =>
    refine ih orderly.2 ?_
    cases action with
    | candidate _ => exact few
    | confirm address => exact (Finset.card_insert_le _ _).trans orderly.1.2
    | expire address => exact Finset.card_erase_le.trans few

/-- The queued actions bring the swarm to what the behaviour remembers. -/
structure Replayed (emitted : List (ExternalAddressAction Addr)) (candidates : ExternalAddressCandidates Addr) :
    Prop where
  kept : candidates.confirmed.Kept maxExternalAddressCache
  orderly : Orderly ∅ (emitted ++ candidates.pending)
  replay : performAll ∅ (emitted ++ candidates.pending) = candidates.confirmed.seen

namespace Replayed

variable {emitted : List (ExternalAddressAction Addr)} {candidates : ExternalAddressCandidates Addr}
  (replayed : Replayed emitted candidates) (windows : Bool) (address : Addr)

include replayed

theorem addCandidate : Replayed emitted (candidates.addCandidate windows address) := by
  obtain ⟨same, unchanged | queued⟩ := candidates.addCandidate_case windows address
  · exact ⟨same ▸ replayed.kept, unchanged ▸ replayed.orderly, by rw [unchanged, same, replayed.replay]⟩
  · refine ⟨same ▸ replayed.kept, ?_, ?_⟩
    · rw [queued, ← List.append_assoc, orderly_append]
      exact ⟨replayed.orderly, trivial, trivial⟩
    · rw [queued, ← List.append_assoc, performAll_append, replayed.replay, same]
      rfl

/-- **A confirmed address** is announced after the one that expires for it. -/
theorem addConfirmed : Replayed emitted (candidates.addConfirmed windows address) := by
  have offered := replayed.addCandidate windows address
  by_cases known : address ∈ candidates.confirmed.seen
  · rw [ExternalAddressCandidates.addConfirmed_of_mem windows address known]
    exact offered
  · have same := (candidates.addCandidate_case windows address).1
    have kept := replayed.kept.rememberBounded (by decide) address
    unfold ExternalAddressCandidates.addConfirmed
    dsimp only
    rw [same]
    rcases replayed.kept.rememberBounded_fresh (by decide) known with
      ⟨free, remembered⟩ | ⟨oldest, rest, _, member, different, full, remembered⟩
    · rw [remembered] at kept ⊢
      refine ⟨kept, ?_, ?_⟩
      · simp only [ne_eq, not_true_eq_false, if_false, List.nil_append, ← List.append_assoc, orderly_append,
          offered.replay, same]
        exact ⟨orderly_append.mp offered.orderly, ⟨known, free⟩, trivial⟩
      · simp only [ne_eq, not_true_eq_false, if_false, List.nil_append, ← List.append_assoc, performAll_append,
          offered.replay, same]
        rfl
    · rw [remembered] at kept ⊢
      have moved : insert address (candidates.confirmed.seen.erase oldest)
          = (insert address candidates.confirmed.seen).erase oldest :=
        (Finset.erase_insert_of_ne different.symm).symm
      refine ⟨kept, ?_, ?_⟩
      · simp only [ne_eq, different, not_false_eq_true, if_true, ← List.append_assoc, orderly_append, performAll_append,
          offered.replay, same]
        refine ⟨⟨orderly_append.mp offered.orderly, member, trivial⟩, ⟨fun inside => known (Finset.mem_of_mem_erase inside), ?_⟩, trivial⟩
        show (candidates.confirmed.seen.erase oldest).card < _
        rw [Finset.card_erase_of_mem member, full]
        decide
      · simp only [ne_eq, different, not_false_eq_true, if_true, ← List.append_assoc, performAll_append,
          offered.replay, same]
        exact moved

theorem poll : Replayed (emitted ++ candidates.poll.1.toList) candidates.poll.2 := by
  unfold ExternalAddressCandidates.poll
  cases queued : candidates.pending with
  | nil => simpa using replayed
  | cons action rest =>
    obtain ⟨kept, orderly, replay⟩ := replayed
    rw [queued, List.append_cons] at orderly replay
    exact ⟨kept, orderly, replay⟩

end Replayed

/-- **Every run**, with everything it has emitted. -/
theorem replayed_final (windows : Bool) (calls : List (BehaviourCall Addr)) :
    Replayed (outputs (behaviourStep windows) .new calls).reduceOption (final (behaviourStep windows) .new calls) := by
  induction calls using List.reverseRecOn with
  | nil => exact ⟨SeenAddresses.kept_empty _, trivial, rfl⟩
  | append_singleton calls call ih =>
    rw [final_concat, outputs_concat, List.reduceOption_append, List.reduceOption_singleton]
    cases call with
    | addCandidate address => simpa [behaviourStep] using ih.addCandidate windows address
    | addConfirmed address => simpa [behaviourStep] using ih.addConfirmed windows address
    | poll => exact ih.poll

/-- **External address bookkeeping.** What was emitted confirms and expires in turn, with at most 32 addresses at a
time; once everything queued has been polled it leaves what the behaviour remembers. -/
theorem external_addresses_replayed (windows : Bool) (calls : List (BehaviourCall Addr)) :
    let emitted := (outputs (behaviourStep windows) .new calls).reduceOption
    let candidates := final (behaviourStep windows) .new calls
    (candidates.pending = [] → performAll ∅ emitted = candidates.confirmed.seen) ∧
      candidates.confirmed.order.Nodup ∧
      (∀ address, address ∈ candidates.confirmed.order ↔ address ∈ candidates.confirmed.seen) ∧
      candidates.confirmed.seen.card ≤ 32 ∧
      (∀ before address after, emitted = before ++ .expire address :: after → address ∈ performAll ∅ before) ∧
      (∀ before address after, emitted = before ++ .confirm address :: after → address ∉ performAll ∅ before) ∧
      ∀ count, (performAll ∅ (emitted.take count)).card ≤ 32 := by
  dsimp only
  have replayed := replayed_final windows calls
  generalize (outputs (behaviourStep windows) .new calls).reduceOption = emitted at replayed ⊢
  obtain ⟨kept, orderly, replay⟩ := replayed
  have told := (orderly_append.mp orderly).1
  refine ⟨fun polled => ?_, kept.nodup, kept.mem_order, kept.bounded, ?_, ?_, fun count => ?_⟩
  · rw [polled, List.append_nil] at replay
    exact replay
  · rintro before address after rfl
    exact (orderly_append.mp told).2.1
  · rintro before address after rfl
    exact (orderly_append.mp told).2.1.1
  · rw [← List.take_append_drop count emitted, orderly_append] at told
    exact card_performAll_le told.1 (Nat.zero_le _)

end P2pNet.Stack
