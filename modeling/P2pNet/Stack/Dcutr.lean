/-
**The allow list of direct upgrades** (`DcutrBehaviour` of `crates/stack/dcutr.rs`).

A peer is upgraded from a relayed to a direct connection only if it is on a list of at most 1024 peers, and each peer of
the list has a budget of attempts with a pause between them. The list is first in, first out: a peer that is dropped
loses its budget, and gets a new one when it is allowed again.

`upgrade_budget` states the bounds relative to the time that a peer stays on the list.
-/

import P2pNet.Lib.Run
import P2pNet.Lib.Fifo
import P2pNet.Lib.Table

namespace P2pNet.Stack

open Lib

def maxAllowedDcutrPeers : ℕ := 1024

/-- Instants and durations are in nanoseconds. -/
structure DcutrBehaviour (PeerId : Type) where
  retryInterval : ℕ
  maxAttemptsPerPeer : UInt32
  allowedPeers : Finset PeerId
  allowedPeerOrder : List PeerId
  attemptsByPeer : Table PeerId UInt32
  lastAttemptByPeer : Table PeerId ℕ

namespace DcutrBehaviour

variable {PeerId : Type} [DecidableEq PeerId]

def new (retryIntervalSecs : UInt64) (maxAttemptsPerPeer : UInt32) : DcutrBehaviour PeerId where
  retryInterval := max retryIntervalSecs.toNat 1 * 10 ^ 9
  maxAttemptsPerPeer := max maxAttemptsPerPeer 1
  allowedPeers := ∅
  allowedPeerOrder := []
  attemptsByPeer := ∅
  lastAttemptByPeer := ∅

/-- The loop of `allow_peer` over the order. -/
def evictLoop (s : DcutrBehaviour PeerId) : List PeerId → DcutrBehaviour PeerId
  | [] => { s with allowedPeerOrder := [] }
  | evicted :: rest =>
    if s.allowedPeers.card > maxAllowedDcutrPeers then
      if evicted ∈ s.allowedPeers then
        evictLoop { s with
          allowedPeers := s.allowedPeers.erase evicted
          attemptsByPeer := s.attemptsByPeer.erase evicted
          lastAttemptByPeer := s.lastAttemptByPeer.erase evicted } rest
      else evictLoop s rest
    else { s with allowedPeerOrder := evicted :: rest }

def allowPeer (s : DcutrBehaviour PeerId) (peer : PeerId) : DcutrBehaviour PeerId :=
  if peer ∈ s.allowedPeers then s
  else evictLoop { s with allowedPeers := insert peer s.allowedPeers } (s.allowedPeerOrder ++ [peer])

def allowRelayedUpgrade (s : DcutrBehaviour PeerId) (peer : PeerId) (requireAllowlist : Bool) (now : ℕ) :
    Bool × DcutrBehaviour PeerId :=
  if requireAllowlist ∧ peer ∉ s.allowedPeers then (false, s)
  else
    let s := if peer ∉ s.allowedPeers then s.allowPeer peer else s
    let (attempts, attemptsByPeer) := s.attemptsByPeer.entryOr peer 0
    let s := { s with attemptsByPeer }
    if attempts ≥ s.maxAttemptsPerPeer then (false, s)
    else if (s.lastAttemptByPeer.lookup peer).any fun last => now - last < s.retryInterval then (false, s)
    else (true, { s with
      attemptsByPeer := s.attemptsByPeer.insert peer (UInt32.ofNat (min (attempts.toNat + 1) (2 ^ 32 - 1)))
      lastAttemptByPeer := s.lastAttemptByPeer.insert peer now })

/-! ### One call -/

/-- The list is in order, and the budgets are those of its peers. -/
structure Consistent (s : DcutrBehaviour PeerId) : Prop where
  queued : Queued s.allowedPeerOrder s.allowedPeers
  bounded : s.allowedPeers.card ≤ maxAllowedDcutrPeers
  attempts : ∀ peer ∈ s.attemptsByPeer, peer ∈ s.allowedPeers
  last : ∀ peer ∈ s.lastAttemptByPeer, peer ∈ s.allowedPeers

/-- **A newly allowed peer** is added, if need be for the oldest one and its budget. -/
theorem allowPeer_fresh {s : DcutrBehaviour PeerId} (consistent : Consistent s) {peer : PeerId}
    (fresh : peer ∉ s.allowedPeers) :
    s.allowPeer peer = { s with
        allowedPeers := insert peer s.allowedPeers, allowedPeerOrder := s.allowedPeerOrder ++ [peer] } ∧
        s.allowedPeers.card < maxAllowedDcutrPeers ∨
      ∃ oldest rest, s.allowedPeerOrder = oldest :: rest ∧ oldest ∈ s.allowedPeers ∧
        s.allowPeer peer = { s with
          allowedPeers := (insert peer s.allowedPeers).erase oldest
          allowedPeerOrder := rest ++ [peer]
          attemptsByPeer := s.attemptsByPeer.erase oldest
          lastAttemptByPeer := s.lastAttemptByPeer.erase oldest } := by
  have count := Finset.card_insert_of_notMem fresh
  have bounded := consistent.bounded
  unfold allowPeer
  rw [if_neg fresh]
  by_cases room : s.allowedPeers.card < maxAllowedDcutrPeers
  · have small : ¬ (insert peer s.allowedPeers).card > maxAllowedDcutrPeers := by omega
    refine .inl ⟨?_, room⟩
    cases s.allowedPeerOrder <;> simp [evictLoop, small]
  · have positive : 0 < s.allowedPeers.card := lt_of_lt_of_le (by decide) (not_lt.mp room)
    obtain ⟨oldest, rest, order, member, _⟩ := consistent.queued.cycle fresh positive
    have inside : oldest ∈ insert peer s.allowedPeers := Finset.mem_insert_of_mem member
    have large : (insert peer s.allowedPeers).card > maxAllowedDcutrPeers := by omega
    have small : ¬ ((insert peer s.allowedPeers).erase oldest).card > maxAllowedDcutrPeers := by
      rw [Finset.card_erase_of_mem inside]
      omega
    refine .inr ⟨oldest, rest, order, member, ?_⟩
    rw [order, List.cons_append, evictLoop, if_pos large, if_pos inside]
    cases rest <;> simp [evictLoop, small]

theorem allowPeer_consistent {s : DcutrBehaviour PeerId} (consistent : Consistent s) (peer : PeerId) :
    Consistent (s.allowPeer peer) := by
  by_cases fresh : peer ∈ s.allowedPeers
  · rwa [allowPeer, if_pos fresh]
  rcases allowPeer_fresh consistent fresh with ⟨result, room⟩ | ⟨oldest, rest, order, member, result⟩
  · rw [result]
    refine ⟨consistent.queued.push fresh, ?_, ?_, ?_⟩
    · rw [Finset.card_insert_of_notMem fresh]
      exact room
    · exact fun other stored => Finset.mem_insert_of_mem (consistent.attempts other stored)
    · exact fun other stored => Finset.mem_insert_of_mem (consistent.last other stored)
  · have inside : oldest ∈ insert peer s.allowedPeers := Finset.mem_insert_of_mem member
    have queued := consistent.queued
    rw [order] at queued
    rw [result]
    refine ⟨(queued.push fresh).pop, ?_, ?_, ?_⟩
    · rw [Finset.card_erase_of_mem inside, Finset.card_insert_of_notMem fresh]
      exact consistent.bounded
    · intro other stored
      rw [AList.mem_erase] at stored
      exact Finset.mem_erase.mpr ⟨stored.1, Finset.mem_insert_of_mem (consistent.attempts other stored.2)⟩
    · intro other stored
      rw [AList.mem_erase] at stored
      exact Finset.mem_erase.mpr ⟨stored.1, Finset.mem_insert_of_mem (consistent.last other stored.2)⟩

/-- A peer that stays on the list keeps its budget. -/
theorem allowPeer_frame {s : DcutrBehaviour PeerId} (consistent : Consistent s) (added : PeerId) {peer : PeerId}
    (after : peer ∈ (s.allowPeer added).allowedPeers) :
    (s.allowPeer added).attemptsByPeer.lookup peer = s.attemptsByPeer.lookup peer ∧
      (s.allowPeer added).lastAttemptByPeer.lookup peer = s.lastAttemptByPeer.lookup peer := by
  by_cases fresh : added ∈ s.allowedPeers
  · rw [allowPeer, if_pos fresh]
    exact ⟨rfl, rfl⟩
  rcases allowPeer_fresh consistent fresh with ⟨result, _⟩ | ⟨oldest, rest, _, _, result⟩
  · rw [result]
    exact ⟨rfl, rfl⟩
  · rw [result] at after ⊢
    have other : peer ≠ oldest := (Finset.mem_erase.mp after).1
    exact ⟨AList.lookup_erase_ne other, AList.lookup_erase_ne other⟩

theorem allowPeer_settings (s : DcutrBehaviour PeerId) (consistent : Consistent s) (peer : PeerId) :
    (s.allowPeer peer).retryInterval = s.retryInterval ∧
      (s.allowPeer peer).maxAttemptsPerPeer = s.maxAttemptsPerPeer := by
  by_cases fresh : peer ∈ s.allowedPeers
  · rw [allowPeer, if_pos fresh]
    exact ⟨rfl, rfl⟩
  rcases allowPeer_fresh consistent fresh with ⟨result, _⟩ | ⟨_, _, _, _, result⟩ <;> simp [result]

/-- The attempts that a peer has used up. -/
def used (s : DcutrBehaviour PeerId) (peer : PeerId) : ℕ := ((s.attemptsByPeer.lookup peer).getD 0).toNat

/-- **What an upgrade of a listed peer can do**: it is refused, or one attempt is used up after a pause. -/
theorem upgrade_listed {s : DcutrBehaviour PeerId} {peer : PeerId} (listed : peer ∈ s.allowedPeers) (now : ℕ) :
    ∃ table : Table PeerId UInt32,
      (∀ other, (table.lookup other).getD 0 = (s.attemptsByPeer.lookup other).getD 0) ∧
      (∀ other ∈ table, other = peer ∨ other ∈ s.attemptsByPeer) ∧
      (s.allowRelayedUpgrade peer true now = (false, { s with attemptsByPeer := table }) ∨
        ∃ count : UInt32, count.toNat = s.used peer + 1 ∧ count ≤ s.maxAttemptsPerPeer ∧
          (∀ last, s.lastAttemptByPeer.lookup peer = some last → s.retryInterval ≤ now - last) ∧
          s.allowRelayedUpgrade peer true now = (true, { s with
            attemptsByPeer := table.insert peer count
            lastAttemptByPeer := s.lastAttemptByPeer.insert peer now })) := by
  obtain ⟨table, entry, values, keys⟩ := s.attemptsByPeer.entryOr_eq peer 0
  refine ⟨table, values, keys, ?_⟩
  simp only [allowRelayedUpgrade, listed, not_true_eq_false, and_false, if_false, entry]
  by_cases spent : (s.attemptsByPeer.lookup peer).getD 0 ≥ s.maxAttemptsPerPeer
  · exact .inl (if_pos spent)
  rw [if_neg spent]
  by_cases early : (s.lastAttemptByPeer.lookup peer).any fun last => now - last < s.retryInterval
  · exact .inl (if_pos early)
  have left : s.used peer < s.maxAttemptsPerPeer.toNat := UInt32.lt_iff_toNat_lt.mp (UInt32.not_le.mp spent)
  have word : s.maxAttemptsPerPeer.toNat < 2 ^ 32 := s.maxAttemptsPerPeer.toNat_lt
  have count : (UInt32.ofNat (min (s.used peer + 1) (2 ^ 32 - 1))).toNat = s.used peer + 1 := by
    rw [UInt32.toNat_ofNat', Nat.mod_eq_of_lt] <;> omega
  refine .inr ⟨_, count, ?_, ?_, if_neg early⟩
  · rw [UInt32.le_iff_toNat_le, count]
    exact left
  · intro last stored
    simpa [stored] using early

/-! ### Runs -/

/-- A call of the run: `allow_relayed_upgrade` insists on the list, at the time of its clock reading. -/
inductive Call (PeerId : Type)
  | allow (peer : PeerId)
  | upgrade (peer : PeerId) (now : ℕ)

def step (s : DcutrBehaviour PeerId) : Call PeerId → Bool × DcutrBehaviour PeerId
  | .allow peer => (false, s.allowPeer peer)
  | .upgrade peer now => s.allowRelayedUpgrade peer true now

/-- The peer is on the list before, between and after the calls. -/
def Stays (peer : PeerId) (s : DcutrBehaviour PeerId) (calls : List (Call PeerId)) : Prop :=
  ∀ passed, passed <+: calls → peer ∈ (final step s passed).allowedPeers

/-- The times of the upgrades granted to a peer. -/
def grants (peer : PeerId) : DcutrBehaviour PeerId → List (Call PeerId) → List ℕ
  | _, [] => []
  | s, .allow added :: rest => grants peer (s.allowPeer added) rest
  | s, .upgrade other now :: rest =>
    let (granted, next) := s.allowRelayedUpgrade other true now
    if granted ∧ other = peer then now :: grants peer next rest else grants peer next rest

/-- A call preserves the agreement, and only `allow_peer` puts a peer on the list. -/
theorem step_consistent {s : DcutrBehaviour PeerId} (consistent : Consistent s) (call : Call PeerId) :
    Consistent (s.step call).2 ∧ ∀ peer ∈ (s.step call).2.allowedPeers, peer ∈ s.allowedPeers ∨ call = .allow peer := by
  cases call with
  | allow added =>
    refine ⟨allowPeer_consistent consistent added, fun peer member => ?_⟩
    by_cases fresh : added ∈ s.allowedPeers
    · simp only [step, allowPeer, if_pos fresh] at member
      exact .inl member
    · rcases allowPeer_fresh consistent fresh with ⟨result, _⟩ | ⟨_, _, _, _, result⟩ <;>
        simp only [step, result, Finset.mem_insert, Finset.mem_erase] at member <;>
        grind
  | upgrade peer now =>
    by_cases listed : peer ∈ s.allowedPeers
    · obtain ⟨table, _, keys, result | ⟨count, _, _, _, result⟩⟩ := upgrade_listed listed now
      · simp only [step, result]
        refine ⟨⟨consistent.queued, consistent.bounded, fun other stored => ?_, consistent.last⟩, fun _ => .inl⟩
        rcases keys other stored with rfl | stored
        · exact listed
        · exact consistent.attempts other stored
      · simp only [step, result]
        refine ⟨⟨consistent.queued, consistent.bounded, fun other stored => ?_, fun other stored => ?_⟩, fun _ => .inl⟩
        · rcases (AList.mem_insert _).mp stored with rfl | stored
          · exact listed
          rcases keys other stored with rfl | stored
          · exact listed
          · exact consistent.attempts other stored
        · rcases (AList.mem_insert _).mp stored with rfl | stored
          · exact listed
          · exact consistent.last other stored
    · simp only [step, allowRelayedUpgrade, listed, not_false_eq_true, and_true, if_true]
      exact ⟨consistent, fun _ => .inl⟩

theorem consistent_final {s : DcutrBehaviour PeerId} (consistent : Consistent s) (calls : List (Call PeerId)) :
    Consistent (final step s calls) := by
  induction calls generalizing s with
  | nil => exact consistent
  | cons call rest ih => exact ih (step_consistent consistent call).1

theorem new_consistent (secs : UInt64) (attempts : UInt32) :
    Consistent (new secs attempts : DcutrBehaviour PeerId) where
  queued := Queued.empty
  bounded := Nat.zero_le _
  attempts _ stored := absurd stored (AList.notMem_empty _)
  last _ stored := absurd stored (AList.notMem_empty _)

theorem stays_cons {s : DcutrBehaviour PeerId} {peer : PeerId} {call : Call PeerId} {rest : List (Call PeerId)}
    (stays : Stays peer s (call :: rest)) : peer ∈ s.allowedPeers ∧ Stays peer (s.step call).2 rest := by
  refine ⟨stays [] List.nil_prefix, fun passed ahead => ?_⟩
  exact stays (call :: passed) ((List.prefix_cons_inj call).mpr ahead)

/-- **A listed peer** was put on the list and has stayed there since. -/
theorem listed_since {s : DcutrBehaviour PeerId} (consistent : Consistent s) {peer : PeerId}
    (absent : peer ∉ s.allowedPeers) (calls : List (Call PeerId))
    (listed : peer ∈ (final step s calls).allowedPeers) :
    ∃ earlier stay, calls = earlier ++ .allow peer :: stay ∧
      Stays peer (final step s (earlier ++ [.allow peer])) stay := by
  induction calls using List.reverseRecOn with
  | nil => exact absurd listed absent
  | append_singleton calls call ih =>
    have now := listed
    rw [final_concat] at now
    by_cases before : peer ∈ (final step s calls).allowedPeers
    · obtain ⟨earlier, stay, rfl, stays⟩ := ih before
      refine ⟨earlier, stay ++ [call], by simp, fun passed ahead => ?_⟩
      rcases List.prefix_concat_iff.mp ahead with rfl | ahead
      · simpa [← final_append] using listed
      · exact stays passed ahead
    · rcases (step_consistent (consistent_final consistent calls) call).2 peer now with old | rfl
      · exact absurd old before
      · refine ⟨calls, [], by simp, fun passed ahead => ?_⟩
        rw [List.prefix_nil.mp ahead]
        exact listed

/-- **The budget of a stay**: what is left of the attempts, each one a pause after the one before. -/
theorem grants_bounded {s : DcutrBehaviour PeerId} (consistent : Consistent s) (pause : 0 < s.retryInterval)
    {peer : PeerId} {stay : List (Call PeerId)} (stays : Stays peer s stay) :
    (grants peer s stay).length ≤ s.maxAttemptsPerPeer.toNat - s.used peer ∧
      (grants peer s stay).Pairwise (fun earlier later => earlier + s.retryInterval ≤ later) ∧
      ∀ last, s.lastAttemptByPeer.lookup peer = some last →
        ∀ now ∈ grants peer s stay, last + s.retryInterval ≤ now := by
  induction stay generalizing s with
  | nil => exact ⟨Nat.zero_le _, List.Pairwise.nil, fun _ _ _ member => absurd member List.not_mem_nil⟩
  | cons call rest ih =>
    obtain ⟨listed, stays⟩ := stays_cons stays
    have next := (step_consistent consistent call).1
    cases call with
    | allow added =>
      obtain ⟨interval, most⟩ := allowPeer_settings s consistent added
      obtain ⟨attempts, last⟩ := allowPeer_frame consistent added (stays [] List.nil_prefix)
      have known := ih next (by rw [step, interval]; exact pause) stays
      simp only [step, interval, most, used, attempts, last] at known
      exact known
    | upgrade other now =>
      simp only [grants]
      by_cases known : other ∈ s.allowedPeers
      swap
      · have refused : s.allowRelayedUpgrade other true now = (false, s) := by simp [allowRelayedUpgrade, known]
        simp only [step, refused] at stays next
        simp only [refused, Bool.false_eq_true, false_and, if_false]
        exact ih next pause stays
      obtain ⟨table, values, _, result | ⟨count, spent, most, paused, result⟩⟩ := upgrade_listed known now
      · simp only [step, result] at stays next
        simp only [result, Bool.false_eq_true, false_and, if_false]
        have rest := ih next pause stays
        simp only [used, values] at rest
        exact rest
      · simp only [step, result] at stays next
        simp only [result, true_and]
        have rest := ih next pause stays
        by_cases same : other = peer
        · subst same
          simp only [used, AList.lookup_insert, Option.getD_some, Option.some.injEq, forall_eq'] at rest
          rw [UInt32.le_iff_toNat_le, spent] at most
          rw [if_pos rfl, List.length_cons, List.pairwise_cons]
          refine ⟨?_, ⟨rest.2.2, rest.2.1⟩, fun last stored later member => ?_⟩
          · have left := rest.1
            rw [spent] at left
            omega
          · have apart := paused last stored
            rcases List.mem_cons.mp member with rfl | member
            · omega
            · have := rest.2.2 later member
              omega
        · simp only [used, AList.lookup_insert_ne (Ne.symm same), values] at rest
          rw [if_neg same]
          exact rest

theorem settings_final {s : DcutrBehaviour PeerId} (consistent : Consistent s) (calls : List (Call PeerId)) :
    (final step s calls).retryInterval = s.retryInterval ∧
      (final step s calls).maxAttemptsPerPeer = s.maxAttemptsPerPeer := by
  induction calls generalizing s with
  | nil => exact ⟨rfl, rfl⟩
  | cons call rest ih =>
    obtain ⟨interval, most⟩ := ih (step_consistent consistent call).1
    rw [final_cons, interval, most]
    cases call with
    | allow added => exact allowPeer_settings s consistent added
    | upgrade other now =>
      by_cases known : other ∈ s.allowedPeers
      · obtain ⟨table, _, _, result | ⟨count, _, _, _, result⟩⟩ := upgrade_listed known now <;> simp [step, result]
      · simp [step, allowRelayedUpgrade, known]

/-- **Direct upgrades are rationed.** After every run the list is in order and bounded, and budgets are those of listed
peers. An upgrade is granted only to a peer that was put on the list and has stayed there since. While a peer stays, its
upgrades are at most the attempts of the policy and at least the retry interval apart. No assumption on the clock is
needed: the time that has passed since an attempt saturates at zero. -/
theorem upgrade_budget (secs : UInt64) (attempts : UInt32) (calls : List (Call PeerId)) :
    Consistent (final step (new secs attempts) calls) ∧
    (∀ peer now, ((final step (new secs attempts) calls).allowRelayedUpgrade peer true now).1 = true →
      ∃ earlier stay, calls = earlier ++ .allow peer :: stay ∧
        Stays peer (final step (new secs attempts) (earlier ++ [.allow peer])) stay) ∧
    ∀ peer stay, Stays peer (final step (new secs attempts) calls) stay →
      (grants peer (final step (new secs attempts) calls) stay).length ≤ (max attempts 1).toNat ∧
      (grants peer (final step (new secs attempts) calls) stay).Pairwise
        fun earlier later => earlier + max secs.toNat 1 * 10 ^ 9 ≤ later := by
  have initial : Consistent (new secs attempts : DcutrBehaviour PeerId) := new_consistent secs attempts
  have consistent := consistent_final initial calls
  refine ⟨consistent, fun peer now granted => ?_, fun peer stay stays => ?_⟩
  · refine listed_since initial (Finset.notMem_empty peer) calls ?_
    by_contra absent
    simp [allowRelayedUpgrade, absent] at granted
  · obtain ⟨interval, most⟩ := settings_final initial calls
    have pause : 0 < (final step (new secs attempts : DcutrBehaviour PeerId) calls).retryInterval := by
      rw [interval]
      simp [new]
    obtain ⟨few, apart, _⟩ := grants_bounded consistent pause stays
    rw [most] at few
    rw [interval] at apart
    exact ⟨few.trans (Nat.sub_le _ _), apart⟩

/-- What a peer may still be granted before it is allowed again. -/
def left (s : DcutrBehaviour PeerId) (peer : PeerId) : ℕ :=
  if peer ∈ s.allowedPeers then s.maxAttemptsPerPeer.toNat - s.used peer else 0

def Call.allows (peer : PeerId) : Call PeerId → Bool
  | .allow added => added = peer
  | .upgrade _ _ => false

/-- Only a call that allows the peer adds to what is left, and a granted upgrade takes one away. -/
theorem grants_le_left {s : DcutrBehaviour PeerId} (consistent : Consistent s) (peer : PeerId)
    (calls : List (Call PeerId)) :
    (grants peer s calls).length ≤ s.left peer + s.maxAttemptsPerPeer.toNat * calls.countP (Call.allows peer) := by
  induction calls generalizing s with
  | nil => exact Nat.zero_le _
  | cons call rest ih =>
    have known := ih (step_consistent consistent call).1
    rw [List.countP_cons, mul_add]
    cases call with
    | allow added =>
      have same := (allowPeer_settings s consistent added).2
      have came := (step_consistent consistent (.allow added)).2 peer
      have kept : peer ∈ (s.allowPeer added).allowedPeers → _ := allowPeer_frame consistent added
      simp only [step, left, used, same, grants, Call.allows, decide_eq_true_eq] at known came kept ⊢
      grind
    | upgrade other now =>
      by_cases listed : other ∈ s.allowedPeers
      · obtain ⟨table, values, _, result | ⟨count, spent, most, _, result⟩⟩ := upgrade_listed listed now
        · simp only [step, left, used, result, values, grants, Call.allows] at known ⊢
          simpa using known
        · rw [UInt32.le_iff_toNat_le, spent] at most
          simp only [step, left, result, grants, Call.allows] at known ⊢
          by_cases same : other = peer
          · subst same
            simp [used, listed, spent] at known most ⊢
            omega
          · simpa [used, same, AList.lookup_insert_ne (Ne.symm same), values] using known
      · simp only [step, allowRelayedUpgrade, listed, grants, Call.allows] at known ⊢
        simpa using known

/-- **An allowance is worth one budget.** However often a peer is dropped from the list, it is granted at most the
attempts of the policy for each time it is allowed. -/
theorem grants_le_allowances (secs : UInt64) (attempts : UInt32) (peer : PeerId) (calls : List (Call PeerId)) :
    (grants peer (new secs attempts) calls).length
      ≤ (max attempts 1).toNat * calls.countP (Call.allows peer) := by
  have bound := grants_le_left (new_consistent secs attempts) peer calls
  simpa [left, new] using bound

end DcutrBehaviour

end P2pNet.Stack
