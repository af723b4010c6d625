/-
**The set and the queue of a batch** (`PeerCacheWriteBatch` of `crates/connectivity/peer_cache/store.rs`).

A set of keys suppresses a sighting that is queued already, and a full queue forgets its oldest mutation, with its key if
it is a sighting. `batch_represented` says that the two never come apart: a sighting is suppressed only while the same one
is in the queue.
-/

import P2pNet.Connectivity.PeerCache
import P2pNet.Lib.Run
import P2pNet.Lib.Fifo

namespace P2pNet.Connectivity

open Lib

/-- The key of a sighting. -/
def PeerCacheMutation.key {PeerId Addr : Type} :
    PeerCacheMutation PeerId Addr → Option (PeerId × Addr × Option UInt64)
  | .seen peer addr expiresUnixSecs => some (peer, addr, expiresUnixSecs)
  | .failure _ => none

/-- A call to the batch: a flush is made at a time, with the file that it finds. -/
inductive BatchCall (PeerId Addr Raw : Type)
  | record (call : CacheCall PeerId Addr)
  | flush (now : UInt64) (raw : Option Raw)

namespace PeerCacheWriteBatch

section Keys

variable {PeerId Addr : Type} [PeerIdentity PeerId] [DecidableEq Addr]

/-- The keys of the queued sightings are those of the set, each once. -/
structure Represented (batch : PeerCacheWriteBatch PeerId Addr) : Prop where
  queued : Queued (batch.pending.filterMap PeerCacheMutation.key) batch.pendingSeen
  bounded : batch.pending.length ≤ maxPendingCacheMutations

theorem default_represented : Represented (default : PeerCacheWriteBatch PeerId Addr) where
  queued := Queued.empty
  bounded := Nat.zero_le _

/-- **A push** of a mutation whose key, if it has one, is in the set already. -/
theorem push_represented {batch : PeerCacheWriteBatch PeerId Addr} {mutation : PeerCacheMutation PeerId Addr}
    (bounded : batch.pending.length ≤ maxPendingCacheMutations)
    (queued : Queued ((batch.pending ++ [mutation]).filterMap PeerCacheMutation.key) batch.pendingSeen) :
    Represented (batch.push mutation) := by
  unfold push
  by_cases full : maxPendingCacheMutations ≤ batch.pending.length
  · rw [if_pos full]
    cases pending : batch.pending with
    | nil =>
      simp [pending, maxPendingCacheMutations] at full
    | cons first rest =>
      have fits : (rest ++ [mutation]).length ≤ maxPendingCacheMutations := by
        simpa [pending] using bounded
      rw [pending, List.cons_append] at queued
      cases first with
      | seen peer addr expires =>
        exact ⟨queued.pop, fits⟩
      | failure peer =>
        exact ⟨queued, fits⟩
  · rw [if_neg full]
    refine ⟨queued, ?_⟩
    rw [List.length_append, List.length_singleton]
    exact not_le.mp full

theorem recordSeenWithExpiry_represented {batch : PeerCacheWriteBatch PeerId Addr} (represented : Represented batch)
    (peer : PeerId) (addr : Addr) (expires : Option UInt64) :
    Represented (batch.recordSeenWithExpiry peer addr expires) := by
  unfold recordSeenWithExpiry
  by_cases known : (peer, addr, expires) ∈ batch.pendingSeen
  · rwa [if_pos known]
  · rw [if_neg known]
    apply push_represented
    · exact represented.bounded
    rw [List.filterMap_append]
    exact represented.queued.push known

theorem record_represented {batch : PeerCacheWriteBatch PeerId Addr} (represented : Represented batch)
    (call : CacheCall PeerId Addr) : Represented (batch.record call) := by
  cases call with
  | recordSeen peer addr => exact recordSeenWithExpiry_represented represented peer addr none
  | recordSeenWithExpiry peer addr expires => exact recordSeenWithExpiry_represented represented peer addr expires
  | recordFailure peer =>
    apply push_represented represented.bounded
    rw [List.filterMap_append]
    exact (List.append_nil _).symm ▸ represented.queued

end Keys

variable {PeerId Addr Raw : Type} [PeerIdentity PeerId] [DecidableEq Addr] [Multiaddr PeerId Addr]
  [AppendPeer PeerId Addr] (store : CacheStore PeerId Addr Raw)

/-- The file after a call, if it was written, and the batch. -/
def step (batch : PeerCacheWriteBatch PeerId Addr) :
    BatchCall PeerId Addr Raw → Option Raw × PeerCacheWriteBatch PeerId Addr
  | .record call => (none, batch.record call)
  | .flush now raw => ((batch.flush store now raw).2, (batch.flush store now raw).1)

theorem represented_final {batch : PeerCacheWriteBatch PeerId Addr} (represented : Represented batch)
    (calls : List (BatchCall PeerId Addr Raw)) : Represented (final (step store) batch calls) := by
  induction calls generalizing batch with
  | nil => exact represented
  | cons call rest ih =>
    refine ih ?_
    cases call with
    | record call => exact record_represented represented call
    | flush now raw =>
      unfold step flush
      by_cases none : batch.pending.isEmpty
      · simpa [none] using represented
      · simpa [none] using default_represented

/-- **The set and the queue agree** after every run: the set holds the keys of the queued sightings, no two of them have
the same key, and the queue is bounded. -/
theorem batch_represented (calls : List (BatchCall PeerId Addr Raw)) :
    (∀ peer addr expires, (peer, addr, expires) ∈ (final (step store) default calls).pendingSeen ↔
      .seen peer addr expires ∈ (final (step store) default calls).pending) ∧
    ((final (step store) default calls).pending.filterMap PeerCacheMutation.key).Nodup ∧
    (final (step store) default calls).pending.length ≤ maxPendingCacheMutations := by
  have represented := represented_final store default_represented calls
  refine ⟨fun peer addr expires => ?_, represented.queued.nodup, represented.bounded⟩
  rw [← represented.queued.mem_order, List.mem_filterMap]
  constructor
  · rintro ⟨mutation, member, key⟩
    cases mutation <;> simp_all [PeerCacheMutation.key]
  · exact fun member => ⟨_, member, rfl⟩

end PeerCacheWriteBatch

end P2pNet.Connectivity
