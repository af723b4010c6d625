/-
**The addresses that Identify has given to Kademlia** (`IdentifyAddressState::record` of
`crates/stack/discovery/identify_state.rs`).

Every address that is recorded for a peer is added to the routing table, and every address that is forgotten, by one of
two queues, is removed from it again. `identify_memory` says that the calls balance: the pairs that were added once more
often than removed are those still recorded.
-/

import P2pNet.Lib.Run
import P2pNet.Lib.Fifo
import P2pNet.Lib.Table

namespace P2pNet.Stack

open Lib

def maxIdentifyAddrsPerPeer : ℕ := 8

def maxIdentifyRoutingPeers : ℕ := 2048

/-- A call to `swarm.behaviour_mut().kademlia`. -/
inductive KadCall (PeerId Addr : Type)
  | addAddress (peer : PeerId) (address : Addr)
  | removeAddress (peer : PeerId) (address : Addr)
  deriving DecidableEq

structure IdentifyAddressState (PeerId Addr : Type) where
  byPeer : Table PeerId (List Addr) := ∅
  peerOrder : List PeerId := []

namespace IdentifyAddressState

variable {PeerId Addr : Type} [DecidableEq PeerId] [DecidableEq Addr]

/-- The loop over the addresses of one peer. -/
def expireAddresses (peer : PeerId) : List Addr → List (KadCall PeerId Addr) × List Addr
  | [] => ([], [])
  | expired :: rest =>
    if (expired :: rest).length > maxIdentifyAddrsPerPeer then
      let (calls, kept) := expireAddresses peer rest
      (.removeAddress peer expired :: calls, kept)
    else ([], expired :: rest)

/-- The loop over the order of the peers. -/
def expirePeers (s : IdentifyAddressState PeerId Addr) :
    List PeerId → List (KadCall PeerId Addr) × IdentifyAddressState PeerId Addr
  | [] => ([], { s with peerOrder := [] })
  | expiredPeer :: rest =>
    if s.byPeer.entries.length > maxIdentifyRoutingPeers then
      match s.byPeer.lookup expiredPeer with
      | none => expirePeers s rest
      | some expiredAddresses =>
        let (calls, s) := expirePeers { s with byPeer := s.byPeer.erase expiredPeer } rest
        (expiredAddresses.map (.removeAddress expiredPeer) ++ calls, s)
    else ([], { s with peerOrder := expiredPeer :: rest })

def record (s : IdentifyAddressState PeerId Addr) (event : PeerId × Addr) :
    List (KadCall PeerId Addr) × IdentifyAddressState PeerId Addr :=
  let (peer, address) := event
  let isNewPeer := decide (peer ∉ s.byPeer)
  let (addresses, byPeer) := s.byPeer.entryOr peer []
  if address ∈ addresses then ([], { s with byPeer })
  else
    let (expired, addresses) := expireAddresses peer (addresses ++ [address])
    let s := { s with byPeer := byPeer.insert peer addresses }
    let (removed, s) := expirePeers s (if isNewPeer then s.peerOrder ++ [peer] else s.peerOrder)
    (.addAddress peer address :: (expired ++ removed), s)

/-! ### One call -/

def addresses (s : IdentifyAddressState PeerId Addr) (peer : PeerId) : List Addr := (s.byPeer.lookup peer).getD []

def peers (s : IdentifyAddressState PeerId Addr) : Finset PeerId := s.byPeer.keys.toFinset

/-- The last addresses of a list, as many as are kept. -/
def latest (addresses : List Addr) : List Addr := addresses.drop (addresses.length - maxIdentifyAddrsPerPeer)

structure Consistent (s : IdentifyAddressState PeerId Addr) : Prop where
  queued : Queued s.peerOrder s.peers
  fewPeers : s.byPeer.entries.length ≤ maxIdentifyRoutingPeers
  each : ∀ peer, (s.addresses peer).Nodup ∧ (s.addresses peer).length ≤ maxIdentifyAddrsPerPeer

omit [DecidableEq Addr] in
@[simp] theorem mem_peers (s : IdentifyAddressState PeerId Addr) (peer : PeerId) : peer ∈ s.peers ↔ peer ∈ s.byPeer := by
  rw [peers, List.mem_toFinset, AList.mem_keys]

omit [DecidableEq Addr] in
theorem card_peers (s : IdentifyAddressState PeerId Addr) : s.peers.card = s.byPeer.entries.length := by
  rw [peers, List.toFinset_card_of_nodup s.byPeer.keys_nodup]
  exact List.length_map _

omit [DecidableEq PeerId] [DecidableEq Addr] in
theorem expireAddresses_eq (peer : PeerId) (addresses : List Addr) :
    expireAddresses peer addresses
      = ((addresses.take (addresses.length - maxIdentifyAddrsPerPeer)).map (.removeAddress peer), latest addresses) := by
  unfold latest
  induction addresses with
  | nil => rfl
  | cons expired rest ih =>
    by_cases long : (expired :: rest).length > maxIdentifyAddrsPerPeer
    · have shift : (expired :: rest).length - maxIdentifyAddrsPerPeer
          = rest.length - maxIdentifyAddrsPerPeer + 1 := by
        rw [List.length_cons] at long ⊢
        omega
      rw [expireAddresses, if_pos long, ih, shift, List.take_succ_cons, List.drop_succ_cons, List.map_cons]
    · rw [expireAddresses, if_neg long, Nat.sub_eq_zero_of_le (not_lt.mp long)]
      rfl

omit [DecidableEq Addr] in
/-- Expiring no peer. -/
theorem expirePeers_room {byPeer : Table PeerId (List Addr)} (room : byPeer.entries.length ≤ maxIdentifyRoutingPeers)
    (before order : List PeerId) :
    expirePeers { byPeer, peerOrder := before } order = ([], { byPeer, peerOrder := order }) := by
  cases order <;> simp [expirePeers, not_lt.mpr room]

/-- **What a call does.** The address is known; or a recorded peer gets it, at the cost of its oldest one; or a new peer
is recorded, at the cost of the oldest peer. -/
theorem record_cases {s : IdentifyAddressState PeerId Addr} (consistent : Consistent s) (peer : PeerId)
    (address : Addr) :
    (address ∈ s.addresses peer ∧ s.record (peer, address) = ([], s)) ∨
    (address ∉ s.addresses peer ∧ peer ∈ s.byPeer ∧ s.record (peer, address) =
      (.addAddress peer address :: ((s.addresses peer ++ [address]).take
          ((s.addresses peer).length + 1 - maxIdentifyAddrsPerPeer)).map (.removeAddress peer),
        { s with byPeer := s.byPeer.insert peer (latest (s.addresses peer ++ [address])) })) ∨
    (peer ∉ s.byPeer ∧ s.byPeer.entries.length < maxIdentifyRoutingPeers ∧ s.record (peer, address) =
      ([.addAddress peer address],
        { byPeer := s.byPeer.insert peer [address], peerOrder := s.peerOrder ++ [peer] })) ∨
    (peer ∉ s.byPeer ∧ ∃ oldest rest, s.peerOrder = oldest :: rest ∧ oldest ∈ s.byPeer ∧
      s.record (peer, address) =
      (.addAddress peer address :: (s.addresses oldest).map (.removeAddress oldest),
        { byPeer := (s.byPeer.insert peer [address]).erase oldest, peerOrder := rest ++ [peer] })) := by
  by_cases recorded : peer ∈ s.byPeer
  · obtain ⟨old, stored⟩ := Option.isSome_iff_exists.mp (AList.lookup_isSome.mpr recorded)
    have entry : s.byPeer.entryOr peer [] = (s.addresses peer, s.byPeer) := by
      simp [Table.entryOr, addresses, stored]
    by_cases known : address ∈ s.addresses peer
    · exact .inl ⟨known, by simp [record, entry, known]⟩
    · have length : (s.byPeer.insert peer (latest (s.addresses peer ++ [address]))).entries.length
          ≤ maxIdentifyRoutingPeers := by
        rw [Table.length_insert_old _ stored]
        exact consistent.fewPeers
      refine .inr (.inl ⟨known, recorded, ?_⟩)
      simp only [record, entry, known, if_false, expireAddresses_eq, recorded, not_true_eq_false, decide_false,
        Bool.false_eq_true, expirePeers_room length, List.append_nil, List.length_append, List.length_singleton]
  · have absent := AList.lookup_eq_none.mpr recorded
    have entry : s.byPeer.entryOr peer [] = ([], s.byPeer.insert peer []) := by
      simp [Table.entryOr, absent]
    have short : expireAddresses peer [address] = ([], [address]) := by
      rw [expireAddresses_eq]
      rfl
    have length := Table.length_insert_new [address] absent
    have again : (s.byPeer.insert peer []).insert peer [address] = s.byPeer.insert peer [address] :=
      AList.insert_insert ..
    have outcome : s.record (peer, address) = (.addAddress peer address ::
        (expirePeers { s with byPeer := s.byPeer.insert peer [address] } (s.peerOrder ++ [peer])).1,
        (expirePeers { s with byPeer := s.byPeer.insert peer [address] } (s.peerOrder ++ [peer])).2) := by
      simp [record, entry, recorded, short, again]
    by_cases room : s.byPeer.entries.length < maxIdentifyRoutingPeers
    · refine .inr (.inr (.inl ⟨recorded, room, ?_⟩))
      rw [outcome, expirePeers_room]
      rw [length]
      exact room
    · have several : 0 < s.peers.card := by
        rw [card_peers]
        exact lt_of_lt_of_le (by decide) (not_lt.mp room)
      have fresh : peer ∉ s.peers := by rwa [mem_peers]
      obtain ⟨oldest, rest, order, member, other, _⟩ := consistent.queued.cycle fresh several
      rw [mem_peers] at member
      obtain ⟨old, stored⟩ := Option.isSome_iff_exists.mp (AList.lookup_isSome.mpr member)
      have found : (s.byPeer.insert peer [address]).lookup oldest = some old := by
        rw [Table.lookup_insert_eq, if_neg other, stored]
      have full : (s.byPeer.insert peer [address]).entries.length > maxIdentifyRoutingPeers := by
        rw [length]
        omega
      have fits : ((s.byPeer.insert peer [address]).erase oldest).entries.length ≤ maxIdentifyRoutingPeers := by
        have count := Table.total_erase (fun _ _ => 1) found
        rw [← Table.length_eq_total, ← Table.length_eq_total, length] at count
        have few := consistent.fewPeers
        omega
      refine .inr (.inr (.inr ⟨recorded, oldest, rest, order, member, ?_⟩))
      rw [outcome, order, List.cons_append, expirePeers, if_pos full]
      simp [found, expirePeers_room fits, addresses, stored]

omit [DecidableEq Addr] in
theorem addresses_insert (s : IdentifyAddressState PeerId Addr) (order : List PeerId) (peer other : PeerId)
    (list : List Addr) : addresses { byPeer := s.byPeer.insert peer list, peerOrder := order } other
      = if other = peer then list else s.addresses other := by
  unfold addresses
  rw [Table.lookup_insert_eq]
  by_cases same : other = peer
  · rw [if_pos same, if_pos same]
    rfl
  · rw [if_neg same, if_neg same]

omit [DecidableEq Addr] in
theorem addresses_erase (table : Table PeerId (List Addr)) (order before : List PeerId) (peer other : PeerId) :
    addresses { byPeer := table.erase peer, peerOrder := order } other
      = if other = peer then [] else addresses { byPeer := table, peerOrder := before } other := by
  unfold addresses
  rw [Table.lookup_erase_eq]
  by_cases same : other = peer
  · rw [if_pos same, if_pos same]
    rfl
  · rw [if_neg same, if_neg same]

omit [DecidableEq Addr] in
theorem addresses_absent {s : IdentifyAddressState PeerId Addr} {peer : PeerId} (absent : peer ∉ s.byPeer) :
    s.addresses peer = [] := by
  rw [addresses, AList.lookup_eq_none.mpr absent]
  rfl

omit [DecidableEq PeerId] [DecidableEq Addr] in
theorem latest_length (list : List Addr) : (latest list).length ≤ maxIdentifyAddrsPerPeer := by
  rw [latest, List.length_drop]
  omega

omit [DecidableEq PeerId] [DecidableEq Addr] in
theorem latest_nodup {list : List Addr} {address : Addr} (nodup : list.Nodup) (unknown : address ∉ list) :
    (latest (list ++ [address])).Nodup := by
  refine (List.drop_sublist _ _).nodup ?_
  rw [List.nodup_append_comm, List.singleton_append, List.nodup_cons]
  exact ⟨unknown, nodup⟩

omit [DecidableEq PeerId] [DecidableEq Addr] in
theorem single_few (address : Addr) : [address].Nodup ∧ [address].length ≤ maxIdentifyAddrsPerPeer :=
  ⟨List.nodup_singleton _, by simp [maxIdentifyAddrsPerPeer]⟩

theorem record_consistent {s : IdentifyAddressState PeerId Addr} (consistent : Consistent s)
    (event : PeerId × Addr) : Consistent (s.record event).2 := by
  obtain ⟨peer, address⟩ := event
  obtain ⟨_, result⟩ | ⟨unknown, recorded, result⟩ | ⟨fresh, room, result⟩ | ⟨fresh, oldest, rest, order, member, result⟩ :=
    record_cases consistent peer address <;> rw [result]
  · exact consistent
  · obtain ⟨old, stored⟩ := Option.isSome_iff_exists.mp (AList.lookup_isSome.mpr recorded)
    have same : peers { s with byPeer := s.byPeer.insert peer (latest (s.addresses peer ++ [address])) }
        = s.peers := by
      ext other
      by_cases same : other = peer <;> simp [AList.mem_insert, same, recorded]
    refine ⟨same ▸ consistent.queued, ?_, fun other => ?_⟩
    · rw [Table.length_insert_old _ stored]
      exact consistent.fewPeers
    · rw [addresses_insert]
      split
      · exact ⟨latest_nodup (consistent.each peer).1 unknown, latest_length _⟩
      · exact consistent.each other
  · have grown : peers { byPeer := s.byPeer.insert peer [address], peerOrder := s.peerOrder ++ [peer] }
        = insert peer s.peers := by
      ext other
      simp [AList.mem_insert]
    refine ⟨?_, ?_, fun other => ?_⟩
    · rw [grown]
      exact consistent.queued.push (by rwa [mem_peers])
    · rw [Table.length_insert_new _ (AList.lookup_eq_none.mpr fresh)]
      exact room
    · rw [addresses_insert]
      split
      · exact single_few address
      · exact consistent.each other
  · have traded : peers { byPeer := (s.byPeer.insert peer [address]).erase oldest, peerOrder := rest ++ [peer] }
        = (insert peer s.peers).erase oldest := by
      ext other
      simp [AList.mem_insert, AList.mem_erase]
    have queued := consistent.queued
    rw [order] at queued
    refine ⟨?_, ?_, fun other => ?_⟩
    · rw [traded]
      exact (queued.push (by rwa [mem_peers])).pop
    · have few := consistent.fewPeers
      rw [← card_peers] at few ⊢
      rw [traded, Finset.card_erase_of_mem (by simp [member]), Finset.card_insert_of_notMem (by simpa)]
      exact few
    · rw [addresses_erase _ _ s.peerOrder, addresses_insert]
      split
      · exact ⟨List.nodup_nil, Nat.zero_le _⟩
      split
      · exact single_few address
      · exact consistent.each other

/-! ### The balance of the calls -/

/-- How much more often a pair was added than removed. -/
def net (calls : List (KadCall PeerId Addr)) (peer : PeerId) (address : Addr) : ℤ :=
  calls.count (.addAddress peer address) - calls.count (.removeAddress peer address)

/-- The addresses added for a peer. -/
def added (peer : PeerId) (calls : List (KadCall PeerId Addr)) : List Addr :=
  calls.filterMap fun
    | .addAddress other address => if other = peer then some address else none
    | .removeAddress .. => none

theorem net_append (first second : List (KadCall PeerId Addr)) (peer : PeerId) (address : Addr) :
    net (first ++ second) peer address = net first peer address + net second peer address := by
  simp only [net, List.count_append]
  push_cast
  ring

theorem count_removes (gone peer : PeerId) (list : List Addr) (address : Addr) :
    (list.map (KadCall.removeAddress gone)).count (.removeAddress peer address)
      = if peer = gone then list.count address else 0 := by
  by_cases same : peer = gone
  · subst same
    rw [if_pos rfl]
    exact List.count_map_of_injective list _ (fun _ _ equal => (KadCall.removeAddress.inj equal).2) address
  · rw [if_neg same]
    refine List.count_eq_zero.mpr fun member => ?_
    obtain ⟨_, _, equal⟩ := List.mem_map.mp member
    exact same (KadCall.removeAddress.inj equal).1.symm

/-- One addition followed by removals for one peer. -/
theorem net_add_removes (peer gone other : PeerId) (address known : Addr) (list : List Addr) :
    net (.addAddress peer address :: list.map (.removeAddress gone)) other known
      = (if other = peer ∧ known = address then 1 else 0) - if other = gone then (list.count known : ℤ) else 0 := by
  have none : (list.map (KadCall.removeAddress gone)).count (.addAddress other known) = 0 := by
    simp [List.count_eq_zero]
  have this : (KadCall.addAddress peer address == KadCall.addAddress other known)
      = decide (other = peer ∧ known = address) := by
    rw [Bool.eq_iff_iff, beq_iff_eq, decide_eq_true_eq, KadCall.addAddress.injEq, eq_comm, @eq_comm _ address]
  simp only [net, List.count_cons, none, this, count_removes]
  push_cast
  simp

omit [DecidableEq PeerId] in
theorem count_single (address known : Addr) : ([address].count known : ℤ) = if known = address then 1 else 0 := by
  by_cases same : known = address
  · simp [same]
  · simp [same, Ne.symm same]

omit [DecidableEq Addr] in
theorem added_add_removes (peer gone other : PeerId) (address : Addr) (list : List Addr) :
    added other (.addAddress peer address :: list.map (.removeAddress gone)) = if peer = other then [address] else [] := by
  have nothing : (list.map (KadCall.removeAddress gone)).filterMap (fun
      | .addAddress peer address => if peer = other then some address else none
      | .removeAddress .. => none) = [] := by
    simp [List.filterMap_map]
  simp only [added, List.filterMap_cons, nothing]
  split <;> simp_all

/-- **A call keeps the balance.** -/
theorem record_net {s : IdentifyAddressState PeerId Addr} (consistent : Consistent s) (event : PeerId × Addr)
    (other : PeerId) (known : Addr) : (((s.record event).2.addresses other).count known : ℤ)
      = (s.addresses other).count known + net (s.record event).1 other known := by
  obtain ⟨peer, address⟩ := event
  obtain ⟨_, result⟩ | ⟨unknown, recorded, result⟩ | ⟨fresh, room, result⟩ | ⟨fresh, oldest, rest, order, member, result⟩ :=
    record_cases consistent peer address <;> rw [result]
  · simp [net]
  · rw [net_add_removes, addresses_insert]
    by_cases same : other = peer
    · subst same
      have whole := congrArg (List.count known) (List.take_append_drop
        ((s.addresses other).length + 1 - maxIdentifyAddrsPerPeer) (s.addresses other ++ [address]))
      rw [List.count_append, List.count_append, List.count_singleton] at whole
      simp only [if_true, true_and, latest, List.length_append, List.length_singleton]
      grind
    · simp [same]
  · have single := net_add_removes peer peer other address known []
    rw [List.map_nil] at single
    rw [single, addresses_insert]
    by_cases same : other = peer
    · subst same
      rw [addresses_absent fresh]
      simp [count_single]
    · simp [same]
  · rw [net_add_removes, addresses_erase _ _ s.peerOrder, addresses_insert]
    have apart : peer ≠ oldest := by
      rintro rfl
      exact fresh member
    by_cases first : other = oldest
    · subst first
      simp [apart.symm]
    by_cases same : other = peer
    · subst same
      rw [addresses_absent fresh]
      simp [apart, count_single]
    · simp [same, first]

/-! ### Runs -/

/-- The addresses added for a peer since it was last newly recorded. -/
def addedSinceNew (peer : PeerId) :
    IdentifyAddressState PeerId Addr → List Addr → List (PeerId × Addr) → List Addr
  | _, since, [] => since
  | s, since, event :: rest =>
    addedSinceNew peer (s.record event).2
      ((if event.1 = peer ∧ peer ∉ s.byPeer then [] else since) ++ added peer (s.record event).1) rest

/-- The newly recorded peers, in order. -/
def newPeers : IdentifyAddressState PeerId Addr → List (PeerId × Addr) → List PeerId
  | _, [] => []
  | s, event :: rest => (if event.1 ∈ s.byPeer then [] else [event.1]) ++ newPeers (s.record event).2 rest

omit [DecidableEq PeerId] [DecidableEq Addr] in
theorem latest_concat (since : List Addr) (address : Addr) :
    latest (latest since ++ [address]) = latest (since ++ [address]) := by
  unfold latest
  rw [← List.drop_append_of_le_length (Nat.sub_le _ _), List.drop_drop]
  congr 1
  simp only [List.length_append, List.length_drop, List.length_singleton]
  omega

/-- **A call keeps the latest addresses** of each recorded peer. -/
theorem record_latest {s : IdentifyAddressState PeerId Addr} (consistent : Consistent s) (event : PeerId × Addr)
    {other : PeerId} {since : List Addr} (before : other ∈ s.byPeer → s.addresses other = latest since)
    (after : other ∈ (s.record event).2.byPeer) : (s.record event).2.addresses other
      = latest ((if event.1 = other ∧ other ∉ s.byPeer then [] else since) ++ added other (s.record event).1) := by
  obtain ⟨peer, address⟩ := event
  obtain ⟨known, result⟩ | ⟨unknown, recorded, result⟩ | ⟨fresh, room, result⟩ | ⟨fresh, oldest, rest, order, member, result⟩ :=
    record_cases consistent peer address <;> rw [result] at after ⊢
  · simp [after, before after, added]
  · rw [added_add_removes, addresses_insert]
    by_cases same : peer = other
    · subst same
      simp [recorded, before recorded, latest_concat]
    · have old : other ∈ s.byPeer := by simpa [AList.mem_insert, Ne.symm same] using after
      simp [same, Ne.symm same, before old]
  · have single := added_add_removes peer peer other address []
    rw [List.map_nil] at single
    rw [single, addresses_insert]
    by_cases same : peer = other
    · subst same
      simp [fresh, latest, maxIdentifyAddrsPerPeer]
    · have old : other ∈ s.byPeer := by simpa [AList.mem_insert, Ne.symm same] using after
      simp [same, Ne.symm same, before old]
  · rw [added_add_removes, addresses_erase _ _ s.peerOrder, addresses_insert]
    have left : other ≠ oldest := by
      rintro rfl
      simp at after
    by_cases same : peer = other
    · subst same
      simp [fresh, left, latest, maxIdentifyAddrsPerPeer]
    · have old : other ∈ s.byPeer := by simpa [AList.mem_insert, AList.mem_erase, left, Ne.symm same] using after
      simp [same, Ne.symm same, left, before old]

/-- A call appends a newly recorded peer to the order. -/
theorem record_order {s : IdentifyAddressState PeerId Addr} (consistent : Consistent s) (event : PeerId × Addr) :
    (s.record event).2.peerOrder <:+ s.peerOrder ++ if event.1 ∈ s.byPeer then [] else [event.1] := by
  obtain ⟨peer, address⟩ := event
  obtain ⟨known, result⟩ | ⟨unknown, recorded, result⟩ | ⟨fresh, room, result⟩ | ⟨fresh, oldest, rest, order, member, result⟩ :=
    record_cases consistent peer address <;> rw [result]
  · by_cases recorded : peer ∈ s.byPeer
    · simp [recorded]
    · rw [addresses_absent recorded] at known
      exact absurd known List.not_mem_nil
  · simp [recorded]
  · simp [fresh]
  · simp only [fresh, if_false, order, List.cons_append]
    exact List.suffix_cons oldest _

theorem consistent_final {s : IdentifyAddressState PeerId Addr} (consistent : Consistent s)
    (events : List (PeerId × Addr)) : Consistent (final record s events) := by
  induction events generalizing s with
  | nil => exact consistent
  | cons event rest ih => exact ih (record_consistent consistent event)

theorem net_final {s : IdentifyAddressState PeerId Addr} (consistent : Consistent s) (events : List (PeerId × Addr))
    (peer : PeerId) (address : Addr) : (((final record s events).addresses peer).count address : ℤ)
      = (s.addresses peer).count address + net (outputs record s events).flatten peer address := by
  induction events generalizing s with
  | nil => simp [outputs, net]
  | cons event rest ih =>
    rw [final_cons, ih (record_consistent consistent event), record_net consistent, outputs, List.flatten_cons,
      net_append, add_assoc]

theorem latest_final {s : IdentifyAddressState PeerId Addr} (consistent : Consistent s) (events : List (PeerId × Addr))
    {peer : PeerId} {since : List Addr} (before : peer ∈ s.byPeer → s.addresses peer = latest since)
    (after : peer ∈ (final record s events).byPeer) :
    (final record s events).addresses peer = latest (addedSinceNew peer s since events) := by
  induction events generalizing s since with
  | nil => exact before after
  | cons event rest ih => exact ih (record_consistent consistent event) (record_latest consistent event before) after

theorem order_final {s : IdentifyAddressState PeerId Addr} (consistent : Consistent s)
    (events : List (PeerId × Addr)) : (final record s events).peerOrder <:+ s.peerOrder ++ newPeers s events := by
  induction events generalizing s with
  | nil => simp [newPeers]
  | cons event rest ih =>
    obtain ⟨front, first⟩ := record_order consistent event
    refine (ih (record_consistent consistent event)).trans ⟨front, ?_⟩
    rw [← List.append_assoc, first, newPeers, List.append_assoc]

omit [DecidableEq Addr] in
theorem empty_consistent : Consistent ({} : IdentifyAddressState PeerId Addr) where
  queued := Queued.empty
  fewPeers := Nat.zero_le _
  each _ := ⟨List.nodup_nil, Nat.zero_le _⟩

/-- **The calls to Kademlia and the memory agree.** Over every sequence of records, a pair was added once more often than
removed if it is recorded, and as often otherwise. At most 2048 peers have at most 8 addresses each: the latest ones added
since the peer was last newly recorded. The order has each recorded peer once and is the end of the list of newly recorded
peers. -/
theorem identify_memory (events : List (PeerId × Addr)) :
    (∀ peer address, net (outputs record {} events).flatten peer address
      = if address ∈ (final record {} events).addresses peer then 1 else 0) ∧
    (final record {} events).byPeer.entries.length ≤ maxIdentifyRoutingPeers ∧
    (∀ peer, ((final record {} events).addresses peer).length ≤ maxIdentifyAddrsPerPeer) ∧
    (∀ peer ∈ (final record {} events).byPeer,
      (final record {} events).addresses peer = latest (addedSinceNew peer {} [] events)) ∧
    (final record {} events).peerOrder.Nodup ∧
    (∀ peer, peer ∈ (final record {} events).peerOrder ↔ peer ∈ (final record {} events).byPeer) ∧
    (final record {} events).peerOrder <:+ newPeers {} events := by
  have initial : Consistent ({} : IdentifyAddressState PeerId Addr) := empty_consistent
  have consistent := consistent_final initial events
  refine ⟨fun peer address => ?_, consistent.fewPeers, fun peer => (consistent.each peer).2, fun peer recorded => ?_,
    consistent.queued.nodup, fun peer => ?_, ?_⟩
  · have balance := net_final initial events peer address
    have once := (consistent.each peer).1
    rw [once.count] at balance
    by_cases recorded : address ∈ (final record {} events).addresses peer <;>
      simp only [recorded, if_true, if_false] at balance ⊢ <;>
      simpa [addresses] using balance.symm
  · exact latest_final initial events (fun stored => absurd stored (AList.notMem_empty _)) recorded
  · rw [consistent.queued.mem_order, mem_peers]
  · simpa using order_final initial events

/-- Also in the middle of a call, which adds before it removes, a pair is there once or not at all. -/
theorem record_partial {s : IdentifyAddressState PeerId Addr} (consistent : Consistent s) (event : PeerId × Addr)
    (made : ℕ) (other : PeerId) (known : Addr) :
    (s.addresses other).count known + net ((s.record event).1.take made) other known ∈ Set.Icc (0 : ℤ) 1 := by
  obtain ⟨peer, address⟩ := event
  have whole := record_net consistent (peer, address) other known
  have once := List.nodup_iff_count_le_one.mp (consistent.each other).1 known
  have calls : (s.record (peer, address)).1 = [] ∨ address ∉ s.addresses peer ∧ ∃ gone list,
      (s.record (peer, address)).1 = .addAddress peer address :: List.map (.removeAddress gone) list := by
    obtain ⟨_, result⟩ | ⟨unknown, _, result⟩ | ⟨fresh, _, result⟩ | ⟨fresh, oldest, _, _, _, result⟩ :=
      record_cases consistent peer address <;> rw [result]
    · exact .inl rfl
    · exact .inr ⟨unknown, peer, _, rfl⟩
    · exact .inr ⟨by simp [addresses_absent fresh], peer, [], rfl⟩
    · exact .inr ⟨by simp [addresses_absent fresh], oldest, _, rfl⟩
  rcases calls with none | ⟨unknown, gone, list, calls⟩
  · simpa [none, net] using once
  rw [calls] at whole ⊢
  cases made with
  | zero => simpa [net] using once
  | succ made =>
    have fewer := (List.take_sublist made list).count_le known
    have absent := List.count_eq_zero.mpr unknown
    rw [net_add_removes] at whole
    rw [List.take_succ_cons, ← List.map_take, net_add_removes, Set.mem_Icc]
    grind

/-- **Kademlia is told nothing twice.** At every point of the calls to it, also within a record, each address of a peer
was added as often as removed or once more: no call adds what is there or removes what is not. -/
theorem kademlia_calls_alternate (events : List (PeerId × Addr)) (made : ℕ) (peer : PeerId) (address : Addr) :
    net ((outputs record {} events).flatten.take made) peer address ∈ Set.Icc (0 : ℤ) 1 := by
  have along : ∀ s : IdentifyAddressState PeerId Addr, Consistent s → (s.addresses peer).count address
      + net ((outputs record s events).flatten.take made) peer address ∈ Set.Icc (0 : ℤ) 1 := by
    induction events generalizing made with
    | nil => exact fun s consistent => by simpa [outputs] using record_partial consistent (peer, address) 0 peer address
    | cons event rest ih =>
      intro s consistent
      rw [outputs, List.flatten_cons, List.take_append]
      by_cases inside : made ≤ (s.record event).1.length
      · simpa [Nat.sub_eq_zero_of_le inside] using record_partial consistent event made peer address
      · have later := ih (made - (s.record event).1.length) _ (record_consistent consistent event)
        rw [record_net consistent, add_assoc, ← net_append] at later
        rwa [List.take_of_length_le (not_le.mp inside).le]
  simpa [addresses] using along {} empty_consistent

end IdentifyAddressState

end P2pNet.Stack
