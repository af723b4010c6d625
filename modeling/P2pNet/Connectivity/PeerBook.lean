/-
**The peer book** (`crates/connectivity/peer_book.rs`).

A table of peer records, with three things kept beside it: the number of connected records, the
disconnected peers that have a namespace, and the disconnected records in the order of their last
sighting, which is the order in which they are evicted. Every `record_*` method changes one record
(`touchPeer`) and then evicts records until the book is within its bound (`enforceRecordBound`).
-/

import P2pNet.Lib.Table
import P2pNet.Lib.Run
import P2pNet.Lib.OrderedSet
import P2pNet.Common.Multiaddr

set_option linter.unusedSectionVars false

namespace P2pNet.Connectivity

open Lib

/-! ### Records -/

def maxAddrsPerPeer : ℕ := 64
def defaultMaxPeerBookRecords : ℕ := 2048

inductive PeerSource
  | connected
  | bootstrap
  | bootstrapSeed
  | publicBootstrapSeed
  | rendezvous
  | publicRendezvous
  | dhtProvider
  | lanDiscovery
  | relayDiscovery
  | publicRelayDiscovery
  | peerCache
  | manual
  deriving DecidableEq, Repr

structure PeerRecord (PeerId : Type) where
  peerId : PeerId
  addresses : Finset String
  sources : Finset PeerSource
  namespaces : Finset String
  connected : Bool
  supportsRelay : Option Bool
  supportsRendezvous : Option Bool
  supportsDcutr : Option Bool
  relayPreferred : Bool
  lastSeenUnixSecs : Option ℕ
  failures : UInt32
  deriving DecidableEq

def PeerRecord.new {PeerId : Type} (peer : PeerId) : PeerRecord PeerId where
  peerId := peer
  addresses := ∅
  sources := ∅
  namespaces := ∅
  connected := false
  supportsRelay := none
  supportsRendezvous := none
  supportsDcutr := none
  relayPreferred := false
  lastSeenUnixSecs := none
  failures := 0

/-- `prune_peer_addrs`: the first address in text order goes while there are too many. -/
def prunePeerAddrs {PeerId : Type} (record : PeerRecord PeerId) : PeerRecord PeerId :=
  { record with addresses := dropLeast maxAddrsPerPeer record.addresses }

/-! ### The book -/

structure PeerBook (PeerId : Type) [PeerIdentity PeerId] where
  peers : Table PeerId (PeerRecord PeerId)
  disconnectedNamespacePeers : Finset PeerId
  disconnectedEvictionOrder : Finset (ℕ ×ₗ PeerId)
  connectedCount : ℕ
  maxRecords : ℕ

variable {PeerId Addr : Type} [PeerIdentity PeerId] [Multiaddr PeerId Addr]

namespace PeerBook

def withMaxRecords (maxRecords : ℕ) : PeerBook PeerId where
  peers := ∅
  disconnectedNamespacePeers := ∅
  disconnectedEvictionOrder := ∅
  connectedCount := 0
  maxRecords := max maxRecords 1

def default : PeerBook PeerId := withMaxRecords defaultMaxPeerBookRecords

def record (book : PeerBook PeerId) (peer : PeerId) : Option (PeerRecord PeerId) := book.peers.lookup peer

def len (book : PeerBook PeerId) : ℕ := book.peers.entries.length

/-- The counter is below the number of records, so that its addition never saturates. -/
def syncIndexes (book : PeerBook PeerId) (peer : PeerId) (wasConnected : Bool) : PeerBook PeerId :=
  match book.peers.lookup peer with
  | none => book
  | some record =>
    { book with
      connectedCount :=
        if wasConnected ≠ record.connected then
          if record.connected then book.connectedCount + 1 else book.connectedCount - 1
        else book.connectedCount
      disconnectedNamespacePeers :=
        if !record.connected ∧ record.namespaces.Nonempty then insert peer book.disconnectedNamespacePeers
        else book.disconnectedNamespacePeers.erase peer
      disconnectedEvictionOrder :=
        match record.connected, record.lastSeenUnixSecs with
        | false, some lastSeen => insert (toLex (lastSeen, peer)) book.disconnectedEvictionOrder
        | _, _ => book.disconnectedEvictionOrder }

/-- `mutate_peer` up to its call of `enforce_record_bound`. -/
def touchPeer (book : PeerBook PeerId) (peer : PeerId)
    (mutate : PeerRecord PeerId → PeerRecord PeerId) (nowUnixSecs : ℕ) : PeerBook PeerId :=
  let previous := book.peers.lookup peer
  let disconnectedEvictionOrder :=
    match previous.map fun record => (record.connected, record.lastSeenUnixSecs) with
    | some (false, some lastSeen) => book.disconnectedEvictionOrder.erase (toLex (lastSeen, peer))
    | _ => book.disconnectedEvictionOrder
  let record := mutate (previous.getD (.new peer))
  let record := { record with lastSeenUnixSecs := some nowUnixSecs }
  syncIndexes { book with disconnectedEvictionOrder, peers := book.peers.insert peer record } peer
    ((previous.map PeerRecord.connected).getD false)

/-- The loop of `enforce_record_bound`; every round takes one pair out of the eviction order. -/
def enforceLoop : ℕ → PeerBook PeerId → PeerBook PeerId
  | 0, book => book
  | rounds + 1, book =>
    if book.len > book.maxRecords then
      match first? book.disconnectedEvictionOrder with
      -- connected records are protected
      | none => book
      | some oldest =>
        enforceLoop rounds
          { book with
            disconnectedEvictionOrder := book.disconnectedEvictionOrder.erase oldest
            peers := book.peers.erase (ofLex oldest).2
            disconnectedNamespacePeers := book.disconnectedNamespacePeers.erase (ofLex oldest).2 }
    else book

def enforceRecordBound (book : PeerBook PeerId) : PeerBook PeerId :=
  enforceLoop book.disconnectedEvictionOrder.card book

def mutatePeer (book : PeerBook PeerId) (peer : PeerId)
    (mutate : PeerRecord PeerId → PeerRecord PeerId) (nowUnixSecs : ℕ) : PeerBook PeerId :=
  enforceRecordBound (touchPeer book peer mutate nowUnixSecs)

end PeerBook

/-! ### What a call does to its record -/

namespace PeerRecord

variable (record : PeerRecord PeerId)

def addSource (source : PeerSource) : PeerRecord PeerId :=
  { record with sources := insert source record.sources }

def addAddress (addr : Addr) : PeerRecord PeerId :=
  prunePeerAddrs { record with addresses := insert (Multiaddr.toText addr) record.addresses }

def addNamespace (name : String) : PeerRecord PeerId :=
  { record with namespaces := insert name record.namespaces }

def connect (addr : Option Addr) : PeerRecord PeerId :=
  let record := { record with connected := true }.addSource .connected
  match addr with
  | some addr => record.addAddress addr
  | none => record

def disconnect : PeerRecord PeerId := { record with connected := false }

def learnCapabilities (supportsRelay supportsRendezvous supportsDcutr : Option Bool) : PeerRecord PeerId :=
  { record with
    supportsRelay := supportsRelay.or record.supportsRelay
    supportsRendezvous := supportsRendezvous.or record.supportsRendezvous
    supportsDcutr := supportsDcutr.or record.supportsDcutr }

def countFailure : PeerRecord PeerId :=
  { record with failures := UInt32.ofNat (min (record.failures.toNat + 1) (2 ^ 32 - 1)) }

end PeerRecord

namespace PeerBook

section Recording

variable (book : PeerBook PeerId) (peer : PeerId) (nowUnixSecs : ℕ)

def recordPeer (source : PeerSource) : PeerBook PeerId :=
  mutatePeer book peer (fun record => record.addSource source) nowUnixSecs

def recordAddr (addr : Addr) (source : PeerSource) : PeerBook PeerId :=
  mutatePeer book peer (fun record => (record.addSource source).addAddress addr) nowUnixSecs

def recordNamespace (name : String) (source : PeerSource) : PeerBook PeerId :=
  mutatePeer book peer (fun record => (record.addSource source).addNamespace name) nowUnixSecs

def recordConnected (addr : Option Addr) : PeerBook PeerId :=
  mutatePeer book peer (fun record => record.connect addr) nowUnixSecs

def recordCapabilities (supportsRelay supportsRendezvous supportsDcutr : Option Bool) : PeerBook PeerId :=
  mutatePeer book peer
    (fun record => record.learnCapabilities supportsRelay supportsRendezvous supportsDcutr) nowUnixSecs

def recordRelayPreferred (relayPreferred : Bool) : PeerBook PeerId :=
  mutatePeer book peer (fun record => { record with relayPreferred }) nowUnixSecs

def recordDisconnected : PeerBook PeerId := mutatePeer book peer PeerRecord.disconnect nowUnixSecs

def recordDisconnectedIfKnown : PeerBook PeerId :=
  if (book.peers.lookup peer).isNone then book
  else mutatePeer book peer PeerRecord.disconnect nowUnixSecs

def recordFailure : PeerBook PeerId := mutatePeer book peer PeerRecord.countFailure nowUnixSecs

end Recording

/-! ### Consistency -/

/-- **The count and the indexes say what the records say**, and every record has been seen and has few
addresses. -/
structure Indexed (book : PeerBook PeerId) : Prop where
  records : ∀ peer record, book.peers.lookup peer = some record →
    record.addresses.card ≤ maxAddrsPerPeer ∧ ∃ seen, record.lastSeenUnixSecs = some seen
  count : book.connectedCount = Table.total (fun _ record => record.connected.toNat) book.peers
  named : ∀ peer, peer ∈ book.disconnectedNamespacePeers ↔ ∃ record,
    book.peers.lookup peer = some record ∧ record.connected = false ∧ record.namespaces.Nonempty
  order : ∀ seen peer, toLex (seen, peer) ∈ book.disconnectedEvictionOrder ↔ ∃ record,
    book.peers.lookup peer = some record ∧ record.connected = false ∧ record.lastSeenUnixSecs = some seen

theorem indexed_withMaxRecords (maxRecords : ℕ) : Indexed (withMaxRecords maxRecords : PeerBook PeerId) where
  records peer record found := by cases found
  count := rfl
  named peer := by simp [withMaxRecords]
  order seen peer := by simp [withMaxRecords]

/-- The record a call leaves before anything is evicted. -/
def touched (book : PeerBook PeerId) (peer : PeerId) (mutate : PeerRecord PeerId → PeerRecord PeerId)
    (nowUnixSecs : ℕ) : PeerRecord PeerId :=
  { mutate ((book.peers.lookup peer).getD (.new peer)) with lastSeenUnixSecs := some nowUnixSecs }

section Touch

variable (book : PeerBook PeerId) (peer : PeerId) (mutate : PeerRecord PeerId → PeerRecord PeerId)
  (nowUnixSecs : ℕ)

/-- The eviction order while the record is being changed: without the peer's own pair. -/
def orderWithout : Finset (ℕ ×ₗ PeerId) :=
  match (book.peers.lookup peer).map fun record => (record.connected, record.lastSeenUnixSecs) with
  | some (false, some lastSeen) => book.disconnectedEvictionOrder.erase (toLex (lastSeen, peer))
  | _ => book.disconnectedEvictionOrder

/-- The fields of the book after the change of one record. -/
theorem touchPeer_eq : touchPeer book peer mutate nowUnixSecs =
    let record := touched book peer mutate nowUnixSecs
    let wasConnected := ((book.peers.lookup peer).map PeerRecord.connected).getD false
    { peers := book.peers.insert peer record
      disconnectedNamespacePeers :=
        if !record.connected ∧ record.namespaces.Nonempty then insert peer book.disconnectedNamespacePeers
        else book.disconnectedNamespacePeers.erase peer
      disconnectedEvictionOrder :=
        if record.connected then orderWithout book peer
        else insert (toLex (nowUnixSecs, peer)) (orderWithout book peer)
      connectedCount :=
        if wasConnected ≠ record.connected then
          if record.connected then book.connectedCount + 1 else book.connectedCount - 1
        else book.connectedCount
      maxRecords := book.maxRecords } := by
  have found : (book.peers.insert peer (touched book peer mutate nowUnixSecs)).lookup peer
      = some (touched book peer mutate nowUnixSecs) := AList.lookup_insert _
  unfold touchPeer
  show syncIndexes { book with
    disconnectedEvictionOrder := orderWithout book peer
    peers := book.peers.insert peer (touched book peer mutate nowUnixSecs) } peer _ = _
  unfold syncIndexes
  simp only [found]
  cases connected : (touched book peer mutate nowUnixSecs).connected with
  | true => rfl
  | false => rfl

theorem touchPeer_peers : (touchPeer book peer mutate nowUnixSecs).peers
    = book.peers.insert peer (touched book peer mutate nowUnixSecs) := by
  rw [touchPeer_eq]

theorem touchPeer_maxRecords : (touchPeer book peer mutate nowUnixSecs).maxRecords = book.maxRecords := by
  rw [touchPeer_eq]

variable {book}

/-- No pair of the peer is left. -/
theorem mem_orderWithout (indexed : Indexed book) (seen : ℕ) (other : PeerId) :
    toLex (seen, other) ∈ orderWithout book peer ↔
      other ≠ peer ∧ toLex (seen, other) ∈ book.disconnectedEvictionOrder := by
  have own := indexed.order seen peer
  unfold orderWithout
  cases found : book.peers.lookup peer with
  | none =>
    rw [found] at own
    simp only [Option.map_none, iff_and_self]
    rintro inside rfl
    obtain ⟨_, absent, _⟩ := own.mp inside
    cases absent
  | some record =>
    obtain ⟨last, lastSeen⟩ := (indexed.records peer record found).2
    rw [found] at own
    simp only [Option.map_some, lastSeen]
    cases connected : record.connected with
    | true =>
      simp only [iff_and_self]
      rintro inside rfl
      obtain ⟨_, same, disconnected, _⟩ := own.mp inside
      cases same
      rw [connected] at disconnected
      cases disconnected
    | false =>
      simp only [Finset.mem_erase]
      refine and_congr_left fun inside => not_congr ?_
      constructor
      · intro same
        exact congrArg (fun pair => (ofLex pair).2) same
      · rintro rfl
        obtain ⟨_, same, _, stamped⟩ := own.mp inside
        cases same
        rw [lastSeen] at stamped
        cases stamped
        rfl

/-- The mutations of the book keep a record's addresses within their bound. -/
def Tame (mutate : PeerRecord PeerId → PeerRecord PeerId) : Prop :=
  ∀ record, record.addresses.card ≤ maxAddrsPerPeer → (mutate record).addresses.card ≤ maxAddrsPerPeer

variable {mutate}

theorem touched_records (indexed : Indexed book) (tame : Tame mutate) :
    (touched book peer mutate nowUnixSecs).addresses.card ≤ maxAddrsPerPeer := by
  apply tame
  cases found : book.peers.lookup peer with
  | none => exact Nat.zero_le _
  | some record => exact (indexed.records peer record found).1

/-- **Changing a record keeps the count and the indexes.** -/
theorem touchPeer_indexed (indexed : Indexed book) (tame : Tame mutate) :
    Indexed (touchPeer book peer mutate nowUnixSecs) := by
  have short := touched_records peer nowUnixSecs indexed tame
  have stamped : (touched book peer mutate nowUnixSecs).lastSeenUnixSecs = some nowUnixSecs := rfl
  rw [touchPeer_eq]
  generalize touched book peer mutate nowUnixSecs = fresh at short stamped ⊢
  refine ⟨?_, ?_, ?_, ?_⟩
  · intro other record found
    change (book.peers.insert peer fresh).lookup other = some record at found
    rw [Table.lookup_insert_eq] at found
    split_ifs at found
    · cases found
      exact ⟨short, nowUnixSecs, stamped⟩
    · exact indexed.records other record found
  · show (if _ then _ else _) = Table.total _ (book.peers.insert peer fresh)
    cases found : book.peers.lookup peer with
    | none =>
      rw [Table.total_insert_new _ _ found, ← indexed.count]
      cases connected : fresh.connected <;> simp [Nat.add_comm]
    | some record =>
      have trade := Table.total_insert_old (fun _ (record : PeerRecord PeerId) => record.connected.toNat)
        fresh found
      have counted := Table.le_total (fun _ (record : PeerRecord PeerId) => record.connected.toNat) found
      rw [← indexed.count] at trade counted
      generalize Table.total _ (book.peers.insert peer fresh) = after at trade ⊢
      cases before : record.connected <;> cases connected : fresh.connected <;>
        simp [before, connected] at trade counted ⊢ <;> omega
  · intro other
    show other ∈ (if _ then _ else _) ↔ ∃ record, (book.peers.insert peer fresh).lookup other = _ ∧ _
    simp only [Table.lookup_insert_eq]
    by_cases own : other = peer
    · subst own
      simp only [if_true, Option.some.injEq, exists_eq_left']
      split_ifs with named
      · simpa using named
      · simpa using named
    · simp only [if_neg own, ← indexed.named other]
      split_ifs with named
      · simp [own]
      · simp [own]
  · intro seen other
    show toLex (seen, other) ∈ (if _ then _ else _) ↔
      ∃ record, (book.peers.insert peer fresh).lookup other = _ ∧ _
    simp only [Table.lookup_insert_eq]
    by_cases own : other = peer
    · subst own
      simp only [if_true, Option.some.injEq, exists_eq_left', stamped]
      cases connected : fresh.connected with
      | true => simp [mem_orderWithout other indexed]
      | false => simp [mem_orderWithout other indexed, eq_comm]
    · simp only [if_neg own, ← indexed.order seen other]
      split_ifs with connected
      · simp [mem_orderWithout peer indexed, own]
      · simp [mem_orderWithout peer indexed, own]

end Touch

/-! ### Evictions -/

/-- One eviction: the book is over its bound, and of all disconnected records the one that was seen
longest ago goes, the least peer id first. -/
def Evicts (before after : PeerBook PeerId) : Prop :=
  before.maxRecords < before.len ∧ ∃ victim record seen,
    before.peers.lookup victim = some record ∧ record.connected = false ∧
    record.lastSeenUnixSecs = some seen ∧
    (∀ other held, before.peers.lookup other = some held → held.connected = false →
      ∃ stamp, held.lastSeenUnixSecs = some stamp ∧ toLex (seen, victim) ≤ toLex (stamp, other)) ∧
    after.peers = before.peers.erase victim

/-- The book is within its bound, or every record in it is connected. -/
def Bounded (book : PeerBook PeerId) : Prop :=
  book.len ≤ book.maxRecords ∨ ∀ peer record, book.peers.lookup peer = some record → record.connected = true

/-- The body of the loop. -/
def evictPair (book : PeerBook PeerId) (oldest : ℕ ×ₗ PeerId) : PeerBook PeerId :=
  { book with
    disconnectedEvictionOrder := book.disconnectedEvictionOrder.erase oldest
    peers := book.peers.erase (ofLex oldest).2
    disconnectedNamespacePeers := book.disconnectedNamespacePeers.erase (ofLex oldest).2 }

section Evict

variable {book : PeerBook PeerId} (indexed : Indexed book)

include indexed

/-- **Evicting a disconnected record keeps the count and the indexes.** -/
theorem evictPair_indexed {seen : ℕ} {victim : PeerId} {record : PeerRecord PeerId}
    (found : book.peers.lookup victim = some record) (disconnected : record.connected = false)
    (stamped : record.lastSeenUnixSecs = some seen) : Indexed (evictPair book (toLex (seen, victim))) := by
  refine ⟨?_, ?_, ?_, ?_⟩
  · intro other held left
    change (book.peers.erase victim).lookup other = some held at left
    rw [Table.lookup_erase_eq] at left
    split_ifs at left
    exact indexed.records other held left
  · show book.connectedCount = Table.total _ (book.peers.erase victim)
    have weight := Table.total_erase (fun _ (record : PeerRecord PeerId) => record.connected.toNat) found
    rw [← indexed.count, disconnected] at weight
    simpa using weight
  · intro other
    show other ∈ book.disconnectedNamespacePeers.erase victim ↔
      ∃ held, (book.peers.erase victim).lookup other = _ ∧ _
    simp only [Table.lookup_erase_eq, Finset.mem_erase, indexed.named other]
    by_cases own : other = victim
    · simp [own]
    · simp [own]
  · intro stamp other
    show toLex (stamp, other) ∈ book.disconnectedEvictionOrder.erase (toLex (seen, victim)) ↔
      ∃ held, (book.peers.erase victim).lookup other = _ ∧ _
    simp only [Table.lookup_erase_eq, Finset.mem_erase, indexed.order stamp other]
    by_cases own : other = victim
    · subst own
      simp only [found, Option.some.injEq, exists_eq_left', stamped, disconnected, true_and, if_true,
        reduceCtorEq, false_and, exists_false, iff_false, not_and]
      rintro different rfl
      exact different rfl
    · have apart : toLex (stamp, other) ≠ toLex (seen, victim) := fun same =>
        own (congrArg (fun pair => (ofLex pair).2) same)
      simp [own, apart]

/-- The first pair of the order names the record to evict. -/
theorem evicts_first {seen : ℕ} {victim : PeerId} (large : book.maxRecords < book.len)
    (taken : first? book.disconnectedEvictionOrder = some (toLex (seen, victim))) :
    Evicts book (evictPair book (toLex (seen, victim))) ∧
      Indexed (evictPair book (toLex (seen, victim))) := by
  obtain ⟨member, below⟩ := (first?_eq_some_iff _ _).mp taken
  obtain ⟨record, found, disconnected, stamped⟩ := (indexed.order seen victim).mp member
  refine ⟨⟨large, victim, record, seen, found, disconnected, stamped, ?_, rfl⟩,
    evictPair_indexed indexed found disconnected stamped⟩
  intro other held present apart
  obtain ⟨stamp, last⟩ := (indexed.records other held present).2
  exact ⟨stamp, last, below _ ((indexed.order stamp other).mpr ⟨held, present, apart, last⟩)⟩

/-- Nothing is left to evict. -/
theorem Indexed.bounded (none : book.disconnectedEvictionOrder = ∅) : Bounded book := by
  right
  intro peer record found
  obtain ⟨seen, stamped⟩ := (indexed.records peer record found).2
  by_contra disconnected
  have member := (indexed.order seen peer).mpr ⟨record, found, by simpa using disconnected, stamped⟩
  rw [none] at member
  simp at member

/-- **What the loop does**: a chain of evictions that ends within the bound or with connected records
only. -/
theorem enforceLoop_spec {rounds : ℕ} (enough : book.disconnectedEvictionOrder.card ≤ rounds) :
    Relation.ReflTransGen Evicts book (enforceLoop rounds book) ∧ Indexed (enforceLoop rounds book) ∧
      Bounded (enforceLoop rounds book) ∧ (enforceLoop rounds book).maxRecords = book.maxRecords := by
  induction rounds generalizing book with
  | zero => exact ⟨.refl, indexed, indexed.bounded (Finset.card_eq_zero.mp (Nat.le_zero.mp enough)), rfl⟩
  | succ rounds ih =>
    unfold enforceLoop
    split_ifs with large
    · cases taken : first? book.disconnectedEvictionOrder with
      | none => exact ⟨.refl, indexed, indexed.bounded ((first?_eq_none_iff _).mp taken), rfl⟩
      | some oldest =>
        obtain ⟨evicts, next⟩ := evicts_first indexed large taken
        have fewer := Finset.card_erase_of_mem ((first?_eq_some_iff _ _).mp taken).1
        have enough : (evictPair book oldest).disconnectedEvictionOrder.card ≤ rounds := by
          show (book.disconnectedEvictionOrder.erase oldest).card ≤ rounds
          omega
        obtain ⟨chain, rest⟩ := ih next enough
        exact ⟨.head evicts chain, rest⟩
    · exact ⟨.refl, indexed, .inl (not_lt.mp large), rfl⟩

/-- Connected records stay. -/
theorem enforceRecordBound_connected {peer : PeerId} {record : PeerRecord PeerId}
    (found : book.peers.lookup peer = some record) (connected : record.connected = true) :
    (enforceRecordBound book).peers.lookup peer = some record := by
  have chain := (enforceLoop_spec indexed le_rfl).1
  change Relation.ReflTransGen Evicts book (enforceRecordBound book) at chain
  generalize enforceRecordBound book = after at chain ⊢
  induction chain with
  | refl => exact found
  | tail _ evicts ih =>
    obtain ⟨_, victim, lost, _, held, disconnected, _, _, erased⟩ := evicts
    rw [erased, Table.lookup_erase_eq, if_neg]
    · exact ih
    · rintro rfl
      rw [ih] at held
      cases held
      rw [connected] at disconnected
      cases disconnected

end Evict

/-! ### Calls -/

/-- One call of a recording method. -/
inductive Call (PeerId Addr : Type)
  | recordPeer (peer : PeerId) (source : PeerSource)
  | recordAddr (peer : PeerId) (addr : Addr) (source : PeerSource)
  | recordNamespace (peer : PeerId) (name : String) (source : PeerSource)
  | recordConnected (peer : PeerId) (addr : Option Addr)
  | recordCapabilities (peer : PeerId) (supportsRelay supportsRendezvous supportsDcutr : Option Bool)
  | recordRelayPreferred (peer : PeerId) (relayPreferred : Bool)
  | recordDisconnected (peer : PeerId)
  | recordDisconnectedIfKnown (peer : PeerId)
  | recordFailure (peer : PeerId)

def Call.peer : Call PeerId Addr → PeerId
  | recordPeer peer _ | recordAddr peer _ _ | recordNamespace peer _ _ | recordConnected peer _
  | recordCapabilities peer _ _ _ | recordRelayPreferred peer _ | recordDisconnected peer
  | recordDisconnectedIfKnown peer | recordFailure peer => peer

def Call.mutate : Call PeerId Addr → PeerRecord PeerId → PeerRecord PeerId
  | recordPeer _ source, record => record.addSource source
  | recordAddr _ addr source, record => (record.addSource source).addAddress addr
  | recordNamespace _ name source, record => (record.addSource source).addNamespace name
  | recordConnected _ addr, record => record.connect addr
  | recordCapabilities _ relay rendezvous dcutr, record => record.learnCapabilities relay rendezvous dcutr
  | recordRelayPreferred _ relayPreferred, record => { record with relayPreferred }
  | recordDisconnected _, record => record.disconnect
  | recordDisconnectedIfKnown _, record => record.disconnect
  | recordFailure _, record => record.countFailure

/-- A run of the book: calls with the readings of the clock they make. -/
def step (book : PeerBook PeerId) (event : Call PeerId Addr × ℕ) : Unit × PeerBook PeerId :=
  ((), match event.1 with
    | .recordPeer peer source => book.recordPeer peer event.2 source
    | .recordAddr peer addr source => book.recordAddr peer event.2 addr source
    | .recordNamespace peer name source => book.recordNamespace peer event.2 name source
    | .recordConnected peer addr => book.recordConnected peer event.2 addr
    | .recordCapabilities peer relay rendezvous dcutr =>
      book.recordCapabilities peer event.2 relay rendezvous dcutr
    | .recordRelayPreferred peer relayPreferred => book.recordRelayPreferred peer event.2 relayPreferred
    | .recordDisconnected peer => book.recordDisconnected peer event.2
    | .recordDisconnectedIfKnown peer => book.recordDisconnectedIfKnown peer event.2
    | .recordFailure peer => book.recordFailure peer event.2)

/-- Does the call change a record? Only one of the methods asks whether there is one. -/
def Call.Acts (call : Call PeerId Addr) (book : PeerBook PeerId) : Prop :=
  ∀ peer, call = .recordDisconnectedIfKnown peer → (book.peers.lookup peer).isSome

/-- The book in the middle of a call: the record is changed, nothing is evicted yet. -/
def Call.touch (call : Call PeerId Addr) (book : PeerBook PeerId) (nowUnixSecs : ℕ) : PeerBook PeerId :=
  touchPeer book call.peer call.mutate nowUnixSecs

theorem Call.mutate_tame (call : Call PeerId Addr) : Tame call.mutate := by
  intro record within
  cases call with
  | recordAddr => exact card_dropLeast_le _ _
  | recordConnected _ addr =>
    cases addr with
    | none => exact within
    | some addr => exact card_dropLeast_le _ _
  | recordPeer | recordNamespace | recordCapabilities | recordRelayPreferred | recordDisconnected
  | recordDisconnectedIfKnown | recordFailure => exact within

/-- **One step of a run**: the record is changed and then the bound enforced, or nothing happens. -/
theorem step_case (book : PeerBook PeerId) (call : Call PeerId Addr) (nowUnixSecs : ℕ) :
    call.Acts book ∧ (step book (call, nowUnixSecs)).2 = enforceRecordBound (call.touch book nowUnixSecs) ∨
      ¬ call.Acts book ∧ (step book (call, nowUnixSecs)).2 = book := by
  cases call with
  | recordDisconnectedIfKnown peer =>
    show _ ∧ recordDisconnectedIfKnown book peer nowUnixSecs = _ ∨
      _ ∧ recordDisconnectedIfKnown book peer nowUnixSecs = _
    unfold recordDisconnectedIfKnown
    cases found : book.peers.lookup peer with
    | none =>
      right
      refine ⟨fun acts => ?_, rfl⟩
      have known := acts peer rfl
      rw [found] at known
      cases known
    | some record =>
      left
      refine ⟨?_, rfl⟩
      rintro _ ⟨⟩
      rw [found]
      rfl
  | recordPeer | recordAddr | recordNamespace | recordConnected | recordCapabilities
  | recordRelayPreferred | recordDisconnected | recordFailure => exact .inl ⟨nofun, rfl⟩

/-! ### Every reachable book -/

/-- What every reachable book satisfies. -/
structure Consistent (maxRecords : ℕ) (book : PeerBook PeerId) : Prop extends Indexed book where
  bounded : Bounded book
  limit : book.maxRecords = max maxRecords 1

theorem Call.touch_indexed {book : PeerBook PeerId} (indexed : Indexed book) (call : Call PeerId Addr)
    (nowUnixSecs : ℕ) : Indexed (call.touch book nowUnixSecs) :=
  touchPeer_indexed call.peer nowUnixSecs indexed call.mutate_tame

theorem step_consistent {maxRecords : ℕ} {book : PeerBook PeerId} (consistent : Consistent maxRecords book)
    (event : Call PeerId Addr × ℕ) : Consistent maxRecords (step book event).2 := by
  obtain ⟨call, nowUnixSecs⟩ := event
  rcases step_case book call nowUnixSecs with ⟨_, acted⟩ | ⟨_, same⟩
  · obtain ⟨_, indexed, bounded, limit⟩ :=
      enforceLoop_spec (call.touch_indexed consistent.toIndexed nowUnixSecs) le_rfl
    rw [acted]
    exact ⟨indexed, bounded, limit.trans ((touchPeer_maxRecords ..).trans consistent.limit)⟩
  · rw [same]
    exact consistent

theorem reachable_consistent {maxRecords : ℕ} {book : PeerBook PeerId}
    (reached : Reachable step (fun _ : Call PeerId Addr × ℕ => True) (withMaxRecords maxRecords) book) :
    Consistent maxRecords book := by
  apply reached.induct
  · exact ⟨indexed_withMaxRecords maxRecords, .inl (Nat.zero_le _), rfl⟩
  · intro current event consistent _
    exact step_consistent consistent event

theorem total_connected (book : PeerBook PeerId) :
    Table.total (fun _ record => record.connected.toNat) book.peers
      = (book.peers.entries.filter fun entry => entry.2.connected).length := by
  unfold Table.total
  induction book.peers.entries with
  | nil => rfl
  | cons entry rest ih =>
    rw [List.map_cons, List.sum_cons, ih, List.filter_cons]
    cases connected : entry.2.connected with
    | true => simp [connected, Nat.add_comm]
    | false => simp [connected]

/-- **The book is consistent in every reachable state.** The count and both indexes are exact, no record
has more than 64 addresses, and the book is within its bound unless all its records are connected. Every
call changes its own record only, and what it removes afterwards is, one by one, the disconnected record
with the least last sighting and peer id; connected records all stay. -/
theorem peer_book_consistent (maxRecords : ℕ) {book : PeerBook PeerId}
    (reached : Reachable step (fun _ : Call PeerId Addr × ℕ => True) (withMaxRecords maxRecords) book) :
    book.connectedCount = (book.peers.entries.filter fun entry => entry.2.connected).length ∧
    (∀ peer, peer ∈ book.disconnectedNamespacePeers ↔ ∃ record, book.record peer = some record ∧
      record.connected = false ∧ record.namespaces.Nonempty) ∧
    (∀ seen peer, toLex (seen, peer) ∈ book.disconnectedEvictionOrder ↔ ∃ record,
      book.record peer = some record ∧ record.connected = false ∧ record.lastSeenUnixSecs = some seen) ∧
    (∀ peer record, book.record peer = some record →
      record.addresses.card ≤ 64 ∧ record.lastSeenUnixSecs.isSome) ∧
    (book.len ≤ max maxRecords 1 ∨
      ∀ peer record, book.record peer = some record → record.connected = true) ∧
    ∀ (call : Call PeerId Addr) (nowUnixSecs : ℕ),
      let after := (step book (call, nowUnixSecs)).2
      (¬ call.Acts book ∧ after = book) ∨
      ((∀ peer, (call.touch book nowUnixSecs).record peer = if peer = call.peer then
          some { call.mutate ((book.record call.peer).getD (.new call.peer)) with
            lastSeenUnixSecs := some nowUnixSecs }
        else book.record peer) ∧
      Relation.ReflTransGen Evicts (call.touch book nowUnixSecs) after ∧
      ∀ peer record, (call.touch book nowUnixSecs).record peer = some record → record.connected = true →
        after.record peer = some record) := by
  have consistent := reachable_consistent reached
  refine ⟨?_, consistent.named, consistent.order, ?_, ?_, ?_⟩
  · rw [consistent.count, total_connected]
  · intro peer record found
    obtain ⟨short, seen, stamped⟩ := consistent.records peer record found
    exact ⟨short, by rw [stamped]; rfl⟩
  · rw [← consistent.limit]
    exact consistent.bounded
  · intro call nowUnixSecs after
    rcases step_case book call nowUnixSecs with ⟨_, acted⟩ | idle
    · have indexed := call.touch_indexed consistent.toIndexed nowUnixSecs
      have enforced : after = enforceRecordBound (call.touch book nowUnixSecs) := acted
      right
      refine ⟨?_, ?_, ?_⟩
      · intro peer
        unfold record Call.touch
        rw [touchPeer_peers]
        exact Table.lookup_insert_eq _ _ _ _
      · rw [enforced]
        exact (enforceLoop_spec indexed le_rfl).1
      · intro peer record found connected
        rw [enforced]
        exact enforceRecordBound_connected indexed found connected
    · exact .inl idle

theorem peer_book_consistent_run :
    let run : List (Call Seed Endpoint × ℕ) := [(.recordNamespace .nnoo "p2p-net/1/app/tag" .dhtProvider, 9),
      (.recordConnected .qcu2 none, 5), (.recordFailure .nnoo, 7)]
    (final step (withMaxRecords 1) run).len ≤ 1 ∨
      ∀ peer record, (final step (withMaxRecords 1) run).record peer = some record → record.connected = true :=
  (peer_book_consistent 1 (reachable_final _ fun _ _ => trivial)).2.2.2.2.1

end PeerBook

end P2pNet.Connectivity
