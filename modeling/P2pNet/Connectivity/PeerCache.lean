/-
**The peer cache** (`crates/connectivity/peer_cache`).

The cache remembers on disk which peers exist (`identities`) and where they were last reached (`entries`). Handlers
record sightings and failures in a batch (`PeerCacheWriteBatch`); a flush reads the file, drops what is no longer
valid, applies the batch and writes the file again. Texts are compared as texts, and `CacheFormat` is `serde_json`.
-/

import P2pNet.Connectivity.Components
import P2pNet.Lib.Firsts
import P2pNet.Lib.Run

set_option linter.unusedSectionVars false

namespace P2pNet.Connectivity

open Lib PeerIdentity

variable {PeerId Addr Raw : Type} [PeerIdentity PeerId] [DecidableEq Addr] [Multiaddr PeerId Addr]
  [AppendPeer PeerId Addr]

/-! ### The file -/

structure CachedPeerIdentity where
  peerId : String
  lastSeenUnixSecs : UInt64
  deriving DecidableEq

inductive CachedDialAddrKind
  | publicDirect
  | relayReservation
  | localSession
  deriving DecidableEq

structure CachedPeerAddr where
  peerId : String
  addr : String
  lastSeenUnixSecs : UInt64
  failures : UInt32
  addrKind : CachedDialAddrKind
  expiresUnixSecs : Option UInt64
  deriving DecidableEq

/-- The peer and the address of an entry, as it is recognised. -/
def CachedPeerAddr.key (entry : CachedPeerAddr) : String × String := (entry.peerId, entry.addr)

/-- The identity that an entry stands for. -/
def CachedPeerAddr.identity (entry : CachedPeerAddr) : CachedPeerIdentity := ⟨entry.peerId, entry.lastSeenUnixSecs⟩

structure PeerCacheFile where
  version : UInt32
  identities : List CachedPeerIdentity
  dialableAddrs : List CachedPeerAddr
  entries : List CachedPeerAddr
  addrs : List String
  deriving DecidableEq

/-- The derived `Default`, whose version is zero. -/
def PeerCacheFile.default : PeerCacheFile := ⟨0, [], [], [], []⟩

def cacheVersion : UInt32 := 3

/-- The fields of `DiscoveryConfig` that the cache reads. -/
structure PeerCacheConfig where
  peerCacheMaxEntries : ℕ
  peerCacheMaxAgeSecs : UInt64
  peerIdentityMaxAgeSecs : UInt64
  peerCachePublicAddrMaxAgeSecs : UInt64
  peerCacheRelayAddrMaxAgeSecs : UInt64
  peerCachePersistLocalAddrs : Bool
  peerCacheLocalAddrMaxAgeSecs : UInt64
  peerCacheMaxFailures : UInt32

/-- `serde_json::to_string` and `serde_json::from_str` for files, over the contents of a storage. -/
structure CacheFormat (Raw : Type) where
  toText : PeerCacheFile → Except String Raw
  fromText : Raw → Except String PeerCacheFile

/-- Every file is written, and reads back. -/
def CacheFormat.Lawful (format : CacheFormat Raw) : Prop :=
  ∀ file, ∃ text, format.toText file = .ok text ∧ format.fromText text = .ok file

/-- What the cache is configured with, for one type of peers and one of addresses. -/
structure CacheStore (PeerId Addr Raw : Type) where
  config : PeerCacheConfig
  components : Components
  format : CacheFormat Raw

namespace CacheStore

variable (store : CacheStore PeerId Addr Raw)

/-! ### Addresses that are cached -/

def containsDnsaddr (addr : Addr) : Bool :=
  (Multiaddr.iter addr).any fun protocol => store.components.of protocol = .dnsaddr

def containsLocalIp (addr : Addr) : Bool :=
  (Multiaddr.iter addr).any fun protocol => match store.components.of protocol with
    | .ip ip => ip.isLocalSource
    | _ => false

def isReachable (addr : Addr) : Bool := hasReachableTransport store.components.hostOf (Multiaddr.iter addr)

def isCacheablePeerAddr (addr : Addr) (expectedPeer : Option PeerId) : Bool :=
  match extractP2pPeerId addr with
  | none => false
  | some peer =>
    if expectedPeer.any (· ≠ peer) then false
    else if hasUnspecifiedIp store.components addr || store.containsDnsaddr addr then false
    else store.isReachable addr

def classifyDialableAddr (addr : Addr) : Option CachedDialAddrKind :=
  if !store.isReachable addr || hasUnspecifiedIp store.components addr || store.containsDnsaddr addr then none
  else if isP2pCircuitAddr addr then some .relayReservation
  else if store.containsLocalIp addr then some .localSession
  else some .publicDirect

def normalizePeerAddr (peer : PeerId) (addr : Addr) : Option Addr :=
  if store.isCacheablePeerAddr addr (some peer) then some addr
  else if hasP2pPeerId addr || !store.isReachable addr || hasUnspecifiedIp store.components addr then none
  else some (AppendPeer.withP2p addr peer)

def isPersistableDialableAddrKind : CachedDialAddrKind → Bool
  | .publicDirect | .relayReservation => true
  | .localSession => store.config.peerCachePersistLocalAddrs

/-! ### Times -/

def minNonzero (kindMax : Option UInt64) (globalMax : UInt64) : Option UInt64 :=
  match kindMax with
  | none => if globalMax = 0 then none else some globalMax
  | some kind => if globalMax = 0 then some kind else some (min kind globalMax)

def effectiveDialableMaxAgeSecs (addrKind : CachedDialAddrKind) : Option UInt64 :=
  let kindMax := match addrKind with
    | .publicDirect => some store.config.peerCachePublicAddrMaxAgeSecs
    | .relayReservation => some store.config.peerCacheRelayAddrMaxAgeSecs
    | .localSession =>
      if store.config.peerCacheLocalAddrMaxAgeSecs = 0 then none else some store.config.peerCacheLocalAddrMaxAgeSecs
  minNonzero kindMax store.config.peerCacheMaxAgeSecs

def inferredExpirySecs (addrKind : CachedDialAddrKind) (now : UInt64) : Option UInt64 :=
  (store.effectiveDialableMaxAgeSecs addrKind).map (U64.saturatingAdd now)

/-- Was it seen, and longer ago than that? -/
def isOlderThan (lastSeen now maxAge : UInt64) : Bool := 0 < lastSeen && maxAge < U64.saturatingSub now lastSeen

def toleratesFailures (failures : UInt32) : Bool :=
  store.config.peerCacheMaxFailures = 0 || failures < store.config.peerCacheMaxFailures

/-! ### Entries of a file -/

def normalizeEntryKind (entry : CachedPeerAddr) : Option CachedPeerAddr :=
  match (Multiaddr.parse entry.addr : Except String Addr) with
  | .error _ => none
  | .ok addr => (store.classifyDialableAddr addr).map fun addrKind => { entry with addrKind }

def isValidCacheEntry (entry : CachedPeerAddr) (now : UInt64) : Bool :=
  match (PeerIdentity.parse entry.peerId : Except String PeerId), (Multiaddr.parse entry.addr : Except String Addr) with
  | .ok peer, .ok addr =>
    store.isCacheablePeerAddr addr (some peer) &&
      match store.classifyDialableAddr addr with
      | none => false
      | some kind =>
        store.isPersistableDialableAddrKind kind && !entry.expiresUnixSecs.any (· ≤ now) &&
          !(store.effectiveDialableMaxAgeSecs kind).any (isOlderThan entry.lastSeenUnixSecs now) &&
          store.toleratesFailures entry.failures
  | _, _ => false

def olderFormatEntries (Addr : Type) [Multiaddr PeerId Addr] (file : PeerCacheFile) : List CachedPeerAddr :=
  file.addrs.filterMap fun text =>
    match (Multiaddr.parse text : Except String Addr) with
    | .error _ => none
    | .ok addr => (extractP2pPeerId addr).map fun peer => ⟨toText peer, text, 0, 0, .publicDirect, none⟩

/-- The loop of a reader that skips what it has seen. -/
def withoutRepetitions {α κ : Type} [DecidableEq κ] (key : α → κ) (list : List α) : List α :=
  (list.foldl (pushNew key) ([], ∅)).1

def validDialableEntriesFromFile (file : PeerCacheFile) (now : UInt64) : List CachedPeerAddr :=
  if file.version < cacheVersion then []
  else
    let entries := file.dialableAddrs ++ file.entries ++ olderFormatEntries Addr file
    ((withoutRepetitions CachedPeerAddr.key (entries.filterMap store.normalizeEntryKind)).filter
      (store.isValidCacheEntry · now)).take store.config.peerCacheMaxEntries

def isValidIdentityEntry (identity : CachedPeerIdentity) (now : UInt64) : Bool :=
  match (PeerIdentity.parse identity.peerId : Except String PeerId) with
  | .error _ => false
  | .ok _ => !isOlderThan identity.lastSeenUnixSecs now store.config.peerIdentityMaxAgeSecs

def validIdentitiesFromFile (file : PeerCacheFile) (now : UInt64) : List CachedPeerIdentity :=
  if file.version < cacheVersion then []
  else
    let identities := file.identities ++
      (store.validDialableEntriesFromFile file now).map CachedPeerAddr.identity
    (withoutRepetitions CachedPeerIdentity.peerId (identities.filter (store.isValidIdentityEntry · now))).take
      store.config.peerCacheMaxEntries

end CacheStore

inductive PeerCacheMutation (PeerId Addr : Type)
  | seen (peer : PeerId) (addr : Addr) (expiresUnixSecs : Option UInt64)
  | failure (peer : PeerId)
  deriving DecidableEq

/-- What a flush holds in memory. -/
structure CacheContents where
  identities : List CachedPeerIdentity
  entries : List CachedPeerAddr
  deriving DecidableEq

/-- `failures.saturating_add(1)`. -/
def countFailure (failures : UInt32) : UInt32 := if failures.toNat + 1 < 2 ^ 32 then failures + 1 else failures

def CachedPeerAddr.failed (peer : String) (entry : CachedPeerAddr) : CachedPeerAddr :=
  if entry.peerId = peer then { entry with failures := countFailure entry.failures } else entry

def upsertIdentity (identities : List CachedPeerIdentity) (peer : PeerId) (now : UInt64) : List CachedPeerIdentity :=
  ⟨toText peer, now⟩ :: identities.filter fun identity => identity.peerId ≠ toText peer

namespace CacheStore

variable (store : CacheStore PeerId Addr Raw)

/-- The entry of a sighting, if its address is cached. -/
def sightedEntry (now : UInt64) (peer : PeerId) (addr : Addr) (expiresUnixSecs : Option UInt64) :
    Option CachedPeerAddr :=
  match store.normalizePeerAddr peer addr with
  | none => none
  | some cacheAddr =>
    match store.classifyDialableAddr cacheAddr with
    | none => none
    | some addrKind =>
      if !store.isPersistableDialableAddrKind addrKind then none
      else some ⟨toText peer, Multiaddr.toText cacheAddr, now, 0, addrKind,
        expiresUnixSecs.or (store.inferredExpirySecs addrKind now)⟩

/-- A sighting takes the place of the entries with its address or its peer. -/
def replaceEntry (entries : List CachedPeerAddr) : Option CachedPeerAddr → List CachedPeerAddr
  | none => entries
  | some sighted =>
    sighted :: entries.filter fun entry => entry.addr ≠ sighted.addr ∧ entry.peerId ≠ sighted.peerId

/-- A failure counts for every entry of the peer, and drops those that have too many. -/
def failEntries (entries : List CachedPeerAddr) (peer : String) : List CachedPeerAddr :=
  (entries.map (CachedPeerAddr.failed peer)).filter fun entry => store.toleratesFailures entry.failures

def applyMutation (now : UInt64) (contents : CacheContents) : PeerCacheMutation PeerId Addr → CacheContents
  | .seen peer addr expiresUnixSecs =>
    ⟨upsertIdentity contents.identities peer now,
      replaceEntry contents.entries (store.sightedEntry now peer addr expiresUnixSecs)⟩
  | .failure peer => ⟨contents.identities, store.failEntries contents.entries (toText peer)⟩

def readCacheFile (raw : Option Raw) : Option PeerCacheFile := raw.bind fun text => (store.format.fromText text).toOption

/-- What a flush finds. -/
def readContents (now : UInt64) (raw : Option Raw) : CacheContents :=
  let file := (store.readCacheFile raw).getD .default
  ⟨store.validIdentitiesFromFile file now, store.validDialableEntriesFromFile file now⟩

/-- The file that a flush writes. -/
def fileOf (contents : CacheContents) : PeerCacheFile :=
  ⟨cacheVersion, contents.identities, contents.entries, contents.entries, []⟩

def truncate (contents : CacheContents) : CacheContents :=
  ⟨contents.identities.take store.config.peerCacheMaxEntries, contents.entries.take store.config.peerCacheMaxEntries⟩

/-- `write_entries_with_storage`; the storage takes what it is given. -/
def writeContents (raw : Option Raw) (contents : CacheContents) : Option Raw :=
  match store.format.toText (fileOf contents) with
  | .ok text => some text
  | .error _ => raw

def applyMutations (now : UInt64) (mutations : List (PeerCacheMutation PeerId Addr)) (raw : Option Raw) : Option Raw :=
  store.writeContents raw
    (store.truncate (mutations.foldl (store.applyMutation now) (store.readContents now raw)))

def loadEntries (now : UInt64) (raw : Option Raw) : List CachedPeerAddr :=
  match store.readCacheFile raw with
  | none => []
  | some file => store.validDialableEntriesFromFile file now

end CacheStore

/-! ### The batch -/

def maxPendingCacheMutations : ℕ := 4096

structure PeerCacheWriteBatch (PeerId Addr : Type) [DecidableEq PeerId] [DecidableEq Addr] where
  pending : List (PeerCacheMutation PeerId Addr)
  pendingSeen : Finset (PeerId × Addr × Option UInt64)

/-- The recording functions; `record_seen` gives no expiry. -/
inductive CacheCall (PeerId Addr : Type)
  | recordSeen (peer : PeerId) (addr : Addr)
  | recordSeenWithExpiry (peer : PeerId) (addr : Addr) (expiresUnixSecs : Option UInt64)
  | recordFailure (peer : PeerId)

namespace PeerCacheWriteBatch

def default : PeerCacheWriteBatch PeerId Addr := ⟨[], ∅⟩

variable (batch : PeerCacheWriteBatch PeerId Addr)

def push (mutation : PeerCacheMutation PeerId Addr) : PeerCacheWriteBatch PeerId Addr :=
  let room :=
    if maxPendingCacheMutations ≤ batch.pending.length then
      match batch.pending with
      | .seen peer addr expiresUnixSecs :: rest => ⟨rest, batch.pendingSeen.erase (peer, addr, expiresUnixSecs)⟩
      | .failure _ :: rest => ⟨rest, batch.pendingSeen⟩
      | [] => batch
    else batch
  { room with pending := room.pending ++ [mutation] }

def recordSeenWithExpiry (peer : PeerId) (addr : Addr) (expiresUnixSecs : Option UInt64) :
    PeerCacheWriteBatch PeerId Addr :=
  let key := (peer, addr, expiresUnixSecs)
  if key ∈ batch.pendingSeen then batch
  else push { batch with pendingSeen := insert key batch.pendingSeen } (.seen peer addr expiresUnixSecs)

def record : CacheCall PeerId Addr → PeerCacheWriteBatch PeerId Addr
  | .recordSeen peer addr => batch.recordSeenWithExpiry peer addr none
  | .recordSeenWithExpiry peer addr expiresUnixSecs => batch.recordSeenWithExpiry peer addr expiresUnixSecs
  | .recordFailure peer => batch.push (.failure peer)

def flush (store : CacheStore PeerId Addr Raw) (now : UInt64) (raw : Option Raw) :
    PeerCacheWriteBatch PeerId Addr × Option Raw :=
  if batch.pending.isEmpty then (batch, raw) else (default, store.applyMutations now batch.pending raw)

end PeerCacheWriteBatch

/-! ### Reading a written file -/

section Repetitions

variable {α κ : Type} [DecidableEq κ] (key : α → κ)

theorem withoutRepetitions_eq (list : List α) : CacheStore.withoutRepetitions key list = firstsBy key list := by
  unfold CacheStore.withoutRepetitions
  rw [foldl_pushNew]
  simp

/-- A list that is stored twice is read once. -/
theorem withoutRepetitions_twice {list : List α} (nodup : (list.map key).Nodup) :
    CacheStore.withoutRepetitions key (list ++ list) = list := by
  rw [withoutRepetitions_eq, firstsBy_append, firstsBy_eq_self key nodup, List.filter_eq_nil_iff.mpr, List.append_nil]
  intro element member
  simpa using ⟨element, member, rfl⟩

end Repetitions

namespace CacheStore

variable (store : CacheStore PeerId Addr Raw)

theorem newest (contents : CacheContents) : ¬(fileOf contents).version < cacheVersion := UInt32.lt_irrefl _

/-- **The entries of a written file**: the valid ones, in its order. -/
theorem validDialableEntries_written {contents : CacheContents} (now : UInt64)
    (normalized : ∀ entry ∈ contents.entries, store.normalizeEntryKind entry = some entry)
    (distinct : (contents.entries.map CachedPeerAddr.key).Nodup)
    (few : contents.entries.length ≤ store.config.peerCacheMaxEntries) :
    store.validDialableEntriesFromFile (fileOf contents) now =
      contents.entries.filter (store.isValidCacheEntry · now) := by
  have unchanged : contents.entries.filterMap store.normalizeEntryKind = contents.entries := by
    rw [List.filterMap_congr normalized]
    exact List.filterMap_some
  unfold validDialableEntriesFromFile
  rw [if_neg (newest contents)]
  dsimp only [fileOf, olderFormatEntries]
  rw [List.filterMap_nil, List.append_nil, List.filterMap_append, unchanged, withoutRepetitions_twice _ distinct]
  exact List.take_of_length_le ((List.length_filter_le _ _).trans few)

/-! ### Well-formed contents -/

/-- **An entry that belongs in the cache**: its texts are those of an address that ends at its peer, can be cached and
is of a kind that is kept. -/
def Cached (entry : CachedPeerAddr) : Prop :=
  ∃ (peer : PeerId) (addr : Addr), entry.peerId = toText peer ∧ entry.addr = Multiaddr.toText addr ∧
    store.isCacheablePeerAddr addr (some peer) = true ∧ store.classifyDialableAddr addr = some entry.addrKind ∧
      store.isPersistableDialableAddrKind entry.addrKind = true

structure WellFormed (contents : CacheContents) : Prop where
  cached : ∀ entry ∈ contents.entries, store.Cached entry
  peers : (contents.entries.map CachedPeerAddr.peerId).Nodup
  addrs : (contents.entries.map CachedPeerAddr.addr).Nodup
  identities : (contents.identities.map CachedPeerIdentity.peerId).Nodup

variable {store}

theorem isCacheablePeerAddr_iff {addr : Addr} {peer : PeerId} :
    store.isCacheablePeerAddr addr (some peer) = true ↔ extractP2pPeerId addr = some peer ∧
      hasUnspecifiedIp store.components addr = false ∧ store.containsDnsaddr addr = false ∧
        store.isReachable addr = true := by
  unfold isCacheablePeerAddr
  cases extractP2pPeerId addr with
  | none => simp
  | some found =>
    by_cases same : peer = found
    · subst same
      cases hasUnspecifiedIp store.components addr <;> cases store.containsDnsaddr addr <;> simp
    · simp [same, Ne.symm same]

theorem classifyDialableAddr_some {addr : Addr} {addrKind : CachedDialAddrKind}
    (classified : store.classifyDialableAddr addr = some addrKind) : store.isReachable addr = true ∧
      hasUnspecifiedIp store.components addr = false ∧ store.containsDnsaddr addr = false := by
  unfold classifyDialableAddr at classified
  cases reachable : store.isReachable addr <;> cases unspecified : hasUnspecifiedIp store.components addr <;>
    cases looked : store.containsDnsaddr addr <;> simp [reachable, unspecified, looked] at classified ⊢

theorem extractP2pPeerId_normalizePeerAddr {peer : PeerId} {addr normalized : Addr}
    (accepted : store.normalizePeerAddr peer addr = some normalized) : extractP2pPeerId normalized = some peer := by
  unfold normalizePeerAddr at accepted
  split_ifs at accepted with cacheable refused
  · obtain rfl := Option.some.inj accepted
    exact (isCacheablePeerAddr_iff.mp cacheable).1
  · obtain rfl := Option.some.inj accepted
    rw [extractP2pPeerId_eq, peersOf, AppendPeer.iter_withP2p, List.filterMap_append]
    exact List.getLast?_concat

/-- What a sighting puts into the cache. -/
theorem sightedEntry_some {now : UInt64} {peer : PeerId} {addr : Addr} {expires : Option UInt64}
    {sighted : CachedPeerAddr} (found : store.sightedEntry now peer addr expires = some sighted) :
    store.Cached sighted ∧ sighted.peerId = toText peer ∧ sighted.lastSeenUnixSecs = now ∧ sighted.failures = 0 ∧
      ∃ normalized : Addr, store.normalizePeerAddr peer addr = some normalized ∧
        sighted.addr = Multiaddr.toText normalized := by
  unfold sightedEntry at found
  cases normalized : store.normalizePeerAddr peer addr with
  | none => simp [normalized] at found
  | some cacheAddr =>
    cases classified : store.classifyDialableAddr cacheAddr with
    | none => simp [normalized, classified] at found
    | some addrKind =>
      simp only [normalized, classified] at found
      split_ifs at found with refused
      obtain rfl := Option.some.inj found
      obtain ⟨reachable, specified, unlooked⟩ := classifyDialableAddr_some classified
      refine ⟨⟨peer, cacheAddr, rfl, rfl, ?_, classified, by simpa using refused⟩, rfl, rfl, rfl, cacheAddr, rfl, rfl⟩
      exact isCacheablePeerAddr_iff.mpr ⟨extractP2pPeerId_normalizePeerAddr normalized, specified, unlooked, reachable⟩

theorem Cached.failed {entry : CachedPeerAddr} (cached : store.Cached entry) (peer : String) :
    store.Cached (entry.failed peer) := by
  unfold CachedPeerAddr.failed
  split_ifs
  · exact cached
  · exact cached

/-- A failure changes no text. -/
theorem map_failed {α : Type} {read : CachedPeerAddr → α}
    (same : ∀ entry failures, read { entry with failures } = read entry) (peer : String)
    (entries : List CachedPeerAddr) : (entries.map (CachedPeerAddr.failed peer)).map read = entries.map read := by
  rw [List.map_map]
  refine List.map_congr_left fun entry _ => ?_
  rw [Function.comp_apply, CachedPeerAddr.failed]
  split_ifs
  · exact same _ _
  · rfl

/-- An entry after a sighting is the one that it brings, or was there. -/
theorem mem_replaceEntry_sighted {now : UInt64} {peer : PeerId} {addr : Addr} {expires : Option UInt64}
    {entries : List CachedPeerAddr} {entry : CachedPeerAddr}
    (member : entry ∈ replaceEntry entries (store.sightedEntry now peer addr expires)) :
    (store.Cached entry ∧ entry.peerId = toText peer) ∨ entry ∈ entries := by
  cases found : store.sightedEntry now peer addr expires with
  | none =>
    rw [found] at member
    exact .inr member
  | some sighted =>
    rw [found] at member
    rcases List.mem_cons.mp member with rfl | later
    · obtain ⟨cached, named, _⟩ := sightedEntry_some found
      exact .inl ⟨cached, named⟩
    · exact .inr (List.mem_filter.mp later).1

theorem mem_failEntries {peer : String} {entries : List CachedPeerAddr} {entry : CachedPeerAddr}
    (member : entry ∈ store.failEntries entries peer) : ∃ before ∈ entries, before.failed peer = entry :=
  List.mem_map.mp (List.mem_filter.mp member).1

theorem map_failEntries_sublist {α : Type} {read : CachedPeerAddr → α}
    (same : ∀ entry failures, read { entry with failures } = read entry) (peer : String)
    (entries : List CachedPeerAddr) : ((store.failEntries entries peer).map read).Sublist (entries.map read) := by
  rw [← map_failed same peer entries]
  exact List.filter_sublist.map _

theorem upsertIdentity_nodup {identities : List CachedPeerIdentity}
    (nodup : (identities.map CachedPeerIdentity.peerId).Nodup) (peer : PeerId) (now : UInt64) :
    ((upsertIdentity identities peer now).map CachedPeerIdentity.peerId).Nodup := by
  unfold upsertIdentity
  rw [List.map_cons, List.nodup_cons]
  exact ⟨by simp, nodup.sublist (List.filter_sublist.map _)⟩

theorem replaceEntry_nodup {α : Type} {entries : List CachedPeerAddr} {read : CachedPeerAddr → α}
    (nodup : (entries.map read).Nodup) (sighted : Option CachedPeerAddr)
    (tells : ∀ entry found, read entry = read found → entry.addr = found.addr ∨ entry.peerId = found.peerId) :
    ((replaceEntry entries sighted).map read).Nodup := by
  cases sighted with
  | none => exact nodup
  | some found =>
    rw [replaceEntry, List.map_cons, List.nodup_cons]
    refine ⟨fun member => ?_, nodup.sublist (List.filter_sublist.map _)⟩
    obtain ⟨entry, kept, same⟩ := List.mem_map.mp member
    obtain ⟨otherAddr, otherPeer⟩ := of_decide_eq_true (List.mem_filter.mp kept).2
    exact (tells entry found same).elim otherAddr otherPeer

/-- **A sighting or a failure** keeps the contents well formed. -/
theorem applyMutation_wellFormed {contents : CacheContents} (wellFormed : store.WellFormed contents) (now : UInt64)
    (mutation : PeerCacheMutation PeerId Addr) : store.WellFormed (store.applyMutation now contents mutation) := by
  obtain ⟨cached, peers, addrs, identities⟩ := wellFormed
  cases mutation with
  | seen peer addr expires =>
    refine ⟨?_, replaceEntry_nodup peers _ fun _ _ => .inr, replaceEntry_nodup addrs _ fun _ _ => .inl,
      upsertIdentity_nodup identities peer now⟩
    intro entry member
    exact (mem_replaceEntry_sighted member).elim And.left (cached entry)
  | failure peer =>
    refine ⟨?_, ?_, ?_, identities⟩
    · intro entry member
      obtain ⟨before, inside, rfl⟩ := mem_failEntries member
      exact (cached before inside).failed _
    · exact peers.sublist (map_failEntries_sublist (fun _ _ => rfl) _ _)
    · exact addrs.sublist (map_failEntries_sublist (fun _ _ => rfl) _ _)

theorem Cached.normalized (lawful : Multiaddr.Lawful PeerId Addr) {entry : CachedPeerAddr}
    (cached : store.Cached entry) : store.normalizeEntryKind entry = some entry := by
  obtain ⟨peer, addr, _, text, _, classified, _⟩ := cached
  have parsed : Multiaddr.parse entry.addr = Except.ok addr := by
    rw [text, lawful.parse_toText]
  unfold normalizeEntryKind
  rw [parsed]
  dsimp only
  rw [classified, Option.map_some]

theorem WellFormed.sublist {contents : CacheContents} (wellFormed : store.WellFormed contents)
    {entries : List CachedPeerAddr} {identities : List CachedPeerIdentity} (fewer : entries.Sublist contents.entries)
    (distinct : (identities.map CachedPeerIdentity.peerId).Nodup) : store.WellFormed ⟨identities, entries⟩ where
  cached := fun entry member => wellFormed.cached entry (fewer.subset member)
  peers := wellFormed.peers.sublist (fewer.map _)
  addrs := wellFormed.addrs.sublist (fewer.map _)
  identities := distinct

theorem WellFormed.keys {contents : CacheContents} (wellFormed : store.WellFormed contents) :
    (contents.entries.map CachedPeerAddr.key).Nodup := by
  refine List.Nodup.of_map Prod.fst ?_
  rw [List.map_map]
  exact wellFormed.peers

/-! ### Files -/

variable (store)

/-- **What a file should be.** -/
structure FileMeets (file : PeerCacheFile) : Prop where
  stored : file.dialableAddrs = file.entries
  few : file.entries.length ≤ store.config.peerCacheMaxEntries
  peers : (file.entries.map CachedPeerAddr.peerId).Nodup
  addrs : (file.entries.map CachedPeerAddr.addr).Nodup
  bound : ∀ entry ∈ file.entries, ∃ (peer : PeerId) (addr : Addr), entry.peerId = toText peer ∧
    entry.addr = Multiaddr.toText addr ∧ extractP2pPeerId addr = some peer ∧
      hasUnspecifiedIp store.components addr = false ∧ store.containsDnsaddr addr = false ∧
        store.classifyDialableAddr addr = some entry.addrKind ∧ store.isPersistableDialableAddrKind entry.addrKind = true
  identities : (file.identities.map CachedPeerIdentity.peerId).Nodup
  fewIdentities : file.identities.length ≤ store.config.peerCacheMaxEntries

/-- The storage is empty, or a flush has written it. -/
def Written (raw : Option Raw) : Prop :=
  raw = none ∨ ∃ contents, store.readCacheFile raw = some (fileOf contents) ∧ store.WellFormed contents ∧
    contents.entries.length ≤ store.config.peerCacheMaxEntries ∧
      contents.identities.length ≤ store.config.peerCacheMaxEntries

variable {store}

theorem fileMeets_fileOf {contents : CacheContents} (wellFormed : store.WellFormed contents)
    (few : contents.entries.length ≤ store.config.peerCacheMaxEntries)
    (fewIdentities : contents.identities.length ≤ store.config.peerCacheMaxEntries) :
    store.FileMeets (fileOf contents) where
  stored := rfl
  few := few
  peers := wellFormed.peers
  addrs := wellFormed.addrs
  bound := by
    intro entry member
    obtain ⟨peer, addr, named, text, cacheable, classified, persistable⟩ := wellFormed.cached entry member
    obtain ⟨last, specified, unlooked, _⟩ := isCacheablePeerAddr_iff.mp cacheable
    exact ⟨peer, addr, named, text, last, specified, unlooked, classified, persistable⟩
  identities := wellFormed.identities
  fewIdentities := fewIdentities

theorem validIdentities_nodup (file : PeerCacheFile) (now : UInt64) :
    ((store.validIdentitiesFromFile file now).map CachedPeerIdentity.peerId).Nodup := by
  unfold validIdentitiesFromFile
  split_ifs
  · exact List.nodup_nil
  · dsimp only
    rw [withoutRepetitions_eq]
    exact (nodup_map_firstsBy _ _).sublist ((List.take_sublist _ _).map _)

theorem readContents_wellFormed (lawful : Multiaddr.Lawful PeerId Addr) {raw : Option Raw}
    (written : store.Written raw) (now : UInt64) : store.WellFormed (store.readContents now raw) := by
  rcases written with rfl | ⟨contents, read, wellFormed, few, _⟩
  · exact ⟨nofun, List.nodup_nil, List.nodup_nil, List.nodup_nil⟩
  · unfold readContents
    rw [read, Option.getD_some]
    dsimp only
    rw [store.validDialableEntries_written now
      (fun entry member => (wellFormed.cached entry member).normalized lawful) wellFormed.keys few]
    exact wellFormed.sublist List.filter_sublist (validIdentities_nodup _ now)

theorem readCacheFile_writeContents (lawful : store.format.Lawful) (raw : Option Raw) (contents : CacheContents) :
    store.readCacheFile (store.writeContents raw contents) = some (fileOf contents) := by
  obtain ⟨text, wrote, reads⟩ := lawful (fileOf contents)
  unfold writeContents readCacheFile
  rw [wrote]
  dsimp only
  rw [Option.bind_some, reads]
  rfl

/-- **A flush** leaves a file that a flush has written. -/
theorem applyMutations_written (addrLawful : Multiaddr.Lawful PeerId Addr) (formatLawful : store.format.Lawful)
    {raw : Option Raw} (written : store.Written raw) (now : UInt64) (mutations : List (PeerCacheMutation PeerId Addr)) :
    store.Written (store.applyMutations now mutations raw) := by
  have applied : store.WellFormed (mutations.foldl (store.applyMutation now) (store.readContents now raw)) := by
    have start := readContents_wellFormed addrLawful written now
    generalize store.readContents now raw = contents at start
    induction mutations generalizing contents with
    | nil => exact start
    | cons mutation rest ih => exact ih _ (applyMutation_wellFormed start now mutation)
  refine .inr ⟨_, readCacheFile_writeContents formatLawful raw _, ?_, List.length_take_le _ _,
    List.length_take_le _ _⟩
  exact applied.sublist (List.take_sublist _ _) (applied.identities.sublist ((List.take_sublist _ _).map _))

end CacheStore

/-! ### Runs -/

/-- The batch of a node and the contents of its storage. -/
structure CacheNode (PeerId Addr Raw : Type) [DecidableEq PeerId] [DecidableEq Addr] where
  batch : PeerCacheWriteBatch PeerId Addr
  raw : Option Raw

inductive CacheOp (PeerId Addr : Type)
  | record (call : CacheCall PeerId Addr)
  | flush (now : UInt64)

def cacheStep (store : CacheStore PeerId Addr Raw) (node : CacheNode PeerId Addr Raw) :
    CacheOp PeerId Addr → Unit × CacheNode PeerId Addr Raw
  | .record call => ((), { node with batch := node.batch.record call })
  | .flush now =>
    let flushed := node.batch.flush store now node.raw
    ((), ⟨flushed.1, flushed.2⟩)

section Runs

variable {store : CacheStore PeerId Addr Raw} (addrLawful : Multiaddr.Lawful PeerId Addr)
  (formatLawful : store.format.Lawful)

include addrLawful formatLawful

theorem cacheStep_written {node : CacheNode PeerId Addr Raw} (written : store.Written node.raw)
    (op : CacheOp PeerId Addr) : store.Written (cacheStep store node op).2.raw := by
  cases op with
  | record call => exact written
  | flush now =>
    unfold cacheStep PeerCacheWriteBatch.flush
    split_ifs
    · exact written
    · exact CacheStore.applyMutations_written addrLawful formatLawful written now node.batch.pending

theorem run_written (ops : List (CacheOp PeerId Addr)) :
    store.Written (final (cacheStep store) ⟨.default, none⟩ ops).raw := by
  refine final_induct (cacheStep store) (fun _ node => store.Written node.raw) ops (.inl rfl) ?_
  exact fun _ op _ node _ written => cacheStep_written addrLawful formatLawful written op

/-- **The cache file**, after every run of recordings and flushes from no file: there is none yet, or it is as it
should be, and a reader finds its valid entries. -/
theorem peer_cache_runs (ops : List (CacheOp PeerId Addr)) :
    let raw := (final (cacheStep store) ⟨.default, none⟩ ops).raw
    raw = none ∨ ∃ file, store.readCacheFile raw = some file ∧ store.FileMeets file ∧
      ∀ now, store.loadEntries now raw = file.entries.filter (store.isValidCacheEntry · now) := by
  intro raw
  rcases run_written addrLawful formatLawful ops with empty | ⟨contents, read, wellFormed, few, fewIdentities⟩
  · exact .inl empty
  · refine .inr ⟨_, read, CacheStore.fileMeets_fileOf wellFormed few fewIdentities, fun now => ?_⟩
    unfold CacheStore.loadEntries
    rw [read]
    exact store.validDialableEntries_written now
      (fun entry member => (wellFormed.cached entry member).normalized addrLawful) wellFormed.keys few

end Runs

/-! ### A cache of the seeds -/

namespace SeedCache

/-- `DiscoveryConfig::default`. -/
def config : PeerCacheConfig where
  peerCacheMaxEntries := 64
  peerCacheMaxAgeSecs := 30 * 24 * 60 * 60
  peerIdentityMaxAgeSecs := 30 * 24 * 60 * 60
  peerCachePublicAddrMaxAgeSecs := 10 * 60
  peerCacheRelayAddrMaxAgeSecs := 2 * 60 * 60
  peerCachePersistLocalAddrs := false
  peerCacheLocalAddrMaxAgeSecs := 0
  peerCacheMaxFailures := 3

/-- A storage that keeps files as they are. -/
def store : CacheStore Seed SeedRoute PeerCacheFile := ⟨config, SeedPath.components, ⟨.ok, .ok⟩⟩

theorem lawful : store.format.Lawful := fun file => ⟨file, rfl, rfl⟩

def route : SeedRoute := ⟨[.publicHost, .tcp]⟩

def ops : List (CacheOp Seed SeedRoute) :=
  [.record (.recordSeen .qcu2 route), .record (.recordFailure .qcu2), .flush 1700000000, .flush 1700000001]

/-- The file after the run. -/
def written : Option PeerCacheFile := (final (cacheStep store) ⟨.default, none⟩ ops).raw

theorem peer_cache_sighting : written.map (·.entries.map CachedPeerAddr.failures) = some [1] ∧
    ∃ file, store.readCacheFile written = some file ∧ store.FileMeets file ∧
      ∀ now, store.loadEntries now written = file.entries.filter (store.isValidCacheEntry · now) := by
  have evaluated : written.map (·.entries.map CachedPeerAddr.failures) = some [1] := by decide
  refine ⟨evaluated, (peer_cache_runs SeedRoute.lawful lawful ops).resolve_left fun empty => ?_⟩
  rw [written, empty] at evaluated
  cases evaluated

end SeedCache

end P2pNet.Connectivity
