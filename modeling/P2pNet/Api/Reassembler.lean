/-
**The fragment reassembler** (`crates/api/fragmentation.rs`, the stateful half).

`AppFragmentReassembler` keeps the chunks of incomplete messages, one entry per author, nonce and
topic, with a byte counter per author and one over all. `push` expires old entries, checks the
author and the memory ceiling, stores the fragment's chunk and, when the last one is in, removes the
entry and hands out the message.

Indexing a chunk and the two `expect`s abort (`Fault`); every saturating subtraction is taken in a
`SubMode`, the program's own being `saturatingSub`. `Instant::now()` is read twice in a push: once by
the expiry (`now`) and once more when an entry is created (`created`).
-/

import P2pNet.Lib.Table
import P2pNet.Lib.Run
import P2pNet.Api.Fragment

set_option linter.unusedSectionVars false

namespace P2pNet.Api

open Lib PeerIdentity

/-! ### State -/

def maxReassemblyBytesPerPeer : ℕ := 2 * maxAppMessageBytes
def maxReassemblyBytesGlobal : ℕ := 8 * maxAppMessageBytes

/-- Thirty seconds; instants are nanoseconds. -/
def fragmentExpiry : ℕ := 30 * 10 ^ 9

structure ReassemblyKey (PeerId : Type) where
  author : PeerId
  nonceHex : String
  topic : String
  deriving DecidableEq

structure ReassemblyEntry where
  fragment : AppFragment
  chunks : List (Option (List UInt8))
  bytes : ℕ
  created : ℕ

structure AppFragmentReassembler (PeerId : Type) where
  entries : Table (ReassemblyKey PeerId) ReassemblyEntry
  peerBytes : Table PeerId ℕ
  globalBytes : ℕ

variable {PeerId : Type} [PeerIdentity PeerId]

namespace AppFragmentReassembler

/-- `AppFragmentReassembler::default()`. -/
def empty : AppFragmentReassembler PeerId := ⟨∅, ∅, 0⟩

def peerCount (s : AppFragmentReassembler PeerId) (peer : PeerId) : ℕ := (s.peerBytes.lookup peer).getD 0

/-! ### Expiry -/

/-- The two counter updates that follow the removal of an entry. -/
def release (sub : SubMode) (s : AppFragmentReassembler PeerId) (author : PeerId) (bytes : ℕ) :
    Except Fault (AppFragmentReassembler PeerId) := do
  let globalBytes ← sub s.globalBytes bytes
  match s.peerBytes.lookup author with
  | some counted =>
    let counted ← sub counted bytes
    return { s with globalBytes, peerBytes := s.peerBytes.insert author counted }
  | none => return { s with globalBytes }

def isExpired (now : ℕ) (entry : ReassemblyEntry) : Bool := now - entry.created ≥ fragmentExpiry

/-- The body of the removal loop. -/
def expireEntry (sub : SubMode) (s : AppFragmentReassembler PeerId) (key : ReassemblyKey PeerId) :
    Except Fault (AppFragmentReassembler PeerId) :=
  match s.entries.lookup key with
  | some entry => release sub { s with entries := s.entries.erase key } key.author entry.bytes
  | none => .ok s

/-- The keys the expiry collects. -/
def expiredKeys (s : AppFragmentReassembler PeerId) (now : ℕ) : List (ReassemblyKey PeerId) :=
  s.entries.entries.filterMap fun entry => if isExpired now entry.2 then some entry.1 else none

def expire (sub : SubMode) (s : AppFragmentReassembler PeerId) (now : ℕ) :
    Except Fault (AppFragmentReassembler PeerId) := do
  let s ← (expiredKeys s now).foldlM (expireEntry sub) s
  return { s with peerBytes := Table.retain (fun _ bytes => 0 < bytes) s.peerBytes }

/-! ### Pushing a fragment -/

def reassemblyKey (author : PeerId) (fragment : AppFragment) : ReassemblyKey PeerId :=
  ⟨author, fragment.nonceHex, fragment.topic⟩

/-- The entry `or_insert_with` creates. -/
def freshEntry (fragment : AppFragment) (created : ℕ) : ReassemblyEntry :=
  ⟨fragment, List.replicate fragment.total none, 0, created⟩

def exceedsCeiling (s : AppFragmentReassembler PeerId) (author : PeerId) (len : ℕ) : Bool :=
  saturatingAdd (s.peerCount author) len > maxReassemblyBytesPerPeer
    || saturatingAdd s.globalBytes len > maxReassemblyBytesGlobal

/-- `payload.extend(chunk.expect(..))` over the chunks. -/
def joinChunks : List (Option (List UInt8)) → Except Fault (List UInt8)
  | [] => .ok []
  | none :: _ => .error .expectFailed
  | some chunk :: rest => do
    let payload ← joinChunks rest
    return chunk ++ payload

variable (PeerId) in
/-- The integrity check of a completed payload and the message it yields. -/
def finishMessage (blake3 : Blake3) (fragment : AppFragment) (payload : List UInt8) :
    Except NetError (Option AppMessage) := do
  rejectIf (payload.length ≠ fragment.payloadLen ∨ payloadHash blake3 payload ≠ fragment.payloadHashHex)
    (appError fragment.topic "reassembled payload hash mismatch")
  let message : AppMessage := {
    schemaVersion := fragment.messageSchemaVersion
    networkId := fragment.networkId
    topic := fragment.topic
    sourcePeerId := fragment.sourcePeerId
    targetPeerId := fragment.targetPeerId
    timestampNs := fragment.timestampNs
    nonceHex := fragment.nonceHex
    payload := payload }
  validateAppMessage PeerId message
  return some message

abbrev PushResult := Except NetError (Option AppMessage)

def completeEntry (sub : SubMode) (blake3 : Blake3) (s : AppFragmentReassembler PeerId) (author : PeerId)
    (key : ReassemblyKey PeerId) : Except Fault (PushResult × AppFragmentReassembler PeerId) :=
  match s.entries.lookup key with
  | none => .error .expectFailed
  | some entry => do
    let s ← release sub { s with entries := s.entries.erase key } author entry.bytes
    let payload ← joinChunks entry.chunks
    return (finishMessage PeerId blake3 entry.fragment payload, s)

/-- The entry with the fragment's chunk in its slot. -/
def filledEntry (entry : ReassemblyEntry) (fragment : AppFragment) : ReassemblyEntry :=
  { entry with
    bytes := saturatingAdd entry.bytes fragment.payload.length
    chunks := entry.chunks.set fragment.index (some fragment.payload) }

def storeChunk (sub : SubMode) (blake3 : Blake3) (s : AppFragmentReassembler PeerId) (author : PeerId)
    (entry : ReassemblyEntry) (fragment : AppFragment) :
    Except Fault (PushResult × AppFragmentReassembler PeerId) :=
  let key := reassemblyKey author fragment
  let entry := filledEntry entry fragment
  let s : AppFragmentReassembler PeerId := {
    entries := s.entries.insert key entry
    globalBytes := saturatingAdd s.globalBytes fragment.payload.length
    peerBytes := s.peerBytes.insert author (saturatingAdd (s.peerCount author) fragment.payload.length) }
  if entry.chunks.any Option.isNone then .ok (.ok none, s)
  else completeEntry sub blake3 s author key

/-- `push` after its call of `expire`. -/
def pushLive (sub : SubMode) (blake3 : Blake3) (s : AppFragmentReassembler PeerId) (author : PeerId)
    (fragment : AppFragment) (created : ℕ) : Except Fault (PushResult × AppFragmentReassembler PeerId) :=
  if fragment.sourcePeerId ≠ toText author then
    .ok (.error (appError fragment.topic
      "fragment source does not match authenticated Gossipsub author"), s)
  else if exceedsCeiling s author fragment.payload.length then
    .ok (.error (appError fragment.topic "fragment reassembly memory ceiling exceeded"), s)
  else
    let (entry, entries) :=
      Table.entryOr (reassemblyKey author fragment) (freshEntry fragment created) s.entries
    let s := { s with entries }
    if !sameMessage entry.fragment fragment then
      .ok (.error (appError fragment.topic "fragment metadata mismatch"), s)
    else
      match entry.chunks[fragment.index]? with
      | none => .error .indexOutOfBounds
      -- duplicate fragment: bounded, idempotent ignore
      | some (some _) => .ok (.ok none, s)
      | some none => storeChunk sub blake3 s author entry fragment

def pushWith (sub : SubMode) (blake3 : Blake3) (s : AppFragmentReassembler PeerId) (author : PeerId)
    (fragment : AppFragment) (now created : ℕ) :
    Except Fault (PushResult × AppFragmentReassembler PeerId) := do
  let s ← expire sub s now
  pushLive sub blake3 s author fragment created

/-- The push the program runs. -/
def push (blake3 : Blake3) (s : AppFragmentReassembler PeerId) (author : PeerId)
    (fragment : AppFragment) (now created : ℕ) :
    Except Fault (PushResult × AppFragmentReassembler PeerId) :=
  pushWith saturatingSub blake3 s author fragment now created

/-! ### The accounting invariant -/

/-- The total length of the stored chunks. -/
def storedBytes (chunks : List (Option (List UInt8))) : ℕ :=
  (chunks.map fun slot => (slot.getD []).length).sum

variable (PeerId) in
/-- An entry with one slot per fragment, its chunks of the prescribed lengths and counted. -/
structure Sized (entry : ReassemblyEntry) : Prop where
  valid : entry.fragment.Valid PeerId
  slots : entry.chunks.length = entry.fragment.total
  lengths : ∀ (index : ℕ) (chunk : List UInt8), entry.chunks[index]? = some (some chunk) →
    chunk.length = expectedLen entry.fragment.payloadLen entry.fragment.total index
  bytes_eq : entry.bytes = storedBytes entry.chunks

variable (PeerId) in
/-- **A well-formed incomplete message.** -/
structure Incomplete (entry : ReassemblyEntry) : Prop extends Sized PeerId entry where
  filled : ∃ (index : ℕ) (chunk : List UInt8), entry.chunks[index]? = some (some chunk)
  missing : ∃ index : ℕ, entry.chunks[index]? = some none

/-- The weight of an entry in one author's total. -/
def bytesOf (peer : PeerId) (key : ReassemblyKey PeerId) (entry : ReassemblyEntry) : ℕ :=
  if key.author = peer then entry.bytes else 0

/-- **The counters are the sums of the stored chunks**, within the ceilings. -/
structure Accounted (s : AppFragmentReassembler PeerId) : Prop where
  entries : ∀ key entry, s.entries.lookup key = some entry → Incomplete PeerId entry
  global_eq : s.globalBytes = Table.total (fun _ entry => entry.bytes) s.entries
  peer_eq : ∀ peer, s.peerCount peer = Table.total (bytesOf peer) s.entries
  global_le : s.globalBytes ≤ maxReassemblyBytesGlobal
  peer_le : ∀ peer, s.peerCount peer ≤ maxReassemblyBytesPerPeer

theorem accounted_empty : Accounted (empty : AppFragmentReassembler PeerId) where
  entries key entry found := by cases found
  global_eq := rfl
  peer_eq _ := rfl
  global_le := Nat.zero_le _
  peer_le _ := Nat.zero_le _

theorem storedBytes_replicate_none (count : ℕ) : storedBytes (List.replicate count none) = 0 := by
  simp [storedBytes]

/-- Filling an empty slot adds the chunk's length. -/
theorem storedBytes_set {chunks : List (Option (List UInt8))} {index : ℕ} (chunk : List UInt8)
    (hole : chunks[index]? = some none) :
    storedBytes (chunks.set index (some chunk)) = storedBytes chunks + chunk.length := by
  induction chunks generalizing index with
  | nil => cases hole
  | cons slot rest ih =>
    cases index with
    | zero =>
      cases hole
      show chunk.length + _ = 0 + _ + _
      omega
    | succ index =>
      show (slot.getD []).length + storedBytes (rest.set index (some chunk))
        = (slot.getD []).length + storedBytes rest + _
      rw [ih hole, Nat.add_assoc]

/-! ### Removing entries -/

/-- What `release` leaves when no subtraction clips. -/
def released (s : AppFragmentReassembler PeerId) (author : PeerId) (bytes : ℕ) :
    AppFragmentReassembler PeerId where
  entries := s.entries
  globalBytes := s.globalBytes - bytes
  peerBytes := match s.peerBytes.lookup author with
    | some counted => s.peerBytes.insert author (counted - bytes)
    | none => s.peerBytes

/-- A counter that exists is written back. -/
theorem released_of_counted {s : AppFragmentReassembler PeerId} {author : PeerId} {counted : ℕ}
    (stored : s.peerBytes.lookup author = some counted) (bytes : ℕ) :
    released s author bytes = { s with
      globalBytes := s.globalBytes - bytes
      peerBytes := s.peerBytes.insert author (counted - bytes) } := by
  unfold released
  rw [stored]

theorem release_eq {sub : SubMode} (sound : sub.Sound) {s : AppFragmentReassembler PeerId}
    {author : PeerId} {bytes : ℕ} (globalRoom : bytes ≤ s.globalBytes)
    (peerRoom : bytes ≤ s.peerCount author) : release sub s author bytes = .ok (released s author bytes) := by
  unfold release released
  rw [sound _ _ globalRoom]
  unfold peerCount at peerRoom
  cases found : s.peerBytes.lookup author with
  | none => rfl
  | some counted =>
    rw [found, Option.getD_some] at peerRoom
    simp only [sound _ _ peerRoom]
    rfl

theorem released_peerCount (s : AppFragmentReassembler PeerId) (author peer : PeerId) (bytes : ℕ) :
    (released s author bytes).peerCount peer
      = if peer = author then s.peerCount author - bytes else s.peerCount peer := by
  unfold peerCount released
  cases found : s.peerBytes.lookup author with
  | none =>
    by_cases same : peer = author
    · subst same
      simp [found]
    · simp [same]
  | some counted =>
    simp only [Table.lookup_insert_eq]
    by_cases same : peer = author
    · simp [same]
    · simp [same]

/-- The state without one entry. -/
def dropEntry (s : AppFragmentReassembler PeerId) (key : ReassemblyKey PeerId) (entry : ReassemblyEntry) :
    AppFragmentReassembler PeerId :=
  released { s with entries := s.entries.erase key } key.author entry.bytes

theorem dropEntry_of_counted {s : AppFragmentReassembler PeerId} {key : ReassemblyKey PeerId} {counted : ℕ}
    (stored : s.peerBytes.lookup key.author = some counted) (entry : ReassemblyEntry) :
    dropEntry s key entry = {
      entries := s.entries.erase key
      globalBytes := s.globalBytes - entry.bytes
      peerBytes := s.peerBytes.insert key.author (counted - entry.bytes) } := by
  unfold dropEntry
  rw [released_of_counted]
  exact stored

theorem dropEntry_entries (s : AppFragmentReassembler PeerId) (key : ReassemblyKey PeerId)
    (entry : ReassemblyEntry) : (dropEntry s key entry).entries = s.entries.erase key := rfl

/-- No counter is smaller than the entry it counts. -/
theorem Accounted.room {s : AppFragmentReassembler PeerId} (accounted : Accounted s)
    {key : ReassemblyKey PeerId} {entry : ReassemblyEntry} (found : s.entries.lookup key = some entry) :
    entry.bytes ≤ s.globalBytes ∧ entry.bytes ≤ s.peerCount key.author := by
  constructor
  · rw [accounted.global_eq]
    exact Table.le_total (fun _ entry => entry.bytes) found
  · have weighed := Table.le_total (bytesOf key.author) found
    rw [bytesOf, if_pos rfl] at weighed
    rw [accounted.peer_eq]
    exact weighed

theorem expireEntry_eq {sub : SubMode} (sound : sub.Sound) {s : AppFragmentReassembler PeerId}
    (accounted : Accounted s) {key : ReassemblyKey PeerId} {entry : ReassemblyEntry}
    (found : s.entries.lookup key = some entry) :
    expireEntry sub s key = .ok (dropEntry s key entry) := by
  unfold expireEntry
  rw [found]
  exact release_eq sound (accounted.room found).1 (accounted.room found).2

/-- **Removing an entry keeps the accounting.** -/
theorem dropEntry_accounted {s : AppFragmentReassembler PeerId} (accounted : Accounted s)
    {key : ReassemblyKey PeerId} {entry : ReassemblyEntry} (found : s.entries.lookup key = some entry) :
    Accounted (dropEntry s key entry) := by
  have counts : ∀ peer, (dropEntry s key entry).peerCount peer
      = Table.total (bytesOf peer) (s.entries.erase key) := by
    intro peer
    have split := Table.total_erase (bytesOf peer) found
    rw [← accounted.peer_eq] at split
    rw [dropEntry, released_peerCount]
    show (if peer = key.author then s.peerCount key.author - entry.bytes else s.peerCount peer) = _
    by_cases same : peer = key.author
    · subst same
      rw [bytesOf, if_pos rfl] at split
      rw [if_pos rfl]
      omega
    · rw [bytesOf, if_neg (Ne.symm same)] at split
      rw [if_neg same]
      omega
  have globalCount : (dropEntry s key entry).globalBytes
      = Table.total (fun _ entry => entry.bytes) (s.entries.erase key) := by
    have split := Table.total_erase (fun _ entry => entry.bytes) found
    rw [← accounted.global_eq] at split
    show s.globalBytes - entry.bytes = _
    omega
  refine ⟨fun other stored located => ?_, globalCount, counts, ?_, fun peer => ?_⟩
  · rw [dropEntry_entries, Table.lookup_erase_eq] at located
    split_ifs at located
    exact accounted.entries other stored located
  · exact (Nat.sub_le _ _).trans accounted.global_le
  · rw [dropEntry, released_peerCount]
    split_ifs
    · exact (Nat.sub_le _ _).trans (accounted.peer_le key.author)
    · exact accounted.peer_le peer

/-- The removal loop, over any list of keys. -/
theorem foldlM_expireEntry (keys : List (ReassemblyKey PeerId)) {s : AppFragmentReassembler PeerId}
    (accounted : Accounted s) : ∃ t, (∀ sub : SubMode, sub.Sound →
        keys.foldlM (expireEntry sub) s = .ok t) ∧ Accounted t ∧
      ∀ key, t.entries.lookup key = if key ∈ keys then none else s.entries.lookup key := by
  induction keys generalizing s with
  | nil => exact ⟨s, fun _ _ => rfl, accounted, fun _ => rfl⟩
  | cons key rest ih =>
    cases found : s.entries.lookup key with
    | none =>
      obtain ⟨t, runs, kept, lookups⟩ := ih accounted
      refine ⟨t, fun sub sound => ?_, kept, fun other => ?_⟩
      · rw [List.foldlM_cons, expireEntry, found]
        exact runs sub sound
      · rw [lookups other]
        by_cases same : other = key
        · subst same
          simp [found]
        · simp [same]
    | some entry =>
      obtain ⟨t, runs, kept, lookups⟩ := ih (dropEntry_accounted accounted found)
      refine ⟨t, fun sub sound => ?_, kept, fun other => ?_⟩
      · rw [List.foldlM_cons, expireEntry_eq sound accounted found]
        exact runs sub sound
      · rw [lookups other, dropEntry_entries, Table.lookup_erase_eq]
        by_cases same : other = key
        · simp [same]
        · simp [same]

theorem mem_expiredKeys (s : AppFragmentReassembler PeerId) (now : ℕ) (key : ReassemblyKey PeerId) :
    key ∈ expiredKeys s now ↔ ∃ entry, s.entries.lookup key = some entry ∧ isExpired now entry = true := by
  unfold expiredKeys
  rw [List.mem_filterMap]
  constructor
  · rintro ⟨⟨stored, entry⟩, member, picked⟩
    split_ifs at picked with old
    cases picked
    exact ⟨entry, Table.mem_entries_iff.mp member, old⟩
  · rintro ⟨entry, found, old⟩
    exact ⟨⟨key, entry⟩, Table.mem_entries_iff.mpr found, if_pos old⟩

/-- `live` has the entries of `s` that have not expired. -/
def OnlyLive (s : AppFragmentReassembler PeerId) (now : ℕ) (live : AppFragmentReassembler PeerId) : Prop :=
  ∀ key, live.entries.lookup key = (s.entries.lookup key).filter fun entry => !isExpired now entry

/-- **Expiry** runs without a fault, keeps the accounting and keeps exactly the entries that are not
yet thirty seconds old. -/
theorem expire_spec {s : AppFragmentReassembler PeerId} (accounted : Accounted s) (now : ℕ) :
    ∃ t, (∀ sub : SubMode, sub.Sound → expire sub s now = .ok t) ∧ Accounted t ∧
      OnlyLive s now t := by
  obtain ⟨t, runs, kept, lookups⟩ := foldlM_expireEntry (expiredKeys s now) accounted
  have counts : ∀ peer, ((Table.retain (fun _ bytes => 0 < bytes) t.peerBytes).lookup peer).getD 0
      = t.peerCount peer := by
    intro peer
    rw [Table.lookup_retain, peerCount]
    cases t.peerBytes.lookup peer with
    | none => rfl
    | some counted =>
      cases counted with
      | zero => rfl
      | succ counted => rfl
  refine ⟨{ t with peerBytes := Table.retain (fun _ bytes => 0 < bytes) t.peerBytes },
    fun sub sound => ?_, ⟨kept.entries, kept.global_eq, fun peer => ?_, kept.global_le, fun peer => ?_⟩,
    fun key => ?_⟩
  · unfold expire
    rw [runs sub sound]
    rfl
  · exact (counts peer).trans (kept.peer_eq peer)
  · exact (counts peer).trans_le (kept.peer_le peer)
  · show t.entries.lookup key = _
    rw [lookups key]
    by_cases old : key ∈ expiredKeys s now
    · obtain ⟨entry, found, expired⟩ := (mem_expiredKeys s now key).mp old
      rw [if_pos old, found, Option.filter_some, expired]
      rfl
    · rw [if_neg old]
      cases found : s.entries.lookup key with
      | none => rfl
      | some entry =>
        have fresh : isExpired now entry = false := by
          rw [← Bool.not_eq_true]
          exact fun expired => old ((mem_expiredKeys s now key).mpr ⟨entry, found, expired⟩)
        rw [Option.filter_some, fresh]
        rfl

/-! ### What a push can do -/

/-- The entry a push works on: the stored one, or a new one. -/
def targetEntry (s : AppFragmentReassembler PeerId) (author : PeerId) (fragment : AppFragment)
    (created : ℕ) : ReassemblyEntry :=
  (s.entries.lookup (reassemblyKey author fragment)).getD (freshEntry fragment created)

/-- The entry with the fragment's chunk in its slot, without saturation. -/
def placedEntry (entry : ReassemblyEntry) (fragment : AppFragment) : ReassemblyEntry :=
  { entry with
    bytes := entry.bytes + fragment.payload.length
    chunks := entry.chunks.set fragment.index (some fragment.payload) }

/-- The state with the fragment's chunk stored in an entry. -/
def placed (s : AppFragmentReassembler PeerId) (author : PeerId) (entry : ReassemblyEntry)
    (fragment : AppFragment) : AppFragmentReassembler PeerId where
  entries := s.entries.insert (reassemblyKey author fragment) (placedEntry entry fragment)
  globalBytes := s.globalBytes + fragment.payload.length
  peerBytes := s.peerBytes.insert author (s.peerCount author + fragment.payload.length)

/-- The payload a full entry holds. -/
def joined (chunks : List (Option (List UInt8))) : List UInt8 := (chunks.map fun slot => slot.getD []).flatten

/-- **Everything a push can do** once the old entries are gone. -/
inductive PushCase (blake3 : Blake3) (s : AppFragmentReassembler PeerId) (author : PeerId)
    (fragment : AppFragment) (created : ℕ) : PushResult → AppFragmentReassembler PeerId → Prop
  | foreign : fragment.sourcePeerId ≠ toText author →
      PushCase blake3 s author fragment created (.error (appError fragment.topic
        "fragment source does not match authenticated Gossipsub author")) s
  | ceiling : fragment.sourcePeerId = toText author →
      exceedsCeiling s author fragment.payload.length = true →
      PushCase blake3 s author fragment created (.error (appError fragment.topic
        "fragment reassembly memory ceiling exceeded")) s
  | mismatch (entry : ReassemblyEntry) : fragment.sourcePeerId = toText author →
      exceedsCeiling s author fragment.payload.length = false →
      s.entries.lookup (reassemblyKey author fragment) = some entry →
      sameMessage entry.fragment fragment = false →
      PushCase blake3 s author fragment created (.error (appError fragment.topic
        "fragment metadata mismatch")) s
  | duplicate (entry : ReassemblyEntry) (chunk : List UInt8) : fragment.sourcePeerId = toText author →
      exceedsCeiling s author fragment.payload.length = false →
      s.entries.lookup (reassemblyKey author fragment) = some entry →
      sameMessage entry.fragment fragment = true → entry.chunks[fragment.index]? = some (some chunk) →
      PushCase blake3 s author fragment created (.ok none) s
  | stored : fragment.sourcePeerId = toText author →
      exceedsCeiling s author fragment.payload.length = false →
      sameMessage (targetEntry s author fragment created).fragment fragment = true →
      (targetEntry s author fragment created).chunks[fragment.index]? = some none →
      (placedEntry (targetEntry s author fragment created) fragment).chunks.any Option.isNone = true →
      PushCase blake3 s author fragment created (.ok none)
        (placed s author (targetEntry s author fragment created) fragment)
  | completed (entry : ReassemblyEntry) : fragment.sourcePeerId = toText author →
      exceedsCeiling s author fragment.payload.length = false →
      s.entries.lookup (reassemblyKey author fragment) = some entry →
      sameMessage entry.fragment fragment = true → entry.chunks[fragment.index]? = some none →
      (placedEntry entry fragment).chunks.any Option.isNone = false →
      PushCase blake3 s author fragment created
        (finishMessage PeerId blake3 entry.fragment (joined (placedEntry entry fragment).chunks))
        (dropEntry s (reassemblyKey author fragment) entry)

theorem exceedsCeiling_eq_false_iff (s : AppFragmentReassembler PeerId) (author : PeerId) (len : ℕ) :
    exceedsCeiling s author len = false ↔ s.peerCount author + len ≤ maxReassemblyBytesPerPeer ∧
      s.globalBytes + len ≤ maxReassemblyBytesGlobal := by
  have peerSmall : maxReassemblyBytesPerPeer < wordMax := by decide
  have globalSmall : maxReassemblyBytesGlobal < wordMax := by decide
  unfold exceedsCeiling
  rw [Bool.or_eq_false_iff, decide_eq_false_iff_not, decide_eq_false_iff_not, not_lt, not_lt,
    saturatingAdd_le_iff peerSmall, saturatingAdd_le_iff globalSmall]

theorem sameMessage_iff (a b : AppFragment) : sameMessage a b = true ↔
    a.messageSchemaVersion = b.messageSchemaVersion ∧ a.networkId = b.networkId ∧ a.topic = b.topic ∧
      a.sourcePeerId = b.sourcePeerId ∧ a.targetPeerId = b.targetPeerId ∧
      a.timestampNs = b.timestampNs ∧ a.nonceHex = b.nonceHex ∧ a.payloadHashHex = b.payloadHashHex ∧
      a.payloadLen = b.payloadLen ∧ a.total = b.total := by
  simp [sameMessage, and_assoc]

theorem joinChunks_eq {chunks : List (Option (List UInt8))} (full : chunks.any Option.isNone = false) :
    joinChunks chunks = .ok (joined chunks) := by
  induction chunks with
  | nil => rfl
  | cons slot rest ih =>
    rw [List.any_cons, Bool.or_eq_false_iff] at full
    cases slot with
    | none => cases full.1
    | some chunk =>
      rw [joinChunks, ih full.2]
      rfl

theorem le_storedBytes {chunks : List (Option (List UInt8))} {index : ℕ} {chunk : List UInt8}
    (present : chunks[index]? = some (some chunk)) : chunk.length ≤ storedBytes chunks := by
  have member : some chunk ∈ chunks := List.mem_of_getElem? present
  exact List.le_sum_of_mem (List.mem_map.mpr ⟨some chunk, member, rfl⟩)

/-- Every prescribed length is positive. -/
theorem expectedLen_pos {fragment : AppFragment} (valid : fragment.Valid PeerId) (index : ℕ) :
    0 < expectedLen fragment.payloadLen fragment.total index := by
  have positive : 0 < appFragmentPayloadBytes := by decide
  obtain ⟨_, tight⟩ := divCeil_bounds (a := fragment.payloadLen) positive
  rw [← valid.total_eq] at tight
  have count := valid.total_ne
  unfold expectedLen
  split_ifs
  · obtain ⟨less, same⟩ := Nat.exists_eq_succ_of_ne_zero count
    rw [same] at tight ⊢
    rw [Nat.mul_succ] at tight
    show 0 < fragment.payloadLen - appFragmentPayloadBytes * less
    omega
  · exact positive

theorem Incomplete.bytes_pos {entry : ReassemblyEntry} (ok : Incomplete PeerId entry) : 0 < entry.bytes := by
  obtain ⟨index, chunk, present⟩ := ok.filled
  have positive := expectedLen_pos ok.valid index
  rw [← ok.lengths index chunk present] at positive
  rw [ok.bytes_eq]
  exact positive.trans_le (le_storedBytes present)

theorem freshEntry_sized {fragment : AppFragment} (valid : fragment.Valid PeerId) (created : ℕ) :
    Sized PeerId (freshEntry fragment created) where
  valid := valid
  slots := List.length_replicate
  lengths index chunk present := by
    have held := List.eq_of_mem_replicate (List.mem_of_getElem? present)
    cases held
  bytes_eq := (storedBytes_replicate_none fragment.total).symm

theorem Accounted.targetEntry_sized {s : AppFragmentReassembler PeerId} (accounted : Accounted s)
    (author : PeerId) {fragment : AppFragment} (valid : fragment.Valid PeerId) (created : ℕ) :
    Sized PeerId (targetEntry s author fragment created) := by
  unfold targetEntry
  cases found : s.entries.lookup (reassemblyKey author fragment) with
  | none => exact freshEntry_sized valid created
  | some entry => exact (accounted.entries _ entry found).toSized

/-- A chunk of the same message fits the entry. -/
theorem Sized.placed {entry : ReassemblyEntry} {fragment : AppFragment} (sized : Sized PeerId entry)
    (valid : fragment.Valid PeerId) (same : sameMessage entry.fragment fragment = true)
    (hole : entry.chunks[fragment.index]? = some none) : Sized PeerId (placedEntry entry fragment) := by
  obtain ⟨_, _, _, _, _, _, _, _, sameLen, sameTotal⟩ := (sameMessage_iff _ _).mp same
  refine ⟨sized.valid, (List.length_set ..).trans sized.slots, fun index chunk present => ?_, ?_⟩
  · change (entry.chunks.set fragment.index (some fragment.payload))[index]? = _ at present
    by_cases own : fragment.index = index
    · subst own
      obtain ⟨within, _⟩ := List.getElem?_eq_some_iff.mp hole
      rw [List.getElem?_set_self within] at present
      cases present
      show _ = expectedLen entry.fragment.payloadLen entry.fragment.total fragment.index
      rw [sameLen, sameTotal]
      exact valid.length_eq
    · rw [List.getElem?_set_ne own] at present
      exact sized.lengths index chunk present
  · show entry.bytes + fragment.payload.length = storedBytes (entry.chunks.set fragment.index _)
    rw [storedBytes_set fragment.payload hole, sized.bytes_eq]

theorem Sized.placed_incomplete {entry : ReassemblyEntry} {fragment : AppFragment}
    (sized : Sized PeerId entry) (valid : fragment.Valid PeerId)
    (same : sameMessage entry.fragment fragment = true)
    (hole : entry.chunks[fragment.index]? = some none)
    (rest : (placedEntry entry fragment).chunks.any Option.isNone = true) :
    Incomplete PeerId (placedEntry entry fragment) := by
  obtain ⟨within, _⟩ := List.getElem?_eq_some_iff.mp hole
  obtain ⟨slot, member, empty⟩ := List.any_eq_true.mp rest
  rw [Option.isNone_iff_eq_none] at empty
  subst empty
  exact ⟨sized.placed valid same hole, ⟨fragment.index, fragment.payload,
    List.getElem?_set_self within⟩, List.mem_iff_getElem?.mp member⟩

/-- A new entry has an empty slot left after its first chunk. -/
theorem freshEntry_open {fragment : AppFragment} (valid : fragment.Valid PeerId) (created : ℕ) :
    (placedEntry (freshEntry fragment created) fragment).chunks.any Option.isNone = true := by
  have several : 2 ≤ fragment.total := valid.total_eq ▸ two_le_divCeil valid.long
  -- any index other than the fragment's own is still empty
  obtain ⟨other, within, different⟩ : ∃ other, other < fragment.total ∧ fragment.index ≠ other := by
    by_cases zero : fragment.index = 0
    · exact ⟨1, by omega, by omega⟩
    · exact ⟨0, by omega, zero⟩
  rw [List.any_eq_true]
  refine ⟨none, List.mem_of_getElem? (i := other) ?_, rfl⟩
  show ((List.replicate fragment.total none).set fragment.index (some fragment.payload))[other]? = some none
  rw [List.getElem?_set_ne different, List.getElem?_replicate_of_lt within]

/-- The chunk stored, whatever the entry. -/
theorem storeChunk_eq {s : AppFragmentReassembler PeerId} {author : PeerId} {fragment : AppFragment}
    {entry : ReassemblyEntry} {entries : Table (ReassemblyKey PeerId) ReassemblyEntry} (counted : entry.bytes ≤ s.peerCount author)
    (room : exceedsCeiling s author fragment.payload.length = false) (sub : SubMode) (blake3 : Blake3) :
    storeChunk sub blake3 { s with entries } author entry fragment
      = if (placedEntry entry fragment).chunks.any Option.isNone then
          .ok (.ok none, placed { s with entries } author entry fragment)
        else completeEntry sub blake3 (placed { s with entries } author entry fragment) author
          (reassemblyKey author fragment) := by
  obtain ⟨peerRoom, globalRoom⟩ := (exceedsCeiling_eq_false_iff s author _).mp room
  have peerSmall : maxReassemblyBytesPerPeer ≤ wordMax := by decide
  have globalSmall : maxReassemblyBytesGlobal ≤ wordMax := by decide
  have filled : filledEntry entry fragment = placedEntry entry fragment := by
    unfold filledEntry placedEntry
    rw [saturatingAdd_eq (by omega)]
  have peerSum : saturatingAdd (peerCount { s with entries } author) fragment.payload.length
      = peerCount { s with entries } author + fragment.payload.length :=
    saturatingAdd_eq (peerRoom.trans peerSmall)
  unfold storeChunk placed
  simp only [filled]
  rw [saturatingAdd_eq (globalRoom.trans globalSmall), peerSum]

/-- **Completion**: the entry leaves with its bytes, and its chunks make the payload. -/
theorem completeEntry_placed {sub : SubMode} (sound : sub.Sound) (blake3 : Blake3)
    {s : AppFragmentReassembler PeerId} (accounted : Accounted s) {author : PeerId}
    {fragment : AppFragment} {entry : ReassemblyEntry}
    (found : s.entries.lookup (reassemblyKey author fragment) = some entry)
    (full : (placedEntry entry fragment).chunks.any Option.isNone = false) :
    completeEntry sub blake3 (placed s author entry fragment) author (reassemblyKey author fragment)
      = .ok (finishMessage PeerId blake3 entry.fragment (joined (placedEntry entry fragment).chunks),
          dropEntry s (reassemblyKey author fragment) entry) := by
  obtain ⟨globalRoom, peerRoom⟩ := accounted.room found
  change entry.bytes ≤ s.peerCount author at peerRoom
  have present : (placed s author entry fragment).peerCount author
      = s.peerCount author + fragment.payload.length := by
    show ((s.peerBytes.insert author _).lookup author).getD 0 = _
    rw [AList.lookup_insert, Option.getD_some]
  -- the author is counted, so both removals write the same counter
  obtain ⟨counted, stored⟩ : ∃ counted, s.peerBytes.lookup author = some counted := by
    have positive := (accounted.entries _ entry found).bytes_pos.trans_le peerRoom
    unfold peerCount at positive
    cases absent : s.peerBytes.lookup author with
    | none =>
      rw [absent] at positive
      cases positive
    | some counted => exact ⟨counted, rfl⟩
  have removed : released { placed s author entry fragment with
        entries := (placed s author entry fragment).entries.erase (reassemblyKey author fragment) }
      author (placedEntry entry fragment).bytes = dropEntry s (reassemblyKey author fragment) entry := by
    rw [released_of_counted (AList.lookup_insert _), dropEntry_of_counted stored]
    congr 1
    · exact Table.erase_insert _ _ _
    · show (s.peerBytes.insert author _).insert author _ = _
      rw [AList.insert_insert]
      unfold placedEntry
      rw [Nat.add_sub_add_right, peerCount, stored]
      rfl
    · exact Nat.add_sub_add_right _ _ _
  have lookup : (placed s author entry fragment).entries.lookup (reassemblyKey author fragment)
      = some (placedEntry entry fragment) := AList.lookup_insert _
  unfold completeEntry
  rw [lookup]
  simp only
  rw [release_eq sound, removed, joinChunks_eq full]
  · rfl
  · exact Nat.add_le_add_right globalRoom _
  · exact (Nat.add_le_add_right peerRoom _).trans_eq present.symm

/-- The push once the ceiling is passed, on the entry it works on. -/
theorem pushLive_room {s : AppFragmentReassembler PeerId} {author : PeerId} {fragment : AppFragment}
    (source : fragment.sourcePeerId = toText author)
    (room : exceedsCeiling s author fragment.payload.length = false) (sub : SubMode) (blake3 : Blake3)
    (created : ℕ) {entry : ReassemblyEntry} {entries : Table (ReassemblyKey PeerId) ReassemblyEntry}
    (target : Table.entryOr (reassemblyKey author fragment) (freshEntry fragment created) s.entries
      = (entry, entries)) :
    pushLive sub blake3 s author fragment created
      = if sameMessage entry.fragment fragment = false then
          .ok (.error (appError fragment.topic "fragment metadata mismatch"), { s with entries })
        else match entry.chunks[fragment.index]? with
          | none => .error .indexOutOfBounds
          | some (some _) => .ok (.ok none, { s with entries })
          | some none => storeChunk sub blake3 { s with entries } author entry fragment := by
  unfold pushLive
  rw [if_neg (not_not.mpr source), if_neg (ne_true_of_eq_false room), target]
  simp only [Bool.not_eq_eq_eq_not, Bool.not_true]

theorem sameMessage_refl (fragment : AppFragment) : sameMessage fragment fragment = true := by
  rw [sameMessage_iff]
  exact ⟨rfl, rfl, rfl, rfl, rfl, rfl, rfl, rfl, rfl, rfl⟩

/-- A new entry takes the chunk and stays incomplete. -/
theorem pushLive_new (blake3 : Blake3) {s : AppFragmentReassembler PeerId} {author : PeerId}
    {fragment : AppFragment} (valid : fragment.Valid PeerId) (created : ℕ)
    (source : fragment.sourcePeerId = toText author)
    (room : exceedsCeiling s author fragment.payload.length = false)
    (found : s.entries.lookup (reassemblyKey author fragment) = none) :
    ∃ result t, (∀ sub : SubMode, sub.Sound →
        pushLive sub blake3 s author fragment created = .ok (result, t)) ∧
      PushCase blake3 s author fragment created result t := by
  have target : targetEntry s author fragment created = freshEntry fragment created := by
    rw [targetEntry, found, Option.getD_none]
  have hole : (freshEntry fragment created).chunks[fragment.index]? = some none :=
    List.getElem?_replicate_of_lt valid.index_lt
  have same : sameMessage (freshEntry fragment created).fragment fragment = true :=
    sameMessage_refl fragment
  have inserted : Table.entryOr (reassemblyKey author fragment) (freshEntry fragment created)
      s.entries = (freshEntry fragment created,
        s.entries.insert (reassemblyKey author fragment) (freshEntry fragment created)) := by
    rw [Table.entryOr, found]
  refine ⟨_, _, fun sub sound => ?_, .stored source room ?_ ?_ ?_⟩
  · rw [pushLive_room source room sub blake3 created inserted,
      if_neg (ne_false_of_eq_true same), hole]
    have counted : (freshEntry fragment created).bytes ≤ s.peerCount author := Nat.zero_le _
    simp only
    rw [storeChunk_eq counted room, if_pos (freshEntry_open valid created), target]
    unfold placed
    rw [AList.insert_insert]
    rfl
  · rw [target]
    exact sameMessage_refl fragment
  · rw [target]
    exact hole
  · rw [target]
    exact freshEntry_open valid created

/-- An existing entry refuses the fragment, ignores it, takes it, or is completed by it. -/
theorem pushLive_old (blake3 : Blake3) {s : AppFragmentReassembler PeerId} (accounted : Accounted s)
    {author : PeerId} {fragment : AppFragment} (valid : fragment.Valid PeerId) (created : ℕ)
    (source : fragment.sourcePeerId = toText author)
    (room : exceedsCeiling s author fragment.payload.length = false) {entry : ReassemblyEntry}
    (found : s.entries.lookup (reassemblyKey author fragment) = some entry) :
    ∃ result t, (∀ sub : SubMode, sub.Sound →
        pushLive sub blake3 s author fragment created = .ok (result, t)) ∧
      PushCase blake3 s author fragment created result t := by
  have target : targetEntry s author fragment created = entry := by
    rw [targetEntry, found, Option.getD_some]
  have stored : Table.entryOr (reassemblyKey author fragment) (freshEntry fragment created)
      s.entries = (entry, s.entries) := by
    rw [Table.entryOr, found]
  have run := fun sub : SubMode => pushLive_room source room sub blake3 created stored
  cases same : sameMessage entry.fragment fragment with
  | false =>
    refine ⟨_, s, fun sub _ => ?_, .mismatch entry source room found same⟩
    rw [run, if_pos same]
  | true =>
    have within : fragment.index < entry.chunks.length := by
      obtain ⟨_, _, _, _, _, _, _, _, _, sameTotal⟩ := (sameMessage_iff _ _).mp same
      rw [(accounted.entries _ entry found).slots, sameTotal]
      exact valid.index_lt
    cases slot : entry.chunks[fragment.index]? with
    | none => exact absurd within (not_lt.mpr (List.getElem?_eq_none_iff.mp slot))
    | some held =>
      cases held with
      | some chunk =>
        refine ⟨_, s, fun sub _ => ?_, .duplicate entry chunk source room found same slot⟩
        rw [run, if_neg (ne_false_of_eq_true same), slot]
      | none =>
        have counted : entry.bytes ≤ s.peerCount author := (accounted.room found).2
        cases rest : (placedEntry entry fragment).chunks.any Option.isNone with
        | true =>
          refine ⟨_, _, fun sub _ => ?_, .stored source room ?_ ?_ ?_⟩
          · rw [run, if_neg (ne_false_of_eq_true same), slot, target]
            simp only
            rw [storeChunk_eq counted room, if_pos rest]
          · rw [target, same]
          · rw [target, slot]
          · rw [target, rest]
        | false =>
          refine ⟨_, _, fun sub sound => ?_, .completed entry source room found same slot rest⟩
          rw [run, if_neg (ne_false_of_eq_true same), slot]
          simp only
          rw [storeChunk_eq counted room, if_neg (ne_true_of_eq_false rest)]
          exact completeEntry_placed sound blake3 accounted found rest

/-- **A push on the live entries is one of the cases**, whatever the subtraction. -/
theorem pushLive_case (blake3 : Blake3) {s : AppFragmentReassembler PeerId} (accounted : Accounted s)
    (author : PeerId) {fragment : AppFragment} (valid : fragment.Valid PeerId) (created : ℕ) :
    ∃ result t, (∀ sub : SubMode, sub.Sound →
        pushLive sub blake3 s author fragment created = .ok (result, t)) ∧
      PushCase blake3 s author fragment created result t := by
  by_cases source : fragment.sourcePeerId = toText author
  swap
  · refine ⟨_, s, fun sub _ => ?_, .foreign source⟩
    unfold pushLive
    rw [if_pos source]
  cases room : exceedsCeiling s author fragment.payload.length with
  | true =>
    refine ⟨_, s, fun sub _ => ?_, .ceiling source room⟩
    unfold pushLive
    rw [if_neg (not_not.mpr source), if_pos room]
  | false =>
    cases found : s.entries.lookup (reassemblyKey author fragment) with
    | none => exact pushLive_new blake3 valid created source room found
    | some entry => exact pushLive_old blake3 accounted valid created source room found

/-- **A push is an expiry followed by one of the cases**, whatever the subtraction. -/
theorem push_case (blake3 : Blake3) {s : AppFragmentReassembler PeerId} (accounted : Accounted s)
    (author : PeerId) {fragment : AppFragment} (valid : fragment.Valid PeerId) (now created : ℕ) :
    ∃ live result t, (∀ sub : SubMode, sub.Sound → expire sub s now = .ok live) ∧ Accounted live ∧
      OnlyLive s now live ∧
      (∀ sub : SubMode, sub.Sound → pushWith sub blake3 s author fragment now created = .ok (result, t)) ∧
      PushCase blake3 live author fragment created result t := by
  obtain ⟨live, expires, kept, lookups⟩ := expire_spec accounted now
  obtain ⟨result, t, runs, step⟩ := pushLive_case blake3 kept author valid created
  refine ⟨live, result, t, expires, kept, lookups, fun sub sound => ?_, step⟩
  unfold pushWith
  rw [expires sub sound]
  exact runs sub sound

theorem placed_peerCount (s : AppFragmentReassembler PeerId) (author peer : PeerId)
    (entry : ReassemblyEntry) (fragment : AppFragment) : (placed s author entry fragment).peerCount peer
      = s.peerCount peer + if peer = author then fragment.payload.length else 0 := by
  show ((s.peerBytes.insert author _).lookup peer).getD 0 = _
  rw [Table.lookup_insert_eq]
  by_cases own : peer = author
  · subst own
    rw [if_pos rfl, if_pos rfl, Option.getD_some]
  · rw [if_neg own, if_neg own]
    rfl

/-- What storing a chunk adds to a total over the entries: the weight of the entry it opens, and what
the chunk adds to the entry it goes into. -/
theorem total_placed (weight : ReassemblyKey PeerId → ReassemblyEntry → ℕ)
    (s : AppFragmentReassembler PeerId) (author : PeerId) (fragment : AppFragment) (created extra : ℕ)
    (grows : weight (reassemblyKey author fragment)
        (placedEntry (targetEntry s author fragment created) fragment)
      = weight (reassemblyKey author fragment) (targetEntry s author fragment created) + extra) :
    Table.total weight (placed s author (targetEntry s author fragment created) fragment).entries
      = Table.total weight s.entries
        + ((if (s.entries.lookup (reassemblyKey author fragment)).isNone then
            weight (reassemblyKey author fragment) (freshEntry fragment created) else 0) + extra) := by
  show Table.total weight (s.entries.insert _ _) = _
  revert grows
  unfold targetEntry
  cases found : s.entries.lookup (reassemblyKey author fragment) with
  | none =>
    intro grows
    rw [Option.getD_none] at grows ⊢
    rw [Table.total_insert_new weight _ found, grows]
    show _ = _ + (weight _ _ + _)
    omega
  | some entry =>
    intro grows
    rw [Option.getD_some] at grows ⊢
    have traded := Table.total_insert_old weight (placedEntry entry fragment) found
    show _ = _ + (0 + extra)
    omega

/-- **Every case keeps the accounting.** -/
theorem PushCase.accounted {blake3 : Blake3} {s t : AppFragmentReassembler PeerId} {author : PeerId}
    {fragment : AppFragment} {created : ℕ} {result : PushResult}
    (step : PushCase blake3 s author fragment created result t) (valid : fragment.Valid PeerId)
    (accounted : Accounted s) : Accounted t := by
  cases step with
  | foreign => exact accounted
  | ceiling => exact accounted
  | mismatch => exact accounted
  | duplicate => exact accounted
  | completed entry _ _ found _ _ _ => exact dropEntry_accounted accounted found
  | stored _ room same hole rest =>
    obtain ⟨peerRoom, globalRoom⟩ := (exceedsCeiling_eq_false_iff s author _).mp room
    refine ⟨fun key entry found => ?_, ?_, fun peer => ?_, globalRoom, fun peer => ?_⟩
    · change (s.entries.insert (reassemblyKey author fragment) _).lookup key = some entry at found
      rw [Table.lookup_insert_eq] at found
      split_ifs at found with own
      · cases found
        exact (accounted.targetEntry_sized author valid created).placed_incomplete valid same hole rest
      · exact accounted.entries key entry found
    · rw [total_placed (fun _ entry => entry.bytes) s author fragment created fragment.payload.length
        rfl, ← accounted.global_eq]
      show s.globalBytes + _ = s.globalBytes + ((if _ then 0 else 0) + _)
      rw [ite_self, Nat.zero_add]
    · have grows : bytesOf peer (reassemblyKey author fragment)
            (placedEntry (targetEntry s author fragment created) fragment)
          = bytesOf peer (reassemblyKey author fragment) (targetEntry s author fragment created)
            + if peer = author then fragment.payload.length else 0 := by
        show (if author = peer then _ + fragment.payload.length else 0)
          = (if author = peer then _ else 0) + _
        by_cases own : author = peer
        · rw [if_pos own, if_pos own, if_pos own.symm]
        · rw [if_neg own, if_neg own, if_neg (Ne.symm own)]
      have fresh : bytesOf peer (reassemblyKey author fragment) (freshEntry fragment created) = 0 :=
        ite_self 0
      rw [placed_peerCount, accounted.peer_eq,
        total_placed (bytesOf peer) s author fragment created _ grows, fresh, ite_self, Nat.zero_add]
    · rw [placed_peerCount]
      by_cases own : peer = author
      · rw [if_pos own, own]
        exact peerRoom
      · rw [if_neg own]
        exact accounted.peer_le peer

end AppFragmentReassembler

end P2pNet.Api
