/-
**Runs of the fragment reassembler**: what is counted and what is kept.

A run is a list of pushes, each with its author, an accepted fragment and two clock readings. In every
state of every run the counters are the sums of the stored chunks and stay under the ceilings, and no
index, `expect` or subtraction of the next push can go wrong (`reassembler_accounting`).

An entry also keeps a copy of the first fragment of its message, payload included, and that copy is
not counted. `retainedOf` and `retained` are the payload bytes an author's entries, and all entries,
really hold. They stay under the ceilings along a run exactly when every push that keeps its chunk
finds room for what it adds to them (`retained_within_ceilings_iff`), and 65 pushes of one author lead
beyond the ceiling (`retained_exceeds_peer_ceiling`).

A push that fails leaves what the expiry left, and takes its message out when it completed it
(`failed_push_residue`); the last fragment of a message can also be refused by a full memory, and then
the entry stays (`last_fragment_refused`).
-/

import P2pNet.Api.Reassembler
import P2pNet.Api.FragmentJson

set_option linter.unusedSectionVars false

namespace P2pNet.Api.AppFragmentReassembler

open Lib PeerIdentity

variable {PeerId : Type} [PeerIdentity PeerId]

/-! ### Runs -/

/-- One call of `push`, with the readings of the clock it makes. -/
structure PushEvent (PeerId : Type) where
  author : PeerId
  fragment : AppFragment
  now : ℕ
  created : ℕ

/-- A call that faults leaves no state behind; the old one stands for it. -/
def pushStep (blake3 : Blake3) (s : AppFragmentReassembler PeerId) (event : PushEvent PeerId) :
    Except Fault PushResult × AppFragmentReassembler PeerId :=
  match push blake3 s event.author event.fragment event.now event.created with
  | .ok (result, t) => (.ok result, t)
  | .error fault => (.error fault, s)

variable (PeerId) in
/-- A fragment that `decode_fragment` accepts from some frame. -/
def Accepted (fragments : SerdeJson AppFragment) (fragment : AppFragment) : Prop :=
  ∃ raw, decodeFragment PeerId fragments raw = .ok fragment

theorem Accepted.valid {fragments : SerdeJson AppFragment} {fragment : AppFragment}
    (accepted : Accepted PeerId fragments fragment) : fragment.Valid PeerId := by
  obtain ⟨raw, decoded⟩ := accepted
  exact ((decodeFragment_ok_iff PeerId fragments raw fragment).mp decoded).2.2

/-- **One step of a run**: an expiry, then one of the cases of a push, without a fault. -/
theorem pushStep_case (blake3 : Blake3) {s : AppFragmentReassembler PeerId} (accounted : Accounted s)
    {event : PushEvent PeerId} (valid : event.fragment.Valid PeerId) :
    ∃ live result, expire saturatingSub s event.now = .ok live ∧ Accounted live ∧
      OnlyLive s event.now live ∧
      (pushStep blake3 s event).1 = .ok result ∧
      PushCase blake3 live event.author event.fragment event.created result (pushStep blake3 s event).2 := by
  obtain ⟨live, result, t, expires, kept, lookups, runs, step⟩ :=
    push_case blake3 accounted event.author valid event.now event.created
  have outcome : pushStep blake3 s event = (.ok result, t) := by
    unfold pushStep push
    rw [runs saturatingSub saturatingSub_sound]
  refine ⟨live, result, expires saturatingSub saturatingSub_sound, kept, lookups, ?_, ?_⟩
  · rw [outcome]
  · rw [outcome]
    exact step

theorem pushStep_accounted (blake3 : Blake3) {s : AppFragmentReassembler PeerId} (accounted : Accounted s)
    {event : PushEvent PeerId} (valid : event.fragment.Valid PeerId) :
    Accounted (pushStep blake3 s event).2 := by
  obtain ⟨live, result, _, kept, _, _, step⟩ := pushStep_case blake3 accounted valid
  exact step.accounted valid kept

theorem reachable_accounted {blake3 : Blake3} {fragments : SerdeJson AppFragment}
    {s : AppFragmentReassembler PeerId}
    (reached : Reachable (pushStep blake3) (fun event => Accepted PeerId fragments event.fragment) empty s) :
    Accounted s := by
  refine reached.induct accounted_empty ?_
  intro current event accounted accepted
  exact pushStep_accounted blake3 accounted accepted.valid

theorem final_accounted (blake3 : Blake3) {events : List (PushEvent PeerId)}
    (valid : ∀ event ∈ events, event.fragment.Valid PeerId) :
    Accounted (final (pushStep blake3) empty events) := by
  refine final_induct (pushStep blake3) (fun _ current => Accounted current) events accounted_empty ?_
  intro consumed event rest current split accounted
  exact pushStep_accounted blake3 accounted (valid event (by rw [split]; simp))

/-! ### Sums of stored chunks -/

/-- The stored bytes of one author's entries. -/
def chunkBytesOf (peer : PeerId) (key : ReassemblyKey PeerId) (entry : ReassemblyEntry) : ℕ :=
  if key.author = peer then storedBytes entry.chunks else 0

theorem Accounted.total_bytes {s : AppFragmentReassembler PeerId} (accounted : Accounted s) :
    s.globalBytes = Table.total (fun _ entry => storedBytes entry.chunks) s.entries := by
  rw [accounted.global_eq]
  refine le_antisymm (Table.total_le_total fun key entry found => ?_)
    (Table.total_le_total fun key entry found => ?_)
  · exact (accounted.entries key entry found).bytes_eq.le
  · exact (accounted.entries key entry found).bytes_eq.ge

theorem Accounted.total_peer_bytes {s : AppFragmentReassembler PeerId} (accounted : Accounted s)
    (peer : PeerId) : s.peerCount peer = Table.total (chunkBytesOf peer) s.entries := by
  have pointwise : ∀ key entry, s.entries.lookup key = some entry →
      bytesOf peer key entry = chunkBytesOf peer key entry := by
    intro key entry found
    rw [bytesOf, chunkBytesOf, (accounted.entries key entry found).bytes_eq]
  rw [accounted.peer_eq]
  exact le_antisymm (Table.total_le_total fun key entry found => (pointwise key entry found).le)
    (Table.total_le_total fun key entry found => (pointwise key entry found).ge)

/-! ### What an expiry leaves -/

/-- The entries that are not yet thirty seconds old. -/
def liveEntries (s : AppFragmentReassembler PeerId) (now : ℕ) :
    Table (ReassemblyKey PeerId) ReassemblyEntry :=
  Table.retain (fun _ entry => !isExpired now entry) s.entries

section Live

variable {s live : AppFragmentReassembler PeerId} {now : ℕ}

theorem lookup_live (lookups : OnlyLive s now live) (key : ReassemblyKey PeerId) :
    live.entries.lookup key = (liveEntries s now).lookup key := by
  rw [lookups, liveEntries, Table.lookup_retain]

theorem total_live (lookups : OnlyLive s now live)
    (weight : ReassemblyKey PeerId → ReassemblyEntry → ℕ) :
    Table.total weight live.entries = Table.total weight (liveEntries s now) :=
  Table.total_of_lookup_eq weight (lookup_live lookups)

/-- The ceiling check, on the entries before the expiry. -/
theorem exceedsCeiling_live (accounted : Accounted live) (lookups : OnlyLive s now live) (author : PeerId) (len : ℕ) :
    exceedsCeiling live author len = false ↔
      Table.total (bytesOf author) (liveEntries s now) + len ≤ maxReassemblyBytesPerPeer ∧
        Table.total (fun _ entry => entry.bytes) (liveEntries s now) + len ≤ maxReassemblyBytesGlobal := by
  rw [exceedsCeiling_eq_false_iff, accounted.peer_eq, accounted.global_eq, total_live lookups,
    total_live lookups]

end Live

/-! ### Owners and duplicates -/

/-- Every entry is about a message of the author it is filed under. -/
def Owned (s : AppFragmentReassembler PeerId) : Prop :=
  ∀ key entry, s.entries.lookup key = some entry → entry.fragment.sourcePeerId = toText key.author

theorem owned_live {s live : AppFragmentReassembler PeerId} {now : ℕ} (owned : Owned s)
    (lookups : OnlyLive s now live) : Owned live := by
  intro key entry found
  rw [lookups, Option.filter_eq_some_iff] at found
  exact owned key entry found.1

theorem PushCase.owned {blake3 : Blake3} {s t : AppFragmentReassembler PeerId} {author : PeerId}
    {fragment : AppFragment} {created : ℕ} {result : PushResult}
    (step : PushCase blake3 s author fragment created result t) (owned : Owned s) : Owned t := by
  cases step with
  | foreign | ceiling | mismatch | duplicate => exact owned
  | stored source =>
    intro key entry found
    change (s.entries.insert _ _).lookup key = _ at found
    rw [Table.lookup_insert_eq] at found
    split_ifs at found with own
    · cases found
      subst own
      show (targetEntry s author fragment created).fragment.sourcePeerId = toText author
      unfold targetEntry
      cases old : s.entries.lookup (reassemblyKey author fragment) with
      | none => exact source
      | some entry => exact owned _ entry old
    · exact owned key entry found
  | completed =>
    intro key entry found
    rw [dropEntry_entries, Table.lookup_erase_eq] at found
    split_ifs at found
    exact owned key entry found

theorem reachable_owned {blake3 : Blake3} {fragments : SerdeJson AppFragment}
    {s : AppFragmentReassembler PeerId}
    (reached : Reachable (pushStep blake3) (fun event => Accepted PeerId fragments event.fragment) empty s) :
    Owned s := by
  have both : Accounted s ∧ Owned s := by
    apply reached.induct
    · exact ⟨accounted_empty, fun key entry found => by cases found⟩
    · intro current event ⟨accounted, owned⟩ accepted
      obtain ⟨live, result, _, kept, lookups, _, step⟩ := pushStep_case blake3 accounted accepted.valid
      exact ⟨step.accounted accepted.valid kept, step.owned (owned_live owned lookups)⟩
  exact both.2

/-- A fragment of a message that is there comes from its author. -/
theorem Owned.source {s : AppFragmentReassembler PeerId} (owned : Owned s) {author : PeerId}
    {fragment : AppFragment} {entry : ReassemblyEntry}
    (found : s.entries.lookup (reassemblyKey author fragment) = some entry)
    (same : sameMessage entry.fragment fragment = true) : fragment.sourcePeerId = toText author := by
  obtain ⟨_, _, _, sources, _⟩ := (sameMessage_iff _ _).mp same
  rw [← sources]
  exact owned _ entry found

/-- **A fragment whose slot is filled**: the push is an ignore exactly when the ceilings leave room to
store the fragment again, and an error otherwise; either way only old entries go. -/
theorem push_duplicate (blake3 : Blake3) {s : AppFragmentReassembler PeerId} (accounted : Accounted s)
    (owned : Owned s) {author : PeerId} {fragment : AppFragment} (valid : fragment.Valid PeerId)
    {now : ℕ} (created : ℕ) {entry : ReassemblyEntry} {chunk : List UInt8}
    (found : s.entries.lookup (reassemblyKey author fragment) = some entry)
    (young : isExpired now entry = false) (same : sameMessage entry.fragment fragment = true)
    (present : entry.chunks[fragment.index]? = some (some chunk)) :
    ∃ live result, expire saturatingSub s now = .ok live ∧
      push blake3 s author fragment now created = .ok (result, live) ∧
      result = if Table.total (bytesOf author) (liveEntries s now) + fragment.payload.length
            ≤ maxReassemblyBytesPerPeer ∧
          Table.total (fun _ entry => entry.bytes) (liveEntries s now) + fragment.payload.length
            ≤ maxReassemblyBytesGlobal
        then .ok none
        else .error (appError fragment.topic "fragment reassembly memory ceiling exceeded") := by
  obtain ⟨live, result, t, expires, kept, lookups, runs, step⟩ :=
    push_case blake3 accounted author valid now created
  have located : live.entries.lookup (reassemblyKey author fragment) = some entry := by
    rw [lookups, found, Option.filter_some, young]
    rfl
  have room := exceedsCeiling_live kept lookups author fragment.payload.length
  have push_eq := runs saturatingSub saturatingSub_sound
  refine ⟨live, result, expires saturatingSub saturatingSub_sound, ?_⟩
  -- the entry is there and its slot is filled: only the ceiling and the duplicate case are left
  cases step with
  | foreign foreign => exact absurd (owned.source found same) foreign
  | ceiling _ full =>
    refine ⟨push_eq, (if_neg fun fits => ?_).symm⟩
    rw [room.mpr fits] at full
    cases full
  | mismatch other _ _ held different =>
    cases located.symm.trans held
    cases same.symm.trans different
  | duplicate _ _ _ fits => exact ⟨push_eq, (if_pos (room.mp fits)).symm⟩
  | stored _ _ _ hole =>
    rw [targetEntry, located, Option.getD_some, present] at hole
    cases hole
  | completed other _ _ held _ hole =>
    cases located.symm.trans held
    cases present.symm.trans hole

/-! ### Retained memory -/

/-- The payload bytes an entry holds: its chunks and the payload of the fragment that opened it. -/
def retainedBytes (entry : ReassemblyEntry) : ℕ := storedBytes entry.chunks + entry.fragment.payload.length

def retainedBy (peer : PeerId) (key : ReassemblyKey PeerId) (entry : ReassemblyEntry) : ℕ :=
  if key.author = peer then retainedBytes entry else 0

def retainedOf (entries : Table (ReassemblyKey PeerId) ReassemblyEntry) (peer : PeerId) : ℕ :=
  Table.total (retainedBy peer) entries

def retained (entries : Table (ReassemblyKey PeerId) ReassemblyEntry) : ℕ :=
  Table.total (fun _ entry => retainedBytes entry) entries

def WithinCeilings (entries : Table (ReassemblyKey PeerId) ReassemblyEntry) : Prop :=
  (∀ peer, retainedOf entries peer ≤ maxReassemblyBytesPerPeer) ∧
    retained entries ≤ maxReassemblyBytesGlobal

/-- Does a push keep its chunk in an entry? The author is the source, the ceiling is not exceeded, and
the message is new or has this slot and another one still empty. -/
def KeepsChunk (entries : Table (ReassemblyKey PeerId) ReassemblyEntry) (author : PeerId)
    (fragment : AppFragment) : Prop :=
  fragment.sourcePeerId = toText author ∧
    (Table.total (bytesOf author) entries + fragment.payload.length ≤ maxReassemblyBytesPerPeer ∧
      Table.total (fun _ entry => entry.bytes) entries + fragment.payload.length
        ≤ maxReassemblyBytesGlobal) ∧
    ∀ entry, entries.lookup (reassemblyKey author fragment) = some entry →
      sameMessage entry.fragment fragment = true ∧ entry.chunks[fragment.index]? = some none ∧
        (entry.chunks.set fragment.index (some fragment.payload)).any Option.isNone = true

/-- What such a push adds: its chunk, and a copy of it when it opens the entry. -/
def addedBytes (entries : Table (ReassemblyKey PeerId) ReassemblyEntry) (author : PeerId)
    (fragment : AppFragment) : ℕ :=
  (if (entries.lookup (reassemblyKey author fragment)).isNone then fragment.payload.length else 0)
    + fragment.payload.length

/-- The push finds room for everything it keeps. -/
def Roomy (s : AppFragmentReassembler PeerId) (event : PushEvent PeerId) : Prop :=
  let entries := liveEntries s event.now
  KeepsChunk entries event.author event.fragment →
    retainedOf entries event.author + addedBytes entries event.author event.fragment
        ≤ maxReassemblyBytesPerPeer ∧
      retained entries + addedBytes entries event.author event.fragment ≤ maxReassemblyBytesGlobal

theorem withinCeilings_erase {entries : Table (ReassemblyKey PeerId) ReassemblyEntry}
    (within : WithinCeilings entries) {key : ReassemblyKey PeerId} {entry : ReassemblyEntry}
    (found : entries.lookup key = some entry) : WithinCeilings (entries.erase key) := by
  refine ⟨fun peer => le_trans ?_ (within.1 peer), le_trans ?_ within.2⟩
  · unfold retainedOf
    rw [Table.total_erase (retainedBy peer) found]
    exact Nat.le_add_left _ _
  · unfold retained
    rw [Table.total_erase (fun _ entry => retainedBytes entry) found]
    exact Nat.le_add_left _ _

theorem withinCeilings_live {s live : AppFragmentReassembler PeerId} {now : ℕ}
    (within : WithinCeilings s.entries) (lookups : OnlyLive s now live) :
    WithinCeilings live.entries := by
  refine ⟨fun peer => le_trans ?_ (within.1 peer), le_trans ?_ within.2⟩
  · exact (total_live lookups _).trans_le (Table.total_retain_le _ _ _)
  · exact (total_live lookups _).trans_le (Table.total_retain_le _ _ _)

/-- Storing a chunk adds its bytes, and the copy when the entry is new. -/
theorem retainedBytes_placed {entry : ReassemblyEntry} {fragment : AppFragment}
    (hole : entry.chunks[fragment.index]? = some none) :
    retainedBytes (placedEntry entry fragment) = retainedBytes entry + fragment.payload.length := by
  show storedBytes (entry.chunks.set fragment.index (some fragment.payload)) + _ = _ + _ + _
  rw [storedBytes_set fragment.payload hole]
  exact Nat.add_right_comm _ _ _

theorem retained_placed {s : AppFragmentReassembler PeerId} {author : PeerId} {fragment : AppFragment}
    {created : ℕ} (hole : (targetEntry s author fragment created).chunks[fragment.index]? = some none) :
    retained (placed s author (targetEntry s author fragment created) fragment).entries
        = retained s.entries + addedBytes s.entries author fragment ∧
      ∀ peer, retainedOf (placed s author (targetEntry s author fragment created) fragment).entries peer
        = retainedOf s.entries peer + if peer = author then addedBytes s.entries author fragment else 0 := by
  have fresh : retainedBytes (freshEntry fragment created) = fragment.payload.length := by
    show storedBytes (List.replicate fragment.total none) + fragment.payload.length = _
    rw [storedBytes_replicate_none, Nat.zero_add]
  constructor
  · refine (total_placed (fun _ entry => retainedBytes entry) s author fragment created
      fragment.payload.length (retainedBytes_placed hole)).trans ?_
    rw [fresh]
    rfl
  · intro peer
    unfold retainedOf
    by_cases own : author = peer
    · subst own
      have grows := retainedBytes_placed hole
      rw [total_placed (retainedBy author) s author fragment created fragment.payload.length]
      · show _ + ((if _ then (if author = author then retainedBytes _ else 0) else 0) + _) = _
        rw [if_pos rfl, if_pos rfl, fresh]
        rfl
      · show (if author = author then retainedBytes _ else 0)
          = (if author = author then retainedBytes _ else 0) + _
        rw [if_pos rfl, if_pos rfl, grows]
    · rw [total_placed (retainedBy peer) s author fragment created 0]
      · show _ + ((if _ then (if author = peer then retainedBytes _ else 0) else 0) + 0) = _
        rw [if_neg own, ite_self, if_neg (Ne.symm own)]
      · show (if author = peer then retainedBytes _ else 0)
          = (if author = peer then retainedBytes _ else 0) + 0
        rw [Nat.add_zero, if_neg own, if_neg own]

/-- Storing a chunk keeps the ceilings exactly when there is room for what it adds. -/
theorem placed_withinCeilings_iff {s : AppFragmentReassembler PeerId} (within : WithinCeilings s.entries)
    {author : PeerId} {fragment : AppFragment} {created : ℕ}
    (hole : (targetEntry s author fragment created).chunks[fragment.index]? = some none) :
    WithinCeilings (placed s author (targetEntry s author fragment created) fragment).entries ↔
      retainedOf s.entries author + addedBytes s.entries author fragment ≤ maxReassemblyBytesPerPeer ∧
        retained s.entries + addedBytes s.entries author fragment ≤ maxReassemblyBytesGlobal := by
  obtain ⟨whole, each⟩ := retained_placed hole
  unfold WithinCeilings
  rw [whole]
  refine and_congr_left fun _ => ⟨fun peers => ?_, fun own peer => ?_⟩
  · have own := peers author
    rwa [each, if_pos rfl] at own
  · rw [each]
    by_cases same : peer = author
    · rw [if_pos same, same]
      exact own
    · rw [if_neg same]
      exact within.1 peer

/-- **One push keeps the retained bytes under the ceilings exactly when it finds room** for what it
adds to them. -/
theorem pushStep_withinCeilings_iff (blake3 : Blake3) {s : AppFragmentReassembler PeerId}
    (accounted : Accounted s) (within : WithinCeilings s.entries) {event : PushEvent PeerId}
    (valid : event.fragment.Valid PeerId) :
    WithinCeilings (pushStep blake3 s event).2.entries ↔ Roomy s event := by
  obtain ⟨live, result, _, kept, lookups, _, step⟩ := pushStep_case blake3 accounted valid
  have before := withinCeilings_live within lookups
  have room := exceedsCeiling_live kept lookups event.author event.fragment.payload.length
  have located := lookup_live lookups (reassemblyKey event.author event.fragment)
  generalize (pushStep blake3 s event).2 = t at step ⊢
  -- every case but `stored` keeps no chunk: the condition is empty and the bytes do not grow
  cases step with
  | foreign foreign => exact iff_of_true before fun keeps => absurd keeps.1 foreign
  | ceiling _ full =>
    refine iff_of_true before fun keeps => ?_
    rw [room.mpr keeps.2.1] at full
    cases full
  | mismatch entry _ _ found different =>
    refine iff_of_true before fun keeps => ?_
    rw [located] at found
    rw [(keeps.2.2 entry found).1] at different
    cases different
  | duplicate entry chunk _ _ found _ present =>
    refine iff_of_true before fun keeps => ?_
    rw [located] at found
    rw [(keeps.2.2 entry found).2.1] at present
    cases present
  | completed entry _ _ found _ _ full =>
    refine iff_of_true (withinCeilings_erase before found) fun keeps => ?_
    rw [located] at found
    have unfinished := (keeps.2.2 entry found).2.2
    rw [show (entry.chunks.set _ _).any Option.isNone = false from full] at unfinished
    cases unfinished
  | stored source fits same hole rest =>
    have keeps : KeepsChunk (liveEntries s event.now) event.author event.fragment := by
      refine ⟨source, room.mp fits, fun entry found => ?_⟩
      rw [← located] at found
      have target : targetEntry live event.author event.fragment event.created = entry := by
        rw [targetEntry, found, Option.getD_some]
      rw [target] at same hole rest
      exact ⟨same, hole, rest⟩
    have added : addedBytes live.entries event.author event.fragment
        = addedBytes (liveEntries s event.now) event.author event.fragment := by
      unfold addedBytes
      rw [located]
    have all : retained live.entries = retained (liveEntries s event.now) := total_live lookups _
    have own : retainedOf live.entries event.author = retainedOf (liveEntries s event.now) event.author :=
      total_live lookups _
    rw [placed_withinCeilings_iff before hole, added, own, all]
    exact ⟨fun roomy _ => roomy, fun roomy => roomy keeps⟩

theorem withinCeilings_empty : WithinCeilings (empty : AppFragmentReassembler PeerId).entries :=
  ⟨fun _ => Nat.zero_le _, Nat.zero_le _⟩

/-! ### One author, many messages, one fragment of each -/

def floodEvent (tag : ℕ) : PushEvent Seed := ⟨.nnoo, Sample.fragment (UInt8.ofNat tag) 0, 0, 0⟩

def flood (count : ℕ) : List (PushEvent Seed) := (List.range count).map floodEvent

def floodKey (tag : ℕ) : ReassemblyKey Seed := reassemblyKey .nnoo (Sample.fragment (UInt8.ofNat tag) 0)

/-- The fragments of a message share its key. -/
theorem reassemblyKey_sample (tag index : ℕ) :
    reassemblyKey Seed.nnoo (Sample.fragment (UInt8.ofNat tag) index) = floodKey tag := by
  simp only [floodKey, reassemblyKey, Sample.fragment, fragmentAt, fragmentOf]

theorem sameMessage_sample (first : AppFragment) (tag : UInt8) (index other : ℕ) :
    sameMessage first (Sample.fragment tag index) = sameMessage first (Sample.fragment tag other) := by
  simp only [sameMessage, Sample.fragment, fragmentAt, fragmentOf]

theorem flood_accepted (count : ℕ) : ∀ event ∈ flood count, Accepted Seed Sample.codec event.fragment := by
  intro event member
  obtain ⟨tag, _, rfl⟩ := List.mem_map.mp member
  exact ⟨_, Sample.decodeFragment_wire (UInt8.ofNat tag) Nat.zero_lt_two⟩

theorem floodKey_injective {first second : ℕ} (firstSmall : first < 256) (secondSmall : second < 256)
    (same : floodKey first = floodKey second) : first = second := by
  have nonces := Hex.encode_injective (congrArg ReassemblyKey.nonceHex same)
  have tags := congrArg UInt8.toNat (List.cons.inj nonces).1
  rwa [UInt8.toNat_ofNat_of_lt' firstSmall, UInt8.toNat_ofNat_of_lt' secondSmall] at tags

/-- The state after a number of first fragments of different messages, all at one instant. -/
structure Flooded (count : ℕ) (s : AppFragmentReassembler Seed) : Prop where
  accounted : Accounted s
  held : ∀ tag < count, ∃ entry, s.entries.lookup (floodKey tag) = some entry ∧
    sameMessage entry.fragment (Sample.fragment (UInt8.ofNat tag) 0) = true ∧
    ∃ chunk, entry.chunks[0]? = some (some chunk)
  only : ∀ key entry, s.entries.lookup key = some entry → ∃ tag < count, key = floodKey tag
  fresh : ∀ key entry, s.entries.lookup key = some entry → entry.created = 0
  counted : s.peerCount .nnoo = count * 16384
  total : s.globalBytes = count * 16384
  kept : retainedOf s.entries .nnoo = count * 32768

theorem Flooded.isExpired {count : ℕ} {s : AppFragmentReassembler Seed} (flooded : Flooded count s)
    {key : ReassemblyKey Seed} {entry : ReassemblyEntry} (found : s.entries.lookup key = some entry) :
    isExpired 0 entry = false := by
  unfold AppFragmentReassembler.isExpired
  rw [flooded.fresh key entry found]
  decide

/-- At the same instant nothing expires. -/
theorem Flooded.live {count : ℕ} {s live : AppFragmentReassembler Seed} (flooded : Flooded count s)
    (accounted : Accounted live) (lookups : ∀ key, live.entries.lookup key
      = (s.entries.lookup key).filter fun entry => !AppFragmentReassembler.isExpired 0 entry) :
    Flooded count live := by
  have same : ∀ key, live.entries.lookup key = s.entries.lookup key := by
    intro key
    rw [lookups]
    cases found : s.entries.lookup key with
    | none => rfl
    | some entry =>
      rw [Option.filter_some, flooded.isExpired found]
      rfl
  refine ⟨accounted, ?_, ?_, ?_, ?_, ?_, ?_⟩
  · intro tag small
    rw [same]
    exact flooded.held tag small
  · intro key entry found
    rw [same] at found
    exact flooded.only key entry found
  · intro key entry found
    rw [same] at found
    exact flooded.fresh key entry found
  · rw [accounted.peer_eq, Table.total_of_lookup_eq _ same, ← flooded.accounted.peer_eq]
    exact flooded.counted
  · rw [accounted.global_eq, Table.total_of_lookup_eq _ same, ← flooded.accounted.global_eq]
    exact flooded.total
  · rw [retainedOf, Table.total_of_lookup_eq _ same]
    exact flooded.kept

theorem Flooded.absent {count : ℕ} {s : AppFragmentReassembler Seed} (flooded : Flooded count s)
    (small : count < 128) : s.entries.lookup (floodKey count) = none := by
  cases found : s.entries.lookup (floodKey count) with
  | none => rfl
  | some entry =>
    obtain ⟨tag, earlier, same⟩ := flooded.only _ entry found
    have equal : count = tag := floodKey_injective (by omega) (by omega) same
    omega

theorem length_flood (count : ℕ) : (floodEvent count).fragment.payload.length = 16384 := Sample.length_payload _

theorem flood_valid (count : ℕ) : (floodEvent count).fragment.Valid Seed :=
  Sample.fragment_valid _ Nat.zero_lt_two

/-- The next first fragment is stored in an entry of its own. -/
theorem Flooded.stored {count : ℕ} {s : AppFragmentReassembler Seed} (flooded : Flooded count s)
    (small : count < 128)
    (hole : (targetEntry s Seed.nnoo (floodEvent count).fragment 0).chunks[(floodEvent count).fragment.index]?
      = some none)
    (after : Accounted (placed s Seed.nnoo (targetEntry s Seed.nnoo (floodEvent count).fragment 0)
      (floodEvent count).fragment)) :
    Flooded (count + 1) (placed s Seed.nnoo (targetEntry s Seed.nnoo (floodEvent count).fragment 0)
      (floodEvent count).fragment) := by
  have absent : s.entries.lookup (reassemblyKey Seed.nnoo (floodEvent count).fragment) = none :=
    flooded.absent small
  have len := length_flood count
  have stored : ∀ key, (placed s Seed.nnoo (targetEntry s Seed.nnoo (floodEvent count).fragment 0)
      (floodEvent count).fragment).entries.lookup key = if key = floodKey count then
        some (placedEntry (freshEntry (floodEvent count).fragment 0) (floodEvent count).fragment)
      else s.entries.lookup key := by
    intro key
    rw [targetEntry, absent, Option.getD_none]
    exact Table.lookup_insert_eq _ _ _ _
  refine ⟨after, ?_, ?_, ?_, ?_, ?_, ?_⟩
  · intro tag earlier
    rcases Nat.lt_succ_iff_lt_or_eq.mp earlier with old | rfl
    · rw [stored,
        if_neg fun same => absurd (floodKey_injective (by omega) (by omega) same) old.ne]
      exact flooded.held tag old
    · refine ⟨_, (stored (floodKey tag)).trans (if_pos rfl), sameMessage_refl _,
        (floodEvent tag).fragment.payload, ?_⟩
      have within : 0 < (List.replicate (floodEvent tag).fragment.total
          (none : Option (List UInt8))).length := by
        rw [List.length_replicate]
        exact (flood_valid tag).index_lt
      exact List.getElem?_set_self within
  · intro key entry found
    rw [stored] at found
    split_ifs at found with own
    · exact ⟨count, Nat.lt_succ_self _, own⟩
    · obtain ⟨tag, earlier, same⟩ := flooded.only key entry found
      exact ⟨tag, Nat.lt_succ_of_lt earlier, same⟩
  · intro key entry found
    rw [stored] at found
    split_ifs at found with own
    · cases found
      rfl
    · exact flooded.fresh key entry found
  · rw [placed_peerCount, if_pos rfl, flooded.counted, len]
    omega
  · show s.globalBytes + (floodEvent count).fragment.payload.length = _
    rw [flooded.total, len]
    omega
  · have added : addedBytes s.entries Seed.nnoo (floodEvent count).fragment = 32768 := by
      unfold addedBytes
      rw [absent, len]
      rfl
    rw [(retained_placed hole).2, if_pos rfl, flooded.kept, added]
    omega

/-- One more first fragment, while there is room. -/
theorem Flooded.next {count : ℕ} {s : AppFragmentReassembler Seed} (flooded : Flooded count s)
    (small : count < 128) :
    Flooded (count + 1) (pushStep Sample.blake3 s (floodEvent count)).2 := by
  have valid := flood_valid count
  obtain ⟨live, result, _, kept, lookups, _, step⟩ :=
    pushStep_case Sample.blake3 flooded.accounted valid
  have before := flooded.live kept lookups
  have absent : live.entries.lookup (reassemblyKey Seed.nnoo (floodEvent count).fragment) = none :=
    before.absent small
  have after := step.accounted valid kept
  change PushCase Sample.blake3 live Seed.nnoo (floodEvent count).fragment 0 result _ at step
  generalize (pushStep Sample.blake3 s (floodEvent count)).2 = t at step after ⊢
  cases step with
  | foreign foreign => exact absurd rfl foreign
  | ceiling _ full =>
    have room := (exceedsCeiling_eq_false_iff live Seed.nnoo 16384).mpr (by
      rw [before.counted, before.total]
      unfold maxReassemblyBytesPerPeer maxReassemblyBytesGlobal maxAppMessageBytes
      omega)
    rw [length_flood, room] at full
    cases full
  | mismatch entry _ _ found => cases absent.symm.trans found
  | duplicate entry _ _ _ found => cases absent.symm.trans found
  | completed entry _ _ found => cases absent.symm.trans found
  | stored _ _ _ hole _ => exact before.stored small hole after

theorem flooded_empty : Flooded 0 (empty : AppFragmentReassembler Seed) where
  accounted := accounted_empty
  held tag small := absurd small (Nat.not_lt_zero tag)
  only key entry found := by cases found
  fresh key entry found := by cases found
  counted := rfl
  total := rfl
  kept := rfl

/-- **The state after a flood**, up to the ceiling of 128 fragments. -/
theorem flooded_final {count : ℕ} (small : count ≤ 128) :
    Flooded count (final (pushStep Sample.blake3) empty (flood count)) := by
  induction count with
  | zero => exact flooded_empty
  | succ count ih =>
    have grown : flood (count + 1) = flood count ++ [floodEvent count] := by
      rw [flood, List.range_succ, List.map_append]
      rfl
    rw [grown, final_concat]
    exact (ih (Nat.le_of_succ_le small)).next small

/-- Another fragment at the same instant passes the ceiling check while there is room. -/
theorem Flooded.room {count : ℕ} {s live : AppFragmentReassembler Seed} (flooded : Flooded count s)
    (small : count < 128) {len : ℕ} (short : len ≤ 16384) (expires : expire saturatingSub s 0 = .ok live) :
    exceedsCeiling live Seed.nnoo len = false := by
  obtain ⟨t, runs, kept, lookups⟩ := expire_spec flooded.accounted 0
  rw [runs saturatingSub saturatingSub_sound] at expires
  cases expires
  have before := flooded.live kept lookups
  rw [exceedsCeiling_eq_false_iff, before.counted, before.total]
  unfold maxReassemblyBytesPerPeer maxReassemblyBytesGlobal maxAppMessageBytes
  omega

/-! ### The accounting of every reachable state -/

/-- **The counters tell the truth in every reachable state, and no push can go wrong there**: its run
with exact subtraction is its run with saturating subtraction, and neither faults. -/
theorem reassembler_accounting (blake3 : Blake3) (fragments : SerdeJson AppFragment)
    {s : AppFragmentReassembler PeerId}
    (reached : Reachable (pushStep blake3) (fun event => Accepted PeerId fragments event.fragment) empty s) :
    s.globalBytes = Table.total (fun _ entry => storedBytes entry.chunks) s.entries ∧
      (∀ peer, s.peerCount peer = Table.total (chunkBytesOf peer) s.entries) ∧
      s.globalBytes ≤ maxReassemblyBytesGlobal ∧
      (∀ peer, s.peerCount peer ≤ maxReassemblyBytesPerPeer) ∧
      (∀ key entry, s.entries.lookup key = some entry →
        entry.chunks.length = entry.fragment.total ∧
        (∃ (index : ℕ) (chunk : List UInt8), entry.chunks[index]? = some (some chunk)) ∧
        (∃ index : ℕ, entry.chunks[index]? = some none) ∧
        ∀ (index : ℕ) (chunk : List UInt8), entry.chunks[index]? = some (some chunk) →
          chunk.length = expectedLen entry.fragment.payloadLen entry.fragment.total index) ∧
      ∀ event : PushEvent PeerId, Accepted PeerId fragments event.fragment → ∃ outcome,
        pushWith exactSub blake3 s event.author event.fragment event.now event.created = .ok outcome ∧
        push blake3 s event.author event.fragment event.now event.created = .ok outcome := by
  have accounted := reachable_accounted reached
  refine ⟨accounted.total_bytes, accounted.total_peer_bytes, accounted.global_le, accounted.peer_le,
    fun key entry found => ?_, fun event accepted => ?_⟩
  · have ok := accounted.entries key entry found
    exact ⟨ok.slots, ok.filled, ok.missing, ok.lengths⟩
  · obtain ⟨_, result, t, _, _, _, runs, _⟩ :=
      push_case blake3 accounted event.author accepted.valid event.now event.created
    exact ⟨(result, t), runs exactSub exactSub_sound, runs saturatingSub saturatingSub_sound⟩

theorem reassembler_accounting_flood :
    Table.total (fun _ entry => storedBytes entry.chunks)
        (final (pushStep Sample.blake3) empty (flood 2)).entries = 32768 ∧
      ∃ outcome, pushWith exactSub Sample.blake3 (final (pushStep Sample.blake3) empty (flood 2))
        Seed.nnoo (Sample.fragment 0 1) 0 0 = .ok outcome := by
  obtain ⟨total, _, _, _, _, runs⟩ := reassembler_accounting Sample.blake3 Sample.codec
    (reachable_final (flood 2) (flood_accepted 2))
  obtain ⟨outcome, exact, _⟩ := runs ⟨.nnoo, Sample.fragment 0 1, 0, 0⟩
    ⟨_, Sample.decodeFragment_wire 0 Nat.one_lt_two⟩
  refine ⟨?_, outcome, exact⟩
  rw [← total, (flooded_final (by norm_num)).total]

/-! ### The retained bytes of every run -/

/-- **The retained payload bytes stay under the ceilings along a run exactly when every push of the run
finds room** for its chunk and, where it opens an entry, for the copy of it. -/
theorem retained_within_ceilings_iff (blake3 : Blake3) (fragments : SerdeJson AppFragment)
    (events : List (PushEvent PeerId))
    (accepted : ∀ event ∈ events, Accepted PeerId fragments event.fragment) :
    (∀ count ≤ events.length,
        WithinCeilings (final (pushStep blake3) empty (events.take count)).entries) ↔
      ∀ (count : ℕ) (event : PushEvent PeerId), events[count]? = some event →
        Roomy (final (pushStep blake3) empty (events.take count)) event := by
  refine always_iff_each (pushStep blake3) Accounted (fun s => WithinCeilings s.entries) Roomy events
    (fun count => ?_) withinCeilings_empty fun s event member accounted within => ?_
  · exact final_accounted blake3 fun event member => (accepted event (List.mem_of_mem_take member)).valid
  · exact pushStep_withinCeilings_iff blake3 accounted within (accepted event member).valid

theorem retained_within_ceilings_iff_flood :
    ¬ ∀ (count : ℕ) (event : PushEvent Seed), (flood 65)[count]? = some event →
      Roomy (final (pushStep Sample.blake3) empty ((flood 65).take count)) event := by
  have length : (flood 65).length = 65 := by
    rw [flood, List.length_map, List.length_range]
  rw [← retained_within_ceilings_iff Sample.blake3 Sample.codec (flood 65) (flood_accepted 65)]
  intro within
  have own := (within 65 length.ge).1 Seed.nnoo
  rw [List.take_of_length_le length.le, (flooded_final (by norm_num)).kept] at own
  exact absurd own (by decide)

/-- **Beyond the ceiling**: after 65 accepted first fragments of one author, 2 129 920 bytes of that
author's payloads are in memory, where the ceiling is 2 097 152. -/
theorem retained_exceeds_peer_ceiling :
    (∀ event ∈ flood 65, Accepted Seed Sample.codec event.fragment) ∧
      maxReassemblyBytesPerPeer
        < retainedOf (final (pushStep Sample.blake3) empty (flood 65)).entries Seed.nnoo := by
  refine ⟨flood_accepted 65, ?_⟩
  rw [(flooded_final (by norm_num)).kept]
  decide

/-! ### Pushes that fail -/

/-- The fragment is the one its entry still lacks. -/
def LastMissing (entry : ReassemblyEntry) (fragment : AppFragment) : Prop :=
  sameMessage entry.fragment fragment = true ∧ entry.chunks[fragment.index]? = some none ∧
    (entry.chunks.set fragment.index (some fragment.payload)).any Option.isNone = false

/-- The fragment is the last one of its message and not refused before it is stored. -/
def Completes (live : AppFragmentReassembler PeerId) (author : PeerId) (fragment : AppFragment) : Prop :=
  fragment.sourcePeerId = toText author ∧ exceedsCeiling live author fragment.payload.length = false ∧
    ∃ entry, live.entries.lookup (reassemblyKey author fragment) = some entry ∧ LastMissing entry fragment

/-- The fragment completes its message, and the message passes the checks. -/
def HandsOut (blake3 : Blake3) (live : AppFragmentReassembler PeerId) (author : PeerId)
    (fragment : AppFragment) : Prop :=
  Completes live author fragment ∧ ∃ entry message,
    live.entries.lookup (reassemblyKey author fragment) = some entry ∧
      finishMessage PeerId blake3 entry.fragment (joined (placedEntry entry fragment).chunks)
        = .ok (some message)

/-- **A push returns a message exactly when its fragment completes one that passes the checks.** -/
theorem push_message_iff (blake3 : Blake3) {s live t : AppFragmentReassembler PeerId} (accounted : Accounted s)
    {author : PeerId} {fragment : AppFragment} (valid : fragment.Valid PeerId) {now created : ℕ}
    {result : PushResult} (expires : expire saturatingSub s now = .ok live)
    (pushed : push blake3 s author fragment now created = .ok (result, t)) :
    (∃ message, result = .ok (some message)) ↔ HandsOut blake3 live author fragment := by
  obtain ⟨kept, outcome, after, lives, _, _, runs, step⟩ :=
    push_case blake3 accounted author valid now created
  obtain rfl : kept = live := Except.ok.inj ((lives saturatingSub saturatingSub_sound).symm.trans expires)
  have answered : push blake3 s author fragment now created = .ok (outcome, after) :=
    runs saturatingSub saturatingSub_sound
  obtain ⟨rfl, rfl⟩ := Prod.mk.inj (Except.ok.inj (pushed.symm.trans answered))
  constructor
  · rintro ⟨message, returned⟩
    cases step with
    | foreign => cases returned
    | ceiling => cases returned
    | mismatch => cases returned
    | duplicate => cases returned
    | stored => cases returned
    | completed entry source room found same hole full =>
      exact ⟨⟨source, room, entry, found, same, hole, full⟩, entry, message, found, returned⟩
  · rintro ⟨⟨source, room, entry, found, same, hole, full⟩, other, message, located, finished⟩
    rw [found] at located
    cases located
    have target : targetEntry kept author fragment created = entry := by
      unfold targetEntry
      rw [found, Option.getD_some]
    cases step with
    | foreign foreign => exact absurd source foreign
    | ceiling _ exceeds => cases room.symm.trans exceeds
    | mismatch other _ _ located different =>
      rw [found] at located
      cases located
      cases same.symm.trans different
    | duplicate other chunk _ _ located _ filled =>
      rw [found] at located
      cases located
      cases hole.symm.trans filled
    | stored _ _ _ _ lacking =>
      rw [target] at lacking
      cases full.symm.trans lacking
    | completed other _ _ located =>
      rw [found] at located
      cases located
      exact ⟨message, finished⟩

/-- The entry of the message taken out, with its stored bytes. -/
def withoutMessage (live : AppFragmentReassembler PeerId) (author : PeerId) (fragment : AppFragment)
    (entry : ReassemblyEntry) : AppFragmentReassembler PeerId where
  entries := live.entries.erase (reassemblyKey author fragment)
  globalBytes := live.globalBytes - storedBytes entry.chunks
  peerBytes := live.peerBytes.insert author (live.peerCount author - storedBytes entry.chunks)

theorem Accounted.dropEntry_eq {live : AppFragmentReassembler PeerId} (accounted : Accounted live)
    {author : PeerId} {fragment : AppFragment} {entry : ReassemblyEntry}
    (found : live.entries.lookup (reassemblyKey author fragment) = some entry) :
    dropEntry live (reassemblyKey author fragment) entry = withoutMessage live author fragment entry := by
  have incomplete := accounted.entries _ entry found
  have counted : entry.bytes ≤ live.peerCount author := (accounted.room found).2
  have positive := incomplete.bytes_pos.trans_le counted
  unfold peerCount at positive
  cases stored : live.peerBytes.lookup author with
  | none =>
    rw [stored] at positive
    cases positive
  | some counted =>
    rw [dropEntry_of_counted stored, incomplete.bytes_eq]
    unfold withoutMessage peerCount
    rw [stored, Option.getD_some]
    rfl

/-- **A push that fails leaves what the expiry left**, unless it completed its message: then the entry is
gone with its bytes and nothing else has changed. -/
theorem failed_push_residue (blake3 : Blake3) (fragments : SerdeJson AppFragment)
    {s : AppFragmentReassembler PeerId}
    (reached : Reachable (pushStep blake3) (fun event => Accepted PeerId fragments event.fragment) empty s)
    {author : PeerId} {fragment : AppFragment} (accepted : Accepted PeerId fragments fragment)
    {now created : ℕ} {reason : NetError} {t : AppFragmentReassembler PeerId}
    (failed : push blake3 s author fragment now created = .ok (.error reason, t)) :
    ∃ live, expire saturatingSub s now = .ok live ∧
      (¬ Completes live author fragment → t = live) ∧
      (Completes live author fragment → ∃ entry,
        live.entries.lookup (reassemblyKey author fragment) = some entry ∧ LastMissing entry fragment ∧
          t = withoutMessage live author fragment entry) := by
  obtain ⟨live, result, after, expires, kept, _, runs, step⟩ :=
    push_case blake3 (reachable_accounted reached) author accepted.valid now created
  have outcome : push blake3 s author fragment now created = .ok (result, after) :=
    runs saturatingSub saturatingSub_sound
  obtain ⟨fails, rfl⟩ := Prod.mk.inj (Except.ok.inj (failed.symm.trans outcome))
  refine ⟨live, expires saturatingSub saturatingSub_sound, ?_⟩
  cases step with
  | duplicate => cases fails
  | stored => cases fails
  | foreign foreign => exact ⟨fun _ => rfl, fun completes => absurd completes.1 foreign⟩
  | ceiling _ full =>
    refine ⟨fun _ => rfl, fun completes => ?_⟩
    rw [completes.2.1] at full
    cases full
  | mismatch entry _ _ found different =>
    refine ⟨fun _ => rfl, fun completes => ?_⟩
    obtain ⟨other, located, same, _⟩ := completes.2.2
    rw [found] at located
    cases located
    rw [same] at different
    cases different
  | completed entry source room found same hole full =>
    have last : LastMissing entry fragment := ⟨same, hole, full⟩
    refine ⟨fun incomplete => absurd ⟨source, room, entry, found, last⟩ incomplete, fun _ => ?_⟩
    exact ⟨entry, found, last, kept.dropEntry_eq found⟩

theorem failed_push_residue_foreign :
    push Sample.blake3 empty Seed.qcu2 (Sample.fragment 0 0) 0 0 = .ok (.error (appError "fragment-test"
        "fragment source does not match authenticated Gossipsub author"), empty) ∧
      ∃ live, expire saturatingSub (empty : AppFragmentReassembler Seed) 0 = .ok live ∧ empty = live := by
  have foreign : (Sample.fragment 0 0).sourcePeerId ≠ toText Seed.qcu2 := by
    show Seed.nnoo.text ≠ Seed.qcu2.text
    decide
  have failed : push Sample.blake3 empty Seed.qcu2 (Sample.fragment 0 0) 0 0 = .ok (.error (appError
      "fragment-test" "fragment source does not match authenticated Gossipsub author"), empty) := by
    show pushLive saturatingSub Sample.blake3 empty Seed.qcu2 (Sample.fragment 0 0) 0 = _
    unfold pushLive
    rw [if_pos foreign]
    rfl
  have accepted : Accepted Seed Sample.codec (Sample.fragment 0 0) :=
    ⟨_, Sample.decodeFragment_wire 0 Nat.zero_lt_two⟩
  obtain ⟨live, expires, stays, _⟩ := failed_push_residue Sample.blake3 Sample.codec .refl accepted failed
  exact ⟨failed, live, expires, stays fun completes => foreign completes.1⟩

/-! ### The last fragment of a message, with the memory full -/

theorem Flooded.lastMissing {count : ℕ} {s : AppFragmentReassembler Seed} (flooded : Flooded count s)
    {tag : ℕ} (small : tag < count) : ∃ entry, s.entries.lookup (floodKey tag) = some entry ∧
      LastMissing entry (Sample.fragment (UInt8.ofNat tag) 1) := by
  obtain ⟨entry, found, same, chunk, first⟩ := flooded.held tag small
  have incomplete := flooded.accounted.entries _ entry found
  have two : entry.chunks.length = 2 := by
    obtain ⟨_, _, _, _, _, _, _, _, _, sameTotal⟩ := (sameMessage_iff _ _).mp same
    rw [incomplete.slots, sameTotal]
    exact Sample.fragmentCount_eq _
  obtain ⟨hole, missing⟩ := incomplete.missing
  have second : hole = 1 := by
    obtain ⟨within, _⟩ := List.getElem?_eq_some_iff.mp missing
    have notFirst : hole ≠ 0 := by
      rintro rfl
      rw [first] at missing
      cases missing
    omega
  subst second
  obtain ⟨slot, other, chunks⟩ := List.length_eq_two.mp two
  rw [chunks] at first missing
  cases first
  cases missing
  refine ⟨entry, found, (sameMessage_sample _ _ 1 0).trans same, ?_, ?_⟩
  · show entry.chunks[1]? = some none
    rw [chunks]
    rfl
  · show (entry.chunks.set 1 _).any Option.isNone = false
    rw [chunks]
    rfl

/-- **Refused with the memory full, the last fragment of a message leaves its entry behind**: the push
fails, and the entry is still there. -/
theorem last_fragment_refused : ∃ live t entry reason,
    expire saturatingSub (final (pushStep Sample.blake3) empty (flood 128)) 0 = .ok live ∧
      live.entries.lookup (floodKey 0) = some entry ∧ LastMissing entry (Sample.fragment 0 1) ∧
      push Sample.blake3 (final (pushStep Sample.blake3) empty (flood 128)) Seed.nnoo (Sample.fragment 0 1) 0 0
        = .ok (.error reason, t) ∧
      t ≠ withoutMessage live Seed.nnoo (Sample.fragment 0 1) entry := by
  have flooded := flooded_final (le_refl 128)
  generalize final (pushStep Sample.blake3) empty (flood 128) = s at flooded ⊢
  have valid := Sample.fragment_valid 0 Nat.one_lt_two
  obtain ⟨live, result, t, expires, kept, lookups, runs, step⟩ :=
    push_case Sample.blake3 flooded.accounted Seed.nnoo valid 0 0
  have before := flooded.live kept lookups
  obtain ⟨entry, found, last⟩ := before.lastMissing (show 0 < 128 by norm_num)
  have full : exceedsCeiling live Seed.nnoo (Sample.fragment 0 1).payload.length = true := by
    rw [← Bool.not_eq_false, exceedsCeiling_eq_false_iff, before.counted]
    have positive : 0 < (Sample.fragment 0 1).payload.length := valid.length_eq ▸ expectedLen_pos valid _
    unfold maxReassemblyBytesPerPeer maxAppMessageBytes
    omega
  have outcome : push Sample.blake3 s Seed.nnoo (Sample.fragment 0 1) 0 0 = .ok (result, t) :=
    runs saturatingSub saturatingSub_sound
  cases step with
  | foreign foreign => exact absurd rfl foreign
  | ceiling _ _ =>
    refine ⟨live, live, entry, _, expires saturatingSub saturatingSub_sound, found, last, outcome, ?_⟩
    intro removed
    have gone : (withoutMessage live Seed.nnoo (Sample.fragment 0 1) entry).entries.lookup (floodKey 0) = none := by
      rw [← reassemblyKey_sample 0 1]
      exact AList.lookup_erase _ _
    rw [← removed, found] at gone
    cases gone
  | mismatch _ _ room => cases full.symm.trans room
  | duplicate _ _ _ room => cases full.symm.trans room
  | stored _ room => cases full.symm.trans room
  | completed _ _ room => cases full.symm.trans room

end P2pNet.Api.AppFragmentReassembler
