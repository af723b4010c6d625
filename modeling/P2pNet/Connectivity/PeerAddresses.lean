/-
**The addresses of a peer record** (`prune_peer_addrs` of `crates/connectivity/peer_book.rs`).

A record keeps at most 64 addresses. The bound is enforced by removing the least text, whatever its age,
and the address a call has just brought is in the set by then. `fresh_address_kept_iff`: it survives
exactly when it was stored already, fewer than 64 addresses were, or one of them is a lesser text;
`fresh_address_lost`: 64 junk addresses displace the one a connection was just made over.
-/

import P2pNet.Connectivity.PeerBook

set_option linter.unusedSectionVars false

namespace P2pNet.Connectivity.PeerBook

open Lib

variable {PeerId Addr : Type} [PeerIdentity PeerId] [Multiaddr PeerId Addr]

/-! ### Fresh addresses -/

/-- The loop only removes records. -/
theorem enforceRecordBound_record {book : PeerBook PeerId} (indexed : Indexed book) {peer : PeerId}
    {record : PeerRecord PeerId} (left : (enforceRecordBound book).record peer = some record) :
    book.record peer = some record := by
  have chain := (enforceLoop_spec indexed le_rfl).1
  change Relation.ReflTransGen Evicts book (enforceRecordBound book) at chain
  generalize enforceRecordBound book = after at chain left
  induction chain with
  | refl => exact left
  | tail _ evicts ih =>
    obtain ⟨_, victim, _, _, _, _, _, _, erased⟩ := evicts
    unfold PeerBook.record at left
    rw [erased, Table.lookup_erase_eq] at left
    split_ifs at left
    exact ih left

theorem enforceRecordBound_of_le {book : PeerBook PeerId} (small : book.len ≤ book.maxRecords) :
    enforceRecordBound book = book := by
  unfold enforceRecordBound
  cases book.disconnectedEvictionOrder.card with
  | zero => rfl
  | succ rounds => exact if_neg (not_lt.mpr small)

/-- The texts stored for a peer. -/
def addresses (book : PeerBook PeerId) (peer : PeerId) : Finset String :=
  ((book.record peer).map PeerRecord.addresses).getD ∅

/-- The calls that bring an address of the peer. -/
def Call.Brings (call : Call PeerId Addr) (peer : PeerId) (addr : Addr) : Prop :=
  (∃ source, call = .recordAddr peer addr source) ∨ call = .recordConnected peer (some addr)

/-- Such a call acts, adds the address and disconnects nobody. -/
theorem Call.Brings.mutate {call : Call PeerId Addr} {peer : PeerId} {addr : Addr}
    (brings : call.Brings peer addr) : call.peer = peer ∧ (∀ book, call.Acts book) ∧
      ∀ record, (call.mutate record).addresses
          = dropLeast maxAddrsPerPeer (insert (Multiaddr.toText addr) record.addresses) ∧
        (record.connected = true → (call.mutate record).connected = true) := by
  rcases brings with ⟨source, rfl⟩ | rfl
  · exact ⟨rfl, fun _ => nofun, fun record => ⟨rfl, id⟩⟩
  · exact ⟨rfl, fun _ => nofun, fun record => ⟨rfl, fun _ => rfl⟩⟩

/-- A peer keeps its record when it is given an address, and a new one gets it while there is room. -/
theorem Call.Brings.keeps {maxRecords : ℕ} {book : PeerBook PeerId} (consistent : Consistent maxRecords book)
    {call : Call PeerId Addr} {peer : PeerId} {addr : Addr} (brings : call.Brings peer addr)
    (room : book.record peer ≠ none ∨ book.len < book.maxRecords) (nowUnixSecs : ℕ) :
    (enforceRecordBound (call.touch book nowUnixSecs)).record peer
      = some (touched book peer call.mutate nowUnixSecs) := by
  obtain ⟨rfl, _, effect⟩ := brings.mutate
  have peers := touchPeer_peers book call.peer call.mutate nowUnixSecs
  have stored : (call.touch book nowUnixSecs).record call.peer
      = some (touched book call.peer call.mutate nowUnixSecs) := by
    unfold record Call.touch
    rw [peers]
    exact AList.lookup_insert _
  have small : (book.peers.insert call.peer (touched book call.peer call.mutate nowUnixSecs)).entries.length
      ≤ book.maxRecords → (enforceRecordBound (call.touch book nowUnixSecs)).record call.peer
        = some (touched book call.peer call.mutate nowUnixSecs) := by
    intro within
    rw [enforceRecordBound_of_le, stored]
    unfold len Call.touch
    rw [peers, touchPeer_maxRecords]
    exact within
  cases known : book.record call.peer with
  | none =>
    have free := room.resolve_left (not_not.mpr known)
    exact small ((Table.length_insert_new _ known).trans_le free)
  | some old =>
    rcases consistent.bounded with within | connected
    · exact small ((Table.length_insert_old _ known).trans_le within)
    · refine enforceRecordBound_connected (call.touch_indexed consistent.toIndexed nowUnixSecs) stored ?_
      have previous : (book.peers.lookup call.peer).getD (.new call.peer) = old := by
        rw [show book.peers.lookup call.peer = some old from known, Option.getD_some]
      show (call.mutate _).connected = true
      rw [previous]
      exact (effect old).2 (connected call.peer old known)

/-- The record after such a call, unless it is evicted. -/
theorem Call.Brings.stored (book : PeerBook PeerId) {call : Call PeerId Addr} {peer : PeerId} {addr : Addr}
    (brings : call.Brings peer addr) (nowUnixSecs : ℕ) :
    (step book (call, nowUnixSecs)).2 = enforceRecordBound (call.touch book nowUnixSecs) ∧
      (touched book peer call.mutate nowUnixSecs).addresses
        = dropLeast maxAddrsPerPeer (insert (Multiaddr.toText addr) (book.addresses peer)) := by
  constructor
  · rcases step_case book call nowUnixSecs with ⟨_, acted⟩ | ⟨idle, _⟩
    · exact acted
    · exact absurd (brings.mutate.2.1 book) idle
  · refine (brings.mutate.2.2 _).1.trans ?_
    unfold addresses record
    cases book.peers.lookup peer with
    | none => rfl
    | some old => rfl

theorem Consistent.addresses_le {maxRecords : ℕ} {book : PeerBook PeerId}
    (consistent : Consistent maxRecords book) (peer : PeerId) :
    (book.addresses peer).card ≤ maxAddrsPerPeer := by
  unfold addresses
  cases found : book.record peer with
  | none => exact Nat.zero_le _
  | some old => exact (consistent.records peer old found).1

/-- **A fresh address survives its own recording exactly when** it was stored already, fewer than 64
addresses were, or one of them comes before it in the order of the texts. -/
theorem fresh_address_kept_iff (maxRecords : ℕ) {book : PeerBook PeerId}
    (reached : Reachable step (fun _ : Call PeerId Addr × ℕ => True) (withMaxRecords maxRecords) book)
    {peer : PeerId} {addr : Addr} {call : Call PeerId Addr} (brings : call.Brings peer addr) (nowUnixSecs : ℕ) :
    (∀ record, (step book (call, nowUnixSecs)).2.record peer = some record →
      Multiaddr.toText addr ∈ record.addresses) ↔
    Multiaddr.toText addr ∈ book.addresses peer ∨ (book.addresses peer).card < maxAddrsPerPeer ∨
      ∃ other ∈ book.addresses peer, other < Multiaddr.toText addr := by
  have consistent := reachable_consistent reached
  obtain ⟨acted, stored⟩ := brings.stored book nowUnixSecs
  have within := consistent.addresses_le peer
  rw [acted, ← mem_dropLeast_insert_iff within, ← stored]
  constructor
  · intro survives
    cases known : book.record peer with
    | some old =>
      refine survives _ (brings.keeps consistent (.inl ?_) nowUnixSecs)
      rw [known]
      exact Option.some_ne_none old
    | none =>
      -- the first address of a new record always has room
      have empty : book.addresses peer = ∅ := by
        unfold addresses
        rw [known]
        rfl
      rw [stored, mem_dropLeast_insert_iff within, empty]
      exact .inr (.inl (by decide))
  · intro kept record left
    have found := enforceRecordBound_record (call.touch_indexed consistent.toIndexed nowUnixSecs) left
    obtain ⟨rfl, _, _⟩ := brings.mutate
    unfold PeerBook.record Call.touch at found
    rw [touchPeer_peers, AList.lookup_insert] at found
    cases found
    exact kept

theorem fresh_address_kept_iff_first : ∃ record,
    (step (withMaxRecords 4) ((.recordConnected .nnoo (some ⟨(10, 0, 0, 1), 4001, false, .nnoo⟩) :
      Call Seed Endpoint), 1)).2.record .nnoo = some record ∧
    Endpoint.text ⟨(10, 0, 0, 1), 4001, false, .nnoo⟩ ∈ record.addresses := by
  have kept := (fresh_address_kept_iff 4 .refl (.inr rfl) 1 : (∀ record,
    (step (withMaxRecords 4) ((.recordConnected .nnoo (some ⟨(10, 0, 0, 1), 4001, false, .nnoo⟩) :
      Call Seed Endpoint), 1)).2.record .nnoo = some record → _) ↔ _).mpr (.inr (.inl (by decide)))
  exact ⟨_, rfl, kept _ rfl⟩

/-! ### 64 junk addresses -/

namespace Crowded

def junk (index : ℕ) : Endpoint := ⟨(203, 0, 113, 1), UInt16.ofNat (10000 + index), false, .nnoo⟩

/-- The address of the connection that is recorded last. -/
def used : Endpoint := ⟨(10, 0, 0, 1), 4001, false, .nnoo⟩

def recorded (count : ℕ) : List (Call Seed Endpoint × ℕ) :=
  (List.range count).map fun index => (.recordAddr .nnoo (junk index) .dhtProvider, 0)

def book (count : ℕ) : PeerBook Seed := final step (withMaxRecords 2048) (recorded count)

theorem book_consistent (count : ℕ) : Consistent 2048 (book count) :=
  reachable_consistent (reachable_final (recorded count) fun _ _ => trivial)

theorem junk_injective {first second : ℕ} (small : first < 64) (small' : second < 64)
    (same : (junk first).text = (junk second).text) : first = second := by
  have ports := congrArg UInt16.toNat (Endpoint.text_port same)
  rw [UInt16.toNat_ofNat_of_lt' (show _ < 65536 by omega),
    UInt16.toNat_ofNat_of_lt' (show _ < 65536 by omega)] at ports
  omega

/-- Every junk address comes after the one that is used. -/
theorem used_lt_junk (index : ℕ) : used.text < (junk index).text := by
  obtain ⟨rest, text⟩ := (junk index).text_toList
  obtain ⟨rest', text'⟩ := used.text_toList
  have host : (toString (junk index).host.1).toList = ['2', '0', '3'] := by
    show (toString (203 : UInt8)).toList = _
    decide
  have host' : (toString used.host.1).toList = ['1', '0'] := by decide
  rw [String.lt_iff_toList_lt, text, text', host, host']
  simp [List.cons_lt_cons_iff]

theorem card_junk {count : ℕ} (small : count ≤ 64) :
    ((Finset.range count).image fun index => (junk index).text).card = count := by
  rw [Finset.card_image_of_injOn, Finset.card_range]
  intro first inside second inside' same
  simp only [Finset.coe_range, Set.mem_Iio] at inside inside'
  exact junk_injective (by omega) (by omega) same

/-- While there is room every junk address is kept. -/
theorem book_addresses {count : ℕ} (small : count ≤ 64) :
    ((book count).record .nnoo ≠ none ∨ count = 0) ∧
      (book count).addresses .nnoo = (Finset.range count).image fun index => (junk index).text := by
  induction count with
  | zero => exact ⟨.inr rfl, rfl⟩
  | succ count ih =>
    obtain ⟨known, before⟩ := ih (by omega)
    have grown : book (count + 1) = (step (book count) (.recordAddr .nnoo (junk count) .dhtProvider, 0)).2 := by
      unfold book recorded
      rw [List.range_succ, List.map_append, List.map_singleton, final_concat]
    have brings : Call.Brings (.recordAddr .nnoo (junk count) .dhtProvider) Seed.nnoo (junk count) :=
      .inl ⟨_, rfl⟩
    obtain ⟨acted, stored⟩ := brings.stored (book count) 0
    have room : (book count).record .nnoo ≠ none ∨ (book count).len < (book count).maxRecords := by
      rcases known with known | rfl
      · exact .inl known
      · exact .inr (by decide)
    have held := brings.keeps (book_consistent count) room 0
    rw [← acted, ← grown] at held
    constructor
    · left
      rw [held]
      exact Option.some_ne_none _
    · have texts : insert (junk count).text ((Finset.range count).image fun index => (junk index).text)
          = (Finset.range (count + 1)).image fun index => (junk index).text := by
        rw [Finset.range_add_one, Finset.image_insert]
      unfold addresses
      rw [held, Option.map_some, Option.getD_some, stored, before]
      show dropLeast 64 (insert (junk count).text _) = _
      rw [texts, dropLeast_of_card_le ((card_junk small).trans_le small)]

end Crowded

/-- **The address just used is lost**: after 64 junk addresses the record of the peer is kept, with them
and without the address of the new connection. -/
theorem fresh_address_lost : ∃ record,
    (step (Crowded.book 64) (.recordConnected .nnoo (some Crowded.used), 1)).2.record .nnoo = some record ∧
      record.connected = true ∧ Multiaddr.toText Crowded.used ∉ record.addresses := by
  obtain ⟨known, before⟩ := Crowded.book_addresses le_rfl
  have brings : Call.Brings (.recordConnected .nnoo (some Crowded.used)) Seed.nnoo Crowded.used := .inr rfl
  obtain ⟨acted, stored⟩ := brings.stored (Crowded.book 64) 1
  have held := brings.keeps (Crowded.book_consistent 64) (.inl (known.resolve_right (by norm_num))) 1
  rw [← acted] at held
  refine ⟨_, held, rfl, ?_⟩
  rw [stored, mem_dropLeast_insert_iff ((Crowded.book_consistent 64).addresses_le .nnoo), before,
    Crowded.card_junk le_rfl]
  show ¬ (Crowded.used.text ∈ _ ∨ _ ∨ ∃ other ∈ _, other < Crowded.used.text)
  rintro (stored | few | ⟨other, stored, lower⟩)
  · obtain ⟨index, _, same⟩ := Finset.mem_image.mp stored
    exact absurd same (Crowded.used_lt_junk index).ne'
  · exact absurd few (by decide)
  · obtain ⟨index, _, rfl⟩ := Finset.mem_image.mp stored
    exact absurd lower (Crowded.used_lt_junk index).not_gt

end P2pNet.Connectivity.PeerBook
