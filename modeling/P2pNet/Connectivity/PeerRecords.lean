/-
**What a sequence of calls does to the records.**

The event handlers write the peer book by sequences of calls (`recordAll`). `step_record`: a record found
after a call was there before or is the one the call has changed.
-/

import P2pNet.Connectivity.PeerAddresses

set_option linter.unusedSectionVars false

namespace P2pNet.Connectivity.PeerBook

open Lib

variable {PeerId Addr : Type} [PeerIdentity PeerId] [Multiaddr PeerId Addr]

/-- Calls one after another, at one reading of the clock. -/
def recordAll (book : PeerBook PeerId) (calls : List (Call PeerId Addr)) (nowUnixSecs : ℕ) : PeerBook PeerId :=
  final step book (calls.map fun call => (call, nowUnixSecs))

theorem recordAll_cons (book : PeerBook PeerId) (call : Call PeerId Addr) (later : List (Call PeerId Addr))
    (nowUnixSecs : ℕ) : book.recordAll (call :: later) nowUnixSecs
      = (step book (call, nowUnixSecs)).2.recordAll later nowUnixSecs := rfl

theorem recordAll_append (book : PeerBook PeerId) (first second : List (Call PeerId Addr)) (nowUnixSecs : ℕ) :
    book.recordAll (first ++ second) nowUnixSecs
      = (book.recordAll first nowUnixSecs).recordAll second nowUnixSecs := by
  unfold recordAll
  rw [List.map_append, final_append]

/-- A fact that every call keeps. -/
theorem recordAll_induct (kept : PeerBook PeerId → Prop) {book : PeerBook PeerId}
    {calls : List (Call PeerId Addr)} (nowUnixSecs : ℕ) (holds : kept book)
    (each : ∀ current, ∀ call ∈ calls, kept current → kept (step current (call, nowUnixSecs)).2) :
    kept (book.recordAll calls nowUnixSecs) := by
  induction calls generalizing book with
  | nil => exact holds
  | cons call later ih =>
    exact ih (each book call List.mem_cons_self holds) fun current next member =>
      each current next (List.mem_cons_of_mem call member)

theorem step_indexed {book : PeerBook PeerId} (indexed : Indexed book) (call : Call PeerId Addr)
    (nowUnixSecs : ℕ) : Indexed (step book (call, nowUnixSecs)).2 := by
  rcases step_case book call nowUnixSecs with ⟨_, acted⟩ | ⟨_, same⟩
  · rw [acted]
    exact (enforceLoop_spec (call.touch_indexed indexed nowUnixSecs) le_rfl).2.1
  · rw [same]
    exact indexed

theorem recordAll_indexed {book : PeerBook PeerId} (indexed : Indexed book) (calls : List (Call PeerId Addr))
    (nowUnixSecs : ℕ) : Indexed (book.recordAll calls nowUnixSecs) :=
  recordAll_induct Indexed nowUnixSecs indexed fun _ call _ current => step_indexed current call nowUnixSecs

section Records

variable {book : PeerBook PeerId} (indexed : Indexed book)

include indexed

/-- **A record after a call** was there before or is the one the call has changed. -/
theorem step_record (call : Call PeerId Addr) (nowUnixSecs : ℕ) {peer : PeerId} {record : PeerRecord PeerId}
    (found : (step book (call, nowUnixSecs)).2.record peer = some record) :
    (peer ≠ call.peer ∨ ¬ call.Acts book) ∧ book.record peer = some record ∨
      peer = call.peer ∧ record = touched book call.peer call.mutate nowUnixSecs := by
  rcases step_case book call nowUnixSecs with ⟨_, acted⟩ | ⟨idle, same⟩
  · rw [acted] at found
    have stored := enforceRecordBound_record (call.touch_indexed indexed nowUnixSecs) found
    unfold PeerBook.record Call.touch at stored
    rw [touchPeer_peers, Table.lookup_insert_eq] at stored
    split_ifs at stored with own
    · exact .inr ⟨own, (Option.some.inj stored).symm⟩
    · exact .inl ⟨.inl own, stored⟩
  · rw [same] at found
    exact .inl ⟨.inr idle, found⟩

/-- The record a call has changed stays if it is connected. -/
theorem step_own_record {call : Call PeerId Addr} (acts : call.Acts book) (nowUnixSecs : ℕ)
    (connected : (touched book call.peer call.mutate nowUnixSecs).connected = true) :
    (step book (call, nowUnixSecs)).2.record call.peer = some (touched book call.peer call.mutate nowUnixSecs) := by
  rcases step_case book call nowUnixSecs with ⟨_, acted⟩ | ⟨idle, _⟩
  · rw [acted]
    refine enforceRecordBound_connected (call.touch_indexed indexed nowUnixSecs) ?_ connected
    unfold Call.touch
    rw [touchPeer_peers]
    exact AList.lookup_insert _
  · exact absurd acts idle

/-- A connected record of another peer stays. -/
theorem step_other_record (call : Call PeerId Addr) (nowUnixSecs : ℕ) {peer : PeerId}
    {record : PeerRecord PeerId} (other : peer ≠ call.peer) (found : book.record peer = some record)
    (connected : record.connected = true) : (step book (call, nowUnixSecs)).2.record peer = some record := by
  rcases step_case book call nowUnixSecs with ⟨_, acted⟩ | ⟨_, same⟩
  · rw [acted]
    refine enforceRecordBound_connected (call.touch_indexed indexed nowUnixSecs) ?_ connected
    unfold Call.touch
    rw [touchPeer_peers, Table.lookup_insert_eq, if_neg other]
    exact found
  · rw [same]
    exact found

end Records

/-! ### Who is marked as connected -/

def Marked (book : PeerBook PeerId) (peer : PeerId) : Prop :=
  ∃ record, book.record peer = some record ∧ record.connected = true

/-- The mark a call sets. -/
def Call.marks : Call PeerId Addr → Option Bool
  | recordConnected _ _ => some true
  | recordDisconnected _ | recordDisconnectedIfKnown _ => some false
  | _ => none

theorem Call.mutate_connected (call : Call PeerId Addr) (record : PeerRecord PeerId) :
    (call.mutate record).connected = call.marks.getD record.connected := by
  cases call with
  | recordConnected _ addr =>
    cases addr with
    | none => rfl
    | some addr => rfl
  | recordPeer | recordAddr | recordNamespace | recordCapabilities | recordRelayPreferred
  | recordDisconnected | recordDisconnectedIfKnown | recordFailure => rfl

theorem touched_connected (book : PeerBook PeerId) (call : Call PeerId Addr) (nowUnixSecs : ℕ) :
    (touched book call.peer call.mutate nowUnixSecs).connected = true ↔
      match call.marks with
      | some mark => mark = true
      | none => book.Marked call.peer := by
  show (call.mutate ((book.peers.lookup call.peer).getD (.new call.peer))).connected = true ↔ _
  rw [call.mutate_connected]
  cases call.marks with
  | some mark => rfl
  | none =>
    unfold Marked PeerBook.record
    cases book.peers.lookup call.peer with
    | none => simp [PeerRecord.new]
    | some record => simp

/-- **Who is marked after a call.** -/
theorem step_marked_iff {book : PeerBook PeerId} (indexed : Indexed book) (call : Call PeerId Addr)
    (nowUnixSecs : ℕ) (peer : PeerId) : (step book (call, nowUnixSecs)).2.Marked peer ↔
      match if peer = call.peer then call.marks else none with
      | some mark => mark = true
      | none => book.Marked peer := by
  by_cases own : peer = call.peer
  · subst own
    rw [if_pos rfl, ← touched_connected book call nowUnixSecs]
    by_cases acts : call.Acts book
    · constructor
      · rintro ⟨record, found, connected⟩
        rcases step_record indexed call nowUnixSecs found with ⟨idle, _⟩ | ⟨_, rfl⟩
        · exact absurd acts (idle.resolve_left (not_not.mpr rfl))
        · exact connected
      · exact fun connected => ⟨_, step_own_record indexed acts nowUnixSecs connected, connected⟩
    · -- an unknown peer is not marked, and the call would unmark it
      refine iff_of_false ?_ ?_
      · rintro ⟨record, found, _⟩
        refine acts fun peer named => ?_
        rcases step_case book call nowUnixSecs with ⟨acts', _⟩ | ⟨_, same⟩
        · exact acts' peer named
        · subst named
          rw [same] at found
          exact Option.isSome_iff_exists.mpr ⟨record, found⟩
      · rw [touched_connected]
        simp only [Call.Acts, not_forall] at acts
        obtain ⟨unknown, rfl, _⟩ := acts
        exact Bool.false_ne_true
  · rw [if_neg own]
    constructor
    · rintro ⟨record, found, connected⟩
      rcases step_record indexed call nowUnixSecs found with ⟨_, before⟩ | ⟨same, _⟩
      · exact ⟨record, before, connected⟩
      · exact absurd same own
    · rintro ⟨record, found, connected⟩
      exact ⟨record, step_other_record indexed call nowUnixSecs own found connected, connected⟩

/-- Who is marked after calls none of which unmarks anybody. -/
theorem recordAll_marked_iff {book : PeerBook PeerId} (indexed : Indexed book) {calls : List (Call PeerId Addr)}
    (marking : ∀ call ∈ calls, call.marks ≠ some false) (nowUnixSecs : ℕ) (peer : PeerId) :
    (book.recordAll calls nowUnixSecs).Marked peer ↔
      book.Marked peer ∨ ∃ addr, .recordConnected peer addr ∈ calls := by
  induction calls generalizing book with
  | nil => simp [recordAll]
  | cons call later ih =>
    have first : (step book (call, nowUnixSecs)).2.Marked peer ↔
        book.Marked peer ∨ ∃ addr, call = .recordConnected peer addr := by
      rw [step_marked_iff indexed]
      cases call with
      | recordConnected owner addr =>
        by_cases own : peer = (Call.recordConnected owner addr : Call PeerId Addr).peer
        · rw [if_pos own]
          cases own
          exact iff_of_true rfl (.inr ⟨addr, rfl⟩)
        · rw [if_neg own]
          refine (or_iff_left ?_).symm
          rintro ⟨_, same⟩
          cases same
          exact own rfl
      | recordDisconnected | recordDisconnectedIfKnown => exact absurd rfl (marking _ List.mem_cons_self)
      | recordPeer | recordAddr | recordNamespace | recordCapabilities | recordRelayPreferred
      | recordFailure => simp [Call.marks]
    rw [recordAll_cons, ih (step_indexed indexed call nowUnixSecs) fun next member =>
      marking next (List.mem_cons_of_mem call member), first, or_assoc]
    refine or_congr_right ?_
    simp only [List.mem_cons, exists_or, eq_comm]

/-- The calls mark these peers and unmark nobody. -/
structure Marking (calls : List (Call PeerId Addr)) (marked : PeerId → Prop) : Prop where
  keeps : ∀ call ∈ calls, call.marks ≠ some false
  marks_iff : ∀ peer, (∃ addr, .recordConnected peer addr ∈ calls) ↔ marked peer

namespace Marking

variable {calls later : List (Call PeerId Addr)} {marked markedLater : PeerId → Prop}

theorem recordAll_iff (marking : Marking calls marked) {book : PeerBook PeerId} (indexed : Indexed book)
    (nowUnixSecs : ℕ) (peer : PeerId) :
    (book.recordAll calls nowUnixSecs).Marked peer ↔ book.Marked peer ∨ marked peer := by
  rw [recordAll_marked_iff indexed marking.keeps, marking.marks_iff]

/-- Calls that set no mark. -/
theorem neutral (unmarked : ∀ call ∈ calls, call.marks = none) : Marking calls fun _ => False where
  keeps call member := by
    rw [unmarked call member]
    exact nofun
  marks_iff peer := by
    refine iff_of_false ?_ id
    rintro ⟨addr, member⟩
    cases unmarked _ member

theorem nil : Marking ([] : List (Call PeerId Addr)) fun _ => False := neutral nofun

theorem singleton {call : Call PeerId Addr} (unmarked : call.marks = none) :
    Marking [call] fun _ => False := by
  refine neutral fun other member => ?_
  rw [List.mem_singleton.mp member]
  exact unmarked

theorem append (first : Marking calls marked) (second : Marking later markedLater) :
    Marking (calls ++ later) fun peer => marked peer ∨ markedLater peer where
  keeps call member := (List.mem_append.mp member).elim (first.keeps call) (second.keeps call)
  marks_iff peer := by
    rw [← first.marks_iff, ← second.marks_iff, ← exists_or]
    exact exists_congr fun addr => List.mem_append

/-- Calls that depend on a test. -/
theorem guarded (test : Prop) [Decidable test] (marking : Marking calls marked) :
    Marking (if test then calls else []) fun peer => test ∧ marked peer := by
  split_ifs with holds
  · exact ⟨marking.keeps, fun peer => (marking.marks_iff peer).trans (and_iff_right holds).symm⟩
  · refine ⟨nofun, fun peer => iff_of_false ?_ fun both => holds both.1⟩
    rintro ⟨_, member⟩
    cases member

theorem guarded_neutral (test : Prop) [Decidable test] (marking : Marking calls fun _ => False) :
    Marking (if test then calls else []) fun _ => False := by
  split_ifs
  · exact marking
  · exact nil

/-- One sequence of calls for every member of a list. -/
theorem flatMap {ι : Type} {members : List ι} {each : ι → List (Call PeerId Addr)}
    {markedBy : ι → PeerId → Prop} (marking : ∀ member, Marking (each member) (markedBy member)) :
    Marking (members.flatMap each) fun peer => ∃ member ∈ members, markedBy member peer where
  keeps call inside := by
    obtain ⟨member, _, own⟩ := List.mem_flatMap.mp inside
    exact (marking member).keeps call own
  marks_iff peer := by
    simp only [List.mem_flatMap, ← (marking _).marks_iff]
    constructor
    · rintro ⟨addr, member, inside, own⟩
      exact ⟨member, inside, addr, own⟩
    · rintro ⟨member, inside, addr, own⟩
      exact ⟨addr, member, inside, own⟩

theorem congr (marking : Marking calls marked) (same : ∀ peer, marked peer ↔ markedLater peer) :
    Marking calls markedLater := ⟨marking.keeps, fun peer => (marking.marks_iff peer).trans (same peer)⟩

theorem connected (peer : PeerId) (addr : Option Addr) :
    Marking [.recordConnected peer addr] fun other => other = peer where
  keeps call member := by
    rw [List.mem_singleton.mp member]
    exact nofun
  marks_iff other := by simp [eq_comm]

end Marking

end P2pNet.Connectivity.PeerBook
