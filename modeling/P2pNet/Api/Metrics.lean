/-
**Bandwidth metrics** (`crates/api/metrics.rs`).

`BandwidthMetrics` counts the bytes the node has sent and received, in total, per peer and per topic.
The totals saturate; the two tables stop admitting new keys at a fixed size.

`bandwidth_counters` says what every run of records leaves in the totals and in the tables.
-/

import P2pNet.Lib.Checked
import P2pNet.Lib.Table
import P2pNet.Lib.Run

set_option linter.unusedSectionVars false

namespace P2pNet.Api

open Lib

def maxTrackedPeerBandwidth : ℕ := 512
def maxTrackedTopicBandwidth : ℕ := 256

/-- `PeerBandwidth` and `TopicBandwidth`. -/
structure Bandwidth where
  bytesSent : UInt64 := 0
  bytesRecv : UInt64 := 0
  deriving DecidableEq, Repr

structure BandwidthMetrics (PeerId : Type) where
  totalBytesSent : UInt64
  totalBytesReceived : UInt64
  peerStats : Table PeerId Bandwidth
  topicStats : Table String Bandwidth

namespace BandwidthMetrics

variable {PeerId : Type} [DecidableEq PeerId]

def default : BandwidthMetrics PeerId := ⟨0, 0, ∅, ∅⟩

/-- Change the account of a key, if there is a key and it has an account or may open one. -/
def tally {Key : Type} [DecidableEq Key] (capacity : ℕ) (change : Bandwidth → Bandwidth)
    (table : Table Key Bandwidth) : Option Key → Table Key Bandwidth
  | none => table
  | some key =>
    if key ∈ table ∨ table.entries.length < capacity then
      table.insert key (change ((table.lookup key).getD {}))
    else table

def recordSent (metrics : BandwidthMetrics PeerId) (peer : Option PeerId) (topic : Option String)
    (bytes : UInt64) : BandwidthMetrics PeerId :=
  let change (account : Bandwidth) : Bandwidth :=
    { account with bytesSent := U64.saturatingAdd account.bytesSent bytes }
  { metrics with
    totalBytesSent := U64.saturatingAdd metrics.totalBytesSent bytes
    peerStats := tally maxTrackedPeerBandwidth change metrics.peerStats peer
    topicStats := tally maxTrackedTopicBandwidth change metrics.topicStats topic }

def recordReceived (metrics : BandwidthMetrics PeerId) (peer : Option PeerId) (topic : Option String)
    (bytes : UInt64) : BandwidthMetrics PeerId :=
  let change (account : Bandwidth) : Bandwidth :=
    { account with bytesRecv := U64.saturatingAdd account.bytesRecv bytes }
  { metrics with
    totalBytesReceived := U64.saturatingAdd metrics.totalBytesReceived bytes
    peerStats := tally maxTrackedPeerBandwidth change metrics.peerStats peer
    topicStats := tally maxTrackedTopicBandwidth change metrics.topicStats topic }

@[simp] theorem recordSent_total (metrics : BandwidthMetrics PeerId) (peer : Option PeerId)
    (topic : Option String) (bytes : UInt64) :
    (metrics.recordSent peer topic bytes).totalBytesSent
      = U64.saturatingAdd metrics.totalBytesSent bytes := rfl

/-! ### Runs -/

inductive Direction
  | sent
  | received
  deriving DecidableEq

/-- A call of `record_sent` or of `record_received`. -/
structure Call (PeerId : Type) where
  direction : Direction
  peer : Option PeerId
  topic : Option String
  bytes : UInt64

def record (metrics : BandwidthMetrics PeerId) (call : Call PeerId) : Unit × BandwidthMetrics PeerId :=
  match call.direction with
  | .sent => ((), metrics.recordSent call.peer call.topic call.bytes)
  | .received => ((), metrics.recordReceived call.peer call.topic call.bytes)

def total (metrics : BandwidthMetrics PeerId) : Direction → UInt64
  | .sent => metrics.totalBytesSent
  | .received => metrics.totalBytesReceived

def counter (account : Bandwidth) : Direction → UInt64
  | .sent => account.bytesSent
  | .received => account.bytesRecv

/-- What a call does to an account. -/
def Call.change (call : Call PeerId) (account : Bandwidth) : Bandwidth :=
  match call.direction with
  | .sent => { account with bytesSent := U64.saturatingAdd account.bytesSent call.bytes }
  | .received => { account with bytesRecv := U64.saturatingAdd account.bytesRecv call.bytes }

/-- The bytes of the calls of one direction. -/
def bytesOf (direction : Direction) (calls : List (Call PeerId)) : ℕ :=
  ((calls.filter (·.direction = direction)).map (·.bytes.toNat)).sum

theorem bytesOf_concat (direction : Direction) (calls : List (Call PeerId)) (call : Call PeerId) :
    bytesOf direction (calls ++ [call])
      = bytesOf direction calls + if call.direction = direction then call.bytes.toNat else 0 := by
  unfold bytesOf
  by_cases same : call.direction = direction
  · simp [List.filter_append, same]
  · simp [List.filter_append, same]

theorem bytesOf_le_of_sublist {direction : Direction} {some all : List (Call PeerId)} (part : some.Sublist all) :
    bytesOf direction some ≤ bytesOf direction all :=
  ((part.filter _).map _).sum_le_sum fun _ _ => Nat.zero_le _

theorem counter_change (call : Call PeerId) (account : Bandwidth) (direction : Direction) :
    (counter (call.change account) direction).toNat = min ((counter account direction).toNat
      + if call.direction = direction then call.bytes.toNat else 0) wordMax := by
  have bounded := U64.toNat_le_wordMax (counter account direction)
  unfold Call.change
  cases same : call.direction <;> cases direction <;> simp_all [counter]

theorem total_record (metrics : BandwidthMetrics PeerId) (call : Call PeerId) (direction : Direction) :
    ((metrics.record call).2.total direction).toNat = min ((metrics.total direction).toNat
      + if call.direction = direction then call.bytes.toNat else 0) wordMax := by
  have bounded := U64.toNat_le_wordMax (metrics.total direction)
  unfold record
  cases same : call.direction <;> cases direction <;> simp_all [total, recordSent, recordReceived]

theorem total_final (calls : List (Call PeerId)) (direction : Direction) :
    ((final record (default : BandwidthMetrics PeerId) calls).total direction).toNat
      = min (bytesOf direction calls) wordMax := by
  induction calls using List.reverseRecOn with
  | nil => cases direction <;> simp [default, total, bytesOf]
  | append_singleton calls call ih =>
    rw [final_concat, total_record, ih, bytesOf_concat]
    omega

/-! ### A table of accounts -/

section Tallied

variable {Key : Type} [DecidableEq Key] (capacity : ℕ) (key : Call PeerId → Option Key)

/-- The accounts after a run: those of the peers or those of the topics. -/
def tallied (calls : List (Call PeerId)) : Table Key Bandwidth :=
  calls.foldl (fun table call => tally capacity call.change table (key call)) ∅

theorem tallied_concat (calls : List (Call PeerId)) (call : Call PeerId) : tallied capacity key (calls ++ [call])
    = tally capacity call.change (tallied capacity key calls) (key call) := by
  unfold tallied
  rw [List.foldl_append, List.foldl_cons, List.foldl_nil]

theorem lookup_tally (change : Bandwidth → Bandwidth) (table : Table Key Bandwidth) (named : Option Key)
    (other : Key) : (tally capacity change table named).lookup other =
      if named = some other ∧ (other ∈ table ∨ table.entries.length < capacity)
      then some (change ((table.lookup other).getD {})) else table.lookup other := by
  cases named with
  | none => simp [tally]
  | some chosen =>
    show (if chosen ∈ table ∨ table.entries.length < capacity
      then table.insert chosen (change ((table.lookup chosen).getD {})) else table).lookup other = _
    by_cases same : chosen = other
    · subst same
      split_ifs <;> simp_all
    · split_ifs <;> simp_all [Ne.symm same]

theorem mem_tally {change : Bandwidth → Bandwidth} {table : Table Key Bandwidth} {named : Option Key}
    {other : Key} (member : other ∈ table) : other ∈ tally capacity change table named := by
  rw [← AList.lookup_isSome, lookup_tally]
  split_ifs
  · rfl
  · exact AList.lookup_isSome.mpr member

/-- **Tracked keys stay.** -/
theorem mem_tallied_append {calls : List (Call PeerId)} (later : List (Call PeerId)) {other : Key}
    (member : other ∈ tallied capacity key calls) : other ∈ tallied capacity key (calls ++ later) := by
  induction later using List.reverseRecOn with
  | nil => simpa using member
  | append_singleton later call ih =>
    rw [← List.append_assoc, tallied_concat]
    exact mem_tally capacity ih

theorem length_tallied_le (calls : List (Call PeerId)) : (tallied capacity key calls).entries.length ≤ capacity := by
  induction calls using List.reverseRecOn with
  | nil => exact Nat.zero_le _
  | append_singleton calls call ih =>
    rw [tallied_concat]
    cases named : key call with
    | none => exact ih
    | some chosen =>
      show (if chosen ∈ tallied capacity key calls ∨ (tallied capacity key calls).entries.length < capacity
        then AList.insert chosen _ _ else tallied capacity key calls).entries.length ≤ _
      split_ifs with admitted
      · by_cases known : chosen ∈ tallied capacity key calls
        · obtain ⟨old, found⟩ := Option.isSome_iff_exists.mp (AList.lookup_isSome.mpr known)
          rw [Table.length_insert_old _ found]
          exact ih
        · rw [Table.length_insert_new _ (AList.lookup_eq_none.mpr known)]
          exact admitted.resolve_left known
      · exact ih

/-- An account covers the calls that name its key from the one on that opened it. -/
def Covers (calls : List (Call PeerId)) (other : Key) (account : Bandwidth) : Prop :=
  ∃ before opening after, calls = before ++ opening :: after ∧ other ∉ tallied capacity key before ∧
    key opening = some other ∧ other ∈ tallied capacity key (before ++ [opening]) ∧
    ∀ direction, (counter account direction).toNat
      = min (bytesOf direction ((opening :: after).filter fun call => key call = some other)) wordMax

theorem covers_of_lookup {calls : List (Call PeerId)} {other : Key} {account : Bandwidth}
    (found : (tallied capacity key calls).lookup other = some account) : Covers capacity key calls other account := by
  induction calls using List.reverseRecOn generalizing account with
  | nil => simp [tallied] at found
  | append_singleton calls call ih =>
    have opened := found
    rw [tallied_concat, lookup_tally] at found
    cases known : (tallied capacity key calls).lookup other with
    | none =>
      -- the call opens the account
      have absent := AList.lookup_eq_none.mp known
      rw [known] at found
      split_ifs at found with admitted
      obtain rfl := Option.some.inj found
      refine ⟨calls, call, [], rfl, absent, admitted.1, ?_, fun direction => ?_⟩
      · rw [← AList.lookup_isSome, opened]
        rfl
      · rw [counter_change]
        have empty : (counter {} direction).toNat = 0 := by cases direction <;> rfl
        have whole := bytesOf_concat direction [] call
        simp_all [bytesOf]
    | some old =>
      obtain ⟨before, opening, after, rfl, absent, names, present, sums⟩ := ih known
      have member := AList.lookup_isSome.mp (Option.isSome_of_eq_some known)
      refine ⟨before, opening, after ++ [call], by simp, absent, names, present, fun direction => ?_⟩
      rw [← List.cons_append, List.filter_append]
      rw [known] at found
      by_cases named : key call = some other
      · rw [if_pos ⟨named, .inl member⟩] at found
        obtain rfl := Option.some.inj found
        rw [counter_change, List.filter_singleton, decide_eq_true named, cond_true, bytesOf_concat,
          Option.getD_some, sums direction]
        omega
      · rw [if_neg (fun admitted => named admitted.1)] at found
        obtain rfl := Option.some.inj found
        rw [List.filter_singleton, decide_eq_false named, cond_false, List.append_nil]
        exact sums direction

theorem Covers.le_total {calls : List (Call PeerId)} {other : Key} {account : Bandwidth}
    (covers : Covers capacity key calls other account) (direction : Direction) :
    counter account direction ≤ (final record (default : BandwidthMetrics PeerId) calls).total direction := by
  obtain ⟨before, opening, after, rfl, _, _, _, sums⟩ := covers
  rw [UInt64.le_iff_toNat_le, sums direction, total_final]
  exact min_le_min_right _ (bytesOf_le_of_sublist (List.filter_sublist.trans (List.sublist_append_right _ _)))

end Tallied

/-- **Both tables change alike.** -/
theorem stats_record (metrics : BandwidthMetrics PeerId) (call : Call PeerId) :
    (metrics.record call).2.peerStats = tally maxTrackedPeerBandwidth call.change metrics.peerStats call.peer ∧
      (metrics.record call).2.topicStats
        = tally maxTrackedTopicBandwidth call.change metrics.topicStats call.topic := by
  obtain ⟨direction, peer, topic, bytes⟩ := call
  cases direction <;> exact ⟨rfl, rfl⟩

theorem stats_final (calls : List (Call PeerId)) :
    (final record default calls).peerStats = tallied maxTrackedPeerBandwidth Call.peer calls ∧
      (final record default calls).topicStats = tallied maxTrackedTopicBandwidth Call.topic calls := by
  induction calls using List.reverseRecOn with
  | nil => exact ⟨rfl, rfl⟩
  | append_singleton calls call ih =>
    rw [final_concat, tallied_concat, tallied_concat, ← ih.1, ← ih.2]
    exact stats_record _ call

/-- **The counters of every run**: bounded tables that keep their keys, accounts that add up what was recorded since
they were opened, and totals that add up everything. -/
theorem bandwidth_counters (calls : List (Call PeerId)) :
    let run := fun calls : List (Call PeerId) => final record default calls
    (run calls).peerStats.entries.length ≤ 512 ∧ (run calls).topicStats.entries.length ≤ 256 ∧
      (∀ later, (∀ peer ∈ (run calls).peerStats, peer ∈ (run (calls ++ later)).peerStats) ∧
        ∀ topic ∈ (run calls).topicStats, topic ∈ (run (calls ++ later)).topicStats) ∧
      (∀ peer account, (run calls).peerStats.lookup peer = some account →
        Covers maxTrackedPeerBandwidth Call.peer calls peer account ∧
        ∀ direction, counter account direction ≤ (run calls).total direction) ∧
      (∀ topic account, (run calls).topicStats.lookup topic = some account →
        Covers maxTrackedTopicBandwidth Call.topic calls topic account ∧
        ∀ direction, counter account direction ≤ (run calls).total direction) ∧
      ∀ direction, ((run calls).total direction).toNat = min (bytesOf direction calls) wordMax := by
  dsimp only
  simp only [stats_final]
  refine ⟨length_tallied_le _ _ calls, length_tallied_le _ _ calls, fun later => ⟨fun peer => ?_, fun topic => ?_⟩,
    fun peer account found => ?_, fun topic account found => ?_, total_final calls⟩
  · exact mem_tallied_append _ _ later
  · exact mem_tallied_append _ _ later
  · have covers := covers_of_lookup _ _ found
    exact ⟨covers, covers.le_total⟩
  · have covers := covers_of_lookup _ _ found
    exact ⟨covers, covers.le_total⟩

end BandwidthMetrics

end P2pNet.Api
