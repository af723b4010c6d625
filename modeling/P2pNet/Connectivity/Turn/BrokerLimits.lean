/-
**The limits of a credential broker** (`TurnBrokerState::admit` of `crates/connectivity/turn/broker.rs`).
-/

import P2pNet.Connectivity.Turn.Broker

set_option linter.unusedSectionVars false

namespace P2pNet.Connectivity.Turn

open Lib RateWindow TurnBrokerState

variable {PeerId : Type} [DecidableEq PeerId]

/-! ### Calls of one peer -/

def BrokerInput.time : BrokerInput PeerId → Option ℕ
  | .answer _ now | .maintain now | .addSource _ now => some now
  | .fetched .. => none

/-- The clock does not go back. -/
def BrokerClocked (inputs : List (BrokerInput PeerId)) : Prop :=
  inputs.Pairwise fun first second => ∀ earlier ∈ first.time, ∀ later ∈ second.time, earlier ≤ later

/-- The call of a peer, with the start of the window that the table then has for it. -/
def callOf (peer : PeerId) (s : TurnBrokerState PeerId) : BrokerInput PeerId → List Call
  | .answer other now =>
    if peer = other then
      [⟨now, (((s.answer peer now).2.windows.lookup peer).map RateWindow.start).getD 0,
        decide ((s.answer peer now).1 ≠ .rateLimited)⟩]
    else []
  | .maintain _ | .fetched .. | .addSource .. => []

/-- The calls of a peer in a run. -/
def callLog (peer : PeerId) (s : TurnBrokerState PeerId) (inputs : List (BrokerInput PeerId)) : List Call :=
  (outputs (fun current input => (callOf peer current input, (brokerStep current input).2)) s inputs).flatten

theorem callLog_concat (peer : PeerId) (s : TurnBrokerState PeerId) (inputs : List (BrokerInput PeerId))
    (input : BrokerInput PeerId) :
    callLog peer s (inputs ++ [input]) = callLog peer s inputs ++ callOf peer (final brokerStep s inputs) input := by
  unfold callLog
  rw [outputs_concat, List.flatten_append, List.flatten_singleton]
  rfl

/-- A call of the peer itself, as the window sees it. -/
theorem callOf_answer (peer : PeerId) (s : TurnBrokerState PeerId) (now : ℕ) :
    callOf peer s (.answer peer now) =
      [⟨now, (RateWindow.admitCall rateWindow s.maxPerWindow now ((s.pruned now).lookup peer)).2.start,
        (RateWindow.admitCall rateWindow s.maxPerWindow now ((s.pruned now).lookup peer)).1⟩] := by
  have refused := (s.answer_windows peer now).2.2
  have admitted : decide ((s.answer peer now).1 ≠ .rateLimited)
      = (RateWindow.admitCall rateWindow s.maxPerWindow now ((s.pruned now).lookup peer)).1 := by
    rw [Bool.eq_iff_iff, decide_eq_true_eq, ne_eq, refused, Bool.not_eq_false]
    rfl
  have window := s.lookup_windows_answer peer peer now
  rw [if_pos rfl] at window
  refine (if_pos rfl).trans ?_
  rw [admitted, window]
  rfl

/-! ### Windows of one peer in a run -/

theorem tracked_pruned {s : TurnBrokerState PeerId} {peer : PeerId} {limit now : ℕ} {log : List Call}
    (tracked : Tracked rateWindow limit now log (s.windows.lookup peer)) :
    Tracked rateWindow limit now log ((s.pruned now).lookup peer) := by
  rcases s.lookup_pruned now peer with same | swept
  · rw [same]
    exact tracked
  · rw [swept]
    exact tracked.sweep

/-- **An answer to any peer** keeps the window of a peer in step with its calls. -/
theorem tracked_answer {s : TurnBrokerState PeerId} {peer : PeerId} {now : ℕ} {log : List Call}
    (tracked : Tracked rateWindow s.maxPerWindow now log (s.windows.lookup peer)) (other : PeerId) :
    Tracked rateWindow s.maxPerWindow now (log ++ callOf peer s (.answer other now))
      ((s.answer other now).2.windows.lookup peer) := by
  rw [lookup_windows_answer]
  by_cases mine : peer = other
  · subst mine
    rw [if_pos rfl, callOf_answer]
    exact (tracked_pruned tracked).call (by decide)
  · rw [if_neg mine, callOf, if_neg mine, List.append_nil]
    exact tracked_pruned tracked

theorem brokerStep_maxPerWindow (s : TurnBrokerState PeerId) (input : BrokerInput PeerId) :
    (brokerStep s input).2.maxPerWindow = s.maxPerWindow := by
  cases input with
  | answer peer now => exact (s.answer_windows peer now).2.1
  | maintain now => rfl
  | fetched place result => rfl
  | addSource provider now => rfl

theorem new_windows (cfg : TurnBrokerConfig) (now : ℕ) : (TurnBrokerState.new PeerId cfg now).windows = ∅ ∧
    (TurnBrokerState.new PeerId cfg now).maxPerWindow = cfg.maxRequestsPerPeerPerMinute := by
  unfold TurnBrokerState.new
  dsimp only
  split
  · exact ⟨rfl, rfl⟩
  · exact ⟨rfl, rfl⟩

/-- The window of a peer follows its calls, at every time after them. -/
structure Followed (cfg : TurnBrokerConfig) (started : ℕ) (peer : PeerId) (consumed : List (BrokerInput PeerId))
    (s : TurnBrokerState PeerId) : Prop where
  limit : s.maxPerWindow = cfg.maxRequestsPerPeerPerMinute
  reached : s = final brokerStep (TurnBrokerState.new PeerId cfg started) consumed
  tracked : ∀ now, (∀ input ∈ consumed, ∀ time ∈ input.time, time ≤ now) →
    Tracked rateWindow cfg.maxRequestsPerPeerPerMinute now
      (callLog peer (TurnBrokerState.new PeerId cfg started) consumed) (s.windows.lookup peer)

theorem followed_new (cfg : TurnBrokerConfig) (started : ℕ) (peer : PeerId) :
    Followed cfg started peer [] (TurnBrokerState.new PeerId cfg started) where
  limit := (new_windows cfg started).2
  reached := rfl
  tracked now _ := by
    rw [(new_windows cfg started).1]
    exact Tracked.empty _ _ _

theorem Followed.step {cfg : TurnBrokerConfig} {started : ℕ} {peer : PeerId} {consumed : List (BrokerInput PeerId)}
    {s : TurnBrokerState PeerId} (followed : Followed cfg started peer consumed s) (input : BrokerInput PeerId)
    (clock : BrokerClocked (consumed ++ [input])) :
    Followed cfg started peer (consumed ++ [input]) (brokerStep s input).2 where
  limit := (brokerStep_maxPerWindow s input).trans followed.limit
  reached := by rw [final_concat, ← followed.reached]
  tracked now passed := by
    rw [callLog_concat, ← followed.reached]
    have before : ∀ earlier ∈ consumed, ∀ time ∈ earlier.time, time ≤ now := fun earlier member =>
      passed earlier (List.mem_append_left _ member)
    cases input with
    | answer other time =>
      -- the calls before this one came earlier, so that the relation holds at its time
      have there := followed.tracked time fun earlier member reading read =>
        (List.pairwise_append.mp clock).2.2 earlier member _ (List.mem_singleton_self _) reading read time rfl
      have here := passed (.answer other time) (List.mem_append_right _ (List.mem_singleton_self _)) time rfl
      rw [← followed.limit] at there ⊢
      exact (tracked_answer there other).later here
    | maintain time =>
      rw [callOf, List.append_nil]
      exact followed.tracked now before
    | fetched place result =>
      rw [callOf, List.append_nil]
      exact followed.tracked now before
    | addSource provider time =>
      rw [callOf, List.append_nil]
      exact followed.tracked now before

/-- **The window in the table** is the one of the peer's own calls. -/
theorem followed_final (cfg : TurnBrokerConfig) (started : ℕ) {inputs : List (BrokerInput PeerId)}
    (clock : BrokerClocked inputs) (peer : PeerId) :
    Followed cfg started peer inputs (final brokerStep (TurnBrokerState.new PeerId cfg started) inputs) := by
  refine final_induct brokerStep (Followed cfg started peer) inputs (followed_new cfg started peer) ?_
  intro consumed input rest s split followed
  have front : (consumed ++ [input]).Sublist inputs := by
    rw [split]
    exact (List.Sublist.refl consumed).append (List.singleton_sublist.mpr (List.mem_cons_self ..))
  exact followed.step input (clock.sublist front)

/-- **A running window** is not touched by the calls of others. -/
theorem lookup_windows_other {s : TurnBrokerState PeerId} {peer other : PeerId} (different : peer ≠ other) {now : ℕ}
    {window : RateWindow} (stored : s.windows.lookup peer = some window) (running : now < window.start + rateWindow) :
    (s.answer other now).2.windows.lookup peer = some window := by
  rw [lookup_windows_answer, if_neg different]
  have inTime : RateWindow.isRunning rateWindow now window = true := by
    have positive : 0 < rateWindow := by decide
    unfold RateWindow.isRunning
    rw [decide_eq_true_eq]
    omega
  rcases s.lookup_pruned now peer with same | swept
  · rw [same, stored]
  · rw [swept, stored, RateWindow.sweep, Option.filter_some, if_pos inTime]

/-- **The rate limit of a broker.** In every run whose clock does not go back, the calls of a peer fall into windows that
start at least a minute apart, each of them admits at most the configured number of calls, and any minute has at most
twice that number. A window that is running is left alone by the calls of other peers, whatever they make the broker
remove. -/
theorem broker_rate_limit (cfg : TurnBrokerConfig) (started : ℕ) {inputs : List (BrokerInput PeerId)}
    (clock : BrokerClocked inputs) (peer : PeerId) :
    let log := callLog peer (TurnBrokerState.new PeerId cfg started) inputs
    (∀ call ∈ log, call.start ≤ call.time ∧ call.time < call.start + rateWindow) ∧
    (log.Pairwise fun earlier later => earlier.start = later.start ∨ earlier.start + rateWindow ≤ later.start) ∧
    (∀ start, admittedIn log start ≤ cfg.maxRequestsPerPeerPerMinute) ∧
    (∀ since, (log.filter fun call => call.admitted && decide (since ≤ call.time ∧ call.time < since + rateWindow)).length
      ≤ 2 * cfg.maxRequestsPerPeerPerMinute) ∧
    ∀ before other now after, inputs = before ++ .answer other now :: after → peer ≠ other →
      let s := final brokerStep (TurnBrokerState.new PeerId cfg started) before
      ∀ window, s.windows.lookup peer = some window → now < window.start + rateWindow →
        (s.answer other now).2.windows.lookup peer = some window := by
  intro log
  have latest : ∃ now, ∀ input ∈ inputs, ∀ time ∈ input.time, time ≤ now := by
    refine ⟨(inputs.filterMap BrokerInput.time).sum, fun input member time read => ?_⟩
    exact List.single_le_sum (fun _ _ => Nat.zero_le _) time (List.mem_filterMap.mpr ⟨input, member, read⟩)
  obtain ⟨now, passed⟩ := latest
  have tracked := (followed_final cfg started clock peer).tracked now passed
  refine ⟨tracked.inside, tracked.spaced, tracked.bounded, tracked.admitted_le, ?_⟩
  intro before other time after _ different s window stored running
  exact lookup_windows_other different stored running

namespace TwoPerMinute

def config : TurnBrokerConfig := { TurnBrokerConfig.standard with enabled := true, maxRequestsPerPeerPerMinute := 2 }

/-- Three calls of one peer with one of another in between, and a call in the next window. -/
def inputs : List (BrokerInput KeyPeer) :=
  [.answer ⟨1⟩ (secs 10), .answer ⟨2⟩ (secs 15), .answer ⟨1⟩ (secs 20), .answer ⟨1⟩ (secs 30), .answer ⟨1⟩ (secs 70)]

/-- **Two calls in a minute**, and the third is refused. -/
theorem third_refused : BrokerClocked inputs ∧
    (callLog ⟨1⟩ (TurnBrokerState.new KeyPeer config 0) inputs).map (fun call => (call.start, call.admitted))
      = [(secs 10, true), (secs 10, true), (secs 10, false), (secs 70, true)] ∧
    admittedIn (callLog ⟨1⟩ (TurnBrokerState.new KeyPeer config 0) inputs) (secs 10) ≤ 2 := by
  have clock : BrokerClocked inputs := by
    unfold BrokerClocked inputs
    simp [BrokerInput.time, secs]
  exact ⟨clock, by decide, (broker_rate_limit config 0 clock ⟨1⟩).2.2.1 (secs 10)⟩

end TwoPerMinute

/-! ### The size of the table -/

/-- The windows that are running. -/
def runningWindows (s : TurnBrokerState PeerId) (now : ℕ) : ℕ :=
  s.windows.entries.countP fun entry => RateWindow.isRunning rateWindow now entry.2

/-- The caller has a running window, or there is room for another one. -/
def RoomFor (s : TurnBrokerState PeerId) : BrokerInput PeerId → Prop
  | .answer peer now =>
    (∃ window, s.windows.lookup peer = some window ∧ RateWindow.isRunning rateWindow now window = true) ∨
      runningWindows s now < maxRateLimitedPeers
  | .maintain _ | .fetched .. | .addSource .. => True

theorem length_windows_answer (s : TurnBrokerState PeerId) (peer : PeerId) (now : ℕ) :
    (s.answer peer now).2.windows.entries.length
      = (s.pruned now).entries.length + if (s.pruned now).lookup peer = none then 1 else 0 := by
  rw [(s.answer_windows peer now).1]
  show ((s.pruned now).insert peer _).entries.length = _
  cases stored : (s.pruned now).lookup peer with
  | none => exact Table.length_insert_new _ stored
  | some window => exact Table.length_insert_old _ stored

theorem runningWindows_le (s : TurnBrokerState PeerId) (now : ℕ) :
    runningWindows s now ≤ s.windows.entries.length := List.countP_le_length

/-- **One more call** keeps the table within its bound exactly if there is room for it. -/
theorem windows_answer_le_iff {s : TurnBrokerState PeerId} (bounded : s.windows.entries.length ≤ maxRateLimitedPeers)
    (peer : PeerId) (now : ℕ) : (s.answer peer now).2.windows.entries.length ≤ maxRateLimitedPeers ↔
      RoomFor s (.answer peer now) := by
  rw [length_windows_answer]
  have running := runningWindows_le s now
  unfold RoomFor
  dsimp only
  by_cases full : s.windows.entries.length ≥ maxRateLimitedPeers
  · have pruned : s.pruned now = Table.retain (fun _ window => RateWindow.isRunning rateWindow now window) s.windows :=
      if_pos full
    have size : (s.pruned now).entries.length = runningWindows s now := by
      rw [pruned]
      exact List.countP_eq_length_filter.symm
    have found : (s.pruned now).lookup peer = (s.windows.lookup peer).filter (RateWindow.isRunning rateWindow now) := by
      rw [pruned]
      exact Table.lookup_retain _ _ _
    rw [size, found]
    cases kept : (s.windows.lookup peer).filter (RateWindow.isRunning rateWindow now) with
    | some window =>
      have own := Option.filter_eq_some_iff.mp kept
      exact iff_of_true (by simpa using running.trans bounded) (.inl ⟨window, own⟩)
    | none =>
      have absent : ¬ ∃ window, s.windows.lookup peer = some window ∧
          RateWindow.isRunning rateWindow now window = true := by
        rintro ⟨window, own⟩
        rw [Option.filter_eq_some_iff.mpr own] at kept
        exact nomatch kept
      rw [if_pos rfl, or_iff_right absent]
      omega
  · have pruned : s.pruned now = s.windows := if_neg full
    rw [pruned]
    refine iff_of_true ?_ (.inr (by omega))
    split_ifs
    · omega
    · omega

/-- **The table is bounded** in a run exactly if every call finds room. -/
theorem windows_bounded_iff (cfg : TurnBrokerConfig) (started : ℕ) (inputs : List (BrokerInput PeerId)) :
    (∀ count ≤ inputs.length, (final brokerStep (TurnBrokerState.new PeerId cfg started)
      (inputs.take count)).windows.entries.length ≤ maxRateLimitedPeers) ↔
    ∀ (count : ℕ) (input : BrokerInput PeerId), inputs[count]? = some input →
      RoomFor (final brokerStep (TurnBrokerState.new PeerId cfg started) (inputs.take count)) input := by
  refine always_iff_each brokerStep (fun _ => True)
    (fun s : TurnBrokerState PeerId => s.windows.entries.length ≤ maxRateLimitedPeers) RoomFor inputs
    (fun _ => trivial) ?_ ?_
  · rw [(new_windows cfg started).1]
    exact Nat.zero_le _
  · intro s input _ _ bounded
    cases input with
    | answer peer now => exact windows_answer_le_iff bounded peer now
    | maintain now => exact iff_of_true bounded trivial
    | fetched place result => exact iff_of_true bounded trivial
    | addSource provider now => exact iff_of_true bounded trivial

/-! ### Many callers -/

namespace ManyCallers

variable (caller : ℕ → PeerId)

/-- A call of each of the first peers, all at one time. -/
def calls (now count : ℕ) : List (BrokerInput PeerId) := (List.range count).map fun place => .answer (caller place) now

/-- Nothing is removed while all windows are running. -/
theorem pruned_eq_self {s : TurnBrokerState PeerId} {now : ℕ}
    (running : ∀ peer window, s.windows.lookup peer = some window → window.start = now) : s.pruned now = s.windows := by
  unfold pruned
  split_ifs
  · apply AList.ext
    refine List.filter_eq_self.mpr fun entry member => ?_
    have start := running entry.1 entry.2 (Table.mem_entries_iff.mp member)
    have positive : 0 < rateWindow := by decide
    show decide (now - entry.2.start < rateWindow) = true
    rw [start, Nat.sub_self, decide_eq_true_eq]
    exact positive
  · rfl

/-- **Every caller gets a window.** -/
theorem windows_calls {caller : ℕ → PeerId} {bound : ℕ} (different : Set.InjOn caller (Set.Iio bound))
    (cfg : TurnBrokerConfig) (started now : ℕ) {count : ℕ} (within : count ≤ bound) :
    let s := final brokerStep (TurnBrokerState.new PeerId cfg started) (calls caller now count)
    s.windows.entries.length = count ∧ (∀ peer window, s.windows.lookup peer = some window → window.start = now) ∧
      ∀ place < bound, count ≤ place → s.windows.lookup (caller place) = none := by
  have empty : (TurnBrokerState.new PeerId cfg started).windows = ∅ := (new_windows cfg started).1
  induction count with
  | zero =>
    intro s
    have nothing : s.windows = ∅ := empty
    rw [nothing]
    refine ⟨rfl, ?_, fun _ _ _ => rfl⟩
    intro peer window stored
    exact nomatch stored
  | succ count ih =>
    have last : calls caller now (count + 1) = calls caller now count ++ [.answer (caller count) now] := by
      unfold calls
      rw [List.range_succ, List.map_append, List.map_singleton]
    rw [last, final_concat]
    have before := ih (Nat.le_of_succ_le within)
    generalize final brokerStep (TurnBrokerState.new PeerId cfg started) (calls caller now count) = s at before
    obtain ⟨size, starts, absent⟩ := before
    have kept := pruned_eq_self starts
    have unknown := absent count within le_rfl
    show (s.answer (caller count) now).2.windows.entries.length = count + 1 ∧
      (∀ peer window, (s.answer (caller count) now).2.windows.lookup peer = some window → window.start = now) ∧
      ∀ place < bound, count + 1 ≤ place → (s.answer (caller count) now).2.windows.lookup (caller place) = none
    refine ⟨?_, ?_, ?_⟩
    · rw [length_windows_answer, kept, unknown, size]
      rfl
    · intro peer window stored
      rw [lookup_windows_answer, kept] at stored
      split_ifs at stored with mine
      · obtain rfl := Option.some.inj stored
        rw [mine, unknown, admit_start]
        rfl
      · exact starts peer window stored
    · intro place inside later
      have other : caller place ≠ caller count := fun same => (Nat.lt_of_succ_le later).ne' (different inside within same)
      rw [lookup_windows_answer, if_neg other, kept]
      exact absent place inside (Nat.le_of_succ_le later)

/-- Peers by their Ed25519 keys: the key is the number in 32 bytes. -/
def keyOf (number : ℕ) : ByteArrayOf 32 := ⟨BigEndian.write 32 number, BigEndian.length_write 32 number⟩

theorem keyOf_injOn : Set.InjOn keyOf (Set.Iio 4097) := by
  intro first one second two same
  have numbers := congrArg (fun key : ByteArrayOf 32 => BigEndian.read key.toList) same
  change BigEndian.read (BigEndian.write 32 first) = BigEndian.read (BigEndian.write 32 second) at numbers
  have small : 4097 < 256 ^ 32 := by norm_num
  rwa [BigEndian.read_write, BigEndian.read_write, Nat.mod_eq_of_lt (lt_trans one small),
    Nat.mod_eq_of_lt (lt_trans two small)] at numbers

/-- **A table that is too large**: a call of each of 4097 peers at one time. -/
theorem table_too_large : (final brokerStep (TurnBrokerState.new (ByteArrayOf 32) TurnBrokerConfig.standard 0)
    (calls keyOf (secs 10) 4097)).windows.entries.length = 4097 ∧ maxRateLimitedPeers < 4097 :=
  ⟨(windows_calls keyOf_injOn TurnBrokerConfig.standard 0 (secs 10) le_rfl).1, by decide⟩

end ManyCallers

end P2pNet.Connectivity.Turn
