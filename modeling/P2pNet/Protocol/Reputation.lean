/-
**Peer reputation** (`crates/protocol/reputation.rs`).

Entries are kept by peer, together with an ordered index of their last updates that serves to forget the oldest entry when
there are too many. A tick moves the scores of inactive peers towards 0 and forgets neutral peers after ten intervals.

* `reputation_index` — in every run the index is exactly that of the entries, there are at most as many as allowed, and
  what is forgotten for room is the least entry of the index;
* `tickDecay_exact` — what a tick makes of every entry, in whatever order the entries are visited.
-/

import P2pNet.Lib.Run
import P2pNet.Lib.OrderedSet
import P2pNet.Lib.Table
import P2pNet.Protocol.MessageSecurity

namespace P2pNet.Protocol

open Lib

/-- A reading of the monotonic clock: nanoseconds of a `timespec`, whose seconds are an `i64`. -/
abbrev ClockReading := { nanos : ℕ // nanos < 2 ^ 63 * 10 ^ 9 }

/-- `duration_since`. -/
def ClockReading.since (now earlier : ClockReading) : ℕ := now.val - earlier.val

/-- `Duration::MAX`. -/
def durationMax : ℕ := 2 ^ 64 * 10 ^ 9 - 1

structure ReputationEntry where
  score : Int32
  invalid : UInt64
  accepted : UInt64
  duplicateIgnored : UInt64
  lastUpdated : ClockReading

def neutralRetentionIntervals : ℕ := 10

/-- A result that stops at the ends of `i32`. -/
def saturating (exact : ℤ) : Int32 := Int32.ofInt (max (-2 ^ 31) (min exact (2 ^ 31 - 1)))

/-- `saturating_add(1)` of a counter. -/
def countOnce (count : UInt64) : UInt64 := if count.toNat + 1 < 2 ^ 64 then count + 1 else count

structure ReputationStore (PeerId : Type) [LinearOrder PeerId] where
  byPeer : Table PeerId ReputationEntry
  ageOrder : Finset (ClockReading ×ₗ PeerId)
  cfg : ReputationConfig
  maxPeers : ℕ

/-- The keys of a hash map in the order of an iteration. -/
abbrev Iteration {PeerId V : Type} [DecidableEq PeerId] (table : Table PeerId V) :=
  { keys : List PeerId // keys.Perm table.keys }

namespace ReputationStore

variable {PeerId : Type} [LinearOrder PeerId]

def withCapacity (cfg : ReputationConfig) (maxPeers : ℕ) : ReputationStore PeerId where
  byPeer := ∅
  ageOrder := ∅
  cfg
  maxPeers := max maxPeers 1

/-- The loop of `enforce_capacity`; a round takes one element from the index. -/
def enforceCapacityLoop : ℕ → ReputationStore PeerId → ReputationStore PeerId
  | 0, s => s
  | rounds + 1, s =>
    if s.byPeer.entries.length > s.maxPeers then
      match first? s.ageOrder with
      | none => s
      | some oldest =>
        enforceCapacityLoop rounds { s with
          ageOrder := s.ageOrder.erase oldest
          byPeer := s.byPeer.erase (ofLex oldest).2 }
    else s

def enforceCapacity (s : ReputationStore PeerId) : ReputationStore PeerId := enforceCapacityLoop s.ageOrder.card s

/-- `update_peer` before it enforces the capacity. -/
def updated (s : ReputationStore PeerId) (peer : PeerId) (update : ReputationEntry → ReputationEntry)
    (now : ClockReading) : ReputationStore PeerId :=
  match s.byPeer.lookup peer with
  | some entry =>
    { s with
      byPeer := s.byPeer.insert peer { update entry with lastUpdated := now }
      ageOrder := insert (toLex (now, peer)) (s.ageOrder.erase (toLex (entry.lastUpdated, peer))) }
  | none =>
    { s with
      byPeer := s.byPeer.insert peer (update ⟨0, 0, 0, 0, now⟩)
      ageOrder := insert (toLex (now, peer)) s.ageOrder }

def updatePeer (s : ReputationStore PeerId) (peer : PeerId) (update : ReputationEntry → ReputationEntry)
    (now : ClockReading) : ReputationStore PeerId :=
  (s.updated peer update now).enforceCapacity

/-- What the three reports do to an entry. -/
inductive Report
  | accept
  | penalizeInvalid
  | ignoreDuplicate

def Report.update (cfg : ReputationConfig) (entry : ReputationEntry) : Report → ReputationEntry
  | .accept =>
    { entry with
      accepted := countOnce entry.accepted
      score := saturating (entry.score.toInt + cfg.acceptReward.toInt) }
  | .penalizeInvalid =>
    { entry with
      invalid := countOnce entry.invalid
      score := saturating (entry.score.toInt - cfg.invalidPenalty.toInt) }
  | .ignoreDuplicate => { entry with duplicateIgnored := countOnce entry.duplicateIgnored }

def report (s : ReputationStore PeerId) (peer : PeerId) (kind : Report) (now : ClockReading) : ReputationStore PeerId :=
  s.updatePeer peer (fun entry => kind.update s.cfg entry) now

def accept (s : ReputationStore PeerId) (peer : PeerId) (now : ClockReading) : ReputationStore PeerId :=
  s.report peer .accept now

def penalizeInvalid (s : ReputationStore PeerId) (peer : PeerId) (now : ClockReading) : ReputationStore PeerId :=
  s.report peer .penalizeInvalid now

def ignoreDuplicate (s : ReputationStore PeerId) (peer : PeerId) (now : ClockReading) : ReputationStore PeerId :=
  s.report peer .ignoreDuplicate now

def removePeer (s : ReputationStore PeerId) (peer : PeerId) : ReputationStore PeerId :=
  match s.byPeer.lookup peer with
  | none => s
  | some entry =>
    { s with
      byPeer := s.byPeer.erase peer
      ageOrder := s.ageOrder.erase (toLex (entry.lastUpdated, peer)) }

def interval (cfg : ReputationConfig) : ℕ := max cfg.decayIntervalSecs.toNat 1 * 10 ^ 9

/-- `checked_mul`, or the longest duration. -/
def neutralRetention (cfg : ReputationConfig) : ℕ :=
  if interval cfg * neutralRetentionIntervals ≤ durationMax then interval cfg * neutralRetentionIntervals else durationMax

def decayed (cfg : ReputationConfig) (score : Int32) : Int32 :=
  let step := max cfg.decayStep 1
  if score < 0 then min (saturating (score.toInt + step.toInt)) 0 else max (saturating (score.toInt - step.toInt)) 0

/-- The round of `tick_decay` for a peer. -/
def decayPeer (now : ClockReading) (s : ReputationStore PeerId) (peer : PeerId) : ReputationStore PeerId :=
  match s.byPeer.lookup peer with
  | none => s
  | some entry =>
    let age := now.since entry.lastUpdated
    if entry.score = 0 ∧ age ≥ neutralRetention s.cfg then s.removePeer peer
    else if entry.score = 0 ∨ age < interval s.cfg then s
    else
      { s with
        byPeer := s.byPeer.insert peer { entry with score := decayed s.cfg entry.score, lastUpdated := now }
        ageOrder := insert (toLex (now, peer)) (s.ageOrder.erase (toLex (entry.lastUpdated, peer))) }

def tickDecay (s : ReputationStore PeerId) (now : ClockReading) (peers : Iteration s.byPeer) : ReputationStore PeerId :=
  peers.val.foldl (decayPeer now) s

/-! ### The index -/

/-- The index has the last update of every entry, and nothing else. -/
def Indexed (s : ReputationStore PeerId) : Prop :=
  ∀ time peer, toLex (time, peer) ∈ s.ageOrder ↔ (s.byPeer.lookup peer).map ReputationEntry.lastUpdated = some time

/-- An entry that is updated at a new time. -/
theorem Indexed.replace {s : ReputationStore PeerId} (indexed : Indexed s) {peer : PeerId} {entry : ReputationEntry}
    (stored : s.byPeer.lookup peer = some entry) (fresh : ReputationEntry) :
    Indexed { s with
      byPeer := s.byPeer.insert peer fresh
      ageOrder := insert (toLex (fresh.lastUpdated, peer)) (s.ageOrder.erase (toLex (entry.lastUpdated, peer))) } := by
  intro time other
  simp only [Finset.mem_insert, Finset.mem_erase, Table.lookup_insert_eq, indexed time other, toLex_inj, Prod.mk.injEq]
  by_cases same : other = peer
  · subst same
    simp only [stored, Option.map_some, Option.some.injEq, if_true, and_true]
    grind
  · simp [same]

theorem Indexed.add {s : ReputationStore PeerId} (indexed : Indexed s) {peer : PeerId}
    (absent : s.byPeer.lookup peer = none) (fresh : ReputationEntry) :
    Indexed { s with
      byPeer := s.byPeer.insert peer fresh
      ageOrder := insert (toLex (fresh.lastUpdated, peer)) s.ageOrder } := by
  intro time other
  simp only [Finset.mem_insert, Table.lookup_insert_eq, indexed time other, toLex_inj, Prod.mk.injEq]
  by_cases same : other = peer
  · subst same
    simp [absent, eq_comm]
  · simp [same]

theorem Indexed.remove {s : ReputationStore PeerId} (indexed : Indexed s) {peer : PeerId} {entry : ReputationEntry}
    (stored : s.byPeer.lookup peer = some entry) :
    Indexed { s with
      byPeer := s.byPeer.erase peer
      ageOrder := s.ageOrder.erase (toLex (entry.lastUpdated, peer)) } := by
  intro time other
  simp only [Finset.mem_erase, Table.lookup_erase_eq, indexed time other, ne_eq, toLex_inj, Prod.mk.injEq]
  by_cases same : other = peer
  · subst same
    simp only [stored, Option.map_some, Option.some.injEq, if_true, and_true]
    grind
  · simp [same]

/-! ### Room for a new entry -/

theorem length_erase {table : Table PeerId ReputationEntry} {peer : PeerId} {entry : ReputationEntry}
    (stored : table.lookup peer = some entry) : table.entries.length = (table.erase peer).entries.length + 1 := by
  have count := Table.total_erase (fun _ _ => 1) stored
  rwa [← Table.length_eq_total, ← Table.length_eq_total, add_comm] at count

theorem enforceCapacityLoop_fits {s : ReputationStore PeerId} (fits : s.byPeer.entries.length ≤ s.maxPeers)
    (rounds : ℕ) : enforceCapacityLoop rounds s = s := by
  cases rounds with
  | zero => rfl
  | succ rounds => rw [enforceCapacityLoop, if_neg (not_lt.mpr fits)]

/-- **What is forgotten for room** is the entry with the least update. -/
theorem enforceCapacity_cases {s : ReputationStore PeerId} (indexed : Indexed s)
    (few : s.byPeer.entries.length ≤ s.maxPeers + 1) :
    (s.byPeer.entries.length ≤ s.maxPeers ∧ s.enforceCapacity = s) ∨
    ∃ peer entry, s.byPeer.lookup peer = some entry ∧ s.byPeer.entries.length = s.maxPeers + 1 ∧
      (∀ other old, s.byPeer.lookup other = some old →
        toLex (entry.lastUpdated, peer) ≤ toLex (old.lastUpdated, other)) ∧
      s.enforceCapacity = { s with
        byPeer := s.byPeer.erase peer
        ageOrder := s.ageOrder.erase (toLex (entry.lastUpdated, peer)) } := by
  by_cases fits : s.byPeer.entries.length ≤ s.maxPeers
  · exact .inl ⟨fits, enforceCapacityLoop_fits fits _⟩
  have full : s.byPeer.entries.length = s.maxPeers + 1 := by omega
  obtain ⟨⟨known, first⟩, inside⟩ := List.exists_mem_of_length_pos (by omega : 0 < s.byPeer.entries.length)
  have member : toLex (first.lastUpdated, known) ∈ s.ageOrder := by
    rw [indexed, Table.mem_entries_iff.mp inside]
    rfl
  obtain ⟨rounds, count⟩ := Nat.exists_eq_succ_of_ne_zero (Finset.card_ne_zero_of_mem member)
  cases taken : first? s.ageOrder with
  | none =>
    rw [(first?_eq_none_iff _).mp taken] at member
    exact absurd member (Finset.notMem_empty _)
  | some oldest =>
    obtain ⟨listed, least⟩ := (first?_eq_some_iff _ _).mp taken
    obtain ⟨entry, stored, time⟩ := Option.map_eq_some_iff.mp ((indexed (ofLex oldest).1 (ofLex oldest).2).mp listed)
    have pair : toLex (entry.lastUpdated, (ofLex oldest).2) = oldest := by
      rw [time]
      rfl
    refine .inr ⟨(ofLex oldest).2, entry, stored, full, fun other old found => ?_, ?_⟩
    · rw [pair]
      apply least
      rw [indexed, found]
      rfl
    · rw [enforceCapacity, count, enforceCapacityLoop, if_pos (not_le.mp fits), pair]
      simp only [taken]
      apply enforceCapacityLoop_fits
      have shorter := length_erase stored
      show (s.byPeer.erase (ofLex oldest).2).entries.length ≤ s.maxPeers
      omega

/-- The index is right and there are not too many entries. -/
structure Sound (maxPeers : ℕ) (s : ReputationStore PeerId) : Prop where
  indexed : Indexed s
  capacity : s.maxPeers = maxPeers
  bounded : s.byPeer.entries.length ≤ maxPeers

theorem updated_spec {maxPeers : ℕ} {s : ReputationStore PeerId} (sound : Sound maxPeers s) (peer : PeerId)
    (kind : Report) (now : ClockReading) :
    Indexed (s.updated peer (fun entry => kind.update s.cfg entry) now) ∧
      (s.updated peer (fun entry => kind.update s.cfg entry) now).byPeer.entries.length ≤ maxPeers + 1 ∧
      (s.updated peer (fun entry => kind.update s.cfg entry) now).maxPeers = maxPeers := by
  have bounded := sound.bounded
  unfold updated
  cases stored : s.byPeer.lookup peer with
  | some entry =>
    refine ⟨sound.indexed.replace stored _, ?_, sound.capacity⟩
    rw [Table.length_insert_old _ stored]
    omega
  | none =>
    have time : (kind.update s.cfg ⟨0, 0, 0, 0, now⟩).lastUpdated = now := by cases kind <;> rfl
    have added := sound.indexed.add stored (kind.update s.cfg ⟨0, 0, 0, 0, now⟩)
    rw [time] at added
    refine ⟨added, ?_, sound.capacity⟩
    rw [Table.length_insert_new _ stored]
    omega

/-- **A report** updates the peer, and forgets the least entry if there are too many. -/
theorem report_cases {maxPeers : ℕ} {s : ReputationStore PeerId} (sound : Sound maxPeers s) (peer : PeerId)
    (kind : Report) (now : ClockReading) :
    let updated := s.updated peer (fun entry => kind.update s.cfg entry) now
    Sound maxPeers (s.report peer kind now) ∧
    ((s.report peer kind now).byPeer = updated.byPeer ∨
      ∃ gone entry, updated.byPeer.lookup gone = some entry ∧ maxPeers < updated.byPeer.entries.length ∧
        (∀ other old, updated.byPeer.lookup other = some old →
          toLex (entry.lastUpdated, gone) ≤ toLex (old.lastUpdated, other)) ∧
        (s.report peer kind now).byPeer = updated.byPeer.erase gone) := by
  intro updated
  obtain ⟨indexed, few, capacity⟩ : Indexed updated ∧ updated.byPeer.entries.length ≤ maxPeers + 1 ∧
    updated.maxPeers = maxPeers := updated_spec sound peer kind now
  have reported : s.report peer kind now = updated.enforceCapacity := rfl
  rw [reported]
  rcases enforceCapacity_cases indexed (by omega) with ⟨fits, same⟩ | ⟨gone, entry, stored, full, least, result⟩
  · rw [same]
    exact ⟨⟨indexed, capacity, by omega⟩, .inl rfl⟩
  · rw [result]
    have shorter := length_erase stored
    refine ⟨⟨indexed.remove stored, capacity, ?_⟩, .inr ⟨gone, entry, stored, by omega, least, rfl⟩⟩
    show (updated.byPeer.erase gone).entries.length ≤ maxPeers
    omega

/-! ### Decay -/

/-- A score moved towards 0, and not past it. -/
def towardsZero (step score : ℤ) : ℤ := score - score.sign * min step |score|

/-- What a tick makes of an entry. -/
def decayEntry (cfg : ReputationConfig) (now : ClockReading) (entry : ReputationEntry) : Option ReputationEntry :=
  if entry.score = 0 ∧ now.since entry.lastUpdated ≥ neutralRetention cfg then none
  else if entry.score = 0 ∨ now.since entry.lastUpdated < interval cfg then some entry
  else some { entry with score := decayed cfg entry.score, lastUpdated := now }

theorem saturating_exact {exact : ℤ} (low : -2 ^ 31 ≤ exact) (high : exact < 2 ^ 31) :
    (saturating exact).toInt = exact := by
  have inside : max (-2 ^ 31) (min exact (2 ^ 31 - 1)) = exact := by omega
  rw [saturating, inside, Int32.toInt_ofInt_of_le low high]

theorem toInt_max (first second : Int32) : (max first second).toInt = max first.toInt second.toInt := by
  show (if first ≤ second then second else first).toInt = _
  rw [max_def, apply_ite Int32.toInt]
  simp only [Int32.le_iff_toInt_le]

theorem toInt_min (first second : Int32) : (min first second).toInt = min first.toInt second.toInt := by
  show (if first ≤ second then first else second).toInt = _
  rw [min_def, apply_ite Int32.toInt]
  simp only [Int32.le_iff_toInt_le]

/-- **The arithmetic of a decay is exact**: no end of `i32` is reached. -/
theorem decayed_toInt (cfg : ReputationConfig) (score : Int32) :
    (decayed cfg score).toInt = towardsZero (max cfg.decayStep 1).toInt score.toInt := by
  have step : 1 ≤ (max cfg.decayStep 1).toInt := by
    rw [toInt_max]
    exact le_max_right _ _
  have stepHigh := (max cfg.decayStep 1).toInt_lt
  have low := score.le_toInt
  have high := score.toInt_lt
  have zero : (0 : Int32).toInt = 0 := rfl
  unfold decayed towardsZero
  by_cases negative : score < 0
  · rw [if_pos negative, toInt_min, saturating_exact, zero]
    · rw [Int32.lt_iff_toInt_lt, zero] at negative
      rw [Int.sign_eq_neg_one_of_neg negative, abs_of_neg negative]
      omega
    all_goals rw [Int32.lt_iff_toInt_lt, zero] at negative; omega
  · rw [if_neg negative, toInt_max, saturating_exact, zero]
    · rw [Int32.lt_iff_toInt_lt, zero, not_lt] at negative
      rw [abs_of_nonneg negative]
      rcases negative.eq_or_lt with none | positive
      · rw [← none]
        simp only [Int.sign_zero]
        omega
      · rw [Int.sign_eq_one_of_pos positive]
        omega
    all_goals rw [Int32.lt_iff_toInt_lt, zero] at negative; omega

/-- A round changes its peer only. -/
theorem lookup_decayPeer (now : ClockReading) (s : ReputationStore PeerId) (peer other : PeerId) :
    (decayPeer now s peer).cfg = s.cfg ∧ (decayPeer now s peer).byPeer.lookup other
      = if other = peer then (s.byPeer.lookup other).bind (decayEntry s.cfg now) else s.byPeer.lookup other := by
  unfold decayPeer
  cases stored : s.byPeer.lookup peer with
  | none =>
    refine ⟨rfl, ?_⟩
    by_cases same : other = peer
    · subst same
      simp [stored]
    · simp [same]
  | some entry =>
    simp only [removePeer, stored]
    by_cases same : other = peer
    · subst same
      simp only [stored, if_true, Option.bind_some, decayEntry]
      by_cases neutral : entry.score = 0 ∧ now.since entry.lastUpdated ≥ neutralRetention s.cfg
      · simp [neutral]
      by_cases still : entry.score = 0 ∨ now.since entry.lastUpdated < interval s.cfg
      · simp [neutral, still, stored]
      · simp [neutral, still]
    · simp only [if_neg same]
      split_ifs <;> simp [same]

/-- The loop visits every peer once. -/
theorem lookup_decayLoop (now : ClockReading) (peers : List PeerId) (distinct : peers.Nodup)
    (s : ReputationStore PeerId) (peer : PeerId) : (peers.foldl (decayPeer now) s).byPeer.lookup peer
      = if peer ∈ peers then (s.byPeer.lookup peer).bind (decayEntry s.cfg now) else s.byPeer.lookup peer := by
  induction peers generalizing s with
  | nil => rfl
  | cons first rest ih =>
    obtain ⟨later, distinct⟩ := List.nodup_cons.mp distinct
    obtain ⟨same, found⟩ := lookup_decayPeer now s first peer
    rw [List.foldl_cons, ih distinct, same, found]
    by_cases here : peer = first
    · subst here
      simp [later]
    · simp [here]

/-- **A tick decides every entry by itself**, in whatever order the map is iterated. -/
theorem lookup_tickDecay (s : ReputationStore PeerId) (now : ClockReading) (peers : Iteration s.byPeer) (peer : PeerId) :
    (s.tickDecay now peers).byPeer.lookup peer = (s.byPeer.lookup peer).bind (decayEntry s.cfg now) := by
  have distinct : peers.val.Nodup := peers.property.nodup_iff.mpr s.byPeer.keys_nodup
  have visited : peer ∈ peers.val ↔ peer ∈ s.byPeer := peers.property.mem_iff.trans AList.mem_keys.symm
  rw [tickDecay, lookup_decayLoop now peers.val distinct]
  by_cases stored : peer ∈ s.byPeer
  · rw [if_pos (visited.mpr stored)]
  · rw [if_neg fun listed => stored (visited.mp listed), AList.lookup_eq_none.mpr stored]
    rfl

/-- An age reaches the retention when it reaches ten intervals, also where ten intervals are no duration. -/
theorem neutralRetention_le_iff (cfg : ReputationConfig) (now earlier : ClockReading) :
    neutralRetention cfg ≤ now.since earlier ↔ 10 * interval cfg ≤ now.since earlier := by
  have reading := now.property
  unfold neutralRetention ClockReading.since neutralRetentionIntervals durationMax
  split_ifs <;> omega

/-- **What a tick does.** An entry is removed exactly if its score is 0 and ten intervals have passed. The score of any
other entry moves towards 0 by the step if an interval has passed, with exact arithmetic; its counters stay. -/
theorem tickDecay_exact (s : ReputationStore PeerId) (now : ClockReading) (peers : Iteration s.byPeer) (peer : PeerId) :
    ((s.tickDecay now peers).byPeer.lookup peer = none ↔ ∀ entry, s.byPeer.lookup peer = some entry →
      entry.score = 0 ∧ 10 * interval s.cfg ≤ now.since entry.lastUpdated) ∧
    ∀ entry after, s.byPeer.lookup peer = some entry → (s.tickDecay now peers).byPeer.lookup peer = some after →
      after.score.toInt = (if interval s.cfg ≤ now.since entry.lastUpdated
        then towardsZero (max s.cfg.decayStep 1).toInt entry.score.toInt else entry.score.toInt) ∧
      after.invalid = entry.invalid ∧ after.accepted = entry.accepted ∧
      after.duplicateIgnored = entry.duplicateIgnored := by
  rw [lookup_tickDecay]
  cases stored : s.byPeer.lookup peer with
  | none => simp
  | some entry =>
    simp only [Option.bind_some, Option.some.injEq, forall_eq', decayEntry, ge_iff_le, neutralRetention_le_iff]
    by_cases neutral : entry.score = 0 ∧ 10 * interval s.cfg ≤ now.since entry.lastUpdated
    · simp [neutral]
    rw [if_neg neutral]
    by_cases still : entry.score = 0 ∨ now.since entry.lastUpdated < interval s.cfg
    · rw [if_pos still]
      refine ⟨by simpa using neutral, ?_⟩
      rintro _ after rfl found
      rw [← Option.some.inj found]
      refine ⟨?_, rfl, rfl, rfl⟩
      rcases still with zero | young
      · have none : (0 : Int32).toInt = 0 := rfl
        rw [zero, none]
        simp [towardsZero]
      · rw [if_neg (not_le.mpr young)]
    · rw [if_neg still]
      rw [not_or, not_lt] at still
      refine ⟨by simpa using neutral, ?_⟩
      rintro _ after rfl found
      rw [← Option.some.inj found]
      exact ⟨by rw [if_pos still.2, decayed_toInt], rfl, rfl, rfl⟩

/-- **Decay is not sped up.** Of two ticks that are less than an interval apart, in whatever orders they iterate, at most
one changes the entry of a peer. -/
theorem tickDecay_paced (s : ReputationStore PeerId) (now later : ClockReading) (peers : Iteration s.byPeer)
    (again : Iteration (s.tickDecay now peers).byPeer) (peer : PeerId) :
    let first := (s.tickDecay now peers).byPeer.lookup peer
    interval s.cfg ≤ later.since now ∨ first = s.byPeer.lookup peer ∨
      ((s.tickDecay now peers).tickDecay later again).byPeer.lookup peer = first := by
  have same : ∀ (list : List PeerId) s, (list.foldl (decayPeer now) s).cfg = s.cfg := by
    intro list
    induction list with
    | nil => exact fun _ => rfl
    | cons first rest ih => exact fun s => (ih _).trans (lookup_decayPeer now s first first).1
  have cfg : (s.tickDecay now peers).cfg = s.cfg := same peers.val s
  simp only [lookup_tickDecay, cfg]
  cases s.byPeer.lookup peer with
  | none => exact .inr (.inl rfl)
  | some entry =>
    simp only [Option.bind_some, decayEntry, ge_iff_le, neutralRetention_le_iff]
    split_ifs <;> grind

/-! ### Runs -/

theorem decayPeer_sound {maxPeers : ℕ} {s : ReputationStore PeerId} (sound : Sound maxPeers s) (now : ClockReading)
    (peer : PeerId) : Sound maxPeers (decayPeer now s peer) := by
  have bounded := sound.bounded
  unfold decayPeer
  cases stored : s.byPeer.lookup peer with
  | none => exact sound
  | some entry =>
    simp only [removePeer, stored]
    split_ifs
    · have shorter := length_erase stored
      refine ⟨sound.indexed.remove stored, sound.capacity, ?_⟩
      show (s.byPeer.erase peer).entries.length ≤ maxPeers
      omega
    · exact sound
    · refine ⟨sound.indexed.replace stored _, sound.capacity, ?_⟩
      rw [Table.length_insert_old _ stored]
      exact bounded

/-- A call: a tick iterates over the map in an order of its own. -/
inductive Call (PeerId : Type) [DecidableEq PeerId]
  | report (peer : PeerId) (kind : Report) (now : ClockReading)
  | tickDecay (now : ClockReading) (iterate : (table : Table PeerId ReputationEntry) → Iteration table)

def step (s : ReputationStore PeerId) : Call PeerId → Unit × ReputationStore PeerId
  | .report peer kind now => ((), s.report peer kind now)
  | .tickDecay now iterate => ((), s.tickDecay now (iterate s.byPeer))

theorem step_sound {maxPeers : ℕ} {s : ReputationStore PeerId} (sound : Sound maxPeers s) (call : Call PeerId) :
    Sound maxPeers (s.step call).2 := by
  cases call with
  | report peer kind now => exact (report_cases sound peer kind now).1
  | tickDecay now iterate =>
    show Sound maxPeers ((iterate s.byPeer).val.foldl (decayPeer now) s)
    generalize (iterate s.byPeer).val = peers
    induction peers generalizing s with
    | nil => exact sound
    | cons first rest ih => exact ih (decayPeer_sound sound now first)

theorem sound_final {maxPeers : ℕ} {s : ReputationStore PeerId} (sound : Sound maxPeers s) (calls : List (Call PeerId)) :
    Sound maxPeers (final step s calls) := by
  induction calls generalizing s with
  | nil => exact sound
  | cons call rest ih => exact ih (step_sound sound call)

/-- **The store and its index agree and are bounded.** After every run the index is that of the entries and there are at
most `max maxPeers 1` of them. A report that makes one too many forgets the entry with the least update and peer; a tick
keeps every entry whose score is not 0. -/
theorem reputation_index (cfg : ReputationConfig) (maxPeers : ℕ) (calls : List (Call PeerId)) :
    let s := final step (withCapacity cfg maxPeers : ReputationStore PeerId) calls
    (∀ time peer, toLex (time, peer) ∈ s.ageOrder ↔
      (s.byPeer.lookup peer).map ReputationEntry.lastUpdated = some time) ∧
    s.byPeer.entries.length ≤ max maxPeers 1 ∧
    (∀ peer kind now, let updated := s.updated peer (fun entry => Report.update s.cfg entry kind) now
      (s.report peer kind now).byPeer = updated.byPeer ∨
      ∃ gone entry, updated.byPeer.lookup gone = some entry ∧ max maxPeers 1 < updated.byPeer.entries.length ∧
        (∀ other old, updated.byPeer.lookup other = some old →
          toLex (entry.lastUpdated, gone) ≤ toLex (old.lastUpdated, other)) ∧
        (s.report peer kind now).byPeer = updated.byPeer.erase gone) ∧
    ∀ now (peers : Iteration s.byPeer) peer entry, s.byPeer.lookup peer = some entry → entry.score ≠ 0 →
      peer ∈ (s.tickDecay now peers).byPeer := by
  intro s
  have initial : Sound (max maxPeers 1) (withCapacity cfg maxPeers : ReputationStore PeerId) := by
    refine ⟨fun time peer => ?_, rfl, Nat.zero_le _⟩
    simp [withCapacity]
  have sound : Sound (max maxPeers 1) s := sound_final initial calls
  refine ⟨sound.indexed, sound.bounded, fun peer kind now => (report_cases sound peer kind now).2, ?_⟩
  intro now peers peer entry stored score
  rw [← AList.lookup_isSome, lookup_tickDecay, stored, Option.bind_some, decayEntry, if_neg fun neutral => score neutral.1]
  split <;> rfl

end ReputationStore

end P2pNet.Protocol
