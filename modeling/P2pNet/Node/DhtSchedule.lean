/-
**When the DHT is asked again** (`DhtRefreshSchedule` of `crates/node/runtime/dht_schedule.rs`).

The refreshes of a fresh node follow 5, 15, 30 and 60 seconds after one another and then keep a steady interval. An event
that calls for new peers moves the next one forward, but never closer than 5 seconds to the last one, and has no effect on
the delays that follow. `refresh_pacing` says so for every interleaving.
-/

import P2pNet.Lib.Run

namespace P2pNet.Node

open Lib

def dhtStartupBackoffSecs : List ℕ := [5, 15, 30, 60]

def dhtEventRefreshMinGapSecs : ℕ := 5

/-- Durations and instants are in nanoseconds. -/
structure DhtRefreshSchedule where
  startupIndex : ℕ
  steadyInterval : ℕ
  lastRefresh : ℕ
  nextDue : ℕ
  eventRefreshPending : Bool
  deriving DecidableEq

namespace DhtRefreshSchedule

def secs (count : ℕ) : ℕ := count * 10 ^ 9

def new (steadyIntervalSecs : UInt64) (now : ℕ) : DhtRefreshSchedule where
  startupIndex := 0
  steadyInterval := secs (max steadyIntervalSecs.toNat 1)
  lastRefresh := now
  nextDue := now + secs (dhtStartupBackoffSecs.headD 0)
  eventRefreshPending := false

def recordRefresh (s : DhtRefreshSchedule) (now : ℕ) : DhtRefreshSchedule :=
  let startupIndex := if s.startupIndex < dhtStartupBackoffSecs.length then s.startupIndex + 1 else s.startupIndex
  let nextDelay := (dhtStartupBackoffSecs[startupIndex]?.map secs).getD s.steadyInterval
  { s with startupIndex, lastRefresh := now, nextDue := now + nextDelay, eventRefreshPending := false }

def requestEventRefresh (s : DhtRefreshSchedule) (now : ℕ) : Bool × DhtRefreshSchedule :=
  let earliest := s.lastRefresh + secs dhtEventRefreshMinGapSecs
  let requested := max now earliest
  if requested < s.nextDue then (true, { s with nextDue := requested, eventRefreshPending := true }) else (false, s)

def requestConnectivityRecoveryRefresh (s : DhtRefreshSchedule) (now : ℕ) : Bool × DhtRefreshSchedule :=
  s.requestEventRefresh now

inductive Call
  | recordRefresh (now : ℕ)
  | requestEventRefresh (now : ℕ)
  | requestConnectivityRecoveryRefresh (now : ℕ)

def step (s : DhtRefreshSchedule) : Call → Bool × DhtRefreshSchedule
  | .recordRefresh now => (false, s.recordRefresh now)
  | .requestEventRefresh now => s.requestEventRefresh now
  | .requestConnectivityRecoveryRefresh now => s.requestConnectivityRecoveryRefresh now

/-! ### The delays -/

/-- The time of a refresh. -/
def Call.refresh : Call → Option ℕ
  | .recordRefresh now => some now
  | .requestEventRefresh _ => none
  | .requestConnectivityRecoveryRefresh _ => none

/-- The delay after a refresh in the start-up phase, counted from 1. -/
def startupSecs : ℕ → Option ℕ
  | 1 => some 15
  | 2 => some 30
  | 3 => some 60
  | _ => none

/-- The delay after a refresh. -/
def delayAfter (steadyInterval refresh : ℕ) : ℕ := ((startupSecs refresh).map secs).getD steadyInterval

/-- The schedule after refreshes at the given times, in the run that began at `start`. -/
structure Paced (steady start : ℕ) (refreshes : List ℕ) (s : DhtRefreshSchedule) : Prop where
  index : s.startupIndex = min refreshes.length 4
  interval : s.steadyInterval = steady
  last : s.lastRefresh = refreshes.getLast?.getD start
  gap : s.lastRefresh + min (secs dhtEventRefreshMinGapSecs) steady ≤ s.nextDue

theorem requestEventRefresh_nextDue_le (s : DhtRefreshSchedule) (now : ℕ) :
    (s.requestEventRefresh now).2.nextDue ≤ s.nextDue := by
  simp only [requestEventRefresh]
  split
  · exact le_of_lt ‹_›
  · exact le_rfl

theorem startup_table (count : ℕ) : dhtStartupBackoffSecs[min (count + 1) 4]? = startupSecs (count + 1) := by
  rcases count with _ | _ | _ | more
  · rfl
  · rfl
  · rfl
  · have last : min (more + 1 + 1 + 1 + 1) 4 = 4 := by omega
    rw [last]
    rfl

/-- **A refresh sets the next one** by its own number, whatever was requested before. -/
theorem recordRefresh_nextDue {steady start : ℕ} {refreshes : List ℕ} {s : DhtRefreshSchedule}
    (paced : Paced steady start refreshes s) (now : ℕ) :
    (s.recordRefresh now).nextDue = now + delayAfter steady (refreshes.length + 1) ∧
      (s.recordRefresh now).startupIndex = min (refreshes.length + 1) 4 := by
  have length : dhtStartupBackoffSecs.length = 4 := rfl
  have index : (if s.startupIndex < dhtStartupBackoffSecs.length then s.startupIndex + 1 else s.startupIndex)
      = min (refreshes.length + 1) 4 := by
    rw [paced.index, length]
    split <;> omega
  simp only [recordRefresh, index, paced.interval, startup_table, delayAfter, and_self]

theorem min_le_delayAfter (steady refresh : ℕ) : min (secs dhtEventRefreshMinGapSecs) steady ≤ delayAfter steady refresh := by
  have long : ∀ count ∈ startupSecs refresh, dhtEventRefreshMinGapSecs ≤ count := by
    intro count
    unfold startupSecs dhtEventRefreshMinGapSecs
    split <;> simp <;> omega
  unfold delayAfter
  cases startup : startupSecs refresh with
  | none => exact min_le_right _ _
  | some count => exact (min_le_left _ _).trans (Nat.mul_le_mul_right _ (long count startup))

theorem step_paced {steady start : ℕ} {refreshes : List ℕ} {s : DhtRefreshSchedule}
    (paced : Paced steady start refreshes s) (call : Call) :
    Paced steady start (refreshes ++ call.refresh.toList) (s.step call).2 := by
  have requested : ∀ now, Paced steady start (refreshes ++ []) (s.requestEventRefresh now).2 := by
    intro now
    rw [List.append_nil]
    simp only [requestEventRefresh]
    by_cases sooner : max now (s.lastRefresh + secs dhtEventRefreshMinGapSecs) < s.nextDue
    · rw [if_pos sooner]
      refine ⟨paced.index, paced.interval, paced.last, ?_⟩
      exact (Nat.add_le_add_left (min_le_left _ _) _).trans (le_max_right _ _)
    · rwa [if_neg sooner]
  cases call with
  | recordRefresh now =>
    obtain ⟨due, index⟩ := recordRefresh_nextDue paced now
    refine ⟨?_, paced.interval, ?_, ?_⟩
    · simpa [step, Call.refresh] using index
    · simp [step, recordRefresh, Call.refresh]
    · simp only [step, due]
      exact Nat.add_le_add_left (min_le_delayAfter steady _) now
  | requestEventRefresh now => exact requested now
  | requestConnectivityRecoveryRefresh now => exact requested now

theorem paced_final {steady start : ℕ} {refreshes : List ℕ} {s : DhtRefreshSchedule}
    (paced : Paced steady start refreshes s) (calls : List Call) :
    Paced steady start (refreshes ++ calls.filterMap Call.refresh) (final step s calls) := by
  induction calls generalizing refreshes s with
  | nil => simpa using paced
  | cons call rest ih =>
    have next := ih (step_paced paced call)
    rw [List.append_assoc] at next
    cases call <;> exact next

/-- Without a refresh the next one never moves later. -/
theorem nextDue_final_le (s : DhtRefreshSchedule) {quiet : List Call} (none : quiet.filterMap Call.refresh = []) :
    (final step s quiet).nextDue ≤ s.nextDue := by
  induction quiet generalizing s with
  | nil => exact le_rfl
  | cons call rest ih =>
    cases call with
    | recordRefresh now => simp [Call.refresh] at none
    | requestEventRefresh now => exact (ih _ none).trans (requestEventRefresh_nextDue_le s now)
    | requestConnectivityRecoveryRefresh now => exact (ih _ none).trans (requestEventRefresh_nextDue_le s now)

/-- **The refreshes of the DHT keep their distance.** After every run the next refresh is at least 5 seconds, or the
steady interval if that is shorter, after the last one; calls that are no refresh never move it later; and a refresh sets
the next one by its number alone. -/
theorem refresh_pacing (steadyIntervalSecs : UInt64) (start : ℕ) (calls : List Call) :
    let steady := secs (max steadyIntervalSecs.toNat 1)
    let s := final step (new steadyIntervalSecs start) calls
    ((calls.filterMap Call.refresh).getLast?.getD start + min (secs dhtEventRefreshMinGapSecs) steady ≤ s.nextDue) ∧
    (∀ quiet : List Call, quiet.filterMap Call.refresh = [] → (final step s quiet).nextDue ≤ s.nextDue) ∧
    ∀ now, (s.recordRefresh now).nextDue
      = now + delayAfter steady ((calls.filterMap Call.refresh).length + 1) := by
  intro steady s
  have initial : Paced steady start [] (new steadyIntervalSecs start) := by
    refine ⟨rfl, rfl, rfl, ?_⟩
    simp [new, dhtStartupBackoffSecs, dhtEventRefreshMinGapSecs]
  have paced : Paced steady start (calls.filterMap Call.refresh) s := paced_final initial calls
  refine ⟨?_, fun quiet none => nextDue_final_le s none, fun now => (recordRefresh_nextDue paced now).1⟩
  rw [← paced.last]
  exact paced.gap

end DhtRefreshSchedule

end P2pNet.Node
