/-
**Fetching credentials in the background** (`ProviderRefresher` of `crates/connectivity/turn/refresh.rs`).

A fetch is a task of its own that leaves its result in a slot; the runtime starts one when it is due and collects the
result later. `Fetching` runs the refresher together with its tasks: a task may finish at any time with any result.
`provider_refresh_pacing`: there is at most one task, every result is collected once and in order, and a collected result
decides when the next task starts at the earliest.
-/

import P2pNet.Connectivity.Turn.Broker

namespace P2pNet.Connectivity.Turn

open Lib

/-- A refresher with the number of its fetches that have not finished. -/
structure Fetching where
  refresher : ProviderRefresher
  running : ℕ

namespace Fetching

inductive Event
  | startIfDue (now : ℕ)
  | finish (result : Except String TurnCredentials)
  | takeResult (now : ℕ)

structure Outcome where
  started : Bool := false
  finished : Option (Except String TurnCredentials) := none
  taken : Option (Except String TurnCredentials) := none

def start (providerName : String) (now : ℕ) : Fetching := ⟨.new providerName now, 0⟩

/-- Only a fetch that runs can finish. -/
def step (s : Fetching) : Event → Outcome × Fetching
  | .startIfDue now =>
    ({ started := (s.refresher.startIfDue now).1 },
      ⟨(s.refresher.startIfDue now).2, if (s.refresher.startIfDue now).1 then s.running + 1 else s.running⟩)
  | .finish result =>
    if s.running = 0 then ({}, s)
    else ({ finished := some result }, ⟨{ s.refresher with slot := some result }, s.running - 1⟩)
  | .takeResult now =>
    ({ taken := (s.refresher.takeResult now).1 }, ⟨(s.refresher.takeResult now).2, s.running⟩)

def isFailure : Except String TurnCredentials → Bool
  | .ok _ => false
  | .error _ => true

/-- The failures since the last success. -/
def failuresSince (taken : List (Except String TurnCredentials)) : ℕ := (taken.reverse.takeWhile isFailure).length

/-- How long the next fetch waits after a result, and the results taken before it. -/
def pause (taken : List (Except String TurnCredentials)) : Except String TurnCredentials → ℕ
  | .ok credentials => secs credentials.ttlSecs * 3 / 4
  | .error _ => min (firstRetry * 2 ^ min (failuresSince taken) 5) maxRetry

/-- **What holds along every run**, with the results that finished and those that were taken. -/
structure Paced (finished taken : List (Except String TurnCredentials)) (s : Fetching) : Prop where
  single : s.running + s.refresher.slot.toList.length = if s.refresher.inFlight then 1 else 0
  once : finished = taken ++ s.refresher.slot.toList
  failures : s.refresher.failures = min (failuresSince taken) (2 ^ 32 - 1)

theorem failuresSince_concat (taken : List (Except String TurnCredentials)) (result : Except String TurnCredentials) :
    failuresSince (taken ++ [result]) = if isFailure result then failuresSince taken + 1 else 0 := by
  unfold failuresSince
  rw [List.reverse_append, List.reverse_singleton, List.singleton_append, List.takeWhile_cons]
  cases isFailure result <;> simp

theorem step_paced {finished taken : List (Except String TurnCredentials)} {s : Fetching} (paced : Paced finished taken s)
    (event : Event) : Paced (finished ++ (s.step event).1.finished.toList) (taken ++ (s.step event).1.taken.toList)
      (s.step event).2 := by
  obtain ⟨single, once, failures⟩ := paced
  cases event with
  | startIfDue now =>
    simp only [step, Option.toList_none, List.append_nil, ProviderRefresher.startIfDue]
    by_cases waits : s.refresher.inFlight = true ∨ now < s.refresher.nextDue
    · simpa [waits] using Paced.mk single once failures
    · have idle : s.refresher.inFlight = false := by simpa using (not_or.mp waits).1
      rw [idle] at single
      refine ⟨?_, ?_, ?_⟩
      · simp only [waits, if_false, if_true]
        simp only [Bool.false_eq_true, if_false] at single
        omega
      · simpa [waits] using once
      · simpa [waits] using failures
  | finish result =>
    by_cases none : s.running = 0
    · simpa [step, none] using Paced.mk single once failures
    · have flying : s.refresher.inFlight = true := by
        by_contra idle
        rw [if_neg idle] at single
        omega
      rw [if_pos flying] at single
      have empty : s.refresher.slot.toList = [] := List.eq_nil_of_length_eq_zero (by omega)
      simp only [step, none, if_false, Option.toList_some, Option.toList_none, List.append_nil]
      refine ⟨?_, ?_, failures⟩
      · simp only [Option.toList_some, List.length_singleton, flying, if_true]
        omega
      · rw [once, empty, List.append_nil, Option.toList_some]
  | takeResult now =>
    simp only [step, Option.toList_none, List.append_nil, ProviderRefresher.takeResult]
    cases held : s.refresher.slot with
    | none =>
      rw [held] at single once
      simpa [held] using Paced.mk (held ▸ single) (held ▸ once) failures
    | some result =>
      rw [held] at single once
      have still : s.running = 0 := by
        rw [Option.toList_some, List.length_singleton] at single
        split at single <;> omega
      refine ⟨by simpa using still, ?_, ?_⟩
      · simpa using once
      · rw [Option.toList_some, failuresSince_concat]
        cases result with
        | ok credentials => rfl
        | error reason =>
          simp only [ProviderRefresher.delayAfter, isFailure, if_true, failures]
          omega

/-- The results that finished in a run, and those that were taken. -/
def finished (s : Fetching) (events : List Event) : List (Except String TurnCredentials) :=
  (outputs step s events).filterMap Outcome.finished

def taken (s : Fetching) (events : List Event) : List (Except String TurnCredentials) :=
  (outputs step s events).filterMap Outcome.taken

theorem filterMap_concat {α β : Type} (f : α → Option β) (list : List α) (last : α) :
    (list ++ [last]).filterMap f = list.filterMap f ++ (f last).toList := by
  rw [List.filterMap_append]
  cases made : f last <;> simp [made]

theorem paced_final (providerName : String) (now : ℕ) (events : List Event) :
    Paced (finished (start providerName now) events) (taken (start providerName now) events)
      (final step (start providerName now) events) := by
  induction events using List.reverseRecOn with
  | nil => exact ⟨rfl, rfl, rfl⟩
  | append_singleton events event ih =>
    unfold finished taken at ih ⊢
    rw [outputs_concat, final_concat, filterMap_concat, filterMap_concat]
    exact step_paced ih event

/-- Only a taken result moves the next fetch. -/
theorem step_nextDue {s : Fetching} {event : Event} (none : (s.step event).1.taken = none) :
    (s.step event).2.refresher.nextDue = s.refresher.nextDue := by
  cases event with
  | startIfDue now =>
    simp only [step, ProviderRefresher.startIfDue]
    split <;> rfl
  | finish result =>
    simp only [step]
    split <;> rfl
  | takeResult now =>
    simp only [step, ProviderRefresher.takeResult] at none ⊢
    cases held : s.refresher.slot with
    | none => rfl
    | some result => simp [held] at none

theorem nextDue_final {s : Fetching} {events : List Event} (none : taken s events = []) :
    (final step s events).refresher.nextDue = s.refresher.nextDue := by
  induction events generalizing s with
  | nil => rfl
  | cons event rest ih =>
    unfold taken at ih none
    rw [outputs, List.filterMap_cons] at none
    cases first : (s.step event).1.taken with
    | some result => simp [first] at none
    | none =>
      rw [first] at none
      rw [final_cons, ih none, step_nextDue first]

theorem started_due {s : Fetching} {now : ℕ} (started : (s.step (.startIfDue now)).1.started = true) :
    s.refresher.nextDue ≤ now := by
  by_contra early
  simp [step, ProviderRefresher.startIfDue, not_le.mp early] at started

/-- A result that is taken sets the next fetch. -/
theorem takeResult_nextDue {taken finished : List (Except String TurnCredentials)} {s : Fetching}
    (paced : Paced finished taken s) {result : Except String TurnCredentials} (held : s.refresher.slot = some result)
    (now : ℕ) : (s.step (.takeResult now)).2.refresher.nextDue = now + pause taken result := by
  simp only [step, ProviderRefresher.takeResult, held]
  cases result with
  | ok credentials => rfl
  | error reason =>
    have few : min s.refresher.failures 5 = min (failuresSince taken) 5 := by
      rw [paced.failures]
      omega
    simp only [ProviderRefresher.delayAfter, pause, few]

/-- **The fetches of a provider are paced.** In every run, with fetches that finish at any time with any result: at most
one fetch is running; the finished results are those taken, in order, and the one in the slot, which the next
`take_result` returns; and after a result is taken, until another one is, a fetch starts only after the pause that the
result and the failures before it call for. -/
theorem provider_refresh_pacing (providerName : String) (began : ℕ) (events : List Event) :
    let s := final step (start providerName began) events
    let takenBefore := taken (start providerName began) events
    s.running ≤ 1 ∧
    finished (start providerName began) events = takenBefore ++ s.refresher.slot.toList ∧
    (∀ now, (s.step (.takeResult now)).1.taken = s.refresher.slot) ∧
    ∀ now result between later, s.refresher.slot = some result → taken (s.step (.takeResult now)).2 between = [] →
      ((final step (s.step (.takeResult now)).2 between).step (.startIfDue later)).1.started = true →
      now + pause takenBefore result ≤ later := by
  intro s takenBefore
  have paced : Paced (finished (start providerName began) events) takenBefore s := paced_final providerName began events
  refine ⟨?_, paced.once, fun now => ?_, fun now result between later held quiet started => ?_⟩
  · have single := paced.single
    split at single <;> omega
  · simp only [step, ProviderRefresher.takeResult]
    cases s.refresher.slot <;> rfl
  · rw [← takeResult_nextDue paced held now, ← nextDue_final quiet]
    exact started_due started

/-- **A provider is never given up.** In every run, once a running fetch has finished and its result is taken, the next
one starts when it is due. -/
theorem fetch_starts_again (providerName : String) (began : ℕ) (events : List Event)
    (result : Except String TurnCredentials) (now later : ℕ) :
    let idle := final step (start providerName began) (events ++ [.finish result, .takeResult now])
    (idle.step (.startIfDue later)).1.started = true ↔ idle.refresher.nextDue ≤ later := by
  intro idle
  have single := (paced_final providerName began events).single
  have free : idle.refresher.inFlight = false := by
    simp only [idle, final_append]
    generalize final step (start providerName began) events = s at single ⊢
    by_cases still : s.running = 0
    · cases held : s.refresher.slot <;> simp_all [final, step, ProviderRefresher.takeResult]
    · simp [final, step, still, ProviderRefresher.takeResult]
  rw [← not_lt]
  by_cases early : later < idle.refresher.nextDue <;> simp [step, ProviderRefresher.startIfDue, free, early]

end Fetching

end P2pNet.Connectivity.Turn
