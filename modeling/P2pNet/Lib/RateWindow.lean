/-
**Rate limits by windows.**

A window starts with a call, admits so many calls and is over after a fixed time; a call after that starts the next one.
A window that is over may be forgotten at any time (`sweep`), a running one is not.

`Tracked length limit clock log window` relates the window that is kept to all calls so far. `Tracked.later`,
`Tracked.sweep` and `Tracked.call` say that it is kept by everything that can happen. It implies
-/

import Mathlib

namespace P2pNet.Lib

/-- A window: when it started and how many calls it has admitted. -/
structure RateWindow where
  start : ℕ
  count : ℕ
  deriving DecidableEq

namespace RateWindow

section Operations

variable (length limit : ℕ)

/-- The window that a call falls into. -/
def current (now : ℕ) : Option RateWindow → RateWindow
  | some window => if now - window.start ≥ length then ⟨now, 0⟩ else window
  | none => ⟨now, 0⟩

/-- Is a call admitted, and what is the window afterwards? -/
def admitCall (now : ℕ) (window : Option RateWindow) : Bool × RateWindow :=
  let entered := current length now window
  if entered.count ≥ limit then (false, entered) else (true, ⟨entered.start, entered.count + 1⟩)

def isRunning (now : ℕ) (window : RateWindow) : Bool := decide (now - window.start < length)

/-- Forget a window that is over. -/
def sweep (now : ℕ) (window : Option RateWindow) : Option RateWindow := window.filter (isRunning length now)

theorem admit_start (now : ℕ) (window : Option RateWindow) :
    (admitCall length limit now window).2.start = (current length now window).start := by
  unfold admitCall
  dsimp only
  split_ifs
  · rfl
  · rfl

theorem admit_count (now : ℕ) (window : Option RateWindow) :
    (admitCall length limit now window).2.count
      = (current length now window).count + (if (admitCall length limit now window).1 = true then 1 else 0) := by
  unfold admitCall
  by_cases full : (current length now window).count ≥ limit
  · rw [if_pos full]
    rfl
  · rw [if_neg full]
    rfl

theorem lt_limit_of_admitCall {now : ℕ} {window : Option RateWindow} (admitted : (admitCall length limit now window).1 = true) :
    (current length now window).count < limit := by
  by_contra full
  have refused : admitCall length limit now window = (false, current length now window) := if_pos (Nat.le_of_not_lt full)
  rw [refused] at admitted
  exact Bool.false_ne_true admitted

end Operations

/-- A call with the start of the window it fell into. -/
structure Call where
  time : ℕ
  start : ℕ
  admitted : Bool

/-- The number of calls that a window has admitted. -/
def admittedIn (log : List Call) (start : ℕ) : ℕ := log.countP fun call => call.admitted && decide (call.start = start)

theorem admittedIn_concat (log : List Call) (call : Call) (start : ℕ) : admittedIn (log ++ [call]) start
    = admittedIn log start + if call.admitted = true ∧ call.start = start then 1 else 0 := by
  unfold admittedIn
  rw [List.countP_append, List.countP_singleton]
  simp only [Bool.and_eq_true, decide_eq_true_eq]

/-- **What is kept of the calls so far.** -/
structure Tracked (length limit clock : ℕ) (log : List Call) (window : Option RateWindow) : Prop where
  inside : ∀ call ∈ log, call.start ≤ call.time ∧ call.time < call.start + length
  spaced : log.Pairwise fun earlier later => earlier.start = later.start ∨ earlier.start + length ≤ later.start
  bounded : ∀ start, admittedIn log start ≤ limit
  kept : ∀ current, window = some current → current.start ≤ clock ∧ admittedIn log current.start = current.count ∧
    ∀ call ∈ log, call.start = current.start ∨ call.start + length ≤ current.start
  expired : window = none → ∀ call ∈ log, call.start + length ≤ clock

namespace Tracked

variable {length limit clock : ℕ} {log : List Call} {window : Option RateWindow}

theorem empty (length limit clock : ℕ) : Tracked length limit clock [] none where
  inside _ member := nomatch member
  spaced := List.Pairwise.nil
  bounded _ := Nat.zero_le _
  kept _ impossible := nomatch impossible
  expired _ _ member := nomatch member

theorem later (tracked : Tracked length limit clock log window) {now : ℕ} (passed : clock ≤ now) :
    Tracked length limit now log window :=
  { tracked with
    kept := fun current same => (tracked.kept current same).imp_left (·.trans passed)
    expired := fun none call member => (tracked.expired none call member).trans passed }

/-- **Forgetting** a window that is over. -/
theorem sweep (tracked : Tracked length limit clock log window) :
    Tracked length limit clock log (RateWindow.sweep length clock window) where
  inside := tracked.inside
  spaced := tracked.spaced
  bounded := tracked.bounded
  kept current same := tracked.kept current (Option.filter_eq_some_iff.mp same).1
  expired gone call member := by
    cases known : window with
    | none => exact tracked.expired known call member
    | some current =>
      obtain ⟨started, _, others⟩ := tracked.kept current known
      have ended : ¬ clock - current.start < length := by
        rw [known] at gone
        simpa [RateWindow.sweep, isRunning] using gone
      rcases others call member with same | before
      · omega
      · omega

/-- **The window of a call** is running, and no other call lies too close before it. -/
theorem entered (tracked : Tracked length limit clock log window) (positive : 0 < length) :
    let entered := current length clock window
    entered.start ≤ clock ∧ clock < entered.start + length ∧ admittedIn log entered.start = entered.count ∧
      ∀ call ∈ log, call.start = entered.start ∨ call.start + length ≤ entered.start := by
  -- a window that starts now has not admitted anything
  have anew : (∀ call ∈ log, call.start + length ≤ clock) → clock ≤ clock ∧ clock < clock + length ∧
      admittedIn log clock = 0 ∧ ∀ call ∈ log, call.start = clock ∨ call.start + length ≤ clock := by
    intro before
    refine ⟨le_rfl, Nat.lt_add_of_pos_right positive, ?_, fun call member => .inr (before call member)⟩
    refine List.countP_eq_zero.mpr fun call member here => ?_
    rw [Bool.and_eq_true, decide_eq_true_eq] at here
    have distance := before call member
    omega
  cases window with
  | none => exact anew (tracked.expired rfl)
  | some stored =>
    obtain ⟨started, admitted, others⟩ := tracked.kept stored rfl
    unfold current
    dsimp only
    split_ifs with expired
    · refine anew fun call member => ?_
      rcases others call member with same | before
      · omega
      · omega
    · exact ⟨started, by omega, admitted, others⟩

/-- **A call**, admitted or not. -/
theorem call (tracked : Tracked length limit clock log window) (positive : 0 < length) :
    let result := admitCall length limit clock window
    Tracked length limit clock (log ++ [⟨clock, result.2.start, result.1⟩]) (some result.2) := by
  intro result
  obtain ⟨started, running, counted, others⟩ := tracked.entered positive
  have start : result.2.start = (current length clock window).start := admit_start length limit clock window
  have count : result.2.count = (current length clock window).count + (if result.1 = true then 1 else 0) :=
    admit_count length limit clock window
  have added : ∀ other, admittedIn (log ++ [⟨clock, result.2.start, result.1⟩]) other
      = admittedIn log other + if result.1 = true ∧ result.2.start = other then 1 else 0 :=
    fun other => admittedIn_concat log _ other
  refine ⟨?_, ?_, ?_, ?_, fun impossible => nomatch impossible⟩
  · intro call member
    rcases List.mem_append.mp member with old | new
    · exact tracked.inside call old
    · rw [List.mem_singleton.mp new]
      dsimp only
      rw [start]
      exact ⟨started, running⟩
  · refine List.pairwise_append.mpr ⟨tracked.spaced, List.pairwise_singleton _ _, fun earlier old later new => ?_⟩
    rw [List.mem_singleton.mp new]
    dsimp only
    rw [start]
    exact others earlier old
  · intro other
    rw [added]
    have before := tracked.bounded other
    split_ifs with here
    · have room := lt_limit_of_admitCall length limit here.1
      rw [← here.2, start, counted]
      omega
    · exact before
  · rintro _ ⟨⟩
    refine ⟨start ▸ started, ?_, ?_⟩
    · rw [added, start, counted, count]
      simp only [and_true]
    · intro call member
      rw [start]
      rcases List.mem_append.mp member with old | new
      · exact others call old
      · rw [List.mem_singleton.mp new]
        exact .inl start

/-- Calls whose windows start less than a window's length apart are in one window. -/
theorem length_le_limit (tracked : Tracked length limit clock log window) {part : List Call} (inside : part.Sublist log)
    (base : ℕ) (close : ∀ call ∈ part, call.admitted = true ∧ base ≤ call.start ∧ call.start < base + length) :
    part.length ≤ limit := by
  cases part with
  | nil => exact Nat.zero_le _
  | cons first rest =>
    have spaced := List.pairwise_cons.mp (tracked.spaced.sublist inside)
    have begins := close first (List.mem_cons_self ..)
    have all : admittedIn (first :: rest) first.start = (first :: rest).length := by
      refine List.countP_eq_length.mpr fun call member => ?_
      rw [Bool.and_eq_true, decide_eq_true_eq]
      have here := close call member
      refine ⟨here.1, ?_⟩
      rcases List.mem_cons.mp member with rfl | later
      · rfl
      · rcases spaced.1 call later with same | apart
        · exact same.symm
        · omega
    exact all.symm.le.trans (inside.countP_le.trans (tracked.bounded first.start))

/-- **Twice the limit** in any time of a window's length. -/
theorem admitted_le (tracked : Tracked length limit clock log window) (since : ℕ) :
    (log.filter fun call => call.admitted && decide (since ≤ call.time ∧ call.time < since + length)).length
      ≤ 2 * limit := by
  set part := log.filter fun call => call.admitted && decide (since ≤ call.time ∧ call.time < since + length)
    with definition
  have sublist : part.Sublist log := List.filter_sublist
  have within : ∀ call ∈ part, call.admitted = true ∧ since ≤ call.time ∧ call.time < since + length ∧
      call.start ≤ call.time ∧ call.time < call.start + length := by
    intro call member
    obtain ⟨logged, test⟩ := List.mem_filter.mp member
    rw [Bool.and_eq_true, decide_eq_true_eq] at test
    exact ⟨test.1, test.2.1, test.2.2, tracked.inside call logged⟩
  clear_value part
  cases part with
  | nil => exact Nat.zero_le _
  | cons first rest =>
    have begins := within first (List.mem_cons_self ..)
    have ordered : ∀ call ∈ first :: rest, first.start ≤ call.start := by
      intro call member
      rcases List.mem_cons.mp member with rfl | later
      · exact le_rfl
      · rcases (List.pairwise_cons.mp (tracked.spaced.sublist sublist)).1 call later with same | apart
        · exact same.le
        · omega
    -- the windows that start within one length of the first one, and those after it
    have early : ((first :: rest).filter fun call => decide (call.start < first.start + length)).length ≤ limit := by
      refine tracked.length_le_limit (List.filter_sublist.trans sublist) first.start fun call member => ?_
      obtain ⟨inside, near⟩ := List.mem_filter.mp member
      exact ⟨(within call inside).1, ordered call inside, of_decide_eq_true near⟩
    have late : ((first :: rest).filter fun call => !decide (call.start < first.start + length)).length ≤ limit := by
      refine tracked.length_le_limit (List.filter_sublist.trans sublist) (first.start + length) fun call member => ?_
      obtain ⟨inside, far⟩ := List.mem_filter.mp member
      rw [Bool.not_eq_true', decide_eq_false_iff_not] at far
      have here := within call inside
      exact ⟨here.1, Nat.le_of_not_lt far, by omega⟩
    have split := List.length_eq_length_filter_add (l := first :: rest)
      fun call => decide (call.start < first.start + length)
    omega

end Tracked

end RateWindow

end P2pNet.Lib
