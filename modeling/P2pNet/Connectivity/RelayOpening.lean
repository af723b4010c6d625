/-
**Opening hours of the relay** (`crates/connectivity/relay/schedule.rs`).

A schedule lists windows of days with a start and an end. A minute of a day is looked up in today's windows, and in
those of yesterday that end after midnight. Over the week this is a union of intervals, one for each window and listed
day, around the end of the week (`schedule_open_iff`): from the start until the next time of day that is the end, and
where both are one time of day, the listed day from midnight to midnight, whatever that time is
(`EqualTimes.open_before_start`). A valid window is open at some time (`Covers.exists_of_valid`).
-/

import P2pNet.Connectivity.RelayConfig

namespace P2pNet.Connectivity

open Lib

/-! ### Looking up a minute -/

/-- One name of `matches_day`. -/
def nameMatchesDay (name : String) (day : ℕ) : Bool :=
  match name with
  | "all" | "*" => true
  | "sun" | "sunday" => day == 0
  | "mon" | "monday" => day == 1
  | "tue" | "tues" | "tuesday" => day == 2
  | "wed" | "wednesday" => day == 3
  | "thu" | "thur" | "thurs" | "thursday" => day == 4
  | "fri" | "friday" => day == 5
  | "sat" | "saturday" => day == 6
  | _ => false

namespace RelayWindow

variable (window : RelayWindow)

def matchesDay (day : ℕ) : Bool := window.days.any fun raw => nameMatchesDay (Text.toAsciiLowercase (Text.trim raw)) day

/-- `RelayWindow::matches`. -/
def matchesAt (day previousDay minuteOfDay : ℕ) : Bool :=
  match parseHhmm window.start with
  | none => false
  | some start =>
    match parseHhmm window.end with
    | none => false
    | some stop =>
      if start = stop then window.matchesDay day
      else if start < stop then window.matchesDay day && decide (minuteOfDay ≥ start) && decide (minuteOfDay < stop)
      else (window.matchesDay day && decide (minuteOfDay ≥ start))
        || (window.matchesDay previousDay && decide (minuteOfDay < stop))

end RelayWindow

namespace RelaySchedule

variable (schedule : RelaySchedule)

/-- Days from 0, Sunday, to 6, Saturday. -/
def isOpenAtUtc (day minuteOfDay : ℕ) : Bool :=
  if schedule.enabled = false then true
  else if schedule.windows.isEmpty ∨ day > 6 ∨ minuteOfDay ≥ 1440 then false
  else schedule.windows.any (·.matchesAt day (if day = 0 then 6 else day - 1) minuteOfDay)

/-- At a number of seconds since 1970, or before that. -/
def isOpenNowUtc (elapsed : Option ℕ) : Bool :=
  if schedule.enabled = false then true
  else match elapsed with
    | none => false
    | some secs => schedule.isOpenAtUtc ((secs / 86400 + 4) % 7) (secs % 86400 / 60)

end RelaySchedule

/-! ### Minutes of the week -/

/-- The half-open interval of the week that begins at a minute and lasts a number of minutes. -/
def InWeek (begins lasts minute : ℕ) : Prop := ∃ offset < lasts, minute = (begins + offset) % 10080

/-- The names of a day. -/
def dayNames : ℕ → List String
  | 0 => ["sun", "sunday"]
  | 1 => ["mon", "monday"]
  | 2 => ["tue", "tues", "tuesday"]
  | 3 => ["wed", "wednesday"]
  | 4 => ["thu", "thur", "thurs", "thursday"]
  | 5 => ["fri", "friday"]
  | 6 => ["sat", "saturday"]
  | _ => []

/-- The days a window is listed for. -/
def RelayWindow.Listed (window : RelayWindow) (day : ℕ) : Prop :=
  ∃ raw ∈ window.days, Text.toAsciiLowercase (Text.trim raw) ∈ "all" :: "*" :: dayNames day

/-- When a window opens on a listed day: at its start, and with equal times at midnight. -/
def opensAt (start stop : ℕ) : ℕ := if start = stop then 0 else start

def opensFor (start stop : ℕ) : ℕ := if start = stop then 1440 else (stop + 1440 - start) % 1440

/-- The minutes of the week at which a window is open. -/
def RelayWindow.Covers (window : RelayWindow) (minute : ℕ) : Prop :=
  ∃ start stop, parseHhmm window.start = some start ∧ parseHhmm window.end = some stop ∧
    ∃ day ≤ 6, window.Listed day ∧ InWeek (1440 * day + opensAt start stop) (opensFor start stop) minute

/-! ### Names and times -/

theorem nameMatchesDay_iff {name : String} {day : ℕ} (real : day ≤ 6) :
    nameMatchesDay name day = true ↔ name ∈ "all" :: "*" :: dayNames day := by
  unfold nameMatchesDay
  interval_cases day <;> split <;> simp_all [dayNames]

theorem RelayWindow.matchesDay_iff {window : RelayWindow} {day : ℕ} (real : day ≤ 6) :
    window.matchesDay day = true ↔ window.Listed day := by
  unfold RelayWindow.matchesDay RelayWindow.Listed
  rw [List.any_eq_true]
  simp only [nameMatchesDay_iff real]

theorem parseHhmm_lt {value : String} {minutes : ℕ} (parsed : parseHhmm value = some minutes) : minutes < 1440 := by
  unfold parseHhmm at parsed
  split at parsed
  · split at parsed
    · split_ifs at parsed with large
      cases parsed
      omega
    · cases parsed
  · cases parsed

/-! ### Intervals of the week -/

section Intervals

variable {day listed minute start stop : ℕ} (today : day ≤ 6) (real : listed ≤ 6) (inDay : minute < 1440)

include today real inDay

/-- With equal times, the whole day. -/
theorem inWeek_whole_iff : InWeek (1440 * listed + opensAt start start) (opensFor start start) (1440 * day + minute) ↔
    listed = day := by
  rw [opensAt, opensFor, if_pos rfl, if_pos rfl]
  constructor
  · rintro ⟨offset, within, same⟩
    omega
  · rintro rfl
    exact ⟨minute, inDay, by omega⟩

theorem inWeek_within_iff (before : start < stop) (stopInDay : stop < 1440) :
    InWeek (1440 * listed + opensAt start stop) (opensFor start stop) (1440 * day + minute) ↔
      listed = day ∧ start ≤ minute ∧ minute < stop := by
  have lasts : (stop + 1440 - start) % 1440 = stop - start := by omega
  rw [opensAt, opensFor, if_neg before.ne, if_neg before.ne, lasts]
  constructor
  · rintro ⟨offset, within, same⟩
    omega
  · rintro ⟨rfl, opened, ahead⟩
    exact ⟨minute - start, by omega, by omega⟩

/-- Overnight, the evening of the listed day and the morning after it; Sunday comes after Saturday. -/
theorem inWeek_overnight_iff (after : stop < start) (startInDay : start < 1440) :
    InWeek (1440 * listed + opensAt start stop) (opensFor start stop) (1440 * day + minute) ↔
      listed = day ∧ start ≤ minute ∨ listed = (if day = 0 then 6 else day - 1) ∧ minute < stop := by
  have lasts : (stop + 1440 - start) % 1440 = stop + 1440 - start := by omega
  rw [opensAt, opensFor, if_neg after.ne', if_neg after.ne', lasts]
  constructor
  · rintro ⟨offset, within, same⟩
    split_ifs <;> omega
  · rintro (⟨rfl, opened⟩ | ⟨rfl, ahead⟩)
    · exact ⟨minute - start, by omega, by omega⟩
    · refine ⟨minute + 1440 - start, by omega, ?_⟩
      split_ifs <;> omega

end Intervals

/-- **One window.** -/
theorem RelayWindow.matchesAt_iff {window : RelayWindow} {day minute : ℕ} (today : day ≤ 6) (inDay : minute < 1440) :
    window.matchesAt day (if day = 0 then 6 else day - 1) minute = true ↔ window.Covers (1440 * day + minute) := by
  have yesterday : (if day = 0 then 6 else day - 1) ≤ 6 := by
    split_ifs <;> omega
  unfold RelayWindow.matchesAt RelayWindow.Covers
  cases opened : parseHhmm window.start with
  | none => simp
  | some start =>
    cases closed : parseHhmm window.end with
    | none => simp
    | some stop =>
      have startInDay := parseHhmm_lt opened
      have stopInDay := parseHhmm_lt closed
      simp only [Option.some.injEq, exists_eq_left', exists_and_left]
      rcases lt_trichotomy start stop with before | rfl | after
      · rw [if_neg before.ne, if_pos before]
        simp only [Bool.and_eq_true, decide_eq_true_eq, matchesDay_iff today]
        constructor
        · rintro ⟨⟨listed, opened⟩, ahead⟩
          exact ⟨day, today, listed, (inWeek_within_iff today today inDay before stopInDay).mpr ⟨rfl, opened, ahead⟩⟩
        · rintro ⟨other, real, listed, inside⟩
          obtain ⟨rfl, opened, ahead⟩ := (inWeek_within_iff today real inDay before stopInDay).mp inside
          exact ⟨⟨listed, opened⟩, ahead⟩
      · rw [if_pos rfl, matchesDay_iff today]
        constructor
        · intro listed
          exact ⟨day, today, listed, (inWeek_whole_iff today today inDay).mpr rfl⟩
        · rintro ⟨other, real, listed, inside⟩
          obtain rfl := (inWeek_whole_iff today real inDay).mp inside
          exact listed
      · rw [if_neg after.ne', if_neg after.asymm]
        simp only [Bool.or_eq_true, Bool.and_eq_true, decide_eq_true_eq, matchesDay_iff today, matchesDay_iff yesterday]
        constructor
        · rintro (⟨listed, opened⟩ | ⟨listed, ahead⟩)
          · exact ⟨day, today, listed,
              (inWeek_overnight_iff today today inDay after startInDay).mpr (.inl ⟨rfl, opened⟩)⟩
          · exact ⟨_, yesterday, listed,
              (inWeek_overnight_iff today yesterday inDay after startInDay).mpr (.inr ⟨rfl, ahead⟩)⟩
        · rintro ⟨other, real, listed, inside⟩
          obtain ⟨rfl, opened⟩ | ⟨rfl, ahead⟩ := (inWeek_overnight_iff today real inDay after startInDay).mp inside
          · exact .inl ⟨listed, opened⟩
          · exact .inr ⟨listed, ahead⟩

/-- A minute is looked up in the intervals of the week. -/
theorem RelaySchedule.isOpenAtUtc_iff {schedule : RelaySchedule} (enabled : schedule.enabled = true) {day minute : ℕ}
    (today : day ≤ 6) (inDay : minute < 1440) :
    schedule.isOpenAtUtc day minute = true ↔ ∃ window ∈ schedule.windows, window.Covers (1440 * day + minute) := by
  unfold RelaySchedule.isOpenAtUtc
  rw [if_neg (by simp [enabled])]
  by_cases nothing : schedule.windows = []
  · rw [if_pos (by simp [nothing]), nothing]
    simp
  · have accepted : ¬ (schedule.windows.isEmpty ∨ day > 6 ∨ minute ≥ 1440) := by
      simp [nothing, today, inDay]
    rw [if_neg accepted, List.any_eq_true]
    simp only [RelayWindow.matchesAt_iff today inDay]

/-! ### Valid windows -/

theorem listed_of_isValidDay {raw : String} (valid : isValidDay raw = true) :
    ∃ day ≤ 6, Text.toAsciiLowercase (Text.trim raw) ∈ "all" :: "*" :: dayNames day := by
  have named : ∀ name ∈ validDays, ∃ day ≤ 6, name ∈ "all" :: "*" :: dayNames day := by decide
  unfold isValidDay at valid
  rw [List.any_eq_true] at valid
  obtain ⟨name, known, same⟩ := valid
  rw [decide_eq_true_eq] at same
  rw [← same]
  exact named name known

/-- A valid window is listed for some day, and it begins and ends at a time of day. -/
theorem RelayWindow.of_validate {window : RelayWindow} (valid : window.validate = .ok ()) :
    (∃ day ≤ 6, window.Listed day) ∧ ∃ start stop,
      parseHhmm window.start = some start ∧ parseHhmm window.end = some stop := by
  unfold RelayWindow.validate at valid
  simp only [bind_unit_ok_iff, rejectIf_ok_iff, forM_ok_iff] at valid
  obtain ⟨some, days, opened, closed⟩ := valid
  obtain ⟨raw, rest, listed⟩ := List.exists_cons_of_ne_nil some
  have member : raw ∈ window.days := listed ▸ List.mem_cons_self ..
  obtain ⟨day, real, named⟩ := listed_of_isValidDay (Bool.not_eq_false _ ▸ days raw member)
  obtain ⟨start, started⟩ := Option.ne_none_iff_exists'.mp opened
  obtain ⟨stop, stopped⟩ := Option.ne_none_iff_exists'.mp closed
  exact ⟨⟨day, real, raw, member, named⟩, start, stop, started, stopped⟩

/-- **A valid window is open** when it begins. -/
theorem RelayWindow.Covers.exists_of_valid {window : RelayWindow} (valid : window.validate = .ok ()) :
    ∃ day ≤ 6, ∃ minute < 1440, window.Covers (1440 * day + minute) := by
  obtain ⟨⟨day, real, listed⟩, start, stop, started, stopped⟩ := RelayWindow.of_validate valid
  have startInDay := parseHhmm_lt started
  have stopInDay := parseHhmm_lt stopped
  have inDay : opensAt start stop < 1440 := by
    unfold opensAt
    split_ifs <;> omega
  have lasts : 0 < opensFor start stop := by
    unfold opensFor
    split_ifs <;> omega
  exact ⟨day, real, opensAt start stop, inDay, start, stop, started, stopped, day, real, listed, 0, lasts, by omega⟩

/-- **Opening hours.** An enabled and valid schedule is open in the union of its windows' intervals of the week, and
each of its windows is open at some minute. -/
theorem schedule_open_iff (schedule : RelaySchedule) (enabled : schedule.enabled = true)
    (valid : schedule.validate = .ok ()) :
    (∀ day ≤ 6, ∀ minute < 1440, schedule.isOpenAtUtc day minute = true ↔
      ∃ window ∈ schedule.windows, window.Covers (1440 * day + minute)) ∧
    ∀ window ∈ schedule.windows, ∃ day ≤ 6, ∃ minute < 1440, window.Covers (1440 * day + minute) := by
  refine ⟨fun day today minute inDay => RelaySchedule.isOpenAtUtc_iff enabled today inDay, ?_⟩
  intro window member
  unfold RelaySchedule.validate at valid
  rw [forM_ok_iff] at valid
  exact RelayWindow.Covers.exists_of_valid (valid window member)

namespace SaturdayNight

def schedule : RelaySchedule := ⟨true, [⟨[" Saturday"], "22:00", "02:00"⟩]⟩

/-- Saturday night goes on until two o'clock on Sunday. -/
theorem open_on_sunday : schedule.isOpenAtUtc 0 119 = true ∧ schedule.isOpenAtUtc 0 120 = false ∧
    ∃ window ∈ schedule.windows, window.Covers 119 := by
  have opened : schedule.isOpenAtUtc 0 119 = true := by decide
  refine ⟨opened, by decide, ?_⟩
  exact ((schedule_open_iff schedule rfl (by decide)).1 0 (by decide) 119 (by decide)).mp opened

end SaturdayNight

namespace EqualTimes

/-- Mondays, from six in the evening to six in the evening. -/
def schedule : RelaySchedule := ⟨true, [⟨["mon"], "18:00", "18:00"⟩]⟩

/-- **Open before the start.** It is open from the first minute of Monday on, which is not in the 24 hours from the
start, and closed on Tuesday morning, which is. -/
theorem open_before_start : schedule.validate = .ok () ∧ parseHhmm "18:00" = some 1080 ∧
    schedule.isOpenAtUtc 1 0 = true ∧ ¬ InWeek (1440 * 1 + 1080) 1440 (1440 * 1 + 0) ∧
    schedule.isOpenAtUtc 2 0 = false ∧ InWeek (1440 * 1 + 1080) 1440 (1440 * 2 + 0) := by
  refine ⟨by decide, by decide, by decide, ?_, by decide, 360, by decide, by decide⟩
  rintro ⟨offset, within, same⟩
  omega

end EqualTimes

end P2pNet.Connectivity
