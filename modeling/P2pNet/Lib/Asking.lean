/-
**Computations that ask.**

A computation asks questions, and it may fail. What is asked is recorded together with the answer, also when the
computation fails later, and an answer may depend on everything that was recorded before. `Records` is what holds of the
part of the record that a computation adds and of its result, whatever stood in the record before.
-/

import Mathlib

namespace P2pNet.Lib

def Asking (Event ε α : Type) : Type := List Event → Except ε α × List Event

namespace Asking

variable {Event ε α β : Type}

instance : Monad (Asking Event ε) where
  pure value := fun log => (.ok value, log)
  bind first next := fun log =>
    match first log with
    | (.ok value, log) => next value log
    | (.error err, log) => (.error err, log)

/-- A result that does not depend on any answer. -/
def ofExcept (result : Except ε α) : Asking Event ε α := fun log => (result, log)

def fail (err : ε) : Asking Event ε α := ofExcept (.error err)

/-- A question: `answer` is what the world answers, and `event` how it is recorded. -/
def ask (answer : List Event → α) (event : α → Event) : Asking Event ε α := fun log =>
  (.ok (answer log), log ++ [event (answer log)])

/-- What a computation adds to the record and returns. -/
def Records (computation : Asking Event ε α) (relation : List Event → Except ε α → Prop) : Prop :=
  ∀ log, ∃ new, (computation log).2 = log ++ new ∧ relation new (computation log).1

namespace Records

variable {relation : List Event → Except ε α → Prop}

theorem ofExcept {result : Except ε α} (holds : relation [] result) :
    Records (Asking.ofExcept result) relation :=
  fun log => ⟨[], (List.append_nil log).symm, holds⟩

theorem pure {value : α} (holds : relation [] (.ok value)) :
    Records (Pure.pure value : Asking Event ε α) relation :=
  fun log => ⟨[], (List.append_nil log).symm, holds⟩

theorem fail {err : ε} (holds : relation [] (.error err)) : Records (Asking.fail err) relation := ofExcept holds

theorem ask {answer : List Event → α} {event : α → Event}
    (holds : ∀ log, relation [event (answer log)] (.ok (answer log))) : Records (Asking.ask answer event) relation :=
  fun log => ⟨_, rfl, holds log⟩

theorem mono {weaker : List Event → Except ε α → Prop} {computation : Asking Event ε α}
    (records : Records computation relation) (imp : ∀ new result, relation new result → weaker new result) :
    Records computation weaker := by
  intro log
  obtain ⟨new, grown, holds⟩ := records log
  exact ⟨new, grown, imp new _ holds⟩

/-- **One computation after another**: the first one fails, or both add their part. -/
theorem bind {first : Asking Event ε α} {next : α → Asking Event ε β} {later : α → List Event → Except ε β → Prop}
    {whole : List Event → Except ε β → Prop} (before : Records first relation)
    (after : ∀ new value, relation new (.ok value) → Records (next value) (later value))
    (failed : ∀ new err, relation new (.error err) → whole new (.error err))
    (joined : ∀ new value more result, relation new (.ok value) → later value more result →
      whole (new ++ more) result) : Records (first >>= next) whole := by
  intro log
  have unfolded : (first >>= next) log = match first log with
      | (.ok value, log) => next value log
      | (.error err, log) => (.error err, log) := rfl
  obtain ⟨new, grown, holds⟩ := before log
  rw [unfolded]
  cases ran : first log with
  | mk result recorded =>
    rw [ran] at grown holds
    dsimp only at grown holds
    subst grown
    cases result with
    | error err => exact ⟨new, rfl, failed new err holds⟩
    | ok value =>
      obtain ⟨more, grown, continued⟩ := after new value holds (log ++ new)
      exact ⟨new ++ more, grown.trans (List.append_assoc _ _ _), joined new value more _ holds continued⟩

/-- **A run** from an empty record. -/
theorem result {computation : Asking Event ε α} (records : Records computation relation) {result : Except ε α}
    {log : List Event} (ran : computation [] = (result, log)) : relation log result := by
  obtain ⟨new, grown, holds⟩ := records []
  rw [ran] at grown holds
  obtain rfl : log = new := grown.trans (List.nil_append new)
  exact holds

end Records

/-! ### Results only -/

/-- Every value that is returned has a property. -/
def Ensures (computation : Asking Event ε α) (property : α → Prop) : Prop :=
  Records computation fun _ result => ∀ value, result = .ok value → property value

namespace Ensures

variable {property : α → Prop}

theorem ofExcept {result : Except ε α} (holds : ∀ value, result = .ok value → property value) :
    Ensures (Asking.ofExcept result : Asking Event ε α) property := Records.ofExcept holds

theorem fail (err : ε) : Ensures (Asking.fail err : Asking Event ε α) property :=
  Records.fail fun _ impossible => by cases impossible

theorem pure {value : α} (holds : property value) : Ensures (Pure.pure value : Asking Event ε α) property := by
  refine Records.pure fun other same => ?_
  cases same
  exact holds

theorem bind {first : Asking Event ε α} {next : α → Asking Event ε β} {later : β → Prop}
    (before : Ensures first property) (after : ∀ value, property value → Ensures (next value) later) :
    Ensures (first >>= next) later := by
  refine Records.bind before (fun _ value holds => after value (holds value rfl)) ?_ ?_
  · intro _ _ _ value impossible
    cases impossible
  · exact fun _ _ _ _ _ holds => holds

theorem ofExcept_bind {result : Except ε α} {next : α → Asking Event ε β} {later : β → Prop}
    (after : ∀ value, result = .ok value → Ensures (next value) later) :
    Ensures (Asking.ofExcept result >>= next) later :=
  bind (ofExcept fun _ same => same) after

/-- A question may be answered in any way. -/
theorem ask_bind {answer : List Event → α} {event : α → Event} {next : α → Asking Event ε β} {later : β → Prop}
    (after : ∀ value, Ensures (next value) later) : Ensures (Asking.ask answer event >>= next) later := by
  have asked : Ensures (Asking.ask answer event : Asking Event ε α) fun _ => True := Records.ask fun _ _ _ => trivial
  exact bind asked fun value _ => after value

end Ensures

end Asking

end P2pNet.Lib
