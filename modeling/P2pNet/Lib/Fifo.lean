/-
**A set together with the order in which its elements came.**

A bounded memory keeps a set and a queue of the same elements, the oldest first. `Queued` says that both agree: a new
element is pushed at the back, the oldest one is popped, and a full memory does both (`Queued.cycle`).
-/

import Mathlib

namespace P2pNet.Lib

variable {α : Type} [DecidableEq α]

structure Queued (order : List α) (members : Finset α) : Prop where
  nodup : order.Nodup
  mem_order : ∀ element, element ∈ order ↔ element ∈ members

namespace Queued

variable {order : List α} {members : Finset α} {element : α}

theorem empty : Queued ([] : List α) ∅ where
  nodup := List.nodup_nil
  mem_order _ := by simp

theorem card (queued : Queued order members) : members.card = order.length := by
  rw [← List.toFinset_card_of_nodup queued.nodup]
  congr 1
  ext element
  rw [List.mem_toFinset, queued.mem_order]

theorem push (queued : Queued order members) (fresh : element ∉ members) :
    Queued (order ++ [element]) (insert element members) where
  nodup := by
    rw [List.nodup_append_comm, List.singleton_append, List.nodup_cons, queued.mem_order]
    exact ⟨fresh, queued.nodup⟩
  mem_order other := by
    rw [List.mem_append, List.mem_singleton, Finset.mem_insert, queued.mem_order, or_comm]

theorem pop {oldest : α} (queued : Queued (oldest :: order) members) : Queued order (members.erase oldest) where
  nodup := (List.nodup_cons.mp queued.nodup).2
  mem_order other := by
    have alone := (List.nodup_cons.mp queued.nodup).1
    rw [Finset.mem_erase, ← queued.mem_order, List.mem_cons]
    by_cases same : other = oldest
    · simp [same, alone]
    · simp [same]

/-- **A new element for the oldest one.** -/
theorem cycle (queued : Queued order members) (fresh : element ∉ members) (some : 0 < members.card) :
    ∃ oldest rest, order = oldest :: rest ∧ oldest ∈ members ∧ oldest ≠ element ∧
      Queued (rest ++ [element]) ((insert element members).erase oldest) := by
  cases order with
  | nil => simp [queued.card] at some
  | cons oldest rest =>
    have member := (queued.mem_order oldest).mp List.mem_cons_self
    refine ⟨oldest, rest, rfl, member, ?_, (queued.push fresh).pop⟩
    rintro rfl
    exact fresh member

end Queued

end P2pNet.Lib
