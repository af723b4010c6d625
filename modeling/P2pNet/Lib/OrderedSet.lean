/-
**Ordered sets that lose their least elements.**

A `BTreeSet` is a finite set of a linear order whose iteration starts at the least element. A set that
is bounded by removing that element until it is small enough (`dropLeast`) keeps its largest elements.
-/

import Mathlib

namespace P2pNet.Lib

variable {α : Type} [LinearOrder α]

/-- `iter().next()`. -/
def first? (s : Finset α) : Option α :=
  if nonempty : s.Nonempty then some (s.min' nonempty) else none

theorem first?_eq_none_iff (s : Finset α) : first? s = none ↔ s = ∅ := by
  unfold first?
  split_ifs with nonempty
  · simp [nonempty.ne_empty]
  · simpa using nonempty

theorem first?_eq_some_iff (s : Finset α) (least : α) :
    first? s = some least ↔ least ∈ s ∧ ∀ other ∈ s, least ≤ other := by
  unfold first?
  split_ifs with nonempty
  · rw [Option.some_inj]
    constructor
    · rintro rfl
      exact ⟨s.min'_mem nonempty, fun other member => s.min'_le other member⟩
    · rintro ⟨member, below⟩
      exact le_antisymm (s.min'_le least member) (below _ (s.min'_mem nonempty))
  · simp only [false_iff, not_and]
    intro member
    exact absurd ⟨least, member⟩ nonempty

/-- All elements, as an iteration meets them. -/
def inOrder (s : Finset α) : List α := s.sort (· ≤ ·)

@[simp] theorem mem_inOrder {s : Finset α} {element : α} : element ∈ inOrder s ↔ element ∈ s :=
  Finset.mem_sort _

/-- The loop that removes the first element while the set is too large; every round removes one, so
that as many rounds as there are elements are enough. -/
def dropLeastLoop (limit : ℕ) : ℕ → Finset α → Finset α
  | 0, s => s
  | rounds + 1, s =>
    if s.card > limit then
      match first? s with
      | none => s
      | some least => dropLeastLoop limit rounds (s.erase least)
    else s

def dropLeast (limit : ℕ) (s : Finset α) : Finset α := dropLeastLoop limit s.card s

/-- The elements above one, in a set that loses its least element. -/
theorem card_above_erase {s : Finset α} {least : α} (below : ∀ other ∈ s, least ≤ other) {element : α}
    (member : element ∈ s) :
    ((s.erase least).filter (element < ·)).card = (s.filter (element < ·)).card := by
  congr 1
  ext other
  simp only [Finset.mem_filter, Finset.mem_erase]
  constructor
  · rintro ⟨⟨_, inside⟩, above⟩
    exact ⟨inside, above⟩
  · rintro ⟨inside, above⟩
    exact ⟨⟨((below element member).trans_lt above).ne', inside⟩, above⟩

theorem card_above_lt {s : Finset α} {element : α} (member : element ∈ s) :
    (s.filter (element < ·)).card < s.card := by
  apply Finset.card_lt_card
  rw [Finset.filter_ssubset]
  exact ⟨element, member, lt_irrefl element⟩

/-- Everything else is above the least element. -/
theorem card_above_least {s : Finset α} {least : α} (member : least ∈ s)
    (below : ∀ other ∈ s, least ≤ other) : (s.filter (least < ·)).card = s.card - 1 := by
  rw [← Finset.card_erase_of_mem member]
  congr 1
  ext other
  simp only [Finset.mem_filter, Finset.mem_erase]
  constructor
  · rintro ⟨inside, above⟩
    exact ⟨above.ne', inside⟩
  · rintro ⟨different, inside⟩
    exact ⟨inside, lt_of_le_of_ne (below other inside) (Ne.symm different)⟩

theorem mem_dropLeastLoop_iff {limit rounds : ℕ} {s : Finset α} (enough : s.card ≤ rounds) (element : α) :
    element ∈ dropLeastLoop limit rounds s ↔
      element ∈ s ∧ (s.filter (element < ·)).card < limit := by
  induction rounds generalizing s with
  | zero =>
    rw [Finset.card_eq_zero.mp (Nat.le_zero.mp enough)]
    simp [dropLeastLoop]
  | succ rounds ih =>
    unfold dropLeastLoop
    split_ifs with large
    · cases taken : first? s with
      | none =>
        rw [(first?_eq_none_iff s).mp taken] at large
        simp at large
      | some least =>
        obtain ⟨member, below⟩ := (first?_eq_some_iff s least).mp taken
        have smaller := Finset.card_erase_of_mem member
        show element ∈ dropLeastLoop limit rounds (s.erase least) ↔ _
        rw [ih (by omega), Finset.mem_erase]
        by_cases same : element = least
        · subst same
          have many := card_above_least member below
          simp only [ne_eq, not_true_eq_false, false_and, false_iff, not_and, not_lt]
          omega
        · by_cases inside : element ∈ s
          · rw [card_above_erase below inside]
            simp [same]
          · simp [inside]
    · constructor
      · intro inside
        have fewer := card_above_lt inside
        exact ⟨inside, by omega⟩
      · exact And.left

/-- **The largest elements stay**: those with fewer than `limit` elements above them. -/
theorem mem_dropLeast_iff (limit : ℕ) (s : Finset α) (element : α) :
    element ∈ dropLeast limit s ↔ element ∈ s ∧ (s.filter (element < ·)).card < limit :=
  mem_dropLeastLoop_iff le_rfl element

/-- A set within the bound stays as it is. -/
theorem dropLeast_of_card_le {limit : ℕ} {s : Finset α} (within : s.card ≤ limit) : dropLeast limit s = s := by
  ext element
  rw [mem_dropLeast_iff]
  constructor
  · exact And.left
  · intro member
    exact ⟨member, (card_above_lt member).trans_le within⟩

theorem dropLeast_subset (limit : ℕ) (s : Finset α) : dropLeast limit s ⊆ s := by
  intro element kept
  exact ((mem_dropLeast_iff limit s element).mp kept).1

theorem card_dropLeast_le (limit : ℕ) (s : Finset α) : (dropLeast limit s).card ≤ limit := by
  by_contra large
  obtain ⟨least, taken⟩ : ∃ least, first? (dropLeast limit s) = some least := by
    cases taken : first? (dropLeast limit s) with
    | none =>
      rw [(first?_eq_none_iff _).mp taken] at large
      simp at large
    | some least => exact ⟨least, rfl⟩
  obtain ⟨member, below⟩ := (first?_eq_some_iff _ _).mp taken
  have few := ((mem_dropLeast_iff limit s least).mp member).2
  -- all the others that stayed are above the least of them
  have others : ((dropLeast limit s).erase least).card ≤ (s.filter (least < ·)).card := by
    apply Finset.card_le_card
    intro other kept
    rw [Finset.mem_erase] at kept
    rw [Finset.mem_filter]
    exact ⟨dropLeast_subset limit s kept.2, lt_of_le_of_ne (below other kept.2) (Ne.symm kept.1)⟩
  rw [Finset.card_erase_of_mem member] at others
  omega

/-- **When a new element survives** in a set within the bound: it was there, there was room, or it is
above an element of the set. -/
theorem mem_dropLeast_insert_iff {limit : ℕ} {s : Finset α} (within : s.card ≤ limit)
    (element : α) : element ∈ dropLeast limit (insert element s) ↔
      element ∈ s ∨ s.card < limit ∨ ∃ other ∈ s, other < element := by
  have above : (insert element s).filter (element < ·) = s.filter (element < ·) := by
    rw [Finset.filter_insert, if_neg (lt_irrefl element)]
  rw [mem_dropLeast_iff, above]
  simp only [Finset.mem_insert_self, true_and]
  constructor
  · intro few
    by_contra lost
    simp only [not_or, not_lt, not_exists, not_and] at lost
    obtain ⟨absent, full, lowest⟩ := lost
    have all : s.filter (element < ·) = s := by
      rw [Finset.filter_eq_self]
      intro other inside
      exact lt_of_le_of_ne (lowest other inside) fun same => absent (same ▸ inside)
    rw [all] at few
    omega
  · have subset := Finset.card_filter_le s (element < ·)
    rintro (inside | room | ⟨other, inside, lower⟩)
    · exact (card_above_lt inside).trans_le within
    · omega
    · refine lt_of_lt_of_le (Finset.card_lt_card ?_) within
      rw [Finset.filter_ssubset]
      exact ⟨other, inside, not_lt.mpr lower.le⟩

end P2pNet.Lib
