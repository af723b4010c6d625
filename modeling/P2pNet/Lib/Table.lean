/-
**Finite tables and their weighted totals.**

A hash map is an association list without repeated keys (`AList`). Mathlib has its lookups,
insertions and removals; this file adds what an accounting argument needs.

A weight may look at the key, so the total of one owner's entries is the total of a weight that is
zero on every other owner's keys.
-/

import Mathlib

set_option linter.unusedSectionVars false

namespace P2pNet.Lib

abbrev Table (K V : Type) := AList fun _ : K => V

namespace Table

variable {K V : Type} [DecidableEq K]

/-! ### Lookups -/

theorem lookup_insert_eq (table : Table K V) (key other : K) (value : V) :
    (table.insert key value).lookup other = if other = key then some value else table.lookup other := by
  by_cases same : other = key
  · subst same
    rw [if_pos rfl, AList.lookup_insert]
  · rw [if_neg same, AList.lookup_insert_ne same]

theorem lookup_erase_eq (table : Table K V) (key other : K) :
    (table.erase key).lookup other = if other = key then none else table.lookup other := by
  by_cases same : other = key
  · subst same
    rw [if_pos rfl, AList.lookup_erase]
  · rw [if_neg same, AList.lookup_erase_ne same]

theorem erase_insert (table : Table K V) (key : K) (value : V) :
    (table.insert key value).erase key = table.erase key := by
  apply AList.ext
  show ((⟨key, value⟩ : Sigma fun _ : K => V) :: table.entries.kerase key).kerase key = _
  exact List.kerase_cons_eq rfl

theorem mem_entries_iff {table : Table K V} {key : K} {value : V} :
    (⟨key, value⟩ : Sigma fun _ : K => V) ∈ table.entries ↔ table.lookup key = some value :=
  AList.mem_lookup_iff.symm

def retain (keep : K → V → Bool) (table : Table K V) : Table K V :=
  ⟨table.entries.filter fun entry => keep entry.1 entry.2,
    table.nodupKeys.sublist List.filter_sublist⟩

theorem lookup_retain (keep : K → V → Bool) (table : Table K V) (key : K) :
    (retain keep table).lookup key = (table.lookup key).filter (keep key) := by
  apply Option.ext
  intro value
  rw [← mem_entries_iff, Option.filter_eq_some_iff, ← mem_entries_iff]
  simp only [retain, List.mem_filter]

/-- The table with every value changed. -/
def mapValues (change : V → V) (table : Table K V) : Table K V :=
  ⟨table.entries.map fun entry => ⟨entry.1, change entry.2⟩, by
    have keys : (table.entries.map fun entry => (⟨entry.1, change entry.2⟩ : Sigma fun _ : K => V)).keys
        = table.entries.keys := List.map_map
    unfold List.NodupKeys
    rw [keys]
    exact table.nodupKeys⟩

/-- The entries by their keys. -/
def inKeyOrder {K V : Type} [LinearOrder K] (table : Table K V) : List (K × V) :=
  (table.entries.map fun entry => (entry.1, entry.2)).mergeSort fun first second => decide (first.1 ≤ second.1)

theorem mem_inKeyOrder {K V : Type} [LinearOrder K] {table : Table K V} {key : K} {value : V} :
    (key, value) ∈ inKeyOrder table ↔ table.lookup key = some value := by
  unfold inKeyOrder
  rw [List.mem_mergeSort, List.mem_map, ← mem_entries_iff]
  constructor
  · rintro ⟨⟨_, _⟩, member, same⟩
    cases same
    exact member
  · exact fun member => ⟨⟨key, value⟩, member, rfl⟩

/-- The value of a key together with the table that holds it: the stored one, or the given one
after it has been inserted. -/
def entryOr (key : K) (fresh : V) (table : Table K V) : V × Table K V :=
  match table.lookup key with
  | some value => (value, table)
  | none => (fresh, table.insert key fresh)

/-- The key is in the table afterwards, and nothing else has changed. -/
theorem entryOr_eq (key : K) (fresh : V) (table : Table K V) :
    ∃ after : Table K V, table.entryOr key fresh = ((table.lookup key).getD fresh, after) ∧
      (∀ other, (after.lookup other).getD fresh = (table.lookup other).getD fresh) ∧
      ∀ other ∈ after, other = key ∨ other ∈ table := by
  unfold entryOr
  cases stored : table.lookup key with
  | some value => exact ⟨table, rfl, fun _ => rfl, fun _ => .inr⟩
  | none =>
    refine ⟨table.insert key fresh, rfl, fun other => ?_, fun other => (AList.mem_insert table).mp⟩
    rw [lookup_insert_eq]
    by_cases same : other = key
    · subst same
      rw [if_pos rfl, stored]
      rfl
    · rw [if_neg same]

/-! ### Totals -/

def total (weight : K → V → ℕ) (table : Table K V) : ℕ :=
  (table.entries.map fun entry => weight entry.1 entry.2).sum

/-- **Removing an entry removes its weight.** -/
theorem total_erase (weight : K → V → ℕ) {table : Table K V} {key : K} {value : V}
    (found : table.lookup key = some value) :
    total weight table = weight key value + total weight (table.erase key) := by
  have member : key ∈ table.entries.keys := by
    have inside : key ∈ table := by
      rw [← AList.lookup_isSome, found]
      rfl
    exact AList.mem_keys.mp inside
  obtain ⟨stored, before, after, _, split, erased⟩ := List.exists_of_kerase member
  have same : stored = value := by
    have inside : (⟨key, stored⟩ : Sigma fun _ : K => V) ∈ table.entries := by
      rw [split]
      simp
    rw [mem_entries_iff, found] at inside
    exact (Option.some.inj inside).symm
  subst same
  show (table.entries.map _).sum = _ + ((table.entries.kerase key).map _).sum
  rw [erased, split]
  simp only [List.map_append, List.map_cons, List.sum_append, List.sum_cons]
  omega

theorem total_erase_absent (weight : K → V → ℕ) {table : Table K V} {key : K}
    (absent : table.lookup key = none) : total weight (table.erase key) = total weight table := by
  show ((table.entries.kerase key).map _).sum = _
  rw [List.kerase_of_notMem_keys (AList.lookup_eq_none.mp absent)]
  rfl

theorem total_insert (weight : K → V → ℕ) (table : Table K V) (key : K) (value : V) :
    total weight (table.insert key value) = weight key value + total weight (table.erase key) := rfl

/-- **A new entry adds its weight.** -/
theorem total_insert_new (weight : K → V → ℕ) {table : Table K V} {key : K} (value : V)
    (absent : table.lookup key = none) :
    total weight (table.insert key value) = weight key value + total weight table := by
  rw [total_insert, total_erase_absent weight absent]

/-- **A replaced entry trades its weight.** -/
theorem total_insert_old (weight : K → V → ℕ) {table : Table K V} {key : K} {old : V} (value : V)
    (found : table.lookup key = some old) :
    total weight (table.insert key value) + weight key old = weight key value + total weight table := by
  rw [total_insert, total_erase weight found]
  omega

theorem length_eq_total (table : Table K V) : table.entries.length = total (fun _ _ => 1) table := by
  simp [total]

/-- Replacing an entry keeps the number of entries. -/
theorem length_insert_old {table : Table K V} {key : K} {old : V} (value : V)
    (found : table.lookup key = some old) :
    (table.insert key value).entries.length = table.entries.length := by
  have trade := total_insert_old (fun _ _ => 1) value found
  rw [← length_eq_total, ← length_eq_total] at trade
  omega

theorem length_insert_new {table : Table K V} {key : K} (value : V) (absent : table.lookup key = none) :
    (table.insert key value).entries.length = table.entries.length + 1 := by
  rw [length_eq_total, total_insert_new _ _ absent, ← length_eq_total]
  exact Nat.add_comm _ _

/-! ### Removing many keys -/

theorem le_total (weight : K → V → ℕ) {table : Table K V} {key : K} {value : V}
    (found : table.lookup key = some value) : weight key value ≤ total weight table := by
  rw [total_erase weight found]
  omega

/-- Totals compare as the weights do on the entries. -/
theorem total_le_total {first second : K → V → ℕ} {table : Table K V}
    (pointwise : ∀ key value, table.lookup key = some value → first key value ≤ second key value) :
    total first table ≤ total second table :=
  List.sum_le_sum fun entry member => pointwise entry.1 entry.2 (mem_entries_iff.mp member)

/-- Two tables with the same lookups have the same totals. -/
theorem total_of_lookup_eq (weight : K → V → ℕ) {first second : Table K V}
    (same : ∀ key, first.lookup key = second.lookup key) : total weight first = total weight second := by
  have rearranged : first.entries.Perm second.entries := by
    refine List.lookup_ext first.nodupKeys second.nodupKeys fun key value => ?_
    show value ∈ first.lookup key ↔ value ∈ second.lookup key
    rw [same key]
  exact (rearranged.map _).sum_eq

theorem total_retain_le (weight : K → V → ℕ) (keep : K → V → Bool) (table : Table K V) :
    total weight (retain keep table) ≤ total weight table :=
  (List.filter_sublist.map _).sum_le_sum fun _ _ => Nat.zero_le _

end Table

end P2pNet.Lib
