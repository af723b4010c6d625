/-
**First occurrences.**

`firstsBy key list` keeps the elements whose key does not occur earlier in the list. A program computes it
in one pass with a set of the keys seen (`pushNew`); `foldl_pushNew` says that the pass does so.
-/

import Mathlib

namespace P2pNet.Lib

variable {α κ : Type} [DecidableEq κ] (key : α → κ)

def firstsBy : List α → List α
  | [] => []
  | element :: rest => element :: (firstsBy rest).filter fun later => key later ≠ key element

theorem firstsBy_cons (element : α) (rest : List α) : firstsBy key (element :: rest)
    = element :: (firstsBy key rest).filter fun later => key later ≠ key element := rfl

theorem firstsBy_eq_nil_iff {list : List α} : firstsBy key list = [] ↔ list = [] := by
  cases list with
  | nil => exact Iff.rfl
  | cons element rest => exact iff_of_false (List.cons_ne_nil _ _) (List.cons_ne_nil _ _)

theorem firstsBy_sublist (list : List α) : List.Sublist (firstsBy key list) list := by
  induction list with
  | nil => exact List.Sublist.slnil
  | cons element rest ih => exact (List.filter_sublist.trans ih).cons_cons element

theorem nodup_map_firstsBy (list : List α) : ((firstsBy key list).map key).Nodup := by
  induction list with
  | nil => exact List.nodup_nil
  | cons element rest ih =>
    rw [firstsBy_cons, List.map_cons, List.nodup_cons]
    constructor
    · simp
    · exact ih.sublist (List.filter_sublist.map key)

theorem exists_mem_firstsBy {list : List α} {element : α} (member : element ∈ list) :
    ∃ first ∈ firstsBy key list, key first = key element := by
  induction list with
  | nil => cases member
  | cons head rest ih =>
    by_cases same : key head = key element
    · exact ⟨head, List.mem_cons_self, same⟩
    · have later : element ∈ rest := by
        refine (List.mem_cons.mp member).resolve_left fun first => ?_
        exact same (congrArg key first.symm)
      obtain ⟨first, inside, found⟩ := ih later
      refine ⟨first, List.mem_cons_of_mem head ?_, found⟩
      simp [inside, found, Ne.symm same]

/-- **What stays**: the elements that nothing of the same key precedes. -/
theorem mem_firstsBy_iff {list : List α} {element : α} : element ∈ firstsBy key list ↔
    ∃ before after, list = before ++ element :: after ∧ key element ∉ before.map key := by
  induction list with
  | nil => simp [firstsBy]
  | cons head rest ih =>
    rw [firstsBy_cons, List.mem_cons, List.mem_filter, ih]
    constructor
    · rintro (rfl | ⟨⟨before, after, split, fresh⟩, different⟩)
      · exact ⟨[], rest, rfl, by simp⟩
      · refine ⟨head :: before, after, by rw [split, List.cons_append], ?_⟩
        rw [List.map_cons, List.mem_cons, not_or]
        exact ⟨by simpa using different, fresh⟩
    · rintro ⟨before, after, split, fresh⟩
      cases before with
      | nil =>
        rw [List.nil_append, List.cons.injEq] at split
        exact .inl split.1.symm
      | cons first before =>
        rw [List.cons_append, List.cons.injEq] at split
        rw [List.map_cons, List.mem_cons, not_or, ← split.1] at fresh
        exact .inr ⟨⟨before, after, split.2, fresh.2⟩, by simpa using fresh.1⟩

theorem firstsBy_eq_self {list : List α} (nodup : (list.map key).Nodup) : firstsBy key list = list := by
  induction list with
  | nil => rfl
  | cons head rest ih =>
    rw [List.map_cons, List.nodup_cons] at nodup
    rw [firstsBy_cons, ih nodup.2]
    congr 1
    rw [List.filter_eq_self]
    intro later member
    exact decide_eq_true fun same => nodup.1 (same ▸ List.mem_map_of_mem member)

theorem firstsBy_append (before after : List α) : firstsBy key (before ++ after)
    = firstsBy key before ++ (firstsBy key after).filter fun later => key later ∉ before.map key := by
  induction before with
  | nil => simp [firstsBy]
  | cons head rest ih =>
    rw [List.cons_append, firstsBy_cons, ih, firstsBy_cons, List.filter_append, List.filter_filter, List.cons_append]
    congr 2
    refine List.filter_congr fun later _ => ?_
    rw [Bool.eq_iff_iff]
    simp

theorem firstsBy_map {β : Type} (translate : β → α) (list : List β) :
    firstsBy key (list.map translate) = (firstsBy (key ∘ translate) list).map translate := by
  induction list with
  | nil => rfl
  | cons head rest ih =>
    rw [List.map_cons, firstsBy_cons, ih, firstsBy_cons, List.map_cons, List.filter_map]
    rfl

/-- Keys that tell the same elements apart keep the same elements. -/
theorem firstsBy_congr {κ' : Type} [DecidableEq κ'] {other : α → κ'} {list : List α}
    (same : ∀ first ∈ list, ∀ second ∈ list, key first = key second ↔ other first = other second) :
    firstsBy key list = firstsBy other list := by
  induction list with
  | nil => rfl
  | cons head rest ih =>
    rw [firstsBy_cons, firstsBy_cons, ih fun first here second there =>
      same first (List.mem_cons_of_mem head here) second (List.mem_cons_of_mem head there)]
    congr 1
    refine List.filter_congr fun later member => ?_
    have inside := (firstsBy_sublist other rest).subset member
    exact decide_eq_decide.mpr (not_congr (same later (List.mem_cons_of_mem head inside) head List.mem_cons_self))

/-- Lists whose elements correspond, with keys that tell the same of them apart, keep corresponding elements. -/
theorem forall₂_firstsBy {β κ' : Type} [DecidableEq κ'] {relation : α → β → Prop} {other : β → κ'} {list : List α}
    {results : List β} (related : List.Forall₂ relation list results)
    (same : ∀ first second first' second', relation first first' → relation second second' →
      (key first = key second ↔ other first' = other second')) :
    List.Forall₂ relation (firstsBy key list) (firstsBy other results) := by
  induction related with
  | nil => exact .nil
  | @cons head result rest others found _ ih =>
    rw [firstsBy_cons, firstsBy_cons]
    refine .cons found (List.rel_filter ?_ ih)
    intro later later' found'
    simp only [decide_eq_true_eq]
    exact not_congr (same later head later' result found' found)

/-- **Only a full selection leaves a key out**: it is filled with elements that come earlier. -/
theorem take_firstsBy_covers (limit : ℕ) (before : List α) (element : α) (after : List α) :
    let selected := (firstsBy key (before ++ element :: after)).take limit
    (∃ chosen ∈ selected, key chosen = key element) ∨ selected.length = limit ∧ selected.Sublist before := by
  intro selected
  have split : selected = (firstsBy key before ++ (firstsBy key (element :: after)).filter fun later =>
      key later ∉ before.map key).take limit := by
    rw [← firstsBy_append]
  rw [List.take_append] at split
  by_cases full : limit ≤ (firstsBy key before).length
  · right
    rw [Nat.sub_eq_zero_of_le full, List.take_zero, List.append_nil] at split
    rw [split]
    exact ⟨List.length_take_of_le full, (List.take_sublist _ _).trans (firstsBy_sublist key before)⟩
  · left
    rw [List.take_of_length_le (by omega)] at split
    rw [split]
    by_cases known : key element ∈ before.map key
    · obtain ⟨earlier, inside, same⟩ := List.mem_map.mp known
      obtain ⟨chosen, member, found⟩ := exists_mem_firstsBy key inside
      exact ⟨chosen, List.mem_append_left _ member, found.trans same⟩
    · refine ⟨element, List.mem_append_right _ ?_, rfl⟩
      obtain ⟨room, place⟩ : ∃ room, limit - (firstsBy key before).length = room + 1 :=
        ⟨limit - (firstsBy key before).length - 1, by omega⟩
      rw [place, firstsBy_cons, List.filter_cons_of_pos (by simpa using known), List.take_succ_cons]
      exact List.mem_cons_self

/-! ### The first minimum -/

/-- `argmin` finds an element that is better than those before it and as good as those after it. -/
theorem argmin_eq_some_iff_split {score : α → ℕ} {list : List α} {best : α} : list.argmin score = some best ↔
    ∃ before after, list = before ++ best :: after ∧ (∀ other ∈ before, score best < score other) ∧
      ∀ other ∈ after, score best ≤ score other := by
  constructor
  · intro found
    induction list generalizing best with
    | nil => cases found
    | cons head rest ih =>
      rw [List.argmin_cons] at found
      cases later : rest.argmin score with
      | none =>
        rw [later] at found
        obtain rfl := Option.some.inj found
        rw [List.argmin_eq_none] at later
        exact ⟨[], rest, rfl, nofun, by simp [later]⟩
      | some winner =>
        simp only [later] at found
        obtain ⟨before, after, split, better, good⟩ := ih later
        split_ifs at found with less
        · obtain rfl := Option.some.inj found
          refine ⟨head :: before, after, by rw [split, List.cons_append], ?_, good⟩
          exact List.forall_mem_cons.mpr ⟨less, better⟩
        · obtain rfl := Option.some.inj found
          refine ⟨[], rest, rfl, nofun, fun other member => ?_⟩
          exact (not_lt.mp less).trans (List.le_of_mem_argmin member later)
  · rintro ⟨before, after, rfl, better, good⟩
    induction before with
    | nil =>
      rw [List.nil_append, List.argmin_cons]
      cases later : after.argmin score with
      | none => rfl
      | some winner => exact if_neg (not_lt.mpr (good winner (List.argmin_mem later)))
    | cons head rest ih =>
      rw [List.forall_mem_cons] at better
      rw [List.cons_append, List.argmin_cons, ih better.2]
      exact if_pos better.1

/-- The same for the elements that a partial reading finds. -/
theorem argmin_filterMap_eq_some_iff {β : Type} {read : β → Option α} {score : α → ℕ} {list : List β} {best : α} :
    (list.filterMap read).argmin score = some best ↔
      ∃ before element after, list = before ++ element :: after ∧ read element = some best ∧
        (∀ other ∈ before, ∀ found, read other = some found → score best < score found) ∧
          ∀ other ∈ after, ∀ found, read other = some found → score best ≤ score found := by
  have found_of : ∀ {part : List β} {other found}, other ∈ part → read other = some found →
      found ∈ part.filterMap read := fun member found => List.mem_filterMap.mpr ⟨_, member, found⟩
  rw [argmin_eq_some_iff_split]
  constructor
  · rintro ⟨before, after, split, better, good⟩
    obtain ⟨first, second, rfl, rfl, rest⟩ := List.filterMap_eq_append_iff.mp split
    obtain ⟨skipped, element, last, rfl, nothing, found, rfl⟩ := List.filterMap_eq_cons_iff.mp rest
    refine ⟨first ++ skipped, element, last, by rw [List.append_assoc], found, fun other member seen read => ?_,
      fun other member seen read => good seen (found_of member read)⟩
    rcases List.mem_append.mp member with early | skip
    · exact better seen (found_of early read)
    · rw [nothing other skip] at read
      cases read
  · rintro ⟨before, element, after, rfl, found, better, good⟩
    refine ⟨before.filterMap read, after.filterMap read, ?_, fun other member => ?_, fun other member => ?_⟩
    · rw [List.filterMap_append, List.filterMap_cons_some found]
    · obtain ⟨origin, inside, seen⟩ := List.mem_filterMap.mp member
      exact better origin inside other seen
    · obtain ⟨origin, inside, seen⟩ := List.mem_filterMap.mp member
      exact good origin inside other seen

/-! ### One pass -/

/-- The elements kept so far and their keys. -/
def pushNew (kept : List α × Finset κ) (element : α) : List α × Finset κ :=
  if key element ∈ kept.2 then kept else (kept.1 ++ [element], insert (key element) kept.2)

theorem foldl_pushNew (kept : List α × Finset κ) (list : List α) :
    (list.foldl (pushNew key) kept).1 = kept.1 ++ (firstsBy key list).filter fun later => key later ∉ kept.2 := by
  induction list generalizing kept with
  | nil => simp [firstsBy]
  | cons element rest ih =>
    rw [List.foldl_cons, ih, firstsBy_cons]
    unfold pushNew
    by_cases known : key element ∈ kept.2
    · rw [if_pos known, List.filter_cons_of_neg (by simpa using known), List.filter_filter]
      congr 1
      refine List.filter_congr fun later _ => ?_
      -- a later element of the same key is dropped by either test
      by_cases same : key later = key element
      · simp [same, known]
      · simp [same]
    · rw [if_neg known, List.filter_cons_of_pos (by simpa using known), List.filter_filter, List.append_assoc,
        List.singleton_append]
      congr 2
      refine List.filter_congr fun later _ => ?_
      rw [Bool.eq_iff_iff]
      simp [not_or, and_comm]

/-- The same pass with the list itself as the set of the keys seen. -/
def pushUniqueBy (kept : List α) (element : α) : List α :=
  if kept.any (key · = key element) then kept else kept ++ [element]

theorem foldl_pushUniqueBy (kept list : List α) : list.foldl (pushUniqueBy key) kept =
    kept ++ (firstsBy key list).filter fun later => key later ∉ kept.map key := by
  have pass : ∀ seen : List α, list.foldl (pushNew key) (seen, (seen.map key).toFinset)
      = (list.foldl (pushUniqueBy key) seen, ((list.foldl (pushUniqueBy key) seen).map key).toFinset) := by
    induction list with
    | nil => exact fun _ => rfl
    | cons element rest ih =>
      intro seen
      have first : pushNew key (seen, (seen.map key).toFinset) element
          = (pushUniqueBy key seen element, ((pushUniqueBy key seen element).map key).toFinset) := by
        unfold pushNew pushUniqueBy
        by_cases known : ∃ earlier ∈ seen, key earlier = key element
        · simp [known]
        · simp [known]
      rw [List.foldl_cons, first, ih, List.foldl_cons]
  have both := foldl_pushNew key (kept, (kept.map key).toFinset) list
  rw [pass] at both
  simpa using both

def pushUnique {α : Type} [DecidableEq α] (kept : List α) (element : α) : List α :=
  if kept.contains element then kept else kept ++ [element]

theorem pushUnique_eq {α : Type} [DecidableEq α] (kept : List α) : pushUnique kept = pushUniqueBy id kept := by
  funext element
  unfold pushUnique pushUniqueBy
  have same : kept.any (id · = id element) = kept.contains element := by
    rw [Bool.eq_iff_iff]
    simp
  rw [same]

theorem foldl_pushUnique {α : Type} [DecidableEq α] (kept list : List α) :
    list.foldl pushUnique kept = kept ++ (firstsBy id list).filter fun later => later ∉ kept := by
  rw [show (pushUnique : List α → α → List α) = pushUniqueBy id from funext pushUnique_eq, foldl_pushUniqueBy,
    List.map_id]
  rfl

/-! ### The most recent elements -/

section Recents

variable {α : Type} [DecidableEq α]

/-- The first different elements of a list, at most `limit`. -/
def recents (limit : ℕ) (list : List α) : List α := (firstsBy id list).take limit

theorem take_filter_take {list : List α} (nodup : list.Nodup) (element : α) (count : ℕ) :
    ((list.take (count + 1)).filter (· ≠ element)).take count = (list.filter (· ≠ element)).take count := by
  induction list generalizing count with
  | nil => rfl
  | cons head rest ih =>
    rw [List.nodup_cons] at nodup
    rw [List.take_succ_cons]
    by_cases same : head = element
    · -- the element itself goes, and with it the only place that is lost
      subst same
      have others : ∀ {part : List α}, part.Sublist rest → part.filter (· ≠ head) = part := by
        intro part inside
        rw [List.filter_eq_self]
        intro later member
        exact decide_eq_true fun again => nodup.1 (again ▸ inside.subset member)
      rw [List.filter_cons_of_neg (by simp), List.filter_cons_of_neg (by simp), others (List.take_sublist _ _),
        others (List.Sublist.refl rest), List.take_take, min_self]
    · rw [List.filter_cons_of_pos (by simpa using same), List.filter_cons_of_pos (by simpa using same)]
      cases count with
      | zero => rfl
      | succ count => rw [List.take_succ_cons, List.take_succ_cons, ih nodup.2]

theorem nodup_firstsBy_id (list : List α) : (firstsBy id list).Nodup := by
  have keys := nodup_map_firstsBy id list
  rwa [List.map_id] at keys

/-- **An element moves to the front** of the most recent ones. -/
theorem recents_cons (limit : ℕ) (element : α) (list : List α) :
    recents limit (element :: list) = (element :: (recents limit list).filter (· ≠ element)).take limit := by
  unfold recents
  cases limit with
  | zero => rfl
  | succ count =>
    rw [firstsBy_cons, List.take_succ_cons, List.take_succ_cons, take_filter_take (nodup_firstsBy_id list)]
    rfl

theorem recents_eq_self {limit : ℕ} {list : List α} (nodup : list.Nodup) (within : list.length ≤ limit) :
    recents limit list = list := by
  unfold recents
  rw [firstsBy_eq_self id (by rwa [List.map_id]), List.take_of_length_le within]

theorem nodup_recents (limit : ℕ) (list : List α) : (recents limit list).Nodup :=
  (nodup_firstsBy_id list).sublist (List.take_sublist _ _)

theorem length_recents_le (limit : ℕ) (list : List α) : (recents limit list).length ≤ limit := List.length_take_le _ _

end Recents

end P2pNet.Lib
