/-
**Occurrences across a seam.**

Where a list is cut before a separator, a pattern can lie across the cut only if it has that separator
inside. `cuts mark pattern` are the parts of a pattern that stand before one of its inner separators;
when none of them ends the left part, an occurrence in `left ++ right` is one in `left` or one in `right`.
-/

import P2pNet.Lib.Text

namespace P2pNet.Lib

variable {α : Type}

/-- Empty, or with the separator in front. -/
def Led (mark : α) (list : List α) : Prop := list = [] ∨ ∃ rest, list = mark :: rest

section Cuts

variable [DecidableEq α]

/-- What stands in a pattern before each of its inner separators. -/
def cuts (mark : α) (pattern : List α) : List (List α) :=
  ((List.range pattern.length).filter fun place => 0 < place ∧ pattern[place]? = some mark).map
    pattern.take

theorem mem_cuts {mark : α} {front back : List α} (nonempty : front ≠ []) :
    front ∈ cuts mark (front ++ mark :: back) := by
  refine List.mem_map.mpr ⟨front.length, List.mem_filter.mpr ⟨?_, ?_⟩, List.take_left⟩
  · simp
  · simpa using List.length_pos_iff.mpr nonempty

/-- **An occurrence in a list cut before a separator.** -/
theorem infix_append_iff_of_cuts {mark : α} {pattern left right : List α} (led : Led mark right)
    (apart : ∀ front ∈ cuts mark pattern, ¬ front <:+ left) :
    pattern <:+: left ++ right ↔ pattern <:+: left ∨ pattern <:+: right := by
  constructor
  · rintro ⟨before, after, whole⟩
    rw [List.append_assoc] at whole
    rcases List.append_eq_append_iff.mp whole with ⟨rest, rfl, rest_eq⟩ | ⟨rest, rfl, rest_eq⟩
    · rcases List.append_eq_append_iff.mp rest_eq with ⟨tail, rfl, -⟩ | ⟨tail, split, tail_eq⟩
      · exact .inl ⟨before, tail, by rw [List.append_assoc]⟩
      -- the pattern reaches over the cut unless one of its two sides there is empty
      · rcases led with rfl | ⟨next, rfl⟩
        · rw [(List.append_eq_nil_iff.mp tail_eq.symm).1, List.append_nil] at split
          exact .inl ⟨before, [], by rw [split, List.append_nil]⟩
        · cases tail with
          | nil =>
            rw [List.append_nil] at split
            exact .inl ⟨before, [], by rw [split, List.append_nil]⟩
          | cons head tail =>
            obtain ⟨rfl, -⟩ := List.cons_eq_cons.mp tail_eq
            by_cases empty : rest = []
            · subst empty
              rw [List.nil_append] at split
              exact .inr ⟨[], after, by rw [tail_eq, List.nil_append, split]⟩
            · exact absurd (List.suffix_append before rest) (apart rest (split ▸ mem_cuts empty))
    · exact .inr ⟨rest, after, by rw [rest_eq, List.append_assoc]⟩
  · rintro (inside | inside)
    · exact List.infix_append_of_infix_left inside
    · exact List.infix_append_of_infix_right inside

end Cuts

/-- A pattern with no separator inside stands at the end of a list cut before a separator only if it
stands at the end of the part after the cut. -/
theorem suffix_append_iff_of_led {mark : α} {pattern left next : List α}
    (inner : mark ∉ pattern.tail) :
    pattern <:+ left ++ mark :: next ↔ pattern <:+ mark :: next := by
  constructor
  · intro ends
    rcases List.suffix_or_suffix_of_suffix ends (List.suffix_append left (mark :: next)) with
      shorter | ⟨front, longer⟩
    · exact shorter
    · cases front with
      | nil => exact ⟨[], by rw [← longer]; rfl⟩
      | cons head front =>
        refine absurd ?_ inner
        rw [← longer]
        simp
  · exact List.suffix_append_of_suffix

/-- The same at the front. -/
theorem prefix_append_iff_of_led {mark : α} {pattern right : List α} (led : Led mark right)
    (inner : mark ∉ pattern.tail) (head : α) (left : List α) :
    pattern <+: head :: (left ++ right) ↔ pattern <+: head :: left := by
  rw [← List.cons_append]
  constructor
  · intro starts
    rcases List.prefix_or_prefix_of_prefix starts (List.prefix_append (head :: left) right) with
      shorter | ⟨back, rfl⟩
    · exact shorter
    · rw [List.prefix_append_right_inj] at starts
      cases back with
      | nil => rw [List.append_nil]
      | cons first back =>
        rcases led with rfl | ⟨next, rfl⟩
        · exact absurd (List.prefix_nil.mp starts) (List.cons_ne_nil _ _)
        · obtain ⟨rfl, -⟩ := List.cons_prefix_cons.mp starts
          simp at inner
  · exact fun starts => starts.trans (List.prefix_append _ _)

namespace Text

theorem contains_eq_true_iff {text part : String} :
    contains text part = true ↔ part.toList <:+: text.toList := decide_eq_true_iff

theorem contains_eq_false_iff {text part : String} :
    contains text part = false ↔ ¬ part.toList <:+: text.toList := decide_eq_false_iff_not

theorem endsWith_eq_false_iff {text part : String} :
    endsWith text part = false ↔ ¬ part.toList <:+ text.toList := decide_eq_false_iff_not

theorem beforeChars_eq_self {part text : List Char} (absent : ¬ part <:+: text) :
    beforeChars part text = text := by
  induction text with
  | nil => rfl
  | cons char rest ih =>
    rw [List.infix_cons_iff, not_or] at absent
    rw [beforeChars, if_neg absent.1, ih absent.2]

theorem Led.beforeChars {mark : Char} {part text : List Char} (led : Led mark text) :
    Led mark (beforeChars part text) := by
  rcases led with rfl | ⟨rest, rfl⟩
  · exact .inl rfl
  · unfold Text.beforeChars
    split_ifs
    · exact .inl rfl
    · exact .inr ⟨_, rfl⟩

/-- **What stands before the first occurrence**, in a text cut before a separator. -/
theorem beforeChars_append {mark : Char} {part right : List Char} (led : Led mark right)
    (nonempty : part ≠ []) (inner : mark ∉ part.tail) (left : List Char) :
    beforeChars part (left ++ right)
      = if part <:+: left then beforeChars part left else left ++ beforeChars part right := by
  induction left with
  | nil => rw [if_neg (fun inside => nonempty (List.infix_nil.mp inside)), List.nil_append, List.nil_append]
  | cons head left ih =>
    have front := prefix_append_iff_of_led led inner head left
    by_cases here : part <+: head :: left
    · rw [if_pos (List.infix_cons_iff.mpr (.inl here)), List.cons_append, beforeChars, beforeChars,
        if_pos (front.mpr here), if_pos here]
    · have later : part <:+: head :: left ↔ part <:+: left := by
        rw [List.infix_cons_iff, or_iff_right here]
      rw [List.cons_append, beforeChars, beforeChars, if_neg (mt front.mp here), if_neg here, ih]
      simp only [later]
      split_ifs <;> rfl

end Text

end P2pNet.Lib
