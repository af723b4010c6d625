/-
**Parts with marks between them.**

A list of parts is written with a mark before each of them. Parts without the mark can be read back
(`framed_inj`); a single part that has marks in it can be read as several, and nothing else can be mistaken
(`framed_eq_iff`). The first part of a text ends at the first mark (`append_mark_inj`). The bytes of a text tell the text (`Text.bytes_injective`), so
that a mark of one byte frames texts as a mark of one character does (`flatMap_bytes`). Parts with their length before
them may hold anything (`sized_append_inj`).
-/

import P2pNet.Lib.Bytes
import P2pNet.Lib.Text

namespace P2pNet.Lib

/-! ### Marks -/

section Marks

variable {α : Type} {mark : α}

/-- Nothing before the first mark is told by what comes after it. -/
theorem append_mark_inj {first second rest other : List α} (absent : mark ∉ first) (absent' : mark ∉ second) :
    first ++ mark :: rest = second ++ mark :: other ↔ first = second ∧ rest = other := by
  constructor
  · intro same
    rcases List.append_eq_append_iff.mp same with ⟨middle, longer, tail⟩ | ⟨middle, longer, tail⟩
    · cases middle with
      | nil =>
        rw [List.append_nil] at longer
        exact ⟨longer.symm, (List.cons.inj tail).2⟩
      | cons head middle =>
        obtain rfl := (List.cons.inj tail).1
        exact absurd (longer ▸ List.mem_append_right _ List.mem_cons_self) absent'
    · cases middle with
      | nil =>
        rw [List.append_nil] at longer
        exact ⟨longer, (List.cons.inj tail).2.symm⟩
      | cons head middle =>
        obtain rfl := (List.cons.inj tail).1
        exact absurd (longer ▸ List.mem_append_right _ List.mem_cons_self) absent
  · rintro ⟨rfl, rfl⟩
    rfl

/-- The parts, each with the mark before it. -/
def framed (mark : α) (parts : List (List α)) : List α := parts.flatMap (mark :: ·)

theorem framed_eq_cons {parts : List (List α)} (some : parts ≠ []) :
    framed mark parts = mark :: [mark].intercalate parts := by
  induction parts with
  | nil => exact absurd rfl some
  | cons part rest ih =>
    cases rest with
    | nil => simp [framed]
    | cons next others =>
      have later := ih (List.cons_ne_nil _ _)
      unfold framed at later ⊢
      rw [List.flatMap_cons, later, List.intercalate_cons_cons]
      simp

theorem mark_mem_intercalate {parts : List (List α)} (several : 2 ≤ parts.length) :
    mark ∈ [mark].intercalate parts := by
  cases parts with
  | nil => cases several
  | cons part rest =>
    cases rest with
    | nil => exact absurd several (by simp)
    | cons next others =>
      rw [List.intercalate_cons_cons]
      simp

/-- **One part that is read as several**: it has their text, with marks between them. -/
theorem singleton_framed_iff {whole : List α} {parts : List (List α)} (some : parts ≠ []) :
    framed mark [whole] = framed mark parts ↔ whole = [mark].intercalate parts := by
  rw [framed_eq_cons some, framed_eq_cons (List.cons_ne_nil _ _), List.cons.injEq]
  simp

variable [DecidableEq α]

/-- **Parts without the mark are read back.** -/
theorem framed_inj {first second : List (List α)} (absent : ∀ part ∈ first, mark ∉ part)
    (absent' : ∀ part ∈ second, mark ∉ part) : framed mark first = framed mark second ↔ first = second := by
  constructor
  · intro same
    by_cases none : first = []
    · subst none
      cases second with
      | nil => rfl
      | cons part rest => simp [framed] at same
    by_cases none' : second = []
    · subst none'
      cases first with
      | nil => rfl
      | cons part rest => simp [framed] at same
    rw [framed_eq_cons none, framed_eq_cons none'] at same
    rw [← List.splitOn_intercalate mark absent none, (List.cons.inj same).2,
      List.splitOn_intercalate mark absent' none']
  · rintro rfl
    rfl

/-- A single part that has the text of several, with marks between them. -/
def Imitates (mark : α) (parts others : List (List α)) : Prop :=
  2 ≤ others.length ∧ parts = [[mark].intercalate others]

omit [DecidableEq α] in
theorem Imitates.ne {parts others : List (List α)} (imitates : Imitates mark parts others) : parts ≠ others := by
  rintro rfl
  obtain ⟨several, single⟩ := imitates
  rw [single, List.length_singleton] at several
  omega

omit [DecidableEq α] in
theorem Imitates.framed_eq {parts others : List (List α)} (imitates : Imitates mark parts others) :
    framed mark parts = framed mark others := by
  obtain ⟨several, rfl⟩ := imitates
  refine (singleton_framed_iff ?_).mpr rfl
  rintro rfl
  cases several

omit [DecidableEq α] in
theorem imitates_of_framed_eq {whole : List α} {parts : List (List α)} (some : parts ≠ [])
    (same : framed mark [whole] = framed mark parts) : [whole] = parts ∨ Imitates mark [whole] parts := by
  obtain rfl := (singleton_framed_iff some).mp same
  by_cases several : 2 ≤ parts.length
  · exact .inr ⟨several, rfl⟩
  · cases parts with
    | nil => exact absurd rfl some
    | cons part rest =>
      rw [List.length_cons] at several
      obtain rfl := List.length_eq_zero_iff.mp (show rest.length = 0 by omega)
      exact .inl (by simp)

/-- **What can be mistaken**: parts are either without the mark or single, and then only a single part can be read as
other ones. -/
theorem framed_eq_iff {first second : List (List α)} (some : first ≠ []) (some' : second ≠ [])
    (readable : (∀ part ∈ first, mark ∉ part) ∨ ∃ whole, first = [whole])
    (readable' : (∀ part ∈ second, mark ∉ part) ∨ ∃ whole, second = [whole]) :
    framed mark first = framed mark second ↔
      first = second ∨ Imitates mark first second ∨ Imitates mark second first := by
  constructor
  · intro same
    rcases readable with absent | ⟨whole, rfl⟩
    · rcases readable' with absent' | ⟨whole, rfl⟩
      · exact .inl ((framed_inj absent absent').mp same)
      · rcases imitates_of_framed_eq some same.symm with equal | imitates
        · exact .inl equal.symm
        · exact .inr (.inr imitates)
    · exact (imitates_of_framed_eq some' same).imp_right .inl
  · rintro (rfl | imitates | imitates)
    · rfl
    · exact imitates.framed_eq
    · exact imitates.framed_eq.symm

end Marks

/-! ### Lengths -/

/-- A part after its length, as a word of eight bytes. -/
def sized (part : List UInt8) : List UInt8 := BigEndian.write 8 part.length ++ part

/-- A part with its length before it ends where it ends, whatever comes after it. -/
theorem sized_append_inj {first second rest other : List UInt8} (small : first.length < 2 ^ 64)
    (small' : second.length < 2 ^ 64) :
    sized first ++ rest = sized second ++ other ↔ first = second ∧ rest = other := by
  constructor
  · intro same
    rw [sized, sized, List.append_assoc, List.append_assoc] at same
    obtain ⟨words, parts⟩ := List.append_inj same (by simp)
    have lengths := congrArg BigEndian.read words
    rw [BigEndian.read_write, BigEndian.read_write, Nat.mod_eq_of_lt (by simpa using small),
      Nat.mod_eq_of_lt (by simpa using small')] at lengths
    exact List.append_inj parts lengths
  · rintro ⟨rfl, rfl⟩
    rfl

/-! ### Bytes of texts -/

namespace Text

theorem bytes_append (first second : String) : bytes (first ++ second) = bytes first ++ bytes second := by
  unfold bytes
  rw [String.toByteArray_append, ByteArray.data_append, Array.toList_append]

theorem bytes_injective : Function.Injective bytes := by
  intro first second same
  unfold bytes at same
  exact String.toByteArray_inj.mp (ByteArray.ext (Array.ext' same))

/-- `String::from_utf8`. -/
def fromUtf8 (raw : List UInt8) : Option String := String.fromUTF8? ⟨raw.toArray⟩

theorem fromUtf8_bytes (text : String) : fromUtf8 (bytes text) = some text := by
  unfold fromUtf8 bytes
  rw [Array.toArray_toList, String.fromUTF8?, dif_pos text.isValidUTF8]
  exact congrArg some (String.toByteArray_inj.mp rfl)

/-- A character has at least one byte. -/
theorem length_le_utf8ByteSize (text : String) : text.toList.length ≤ text.utf8ByteSize := by
  have general : ∀ chars : List Char, chars.length ≤ String.utf8Len chars := by
    intro chars
    induction chars with
    | nil => exact le_rfl
    | cons char rest ih =>
      rw [List.length_cons, String.utf8Len_cons]
      exact Nat.add_le_add ih char.utf8Size_pos
  have size := general text.toList
  rwa [← String.utf8ByteSize_ofList, String.ofList_toList] at size

/-- A null byte is the null character. -/
theorem bytes_nul : bytes "\x00" = [0] := by decide

/-- Texts framed by null bytes are a text framed by null characters. -/
theorem flatMap_bytes (texts : List String) : texts.flatMap (fun text => 0 :: bytes text) =
    bytes (String.ofList (framed '\x00' (texts.map String.toList))) := by
  induction texts with
  | nil => decide
  | cons text rest ih =>
    have frame : String.ofList (framed '\x00' ((text :: rest).map String.toList)) =
        "\x00" ++ text ++ String.ofList (framed '\x00' (rest.map String.toList)) := by
      apply String.toList_injective
      simp [framed]
    rw [List.flatMap_cons, ih, frame, bytes_append, bytes_append, bytes_nul]
    rfl

end Text

end P2pNet.Lib
