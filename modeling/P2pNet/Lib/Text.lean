/-
**Texts.**

The standard library's character classes and `str::trim`, over the characters of a text. A byte test
such as "every byte is an ASCII letter" is written over characters: a character outside ASCII has only
bytes from 128 on, which no ASCII class contains, so both tests accept the same texts. Numbers are
written in decimal, and no two of them alike (`repr_injective`).
-/

import Mathlib

namespace P2pNet.Lib.Text

/-- `char::is_whitespace`: the Unicode `White_Space` characters. -/
def isWhitespace (char : Char) : Bool :=
  let code := char.toNat
  (9 ≤ code && code ≤ 13) || code == 0x20 || code == 0x85 || code == 0xA0 || code == 0x1680
    || (0x2000 ≤ code && code ≤ 0x200A) || code == 0x2028 || code == 0x2029 || code == 0x202F
    || code == 0x205F || code == 0x3000

/-- `str::trim`. -/
def trim (text : String) : String :=
  String.ofList ((text.toList.dropWhile isWhitespace).rdropWhile isWhitespace)

/-- `u8::is_ascii_alphanumeric`. -/
def isAsciiAlphanumeric (char : Char) : Bool :=
  let code := char.toNat
  (48 ≤ code && code ≤ 57) || (65 ≤ code && code ≤ 90) || (97 ≤ code && code ≤ 122)

/-- `str::to_ascii_lowercase`. -/
def toAsciiLowercase (text : String) : String :=
  String.ofList (text.toList.map fun char =>
    if 65 ≤ char.toNat ∧ char.toNat ≤ 90 then Char.ofNat (char.toNat + 32) else char)

/-- `str::as_bytes`. -/
def bytes (text : String) : List UInt8 := text.toByteArray.data.toList

/-! ### Parts of a text -/

/-- `str::contains`. -/
def contains (text part : String) : Bool := decide (part.toList <:+: text.toList)

/-- `str::ends_with`. -/
def endsWith (text part : String) : Bool := decide (part.toList <:+ text.toList)

def beforeChars (part : List Char) : List Char → List Char
  | [] => []
  | char :: rest => if part <+: char :: rest then [] else char :: beforeChars part rest

/-- `text.split(part).next()`: what stands before the first occurrence, or everything. -/
def before (text part : String) : String := String.ofList (beforeChars part.toList text.toList)

/-- `text.split(separator)`. -/
def split (text : String) (separator : Char) : List String :=
  (text.toList.splitOn separator).map String.ofList

/-- `text.strip_prefix(part)`. -/
def stripPrefix (text part : String) : Option String :=
  if part.toList <+: text.toList then some (String.ofList (text.toList.drop part.toList.length)) else none

/-- `text.split_once(separator)`: what stands before and after the first occurrence. -/
def splitOnce (text : String) (separator : Char) : Option (String × String) :=
  match text.toList.span (· ≠ separator) with
  | (_, []) => none
  | (before, _ :: after) => some (String.ofList before, String.ofList after)

/-- `text.trim_end_matches(char)`. -/
def trimEndMatches (text : String) (char : Char) : String := String.ofList (text.toList.rdropWhile (· = char))

/-- **The first occurrence** of a separator. -/
theorem splitOnce_eq_some_iff {text before after : String} {separator : Char} :
    splitOnce text separator = some (before, after) ↔
      text.toList = before.toList ++ separator :: after.toList ∧ separator ∉ before.toList := by
  unfold splitOnce
  rw [List.span_eq_takeWhile_dropWhile]
  constructor
  · intro found
    have whole := List.takeWhile_append_dropWhile (p := (· ≠ separator)) (l := text.toList)
    have stops := List.head?_dropWhile_not (· ≠ separator) text.toList
    cases rest : text.toList.dropWhile (· ≠ separator) with
    | nil =>
      rw [rest] at found
      cases found
    | cons first tail =>
      rw [rest] at found whole stops
      cases found
      have same : first = separator := by simpa using stops
      subst same
      refine ⟨by simpa using whole.symm, fun member => ?_⟩
      rw [String.toList_ofList] at member
      simpa using List.mem_takeWhile_imp member
  · rintro ⟨whole, absent⟩
    have passes : ∀ char ∈ before.toList, decide (char ≠ separator) = true := by
      intro char member
      rw [decide_eq_true_eq]
      rintro rfl
      exact absent member
    rw [whole, List.takeWhile_append_of_pos passes, List.dropWhile_append_of_pos passes]
    simp

theorem splitOnce_eq_none_iff {text : String} {separator : Char} :
    splitOnce text separator = none ↔ separator ∉ text.toList := by
  constructor
  · intro none member
    obtain ⟨before, after, split, absent⟩ := List.eq_append_cons_of_mem member
    have found := @splitOnce_eq_some_iff text (String.ofList before) (String.ofList after) separator
    simp only [String.toList_ofList] at found
    rw [found.mpr ⟨split, absent⟩] at none
    cases none
  · intro absent
    cases found : splitOnce text separator with
    | none => rfl
    | some parts =>
      obtain ⟨whole, _⟩ := splitOnce_eq_some_iff.mp found
      exact absurd (by simp [whole]) absent

theorem stripPrefix_eq_some_iff {text part rest : String} :
    stripPrefix text part = some rest ↔ text = part ++ rest := by
  unfold stripPrefix
  rw [Option.ite_none_right_eq_some, Option.some_inj]
  constructor
  · rintro ⟨⟨tail, whole⟩, rfl⟩
    apply String.toList_inj.mp
    rw [String.toList_append, String.toList_ofList, ← whole, List.drop_left]
  · rintro rfl
    rw [String.toList_append, List.drop_left, String.ofList_toList]
    exact ⟨List.prefix_append _ _, rfl⟩

/-! ### White space -/

/-- No visible ASCII character is white space. -/
theorem isWhitespace_of_visible {char : Char} (visible : 33 ≤ char.toNat ∧ char.toNat ≤ 126) :
    isWhitespace char = false := by
  unfold isWhitespace
  simp only [Bool.or_eq_false_iff, Bool.and_eq_false_iff, decide_eq_false_iff_not, beq_eq_false_iff_ne]
  omega

theorem mem_trim_iff {text : String} {char : Char} (solid : isWhitespace char = false) :
    char ∈ (trim text).toList ↔ char ∈ text.toList := by
  unfold trim
  rw [String.toList_ofList]
  constructor
  · exact fun member => (List.dropWhile_suffix _).subset ((List.rdropWhile_prefix _ _).subset member)
  · intro member
    have kept (chars : List Char) (inside : char ∈ chars) : char ∈ chars.dropWhile isWhitespace := by
      rw [← List.takeWhile_append_dropWhile (p := isWhitespace) (l := chars)] at inside
      refine (List.mem_append.mp inside).resolve_left fun early => ?_
      have white := List.mem_takeWhile_imp early
      simp [solid] at white
    unfold List.rdropWhile
    rw [List.mem_reverse]
    exact kept _ (List.mem_reverse.mpr (kept _ member))

/-- A text without white space is its own trimming. -/
theorem trim_of_forall {text : String} (solid : ∀ char ∈ text.toList, isWhitespace char = false) :
    trim text = text := by
  have front : text.toList.dropWhile isWhitespace = text.toList := by
    rw [List.dropWhile_eq_self_iff]
    intro nonempty
    simp [solid _ (List.getElem_mem nonempty)]
  have back : text.toList.rdropWhile isWhitespace = text.toList := by
    rw [List.rdropWhile_eq_self_iff]
    intro nonempty
    simp [solid _ (List.getLast_mem nonempty)]
  rw [trim, front, back, String.ofList_toList]

/-! ### Decimal numbers -/

/-- `str::parse` of an unsigned type with the given maximum: digits, after a sign at most. -/
def parseUnsigned (maximum : ℕ) (text : String) : Option ℕ :=
  let digits : List Char := match text.toList with
    | '+' :: rest => rest
    | chars => chars
  let number := digits.foldl (fun number char => 10 * number + (char.toNat - 48)) 0
  if digits ≠ [] ∧ digits.all Char.isDigit ∧ number ≤ maximum then some number else none

theorem digitChar_injective {first second : ℕ} (small : first < 10) (small' : second < 10)
    (same : first.digitChar = second.digitChar) : first = second := by
  have values := congrArg Char.toNat same
  rw [Nat.toNat_digitChar_of_lt_ten small, Nat.toNat_digitChar_of_lt_ten small'] at values
  omega

theorem toDigits_injective : Function.Injective (Nat.toDigits 10) := by
  intro first second same
  induction first using Nat.strong_induction_on generalizing second with
  | _ first ih =>
    rw [Nat.toDigits_eq_if (by norm_num), Nat.toDigits_eq_if (n := second) (by norm_num)] at same
    -- numbers of one digit and longer ones cannot agree, the others agree in the last digit and before it
    split_ifs at same with small small' small'
    · exact digitChar_injective small small' (List.singleton_inj.mp same)
    · have lengths := congrArg List.length same
      simp at lengths
    · have lengths := congrArg List.length same
      simp at lengths
    · obtain ⟨high, low⟩ := List.append_inj' same rfl
      have highs := ih (first / 10) (by omega) high
      have lows := digitChar_injective (Nat.mod_lt _ (by norm_num)) (Nat.mod_lt _ (by norm_num))
        (List.singleton_inj.mp low)
      omega

theorem repr_injective : Function.Injective Nat.repr := by
  intro first second same
  have digits := congrArg String.toList same
  rw [Nat.toList_repr, Nat.toList_repr] at digits
  exact toDigits_injective digits

example : before "/tcp/443/p2p-circuit/p2p" "/p2p-circuit" = "/tcp/443" := by decide

example : trim " fragment-test\n" = "fragment-test" := by decide

end P2pNet.Lib.Text
