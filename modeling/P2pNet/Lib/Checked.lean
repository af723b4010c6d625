/-
**Operations that fault or saturate.**

Indexing, slicing and `expect` abort a program when their argument is out of range (`Fault`);
saturating arithmetic instead stops at the end of its type. A function that subtracts is written over
a `SubMode`: `saturatingSub` is what the program runs, and `exactSub` faults where `saturatingSub`
would clip, so that "this subtraction never clips" is "the exact run does not fault".

`rejectIf` is a check that returns early with an error; `rejectIf_ok_iff`, `bind_ok_iff`,
`bind_unit_ok_iff` and `mapM_ok_iff` turn "a chain of checks succeeds" into the conjunction of its
conditions, and `foldlM_guarded` does so for a scan.

The unsigned 64-bit operations are read through `toNat`; `saturated_window` says that scaling by a
constant keeps an inequality between times even when the products stop at the top of the type.
-/

import Mathlib

namespace P2pNet.Lib

inductive Fault
  | indexOutOfBounds
  | sliceOutOfRange
  | expectFailed
  | subtractionClipped
  deriving DecidableEq, Repr

abbrev SubMode := ℕ → ℕ → Except Fault ℕ

def saturatingSub : SubMode := fun a b => .ok (a - b)

/-- Exact subtraction: faults where the saturating one would clip. -/
def exactSub : SubMode := fun a b => if b ≤ a then .ok (a - b) else .error .subtractionClipped

/-- A mode that is subtraction wherever subtraction does not clip. -/
def SubMode.Sound (sub : SubMode) : Prop := ∀ a b, b ≤ a → sub a b = .ok (a - b)

theorem saturatingSub_sound : SubMode.Sound saturatingSub := fun _ _ _ => rfl

theorem exactSub_sound : SubMode.Sound exactSub := fun _ _ within => if_pos within

def wordMax : ℕ := 2 ^ 64 - 1

def saturatingAdd (a b : ℕ) : ℕ := min (a + b) wordMax

theorem saturatingAdd_eq {a b : ℕ} (within : a + b ≤ wordMax) : saturatingAdd a b = a + b :=
  min_eq_left within

theorem saturatingAdd_le_iff {a b limit : ℕ} (small : limit < wordMax) :
    saturatingAdd a b ≤ limit ↔ a + b ≤ limit := by
  unfold saturatingAdd
  omega

/-- The part of a list from one position up to another; both must lie inside it. -/
def slice {α : Type} (data : List α) (first last : ℕ) : Except Fault (List α) :=
  if first ≤ last ∧ last ≤ data.length then .ok ((data.drop first).take (last - first))
  else .error .sliceOutOfRange

/-- `slice::get(first..last)`. -/
def getRange {α : Type} (data : List α) (first last : ℕ) : Option (List α) := (slice data first last).toOption

/-- **A part between two others.** -/
theorem slice_middle {α : Type} {front middle back : List α} {first last : ℕ} (begins : first = front.length)
    (ends : last = front.length + middle.length) : slice (front ++ (middle ++ back)) first last = .ok middle := by
  subst begins ends
  unfold slice
  rw [if_pos, List.drop_left, Nat.add_sub_cancel_left, List.take_left]
  rw [List.length_append, List.length_append]
  omega

/-- `checked_add` on 64-bit words. -/
def checkedAdd (a b : ℕ) : Option ℕ := if a + b ≤ wordMax then some (a + b) else none

/-! ### Early exits -/

section EarlyExit

variable {ε α β : Type}

/-- `if bad { return Err(error) }`. -/
def rejectIf (bad : Prop) [Decidable bad] (error : ε) : Except ε Unit :=
  if bad then .error error else .ok ()

theorem rejectIf_ok_iff {bad : Prop} [Decidable bad] {error : ε} :
    rejectIf bad error = .ok () ↔ ¬ bad := by
  unfold rejectIf
  split_ifs with holds
  · simp [holds]
  · simp [holds]

theorem rejectIf_pos {bad : Prop} [Decidable bad] (holds : bad) (error : ε) :
    rejectIf bad error = .error error := if_pos holds

theorem rejectIf_neg {bad : Prop} [Decidable bad] (fails : ¬ bad) (error : ε) :
    rejectIf bad error = .ok () := if_neg fails

/-- `Option::ok_or`. -/
def okOr (error : ε) : Option α → Except ε α
  | some value => .ok value
  | none => .error error

theorem okOr_ok_iff {error : ε} {first : Option α} {value : α} :
    okOr error first = .ok value ↔ first = some value := by
  cases first with
  | none => simp [okOr]
  | some stored => simp [okOr]

theorem ok_bind (value : α) (next : α → Except ε β) : (Except.ok value >>= next) = next value := rfl

theorem error_bind (error : ε) (next : α → Except ε β) : (Except.error error >>= next) = .error error := rfl

theorem bind_ok_iff {first : Except ε α} {next : α → Except ε β} {result : β} :
    (first >>= next) = .ok result ↔ ∃ value, first = .ok value ∧ next value = .ok result := by
  cases first with
  | error reason => simp [Bind.bind, Except.bind]
  | ok value => simp [Bind.bind, Except.bind]

theorem bind_unit_ok_iff {first : Except ε Unit} {next : Unit → Except ε β} {result : β} :
    (first >>= next) = .ok result ↔ first = .ok () ∧ next () = .ok result := by
  rw [bind_ok_iff]
  exact ⟨fun ⟨_, exits, rest⟩ => ⟨exits, rest⟩, fun ⟨exits, rest⟩ => ⟨(), exits, rest⟩⟩

theorem mapError_ok_iff {ε' : Type} {map : ε → ε'} {first : Except ε α} {value : α} :
    first.mapError map = .ok value ↔ first = .ok value := by
  cases first with
  | error reason => simp [Except.mapError]
  | ok stored => simp [Except.mapError]

/-- **Collecting results** succeeds exactly when every element does. -/
theorem mapM_ok_iff {act : α → Except ε β} {inputs : List α} {results : List β} :
    inputs.mapM act = .ok results ↔ List.Forall₂ (fun input result => act input = .ok result) inputs results := by
  induction inputs generalizing results with
  | nil =>
    rw [List.mapM_nil]
    constructor
    · intro done
      cases done
      exact .nil
    · intro done
      cases done
      rfl
  | cons input rest ih =>
    rw [List.mapM_cons, bind_ok_iff]
    constructor
    · rintro ⟨result, first, tail⟩
      rw [bind_ok_iff] at tail
      obtain ⟨others, second, done⟩ := tail
      cases done
      exact .cons first (ih.mp second)
    · intro done
      cases done with
      | cons first second => exact ⟨_, first, by rw [ih.mpr second]; rfl⟩

theorem mapM_succeeds_iff {act : α → Except ε β} {inputs : List α} :
    (∃ results, inputs.mapM act = .ok results) ↔ ∀ input ∈ inputs, ∃ result, act input = .ok result := by
  simp only [mapM_ok_iff]
  induction inputs with
  | nil => simp
  | cons input rest ih =>
    rw [List.forall_mem_cons, ← ih]
    constructor
    · rintro ⟨results, related⟩
      cases related with
      | cons first others => exact ⟨⟨_, first⟩, _, others⟩
    · rintro ⟨⟨result, first⟩, results, others⟩
      exact ⟨_, .cons first others⟩

theorem forM_ok_iff {act : α → Except ε Unit} {inputs : List α} :
    inputs.forM act = .ok () ↔ ∀ input ∈ inputs, act input = .ok () := by
  induction inputs with
  | nil => exact ⟨fun _ input member => (List.not_mem_nil member).elim, fun _ => rfl⟩
  | cons input rest ih =>
    rw [List.forall_mem_cons, ← ih]
    exact bind_unit_ok_iff

/-- Every result is that of an element. -/
theorem mapM_ok_mem {act : α → Except ε β} {inputs : List α} {results : List β}
    (collected : inputs.mapM act = .ok results) {result : β} (member : result ∈ results) :
    ∃ input ∈ inputs, act input = .ok result := by
  have related := mapM_ok_iff.mp collected
  clear collected
  induction related with
  | nil => exact nomatch member
  | @cons input first inputs rest found _ ih =>
    rcases List.mem_cons.mp member with rfl | later
    · exact ⟨input, List.mem_cons_self, found⟩
    · obtain ⟨other, listed, same⟩ := ih later
      exact ⟨other, List.mem_cons_of_mem _ listed, same⟩

/-- The result of every element is there. -/
theorem mem_of_mapM_ok {act : α → Except ε β} {inputs : List α} {results : List β}
    (collected : inputs.mapM act = .ok results) {input : α} (member : input ∈ inputs) {result : β}
    (found : act input = .ok result) : result ∈ results := by
  have related := mapM_ok_iff.mp collected
  clear collected
  induction related with
  | nil => cases member
  | @cons first result' inputs rest same _ ih =>
    rcases List.mem_cons.mp member with rfl | later
    · obtain rfl := Except.ok.inj (found.symm.trans same)
      exact List.mem_cons_self
    · exact List.mem_cons_of_mem _ (ih later)

end EarlyExit

/-- **A scan that stops at a bad element** gets through exactly when every element passes. `after` is the state
that the scan would reach. -/
theorem foldlM_guarded {σ : Type} {next : σ → α → Option σ} {passes : α → Bool} {after : σ → List α → σ}
    (start : ∀ state, after state [] = state)
    (step : ∀ state input, next state input = if passes input then some (after state [input]) else none)
    (go : ∀ state input rest, after (after state [input]) rest = after state (input :: rest)) (state : σ)
    (inputs : List α) :
    inputs.foldlM next state = if ∀ input ∈ inputs, passes input = true then some (after state inputs) else none := by
  induction inputs generalizing state with
  | nil =>
    rw [List.foldlM_nil, if_pos nofun, start]
    rfl
  | cons input rest ih =>
    rw [List.foldlM_cons, step, Option.bind_eq_bind]
    simp only [List.forall_mem_cons]
    by_cases first : passes input = true
    · rw [if_pos first, Option.bind_some, ih, go]
      simp only [first, true_and]
    · rw [if_neg first, Option.bind_none, if_neg (fun both => first both.1)]

/-! ### Unsigned 64-bit words -/

namespace U64

def saturatingAdd (a b : UInt64) : UInt64 := UInt64.ofNat (min (a.toNat + b.toNat) wordMax)

def saturatingMul (a b : UInt64) : UInt64 := UInt64.ofNat (min (a.toNat * b.toNat) wordMax)

def saturatingSub (a b : UInt64) : UInt64 := UInt64.ofNat (a.toNat - b.toNat)

theorem toNat_le_wordMax (a : UInt64) : a.toNat ≤ wordMax := by
  have bound := a.toNat_lt
  unfold wordMax
  omega

theorem toNat_ofNat {n : ℕ} (within : n ≤ wordMax) : (UInt64.ofNat n).toNat = n := by
  unfold wordMax at within
  exact UInt64.toNat_ofNat_of_lt' (by show n < 2 ^ 64; omega)

@[simp] theorem toNat_saturatingAdd (a b : UInt64) :
    (saturatingAdd a b).toNat = min (a.toNat + b.toNat) wordMax :=
  toNat_ofNat (min_le_right _ _)

@[simp] theorem toNat_saturatingMul (a b : UInt64) :
    (saturatingMul a b).toNat = min (a.toNat * b.toNat) wordMax :=
  toNat_ofNat (min_le_right _ _)

@[simp] theorem toNat_saturatingSub (a b : UInt64) :
    (saturatingSub a b).toNat = a.toNat - b.toNat :=
  toNat_ofNat ((Nat.sub_le _ _).trans (toNat_le_wordMax a))

theorem saturatingAdd_zero (a : UInt64) : saturatingAdd a 0 = a := by
  refine UInt64.toNat_inj.mp ?_
  rw [toNat_saturatingAdd]
  exact Nat.min_eq_left (toNat_le_wordMax a)

/-- **Saturating additions in a row** add up to one capped sum. -/
theorem toNat_foldl_saturatingAdd (start : UInt64) (amounts : List UInt64) :
    (amounts.foldl saturatingAdd start).toNat
      = min (start.toNat + (amounts.map UInt64.toNat).sum) wordMax := by
  induction amounts generalizing start with
  | nil =>
    have bound := toNat_le_wordMax start
    simp only [List.foldl_nil, List.map_nil, List.sum_nil]
    omega
  | cons amount rest ih =>
    rw [List.foldl_cons, ih, toNat_saturatingAdd, List.map_cons, List.sum_cons]
    omega

/-- **A scaled lifetime covers a scaled window.** If a lifetime in coarse units covers two windows
in the same units, it still does after all three are scaled by a constant, each saturating on its
own: two instants that lie within the two scaled windows of a third are at most the scaled lifetime
apart. -/
theorem saturated_window {lifetime age skew scale stamp early late : UInt64}
    (covers : saturatingAdd age skew ≤ lifetime)
    (notFuture : stamp ≤ saturatingAdd early (saturatingMul skew scale))
    (notStale : saturatingSub late stamp ≤ saturatingMul age scale) :
    saturatingSub late early ≤ saturatingMul lifetime scale := by
  simp only [UInt64.le_iff_toNat_le, toNat_saturatingAdd, toNat_saturatingMul,
    toNat_saturatingSub] at covers notFuture notStale ⊢
  have lateBound := toNat_le_wordMax late
  -- without saturation the windows add up; a saturated lifetime is as long as time itself
  have upper : late.toNat - early.toNat ≤ (age.toNat + skew.toNat) * scale.toNat := by
    rw [Nat.add_mul]
    omega
  refine le_min ?_ (by omega)
  rcases Nat.lt_or_ge lifetime.toNat (age.toNat + skew.toNat) with short | long
  · have full : wordMax ≤ lifetime.toNat := by omega
    rcases Nat.eq_zero_or_pos scale.toNat with zero | positive
    · rw [zero, Nat.mul_zero] at upper
      omega
    · have scaled := Nat.le_mul_of_pos_right lifetime.toNat positive
      omega
  · exact upper.trans (Nat.mul_le_mul_right _ long)

end U64

end P2pNet.Lib
