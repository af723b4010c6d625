/-
**Runs of a deterministic machine.**

A machine is a function `step : σ → ι → ο × σ`: an input turns a state into an output and the next
state. `final` and `outputs` run it over a list of inputs, `Reachable` collects the states that
allowed inputs lead to. Every later invariant is proved with the rules here.
-/

import Mathlib

namespace P2pNet.Lib

variable {σ ι ο : Type}

section Machine

variable (step : σ → ι → ο × σ)

def final (state : σ) (inputs : List ι) : σ :=
  inputs.foldl (fun current input => (step current input).2) state

def outputs : σ → List ι → List ο
  | _, [] => []
  | state, input :: rest => (step state input).1 :: outputs (step state input).2 rest

@[simp] theorem final_nil (state : σ) : final step state [] = state := rfl

@[simp] theorem final_cons (state : σ) (input : ι) (rest : List ι) :
    final step state (input :: rest) = final step (step state input).2 rest := rfl

theorem final_append (state : σ) (first second : List ι) :
    final step state (first ++ second) = final step (final step state first) second :=
  List.foldl_append

theorem final_concat (state : σ) (inputs : List ι) (input : ι) :
    final step state (inputs ++ [input]) = (step (final step state inputs) input).2 := by
  rw [final_append]
  rfl

theorem take_succ_of_getElem? {inputs : List ι} {count : ℕ} {input : ι} (here : inputs[count]? = some input) :
    inputs.take (count + 1) = inputs.take count ++ [input] := by
  rw [List.take_add_one, here, Option.toList_some]

/-- The state after the input at a position. -/
theorem final_take_succ (state : σ) {inputs : List ι} {count : ℕ} {input : ι}
    (here : inputs[count]? = some input) : final step state (inputs.take (count + 1))
      = (step (final step state (inputs.take count)) input).2 := by
  rw [take_succ_of_getElem? here, final_concat]

/-- **The output at a position** is the output of one step from the state reached there. -/
theorem outputs_getElem? (state : σ) (inputs : List ι) (position : ℕ) :
    (outputs step state inputs)[position]?
      = inputs[position]?.map fun input => (step (final step state (inputs.take position)) input).1 := by
  induction inputs generalizing state position with
  | nil => rfl
  | cons input rest ih =>
    cases position with
    | zero => rfl
    | succ position => exact ih (step state input).2 position

theorem outputs_concat (state : σ) (inputs : List ι) (input : ι) :
    outputs step state (inputs ++ [input])
      = outputs step state inputs ++ [(step (final step state inputs) input).1] := by
  induction inputs generalizing state with
  | nil => rfl
  | cons first rest ih => rw [List.cons_append, outputs, ih, outputs, List.cons_append, final_cons]

/-- Outputs that do not depend on the state. -/
theorem outputs_eq_map {output : ι → ο} (same : ∀ state input, (step state input).1 = output input)
    (state : σ) (inputs : List ι) : outputs step state inputs = inputs.map output := by
  induction inputs generalizing state with
  | nil => rfl
  | cons input rest ih => rw [outputs, same, ih, List.map_cons]

/-- Two machines that take the same steps along a translation of the inputs. -/
theorem final_map {κ π : Type} (other : σ → κ → π × σ) (translate : ι → κ)
    (agree : ∀ state input, (step state input).2 = (other state (translate input)).2) (state : σ)
    (inputs : List ι) : final step state inputs = final other state (inputs.map translate) := by
  induction inputs generalizing state with
  | nil => rfl
  | cons input rest ih => rw [final_cons, List.map_cons, final_cons, agree, ih]

/-- **An invariant along one run**, relative to the inputs consumed so far. -/
theorem final_induct (invariant : List ι → σ → Prop) {state : σ} (inputs : List ι)
    (initial : invariant [] state)
    (preserved : ∀ consumed input rest current, inputs = consumed ++ input :: rest →
      invariant consumed current → invariant (consumed ++ [input]) (step current input).2) :
    invariant inputs (final step state inputs) := by
  have general : ∀ consumed rest, inputs = consumed ++ rest →
      invariant consumed (final step state consumed) := by
    intro consumed
    induction consumed using List.reverseRecOn with
    | nil => exact fun _ _ => initial
    | append_singleton consumed input ih =>
      intro rest split
      rw [List.append_assoc, List.singleton_append] at split
      rw [final_concat]
      exact preserved consumed input rest _ split (ih _ split)
  exact general inputs [] (List.append_nil _).symm

/-- Every step of a run meets a condition. -/
def Each (condition : σ → ι → Prop) (state : σ) (inputs : List ι) : Prop :=
  ∀ (count : ℕ) (input : ι), inputs[count]? = some input →
    condition (final step state (inputs.take count)) input

theorem each_nil (condition : σ → ι → Prop) (state : σ) : Each step condition state [] :=
  fun _ _ here => nomatch here

theorem each_cons {condition : σ → ι → Prop} {state : σ} {input : ι} {rest : List ι} :
    Each step condition state (input :: rest) ↔
      condition state input ∧ Each step condition (step state input).2 rest := by
  constructor
  · exact fun each => ⟨each 0 input rfl, fun count later here => each (count + 1) later here⟩
  · rintro ⟨first, each⟩ count later here
    cases count with
    | zero => exact Option.some_inj.mp here ▸ first
    | succ count => exact each count later here

theorem each_concat {condition : σ → ι → Prop} {state : σ} {inputs : List ι} {input : ι} :
    Each step condition state (inputs ++ [input]) ↔
      Each step condition state inputs ∧ condition (final step state inputs) input := by
  constructor
  · intro each
    constructor
    · intro count earlier here
      have within := (List.getElem?_eq_some_iff.mp here).choose
      have step := each count earlier (by rw [List.getElem?_append_left within, here])
      rwa [List.take_append_of_le_length within.le] at step
    · have last := each inputs.length input List.getElem?_concat_length
      rwa [List.take_left] at last
  · rintro ⟨each, last⟩ count earlier here
    rcases lt_or_ge count inputs.length with within | beyond
    · rw [List.getElem?_append_left within] at here
      rw [List.take_append_of_le_length within.le]
      exact each count earlier here
    · rw [List.getElem?_append_right beyond, List.getElem?_singleton] at here
      obtain ⟨level, same⟩ := Option.ite_none_right_eq_some.mp here
      have position : count = inputs.length := by omega
      rw [position, List.take_left, ← Option.some_inj.mp same]
      exact last

theorem each_congr {first second : σ → ι → Prop} (same : ∀ current input, first current input ↔
    second current input) {state : σ} {inputs : List ι} :
    Each step first state inputs ↔ Each step second state inputs :=
  forall_congr' fun _ => forall_congr' fun _ => forall_congr' fun _ => same _ _

theorem Each.take {condition : σ → ι → Prop} {state : σ} {inputs : List ι}
    (each : Each step condition state inputs) (length : ℕ) : Each step condition state (inputs.take length) := by
  intro count input here
  rw [List.getElem?_take] at here
  split_ifs at here with within
  rw [List.take_take, min_eq_left within.le]
  exact each count input here

/-- **An invariant of the steps that meet a condition** holds in every state of a run of such steps. -/
theorem Each.invariant {condition : σ → ι → Prop} {invariant : σ → Prop} {state : σ} {inputs : List ι}
    (each : Each step condition state inputs) (initial : invariant state)
    (preserved : ∀ current input, condition current input → invariant current → invariant (step current input).2)
    (count : ℕ) : invariant (final step state (inputs.take count)) := by
  induction inputs generalizing state count with
  | nil =>
    rw [List.take_nil]
    exact initial
  | cons input rest ih =>
    obtain ⟨first, later⟩ := (each_cons step).mp each
    cases count with
    | zero => exact initial
    | succ count => exact ih later (preserved state input first initial) count

/-- What every output has, every step has. -/
theorem forall_mem_outputs_iff_each {property : ο → Prop} {state : σ} {inputs : List ι} :
    (∀ output ∈ outputs step state inputs, property output) ↔
      Each step (fun current input => property (step current input).1) state inputs := by
  induction inputs generalizing state with
  | nil => exact ⟨fun _ => each_nil _ _ _, fun _ _ member => nomatch member⟩
  | cons input rest ih => rw [outputs, List.forall_mem_cons, each_cons, ih]

/-- **A property along one run, step by step**, relative to the inputs consumed so far. Where each step
keeps the property exactly when it meets a condition, the property holds in every state of a run exactly
when every step of the run meets the condition. -/
theorem relative_iff_each (known : σ → Prop) (property : List ι → σ → Prop)
    (condition : σ → ι → Prop) {state : σ} (inputs : List ι)
    (familiar : ∀ count, known (final step state (inputs.take count))) (initial : property [] state)
    (each : ∀ consumed current, ∀ input ∈ inputs, known current → property consumed current →
      (property (consumed ++ [input]) (step current input).2 ↔ condition current input)) :
    (∀ count ≤ inputs.length, property (inputs.take count) (final step state (inputs.take count))) ↔
      ∀ (count : ℕ) (input : ι), inputs[count]? = some input →
        condition (final step state (inputs.take count)) input := by
  constructor
  · intro always count input here
    obtain ⟨within, _⟩ := List.getElem?_eq_some_iff.mp here
    have after := always (count + 1) within
    rw [take_succ_of_getElem? here, final_concat] at after
    exact (each _ _ input (List.mem_of_getElem? here) (familiar count)
      (always count within.le)).mp after
  · intro met count
    induction count with
    | zero => exact fun _ => initial
    | succ count ih =>
      intro within
      have here := List.getElem?_eq_getElem (l := inputs) within
      rw [take_succ_of_getElem? here, final_concat]
      exact (each _ _ _ (List.getElem_mem within) (familiar count)
        (ih (Nat.le_of_succ_le within))).mpr (met count _ here)

/-- The same for a property of the state alone. -/
theorem always_iff_each (known property : σ → Prop) (condition : σ → ι → Prop) {state : σ}
    (inputs : List ι) (familiar : ∀ count, known (final step state (inputs.take count)))
    (initial : property state)
    (each : ∀ current, ∀ input ∈ inputs, known current → property current →
      (property (step current input).2 ↔ condition current input)) :
    (∀ count ≤ inputs.length, property (final step state (inputs.take count))) ↔
      ∀ (count : ℕ) (input : ι), inputs[count]? = some input →
        condition (final step state (inputs.take count)) input :=
  relative_iff_each step known (fun _ => property) condition inputs familiar initial
    fun _ => each

end Machine

/-! ### Reachable states -/

inductive Reachable (step : σ → ι → ο × σ) (allowed : ι → Prop) (start : σ) : σ → Prop
  | refl : Reachable step allowed start start
  | next {state : σ} (input : ι) : Reachable step allowed start state → allowed input →
      Reachable step allowed start (step state input).2

/-- **The invariant rule.** -/
theorem Reachable.induct {step : σ → ι → ο × σ} {allowed : ι → Prop} {start state : σ}
    {invariant : σ → Prop} (reached : Reachable step allowed start state)
    (initial : invariant start)
    (preserved : ∀ current input, invariant current → allowed input →
      invariant (step current input).2) : invariant state := by
  induction reached with
  | refl => exact initial
  | next input _ permitted ih => exact preserved _ input ih permitted

theorem reachable_final {step : σ → ι → ο × σ} {allowed : ι → Prop} {start : σ} (inputs : List ι)
    (permitted : ∀ input ∈ inputs, allowed input) :
    Reachable step allowed start (final step start inputs) := by
  induction inputs using List.reverseRecOn with
  | nil => exact .refl
  | append_singleton inputs input ih =>
    rw [final_concat]
    refine .next input (ih fun earlier member => permitted earlier ?_) (permitted input ?_)
    · exact List.mem_append_left _ member
    · exact List.mem_append_right _ List.mem_cons_self

end P2pNet.Lib
