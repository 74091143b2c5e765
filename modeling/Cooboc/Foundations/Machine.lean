import Mathlib.Data.List.Infix

/-! Deterministic machines over input lists: runs, outputs, run invariants, and paired runs.
A machine consumes one input per step and answers it with one output, so everything
that follows is an induction over the input list.
-/

namespace Cooboc.Foundations

/-- A deterministic machine answers every input with a next state and one output. -/
structure Machine (σ ι ο : Type*) where
  step : σ → ι → σ × ο

namespace Machine

variable {σ τ ι ο : Type*}

/-- (machine.run state inputs) is the state left by the inputs, read from `state`. -/
def run (machine : Machine σ ι ο) (state : σ) : List ι → σ
  | [] => state
  | input :: rest => machine.run (machine.step state input).1 rest

/-- (machine.outputs state inputs) lists one answer for each input, in order. -/
def outputs (machine : Machine σ ι ο) (state : σ) : List ι → List ο
  | [] => []
  | input :: rest =>
      (machine.step state input).2 :: machine.outputs (machine.step state input).1 rest

/-- (machine.Always holds state inputs) requires `holds` of every step of the run, each
step being the state it starts in and the input it reads.
-/
def Always (machine : Machine σ ι ο) (holds : σ → ι → Prop) (state : σ)
    : List ι → Prop
  | [] => True
  | input :: rest =>
      holds state input ∧ machine.Always holds (machine.step state input).1 rest

variable (machine : Machine σ ι ο)

instance decidableAlways (holds : σ → ι → Prop)
    [decidable : ∀ state input, Decidable (holds state input)]
    : (state : σ) → (inputs : List ι) → Decidable (machine.Always holds state inputs)
  | _, [] => inferInstanceAs (Decidable True)
  | state, input :: rest =>
      @instDecidableAnd _ _ (decidable state input)
        (decidableAlways holds (machine.step state input).1 rest)

@[simp] theorem run_nil (state : σ) : machine.run state [] = state := rfl

@[simp] theorem run_cons (state : σ) (input : ι) (rest : List ι)
    : machine.run state (input :: rest) = machine.run (machine.step state input).1 rest :=
  rfl

@[simp] theorem outputs_nil (state : σ) : machine.outputs state [] = [] := rfl

@[simp] theorem outputs_cons (state : σ) (input : ι) (rest : List ι)
    : machine.outputs state (input :: rest)
      = (machine.step state input).2
        :: machine.outputs (machine.step state input).1 rest :=
  rfl

/-- A run over two lists continues the second from where the first ended. -/
theorem run_append (state : σ) (before after : List ι)
    : machine.run state (before ++ after)
      = machine.run (machine.run state before) after := by
  induction before generalizing state with
  | nil => rfl
  | cons input rest ih => exact ih _

/-- Outputs of two lists concatenate, the second read from where the first ended. -/
theorem outputs_append (state : σ) (before after : List ι)
    : machine.outputs state (before ++ after)
      = machine.outputs state before
        ++ machine.outputs (machine.run state before) after := by
  induction before generalizing state with
  | nil => rfl
  | cons input rest ih =>
      simp only [List.cons_append, outputs_cons, run_cons, ih]

theorem outputs_length (state : σ) (inputs : List ι)
    : (machine.outputs state inputs).length = inputs.length := by
  induction inputs generalizing state with
  | nil => rfl
  | cons input rest ih => exact congrArg Nat.succ (ih _)

/-- The output for an input is that of its step, in the state the inputs before it leave. -/
theorem outputs_at (state : σ) (before : List ι) (input : ι) (after : List ι)
    : (machine.outputs state (before ++ input :: after))[before.length]?
      = some (machine.step (machine.run state before) input).2 := by
  rw [outputs_append, List.getElem?_append_right (by rw [outputs_length]), outputs_length,
    Nat.sub_self]
  rfl

theorem always_append {holds : σ → ι → Prop} {state : σ} {before after : List ι}
    : machine.Always holds state (before ++ after)
      ↔ machine.Always holds state before
        ∧ machine.Always holds (machine.run state before) after := by
  induction before generalizing state with
  | nil => simp [Always]
  | cons input rest ih => simp only [List.cons_append, Always, run_cons, ih, and_assoc]

/-- A step property of a run holds of each of its prefixes. -/
theorem Always.initial {machine : Machine σ ι ο} {holds : σ → ι → Prop} {state : σ}
    {seen inputs : List ι} (always : machine.Always holds state inputs)
    (initial : seen <+: inputs)
    : machine.Always holds state seen := by
  obtain ⟨rest, rfl⟩ := initial
  exact (machine.always_append.mp always).1

-----------------------------------------------------------------------------------------
-- Run invariants
-----------------------------------------------------------------------------------------

/-- An invariant that every admitted step keeps holds after every run of admitted steps.
Witness: induction over the inputs, carrying the invariant to the next state.
-/
theorem Always.run_invariant {machine : Machine σ ι ο} {holds : σ → ι → Prop} {state : σ}
    {inputs : List ι} (always : machine.Always holds state inputs) (invariant : σ → Prop)
    (initial : invariant state)
    (preserved
      : ∀ current input,
          invariant current → holds current input
          → invariant (machine.step current input).1)
    : invariant (machine.run state inputs) := by
  induction inputs generalizing state with
  | nil => exact initial
  | cons input rest ih => exact ih always.2 (preserved state input initial always.1)

/-- A step property that holds of every state and input holds of every run. -/
theorem always_true (state : σ) (inputs : List ι)
    : machine.Always (fun _ _ => True) state inputs := by
  induction inputs generalizing state with
  | nil => trivial
  | cons input rest ih => exact ⟨trivial, ih _⟩

/-- A condition on the inputs alone holds along a run exactly if every input meets it. -/
theorem always_inputs {holds : ι → Prop} (state : σ) {inputs : List ι}
    : machine.Always (fun _ input => holds input) state inputs
      ↔ ∀ input ∈ inputs, holds input := by
  induction inputs generalizing state with
  | nil => simp [Always]
  | cons input rest ih => rw [Always, ih, List.forall_mem_cons]

/-- An invariant that every step keeps holds after every run. -/
theorem run_invariant (invariant : σ → Prop) {state : σ} (initial : invariant state)
    (preserved
      : ∀ current input, invariant current → invariant (machine.step current input).1)
    (inputs : List ι)
    : invariant (machine.run state inputs) :=
  (machine.always_true state inputs).run_invariant invariant initial
    (fun current input holds _ => preserved current input holds)

/-- Two step properties that agree wherever an invariant holds hold of the same runs, if the
steps with the first one keep the invariant. Witness: induction over the inputs; either side
supplies the first property for the step, which carries the invariant on.
-/
theorem always_congr {machine : Machine σ ι ο} {good condition : σ → ι → Prop}
    (invariant : σ → Prop) {state : σ} (initial : invariant state)
    (exact_step
      : ∀ current input,
          invariant current → (good current input ↔ condition current input))
    (preserved
      : ∀ current input,
          invariant current → good current input → invariant (machine.step current input).1)
    (inputs : List ι)
    : machine.Always good state inputs ↔ machine.Always condition state inputs := by
  induction inputs generalizing state with
  | nil => exact Iff.rfl
  | cons input rest ih =>
      have step := exact_step state input initial
      constructor
      · intro ⟨good, later⟩
        exact ⟨step.mp good, (ih (preserved state input initial good)).mp later⟩
      · intro ⟨met, later⟩
        have good := step.mpr met
        exact ⟨good, (ih (preserved state input initial good)).mpr later⟩

/-- A step property that every admitted step from the invariant has, and keeps the invariant
with it, holds along every run of admitted steps. Witness: induction over the inputs,
carrying the invariant to the next state.
-/
theorem Always.of_invariant {machine : Machine σ ι ο} {holds good : σ → ι → Prop} {state : σ}
    {inputs : List ι} (always : machine.Always holds state inputs) (invariant : σ → Prop)
    (initial : invariant state)
    (step
      : ∀ current input,
          invariant current → holds current input
          → good current input ∧ invariant (machine.step current input).1)
    : machine.Always good state inputs := by
  induction inputs generalizing state with
  | nil => trivial
  | cons input rest ih =>
      obtain ⟨good, kept⟩ := step state input initial always.1
      exact ⟨good, ih always.2 kept⟩

/-- Two step properties hold along a run exactly if their conjunction does. -/
theorem always_and {first second : σ → ι → Prop} {state : σ} {inputs : List ι}
    : machine.Always (fun current input => first current input ∧ second current input) state
        inputs
      ↔ machine.Always first state inputs ∧ machine.Always second state inputs := by
  induction inputs generalizing state with
  | nil => simp [Always]
  | cons input rest ih =>
      simp only [Always, ih]
      exact and_and_and_comm

/-- An invariant that relates the state to the inputs read so far is carried by runs
whose steps are all admitted. Witness: induction over the inputs from the last one.
-/
theorem Always.run_history {machine : Machine σ ι ο} {holds : σ → ι → Prop} {state : σ}
    {inputs : List ι} (always : machine.Always holds state inputs)
    (invariant : List ι → σ → Prop) (initial : invariant [] state)
    (preserved
      : ∀ history current input,
          invariant history current → holds current input
          → invariant (history ++ [input]) (machine.step current input).1)
    : invariant inputs (machine.run state inputs) := by
  induction inputs using List.reverseRecOn with
  | nil => exact initial
  | append_singleton inputs input ih =>
      obtain ⟨before, last⟩ := machine.always_append.mp always
      rw [run_append]
      exact preserved inputs _ input (ih before) last.1

/-- An invariant that relates the state to the outputs shown so far is carried by runs
whose steps are all admitted. Witness: induction over the inputs from the last one.
-/
theorem Always.run_trace {machine : Machine σ ι ο} {holds : σ → ι → Prop} {state : σ}
    {inputs : List ι} (always : machine.Always holds state inputs)
    (invariant : List ο → σ → Prop) (initial : invariant [] state)
    (preserved
      : ∀ trace current input,
          invariant trace current → holds current input
          → invariant (trace ++ [(machine.step current input).2])
              (machine.step current input).1)
    : invariant (machine.outputs state inputs) (machine.run state inputs) := by
  induction inputs using List.reverseRecOn with
  | nil => exact initial
  | append_singleton inputs input ih =>
      obtain ⟨before, last⟩ := machine.always_append.mp always
      rw [run_append, outputs_append]
      exact preserved _ _ input (ih before) last.1

/-- An invariant that relates the state to the outputs shown so far is carried by every
run.
-/
theorem run_trace (invariant : List ο → σ → Prop) {state : σ} (initial : invariant [] state)
    (preserved
      : ∀ trace current input,
          invariant trace current
          → invariant (trace ++ [(machine.step current input).2])
              (machine.step current input).1)
    (inputs : List ι)
    : invariant (machine.outputs state inputs) (machine.run state inputs) :=
  (machine.always_true state inputs).run_trace invariant initial
    (fun trace current input shown _ => preserved trace current input shown)

/-- A step property holds along a run exactly if it holds of each step in the state that the
inputs before it leave. Witness: induction over the inputs, the first step being singled out
or passed.
-/
theorem always_iff_forall {holds : σ → ι → Prop} {state : σ} {inputs : List ι}
    : machine.Always holds state inputs
      ↔ ∀ seen input, seen ++ [input] <+: inputs → holds (machine.run state seen) input := by
  induction inputs generalizing state with
  | nil =>
      refine ⟨fun _ seen input initial => ?_, fun _ => trivial⟩
      exact absurd (List.prefix_nil.mp initial) (by simp)
  | cons first rest ih =>
      rw [Always, ih]
      constructor
      · intro ⟨start, later⟩ seen input initial
        cases seen with
        | nil =>
            obtain ⟨rfl, _⟩ := List.cons_prefix_cons.mp initial
            exact start
        | cons head seen =>
            obtain ⟨rfl, tail⟩ := List.cons_prefix_cons.mp initial
            exact later seen input tail
      · intro every
        refine ⟨every [] first (List.cons_prefix_cons.mpr ⟨rfl, List.nil_prefix⟩), ?_⟩
        intro seen input initial
        exact every (first :: seen) input (List.cons_prefix_cons.mpr ⟨rfl, initial⟩)

-----------------------------------------------------------------------------------------
-- Properties of every state reached
-----------------------------------------------------------------------------------------

/-- (machine.Throughout good state inputs) requires `good` of the starting state and of
the state after every prefix of the inputs.
-/
def Throughout (good : σ → Prop) (state : σ) (inputs : List ι) : Prop :=
  ∀ seen, seen <+: inputs → good (machine.run state seen)

theorem throughout_nil {good : σ → Prop} {state : σ}
    : machine.Throughout good state [] ↔ good state := by
  constructor
  · intro every
    exact every [] (List.prefix_refl [])
  · intro start seen initial
    rw [List.prefix_nil.mp initial]
    exact start

/-- A first input separates the starting state from the states of the remaining run. -/
theorem throughout_cons {good : σ → Prop} {state : σ} {input : ι} {rest : List ι}
    : machine.Throughout good state (input :: rest)
      ↔ good state ∧ machine.Throughout good (machine.step state input).1 rest := by
  constructor
  · intro every
    refine ⟨every [] List.nil_prefix, fun seen initial => ?_⟩
    exact every (input :: seen) ((List.prefix_cons_inj input).mpr initial)
  · intro ⟨start, later⟩ seen initial
    cases seen with
    | nil => exact start
    | cons first seen =>
        obtain ⟨rfl, tail⟩ := List.cons_prefix_cons.mp initial
        exact later seen tail

/-- Two lists are good throughout one after the other, the second from where the first ended. -/
theorem throughout_append {good : σ → Prop} {state : σ} {before after : List ι}
    (first : machine.Throughout good state before)
    (second : machine.Throughout good (machine.run state before) after)
    : machine.Throughout good state (before ++ after) := by
  induction before generalizing state with
  | nil => exact second
  | cons input rest ih =>
      obtain ⟨start, later⟩ := machine.throughout_cons.mp first
      exact machine.throughout_cons.mpr ⟨start, ih later second⟩

/-- A further input adds the state behind it. -/
theorem Throughout.concat {machine : Machine σ ι ο} {good : σ → Prop} {state : σ}
    {inputs : List ι} (throughout : machine.Throughout good state inputs) {input : ι}
    (last : good (machine.run state (inputs ++ [input])))
    : machine.Throughout good state (inputs ++ [input]) := by
  intro seen initial
  rcases List.prefix_concat_iff.mp initial with whole | earlier
  · rw [whole]
    exact last
  · exact throughout seen earlier

/-- An invariant that every admitted step keeps holds throughout a run of admitted steps.
Witness: every prefix of the run is itself a run of admitted steps.
-/
theorem Always.throughout {machine : Machine σ ι ο} {holds : σ → ι → Prop} {state : σ}
    {inputs : List ι} (always : machine.Always holds state inputs) (invariant : σ → Prop)
    (initial : invariant state)
    (preserved
      : ∀ current input,
          invariant current → holds current input
          → invariant (machine.step current input).1)
    : machine.Throughout invariant state inputs :=
  fun _ seen => (always.initial seen).run_invariant invariant initial preserved

/-- Where each admitted step from a good state ends well exactly under `condition`, a run
is good throughout exactly when every step of it meets `condition`. `invariant` collects
what all admitted steps keep, good or not. Witness: induction over the inputs; either
side of the equivalence supplies the good state that the next step starts from.
-/
theorem Always.throughout_iff {machine : Machine σ ι ο} {admitted condition : σ → ι → Prop}
    {good : σ → Prop} {state : σ} {inputs : List ι}
    (always : machine.Always admitted state inputs) (invariant : σ → Prop)
    (initial : invariant state) (start : good state)
    (preserved
      : ∀ current input,
          invariant current → admitted current input
          → invariant (machine.step current input).1)
    (exact_step
      : ∀ current input,
          invariant current → good current → admitted current input
          → (good (machine.step current input).1 ↔ condition current input))
    : machine.Throughout good state inputs ↔ machine.Always condition state inputs := by
  induction inputs generalizing state with
  | nil => exact ⟨fun _ => trivial, fun _ => machine.throughout_nil.mpr start⟩
  | cons input rest ih =>
      have step := exact_step state input initial start always.1
      have next := preserved state input initial always.1
      rw [throughout_cons, Always]
      constructor
      · intro ⟨_, later⟩
        have good := later [] List.nil_prefix
        exact ⟨step.mp good, (ih always.2 next good).mp later⟩
      · intro ⟨met, later⟩
        exact ⟨start, (ih always.2 next (step.mpr met)).mpr later⟩

/-- Two machines read the same inputs in step: `related` states answer alike and stay
related.
-/
structure Bisimulation (left : Machine σ ι ο) (right : Machine τ ι ο)
    (related : σ → τ → Prop)
    : Prop where
  outputs
    : ∀ {first second} input,
        related first second → (left.step first input).2 = (right.step second input).2
  states
    : ∀ {first second} input,
        related first second
        → related (left.step first input).1 (right.step second input).1

/-- Related states emit the same outputs on every input list. -/
theorem Bisimulation.outputs_eq {left : Machine σ ι ο} {right : Machine τ ι ο}
    {related : σ → τ → Prop} (bisimulation : Bisimulation left right related)
    {first : σ} {second : τ} (start : related first second) (inputs : List ι)
    : left.outputs first inputs = right.outputs second inputs := by
  induction inputs generalizing first second with
  | nil => rfl
  | cons input rest ih =>
      simp only [outputs_cons, bisimulation.outputs input start,
        ih (bisimulation.states input start)]

end Machine

end Cooboc.Foundations
