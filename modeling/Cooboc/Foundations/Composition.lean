import Mathlib.Data.List.Forall2
import Mathlib.Data.List.ReduceOption
import Cooboc.Foundations.Machine

/-! Machines that follow each other, and copies of one machine that run side by side.
-/

namespace Cooboc.Foundations.Machine

variable {σ τ ι ο ω κ : Type*}

-----------------------------------------------------------------------------------------
-- Simulation
-----------------------------------------------------------------------------------------

/-- Two machines read the same inputs in step: `related` states show `shown` outputs and stay
related.
-/
structure Simulation (concrete : Machine σ ι ο) (abstract : Machine τ ι ω)
    (related : σ → τ → Prop) (shown : ο → ω → Prop)
    : Prop where
  states
    : ∀ {first second} input,
        related first second
        → related (concrete.step first input).1 (abstract.step second input).1
  outputs
    : ∀ {first second} input,
        related first second
        → shown (concrete.step first input).2 (abstract.step second input).2

/-- Related states stay related on every input list, and show related outputs. -/
theorem Simulation.run {concrete : Machine σ ι ο} {abstract : Machine τ ι ω}
    {related : σ → τ → Prop} {shown : ο → ω → Prop}
    (simulation : Simulation concrete abstract related shown) {first : σ} {second : τ}
    (start : related first second) (inputs : List ι)
    : related (concrete.run first inputs) (abstract.run second inputs)
      ∧ List.Forall₂ shown (concrete.outputs first inputs)
          (abstract.outputs second inputs) := by
  induction inputs generalizing first second with
  | nil => exact ⟨start, .nil⟩
  | cons input rest ih =>
      obtain ⟨states, outputs⟩ := ih (simulation.states input start)
      exact ⟨states, .cons (simulation.outputs input start) outputs⟩

/-- Along a run whose steps all meet a condition, states that are related stay related, and show
related outputs, if they do in each such step.
-/
theorem Always.simulates {concrete : Machine σ ι ο} {abstract : Machine τ ι ω}
    {related : σ → τ → Prop} {shown : ο → ω → Prop} {holds : σ → ι → Prop}
    (step
      : ∀ {first second} input,
          related first second → holds first input
          → related (concrete.step first input).1 (abstract.step second input).1
            ∧ shown (concrete.step first input).2 (abstract.step second input).2)
    {first : σ} {second : τ} (start : related first second) {inputs : List ι}
    (always : concrete.Always holds first inputs)
    : List.Forall₂ shown (concrete.outputs first inputs) (abstract.outputs second inputs) := by
  induction inputs generalizing first second with
  | nil => exact .nil
  | cons input rest ih =>
      obtain ⟨next, answer⟩ := step input start always.1
      exact .cons answer (ih next always.2)

/-- Lists of answers related one by one hold related values, in the same order. -/
theorem forall₂_reduceOption {shown : ο → ω → Prop} {first : List (Option ο)}
    {second : List (Option ω)} (related : List.Forall₂ (Option.Rel shown) first second)
    : List.Forall₂ shown first.reduceOption second.reduceOption := by
  induction related with
  | nil => exact .nil
  | cons head _ ih =>
      cases head with
      | some values => exact .cons values ih
      | none => exact ih

/-- Lists related one by one are mapped alike, position by position. -/
theorem mapIdx_eq_of_forall₂ {α β γ : Type*} {related : α → β → Prop} {first : List α}
    {second : List β} (matched : List.Forall₂ related first second) {left : Nat → α → γ}
    {right : Nat → β → γ}
    (same : ∀ index value other, related value other → left index value = right index other)
    : first.mapIdx left = second.mapIdx right := by
  induction matched generalizing left right with
  | nil => rfl
  | cons head _ ih =>
      rw [List.mapIdx_cons, List.mapIdx_cons, same 0 _ _ head,
        ih (fun index value other related => same (index + 1) value other related)]

/-- Lists mapped alike, position by position, can be mapped on alike. -/
theorem map_eq_of_mapIdx {α β γ δ : Type*} {first : List α} {second : List β} {left : α → γ}
    {right : Nat → β → γ} (same : first.map left = second.mapIdx right) {later : α → δ}
    {next : β → δ}
    (agree
      : ∀ index value,
          ∀ other ∈ second, left value = right index other → later value = next other)
    : first.map later = second.map next := by
  induction second generalizing first right with
  | nil =>
      rw [List.map_eq_nil_iff.mp same]
      rfl
  | cons other rest ih =>
      cases first with
      | nil => exact absurd same (by simp)
      | cons value values =>
          rw [List.map_cons, List.mapIdx_cons] at same
          obtain ⟨head, tail⟩ := List.cons.inj same
          rw [List.map_cons, List.map_cons, agree 0 value other List.mem_cons_self head,
            ih tail (fun index value other member =>
              agree (index + 1) value other (List.mem_cons_of_mem _ member))]

-----------------------------------------------------------------------------------------
-- Copies
-----------------------------------------------------------------------------------------

variable [DecidableEq κ]

/-- What carries a key, in order. -/
def addressed {α : Type*} (key : κ) (entries : List (κ × α)) : List α :=
  entries.filterMap (fun entry => if entry.1 = key then some entry.2 else none)

theorem addressed_own {α : Type*} (key : κ) (value : α) (rest : List (κ × α))
    : addressed key ((key, value) :: rest) = value :: addressed key rest := by
  simp [addressed]

theorem addressed_other {α : Type*} {key other : κ} (differs : other ≠ key) (value : α)
    (rest : List (κ × α))
    : addressed key ((other, value) :: rest) = addressed key rest := by
  simp [addressed, differs]

/-- One copy of a machine for each key. An input goes to the copy whose key it carries, and
its output carries the same key.
-/
def copies (machine : Machine σ ι ο) : Machine (κ → σ) (κ × ι) (κ × ο) where
  step states input :=
    let (next, output) := machine.step (states input.1) input.2
    (Function.update states input.1 next, input.1, output)

theorem copies_step (machine : Machine σ ι ο) (states : κ → σ) (key : κ) (input : ι)
    : machine.copies.step states (key, input)
      = (Function.update states key (machine.step (states key) input).1, key,
          (machine.step (states key) input).2) := rfl

/-- Each copy reads what is addressed to it, and answers as if it were alone. Witness:
induction over the inputs; one addressed to another copy leaves this one alone.
-/
theorem copies_alone (machine : Machine σ ι ο) (key : κ) (states : κ → σ)
    (inputs : List (κ × ι))
    : (machine.copies.run states inputs) key
        = machine.run (states key) (addressed key inputs)
      ∧ addressed key (machine.copies.outputs states inputs)
        = machine.outputs (states key) (addressed key inputs) := by
  induction inputs generalizing states with
  | nil => exact ⟨rfl, rfl⟩
  | cons input rest ih =>
      obtain ⟨other, value⟩ := input
      have later := ih (Function.update states other (machine.step (states other) value).1)
      rw [run_cons, outputs_cons]
      by_cases own : other = key
      · subst own
        rw [Function.update_self] at later
        change _ ∧ addressed other ((other, _) :: _) = _
        rw [addressed_own, addressed_own, run_cons, outputs_cons]
        exact ⟨later.1, congrArg _ later.2⟩
      · rw [Function.update_of_ne (Ne.symm own)] at later
        change _ ∧ addressed key ((other, _) :: _) = _
        rw [addressed_other own, addressed_other own]
        exact later

end Cooboc.Foundations.Machine
