import Mathlib.Data.List.Basic

/-! Lists as runs of one symbol each, and the merging of neighbouring runs of the same symbol.
-/

namespace Cooboc.Foundations

variable {α : Type*}

/-- The symbols of some runs, each run given by its symbol and its length. -/
def expand (runs : List (α × Nat)) : List α :=
  runs.flatMap (fun run => List.replicate run.2 run.1)

@[simp] theorem expand_nil : expand ([] : List (α × Nat)) = [] := rfl

@[simp] theorem expand_cons (run : α × Nat) (rest : List (α × Nat))
    : expand (run :: rest) = List.replicate run.2 run.1 ++ expand rest :=
  List.flatMap_cons

theorem expand_append (before after : List (α × Nat))
    : expand (before ++ after) = expand before ++ expand after :=
  List.flatMap_append

/-- The run with all lengths in another unit. -/
def scaled (unit : Nat) (run : α × Nat) : α × Nat := (run.1, unit * run.2)

/-- No run continues the one before it. -/
def Separate (runs : List (α × Nat)) : Prop :=
  runs.IsChain (fun run next => run.1 ≠ next.1)

variable [DecidableEq α]

/-- A run in front of others, lengthening the first of them if it has the same symbol. -/
def pushRun (run : α × Nat) : List (α × Nat) → List (α × Nat)
  | [] => [run]
  | next :: later =>
      if run.1 = next.1 then (run.1, run.2 + next.2) :: later else run :: next :: later

/-- The runs with neighbours of the same symbol merged. -/
def merge (runs : List (α × Nat)) : List (α × Nat) := runs.foldr pushRun []

@[simp] theorem merge_nil : merge ([] : List (α × Nat)) = [] := rfl

@[simp] theorem merge_cons (run : α × Nat) (rest : List (α × Nat))
    : merge (run :: rest) = pushRun run (merge rest) := rfl

@[simp] theorem pushRun_nil (run : α × Nat) : pushRun run [] = [run] := rfl

theorem pushRun_same {run next : α × Nat} (same : run.1 = next.1) (later : List (α × Nat))
    : pushRun run (next :: later) = (run.1, run.2 + next.2) :: later :=
  if_pos same

theorem pushRun_other {run next : α × Nat} (other : run.1 ≠ next.1) (later : List (α × Nat))
    : pushRun run (next :: later) = run :: next :: later :=
  if_neg other

theorem expand_pushRun (run : α × Nat) (rest : List (α × Nat))
    : expand (pushRun run rest) = List.replicate run.2 run.1 ++ expand rest := by
  cases rest with
  | nil => rfl
  | cons next later =>
      by_cases same : run.1 = next.1
      · rw [pushRun_same same, expand_cons, expand_cons, List.replicate_add, List.append_assoc,
          same]
      · rw [pushRun_other same, expand_cons]

/-- Merging keeps the symbols. -/
theorem expand_merge (runs : List (α × Nat)) : expand (merge runs) = expand runs := by
  induction runs with
  | nil => rfl
  | cons run rest ih => rw [merge_cons, expand_pushRun, ih, expand_cons]

theorem pushRun_scaled (unit : Nat) (run : α × Nat) (rest : List (α × Nat))
    : pushRun (scaled unit run) (rest.map (scaled unit))
      = (pushRun run rest).map (scaled unit) := by
  cases rest with
  | nil => rfl
  | cons next later =>
      by_cases same : run.1 = next.1
      · rw [pushRun_same same, List.map_cons, List.map_cons,
          @pushRun_same _ _ (scaled unit run) (scaled unit next) same]
        simp only [scaled, Nat.mul_add]
      · rw [pushRun_other same, List.map_cons,
          @pushRun_other _ _ (scaled unit run) (scaled unit next) same]
        rfl

theorem merge_length (runs : List (α × Nat)) : (merge runs).length ≤ runs.length := by
  induction runs with
  | nil => exact Nat.le_refl 0
  | cons run rest ih =>
      rw [merge_cons, List.length_cons]
      refine Nat.le_trans ?_ (Nat.succ_le_succ ih)
      cases merge rest with
      | nil => exact Nat.le_refl 1
      | cons next later =>
          by_cases same : run.1 = next.1
          · rw [pushRun_same same]
            exact Nat.le_succ _
          · rw [pushRun_other same]
            exact Nat.le_refl _

/-- Merging does not depend on the unit of length. -/
theorem merge_scaled (unit : Nat) (runs : List (α × Nat))
    : merge (runs.map (scaled unit)) = (merge runs).map (scaled unit) := by
  induction runs with
  | nil => rfl
  | cons run rest ih => rw [List.map_cons, merge_cons, ih, pushRun_scaled, merge_cons]

theorem Separate.pushRun {rest : List (α × Nat)} (separate : Separate rest) (run : α × Nat)
    : Separate (pushRun run rest) := by
  cases rest with
  | nil => exact List.IsChain.singleton run
  | cons next later =>
      by_cases same : run.1 = next.1
      · rw [pushRun_same same]
        cases later with
        | nil => exact List.IsChain.singleton _
        | cons third others =>
            obtain ⟨apart, chain⟩ := List.isChain_cons_cons.mp separate
            exact List.isChain_cons_cons.mpr ⟨same ▸ apart, chain⟩
      · rw [pushRun_other same]
        exact List.isChain_cons_cons.mpr ⟨same, separate⟩

theorem separate_merge (runs : List (α × Nat)) : Separate (merge runs) := by
  induction runs with
  | nil => exact List.IsChain.nil
  | cons run rest ih => exact ih.pushRun run

/-- There is nothing to merge in runs that are separate. -/
theorem Separate.merge_eq {runs : List (α × Nat)} (separate : Separate runs)
    : merge runs = runs := by
  induction runs with
  | nil => rfl
  | cons run rest ih =>
      cases rest with
      | nil => rfl
      | cons next later =>
          obtain ⟨apart, chain⟩ := List.isChain_cons_cons.mp separate
          rw [merge_cons, ih chain, pushRun_other apart]

/-- The last run keeps its symbol, and the runs before it stay as long as one symbol at least. -/
theorem merge_last (run : α × Nat) {runs : List (α × Nat)} (positive : ∀ other ∈ runs, 0 < other.2)
    : ∃ before length,
        merge (runs ++ [run]) = before ++ [(run.1, length)] ∧ ∀ other ∈ before, 0 < other.2 := by
  induction runs with
  | nil => exact ⟨[], run.2, rfl, nofun⟩
  | cons first rest ih =>
      obtain ⟨own, others_positive⟩ := List.forall_mem_cons.mp positive
      obtain ⟨before, length, merged, longer⟩ := ih others_positive
      rw [List.cons_append, merge_cons, merged]
      cases before with
      | nil =>
          by_cases same : first.1 = run.1
          · refine ⟨[], first.2 + length, ?_, nofun⟩
            rw [← same]
            exact if_pos rfl
          · exact ⟨[first], length, if_neg same, List.forall_mem_singleton.mpr own⟩
      | cons next others =>
          rw [List.cons_append]
          by_cases same : first.1 = next.1
          · refine ⟨_ :: others, length, pushRun_same same _, ?_⟩
            obtain ⟨_, later⟩ := List.forall_mem_cons.mp longer
            exact List.forall_mem_cons.mpr ⟨Nat.add_pos_left own _, later⟩
          · exact ⟨first :: next :: others, length, pushRun_other same _,
              List.forall_mem_cons.mpr ⟨own, longer⟩⟩

end Cooboc.Foundations
