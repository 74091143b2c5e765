import Mathlib.Algebra.BigOperators.Group.List.Basic
import Mathlib.Algebra.Order.BigOperators.Group.List
import Mathlib.Algebra.Order.Group.Abs
import Mathlib.Data.List.DropRight
import Mathlib.Data.List.GetD
import Mathlib.Data.List.Infix
import Mathlib.Data.List.Rotate

/-! A ring of cells with a write index, as a window that slides over a history: each element
written replaces the oldest one, so the cells are always the latest elements of all that
have been written, in another order.
-/

namespace Cooboc.Foundations

variable {α : Type*}

/-- The ring holds the latest elements of the history: read from the write index on, its
cells are the end of it.
-/
structure RingHolds (cells : List α) (index : Nat) (history : List α) : Prop where
  inside : index < cells.length
  latest : cells.rotate index <:+ history

/-- A ring filled with one element holds so many copies of it. -/
theorem RingHolds.fill {size : Nat} (positive : 0 < size) (element : α)
    : RingHolds (List.replicate size element) 0 (List.replicate size element) := by
  constructor
  · rw [List.length_replicate]
    exact positive
  · rw [List.rotate_zero]

/-- Behind a write the oldest element has left, and the new one is the latest.
Witness: the ring is cut at the index, where the oldest element stands.
-/
theorem rotate_set {cells : List α} {index : Nat} (inside : index < cells.length)
    (element : α)
    : (cells.set index element).rotate (index + 1)
      = (cells.rotate index).tail ++ [element] := by
  have bound : index + 1 ≤ (cells.set index element).length := by
    rw [List.length_set]
    exact inside
  rw [List.rotate_eq_drop_append_take bound, List.rotate_eq_drop_append_take inside.le,
    List.drop_eq_getElem_cons inside, List.cons_append, List.tail_cons, List.append_assoc,
    List.drop_set_of_lt (Nat.lt_succ_self index), List.take_set,
    List.set_eq_take_append_cons_drop]
  have taken : index < (cells.take (index + 1)).length := by
    rw [List.length_take]
    omega
  rw [if_pos taken, List.take_take, List.drop_take]
  simp

/-- A write at the index moves the window on by one element. -/
theorem RingHolds.write {cells : List α} {index : Nat} {history : List α}
    (holds : RingHolds cells index history) (element : α)
    : RingHolds (cells.set index element) ((index + 1) % cells.length)
        (history ++ [element]) := by
  have nonempty : 0 < cells.length := Nat.zero_lt_of_lt holds.inside
  constructor
  · rw [List.length_set]
    exact Nat.mod_lt _ nonempty
  · have size : cells.length = (cells.set index element).length := List.length_set.symm
    rw [size, List.rotate_mod, rotate_set holds.inside]
    obtain ⟨before, rfl⟩ := holds.latest
    refine ⟨before ++ (cells.rotate index).head?.toList, ?_⟩
    cases rotated : cells.rotate index with
    | nil => simp
    | cons first rest => simp

/-- The cells add up to the sum of as many latest elements. -/
theorem RingHolds.sum_eq [AddCommMonoid α] {cells : List α} {index : Nat}
    {history : List α} (holds : RingHolds cells index history)
    : cells.sum = (history.rtake cells.length).sum := by
  have latest := List.suffix_iff_eq_drop.mp holds.latest
  rw [List.length_rotate] at latest
  rw [List.rtake, ← latest]
  exact (List.rotate_perm cells index).sum_eq.symm

/-- In front of a history, zeros that fill the window add nothing to it. -/
theorem rtake_zeros_sum [AddCommMonoid α] (size : Nat) (history : List α)
    : ((List.replicate size 0 ++ history).rtake size).sum = (history.rtake size).sum := by
  have length : (List.replicate size (0 : α) ++ history).length - size = history.length := by
    rw [List.length_append, List.length_replicate]
    omega
  rw [List.rtake, List.rtake, length, List.drop_append, List.drop_replicate,
    List.length_replicate, List.sum_append, List.sum_replicate, nsmul_zero, zero_add]

/-- Bounded elements add up to at most so many times the bound. -/
theorem abs_sum_le_nsmul [AddCommGroup α] [LinearOrder α] [IsOrderedAddMonoid α]
    {elements : List α} {bound : α} (small : ∀ element ∈ elements, |element| ≤ bound)
    : |elements.sum| ≤ elements.length • bound := by
  rw [abs_le]
  constructor
  · rw [← neg_nsmul]
    exact List.card_nsmul_le_sum elements (-bound)
      (fun element member => (abs_le.mp (small element member)).1)
  · exact List.sum_le_card_nsmul elements bound
      (fun element member => (abs_le.mp (small element member)).2)

/-- The loop that adds up the cells from the first to the last. -/
theorem foldl_cells_sum [AddMonoid α] (cells : List α)
    : (List.range cells.length).foldl (fun sum i => sum + cells.getD i 0) 0
      = cells.sum := by
  have read : (List.range cells.length).map (fun i => cells.getD i 0) = cells := by
    apply List.ext_getElem
    · rw [List.length_map, List.length_range]
    · intro i _ bound
      rw [List.getElem_map, List.getElem_range, List.getD_eq_getElem _ _ bound]
  conv_rhs => rw [← read, List.sum_eq_foldl, List.foldl_map]

end Cooboc.Foundations
