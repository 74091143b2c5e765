import Mathlib.Data.List.Basic
import Mathlib.Logic.Function.Basic

/-! Arrays as cells by index, with the list that their first cells hold. An element is
removed by moving every later one down by one cell.
-/

namespace Cooboc.Foundations

variable {α β : Type*}

/-- (contents cells length) lists the first `length` cells, none for a negative length. -/
def contents (cells : Int → α) (length : Int) : List α :=
  (List.range length.toNat).map (fun i : Nat => cells i)

/-- (closeGap cells gap length) is the array behind the loop that copies, from index `gap`
on, each cell's successor into it, up to the last but one of `length` cells.
-/
def closeGap (cells : Int → α) (gap : Nat) (length : Int) : Int → α :=
  (List.range' gap (length.toNat - 1 - gap)).foldl
    (fun cells (i : Nat) => Function.update cells (i : Int) (cells (i + 1))) cells

@[simp] theorem contents_length (cells : Int → α) (length : Int)
    : (contents cells length).length = length.toNat := by
  simp [contents]

@[simp] theorem contents_getElem (cells : Int → α) (length : Int) (i : Nat)
    (bound : i < (contents cells length).length)
    : (contents cells length)[i] = cells i := by
  simp [contents]

/-- A cell written behind the last adds its element at the end. -/
theorem contents_push (cells : Int → α) {length : Int} (nonneg : 0 ≤ length) (element : α)
    : contents (Function.update cells length element) (length + 1)
      = contents cells length ++ [element] := by
  have size : (length + 1).toNat = length.toNat + 1 := by omega
  have last : ((length.toNat : Nat) : Int) = length := Int.toNat_of_nonneg nonneg
  have earlier : (List.range length.toNat).map
        (fun i : Nat => Function.update cells length element i)
      = contents cells length := by
    refine List.map_congr_left (fun i member => ?_)
    have below := List.mem_range.mp member
    exact Function.update_of_ne (by omega) _ _
  rw [contents, size, List.range_succ, List.map_append, earlier, List.map_singleton, last,
    Function.update_self]

theorem contents_pred (cells : Int → α) (length : Int)
    : contents cells (length - 1) = (contents cells length).dropLast := by
  have size : (length - 1).toNat = length.toNat - 1 := by omega
  refine List.ext_getElem ?_ (fun i _ _ => ?_)
  · simp [size]
  · simp

/-- After the loop, the cells from the gap to the last but one hold their successors.
Witness: induction over the cells moved; each is read before it is overwritten.
-/
theorem closeGap_apply (cells : Int → α) (gap : Nat) (length : Int) (i : Nat)
    : closeGap cells gap length i
      = if gap ≤ i ∧ i < length.toNat - 1 then cells (i + 1) else cells i := by
  have moved (count : Nat) (i : Nat)
      : (List.range' gap count).foldl
          (fun cells (i : Nat) => Function.update cells (i : Int) (cells (i + 1))) cells i
        = if gap ≤ i ∧ i < gap + count then cells (i + 1) else cells i := by
    induction count generalizing i with
    | zero => exact (if_neg (by omega)).symm
    | succ count ih =>
        have next := ih (gap + count + 1)
        rw [if_neg (by omega)] at next
        rw [List.range'_1_concat, List.foldl_append, List.foldl_cons, List.foldl_nil]
        by_cases here : i = gap + count
        · subst here
          rw [Function.update_self, if_pos (by omega)]
          push_cast at next ⊢
          exact next
        · rw [Function.update_of_ne (by omega), ih i]
          by_cases before : gap ≤ i ∧ i < gap + count
          · rw [if_pos before, if_pos (by omega)]
          · rw [if_neg before, if_neg (by omega)]
  rw [closeGap, moved]
  by_cases within : gap ≤ i ∧ i < length.toNat - 1
  · rw [if_pos within, if_pos (by omega)]
  · rw [if_neg within, if_neg (by omega)]

/-- Two arrays are moved as one array of pairs. -/
theorem contents_closeGap_pair (first : Int → α) (second : Int → β) (gap : Nat)
    (length count : Int)
    : contents (fun i => (closeGap first gap length i, closeGap second gap length i)) count
      = contents (closeGap (fun i => (first i, second i)) gap length) count := by
  refine List.map_congr_left (fun i _ => ?_)
  simp only [closeGap_apply]
  split <;> rfl

/-- Closing the gap over an element removes exactly this element. -/
theorem contents_closeGap (cells : Int → α) {gap : Nat} {length : Int}
    (present : gap < length.toNat)
    : contents (closeGap cells gap length) (length - 1)
      = (contents cells length).eraseIdx gap := by
  have size : (length - 1).toNat = length.toNat - 1 := by omega
  refine List.ext_getElem ?_ (fun i bound _ => ?_)
  · rw [contents_length, List.length_eraseIdx_of_lt (by simpa using present), contents_length,
      size]
  · rw [contents_length, size] at bound
    rw [contents_getElem, closeGap_apply, List.getElem_eraseIdx]
    by_cases before : i < gap
    · rw [if_neg (by omega), dif_pos before, contents_getElem]
    · rw [if_pos (by omega), dif_neg before, contents_getElem]
      push_cast
      rfl

/-- With the gap behind the last element nothing is moved, and the last element is lost. -/
theorem contents_closeGap_absent (cells : Int → α) {gap : Nat} {length : Int}
    (absent : length.toNat ≤ gap)
    : contents (closeGap cells gap length) (length - 1) = (contents cells length).dropLast := by
  have still : closeGap cells gap length = cells := by
    have none_moved : length.toNat - 1 - gap = 0 := by omega
    simp [closeGap, none_moved]
  rw [still, contents_pred]

end Cooboc.Foundations
