import Mathlib.Data.List.Nodup

/-! Lists whose elements have distinct keys: what lookup and removal by key find and leave, and
when an element may be appended.
-/

namespace Cooboc.Foundations

variable {α κ : Type*} [DecidableEq κ] {key : α → κ}

/-- An element is found by its key, by induction on the list. -/
theorem find?_key_of_mem {elements : List α} (distinct : (elements.map key).Nodup)
    {element : α} (member : element ∈ elements)
    : elements.find? (fun other => decide (key other = key element)) = some element := by
  induction elements with
  | nil => cases member
  | cons first rest ih =>
      rw [List.map_cons, List.nodup_cons] at distinct
      rcases List.mem_cons.mp member with rfl | later
      · exact List.find?_cons_of_pos (decide_eq_true rfl)
      · have other : key first ≠ key element := by
          intro same
          exact distinct.1 (same ▸ List.mem_map_of_mem later)
        rw [List.find?_cons_of_neg (by simpa using other)]
        exact ih distinct.2 later

/-- Removing the first element of a key removes all of them, by induction on the list. -/
theorem eraseP_key_eq_filter {elements : List α} (distinct : (elements.map key).Nodup)
    (removed : κ)
    : elements.eraseP (fun element => decide (key element = removed))
      = elements.filter (fun element => decide (key element ≠ removed)) := by
  induction elements with
  | nil => rfl
  | cons first rest ih =>
      rw [List.map_cons, List.nodup_cons] at distinct
      by_cases here : key first = removed
      · have others : ∀ element ∈ rest, decide (key element ≠ removed) = true := by
          intro element member
          refine decide_eq_true (fun same => distinct.1 ?_)
          rw [here, ← same]
          exact List.mem_map_of_mem member
        rw [List.eraseP_cons_of_pos (by simpa using here),
          List.filter_cons_of_neg (by simpa using here), List.filter_eq_self.mpr others]
      · rw [List.eraseP_cons_of_neg (by simpa using here),
          List.filter_cons_of_pos (by simpa using here), ih distinct.2]

/-- Other keys are looked up the same among the elements that remain, by induction on the
list.
-/
theorem find?_filter_key_ne (elements : List α) {removed other : κ} (apart : other ≠ removed)
    : (elements.filter (fun element => decide (key element ≠ removed))).find?
        (fun element => decide (key element = other))
      = elements.find? (fun element => decide (key element = other)) := by
  induction elements with
  | nil => rfl
  | cons first rest ih =>
      by_cases here : key first = removed
      · have missed : key first ≠ other := here ▸ apart.symm
        rw [List.filter_cons_of_neg (by simpa using here),
          List.find?_cons_of_neg (by simpa using missed), ih]
      · rw [List.filter_cons_of_pos (by simpa using here), List.find?_cons, List.find?_cons, ih]

omit [DecidableEq κ] in
/-- A new key may be appended. -/
theorem nodup_keys_concat {elements : List α} (distinct : (elements.map key).Nodup)
    {element : α} (absent : ∀ other ∈ elements, key other ≠ key element)
    : ((elements ++ [element]).map key).Nodup := by
  have fresh : key element ∉ elements.map key := by
    intro member
    obtain ⟨other, within, same⟩ := List.mem_map.mp member
    exact absent other within same
  rw [List.map_append, List.map_singleton, ← List.concat_eq_append]
  exact distinct.concat fresh

end Cooboc.Foundations
