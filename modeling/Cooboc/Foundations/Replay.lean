import Mathlib.Data.List.Infix

/-! What a reader sees of values that take each other's place: each of them any number of times,
not at all included, in the order in which they stood there.
-/

namespace Cooboc.Foundations

variable {α β : Type*}

/-- (Replays values shown) says that `shown` is read off `values` without going back. -/
inductive Replays : List α → List α → Prop where
  | nil {values : List α} : Replays values []
  | again {value : α} {values shown : List α}
      : Replays (value :: values) shown → Replays (value :: values) (value :: shown)
  | next {value : α} {values shown : List α}
      : Replays values shown → Replays (value :: values) shown

namespace Replays

/-- What is shown is one of the values. -/
theorem mem {values shown : List α} (replays : Replays values shown) {value : α}
    (member : value ∈ shown)
    : value ∈ values := by
  induction replays with
  | nil => cases member
  | again _ ih =>
      rcases List.mem_cons.mp member with rfl | later
      · exact List.mem_cons_self
      · exact ih later
  | next _ ih => exact List.mem_cons_of_mem _ (ih member)

/-- Values that come later can be left out. -/
theorem append {values shown : List α} (replays : Replays values shown) (later : List α)
    : Replays (values ++ later) shown := by
  induction replays with
  | nil => exact .nil
  | again _ ih => exact .again ih
  | next _ ih => exact .next ih

/-- Values that came before can be left out. -/
theorem behind {values shown : List α} (replays : Replays values shown) (before : List α)
    : Replays (before ++ values) shown := by
  induction before with
  | nil => exact replays
  | cons value before ih => exact .next ih

/-- The last value can be shown once more. -/
theorem concat {values shown : List α} {value : α}
    (replays : Replays (values ++ [value]) shown)
    : Replays (values ++ [value]) (shown ++ [value]) := by
  generalize whole : values ++ [value] = all at replays
  induction replays generalizing values with
  | nil =>
      rw [← whole]
      exact (Replays.again .nil).behind values
  | again _ ih => exact .again (ih whole)
  | @next first rest shown replays ih =>
      cases values with
      | nil =>
          obtain ⟨rfl, rfl⟩ := List.cons.inj whole
          cases replays
          exact .again .nil
      | cons head values =>
          obtain ⟨rfl, same⟩ := List.cons.inj whole
          exact .next (ih same)

/-- What was shown first is shown. -/
theorem initial {values shown : List α} (replays : Replays values shown) {first : List α}
    (initial : first <+: shown)
    : Replays values first := by
  induction replays generalizing first with
  | nil =>
      rw [List.prefix_nil.mp initial]
      exact .nil
  | again _ ih =>
      cases first with
      | nil => exact .nil
      | cons head first =>
          obtain ⟨rfl, tail⟩ := List.cons_prefix_cons.mp initial
          exact .again (ih tail)
  | next _ ih => exact .next (ih initial)

theorem map {values shown : List α} (replays : Replays values shown) (change : α → β)
    : Replays (values.map change) (shown.map change) := by
  induction replays with
  | nil => exact .nil
  | again _ ih => exact .again ih
  | next _ ih => exact .next ih

/-- What is read off what is read off some values is read off these. Witness: induction over the
first reading; within a value that it shows, induction over the second.
-/
theorem trans {values shown seen : List α} (first : Replays values shown)
    (second : Replays shown seen)
    : Replays values seen := by
  induction first generalizing seen with
  | nil =>
      cases second
      exact .nil
  | @again value values shown _ ih =>
      generalize whole : value :: shown = all at second
      induction second with
      | nil => exact .nil
      | again _ repeated =>
          obtain ⟨rfl, -⟩ := List.cons.inj whole
          exact .again (repeated whole)
      | next later _ =>
          obtain ⟨-, rfl⟩ := List.cons.inj whole
          exact ih later
  | next _ ih => exact .next (ih second)

/-- Leaving the same values out on both sides keeps the order. -/
theorem filterMap {values shown : List α} (replays : Replays values shown)
    (change : α → Option β)
    : Replays (values.filterMap change) (shown.filterMap change) := by
  induction replays with
  | nil => exact .nil
  | @again value values shown _ ih =>
      cases changed : change value with
      | none =>
          rw [List.filterMap_cons_none (l := shown) changed]
          exact ih
      | some result =>
          rw [List.filterMap_cons_some changed] at ih ⊢
          rw [List.filterMap_cons_some changed]
          exact .again ih
  | @next value values shown _ ih =>
      cases changed : change value with
      | none =>
          rw [List.filterMap_cons_none changed]
          exact ih
      | some result =>
          rw [List.filterMap_cons_some changed]
          exact .next ih

/-- What is left of some values is read off them. -/
theorem of_sublist {values shown : List α} (left : shown.Sublist values)
    : Replays values shown := by
  induction left with
  | slnil => exact .nil
  | cons _ _ ih => exact .next ih
  | cons_cons _ _ ih => exact .again (.next ih)

end Replays

end Cooboc.Foundations
