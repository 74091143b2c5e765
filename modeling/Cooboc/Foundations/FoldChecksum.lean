import Mathlib.Logic.Function.Basic

/-! Checksums that are folds over the symbols of a message. A fold that loses neither the
state it starts from nor a window of symbols tells messages apart that differ only within
such a window.
-/

namespace Cooboc.Foundations

/-- An accumulation of symbols that keeps apart the states it starts from, and all words of
`width` symbols read from one state.
-/
structure WindowCode (σ α : Type*) (width : Nat) where
  accumulate : σ → α → σ
  state_injective : ∀ symbol, Function.Injective (accumulate · symbol)
  window_injective
    : ∀ (state : σ) (first second : List α),
        first.length = width → second.length = width
        → first.foldl accumulate state = second.foldl accumulate state
        → first = second

namespace WindowCode

variable {σ α : Type*} {width : Nat} (code : WindowCode σ α width)

/-- The state behind a word, read from a given state. -/
def sum (state : σ) (word : List α) : σ := word.foldl code.accumulate state

@[simp] theorem sum_append (state : σ) (before after : List α)
    : code.sum state (before ++ after) = code.sum (code.sum state before) after :=
  List.foldl_append

/-- A word read keeps the states apart from which it is read. -/
theorem sum_state_injective (word : List α) : Function.Injective (code.sum · word) := by
  induction word with
  | nil => exact fun _ _ same => same
  | cons symbol rest ih =>
      intro first second same
      exact code.state_injective symbol (ih same)

/-- Words no longer than the window are told apart as well. Witness: both are filled up to
the window with one symbol, which is read from equal states.
-/
theorem sum_word_injective {state : σ} {first second : List α}
    (same_length : first.length = second.length) (short : first.length ≤ width)
    (same : code.sum state first = code.sum state second)
    : first = second := by
  cases first with
  | nil => exact (List.length_eq_zero_iff.mp same_length.symm).symm
  | cons symbol rest =>
      let pad := List.replicate (width - (symbol :: rest).length) symbol
      have filled : (symbol :: rest ++ pad).length = width := by
        rw [List.length_append, List.length_replicate]
        omega
      have padded : code.sum state (symbol :: rest ++ pad) = code.sum state (second ++ pad) := by
        rw [sum_append, sum_append, same]
      have equal := code.window_injective state _ _ filled
        (by rw [List.length_append, ← same_length, ← List.length_append, filled]) padded
      exact List.append_cancel_right equal

/-- Messages that differ within a window, and nowhere else, differ in their sums. -/
theorem sum_eq_iff (state : σ) (before after : List α) {first second : List α}
    (same_length : first.length = second.length) (short : first.length ≤ width)
    : code.sum state (before ++ first ++ after) = code.sum state (before ++ second ++ after)
      ↔ first = second := by
  constructor
  · intro same
    rw [sum_append, sum_append, sum_append code state (before ++ second), sum_append] at same
    exact code.sum_word_injective same_length short (code.sum_state_injective after same)
  · intro same
    rw [same]

end WindowCode

end Cooboc.Foundations
