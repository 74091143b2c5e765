import Cooboc.Foundations.Machine

/-! Laws of event traces: what each event requires of the events before it, and how the
steps of a machine that emits events keep such a law.
-/

namespace Cooboc.Foundations

variable {σ ι ε : Type*}

/-- (Lawful law seen trace) requires `law` of every event of `trace` together with all the
events before it, those of `seen` included.
-/
def Lawful (law : List ε → ε → Prop) (seen : List ε) : List ε → Prop
  | [] => True
  | event :: rest => law seen event ∧ Lawful law (seen ++ [event]) rest

/-- A law over two traces splits at the events between them. -/
theorem lawful_append {law : List ε → ε → Prop} {seen first second : List ε}
    : Lawful law seen (first ++ second)
      ↔ Lawful law seen first ∧ Lawful law (seen ++ first) second := by
  induction first generalizing seen with
  | nil => simp [Lawful]
  | cons event rest ih =>
      simp only [List.cons_append, Lawful, ih, List.append_assoc, List.nil_append,
        and_assoc]

/-- A trace obeys a law exactly when every way to single out one of its events does.
Witness: induction over the trace, the first event being singled out or passed.
-/
theorem lawful_iff {law : List ε → ε → Prop} {seen trace : List ε}
    : Lawful law seen trace
      ↔ ∀ before event after,
          trace = before ++ event :: after → law (seen ++ before) event := by
  induction trace generalizing seen with
  | nil =>
      refine ⟨fun _ before event after split => ?_, fun _ => trivial⟩
      exact absurd split.symm (by simp)
  | cons event rest ih =>
      constructor
      · intro ⟨first, later⟩ before other after split
        cases before with
        | nil =>
            obtain ⟨rfl, _⟩ := List.cons.inj split
            rwa [List.append_nil]
        | cons head before =>
            obtain ⟨rfl, tail⟩ := List.cons.inj split
            have shown := ih.mp later before other after tail
            rwa [List.append_assoc] at shown
      · intro every
        have first := every [] event rest rfl
        rw [List.append_nil] at first
        refine ⟨first, ih.mpr (fun before other after split => ?_)⟩
        rw [List.append_assoc]
        exact every (event :: before) other after (congrArg (event :: ·) split)

/-- Events that obey a law behind any others make a lawful trace. -/
theorem lawful_of_forall {law : List ε → ε → Prop} {trace : List ε}
    (every : ∀ event ∈ trace, ∀ before, law before event) (seen : List ε)
    : Lawful law seen trace := by
  apply lawful_iff.mpr
  intro before event after split
  refine every event ?_ _
  rw [split]
  exact List.mem_append_right before List.mem_cons_self

/-- Steps that obey a law behind any events they may follow, and keep an invariant that
relates the state to the events so far, emit a lawful trace over the whole run.
Witness: induction over the inputs, the events of the first step moving to those seen.
-/
theorem Machine.Always.lawful {machine : Machine σ ι (List ε)} {holds : σ → ι → Prop}
    {state : σ} {inputs : List ι} (always : machine.Always holds state inputs)
    {law : List ε → ε → Prop} (invariant : List ε → σ → Prop) {seen : List ε}
    (initial : invariant seen state)
    (preserved
      : ∀ trace current input,
          invariant trace current → holds current input
          → Lawful law trace (machine.step current input).2
            ∧ invariant (trace ++ (machine.step current input).2)
                (machine.step current input).1)
    : Lawful law seen (machine.outputs state inputs).flatten
      ∧ invariant (seen ++ (machine.outputs state inputs).flatten)
          (machine.run state inputs) := by
  induction inputs generalizing seen state with
  | nil =>
      rw [outputs_nil, List.flatten_nil, List.append_nil]
      exact ⟨trivial, initial⟩
  | cons input rest ih =>
      obtain ⟨first, next⟩ := preserved seen state input initial always.1
      obtain ⟨later, kept⟩ := ih always.2 next
      rw [outputs_cons, List.flatten_cons, lawful_append, ← List.append_assoc]
      exact ⟨⟨first, later⟩, kept⟩

/-- Every event of a run has a property exactly when the events of each step have it. -/
theorem Machine.always_events (machine : Machine σ ι (List ε)) {good : ε → Prop} {state : σ}
    {inputs : List ι}
    : machine.Always (fun current input => ∀ event ∈ (machine.step current input).2, good event)
        state inputs
      ↔ ∀ event ∈ (machine.outputs state inputs).flatten, good event := by
  induction inputs generalizing state with
  | nil => simp [Machine.Always]
  | cons input rest ih =>
      rw [Machine.Always, ih, outputs_cons, List.flatten_cons, List.forall_mem_append]

end Cooboc.Foundations
