import Mathlib.Data.List.Nodup

/-! Doubly linked lists in a heap, seen through their two link functions.
A heap is read as `next prev : α → Option α`; the library relates the links to the list of
nodes met on the way, so that pointer updates become list operations.
-/

namespace Cooboc.Foundations

variable {α : Type*}

/-- (Segment next start nodes stop) says that following `next` from `start` meets exactly
`nodes`, in order, and arrives at `stop`.
-/
def Segment (next : α → Option α) : Option α → List α → Option α → Prop
  | start, [], stop => start = stop
  | start, node :: rest, stop => start = some node ∧ Segment next (next node) rest stop

/-- Segments concatenate at the link between them, by induction on the first. -/
theorem segment_append {next : α → Option α} {start stop : Option α} {left right : List α}
    : Segment next start (left ++ right) stop
      ↔ ∃ middle, Segment next start left middle ∧ Segment next middle right stop := by
  induction left generalizing start with
  | nil => simp [Segment]
  | cons node rest ih =>
      simp only [List.cons_append, Segment, ih]
      constructor
      · intro ⟨first, middle, before, after⟩
        exact ⟨middle, ⟨first, before⟩, after⟩
      · intro ⟨middle, ⟨first, before⟩, after⟩
        exact ⟨first, middle, before, after⟩

theorem Segment.congr {next other : α → Option α} {start stop : Option α} {nodes : List α}
    (segment : Segment next start nodes stop) (same : ∀ node ∈ nodes, other node = next node)
    : Segment other start nodes stop := by
  induction nodes generalizing start with
  | nil => exact segment
  | cons node rest ih =>
      refine ⟨segment.1, ?_⟩
      rw [same node (by simp)]
      exact ih segment.2 (fun later member => same later (by simp [member]))

/-- The last node's link is where the segment stops. -/
theorem segment_concat {next : α → Option α} {start stop : Option α} {init : List α}
    {last : α}
    : Segment next start (init ++ [last]) stop
      ↔ Segment next start init (some last) ∧ next last = stop := by
  rw [segment_append]
  constructor
  · rintro ⟨_, before, rfl, stops⟩
    exact ⟨before, stops⟩
  · intro ⟨before, stops⟩
    exact ⟨some last, before, rfl, stops⟩

/-- (BackLinked prev before nodes) says that each node's `prev` is the node ahead of it,
the first one's being `before`.
-/
def BackLinked (prev : α → Option α) : Option α → List α → Prop
  | _, [] => True
  | before, node :: rest => prev node = before ∧ BackLinked prev (some node) rest

/-- Backward links split at any point; the second part starts behind the first's last
node.
-/
theorem backLinked_append {prev : α → Option α} {before : Option α} {left right : List α}
    : BackLinked prev before (left ++ right)
      ↔ BackLinked prev before left ∧ BackLinked prev (left.getLast?.or before) right := by
  induction left generalizing before with
  | nil => simp [BackLinked]
  | cons node rest ih =>
      have last : (node :: rest).getLast?.or before = rest.getLast?.or (some node) := by
        rw [List.getLast?_cons]
        cases rest.getLast? <;> rfl
      simp only [List.cons_append, BackLinked, ih, last, and_assoc]

theorem BackLinked.congr {prev other : α → Option α} {before : Option α} {nodes : List α}
    (linked : BackLinked prev before nodes) (same : ∀ node ∈ nodes, other node = prev node)
    : BackLinked other before nodes := by
  induction nodes generalizing before with
  | nil => trivial
  | cons node rest ih =>
      refine ⟨(same node (by simp)).trans linked.1, ?_⟩
      exact ih linked.2 (fun later member => same later (by simp [member]))

-----------------------------------------------------------------------------------------
-- Doubly linked lists and their updates
-----------------------------------------------------------------------------------------

/-- The links describe the duplicate-free list `nodes`, forwards from `start` and
backwards by the inverse links.
-/
structure DoublyLinked (next prev : α → Option α) (start : Option α) (nodes : List α)
    : Prop where
  forward : Segment next start nodes none
  backward : BackLinked prev none nodes
  distinct : nodes.Nodup

theorem doublyLinked_nil {next prev : α → Option α} {start : Option α}
    : DoublyLinked next prev start [] ↔ start = none := by
  constructor
  · intro linked
    exact linked.forward
  · intro empty
    exact ⟨empty, trivial, List.nodup_nil⟩

theorem doublyLinked_singleton {next prev : α → Option α} {start : Option α} {node : α}
    : DoublyLinked next prev start [node]
      ↔ start = some node ∧ next node = none ∧ prev node = none := by
  constructor
  · intro ⟨⟨first, stops⟩, ⟨ahead, _⟩, _⟩
    exact ⟨first, stops, ahead⟩
  · intro ⟨first, stops, ahead⟩
    exact ⟨⟨first, stops⟩, ⟨ahead, trivial⟩, List.nodup_singleton node⟩

/-- Linking a fresh node behind the last one appends it to the list.
Witness: only the last node's forward link and the new node's links are read anew.
-/
theorem DoublyLinked.append {next prev next' prev' : α → Option α} {start : Option α}
    {init : List α} {last fresh : α}
    (linked : DoublyLinked next prev start (init ++ [last]))
    (absent : fresh ∉ init ++ [last])
    (forward : ∀ node ∈ init, next' node = next node)
    (backward : ∀ node ∈ init ++ [last], prev' node = prev node)
    (toFresh : next' last = some fresh) (fromFresh : prev' fresh = some last)
    (stops : next' fresh = none)
    : DoublyLinked next' prev' start (init ++ [last] ++ [fresh]) := by
  obtain ⟨before, _⟩ := segment_concat.mp linked.forward
  refine ⟨?_, ?_, ?_⟩
  · exact segment_concat.mpr
      ⟨segment_concat.mpr ⟨before.congr forward, toFresh⟩, stops⟩
  · refine backLinked_append.mpr ⟨linked.backward.congr backward, ?_⟩
    simpa [BackLinked] using fromFresh
  · rw [← List.concat_eq_append]
    exact linked.distinct.concat absent

/-- Starting behind the first node removes it, once the next node looks back at nothing.
-/
theorem DoublyLinked.remove_first {next prev next' prev' : α → Option α}
    {start : Option α} {node : α} {rest : List α}
    (linked : DoublyLinked next prev start (node :: rest))
    (forward : ∀ later ∈ rest, next' later = next later)
    (backward : ∀ later ∈ rest.tail, prev' later = prev later)
    (first : ∀ later ∈ rest.head?, prev' later = none)
    : DoublyLinked next' prev' (next node) rest := by
  refine ⟨linked.forward.2.congr forward, ?_, (List.nodup_cons.mp linked.distinct).2⟩
  cases rest with
  | nil => trivial
  | cons second rest => exact ⟨first second rfl, linked.backward.2.2.congr backward⟩

/-- Cutting the forward link to the last node removes it. -/
theorem DoublyLinked.remove_last {next prev next' prev' : α → Option α}
    {start : Option α} {init : List α} {last node : α}
    (linked : DoublyLinked next prev start (init ++ [last] ++ [node]))
    (forward : ∀ earlier ∈ init, next' earlier = next earlier)
    (backward : ∀ earlier ∈ init ++ [last], prev' earlier = prev earlier)
    (cut : next' last = none)
    : DoublyLinked next' prev' start (init ++ [last]) := by
  obtain ⟨before, _⟩ := segment_concat.mp linked.forward
  obtain ⟨before, _⟩ := segment_concat.mp before
  refine ⟨segment_concat.mpr ⟨before.congr forward, cut⟩, ?_, ?_⟩
  · exact (backLinked_append.mp linked.backward).1.congr backward
  · exact (List.nodup_append.mp linked.distinct).1

end Cooboc.Foundations
