import Cooboc.Websocket.HandlerMap

/-! What `removeHandler` removes. With its context in the map it removes that entry alone;
without, the length shrinks all the same, and the last entry is lost.
-/

namespace Cooboc.Websocket

open Cooboc.Foundations

variable {H : Type*}

/-- The context has an entry. -/
def HandlerMap.Registered (map : HandlerMap H) (ctx : Option Context) : Prop :=
  ∃ entry ∈ map.entries, entry.1 = ctx

/-- The entries of all other contexts, in their order. -/
def HandlerMap.others (map : HandlerMap H) (ctx : Option Context)
    : List (Option Context × Option H) :=
  map.entries.filter (fun entry => decide (entry.1 ≠ ctx))

/-- The call leaves exactly the entries of the other contexts, counts them, and leaves what
is found for them.
-/
structure HandlerMap.RemovesExactly (map : HandlerMap H) (ctx : Option Context) : Prop where
  entries : (map.removeHandler ctx).entries = map.others ctx
  handlerLength : (map.removeHandler ctx).handlerLength = (map.others ctx).length
  lookups
    : ∀ other,
        other ≠ ctx → (map.removeHandler ctx).lookupHandler other = map.lookupHandler other

/-- Two maps hold the same entries, and as many. -/
structure HandlerMap.SameEntries (first second : HandlerMap H) : Prop where
  entries : first.entries = second.entries
  handlerLength : first.handlerLength = second.handlerLength

/-- Among distinct contexts, removing a registered one leaves exactly the others. -/
theorem HandlerMap.removeHandler_others {map : HandlerMap H}
    (distinct : (map.entries.map Prod.fst).Nodup) {ctx : Option Context}
    (registered : map.Registered ctx)
    : (map.removeHandler ctx).entries = map.others ctx := by
  rw [HandlerMap.removeHandler_entries registered]
  exact eraseP_key_eq_filter distinct ctx

theorem HandlerMap.lookupHandler_others {map after : HandlerMap H} {ctx : Option Context}
    (entries : after.entries = map.others ctx) {other : Option Context} (apart : other ≠ ctx)
    : after.lookupHandler other = map.lookupHandler other := by
  rw [HandlerMap.lookupHandler_eq, HandlerMap.lookupHandler_eq, entries, HandlerMap.others,
    find?_filter_key_ne map.entries apart]

theorem HandlerMap.others_of_absent {map : HandlerMap H} {ctx : Option Context}
    (absent : ¬ map.Registered ctx)
    : map.others ctx = map.entries := by
  apply List.filter_eq_self.mpr
  intro entry member
  exact decide_eq_true (fun same => absent ⟨entry, member, same⟩)

/-- Among distinct contexts, removing a registered one is exact. Witness: one entry less is
what the length counts.
-/
theorem HandlerMap.removesExactly_of_registered {map : HandlerMap H}
    (distinct : (map.entries.map Prod.fst).Nodup) {ctx : Option Context}
    (registered : map.Registered ctx)
    : map.RemovesExactly ctx := by
  have entries := HandlerMap.removeHandler_others distinct registered
  refine ⟨entries, ?_, fun _ apart => HandlerMap.lookupHandler_others entries apart⟩
  obtain ⟨entry, member, _⟩ := registered
  have nonempty : 0 < map.handlerLength.toNat := by
    rw [← map.entries_length]
    exact List.length_pos_of_mem member
  rw [← entries, HandlerMap.entries_length]
  change map.handlerLength - 1 = ((map.handlerLength - 1).toNat : Int)
  omega

/-- Removing a context without an entry is not exact: the length should stay. -/
theorem HandlerMap.not_removesExactly_of_absent {map : HandlerMap H} {ctx : Option Context}
    (absent : ¬ map.Registered ctx)
    : ¬ map.RemovesExactly ctx := by
  intro removes
  have counted := removes.handlerLength
  rw [HandlerMap.others_of_absent absent, HandlerMap.entries_length] at counted
  change map.handlerLength - 1 = (map.handlerLength.toNat : Int) at counted
  omega

/-- Among distinct contexts, `removeHandler` removes exactly what it is asked to if and only if
the context is registered. A second call for the same context is never like a single one.
Witness: the length shrinks with every call.
-/
theorem removesExactly_iff {map : HandlerMap H}
    (distinct : (map.entries.map Prod.fst).Nodup) (ctx : Option Context)
    : (map.RemovesExactly ctx ↔ map.Registered ctx)
      ∧ ¬ ((map.removeHandler ctx).removeHandler ctx).SameEntries (map.removeHandler ctx) := by
  constructor
  · constructor
    · intro removes
      by_contra absent
      exact HandlerMap.not_removesExactly_of_absent absent removes
    · exact HandlerMap.removesExactly_of_registered distinct
  · intro same
    have counted := same.handlerLength
    change map.handlerLength - 1 - 1 = map.handlerLength - 1 at counted
    omega

/-- A map of two handlers, the first of them removed. -/
theorem removesExactly_first
    : let map : HandlerMap Bool :=
        (HandlerMap.initial.registerHandlerMap (some 0) true).registerHandlerMap (some 1) false
      map.RemovesExactly (some 0) := by
  intro map
  have distinct : (map.entries.map Prod.fst).Nodup := by decide
  exact (removesExactly_iff distinct (some 0)).1.mpr ⟨(some 0, some true), by decide, rfl⟩

/-- Not every removal is exact: with one handler registered, removing another context loses
it.
-/
theorem not_removesExactly
    : ¬ ∀ map : HandlerMap Bool,
        0 ≤ map.handlerLength → map.handlerLength ≤ socketPoolSize
        → (map.entries.map Prod.fst).Nodup
        → ∀ ctx, map.RemovesExactly ctx := by
  intro always
  have removes := always (HandlerMap.initial.registerHandlerMap (some 0) true) (by decide)
    (by decide) (by decide) (some 1)
  exact absurd removes.entries (by decide)

end Cooboc.Websocket
