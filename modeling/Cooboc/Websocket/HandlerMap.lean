import Cooboc.Foundations.ArrayCells
import Cooboc.Foundations.DistinctKeys

/-! The context-to-handler map of `websocket_handler.cpp`: two arrays of `SOCKET_POOL_SIZE`
pointers and a length, shared by all handlers. Nothing checks the length against the size.
-/

namespace Cooboc.Websocket

open Cooboc.Foundations

/-- Contexts are named in the order `libwebsocket_create_context` returns them. -/
abbrev Context := Nat

/-- `SOCKET_POOL_SIZE`. -/
def socketPoolSize : Int := 1024

/-- `ctxList`, `handlerList` and `handlerLength`, with `none` for a null pointer. `writes`
records the indexes at which the arrays have been written.
-/
structure HandlerMap (H : Type*) where
  ctxList : Int → Option Context
  handlerList : Int → Option H
  handlerLength : Int
  writes : List Int

variable {H : Type*}

/-- The static arrays and length as the program starts. -/
def HandlerMap.initial : HandlerMap H where
  ctxList _ := none
  handlerList _ := none
  handlerLength := 0
  writes := []

def HandlerMap.registerHandlerMap (map : HandlerMap H) (ctx : Option Context) (wsHandler : H)
    : HandlerMap H where
  ctxList := Function.update map.ctxList map.handlerLength ctx
  handlerList := Function.update map.handlerList map.handlerLength (some wsHandler)
  handlerLength := map.handlerLength + 1
  writes := map.writes ++ [map.handlerLength]

/-- The search loop of `removeHandler` and `lookupHandler`: the first index that holds the
context, or the length if none does.
-/
def HandlerMap.indexOf (map : HandlerMap H) (ctx : Option Context) : Nat :=
  (contents map.ctxList map.handlerLength).findIdx (fun entry => decide (entry = ctx))

/-- `removeHandler`: later entries move down by one, and the length shrinks in any case. -/
def HandlerMap.removeHandler (map : HandlerMap H) (ctx : Option Context) : HandlerMap H where
  ctxList := closeGap map.ctxList (map.indexOf ctx) map.handlerLength
  handlerList := closeGap map.handlerList (map.indexOf ctx) map.handlerLength
  handlerLength := map.handlerLength - 1
  writes :=
    map.writes
      ++ (List.range' (map.indexOf ctx)
          (map.handlerLength.toNat - 1 - map.indexOf ctx)).map Int.ofNat

def HandlerMap.lookupHandler (map : HandlerMap H) (ctx : Option Context) : Option H :=
  if map.indexOf ctx < map.handlerLength.toNat then
    map.handlerList (map.indexOf ctx)
  else
    none

-----------------------------------------------------------------------------------------
-- The map as a list of entries
-----------------------------------------------------------------------------------------

/-- The entries that the length covers. -/
def HandlerMap.entries (map : HandlerMap H) : List (Option Context × Option H) :=
  contents (fun i => (map.ctxList i, map.handlerList i)) map.handlerLength

@[simp] theorem HandlerMap.entries_length (map : HandlerMap H)
    : map.entries.length = map.handlerLength.toNat :=
  contents_length _ _

/-- The search loop finds the first entry of the context. -/
theorem HandlerMap.indexOf_eq (map : HandlerMap H) (ctx : Option Context)
    : map.indexOf ctx = map.entries.findIdx (fun entry => decide (entry.1 = ctx)) := by
  have contexts : contents map.ctxList map.handlerLength = map.entries.map Prod.fst := by
    simp [HandlerMap.entries, contents]
  rw [HandlerMap.indexOf, contexts, List.findIdx_map]
  rfl

theorem HandlerMap.registerHandlerMap_entries {map : HandlerMap H}
    (nonneg : 0 ≤ map.handlerLength) (ctx : Option Context) (wsHandler : H)
    : (map.registerHandlerMap ctx wsHandler).entries
      = map.entries ++ [(ctx, some wsHandler)] := by
  rw [HandlerMap.entries, HandlerMap.entries,
    ← contents_push (fun i => (map.ctxList i, map.handlerList i)) nonneg]
  refine List.map_congr_left (fun i _ => ?_)
  simp only [HandlerMap.registerHandlerMap, Function.update_apply]
  split <;> rfl

/-- Looking up a context finds the handler of its first entry. -/
theorem HandlerMap.lookupHandler_eq (map : HandlerMap H) (ctx : Option Context)
    : map.lookupHandler ctx
      = (map.entries.find? (fun entry => decide (entry.1 = ctx))).bind Prod.snd := by
  rw [List.find?_eq_getElem?_findIdx, ← HandlerMap.indexOf_eq, HandlerMap.lookupHandler]
  by_cases found : map.indexOf ctx < map.handlerLength.toNat
  · rw [if_pos found, List.getElem?_eq_getElem (by simpa using found)]
    simp [HandlerMap.entries]
  · rw [if_neg found, List.getElem?_eq_none (by simpa using found)]
    rfl

/-- Removing a registered context removes its first entry. -/
theorem HandlerMap.removeHandler_entries {map : HandlerMap H} {ctx : Option Context}
    (registered : ∃ entry ∈ map.entries, entry.1 = ctx)
    : (map.removeHandler ctx).entries
      = map.entries.eraseP (fun entry => decide (entry.1 = ctx)) := by
  have found : map.indexOf ctx < map.handlerLength.toNat := by
    rw [HandlerMap.indexOf_eq, ← HandlerMap.entries_length, List.findIdx_lt_length]
    simpa using registered
  have index : map.entries.findIdx? (fun entry => decide (entry.1 = ctx))
      = some (map.indexOf ctx) := by
    rw [HandlerMap.indexOf_eq]
    exact List.findIdx?_eq_some_of_exists (by simpa using registered)
  rw [List.eraseP_eq_eraseIdx, index]
  simp only [HandlerMap.entries, HandlerMap.removeHandler, contents_closeGap_pair,
    contents_closeGap _ found]

/-- Removing a context that is not registered drops the last entry. -/
theorem HandlerMap.removeHandler_absent {map : HandlerMap H} {ctx : Option Context}
    (absent : ∀ entry ∈ map.entries, entry.1 ≠ ctx)
    : (map.removeHandler ctx).entries = map.entries.dropLast := by
  have missed : map.handlerLength.toNat ≤ map.indexOf ctx := by
    rw [HandlerMap.indexOf_eq, ← HandlerMap.entries_length]
    exact Nat.le_of_eq (List.findIdx_eq_length_of_false (by simpa using absent)).symm
  simp only [HandlerMap.entries, HandlerMap.removeHandler, contents_closeGap_pair,
    contents_closeGap_absent _ missed]

/-- Among distinct contexts, looking up an entry's context finds its handler. -/
theorem HandlerMap.lookupHandler_of_mem {map : HandlerMap H}
    (distinct : (map.entries.map Prod.fst).Nodup) {ctx : Option Context} {owner : Option H}
    (member : (ctx, owner) ∈ map.entries)
    : map.lookupHandler ctx = owner := by
  have found := find?_key_of_mem distinct member
  rw [HandlerMap.lookupHandler_eq, found]
  rfl

/-- A handler is found through an entry of its context. -/
theorem HandlerMap.mem_of_lookupHandler {map : HandlerMap H} {ctx : Option Context} {h : H}
    (found : map.lookupHandler ctx = some h)
    : (ctx, some h) ∈ map.entries := by
  rw [HandlerMap.lookupHandler_eq, Option.bind_eq_some_iff] at found
  obtain ⟨⟨key, owner⟩, first, rfl⟩ := found
  have key_eq : key = ctx := by simpa using List.find?_some first
  exact key_eq ▸ List.mem_of_find?_eq_some first

theorem HandlerMap.lookupHandler_none {map : HandlerMap H} {ctx : Option Context}
    (absent : ∀ entry ∈ map.entries, entry.1 ≠ ctx)
    : map.lookupHandler ctx = none := by
  rw [HandlerMap.lookupHandler_eq, List.find?_eq_none.mpr (by simpa using absent)]
  rfl

/-- Removing a handler only takes entries away, whether the context is registered or not. -/
theorem HandlerMap.removeHandler_sublist (map : HandlerMap H) (ctx : Option Context)
    : (map.removeHandler ctx).entries.Sublist map.entries := by
  by_cases registered : ∃ entry ∈ map.entries, entry.1 = ctx
  · rw [HandlerMap.removeHandler_entries registered]
    exact List.eraseP_sublist
  · rw [HandlerMap.removeHandler_absent
      (fun entry member same => registered ⟨entry, member, same⟩)]
    exact List.dropLast_sublist _

/-- Among distinct contexts, removing a registered one leaves exactly the entries of the
others.
-/
theorem HandlerMap.mem_removeHandler {map : HandlerMap H}
    (distinct : (map.entries.map Prod.fst).Nodup) {ctx : Option Context} {owner : Option H}
    (member : (ctx, owner) ∈ map.entries) {entry : Option Context × Option H}
    : entry ∈ (map.removeHandler ctx).entries ↔ entry ∈ map.entries ∧ entry.1 ≠ ctx := by
  rw [HandlerMap.removeHandler_entries ⟨_, member, rfl⟩, eraseP_key_eq_filter distinct,
    List.mem_filter, decide_eq_true_eq]

end Cooboc.Websocket
