import Cooboc.Websocket.WsHandler

/-! What the library's callbacks do to the handler they are dispatched to: only the handler
registered for the context is touched, and behind `CLOSED` it is registered no more.
-/

namespace Cooboc.Websocket

open Cooboc.Foundations

/-- (Issued reason callbacks) says that a callback is issued for this reason. -/
def Issued (reason : CallbackReason) (callbacks : List LwsCallback) : Prop :=
  ∃ callback ∈ callbacks, callback.reason = reason

instance (reason : CallbackReason) (callbacks : List LwsCallback)
    : Decidable (Issued reason callbacks) :=
  inferInstanceAs (Decidable (∃ callback ∈ callbacks, callback.reason = reason))

@[simp] theorem issued_nil (reason : CallbackReason) : ¬ Issued reason [] := by
  simp [Issued]

@[simp] theorem issued_cons (reason : CallbackReason) (callback : LwsCallback)
    (rest : List LwsCallback)
    : Issued reason (callback :: rest) ↔ callback.reason = reason ∨ Issued reason rest := by
  simp [Issued]

/-- The callbacks behind which a connection is dead. -/
def Ends (callbacks : List LwsCallback) : Prop :=
  Issued .closed callbacks ∨ Issued .clientConnectionError callbacks

instance (callbacks : List LwsCallback) : Decidable (Ends callbacks) :=
  inferInstanceAs
    (Decidable (Issued .closed callbacks ∨ Issued .clientConnectionError callbacks))

variable {H : Type*}

/-- (world.Sound) says that no context has two entries or two handlers, and that each entry
names a context created so far together with the handler that created it.
-/
structure WsWorld.Sound (world : WsWorld H) : Prop where
  created : ∀ h ctx, (world.handlers h).mWsContext = some ctx → ctx < world.contexts
  own
    : ∀ h other ctx,
        (world.handlers h).mWsContext = some ctx
        → (world.handlers other).mWsContext = some ctx
        → h = other
  entries
    : ∀ entry ∈ world.map.entries,
        ∃ ctx owner,
          entry = (some ctx, some owner)
          ∧ ctx < world.contexts
          ∧ ∀ h, (world.handlers h).mWsContext = some ctx → h = owner
  distinct : (world.map.entries.map Prod.fst).Nodup

/-- (world.Registered h) says that the map has an entry of the handler under its current
context.
-/
def WsWorld.Registered (world : WsWorld H) (h : H) : Prop :=
  ((world.handlers h).mWsContext, some h) ∈ world.map.entries

/-- Soundness depends on the entries, the contexts and their number, and survives the loss
of entries.
-/
theorem WsWorld.Sound.of_sublist {world next : WsWorld H} (sound : world.Sound)
    (contexts : next.contexts = world.contexts)
    (current : ∀ h, (next.handlers h).mWsContext = (world.handlers h).mWsContext)
    (fewer : next.map.entries.Sublist world.map.entries)
    : next.Sound where
  created h ctx := by
    rw [contexts, current]
    exact sound.created h ctx
  own h other ctx := by
    rw [current, current]
    exact sound.own h other ctx
  entries entry member := by
    obtain ⟨ctx, owner, named, old, only⟩ := sound.entries entry (fewer.subset member)
    refine ⟨ctx, owner, named, contexts ▸ old, fun h => ?_⟩
    rw [current]
    exact only h
  distinct := sound.distinct.sublist (fewer.map Prod.fst)

theorem WsWorld.Sound.lookup_registered {world : WsWorld H} (sound : world.Sound) {h : H}
    (registered : world.Registered h)
    : world.map.lookupHandler (world.handlers h).mWsContext = some h :=
  HandlerMap.lookupHandler_of_mem sound.distinct registered

/-- Nothing is found under the context of a handler that is not registered. -/
theorem WsWorld.Sound.lookup_unregistered {world : WsWorld H} (sound : world.Sound) {h : H}
    {ctx : Context} (current : (world.handlers h).mWsContext = some ctx)
    (unregistered : ¬ world.Registered h)
    : world.map.lookupHandler (some ctx) = none := by
  refine HandlerMap.lookupHandler_none (fun entry member same => unregistered ?_)
  obtain ⟨found, owner, rfl, _, only⟩ := sound.entries entry member
  obtain rfl := Option.some.inj same
  rw [WsWorld.Registered, current, only h current]
  exact member

/-- At first the map is empty, and no handler has a context. -/
theorem WsWorld.initial_sound (memory : H → Nat → UInt8) : (WsWorld.initial memory).Sound :=
  ⟨nofun, nofun, List.forall_mem_nil _, List.nodup_nil⟩

variable [DecidableEq H]

-----------------------------------------------------------------------------------------
-- One callback
-----------------------------------------------------------------------------------------

/-- (world.Serves h next) says that only the handler `h` has changed, and neither its context
nor its connection.
-/
structure WsWorld.Serves (world : WsWorld H) (h : H) (next : WsWorld H) : Prop where
  contexts : next.contexts = world.contexts
  others : ∀ other, other ≠ h → next.handlers other = world.handlers other
  context : (next.handlers h).mWsContext = (world.handlers h).mWsContext
  wsi : (next.handlers h).mWsi = (world.handlers h).mWsi

omit [DecidableEq H] in
theorem WsWorld.Serves.trans {world next last : WsWorld H} {h : H}
    (first : world.Serves h next) (second : next.Serves h last)
    : world.Serves h last where
  contexts := second.contexts.trans first.contexts
  others other different := (second.others other different).trans (first.others other different)
  context := second.context.trans first.context
  wsi := second.wsi.trans first.wsi

theorem WsWorld.Serves.current {world next : WsWorld H} {h : H} (serves : world.Serves h next)
    (other : H)
    : (next.handlers other).mWsContext = (world.handlers other).mWsContext := by
  by_cases same : other = h
  · exact same ▸ serves.context
  · rw [serves.others other same]

/-- The status and the flag of a handler. -/
def WsWorld.condition (world : WsWorld H) (h : H) : WsStatus × Bool :=
  ((world.handlers h).mWsStatus, (world.handlers h).mIsGood)

/-- The status and the flag that callbacks leave to a registered handler: once closed it
hears of nothing more.
-/
def outcome (callbacks : List LwsCallback) (condition : WsStatus × Bool) : WsStatus × Bool :=
  if Issued .closed callbacks then
    (.disconnect, false)
  else if Issued .clientEstablished callbacks then
    (.connected, true)
  else
    condition

/-- A callback for a context that is not registered touches no handler. -/
theorem WsWorld.issue_unregistered {world : WsWorld H} {ctx : Context}
    (unregistered : world.map.lookupHandler (some ctx) = none) (callback : LwsCallback)
    : world.issue ctx callback = if Ends [callback] then world.kill ctx else world := by
  simp [WsWorld.issue, WsWorld.plainProtocolCallback, unregistered, Ends]

/-- What a callback does to the handler registered for its context.
Witness: one case for each reason that is handled; all others are alike.
-/
theorem WsWorld.issue_registered {world : WsWorld H} {h : H} {ctx : Context}
    (current : (world.handlers h).mWsContext = some ctx)
    (found : world.map.lookupHandler (some ctx) = some h) (callback : LwsCallback)
    : let next := world.issue ctx callback
      world.Serves h next
      ∧ next.map
        = (if Issued .closed [callback] then world.map.removeHandler (some ctx) else world.map)
      ∧ next.condition h = outcome [callback] (world.condition h)
      ∧ next.live
        = (if Ends [callback] then Function.update world.live ctx false else world.live)
      ∧ next.uses
        = (if callback.reason = .clientWriteable then
            world.uses ++ [world.isLive (world.handlers h).mWsi]
          else
            world.uses) := by
  obtain ⟨reason, input⟩ := callback
  cases reason with
  | clientEstablished =>
      refine ⟨⟨?_, fun other different => ?_, ?_, ?_⟩, ?_, ?_, ?_, ?_⟩ <;>
        simp [WsWorld.issue, WsWorld.plainProtocolCallback, WsWorld.setWsStatus,
          WsWorld.condition, outcome, Ends, *]
  | closed =>
      refine ⟨⟨?_, fun other different => ?_, ?_, ?_⟩, ?_, ?_, ?_, ?_⟩ <;>
        simp [WsWorld.issue, WsWorld.plainProtocolCallback, WsWorld.setWsStatus,
          WsWorld.condition, outcome, Ends, WsWorld.removeHandler, WsWorld.kill, *]
  | clientWriteable =>
      refine ⟨⟨?_, fun other different => ?_, ?_, ?_⟩, ?_, ?_, ?_, ?_⟩ <;>
        simp [WsWorld.issue, WsWorld.plainProtocolCallback, found, WsWorld.doSendText,
          WsWorld.use, WsWorld.condition, outcome, Ends]
  | clientReceive =>
      refine ⟨⟨?_, fun other different => ?_, ?_, ?_⟩, ?_, ?_, ?_, ?_⟩ <;>
        simp [WsWorld.issue, WsWorld.plainProtocolCallback,
          WsHandler.onMessageReceived, WsWorld.condition, outcome, Ends, *]
  | _ =>
      refine ⟨⟨?_, fun other different => ?_, ?_, ?_⟩, ?_, ?_, ?_, ?_⟩ <;>
        simp [WsWorld.issue, WsWorld.plainProtocolCallback, found, WsWorld.kill,
          WsWorld.condition, outcome, Ends]

-----------------------------------------------------------------------------------------
-- All callbacks of a library call
-----------------------------------------------------------------------------------------

omit [DecidableEq H] in
theorem WsWorld.kill_dead {world : WsWorld H} {ctx : Context}
    (dead : world.live ctx = false)
    : world.kill ctx = world := by
  simp [WsWorld.kill, ← dead]

theorem ends_cons (callback : LwsCallback) (rest : List LwsCallback)
    : Ends (callback :: rest) ↔ Ends [callback] ∨ Ends rest := by
  simp only [Ends, issued_cons, issued_nil, or_false]
  tauto

/-- The outcome of later callbacks builds on that of the first, unless it closes. -/
theorem outcome_cons {callback : LwsCallback} (closed : callback.reason ≠ .closed)
    (rest : List LwsCallback) (condition : WsStatus × Bool)
    : outcome rest (outcome [callback] condition) = outcome (callback :: rest) condition := by
  simp only [outcome, issued_cons, issued_nil, or_false, closed, if_false, false_or]
  by_cases later : Issued .closed rest
  · simp only [if_pos later]
  · by_cases established : callback.reason = .clientEstablished <;> simp [later, established]

/-- Callbacks for a context that is not registered touch no handler. -/
theorem WsWorld.issueAll_unregistered {world : WsWorld H} {ctx : Context}
    (unregistered : world.map.lookupHandler (some ctx) = none) (callbacks : List LwsCallback)
    : world.issueAll ctx callbacks = if Ends callbacks then world.kill ctx else world := by
  induction callbacks generalizing world with
  | nil => simp [WsWorld.issueAll, Ends]
  | cons callback rest ih =>
      have first := WsWorld.issue_unregistered unregistered callback
      have step : world.issueAll ctx (callback :: rest)
          = (world.issue ctx callback).issueAll ctx rest := rfl
      rw [step, first]
      by_cases dead : Ends [callback]
      · have unfound : (world.kill ctx).map.lookupHandler (some ctx) = none := unregistered
        have gone : (world.kill ctx).live ctx = false := Function.update_self ..
        have later := ih unfound
        rw [WsWorld.kill_dead gone, ite_self] at later
        rw [if_pos dead, later, if_pos ((ends_cons callback rest).mpr (.inl dead))]
      · rw [if_neg dead, ih unregistered]
        simp only [ends_cons callback rest, dead, false_or]

omit [DecidableEq H] in
/-- A closed connection's handler is registered no more. -/
theorem WsWorld.Sound.closed_unregistered {world : WsWorld H} (sound : world.Sound) {h : H}
    {ctx : Context} (current : (world.handlers h).mWsContext = some ctx)
    (registered : world.Registered h)
    : (world.map.removeHandler (some ctx)).lookupHandler (some ctx) = none := by
  have member : (some ctx, some h) ∈ world.map.entries := current ▸ registered
  apply HandlerMap.lookupHandler_none
  intro entry remains
  exact ((HandlerMap.mem_removeHandler sound.distinct member).mp remains).2

/-- A callback that leaves the map alone leaves a sound world, with the handler registered. -/
theorem WsWorld.Serves.continues {world next : WsWorld H} {h : H}
    (serves : world.Serves h next) (map : next.map = world.map) (sound : world.Sound)
    (registered : world.Registered h)
    : next.Sound ∧ next.Registered h := by
  have nextSound := sound.of_sublist serves.contexts serves.current
    (map ▸ List.Sublist.refl _)
  refine ⟨nextSound, ?_⟩
  rw [WsWorld.Registered, serves.context, map]
  exact registered

/-- What the callbacks of a library call do to the handler registered for its context.
Witness: induction over the callbacks; behind the first `CLOSED` the context is not
registered, before it the map is as it was.
-/
theorem WsWorld.issueAll_registered {world : WsWorld H} (sound : world.Sound) {h : H}
    {ctx : Context} (current : (world.handlers h).mWsContext = some ctx)
    (registered : world.Registered h) (callbacks : List LwsCallback)
    : let next := world.issueAll ctx callbacks
      world.Serves h next
      ∧ next.map
        = (if Issued .closed callbacks then world.map.removeHandler (some ctx) else world.map)
      ∧ next.condition h = outcome callbacks (world.condition h)
      ∧ next.live
        = (if Ends callbacks then Function.update world.live ctx false else world.live) := by
  induction callbacks generalizing world with
  | nil => exact ⟨⟨rfl, fun _ _ => rfl, rfl, rfl⟩, by simp [WsWorld.issueAll, outcome, Ends]⟩
  | cons callback rest ih =>
      have found := sound.lookup_registered registered
      rw [current] at found
      obtain ⟨serves, map, condition, live, _⟩ :=
        WsWorld.issue_registered current found callback
      have step : world.issueAll ctx (callback :: rest)
          = (world.issue ctx callback).issueAll ctx rest := rfl
      simp only [step]
      by_cases closed : callback.reason = .closed
      · rw [if_pos (by simpa using closed)] at map
        rw [if_pos (.inl (by simpa using closed))] at live
        have silent := sound.closed_unregistered current registered
        rw [← map] at silent
        have dead : (world.issue ctx callback).live ctx = false := by
          rw [live, Function.update_self]
        rw [WsWorld.issueAll_unregistered silent, WsWorld.kill_dead dead, ite_self]
        refine ⟨serves, ?_, ?_, ?_⟩
        · simpa [closed] using map
        · simpa [outcome, closed] using condition
        · simpa [Ends, closed] using live
      · rw [if_neg (by simpa using closed)] at map
        obtain ⟨nextSound, nextRegistered⟩ := serves.continues map sound registered
        obtain ⟨laterServes, laterMap, laterCondition, laterLive⟩ :=
          ih nextSound (serves.context.trans current) nextRegistered
        refine ⟨serves.trans laterServes, ?_, ?_, ?_⟩
        · rw [laterMap, map]
          simp [closed]
        · rw [laterCondition, condition, outcome_cons closed]
        · rw [laterLive, live]
          by_cases first : Ends [callback] <;> by_cases later : Ends rest <;>
            simp [ends_cons callback rest, first, later]

/-- The outcomes of a service behind which the connection is dead. -/
def Service.Fatal (service : Service) : Prop := Ends service.callbacks ∨ service.result < 0

instance (service : Service) : Decidable service.Fatal :=
  inferInstanceAs (Decidable (Ends service.callbacks ∨ service.result < 0))

/-- A service for a handler that is not registered touches no handler. -/
theorem WsWorld.service_unregistered {world : WsWorld H} (sound : world.Sound) {h : H}
    (unregistered : ¬ world.Registered h) (service : Service)
    : let next := world.service (world.handlers h).mWsContext service
      next.map = world.map
      ∧ next.handlers = world.handlers
      ∧ next.contexts = world.contexts
      ∧ next.uses = world.uses
      ∧ ∀ wsi, some wsi ≠ (world.handlers h).mWsContext → next.live wsi = world.live wsi := by
  cases current : (world.handlers h).mWsContext with
  | none => exact ⟨rfl, rfl, rfl, rfl, fun _ _ => rfl⟩
  | some ctx =>
      have silent := sound.lookup_unregistered current unregistered
      simp only [WsWorld.service, WsWorld.issueAll_unregistered silent]
      refine ⟨?_, ?_, ?_, ?_, fun wsi other => ?_⟩
      all_goals split <;> split <;> simp_all [WsWorld.kill]

/-- A service for a handler that is not registered changes nothing if the connection survives it. -/
theorem WsWorld.service_unheard {world : WsWorld H} (sound : world.Sound) {h : H}
    (unregistered : ¬ world.Registered h) {service : Service} (survived : ¬ service.Fatal)
    : world.service (world.handlers h).mWsContext service = world := by
  obtain ⟨unended, succeeded⟩ := not_or.mp survived
  cases current : (world.handlers h).mWsContext with
  | none => rfl
  | some ctx =>
      have silent := sound.lookup_unregistered current unregistered
      simp only [WsWorld.service, WsWorld.issueAll_unregistered silent]
      rw [if_neg succeeded, if_neg unended]

/-- What a service does to a registered handler. -/
theorem WsWorld.service_registered {world : WsWorld H} (sound : world.Sound) {h : H}
    {ctx : Context} (current : (world.handlers h).mWsContext = some ctx)
    (registered : world.Registered h) (service : Service)
    : let next := world.service (some ctx) service
      world.Serves h next
      ∧ next.map
        = (if Issued .closed service.callbacks then
            world.map.removeHandler (some ctx)
          else
            world.map)
      ∧ next.condition h = outcome service.callbacks (world.condition h)
      ∧ next.live
        = (if service.Fatal then Function.update world.live ctx false else world.live) := by
  obtain ⟨serves, map, condition, live⟩ :=
    WsWorld.issueAll_registered sound current registered service.callbacks
  by_cases failed : service.result < 0
  · simp only [WsWorld.service, Service.Fatal, failed, or_true, if_true]
    refine ⟨⟨serves.contexts, serves.others, serves.context, serves.wsi⟩, map, condition, ?_⟩
    simp only [WsWorld.kill, live]
    split <;> simp
  · simp only [WsWorld.service, Service.Fatal, failed, or_false]
    exact ⟨serves, map, condition, live⟩

/-- A service keeps handlers and entries in order. -/
theorem WsWorld.Sound.service {world : WsWorld H} (sound : world.Sound) {h : H}
    {ctx : Context} (current : (world.handlers h).mWsContext = some ctx)
    (registered : world.Registered h) (service : Service)
    : (world.service (some ctx) service).Sound := by
  obtain ⟨serves, map, _⟩ := WsWorld.service_registered sound current registered service
  refine sound.of_sublist serves.contexts serves.current ?_
  rw [map]
  split
  · exact HandlerMap.removeHandler_sublist _ _
  · exact List.Sublist.refl _

/-- A service ends no other connection. -/
theorem WsWorld.service_elsewhere {world : WsWorld H} (sound : world.Sound) {h : H}
    {ctx : Context} (current : (world.handlers h).mWsContext = some ctx)
    (registered : world.Registered h) (service : Service) {wsi : Context}
    (other : some wsi ≠ some ctx)
    : (world.service (some ctx) service).live wsi = world.live wsi := by
  obtain ⟨_, _, _, live⟩ := WsWorld.service_registered sound current registered service
  rw [live]
  split
  · exact Function.update_of_ne (fun same => other (congrArg some same)) _ _
  · rfl

theorem WsWorld.createContext_context (world : WsWorld H) (h other : H)
    : ((world.createContext h).handlers other).mWsContext
      = if other = h then some world.contexts else (world.handlers other).mWsContext := by
  by_cases same : other = h
  · subst same
    simp [WsWorld.createContext]
  · simp [WsWorld.createContext, same]

/-- A fresh context keeps the map sound, and registers its handler. -/
theorem WsWorld.Sound.createContext {world : WsWorld H} (sound : world.Sound)
    (nonneg : 0 ≤ world.map.handlerLength) (h : H)
    : (world.createContext h).Sound ∧ (world.createContext h).Registered h := by
  have appended : (world.createContext h).map.entries
      = world.map.entries ++ [(some world.contexts, some h)] :=
    HandlerMap.registerHandlerMap_entries nonneg _ h
  have fresh (other : H) : (world.handlers other).mWsContext ≠ some world.contexts :=
    fun current => Nat.lt_irrefl _ (sound.created other _ current)
  refine ⟨⟨fun other ctx current => ?_, fun one other ctx first second => ?_,
    fun entry member => ?_, ?_⟩, ?_⟩
  · change ctx < world.contexts + 1
    rw [WsWorld.createContext_context] at current
    split at current
    · cases current
      exact Nat.lt_succ_self _
    · exact Nat.lt_succ_of_lt (sound.created other ctx current)
  · rw [WsWorld.createContext_context] at first second
    by_cases firstNew : one = h
    · rw [if_pos firstNew] at first
      by_contra different
      rw [if_neg (fun secondNew => different (firstNew.trans secondNew.symm))] at second
      exact fresh other (second.trans first.symm)
    · rw [if_neg firstNew] at first
      split at second
      · exact absurd (first.trans second.symm) (fresh one)
      · exact sound.own one other ctx first second
  · rw [appended] at member
    rcases List.mem_append.mp member with old | new
    · obtain ⟨ctx, owner, rfl, earlier, only⟩ := sound.entries entry old
      refine ⟨ctx, owner, rfl, Nat.lt_succ_of_lt earlier, fun other current => ?_⟩
      rw [WsWorld.createContext_context] at current
      split at current
      · cases current
        exact absurd earlier (Nat.lt_irrefl _)
      · exact only other current
    · obtain rfl := List.mem_singleton.mp new
      refine ⟨world.contexts, h, rfl, Nat.lt_succ_self _, fun other current => ?_⟩
      rw [WsWorld.createContext_context] at current
      by_contra different
      rw [if_neg different] at current
      exact fresh other current
  · rw [appended]
    refine nodup_keys_concat sound.distinct (fun entry member same => ?_)
    obtain ⟨ctx, owner, rfl, before, _⟩ := sound.entries entry member
    exact Nat.lt_irrefl _ (Option.some.inj same ▸ before)
  · rw [WsWorld.Registered, appended, WsWorld.createContext_context, if_pos rfl]
    exact List.mem_append_right _ (List.mem_singleton.mpr rfl)

end Cooboc.Websocket
