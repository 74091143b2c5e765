import Mathlib.Data.Fintype.Option
import Mathlib.Data.Fintype.Card
import Cooboc.Websocket.Callbacks

/-! When the context-to-handler map stays consistent: entries leak where a connection fails,
and are removed twice where a close is followed by a failing service.
-/

namespace Cooboc.Websocket

open Cooboc.Foundations

variable {H : Type*}

/-- (world.MapConsistent) says that the length is in range, that no context occurs twice,
that the map holds for each handler exactly the entry under its current context, and this
only while it is connecting or connected, that each lookup finds the owner, and that all
writes so far have been within the arrays.
-/
structure WsWorld.MapConsistent (world : WsWorld H) : Prop where
  nonneg : 0 ≤ world.map.handlerLength
  bound : world.map.handlerLength ≤ socketPoolSize
  distinct : (world.map.entries.map Prod.fst).Nodup
  owned : ∀ entry ∈ world.map.entries, ∃ h, entry.2 = some h
  entries
    : ∀ ctx h,
        (ctx, some h) ∈ world.map.entries
        ↔ (world.handlers h).mWsStatus ≠ .disconnect
          ∧ (world.handlers h).mWsContext = ctx
  lookup
    : ∀ ctx h, world.map.lookupHandler ctx = some h ↔ (ctx, some h) ∈ world.map.entries
  writes : ∀ i ∈ world.map.writes, 0 ≤ i ∧ i < socketPoolSize

/-- What the calls preserve: a sound map with exactly the entries of the connecting and
connected handlers, written within its bounds.
-/
structure WsWorld.Rostered (world : WsWorld H) : Prop where
  sound : world.Sound
  nonneg : 0 ≤ world.map.handlerLength
  entries
    : ∀ ctx h,
        (ctx, some h) ∈ world.map.entries
        ↔ (world.handlers h).mWsStatus ≠ .disconnect
          ∧ (world.handlers h).mWsContext = ctx
  writes : ∀ i ∈ world.map.writes, 0 ≤ i ∧ i < socketPoolSize

/-- A handler is registered exactly while it is connecting or connected. -/
theorem WsWorld.Rostered.registered_iff {world : WsWorld H} (rostered : world.Rostered)
    (h : H)
    : world.Registered h ↔ (world.handlers h).mWsStatus ≠ .disconnect := by
  rw [WsWorld.Registered, rostered.entries]
  exact and_iff_left rfl

/-- No handler has two entries. Witness: all its entries are under its current context. -/
theorem WsWorld.Rostered.owners_nodup {world : WsWorld H} (rostered : world.Rostered)
    : (world.map.entries.map Prod.snd).Nodup := by
  refine rostered.sound.distinct.of_map.map_on (fun first one second two same => ?_)
  obtain ⟨_, owner, rfl, _⟩ := rostered.sound.entries first one
  obtain ⟨_, other, rfl, _⟩ := rostered.sound.entries second two
  obtain rfl := Option.some.inj same
  rw [← ((rostered.entries _ _).mp one).2, ← ((rostered.entries _ _).mp two).2]

/-- There are at most as many entries as handlers, and fewer while a handler is not
registered.
-/
theorem WsWorld.Rostered.length_le [Fintype H] [DecidableEq H] {world : WsWorld H}
    (rostered : world.Rostered)
    : world.map.handlerLength ≤ Fintype.card H
      ∧ ∀ h,
          (world.handlers h).mWsStatus = .disconnect
          → world.map.handlerLength < Fintype.card H := by
  have counted : ((world.map.entries.map Prod.snd).length : Int) = world.map.handlerLength := by
    rw [List.length_map, HandlerMap.entries_length, Int.toNat_of_nonneg rostered.nonneg]
  have named : none ∉ world.map.entries.map Prod.snd := by
    intro member
    obtain ⟨entry, found, unnamed⟩ := List.mem_map.mp member
    obtain ⟨_, _, rfl, _⟩ := rostered.sound.entries entry found
    cases unnamed
  have all := List.Nodup.length_le_card (List.nodup_cons.mpr ⟨named, rostered.owners_nodup⟩)
  rw [List.length_cons, Fintype.card_option] at all
  refine ⟨by omega, fun h resting => ?_⟩
  have missing : some h ∉ none :: world.map.entries.map Prod.snd := by
    intro member
    rcases List.mem_cons.mp member with unnamed | within
    · cases unnamed
    · obtain ⟨⟨ctx, owner⟩, found, rfl⟩ := List.mem_map.mp within
      exact ((rostered.entries ctx h).mp found).1 resting
  have more := List.Nodup.length_le_card
    (List.nodup_cons.mpr ⟨missing, List.nodup_cons.mpr ⟨named, rostered.owners_nodup⟩⟩)
  rw [List.length_cons, List.length_cons, Fintype.card_option] at more
  omega

/-- A rostered map of at most `SOCKET_POOL_SIZE` handlers is consistent. -/
theorem WsWorld.Rostered.consistent [Fintype H] [DecidableEq H] {world : WsWorld H}
    (rostered : world.Rostered) (few : (Fintype.card H : Int) ≤ socketPoolSize)
    : world.MapConsistent where
  nonneg := rostered.nonneg
  bound := Int.le_trans rostered.length_le.1 few
  distinct := rostered.sound.distinct
  owned entry member := by
    obtain ⟨_, owner, rfl, _⟩ := rostered.sound.entries entry member
    exact ⟨owner, rfl⟩
  entries := rostered.entries
  lookup ctx h := by
    constructor
    · exact HandlerMap.mem_of_lookupHandler
    · exact HandlerMap.lookupHandler_of_mem rostered.sound.distinct
  writes := rostered.writes

/-- A change that leaves the map keeps it rostered if no handler comes or goes. -/
theorem WsWorld.Rostered.keep {world next : WsWorld H} (rostered : world.Rostered)
    (contexts : next.contexts = world.contexts) (map : next.map = world.map)
    (current : ∀ h, (next.handlers h).mWsContext = (world.handlers h).mWsContext)
    (status
      : ∀ h,
          (next.handlers h).mWsStatus = .disconnect
          ↔ (world.handlers h).mWsStatus = .disconnect)
    : next.Rostered where
  sound := rostered.sound.of_sublist contexts current (map ▸ List.Sublist.refl _)
  nonneg := map ▸ rostered.nonneg
  entries ctx h := by
    rw [map, current, ne_eq, status]
    exact rostered.entries ctx h
  writes := map ▸ rostered.writes

/-- Removing the entry of a registered handler together with its status keeps the map
rostered. -/
theorem WsWorld.Rostered.remove {world next : WsWorld H} (rostered : world.Rostered) {h : H}
    (registered : world.Registered h) (bound : world.map.handlerLength ≤ socketPoolSize)
    (contexts : next.contexts = world.contexts)
    (map : next.map = world.map.removeHandler (world.handlers h).mWsContext)
    (current : ∀ other, (next.handlers other).mWsContext = (world.handlers other).mWsContext)
    (status
      : ∀ other,
          other ≠ h → (next.handlers other).mWsStatus = (world.handlers other).mWsStatus)
    (gone : (next.handlers h).mWsStatus = .disconnect)
    : next.Rostered where
  sound :=
    rostered.sound.of_sublist contexts current (map ▸ HandlerMap.removeHandler_sublist _ _)
  nonneg := by
    have present := List.length_pos_of_mem registered
    rw [HandlerMap.entries_length] at present
    rw [map]
    change 0 ≤ world.map.handlerLength - 1
    omega
  entries ctx other := by
    rw [map, HandlerMap.mem_removeHandler rostered.sound.distinct registered,
      rostered.entries, current]
    by_cases same : other = h
    · subst same
      exact iff_of_false (fun ⟨⟨_, named⟩, apart⟩ => apart named.symm)
        (fun kept => kept.1 gone)
    · rw [status other same]
      refine and_iff_left_of_imp (fun ⟨_, named⟩ shared => same ?_)
      obtain ⟨_, owner, key, _, only⟩ := rostered.sound.entries _ registered
      obtain ⟨key, _⟩ := Prod.mk.inj key
      exact (only other (named.trans (shared.trans key))).trans (only h key).symm
  writes i member := by
    rw [map] at member
    rcases List.mem_append.mp member with earlier | moved
    · exact rostered.writes i earlier
    · obtain ⟨j, within, rfl⟩ := List.mem_map.mp moved
      obtain ⟨step, _, rfl⟩ := List.mem_range'.mp within
      change 0 ≤ ((_ : Nat) : Int) ∧ ((_ : Nat) : Int) < _
      omega

variable [DecidableEq H]

/-- A fresh context whose handler is no longer disconnected keeps the map rostered. -/
theorem WsWorld.Rostered.add {world next : WsWorld H} (rostered : world.Rostered) {h : H}
    (resting : (world.handlers h).mWsStatus = .disconnect)
    (room : world.map.handlerLength < socketPoolSize)
    (contexts : next.contexts = (world.createContext h).contexts)
    (map : next.map = (world.createContext h).map)
    (others
      : ∀ other, other ≠ h → next.handlers other = (world.createContext h).handlers other)
    (current : (next.handlers h).mWsContext = some world.contexts)
    (started : (next.handlers h).mWsStatus ≠ .disconnect)
    : next.Rostered where
  sound := by
    refine (rostered.sound.createContext rostered.nonneg h).1.of_sublist contexts
      (fun other => ?_) (map ▸ List.Sublist.refl _)
    by_cases same : other = h
    · rw [same, current, WsWorld.createContext_context, if_pos rfl]
    · rw [others other same]
  nonneg := by
    have nonneg := rostered.nonneg
    rw [map]
    change 0 ≤ world.map.handlerLength + 1
    omega
  entries ctx other := by
    have appended : next.map.entries
        = world.map.entries ++ [(some world.contexts, some h)] := by
      rw [map]
      exact HandlerMap.registerHandlerMap_entries rostered.nonneg _ h
    rw [appended, List.mem_append, rostered.entries, List.mem_singleton]
    by_cases same : other = h
    · subst same
      simp [resting, started, current, eq_comm]
    · rw [others other same]
      simp [WsWorld.createContext, same]
  writes i member := by
    rw [map] at member
    rcases List.mem_append.mp member with earlier | new
    · exact rostered.writes i earlier
    · obtain rfl := List.mem_singleton.mp new
      exact ⟨rostered.nonneg, room⟩

-----------------------------------------------------------------------------------------
-- The calls
-----------------------------------------------------------------------------------------

/-- (world.KeepsMap call) is the condition under which a call keeps the map consistent.
`connectServer` is called on a disconnected handler, gets a connection, and is not closed
before it returns; no service both closes the connection and fails; and no service for a
disconnected handler fails.
-/
def WsWorld.KeepsMap (world : WsWorld H) : WsCall H → Prop
  | .connectServer h connect service =>
      (world.handlers h).mWsStatus = .disconnect
      ∧ connect.connected = true
      ∧ ¬ Issued .closed connect.callbacks
      ∧ ¬ (Issued .closed service.callbacks ∧ service.result < 0)
  | .touchServer h service => KeepsMap.touch world h service
  | .sendText h _ service => (world.handlers h).mIsGood = true → KeepsMap.touch world h service
where
  /-- The condition on the service of `touchServer`. -/
  touch (world : WsWorld H) (h : H) (service : Service) : Prop :=
    if (world.handlers h).mWsStatus = .disconnect then
      0 ≤ service.result
    else
      ¬ (Issued .closed service.callbacks ∧ service.result < 0)

instance WsWorld.KeepsMap.decidableTouch (world : WsWorld H) (h : H) (service : Service)
    : Decidable (WsWorld.KeepsMap.touch world h service) := by
  unfold WsWorld.KeepsMap.touch
  infer_instance

instance WsWorld.decidableKeepsMap (world : WsWorld H)
    : (call : WsCall H) → Decidable (world.KeepsMap call)
  | .connectServer _ _ _ => inferInstanceAs (Decidable (_ ∧ _ ∧ ¬ _ ∧ ¬ (_ ∧ _)))
  | .touchServer h service => WsWorld.KeepsMap.decidableTouch world h service
  | .sendText h _ service =>
      inferInstanceAs (Decidable (_ → WsWorld.KeepsMap.touch world h service))

/-- A connection's status behind callbacks that do not close it. -/
theorem outcome_started {callbacks : List LwsCallback} (closed : ¬ Issued .closed callbacks)
    {condition : WsStatus × Bool} (started : condition.1 ≠ .disconnect)
    : (outcome callbacks condition).1 ≠ .disconnect := by
  rw [outcome, if_neg closed]
  split
  · decide
  · exact started

/-- A service with its error branch keeps the map rostered, unless it both closes the
connection and fails. Witness: at most one of the two removes the entry.
-/
theorem WsWorld.Rostered.serve {world : WsWorld H} (rostered : world.Rostered)
    (bound : world.map.handlerLength ≤ socketPoolSize) {h : H}
    (flying : (world.handlers h).mWsStatus ≠ .disconnect) {service : Service}
    (once : ¬ (Issued .closed service.callbacks ∧ service.result < 0))
    (change : WsHandler → WsHandler)
    (context : ∀ handler, (change handler).mWsContext = handler.mWsContext)
    (status : ∀ handler, (change handler).mWsStatus = .disconnect)
    : let served := world.service (world.handlers h).mWsContext service
      (if service.result < 0 then
          (served.update h change).removeHandler (served.handlers h).mWsContext
        else
          served).Rostered := by
  have registered := (rostered.registered_iff h).mpr flying
  obtain ⟨ctx, _, named, _⟩ := rostered.sound.entries _ registered
  have current : (world.handlers h).mWsContext = some ctx := (Prod.mk.inj named).1
  obtain ⟨serves, map, condition, _⟩ :=
    WsWorld.service_registered rostered.sound current registered service
  have statuses (other : H) (different : other ≠ h)
      : ((world.service (some ctx) service).handlers other).mWsStatus
        = (world.handlers other).mWsStatus := by
    rw [serves.others other different]
  simp only [current]
  by_cases closed : Issued .closed service.callbacks
  · rw [if_pos closed] at map
    rw [if_neg (fun failed => once ⟨closed, failed⟩)]
    refine rostered.remove registered bound serves.contexts (current ▸ map) serves.current
      statuses ?_
    simpa [outcome, closed, WsWorld.condition] using congrArg Prod.fst condition
  · rw [if_neg closed] at map
    have flies : ((world.service (some ctx) service).handlers h).mWsStatus ≠ .disconnect := by
      rw [show ((world.service (some ctx) service).handlers h).mWsStatus
        = (outcome service.callbacks (world.condition h)).1 from congrArg Prod.fst condition]
      exact outcome_started closed flying
    have served := rostered.keep serves.contexts map serves.current (fun other => by
      by_cases same : other = h
      · subst same
        exact iff_of_false flies flying
      · rw [statuses other same])
    by_cases failed : service.result < 0
    · rw [if_pos failed]
      have contexts (other : H)
          : (((world.service (some ctx) service).update h change).handlers other).mWsContext
            = ((world.service (some ctx) service).handlers other).mWsContext := by
        by_cases same : other = h
        · rw [same, WsWorld.update_self, context]
        · rw [WsWorld.update_other _ _ _ same]
      refine served.remove ((served.registered_iff h).mpr flies) (map ▸ bound) rfl rfl contexts
        (fun other different => ?_) ?_
      · exact congrArg WsHandler.mWsStatus (WsWorld.update_other _ _ _ different)
      · exact (congrArg WsHandler.mWsStatus (WsWorld.update_self _ _ _)).trans (status _)
    · rw [if_neg failed]
      exact served

/-- `touchServer` keeps the map rostered under its condition. -/
theorem WsWorld.Rostered.touchServer {world : WsWorld H} (rostered : world.Rostered)
    (bound : world.map.handlerLength ≤ socketPoolSize) {h : H} {service : Service}
    (keeps : WsWorld.KeepsMap.touch world h service)
    : (world.touchServer h service).Rostered := by
  unfold WsWorld.KeepsMap.touch at keeps
  by_cases resting : (world.handlers h).mWsStatus = .disconnect
  · rw [if_pos resting] at keeps
    have unregistered : ¬ world.Registered h :=
      fun registered => (rostered.registered_iff h).mp registered resting
    obtain ⟨map, handlers, contexts, _⟩ :=
      WsWorld.service_unregistered rostered.sound unregistered service
    simp only [WsWorld.touchServer, if_neg (Int.not_lt.mpr keeps)]
    exact rostered.keep contexts map (fun other => by rw [handlers])
      (fun other => by rw [handlers])
  · rw [if_neg resting] at keeps
    exact rostered.serve bound resting keeps _ (fun _ => rfl) (fun _ => rfl)

/-- `connectServer` keeps the map rostered under its condition. Witness: the fresh entry
joins the map when the status becomes connecting; the service then runs as in `touchServer`.
-/
theorem WsWorld.Rostered.connectServer {world : WsWorld H} (rostered : world.Rostered)
    (room : world.map.handlerLength < socketPoolSize) {h : H} {connect : ClientConnect}
    {service : Service} (keeps : world.KeepsMap (.connectServer h connect service))
    : (world.connectServer h connect service).Rostered := by
  obtain ⟨resting, connected, unclosed, once⟩ := keeps
  obtain ⟨sound, registered⟩ := rostered.sound.createContext rostered.nonneg h
  have current : ((world.createContext h).handlers h).mWsContext = some world.contexts := by
    rw [WsWorld.createContext_context, if_pos rfl]
  obtain ⟨serves, map, _⟩ :=
    WsWorld.issueAll_registered sound current registered connect.callbacks
  rw [if_neg unclosed] at map
  let issued := (world.createContext h).issueAll world.contexts connect.callbacks
  let connecting := (issued.update h (fun handler =>
    { handler with mWsi := some world.contexts })).update h (fun handler =>
      { handler with mWsStatus := .connecting })
  have self : (connecting.handlers h).mWsContext = some world.contexts := by
    simpa [connecting] using serves.context.trans current
  have added : connecting.Rostered := by
    refine rostered.add resting room serves.contexts map (fun other different => ?_) self ?_
    · simpa [connecting, different] using serves.others other different
    · simp [connecting]
  have bound : connecting.map.handlerLength ≤ socketPoolSize := by
    change issued.map.handlerLength ≤ _
    rw [map]
    exact room
  have served := added.serve bound (h := h) (by simp [connecting]) once
    (fun handler => { handler with mWsStatus := .disconnect }) (fun _ => rfl) (fun _ => rfl)
  simp only [WsWorld.connectServer, if_pos connected]
  exact served

/-- Every call keeps the map rostered under its condition. -/
theorem WsWorld.Rostered.step [Fintype H] {world : WsWorld H} (rostered : world.Rostered)
    (few : (Fintype.card H : Int) ≤ socketPoolSize) {call : WsCall H}
    (keeps : world.KeepsMap call)
    : (websockets.step world call).1.Rostered := by
  have bound := (rostered.consistent few).bound
  cases call with
  | connectServer h connect service =>
      have room := Int.lt_of_lt_of_le (rostered.length_le.2 h keeps.1) few
      exact rostered.connectServer room keeps
  | touchServer h service => exact rostered.touchServer bound keeps
  | sendText h text service =>
      simp only [websockets, WsWorld.sendText]
      split
      · rename_i good
        let written := (world.update h (fun handler => { handler with mSendText := text })).use
          ((world.update h (fun handler => { handler with mSendText := text })).handlers h).mWsi
        have same (other : H)
            : (written.handlers other).mWsStatus = (world.handlers other).mWsStatus
              ∧ (written.handlers other).mWsContext = (world.handlers other).mWsContext := by
          by_cases here : other = h
          · simp [written, WsWorld.use, here]
          · simp [written, WsWorld.use, here]
        have kept : written.Rostered :=
          rostered.keep rfl rfl (fun other => (same other).2)
            (fun other => by rw [(same other).1])
        refine kept.touchServer bound ?_
        have condition := keeps good
        unfold WsWorld.KeepsMap.touch at condition ⊢
        rwa [(same h).1]
      · exact rostered

omit [DecidableEq H] in
theorem WsWorld.initial_rostered (memory : H → Nat → UInt8)
    : (WsWorld.initial memory).Rostered where
  sound := WsWorld.initial_sound memory
  nonneg := Int.le_refl 0
  entries _ _ := iff_of_false List.not_mem_nil nofun
  writes := nofun

/-- While every call meets its condition, the map of at most `SOCKET_POOL_SIZE` handlers is
consistent in every state reached. Witness: the rostered map is kept by every such call.
-/
theorem mapConsistent_throughout [Fintype H] (memory : H → Nat → UInt8)
    (calls : List (WsCall H)) (few : (Fintype.card H : Int) ≤ socketPoolSize)
    (keeps : websockets.Always WsWorld.KeepsMap (WsWorld.initial memory) calls)
    : websockets.Throughout WsWorld.MapConsistent (WsWorld.initial memory) calls := by
  have rostered := keeps.throughout WsWorld.Rostered (WsWorld.initial_rostered memory)
    (fun _ _ rostered keeps => rostered.step few keeps)
  exact fun seen initial => (rostered seen initial).consistent few

/-- Two handlers connect; one is closed, its service succeeding, and connects again. -/
theorem mapConsistent_throughout_reconnect
    : let established : LwsCallback := ⟨.clientEstablished, []⟩
      let closed : LwsCallback := ⟨.closed, []⟩
      let calls : List (WsCall (Fin 2)) := [
          .connectServer 0 ⟨[], true⟩ ⟨[established], 0⟩,
          .connectServer 1 ⟨[], true⟩ ⟨[], 0⟩,
          .touchServer 0 ⟨[closed], 0⟩,
          .touchServer 1 ⟨[established], 0⟩,
          .connectServer 0 ⟨[], true⟩ ⟨[], -1⟩
        ]
      websockets.Throughout WsWorld.MapConsistent (WsWorld.initial (fun _ _ => 0)) calls :=
  mapConsistent_throughout _ _ (by decide) (by decide)

/-- A connection that is refused leaves its entry in the map, and one that is closed while its
first service fails is removed twice, down to a negative length.
-/
theorem mapConsistent_fails
    : ¬ websockets.Throughout WsWorld.MapConsistent (WsWorld.initial (fun (_ : Unit) _ => 0))
        [.connectServer () ⟨[], false⟩ ⟨[], 0⟩]
      ∧ ¬ websockets.Throughout WsWorld.MapConsistent (WsWorld.initial (fun (_ : Unit) _ => 0))
        [.connectServer () ⟨[], true⟩ ⟨[⟨.closed, []⟩], -1⟩] := by
  constructor
  · intro every
    have entry := ((every _ (List.prefix_refl _)).entries (some 0) ()).mp (by decide)
    exact entry.1 (by decide)
  · intro every
    exact absurd (every _ (List.prefix_refl _)).nonneg (by decide)

end Cooboc.Websocket
