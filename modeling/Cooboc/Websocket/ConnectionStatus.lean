import Cooboc.Websocket.Callbacks

/-! When a handler's status follows its connection: the error branch of `connectServer` that
keeps `mIsGood`, and the ignored `CLIENT_CONNECTION_ERROR`, are where it does not.
-/

namespace Cooboc.Websocket

open Cooboc.Foundations

variable {H : Type*}

/-- (world.StatusFaithful) says of every handler that its connection is alive while the
status is connecting or connected, and that `mIsGood` is set exactly while it is connected;
and that no dead connection has been used so far.
-/
structure WsWorld.StatusFaithful (world : WsWorld H) : Prop where
  live
    : ∀ h,
        (world.handlers h).mWsStatus ≠ .disconnect
        → world.isLive (world.handlers h).mWsi = true
  good
    : ∀ h, (world.handlers h).mIsGood = true ↔ (world.handlers h).mWsStatus = .connected
  uses : ∀ use ∈ world.uses, use = true

/-- What the calls preserve. A handler's connection, if it has one, is that of its current
context.
-/
structure WsWorld.Tracked (world : WsWorld H) : Prop where
  sound : world.Sound
  linked
    : ∀ h,
        (world.handlers h).mWsi = none
        ∨ (world.handlers h).mWsi = (world.handlers h).mWsContext
  faithful : world.StatusFaithful

/-- (writeableSafe alive callbacks) says that up to the first `CLOSED` the library issues
`CLIENT_WRITEABLE` only while the connection is alive, which it is at first if `alive` says
so.
-/
def writeableSafe (alive : Bool) : List LwsCallback → Bool
  | [] => true
  | callback :: rest =>
      if callback.reason = .closed then
        true
      else if callback.reason = .clientConnectionError then
        writeableSafe false rest
      else
        (alive || decide (callback.reason ≠ .clientWriteable)) && writeableSafe alive rest

variable [DecidableEq H]

/-- (world.TracksStatus call) is the condition under which a call keeps status and connection
together. Within `connectServer`: the entry fits into the map; a connection that is refused
was closed or never established; one whose first service fails was closed or never
established; one whose first service succeeds was not closed before, and then was closed, or
has not failed and was not established too early; and a use before the connection is returned
finds the one before it alive. In a later service of a registered handler: the connection was
closed if it failed, or the service itself fails; so too if a disconnected one was established.
A handler that is not registered hears of the end of its connection by a failing service only.
-/
def WsWorld.TracksStatus (world : WsWorld H) : WsCall H → Prop
  | .connectServer h connect service =>
      (0 ≤ world.map.handlerLength ∧ world.map.handlerLength < socketPoolSize)
      ∧ ((world.handlers h).mWsStatus ≠ .disconnect
        ∨ writeableSafe false connect.callbacks = true)
      ∧ (if connect.connected = false then
          Issued .closed connect.callbacks
          ∨ ¬ Issued .clientEstablished connect.callbacks
            ∧ (world.handlers h).mWsStatus = .disconnect
        else if service.result < 0 then
          Issued .closed connect.callbacks
          ∨ Issued .closed service.callbacks
          ∨ ¬ Issued .clientEstablished connect.callbacks
            ∧ ¬ Issued .clientEstablished service.callbacks
            ∧ (world.handlers h).mWsStatus ≠ .connected
        else
          ¬ Issued .closed connect.callbacks
          ∧ (Issued .closed service.callbacks
            ∨ ¬ Issued .clientConnectionError connect.callbacks
              ∧ ¬ Issued .clientConnectionError service.callbacks
              ∧ (Issued .clientEstablished service.callbacks
                ∨ ¬ Issued .clientEstablished connect.callbacks
                  ∧ (world.handlers h).mWsStatus ≠ .connected)))
      ∧ (Issued .closed connect.callbacks
        ∨ writeableSafe (decide (¬ Issued .clientConnectionError connect.callbacks))
            service.callbacks
          = true)
  | .touchServer h service => TracksStatus.touch world h service
  | .sendText h _ service =>
      (world.handlers h).mIsGood = true → TracksStatus.touch world h service
where
  /-- The condition on the service of `touchServer`. -/
  touch (world : WsWorld H) (h : H) (service : Service) : Prop :=
    let registered := world.map.lookupHandler (world.handlers h).mWsContext = some h
    if (world.handlers h).mWsStatus = .disconnect then
      registered
      → (service.result < 0
          ∨ Issued .closed service.callbacks
          ∨ ¬ Issued .clientEstablished service.callbacks)
        ∧ writeableSafe false service.callbacks = true
    else if registered then
      (service.result < 0
        ∨ Issued .closed service.callbacks
        ∨ ¬ Issued .clientConnectionError service.callbacks)
      ∧ writeableSafe true service.callbacks = true
    else
      service.result < 0 ∨ ¬ Ends service.callbacks

instance WsWorld.TracksStatus.decidableTouch (world : WsWorld H) (h : H) (service : Service)
    : Decidable (WsWorld.TracksStatus.touch world h service) := by
  unfold WsWorld.TracksStatus.touch
  infer_instance

instance WsWorld.decidableTracksStatus (world : WsWorld H)
    : (call : WsCall H) → Decidable (world.TracksStatus call)
  | .connectServer h connect service => by
      unfold WsWorld.TracksStatus
      infer_instance
  | .touchServer h service => WsWorld.TracksStatus.decidableTouch world h service
  | .sendText h _ service =>
      inferInstanceAs (Decidable (_ → WsWorld.TracksStatus.touch world h service))

/-- A callback uses a connection that is alive, or none. -/
theorem WsWorld.Sound.issue_uses {world : WsWorld H} (sound : world.Sound) {h : H}
    {ctx : Context} (current : (world.handlers h).mWsContext = some ctx)
    (registered : world.Registered h) {callback : LwsCallback}
    (living
      : callback.reason = .clientWriteable → world.isLive (world.handlers h).mWsi = true)
    (used : ∀ use ∈ world.uses, use = true)
    : ∀ use ∈ (world.issue ctx callback).uses, use = true := by
  have found := sound.lookup_registered registered
  rw [current] at found
  obtain ⟨_, _, _, _, uses⟩ := WsWorld.issue_registered current found callback
  rw [uses]
  by_cases writeable : callback.reason = .clientWriteable
  · rw [if_pos writeable]
    intro use member
    rcases List.mem_append.mp member with earlier | now
    · exact used use earlier
    · exact (List.mem_singleton.mp now).trans (living writeable)
  · rw [if_neg writeable]
    exact used

/-- A callback other than `CLOSED` leaves the handler registered, and ends no connection, or that
of its context.
-/
theorem WsWorld.Sound.issue_open {world : WsWorld H} (sound : world.Sound) {h : H}
    {ctx : Context} (current : (world.handlers h).mWsContext = some ctx)
    (registered : world.Registered h) {callback : LwsCallback}
    (unclosed : callback.reason ≠ .closed)
    : let next := world.issue ctx callback
      world.Serves h next
      ∧ next.Sound
      ∧ next.Registered h
      ∧ next.live
        = (if callback.reason = .clientConnectionError then
            Function.update world.live ctx false
          else
            world.live) := by
  have found := sound.lookup_registered registered
  rw [current] at found
  obtain ⟨serves, map, _, live, _⟩ := WsWorld.issue_registered current found callback
  rw [if_neg (by simpa using unclosed)] at map
  obtain ⟨nextSound, nextRegistered⟩ := serves.continues map sound registered
  refine ⟨serves, nextSound, nextRegistered, live.trans ?_⟩
  simp [Ends, unclosed]

/-- Behind `CLOSED` no connection is used: the entry is gone, so that no later callback of the
library call reaches the handler.
-/
theorem WsWorld.Sound.closed_uses {world : WsWorld H} (sound : world.Sound) {h : H}
    {ctx : Context} (current : (world.handlers h).mWsContext = some ctx)
    (registered : world.Registered h) {callback : LwsCallback}
    (closed : callback.reason = .closed) (rest : List LwsCallback)
    : (world.issueAll ctx (callback :: rest)).uses = world.uses := by
  have found := sound.lookup_registered registered
  rw [current] at found
  obtain ⟨_, map, _, _, uses⟩ := WsWorld.issue_registered current found callback
  rw [if_pos (by simpa using closed)] at map
  rw [if_neg (by simp [closed])] at uses
  have silent := sound.closed_unregistered current registered
  rw [← map] at silent
  have step : world.issueAll ctx (callback :: rest)
      = (world.issue ctx callback).issueAll ctx rest := rfl
  rw [step, WsWorld.issueAll_unregistered silent]
  split
  · exact uses
  · exact uses

/-- Under a safe order of callbacks a registered handler uses its connection only while it
is alive. Witness: induction over the callbacks; behind `CLOSED` none is dispatched, behind
`CLIENT_CONNECTION_ERROR` no use is left before it.
-/
theorem WsWorld.issueAll_uses {world : WsWorld H} (sound : world.Sound) {h : H}
    {ctx : Context} (current : (world.handlers h).mWsContext = some ctx)
    (registered : world.Registered h) (alive : Bool)
    (living : alive = true → world.isLive (world.handlers h).mWsi = true)
    {callbacks : List LwsCallback} (safe : writeableSafe alive callbacks = true)
    (used : ∀ use ∈ world.uses, use = true)
    : ∀ use ∈ (world.issueAll ctx callbacks).uses, use = true := by
  induction callbacks generalizing world alive with
  | nil => exact used
  | cons callback rest ih =>
      by_cases closed : callback.reason = .closed
      · rw [sound.closed_uses current registered closed]
        exact used
      obtain ⟨serves, nextSound, nextRegistered, live⟩ :=
        sound.issue_open current registered closed
      have nextCurrent := serves.context.trans current
      rw [writeableSafe, if_neg closed] at safe
      by_cases failed : callback.reason = .clientConnectionError
      · -- The connection dies but stays registered: only the order of callbacks helps.
        rw [if_pos failed] at safe
        have unused := sound.issue_uses current registered
          (fun writeable => absurd (failed.symm.trans writeable) (by decide)) used
        exact @ih (world.issue ctx callback) nextSound nextCurrent nextRegistered false nofun safe
          unused
      · rw [if_neg failed, Bool.and_eq_true, Bool.or_eq_true, decide_eq_true_eq] at safe
        rw [if_neg failed] at live
        have still : alive = true
            → (world.issue ctx callback).isLive ((world.issue ctx callback).handlers h).mWsi
              = true := by
          intro before
          rw [serves.wsi, ← living before]
          simp only [WsWorld.isLive, live]
        have safely := sound.issue_uses current registered
          (fun writeable => living (safe.1.resolve_right (not_not_intro writeable))) used
        exact @ih (world.issue ctx callback) nextSound nextCurrent nextRegistered alive still
          safe.2 safely

/-- While a handler reconnects, its callbacks use the connection it had before, which they do not
end. Witness: induction over the callbacks, which belong to another context.
-/
theorem WsWorld.reconnecting_uses {world : WsWorld H} (sound : world.Sound) {h : H}
    {ctx : Context} (current : (world.handlers h).mWsContext = some ctx)
    (registered : world.Registered h) (living : world.isLive (world.handlers h).mWsi = true)
    (apart : (world.handlers h).mWsi ≠ some ctx) {callbacks : List LwsCallback}
    (used : ∀ use ∈ world.uses, use = true)
    : ∀ use ∈ (world.issueAll ctx callbacks).uses, use = true := by
  induction callbacks generalizing world with
  | nil => exact used
  | cons callback rest ih =>
      by_cases closed : callback.reason = .closed
      · rw [sound.closed_uses current registered closed]
        exact used
      obtain ⟨serves, nextSound, nextRegistered, live⟩ :=
        sound.issue_open current registered closed
      have still : (world.issue ctx callback).isLive (world.handlers h).mWsi = true := by
        cases connection : (world.handlers h).mWsi with
        | none =>
            rw [connection] at living
            cases living
        | some wsi =>
            rw [connection] at apart living
            rw [← living, WsWorld.isLive, WsWorld.isLive, live]
            split
            · exact Function.update_of_ne (fun same => apart (congrArg some same)) _ _
            · rfl
      exact @ih (world.issue ctx callback) nextSound (serves.context.trans current) nextRegistered
        (serves.wsi ▸ still) (serves.wsi ▸ apart)
        (sound.issue_uses current registered (fun _ => living) used)

/-- Under a safe order of callbacks a service uses the connection only while it is alive. -/
theorem WsWorld.service_uses {world : WsWorld H} (sound : world.Sound) {h : H}
    {ctx : Context} (current : (world.handlers h).mWsContext = some ctx)
    (registered : world.Registered h) (alive : Bool)
    (living : alive = true → world.isLive (world.handlers h).mWsi = true) {service : Service}
    (safe : writeableSafe alive service.callbacks = true)
    (used : ∀ use ∈ world.uses, use = true)
    : ∀ use ∈ (world.service (some ctx) service).uses, use = true := by
  have issued := WsWorld.issueAll_uses sound current registered alive living safe used
  simp only [WsWorld.service]
  split <;> exact issued

/-- (world.Isolates h next) says that a call on `h` leaves every other handler as it is, and
its connection as alive as it was.
-/
structure WsWorld.Isolates (world : WsWorld H) (h : H) (next : WsWorld H) : Prop where
  others : ∀ other, other ≠ h → next.handlers other = world.handlers other
  live
    : ∀ other,
        other ≠ h
        → next.isLive (world.handlers other).mWsi = world.isLive (world.handlers other).mWsi

omit [DecidableEq H] in
/-- Changes that touch one handler and the connection of one context are isolated if no
other handler has this context. Witness: a connection is that of its handler's context.
-/
theorem WsWorld.Tracked.isolates {world next : WsWorld H} (tracked : world.Tracked) {h : H}
    (context : Option Context)
    (own
      : ∀ other ctx,
          other ≠ h
          → (world.handlers other).mWsContext = some ctx
          → some ctx ≠ context)
    (others : ∀ other, other ≠ h → next.handlers other = world.handlers other)
    (live : ∀ wsi, some wsi ≠ context → next.live wsi = world.live wsi)
    : world.Isolates h next := by
  refine ⟨others, fun other different => ?_⟩
  cases connection : (world.handlers other).mWsi with
  | none => rfl
  | some wsi =>
      refine live wsi (own other wsi different ?_)
      rcases tracked.linked other with unconnected | linked
      · rw [connection] at unconnected
        cases unconnected
      · rw [← linked, connection]

/-- (world.Settled h) says that status, flag and connection of one handler belong together. -/
def WsWorld.Settled (world : WsWorld H) (h : H) : Prop :=
  ((world.handlers h).mWsStatus ≠ .disconnect → world.isLive (world.handlers h).mWsi = true)
  ∧ ((world.handlers h).mIsGood = true ↔ (world.handlers h).mWsStatus = .connected)

/-- What an isolated call must establish for its own handler to keep the world tracked. -/
theorem WsWorld.Tracked.of_isolates {world next : WsWorld H} (tracked : world.Tracked) {h : H}
    (isolates : world.Isolates h next) (sound : next.Sound)
    (linked
      : (next.handlers h).mWsi = none
        ∨ (next.handlers h).mWsi = (next.handlers h).mWsContext)
    (settled : next.Settled h) (uses : ∀ use ∈ next.uses, use = true)
    : next.Tracked where
  sound := sound
  linked other := by
    by_cases same : other = h
    · exact same ▸ linked
    · rw [isolates.others other same]
      exact tracked.linked other
  faithful := by
    refine ⟨fun other => ?_, fun other => ?_, uses⟩
    · by_cases same : other = h
      · exact same ▸ settled.1
      · rw [isolates.others other same, isolates.live other same]
        exact tracked.faithful.live other
    · by_cases same : other = h
      · exact same ▸ settled.2
      · rw [isolates.others other same]
        exact tracked.faithful.good other

/-- The error branch behind a service keeps the world tracked if it leaves `mIsGood` cleared;
the other branch, if the service left status and connection together.
-/
theorem WsWorld.Tracked.finish {world served : WsWorld H} (tracked : world.Tracked) {h : H}
    (isolates : world.Isolates h served) (sound : served.Sound)
    (linked
      : (served.handlers h).mWsi = none
        ∨ (served.handlers h).mWsi = (served.handlers h).mWsContext)
    (uses : ∀ use ∈ served.uses, use = true) {service : Service}
    {change : WsHandler → WsHandler}
    (context : ∀ handler, (change handler).mWsContext = handler.mWsContext)
    (wsi : ∀ handler, (change handler).mWsi = handler.mWsi)
    (status : ∀ handler, (change handler).mWsStatus = .disconnect)
    (quiet : service.result < 0 → (change (served.handlers h)).mIsGood = false)
    (settled : 0 ≤ service.result → served.Settled h)
    : (if service.result < 0 then
          (served.update h change).removeHandler (served.handlers h).mWsContext
        else
          served).Tracked := by
  by_cases failed : service.result < 0
  · rw [if_pos failed]
    have contexts (other : H)
        : ((served.update h change).handlers other).mWsContext
          = (served.handlers other).mWsContext := by
      by_cases same : other = h
      · rw [same, WsWorld.update_self, context]
      · rw [WsWorld.update_other _ _ _ same]
    have self : ((served.update h change).removeHandler
        (served.handlers h).mWsContext).handlers h = change (served.handlers h) :=
      WsWorld.update_self _ _ _
    refine tracked.of_isolates ⟨fun other different => ?_, isolates.live⟩
      (sound.of_sublist rfl contexts (HandlerMap.removeHandler_sublist _ _)) ?_ ⟨?_, ?_⟩ uses
    · exact (WsWorld.update_other _ _ _ different).trans (isolates.others other different)
    · rw [self, wsi, context]
      exact linked
    · rw [self, status]
      exact fun flying => absurd rfl flying
    · rw [self, status, quiet failed]
      simp
  · rw [if_neg failed]
    exact tracked.of_isolates isolates sound linked (settled (Int.not_lt.mp failed)) uses

-----------------------------------------------------------------------------------------
-- The calls
-----------------------------------------------------------------------------------------

omit [DecidableEq H] in
theorem WsWorld.StatusFaithful.quiet {world : WsWorld H} (faithful : world.StatusFaithful)
    {h : H} (unconnected : (world.handlers h).mWsStatus ≠ .connected)
    : (world.handlers h).mIsGood = false :=
  Bool.eq_false_iff.mpr (fun good => unconnected ((faithful.good h).mp good))

omit [DecidableEq H] in
theorem settled_of_disconnect {world : WsWorld H} {h : H}
    (resting : world.condition h = (.disconnect, false))
    : world.Settled h := by
  obtain ⟨status, good⟩ := Prod.mk.inj resting
  rw [WsWorld.Settled, status, good]
  exact ⟨fun flying => absurd rfl flying, by simp⟩

omit [DecidableEq H] in
/-- Callbacks leave a handler settled if its connection lives on unless they close it, and
they find its flag agreeing with its status unless they establish the connection.
-/
theorem settled_of_outcome {world : WsWorld H} {h : H} {callbacks : List LwsCallback}
    {before : WsStatus × Bool} (condition : world.condition h = outcome callbacks before)
    (alive
      : ¬ Issued .closed callbacks → world.isLive (world.handlers h).mWsi = true)
    (agree
      : ¬ Issued .closed callbacks
        → ¬ Issued .clientEstablished callbacks
        → (before.2 = true ↔ before.1 = .connected))
    : world.Settled h := by
  by_cases closed : Issued .closed callbacks
  · rw [outcome, if_pos closed] at condition
    exact settled_of_disconnect condition
  refine ⟨fun _ => alive closed, ?_⟩
  rw [outcome, if_neg closed] at condition
  by_cases established : Issued .clientEstablished callbacks
  · rw [if_pos established] at condition
    obtain ⟨status, good⟩ := Prod.mk.inj condition
    rw [status, good]
    exact iff_of_true rfl rfl
  · rw [if_neg established] at condition
    obtain ⟨status, good⟩ := Prod.mk.inj condition
    rw [status, good]
    exact agree closed established

omit [DecidableEq H] in
theorem WsWorld.Sound.apart {world : WsWorld H} (sound : world.Sound) {h : H} (other : H)
    (ctx : Context) (different : other ≠ h)
    (current : (world.handlers other).mWsContext = some ctx)
    : some ctx ≠ (world.handlers h).mWsContext :=
  fun same => different (sound.own other h ctx current same.symm)

/-- `touchServer` on a handler that is not registered keeps the world tracked, if the handler is
disconnected or the service tells of the connection's end: its callbacks reach no handler.
-/
theorem WsWorld.Tracked.touch_unregistered {world : WsWorld H} (tracked : world.Tracked)
    {h : H} (unregistered : ¬ world.Registered h) {service : Service}
    (told
      : (world.handlers h).mWsStatus = .disconnect
        ∨ service.result < 0
        ∨ ¬ Ends service.callbacks)
    : (world.touchServer h service).Tracked := by
  by_cases fatal : service.Fatal
  · obtain ⟨map, handlers, contexts, uses, live⟩ :=
      WsWorld.service_unregistered tracked.sound unregistered service
    refine tracked.finish
      (tracked.isolates _ tracked.sound.apart (fun other _ => by rw [handlers]) live)
      (tracked.sound.of_sublist contexts (fun other => by rw [handlers])
        (map ▸ List.Sublist.refl _))
      (by rw [handlers]; exact tracked.linked h) (uses ▸ tracked.faithful.uses) (fun _ => rfl)
      (fun _ => rfl) (fun _ => rfl) (fun _ => rfl) (fun succeeded => settled_of_disconnect ?_)
    have unfailed : ¬ service.result < 0 := Int.not_lt.mpr succeeded
    have resting : (world.handlers h).mWsStatus = .disconnect :=
      told.resolve_right (not_or.mpr ⟨unfailed, not_not_intro (fatal.resolve_right unfailed)⟩)
    rw [WsWorld.condition, handlers]
    exact Prod.ext resting (tracked.faithful.quiet (by simp [resting]))
  · unfold WsWorld.touchServer
    rw [WsWorld.service_unheard tracked.sound unregistered fatal]
    exact (if_neg (not_or.mp fatal).2).symm ▸ tracked

/-- `touchServer` on a registered handler keeps the world tracked if the service uses no dead
connection and, unless it fails, leaves the handler settled.
-/
theorem WsWorld.Tracked.touch_registered {world : WsWorld H} (tracked : world.Tracked) {h : H}
    {ctx : Context} (current : (world.handlers h).mWsContext = some ctx)
    (registered : world.Registered h) {service : Service}
    (uses : ∀ use ∈ (world.service (some ctx) service).uses, use = true)
    (settled : 0 ≤ service.result → (world.service (some ctx) service).Settled h)
    : (world.touchServer h service).Tracked := by
  obtain ⟨serves, _⟩ :=
    WsWorld.service_registered tracked.sound current registered service
  have isolates : world.Isolates h (world.service (some ctx) service) :=
    tracked.isolates _ (current ▸ tracked.sound.apart) serves.others
      (fun _ other => WsWorld.service_elsewhere tracked.sound current registered service other)
  have linked := tracked.linked h
  rw [← serves.wsi, ← serves.context] at linked
  unfold WsWorld.touchServer
  rw [current]
  exact tracked.finish isolates (tracked.sound.service current registered service) linked uses
    (fun _ => rfl) (fun _ => rfl) (fun _ => rfl) (fun _ => rfl) settled

/-- `touchServer` keeps the world tracked under its condition.
Witness: a disconnected handler hears of nothing that matters; a registered one of the end of
its connection, unless the service fails.
-/
theorem WsWorld.Tracked.touchServer {world : WsWorld H} (tracked : world.Tracked) {h : H}
    {service : Service} (tracks : WsWorld.TracksStatus.touch world h service)
    : (world.touchServer h service).Tracked := by
  have sound := tracked.sound
  have faithful := tracked.faithful
  unfold WsWorld.TracksStatus.touch at tracks
  by_cases registered : world.Registered h
  · obtain ⟨ctx, _, named, _⟩ := sound.entries _ registered
    have current : (world.handlers h).mWsContext = some ctx := (Prod.mk.inj named).1
    obtain ⟨serves, _, condition, live⟩ :=
      WsWorld.service_registered sound current registered service
    by_cases resting : (world.handlers h).mWsStatus = .disconnect
    · -- A leaked entry: the handler is disconnected, and must be so behind the service.
      rw [if_pos resting] at tracks
      obtain ⟨ended, safe⟩ := tracks (sound.lookup_registered registered)
      have quiet : world.condition h = (.disconnect, false) :=
        Prod.ext resting (faithful.quiet (by simp [resting]))
      refine tracked.touch_registered current registered
        (WsWorld.service_uses sound current registered false (by simp) safe faithful.uses)
        (fun succeeded => settled_of_disconnect ?_)
      rw [condition, quiet, outcome]
      rcases ended with failed | closed | unestablished
      · exact absurd succeeded (Int.not_le.mpr failed)
      · rw [if_pos closed]
      · rw [if_neg unestablished, ite_self]
    · rw [if_neg resting, if_pos (sound.lookup_registered registered)] at tracks
      obtain ⟨ended, safe⟩ := tracks
      refine tracked.touch_registered current registered
        (WsWorld.service_uses sound current registered true
          (fun _ => faithful.live h resting) safe faithful.uses)
        (fun succeeded => settled_of_outcome condition (fun closed => ?_)
          (fun _ _ => faithful.good h))
      have unfailed : ¬ Issued .clientConnectionError service.callbacks := by
        rcases ended with failed | isClosed | unfailed
        · exact absurd succeeded (Int.not_le.mpr failed)
        · exact absurd isClosed closed
        · exact unfailed
      rw [if_neg (by simp [Service.Fatal, Ends, closed, unfailed, succeeded])] at live
      rw [serves.wsi, ← faithful.live h resting]
      simp only [WsWorld.isLive, live]
  · refine tracked.touch_unregistered registered ?_
    by_cases resting : (world.handlers h).mWsStatus = .disconnect
    · exact .inl resting
    · rw [if_neg resting, if_neg (fun found => registered (HandlerMap.mem_of_lookupHandler found))]
        at tracks
      exact .inr tracks

/-- (world.Prepared h callbacks condition next) says what `connectServer` on `h` has made of
the world before its first service: the callbacks of `libwebsocket_client_connect` decide
whether the handler is registered and whether its connection is alive; `condition` is its
status and flag.
-/
structure WsWorld.Prepared (world : WsWorld H) (h : H) (callbacks : List LwsCallback)
    (condition : WsStatus × Bool) (next : WsWorld H)
    : Prop where
  sound : next.Sound
  others : ∀ other, other ≠ h → next.handlers other = world.handlers other
  elsewhere : ∀ wsi, some wsi ≠ some world.contexts → next.live wsi = world.live wsi
  context : (next.handlers h).mWsContext = some world.contexts
  condition : next.condition h = condition
  registered : next.Registered h ↔ ¬ Issued .closed callbacks
  live : next.live world.contexts = decide (¬ Ends callbacks)

/-- The callbacks of `libwebsocket_client_connect` find the handler registered under its fresh
context.
-/
theorem WsWorld.Sound.prepared {world : WsWorld H} (sound : world.Sound)
    (nonneg : 0 ≤ world.map.handlerLength) (h : H) (callbacks : List LwsCallback)
    : world.Prepared h callbacks (outcome callbacks (world.condition h))
        ((world.createContext h).issueAll world.contexts callbacks) := by
  obtain ⟨created, registered⟩ := sound.createContext nonneg h
  have current : ((world.createContext h).handlers h).mWsContext = some world.contexts := by
    rw [WsWorld.createContext_context, if_pos rfl]
  obtain ⟨serves, map, condition, live⟩ :=
    WsWorld.issueAll_registered created current registered callbacks
  have nextSound := created.of_sublist serves.contexts serves.current (by
    rw [map]
    split
    · exact HandlerMap.removeHandler_sublist _ _
    · exact List.Sublist.refl _)
  refine ⟨nextSound, fun other different => ?_, fun wsi other => ?_,
    serves.context.trans current, ?_, ?_, ?_⟩
  · rw [serves.others other different]
    simp [WsWorld.createContext, different]
  · have elsewhere : wsi ≠ world.contexts := fun same => other (congrArg some same)
    rw [live]
    split <;> simp [WsWorld.createContext, elsewhere]
  · rw [condition]
    simp [WsWorld.condition, WsWorld.createContext]
  · by_cases closed : Issued .closed callbacks
    · rw [if_pos closed] at map
      refine iff_of_false (fun still => ?_) (not_not.mpr closed)
      have found := nextSound.lookup_registered still
      rw [serves.context, current, map, created.closed_unregistered current registered] at found
      cases found
    · rw [if_neg closed] at map
      refine iff_of_true ?_ closed
      rw [WsWorld.Registered, serves.context, map]
      exact registered
  · rw [live]
    split <;> simp_all [WsWorld.createContext]

/-- Storing the result of `libwebsocket_client_connect` changes the handler alone. -/
theorem WsWorld.Prepared.update {world issued : WsWorld H} {h : H}
    {callbacks : List LwsCallback} {condition : WsStatus × Bool}
    (prepared : world.Prepared h callbacks condition issued) (change : WsHandler → WsHandler)
    (context : ∀ handler, (change handler).mWsContext = handler.mWsContext)
    : world.Prepared h callbacks
        ((change (issued.handlers h)).mWsStatus, (change (issued.handlers h)).mIsGood)
        (issued.update h change) := by
  have contexts (other : H)
      : ((issued.update h change).handlers other).mWsContext
        = (issued.handlers other).mWsContext := by
    by_cases same : other = h
    · rw [same, WsWorld.update_self, context]
    · rw [WsWorld.update_other _ _ _ same]
  refine ⟨prepared.sound.of_sublist rfl contexts (List.Sublist.refl _), fun other different => ?_,
    prepared.elsewhere, (contexts h).trans prepared.context, ?_, ?_, prepared.live⟩
  · rw [WsWorld.update_other _ _ _ different, prepared.others other different]
  · rw [WsWorld.condition, WsWorld.update_self]
  · rw [← prepared.registered, WsWorld.Registered, WsWorld.Registered, contexts]
    rfl

/-- A connection that is returned makes the handler connecting, and leaves its flag. -/
theorem WsWorld.Prepared.connecting {world issued : WsWorld H} {h : H}
    {callbacks : List LwsCallback} {condition : WsStatus × Bool}
    (prepared : world.Prepared h callbacks condition issued)
    : let connecting :=
        (issued.update h (fun handler => { handler with mWsi := some world.contexts })).update h
          (fun handler => { handler with mWsStatus := .connecting })
      world.Prepared h callbacks (.connecting, condition.2) connecting
      ∧ (connecting.handlers h).mWsi = some world.contexts := by
  have returned := prepared.update
    (fun handler => { handler with mWsi := some world.contexts }) (fun _ => rfl)
  have stored := returned.update
    (fun handler => { handler with mWsStatus := .connecting }) (fun _ => rfl)
  obtain rfl := prepared.condition
  rw [WsWorld.update_self] at stored
  exact ⟨stored, by simp⟩

omit [DecidableEq H] in
theorem WsWorld.Sound.fresh {world : WsWorld H} (sound : world.Sound) (other : H)
    (ctx : Context) (current : (world.handlers other).mWsContext = some ctx)
    : some ctx ≠ some world.contexts :=
  fun same => Nat.lt_irrefl _ (Option.some.inj same ▸ sound.created other ctx current)

omit [DecidableEq H] in
/-- Further changes to the handler and the connection under its fresh context are isolated. -/
theorem WsWorld.Prepared.isolates {world issued next : WsWorld H} (tracked : world.Tracked)
    {h : H} {callbacks : List LwsCallback} {condition : WsStatus × Bool}
    (prepared : world.Prepared h callbacks condition issued)
    (others : ∀ other, other ≠ h → next.handlers other = issued.handlers other)
    (elsewhere : ∀ wsi, some wsi ≠ some world.contexts → next.live wsi = issued.live wsi)
    : world.Isolates h next :=
  tracked.isolates (some world.contexts)
    (fun other ctx _ => tracked.sound.fresh other ctx)
    (fun other different => (others other different).trans (prepared.others other different))
    (fun wsi other => (elsewhere wsi other).trans (prepared.elsewhere wsi other))

/-- A refused connection keeps the world tracked if it leaves the handler disconnected. -/
theorem WsWorld.Tracked.refused {world issued : WsWorld H} (tracked : world.Tracked) {h : H}
    {callbacks : List LwsCallback}
    (prepared : world.Prepared h callbacks (.disconnect, false) issued)
    (uses : ∀ use ∈ issued.uses, use = true)
    : ((issued.update h (fun handler => { handler with mWsi := none })).kill
        world.contexts).Tracked := by
  have stored := prepared.update (fun handler => { handler with mWsi := none })
    (fun _ => rfl)
  obtain ⟨status, good⟩ := Prod.mk.inj prepared.condition
  have self : (((issued.update h (fun handler => { handler with mWsi := none })).kill
      world.contexts).handlers h) = { issued.handlers h with mWsi := none } := by
    simp [WsWorld.kill]
  refine tracked.of_isolates (stored.isolates tracked (fun _ _ => rfl) (fun wsi other => ?_))
    (stored.sound.of_sublist rfl (fun _ => rfl) (List.Sublist.refl _)) (.inl ?_) ⟨?_, ?_⟩ uses
  · exact Function.update_of_ne (fun same => other (congrArg some same)) _ _
  · rw [self]
  · rw [self]
    exact fun flying => absurd status flying
  · rw [self, status, good]
    exact iff_of_false (by decide) (by decide)

/-- A connection that was closed before it is returned keeps the world tracked if its first
service fails. Witness: the handler hears of nothing more, and its flag is cleared already.
-/
theorem WsWorld.Tracked.connected_closed {world connecting : WsWorld H}
    (tracked : world.Tracked) {h : H} {callbacks : List LwsCallback}
    (closed : Issued .closed callbacks)
    (prepared : world.Prepared h callbacks (.connecting, false) connecting)
    (wsi : (connecting.handlers h).mWsi = some world.contexts)
    (uses : ∀ use ∈ connecting.uses, use = true) {service : Service}
    (failed : service.result < 0)
    : let served := connecting.service (connecting.handlers h).mWsContext service
      (if service.result < 0 then
          (served.update h (fun handler =>
            { handler with mWsStatus := .disconnect })).removeHandler
              (served.handlers h).mWsContext
        else
          served).Tracked := by
  have unregistered : ¬ connecting.Registered h :=
    fun still => prepared.registered.mp still closed
  obtain ⟨map, handlers, contexts, used, live⟩ :=
    WsWorld.service_unregistered prepared.sound unregistered service
  refine tracked.finish (prepared.isolates tracked (fun _ _ => by rw [handlers])
      (fun wsi other => live wsi (prepared.context ▸ other)))
    (prepared.sound.of_sublist contexts (fun other => by rw [handlers])
      (map ▸ List.Sublist.refl _)) (.inr ?_) (used ▸ uses) (fun _ => rfl) (fun _ => rfl)
    (fun _ => rfl) (fun _ => ?_) (fun succeeded => absurd failed (Int.not_lt.mpr succeeded))
  · rw [handlers, wsi, prepared.context]
  · rw [handlers]
    exact (Prod.mk.inj prepared.condition).2

/-- A connection that is returned open keeps the world tracked through its first service if
a failing service finds the flag cleared, and a successful one leaves the connection closed,
or alive and with the flag of its status.
-/
theorem WsWorld.Tracked.connected_open {world connecting : WsWorld H}
    (tracked : world.Tracked) {h : H} {callbacks : List LwsCallback} {good : Bool}
    (unclosed : ¬ Issued .closed callbacks)
    (prepared : world.Prepared h callbacks (.connecting, good) connecting)
    (wsi : (connecting.handlers h).mWsi = some world.contexts)
    (used : ∀ use ∈ connecting.uses, use = true) {service : Service}
    (safe
      : writeableSafe (decide (¬ Issued .clientConnectionError callbacks)) service.callbacks
        = true)
    (failing
      : service.result < 0
        → Issued .closed service.callbacks
          ∨ ¬ Issued .clientEstablished service.callbacks ∧ good = false)
    (succeeding
      : 0 ≤ service.result
        → Issued .closed service.callbacks
          ∨ ¬ Issued .clientConnectionError callbacks
            ∧ ¬ Issued .clientConnectionError service.callbacks
            ∧ (Issued .clientEstablished service.callbacks ∨ good = false))
    : let served := connecting.service (connecting.handlers h).mWsContext service
      (if service.result < 0 then
          (served.update h (fun handler =>
            { handler with mWsStatus := .disconnect })).removeHandler
              (served.handlers h).mWsContext
        else
          served).Tracked := by
  have registered := prepared.registered.mpr unclosed
  obtain ⟨serves, map, condition, live⟩ :=
    WsWorld.service_registered prepared.sound prepared.context registered service
  have alive : connecting.isLive (connecting.handlers h).mWsi
      = decide (¬ Issued .clientConnectionError callbacks) := by
    rw [wsi]
    simpa [Ends, unclosed, WsWorld.isLive] using prepared.live
  have uses := WsWorld.service_uses prepared.sound prepared.context registered _
    (fun issued => alive.trans issued) safe used
  rw [prepared.condition] at condition
  simp only [prepared.context]
  have elsewhere (wsi : Context) (other : some wsi ≠ some world.contexts)
      : (connecting.service (some world.contexts) service).live wsi = connecting.live wsi :=
    WsWorld.service_elsewhere prepared.sound prepared.context registered service other
  refine tracked.finish (prepared.isolates tracked serves.others elsewhere)
    (prepared.sound.service prepared.context registered service) (.inr ?_) uses (fun _ => rfl)
    (fun _ => rfl) (fun _ => rfl) (fun failed => ?_)
    (fun succeeded => settled_of_outcome condition (fun closed => ?_)
      (fun closed unestablished => ?_))
  · rw [serves.wsi, serves.context, wsi, prepared.context]
  · change ((connecting.service _ service).condition h).2 = false
    rw [condition, outcome]
    rcases failing failed with closed | ⟨unestablished, cleared⟩
    · rw [if_pos closed]
    · rw [if_neg unestablished, cleared]
      split <;> rfl
  · obtain ⟨first, later, _⟩ := (succeeding succeeded).resolve_left closed
    rw [if_neg (by simp [Service.Fatal, Ends, closed, later, succeeded])] at live
    rw [serves.wsi, wsi]
    simpa only [WsWorld.isLive, live, wsi, first, not_false_iff, decide_true] using alive
  · obtain ⟨_, _, flag⟩ := (succeeding succeeded).resolve_left closed
    rw [flag.resolve_left unestablished]
    exact iff_of_false (by decide) (by decide)

/-- A handler that is not disconnected has the connection of an earlier context while it
reconnects, and it is alive.
-/
theorem WsWorld.Tracked.connection_before {world : WsWorld H} (tracked : world.Tracked) {h : H}
    (flying : (world.handlers h).mWsStatus ≠ .disconnect)
    : ((world.createContext h).handlers h).mWsi ≠ some world.contexts
      ∧ (world.createContext h).isLive ((world.createContext h).handlers h).mWsi = true := by
  have kept : ((world.createContext h).handlers h).mWsi = (world.handlers h).mWsi := by
    simp [WsWorld.createContext]
  have alive := tracked.faithful.live h flying
  rw [kept]
  cases connection : (world.handlers h).mWsi with
  | none =>
      rw [connection] at alive
      cases alive
  | some wsi =>
      rw [connection] at alive
      have linked : (world.handlers h).mWsContext = some wsi := by
        rcases tracked.linked h with unconnected | linked
        · cases connection.symm.trans unconnected
        · exact linked.symm.trans connection
      have apart := tracked.sound.fresh h wsi linked
      refine ⟨apart, Eq.trans ?_ alive⟩
      exact Function.update_of_ne (fun same => apart (congrArg some same)) _ _

/-- `connectServer` keeps the world tracked under its condition. -/
theorem WsWorld.Tracked.connectServer {world : WsWorld H} (tracked : world.Tracked) {h : H}
    {connect : ClientConnect} {service : Service}
    (tracks : world.TracksStatus (.connectServer h connect service))
    : (world.connectServer h connect service).Tracked := by
  obtain ⟨⟨nonneg, _⟩, quiet, ends, safe⟩ := tracks
  have prepared := tracked.sound.prepared nonneg h connect.callbacks
  obtain ⟨created, registered⟩ := tracked.sound.createContext nonneg h
  have current : ((world.createContext h).handlers h).mWsContext = some world.contexts := by
    rw [WsWorld.createContext_context, if_pos rfl]
  have uses : ∀ use ∈ ((world.createContext h).issueAll world.contexts connect.callbacks).uses,
      use = true := by
    rcases quiet with flying | safe
    · obtain ⟨apart, living⟩ := tracked.connection_before flying
      exact WsWorld.reconnecting_uses created current registered living apart
        tracked.faithful.uses
    · exact WsWorld.issueAll_uses created current registered false nofun safe
        tracked.faithful.uses
  unfold WsWorld.connectServer
  by_cases connected : connect.connected = true
  · rw [if_neg (by simp [connected])] at ends
    obtain ⟨stored, wsi⟩ := prepared.connecting
    simp only [if_pos connected]
    by_cases closed : Issued .closed connect.callbacks
    · rw [outcome, if_pos closed] at stored
      refine tracked.connected_closed closed stored wsi uses ?_
      by_contra succeeded
      rw [if_neg succeeded] at ends
      exact ends.1 closed
    have flag (unestablished : ¬ Issued .clientEstablished connect.callbacks)
        (unconnected : (world.handlers h).mWsStatus ≠ .connected)
        : (outcome connect.callbacks (world.condition h)).2 = false := by
      rw [outcome, if_neg closed, if_neg unestablished]
      exact tracked.faithful.quiet unconnected
    refine tracked.connected_open closed stored wsi uses (safe.resolve_left closed)
      (fun failed => ?_) (fun succeeded => ?_)
    · rw [if_pos failed] at ends
      rcases ends with early | late | ⟨first, later, unconnected⟩
      · exact absurd early closed
      · exact .inl late
      · exact .inr ⟨later, flag first unconnected⟩
    · rw [if_neg (Int.not_lt.mpr succeeded)] at ends
      rcases ends.2 with late | ⟨first, later, established | ⟨unestablished, unconnected⟩⟩
      · exact .inl late
      · exact .inr ⟨first, later, .inl established⟩
      · exact .inr ⟨first, later, .inr (flag unestablished unconnected)⟩
  · rw [if_pos (by simpa using connected)] at ends
    have resting : outcome connect.callbacks (world.condition h) = (.disconnect, false) := by
      rcases ends with closed | ⟨unestablished, status⟩
      · rw [outcome, if_pos closed]
      · have quiet := tracked.faithful.quiet (h := h) (by simp [status])
        rw [outcome, if_neg unestablished, WsWorld.condition, status, quiet, ite_self]
    rw [resting] at prepared
    simp only [if_neg connected]
    exact tracked.refused prepared uses

/-- `sendText` on a good handler uses a connection that is alive. -/
theorem WsWorld.Tracked.writing {world : WsWorld H} (tracked : world.Tracked) {h : H}
    (good : (world.handlers h).mIsGood = true) (text : List UInt8)
    : let prepared := world.update h (fun handler => { handler with mSendText := text })
      (prepared.use (prepared.handlers h).mWsi).Tracked := by
  intro prepared
  have self : prepared.handlers h = { world.handlers h with mSendText := text } :=
    WsWorld.update_self _ _ _
  have others (other : H) (different : other ≠ h)
      : prepared.handlers other = world.handlers other :=
    WsWorld.update_other _ _ _ different
  have contexts (other : H)
      : (prepared.handlers other).mWsContext = (world.handlers other).mWsContext := by
    by_cases same : other = h
    · rw [same, self]
    · rw [others other same]
  have flying : (world.handlers h).mWsStatus ≠ .disconnect := by
    rw [(tracked.faithful.good h).mp good]
    decide
  have alive := tracked.faithful.live h flying
  have isolates : world.Isolates h (prepared.use (prepared.handlers h).mWsi) :=
    ⟨others, fun _ _ => rfl⟩
  refine tracked.of_isolates isolates
    (tracked.sound.of_sublist rfl contexts (List.Sublist.refl _)) ?_ ⟨?_, ?_⟩ ?_
  · exact self ▸ tracked.linked h
  · exact fun _ => self ▸ alive
  · exact self ▸ tracked.faithful.good h
  · intro use member
    rcases List.mem_append.mp member with earlier | now
    · exact tracked.faithful.uses use earlier
    · rw [List.mem_singleton.mp now, self]
      exact alive

/-- Every call keeps the world tracked under its condition. -/
theorem WsWorld.Tracked.step {world : WsWorld H} (tracked : world.Tracked) {call : WsCall H}
    (tracks : world.TracksStatus call)
    : (websockets.step world call).1.Tracked := by
  cases call with
  | connectServer h connect service => exact tracked.connectServer tracks
  | touchServer h service => exact tracked.touchServer tracks
  | sendText h text service =>
      simp only [websockets, WsWorld.sendText]
      split
      · rename_i good
        exact (tracked.writing good text).touchServer
          (by simpa [WsWorld.TracksStatus.touch, WsWorld.use] using tracks good)
      · exact tracked

omit [DecidableEq H] in
theorem WsWorld.initial_tracked (memory : H → Nat → UInt8)
    : (WsWorld.initial memory).Tracked where
  sound := WsWorld.initial_sound memory
  linked _ := .inl rfl
  faithful := ⟨fun _ flying => absurd rfl flying, fun _ => ⟨nofun, nofun⟩, nofun⟩

/-- While every call meets its condition, in every state reached each handler's connection is
alive while it is connecting or connected, its flag is set exactly while it is connected,
and no dead connection has been used. Witness: the tracked world is kept by every such call.
-/
theorem statusFaithful_throughout (memory : H → Nat → UInt8) (calls : List (WsCall H))
    (tracks : websockets.Always WsWorld.TracksStatus (WsWorld.initial memory) calls)
    : websockets.Throughout WsWorld.StatusFaithful (WsWorld.initial memory) calls := by
  have tracked := tracks.throughout WsWorld.Tracked (WsWorld.initial_tracked memory)
    (fun _ _ tracked tracks => tracked.step tracks)
  exact fun seen initial => (tracked seen initial).faithful

/-- A connection is established, sends a text while it can, and is lost; the next is refused.
-/
theorem statusFaithful_throughout_lost
    : let established : LwsCallback := ⟨.clientEstablished, []⟩
      let writeable : LwsCallback := ⟨.clientWriteable, []⟩
      let closed : LwsCallback := ⟨.closed, []⟩
      let calls : List (WsCall Unit) := [
          .connectServer () ⟨[], true⟩ ⟨[], 0⟩,
          .touchServer () ⟨[established], 0⟩,
          .sendText () [0x53] ⟨[writeable], 0⟩,
          .sendText () [0x41] ⟨[writeable, closed], 0⟩,
          .connectServer () ⟨[], false⟩ ⟨[], 0⟩
        ]
      websockets.Throughout WsWorld.StatusFaithful (WsWorld.initial (fun _ _ => 0)) calls :=
  statusFaithful_throughout _ _ (by decide)

/-- A connection that is established and then lost within `connectServer`'s first service
leaves `mIsGood` set; one that fails to connect stays connecting for ever.
-/
theorem statusFaithful_fails
    : ¬ websockets.Throughout WsWorld.StatusFaithful
          (WsWorld.initial (fun (_ : Unit) _ => 0))
          [.connectServer () ⟨[], true⟩ ⟨[⟨.clientEstablished, []⟩], -1⟩]
      ∧ ¬ websockets.Throughout WsWorld.StatusFaithful
          (WsWorld.initial (fun (_ : Unit) _ => 0))
          [.connectServer () ⟨[], true⟩ ⟨[⟨.clientConnectionError, []⟩], 0⟩] := by
  constructor
  · intro every
    exact absurd ((every _ (List.prefix_refl _)).good ()) (by decide)
  · intro every
    exact absurd ((every _ (List.prefix_refl _)).live ()) (by decide)

end Cooboc.Websocket
