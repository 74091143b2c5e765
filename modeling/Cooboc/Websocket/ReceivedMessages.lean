import Mathlib.Data.List.GetD
import Mathlib.Data.List.TakeWhile
import Cooboc.Foundations.TraceLaw
import Cooboc.Websocket.WsHandler

/-! The buffer for received messages: which of its cells a delivery writes, and what string
the next call of `getReceivedMessage` finds there. The protocol table admits messages of
4096 bytes, the buffer has 1024, and the member behind it is `mHasNewMessage`.
-/

namespace Cooboc.Websocket

open Cooboc.Foundations

/-- The size of `mReceivedMessage`. -/
def receivedMessageSize : Nat := 1024

/-- The cells that `onMessageReceived` writes: those of `strncpy`, and the one behind. -/
def receivedCells (data : List UInt8) : List Nat := List.range data.length ++ [data.length]

/-- The object's memory from the start of `mReceivedMessage` on: the byte behind the buffer is
`mHasNewMessage`, which both functions assign last.
-/
def WsHandler.memory (handler : WsHandler) : Nat → UInt8 :=
  Function.update handler.mReceivedMessage receivedMessageSize
    (if handler.mHasNewMessage then 1 else 0)

/-- What concerns the messages of handlers: a callback of any reason, or a look at a
message.
-/
inductive MessageStep (H : Type*) where
  | issue (ctx : Context) (callback : LwsCallback)
  | getReceivedMessage (h : H)

/-- A message handed to `onMessageReceived`, with the object's memory before and behind the call,
or the memory that `getReceivedMessage` points to when it returns.
-/
inductive MessageEvent (H : Type*) where
  | delivered (h : H) (data : List UInt8) (before after : Nat → UInt8)
  | returned (h : H) (memory : Nat → UInt8)

variable {H : Type*} [DecidableEq H]

/-- The delivery of a callback, if it is one and finds a handler. -/
def WsWorld.delivery (world : WsWorld H) (ctx : Context) (callback : LwsCallback)
    : List (MessageEvent H) :=
  match world.map.lookupHandler (some ctx), callback.reason with
  | some h, .clientReceive =>
      [.delivered h callback.input (world.handlers h).memory
        ((world.handlers h).onMessageReceived callback.input).memory]
  | _, _ => []

/-- The handlers under any callbacks and looks at their messages. -/
def messageBuffers : Machine (WsWorld H) (MessageStep H) (List (MessageEvent H)) where
  step world
    | .issue ctx callback => (world.issue ctx callback, world.delivery ctx callback)
    | .getReceivedMessage h =>
        (world.update h WsHandler.getReceivedMessage,
          [.returned h (world.handlers h).getReceivedMessage.memory])

/-- The string in memory is the text. -/
structure Spells (memory : Nat → UInt8) (text : List UInt8) : Prop where
  nonzero : 0 ∉ text
  bytes : ∀ i, i < text.length → memory i = text.getD i 0
  terminated : memory text.length = 0

/-- The message of an event for one handler. -/
def MessageEvent.deliveredTo (h : H) : MessageEvent H → Option (List UInt8)
  | .delivered other data _ _ => if other = h then some data else none
  | .returned _ _ => none

/-- The message delivered last to a handler. -/
def lastDelivered (h : H) (trace : List (MessageEvent H)) : Option (List UInt8) :=
  (trace.filterMap (MessageEvent.deliveredTo h)).getLast?

/-- A delivery writes cells of the buffer only, and sets the flag behind it. -/
structure StoredInside (data : List UInt8) (before after : Nat → UInt8) : Prop where
  cells : ∀ cell ∈ receivedCells data, cell < receivedMessageSize
  flag : after receivedMessageSize = 1
  rest
    : ∀ cell, cell ∉ receivedCells data → cell ≠ receivedMessageSize
      → after cell = before cell

/-- A message is stored in bounds, and one without zero bytes is returned whole until the
next one arrives.
-/
def StoredWhole (before : List (MessageEvent H)) : MessageEvent H → Prop
  | .delivered _ data memory after => StoredInside data memory after
  | .returned h memory =>
      ∀ data, lastDelivered h before = some data → 0 ∉ data → Spells memory data

/-- A message leaves room for the byte behind it. -/
def MessageEvent.Fits : MessageEvent H → Prop
  | .delivered _ data _ _ => data.length < receivedMessageSize
  | .returned _ _ => True

omit [DecidableEq H] in
/-- The cells lie in the buffer exactly if the message leaves room for its end. -/
theorem receivedCells_in_bounds {data : List UInt8}
    : (∀ cell ∈ receivedCells data, cell < receivedMessageSize)
      ↔ data.length < receivedMessageSize := by
  constructor
  · intro bounded
    exact bounded data.length (List.mem_append_right _ (List.mem_singleton_self _))
  · intro room cell member
    rcases List.mem_append.mp member with copied | last
    · exact (List.mem_range.mp copied).trans room
    · rwa [List.mem_singleton.mp last]

theorem WsHandler.memory_inside (handler : WsHandler) {cell : Nat}
    (inside : cell < receivedMessageSize)
    : handler.memory cell = handler.mReceivedMessage cell :=
  Function.update_of_ne inside.ne ..

/-- A delivery leaves all cells but its own and the flag as they are. -/
theorem onMessageReceived_inside (handler : WsHandler) {data : List UInt8}
    (room : data.length < receivedMessageSize)
    : StoredInside data handler.memory (handler.onMessageReceived data).memory where
  cells := receivedCells_in_bounds.mpr room
  flag := Function.update_self ..
  rest cell elsewhere behind := by
    have outside : ¬ cell < data.length ∧ cell ≠ data.length := by
      simpa [receivedCells] using elsewhere
    rw [WsHandler.memory, WsHandler.memory, Function.update_of_ne behind,
      Function.update_of_ne behind]
    simp only [WsHandler.onMessageReceived, Function.update_of_ne outside.2, strncpy,
      if_neg outside.1]

/-- A message without zero bytes that leaves room is spelled by the buffer, whatever that held
before.
-/
theorem onMessageReceived_spells (handler : WsHandler) {data : List UInt8}
    (room : data.length < receivedMessageSize) (nonzero : 0 ∉ data)
    : Spells (handler.onMessageReceived data).memory data := by
  have whole : data.takeWhile (fun byte => decide (byte ≠ 0)) = data := by
    rw [List.takeWhile_eq_self_iff]
    intro byte member
    exact decide_eq_true (fun zero => nonzero (zero ▸ member))
  refine ⟨nonzero, fun i inside => ?_, ?_⟩
  · rw [WsHandler.memory_inside _ (inside.trans room)]
    simp only [WsHandler.onMessageReceived, Function.update_of_ne inside.ne, strncpy,
      if_pos inside, List.take_length, whole]
  · rw [WsHandler.memory_inside _ room]
    exact Function.update_self ..

/-- What a buffer spells is inside the buffer, and is spelled as long as that stays. -/
theorem Spells.congr {first second : WsHandler} {text : List UInt8}
    (spells : Spells first.memory text) (room : text.length < receivedMessageSize)
    (same : second.mReceivedMessage = first.mReceivedMessage)
    : Spells second.memory text := by
  have kept {cell : Nat} (inside : cell < receivedMessageSize)
      : second.memory cell = first.memory cell := by
    rw [WsHandler.memory_inside _ inside, WsHandler.memory_inside _ inside, same]
  refine ⟨spells.nonzero, fun i inside => ?_, ?_⟩
  · rw [kept (inside.trans room)]
    exact spells.bytes i inside
  · rw [kept room]
    exact spells.terminated

-----------------------------------------------------------------------------------------
-- Any callbacks
-----------------------------------------------------------------------------------------

/-- Every handler's buffer has room for the message delivered to it last, and spells it. -/
def BuffersSpell (trace : List (MessageEvent H)) (world : WsWorld H) : Prop :=
  ∀ h data, lastDelivered h trace = some data
    → data.length < receivedMessageSize
      ∧ (0 ∉ data → Spells (world.handlers h).memory data)

theorem lastDelivered_append {h : H} (trace : List (MessageEvent H)) {event : MessageEvent H}
    (other : event.deliveredTo h = none)
    : lastDelivered h (trace ++ [event]) = lastDelivered h trace := by
  rw [lastDelivered, List.filterMap_append, List.filterMap_cons_none other, List.filterMap_nil,
    List.append_nil]
  rfl

theorem lastDelivered_delivered (h : H) (trace : List (MessageEvent H)) (data : List UInt8)
    (before after : Nat → UInt8)
    : lastDelivered h (trace ++ [.delivered h data before after]) = some data := by
  simp [lastDelivered, MessageEvent.deliveredTo]

theorem WsWorld.issue_handlers (world : WsWorld H) (ctx : Context) (callback : LwsCallback)
    : (world.issue ctx callback).handlers
      = (world.plainProtocolCallback ctx callback).handlers := by
  simp only [WsWorld.issue]
  split <;> rfl

theorem WsWorld.setWsStatus_buffer (world : WsWorld H) (h : H) (status : WsStatus) (other : H)
    : ((world.setWsStatus h status).handlers other).mReceivedMessage
      = (world.handlers other).mReceivedMessage := by
  by_cases same : other = h
  · subst same
    cases status <;> simp [WsWorld.setWsStatus, WsWorld.removeHandler]
  · cases status <;> simp [WsWorld.setWsStatus, WsWorld.removeHandler, same]

/-- A callback delivers nothing and leaves all buffers alone, or it delivers a message to a
handler. Witness: only one reason writes to a buffer.
-/
theorem WsWorld.issue_cases (world : WsWorld H) (ctx : Context) (callback : LwsCallback)
    : (world.delivery ctx callback = []
        ∧ ∀ h, ((world.issue ctx callback).handlers h).mReceivedMessage
            = (world.handlers h).mReceivedMessage)
      ∨ ∃ h data,
          world.delivery ctx callback
            = [.delivered h data (world.handlers h).memory
                ((world.handlers h).onMessageReceived data).memory]
          ∧ (world.issue ctx callback).handlers
            = Function.update world.handlers h
                ((world.handlers h).onMessageReceived data) := by
  obtain ⟨reason, input⟩ := callback
  simp only [WsWorld.issue_handlers, WsWorld.delivery, WsWorld.plainProtocolCallback]
  cases world.map.lookupHandler (some ctx) with
  | none => exact .inl ⟨rfl, fun _ => rfl⟩
  | some wsHandler =>
      cases reason with
      | clientReceive => exact .inr ⟨wsHandler, input, rfl, rfl⟩
      | clientEstablished => exact .inl ⟨rfl, world.setWsStatus_buffer wsHandler .connected⟩
      | closed => exact .inl ⟨rfl, world.setWsStatus_buffer wsHandler .disconnect⟩
      | _ => exact .inl ⟨rfl, fun _ => rfl⟩

/-- What buffers that stay as they are spell, they go on to spell. -/
theorem BuffersSpell.keep {trace : List (MessageEvent H)} {world next : WsWorld H}
    (spell : BuffersSpell trace world)
    (kept
      : ∀ h, (next.handlers h).mReceivedMessage = (world.handlers h).mReceivedMessage)
    : BuffersSpell trace next := by
  intro h data last
  obtain ⟨room, spells⟩ := spell h data last
  exact ⟨room, fun nonzero => (spells nonzero).congr room (kept h)⟩

/-- Behind a delivery that leaves room its handler's buffer spells the new message, and the
other buffers spell what they did.
-/
theorem BuffersSpell.deliver {trace : List (MessageEvent H)} {world next : WsWorld H}
    (spell : BuffersSpell trace world) {h : H} {data : List UInt8}
    (room : data.length < receivedMessageSize) (before after : Nat → UInt8)
    (handlers
      : next.handlers
        = Function.update world.handlers h ((world.handlers h).onMessageReceived data))
    : BuffersSpell (trace ++ [.delivered h data before after]) next := by
  intro other message last
  rw [handlers]
  by_cases same : other = h
  · subst same
    rw [lastDelivered_delivered, Option.some.injEq] at last
    subst last
    rw [Function.update_self]
    exact ⟨room, onMessageReceived_spells _ room⟩
  · have elsewhere : (MessageEvent.delivered h data before after).deliveredTo other = none :=
      if_neg (Ne.symm same)
    rw [lastDelivered_append trace elsewhere] at last
    rw [Function.update_of_ne same]
    exact spell other message last

theorem WsWorld.getReceivedMessage_buffer (world : WsWorld H) (h other : H)
    : ((world.update h WsHandler.getReceivedMessage).handlers other).mReceivedMessage
      = (world.handlers other).mReceivedMessage := by
  by_cases same : other = h
  · subst same
    simp [WsHandler.getReceivedMessage]
  · simp [same]

/-- A look at a message finds the one delivered last, and the buffers spell what they did. -/
theorem BuffersSpell.look {trace : List (MessageEvent H)} {world : WsWorld H}
    (spell : BuffersSpell trace world) (h : H)
    : StoredWhole trace (.returned h (world.handlers h).getReceivedMessage.memory)
      ∧ BuffersSpell (trace ++ [.returned h (world.handlers h).getReceivedMessage.memory])
          (world.update h WsHandler.getReceivedMessage) := by
  constructor
  · intro data last nonzero
    obtain ⟨room, spells⟩ := spell h data last
    have kept
        : (world.handlers h).getReceivedMessage.mReceivedMessage
          = (world.handlers h).mReceivedMessage :=
      rfl
    exact (spells nonzero).congr room kept
  · intro other data last
    rw [lastDelivered_append trace rfl] at last
    exact spell.keep (world.getReceivedMessage_buffer h) other data last

/-- What a step shows obeys the law if its messages fit, and the buffers spell the messages
behind it. Witness: a callback delivers one message or none.
-/
theorem BuffersSpell.step {trace : List (MessageEvent H)} {world : WsWorld H}
    (spell : BuffersSpell trace world) {step : MessageStep H}
    (fits : ∀ event ∈ (messageBuffers.step world step).2, event.Fits)
    : Lawful StoredWhole trace (messageBuffers.step world step).2
      ∧ BuffersSpell (trace ++ (messageBuffers.step world step).2)
          (messageBuffers.step world step).1 := by
  cases step with
  | issue ctx callback =>
      simp only [messageBuffers] at fits ⊢
      rcases world.issue_cases ctx callback with ⟨nothing, kept⟩ | ⟨h, data, delivery, handlers⟩
      · rw [nothing, List.append_nil]
        exact ⟨trivial, spell.keep kept⟩
      · rw [delivery, List.forall_mem_singleton] at fits
        rw [delivery]
        have stored := onMessageReceived_inside (world.handlers h) fits
        exact ⟨⟨stored, trivial⟩, spell.deliver fits _ _ handlers⟩
  | getReceivedMessage h =>
      obtain ⟨whole, next⟩ := spell.look h
      exact ⟨⟨whole, trivial⟩, next⟩

/-- Over every run, from whatever the handlers hold, all messages are stored in bounds and
returned whole exactly if every message delivered leaves room for the byte behind it.
Witness: the buffers spell the messages delivered last, step by step.
-/
theorem messages_storedWhole_iff (world : WsWorld H) (steps : List (MessageStep H))
    : Lawful StoredWhole [] (messageBuffers.outputs world steps).flatten
      ↔ ∀ event ∈ (messageBuffers.outputs world steps).flatten, event.Fits := by
  constructor
  · intro lawful event member
    obtain ⟨before, after, split⟩ := List.append_of_mem member
    have law := lawful_iff.mp lawful before event after split
    cases event with
    | delivered h data memory written => exact receivedCells_in_bounds.mp law.cells
    | returned h memory => trivial
  · intro fits
    have initial : BuffersSpell [] world := fun _ _ last => by cases last
    exact ((messageBuffers.always_events.mpr fits).lawful BuffersSpell initial
      (fun _ _ _ spell fits => spell.step fits)).1

/-- A message of as many bytes as the buffer has: the byte behind it is out of bounds. -/
theorem messages_not_storedWhole
    : let ctx : Context := 0
      let world : WsWorld Unit :=
        (WsWorld.initial (fun _ _ => 0)).connectServer () ⟨[], true⟩ ⟨[], 0⟩
      let message : LwsCallback := ⟨.clientReceive, List.replicate 1024 97⟩
      ¬ Lawful StoredWhole [] (messageBuffers.outputs world [.issue ctx message]).flatten := by
  intro ctx world message lawful
  have delivery
      : world.delivery ctx message
        = [.delivered () (List.replicate 1024 97) (world.handlers ()).memory
            ((world.handlers ()).onMessageReceived message.input).memory] :=
    rfl
  have stored : Lawful StoredWhole [] (world.delivery ctx message) := by
    simpa [messageBuffers] using lawful
  rw [delivery] at stored
  have room := receivedCells_in_bounds.mp stored.1.cells
  rw [List.length_replicate] at room
  exact absurd room (by decide)

end Cooboc.Websocket
