import Cooboc.HeadRest.CommandLoop

/-! What reaches the Arduino of the messages delivered. The handler's buffer is a mailbox for
one message. Wherever deliveries fall, commands are written in their order and the newest
one is not lost; while none falls into a dispatch, the bytes written are those of exactly
the messages that the loop took from the mailbox.
-/

namespace Cooboc.HeadRest

open Cooboc.Foundations Cooboc.Websocket

/-- (Holds memory text) says that the string in memory reads as the message does. -/
def Holds (memory : Nat → UInt8) (text : Text) : Prop :=
  ∀ i, i ≤ (cString text).length → memory i = (cString text).getD i 0

theorem cString_nonzero (text : Text) : ∀ byte ∈ cString text, byte ≠ 0 := by
  intro byte member
  simpa using List.all_eq_true.mp List.all_takeWhile byte member

/-- The buffer holds the message delivered, whatever it held before. -/
theorem onMessageReceived_holds (handler : WsHandler) (text : Text)
    : Holds (handler.onMessageReceived text).mReceivedMessage text := by
  intro i bound
  have shorter : (cString text).length ≤ text.length :=
    (List.takeWhile_prefix _).length_le
  by_cases last : i = text.length
  · subst last
    simp [WsHandler.onMessageReceived, List.getD_eq_getElem?_getD, shorter]
  · have within : i < text.length := by omega
    simp [WsHandler.onMessageReceived, strncpy, Function.update_of_ne last, within, cString]

/-- `strcmp` answers zero for equal strings only. Witness: induction over the literal, one
byte of either string at a time.
-/
theorem strcmp_eq_zero {memory : Nat → UInt8} {string literal : Text}
    (ended : ∀ byte ∈ string, byte ≠ 0) (closed : ∀ byte ∈ literal, byte ≠ 0)
    (reads : ∀ i, i ≤ string.length → memory i = string.getD i 0)
    : strcmp memory literal = 0 ↔ string = literal := by
  induction literal generalizing memory string with
  | nil =>
      have first := reads 0 (Nat.zero_le _)
      cases string with
      | nil => simp_all [strcmp]
      | cons byte rest =>
          have nonzero : byte ≠ 0 := ended byte (List.mem_cons_self ..)
          have positive : byte.toNat ≠ 0 := fun zero =>
            nonzero (UInt8.toNat_inj.mp zero)
          simp_all [strcmp]
  | cons expected literal ih =>
      have first := reads 0 (Nat.zero_le _)
      have visible : expected ≠ 0 := closed expected (List.mem_cons_self ..)
      unfold strcmp
      split
      · rename_i same
        cases string with
        | nil => exact absurd (same.symm.trans first) visible
        | cons byte rest =>
            have equal : byte = expected := first.symm.trans same
            rw [ih (fun b member => ended b (List.mem_cons_of_mem _ member))
              (fun b member => closed b (List.mem_cons_of_mem _ member))
              (fun i bound => reads (i + 1) (Nat.succ_le_succ bound)), equal]
            simp
      · rename_i different
        have distinct : (memory 0).toNat ≠ expected.toNat := fun equal =>
          different (UInt8.toNat_inj.mp equal)
        refine iff_of_false (by omega) ?_
        rintro rfl
        exact different first

theorem HrCommand.text_nonzero (command : HrCommand) : ∀ byte ∈ command.text, byte ≠ 0 := by
  have visible : command.text.all (fun byte => decide (byte ≠ 0)) = true := by
    cases command <;> rfl
  intro byte member
  exact of_decide_eq_true (List.all_eq_true.mp visible byte member)

/-- The loop's comparison finds the command of the message in the buffer. -/
theorem Holds.strcmp {memory : Nat → UInt8} {text : Text} (holds : Holds memory text)
    (command : HrCommand)
    : strcmp memory command.text = 0 ↔ commandOf text = some command := by
  rw [strcmp_eq_zero (cString_nonzero text) command.text_nonzero holds, commandOf_eq_some]

/-- The commands compared behind one. -/
def HrCommand.later : HrCommand → List HrCommand
  | .moveUp => [.moveDown, .stopMove, .reset]
  | .moveDown => [.stopMove, .reset]
  | .stopMove => [.reset]
  | .reset => []

/-- The commands that the dispatch has not compared yet. -/
def LoopPoint.remaining : LoopPoint → List HrCommand
  | .hasNewMessage => []
  | .getReceivedMessage => [.moveUp, .moveDown, .stopMove, .reset]
  | .printReceivedMessage => [.moveUp, .moveDown, .stopMove, .reset]
  | .compare command => command :: command.later
  | .send command => command.later

/-- The byte that the dispatch is about to write. -/
def LoopPoint.sending : LoopPoint → List UInt8
  | .send command => [command.byte]
  | _ => []

/-- The bytes that the dispatch will find if the message stays in the buffer. -/
def LoopPoint.upcoming (point : LoopPoint) (text : Text) : List UInt8 :=
  point.remaining.filterMap
    (fun command => if commandOf text = some command then some command.byte else none)

theorem HrCommand.mem_remaining (command : HrCommand)
    : command ∈ LoopPoint.getReceivedMessage.remaining := by
  cases command <;> decide

theorem HrCommand.next_remaining (command : HrCommand)
    : command.next.remaining = command.later := by
  cases command <;> rfl

theorem HrCommand.next_sending (command : HrCommand) : command.next.sending = [] := by
  cases command <;> rfl

theorem upcoming_all (text : Text)
    : LoopPoint.getReceivedMessage.upcoming text = (commandByte text).toList := by
  unfold LoopPoint.upcoming commandByte
  cases commandOf text with
  | none => rfl
  | some command => cases command <;> rfl

theorem upcoming_missed {text : Text} {command : HrCommand}
    (missed : commandOf text ≠ some command)
    : (LoopPoint.compare command).upcoming text = command.next.upcoming text := by
  rw [LoopPoint.upcoming, LoopPoint.upcoming, command.next_remaining]
  exact List.filterMap_cons_none (if_neg missed)

theorem upcoming_found {text : Text} {command : HrCommand}
    (found : commandOf text = some command)
    : (LoopPoint.compare command).upcoming text
      = command.byte :: (LoopPoint.send command).upcoming text := by
  rw [LoopPoint.upcoming, LoopPoint.upcoming]
  exact List.filterMap_cons_some (if_pos found)

/-- A message that stays in the buffer is found once at most. -/
theorem upcoming_once (point : LoopPoint) (text : Text) : (point.upcoming text).length ≤ 1 := by
  have part : point.remaining.Sublist LoopPoint.getReceivedMessage.remaining := by
    rcases point with _ | _ | _ | command | command
    · decide
    · decide
    · decide
    · cases command <;> decide
    · cases command <;> decide
  have found := (part.filterMap _).length_le.trans_eq (congrArg List.length (upcoming_all text))
  exact found.trans Option.length_toList_le

/-- The dispatches that the flag still begins: none once `getReceivedMessage` is to be called,
which clears it.
-/
def CommandLoop.announced (loop : CommandLoop) : Nat :=
  match loop.point with
  | .getReceivedMessage => 0
  | .printReceivedMessage => 0
  | _ => loop.handler.mHasNewMessage.toNat

/-- A message can be found twice: in the dispatch under way, and in the one that its flag begins. -/
theorem found_twice (loop : CommandLoop) (text : Text)
    : 0 + (loop.point.upcoming text).length + loop.announced ≤ 2 := by
  have announced : loop.announced ≤ 1 := by
    unfold CommandLoop.announced
    split
    · decide
    · decide
    · exact Bool.toNat_le _
  rw [Nat.zero_add]
  exact Nat.add_le_add (upcoming_once loop.point text) announced

theorem announced_next (handler : WsHandler) (command : HrCommand)
    : CommandLoop.announced ⟨handler, command.next⟩ = handler.mHasNewMessage.toNat := by
  cases command <;> rfl

theorem announced_cleared (handler : WsHandler) (point : LoopPoint)
    : CommandLoop.announced ⟨handler.getReceivedMessage, point⟩ = 0 := by
  cases point <;> rfl

section

variable (trace : Trace) (event : MailboxEvent Text) (text : Text) (byte : UInt8)

@[simp] theorem mailboxEvents_silent
    : mailboxEvents (trace ++ [none]) = mailboxEvents trace := by
  simp [mailboxEvents, Observation.event?]

@[simp] theorem mailboxEvents_mailbox
    : mailboxEvents (trace ++ [some (.mailbox event)]) = mailboxEvents trace ++ [event] := by
  simp [mailboxEvents, Observation.event?]

@[simp] theorem mailboxEvents_wrote
    : mailboxEvents (trace ++ [some (.wrote byte)]) = mailboxEvents trace := by
  simp [mailboxEvents, Observation.event?]

@[simp] theorem bytesWritten_silent
    : bytesWritten (trace ++ [none]) = bytesWritten trace := by
  simp [bytesWritten, Observation.byte?]

@[simp] theorem bytesWritten_mailbox
    : bytesWritten (trace ++ [some (.mailbox event)]) = bytesWritten trace := by
  simp [bytesWritten, Observation.byte?]

@[simp] theorem bytesWritten_wrote
    : bytesWritten (trace ++ [some (.wrote byte)]) = bytesWritten trace ++ [byte] := by
  simp [bytesWritten, Observation.byte?]

@[simp] theorem messagesDelivered_put
    : messagesDelivered (trace ++ [some (.mailbox (.put text))])
      = messagesDelivered trace ++ [text] := by
  rw [messagesDelivered, mailboxEvents_mailbox, Mailbox.messages_put, messagesDelivered]

@[simp] theorem messagesDelivered_take
    : messagesDelivered (trace ++ [some (.mailbox .take)]) = messagesDelivered trace := by
  rw [messagesDelivered, mailboxEvents_mailbox, Mailbox.messages_take, messagesDelivered]

@[simp] theorem messagesDelivered_silent
    : messagesDelivered (trace ++ [none]) = messagesDelivered trace := by
  rw [messagesDelivered, mailboxEvents_silent, messagesDelivered]

@[simp] theorem messagesDelivered_wrote
    : messagesDelivered (trace ++ [some (.wrote byte)]) = messagesDelivered trace := by
  rw [messagesDelivered, mailboxEvents_wrote, messagesDelivered]

@[simp] theorem messagesPolled_put
    : messagesPolled (trace ++ [some (.mailbox (.put text))]) = messagesPolled trace := by
  rw [messagesPolled, mailboxEvents_mailbox, Mailbox.taken_put, messagesPolled]

@[simp] theorem messagesPolled_take
    : messagesPolled (trace ++ [some (.mailbox .take)])
      = messagesPolled trace ++ (Mailbox.slot (mailboxEvents trace)).toList := by
  rw [messagesPolled, mailboxEvents_mailbox, Mailbox.taken_take, messagesPolled]

@[simp] theorem messagesPolled_silent
    : messagesPolled (trace ++ [none]) = messagesPolled trace := by
  rw [messagesPolled, mailboxEvents_silent, messagesPolled]

@[simp] theorem messagesPolled_wrote
    : messagesPolled (trace ++ [some (.wrote byte)]) = messagesPolled trace := by
  rw [messagesPolled, mailboxEvents_wrote, messagesPolled]

end

section

variable {handler : WsHandler} {text : Text} {command : HrCommand}

theorem CommandLoop.advance_begins (flag : handler.mHasNewMessage = true)
    : CommandLoop.advance ⟨handler, .hasNewMessage⟩
      = (⟨handler, .getReceivedMessage⟩, some (.mailbox .take)) := by
  simp [CommandLoop.advance, flag]

theorem CommandLoop.advance_waits (flag : handler.mHasNewMessage = false)
    : CommandLoop.advance ⟨handler, .hasNewMessage⟩
      = (⟨handler, .hasNewMessage⟩, some (.mailbox .take)) := by
  simp [CommandLoop.advance, flag]

theorem CommandLoop.advance_found (holds : Holds handler.mReceivedMessage text)
    (found : commandOf text = some command)
    : CommandLoop.advance ⟨handler, .compare command⟩ = (⟨handler, .send command⟩, none) := by
  simp [CommandLoop.advance, (holds.strcmp command).mpr found]

theorem CommandLoop.advance_missed (holds : Holds handler.mReceivedMessage text)
    (missed : commandOf text ≠ some command)
    : CommandLoop.advance ⟨handler, .compare command⟩ = (⟨handler, command.next⟩, none) := by
  simp [CommandLoop.advance, (holds.strcmp command).not.mpr missed]

end

-----------------------------------------------------------------------------------------
-- Any interleaving
-----------------------------------------------------------------------------------------

/-- No message was delivered yet. -/
structure Untouched (trace : Trace) (loop : CommandLoop) : Prop where
  delivered : messagesDelivered trace = []
  slot : Mailbox.slot (mailboxEvents trace) = none
  polled : messagesPolled trace = []
  written : bytesWritten trace = []
  flag : loop.handler.mHasNewMessage = false
  point : loop.point = .hasNewMessage

/-- The messages delivered form an account, the newest one last: the bytes written are
those of the account, and the newest command has been found, or the flag announces it, or
the dispatch still comes to it; with what may still be found, no message counts more than twice.
-/
structure Accounted (before : List (Text × Nat)) (text : Text) (times : Nat) (trace : Trace)
    (loop : CommandLoop)
    : Prop where
  delivered : messagesDelivered trace = (before ++ [(text, times)]).map Prod.fst
  written
    : bytesWritten trace ++ loop.point.sending
      = Mailbox.handled commandByte (before ++ [(text, times)])
  holds : Holds loop.handler.mReceivedMessage text
  waiting
    : loop.handler.mHasNewMessage = true
      → Mailbox.slot (mailboxEvents trace) ≠ none ∨ loop.point = .getReceivedMessage
  newest
    : ∀ command,
        commandOf text = some command
        → 0 < times
          ∨ loop.handler.mHasNewMessage = true
          ∨ command ∈ loop.point.remaining
  settled : ∀ entry ∈ before, entry.2 ≤ 2
  bounded : times + (loop.point.upcoming text).length + loop.announced ≤ 2

/-- The loop finds nothing before the first delivery. -/
theorem Untouched.advance {trace : Trace} {loop : CommandLoop}
    (untouched : Untouched trace loop)
    : Untouched (trace ++ [loop.advance.2]) loop.advance.1 := by
  obtain ⟨handler, point⟩ := loop
  obtain ⟨nothing, empty, untaken, unwritten, flag, start⟩ := untouched
  obtain rfl : point = .hasNewMessage := start
  rw [CommandLoop.advance_waits flag]
  refine ⟨?_, ?_, ?_, ?_, flag, rfl⟩
  · rw [messagesDelivered_take, nothing]
  · rw [mailboxEvents_mailbox, Mailbox.slot_take]
  · rw [messagesPolled_take, untaken, empty]
    rfl
  · rw [bytesWritten_mailbox, unwritten]

/-- A first delivery opens the account. -/
theorem Untouched.deliver {trace : Trace} {loop : CommandLoop}
    (untouched : Untouched trace loop) (text : Text)
    : Accounted [] text 0 (trace ++ [some (.mailbox (.put text))])
        { loop with handler := loop.handler.onMessageReceived text } where
  delivered := by
    rw [messagesDelivered_put, untouched.delivered]
    rfl
  written := by
    rw [bytesWritten_mailbox, untouched.written, untouched.point]
    rfl
  holds := onMessageReceived_holds loop.handler text
  waiting _ := by simp [Mailbox.slot_put]
  newest _ _ := .inr (.inl rfl)
  settled := by simp
  bounded := found_twice _ text

/-- A later delivery continues the account, also during a dispatch. -/
theorem Accounted.deliver {before : List (Text × Nat)} {text : Text} {times : Nat}
    {trace : Trace} {loop : CommandLoop} (accounted : Accounted before text times trace loop)
    (message : Text)
    : Accounted (before ++ [(text, times)]) message 0
        (trace ++ [some (.mailbox (.put message))])
        { loop with handler := loop.handler.onMessageReceived message } where
  delivered := by
    rw [messagesDelivered_put, accounted.delivered]
    simp only [List.map_append, List.map_cons, List.map_nil]
  written := by
    rw [bytesWritten_mailbox, Mailbox.handled_open]
    exact accounted.written
  holds := onMessageReceived_holds loop.handler message
  waiting _ := by simp [Mailbox.slot_put]
  newest _ _ := .inr (.inl rfl)
  settled := by
    have twice := accounted.bounded
    simp only [List.forall_mem_append, List.forall_mem_singleton]
    exact ⟨accounted.settled, by omega⟩
  bounded := found_twice _ message

/-- A call of `getReceivedMessage` clears the flag with all comparisons still to come. -/
theorem Accounted.clear {before : List (Text × Nat)} {text : Text} {times : Nat}
    {trace : Trace} {handler : WsHandler} {point next : LoopPoint}
    (accounted : Accounted before text times trace ⟨handler, point⟩)
    (silent : next.sending = point.sending)
    (same : next.upcoming text = point.upcoming text)
    (all : ∀ command, command ∈ next.remaining)
    : Accounted before text times (trace ++ [none]) ⟨handler.getReceivedMessage, next⟩ where
  delivered := by
    rw [messagesDelivered_silent]
    exact accounted.delivered
  written := by
    rw [bytesWritten_silent, silent]
    exact accounted.written
  holds := accounted.holds
  waiting set := Bool.noConfusion set
  newest command _ := .inr (.inr (all command))
  settled := accounted.settled
  bounded := by
    have twice := accounted.bounded
    rw [announced_cleared, same]
    exact Nat.le_of_add_right_le twice

/-- A comparison keeps the account; if it finds its command, it counts the newest message once
more. Witness: the buffer shows the newest message, even one delivered during this dispatch.
-/
theorem Accounted.compare {before : List (Text × Nat)} {text : Text} {times : Nat}
    {trace : Trace} {handler : WsHandler} {command : HrCommand}
    (accounted : Accounted before text times trace ⟨handler, .compare command⟩)
    : ∃ count,
        Accounted before text count
          (trace ++ [(CommandLoop.advance ⟨handler, .compare command⟩).2])
          (CommandLoop.advance ⟨handler, .compare command⟩).1 := by
  obtain ⟨account, written, holds, waiting, newest, settled, bounded⟩ := accounted
  have unread (set : handler.mHasNewMessage = true)
      : Mailbox.slot (mailboxEvents trace) ≠ none :=
    (waiting set).resolve_right (by simp)
  by_cases found : commandOf text = some command
  · rw [CommandLoop.advance_found holds found]
    refine ⟨times + 1, ?_, ?_, holds, fun set => ?_, fun _ _ => .inl (Nat.succ_pos times),
      settled, ?_⟩
    · rw [messagesDelivered_silent, account, List.map_append, List.map_append]
      rfl
    · have yields : commandByte text = some command.byte := by
        rw [commandByte, found]
        rfl
      rw [bytesWritten_silent, Mailbox.handled_again, ← written, yields]
      simp [LoopPoint.sending]
    · rw [mailboxEvents_silent]
      exact .inl (unread set)
    · rw [upcoming_found found, List.length_cons] at bounded
      rw [Nat.add_right_comm times]
      exact bounded
  · rw [CommandLoop.advance_missed holds found]
    refine ⟨times, ?_, ?_, holds, fun set => ?_, fun other is_other => ?_, settled, ?_⟩
    · rw [messagesDelivered_silent, account]
    · rw [bytesWritten_silent, command.next_sending, ← written]
      rfl
    · rw [mailboxEvents_silent]
      exact .inl (unread set)
    · have different : other ≠ command := by
        rintro rfl
        exact found is_other
      have left := newest other is_other
      rw [command.next_remaining]
      simpa [LoopPoint.remaining, different] using left
    · rw [announced_next, ← upcoming_missed found]
      exact bounded

/-- Each call of the loop keeps the account; a comparison that finds its command counts the
newest message once more. Witness: one case for each point of the loop.
-/
theorem Accounted.advance {before : List (Text × Nat)} {text : Text} {times : Nat}
    {trace : Trace} {loop : CommandLoop} (accounted : Accounted before text times trace loop)
    : ∃ count,
        Accounted before text count (trace ++ [loop.advance.2]) loop.advance.1 := by
  obtain ⟨handler, point⟩ := loop
  cases point with
  | getReceivedMessage => exact ⟨times, accounted.clear rfl rfl HrCommand.mem_remaining⟩
  | printReceivedMessage => exact ⟨times, accounted.clear rfl rfl HrCommand.mem_remaining⟩
  | hasNewMessage =>
      obtain ⟨account, written, holds, waiting, newest, settled, bounded⟩ := accounted
      refine ⟨times, ?_⟩
      cases flag : handler.mHasNewMessage with
      | false =>
          rw [CommandLoop.advance_waits flag]
          refine ⟨?_, ?_, holds, fun set => ?_, newest, settled, bounded⟩
          · rw [messagesDelivered_take, account]
          · rw [bytesWritten_mailbox, written]
          · exact absurd (flag.symm.trans set) (by decide)
      | true =>
          rw [CommandLoop.advance_begins flag]
          refine ⟨?_, ?_, holds, fun _ => .inr rfl, fun _ _ => .inr (.inl flag), settled, ?_⟩
          · rw [messagesDelivered_take, account]
          · rw [bytesWritten_mailbox]
            exact written
          · have once : times + 0 + handler.mHasNewMessage.toNat ≤ 2 := bounded
            rw [flag, Bool.toNat_true] at once
            exact Nat.add_le_add (Nat.le_of_succ_le_succ once) (upcoming_once _ text)
  | compare command => exact accounted.compare
  | send command =>
      obtain ⟨account, written, holds, waiting, newest, settled, bounded⟩ := accounted
      refine ⟨times, ?_⟩
      show Accounted before text times (trace ++ [some (.wrote command.byte)])
        ⟨handler, command.next⟩
      refine ⟨?_, ?_, holds, fun set => ?_, fun other is_other => ?_, settled, ?_⟩
      · rw [messagesDelivered_wrote, account]
      · rw [bytesWritten_wrote, command.next_sending, List.append_nil]
        exact written
      · rw [mailboxEvents_wrote]
        exact .inl ((waiting set).resolve_right (by simp))
      · rw [command.next_remaining]
        exact newest other is_other
      · rw [announced_next, LoopPoint.upcoming, command.next_remaining]
        exact bounded

-----------------------------------------------------------------------------------------
-- Deliveries between the dispatches
-----------------------------------------------------------------------------------------

/-- (quiet loop event) excludes a delivery while a dispatch is under way. -/
def quiet (loop : CommandLoop) : LoopEvent → Prop
  | .deliver _ => loop.point = .hasNewMessage
  | .advance => True

instance quiet.decidable (loop : CommandLoop) : (event : LoopEvent) → Decidable (quiet loop event)
  | .deliver _ => inferInstanceAs (Decidable (loop.point = .hasNewMessage))
  | .advance => inferInstanceAs (Decidable True)

/-- The flag and the buffer are the mailbox: `text` is in the buffer, and the flag says
whether it is still to be taken. The bytes written, with those that the dispatch still
finds, are those of the messages taken.
-/
structure Exact (text : Text) (trace : Trace) (loop : CommandLoop) : Prop where
  holds : Holds loop.handler.mReceivedMessage text
  flag
    : loop.handler.mHasNewMessage = true
      → Mailbox.slot (mailboxEvents trace) = some text ∨ loop.point = .getReceivedMessage
  slot
    : Mailbox.slot (mailboxEvents trace) ≠ none
      → loop.handler.mHasNewMessage = true ∧ loop.point = .hasNewMessage
  written
    : bytesWritten trace ++ loop.point.sending ++ loop.point.upcoming text
      = (messagesPolled trace).filterMap commandByte

/-- A message is in the mailbox between the dispatches only. -/
theorem Exact.empty {text : Text} {trace : Trace} {loop : CommandLoop}
    (exactly : Exact text trace loop) (running : loop.point ≠ .hasNewMessage)
    : Mailbox.slot (mailboxEvents trace) = none := by
  by_contra waiting
  exact running (exactly.slot waiting).2

/-- The flag stays clear behind the calls of `getReceivedMessage`. -/
theorem Exact.cleared {text : Text} {trace : Trace} {loop : CommandLoop}
    (exactly : Exact text trace loop) (running : loop.point ≠ .hasNewMessage)
    (past : loop.point ≠ .getReceivedMessage)
    : loop.handler.mHasNewMessage ≠ true := by
  intro set
  have waiting := (exactly.flag set).resolve_right past
  exact absurd (waiting.symm.trans (exactly.empty running)) (Option.some_ne_none text)

/-- With the flag clear the mailbox is empty. -/
theorem Exact.of_cleared {text : Text} {trace : Trace} {loop : CommandLoop}
    (holds : Holds loop.handler.mReceivedMessage text)
    (cleared : loop.handler.mHasNewMessage ≠ true)
    (empty : Mailbox.slot (mailboxEvents trace) = none)
    (written
      : bytesWritten trace ++ loop.point.sending ++ loop.point.upcoming text
        = (messagesPolled trace).filterMap commandByte)
    : Exact text trace loop :=
  ⟨holds, fun set => absurd set cleared, fun left => absurd empty left, written⟩

/-- A call of `getReceivedMessage` clears the flag with the same bytes still to come. -/
theorem Exact.clear {text : Text} {trace : Trace} {handler : WsHandler}
    {point next : LoopPoint} (exactly : Exact text trace ⟨handler, point⟩)
    (running : point ≠ .hasNewMessage) (silent : next.sending = point.sending)
    (same : next.upcoming text = point.upcoming text)
    : Exact text (trace ++ [none]) ⟨handler.getReceivedMessage, next⟩ := by
  refine .of_cleared exactly.holds Bool.false_ne_true ?_ ?_
  · rw [mailboxEvents_silent]
    exact exactly.empty running
  · rw [bytesWritten_silent, messagesPolled_silent, silent, same]
    exact exactly.written

/-- A first delivery fills the mailbox. -/
theorem Untouched.exact {trace : Trace} {loop : CommandLoop} (untouched : Untouched trace loop)
    (text : Text)
    : Exact text (trace ++ [some (.mailbox (.put text))])
        { loop with handler := loop.handler.onMessageReceived text } where
  holds := onMessageReceived_holds loop.handler text
  flag _ := by simp [Mailbox.slot_put]
  slot _ := ⟨rfl, untouched.point⟩
  written := by
    rw [bytesWritten_mailbox, messagesPolled_put, untouched.written, untouched.point,
      untouched.polled]
    rfl

/-- A delivery between the dispatches replaces the message in the mailbox. -/
theorem Exact.deliver {text : Text} {trace : Trace} {loop : CommandLoop}
    (exactly : Exact text trace loop) (between : loop.point = .hasNewMessage)
    (message : Text)
    : Exact message (trace ++ [some (.mailbox (.put message))])
        { loop with handler := loop.handler.onMessageReceived message } where
  holds := onMessageReceived_holds loop.handler message
  flag _ := by simp [Mailbox.slot_put]
  slot _ := ⟨rfl, between⟩
  written := by
    have earlier := exactly.written
    rw [between] at earlier ⊢
    rw [bytesWritten_mailbox, messagesPolled_put]
    exact earlier

/-- A poll takes the message out of the mailbox, and its byte is the next to be written. -/
theorem Exact.poll {text : Text} {trace : Trace} {handler : WsHandler}
    (exactly : Exact text trace ⟨handler, .hasNewMessage⟩)
    : Exact text (trace ++ [(CommandLoop.advance ⟨handler, .hasNewMessage⟩).2])
        (CommandLoop.advance ⟨handler, .hasNewMessage⟩).1 := by
  have written := exactly.written
  cases set : handler.mHasNewMessage with
  | false =>
      have empty : Mailbox.slot (mailboxEvents trace) = none := by
        by_contra waiting
        exact absurd (set.symm.trans (exactly.slot waiting).1) (by decide)
      rw [CommandLoop.advance_waits set]
      refine .of_cleared exactly.holds (by simp [set]) ?_ ?_
      · rw [mailboxEvents_mailbox, Mailbox.slot_take]
      · rw [bytesWritten_mailbox, messagesPolled_take, empty, written]
        exact congrArg _ (List.append_nil _).symm
  | true =>
      have waiting : Mailbox.slot (mailboxEvents trace) = some text := by
        simpa using exactly.flag set
      rw [CommandLoop.advance_begins set]
      refine ⟨exactly.holds, fun _ => .inr rfl, fun left => ?_, ?_⟩
      · rw [mailboxEvents_mailbox, Mailbox.slot_take] at left
        exact absurd rfl left
      · rw [bytesWritten_mailbox, messagesPolled_take, waiting, upcoming_all,
          List.filterMap_append, ← written]
        cases yields : commandByte text <;>
          simp [yields, LoopPoint.sending, LoopPoint.upcoming, LoopPoint.remaining]

/-- A comparison goes on to send the byte of the command it finds, or to the next one. -/
theorem Exact.compare {text : Text} {trace : Trace} {handler : WsHandler} {command : HrCommand}
    (exactly : Exact text trace ⟨handler, .compare command⟩)
    : Exact text (trace ++ [(CommandLoop.advance ⟨handler, .compare command⟩).2])
        (CommandLoop.advance ⟨handler, .compare command⟩).1 := by
  have written := exactly.written
  have empty := exactly.empty (by simp)
  have cleared := exactly.cleared (by simp) (by simp)
  by_cases found : commandOf text = some command
  · rw [CommandLoop.advance_found exactly.holds found]
    refine .of_cleared exactly.holds cleared ?_ ?_
    · rw [mailboxEvents_silent, empty]
    · rw [bytesWritten_silent, messagesPolled_silent, ← written, upcoming_found found]
      simp [LoopPoint.sending]
  · rw [CommandLoop.advance_missed exactly.holds found]
    refine .of_cleared exactly.holds cleared ?_ ?_
    · rw [mailboxEvents_silent, empty]
    · rw [bytesWritten_silent, messagesPolled_silent, ← written, upcoming_missed found,
        command.next_sending]
      rfl

/-- Sending writes the byte that was next. -/
theorem Exact.send {text : Text} {trace : Trace} {handler : WsHandler} {command : HrCommand}
    (exactly : Exact text trace ⟨handler, .send command⟩)
    : Exact text (trace ++ [some (.wrote command.byte)]) ⟨handler, command.next⟩ := by
  refine .of_cleared exactly.holds (exactly.cleared (by simp) (by simp)) ?_ ?_
  · rw [mailboxEvents_wrote, exactly.empty (by simp)]
  · rw [bytesWritten_wrote, messagesPolled_wrote, ← exactly.written, command.next_sending,
      LoopPoint.upcoming, LoopPoint.upcoming, command.next_remaining, List.append_nil]
    rfl

/-- Each call of the loop keeps the mailbox and the bytes still to be written. Witness: one
case for each point of the loop.
-/
theorem Exact.advance {text : Text} {trace : Trace} {loop : CommandLoop}
    (exactly : Exact text trace loop)
    : Exact text (trace ++ [loop.advance.2]) loop.advance.1 := by
  obtain ⟨handler, point⟩ := loop
  cases point with
  | getReceivedMessage => exact exactly.clear (by simp) rfl rfl
  | printReceivedMessage => exact exactly.clear (by simp) rfl rfl
  | hasNewMessage => exact exactly.poll
  | compare command => exact exactly.compare
  | send command => exact exactly.send

/-- What is seen of a run from the loop's start. -/
def commandTrace (memory : Nat → UInt8) (events : List LoopEvent) : Trace :=
  commandLoop.outputs (CommandLoop.initial memory) events

/-- Where the loop stands after a run. -/
def loopAfter (memory : Nat → UInt8) (events : List LoopEvent) : CommandLoop :=
  commandLoop.run (CommandLoop.initial memory) events

theorem initial_untouched (memory : Nat → UInt8) : Untouched [] (CommandLoop.initial memory) :=
  ⟨rfl, rfl, rfl, rfl, rfl, rfl⟩

/-- Every run keeps the account of its deliveries. -/
theorem run_accounted (memory : Nat → UInt8) (events : List LoopEvent)
    : Untouched (commandTrace memory events) (loopAfter memory events)
      ∨ ∃ before text times,
          Accounted before text times (commandTrace memory events)
            (loopAfter memory events) := by
  apply commandLoop.run_trace
    (fun trace loop =>
      Untouched trace loop ∨ ∃ before text times, Accounted before text times trace loop)
    (.inl (initial_untouched memory))
  intro trace loop event state
  rcases state with untouched | ⟨before, text, times, accounted⟩
  · cases event with
    | deliver message => exact .inr ⟨[], message, 0, untouched.deliver message⟩
    | advance => exact .inl untouched.advance
  · cases event with
    | deliver message => exact .inr ⟨_, message, 0, accounted.deliver message⟩
    | advance =>
        obtain ⟨count, next⟩ := accounted.advance
        exact .inr ⟨before, text, count, next⟩

/-- Runs without deliveries during a dispatch keep the mailbox. -/
theorem run_exact (memory : Nat → UInt8) (events : List LoopEvent)
    (undisturbed : commandLoop.Always quiet (CommandLoop.initial memory) events)
    : Untouched (commandTrace memory events) (loopAfter memory events)
      ∨ ∃ text, Exact text (commandTrace memory events) (loopAfter memory events) := by
  apply undisturbed.run_trace
    (fun trace loop => Untouched trace loop ∨ ∃ text, Exact text trace loop)
    (.inl (initial_untouched memory))
  intro trace loop event state between
  rcases state with untouched | ⟨text, exactly⟩
  · cases event with
    | deliver message => exact .inr ⟨message, untouched.exact message⟩
    | advance => exact .inl untouched.advance
  · cases event with
    | deliver message => exact .inr ⟨message, exactly.deliver between message⟩
    | advance => exact .inr ⟨text, exactly.advance⟩

/-- Wherever deliveries fall, the bytes written behind the last dispatch are those of an
account of the messages delivered, none of them counted more than twice, and the newest command
is among them.
-/
theorem bytesWritten_accounted (memory : Nat → UInt8) (events : List LoopEvent)
    (looked : Mailbox.slot (mailboxEvents (commandTrace memory events)) = none)
    (finished : (loopAfter memory events).point = .hasNewMessage)
    : ∃ account,
        account.map Prod.fst = messagesDelivered (commandTrace memory events)
        ∧ bytesWritten (commandTrace memory events) = Mailbox.handled commandByte account
        ∧ (∀ entry ∈ account, entry.2 ≤ 2)
        ∧ ∀ before text times,
            account = before ++ [(text, times)] → commandByte text ≠ none → 0 < times := by
  rcases run_accounted memory events with untouched | ⟨before, text, times, accounted⟩
  · exact ⟨[], untouched.delivered.symm, untouched.written, by simp, by simp⟩
  · refine ⟨before ++ [(text, times)], accounted.delivered.symm, ?_, ?_, ?_⟩
    · have written := accounted.written
      rw [finished] at written
      exact (List.append_nil _).symm.trans written
    · have twice := accounted.bounded
      simp only [List.forall_mem_append, List.forall_mem_singleton]
      exact ⟨accounted.settled, by omega⟩
    · intro earlier last count same yields
      obtain ⟨_, last_eq⟩ := List.append_inj' same rfl
      obtain ⟨rfl, rfl⟩ := Prod.mk.inj (List.cons.inj last_eq).1
      have unset : (loopAfter memory events).handler.mHasNewMessage ≠ true := by
        intro set
        rcases accounted.waiting set with waiting | dispatching
        · exact waiting looked
        · exact absurd (finished.symm.trans dispatching) (by decide)
      obtain ⟨command, found⟩ : ∃ command, commandOf text = some command := by
        apply Option.ne_none_iff_exists'.mp
        intro unknown
        exact yields (by rw [commandByte, unknown]; rfl)
      have newest := accounted.newest command found
      rw [finished] at newest
      simpa [unset, LoopPoint.remaining] using newest

/-- Where no delivery falls into a dispatch, the bytes written behind the last dispatch are
those of exactly the messages that the loop took from the mailbox.
-/
theorem bytesWritten_polled (memory : Nat → UInt8) (events : List LoopEvent)
    (undisturbed : commandLoop.Always quiet (CommandLoop.initial memory) events)
    (finished : (loopAfter memory events).point = .hasNewMessage)
    : bytesWritten (commandTrace memory events)
      = (messagesPolled (commandTrace memory events)).filterMap commandByte := by
  rcases run_exact memory events undisturbed with untouched | ⟨text, exactly⟩
  · rw [untouched.written, untouched.polled]
    rfl
  · have written := exactly.written
    rw [finished] at written
    simpa [LoopPoint.sending, LoopPoint.upcoming, LoopPoint.remaining] using written

/-- Once the loop has looked into the mailbox behind the last delivery, and finished that
iteration: wherever the deliveries fell, the bytes written are those of an account of the
messages delivered, in their order, none more than twice and the newest command among them; and
if none fell into a dispatch, they are the bytes of exactly the messages that the loop took from the
mailbox, which is all of them if it looked between any two.
-/
theorem commands_dispatched (memory : Nat → UInt8) (events : List LoopEvent)
    (looked : Mailbox.slot (mailboxEvents (commandTrace memory events)) = none)
    (finished : (loopAfter memory events).point = .hasNewMessage)
    : (∃ account,
        account.map Prod.fst = messagesDelivered (commandTrace memory events)
        ∧ bytesWritten (commandTrace memory events) = Mailbox.handled commandByte account
        ∧ (∀ entry ∈ account, entry.2 ≤ 2)
        ∧ ∀ before text times,
            account = before ++ [(text, times)] → commandByte text ≠ none → 0 < times)
      ∧ (commandLoop.Always quiet (CommandLoop.initial memory) events
        → bytesWritten (commandTrace memory events)
            = (messagesPolled (commandTrace memory events)).filterMap commandByte
          ∧ (Mailbox.Timely (mailboxEvents (commandTrace memory events))
            → bytesWritten (commandTrace memory events)
              = (messagesDelivered (commandTrace memory events)).filterMap commandByte)) := by
  refine ⟨bytesWritten_accounted memory events looked finished, fun undisturbed => ?_⟩
  have taken := bytesWritten_polled memory events undisturbed finished
  refine ⟨taken, fun timely => ?_⟩
  have complete := Mailbox.taken_complete timely
  rw [looked] at complete
  rw [taken, messagesDelivered, ← complete]
  exact congrArg _ (List.append_nil _).symm

/-- Two commands, the second one delivered behind the dispatch of the first. -/
theorem commands_dispatched_two
    : let events : List LoopEvent :=
        .deliver HrCommand.moveUp.text :: List.replicate 8 .advance
          ++ .deliver HrCommand.stopMove.text :: List.replicate 8 .advance
      bytesWritten (commandTrace (fun _ => 0) events)
        = [HrDriver.moveUp, HrDriver.stopMove] := by
  intro events
  have dispatched := commands_dispatched (fun _ => 0) events (by decide +kernel)
    (by decide +kernel)
  have all := (dispatched.2 (by decide +kernel)).2 (by decide +kernel)
  rw [all]
  decide +kernel

/-- A command followed by another one before the loop looks is not written; a command that
is delivered between the calls of `getReceivedMessage` and the comparisons is written twice.
-/
theorem commands_lost
    : let overtaken : List LoopEvent :=
        [.deliver HrCommand.moveUp.text, .deliver HrCommand.stopMove.text]
          ++ List.replicate 8 .advance
      let between : List LoopEvent :=
        .deliver [] :: List.replicate 3 .advance
          ++ .deliver HrCommand.moveUp.text :: List.replicate 13 .advance
      let overtakenTrace := commandTrace (fun _ => 0) overtaken
      let betweenTrace := commandTrace (fun _ => 0) between
      (Mailbox.slot (mailboxEvents overtakenTrace) = none
        ∧ (loopAfter (fun _ => 0) overtaken).point = .hasNewMessage
        ∧ (messagesDelivered overtakenTrace).filterMap commandByte
          = [HrDriver.moveUp, HrDriver.stopMove]
        ∧ bytesWritten overtakenTrace = [HrDriver.stopMove])
      ∧ (Mailbox.slot (mailboxEvents betweenTrace) = none
        ∧ (loopAfter (fun _ => 0) between).point = .hasNewMessage
        ∧ (messagesDelivered betweenTrace).filterMap commandByte = [HrDriver.moveUp]
        ∧ bytesWritten betweenTrace = [HrDriver.moveUp, HrDriver.moveUp]) := by
  decide +kernel

end Cooboc.HeadRest
