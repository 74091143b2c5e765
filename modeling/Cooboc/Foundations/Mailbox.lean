import Cooboc.Foundations.Machine

/-! A mailbox with room for one message: a new message replaces one that was not taken yet.
What a reader does with the messages of a mailbox is an account of each message put into
it and the number of times it was handled.
-/

namespace Cooboc.Foundations

/-- A writer puts a message into the mailbox; a reader looks into it and takes what it
holds.
-/
inductive MailboxEvent (α : Type*) where
  | put (message : α)
  | take
deriving DecidableEq

/-- The message put, if any. -/
def MailboxEvent.message? {α : Type*} : MailboxEvent α → Option α
  | .put message => some message
  | .take => none

/-- The mailbox as a machine; the messages taken are its outputs. -/
def mailbox (α : Type*) : Machine (Option α) (MailboxEvent α) (Option α) where
  step
    | _, .put message => (some message, none)
    | slot, .take => (none, slot)

namespace Mailbox

variable {α β : Type*}

/-- The messages put, in order. -/
def messages (events : List (MailboxEvent α)) : List α := events.filterMap (·.message?)

/-- The message left in the mailbox. -/
def slot (events : List (MailboxEvent α)) : Option α := (mailbox α).run none events

/-- The messages taken, in order: each is the latest one put when the reader looked. -/
def taken (events : List (MailboxEvent α)) : List α :=
  ((mailbox α).outputs none events).filterMap id

theorem messages_put (events : List (MailboxEvent α)) (message : α)
    : messages (events ++ [.put message]) = messages events ++ [message] := by
  simp [messages, MailboxEvent.message?]

theorem messages_take (events : List (MailboxEvent α))
    : messages (events ++ [.take]) = messages events := by
  simp [messages, MailboxEvent.message?]

theorem slot_put (events : List (MailboxEvent α)) (message : α)
    : slot (events ++ [.put message]) = some message := by
  simp only [slot, Machine.run_append]
  rfl

theorem slot_take (events : List (MailboxEvent α)) : slot (events ++ [.take]) = none := by
  simp only [slot, Machine.run_append]
  rfl

theorem taken_put (events : List (MailboxEvent α)) (message : α)
    : taken (events ++ [.put message]) = taken events := by
  simp only [taken, Machine.outputs_append, List.filterMap_append]
  exact List.append_nil _

theorem taken_take (events : List (MailboxEvent α))
    : taken (events ++ [.take]) = taken events ++ (slot events).toList := by
  simp only [taken, slot, Machine.outputs_append, List.filterMap_append]
  cases (mailbox α).run none events <;> rfl

/-- (Timely events) says that each message meets an empty mailbox. -/
def Timely (events : List (MailboxEvent α)) : Prop :=
  (mailbox α).Always (fun slot event => event.message?.isSome = true → slot.isSome = false)
    none events

instance decidableTimely (events : List (MailboxEvent α)) : Decidable (Timely events) :=
  inferInstanceAs (Decidable ((mailbox α).Always _ none events))

/-- Where each message meets an empty mailbox, none is lost: the messages taken and the one
left are the messages put. Witness: induction over the events from the last one.
-/
theorem taken_complete {events : List (MailboxEvent α)} (timely : Timely events)
    : taken events ++ (slot events).toList = messages events := by
  induction events using List.reverseRecOn with
  | nil => rfl
  | append_singleton events event ih =>
      obtain ⟨before, last, _⟩ := (mailbox α).always_append.mp timely
      have complete := ih before
      cases event with
      | put message =>
          have free : slot events = none := by simpa [slot] using last rfl
          rw [free] at complete
          rw [taken_put, slot_put, messages_put, ← complete]
          simp
      | take =>
          rw [taken_take, slot_take, messages_take, ← complete]
          simp

-----------------------------------------------------------------------------------------
-- Accounts
-----------------------------------------------------------------------------------------

/-- What handling the messages of an account yields: each message as often as it was
handled, in the order of the account.
-/
def handled (yield : α → Option β) (account : List (α × Nat)) : List β :=
  account.flatMap (fun (message, times) => (List.replicate times message).filterMap yield)

/-- A message that was not handled yet yields nothing. -/
theorem handled_open (yield : α → Option β) (account : List (α × Nat)) (message : α)
    : handled yield (account ++ [(message, 0)]) = handled yield account := by
  simp [handled]

/-- Handling the newest message once more adds what it yields at the end. -/
theorem handled_again (yield : α → Option β) (account : List (α × Nat)) (message : α)
    (times : Nat)
    : handled yield (account ++ [(message, times + 1)])
      = handled yield (account ++ [(message, times)]) ++ (yield message).toList := by
  simp only [handled, List.flatMap_append, List.flatMap_singleton, List.replicate_succ',
    List.filterMap_append, List.append_assoc]
  cases yields : yield message <;> simp [yields]

end Mailbox

end Cooboc.Foundations
