import Cooboc.Server.BroadcastList

/-! What a browser receives of the texts that the devices send: those that come while it is
connected, each once and in order, as long as browsers leave from the ends of the list only.
-/

namespace Cooboc.Server

open Cooboc.Foundations

/-- The texts that a handler emits to a client. -/
def Reply.to (client : ClientRef) (reply : Reply) : List String :=
  (reply.emitted.filter (fun emission => emission.1 = client)).map Prod.snd

/-- The texts that a client receives from a run. -/
def received (client : ClientRef) (replies : List (Option Reply)) : List String :=
  replies.flatMap (fun reply => (reply.map (Reply.to client)).getD [])

/-- The text of an event, if it is one. -/
def IoEvent.str? : IoEvent → Option String
  | .text str => some str
  | _ => none

/-- The texts among some events. -/
def deviceTexts (events : List IoEvent) : List String := events.filterMap IoEvent.str?

/-- The texts that come while a client is connected. -/
def heard (client : ClientRef) (roster : Roster) : List IoEvent → List String
  | [] => []
  | event :: rest =>
      (if client ∈ roster.connected then event.str?.toList else [])
        ++ heard client (roster.record event) rest

/-- An admitted event at an end of the list keeps the list intact. -/
theorem BroadcastIntegrity.step {state : IoServer × Roster} (integrity : BroadcastIntegrity state)
    (tracked : Tracked state) {event : IoEvent} (admitted : state.2.Admits event)
    (ends : state.2.AtEnd event)
    : BroadcastIntegrity (relay.step state event).1 := by
  cases event with
  | connection => exact integrity.connection tracked
  | disconnect client => exact (integrity.disconnect_iff tracked admitted).mpr ends
  | text str => exact ⟨integrity.linked, integrity.broadcast⟩

/-- A text that goes once to each of some clients reaches each of them once. Witness: induction
over the clients, none of which comes twice.
-/
theorem Reply.to_clients (client : ClientRef) (str : String) {clients : List ClientRef}
    (distinct : clients.Nodup)
    : Reply.to client ⟨[], clients.map (·, str)⟩ = if client ∈ clients then [str] else [] := by
  induction clients with
  | nil => rfl
  | cons first rest ih =>
      obtain ⟨absent, others⟩ := List.nodup_cons.mp distinct
      have later := ih others
      rw [Reply.to] at later ⊢
      rw [List.map_cons, List.filter_cons]
      by_cases own : first = client
      · subst own
        rw [if_neg absent] at later
        simp only [decide_true, if_true, List.map_cons, later, List.mem_cons_self]
      · simp only [own, decide_false, Bool.false_eq_true, if_false, later, List.mem_cons,
          Ne.symm own, false_or]

/-- Only texts make a handler emit. -/
theorem received_silent (client : ClientRef) (state : IoServer × Roster) {event : IoEvent}
    (silent : event.str? = none)
    : received client [(relay.step state event).2] = [] := by
  cases event with
  | connection =>
      have reply : (relay.step state .connection).2
          = (state.1.handle .connection).2 := rfl
      rw [reply, IoServer.handle]
      split
      · rfl
      · rename_i inserted _
        cases inserted.trivialClient inserted.depth inserted.firstClient <;> rfl
  | disconnect other => rfl
  | text str => cases silent

/-- An event of an intact list emits to a client what it hears. Witness: a text goes once to each
connected client, and no client is connected twice.
-/
theorem BroadcastIntegrity.emits {state : IoServer × Roster}
    (integrity : BroadcastIntegrity state) (tracked : Tracked state) (client : ClientRef)
    (event : IoEvent)
    : received client [(relay.step state event).2]
      = if client ∈ state.2.connected then event.str?.toList else [] := by
  cases event with
  | connection =>
      rw [received_silent client state rfl]
      split <;> rfl
  | disconnect other =>
      rw [received_silent client state rfl]
      split <;> rfl
  | text str =>
      have reply : (relay.step state (.text str)).2
          = some ⟨[], state.2.connected.map (·, str)⟩ :=
        congrArg (Option.map _) (integrity.broadcast str)
      rw [reply, received, List.flatMap_singleton]
      exact Reply.to_clients client str tracked.distinct

end Cooboc.Server
