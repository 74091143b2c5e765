import Cooboc.Foundations.LinkedChain
import Cooboc.Server.IoClient

/-! Integrity of the browser list: which event sequences keep it equal to the connected
clients. Insertion and removal at either end keep both link directions; removal between
two clients erases the backward link of the later one.
-/

namespace Cooboc.Server

open Cooboc.Foundations

@[simp] theorem IoServer.next_setNext (server : IoServer) (client other : ClientRef)
    (next : Option ClientRef)
    : (server.setNext client next).next other
      = if other = client then next else server.next other := by
  unfold IoServer.next IoServer.setNext
  by_cases same : other = client <;> simp [same]

@[simp] theorem IoServer.previous_setNext (server : IoServer) (client other : ClientRef)
    (next : Option ClientRef)
    : (server.setNext client next).previous other = server.previous other := by
  unfold IoServer.previous IoServer.setNext
  by_cases same : other = client <;> simp [same]

@[simp] theorem IoServer.next_setPrevious (server : IoServer) (client other : ClientRef)
    (previous : Option ClientRef)
    : (server.setPrevious client previous).next other = server.next other := by
  unfold IoServer.next IoServer.setPrevious
  by_cases same : other = client <;> simp [same]

@[simp] theorem IoServer.previous_setPrevious (server : IoServer)
    (client other : ClientRef) (previous : Option ClientRef)
    : (server.setPrevious client previous).previous other
      = if other = client then previous else server.previous other := by
  unfold IoServer.previous IoServer.setPrevious
  by_cases same : other = client <;> simp [same]

@[simp] theorem IoServer.next_newIoClient (server : IoServer) (other : ClientRef)
    : server.newIoClient.next other
      = if other = server.count then none else server.next other := by
  unfold IoServer.next IoServer.newIoClient
  by_cases same : other = server.count <;> simp [same]

@[simp] theorem IoServer.previous_newIoClient (server : IoServer) (other : ClientRef)
    : server.newIoClient.previous other
      = if other = server.count then none else server.previous other := by
  unfold IoServer.previous IoServer.newIoClient
  by_cases same : other = server.count <;> simp [same]

/-- Emission along a chain reaches each of its clients once, in order.
Witness: induction over the chain, one unit of depth for each client.
-/
theorem IoServer.trivialEmitData_chain (server : IoServer) (data : String)
    {self : ClientRef} {rest : List ClientRef} {fuel : Nat}
    (chain : Segment server.next (some self) (self :: rest) none)
    (enough : rest.length < fuel)
    : server.trivialEmitData data fuel self = some ((self :: rest).map (·, data)) := by
  induction rest generalizing self fuel with
  | nil =>
      obtain ⟨fuel, rfl⟩ := Nat.exists_eq_succ_of_ne_zero (Nat.ne_of_gt enough)
      have stops : server.next self = none := chain.2
      simp [IoServer.trivialEmitData, stops]
  | cons later rest ih =>
      obtain ⟨fuel, rfl⟩ := Nat.exists_eq_succ_of_ne_zero (Nat.ne_zero_of_lt enough)
      obtain ⟨_, link, tail⟩ := chain
      have remaining : Segment server.next (some later) (later :: rest) none := ⟨rfl, tail⟩
      have shorter : rest.length < fuel := by
        simpa only [List.length_cons, Nat.succ_lt_succ_iff] using enough
      have reached := ih remaining shorter
      simp [IoServer.trivialEmitData, link, reached]

/-- Insertion along a chain links the new client behind the last one.
Witness: induction over the chain, one unit of depth for each client.
-/
theorem IoServer.insertNew_chain (server : IoServer) (anotherClient : ClientRef)
    {self last : ClientRef} {init : List ClientRef} {fuel : Nat}
    (chain : Segment server.next (some self) (init ++ [last]) none)
    (enough : init.length < fuel)
    : IoServer.insertNew anotherClient fuel server self
      = some
          ((server.setNext last (some anotherClient)).setPrevious anotherClient
            (some last)) := by
  induction init generalizing self fuel with
  | nil =>
      obtain ⟨fuel, rfl⟩ := Nat.exists_eq_succ_of_ne_zero (Nat.ne_of_gt enough)
      obtain ⟨first, stops⟩ := chain
      obtain rfl := Option.some.inj first
      have stops : server.next self = none := stops
      simp [IoServer.insertNew, stops]
  | cons head init ih =>
      obtain ⟨fuel, rfl⟩ := Nat.exists_eq_succ_of_ne_zero (Nat.ne_zero_of_lt enough)
      obtain ⟨first, tail⟩ := chain
      obtain rfl := Option.some.inj first
      have linked : ∃ later, server.next self = some later := by
        cases init with
        | nil => exact ⟨_, tail.1⟩
        | cons second init => exact ⟨_, tail.1⟩
      obtain ⟨later, link⟩ := linked
      simp only [List.length_cons, Nat.succ_lt_succ_iff] at enough
      simp only [IoServer.insertNew, link]
      exact ih (link ▸ tail) enough

/-- Serial numbers agree, connected clients hold numbers already handed out, and nobody
is connected twice.
-/
structure Tracked (state : IoServer × Roster) : Prop where
  serial : state.1.count = state.2.nextSerial
  issued : ∀ client ∈ state.2.connected, client < state.2.nextSerial
  distinct : state.2.connected.Nodup

/-- No more clients are connected than serial numbers were handed out. -/
theorem Tracked.length_le {state : IoServer × Roster} (tracked : Tracked state)
    : state.2.connected.length ≤ state.1.count := by
  have included : state.2.connected ⊆ List.range state.1.count := by
    intro client member
    rw [List.mem_range, tracked.serial]
    exact tracked.issued client member
  simpa using tracked.distinct.length_le_of_subset included

theorem IoServer.disconnect_count (server : IoServer) (client : ClientRef)
    : (server.disconnect client).count = server.count := by
  unfold IoServer.disconnect
  cases server.previous client <;> dsimp only <;> split <;> rfl

/-- Inserting a client does not touch the serial numbers. -/
theorem IoServer.insertNew_count {anotherClient : ClientRef} {fuel : Nat}
    {server inserted : IoServer} {self : ClientRef}
    (returned : IoServer.insertNew anotherClient fuel server self = some inserted)
    : inserted.count = server.count := by
  induction fuel generalizing self with
  | zero => simp [IoServer.insertNew] at returned
  | succ fuel ih =>
      unfold IoServer.insertNew at returned
      cases link : server.next self with
      | none =>
          simp only [link, Option.some.injEq] at returned
          subst returned
          rfl
      | some later => exact ih (by simpa only [link] using returned)

/-- Every event leaves the serial counter in step with the connections made. -/
theorem IoServer.handle_count (server : IoServer) (event : IoEvent)
    : (server.handle event).1.count
      = match event with
        | .connection => server.count + 1
        | _ => server.count := by
  cases event with
  | disconnect client => exact server.disconnect_count client
  | text str => rfl
  | connection =>
      simp only [IoServer.handle]
      cases returned : server.newIoClient.insertClient server.count with
      | none => rfl
      | some inserted =>
          unfold IoServer.insertClient at returned
          cases start : server.newIoClient.firstClient with
          | none =>
              simp only [start, Option.some.injEq] at returned
              subst returned
              rfl
          | some first =>
              simp only [start] at returned
              exact IoServer.insertNew_count returned

/-- The bookkeeping survives every admitted event. -/
theorem Tracked.step {state : IoServer × Roster} (tracked : Tracked state)
    (event : IoEvent) (_admitted : state.2.Admits event)
    : Tracked (relay.step state event).1 := by
  have counted := state.1.handle_count event
  cases event with
  | text str => exact ⟨tracked.serial, tracked.issued, tracked.distinct⟩
  | disconnect client =>
      refine ⟨counted.trans tracked.serial, ?_, tracked.distinct.erase client⟩
      intro other member
      exact tracked.issued other (List.mem_of_mem_erase member)
  | connection =>
      refine ⟨counted.trans (congrArg (· + 1) tracked.serial), ?_, ?_⟩
      · intro client member
        rcases List.mem_append.mp member with earlier | fresh
        · exact Nat.lt_succ_of_lt (tracked.issued client earlier)
        · rw [List.mem_singleton.mp fresh]
          exact Nat.lt_succ_self _
      · have fresh : state.2.nextSerial ∉ state.2.connected := fun member =>
          Nat.lt_irrefl _ (tracked.issued _ member)
        have appended := tracked.distinct.concat fresh
        rw [List.concat_eq_append] at appended
        exact appended

-----------------------------------------------------------------------------------------
-- Integrity of the broadcast list and its exact preservation
-----------------------------------------------------------------------------------------

/-- The list reachable from `firstClient` is the connected clients in connection order,
each once and linked both ways, and a device text is emitted once to each of them and to
nobody else.
-/
structure BroadcastIntegrity (state : IoServer × Roster) : Prop where
  linked
    : DoublyLinked state.1.next state.1.previous state.1.firstClient state.2.connected
  broadcast : ∀ str, state.1.text str = some (state.2.connected.map (·, str))

/-- An intact chain broadcasts to the connected clients: every chain of tracked clients is
short enough for the recursion to return.
-/
theorem Tracked.broadcast {state : IoServer × Roster} (tracked : Tracked state)
    (linked
      : DoublyLinked state.1.next state.1.previous state.1.firstClient
          state.2.connected)
    (str : String)
    : state.1.text str = some (state.2.connected.map (·, str)) := by
  have enough := tracked.length_le
  have forward := linked.forward
  unfold IoServer.text
  cases connected : state.2.connected with
  | nil =>
      rw [connected] at forward
      have empty : state.1.firstClient = none := forward
      simp [empty]
  | cons first rest =>
      rw [connected] at forward enough
      have start : state.1.firstClient = some first := forward.1
      rw [start] at forward ⊢
      exact state.1.trivialEmitData_chain str forward enough

/-- With the bookkeeping in place, integrity is the doubly linked list alone. -/
theorem Tracked.integrity {state : IoServer × Roster} (tracked : Tracked state)
    (linked
      : DoublyLinked state.1.next state.1.previous state.1.firstClient
          state.2.connected)
    : BroadcastIntegrity state :=
  ⟨linked, tracked.broadcast linked⟩

/-- With clients connected, a new one is linked behind the last of them. Witness: the recursion
along the chain is short enough to return.
-/
theorem IoServer.insertClient_behind {server : IoServer} {init : List ClientRef}
    {last : ClientRef}
    (linked
      : DoublyLinked server.next server.previous server.firstClient (init ++ [last]))
    (old : ∀ client ∈ init ++ [last], client ≠ server.count)
    (bound : (init ++ [last]).length ≤ server.count)
    : server.newIoClient.insertClient server.count
      = some
          ((server.newIoClient.setNext last (some server.count)).setPrevious server.count
            (some last)) := by
  have started : ∃ first, server.firstClient = some first := by
    cases init with
    | nil => exact ⟨_, linked.forward.1⟩
    | cons first init => exact ⟨_, linked.forward.1⟩
  obtain ⟨first, start⟩ := started
  have chain : Segment server.newIoClient.next (some first) (init ++ [last]) none := by
    rw [← start]
    refine linked.forward.congr (fun client member => ?_)
    rw [IoServer.next_newIoClient, if_neg (old client member)]
  have first' : server.newIoClient.firstClient = some first := start
  rw [IoServer.insertClient, first']
  refine server.newIoClient.insertNew_chain server.count chain ?_
  simp only [List.length_append, List.length_singleton] at bound
  change init.length < server.count + 1
  omega

/-- A connection keeps integrity: the new client has a fresh serial number and is linked
behind the last one.
-/
theorem BroadcastIntegrity.connection {state : IoServer × Roster}
    (integrity : BroadcastIntegrity state) (tracked : Tracked state)
    : BroadcastIntegrity (relay.step state .connection).1 := by
  apply (tracked.step .connection trivial).integrity
  obtain ⟨server, connected, nextSerial⟩ := state
  have serial : server.count = nextSerial := tracked.serial
  subst serial
  have linked := integrity.linked
  have bound := tracked.length_le
  have absent : server.count ∉ connected := by
    intro member
    exact Nat.lt_irrefl _ (tracked.issued _ member)
  have old {client} (member : client ∈ connected) : client ≠ server.count := by
    rintro rfl
    exact absent member
  cases connected using List.reverseRecOn with
  | nil =>
      have empty : server.firstClient = none := doublyLinked_nil.mp linked
      have inserted : server.newIoClient.insertClient server.count
          = some { server.newIoClient with firstClient := some server.count } := by
        simp [IoServer.insertClient, IoServer.newIoClient, empty]
      simp only [relay, IoServer.handle, inserted, Roster.record, List.nil_append]
      refine doublyLinked_singleton.mpr ⟨rfl, ?_, ?_⟩
      · exact (server.next_newIoClient server.count).trans (if_pos rfl)
      · exact (server.previous_newIoClient server.count).trans (if_pos rfl)
  | append_singleton init last =>
      have inserted := IoServer.insertClient_behind linked (fun _ member => old member) bound
      simp only [relay, IoServer.handle, inserted, Roster.record]
      refine linked.append absent ?_ ?_ ?_ ?_ ?_
      · intro client member
        have apart : client ≠ last :=
          (List.nodup_append.mp linked.distinct).2.2 client member last (by simp)
        simp [apart, old (List.mem_append_left _ member)]
      · intro client member
        simp [old member]
      · simp
      · simp
      · have apart : server.count ≠ last := (old (by simp)).symm
        simp [apart]

/-- The first client's disconnection keeps integrity: both the old head's link and the
`undefined` written to its successor are right.
-/
theorem BroadcastIntegrity.disconnect_first {server : IoServer} {client : ClientRef}
    {rest : List ClientRef}
    (linked : DoublyLinked server.next server.previous server.firstClient (client :: rest))
    : DoublyLinked (server.disconnect client).next (server.disconnect client).previous
        (server.disconnect client).firstClient rest := by
  have head : server.previous client = none := linked.backward.1
  cases rest with
  | nil =>
      have stops : server.next client = none := linked.forward.2
      have still : ({ server with firstClient := none } : IoServer).next client = none := stops
      have removed : server.disconnect client = { server with firstClient := none } := by
        simp only [IoServer.disconnect, head, stops, still]
      rw [removed]
      exact doublyLinked_nil.mpr rfl
  | cons second rest =>
      have link : server.next client = some second := linked.forward.2.1
      have still : ({ server with firstClient := some second } : IoServer).next client
          = some second :=
        link
      have removed : server.disconnect client
          = ({ server with firstClient := some second } : IoServer).setPrevious second
              socketPreviousClient := by
        simp only [IoServer.disconnect, head, link, still]
      have distinct := (List.nodup_cons.mp linked.distinct).2
      rw [removed]
      have start : (({ server with firstClient := some second } : IoServer).setPrevious
          second socketPreviousClient).firstClient = server.next client := link.symm
      rw [start]
      refine linked.remove_first ?_ ?_ ?_
      · intro later _
        exact IoServer.next_setPrevious _ _ _ _
      · intro later member
        have apart : later ≠ second := by
          rintro rfl
          exact (List.nodup_cons.mp distinct).1 member
        rw [IoServer.previous_setPrevious, if_neg apart]
        rfl
      · intro later member
        obtain rfl : second = later := Option.some.inj member
        rw [IoServer.previous_setPrevious, if_pos rfl]
        rfl

/-- The last client's disconnection keeps integrity: it only cuts the link to it. -/
theorem BroadcastIntegrity.disconnect_last {server : IoServer} {last client : ClientRef}
    {init : List ClientRef}
    (linked
      : DoublyLinked server.next server.previous server.firstClient
          (init ++ [last] ++ [client]))
    : DoublyLinked (server.disconnect client).next (server.disconnect client).previous
        (server.disconnect client).firstClient (init ++ [last]) := by
  have behind : server.previous client = some last := by
    have backward := (backLinked_append.mp linked.backward).2
    simpa [BackLinked] using backward
  have stops : server.next client = none := (segment_concat.mp linked.forward).2
  obtain ⟨distinct, _, apart⟩ := List.nodup_append.mp linked.distinct
  have differs : last ≠ client := apart last (by simp) client (by simp)
  have removed : server.disconnect client = server.setNext last none := by
    simp [IoServer.disconnect, behind, stops, differs.symm]
  rw [removed]
  refine linked.remove_last ?_ ?_ ?_
  · intro earlier member
    have other : earlier ≠ last :=
      (List.nodup_append.mp distinct).2.2 earlier member last (by simp)
    simp [other]
  · intro earlier _
    simp
  · simp

/-- A disconnection between two clients leaves the later one looking back at nothing,
where integrity wants the earlier one.
-/
theorem BroadcastIntegrity.disconnect_between {server : IoServer}
    {last client second : ClientRef} {init rest : List ClientRef}
    (linked
      : DoublyLinked server.next server.previous server.firstClient
          (init ++ [last] ++ client :: second :: rest))
    : ¬ DoublyLinked (server.disconnect client).next (server.disconnect client).previous
          (server.disconnect client).firstClient (init ++ [last] ++ second :: rest) := by
  intro after
  have behind : server.previous client = some last := by
    have backward := (backLinked_append.mp linked.backward).2
    simpa using backward.1
  obtain ⟨_, _, tail⟩ := segment_append.mp linked.forward
  have link : server.next client = some second := tail.2.1
  have differs : last ≠ client :=
    (List.nodup_append.mp linked.distinct).2.2 last (by simp) client (by simp)
  have erased : (server.disconnect client).previous second = none := by
    simp [IoServer.disconnect, behind, link, differs.symm, socketPreviousClient]
  have wanted : (server.disconnect client).previous second = some last := by
    have backward := (backLinked_append.mp after.backward).2
    simpa using backward.1
  rw [erased] at wanted
  cases wanted

/-- A disconnection keeps integrity exactly when the leaving client is at one end.
Witness: the connected clients split around the leaving one; each of the four shapes
is one of the results above.
-/
theorem BroadcastIntegrity.disconnect_iff {state : IoServer × Roster}
    (integrity : BroadcastIntegrity state) (tracked : Tracked state) {client : ClientRef}
    (member : client ∈ state.2.connected)
    : BroadcastIntegrity (relay.step state (.disconnect client)).1
      ↔ state.2.AtEnd (.disconnect client) := by
  have next := tracked.step (.disconnect client) member
  obtain ⟨server, connected, nextSerial⟩ := state
  have linked := integrity.linked
  have distinct := tracked.distinct
  obtain ⟨before, after, rfl⟩ := List.append_of_mem member
  have ahead : client ∉ before := by
    intro earlier
    exact (List.nodup_append.mp distinct).2.2 client earlier client (by simp) rfl
  have remaining : (before ++ client :: after).erase client = before ++ after := by
    rw [List.erase_append_right _ ahead, List.erase_cons_head]
  have reduced : BroadcastIntegrity
        (relay.step (server, ⟨before ++ client :: after, nextSerial⟩)
          (.disconnect client)).1
      ↔ DoublyLinked (server.disconnect client).next (server.disconnect client).previous
          (server.disconnect client).firstClient (before ++ after) := by
    rw [← remaining]
    exact ⟨fun holds => holds.linked, fun holds => next.integrity holds⟩
  rw [reduced]
  cases before using List.reverseRecOn with
  | nil =>
      exact iff_of_true (BroadcastIntegrity.disconnect_first linked) (Or.inl rfl)
  | append_singleton init last =>
      cases after with
      | nil =>
          rw [List.append_nil]
          exact iff_of_true (BroadcastIntegrity.disconnect_last linked)
            (Or.inr (by simp))
      | cons second rest =>
          refine iff_of_false (BroadcastIntegrity.disconnect_between linked) ?_
          rintro (first | latest)
          · have earliest : client ∈ init ++ [last] := by
              apply List.mem_of_mem_head?
              simpa [List.head?_append] using first
            exact ahead earliest
          · have later : client ∈ second :: rest := by
              apply List.mem_of_getLast?
              simpa [List.getLast?_append, List.getLast?_cons] using latest
            have separate := (List.nodup_append.mp distinct).2.1
            exact (List.nodup_cons.mp separate).1 later

theorem relayStart_integrity : Tracked relayStart ∧ BroadcastIntegrity relayStart := by
  have tracked : Tracked relayStart :=
    ⟨rfl, fun _ member => absurd member List.not_mem_nil, List.nodup_nil⟩
  exact ⟨tracked, tracked.integrity (doublyLinked_nil.mpr rfl)⟩

/-- Over a sequence of events in which clients disconnect only while connected, the list
is intact after every event exactly when no client disconnects between two others.
Witness: connections and texts always keep integrity, a disconnection exactly at an end.
-/
theorem broadcastIntegrity_throughout_iff (events : List IoEvent)
    (admitted
      : relay.Always (fun state event => state.2.Admits event) relayStart events)
    : relay.Throughout BroadcastIntegrity relayStart events
      ↔ relay.Always (fun state event => state.2.AtEnd event) relayStart events := by
  refine admitted.throughout_iff Tracked relayStart_integrity.1
    relayStart_integrity.2 (fun _ event tracked fits => tracked.step event fits) ?_
  intro state event tracked integrity fits
  cases event with
  | connection => exact iff_of_true (integrity.connection tracked) trivial
  | disconnect client => exact integrity.disconnect_iff tracked fits
  | text str => exact iff_of_true ⟨integrity.linked, integrity.broadcast⟩ trivial

/-- Four clients come, and leave from either end. -/
theorem broadcastIntegrity_throughout_ends
    : relay.Throughout BroadcastIntegrity relayStart
        [.connection, .connection, .connection, .disconnect 1, .connection, .disconnect 4,
          .text "dist", .disconnect 2] :=
  (broadcastIntegrity_throughout_iff _ (by decide +kernel)).mpr (by decide +kernel)

/-- Three clients come and the middle one leaves, then the last: the first client is
still connected and no text reaches it.
-/
theorem broadcastIntegrity_fails_after_middle
    : let events : List IoEvent :=
        [.connection, .connection, .connection, .disconnect 2, .disconnect 3]
      relay.Always (fun state event => state.2.Admits event) relayStart events
      ∧ (relay.run relayStart events).2.connected = [1]
      ∧ (relay.run relayStart events).1.text "dist" = some []
      ∧ ¬ relay.Throughout BroadcastIntegrity relayStart events := by
  refine ⟨by decide +kernel, by decide +kernel, by decide +kernel, ?_⟩
  intro every
  have broadcast := (every _ (List.prefix_refl _)).broadcast "dist"
  revert broadcast
  decide +kernel

end Cooboc.Server
