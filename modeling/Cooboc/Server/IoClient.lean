import Mathlib.Logic.Function.Basic
import Cooboc.Foundations.Machine

/-! Browser clients of `server/index.js`: the linked list of `IoClient` objects, its
insertion and removal, and the relay of device texts along it.
-/

namespace Cooboc.Server

open Cooboc.Foundations

/-- A client object is named by the serial number its constructor takes from the global
`count`, which is never handed out twice.
-/
abbrev ClientRef := Nat

/-- The fields of an `IoClient` object; `none` is JavaScript's `undefined`. -/
structure IoClient where
  previousClient : Option ClientRef
  nextClient : Option ClientRef
  count : Nat
deriving DecidableEq

/-- The objects constructed so far and the globals `firstClient` and `count`. -/
structure IoServer where
  clients : ClientRef → IoClient
  firstClient : Option ClientRef
  count : Nat

/-- The script's globals before any browser connects. -/
def IoServer.initial : IoServer where
  clients _ := ⟨none, none, 0⟩
  firstClient := none
  count := 1

/-- The link followed by `nextClient`. -/
def IoServer.next (server : IoServer) (client : ClientRef) : Option ClientRef :=
  (server.clients client).nextClient

/-- The link followed by `previousClient`. -/
def IoServer.previous (server : IoServer) (client : ClientRef) : Option ClientRef :=
  (server.clients client).previousClient

/-- Assignment to one object's `nextClient`. -/
def IoServer.setNext (server : IoServer) (client : ClientRef) (next : Option ClientRef)
    : IoServer :=
  { server with
    clients :=
      Function.update server.clients client
        { server.clients client with nextClient := next } }

/-- Assignment to one object's `previousClient`. -/
def IoServer.setPrevious (server : IoServer) (client : ClientRef)
    (previous : Option ClientRef)
    : IoServer :=
  { server with
    clients :=
      Function.update server.clients client
        { server.clients client with previousClient := previous } }

/-- `new IoClient(socket)` takes the next serial number and starts unlinked. -/
def IoServer.newIoClient (server : IoServer) : IoServer :=
  { server with
    clients := Function.update server.clients server.count ⟨none, none, server.count⟩
    count := server.count + 1 }

/-- `self.insertNew(anotherClient)` recurses along `nextClient` to the last client. The
first argument bounds the recursion; `none` is a call that exhausts it.
-/
def IoServer.insertNew (anotherClient : ClientRef)
    : Nat → IoServer → ClientRef → Option IoServer
  | 0, _, _ => none
  | fuel + 1, server, self =>
      match server.next self with
      | none =>
          some
            ((server.setNext self (some anotherClient)).setPrevious anotherClient
              (some self))
      | some next => insertNew anotherClient fuel server next

/-- `self.trivialEmitData(data)` emits on its own socket, then recurses along
`nextClient`. An emission is recorded with the client owning the socket.
-/
def IoServer.trivialEmitData (data : String)
    : Nat → IoServer → ClientRef → Option (List (ClientRef × String))
  | 0, _, _ => none
  | fuel + 1, server, self =>
      match server.next self with
      | none => some [(self, data)]
      | some next => (trivialEmitData data fuel server next).map ((self, data) :: ·)

/-- `trivialClient()` logs the serial numbers along the list, from `currentClient`. -/
def IoServer.trivialClient : Nat → IoServer → Option ClientRef → Option (List Nat)
  | _, _, none => some []
  | 0, _, some _ => none
  | fuel + 1, server, some currentClient =>
      (trivialClient fuel server (server.next currentClient)).map
        ((server.clients currentClient).count :: ·)

/-- What `this.previousClient` reads in the disconnect handler: `this` is the socket,
which has no such field.
-/
def socketPreviousClient : Option ClientRef := none

-----------------------------------------------------------------------------------------
-- Event handlers
-----------------------------------------------------------------------------------------

/-- The handler of a socket's "disconnect" event. Both branches read the neighbour's new
`previousClient` from `this`, not from `self`.
-/
def IoServer.disconnect (server : IoServer) (self : ClientRef) : IoServer :=
  match server.previous self with
  | none =>
      let server := { server with firstClient := server.next self }
      match server.next self with
      | none => server
      | some next => server.setPrevious next socketPreviousClient
  | some previous =>
      let server := server.setNext previous (server.next self)
      match server.next self with
      | none => server
      | some next => server.setPrevious next socketPreviousClient

/-- A recursion through more clients than were ever constructed has met one twice and
does not end.
-/
def IoServer.depth (server : IoServer) : Nat := server.count

/-- The insertion done by the "connection" handler, once the client is constructed. -/
def IoServer.insertClient (server : IoServer) (client : ClientRef) : Option IoServer :=
  match server.firstClient with
  | none => some { server with firstClient := some client }
  | some first => server.insertNew client server.depth first

/-- The handler of a device connection's "text" event. -/
def IoServer.text (server : IoServer) (str : String)
    : Option (List (ClientRef × String)) :=
  match server.firstClient with
  | none => some []
  | some first => server.trivialEmitData str server.depth first

/-- Events that reach the browser side of the script. -/
inductive IoEvent where
  | connection
  | disconnect (client : ClientRef)
  | text (str : String)
deriving DecidableEq

/-- What a handler logs and emits before it returns. -/
structure Reply where
  logged : List Nat
  emitted : List (ClientRef × String)
deriving DecidableEq

/-- One event handled to its end; a reply of `none` is a handler that never returns. -/
def IoServer.handle (server : IoServer) : IoEvent → IoServer × Option Reply
  | .connection =>
      let client := server.count
      match server.newIoClient.insertClient client with
      | none => (server.newIoClient, none)
      | some inserted =>
          (
            inserted,
            (inserted.trivialClient inserted.depth inserted.firstClient).map (⟨·, []⟩)
          )
  | .disconnect client => (server.disconnect client, some ⟨[], []⟩)
  | .text str => (server, (server.text str).map (⟨[], ·⟩))

-----------------------------------------------------------------------------------------
-- The connected clients, as the events alone determine them
-----------------------------------------------------------------------------------------

/-- Connected clients in connection order, and the next serial number. -/
structure Roster where
  connected : List ClientRef
  nextSerial : Nat
deriving DecidableEq

/-- Nobody is connected and serial numbers start at one. -/
def Roster.initial : Roster := ⟨[], 1⟩

/-- Connections join at the end; a disconnection removes its own client. -/
def Roster.record (roster : Roster) : IoEvent → Roster
  | .connection => ⟨roster.connected ++ [roster.nextSerial], roster.nextSerial + 1⟩
  | .disconnect client => { roster with connected := roster.connected.erase client }
  | .text _ => roster

/-- A client disconnects only while connected, hence at most once. -/
def Roster.Admits (roster : Roster) : IoEvent → Prop
  | .disconnect client => client ∈ roster.connected
  | _ => True

/-- A disconnection at one end of the list: the earliest or the latest connected
client leaves.
-/
def Roster.AtEnd (roster : Roster) : IoEvent → Prop
  | .disconnect client =>
      roster.connected.head? = some client ∨ roster.connected.getLast? = some client
  | _ => True

instance (roster : Roster) : (event : IoEvent) → Decidable (roster.Admits event)
  | .connection => inferInstanceAs (Decidable True)
  | .disconnect client => inferInstanceAs (Decidable (client ∈ roster.connected))
  | .text _ => inferInstanceAs (Decidable True)

instance (roster : Roster) : (event : IoEvent) → Decidable (roster.AtEnd event)
  | .connection => inferInstanceAs (Decidable True)
  | .disconnect client =>
      inferInstanceAs (Decidable (roster.connected.head? = some client
        ∨ roster.connected.getLast? = some client))
  | .text _ => inferInstanceAs (Decidable True)

/-- The script beside the bookkeeping of who is connected. -/
def relay : Machine (IoServer × Roster) IoEvent (Option Reply) where
  step state event :=
    let (server, reply) := state.1.handle event
    ((server, state.2.record event), reply)

/-- The relay before any event. -/
def relayStart : IoServer × Roster := (IoServer.initial, Roster.initial)

end Cooboc.Server
