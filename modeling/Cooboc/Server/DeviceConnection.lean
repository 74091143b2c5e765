import Cooboc.Foundations.Machine

/-! Device connections of `server/index.js`: the handler of `ws.createServer` and the global
`serverConnection`, through which the "control" messages of the browsers go out.
-/

namespace Cooboc.Server

open Cooboc.Foundations

/-- A connection object of a device. -/
abbrev ConnRef := Nat

/-- The global `serverConnection`; `none` is `undefined`. -/
structure DeviceServer where
  serverConnection : Option ConnRef
deriving DecidableEq

/-- The script's global before any device connects. -/
def DeviceServer.initial : DeviceServer := ⟨none⟩

/-- What the handlers react to: a device connection opens or closes, or a browser sends a
"control" message.
-/
inductive DeviceEvent where
  | opened (conn : ConnRef)
  | closed (conn : ConnRef)
  | control (message : String)
deriving DecidableEq

/-- One event, with the texts it sends and the connections it sends them on. -/
def DeviceServer.handle (server : DeviceServer)
    : DeviceEvent → DeviceServer × List (ConnRef × String)
  | .opened conn => ({ serverConnection := some conn }, [(conn, "hello wld")])
  | .closed _ => ({ serverConnection := none }, [])
  | .control message =>
      (
        server,
        match server.serverConnection with
        | none => []
        | some conn => [(conn, message)]
      )

-----------------------------------------------------------------------------------------
-- The live connections, as the events alone determine them
-----------------------------------------------------------------------------------------

/-- The connections that are open after the event. -/
def recordLive (live : List ConnRef) : DeviceEvent → List ConnRef
  | .opened conn => conn :: live
  | .closed conn => live.erase conn
  | .control _ => live

/-- A connection opens while it is not open, and closes only while it is. -/
def AdmitsDevice (live : List ConnRef) : DeviceEvent → Prop
  | .opened conn => conn ∉ live
  | .closed conn => conn ∈ live
  | .control _ => True

/-- A connection closes while no other one is open. -/
def ClosesLast (live : List ConnRef) : DeviceEvent → Prop
  | .closed conn => ∀ other ∈ live, other = conn
  | _ => True

instance decidableAdmitsDevice (live : List ConnRef)
    : (event : DeviceEvent) → Decidable (AdmitsDevice live event)
  | .opened conn => inferInstanceAs (Decidable (conn ∉ live))
  | .closed conn => inferInstanceAs (Decidable (conn ∈ live))
  | .control _ => inferInstanceAs (Decidable True)

instance decidableClosesLast (live : List ConnRef)
    : (event : DeviceEvent) → Decidable (ClosesLast live event)
  | .opened _ => inferInstanceAs (Decidable True)
  | .closed conn => inferInstanceAs (Decidable (∀ other ∈ live, other = conn))
  | .control _ => inferInstanceAs (Decidable True)

/-- The script beside the bookkeeping of which connections are open. -/
def deviceRelay
    : Machine (DeviceServer × List ConnRef) DeviceEvent (List (ConnRef × String)) where
  step state event :=
    let (server, sent) := state.1.handle event
    ((server, recordLive state.2 event), sent)

/-- The relay before any event. -/
def deviceStart : DeviceServer × List ConnRef := (DeviceServer.initial, [])

/-- The global is an open connection if there is any, and undefined if there is none; a
control message goes out on an open connection whenever there is one, and nowhere else.
-/
structure HoldsLive (state : DeviceServer × List ConnRef) : Prop where
  defined : ∀ conn, state.1.serverConnection = some conn → conn ∈ state.2
  undefined : state.1.serverConnection = none → state.2 = []
  forwards
    : ∀ message,
        (state.2 = [] ∧ (deviceRelay.step state (.control message)).2 = [])
        ∨ ∃ conn ∈ state.2,
            (deviceRelay.step state (.control message)).2 = [(conn, message)]

/-- Where the global is sound, so is the forwarding. -/
theorem holdsLive_of_connection {state : DeviceServer × List ConnRef}
    (defined : ∀ conn, state.1.serverConnection = some conn → conn ∈ state.2)
    (undefined : state.1.serverConnection = none → state.2 = [])
    : HoldsLive state := by
  refine ⟨defined, undefined, fun message => ?_⟩
  cases connection : state.1.serverConnection with
  | none =>
      refine .inl ⟨undefined connection, ?_⟩
      simp only [deviceRelay, DeviceServer.handle, connection]
  | some conn =>
      refine .inr ⟨conn, defined conn connection, ?_⟩
      simp only [deviceRelay, DeviceServer.handle, connection]

theorem deviceStart_holds : HoldsLive deviceStart :=
  holdsLive_of_connection (fun _ held => by cases held) (fun _ => rfl)

theorem recordLive_nodup {live : List ConnRef} (nodup : live.Nodup) {event : DeviceEvent}
    (admits : AdmitsDevice live event)
    : (recordLive live event).Nodup := by
  cases event with
  | opened conn => exact List.nodup_cons.mpr ⟨admits, nodup⟩
  | closed conn => exact nodup.erase conn
  | control message => exact nodup

/-- Closing a connection leaves none open exactly if it was the only one. -/
theorem erase_eq_nil_iff {live : List ConnRef} (nodup : live.Nodup) (conn : ConnRef)
    : live.erase conn = [] ↔ ∀ other ∈ live, other = conn := by
  constructor
  · intro empty other present
    by_contra different
    have kept : other ∈ live.erase conn := (List.mem_erase_of_ne different).mpr present
    rw [empty] at kept
    cases kept
  · intro only
    rw [nodup.erase_eq_filter conn]
    apply List.filter_eq_nil_iff.mpr
    intro other present
    simp [only other present]

/-- An event from a sound state ends in a sound state exactly if no connection closes
while another one is open. Witness: opening always sets the global, and closing always
clears it.
-/
theorem HoldsLive.step_iff {state : DeviceServer × List ConnRef} (holds : HoldsLive state)
    (nodup : state.2.Nodup) {event : DeviceEvent} (admits : AdmitsDevice state.2 event)
    : HoldsLive (deviceRelay.step state event).1 ↔ ClosesLast state.2 event := by
  cases event with
  | opened conn =>
      refine ⟨fun _ => trivial, fun _ => holdsLive_of_connection ?_ ?_⟩
      · rintro _ ⟨⟩
        exact List.mem_cons_self
      · rintro ⟨⟩
  | closed conn =>
      have left := erase_eq_nil_iff nodup conn
      constructor
      · intro after
        exact left.mp (after.undefined rfl)
      · intro alone
        refine holdsLive_of_connection ?_ (fun _ => left.mpr alone)
        rintro _ ⟨⟩
  | control message =>
      refine ⟨fun _ => trivial, fun _ => ?_⟩
      exact holdsLive_of_connection holds.defined holds.undefined

/-- For every sequence of device connections opening and closing, the script holds a live
connection throughout, and forwards control messages to it, exactly if no connection closes
while another one is open. Witness: the step lemma, by induction over the events.
-/
theorem holdsLive_throughout_iff (events : List DeviceEvent)
    (admitted
      : deviceRelay.Always (fun state event => AdmitsDevice state.2 event) deviceStart events)
    : deviceRelay.Throughout HoldsLive deviceStart events
      ↔ deviceRelay.Always (fun state event => ClosesLast state.2 event) deviceStart
          events :=
  admitted.throughout_iff (fun state => state.2.Nodup) List.nodup_nil deviceStart_holds
    (fun _ _ nodup admits => recordLive_nodup nodup admits)
    (fun _ _ nodup holds admits => holds.step_iff nodup admits)

/-- Two devices that connect one after the other, and a browser's message for the second. -/
theorem holdsLive_throughout_successive
    : deviceRelay.Throughout HoldsLive deviceStart
        [.opened 1, .closed 1, .opened 2, .control "up"] :=
  (holdsLive_throughout_iff _ (by decide)).mpr (by decide)

/-- A device reconnects before its old connection is reported closed: the global is cleared
although the new connection is open.
-/
theorem holdsLive_fails
    : ¬ deviceRelay.Throughout HoldsLive deviceStart [.opened 1, .opened 2, .closed 1] := by
  intro throughout
  have final := throughout _ (List.prefix_refl _)
  exact absurd (final.undefined rfl) (by decide)

end Cooboc.Server
