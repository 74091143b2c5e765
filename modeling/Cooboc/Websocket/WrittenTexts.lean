import Cooboc.Foundations.Replay
import Cooboc.Websocket.WsHandler

/-! The texts that a handler writes to its connections. `sendText` leaves its text in the buffer
and asks for a callback; whoever serves the library next, the loop or the daemon's thread, has
`doSendText` write what the buffer holds then.
-/

namespace Cooboc.Websocket

open Cooboc.Foundations

variable {H : Type*} [DecidableEq H]

/-- What `doSendText` writes for a handler when a callback is issued. -/
def WsWorld.writes (world : WsWorld H) (h : H) (ctx : Context) (callback : LwsCallback)
    : List (List UInt8) :=
  if world.map.lookupHandler (some ctx) = some h ∧ callback.reason = .clientWriteable then
    [(world.handlers h).mSendText]
  else
    []

/-- What is written for a handler while callbacks are issued one after the other. -/
def WsWorld.writesAll (world : WsWorld H) (h : H) (ctx : Context)
    : List LwsCallback → List (List UInt8)
  | [] => []
  | callback :: rest =>
      world.writes h ctx callback ++ (world.issue ctx callback).writesAll h ctx rest

/-- What is written for a handler in a `libwebsocket_service`. -/
def WsWorld.writesService (world : WsWorld H) (h : H) (ctx : Option Context)
    (service : Service)
    : List (List UInt8) :=
  match ctx with
  | none => []
  | some ctx => world.writesAll h ctx service.callbacks

/-- The world in which the service of `connectServer` runs. -/
def WsWorld.connecting (world : WsWorld H) (h : H) (connect : ClientConnect) : WsWorld H :=
  let ctx := world.contexts
  let world := (world.createContext h).issueAll ctx connect.callbacks
  let world := world.update h (fun handler => { handler with mWsi := some ctx })
  world.update h (fun handler => { handler with mWsStatus := .connecting })

/-- The world in which the `touchServer` of `sendText` runs. -/
def WsWorld.sending (world : WsWorld H) (h : H) (text : List UInt8) : WsWorld H :=
  let world := world.update h (fun handler => { handler with mSendText := text })
  world.use (world.handlers h).mWsi

/-- What is written for a handler in a call. -/
def WsWorld.writesCall (world : WsWorld H) (h : H) : WsCall H → List (List UInt8)
  | .connectServer caller connect service =>
      (world.createContext caller).writesAll h world.contexts connect.callbacks
        ++ if connect.connected then
            let connecting := world.connecting caller connect
            connecting.writesService h (connecting.handlers caller).mWsContext service
          else
            []
  | .touchServer caller service =>
      world.writesService h (world.handlers caller).mWsContext service
  | .sendText caller text service =>
      if (world.handlers caller).mIsGood then
        let sending := world.sending caller text
        sending.writesService h (sending.handlers caller).mWsContext service
      else
        []

/-- The text that a handler takes in a call. -/
def WsWorld.accepts (world : WsWorld H) (h : H) : WsCall H → Option (List UInt8)
  | .sendText caller text _ =>
      if caller = h ∧ (world.handlers h).mIsGood = true then some text else none
  | _ => none

/-- What a call does with texts of a handler. -/
structure TextsOfCall where
  accepted : Option (List UInt8)
  written : List (List UInt8)
deriving DecidableEq

/-- The handlers under any calls, with what they do with the texts of one of them. -/
def handlerTexts (h : H) : Machine (WsWorld H) (WsCall H) TextsOfCall where
  step world call :=
    ((websockets.step world call).1, ⟨world.accepts h call, world.writesCall h call⟩)

/-- The texts that were written for a handler. -/
def writtenTexts (trace : List TextsOfCall) : List (List UInt8) :=
  trace.flatMap TextsOfCall.written

-----------------------------------------------------------------------------------------
-- The buffer
-----------------------------------------------------------------------------------------

/-- (world.SameText h next) says that the handler's buffer is left alone. -/
def WsWorld.SameText (world : WsWorld H) (h : H) (next : WsWorld H) : Prop :=
  (next.handlers h).mSendText = (world.handlers h).mSendText

omit [DecidableEq H] in
theorem WsWorld.SameText.trans {world next last : WsWorld H} {h : H}
    (first : world.SameText h next) (second : next.SameText h last)
    : world.SameText h last :=
  Eq.trans second first

end Cooboc.Websocket
