import Cooboc.Foundations.Machine
import Cooboc.Websocket.HandlerMap

/-! The websocket handler of `websocket_handler.cpp` over the calls it makes to the library.
What the library does is an input of each call: the callbacks that it issues meanwhile, and
the results that it returns.
-/

namespace Cooboc.Websocket

open Cooboc.Foundations

/-- The `WS_STATUS_*` constants. -/
inductive WsStatus where
  | disconnect
  | connected
  | connecting
deriving DecidableEq

/-- The members of `WsHandler`. A connection (`wsi`) is named by the context it was made in.
`mSendText` is the text of `mSendLength` bytes behind the padding of `mWsBuffer`, and
`mReceivedMessage` the memory from the start of the buffer on.
-/
structure WsHandler where
  mIsGood : Bool
  mWsStatus : WsStatus
  mWsContext : Option Context
  mWsi : Option Context
  mSendText : List UInt8
  mReceivedMessage : Nat → UInt8
  mHasNewMessage : Bool

/-- The constructor. The context and the connection are left uninitialised: nothing that the
library returned. `mReceivedMessage` is the memory it finds.
-/
def WsHandler.new (memory : Nat → UInt8) : WsHandler where
  mIsGood := false
  mWsStatus := .disconnect
  mWsContext := none
  mWsi := none
  mSendText := []
  mReceivedMessage := memory
  mHasNewMessage := false

/-- The library's `strncpy`: the source up to its first zero byte, filled up with zeros. -/
def strncpy (destination : Nat → UInt8) (source : List UInt8) (count : Nat) : Nat → UInt8 :=
  fun i =>
    if i < count then
      ((source.take count).takeWhile (fun byte => decide (byte ≠ 0))).getD i 0
    else
      destination i

def WsHandler.onMessageReceived (handler : WsHandler) (data : List UInt8) : WsHandler :=
  { handler with
    mReceivedMessage :=
      Function.update (strncpy handler.mReceivedMessage data data.length) data.length 0
    mHasNewMessage := true }

/-- `getReceivedMessage` returns the buffer itself, not a copy; it clears the flag. -/
def WsHandler.getReceivedMessage (handler : WsHandler) : WsHandler :=
  { handler with mHasNewMessage := false }

-----------------------------------------------------------------------------------------
-- The library
-----------------------------------------------------------------------------------------

/-- The callback reasons that `plainProtocolCallback` names, and any other. -/
inductive CallbackReason where
  | clientEstablished
  | closed
  | clientWriteable
  | clientReceive
  | established
  | clientConnectionError
  | clientFilterPreEstablish
  | closedHttp
  | receive
  | clientReceivePong
  | serverWriteable
  | http
  | httpBody
  | httpBodyCompletion
  | httpFileCompletion
  | httpWriteable
  | filterNetworkConnection
  | filterHttpConnection
  | serverNewClientInstantiated
  | filterProtocolConnection
  | opensslLoadExtraClientVerifyCerts
  | opensslLoadExtraServerVerifyCerts
  | opensslPerformClientCertVerification
  | clientAppendHandshakeHeader
  | confirmExtensionOkay
  | clientConfirmExtensionSupported
  | protocolInit
  | protocolDestroy
  | wsiCreate
  | wsiDestroy
  | getThreadId
  | addPollFd
  | delPollFd
  | changeModePollFd
  | lockPoll
  | unlockPoll
  | opensslContextRequiresPrivateKey
  | user
  | other
deriving DecidableEq

/-- One callback: its reason, and the bytes at `in`. -/
structure LwsCallback where
  reason : CallbackReason
  input : List UInt8 := []
deriving DecidableEq

/-- What one `libwebsocket_client_connect` does: the callbacks that it issues, and whether
it returns a connection.
-/
structure ClientConnect where
  callbacks : List LwsCallback
  connected : Bool
deriving DecidableEq

/-- What one `libwebsocket_service` does: the callbacks that it issues, and its result. -/
structure Service where
  callbacks : List LwsCallback
  result : Int
deriving DecidableEq

/-- The program's handlers and their map, over the state of the library: the number of
contexts created, which connections are alive, and, for every use of a connection so far,
whether it was alive then.
-/
structure WsWorld (H : Type*) where
  map : HandlerMap H
  handlers : H → WsHandler
  contexts : Nat
  live : Context → Bool
  uses : List Bool

variable {H : Type*} [DecidableEq H]

/-- The program with handlers as constructed. -/
def WsWorld.initial (memory : H → Nat → UInt8) : WsWorld H where
  map := HandlerMap.initial
  handlers h := WsHandler.new (memory h)
  contexts := 0
  live _ := false
  uses := []

/-- Assignments to members of one handler. -/
def WsWorld.update (world : WsWorld H) (h : H) (change : WsHandler → WsHandler) : WsWorld H :=
  { world with handlers := Function.update world.handlers h (change (world.handlers h)) }

/-- Whether a connection is alive; no null or uninitialised pointer is. -/
def WsWorld.isLive (world : WsWorld H) : Option Context → Bool
  | none => false
  | some wsi => world.live wsi

/-- A library call on a connection. -/
def WsWorld.use (world : WsWorld H) (wsi : Option Context) : WsWorld H :=
  { world with uses := world.uses ++ [world.isLive wsi] }

/-- The end of a connection. -/
def WsWorld.kill (world : WsWorld H) (wsi : Context) : WsWorld H :=
  { world with live := Function.update world.live wsi false }

/-- `removeHandler` on the shared map. -/
def WsWorld.removeHandler (world : WsWorld H) (ctx : Option Context) : WsWorld H :=
  { world with map := world.map.removeHandler ctx }

section

variable (world : WsWorld H) (h : H) (change : WsHandler → WsHandler)

@[simp] theorem WsWorld.update_self
    : (world.update h change).handlers h = change (world.handlers h) :=
  Function.update_self ..

@[simp] theorem WsWorld.update_other {other : H} (different : other ≠ h)
    : (world.update h change).handlers other = world.handlers other :=
  Function.update_of_ne different ..

@[simp] theorem WsWorld.update_map : (world.update h change).map = world.map := rfl

@[simp] theorem WsWorld.update_contexts
    : (world.update h change).contexts = world.contexts :=
  rfl

@[simp] theorem WsWorld.update_live : (world.update h change).live = world.live := rfl

@[simp] theorem WsWorld.update_uses : (world.update h change).uses = world.uses := rfl

end

def WsWorld.setWsStatus (world : WsWorld H) (h : H) (status : WsStatus) : WsWorld H :=
  let world := world.update h (fun handler => { handler with mWsStatus := status })
  match status with
  | .disconnect =>
      (world.update h (fun handler => { handler with mIsGood := false })).removeHandler
        (world.handlers h).mWsContext
  | .connected => world.update h (fun handler => { handler with mIsGood := true })
  | .connecting => world

def WsWorld.doSendText (world : WsWorld H) (h : H) : WsWorld H :=
  world.use (world.handlers h).mWsi

/-- `plainProtocolCallback`: all other reasons are ignored. -/
def WsWorld.plainProtocolCallback (world : WsWorld H) (ctx : Context)
    (callback : LwsCallback)
    : WsWorld H :=
  match world.map.lookupHandler (some ctx) with
  | none => world
  | some wsHandler =>
      match callback.reason with
      | .clientEstablished => world.setWsStatus wsHandler .connected
      | .closed => world.setWsStatus wsHandler .disconnect
      | .clientWriteable => world.doSendText wsHandler
      | .clientReceive =>
          world.update wsHandler (fun handler => handler.onMessageReceived callback.input)
      | _ => world

/-- The library issues a callback for the connection of a context; the connection is dead
behind `CLIENT_CONNECTION_ERROR` and `CLOSED`.
-/
def WsWorld.issue (world : WsWorld H) (ctx : Context) (callback : LwsCallback) : WsWorld H :=
  let world := world.plainProtocolCallback ctx callback
  if callback.reason = .closed ∨ callback.reason = .clientConnectionError then
    world.kill ctx
  else
    world

/-- The library issues callbacks one after the other. -/
def WsWorld.issueAll (world : WsWorld H) (ctx : Context) (callbacks : List LwsCallback)
    : WsWorld H :=
  callbacks.foldl (fun world callback => world.issue ctx callback) world

/-- `libwebsocket_service`; a negative result ends the connection. -/
def WsWorld.service (world : WsWorld H) (ctx : Option Context) (service : Service)
    : WsWorld H :=
  match ctx with
  | none => world
  | some ctx =>
      let world := world.issueAll ctx service.callbacks
      if service.result < 0 then world.kill ctx else world

-----------------------------------------------------------------------------------------
-- The three calls
-----------------------------------------------------------------------------------------

/-- The first two lines of `connectServer`: a fresh context is stored and registered. Its
connection is alive from here on.
-/
def WsWorld.createContext (world : WsWorld H) (h : H) : WsWorld H :=
  let ctx := world.contexts
  { world.update h (fun handler => { handler with mWsContext := some ctx }) with
    contexts := ctx + 1
    map := world.map.registerHandlerMap (some ctx) h
    live := Function.update world.live ctx true }

def WsWorld.connectServer (world : WsWorld H) (h : H) (connect : ClientConnect)
    (service : Service)
    : WsWorld H :=
  let ctx := world.contexts
  let world := (world.createContext h).issueAll ctx connect.callbacks
  if connect.connected then
    let world := world.update h (fun handler => { handler with mWsi := some ctx })
    let world := world.update h (fun handler => { handler with mWsStatus := .connecting })
    let world := world.service (world.handlers h).mWsContext service
    if service.result < 0 then
      -- Unlike `touchServer`, this branch leaves `mIsGood` as it is.
      (world.update h (fun handler => { handler with mWsStatus := .disconnect })).removeHandler
        (world.handlers h).mWsContext
    else
      world
  else
    -- A null connection: the new entry of the map stays.
    (world.update h (fun handler => { handler with mWsi := none })).kill ctx

def WsWorld.touchServer (world : WsWorld H) (h : H) (service : Service) : WsWorld H :=
  let world := world.service (world.handlers h).mWsContext service
  if service.result < 0 then
    (world.update h (fun handler =>
      { handler with mWsStatus := .disconnect, mIsGood := false })).removeHandler
        (world.handlers h).mWsContext
  else
    world

/-- `sendText`, with its return value. -/
def WsWorld.sendText (world : WsWorld H) (h : H) (text : List UInt8) (service : Service)
    : WsWorld H × Bool :=
  let world :=
    if (world.handlers h).mIsGood then
      let world := world.update h (fun handler => { handler with mSendText := text })
      (world.use (world.handlers h).mWsi).touchServer h service
    else
      world
  (world, (world.handlers h).mIsGood)

/-- A call on one of the handlers, with what the library does meanwhile. -/
inductive WsCall (H : Type*) where
  | connectServer (h : H) (connect : ClientConnect) (service : Service)
  | touchServer (h : H) (service : Service)
  | sendText (h : H) (text : List UInt8) (service : Service)

/-- The handlers of a program under any calls; `sendText` alone returns something. -/
def websockets : Machine (WsWorld H) (WsCall H) (Option Bool) where
  step world
    | .connectServer h connect service => (world.connectServer h connect service, none)
    | .touchServer h service => (world.touchServer h service, none)
    | .sendText h text service =>
        let (world, isGood) := world.sendText h text service
        (world, some isGood)

end Cooboc.Websocket
