import Cooboc.HeadRest.DisplayDelivery
import Cooboc.HeadRest.DistanceText
import Cooboc.HeadRest.SampleDelivery
import Cooboc.Server.Reception
import Cooboc.Websocket.WrittenTexts

/-! The way of a sample from the Arduino to a browser: over the serial line, through the threads
of the driver and of the main loop, over the display's websocket, and through the web server.
-/

namespace Cooboc.HeadRest

open Cooboc.Foundations Cooboc.SerialPacket Cooboc.Websocket Cooboc.Server

/-- A text as the bytes that `sendText` is given. -/
def textBytes (text : List Char) : List UInt8 := text.map Char.toUInt8

/-- The string that the server receives for some bytes below 128. -/
def receivedString (bytes : List UInt8) : String :=
  String.ofList (bytes.map (fun byte => Char.ofNat byte.toNat))

/-- The text that a call hands to a handler. -/
def textGiven {H : Type*} [DecidableEq H] (h : H) : WsCall H → Option (List UInt8)
  | .sendText caller text _ => if caller = h then some text else none
  | _ => none

/-- The two readings of a sample. -/
def Sample.reading (sample : Sample) : Fin 2 → Int := ![(sample.d1 : Int), (sample.d2 : Int)]

/-- What happens to samples on their way: how the serial line's bytes come in, how the threads
alternate, which calls the handlers get, one of them the display's, and what the server goes
through. The sends of the display are the texts of what is displayed, and the server receives
what they write.
-/
structure Telemetry (H : Type*) [DecidableEq H] where
  samples : List Sample
  frames : List (List Arrival)
  recvs : List Recv
  sent : frames.map (List.map Arrival.byte) = samples.map Sample.frame
  prompt : ∀ frame ∈ frames, Prompt frame
  cut : recvs.flatMap Recv.arrivals = frames.flatten
  dataMemory : Nat → UInt8
  modemMemory : Nat → UInt8
  first : Fin 2
  schedule : List DisplayEvent
  handlerMemory : H → Nat → UInt8
  display : H
  calls : List (WsCall H)
  displays
    : calls.filterMap (textGiven display)
      = (displayed first (chunkReader.outputs (HrDriver.new dataMemory modemMemory) recvs).flatten
          schedule).map (fun values => textBytes (distanceText values))
  events : List IoEvent
  forwards
    : deviceTexts events
      = (writtenTexts ((handlerTexts display).outputs (WsWorld.initial handlerMemory) calls)).map
          receivedString
  admitted : relay.Always (fun state event => state.2.Admits event) relayStart events
  ends : relay.Always (fun state event => state.2.AtEnd event) relayStart events

variable {H : Type*} [DecidableEq H]

/-- What the page reads from a string. -/
def readData (data : String) : Option (Fin 2 → Int) := onData data.toList

/-- The values that a browser shows, one pair for each text that its page can read. -/
def Telemetry.seen (telemetry : Telemetry H) (client : ClientRef) : List (Fin 2 → Int) :=
  (received client (relay.outputs relayStart telemetry.events)).filterMap readData

/-- What the driver publishes. -/
def Telemetry.publications (telemetry : Telemetry H) : List Publication :=
  (chunkReader.outputs (HrDriver.new telemetry.dataMemory telemetry.modemMemory)
    telemetry.recvs).flatten

/-- Everything has come through: all samples are published, and the loop has gone on until it
rests; the display's last call took a text, and was asked to write; and the browser was connected
when the last text came.
-/
structure Telemetry.Settled (telemetry : Telemetry H) (client : ClientRef) : Prop where
  displayed
    : ∃ earlier accesses,
        telemetry.schedule = earlier ++ List.replicate accesses .advance
        ∧ 4 * telemetry.samples.length ≤ earlier.count .assign
        ∧ 7 ≤ accesses
  written
    : ∃ earlier call text,
        telemetry.calls = earlier ++ [call]
        ∧ ((handlerTexts telemetry.display).run (WsWorld.initial telemetry.handlerMemory)
            earlier).accepts telemetry.display call = some text
        ∧ ((handlerTexts telemetry.display).run (WsWorld.initial telemetry.handlerMemory)
            earlier).writesCall telemetry.display call ≠ []
  connected
    : ∃ before str after,
        telemetry.events = before ++ .text str :: after
        ∧ deviceTexts after = []
        ∧ client ∈ (relay.run relayStart before).2.connected

end Cooboc.HeadRest
