import Cooboc.FlightControl.LineDelivery

/-! The pilot's signal on its way through the system: what the radio receiver sends on the line
is what the flight code reads, and in manual flight what it sends on.
-/

namespace Cooboc.FlightControl

open Cooboc.Foundations Cooboc.Mavlink

variable {R : Type*} [Zero R] [Add R] [Sub R] [Mul R] [Div R] [Neg R] [IntCast R] [LT R]
  [DecidableLT R] [DoubleMath R]

end Cooboc.FlightControl
