import Mathlib.Data.BitVec

/-! The frame that `loop()` of `arduino/hr/hr.ino` writes to the serial line. -/

namespace Cooboc.HeadRest

/-- An `int` of the AVR board: sixteen bits, two's complement. -/
abbrev AvrInt := BitVec 16

/-- `(unsigned char)(tmp & 0x00FF)`. -/
def lowByte (tmp : AvrInt) : UInt8 := UInt8.ofBitVec ((tmp &&& 0x00FF#16).setWidth 8)

/-- `tmp >>= 8`, an arithmetic shift. -/
def shiftByte (tmp : AvrInt) : AvrInt := tmp.sshiftRight 8

/-- The six payload bytes in the order they are written: position, first and second
distance, each with its low byte first.
-/
def payloadBytes (hrPosition d1 d2 : AvrInt) : List UInt8 :=
  [
    lowByte hrPosition, lowByte (shiftByte hrPosition),
    lowByte d1, lowByte (shiftByte d1),
    lowByte d2, lowByte (shiftByte d2)
  ]

/-- The variable `crc` after the sixth payload byte: it starts as the first one, and each
later byte is folded in.
-/
def frameCrc (hrPosition d1 d2 : AvrInt) : UInt8 :=
  lowByte hrPosition ^^^ lowByte (shiftByte hrPosition)
    ^^^ lowByte d1 ^^^ lowByte (shiftByte d1)
    ^^^ lowByte d2 ^^^ lowByte (shiftByte d2)

/-- The bytes passed to `Serial.write` at the end of `loop()`: `S`, `A`, 6, the payload, the
checksum, carriage return and line feed.
-/
def sendData (hrPosition d1 d2 : AvrInt) : List UInt8 :=
  [0x53, 0x41, 6] ++ payloadBytes hrPosition d1 d2
    ++ [frameCrc hrPosition d1 d2] ++ [0x0D, 0x0A]

/-- What one frame transmits: any position, and two `analogRead` values of ten bits. -/
structure Sample where
  hrPosition : AvrInt
  d1 : Fin 1024
  d2 : Fin 1024
deriving DecidableEq

/-- The frame of a sample. -/
def Sample.frame (sample : Sample) : List UInt8 :=
  sendData sample.hrPosition (BitVec.ofNat 16 sample.d1) (BitVec.ofNat 16 sample.d2)

/-- The payload bytes of a sample. -/
def Sample.payload (sample : Sample) : List UInt8 :=
  payloadBytes sample.hrPosition (BitVec.ofNat 16 sample.d1) (BitVec.ofNat 16 sample.d2)

end Cooboc.HeadRest
