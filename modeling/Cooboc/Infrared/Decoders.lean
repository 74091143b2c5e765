import Cooboc.Infrared.Receiver

/-! The decoders of `IRremote.cpp`, and `IRrecv::decode`, which tries one after another.

A decoder reads the buffer at the offsets it counts, whether or not something was recorded there.
The `long` in which it collects a code has the bits of the `unsigned long` it is stored in.
-/

namespace Cooboc.Infrared

/-- `TOLERANCE`, in percent. -/
def tolerance : Int := 25

/-- `MARK_EXCESS` -/
def markExcess : Int := 100

/-- `TICKS_LOW`. All the values it is used with are far below what a `double` holds exactly. -/
def ticksLow (us : Int) : Int := (us * (100 - tolerance)).tdiv (100 * usecPerTick)

/-- `TICKS_HIGH` -/
def ticksHigh (us : Int) : Int :=
  (us * (100 + tolerance) + 100 * usecPerTick).tdiv (100 * usecPerTick)

/-- `MATCH`, whose parameter `measured` is an `int`. -/
def matchTicks (measured : AvrUnsigned) (desired : Int) : Bool :=
  decide (ticksLow desired ≤ measured.toInt ∧ measured.toInt ≤ ticksHigh desired)

/-- `MATCH_MARK` -/
def matchMark (measuredTicks : AvrUnsigned) (desiredUs : Int) : Bool :=
  matchTicks measuredTicks (desiredUs + markExcess)

/-- `MATCH_SPACE` -/
def matchSpace (measuredTicks : AvrUnsigned) (desiredUs : Int) : Bool :=
  matchTicks measuredTicks (desiredUs - markExcess)

/-- The values for `decode_type`, and the one before the first code. -/
inductive DecodeType where
  | unset
  | nec
  | sony
  | rc5
  | rc6
  | panasonic
  | jvc
  | sanyo
  | mitsubishi
  | unknown
deriving DecidableEq

/-- `decode_results`, without its view of the buffer. -/
structure DecodeResults where
  decodeType : DecodeType
  panasonicAddress : AvrUnsigned
  value : BitVec 32
  bits : Nat
deriving DecidableEq

/-- `REPEAT` -/
def repeatValue : BitVec 32 := 0xffffffff#32

/-- What a decoder returns: `DECODED` or `ERR`, with the results that it leaves in either case. -/
abbrev Attempt := Except DecodeResults DecodeResults

-----------------------------------------------------------------------------------------
-- Codes with one width for each bit
-----------------------------------------------------------------------------------------

/-- The loop of a code whose spaces are long for a one and short for a zero: `count` bits from an
offset on, each of them a mark and a space.
-/
def distanceBits {w : Nat} (rawbuf : Nat → AvrUnsigned) (bitMark oneSpace zeroSpace : Int)
    : Nat → Nat → BitVec w → Option (BitVec w)
  | 0, _, data => some data
  | count + 1, offset, data =>
      if matchMark (rawbuf offset) bitMark then
        if matchSpace (rawbuf (offset + 1)) oneSpace then
          distanceBits rawbuf bitMark oneSpace zeroSpace count (offset + 2) (data <<< 1 ||| 1)
        else if matchSpace (rawbuf (offset + 1)) zeroSpace then
          distanceBits rawbuf bitMark oneSpace zeroSpace count (offset + 2) (data <<< 1)
        else
          none
      else
        none

/-- `decodeNEC` -/
def decodeNEC (irparams : IrParams) (results : DecodeResults) : Attempt :=
  let rawbuf := irparams.rawbuf
  if !matchMark (rawbuf 1) 9000 then
    .error results
  else if irparams.rawlen = 4 && matchSpace (rawbuf 2) 2250 && matchMark (rawbuf 3) 560 then
    .ok { results with bits := 0, value := repeatValue, decodeType := .nec }
  else if irparams.rawlen < 2 * 32 + 4 then
    .error results
  else if !matchSpace (rawbuf 2) 4500 then
    .error results
  else
    match distanceBits rawbuf 560 1600 560 32 3 0#32 with
    | none => .error results
    | some data => .ok { results with bits := 32, value := data, decodeType := .nec }

/-- The loop of a code whose marks are long for a one and short for a zero, each behind a space:
`count` is the number of pairs that are left. A space that does not match leaves the loop, a mark
that does not match fails.
-/
def widthBits (rawbuf : Nat → AvrUnsigned) (bitSpace oneMark zeroMark : Int)
    : Nat → Nat → BitVec 32 → Option (Nat × BitVec 32)
  | 0, offset, data => some (offset, data)
  | count + 1, offset, data =>
      if matchSpace (rawbuf offset) bitSpace then
        if matchMark (rawbuf (offset + 1)) oneMark then
          widthBits rawbuf bitSpace oneMark zeroMark count (offset + 2) (data <<< 1 ||| 1)
        else if matchMark (rawbuf (offset + 1)) zeroMark then
          widthBits rawbuf bitSpace oneMark zeroMark count (offset + 2) (data <<< 1)
        else
          none
      else
        some (offset, data)

/-- How often the condition `offset + 1 < rawlen` of a loop over pairs can hold. -/
def pairsLeft (rawlen offset : Nat) : Nat := (rawlen - offset) / 2

/-- What the decoders of Sony, Sanyo and Mitsubishi do behind their loop. -/
def finishWidths (results : DecodeResults) (minimum : Nat) (decodeType : DecodeType)
    : Option (Nat × BitVec 32) → Attempt
  | none => .error results
  | some (offset, data) =>
      if (offset - 1) / 2 < minimum then
        .error { results with bits := 0 }
      else
        .ok { results with bits := (offset - 1) / 2, value := data, decodeType := decodeType }

/-- `decodeSony`. A fast repeat is reported as one of Sanyo. -/
def decodeSony (irparams : IrParams) (results : DecodeResults) : Attempt :=
  let rawbuf := irparams.rawbuf
  if irparams.rawlen < 2 * 12 + 2 then
    .error results
  else if (rawbuf 0).toNat < 500 then
    .ok { results with bits := 0, value := repeatValue, decodeType := .sanyo }
  else if !matchMark (rawbuf 1) 2400 then
    .error results
  else
    finishWidths results 12 .sony
      (widthBits rawbuf 600 1200 600 (pairsLeft irparams.rawlen 2) 2 0#32)

/-- `decodeSanyo` -/
def decodeSanyo (irparams : IrParams) (results : DecodeResults) : Attempt :=
  let rawbuf := irparams.rawbuf
  if irparams.rawlen < 2 * 12 + 2 then
    .error results
  else if (rawbuf 0).toNat < 800 then
    .ok { results with bits := 0, value := repeatValue, decodeType := .sanyo }
  else if !matchMark (rawbuf 1) 3500 then
    .error results
  else if !matchMark (rawbuf 2) 3500 then
    .error results
  else
    finishWidths results 12 .sanyo
      (widthBits rawbuf 950 2400 700 (pairsLeft irparams.rawlen 3) 3 0#32)

/-- The loop of Mitsubishi, in which the mark comes in front of the space. -/
def mitsubishiBits (rawbuf : Nat → AvrUnsigned)
    : Nat → Nat → BitVec 32 → Option (Nat × BitVec 32)
  | 0, offset, data => some (offset, data)
  | count + 1, offset, data =>
      let next :=
        if matchMark (rawbuf offset) 1950 then
          some (data <<< 1 ||| 1)
        else if matchMark (rawbuf offset) 750 then
          some (data <<< 1)
        else
          none
      match next with
      | none => none
      | some data =>
          if matchSpace (rawbuf (offset + 1)) 350 then
            mitsubishiBits rawbuf count (offset + 2) data
          else
            some (offset + 1, data)

/-- `decodeMitsubishi` -/
def decodeMitsubishi (irparams : IrParams) (results : DecodeResults) : Attempt :=
  let rawbuf := irparams.rawbuf
  if irparams.rawlen < 2 * 16 + 2 then
    .error results
  else if !matchMark (rawbuf 1) 350 then
    .error results
  else
    finishWidths results 16 .mitsubishi
      (mitsubishiBits rawbuf (pairsLeft irparams.rawlen 2) 2 0#32)

/-- `decodePanasonic`, which does not look at `rawlen`. -/
def decodePanasonic (irparams : IrParams) (results : DecodeResults) : Attempt :=
  let rawbuf := irparams.rawbuf
  if !matchMark (rawbuf 1) 3502 then
    .error results
  else if !matchMark (rawbuf 2) 1750 then
    .error results
  else
    match distanceBits rawbuf 502 1244 400 48 3 0#64 with
    | none => .error results
    | some data =>
        .ok
          { results with
            value := data.setWidth 32
            panasonicAddress := (data >>> 32).setWidth 16
            decodeType := .panasonic
            bits := 48 }

/-- `decodeJVC` -/
def decodeJVC (irparams : IrParams) (results : DecodeResults) : Attempt :=
  let rawbuf := irparams.rawbuf
  if irparams.rawlen - 1 = 33 && matchMark (rawbuf 1) 600
      && matchMark (rawbuf (irparams.rawlen - 1)) 600 then
    .ok { results with bits := 0, value := repeatValue, decodeType := .jvc }
  else if !matchMark (rawbuf 1) 8000 then
    .error results
  else if irparams.rawlen < 2 * 16 + 1 then
    .error results
  else if !matchSpace (rawbuf 2) 4000 then
    .error results
  else
    match distanceBits rawbuf 600 1600 550 16 3 0#32 with
    | none => .error results
    | some data =>
        -- the stop bit
        if matchMark (rawbuf (3 + 2 * 16)) 600 then
          .ok { results with bits := 16, value := data, decodeType := .jvc }
        else
          .error results

-----------------------------------------------------------------------------------------
-- Codes with two levels for each bit
-----------------------------------------------------------------------------------------

/-- The variables `offset` and `used` of a decoder that reads level by level. -/
structure LevelCursor where
  offset : Nat
  used : Nat
deriving DecidableEq

/-- `getRClevel`; no level is its error. Behind the end there is only space. -/
def getRClevel (irparams : IrParams) (cursor : LevelCursor) (t1 : Int)
    : Option Level × LevelCursor :=
  if irparams.rawlen ≤ cursor.offset then
    (some .space, cursor)
  else
    let width := irparams.rawbuf cursor.offset
    let val : Level := if cursor.offset % 2 = 1 then .mark else .space
    let correction := if val = .mark then markExcess else -markExcess
    let avail :=
      if matchTicks width (t1 + correction) then
        1
      else if matchTicks width (2 * t1 + correction) then
        2
      else if matchTicks width (3 * t1 + correction) then
        3
      else
        0
    if avail = 0 then
      (none, cursor)
    else if avail ≤ cursor.used + 1 then
      (some val, ⟨cursor.offset + 1, 0⟩)
    else
      (some val, { cursor with used := cursor.used + 1 })

/-- What the loops of RC5 and RC6 return: the number of bits, and the code. -/
abbrev LevelBits := Option (Nat × BitVec 32)

/-- The loop of RC5 with so many passes at most: two levels for each bit, as long as there is
something recorded.
-/
def rc5Bits (irparams : IrParams) : Nat → LevelCursor → Nat → BitVec 32 → LevelBits
  | 0, _, _, _ => none
  | fuel + 1, cursor, nbits, data =>
      if irparams.rawlen ≤ cursor.offset then
        some (nbits, data)
      else
        let (levelA, cursor) := getRClevel irparams cursor 889
        let (levelB, cursor) := getRClevel irparams cursor 889
        if levelA = some .space ∧ levelB = some .mark then
          rc5Bits irparams fuel cursor (nbits + 1) (data <<< 1 ||| 1)
        else if levelA = some .mark ∧ levelB = some .space then
          rc5Bits irparams fuel cursor (nbits + 1) (data <<< 1)
        else
          none

/-- One level, or two that must be the same, which make the wide bit of RC6. Nothing is returned
if they differ.
-/
def rc6Level (irparams : IrParams) (cursor : LevelCursor) (wide : Bool)
    : Option (Option Level × LevelCursor) :=
  let (level, cursor) := getRClevel irparams cursor 444
  if wide then
    let (again, cursor) := getRClevel irparams cursor 444
    if level ≠ again then none else some (level, cursor)
  else
    some (level, cursor)

/-- The loop of RC6 with so many passes at most; its fourth bit is twice as wide. -/
def rc6Bits (irparams : IrParams) : Nat → LevelCursor → Nat → BitVec 32 → LevelBits
  | 0, _, _, _ => none
  | fuel + 1, cursor, nbits, data =>
      if irparams.rawlen ≤ cursor.offset then
        some (nbits, data)
      else
        match rc6Level irparams cursor (nbits = 3) with
        | none => none
        | some (levelA, cursor) =>
            match rc6Level irparams cursor (nbits = 3) with
            | none => none
            | some (levelB, cursor) =>
                if levelA = some .mark ∧ levelB = some .space then
                  rc6Bits irparams fuel cursor (nbits + 1) (data <<< 1 ||| 1)
                else if levelA = some .space ∧ levelB = some .mark then
                  rc6Bits irparams fuel cursor (nbits + 1) (data <<< 1)
                else
                  none

/-- Three times the entries: each pass reads at least one level of some entry, and an entry has
at most three.
-/
def levelFuel (irparams : IrParams) : Nat := 3 * irparams.rawlen + 1

/-- What the decoders of RC5 and RC6 do behind their loop. -/
def finishLevels (results : DecodeResults) (decodeType : DecodeType) : LevelBits → Attempt
  | none => .error results
  | some (nbits, data) =>
      .ok { results with bits := nbits, value := data, decodeType := decodeType }

/-- `decodeRC5` -/
def decodeRC5 (irparams : IrParams) (results : DecodeResults) : Attempt :=
  if irparams.rawlen < 11 + 2 then
    .error results
  else
    let (first, cursor) := getRClevel irparams ⟨1, 0⟩ 889
    if first ≠ some .mark then
      .error results
    else
      let (second, cursor) := getRClevel irparams cursor 889
      if second ≠ some .space then
        .error results
      else
        let (third, cursor) := getRClevel irparams cursor 889
        if third ≠ some .mark then
          .error results
        else
          finishLevels results .rc5 (rc5Bits irparams (levelFuel irparams) cursor 0 0#32)

/-- `decodeRC6` -/
def decodeRC6 (irparams : IrParams) (results : DecodeResults) : Attempt :=
  if irparams.rawlen < 1 then
    .error results
  else if !matchMark (irparams.rawbuf 1) 2666 then
    .error results
  else if !matchSpace (irparams.rawbuf 2) 889 then
    .error results
  else
    let (first, cursor) := getRClevel irparams ⟨3, 0⟩ 444
    if first ≠ some .mark then
      .error results
    else
      let (second, cursor) := getRClevel irparams cursor 444
      if second ≠ some .space then
        .error results
      else
        finishLevels results .rc6 (rc6Bits irparams (levelFuel irparams) cursor 0 0#32)

-----------------------------------------------------------------------------------------
-- Other codes
-----------------------------------------------------------------------------------------

/-- `compare`. Its products with 0.8 are exact enough for sixteen bits. -/
def compareTicks (oldval newval : AvrUnsigned) : Nat :=
  if 5 * newval.toNat < 4 * oldval.toNat then
    0
  else if 5 * oldval.toNat < 4 * newval.toNat then
    2
  else
    1

/-- The loop of `decodeHash`. -/
def hashTicks (rawbuf : Nat → AvrUnsigned) : Nat → Nat → BitVec 32 → BitVec 32
  | 0, _, hash => hash
  | count + 1, i, hash =>
      let value := compareTicks (rawbuf i) (rawbuf (i + 2))
      hashTicks rawbuf count (i + 1) ((hash * 16777619#32) ^^^ BitVec.ofNat 32 value)

/-- `decodeHash` -/
def decodeHash (irparams : IrParams) (results : DecodeResults) : Attempt :=
  if irparams.rawlen < 6 then
    .error results
  else
    .ok
      { results with
        value := hashTicks irparams.rawbuf (irparams.rawlen - 3) 1 2166136261#32
        bits := 32
        decodeType := .unknown }

/-- The decoders, in the order in which they are tried. -/
def decoders : List (IrParams → DecodeResults → Attempt) :=
  [decodeNEC, decodeSony, decodeSanyo, decodeMitsubishi, decodeRC5, decodeRC6, decodePanasonic,
    decodeJVC, decodeHash]

/-- Each decoder is tried on what the ones before it have left in the results. -/
def tryDecoders (irparams : IrParams) (results : DecodeResults)
    : List (IrParams → DecodeResults → Attempt) → Attempt
  | [] => .error results
  | decoder :: rest =>
      match decoder irparams results with
      | .ok decoded => .ok decoded
      | .error left => tryDecoders irparams left rest

/-- The receiver and the results that a sketch has for it. -/
structure IrRecv where
  irparams : IrParams
  results : DecodeResults

/-- How a call of `IRrecv::decode` ends: with no data ready, with a code that a decoder accepts, or
with one that none accepts. The last is thrown away by a call of `resume`.
-/
inductive Decoding where
  | unready
  | decoded (results : DecodeResults)
  | thrownAway (results : DecodeResults)

/-- `IRrecv::decode`, up to that call of `resume`. -/
def IrRecv.decode (recv : IrRecv) : Decoding :=
  if recv.irparams.rcvstate ≠ .stop then
    .unready
  else
    match tryDecoders recv.irparams recv.results decoders with
    | .ok results => .decoded results
    | .error results => .thrownAway results

end Cooboc.Infrared
