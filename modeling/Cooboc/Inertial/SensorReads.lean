import Mathlib.Algebra.Group.Int.Defs
import Cooboc.Inertial.Bmx055Driver

/-! What a failed transaction leaves of a measurement. A byte that does not arrive is
replaced by whatever its variable's memory held, and an axis of the magnetometer is shifted
once more.
-/

namespace Cooboc.Inertial

open Cooboc.Foundations Cooboc.Iic

/-- The transaction sends the register's address and gets `count` bytes. -/
def Transacts (calls : SystemCalls) (count : Nat) : Prop := 1 ≤ calls.write ∧ calls.read = count

instance decidableTransacts (calls : SystemCalls) (count : Nat)
    : Decidable (Transacts calls count) :=
  inferInstanceAs (Decidable (_ ∧ _))

/-- Both transactions of the axis succeed. -/
def AxisCalls.Succeed (calls : AxisCalls) : Prop := Transacts calls.msb 1 ∧ Transacts calls.lsb 1

instance decidableSucceed (calls : AxisCalls) : Decidable calls.Succeed :=
  inferInstanceAs (Decidable (_ ∧ _))

/-- The number that two registers hold, the high one signed, in units of `scale`. -/
def registerValue (scale : Int) (msb : Int8) (lsb : UInt8) : Int :=
  (256 * msb.toInt + lsb.toNat) / scale

/-- The value of the registers that the two transactions receive. -/
def AxisCalls.decoded (scale : Int) (calls : AxisCalls) : Int :=
  registerValue scale (calls.msb.received 0).toInt8 (calls.lsb.received 0)

/-- The value of the registers that one transaction receives, the low one first. -/
def magDecoded (scale : Int) (calls : SystemCalls) : Int :=
  registerValue scale (calls.received 1).toInt8 (calls.received 0)

/-- A new value is the decoded one if the reads succeed, and the old one if not. -/
structure KeptOrDecoded (succeed : Prop) (decoded old new : Int) : Prop where
  decoded : succeed → new = decoded
  kept : ¬ succeed → new = old

/-- Each axis is kept or decoded, and the flag is false exactly if some axis fails. -/
structure ReadIntact (succeed : Point3D Prop) (decoded old new : Point3D Int)
    (returned : Bool)
    : Prop where
  x : KeptOrDecoded succeed.x decoded.x old.x new.x
  y : KeptOrDecoded succeed.y decoded.y old.y new.y
  z : KeptOrDecoded succeed.z decoded.z old.z new.z
  returned : returned = false ↔ ¬ (succeed.x ∧ succeed.y ∧ succeed.z)

/-- A function on each of three values. -/
def Point3D.map {α : Type} {β : Type*} (f : α → β) (point : Point3D α) : Point3D β :=
  ⟨f point.x, f point.y, f point.z⟩

/-- All three. -/
def Point3D.All {α : Type} (holds : α → Prop) (point : Point3D α) : Prop :=
  holds point.x ∧ holds point.y ∧ holds point.z

/-- An axis of the magnetometer is read, or its value survives another shift. -/
def MagSurvives (calls : SystemCalls) (old : Int) : Prop :=
  Transacts calls 2 ∨ old = 0 ∨ old = -1

/-- One `readData` leaves the three measurements intact, whatever its variables held. -/
def MeasurementsIntact (sensors : Sensors) (read : SensorCalls × SensorLocals) : Prop :=
  ∀ locals,
    let (after, flags) := sensors.readData read.1 locals
    ReadIntact (read.1.acc.map AxisCalls.Succeed) (read.1.acc.map (AxisCalls.decoded 16))
      sensors.raw.acc after.raw.acc flags.acc
    ∧ ReadIntact (read.1.gyro.map AxisCalls.Succeed) (read.1.gyro.map (AxisCalls.decoded 1))
      sensors.raw.gyro after.raw.gyro flags.gyro
    ∧ ReadIntact (read.1.mag.map (Transacts · 2))
      ⟨magDecoded 8 read.1.mag.x, magDecoded 8 read.1.mag.y, magDecoded 2 read.1.mag.z⟩
      sensors.raw.mag after.raw.mag flags.mag

/-- All transactions with the accelerometer and the gyro succeed, and each axis of the
magnetometer survives.
-/
structure SensorsAnswer (sensors : Sensors) (read : SensorCalls × SensorLocals) : Prop where
  acc : read.1.acc.All AxisCalls.Succeed
  gyro : read.1.gyro.All AxisCalls.Succeed
  magX : MagSurvives read.1.mag.x sensors.raw.mag.x
  magY : MagSurvives read.1.mag.y sensors.raw.mag.y
  magZ : MagSurvives read.1.mag.z sensors.raw.mag.z

-----------------------------------------------------------------------------------------
-- Bytes
-----------------------------------------------------------------------------------------

/-- Two bytes shifted together are one number, extended with the sign of the high one. -/
theorem join_signExtend (width : Nat) (high low : BitVec 8)
    : high.signExtend width <<< 8 ||| low.setWidth width
      = (high ++ low).signExtend width := by
  ext i inside
  simp only [BitVec.getElem_or, BitVec.getElem_shiftLeft, BitVec.getElem_setWidth,
    BitVec.getElem_signExtend]
  grind

theorem join_toInt (high low : BitVec 8)
    : (high ++ low).toInt = 256 * high.toInt + low.toNat := by
  rw [BitVec.toInt_append]
  rfl

theorem joinAxis_toInt (msb : Int8) (lsb : UInt8)
    : (joinAxis msb lsb).toInt = 256 * msb.toInt + lsb.toNat := by
  have joined : (joinAxis msb lsb).toBitVec
      = (msb.toBitVec ++ lsb.toBitVec).signExtend 32 := by
    rw [← join_signExtend]
    simp [joinAxis]
  rw [Int32.toInt, joined, BitVec.toInt_signExtend_of_le (by decide), join_toInt]
  rfl

/-- Shifted by four, the bytes are the value in units of sixteen. -/
theorem joinAxis_shift_toInt (msb : Int8) (lsb : UInt8)
    : (joinAxis msb lsb >>> 4).toInt = registerValue 16 msb lsb := by
  have shift : (joinAxis msb lsb >>> 4).toInt = (joinAxis msb lsb).toInt >>> (4 : Nat) := by
    rw [Int32.toInt, Int32.toBitVec_shiftRight, BitVec.toInt_sshiftRight']
    rfl
  rw [shift, joinAxis_toInt, Int.shiftRight_eq_div_pow]
  rfl

theorem readS16LE_toInt (high low : UInt8)
    : (high.toInt8.toInt16 <<< 8 ||| low.toUInt16.toInt16).toInt
      = registerValue 1 high.toInt8 low := by
  have joined : (high.toInt8.toInt16 <<< 8 ||| low.toUInt16.toInt16).toBitVec
      = high.toInt8.toBitVec ++ low.toBitVec := by
    rw [← BitVec.signExtend_eq (high.toInt8.toBitVec ++ low.toBitVec), ← join_signExtend]
    simp
  rw [Int16.toInt, joined, join_toInt, registerValue, Int.ediv_one]
  rfl

-----------------------------------------------------------------------------------------
-- Transactions
-----------------------------------------------------------------------------------------

/-- A read leaves the decoded bytes and returns true, or leaves the variable alone and returns
false, whatever happened on the bus before.
-/
theorem readRegister_eq {α : Type} (world : IicWorld) (deviceAddr regAddr : UInt8) (count : Nat)
    {decode : (Nat → UInt8) → α} (value : α) (calls : SystemCalls) {decoded : α}
    (decodes
      : ∀ buffer : Nat → UInt8,
          (∀ i < count, buffer i = calls.received i) → decode buffer = decoded)
    : (world.readRegister deviceAddr regAddr count decode value calls).2.2
      = (if Transacts calls count then decoded else value, decide (Transacts calls count)) := by
  simp only [IicWorld.readRegister, IicWorld.sendRegAddr]
  by_cases addressed : calls.write < 1
  · have failed : ¬ Transacts calls count := fun transacts => by
      have sent := transacts.1
      omega
    simp only [if_pos addressed, if_neg failed, Bool.false_eq_true, if_false,
      decide_eq_false failed]
  · by_cases complete : calls.read = count
    · have succeeds : Transacts calls count := ⟨not_lt.mp addressed, complete⟩
      simp only [if_neg addressed, if_pos complete, if_pos succeeds, if_true, Prod.mk.injEq,
        decide_eq_true succeeds, and_true]
      apply decodes
      intro i inside
      have received : i < min count calls.read.toNat := by omega
      simp only [IicWorld.receive, if_pos received]
    · have failed : ¬ Transacts calls count := fun transacts => complete transacts.2
      simp only [if_neg addressed, if_neg complete, if_neg failed, if_true,
        decide_eq_false failed]

theorem readU8_eq (world : IicWorld) (deviceAddr regAddr value : UInt8) (calls : SystemCalls)
    : (world.readU8 deviceAddr regAddr value calls).2.2
      = (if Transacts calls 1 then calls.received 0 else value, decide (Transacts calls 1)) :=
  readRegister_eq world deviceAddr regAddr 1 value calls
    (fun _ received => received 0 (by decide))

theorem readS8_eq (world : IicWorld) (deviceAddr regAddr : UInt8) (value : Int8)
    (calls : SystemCalls)
    : (world.readS8 deviceAddr regAddr value calls).2.2
      = (if Transacts calls 1 then (calls.received 0).toInt8 else value,
        decide (Transacts calls 1)) :=
  readRegister_eq world deviceAddr regAddr 1 value calls
    (fun _ received => congrArg UInt8.toInt8 (received 0 (by decide)))

theorem readS16LE_eq (world : IicWorld) (deviceAddr regAddr : UInt8) (value : Int16)
    (calls : SystemCalls)
    : (world.readS16LE deviceAddr regAddr value calls).2.2
      = (if Transacts calls 2 then
          (calls.received 1).toInt8.toInt16 <<< 8 ||| (calls.received 0).toUInt16.toInt16
        else
          value,
        decide (Transacts calls 2)) :=
  readRegister_eq world deviceAddr regAddr 2 value calls
    (fun _ received => by rw [received 0 (by decide), received 1 (by decide)])

-----------------------------------------------------------------------------------------
-- One axis
-----------------------------------------------------------------------------------------

/-- What an axis of the accelerometer or of the gyro is read as. -/
def AxisCalls.measured (scale : Int) (calls : AxisCalls) (locals : AxisLocals) : Int :=
  registerValue scale
    (if Transacts calls.msb 1 then (calls.msb.received 0).toInt8 else locals.msb)
    (if Transacts calls.lsb 1 then calls.lsb.received 0 else locals.lsb)

theorem AxisCalls.decide_succeed (calls : AxisCalls)
    : decide calls.Succeed
      = (decide (Transacts calls.msb 1) && decide (Transacts calls.lsb 1)) := by
  rw [← Bool.decide_and]
  rfl

/-- `readGyroAxis` reads the whole number. -/
theorem readGyroAxis_eq (world : IicWorld) (registers : AxisRegisters) (value : Int)
    (calls : AxisCalls) (locals : AxisLocals)
    : (readGyroAxis world registers value (calls, locals)).2
      = (calls.measured 1 locals, decide calls.Succeed) := by
  simp only [readGyroAxis, readS8_eq, readU8_eq, joinAxis_toInt, AxisCalls.measured,
    registerValue, Int.ediv_one, AxisCalls.decide_succeed, Bool.true_and]

/-- `readAccAxis` reads the number in units of sixteen. -/
theorem readAccAxis_eq (world : IicWorld) (registers : AxisRegisters) (value : Int)
    (calls : AxisCalls) (locals : AxisLocals)
    : (readAccAxis world registers value (calls, locals)).2
      = (calls.measured 16 locals, decide calls.Succeed) := by
  simp only [readAccAxis, readS8_eq, readU8_eq, joinAxis_shift_toInt, AxisCalls.measured,
    AxisCalls.decide_succeed, Bool.true_and, Bool.and_comm]

/-- Numbers that are sixteen apart differ in units of sixteen, and in smaller ones. -/
theorem ediv_lt_ediv_of_add_le {scale : Int} (positive : 0 < scale) (atMost : scale ≤ 16)
    {less more : Int} (apart : less + 16 ≤ more)
    : less / scale < more / scale := by
  have below : less / scale * scale ≤ less := Int.ediv_mul_le less positive.ne'
  apply Int.lt_of_add_one_le
  rw [Int.le_ediv_iff_mul_le positive, Int.add_mul, Int.one_mul]
  omega

/-- A byte that is missing changes the value with what its variable held: over all that it
may have held, an axis is kept or decoded exactly if both transactions succeed.
Witness: with 1 and 16 in the variables the value is larger than with zeros.
-/
theorem AxisCalls.keptOrDecoded_iff {scale : Int} (positive : 0 < scale) (atMost : scale ≤ 16)
    (calls : AxisCalls) (old : Int)
    : (∀ locals, KeptOrDecoded calls.Succeed (calls.decoded scale) old
        (calls.measured scale locals))
      ↔ calls.Succeed := by
  constructor
  · intro outcome
    by_contra failed
    have same := ((outcome ⟨0, 0⟩).kept failed).trans ((outcome ⟨1, 16⟩).kept failed).symm
    refine absurd same (ne_of_lt (ediv_lt_ediv_of_add_le positive atMost ?_))
    by_cases msb : Transacts calls.msb 1
    · have lsb : ¬ Transacts calls.lsb 1 := fun lsb => failed ⟨msb, lsb⟩
      rw [if_pos msb, if_pos msb, if_neg lsb, if_neg lsb]
      change 256 * _ + 0 + 16 ≤ 256 * _ + 16
      omega
    · rw [if_neg msb, if_neg msb]
      by_cases lsb : Transacts calls.lsb 1
      · rw [if_pos lsb, if_pos lsb]
        change 256 * 0 + _ + 16 ≤ 256 * 1 + _
        omega
      · rw [if_neg lsb, if_neg lsb]
        decide
  · intro succeed locals
    refine ⟨fun _ => ?_, fun failed => absurd succeed failed⟩
    simp only [AxisCalls.measured, AxisCalls.decoded, if_pos succeed.1, if_pos succeed.2]

/-- An axis of the magnetometer, in units of two to the shift. -/
theorem readMagAxis_eq (world : IicWorld) (register : MagRegister) (value : Int)
    (calls : SystemCalls)
    : (readMagAxis world register value calls).2
      = (if Transacts calls 2 then
          magDecoded (2 ^ register.shift) calls
        else
          (Int16.ofInt value).toInt / 2 ^ register.shift,
        decide (Transacts calls 2)) := by
  simp only [readMagAxis, readS16LE_eq, Int.shiftRight_eq_div_pow, Prod.mk.injEq, and_true]
  split
  · rw [readS16LE_toInt, registerValue, Int.ediv_one]
    rfl
  · rfl

/-- Cut to sixteen bits and shifted by three or by one, only 0 and -1 are what they were.
Witness: a shifted value has less than sixteen bits, so the cut did nothing to it.
-/
theorem shifted_eq_self_iff {scale : Int} (shift : scale = 8 ∨ scale = 2) (value : Int)
    : (Int16.ofInt value).toInt / scale = value ↔ value = 0 ∨ value = -1 := by
  rw [Int16.toInt_ofInt]
  constructor
  · intro same
    have lower : -32768 ≤ value.bmod Int16.size := Int.le_bmod (by decide)
    have upper : value.bmod Int16.size < 32768 := Int.bmod_lt (by decide)
    have uncut : value.bmod Int16.size = value := by
      apply Int.bmod_eq_of_le_mul_two
      · change -65536 ≤ value * 2
        rcases shift with rfl | rfl <;> omega
      · change value * 2 < 65536
        rcases shift with rfl | rfl <;> omega
    rw [uncut] at same
    rcases shift with rfl | rfl <;> omega
  · intro fixed
    rcases fixed with rfl | rfl
    · rcases shift with rfl | rfl <;> decide
    · rcases shift with rfl | rfl <;> decide

/-- An axis of the magnetometer is kept or decoded exactly if it survives. -/
theorem magAxis_keptOrDecoded_iff {scale : Int} (shift : scale = 8 ∨ scale = 2) (old : Int)
    (calls : SystemCalls)
    : KeptOrDecoded (Transacts calls 2) (magDecoded scale calls) old
        (if Transacts calls 2 then magDecoded scale calls else (Int16.ofInt old).toInt / scale)
      ↔ MagSurvives calls old := by
  by_cases succeeds : Transacts calls 2
  · rw [if_pos succeeds]
    exact iff_of_true ⟨fun _ => rfl, fun failed => absurd succeeds failed⟩ (.inl succeeds)
  · rw [if_neg succeeds]
    constructor
    · intro outcome
      exact .inr ((shifted_eq_self_iff shift old).mp (outcome.kept succeeds))
    · intro survives
      refine ⟨fun succeed => absurd succeed succeeds, fun _ => ?_⟩
      exact (shifted_eq_self_iff shift old).mpr (survives.resolve_left succeeds)

-----------------------------------------------------------------------------------------
-- Three axes
-----------------------------------------------------------------------------------------

/-- A read whose axes do not depend on the bus gives the three values and flags. -/
theorem readAxes_eq {α β : Type}
    {readAxis : IicWorld → α → Int → β → IicWorld × Int × Bool}
    {measured : α → Int → β → Int} {succeed : β → Prop} [DecidablePred succeed]
    (reads
      : ∀ world register value attempt,
          (readAxis world register value attempt).2
          = (measured register value attempt, decide (succeed attempt)))
    (registers : Point3D α) (world : IicWorld) (value : Point3D Int) (attempts : Point3D β)
    : (readAxes readAxis registers world value attempts).2
      = (⟨measured registers.x value.x attempts.x, measured registers.y value.y attempts.y,
          measured registers.z value.z attempts.z⟩,
        decide (succeed attempts.x ∧ succeed attempts.y ∧ succeed attempts.z)) := by
  simp only [readAxes, reads, Bool.decide_and, Bool.true_and, Bool.and_assoc]

/-- A read of six bytes leaves a measurement intact, whatever the variables held, exactly
if all six transactions succeed. Witness: axis by axis.
-/
theorem readAxes_intact_iff {scale : Int} (positive : 0 < scale) (atMost : scale ≤ 16)
    {readAxis : IicWorld → AxisRegisters → Int → AxisCalls × AxisLocals → IicWorld × Int × Bool}
    (reads
      : ∀ world registers value attempt,
          (readAxis world registers value attempt).2
          = (attempt.1.measured scale attempt.2, decide attempt.1.Succeed))
    (registers : Point3D AxisRegisters) (world : IicWorld) (value : Point3D Int)
    (calls : Point3D AxisCalls)
    : (∀ locals,
        ReadIntact (calls.map AxisCalls.Succeed) (calls.map (AxisCalls.decoded scale)) value
          (readAxes readAxis registers world value (calls.zip locals)).2.1
          (readAxes readAxis registers world value (calls.zip locals)).2.2)
      ↔ calls.All AxisCalls.Succeed := by
  simp only [readAxes_eq reads]
  constructor
  · intro intact
    have every (locals : AxisLocals) := intact ⟨locals, locals, locals⟩
    exact ⟨(calls.x.keptOrDecoded_iff positive atMost value.x).mp (fun locals => (every locals).x),
      (calls.y.keptOrDecoded_iff positive atMost value.y).mp (fun locals => (every locals).y),
      (calls.z.keptOrDecoded_iff positive atMost value.z).mp (fun locals => (every locals).z)⟩
  · intro succeed locals
    obtain ⟨x, y, z⟩ := succeed
    exact ⟨(calls.x.keptOrDecoded_iff positive atMost value.x).mpr x locals.x,
      (calls.y.keptOrDecoded_iff positive atMost value.y).mpr y locals.y,
      (calls.z.keptOrDecoded_iff positive atMost value.z).mpr z locals.z,
      decide_eq_false_iff_not⟩

/-- `readAcc` leaves a measurement intact exactly if all its transactions succeed. -/
theorem readAcc_intact_iff (world : IicWorld) (value : Point3D Int) (calls : Point3D AxisCalls)
    : (∀ locals,
        ReadIntact (calls.map AxisCalls.Succeed) (calls.map (AxisCalls.decoded 16)) value
          (readAcc world value (calls.zip locals)).2.1
          (readAcc world value (calls.zip locals)).2.2)
      ↔ calls.All AxisCalls.Succeed :=
  readAxes_intact_iff (by decide) (by decide)
    (fun world registers value attempt =>
      readAccAxis_eq world registers value attempt.1 attempt.2)
    accRegisters world value calls

/-- `readGyro` leaves a measurement intact exactly if all its transactions succeed. -/
theorem readGyro_intact_iff (world : IicWorld) (value : Point3D Int)
    (calls : Point3D AxisCalls)
    : (∀ locals,
        ReadIntact (calls.map AxisCalls.Succeed) (calls.map (AxisCalls.decoded 1)) value
          (readGyro world value (calls.zip locals)).2.1
          (readGyro world value (calls.zip locals)).2.2)
      ↔ calls.All AxisCalls.Succeed :=
  readAxes_intact_iff (by decide) (by decide)
    (fun world registers value attempt =>
      readGyroAxis_eq world registers value attempt.1 attempt.2)
    gyroRegisters world value calls

/-- `readMag` leaves measurements intact exactly if each axis survives. -/
theorem readMag_intact_iff (world : IicWorld) (value : Point3D Int)
    (calls : Point3D SystemCalls)
    : ReadIntact (calls.map (Transacts · 2))
        ⟨magDecoded 8 calls.x, magDecoded 8 calls.y, magDecoded 2 calls.z⟩ value
        (readMag world value calls).2.1 (readMag world value calls).2.2
      ↔ MagSurvives calls.x value.x ∧ MagSurvives calls.y value.y
        ∧ MagSurvives calls.z value.z := by
  have axisX := magAxis_keptOrDecoded_iff (.inl rfl) value.x calls.x
  have axisY := magAxis_keptOrDecoded_iff (.inl rfl) value.y calls.y
  have axisZ := magAxis_keptOrDecoded_iff (.inr rfl) value.z calls.z
  rw [readMag, readAxes_eq readMagAxis_eq]
  constructor
  · intro intact
    exact ⟨axisX.mp intact.x, axisY.mp intact.y, axisZ.mp intact.z⟩
  · intro ⟨x, y, z⟩
    exact ⟨axisX.mpr x, axisY.mpr y, axisZ.mpr z, decide_eq_false_iff_not⟩

-----------------------------------------------------------------------------------------
-- Repeated reads
-----------------------------------------------------------------------------------------

/-- One `readData` is intact exactly if the sensors answer. Witness: sensor by sensor, as the
state of the bus has no part in what is read.
-/
theorem measurementsIntact_iff (sensors : Sensors) (read : SensorCalls × SensorLocals)
    : MeasurementsIntact sensors read ↔ SensorsAnswer sensors read := by
  obtain ⟨calls, found⟩ := read
  simp only [MeasurementsIntact, Sensors.readData]
  constructor
  · intro intact
    -- The gyro is read on the bus as the accelerometer leaves it.
    let world := (readAcc sensors.world sensors.raw.acc (calls.acc.zip found.acc)).1
    have acc : calls.acc.All AxisCalls.Succeed :=
      (readAcc_intact_iff sensors.world sensors.raw.acc calls.acc).mp
        (fun locals => (intact ⟨locals, found.gyro⟩).1)
    have gyro : calls.gyro.All AxisCalls.Succeed :=
      (readGyro_intact_iff world sensors.raw.gyro calls.gyro).mp
        (fun locals => (intact ⟨found.acc, locals⟩).2.1)
    obtain ⟨magX, magY, magZ⟩ := (readMag_intact_iff _ _ _).mp (intact found).2.2
    exact ⟨acc, gyro, magX, magY, magZ⟩
  · intro ⟨acc, gyro, magX, magY, magZ⟩ locals
    exact ⟨(readAcc_intact_iff _ _ _).mpr acc locals.acc,
      (readGyro_intact_iff _ _ _).mpr gyro locals.gyro,
      (readMag_intact_iff _ _ _).mpr ⟨magX, magY, magZ⟩⟩

/-- In every run of `readData`, on whatever bus and with whatever raw values, all measurements
stay intact exactly if each time all transactions with the accelerometer and the gyro
succeed, and an axis of the magnetometer that fails holds 0 or -1. Witness: read by read.
-/
theorem measurements_intact_iff (sensors : Sensors) (reads : List (SensorCalls × SensorLocals))
    : sensorReads.Always MeasurementsIntact sensors reads
      ↔ sensorReads.Always SensorsAnswer sensors reads :=
  Machine.always_congr (fun _ => True) trivial
    (fun current read _ => measurementsIntact_iff current read) (fun _ _ _ _ => trivial) reads

/-- The answers of a transaction that gets the bytes. -/
def answered (received : Nat → UInt8) (count : Nat) : SystemCalls := ⟨true, 1, count, received⟩

/-- The answers of a transaction that no device acknowledges. -/
def unanswered : SystemCalls := ⟨true, -1, -1, fun _ => 0⟩

/-- On an empty bus the accelerometer's reading is replaced by what the variables held. -/
theorem measurements_not_intact
    : let calls : AxisCalls := ⟨unanswered, unanswered⟩
      let mag := answered (fun _ => 0) 2
      let locals : Point3D AxisLocals := ⟨⟨0, 0⟩, ⟨0, 0⟩, ⟨0, 0⟩⟩
      let read : SensorCalls × SensorLocals :=
        ⟨⟨⟨calls, calls, calls⟩, ⟨calls, calls, calls⟩, ⟨mag, mag, mag⟩⟩, ⟨locals, locals⟩⟩
      ¬ sensorReads.Always MeasurementsIntact ⟨IicWorld.opened (fun _ => 0) none, .new⟩
          [read] := by
  intro calls mag locals read always
  have unacknowledged : ¬ AxisCalls.Succeed ⟨unanswered, unanswered⟩ := by decide
  have kept := (always.1 ⟨locals, locals⟩).1.z.kept unacknowledged
  exact absurd kept (by decide)

end Cooboc.Inertial
