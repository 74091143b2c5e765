import Mathlib.Algebra.Group.Defs
import Mathlib.Data.List.Basic

/-! The controller of `utils/pid.cpp`: a gain on the error and one on the sum of the errors
in a ring buffer.
-/

namespace Cooboc.FlightControl

/-- The members of `PID`. -/
structure PID (R : Type*) where
  mKp : R
  mKi : R
  mKd : R
  mIntegralBuffer : List R
  mIntegralWindowSize : Nat
  mIntegralBufferIndex : Nat
deriving DecidableEq

variable {R : Type*}

/-- The constructor. -/
def PID.new [Zero R] (kp ki kd : R) (integralWindowSize : Nat) : PID R where
  mKp := kp
  mKi := ki
  mKd := kd
  mIntegralBuffer := List.replicate integralWindowSize 0
  mIntegralWindowSize := integralWindowSize
  mIntegralBufferIndex := 0

/-- `reset`: the loop that clears the window, and the index. -/
def PID.reset [Zero R] (pid : PID R) : PID R :=
  { pid with
    mIntegralBuffer :=
      (List.range pid.mIntegralWindowSize).foldl (fun buffer i => buffer.set i 0)
        pid.mIntegralBuffer
    mIntegralBufferIndex := 0 }

/-- The writes of `updateError`: the error goes into the ring buffer. -/
def PID.pushError (pid : PID R) (error : R) : PID R :=
  { pid with
    mIntegralBuffer := pid.mIntegralBuffer.set pid.mIntegralBufferIndex error
    mIntegralBufferIndex := (pid.mIntegralBufferIndex + 1) % pid.mIntegralWindowSize }

/-- The loop that adds up the window. -/
def PID.windowSum [Zero R] [Add R] (pid : PID R) : R :=
  (List.range pid.mIntegralWindowSize).foldl
    (fun sum i => sum + pid.mIntegralBuffer.getD i 0) 0

/-- `updateError`: the next state and the result. -/
def PID.updateError [Zero R] [Add R] [Mul R] (pid : PID R) (error : R) : PID R × R :=
  let pp := error * pid.mKp
  let pid := pid.pushError error
  let ip := pid.windowSum * pid.mKi
  let dp : R := 0
  (pid, pp + ip + dp)

def PID.setTunning (pid : PID R) (kp ki kd : R) : PID R :=
  { pid with mKp := kp, mKi := ki, mKd := kd }

-----------------------------------------------------------------------------------------
-- The window
-----------------------------------------------------------------------------------------

/-- The gains of a controller. -/
def PID.gains (pid : PID R) : R × R × R := (pid.mKp, pid.mKi, pid.mKd)

/-- (pid.Sized window) says that the buffer has the recorded size, which is `window`. -/
structure PID.Sized (pid : PID R) (window : Nat) : Prop where
  recorded : pid.mIntegralWindowSize = window
  allocated : pid.mIntegralBuffer.length = window

theorem PID.new_sized [Zero R] (kp ki kd : R) (window : Nat)
    : (PID.new kp ki kd window).Sized window :=
  ⟨rfl, List.length_replicate⟩

/-- Clearing every cell below `count` leaves zeros there and the rest as it was. -/
theorem clear_cells [Zero R] (buffer : List R) (count : Nat) (bound : count ≤ buffer.length)
    : (List.range count).foldl (fun cells i => cells.set i 0) buffer
      = List.replicate count 0 ++ buffer.drop count := by
  induction count with
  | zero => rfl
  | succ count ih =>
      have cell : count < buffer.length := bound
      rw [List.range_succ, List.foldl_append, ih (Nat.le_of_succ_le bound), List.foldl_cons,
        List.foldl_nil, List.set_append_right _ _ (by simp), List.length_replicate,
        Nat.sub_self, List.drop_eq_getElem_cons cell, List.set_cons_zero,
        List.replicate_succ', List.append_assoc]
      rfl

/-- `reset` leaves nothing of the window: only the gains and the size survive. -/
theorem PID.reset_eq_new [Zero R] {pid : PID R} {window : Nat} (sized : pid.Sized window)
    : pid.reset = PID.new pid.mKp pid.mKi pid.mKd window := by
  obtain ⟨recorded, allocated⟩ := sized
  have cleared := clear_cells pid.mIntegralBuffer window (Nat.le_of_eq allocated.symm)
  rw [List.drop_of_length_le (Nat.le_of_eq allocated), List.append_nil] at cleared
  simp only [PID.reset, PID.new, recorded, cleared]

theorem PID.Sized.reset [Zero R] {pid : PID R} {window : Nat} (sized : pid.Sized window)
    : pid.reset.Sized window := by
  rw [PID.reset_eq_new sized]
  exact PID.new_sized _ _ _ _

theorem PID.Sized.updateError [Zero R] [Add R] [Mul R] {pid : PID R} {window : Nat}
    (sized : pid.Sized window) (error : R)
    : (pid.updateError error).1.Sized window :=
  ⟨sized.recorded, (List.length_set).trans sized.allocated⟩

theorem PID.Sized.setTunning {pid : PID R} {window : Nat} (sized : pid.Sized window)
    (kp ki kd : R)
    : (pid.setTunning kp ki kd).Sized window :=
  ⟨sized.recorded, sized.allocated⟩

end Cooboc.FlightControl
