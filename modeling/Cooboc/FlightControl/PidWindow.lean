import Mathlib.Algebra.Ring.Defs
import Mathlib.Algebra.Ring.Nat
import Cooboc.Foundations.Machine
import Cooboc.Foundations.SlidingWindow
import Cooboc.FlightControl.Pid

/-! The PID controller as a proportional part and the sum over a sliding window: in exact
arithmetic the ring buffer holds the latest errors, and zeros where there are none yet.
-/

namespace Cooboc.FlightControl

open Cooboc.Foundations

/-- The calls on a PID controller. -/
inductive PidCall (R : Type*) where
  | updateError (error : R)
  | reset
  | setTunning (kp ki kd : R)

variable {R : Type*}

/-- The sum of the last errors, as many as the window takes or as there are. -/
def latestSum [Zero R] [Add R] (window : Nat) (errors : List R) : R := (errors.rtake window).sum

/-- The errors since the last reset, behind one more call. -/
def PidCall.record (errors : List R) : PidCall R → List R
  | .updateError error => errors ++ [error]
  | .reset => []
  | .setTunning _ _ _ => errors

/-- The proportional and the integral gain behind one more call. -/
def PidCall.tune (gains : R × R) : PidCall R → R × R
  | .setTunning kp ki _ => (kp, ki)
  | _ => gains

/-- The errors of the calls since the last reset, or since construction. -/
def errorsSinceReset (calls : List (PidCall R)) : List R := calls.foldl PidCall.record []

/-- The proportional and the integral gain set last. -/
def currentGains (constructed : R × R) (calls : List (PidCall R)) : R × R :=
  calls.foldl PidCall.tune constructed

/-- One call, with the value that `updateError` returns. -/
def PID.call [Zero R] [Add R] [Mul R] (pid : PID R) : PidCall R → PID R × Option R
  | .updateError error =>
      let (pid, result) := pid.updateError error
      (pid, some result)
  | .reset => (pid.reset, none)
  | .setTunning kp ki kd => (pid.setTunning kp ki kd, none)

/-- A PID controller under any calls. -/
def pidController [Zero R] [Add R] [Mul R] : Machine (PID R) (PidCall R) (Option R) where
  step := PID.call

/-- (pid.Remembers window errors) says that the buffer of `window` cells is a ring that holds
the latest of the errors, behind zeros that filled it before the first one.
-/
structure PID.Remembers [Zero R] (pid : PID R) (window : Nat) (errors : List R) : Prop where
  sized : pid.Sized window
  ring
    : RingHolds pid.mIntegralBuffer pid.mIntegralBufferIndex
        (List.replicate window 0 ++ errors)

theorem PID.new_remembers [Zero R] (kp ki kd : R) {window : Nat} (positive : 0 < window)
    : (PID.new kp ki kd window).Remembers window [] := by
  refine ⟨PID.new_sized kp ki kd window, ?_⟩
  rw [List.append_nil]
  exact RingHolds.fill positive 0

theorem PID.Remembers.reset [Zero R] {pid : PID R} {window : Nat} {errors : List R}
    (remembers : pid.Remembers window errors)
    : pid.reset.Remembers window [] := by
  have positive : 0 < window := by
    rw [← remembers.sized.allocated]
    exact Nat.zero_lt_of_lt remembers.ring.inside
  rw [PID.reset_eq_new remembers.sized]
  exact PID.new_remembers _ _ _ positive

theorem PID.Remembers.setTunning [Zero R] {pid : PID R} {window : Nat} {errors : List R}
    (remembers : pid.Remembers window errors) (kp ki kd : R)
    : (pid.setTunning kp ki kd).Remembers window errors :=
  ⟨remembers.sized.setTunning kp ki kd, remembers.ring⟩

/-- The writes of `updateError` remember one more error. -/
theorem PID.Remembers.pushError [Zero R] {pid : PID R} {window : Nat} {errors : List R}
    (remembers : pid.Remembers window errors) (error : R)
    : (pid.pushError error).Remembers window (errors ++ [error]) := by
  obtain ⟨⟨recorded, allocated⟩, ring⟩ := remembers
  refine ⟨⟨recorded, List.length_set.trans allocated⟩, ?_⟩
  have written := ring.write error
  rw [allocated, ← recorded, List.append_assoc] at written
  simpa only [PID.pushError, recorded] using written

/-- The loop adds up the errors remembered. -/
theorem PID.Remembers.windowSum [AddCommMonoid R] {pid : PID R} {window : Nat}
    {errors : List R} (remembers : pid.Remembers window errors)
    : pid.windowSum = latestSum window errors := by
  obtain ⟨⟨recorded, allocated⟩, ring⟩ := remembers
  rw [PID.windowSum, recorded, ← allocated, foldl_cells_sum, ring.sum_eq, allocated,
    rtake_zeros_sum]
  rfl

/-- `updateError` remembers the error, and returns it and the sum of the latest ones, each
with its gain.
-/
theorem PID.Remembers.updateError [NonUnitalNonAssocSemiring R] {pid : PID R} {window : Nat}
    {errors : List R} (remembers : pid.Remembers window errors) (error : R)
    : (pid.updateError error).1.Remembers window (errors ++ [error])
      ∧ (pid.updateError error).2
        = error * pid.mKp + latestSum window (errors ++ [error]) * pid.mKi := by
  have pushed := remembers.pushError error
  refine ⟨pushed, ?_⟩
  simp only [PID.updateError, pushed.windowSum, add_zero]
  rfl

-----------------------------------------------------------------------------------------
-- Any calls
-----------------------------------------------------------------------------------------

/-- What the members say about the calls so far. -/
structure PID.Follows [Zero R] (pid : PID R) (constructed : R × R) (window : Nat)
    (calls : List (PidCall R))
    : Prop where
  remembers : pid.Remembers window (errorsSinceReset calls)
  gains : (pid.mKp, pid.mKi) = currentGains constructed calls

/-- Every call leaves members that follow it. Witness: one case for each call. -/
theorem PID.Follows.call [NonUnitalNonAssocSemiring R] {pid : PID R} {constructed : R × R}
    {window : Nat} {calls : List (PidCall R)}
    (follows : pid.Follows constructed window calls) (call : PidCall R)
    : (pid.call call).1.Follows constructed window (calls ++ [call]) := by
  obtain ⟨remembers, gains⟩ := follows
  have recorded : errorsSinceReset (calls ++ [call]) = call.record (errorsSinceReset calls) :=
    List.foldl_concat ..
  have tuned : currentGains constructed (calls ++ [call])
      = call.tune (currentGains constructed calls) :=
    List.foldl_concat ..
  constructor
  · rw [recorded]
    cases call with
    | updateError error => exact (remembers.updateError error).1
    | reset => exact remembers.reset
    | setTunning kp ki kd => exact remembers.setTunning kp ki kd
  · rw [tuned]
    cases call with
    | updateError error => exact gains
    | reset => exact gains
    | setTunning kp ki kd => rfl

/-- After any calls the members follow them. -/
theorem PID.run_follows [NonUnitalNonAssocSemiring R] (kp ki kd : R) {window : Nat}
    (positive : 0 < window) (calls : List (PidCall R))
    : (pidController.run (PID.new kp ki kd window) calls).Follows (kp, ki) window calls :=
  (pidController.always_true _ calls).run_history
    (fun history pid => pid.Follows (kp, ki) window history)
    ⟨PID.new_remembers kp ki kd positive, rfl⟩
    (fun _ _ call follows _ => follows.call call)

/-- In exact arithmetic, behind any calls `updateError` returns the current proportional
gain times the error plus the current integral gain times the sum of the errors in the
window, and the index stays within the buffer. Witness: the ring holds the latest errors,
call by call.
-/
theorem updateError_slidingWindow [CommSemiring R] (kp ki kd : R) {window : Nat}
    (positive : 0 < window) (calls : List (PidCall R)) (error : R)
    : let pid := pidController.run (PID.new kp ki kd window) calls
      let gains := currentGains (kp, ki) calls
      (pidController.step pid (.updateError error)).2
        = some (gains.1 * error
            + gains.2 * latestSum window (errorsSinceReset calls ++ [error]))
      ∧ pid.mIntegralBufferIndex < window := by
  intro pid gains
  obtain ⟨remembers, current⟩ := PID.run_follows kp ki kd positive calls
  have result := (remembers.updateError error).2
  have proportional : pid.mKp = gains.1 := congrArg Prod.fst current
  have integral : pid.mKi = gains.2 := congrArg Prod.snd current
  constructor
  · change some (pid.updateError error).2 = _
    rw [result, proportional, integral, mul_comm error, mul_comm (latestSum _ _)]
  · have inside := remembers.ring.inside
    rwa [remembers.sized.allocated] at inside

/-- A window of two after three errors, with a change of the gains before the last one. -/
theorem updateError_slidingWindow_third
    : (pidController.step
          (pidController.run (PID.new (1 : Nat) 10 0 2)
            [.updateError 5, .updateError 7, .setTunning 2 20 9])
          (.updateError 3)).2
        = some (2 * 3 + 20 * (7 + 3)) :=
  (updateError_slidingWindow (1 : Nat) 10 0 (by decide : 0 < 2) _ 3).1

end Cooboc.FlightControl
