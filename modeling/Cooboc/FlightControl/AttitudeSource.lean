import Cooboc.Foundations.Machine
import Cooboc.SerialPacket.SaModem

/-! The attitude source of the instruments: `device/virtual_imu.cpp`, which the radio feeds,
and `instruments/adi.cpp`, which chooses between it and the real sensor. Attitudes are
only passed on, so they may be of any type.
-/

namespace Cooboc.FlightControl

open Cooboc.Foundations
open Cooboc.SerialPacket (UnsignedLong)

/-- `VIRTUAL_IMU_TIMEOUT` in milliseconds. -/
def virtualImuTimeout : UnsignedLong := 500#64

/-- The members of `VirtualImu`. -/
structure VirtualImu (α : Type*) where
  mIsInService : Bool
  mLastValidDataTime : UnsignedLong
  mAttitude : α

variable {α : Type*}

/-- The constructor; it leaves `mAttitude` as the memory it finds. -/
def VirtualImu.new (memory : α) : VirtualImu α := ⟨false, 0#64, memory⟩

/-- `updateAttitude`, where `millis()` returns `time`. -/
def VirtualImu.updateAttitude (_ : VirtualImu α) (time : UnsignedLong) (attitude : α)
    : VirtualImu α where
  mAttitude := attitude
  mLastValidDataTime := time
  mIsInService := true

/-- `isInService`, where `millis()` returns `time`. -/
def VirtualImu.isInService (virtualImu : VirtualImu α) (time : UnsignedLong)
    : VirtualImu α × Bool :=
  if virtualImu.mIsInService then
    if virtualImuTimeout < time - virtualImu.mLastValidDataTime then
      ({ virtualImu with mIsInService := false }, false)
    else
      (virtualImu, true)
  else
    (virtualImu, false)

/-- `ADI::getAttitude`, where the real sensor reports `imu`. The pointer `mVirtualImu` is set
when the instruments are wired, so it is not null.
-/
def ADI.getAttitude (virtualImu : VirtualImu α) (time : UnsignedLong) (imu : α)
    : VirtualImu α × α :=
  let (virtualImu, inService) := virtualImu.isInService time
  (virtualImu, if inService then virtualImu.mAttitude else imu)

/-- The calls, each with what `millis()` returns in it. -/
inductive SourceCall (α : Type*) where
  | updateAttitude (time : UnsignedLong) (attitude : α)
  | isInService (time : UnsignedLong)
  | getAttitude (time : UnsignedLong) (imu : α)

/-- What a call returns. -/
inductive SourceAnswer (α : Type*) where
  | updated
  | inService (answer : Bool)
  | attitude (answer : α)

/-- The time of a call. -/
def SourceCall.time : SourceCall α → UnsignedLong
  | .updateAttitude time _ => time
  | .isInService time => time
  | .getAttitude time _ => time

/-- One call, with its answer. -/
def VirtualImu.call (virtualImu : VirtualImu α) : SourceCall α → VirtualImu α × SourceAnswer α
  | .updateAttitude time attitude => (virtualImu.updateAttitude time attitude, .updated)
  | .isInService time =>
      let (virtualImu, answer) := virtualImu.isInService time
      (virtualImu, .inService answer)
  | .getAttitude time imu =>
      let (virtualImu, answer) := ADI.getAttitude virtualImu time imu
      (virtualImu, .attitude answer)

/-- The source under any calls. -/
def attitudeSource : Machine (VirtualImu α) (SourceCall α) (SourceAnswer α) where
  step := VirtualImu.call

-----------------------------------------------------------------------------------------
-- The stateless rule
-----------------------------------------------------------------------------------------

/-- The time and the attitude of an update. -/
def SourceCall.update : SourceCall α → Option (UnsignedLong × α)
  | .updateAttitude time attitude => some (time, attitude)
  | _ => none

/-- The latest update among the calls. -/
def latestUpdate (calls : List (SourceCall α)) : Option (UnsignedLong × α) :=
  (calls.filterMap SourceCall.update).getLast?

/-- The attitude of the latest update, if it was made at most 500 milliseconds ago. -/
def freshAttitude (calls : List (SourceCall α)) (time : UnsignedLong) : Option α :=
  match latestUpdate calls with
  | none => none
  | some (updated, attitude) =>
      if time.toNat - updated.toNat ≤ 500 then some attitude else none

/-- The answers that depend on the latest update and the time alone. -/
def statelessAnswer (calls : List (SourceCall α)) : SourceCall α → SourceAnswer α
  | .updateAttitude _ _ => .updated
  | .isInService time => .inService (freshAttitude calls time).isSome
  | .getAttitude time imu => .attitude ((freshAttitude calls time).getD imu)

/-- The calls are made in time order. -/
def InOrder (calls : List (SourceCall α)) : Prop :=
  calls.Pairwise (fun earlier later => earlier.time ≤ later.time)

/-- An update is the latest one of the calls that end with it. -/
theorem latestUpdate_concat (calls : List (SourceCall α)) (call : SourceCall α)
    : latestUpdate (calls ++ [call])
      = match call.update with
        | none => latestUpdate calls
        | some update => some update := by
  unfold latestUpdate
  cases updated : call.update with
  | none => simp [updated]
  | some update => simp [updated]

theorem latestUpdate_query (calls : List (SourceCall α)) {call : SourceCall α}
    (query : call.update = none)
    : latestUpdate (calls ++ [call]) = latestUpdate calls := by
  rw [latestUpdate_concat, query]

theorem mem_of_latestUpdate {calls : List (SourceCall α)} {updated : UnsignedLong}
    {attitude : α} (latest : latestUpdate calls = some (updated, attitude))
    : .updateAttitude updated attitude ∈ calls := by
  obtain ⟨call, member, update⟩ := List.mem_filterMap.mp (List.mem_of_getLast? latest)
  cases call with
  | updateAttitude time other =>
      obtain ⟨rfl, rfl⟩ := Prod.mk.inj (Option.some.inj update)
      exact member
  | isInService time => cases update
  | getAttitude time imu => cases update

-----------------------------------------------------------------------------------------
-- The latch follows the stateless rule
-----------------------------------------------------------------------------------------

/-- What the members say about the calls so far. A cleared flag means that no update has
been made, or that the latest one has been found too old by some call since.
-/
structure VirtualImu.Follows (virtualImu : VirtualImu α) (calls : List (SourceCall α)) : Prop
    where
  latest
    : ∀ updated attitude,
        latestUpdate calls = some (updated, attitude)
        → virtualImu.mLastValidDataTime = updated ∧ virtualImu.mAttitude = attitude
  fresh : virtualImu.mIsInService = true → latestUpdate calls ≠ none
  stale
    : virtualImu.mIsInService = false
      → ∀ updated attitude,
          latestUpdate calls = some (updated, attitude)
          → ∃ call ∈ calls, updated.toNat + 500 < call.time.toNat

theorem VirtualImu.new_follows (memory : α) : (VirtualImu.new memory).Follows [] where
  latest _ _ none := by cases none
  fresh set := by cases set
  stale _ _ _ none := by cases none

/-- Between times in order, the unsigned difference is the elapsed time. -/
theorem timeout_lt_iff {updated time : UnsignedLong} (order : updated ≤ time)
    : virtualImuTimeout < time - updated ↔ updated.toNat + 500 < time.toNat := by
  have elapsed : (time - updated).toNat = time.toNat - updated.toNat :=
    BitVec.toNat_sub_of_le order
  have constant : virtualImuTimeout.toNat = 500 := rfl
  rw [BitVec.lt_def, elapsed, constant]
  omega

/-- A latest update is fresh up to the timeout after it. -/
theorem freshAttitude_some {calls : List (SourceCall α)} {updated : UnsignedLong}
    {attitude : α} (latest : latestUpdate calls = some (updated, attitude))
    (time : UnsignedLong)
    : freshAttitude calls time
      = if updated.toNat + 500 < time.toNat then none else some attitude := by
  unfold freshAttitude
  rw [latest]
  dsimp only
  by_cases stale : updated.toNat + 500 < time.toNat
  · rw [if_pos stale, if_neg (by omega)]
  · rw [if_neg stale, if_pos (by omega)]

/-- A query that leaves the members alone changes nothing about them. -/
theorem VirtualImu.Follows.query {virtualImu : VirtualImu α} {calls : List (SourceCall α)}
    (follows : virtualImu.Follows calls) {call : SourceCall α} (query : call.update = none)
    : virtualImu.Follows (calls ++ [call]) := by
  have same := latestUpdate_query calls query
  constructor
  · rw [same]
    exact follows.latest
  · rw [same]
    exact follows.fresh
  · intro clear updated attitude latest
    rw [same] at latest
    obtain ⟨earlier, member, stale⟩ := follows.stale clear updated attitude latest
    exact ⟨earlier, List.mem_append_left _ member, stale⟩

/-- A query that finds the latest update too old may clear the flag. -/
theorem VirtualImu.Follows.clear {virtualImu : VirtualImu α} {calls : List (SourceCall α)}
    (follows : virtualImu.Follows calls) {call : SourceCall α} (query : call.update = none)
    (stale : virtualImu.mLastValidDataTime.toNat + 500 < call.time.toNat)
    : { virtualImu with mIsInService := false }.Follows (calls ++ [call]) := by
  have same := latestUpdate_query calls query
  constructor
  · rw [same]
    exact follows.latest
  · intro set
    cases set
  · intro _ updated attitude latest
    rw [same] at latest
    obtain ⟨rfl, _⟩ := follows.latest updated attitude latest
    exact ⟨call, List.mem_append_right _ List.mem_cons_self, stale⟩

/-- `isInService` makes the stateless test, and goes on following the calls.
Witness: a set flag is tested against the clock; a clear one has been found stale by an
earlier call, and the clock has not gone back since.
-/
theorem VirtualImu.Follows.isInService {virtualImu : VirtualImu α}
    {calls : List (SourceCall α)} (follows : virtualImu.Follows calls)
    (call : SourceCall α) (query : call.update = none)
    (order : ∀ earlier ∈ calls, earlier.time ≤ call.time)
    : freshAttitude calls call.time
        = (if (virtualImu.isInService call.time).2 then
            some (virtualImu.isInService call.time).1.mAttitude
          else
            none)
      ∧ (virtualImu.isInService call.time).1.Follows (calls ++ [call]) := by
  unfold VirtualImu.isInService
  cases flag : virtualImu.mIsInService with
  | false =>
      refine ⟨?_, follows.query query⟩
      rcases latest : latestUpdate calls with _ | ⟨updated, attitude⟩
      · simp [freshAttitude, latest]
      · obtain ⟨earlier, member, stale⟩ := follows.stale flag updated attitude latest
        have later : earlier.time.toNat ≤ call.time.toNat := order earlier member
        rw [freshAttitude_some latest, if_pos (by omega)]
        rfl
  | true =>
      rcases latest : latestUpdate calls with _ | ⟨updated, attitude⟩
      · exact absurd latest (follows.fresh flag)
      · obtain ⟨rfl, rfl⟩ := follows.latest updated attitude latest
        have elapsed : virtualImu.mLastValidDataTime ≤ call.time :=
          order _ (mem_of_latestUpdate latest)
        have timeout := timeout_lt_iff elapsed
        rw [freshAttitude_some latest]
        by_cases stale : virtualImu.mLastValidDataTime.toNat + 500 < call.time.toNat
        · simp only [if_true, if_pos (timeout.mpr stale), if_pos stale]
          exact ⟨rfl, follows.clear query stale⟩
        · simp only [if_true, if_neg (fun late => stale (timeout.mp late)), if_neg stale]
          exact ⟨trivial, follows.query query⟩

/-- An update is followed from the moment it is made. -/
theorem VirtualImu.updateAttitude_follows (virtualImu : VirtualImu α)
    (calls : List (SourceCall α)) (time : UnsignedLong) (attitude : α)
    : (virtualImu.updateAttitude time attitude).Follows
        (calls ++ [.updateAttitude time attitude]) := by
  have newest : latestUpdate (calls ++ [.updateAttitude time attitude])
      = some (time, attitude) := by
    rw [latestUpdate_concat]
    rfl
  constructor
  · intro updated other latest
    obtain ⟨rfl, rfl⟩ := Prod.mk.inj (Option.some.inj (newest.symm.trans latest))
    exact ⟨rfl, rfl⟩
  · intro _ none
    rw [newest] at none
    cases none
  · intro clear
    cases clear

/-- A call in time order answers the stateless rule, and the members go on following. -/
theorem VirtualImu.Follows.call {virtualImu : VirtualImu α} {calls : List (SourceCall α)}
    (follows : virtualImu.Follows calls) {call : SourceCall α}
    (order : ∀ earlier ∈ calls, earlier.time ≤ call.time)
    : (virtualImu.call call).2 = statelessAnswer calls call
      ∧ (virtualImu.call call).1.Follows (calls ++ [call]) := by
  cases call with
  | updateAttitude time attitude =>
      exact ⟨rfl, virtualImu.updateAttitude_follows calls time attitude⟩
  | isInService time =>
      obtain ⟨fresh, next⟩ := follows.isInService (.isInService time) rfl order
      have shown (flag : Bool) (attitude : α)
          : flag = (if flag then some attitude else none).isSome := by
        cases flag <;> rfl
      have same : (freshAttitude calls time).isSome = _ := congrArg Option.isSome fresh
      exact ⟨congrArg SourceAnswer.inService ((shown _ _).trans same.symm), next⟩
  | getAttitude time imu =>
      obtain ⟨fresh, next⟩ := follows.isInService (.getAttitude time imu) rfl order
      have chosen (flag : Bool) (attitude : α)
          : (if flag then attitude else imu)
            = (if flag then some attitude else none).getD imu := by
        cases flag <;> rfl
      have same : (freshAttitude calls time).getD imu = _ :=
        congrArg (fun attitude => Option.getD attitude imu) fresh
      exact ⟨congrArg SourceAnswer.attitude ((chosen _ _).trans same.symm), next⟩

/-- After any calls in time order the members follow them. Witness: induction over the
calls from the last one.
-/
theorem VirtualImu.run_follows (memory : α) {calls : List (SourceCall α)}
    (ordered : InOrder calls)
    : (attitudeSource.run (VirtualImu.new memory) calls).Follows calls := by
  induction calls using List.reverseRecOn with
  | nil => exact VirtualImu.new_follows memory
  | append_singleton calls call ih =>
      obtain ⟨before, _, last⟩ := List.pairwise_append.mp ordered
      rw [Machine.run_append]
      exact ((ih before).call (fun earlier member => last earlier member call (by simp))).2

/-- However updates and queries are interleaved, at times that do not decrease, each
`getAttitude` returns the attitude of the latest update if that was made at most 500
milliseconds ago, and the real sensor's otherwise; `isInService` answers the same test.
Witness: the members follow the calls, and each call is exact where they do.
-/
theorem attitudeSource_stateless (memory : α) (calls : List (SourceCall α))
    (call : SourceCall α) (ordered : InOrder (calls ++ [call]))
    : (attitudeSource.step (attitudeSource.run (VirtualImu.new memory) calls) call).2
      = statelessAnswer calls call := by
  obtain ⟨before, _, last⟩ := List.pairwise_append.mp ordered
  have follows := VirtualImu.run_follows memory before
  exact (follows.call (fun earlier member => last earlier member call (by simp))).1

/-- An update at the end of the clock's range is still fresh half a second later, after a
query in between, and the query that finds it stale does not bring it back.
-/
theorem attitudeSource_stateless_last
    : let calls : List (SourceCall Nat) :=
        [.updateAttitude 0xFFFFFFFFFFFFF000#64 1, .isInService 0xFFFFFFFFFFFFF100#64]
      (attitudeSource.step (attitudeSource.run (VirtualImu.new 0) calls)
          (.getAttitude 0xFFFFFFFFFFFFF1F4#64 2)).2
        = .attitude 1 :=
  attitudeSource_stateless 0 _ (.getAttitude 0xFFFFFFFFFFFFF1F4#64 2) (by
    simp [InOrder, SourceCall.time])

end Cooboc.FlightControl
