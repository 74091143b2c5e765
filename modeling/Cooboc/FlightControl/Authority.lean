import Mathlib.Data.List.Chain
import Cooboc.FlightControl.StatusController

/-! Exactly one authority over the servos. The enabled flags of three objects are a function
of the flight status, so that whoever writes an override is the owner of the status.
-/

namespace Cooboc.FlightControl

open Cooboc.Foundations

/-- (Alternates callbacks) says that takeovers and releases take turns, a takeover first. -/
def Alternates (callbacks : List Callback) : Prop :=
  callbacks.head? ≠ some .release ∧ callbacks.IsChain (· ≠ ·)

/-- (Switched callbacks enabled) says that the callbacks take turns and that the last of
them is a takeover exactly if the navigator is enabled.
-/
structure Switched (callbacks : List Callback) (enabled : Bool) : Prop where
  alternates : Alternates callbacks
  last : callbacks.getLast? = some .takeover ↔ enabled = true

theorem switched_nil : Switched [] false := ⟨⟨by simp, List.isChain_nil⟩, by simp⟩

/-- A callback that differs from the last one, or a takeover as the first, goes on in turn.
-/
theorem Alternates.concat {callbacks : List Callback} {callback : Callback}
    (alternates : Alternates callbacks)
    (turn : callbacks.getLast? ≠ some callback)
    (first : callbacks = [] → callback = .takeover)
    : Alternates (callbacks ++ [callback]) := by
  obtain ⟨start, turns⟩ := alternates
  refine ⟨?_, List.isChain_append.mpr ⟨turns, List.isChain_singleton _, ?_⟩⟩
  · cases callbacks with
    | nil => simp [first rfl]
    | cons head rest => exact start
  · intro last ends next same
    simp only [List.head?_cons, Option.mem_some] at same
    rintro rfl
    exact turn (same ▸ ends)

/-- `INavigator::setEnabled` keeps the flag and the callbacks in agreement.
Witness: a callback is made on a change only, and then differs from the last one.
-/
theorem Switched.setEnabled {callbacks : List Callback} {enabled : Bool}
    (switched : Switched callbacks enabled) (isEnabled : Bool)
    : Switched (callbacks ++ (INavigator.setEnabled enabled isEnabled).2.toList)
        (INavigator.setEnabled enabled isEnabled).1 := by
  obtain ⟨alternates, last⟩ := switched
  cases enabled with
  | false =>
      cases isEnabled with
      | false => simpa [INavigator.setEnabled] using Switched.mk alternates last
      | true =>
          refine ⟨alternates.concat ?_ (fun _ => rfl), ?_⟩
          · exact fun taken => Bool.false_ne_true (last.mp taken)
          · simp [INavigator.setEnabled]
  | true =>
      have taken := last.mpr rfl
      cases isEnabled with
      | false =>
          refine ⟨alternates.concat ?_ ?_, ?_⟩
          · simp [taken]
          · rintro rfl
            cases taken
          · simp [INavigator.setEnabled]
      | true => simpa [INavigator.setEnabled] using Switched.mk alternates last

-----------------------------------------------------------------------------------------
-- What a step can do
-----------------------------------------------------------------------------------------

/-- The callbacks of one navigator among the events. -/
def callbacksOf (navigator : Navigator) (events : List FlightEvent) : List Callback :=
  events.filterMap (fun event =>
    match event with
    | .callback other callback => if other = navigator then some callback else none
    | _ => none)

theorem callbacksOf_append (navigator : Navigator) (before after : List FlightEvent)
    : callbacksOf navigator (before ++ after)
      = callbacksOf navigator before ++ callbacksOf navigator after :=
  List.filterMap_append

theorem callbacksOf_callbacks (navigator other : Navigator) (callbacks : List Callback)
    : callbacksOf navigator (callbacks.map (.callback other))
      = if other = navigator then callbacks else [] := by
  by_cases same : other = navigator
  · simp [callbacksOf, List.filterMap_map, same]
  · simp [callbacksOf, List.filterMap_map, same]

/-- The navigator that a status enables. -/
def FlightStatus.navigator : FlightStatus → Option Navigator
  | .default => none
  | .manully => some .manullyNavigator
  | .attitude => some .attitudeNavigator

/-- The owner of a status: the only one to write overrides under it. -/
def FlightStatus.owner : FlightStatus → Option Writer
  | .default => none
  | .manully => some .manullyNavigator
  | .attitude => some .attitudeController

variable {R : Type*}

/-- The current flight status. -/
def FlightSystem.status (system : FlightSystem R) : FlightStatus :=
  system.statusController.mFlightStatus

/-- Whether a navigator is enabled. -/
def FlightSystem.enabled (system : FlightSystem R) : Navigator → Bool
  | .manullyNavigator => system.manullyNavigator.mIsEnabled
  | .attitudeNavigator => system.attitudeLoop.navigator.mIsEnabled

/-- (system.Authority) says that exactly the navigator of the current status is enabled, and
the attitude controller exactly with the attitude navigator.
-/
structure FlightSystem.Authority (system : FlightSystem R) : Prop where
  navigators
    : ∀ navigator, system.enabled navigator = true ↔ system.status.navigator = some navigator
  controller
    : system.attitudeLoop.controller.mIsEnabled = system.enabled .attitudeNavigator

/-- The wiring of `setupController`; the attitude navigator stands under two statuses. -/
def FlightStatus.wiring : FlightStatus → Navigator
  | .default => .attitudeNavigator
  | .manully => .manullyNavigator
  | .attitude => .attitudeNavigator

/-- (system.Wired) says that the pointers are those of `setupController`. -/
def FlightSystem.Wired (system : FlightSystem R) : Prop :=
  ∀ status, system.statusController.mNavigators status = some status.wiring

variable [Zero R]

/-- `setEnabled` on the attitude navigator sets its flag, makes the callbacks of
`INavigator`, and keeps a controller flag that agrees in agreement.
-/
theorem AttitudeLoop.setEnabled_spec (loop : AttitudeLoop R) (isEnabled : Bool)
    (atReset : Readings R) (currentAttitude : ImuAttitude R)
    : let changed := loop.setEnabled isEnabled atReset currentAttitude
      changed.1.navigator.mIsEnabled = isEnabled
      ∧ changed.2 = (INavigator.setEnabled loop.navigator.mIsEnabled isEnabled).2
      ∧ (loop.controller.mIsEnabled = loop.navigator.mIsEnabled
        → changed.1.controller.mIsEnabled = isEnabled) := by
  cases enabled : loop.navigator.mIsEnabled <;> cases isEnabled <;>
    simp [AttitudeLoop.setEnabled, INavigator.setEnabled, enabled, AttitudeLoop.onTakeover,
      AttitudeLoop.onRelease, AttitudeController.setEnabled]

theorem ManullyNavigator.setEnabled_spec (navigator : ManullyNavigator) (isEnabled : Bool)
    : (navigator.setEnabled isEnabled).1.mIsEnabled = isEnabled
      ∧ (navigator.setEnabled isEnabled).2
        = (INavigator.setEnabled navigator.mIsEnabled isEnabled).2 := by
  cases enabled : navigator.mIsEnabled <;> cases isEnabled <;>
    simp [ManullyNavigator.setEnabled, INavigator.setEnabled, enabled]

/-- `setEnabled` through a pointer sets the flag of that navigator and of no other, makes
its callbacks, and touches neither the status nor the wiring.
-/
theorem FlightSystem.setNavigatorEnabled_spec (system : FlightSystem R)
    (navigator : Navigator) (isEnabled : Bool)
    : let changed := system.setNavigatorEnabled (some navigator) isEnabled
      (∀ other,
          changed.1.enabled other
          = if other = navigator then isEnabled else system.enabled other)
      ∧ changed.2
        = (INavigator.setEnabled (system.enabled navigator) isEnabled).2.toList.map
            (.callback navigator)
      ∧ (system.attitudeLoop.controller.mIsEnabled = system.enabled .attitudeNavigator
        → changed.1.attitudeLoop.controller.mIsEnabled
          = changed.1.enabled .attitudeNavigator)
      ∧ changed.1.statusController = system.statusController := by
  cases navigator with
  | manullyNavigator =>
      obtain ⟨flag, callback⟩ := system.manullyNavigator.setEnabled_spec isEnabled
      refine ⟨?_, congrArg _ (congrArg _ callback), id, rfl⟩
      rintro (_ | _)
      · exact flag
      · rfl
  | attitudeNavigator =>
      obtain ⟨flag, callback, agree⟩ := system.attitudeLoop.setEnabled_spec isEnabled
        system.readings system.adi
      refine ⟨?_, congrArg _ (congrArg _ callback), ?_, rfl⟩
      · rintro (_ | _)
        · rfl
        · exact flag
      · exact fun before => (agree before).trans flag.symm

/-- `setEnabled` through a pointer keeps the callbacks of every navigator in turn. -/
theorem FlightSystem.setNavigatorEnabled_switched {system : FlightSystem R}
    {events : List FlightEvent}
    (switched
      : ∀ navigator, Switched (callbacksOf navigator events) (system.enabled navigator))
    (target : Navigator) (isEnabled : Bool) (navigator : Navigator)
    : Switched
        (callbacksOf navigator
          (events ++ (system.setNavigatorEnabled (some target) isEnabled).2))
        ((system.setNavigatorEnabled (some target) isEnabled).1.enabled navigator) := by
  obtain ⟨flags, callbacks, _, _⟩ := system.setNavigatorEnabled_spec target isEnabled
  rw [flags, callbacks, callbacksOf_append, callbacksOf_callbacks]
  by_cases same : navigator = target
  · subst same
    have next := (switched navigator).setEnabled isEnabled
    have flag : (INavigator.setEnabled (system.enabled navigator) isEnabled).1 = isEnabled := by
      unfold INavigator.setEnabled
      split <;> simp_all
    rw [flag] at next
    simpa using next
  · simpa [same, Ne.symm same] using switched navigator

/-- (Governed events system) collects what holds of the system and the events shown so far:
the wiring, the authority, callbacks in turn, and no override before the first change of
status.
-/
structure Governed (events : List FlightEvent) (system : FlightSystem R) : Prop where
  wired : system.Wired
  authority : system.Authority
  switched : ∀ navigator, Switched (callbacksOf navigator events) (system.enabled navigator)
  silent
    : system.status = .default → ∀ writer signal, .override writer signal ∉ events

/-- With the pointers wired, a change of status disables one navigator and enables another.
-/
theorem FlightSystem.onFlightStatusChange_eq {system : FlightSystem R}
    (wired : system.Wired) (status : FlightStatus)
    : let released := system.setNavigatorEnabled (some system.status.wiring) false
      let taken :=
        (released.1.setFlightStatus status).setNavigatorEnabled (some status.wiring) true
      system.onFlightStatusChange status = (taken.1, released.2 ++ taken.2) := by
  have old := wired system.statusController.mFlightStatus
  have new := wired status
  simp only [FlightSystem.onFlightStatusChange, old, new]
  rfl

/-- A change of status moves the authority to the navigator of the new status.
Witness: under the default status the old pointer is the attitude navigator, which is
disabled already; otherwise the two pointers differ.
-/
theorem FlightSystem.onFlightStatusChange_authority {system : FlightSystem R}
    (wired : system.Wired) (authority : system.Authority) {status : FlightStatus}
    (changed : status ≠ system.status) (flying : status ≠ .default)
    : (system.onFlightStatusChange status).1.Authority
      ∧ (system.onFlightStatusChange status).1.status = status
      ∧ (system.onFlightStatusChange status).1.Wired := by
  rw [FlightSystem.onFlightStatusChange_eq wired]
  let released := (system.setNavigatorEnabled (some system.status.wiring) false).1
  obtain ⟨releasedFlags, _, releasedAgree, releasedStatus⟩ :=
    system.setNavigatorEnabled_spec system.status.wiring false
  obtain ⟨takenFlags, _, takenAgree, takenStatus⟩ :=
    (released.setFlightStatus status).setNavigatorEnabled_spec status.wiring true
  have current : ((released.setFlightStatus status).setNavigatorEnabled
      (some status.wiring) true).1.status = status := by
    simp only [FlightSystem.status, takenStatus]
    rfl
  refine ⟨⟨fun navigator => ?_, takenAgree (releasedAgree authority.controller)⟩, current, ?_⟩
  · have before := authority.navigators navigator
    have middle : (released.setFlightStatus status).enabled navigator
        = if navigator = system.status.wiring then false else system.enabled navigator :=
      (by cases navigator <;> rfl : _ = released.enabled navigator).trans
        (releasedFlags navigator)
    rw [current, takenFlags, middle]
    revert before changed
    generalize system.status = old
    cases status with
    | default => exact absurd rfl flying
    | manully | attitude =>
        cases old <;> cases navigator <;>
          simp +contextual [FlightStatus.wiring, FlightStatus.navigator]
  · intro other
    rw [takenStatus]
    exact (congrArg (fun controller => controller.mNavigators other) releasedStatus).trans
      (wired other)

/-- A change of status keeps the callbacks of every navigator in turn. -/
theorem FlightSystem.onFlightStatusChange_switched {system : FlightSystem R}
    (wired : system.Wired) {events : List FlightEvent}
    (switched
      : ∀ navigator, Switched (callbacksOf navigator events) (system.enabled navigator))
    (status : FlightStatus) (navigator : Navigator)
    : Switched
        (callbacksOf navigator (events ++ (system.onFlightStatusChange status).2))
        ((system.onFlightStatusChange status).1.enabled navigator) := by
  rw [FlightSystem.onFlightStatusChange_eq wired, ← List.append_assoc]
  refine FlightSystem.setNavigatorEnabled_switched (fun other => ?_) status.wiring true
    navigator
  have released := FlightSystem.setNavigatorEnabled_switched switched system.status.wiring
    false other
  cases other <;> exact released

theorem FlightSystem.onFlightStatusChange_silent {system : FlightSystem R}
    (wired : system.Wired) (status : FlightStatus) (writer : Writer) (signal : ServoSignal)
    : .override writer signal ∉ (system.onFlightStatusChange status).2 := by
  rw [FlightSystem.onFlightStatusChange_eq wired]
  simp [(FlightSystem.setNavigatorEnabled_spec _ _ _).2.1]

omit [Zero R] in
/-- A task that writes changes the servo driver only, under its own name, and makes no
callback.
-/
theorem FlightSystem.writeServoSignal_spec (system : FlightSystem R) (writer : Writer)
    (signal : Option ServoSignal)
    : (∃ driver,
        (system.writeServoSignal writer signal).1 = { system with servoDriver := driver })
      ∧ (∀ navigator, callbacksOf navigator (system.writeServoSignal writer signal).2 = [])
      ∧ ∀ other written,
          .override other written ∈ (system.writeServoSignal writer signal).2
          → other = writer ∧ signal = some written := by
  cases signal with
  | none => exact ⟨⟨_, rfl⟩, fun _ => rfl, by simp [FlightSystem.writeServoSignal]⟩
  | some signal =>
      refine ⟨⟨_, rfl⟩, fun navigator => ?_, fun other written member => ?_⟩
      · simp [FlightSystem.writeServoSignal, callbacksOf, List.filterMap_map]
      · simp only [FlightSystem.writeServoSignal, List.mem_cons, FlightEvent.override.injEq,
          List.mem_map, reduceCtorEq, and_false, exists_false, or_false] at member
        exact ⟨member.1, congrArg some member.2.symm⟩

omit [Zero R] in
/-- A task that computes no signal while it is disabled writes only while it is enabled. -/
theorem FlightSystem.writeServoSignal_enabled (system : FlightSystem R) {writer : Writer}
    {signal : Option ServoSignal} {flag : Bool} (disabled : flag = false → signal = none)
    : ∀ other written,
        .override other written ∈ (system.writeServoSignal writer signal).2
        → other = writer ∧ flag = true := by
  intro other written member
  obtain ⟨same, wrote⟩ :=
    (system.writeServoSignal_spec writer signal).2.2 other written member
  refine ⟨same, ?_⟩
  by_contra off
  rw [disabled (Bool.eq_false_iff.mpr off)] at wrote
  cases wrote

omit [Zero R] in
/-- Which navigators are enabled depends on their own flags. -/
theorem FlightSystem.enabled_congr {system next : FlightSystem R}
    (manully : next.manullyNavigator.mIsEnabled = system.manullyNavigator.mIsEnabled)
    (attitude
      : next.attitudeLoop.navigator.mIsEnabled = system.attitudeLoop.navigator.mIsEnabled)
    : next.enabled = system.enabled := by
  funext navigator
  cases navigator with
  | manullyNavigator => exact manully
  | attitudeNavigator => exact attitude

variable [Add R] [Sub R] [Mul R] [Div R] [Neg R] [IntCast R] [LT R] [DecidableLT R]
  [DoubleMath R]

theorem decideFlightStatus_ne_default (signal : ServoSignal)
    : decideFlightStatus signal ≠ .default := by
  unfold decideFlightStatus
  split <;> exact nofun

/-- `AttitudeController::work` keeps its flag, and writes only if it is enabled. -/
theorem AttitudeController.work_enabled (controller : AttitudeController R)
    (readings : Readings R)
    : (controller.work readings).1.mIsEnabled = controller.mIsEnabled
      ∧ (controller.mIsEnabled = false → (controller.work readings).2 = none) := by
  unfold AttitudeController.work
  cases enabled : controller.mIsEnabled <;> simp [enabled]

/-- Every step but the status controller's leaves the flags, the status and the wiring, makes
no callback, and writes an override only for an enabled writer.
-/
theorem FlightSystem.step_cases (system : FlightSystem R) (step : FlightStep R)
    : step = .statusWork
      ∨ (system.step step).1.statusController = system.statusController
        ∧ (system.step step).1.enabled = system.enabled
        ∧ (system.step step).1.attitudeLoop.controller.mIsEnabled
          = system.attitudeLoop.controller.mIsEnabled
        ∧ (∀ navigator, callbacksOf navigator (system.step step).2 = [])
        ∧ ∀ writer signal,
            .override writer signal ∈ (system.step step).2
            → match writer with
              | .manullyNavigator => system.enabled .manullyNavigator = true
              | .attitudeController => system.attitudeLoop.controller.mIsEnabled = true := by
  cases step with
  | statusWork => exact .inl rfl
  | manullyWork =>
      have disabled : system.manullyNavigator.mIsEnabled = false
          → system.manullyNavigator.work system.servoDriver.mRawServoSignal = none := by
        intro off
        simp [ManullyNavigator.work, off]
      obtain ⟨⟨driver, changed⟩, quiet, _⟩ := system.writeServoSignal_spec .manullyNavigator
        (system.manullyNavigator.work system.servoDriver.mRawServoSignal)
      have stepped : (system.step .manullyWork).1 = { system with servoDriver := driver } :=
        changed
      rw [stepped]
      refine .inr ⟨rfl, rfl, rfl, quiet, fun writer signal member => ?_⟩
      obtain ⟨rfl, enabled⟩ :=
        system.writeServoSignal_enabled disabled writer signal member
      exact enabled
  | attitudeNavigatorWork =>
      refine .inr ⟨rfl, FlightSystem.enabled_congr rfl ?_, ?_, fun _ => rfl,
        by simp [FlightSystem.step]⟩
      · simp only [FlightSystem.step, AttitudeLoop.navigatorWork]
        split <;> rfl
      · simp only [FlightSystem.step, AttitudeLoop.navigatorWork]
        split <;> rfl
  | attitudeControllerWork =>
      let next : FlightSystem R :=
        { system with
          attitudeLoop := (system.attitudeLoop.controllerWork system.readings).1 }
      obtain ⟨flag, disabled⟩ := system.attitudeLoop.controller.work_enabled system.readings
      obtain ⟨⟨driver, changed⟩, quiet, _⟩ := next.writeServoSignal_spec .attitudeController
        (system.attitudeLoop.controllerWork system.readings).2
      have stepped : (system.step .attitudeControllerWork).1
          = { next with servoDriver := driver } :=
        changed
      rw [stepped]
      refine .inr ⟨rfl, FlightSystem.enabled_congr rfl rfl, flag, quiet,
        fun writer signal member => ?_⟩
      obtain ⟨rfl, enabled⟩ :=
        next.writeServoSignal_enabled disabled writer signal member
      exact enabled
  | setTunning p i d =>
      exact .inr ⟨rfl, FlightSystem.enabled_congr rfl rfl, rfl, fun _ => rfl,
        by simp [FlightSystem.step]⟩
  | decode message =>
      exact .inr ⟨rfl, FlightSystem.enabled_congr rfl rfl, rfl, fun _ => rfl,
        by simp [FlightSystem.step]⟩
  | measure attitude =>
      exact .inr ⟨rfl, FlightSystem.enabled_congr rfl rfl, rfl, fun _ => rfl,
        by simp [FlightSystem.step]⟩

/-- Only the owner of the current status writes an override. Witness: a writer is enabled,
and the authority ties the enabled flags to the status.
-/
theorem FlightSystem.Authority.override_owner {system : FlightSystem R}
    (wired : system.Wired) (authority : system.Authority) {step : FlightStep R}
    {writer : Writer} {signal : ServoSignal}
    (member : .override writer signal ∈ (system.step step).2)
    : system.status.owner = some writer := by
  rcases system.step_cases step with rfl | ⟨_, _, _, _, written⟩
  · simp only [FlightSystem.step, FlightSystem.statusWork] at member
    split at member
    · exact absurd member (FlightSystem.onFlightStatusChange_silent wired _ writer signal)
    · cases member
  · have enabled := written writer signal member
    cases writer with
    | manullyNavigator =>
        have current := (authority.navigators .manullyNavigator).mp enabled
        revert current
        cases system.status <;> simp [FlightStatus.navigator, FlightStatus.owner]
    | attitudeController =>
        have current := (authority.navigators .attitudeNavigator).mp
          (authority.controller ▸ enabled)
        revert current
        cases system.status <;> simp [FlightStatus.navigator, FlightStatus.owner]

/-- A change of status is never a change to the default status. -/
theorem FlightSystem.step_status {system : FlightSystem R} (wired : system.Wired)
    (authority : system.Authority) (step : FlightStep R)
    (started : system.status ≠ .default)
    : (system.step step).1.status ≠ .default := by
  rcases system.step_cases step with rfl | ⟨kept, _⟩
  · simp only [FlightSystem.step, FlightSystem.statusWork]
    split
    · rename_i changed
      have flying := decideFlightStatus_ne_default system.servoDriver.mRawServoSignal
      rw [(FlightSystem.onFlightStatusChange_authority wired authority changed flying).2.1]
      exact flying
    · exact started
  · simpa only [FlightSystem.status, kept] using started

-----------------------------------------------------------------------------------------
-- Every run
-----------------------------------------------------------------------------------------

/-- Every step keeps what governs the system. Witness: a change of status moves the
authority; any other step leaves the flags alone and can write under a flown status only.
-/
theorem Governed.step {system : FlightSystem R} {events : List FlightEvent}
    (governed : Governed events system) (step : FlightStep R)
    : Governed (events ++ (system.step step).2) (system.step step).1 := by
  obtain ⟨wired, authority, switched, silent⟩ := governed
  have quiet : (system.step step).1.status = .default
      → ∀ writer signal, .override writer signal ∉ events ++ (system.step step).2 := by
    intro resting writer signal member
    have before : system.status = .default := by
      by_contra started
      exact FlightSystem.step_status wired authority step started resting
    rcases List.mem_append.mp member with earlier | now
    · exact silent before writer signal earlier
    · have owner := authority.override_owner wired now
      rw [before] at owner
      cases owner
  rcases system.step_cases step with rfl | ⟨kept, flags, controller, callbacks, _⟩
  · by_cases changed
      : decideFlightStatus system.servoDriver.mRawServoSignal ≠ system.status
    · have work : system.step .statusWork
          = system.onFlightStatusChange
              (decideFlightStatus system.servoDriver.mRawServoSignal) :=
        if_pos changed
      rw [work] at quiet ⊢
      obtain ⟨moved, _, rewired⟩ := FlightSystem.onFlightStatusChange_authority wired
        authority changed (decideFlightStatus_ne_default _)
      exact ⟨rewired, moved, FlightSystem.onFlightStatusChange_switched wired switched _, quiet⟩
    · have work : system.step .statusWork = (system, []) := if_neg changed
      rw [work] at quiet ⊢
      exact ⟨wired, authority, by simpa using switched, quiet⟩
  · refine ⟨fun status => ?_, ⟨fun navigator => ?_, ?_⟩, fun navigator => ?_, quiet⟩
    · rw [kept]
      exact wired status
    · rw [flags, FlightSystem.status, kept]
      exact authority.navigators navigator
    · rw [flags, controller]
      exact authority.controller
    · rw [callbacksOf_append, callbacks, List.append_nil, flags]
      exact switched navigator

omit [Add R] [Sub R] [Mul R] [Div R] [Neg R] [LT R] [DecidableLT R] [DoubleMath R] in
theorem setupController_governed (servoDriver : SerialServoDriver) (adi : ImuAttitude R)
    : Governed [] (setupController servoDriver adi) where
  wired status := by cases status <;> rfl
  authority := ⟨fun navigator => by cases navigator <;> exact ⟨nofun, nofun⟩, rfl⟩
  switched navigator := by cases navigator <;> exact switched_nil
  silent _ _ _ := List.not_mem_nil

/-- Every run of the wired system is governed, with the events it shows. -/
theorem run_governed (servoDriver : SerialServoDriver) (adi : ImuAttitude R)
    (steps : List (FlightStep R))
    : Governed (flight.outputs (setupController servoDriver adi) steps).flatten
        (flight.run (setupController servoDriver adi) steps) :=
  flight.run_trace (fun trace system => Governed trace.flatten system)
    (setupController_governed servoDriver adi)
    (fun trace system step governed => by
      have next := governed.step step
      rw [List.flatten_append, List.flatten_cons, List.flatten_nil, List.append_nil]
      exact next)
    steps

/-- Once it is left, the default status is never reached again. -/
theorem run_status {system : FlightSystem R} {events : List FlightEvent}
    (governed : Governed events system) (started : system.status ≠ .default)
    (steps : List (FlightStep R))
    : (flight.run system steps).status ≠ .default := by
  induction steps generalizing system events with
  | nil => exact started
  | cons step rest ih =>
      exact ih (governed.step step)
        (FlightSystem.step_status governed.wired governed.authority step started)

/-- In every state that the tasks reach, in any order and with any readings between them:
exactly the navigator of the flight status is enabled, and the attitude controller with the
attitude navigator; nothing has been written under the default status; the next override
comes from the owner of the status; each navigator's callbacks alternate, a takeover first;
and the default status is not reached again.
-/
theorem one_authority (servoDriver : SerialServoDriver) (adi : ImuAttitude R)
    (steps : List (FlightStep R))
    : let system := flight.run (setupController servoDriver adi) steps
      let events := (flight.outputs (setupController servoDriver adi) steps).flatten
      (∀ navigator,
          system.enabled navigator = true ↔ system.status.navigator = some navigator)
      ∧ (system.attitudeLoop.controller.mIsEnabled = true ↔ system.status = .attitude)
      ∧ (system.status = .default → ∀ writer signal, .override writer signal ∉ events)
      ∧ (∀ step writer signal,
          .override writer signal ∈ (system.step step).2
          → system.status.owner = some writer)
      ∧ (∀ navigator, Alternates (callbacksOf navigator events))
      ∧ (∀ later,
          system.status ≠ .default → (flight.run system later).status ≠ .default) := by
  have governed := run_governed servoDriver adi steps
  refine ⟨governed.authority.navigators, ?_, governed.silent, ?_, ?_, ?_⟩
  · rw [governed.authority.controller, governed.authority.navigators]
    generalize FlightSystem.status _ = status
    cases status <;> simp [FlightStatus.navigator]
  · exact fun _ _ _ member => governed.authority.override_owner governed.wired member
  · exact fun navigator => (governed.switched navigator).alternates
  · exact fun later started => run_status governed started later

end Cooboc.FlightControl
