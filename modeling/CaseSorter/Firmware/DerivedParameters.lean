import CaseSorter.Firmware.Effects

/-! The variables the sketch computes from its configuration. The dispatcher stores a new
value and answers with an action; the sketch recomputes what the action names. -/

namespace CaseSorter.Firmware

/-- Every derived variable has the value its defining expression gives. -/
structure Derived (c : Configuration) (d : Drive) : Prop where
  dropDelay : d.dropDelay = if c.airDropEnabled then c.airDropPostDelay else c.slotDropDelay
  autoMotorStandbyTimeoutMs :
    d.autoMotorStandbyTimeoutMs = UInt32.ofNat (c.autoMotorStandbyTimeout * 1000)
  feedMotorSpeed : d.feedMotorSpeed = convertSpeedToDelay c.feedSpeed
  sortMotorSpeed : d.sortMotorSpeed = convertSpeedToDelay c.sortSpeed
  feedMicroSteps : d.feedMicroSteps = c.feedSteps * feedMicrosteps
  feedOverTravelSteps : d.feedOverTravelSteps =
    c.feedSteps * feedMicrosteps - feedOverstepThreshold * feedMicrosteps
  feedHomingOffset : d.feedHomingOffset = c.feedHomingOffset * feedMicrosteps
  sortHomingOffset : d.sortHomingOffset = c.sortHomingOffset * sortMicrosteps

/-- What `d` changes in `c` defines only variables that the action recomputes. -/
structure Refreshes (action : V1Action) (c d : Configuration) : Prop where
  dropDelay : action = .applyDropDelay ∨ (d.airDropEnabled = c.airDropEnabled ∧
    d.airDropPostDelay = c.airDropPostDelay ∧ d.slotDropDelay = c.slotDropDelay)
  standby : action = .applyAutoMotorStandbyTimeout ∨
    d.autoMotorStandbyTimeout = c.autoMotorStandbyTimeout
  feedSpeed : action = .applyFeedSpeed ∨ d.feedSpeed = c.feedSpeed
  sortSpeed : action = .applySortSpeed ∨ d.sortSpeed = c.sortSpeed
  feedSteps : action = .applyFeedSteps ∨ d.feedSteps = c.feedSteps
  feedHomingOffset : action = .applyFeedHomingOffset ∨ d.feedHomingOffset = c.feedHomingOffset
  sortHomingOffset : action = .applySortHomingOffset ∨ d.sortHomingOffset = c.sortHomingOffset

theorem Refreshes.refl (action : V1Action) (c : Configuration) : Refreshes action c c :=
  ⟨.inr ⟨rfl, rfl, rfl⟩, .inr rfl, .inr rfl, .inr rfl, .inr rfl, .inr rfl, .inr rfl⟩

def V1Action.recomputes : V1Action → Bool
  | .applyFeedSpeed | .applySortSpeed | .applyFeedHomingOffset | .applySortHomingOffset
  | .applyFeedSteps | .applyDropDelay | .applyAutoMotorStandbyTimeout => true
  | _ => false

theorem Refreshes.unmoved {action : V1Action} {c d : Configuration} (h : Refreshes action c d)
    (other : action.recomputes = false) : Refreshes .none c d := by
  cases action <;> first
    | exact absurd other (by decide)
    | exact ⟨by simpa using h.1, by simpa using h.2, by simpa using h.3, by simpa using h.4,
        by simpa using h.5, by simpa using h.6, by simpa using h.7⟩

theorem boundedSetter_refreshes {command : Bytes} {kind : V1Command} {c : Configuration}
    {limits : V1DispatchLimits} {store : Nat → Configuration} {result : Nat → V1DispatchResult}
    (accept : ∀ value, Refreshes (result value).action c (store value)) :
    Refreshes (boundedSetter command kind c limits store result).1.action c
      (boundedSetter command kind c limits store result).2 := by
  unfold boundedSetter
  split
  · exact .refl _ c
  · split
    · exact .refl _ c
    · exact accept _

theorem dispatchPosition_refreshes (text : Bytes) (kind : V1Command) (c : Configuration)
    (limits : V1DispatchLimits) (action : V1Action) (output : V1Output) :
    Refreshes (dispatchPosition text kind c limits action output).1.action c
      (dispatchPosition text kind c limits action output).2 := by
  unfold dispatchPosition
  split <;> exact .refl _ c

theorem dispatchV1Setter_refreshes (command : Bytes) (kind : V1Command)
    (context : V1DispatchContext) (c : Configuration) (limits : V1DispatchLimits) :
    Refreshes (dispatchV1Setter command kind context c limits).1.action c
      (dispatchV1Setter command kind context c limits).2 := by
  cases kind
  case debounceTimeout | debounceTime | notificationDelay | airDropPreDelay
      | airDropSignalDuration =>
    exact boundedSetter_refreshes fun value => { Refreshes.refl _ c with }
  case feedSpeed =>
    exact boundedSetter_refreshes fun value => { Refreshes.refl _ c with feedSpeed := .inl rfl }
  case sortSpeed =>
    exact boundedSetter_refreshes fun value => { Refreshes.refl _ c with sortSpeed := .inl rfl }
  case feedSteps =>
    exact boundedSetter_refreshes fun value => { Refreshes.refl _ c with feedSteps := .inl rfl }
  case feedHomingOffset =>
    exact boundedSetter_refreshes fun value =>
      { Refreshes.refl _ c with feedHomingOffset := .inl rfl }
  case sortHomingOffset =>
    exact boundedSetter_refreshes fun value =>
      { Refreshes.refl _ c with sortHomingOffset := .inl rfl }
  case slotDropDelay | airDropPostDelay =>
    exact boundedSetter_refreshes fun value => { Refreshes.refl _ c with dropDelay := .inl rfl }
  case airDropEnabled =>
    simp only [dispatchV1Setter]
    split
    · exact .refl _ c
    · exact { Refreshes.refl _ c with dropDelay := .inl rfl }
  case autoMotorStandbyTimeout =>
    simp only [dispatchV1Setter]
    split
    · exact .refl _ c
    · exact { Refreshes.refl _ c with standby := .inl rfl }
  case cameraLedLevel =>
    simp only [dispatchV1Setter]
    split
    · exact .refl _ c
    · exact { Refreshes.refl _ c with }
  case sortSteps =>
    simp only [dispatchV1Setter, dispatchSortSteps]
    split
    · exact .refl _ c
    · split_ifs
      · exact .refl _ c
      · exact { Refreshes.refl _ c with }
  case slotCount =>
    simp only [dispatchV1Setter, dispatchSlotCount]
    split
    · exact .refl _ c
    · split_ifs
      · exact .refl _ c
      · exact { Refreshes.refl _ c with }
  case test | sortTest =>
    simp only [dispatchV1Setter]
    split <;> exact .refl _ c
  all_goals exact .refl _ c

theorem dispatchV1Command_refreshes (command : Bytes) (context : V1DispatchContext)
    (c : Configuration) (limits : V1DispatchLimits) :
    Refreshes (dispatchV1Command command context c limits).1.action c
      (dispatchV1Command command context c limits).2 := by
  simp only [dispatchV1Command]
  split_ifs <;> try exact .refl _ c
  split
  all_goals first
    | exact .refl _ c
    | exact dispatchPosition_refreshes _ _ _ _ _ _
    | exact dispatchV1Setter_refreshes _ _ _ _ _

theorem Asked.refreshes {s : State} {result : V1DispatchResult} {c : Configuration}
    (asked : Asked s result c) : Refreshes result.action s.configuration c := by
  obtain ⟨command, context, -, -, dispatch⟩ := asked
  have refreshes := dispatchV1Command_refreshes command context s.configuration v1DispatchLimits
  rw [dispatch] at refreshes
  exact refreshes

def SameParameters (d e : Drive) : Prop :=
  e = { d with feedDelayMs := e.feedDelayMs, sortDelayMs := e.sortDelayMs }

theorem SameParameters.trans {d e f : Drive} (h : SameParameters d e) (h' : SameParameters e f) :
    SameParameters d f := by
  unfold SameParameters at *
  rw [h', h]

namespace State

theorem updateRecoveryCompletion_drive (s : State) (axis : MachineAxis) :
    (s.updateRecoveryCompletion axis).drive = s.drive := by
  dsimp only [updateRecoveryCompletion]
  split_ifs <;> rfl

theorem reportMotion_drive (s : State) (slot : Int)
    (finished : PhysicalRequestTracker × PhysicalRequestTransition) :
    (s.reportMotion slot finished).drive = s.drive := by
  rw [s.reportMotion_machine]

theorem scheduleRun_drive (s : State) (t : Ticks) : (s.scheduleRun t).drive = s.drive := by
  dsimp only [scheduleRun]
  split_ifs <;> rfl

theorem queueFeed_drive (s : State) (position : Int) (t : Ticks) :
    (s.queueFeed position t).drive = s.drive := by
  refine (scheduleRun_drive _ t).trans ?_
  dsimp only [scheduleFeed, moveSorterToNextPosition]
  split_ifs <;> rfl

theorem feedHomingEnds_drive (s : State) (now : UInt32) :
    (s.feedHomingEnds now).drive = s.drive := by
  have recovered := (s.stopFeedHoming now).updateRecoveryCompletion_drive .feeder
  dsimp only [feedHomingEnds]
  split_ifs <;> exact recovered

theorem completeFeedHoming_parameters (s : State) (now : UInt32) :
    SameParameters s.drive (s.completeFeedHoming now).drive := by
  have ended := s.feedHomingEnds_drive now
  dsimp only [completeFeedHoming]
  split_ifs
  · rw [← ended]
    rfl
  · rw [reportMotion_drive, ended]
    rfl

theorem feedHomingOffsetStep_parameters (s : State) (now : UInt32) :
    SameParameters s.drive (s.feedHomingOffsetStep now).drive := by
  unfold feedHomingOffsetStep
  split_ifs
  · rfl
  · exact s.completeFeedHoming_parameters now
  · rfl
  · exact s.completeFeedHoming_parameters now

theorem homeFeedMotor_parameters (s : State) (sensor : Bool) (now : UInt32) :
    SameParameters s.drive (s.homeFeedMotor sensor now).drive := by
  dsimp only [homeFeedMotor]
  split_ifs
  · exact s.completeFeedHoming_parameters now
  · exact feedHomingOffsetStep_parameters _ now
  · rfl
  · exact s.feedHomingOffsetStep_parameters now

theorem homeSortMotor_drive (s : State) (sensor : Bool) (now : UInt32) :
    (s.homeSortMotor sensor now).drive = s.drive := by
  have homed : ∀ s : State, (s.completeSorterRecoveryHoming now).drive = s.drive := by
    intro s
    unfold completeSorterRecoveryHoming
    rw [reportMotion_drive]
    exact updateRecoveryCompletion_drive _ .sorter
  have found : (s.recoverySearch sensor).drive = s.drive := by
    unfold recoverySearch searchStep
    split_ifs <;> rfl
  unfold homeSortMotor searchStep sortHomingOffsetStep
  split_ifs <;> first | rfl | exact found | exact (homed _).trans found | exact homed _

theorem feedCompletionTurns_drive (turns : Nat) (s : State) (now : UInt32) :
    (feedCompletionTurns turns s now).drive = s.drive := by
  induction turns generalizing s with
  | zero => rfl
  | succ turns ih =>
    unfold feedCompletionTurns
    dsimp only
    split
    · rfl
    · exact ih _
    · exact ih _
    · rfl

theorem onFeedComplete_drive (s : State) (now : UInt32) :
    (s.onFeedComplete now).drive = s.drive := by
  dsimp only [onFeedComplete]
  split_ifs
  · rfl
  · rfl
  · exact feedCompletionTurns_drive 3 _ now
  · exact feedCompletionTurns_drive 3 _ now
  · exact feedCompletionTurns_drive 3 _ now

theorem runAux_drive (s : State) (raw sortRaw : Nat) (t : Ticks) (now : UInt32) :
    (s.runAux raw sortRaw t now).drive = s.drive := by
  have tested : (s.runTestCycle raw t).drive = s.drive := by
    dsimp only [runTestCycle]
    split_ifs
    · exact s.queueFeed_drive _ t
    · rfl
    · rfl
  dsimp only [runAux, runSortTestCycle]
  split_ifs <;> first | rfl | exact tested

theorem checkFeedErrors_drive (s : State) : s.checkFeedErrors.drive = s.drive := by
  dsimp only [checkFeedErrors]
  split_ifs
  · rw [s.feedOvertravel.reportFeedOvertravel_machine]
    dsimp only [feedOvertravel]
    split_ifs <;> rfl
  · rfl

end State

theorem exec_parameters (s : State) (routine : Routine)
    (motion : ∀ byte t, routine ≠ .serialByte byte t)
    (pending : ∀ t, routine ≠ .dispatchPending t) :
    SameParameters s.drive (exec s routine).drive := by
  cases routine with
  | serialByte byte t => exact absurd rfl (motion byte t)
  | dispatchPending t => exact absurd rfl (pending t)
  | getProxState sensor now => rfl
  | updateSlotDropGate now =>
    dsimp only [exec, State.updateSlotDropGate]
    split_ifs <;> rfl
  | runSortMotor =>
    dsimp only [exec, State.runSortMotor, State.slotZeroPass]
    split_ifs <;> rfl
  | onSortComplete now =>
    dsimp only [exec, State.onSortComplete]
    split_ifs
    · rw [State.reportMotion_drive]
      rfl
    · rfl
  | scheduleRun t =>
    dsimp only [exec]
    rw [s.scheduleRun_drive t]
    rfl
  | checkFeedErrors =>
    dsimp only [exec]
    rw [s.checkFeedErrors_drive]
    rfl
  | runFeedMotor =>
    dsimp only [exec, State.runFeedMotor]
    split_ifs <;> rfl
  | homeFeedMotor sensor now => exact s.homeFeedMotor_parameters sensor now
  | homeSortMotor sensor now =>
    dsimp only [exec]
    rw [s.homeSortMotor_drive sensor now]
    rfl
  | serviceSorterJog =>
    dsimp only [exec, State.serviceSorterJog, State.sorterJogEnds]
    split_ifs <;> rfl
  | onFeedComplete now =>
    dsimp only [exec]
    rw [s.onFeedComplete_drive now]
    rfl
  | runAux raw sortRaw t now =>
    dsimp only [exec]
    rw [s.runAux_drive raw sortRaw t now]
    rfl
  | motorStandByCheck now =>
    dsimp only [exec, State.motorStandByCheck]
    split_ifs <;> rfl
  | serviceV2PhysicalRequest =>
    dsimp only [exec, State.serviceV2PhysicalRequest]
    split_ifs <;> rfl
  | emitV2StateIfChanged =>
    dsimp only [exec]
    rw [s.emitV2StateIfChanged_linkOnly.machine]
    rfl

namespace Derived

theorem of_sameParameters {c : Configuration} {d e : Drive} (h : Derived c d)
    (same : SameParameters d e) : Derived c e := by
  rw [same]
  exact ⟨h.1, h.2, h.3, h.4, h.5, h.6, h.7, h.8⟩

theorem of_unmoved {c d : Configuration} {e : Drive} (h : Derived c e)
    (same : Refreshes .none c d) : Derived d e := by
  obtain ⟨delay, standby, feedSpeed, sortSpeed, feedSteps, feedOffset, sortOffset⟩ := same
  simp only [reduceCtorEq, false_or] at *
  constructor
  · rw [delay.1, delay.2.1, delay.2.2, h.dropDelay]
  · rw [standby, h.autoMotorStandbyTimeoutMs]
  · rw [feedSpeed, h.feedMotorSpeed]
  · rw [sortSpeed, h.sortMotorSpeed]
  · rw [feedSteps, h.feedMicroSteps]
  · rw [feedSteps, h.feedOverTravelSteps]
  · rw [feedOffset, h.feedHomingOffset]
  · rw [sortOffset, h.sortHomingOffset]

theorem applyV1Action {s : State} {result : V1DispatchResult} {c : Configuration} (t : Ticks)
    (h : Derived c s.drive) (refreshes : Refreshes result.action c s.configuration) :
    Derived (s.applyV1Action result t).configuration (s.applyV1Action result t).drive := by
  have unmoved (other : result.action.recomputes = false) :=
    h.of_unmoved (refreshes.unmoved other)
  unfold State.applyV1Action
  cases action : result.action <;> rw [action] at refreshes unmoved
  case none | queuePending => exact unmoved rfl
  case stop | homeFeeder | homeSorter | sortTo | startTest | startSortTest | applyCameraLedLevel =>
    have kept := unmoved rfl
    exact ⟨kept.1, kept.2, kept.3, kept.4, kept.5, kept.6, kept.7, kept.8⟩
  case queueFeed | queueForcedFeed =>
    dsimp only
    rw [State.queueFeed_configuration, State.queueFeed_drive]
    exact unmoved rfl
  all_goals
    obtain ⟨delay, standby, feedSpeed, sortSpeed, feedSteps, feedOffset, sortOffset⟩ :=
      refreshes
    simp only [reduceCtorEq, false_or, true_or] at *
    obtain ⟨h1, h2, h3, h4, h5, h6, h7, h8⟩ := h
    constructor <;> simp_all [State.setFeedMotorSpeed, State.setSorterMotorSpeed]

theorem commanded {s t : State} (h : Derived s.configuration s.drive) (step : Commanded s t) :
    Derived t.configuration t.drive := by
  cases step with
  | quiet same =>
    rw [same.machine]
    exact h
  | stopped stop =>
    rw [stop.machine]
    exact h
  | switched idle machine tracker latched =>
    rw [machine]
    exact h
  | acted s₁ result ticks idle asked prepared permitted done =>
    have drive : s₁.drive = s.drive := by rw [prepared.machine]
    rw [done.machine]
    exact applyV1Action ticks (drive ▸ h) asked.refreshes

theorem boot (now : UInt32) : Derived (Firmware.boot now).configuration (Firmware.boot now).drive :=
  ⟨rfl, (by decide : (60000 : UInt32) = UInt32.ofNat (60 * 1000)), rfl, rfl, rfl, rfl, rfl, rfl⟩

theorem exec {s : State} (h : Derived s.configuration s.drive) (routine : Routine) :
    Derived (Firmware.exec s routine).configuration (Firmware.exec s routine).drive := by
  by_cases byte : ∃ b t, routine = .serialByte b t
  · obtain ⟨b, t, rfl⟩ := byte
    exact h.commanded (s.serialByte_commanded b t)
  by_cases pending : ∃ t, routine = .dispatchPending t
  · obtain ⟨t, rfl⟩ := pending
    exact h.commanded (s.dispatchPending_commanded t)
  have motion : ∀ b t, routine ≠ .serialByte b t := fun b t eq => byte ⟨b, t, eq⟩
  have other : ∀ t, routine ≠ .dispatchPending t := fun t eq => pending ⟨t, eq⟩
  rw [exec_configuration s routine motion other]
  exact h.of_sameParameters (exec_parameters s routine motion other)

end Derived

/-- The derived variables follow the configuration in every state a run reaches. -/
theorem derived_follow (now : UInt32) (routines : List Routine) :
    Derived (execAll (boot now) routines).configuration (execAll (boot now) routines).drive := by
  have keeps : ∀ s : State, Derived s.configuration s.drive →
      Derived (execAll s routines).configuration (execAll s routines).drive := by
    induction routines with
    | nil => exact fun s h => h
    | cons routine routines ih => exact fun s h => ih _ (h.exec routine)
  exact keeps _ (.boot now)

end CaseSorter.Firmware
