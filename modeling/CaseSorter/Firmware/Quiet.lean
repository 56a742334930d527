import CaseSorter.Firmware.Sketch

/-! Iterations of `loop()` in which only the sorter moves: no line arrives, no feed, homing
of the feeder or test is going on, and the host has been told the current phase. Each of
the three motions of the sorter then makes one pulse an iteration. -/

namespace CaseSorter.Firmware

/-- The v2 host knows the mode and the phase. -/
structure Reported (s : State) : Prop where
  request : s.link.physicalRequestTracker.active →
    s.link.physicalRequestTracker.phase = s.currentPhase
  state : s.link.session.mode = .v2 → s.link.faultStateTracker.stateKnown ∧
    s.link.faultStateTracker.mode = s.machineState.mode.code ∧
    s.link.faultStateTracker.phase = s.currentPhase.code

structure Quiet (s : State) (i : LoopInput) : Prop where
  serial : i.serial = []
  pending : s.link.pendingCommand.available = false
  sensor : i.feedSensor = s.proxActivated
  settled : s.proximitySettler.observe i.proximity i.feedSensor
    (UInt32.ofNat s.configuration.debounceTimeout) = s.proximitySettler
  gate : s.sorter.slotDropGate.active = false
  scheduled : s.feeder.feedScheduled = false
  feeding : s.feeder.isFeeding = false
  feedHoming : s.feeder.isFeedHoming = false
  feedHomingOffset : s.feeder.isFeedHomingOffset = false
  cycleComplete : s.feeder.feedCycleComplete = false
  completion : s.feedCompletion.state = .idle
  testCycle : s.diagnostics.isTestCycle = false
  sortTestCycle : s.diagnostics.isSortTestCycle = false
  reported : Reported s

instance (s : State) : Decidable (Reported s) :=
  decidable_of_iff (_ ∧ _) ⟨fun ⟨h1, h2⟩ => ⟨h1, h2⟩,
    fun ⟨h1, h2⟩ => ⟨h1, h2⟩⟩

instance (s : State) (i : LoopInput) : Decidable (Quiet s i) :=
  decidable_of_iff (_ ∧ _ ∧ _ ∧ _ ∧ _ ∧ _ ∧ _ ∧ _ ∧ _ ∧ _ ∧ _ ∧ _ ∧ _ ∧ _)
    ⟨fun ⟨h1, h2, h3, h4, h5, h6, h7, h8, h9, h10, h11, h12, h13, h14⟩ =>
      ⟨h1, h2, h3, h4, h5, h6, h7, h8, h9, h10, h11, h12, h13, h14⟩,
    fun ⟨h1, h2, h3, h4, h5, h6, h7, h8, h9, h10, h11, h12, h13, h14⟩ =>
      ⟨h1, h2, h3, h4, h5, h6, h7, h8, h9, h10, h11, h12, h13, h14⟩⟩

namespace State

theorem dispatchPending_empty {s : State} (h : s.link.pendingCommand.available = false)
    (t : Ticks) : s.dispatchPending t = s := by
  simp [dispatchPending, h]

theorem getProxState_settled {s : State} {sensor : Bool} {now : UInt32}
    (active : sensor = s.proxActivated)
    (settled : s.proximitySettler.observe now sensor
      (UInt32.ofNat s.configuration.debounceTimeout) = s.proximitySettler) :
    s.getProxState sensor now = s := by
  rw [getProxState, settled, active]

theorem updateSlotDropGate_inactive {s : State} (h : s.sorter.slotDropGate.active = false)
    (now : UInt32) : s.updateSlotDropGate now = s := by
  simp [updateSlotDropGate, RuntimeTimer.hasElapsed, h]

theorem runSortMotor_still {s : State} (h : s.sorter.isSorting = false) : s.runSortMotor = s := by
  simp [runSortMotor, h]

theorem onSortComplete_unfinished {s : State}
    (h : (s.sorter.sortInProgress && s.sorter.sortComplete) = false) (now : UInt32) :
    s.onSortComplete now = s := by
  simp [onSortComplete, h]

theorem scheduleRun_unscheduled {s : State} (h : s.feeder.feedScheduled = false) (t : Ticks) :
    s.scheduleRun t = s := by
  simp [scheduleRun, h]

theorem checkFeedErrors_still {s : State} (feeding : s.feeder.isFeeding = false)
    (homing : s.feeder.isFeedHoming = false) : s.checkFeedErrors = s := by
  simp [checkFeedErrors, feeding, homing]

theorem runFeedMotor_still {s : State} (h : s.feeder.isFeeding = false) : s.runFeedMotor = s := by
  simp [runFeedMotor, h]

theorem homeFeedMotor_still {s : State} (homing : s.feeder.isFeedHoming = false)
    (offset : s.feeder.isFeedHomingOffset = false) (sensor : Bool) (now : UInt32) :
    s.homeFeedMotor sensor now = s := by
  simp [homeFeedMotor, feedHomingOffsetStep, homing, offset]

theorem homeSortMotor_still {s : State} (h : s.sorter.isSortHoming = false) (sensor : Bool)
    (now : UInt32) : s.homeSortMotor sensor now = s := by
  simp [homeSortMotor, h]

theorem serviceSorterJog_inactive (s : State) (active : s.sorter.sorterJog.active = false)
    (complete : s.sorter.sorterJog.complete = false) : s.serviceSorterJog = s := by
  dsimp only [serviceSorterJog, StepSequence.takeStep]
  simp [active, complete]

theorem feedCompletionTurns_idle {s : State} (h : s.feedCompletion.state = .idle) (turns : Nat)
    (now : UInt32) : feedCompletionTurns turns s now = s := by
  cases turns with
  | zero => rfl
  | succ turns =>
    have unchanged : s.feedCompletion.update now = (s.feedCompletion, .none) := by
      simp [FeedCompletion.update, h]
    simp [feedCompletionTurns, unchanged]

theorem onFeedComplete_idle {s : State} (complete : s.feeder.feedCycleComplete = false)
    (idle : s.feedCompletion.state = .idle) (now : UInt32) : s.onFeedComplete now = s := by
  have inactive : s.feedCompletion.isActive = false := by simp [FeedCompletion.isActive, idle]
  unfold onFeedComplete
  split_ifs
  · simp_all
  · rfl
  · simp_all
  · exact feedCompletionTurns_idle idle 3 now

theorem runAux_idle {s : State} (test : s.diagnostics.isTestCycle = false)
    (sortTest : s.diagnostics.isSortTestCycle = false) (raw sortRaw : Nat) (t : Ticks)
    (now : UInt32) : s.runAux raw sortRaw t now = s := by
  simp [runAux, runTestCycle, runSortTestCycle, test, sortTest]

theorem motorStandByCheck_moving {s : State} (h : s.sorter.sortInProgress ∨
    s.sorter.sorterJog.active) (now : UInt32) : s.motorStandByCheck now = s := by
  rcases h with h | h <;> simp [motorStandByCheck, h]

theorem serviceV2PhysicalRequest_reported {s : State} (h : Reported s) :
    s.serviceV2PhysicalRequest = s := by
  unfold serviceV2PhysicalRequest
  split_ifs with skip
  · rfl
  · simp only [not_or, Bool.not_eq_true, Bool.not_eq_false'] at skip
    simp [PhysicalRequestTracker.observePhase, h.request skip.2, setTracker]

theorem emitV2StateIfChanged_reported {s : State} (h : Reported s) :
    s.emitV2StateIfChanged = s := by
  unfold emitV2StateIfChanged
  split_ifs with skip
  · rfl
  · obtain ⟨known, mode, phase⟩ := h.state (by simpa using skip)
    simp [FaultStateTracker.observeState, known, mode, phase, setFaultStateTracker]

end State

namespace Quiet

variable {s : State} {i : LoopInput}

theorem of_sorter (h : Quiet s i) (d : Drive) (sorter : Sorter) (enabled : Bool)
    (motion : List Motion) (gate : sorter.slotDropGate = s.sorter.slotDropGate)
    (phase : { s with sorter }.currentV2MachineActivity = s.currentV2MachineActivity) :
    Quiet { s with drive := d, sorter, motorDriversEnabled := enabled, motion } i := by
  have same : { s with drive := d, sorter, motorDriversEnabled := enabled, motion }.currentPhase =
      s.currentPhase := congrArg deriveMachinePhase phase
  refine ⟨h.serial, h.pending, h.sensor, h.settled, ?_, h.scheduled, h.feeding, h.feedHoming,
    h.feedHomingOffset, h.cycleComplete, h.completion, h.testCycle, h.sortTestCycle, ?_, ?_⟩
  · exact gate ▸ h.gate
  · intro active
    rw [same]
    exact h.reported.request active
  · intro v2
    rw [same]
    exact h.reported.state v2

theorem loop_eq (h : Quiet s i) {t u : State}
    (moved : s.runSortMotor.onSortComplete i.sorted = t)
    (feeder : Quiet t i)
    (homed : (t.homeSortMotor i.sortHomingSensor i.sorterHomed).serviceSorterJog = u)
    (rest : Quiet u i) (moving : u.sorter.sortInProgress ∨ u.sorter.sorterJog.active) :
    loop s i = u := by
  simp only [loop, execAll, loopRoutines, serialRoutines, motionRoutines, h.serial, List.map_nil,
    List.nil_append, List.cons_append, List.foldl_cons, List.foldl_nil, exec]
  rw [State.dispatchPending_empty h.pending, State.getProxState_settled h.sensor h.settled,
    State.updateSlotDropGate_inactive h.gate, moved, State.scheduleRun_unscheduled feeder.scheduled,
    State.checkFeedErrors_still feeder.feeding feeder.feedHoming,
    State.runFeedMotor_still feeder.feeding,
    State.homeFeedMotor_still feeder.feedHoming feeder.feedHomingOffset, homed,
    State.onFeedComplete_idle rest.cycleComplete rest.completion,
    State.runAux_idle rest.testCycle rest.sortTestCycle, State.motorStandByCheck_moving moving,
    State.serviceV2PhysicalRequest_reported rest.reported,
    State.emitV2StateIfChanged_reported rest.reported]

end Quiet

structure Jogging (i : LoopInput) (left : Nat) (s : State) : Prop where
  quiet : Quiet s i
  jog : s.sorter.sorterJog = ⟨left + 1, true, false⟩
  sorting : s.sorter.isSorting = false
  progress : s.sorter.sortInProgress = false
  homing : s.sorter.isSortHoming = false

/-- A move in the direction of `stepSortMotor(false)`. -/
structure Moving (i : LoopInput) (left : Nat) (s : State) : Prop where
  quiet : Quiet s i
  sorting : s.sorter.isSorting
  unfinished : s.sorter.sortComplete = false
  progress : s.sorter.sortInProgress
  homing : s.sorter.isSortHoming = false
  jog : s.sorter.sorterJog = .initial
  away : s.sorter.sortStepsToNextPosition = -left

/-- A slot-0 homing pass on a sensor that does not read active. -/
structure Passing (i : LoopInput) (s : State) : Prop where
  quiet : Quiet s i
  dead : i.sortHomingSensor = false
  sorting : s.sorter.isSorting
  unfinished : s.sorter.sortComplete = false
  progress : s.sorter.sortInProgress
  homing : s.sorter.isSortHoming
  jog : s.sorter.sorterJog = .initial
  arrived : s.sorter.sortStepsToNextPosition = 0
  zero : s.sorter.qPos1 = 0

instance (i : LoopInput) (left : Nat) (s : State) : Decidable (Jogging i left s) :=
  decidable_of_iff (_ ∧ _ ∧ _ ∧ _ ∧ _)
    ⟨fun ⟨h1, h2, h3, h4, h5⟩ => ⟨h1, h2, h3, h4, h5⟩,
    fun ⟨h1, h2, h3, h4, h5⟩ => ⟨h1, h2, h3, h4, h5⟩⟩

instance (i : LoopInput) (left : Nat) (s : State) : Decidable (Moving i left s) :=
  decidable_of_iff (_ ∧ _ ∧ _ ∧ _ ∧ _ ∧ _ ∧ _)
    ⟨fun ⟨h1, h2, h3, h4, h5, h6, h7⟩ => ⟨h1, h2, h3, h4, h5, h6, h7⟩,
    fun ⟨h1, h2, h3, h4, h5, h6, h7⟩ => ⟨h1, h2, h3, h4, h5, h6, h7⟩⟩

instance (i : LoopInput) (s : State) : Decidable (Passing i s) :=
  decidable_of_iff (_ ∧ _ ∧ _ ∧ _ ∧ _ ∧ _ ∧ _ ∧ _ ∧ _)
    ⟨fun ⟨h1, h2, h3, h4, h5, h6, h7, h8, h9⟩ => ⟨h1, h2, h3, h4, h5, h6, h7, h8, h9⟩,
    fun ⟨h1, h2, h3, h4, h5, h6, h7, h8, h9⟩ => ⟨h1, h2, h3, h4, h5, h6, h7, h8, h9⟩⟩

def jogStep (s : State) (left : Nat) : State :=
  { s.stepSortMotor .jog false with sorter.sorterJog := ⟨left + 1, true, false⟩ }

def passStep (s : State) : State :=
  { s.stepSortMotor .slotZero true with sorter.homingSteps := 1 }

section

variable {s : State} {i : LoopInput} {left : Nat}

theorem Jogging.step (h : Jogging i (left + 1) s) : Jogging i left (jogStep s left) := by
  refine ⟨?_, rfl, h.sorting, h.progress, h.homing⟩
  refine h.quiet.of_sorter s.drive _ true _ rfl ?_
  simp [State.currentV2MachineActivity, State.stepSortMotor, State.setMotorDriversEnabled, h.jog]

theorem Jogging.still (h : Jogging i left s) : s.runSortMotor.onSortComplete i.sorted = s := by
  rw [State.runSortMotor_still h.sorting, State.onSortComplete_unfinished (by simp [h.progress])]

theorem Jogging.loop (h : Jogging i (left + 1) s) : loop s i = jogStep s left := by
  refine h.quiet.loop_eq h.still h.quiet ?_ h.step.quiet (.inr rfl)
  rw [State.homeSortMotor_still h.homing]
  simp [State.serviceSorterJog, StepSequence.takeStep, h.jog, jogStep, State.stepSortMotor,
    State.setMotorDriversEnabled]

theorem Moving.step (h : Moving i (left + 1) s) : Moving i left (s.sortMoveStep false) := by
  refine ⟨h.quiet.of_sorter _ _ true _ rfl rfl, h.sorting, h.unfinished, h.progress, h.homing,
    h.jog, ?_⟩
  have away := h.away
  change s.sorter.sortStepsToNextPosition + 1 = -left
  omega

theorem Moving.moves (h : Moving i (left + 1) s) :
    s.runSortMotor.onSortComplete i.sorted = s.sortMoveStep false := by
  have away : s.sorter.sortStepsToNextPosition < 0 := by
    have away := h.away
    omega
  have step : s.runSortMotor = s.sortMoveStep false := by
    simp [State.runSortMotor, h.sorting, Int.ne_of_lt away, Int.not_lt.mpr (Int.le_of_lt away)]
  rw [step, State.onSortComplete_unfinished (by simp [h.step.unfinished])]

theorem Moving.loop (h : Moving i (left + 1) s) : loop s i = s.sortMoveStep false := by
  refine h.quiet.loop_eq h.moves h.step.quiet ?_ h.step.quiet (.inl h.progress)
  rw [State.homeSortMotor_still h.step.homing, State.serviceSorterJog_inactive]
  · rw [h.step.jog, StepSequence.initial]
  · rw [h.step.jog, StepSequence.initial]

theorem Passing.step (h : Passing i s) : Passing i (passStep s) :=
  ⟨h.quiet.of_sorter s.drive _ true _ rfl rfl, h.dead, h.sorting, h.unfinished, h.progress,
    h.homing, h.jog, h.arrived, h.zero⟩

theorem Passing.loop (h : Passing i s) : loop s i = passStep s := by
  have begun : Quiet { s with sorter.homingSteps := 0 } i :=
    h.quiet.of_sorter s.drive _ s.motorDriversEnabled s.motion rfl rfl
  refine h.quiet.loop_eq ?_ begun ?_ h.step.quiet (.inl h.progress)
  · have pass : s.runSortMotor = { s with sorter.homingSteps := 0 } := by
      simp [State.runSortMotor, State.slotZeroPass, h.sorting, h.arrived, h.zero, h.homing]
    rw [pass, State.onSortComplete_unfinished (by simp [h.unfinished])]
  · have step : { s with sorter.homingSteps := 0 }.homeSortMotor i.sortHomingSensor i.sorterHomed =
        passStep s := by
      simp [State.homeSortMotor, State.searchStep, sortHomingEnabled, sortFullRevolutionSteps,
        sortMicrosteps, h.homing, h.sorting, h.dead, passStep, State.stepSortMotor,
        State.setMotorDriversEnabled]
    rw [step, State.serviceSorterJog_inactive]
    · exact congrArg StepSequence.active h.step.jog
    · exact congrArg StepSequence.complete h.step.jog

end

def iterate (s : State) (inputs : List LoopInput) : State := inputs.foldl loop s

theorem execAll_flatMap (s : State) (inputs : List LoopInput) :
    execAll s (inputs.flatMap loopRoutines) = iterate s inputs := by
  induction inputs generalizing s with
  | nil => rfl
  | cons i inputs ih =>
    rw [List.flatMap_cons, execAll, List.foldl_append]
    exact ih (loop s i)

theorem iterate_append (s : State) (inputs more : List LoopInput) :
    iterate s (inputs ++ more) = iterate (iterate s inputs) more := List.foldl_append

variable {i : LoopInput}

theorem Jogging.iterate (count left : Nat) {s : State} (h : Jogging i (count + left) s)
    (enabled : s.motorDriversEnabled) :
    iterate s (List.replicate count i) =
      { s with sorter.sorterJog := ⟨left + 1, true, false⟩
               motion := List.replicate count (.sortStep .jog false) ++ s.motion } := by
  induction count generalizing s with
  | zero =>
    have jog := h.jog
    rw [Nat.zero_add] at jog
    simp [Firmware.iterate, ← jog]
  | succ count ih =>
    rw [Nat.succ_add] at h
    have rest := ih h.step rfl
    rw [List.replicate_succ, Firmware.iterate, List.foldl_cons, h.loop]
    refine rest.trans ?_
    simp [jogStep, State.stepSortMotor, State.setMotorDriversEnabled, enabled,
      List.replicate_succ']

theorem Moving.iterate (count : Nat) {s : State} (h : Moving i (count + 1) s) :
    iterate s (List.replicate (count + 1) i) =
      { s with drive.sortDelayMs :=
                 State.accSortDelay s.drive s.sorter.sortStepsToNextPositionTracker (-1)
               sorter.sortStepsToNextPosition := 0
               motorDriversEnabled := true
               motion := List.replicate (count + 1) (.sortStep .move false) ++ s.motion } := by
  induction count generalizing s with
  | zero =>
    have away : s.sorter.sortStepsToNextPosition = -1 := h.away
    rw [List.replicate_one, Firmware.iterate, List.foldl_cons, h.loop]
    simp [State.sortMoveStep, State.stepSortMotor, State.setAccSortDelay,
      State.setMotorDriversEnabled, away]
  | succ count ih =>
    rw [List.replicate_succ, Firmware.iterate, List.foldl_cons, h.loop]
    refine (ih h.step).trans ?_
    simp [State.sortMoveStep, State.stepSortMotor, State.setAccSortDelay, State.accSortDelay,
      State.setMotorDriversEnabled, List.replicate_succ']

theorem Passing.iterate (count : Nat) {s : State} (h : Passing i s) :
    (iterate s (List.replicate count i)).motion =
      List.replicate count (.sortStep .slotZero true) ++ s.motion := by
  induction count generalizing s with
  | zero => rfl
  | succ count ih =>
    rw [List.replicate_succ, Firmware.iterate, List.foldl_cons, h.loop]
    refine (ih h.step).trans ?_
    simp [passStep, State.stepSortMotor, State.setMotorDriversEnabled, List.replicate_succ']

end CaseSorter.Firmware
