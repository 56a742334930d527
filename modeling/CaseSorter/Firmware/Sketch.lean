import CaseSorter.Firmware.Session
import CaseSorter.Lib.Runs

/-! `setup()` and `loop()`. A routine is one call that `loop()` makes, or one byte of
`checkSerial`; it carries what that call reads from the clock, the sensors and
`random`. A run of the sketch is a list of routines, cut from the sequence that some
list of loop inputs produces. -/

namespace CaseSorter.Firmware

namespace State

def reportMotion (s : State) (slot : Int)
    (finished : PhysicalRequestTracker × PhysicalRequestTransition) : State :=
  let tracker := s.link.physicalRequestTracker
  if s.link.session.mode ≠ .v2 then s
  else if finished.2 = .done then
    (s.setTracker finished.1).finishV2PhysicalRequest tracker.requestId tracker.operation slot
  else s.setTracker finished.1

def stopFeedHoming (s : State) (now : UInt32) : State :=
  { s with feeder.isFeedHoming := false
           feeder.isFeedHomingOffset := false
           feeder.feedHomingOffsetSteps := 0
           clocks.timeSinceLastMotorMove := now }

def clearFeedFault (s : State) : State :=
  { s.setFaultStateTracker s.link.faultStateTracker.clearAfterFeedRecovery with
      feeder.isFeedError := false }

def endFeedCycle (s : State) : State :=
  { s with feeder.feedCycleComplete := s.feeder.feedCycleInProgress || s.feeder.feedCycleComplete
           feeder.feedCycleInProgress := false }

/-- `completeFeedHoming` up to the report to the protocol. -/
def feedHomingEnds (s : State) (now : UInt32) : State :=
  let recovered := (s.stopFeedHoming now).updateRecoveryCompletion .feeder
  (if s.machineState.feeder.recoveryInProgress then recovered.clearFeedFault
    else recovered).endFeedCycle

/-- The source starts the sorter homing of `homeall` through `applyV1Action`. -/
def completeFeedHoming (s : State) (now : UInt32) : State :=
  let s := s.feedHomingEnds now
  let finished := s.link.physicalRequestTracker.feedHomed
  if s.link.session.mode = .v2 ∧ finished.2 = .startSorterHome then
    (s.setTracker finished.1).homeSorter
  else s.reportMotion 0 finished

def stopSorterHoming (s : State) (now : UInt32) : State :=
  { s with sorter.isSorting := false
           sorter.isSortHoming := false
           sorter.isSortHomingOffset := false
           sorter.sortHomingOffsetSteps := 0
           sorter.homingSteps := 0
           clocks.timeSinceLastMotorMove := now
           sorter.qPos1 := 0
           sorter.qPos2 := 0 }

/-- `completeSorterRecoveryHoming` up to the report to the protocol. -/
def sorterHomingEnds (s : State) (now : UInt32) : State :=
  ((s.stopSorterHoming now).record .sorterHomed).updateRecoveryCompletion .sorter

def completeSorterRecoveryHoming (s : State) (now : UInt32) : State :=
  let s := s.sorterHomingEnds now
  s.reportMotion 0 s.link.physicalRequestTracker.sorterHomed

def getProxState (s : State) (sensor : Bool) (now : UInt32) : State :=
  { s with proxActivated := sensor
           proximitySettler := s.proximitySettler.observe now sensor
             (UInt32.ofNat s.configuration.debounceTimeout) }

def slotZeroPass (s : State) : State :=
  let s := if s.sorter.isSortHoming then s else s.record .slotZeroBegins
  { s with sorter.homingSteps := 0, sorter.isSortHoming := true }

def sortMoveEnds (s : State) : State :=
  { s with sorter.isSorting := false, sorter.sortComplete := true }

def sortMoveStep (s : State) (forward : Bool) : State :=
  let left := s.sorter.sortStepsToNextPosition + if forward then -1 else 1
  { s.setAccSortDelay.stepSortMotor .move forward with sorter.sortStepsToNextPosition := left }

def runSortMotor (s : State) : State :=
  if !s.sorter.isSorting then s
  else if s.sorter.sortStepsToNextPosition = 0 then
    if s.sorter.qPos1 = 0 then s.slotZeroPass else s.sortMoveEnds
  else s.sortMoveStep (0 < s.sorter.sortStepsToNextPosition)

def sortEnds (s : State) (now : UInt32) : State :=
  { s with sorter.sortInProgress := false
           clocks.timeSinceLastSortMove := now
           clocks.timeSinceLastMotorMove := now }

def onSortComplete (s : State) (now : UInt32) : State :=
  if s.sorter.sortInProgress && s.sorter.sortComplete then
    let tracker := s.link.physicalRequestTracker
    (s.sortEnds now).reportMotion tracker.slot tracker.sortCompleted
  else s

def feedOvertravel (s : State) : State :=
  let sorterWasMoving := s.sorterMoving
  let s := { s with
    feeder.feedScheduled := false
    feeder.feedCycleComplete := true
    feeder.isFeeding := false
    feeder.isFeedHoming := false
    feeder.isFeedHomingOffset := false
    feeder.isFeedError := true
    feeder.feedCycleInProgress := false
    feeder.forceFeed := false
    machineState := s.machineState.invalidateAxis .feeder
    sorter.sortInProgress := false
    sorter.sortComplete := false
    sorter.isSorting := false
    sorter.isSortHoming := false
    sorter.isSortHomingOffset := false
    sorter.sortStepsToNextPosition := 0
    sorter.sortStepsToNextPositionTracker := 0
    sorter.sortHomingOffsetSteps := 0
    sorter.homingSteps := 0 }
  let s := s.cancelSorterJog
  let s := if sorterWasMoving then
      { s with machineState := s.machineState.invalidateAxis .sorter }
    else s
  let s := (s.setMotorDriversEnabled false).cancelFeedCompletion
  { s with proximitySettler := s.proximitySettler.reset }.cancelDiagnosticCycles

def reportFeedOvertravel (s : State) : State :=
  let s := s.setFaultStateTracker s.link.faultStateTracker.latchFeedOvertravel
  if s.link.session.mode = .v2 then
    let s := s.setTracker s.link.physicalRequestTracker.cancel
    let s := if s.link.session.lifecycle.active then
        (s.emitV2Terminal s.link.session.lifecycle.activeRequestId
          (.error 3001 "feed_overtravel") []).1
      else s
    (s.emitV2Event (.fault 3001 "feed_overtravel") [("latched", "1")]).emitV2StateIfChanged
  else s.emit (.v1 .feedOvertravel)

def checkFeedErrors (s : State) : State :=
  if (s.feeder.isFeeding || s.feeder.isFeedHoming) && !s.feeder.feedCycleComplete &&
      s.feeder.feedSteps < s.drive.feedOverTravelSteps then
    s.feedOvertravel.reportFeedOvertravel
  else s

def runFeedMotor (s : State) : State :=
  if s.sorter.sortInProgress then s
  else if s.feeder.isFeeding && 0 < s.feeder.feedSteps then
    let s := s.setAccFeedDelay.stepFeedMotor
    { s with feeder.feedSteps := s.feeder.feedSteps - 1 }
  else if s.feeder.isFeeding then
    { s with feeder.isFeeding := false, feeder.isFeedHoming := true }
  else s

/-- The last part of `homeFeedMotor`, after the sensor has been found. -/
def feedHomingOffsetStep (s : State) (now : UInt32) : State :=
  if !s.feeder.isFeedHomingOffset then s
  else if s.drive.feedHomingOffset = 0 then s.completeFeedHoming now
  else if 0 < s.feeder.feedHomingOffsetSteps then
    let s := s.stepFeedMotor
    { s with feeder.feedHomingOffsetSteps := s.feeder.feedHomingOffsetSteps - 1
             feeder.feedSteps := s.feeder.feedSteps - 1 }
  else s.completeFeedHoming now

def homeFeedMotor (s : State) (sensor : Bool) (now : UInt32) : State :=
  if s.feeder.isFeedHoming then
    if !feedHomingEnabled then s.completeFeedHoming now
    else if sensor then
      { s with feeder.isFeedHoming := false
               feeder.isFeedHomingOffset := true
               feeder.feedHomingOffsetSteps := s.drive.feedHomingOffset }.feedHomingOffsetStep now
    else
      let s := s.stepFeedMotor
      { s with feeder.feedSteps := s.feeder.feedSteps - 1 }
  else s.feedHomingOffsetStep now

def slotZeroEnds (s : State) : State :=
  { s.record .sorterHomed with
      sorter.isSorting := false, sorter.sortComplete := true, sorter.isSortHoming := false }

/-- A search pulse of `homeSortMotor`, unless `limit` pulses have been issued. -/
def searchStep (s : State) (cause : StepCause) (limit : Int) : State :=
  if s.sorter.homingSteps < limit then
    { s.stepSortMotor cause true with sorter.homingSteps := s.sorter.homingSteps + 1 }
  else s

def sortHomingOffsetStep (s : State) (now : UInt32) : State :=
  if !s.sorter.isSortHomingOffset then s
  else if s.drive.sortHomingOffset = 0 then s.completeSorterRecoveryHoming now
  else if 0 < s.sorter.sortHomingOffsetSteps then
    { s.stepSortMotor .recoveryOffset true with
        sorter.sortHomingOffsetSteps := s.sorter.sortHomingOffsetSteps - 1 }
  else s.completeSorterRecoveryHoming now

def recoverySearch (s : State) (sensor : Bool) : State :=
  if s.sorter.isSortHomingOffset then s
  else if !sensor then
    s.searchStep .recovery ((sortFullRevolutionSteps + sortHomingMarginSteps) * sortMicrosteps)
  else
    { s with sorter.isSortHomingOffset := true
             sorter.sortHomingOffsetSteps := s.drive.sortHomingOffset
             sorter.homingSteps := 0 }

def homeSortMotor (s : State) (sensor : Bool) (now : UInt32) : State :=
  if !s.sorter.isSortHoming then s
  else if !sortHomingEnabled then
    if s.machineState.sorter.recoveryInProgress then s.completeSorterRecoveryHoming now
    else { s.slotZeroEnds with sorter.isSortHomingOffset := false }
  else if s.sorter.isSorting then
    if !sensor then s.searchStep .slotZero (sortFullRevolutionSteps * sortMicrosteps)
    else { s.slotZeroEnds with sorter.homingSteps := 0 }
  else (s.recoverySearch sensor).sortHomingOffsetStep now

/-- The end of `serviceSorterJog`, once the jog is complete. -/
def sorterJogEnds (s : State) : State :=
  if s.machineState.mode = .stopped then s.cancelSorterJog
  else
    { s.cancelSorterJog.record .recoveryBegins with
        sorter.isSortHoming := true
        feeder.isFeedHoming := s.feeder.isFeedHoming || s.sorter.sorterJogStartsFeedHoming }

def serviceSorterJog (s : State) : State :=
  let (jog, stepped) := s.sorter.sorterJog.takeStep
  let jogged := { s with sorter.sorterJog := jog }
  let t := if stepped then jogged.stepSortMotor .jog false else jogged
  if jog.complete then t.sorterJogEnds else t

/-- The turns of the `for` loop of `onFeedComplete`. -/
def feedCompletionTurns : Nat → State → UInt32 → State
  | 0, s, _ => s
  | turns + 1, s, now =>
    let (completion, event) := s.feedCompletion.update now
    let s := { s with feedCompletion := completion }
    match event with
    | .none => s
    | .signalHigh => feedCompletionTurns turns { s with feedDoneSignal := true } now
    | .signalLow => feedCompletionTurns turns { s with feedDoneSignal := false } now
    | .notify =>
      { s.emit (.v1 .done) with feeder.feedCycleComplete := false, feeder.forceFeed := false }

def feedCompletionConfig (c : Configuration) : FeedCompletionConfig :=
  ⟨c.airDropEnabled, UInt32.ofInt c.airDropPreDelay, UInt32.ofInt c.airDropSignalTime,
    UInt32.ofInt c.notificationDelay⟩

def onFeedComplete (s : State) (now : UInt32) : State :=
  if !s.machineState.isRunning then
    if s.feedCompletion.isActive then
      { s.cancelFeedCompletion with
          feeder.feedCycleComplete := false, feeder.forceFeed := false }
    else s
  else
    let s :=
      if s.feeder.feedCycleComplete && !s.feeder.isFeedError && !s.feedCompletion.isActive then
        let (completion, started) :=
          s.feedCompletion.start now (feedCompletionConfig s.configuration)
        let s := { s with feedCompletion := completion }
        if started then { s with clocks.timeSinceLastMotorMove := now } else s
      else s
    feedCompletionTurns 3 s now

/-- `random(0, bound)` of the Arduino core, from the raw value of its generator. -/
def randomBelow (raw bound : Nat) : Nat := if bound = 0 then 0 else raw % bound

def runTestCycle (s : State) (raw : Nat) (t : Ticks) : State :=
  if s.diagnostics.isTestCycle && !s.feeder.feedScheduled && !s.feeder.feedCycleInProgress then
    if s.diagnostics.testsCompleted < s.diagnostics.testCycleInterval then
      let slot := randomBelow raw s.configuration.slotCount
      let s := s.queueFeed slot t
      { s.emit (.testProgress s.diagnostics.testsCompleted.toNat slot) with
          diagnostics.testsCompleted := s.diagnostics.testsCompleted + 1 }
    else
      { s with diagnostics.isTestCycle := false, diagnostics.testCycleInterval := 0
               diagnostics.testsCompleted := 0 }
  else s

def runSortTestCycle (s : State) (raw : Nat) (now : UInt32) : State :=
  if s.diagnostics.isSortTestCycle && !s.sorter.sortInProgress then
    if s.diagnostics.testsCompleted < s.diagnostics.testCycleInterval then
      if !s.diagnostics.sortTestPacing.active then
        { s with diagnostics.sortTestPacing :=
            s.diagnostics.sortTestPacing.start now sortTestPacingMs }
      else if !s.diagnostics.sortTestPacing.hasElapsed now then s
      else
        let slot := randomBelow raw s.configuration.slotCount
        let s := s.emit (.sortTestProgress s.diagnostics.testsCompleted.toNat slot)
        { s.moveSorterToPosition slot with
            diagnostics.sortTestPacing := s.diagnostics.sortTestPacing.cancel
            diagnostics.testsCompleted := s.diagnostics.testsCompleted + 1 }
    else
      { (s.moveSorterToPosition 0).emit .sortTestCompleted with
          diagnostics.sortTestPacing := s.diagnostics.sortTestPacing.cancel
          diagnostics.isSortTestCycle := false
          diagnostics.testsCompleted := 0
          diagnostics.testCycleInterval := 0 }
  else s

def runAux (s : State) (raw sortRaw : Nat) (t : Ticks) (now : UInt32) : State :=
  if !s.machineState.isRunning || s.feedCompletion.isActive then s
  else (s.runTestCycle raw t).runSortTestCycle sortRaw now

def motorStandByCheck (s : State) (now : UInt32) : State :=
  if s.sorter.sortInProgress || s.feeder.isFeeding || s.feeder.isFeedHoming ||
      s.feeder.isFeedHomingOffset || s.sorter.isSortHoming || s.sorter.isSortHomingOffset ||
      s.sorter.sorterJog.active then s
  else if s.configuration.autoMotorStandbyTimeout = 0 then s
  else if hasElapsed now s.clocks.timeSinceLastMotorMove s.drive.autoMotorStandbyTimeoutMs then
    s.setMotorDriversEnabled false
  else s

end State

def powerOn : State where
  configuration := defaultConfiguration
  drive := ⟨400, 60000, 500, 500, 70 * feedMicrosteps,
    70 * feedMicrosteps - feedOverstepThreshold * feedMicrosteps, 3 * feedMicrosteps, 0, 150, 400⟩
  feeder := ⟨false, false, false, false, false, false, false, false, 70 * feedMicrosteps,
    3 * feedMicrosteps⟩
  sorter := ⟨0, 0, 0, 0, false, false, false, false, false, 0, 0, .initial, 0, .initial, false⟩
  diagnostics := ⟨false, false, .initial, 0, 0⟩
  clocks := ⟨0, 0, 0⟩
  machineState := .initial
  feedCompletion := .initial
  proximitySettler := .initial
  proxActivated := false
  motorDriversEnabled := false
  feedDoneSignal := false
  motion := []
  link := ⟨.reset, .reset, .initial, .reset, .reset, .empty, 0, []⟩

/-- The state after `setup()`, whose `millis()` call gives `now`. -/
def boot (now : UInt32) : State :=
  let s := powerOn.emit (.v1 .ready)
  let s := (s.setSorterMotorSpeed 90).setFeedMotorSpeed 90
  let s := (s.setMotorDriversEnabled true).jogSorter true
  { s with clocks.msgResetTimer := now }

inductive Routine
  | serialByte (byte : UInt8) (t : Ticks)
  | dispatchPending (t : Ticks)
  | getProxState (sensor : Bool) (now : UInt32)
  | updateSlotDropGate (now : UInt32)
  | runSortMotor
  | onSortComplete (now : UInt32)
  | scheduleRun (t : Ticks)
  | checkFeedErrors
  | runFeedMotor
  | homeFeedMotor (sensor : Bool) (now : UInt32)
  | homeSortMotor (sensor : Bool) (now : UInt32)
  | serviceSorterJog
  | onFeedComplete (now : UInt32)
  | runAux (raw sortRaw : Nat) (t : Ticks) (now : UInt32)
  | motorStandByCheck (now : UInt32)
  | serviceV2PhysicalRequest
  | emitV2StateIfChanged
  deriving DecidableEq, Repr

def exec (s : State) : Routine → State
  | .serialByte byte t => s.serialByte byte t
  | .dispatchPending t => s.dispatchPending t
  | .getProxState sensor now => s.getProxState sensor now
  | .updateSlotDropGate now => s.updateSlotDropGate now
  | .runSortMotor => s.runSortMotor
  | .onSortComplete now => s.onSortComplete now
  | .scheduleRun t => s.scheduleRun t
  | .checkFeedErrors => s.checkFeedErrors
  | .runFeedMotor => s.runFeedMotor
  | .homeFeedMotor sensor now => s.homeFeedMotor sensor now
  | .homeSortMotor sensor now => s.homeSortMotor sensor now
  | .serviceSorterJog => s.serviceSorterJog
  | .onFeedComplete now => s.onFeedComplete now
  | .runAux raw sortRaw t now => s.runAux raw sortRaw t now
  | .motorStandByCheck now => s.motorStandByCheck now
  | .serviceV2PhysicalRequest => s.serviceV2PhysicalRequest
  | .emitV2StateIfChanged => s.emitV2StateIfChanged

/-- What one call of `loop()` reads. -/
structure LoopInput where
  serial : List (UInt8 × Ticks)
  pending : Ticks
  feedSensor : Bool
  proximity : UInt32
  now : UInt32
  sorted : UInt32
  schedule : Ticks
  feedHomingSensor : Bool
  feedHomed : UInt32
  sortHomingSensor : Bool
  sorterHomed : UInt32
  raw : Nat
  sortRaw : Nat
  test : Ticks
  sortTest : UInt32
  standBy : UInt32
  deriving DecidableEq, Repr

def serialRoutines (i : LoopInput) : List Routine :=
  i.serial.map (fun entry => .serialByte entry.1 entry.2) ++ [.dispatchPending i.pending]

def motionRoutines (i : LoopInput) : List Routine :=
  [.getProxState i.feedSensor i.proximity, .updateSlotDropGate i.now, .runSortMotor,
   .onSortComplete i.sorted, .scheduleRun i.schedule, .checkFeedErrors, .runFeedMotor,
   .homeFeedMotor i.feedHomingSensor i.feedHomed,
   .homeSortMotor i.sortHomingSensor i.sorterHomed, .serviceSorterJog, .onFeedComplete i.now,
   .runAux i.raw i.sortRaw i.test i.sortTest, .motorStandByCheck i.standBy,
   .serviceV2PhysicalRequest, .emitV2StateIfChanged]

def loopRoutines (i : LoopInput) : List Routine := serialRoutines i ++ motionRoutines i

def execAll (s : State) (routines : List Routine) : State := routines.foldl exec s

def lineRoutines (line : Bytes) : List Routine :=
  line.map fun byte => .serialByte byte ⟨0, 0, 0, 0⟩

def newline : Routine := .serialByte lineFeed ⟨0, 0, 0, 0⟩

def loop (s : State) (i : LoopInput) : State := execAll s (loopRoutines i)

/-- The calls of a run: those the loop inputs produce, cut after the first `calls`. -/
def sketchRun (inputs : List LoopInput) (calls : Nat) : List Routine :=
  (inputs.flatMap loopRoutines).take calls

def sketchStep (s : State) (routine : Routine) : Option State := some (exec s routine)

theorem run_sketchStep (s : State) (routines : List Routine) :
    Runs.run sketchStep s routines = some (execAll s routines) := Runs.run_total exec s routines

end CaseSorter.Firmware
