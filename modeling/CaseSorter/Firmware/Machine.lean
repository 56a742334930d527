import CaseSorter.Firmware.Requests

/-! The global variables of the sketch and the motion code that no protocol version
changes: the command actions, the sorter and feeder drives, stopping. `motion` is a
ghost record of what the motors were made to do, newest first; the rest are the
variables of the source, grouped. -/

namespace CaseSorter.Firmware

def feedMicrosteps : Int := 16
def sortMicrosteps : Int := 16
def sortFullRevolutionSteps : Int := 200
def sortHomingMarginSteps : Int := 10
def feedOverstepThreshold : Int := 90
def feedAccSlope : Int := 32
def sortAccSlope : Int := 64
def accFactor : Int := 1200
def sortJogSteps : Nat := 25
def sortTestPacingMs : UInt32 := 40
def v2ConfigGenerationMax : Nat := 999999999
def useArduinoPwmDimmer : Bool := false
def feedSensorEnabled : Bool := true
def feedHomingEnabled : Bool := true
def sortHomingEnabled : Bool := true
def accFeedEnabled : Bool := false
def accSortEnabled : Bool := true

def defaultConfiguration : Configuration where
  feedSpeed := 90
  feedSteps := 70
  sortSpeed := 90
  sortSteps := 20
  slotCount := 8
  notificationDelay := 90
  slotDropDelay := 400
  airDropEnabled := false
  airDropPostDelay := 0
  airDropPreDelay := 30
  airDropSignalTime := 50
  feedHomingOffset := 3
  sortHomingOffset := 0
  autoMotorStandbyTimeout := 60
  debounceTimeout := 300
  debouncePauseTime := 500
  cameraLedLevel := 78

def feedRamp : Int := (accFactor + 90 / 2) / feedAccSlope
def sortRamp : Int := (accFactor + 90 / 2) / sortAccSlope

def v1DispatchLimits : V1DispatchLimits :=
  ⟨maxAvrInt, maxStandbyTimeoutSeconds, sortFullRevolutionSteps.toNat, sortMicrosteps.toNat⟩

inductive StepCause
  | move
  | slotZero
  | recovery
  | recoveryOffset
  | jog
  deriving DecidableEq, Repr

inductive Motion
  | feedStep
  | sortStep (cause : StepCause) (forward : Bool)
  | slotZeroBegins
  | recoveryBegins
  | sorterHomed
  deriving DecidableEq, Repr

/-- The values of the variables computed from the configuration and of the step delays. -/
structure Drive where
  dropDelay : Int
  autoMotorStandbyTimeoutMs : UInt32
  feedMotorSpeed : Int
  sortMotorSpeed : Int
  feedMicroSteps : Int
  feedOverTravelSteps : Int
  feedHomingOffset : Int
  sortHomingOffset : Int
  feedDelayMs : Int
  sortDelayMs : Int
  deriving DecidableEq, Repr

structure Feeder where
  feedScheduled : Bool
  isFeeding : Bool
  isFeedHoming : Bool
  isFeedHomingOffset : Bool
  feedCycleInProgress : Bool
  feedCycleComplete : Bool
  isFeedError : Bool
  forceFeed : Bool
  feedSteps : Int
  feedHomingOffsetSteps : Int
  deriving DecidableEq, Repr

structure Sorter where
  qPos1 : Int
  qPos2 : Int
  sortStepsToNextPosition : Int
  sortStepsToNextPositionTracker : Int
  sortInProgress : Bool
  sortComplete : Bool
  isSorting : Bool
  isSortHoming : Bool
  isSortHomingOffset : Bool
  sortHomingOffsetSteps : Int
  homingSteps : Int
  slotDropGate : RuntimeTimer
  pendingQueuedDestination : Int
  sorterJog : StepSequence
  sorterJogStartsFeedHoming : Bool
  deriving DecidableEq, Repr

structure Diagnostics where
  isTestCycle : Bool
  isSortTestCycle : Bool
  sortTestPacing : RuntimeTimer
  testCycleInterval : Int
  testsCompleted : Int
  deriving DecidableEq, Repr

structure Clocks where
  timeSinceLastSortMove : UInt32
  timeSinceLastMotorMove : UInt32
  msgResetTimer : UInt32
  deriving DecidableEq, Repr

structure Link where
  commandParser : CommandParser
  session : ProtocolSession
  faultStateTracker : FaultStateTracker
  physicalRequestTracker : PhysicalRequestTracker
  rawStopLineDetector : RawStopLineDetector
  pendingCommand : PendingCommand
  configGeneration : Nat
  output : List Emission
  deriving DecidableEq, Repr

structure State where
  configuration : Configuration
  drive : Drive
  feeder : Feeder
  sorter : Sorter
  diagnostics : Diagnostics
  clocks : Clocks
  machineState : MachineState
  feedCompletion : FeedCompletion
  proximitySettler : ProximitySettler
  proxActivated : Bool
  motorDriversEnabled : Bool
  feedDoneSignal : Bool
  motion : List Motion
  link : Link
  deriving DecidableEq, Repr

/-- The values of the `millis()` calls one routine makes: its own, and those of a
`scheduleRun` inside it. -/
structure Ticks where
  now : UInt32
  ready : UInt32
  waiting : UInt32
  message : UInt32
  deriving DecidableEq, Repr

namespace State

def emit (s : State) (line : Emission) : State :=
  { s with link.output := line :: s.link.output }

def setConfiguration (s : State) (configuration : Configuration) : State := { s with configuration }

def setCommandParser (s : State) (parser : CommandParser) : State :=
  { s with link.commandParser := parser }

def setV2Parser (s : State) (parser : V2FrameParser) : State :=
  { s with link.session.parser := parser }

def setLifecycle (s : State) (lifecycle : V2RequestLifecycle) : State :=
  { s with link.session.lifecycle := lifecycle }

def setTracker (s : State) (tracker : PhysicalRequestTracker) : State :=
  { s with link.physicalRequestTracker := tracker }

def setFaultStateTracker (s : State) (tracker : FaultStateTracker) : State :=
  { s with link.faultStateTracker := tracker }

def setRawStopLineDetector (s : State) (detector : RawStopLineDetector) : State :=
  { s with link.rawStopLineDetector := detector }

def setPendingCommand (s : State) (pending : PendingCommand) : State :=
  { s with link.pendingCommand := pending }

def setMotorDriversEnabled (s : State) (enabled : Bool) : State :=
  { s with motorDriversEnabled := enabled }

def executionBusy (s : State) : Bool :=
  s.feeder.feedScheduled || s.feeder.isFeeding || s.feeder.isFeedHoming ||
    s.feeder.isFeedHomingOffset || s.feeder.feedCycleInProgress ||
    (s.feeder.feedCycleComplete && !s.feeder.isFeedError) ||
    s.feedCompletion.isActive || s.sorter.sortInProgress || s.sorter.slotDropGate.active ||
    s.sorter.isSorting || s.sorter.isSortHoming || s.sorter.isSortHomingOffset ||
    s.sorter.sorterJog.active || s.diagnostics.isTestCycle || s.diagnostics.isSortTestCycle

/-- `sorterWasMoving` of `checkFeedErrors`. -/
def sorterMoving (s : State) : Bool :=
  s.sorter.sortInProgress || s.sorter.isSorting || s.sorter.isSortHoming ||
    s.sorter.isSortHomingOffset || s.sorter.sorterJog.active

def advanceConfigGeneration (s : State) : State :=
  { s with link.configGeneration :=
      if s.link.configGeneration = v2ConfigGenerationMax then 0 else s.link.configGeneration + 1 }

def stepSortMotor (s : State) (cause : StepCause) (forward : Bool) : State :=
  { s.setMotorDriversEnabled true with motion := .sortStep cause forward :: s.motion }

def stepFeedMotor (s : State) : State :=
  { s.setMotorDriversEnabled true with motion := .feedStep :: s.motion }

def record (s : State) (mark : Motion) : State := { s with motion := mark :: s.motion }

/-- The delay after the pulse that leaves `left` of `tracker` microsteps. -/
def accSortDelay (d : Drive) (tracker left : Int) : Int :=
  let tracker : Int := tracker.natAbs
  let left : Int := left.natAbs
  if !accSortEnabled then d.sortMotorSpeed
  else if tracker - left < sortAccSlope then
    max (accFactor - (tracker - left) * sortRamp) d.sortMotorSpeed
  else if tracker - sortAccSlope < tracker - left then
    min (max ((sortAccSlope - left) * sortRamp) d.sortMotorSpeed) accFactor
  else d.sortMotorSpeed

def setAccSortDelay (s : State) : State :=
  let tracker := s.sorter.sortStepsToNextPositionTracker
  { s with drive.sortDelayMs := accSortDelay s.drive tracker s.sorter.sortStepsToNextPosition }

def accFeedDelay (d : Drive) (left : Int) : Int :=
  if !accFeedEnabled then d.feedMotorSpeed
  else if d.feedMicroSteps - left < feedAccSlope then
    max (accFactor - (d.feedMicroSteps - left) * feedRamp) d.feedMotorSpeed
  else if d.feedMicroSteps - feedAccSlope < d.feedMicroSteps - left then
    min (max ((feedAccSlope - left) * feedRamp) d.feedMotorSpeed) accFactor
  else d.feedMotorSpeed

def setAccFeedDelay (s : State) : State :=
  { s with drive.feedDelayMs := accFeedDelay s.drive s.feeder.feedSteps }

def cancelFeedCompletion (s : State) : State :=
  { s with feedCompletion := s.feedCompletion.cancel, feedDoneSignal := false }

def cancelSorterJog (s : State) : State :=
  { s with sorter.sorterJog := s.sorter.sorterJog.cancel
           sorter.sorterJogStartsFeedHoming := false }

def cancelDiagnosticCycles (s : State) : State :=
  { s with diagnostics := ⟨false, false, s.diagnostics.sortTestPacing.cancel, 0, 0⟩ }

def clearPendingCommand (s : State) : State := s.setPendingCommand .empty

def stopFeed (f : Feeder) : Feeder :=
  { f with feedScheduled := false, isFeeding := false, isFeedHoming := false
           isFeedHomingOffset := false, feedCycleInProgress := false, feedCycleComplete := false
           feedSteps := 0, feedHomingOffsetSteps := 0, forceFeed := false }

def stopSort (q : Sorter) : Sorter :=
  { q with sortInProgress := false, sortComplete := false, isSorting := false
           isSortHoming := false, isSortHomingOffset := false, sortStepsToNextPosition := 0
           sortStepsToNextPositionTracker := 0, sortHomingOffsetSteps := 0, homingSteps := 0
           slotDropGate := q.slotDropGate.cancel, pendingQueuedDestination := 0 }

def enterStoppedState (s : State) : State :=
  let s := { s with machineState := s.machineState.enterStopped }
  let s := s.setMotorDriversEnabled false
  let s := s.cancelFeedCompletion
  let s := s.cancelSorterJog
  let s := { s with feeder := stopFeed s.feeder, sorter := stopSort s.sorter }
  let s := s.cancelDiagnosticCycles
  let s := { s with proxActivated := false, proximitySettler := s.proximitySettler.reset }
  s.clearPendingCommand

def positionSteps (s : State) (position : Int) : Int :=
  position * s.configuration.sortSteps * sortMicrosteps

/-- The common part of the two ways to start a move: from the position of `qPos1` to
`position`, with `next` queued behind it. -/
def beginMove (s : State) (position next : Int) : State :=
  let steps := s.positionSteps s.sorter.qPos1 - s.positionSteps position
  { s with sorter.sortStepsToNextPosition := steps
           sorter.sortStepsToNextPositionTracker := steps
           sorter.qPos1 := position
           sorter.qPos2 := next
           sorter.sortInProgress := true
           sorter.sortComplete := false
           sorter.isSorting := true }

def beginQueuedSorterTransition (s : State) (position : Int) : State :=
  s.beginMove s.sorter.qPos2 position

def moveSorterToPosition (s : State) (position : Int) : State := s.beginMove position position

def moveSorterToNextPosition (s : State) (position : Int) (now : UInt32) : State :=
  let queuedSortSteps := s.positionSteps s.sorter.qPos1 - s.positionSteps s.sorter.qPos2
  let dropDelayMs := UInt32.ofInt s.drive.dropDelay
  if queuedSortSteps ≠ 0 ∧ !hasElapsed now s.clocks.timeSinceLastSortMove dropDelayMs then
    { s with sorter.pendingQueuedDestination := position
             sorter.slotDropGate :=
               s.sorter.slotDropGate.start s.clocks.timeSinceLastSortMove dropDelayMs }
  else s.beginQueuedSorterTransition position

def openSlotDropGate (s : State) : State :=
  { s with sorter.pendingQueuedDestination := 0
           sorter.slotDropGate := s.sorter.slotDropGate.cancel }

def updateSlotDropGate (s : State) (now : UInt32) : State :=
  if !s.sorter.slotDropGate.hasElapsed now then s
  else s.openSlotDropGate.beginQueuedSorterTransition s.sorter.pendingQueuedDestination

def jogSorter (s : State) (startFeedHoming : Bool) : State :=
  { s with sorter.sorterJogStartsFeedHoming := startFeedHoming
           sorter.sorterJog := s.sorter.sorterJog.start (sortJogSteps * sortMicrosteps.toNat) }

def readyToFeed (s : State) (now : UInt32) : State × Bool :=
  let bypass := !feedSensorEnabled || s.feeder.forceFeed
  let (settler, ready) :=
    s.proximitySettler.ready now (UInt32.ofNat s.configuration.debouncePauseTime) bypass
  ({ s with proximitySettler := settler }, ready)

def setForceFeed (s : State) (forced : Bool) : State := { s with feeder.forceFeed := forced }

def scheduleFeed (s : State) : State :=
  { s with feeder.feedScheduled := true, feeder.isFeeding := false }

def startFeedCycle (s : State) : State :=
  { s with feeder.feedSteps := s.drive.feedMicroSteps, feeder.feedScheduled := false
           feeder.feedCycleInProgress := true, feeder.feedCycleComplete := false
           feeder.isFeeding := true }

def scheduleRun (s : State) (t : Ticks) : State :=
  if s.sorter.slotDropGate.active then s
  else if s.feeder.feedScheduled && !s.feeder.isFeeding then
    let (settled, ready) := s.readyToFeed t.ready
    if ready then settled.startFeedCycle
    else if 1000 < t.waiting - s.clocks.msgResetTimer then
      { settled.emit (.v1 .waitingForBrass) with clocks.msgResetTimer := t.message }
    else settled
  else s

def setSorterMotorSpeed (s : State) (speed : Int) : State :=
  { s with drive.sortMotorSpeed := convertSpeedToDelay speed }

def setFeedMotorSpeed (s : State) (speed : Int) : State :=
  { s with drive.feedMotorSpeed := convertSpeedToDelay speed }

def adjustCameraLed (s : State) (level : Int) : State :=
  { s with configuration.cameraLedLevel := clampByte level }

def homeFeeder (s : State) : State :=
  let s := s.setMotorDriversEnabled true
  { s with machineState := s.machineState.beginRecovery .feeder
           drive.feedDelayMs := 400
           feeder.feedSteps := s.drive.feedMicroSteps
           feeder.feedHomingOffsetSteps := 0
           feeder.feedCycleInProgress := false
           feeder.feedCycleComplete := false
           feeder.isFeeding := false
           feeder.isFeedHomingOffset := false
           feeder.isFeedHoming := true }

def homeSorter (s : State) : State :=
  let s := s.setMotorDriversEnabled true
  let s := { s with machineState := s.machineState.beginRecovery .sorter
                    drive.sortDelayMs := 400
                    sorter.sortComplete := false
                    sorter.isSorting := false
                    sorter.isSortHomingOffset := false
                    sorter.sortHomingOffsetSteps := 0
                    sorter.homingSteps := 0
                    sorter.isSortHoming := false }
  s.jogSorter false

def queueFeed (s : State) (position : Int) (t : Ticks) : State :=
  ((s.moveSorterToNextPosition position t.now).scheduleFeed).scheduleRun t

def applyV1Action (s : State) (result : V1DispatchResult) (t : Ticks) : State :=
  match result.action with
  | .stop => s.enterStoppedState
  | .homeFeeder => s.homeFeeder
  | .homeSorter => s.homeSorter
  | .queueFeed => (s.setForceFeed false).queueFeed result.value t
  | .queueForcedFeed => (s.setForceFeed true).queueFeed result.value t
  | .sortTo => s.moveSorterToPosition result.value
  | .startTest =>
    { s with diagnostics.isTestCycle := true
             diagnostics.testCycleInterval := result.value
             diagnostics.testsCompleted := 0
             feeder.feedScheduled := false
             feeder.feedCycleInProgress := false }
  | .startSortTest =>
    { s with diagnostics.isSortTestCycle := true
             diagnostics.sortTestPacing := s.diagnostics.sortTestPacing.cancel
             diagnostics.testCycleInterval := result.value
             diagnostics.testsCompleted := 0 }
  | .applyFeedSpeed => s.setFeedMotorSpeed s.configuration.feedSpeed
  | .applySortSpeed => s.setSorterMotorSpeed s.configuration.sortSpeed
  | .applyFeedHomingOffset =>
    { s with drive.feedHomingOffset := s.configuration.feedHomingOffset * feedMicrosteps
             feeder.feedHomingOffsetSteps := s.configuration.feedHomingOffset * feedMicrosteps }
  | .applySortHomingOffset =>
    { s with drive.sortHomingOffset := s.configuration.sortHomingOffset * sortMicrosteps
             sorter.sortHomingOffsetSteps := s.configuration.sortHomingOffset * sortMicrosteps }
  | .applyFeedSteps =>
    { s with drive.feedMicroSteps := s.configuration.feedSteps * feedMicrosteps
             drive.feedOverTravelSteps :=
               s.configuration.feedSteps * feedMicrosteps - feedOverstepThreshold * feedMicrosteps }
  | .applyDropDelay =>
    { s with drive.dropDelay :=
        if s.configuration.airDropEnabled then s.configuration.airDropPostDelay
        else s.configuration.slotDropDelay }
  | .applyAutoMotorStandbyTimeout =>
    { s with drive.autoMotorStandbyTimeoutMs :=
        UInt32.ofNat (s.configuration.autoMotorStandbyTimeout * 1000) }
  | .applyCameraLedLevel => s.adjustCameraLed result.value
  | .none | .queuePending => s

def updateRecoveryCompletion (s : State) (axis : MachineAxis) : State :=
  if !(s.machineState.axis axis).recoveryInProgress then s
  else
    let (machineState, bothKnown) := s.machineState.completeRecovery axis
    let s := { s with machineState }
    if bothKnown && s.machineState.queueResetRequired then
      { s with sorter.qPos1 := 0, sorter.qPos2 := 0
               machineState := s.machineState.acknowledgeQueueReset }
    else s

end State

end CaseSorter.Firmware
