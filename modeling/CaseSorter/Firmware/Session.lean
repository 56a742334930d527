import CaseSorter.Firmware.Machine

/-! Command handling: the v1 and v2 frame handlers, the v2 lines they emit and the
serial loop. A setter's reply, an inspection and a physical request all end in the
one dispatcher and the one action function of `Machine`. -/

namespace CaseSorter.Firmware.State

def firmwareVersion : String := "7.1.260714.6"

/-- An `int` printed through a `uint32_t` parameter. -/
def unsigned (value : Int) : Nat := (UInt32.ofInt value).toNat

def respond (s : State) (requestId : Nat) (kind : V2ResponseKind) (fields : List Field) : State :=
  s.emit (.response ⟨requestId, kind, fields⟩)

def respondData (s : State) (requestId : Nat) (fields : List Field) : State :=
  fields.foldl (fun s entry => s.respond requestId .data [entry]) s

def emitV2Terminal (s : State) (requestId : Nat) (kind : V2ResponseKind) (fields : List Field) :
    State × Bool :=
  if !s.link.session.lifecycle.owns requestId then (s, false)
  else
    let s := s.respond requestId kind fields
    let (lifecycle, released) := s.link.session.lifecycle.terminal requestId
    (s.setLifecycle lifecycle, released)

def emitV2Event (s : State) (kind : V2EventKind) (fields : List Field) : State :=
  let (session, sequence) := s.link.session.nextEventSequence
  { s with link.session := session }.emit (.event ⟨sequence, kind, fields⟩)

def currentV2MachineActivity (s : State) : V2MachineActivity where
  feedScheduled := s.feeder.feedScheduled
  feeding := s.feeder.isFeeding
  feedHoming := s.feeder.isFeedHoming
  feedHomingOffset := s.feeder.isFeedHomingOffset
  feedCompletionActive := s.feedCompletion.isActive
  airDropActive := s.feedCompletion.airDropActive
  sortMoving := s.sorter.sortInProgress || s.sorter.isSorting
  sortHoming := s.sorter.isSortHoming
  sortHomingOffset := s.sorter.isSortHomingOffset
  sorterJogActive := s.sorter.sorterJog.active
  slotDropGateActive := s.sorter.slotDropGate.active
  feedCycleInProgress := s.feeder.feedCycleInProgress
  feedCycleComplete := s.feeder.feedCycleComplete
  feedError := s.feeder.isFeedError
  diagnosticActive := s.diagnostics.isTestCycle || s.diagnostics.isSortTestCycle

def currentPhase (s : State) : MachinePhase := deriveMachinePhase s.currentV2MachineActivity

def baselineV2State (s : State) : State :=
  s.setFaultStateTracker
    (s.link.faultStateTracker.baseline s.machineState.mode.code s.currentPhase.code)

def emitV2StateIfChanged (s : State) : State :=
  if s.link.session.mode ≠ .v2 then s
  else
    let (tracker, changed) :=
      s.link.faultStateTracker.observeState s.machineState.mode.code s.currentPhase.code
    let s := s.setFaultStateTracker tracker
    if !changed then s
    else s.emitV2Event .state
      [("mode", s.machineState.mode.name), ("phase", s.currentPhase.name)]

def emitV2Busy (s : State) (requestId activeRequestId : Nat) : State :=
  s.respond requestId (.error 2001 "busy") [field "active_id" activeRequestId]

def emitV2DuplicateId (s : State) (requestId : Nat) : State :=
  s.emitV2Event (.reject 1003 "bad_id") (if requestId ≠ 0 then [field "id" requestId] else [])

def beginV2Immediate (s : State) (requestId : Nat) : State × Bool :=
  if requestId = 0 ∧ s.link.session.lifecycle.isIdlessActive then (s.emitV2Busy 0 0, false)
  else
    let (lifecycle, result) := s.link.session.lifecycle.beginReadOnly requestId
    let s := s.setLifecycle lifecycle
    match result with
    | .duplicateId => (s.emitV2DuplicateId requestId, false)
    | .busy => (s.emitV2Busy requestId lifecycle.activeRequestId, false)
    | .started => (s, true)

def finishV2PhysicalRequest (s : State) (requestId : Nat) (operation : PhysicalRequestOperation)
    (slot : Int) : State :=
  if !s.link.session.lifecycle.owns requestId then s
  else
    let s := s.emitV2StateIfChanged
    match operation with
    | .homeAll =>
      (s.emitV2Terminal requestId .done [("feed_homed", "1"), ("sort_homed", "1")]).1
    | .homeFeeder => (s.emitV2Terminal requestId .done [("feed_homed", "1")]).1
    | .homeSorter => (s.emitV2Terminal requestId .done [("sort_homed", "1")]).1
    | .sortTo =>
      let s := s.respond requestId .done [("slot", toString slot)]
      s.setLifecycle (s.link.session.lifecycle.terminal requestId).1
    | .none => s

def serviceV2PhysicalRequest (s : State) : State :=
  if s.link.session.mode ≠ .v2 ∨ !s.link.physicalRequestTracker.active then s
  else
    let (tracker, changed) := s.link.physicalRequestTracker.observePhase s.currentPhase
    let s := s.setTracker tracker
    if !changed then s
    else s.respond tracker.requestId .progress [("phase", s.currentPhase.name)]

def activeIdField (s : State) : Field :=
  if s.link.session.lifecycle.active then field "active_id" s.link.session.lifecycle.activeRequestId
  else ("active_id", "none")

def queueFields (s : State) : List Field :=
  [field "queue_previous" (unsigned s.sorter.qPos1), field "queue_next" (unsigned s.sorter.qPos2)]

def capabilityFields (s : State) : List Field :=
  let slots :=
    maximumRepresentableSlotCount s.configuration.sortSteps sortMicrosteps.toNat maxAvrInt
  [field "protocol" 2, field "max_line" v2MaxLineLength, ("crc", "none"), field "queue_depth" 2,
   field "slot_max" (slots - 1), field "slot_count" s.configuration.slotCount,
   field "pwm" useArduinoPwmDimmer.toNat, field "airdrop" 1,
   field "feed_sensor" feedSensorEnabled.toNat, field "feed_home" feedHomingEnabled.toNat,
   field "sort_home" sortHomingEnabled.toNat]

def statusFields (s : State) : List Field :=
  [("mode", s.machineState.mode.name), ("phase", s.currentPhase.name),
   field "feed_homed" s.machineState.feeder.positionKnown.toNat,
   field "sort_homed" s.machineState.sorter.positionKnown.toNat,
   field "motor_enabled" s.motorDriversEnabled.toNat, s.activeIdField,
   field "fault_code" s.link.faultStateTracker.faultCode] ++
  s.queueFields ++ [field "config_generation" s.link.configGeneration]

def inspectionFields (s : State) : V2InspectionCommand → List Field
  | .protocolVersion => [field "protocol" 2]
  | .capabilities => s.capabilityFields
  | .status => s.statusFields
  | .queue => field "queue_depth" 2 :: s.queueFields
  | .none => []

def emitV2Inspection (s : State) (requestId : Nat) (inspection : V2InspectionCommand) : State :=
  let s := s.respondData requestId (s.inspectionFields inspection)
  (s.emitV2Terminal requestId .done []).1

def configurationFields (c : Configuration) : List Field :=
  [field "FeedMotorSpeed" (unsigned c.feedSpeed), field "FeedCycleSteps" (unsigned c.feedSteps),
   field "SortMotorSpeed" (unsigned c.sortSpeed), field "SortSteps" c.sortSteps,
   field "SlotCount" c.slotCount, field "NotificationDelay" (unsigned c.notificationDelay),
   field "SlotDropDelay" (unsigned c.slotDropDelay), field "AirDropEnabled" c.airDropEnabled.toNat,
   field "AirDropPostDelay" (unsigned c.airDropPostDelay),
   field "AirDropPreDelay" (unsigned c.airDropPreDelay),
   field "AirDropSignalTime" (unsigned c.airDropSignalTime),
   field "FeedHomingOffset" (unsigned c.feedHomingOffset),
   field "SortHomingOffset" (unsigned c.sortHomingOffset),
   field "AutoMotorStandbyTimeout" c.autoMotorStandbyTimeout,
   field "DebounceTimeout" c.debounceTimeout, field "DebouncePauseTime" c.debouncePauseTime] ++
  if useArduinoPwmDimmer then [field "CameraLEDLevel" (unsigned c.cameraLedLevel)] else []

def emitV2Configuration (s : State) (requestId : Nat) : State :=
  let s := s.respondData requestId (configurationFields s.configuration)
  (s.emitV2Terminal requestId .done []).1

def v2SetterKey : V1Command → String
  | .debounceTimeout => "debounceTimeout"
  | .debounceTime => "debounceTime"
  | .feedSpeed => "feedspeed"
  | .feedHomingOffset => "feedhomingoffset"
  | .sortHomingOffset => "sorthomingoffset"
  | .sortSpeed => "sortspeed"
  | .sortSteps => "sortsteps"
  | .slotCount => "slotcount"
  | .feedSteps => "feedsteps"
  | .notificationDelay => "notificationdelay"
  | .slotDropDelay => "slotdropdelay"
  | .airDropEnabled => "airdropenabled"
  | .airDropPostDelay => "airdroppostdelay"
  | .airDropPreDelay => "airdroppredelay"
  | .airDropSignalDuration => "airdropdsignalduration"
  | .autoMotorStandbyTimeout => "automotorstandbytimeout"
  | .cameraLedLevel => "cameraledlevel"
  | _ => ""

def v2SetterValue (c : Configuration) : V1Command → String
  | .debounceTimeout => toString c.debounceTimeout
  | .debounceTime => toString c.debouncePauseTime
  | .feedSpeed => toString c.feedSpeed
  | .feedHomingOffset => toString c.feedHomingOffset
  | .sortHomingOffset => toString c.sortHomingOffset
  | .sortSpeed => toString c.sortSpeed
  | .sortSteps => toString c.sortSteps
  | .slotCount => toString c.slotCount
  | .feedSteps => toString c.feedSteps
  | .notificationDelay => toString c.notificationDelay
  | .slotDropDelay => toString c.slotDropDelay
  | .airDropEnabled => toString c.airDropEnabled.toNat
  | .airDropPostDelay => toString c.airDropPostDelay
  | .airDropPreDelay => toString c.airDropPreDelay
  | .airDropSignalDuration => toString c.airDropSignalTime
  | .autoMotorStandbyTimeout => toString c.autoMotorStandbyTimeout
  | .cameraLedLevel => toString c.cameraLedLevel
  | _ => ""

def v2SetterRangeFitsLine : V1Command → Bool
  | .feedSpeed | .sortSpeed | .sortSteps | .slotCount | .feedSteps | .slotDropDelay
  | .debounceTime => true
  | _ => false

def v2SetterRangeFields (s : State) (command : V1Command) : List Field :=
  match v1SetterRange command s.configuration v1DispatchLimits with
  | none => []
  | some (minimum, maximum) => [field "min" minimum, field "max" maximum]

def emitV2SetterError (s : State) (requestId : Nat) (command : V1Command) (malformed : Bool) :
    State :=
  let range :=
    if !malformed && v2SetterRangeFitsLine command then s.v2SetterRangeFields command else []
  let kind : V2ResponseKind :=
    if malformed then .error 1005 "invalid_argument" else .error 1006 "out_of_range"
  (s.emitV2Terminal requestId kind (("key", v2SetterKey command) :: range)).1

def emitV2SetterDone (s : State) (requestId : Nat) (command : V1Command) : State :=
  (s.emitV2Terminal requestId .done
    [(v2SetterKey command, v2SetterValue s.configuration command),
     field "generation" s.link.configGeneration]).1

def refuseV2Request (s : State) (requestId : Nat) : Option State :=
  if s.link.session.lifecycle.owns requestId then some (s.emitV2DuplicateId requestId)
  else if s.executionBusy || s.link.session.lifecycle.active then
    some (s.emitV2Busy requestId s.link.session.lifecycle.activeRequestId)
  else none

/-- `lifecycle.beginActive` and the lines for its two refusals. -/
def beginV2Active (s : State) (requestId : Nat) : State × Bool :=
  let (lifecycle, result) := s.link.session.lifecycle.beginActive requestId
  let s := s.setLifecycle lifecycle
  match result with
  | .duplicateId => (s.emitV2DuplicateId requestId, false)
  | .busy => (s.emitV2Busy requestId lifecycle.activeRequestId, false)
  | .started => (s, true)

def beginV2Setter (s : State) (requestId : Nat) : State × Bool :=
  match s.refuseV2Request requestId with
  | some refusal => (refusal, false)
  | none => s.beginV2Active requestId

def dispatchContext (s : State) (running busy pending : Bool) : V1DispatchContext :=
  ⟨running, busy, pending, s.sorter.qPos1, s.sorter.qPos2⟩

/-- The rest of `handleV2Setter` once the request is active. -/
def applyV2Setter (s : State) (requestId : Nat) (payload : Bytes) (command : V1Command)
    (t : Ticks) : State :=
  let context := s.dispatchContext s.machineState.isRunning false false
  let (result, configuration) := dispatchV1Command payload context s.configuration v1DispatchLimits
  let s := s.setConfiguration configuration
  if result.output ≠ .response ∨ result.response ≠ .ok then
    s.emitV2SetterError requestId command
      (!v1SetterArgumentIsSyntacticallyComplete payload command)
  else ((s.applyV1Action result t).advanceConfigGeneration).emitV2SetterDone requestId command

def handleV2Setter (s : State) (requestId : Nat) (payload : Bytes) (command : V1Command)
    (t : Ticks) : State :=
  let (s, begun) := s.beginV2Setter requestId
  if begun then s.applyV2Setter requestId payload command t else s

/-- The end of `beginV2PhysicalRequest`: the request is accepted and its action runs. -/
def acceptV2PhysicalRequest (s : State) (requestId : Nat) (operation : PhysicalRequestOperation)
    (result : V1DispatchResult) (t : Ticks) : State :=
  let name := if operation = .sortTo then "sort" else "home"
  let s := s.respond requestId .accepted [("operation", name)]
  let (tracker, tracking) := s.link.physicalRequestTracker.begin requestId operation result.value
  let s := s.setTracker tracker
  if tracking then s.applyV1Action result t
  else (s.emitV2Terminal requestId (.error 2001 "busy") []).1

/-- The rest of `beginV2PhysicalRequest` once the payload has been dispatched. -/
def startV2PhysicalRequest (s : State) (requestId : Nat) (operation : PhysicalRequestOperation)
    (result : V1DispatchResult) (t : Ticks) : State :=
  let (s, begun) := s.beginV2Active requestId
  if !begun then s
  else if result.action = .none then
    if result.response = .notHomed then
      (s.emitV2Terminal requestId (.error 2002 "not_homed") []).1
    else (s.emitV2Terminal requestId (.error 1005 "invalid_argument") []).1
  else s.acceptV2PhysicalRequest requestId operation result t

def beginV2PhysicalRequest (s : State) (requestId : Nat) (payload : Bytes)
    (operation : PhysicalRequestOperation) (command : V1Command) (t : Ticks) : State :=
  match s.refuseV2Request requestId with
  | some refusal => refusal
  | none =>
    let running :=
      if command = .sortTo then s.machineState.sorter.positionKnown else s.machineState.isRunning
    let (result, configuration) := dispatchV1Command payload
      (s.dispatchContext running false false) s.configuration v1DispatchLimits
    (s.setConfiguration configuration).startV2PhysicalRequest requestId operation result t

def beginV2HomeAll (s : State) (requestId : Nat) (t : Ticks) : State :=
  s.beginV2PhysicalRequest requestId (ascii "homefeeder") .homeAll .homeFeeder t

def handleV2Stop (s : State) (requestId : Nat) : State :=
  if s.link.session.lifecycle.owns requestId then s.emitV2DuplicateId requestId
  else
    let lifecycle := s.link.session.lifecycle
    let s := s.setTracker s.link.physicalRequestTracker.cancel
    let s := s.setLifecycle lifecycle.cancel
    let s := s.enterStoppedState
    let s := if lifecycle.active then
        s.respond lifecycle.activeRequestId (.error 2004 "cancelled") [field "by" requestId]
      else s
    s.emitV2StateIfChanged.respond requestId .done [("mode", "stopped")]

def handleV2ProtocolOne (s : State) (requestId : Nat) : State :=
  if requestId = 0 ∧ s.link.session.lifecycle.isIdlessActive then s.emitV2Busy 0 0
  else
    match s.refuseV2Request requestId with
    | some refusal => refusal
    | none =>
      let (s, begun) := s.beginV2Immediate requestId
      if !begun then s
      else
        let (s, released) := s.emitV2Terminal requestId .done [("protocol", "1")]
        if !released then s
        else
          { s with link.commandParser := .reset, link.pendingCommand := .empty
                   link.session := .reset }

def handleV2Immediate (s : State) (requestId : Nat) (payload : Bytes) (t : Ticks) : State :=
  let (s, begun) := s.beginV2Immediate requestId
  if !begun then s
  else if payload = ascii "ping" then
    let s := s.respond requestId .done [field "uptime_ms" t.now.toNat]
    s.setLifecycle (s.link.session.lifecycle.terminal requestId).1
  else if payload = ascii "version" then
    ((s.respond requestId .data [("version", firmwareVersion)]).emitV2Terminal
      requestId .done []).1
  else
    let inspection := classifyV2InspectionCommand payload
    if inspection ≠ .none then s.emitV2Inspection requestId inspection
    else (s.emitV2Terminal requestId (.error 1004 "unknown_command") []).1

def handleV2Request (s : State) (requestId : Nat) (payload : Bytes) (t : Ticks) : State :=
  if payload = ascii "stop" then s.handleV2Stop requestId
  else if payload = ascii "protocol:1" then s.handleV2ProtocolOne requestId
  else
    let command := classifyV1Command payload
    if command = .getConfig then
      let (s, begun) := s.beginV2Immediate requestId
      if begun then s.emitV2Configuration requestId else s
    else if v1CommandIsSetter command then s.handleV2Setter requestId payload command t
    else if payload = ascii "homeall" then s.beginV2HomeAll requestId t
    else if command = .homeFeeder then
      s.beginV2PhysicalRequest requestId payload .homeFeeder command t
    else if command = .homeSorter then
      s.beginV2PhysicalRequest requestId payload .homeSorter command t
    else if command = .sortTo then
      s.beginV2PhysicalRequest requestId payload .sortTo command t
    else s.handleV2Immediate requestId payload t

def handleV2Frame (s : State) (status : FrameResult) (frame : Bytes) (t : Ticks) : State :=
  match status with
  | .frameOverflow | .frameInvalid => s.emitV2Event (.reject 1001 "bad_frame") []
  | .noFrame => s
  | .frameReady =>
    match parseV2RequestEnvelope frame with
    | .badId => s.emitV2Event (.reject 1003 "bad_id") []
    | .badFrame => s.emitV2Event (.reject 1001 "bad_frame") []
    | .ready envelope => s.handleV2Request envelope.requestId envelope.payload t

def writeV1Output (s : State) (result : V1DispatchResult) : State :=
  match result.output with
  | .none => s
  | .response => s.emit (.v1 result.response)
  | .version => s.emit .version
  | .configuration => s.emit (.configuration s.configuration)

/-- The end of `handleV1Frame`: what the dispatched result asks for. -/
def performV1 (s : State) (status : V1FrameStatus) (command : Bytes) (result : V1DispatchResult)
    (t : Ticks) : State :=
  if result.action = .queuePending then
    let (pending, queued) := s.link.pendingCommand.enqueue command
    let s := s.setPendingCommand pending
    if queued then s else s.emit (.v1 .busy)
  else
    let accepted := status = .ready ∧ v1CommandIsSetter (classifyV1Command command) ∧
      result.output = .response ∧ result.response = .ok
    let s := if accepted then s.advanceConfigGeneration else s
    (s.applyV1Action result t).writeV1Output result

/-- `handleV1Frame` after protocol negotiation. -/
def handleV1Command (s : State) (status : V1FrameStatus) (command : Bytes)
    (dispatchingPending : Bool) (t : Ticks) : State :=
  let context := s.dispatchContext s.machineState.isRunning s.executionBusy
    (s.link.pendingCommand.available && !dispatchingPending)
  let (result, configuration) :=
    dispatchV1Frame status command context s.configuration v1DispatchLimits
  (s.setConfiguration configuration).performV1 status command result t

def handleV1Frame (s : State) (status : V1FrameStatus) (command : Bytes)
    (dispatchingPending : Bool) (t : Ticks) : State :=
  let negotiation :=
    if !dispatchingPending && status = .ready then
      dispatchV2Negotiation command s.executionBusy s.link.pendingCommand.available
    else .notHandled
  match negotiation with
  | .busy => s.emit (.v1 .busy)
  | .discovery => s.emit .protocolAvailable
  | .activate =>
    let s := s.emit .protocolReady
    { s with link.commandParser := .reset, link.pendingCommand := .empty
             link.session := s.link.session.enterV2 }.baselineV2State
  | .notHandled => s.handleV1Command status command dispatchingPending t

def handleRawStop (s : State) : State :=
  let v2 : Bool := s.link.session.mode = .v2
  let s := if v2 then
      ((s.setTracker s.link.physicalRequestTracker.cancel).setLifecycle
        s.link.session.lifecycle.cancel).setV2Parser .reset
    else s.setCommandParser .reset
  let s := s.enterStoppedState
  let s := if v2 then s.emitV2StateIfChanged else s
  s.emit (.v1 .stopped)

def consumeV2 (s : State) (byte : UInt8) (t : Ticks) : State :=
  let (parser, result) := s.link.session.parser.consume byte
  let s := s.setV2Parser parser
  match result with
  | .noFrame => s
  | .frameReady =>
    (s.handleV2Frame result parser.buffer t).setV2Parser .reset
  | .frameOverflow | .frameInvalid => s.handleV2Frame result [] t

def consumeV1 (s : State) (byte : UInt8) (t : Ticks) : State :=
  let (parser, result) := s.link.commandParser.consume byte
  let s := s.setCommandParser parser
  match result with
  | .noFrame => s
  | .frameOverflow => s.handleV1Frame .tooLong [] false t
  | .frameInvalid => s.handleV1Frame .invalid [] false t
  | .frameReady =>
    (s.handleV1Frame .ready parser.buffer false t).setCommandParser .reset

/-- One turn of the `while` loop of `checkSerial`. -/
def serialByte (s : State) (byte : UInt8) (t : Ticks) : State :=
  let (detector, stopLine) := s.link.rawStopLineDetector.consume byte
  let s := s.setRawStopLineDetector detector
  if stopLine then s.handleRawStop
  else if s.link.session.mode = .v2 then s.consumeV2 byte t
  else s.consumeV1 byte t

/-- The end of `checkSerial`. -/
def dispatchPending (s : State) (t : Ticks) : State :=
  if s.link.session.mode = .v1 ∧ s.link.pendingCommand.available ∧ !s.executionBusy then
    (s.handleV1Frame .ready s.link.pendingCommand.frame true t).clearPendingCommand
  else s

end CaseSorter.Firmware.State
