import CaseSorter.Firmware.Dispatch

/-! Request bookkeeping of protocol v2 (protocol.cpp, then physical_request_tracker.cpp) and
the lines the sketch emits. A v2 line is kept
as its request ID or event sequence with its kind and fields; the legacy lines are an
enumeration. -/

namespace CaseSorter.Firmware

inductive V2BeginResult
  | started
  | busy
  | duplicateId
  deriving DecidableEq, Repr

structure V2RequestLifecycle where
  active : Bool
  activeId : Nat
  readOnly : Bool
  readOnlyId : Nat
  deriving DecidableEq, Repr

namespace V2RequestLifecycle

def reset : V2RequestLifecycle := ⟨false, 0, false, 0⟩

def ownsActive (l : V2RequestLifecycle) (requestId : Nat) : Bool :=
  l.active && l.activeId = requestId

def ownsReadOnly (l : V2RequestLifecycle) (requestId : Nat) : Bool :=
  l.readOnly && l.readOnlyId = requestId

def owns (l : V2RequestLifecycle) (requestId : Nat) : Bool :=
  l.ownsActive requestId || l.ownsReadOnly requestId

def beginActive (l : V2RequestLifecycle) (requestId : Nat) : V2RequestLifecycle × V2BeginResult :=
  if requestId = 0 ∧ l.owns 0 then (l, .busy)
  else if l.ownsActive requestId then (l, .duplicateId)
  else if l.ownsReadOnly requestId then (l, .duplicateId)
  else if l.active then (l, .busy)
  else ({ l with active := true, activeId := requestId }, .started)

def beginReadOnly (l : V2RequestLifecycle) (requestId : Nat) :
    V2RequestLifecycle × V2BeginResult :=
  if requestId = 0 ∧ l.owns 0 then (l, .busy)
  else if l.owns requestId then (l, .duplicateId)
  else if l.readOnly then (l, .busy)
  else ({ l with readOnly := true, readOnlyId := requestId }, .started)

def activeRequestId (l : V2RequestLifecycle) : Nat := if l.active then l.activeId else 0

def isIdlessActive (l : V2RequestLifecycle) : Bool := l.active && l.activeId = 0

def terminal (l : V2RequestLifecycle) (requestId : Nat) : V2RequestLifecycle × Bool :=
  if l.ownsActive requestId then ({ l with active := false, activeId := 0 }, true)
  else if l.ownsReadOnly requestId then ({ l with readOnly := false, readOnlyId := 0 }, true)
  else (l, false)

def cancel (_ : V2RequestLifecycle) : V2RequestLifecycle := reset

end V2RequestLifecycle

inductive ProtocolMode
  | v1
  | v2
  deriving DecidableEq, Repr

structure ProtocolSession where
  mode : ProtocolMode
  eventSequence : Nat
  parser : V2FrameParser
  lifecycle : V2RequestLifecycle
  deriving DecidableEq, Repr

namespace ProtocolSession

def reset : ProtocolSession := ⟨.v1, 0, .reset, .reset⟩

def enterV2 (_ : ProtocolSession) : ProtocolSession := ⟨.v2, 1, .reset, .reset⟩

def nextEventSequence (p : ProtocolSession) : ProtocolSession × Nat :=
  ({ p with eventSequence := if p.eventSequence = 65535 then 1 else p.eventSequence + 1 },
    p.eventSequence)

end ProtocolSession

inductive V2NegotiationAction
  | notHandled
  | discovery
  | activate
  | busy
  deriving DecidableEq, Repr

def dispatchV2Negotiation (command : Bytes) (executionBusy pendingCommand : Bool) :
    V2NegotiationAction :=
  if command = ascii "protocol:2?" then
    if executionBusy || pendingCommand then .busy else .discovery
  else if command = ascii "protocol:2" then
    if executionBusy || pendingCommand then .busy else .activate
  else .notHandled

inductive V2InspectionCommand
  | none
  | protocolVersion
  | capabilities
  | status
  | queue
  deriving DecidableEq, Repr

def classifyV2InspectionCommand (payload : Bytes) : V2InspectionCommand :=
  if payload = ascii "protocolversion" then .protocolVersion
  else if payload = ascii "capabilities" then .capabilities
  else if payload = ascii "status" then .status
  else if payload = ascii "queue" then .queue
  else .none

inductive MachinePhase
  | idle
  | feedWait
  | feedMove
  | feedHome
  | sortMove
  | sortHome
  | settling
  | airDrop
  | diagnostic
  deriving DecidableEq, Repr

structure V2MachineActivity where
  feedScheduled : Bool
  feeding : Bool
  feedHoming : Bool
  feedHomingOffset : Bool
  feedCompletionActive : Bool
  airDropActive : Bool
  sortMoving : Bool
  sortHoming : Bool
  sortHomingOffset : Bool
  sorterJogActive : Bool
  slotDropGateActive : Bool
  feedCycleInProgress : Bool
  feedCycleComplete : Bool
  feedError : Bool
  diagnosticActive : Bool
  deriving DecidableEq, Repr

def deriveMachinePhase (a : V2MachineActivity) : MachinePhase :=
  if a.diagnosticActive then .diagnostic
  else if a.feedCompletionActive then if a.airDropActive then .airDrop else .settling
  else if a.feedHoming || a.feedHomingOffset then .feedHome
  else if a.sortHoming || a.sortHomingOffset || a.sorterJogActive then .sortHome
  else if a.sortMoving then .sortMove
  else if a.slotDropGateActive then .settling
  else if a.feeding then .feedMove
  else if a.feedScheduled then .feedWait
  else if a.feedCycleInProgress || (a.feedCycleComplete && !a.feedError) then .settling
  else .idle

def MachinePhase.code : MachinePhase → Nat
  | .idle => 0
  | .feedWait => 1
  | .feedMove => 2
  | .feedHome => 3
  | .sortMove => 4
  | .sortHome => 5
  | .settling => 6
  | .airDrop => 7
  | .diagnostic => 8

def MachinePhase.name : MachinePhase → String
  | .idle => "idle"
  | .feedWait => "feed_wait"
  | .feedMove => "feed_move"
  | .feedHome => "feed_home"
  | .sortMove => "sort_move"
  | .sortHome => "sort_home"
  | .settling => "settling"
  | .airDrop => "airdrop"
  | .diagnostic => "diagnostic"

def MachineMode.code : MachineMode → Nat
  | .running => 0
  | .stopped => 1
  | .recovering => 2

def MachineMode.name : MachineMode → String
  | .running => "running"
  | .stopped => "stopped"
  | .recovering => "recovering"

inductive PhysicalRequestOperation
  | none
  | homeFeeder
  | homeSorter
  | homeAll
  | sortTo
  deriving DecidableEq, Repr

inductive PhysicalRequestTransition
  | none
  | startSorterHome
  | done
  deriving DecidableEq, Repr

structure PhysicalRequestTracker where
  active : Bool
  requestIdField : Nat
  operationField : PhysicalRequestOperation
  slot : Int
  homeAllSorting : Bool
  phase : MachinePhase
  deriving DecidableEq, Repr

namespace PhysicalRequestTracker

def reset : PhysicalRequestTracker := ⟨false, 0, .none, 0, false, .idle⟩

def begin (t : PhysicalRequestTracker) (requestId : Nat) (operation : PhysicalRequestOperation)
    (slot : Int) : PhysicalRequestTracker × Bool :=
  if t.active ∨ operation = .none then (t, false)
  else (⟨true, requestId, operation, slot, false, .idle⟩, true)

def requestId (t : PhysicalRequestTracker) : Nat := if t.active then t.requestIdField else 0

def operation (t : PhysicalRequestTracker) : PhysicalRequestOperation :=
  if t.active then t.operationField else .none

def observePhase (t : PhysicalRequestTracker) (phase : MachinePhase) :
    PhysicalRequestTracker × Bool :=
  if !t.active || t.phase = phase then (t, false) else ({ t with phase }, true)

def feedHomed (t : PhysicalRequestTracker) : PhysicalRequestTracker × PhysicalRequestTransition :=
  if !t.active then (t, .none)
  else if t.operationField = .homeFeeder then (reset, .done)
  else if t.operationField = .homeAll ∧ t.homeAllSorting = false then
    ({ t with homeAllSorting := true }, .startSorterHome)
  else (t, .none)

def sorterHomed (t : PhysicalRequestTracker) :
    PhysicalRequestTracker × PhysicalRequestTransition :=
  if !t.active then (t, .none)
  else if t.operationField = .homeSorter ∨ (t.operationField = .homeAll ∧ t.homeAllSorting) then
    (reset, .done)
  else (t, .none)

def sortCompleted (t : PhysicalRequestTracker) :
    PhysicalRequestTracker × PhysicalRequestTransition :=
  if t.active ∧ t.operationField = .sortTo then (reset, .done) else (t, .none)

def cancel (_ : PhysicalRequestTracker) : PhysicalRequestTracker := reset

end PhysicalRequestTracker

abbrev Field := String × String

def field (key : String) (value : Nat) : Field := (key, toString value)

inductive V2ResponseKind
  | accepted
  | progress
  | data
  | done
  | error (code : Nat) (name : String)
  deriving DecidableEq, Repr

structure V2Response where
  requestId : Nat
  kind : V2ResponseKind
  fields : List Field
  deriving DecidableEq, Repr

inductive V2EventKind
  | state
  | fault (code : Nat) (name : String)
  | reject (code : Nat) (name : String)
  deriving DecidableEq, Repr

structure V2Event where
  sequence : Nat
  kind : V2EventKind
  fields : List Field
  deriving DecidableEq, Repr

inductive Emission
  | v1 (response : V1Response)
  | version
  | configuration (values : Configuration)
  | protocolAvailable
  | protocolReady
  | testProgress (completed : Nat) (slot : Nat)
  | sortTestProgress (completed : Nat) (slot : Nat)
  | sortTestCompleted
  | response (line : V2Response)
  | event (line : V2Event)
  deriving DecidableEq, Repr

end CaseSorter.Firmware
