import Mathlib.Logic.Function.Basic
import CaseSorter.Daemon.Domain

/-! The serial worker: a queue and a stop lane shared with the callers under one lock,
and the thread that owns the transport. Each step of the thread is at most one access to
what it shares (a locked section, the published session, a future) together with the
transport work before it; `Input` is what the transport and the caller's own code answer.
Straight-line code of the source is a chain of `perform`. -/

namespace CaseSorter.Daemon

inductive WorkerState
  | new
  | starting
  | running
  | closing
  | closed
  | failed
  deriving DecidableEq, Repr

def WorkerState.value : WorkerState → String
  | .new => "new"
  | .starting => "starting"
  | .running => "running"
  | .closing => "closing"
  | .closed => "closed"
  | .failed => "failed"

def SessionAction.value : SessionAction → String
  | .connect => "connect"
  | .recover => "recover"

inductive Fault
  | recovery (message : String) (recovered stopWritten : Bool)
  | protocol (typeName message : String)
  | transport (typeName message : String)
  | other (typeName message : String)
  deriving DecidableEq, Repr

namespace Fault

def message : Fault → String
  | .recovery m _ _ | .protocol _ m | .transport _ m | .other _ m => m

def failure : Fault → Failure
  | .recovery m _ _ => .other "RecoveryError" m
  | .protocol t m | .transport t m | .other t m => .other t m

def recovered : Fault → Bool
  | .recovery _ r _ => r
  | _ => false

def isRecovery : Fault → Bool
  | .recovery _ _ _ => true
  | _ => false

def breaksSession : Fault → Bool
  | .other _ _ => false
  | _ => true

def rawStop : Fault → Bool
  | .recovery _ _ stopWritten => stopWritten
  | _ => false

def transportFailed : Fault → Bool
  | .recovery _ _ stopWritten => !stopWritten
  | .transport _ _ => true
  | _ => false

end Fault

structure SessionSnapshot where
  state : ConnectionState
  generation : Nat
  reason : String
  deriving DecidableEq, Repr

namespace SessionSnapshot

def initial : SessionSnapshot := ⟨.disconnected, 1, "initial"⟩

def admitsWork (s : SessionSnapshot) : Bool := s.state = .ready

def transition (state : ConnectionState) (reason : String) (s : SessionSnapshot) :
    SessionSnapshot :=
  if state = s.state then s else ⟨state, s.generation + 1, reason⟩

end SessionSnapshot

/-- The snapshots gathered before a session is published ready. -/
structure SessionProfile where
  firmware : FirmwareProfile
  readiness : MachineReadiness
  deriving DecidableEq, Repr

abbrev FutureId := Nat
abbrev TransportId := Nat

/-- What a future is resolved with; a stop has no result of its own. -/
abbrev Settlement := Except Failure (Option WorkerResult)

inductive FutureState
  | pending
  | running
  | cancelled
  | resolved (s : Settlement)
  deriving DecidableEq

def FutureState.isOpen : FutureState → Bool
  | .pending | .running => true
  | .cancelled | .resolved _ => false

/-- `onDispatch` closes over the operation it gates; `admittedIn` is the generation of
the verified session that was current at admission, and no function reads it. -/
structure WorkItem where
  future : FutureId
  intent : WorkerIntent
  onDispatch : Option OperationRecord
  admittedIn : Option Nat
  deriving DecidableEq

def WorkerIntent.isSession : WorkerIntent → Bool
  | .session _ => true
  | _ => false

def WorkerIntent.isMovement : WorkerIntent → Bool
  | .home _ | .sort _ => true
  | _ => false

inductive Purpose
  | startup
  | reconnect (left : Nat) (fault : Fault)
  | session (action : SessionAction) (item : WorkItem)
  deriving DecidableEq

inductive StopCause
  | idle
  | interrupt (item : WorkItem)
  | late (item : WorkItem)
  deriving DecidableEq

inductive Op
  | publish (state : ConnectionState) (reason : String)
  | publishStopped
  | settle (item : WorkItem) (s : Settlement)
  | resolveStop (error : Option Fault)
  | drain (error : Failure)
  | markFailed (fault : Fault)
  | release (futures : List FutureId) (error : Failure)
  deriving DecidableEq

/-- What one step of the thread does to the state it shares; the identity a request was
written with is kept for the record. -/
inductive Cmd
  | op (o : Op)
  | skip
  | observe (profile : SessionProfile)
  | transmitted (item : Option WorkItem) (id : Option Nat)
  | exchangeFailed (item : Option WorkItem) (fault : Fault)
  | stopWritten
  | stopUnsent (fault : Fault)
  | stopAcknowledged
  | stopFailed (fault : Fault)
  | acquire
  | close (t : TransportId) (failure : Option Fault)
  | becomeRunning
  | takeItem
  | setRunning (item : WorkItem)
  | dispatched (item : WorkItem)
  | finish
  deriving DecidableEq

/-- Where the thread is. -/
inductive Pc
  | unstarted
  | perform (o : Op) (next : Pc)
  | openTransport (p : Purpose)
  | handshake (p : Purpose) (t : TransportId)
  | activate (p : Purpose) (t : TransportId)
  | reactivate (t : TransportId)
  | closeTransport (t : TransportId) (next : Pc)
  | started (t : TransportId)
  | reconnecting (left : Nat) (fault : Fault)
  | loop (t : TransportId)
  | take (t : TransportId) (item : WorkItem)
  | gate (t : TransportId) (item : WorkItem)
  | status (t : TransportId) (action : SessionAction) (item : WorkItem)
  | send (t : TransportId) (item : WorkItem)
  | polling (t : TransportId) (item : WorkItem) (id : Nat) (responses : List Response)
  | reading (t : TransportId) (item : WorkItem) (id : Nat) (responses : List Response)
  | faulted (t : TransportId) (item : WorkItem) (fault : Fault)
  | finished (t : TransportId) (item : WorkItem) (result : WorkerResult)
  | refresh (t : TransportId)
  | sendStop (cause : StopCause) (t : TransportId)
  | awaitStop (cause : StopCause) (t : TransportId)
  | recovering (t : TransportId) (fault : Fault)
  | finish
  | ended
  deriving DecidableEq

/-- What the transport, the controller and the gate answer. -/
inductive Input
  | go
  | opened
  | verified
  | profile (p : SessionProfile)
  | closed (failure : Option Fault)
  | gated (refusal : Option Failure)
  | written (id : Nat)
  | nothing
  | response (r : Response)
  | answer (r : WorkerResult)
  | stopWritten
  | stopped
  | refused (fault : Fault)
  | fault (fault : Fault)
  deriving DecidableEq

/-- What has happened, for the record. -/
inductive Entry
  | admitted (item : WorkItem)
  | stopAccepted (f : FutureId)
  | closeRequested
  | thread (c : Cmd)
  | resolved (f : FutureId) (s : Settlement)
  | invalidState (f : FutureId)
  deriving DecidableEq

/-- The worker. `todo` are the futures the thread resolves before it goes on, `preempted`
the items a caller has taken from the queue and has still to fail; `obtained` and
`closedTransports` account for the transports. No function reads `log`, newest first. -/
structure Worker where
  state : WorkerState
  session : SessionSnapshot
  profile : Option SessionProfile
  normal : List WorkItem
  normalCapacity : Nat
  maxReconnectAttempts : Nat
  stopRequested : Bool
  stopWaiters : List FutureId
  failure : Option Fault
  futures : FutureId → FutureState
  nextFuture : FutureId
  obtained : TransportId
  closedTransports : List TransportId
  preempted : List (FutureId × Failure)
  todo : List (FutureId × Settlement)
  pc : Pc
  log : List Entry
  capacity_pos : 0 < normalCapacity

namespace Worker

def new (normalCapacity maxReconnectAttempts : Nat) (capacity_pos : 0 < normalCapacity) :
    Worker where
  state := .new
  session := .initial
  profile := none
  normal := []
  normalCapacity := normalCapacity
  maxReconnectAttempts := maxReconnectAttempts
  stopRequested := false
  stopWaiters := []
  failure := none
  futures := fun _ => .pending
  nextFuture := 0
  obtained := 0
  closedTransports := []
  preempted := []
  todo := []
  pc := .unstarted
  log := []
  capacity_pos := capacity_pos

def record (e : Entry) (w : Worker) : Worker := { w with log := e :: w.log }

/-- `set_result` and `set_exception`: refused by a future that is resolved already. -/
def setOutcome (f : FutureId) (s : Settlement) (w : Worker) : Worker :=
  { w with
    futures := if (w.futures f).isOpen then Function.update w.futures f (.resolved s)
      else w.futures
    log := (if (w.futures f).isOpen then .resolved f s else .invalidState f) :: w.log }

def settlePending (f : FutureId) (s : Settlement) (w : Worker) : Worker :=
  { w with
    futures := if w.futures f = .pending then Function.update w.futures f (.resolved s)
      else w.futures
    log := match w.futures f with
      | .pending => .resolved f s :: w.log
      | .cancelled => w.log
      | .running | .resolved _ => .invalidState f :: w.log }

def workItem (intent : WorkerIntent) (onDispatch : Option OperationRecord) (w : Worker) :
    WorkItem :=
  ⟨w.nextFuture, intent, onDispatch,
    if w.session.state = .ready then some w.session.generation else none⟩

def submit (intent : WorkerIntent) (onDispatch : Option OperationRecord) (w : Worker) :
    Except Failure FutureId × Worker :=
  if w.state ≠ .running then
    (.error (.workerNotRunning s!"worker is not running: {w.state.value}"), w)
  else if !w.session.admitsWork && !intent.isSession then
    (.error (.sessionNotReady s!"session is not ready: {w.session.state.value}"), w)
  else if w.stopRequested then
    (.error (.stopInProgress "priority stop is in progress"), w)
  else if w.normalCapacity ≤ w.normal.length then
    (.error (.queueFull "normal serial admission queue is full"), w)
  else
    let item := w.workItem intent onDispatch
    (.ok item.future, { w with
      normal := w.normal ++ [item]
      nextFuture := w.nextFuture + 1
      log := .admitted item :: w.log })

def preempt (message : String) (items : List WorkItem) : List (FutureId × Failure) :=
  items.map fun item => (item.future, .preemptedByStop message)

def submitPriorityStop (w : Worker) : Except Failure FutureId × Worker :=
  if w.state ≠ .running then
    (.error (.workerNotRunning s!"worker is not running: {w.state.value}"), w)
  else
    let w := { w with
      stopWaiters := w.stopWaiters ++ [w.nextFuture]
      nextFuture := w.nextFuture + 1
      log := .stopAccepted w.nextFuture :: w.log }
    if w.stopRequested then (.ok (w.nextFuture - 1), w)
    else (.ok (w.nextFuture - 1), { w with
      stopRequested := true
      normal := []
      preempted := w.preempted ++
        preempt "queued work invalidated by priority stop" w.normal })

def close (w : Worker) : Worker :=
  match w.state with
  | .new => { w with state := .closed }
  | .starting | .running => { w with
      state := .closing
      stopRequested := w.stopRequested || w.state = .running
      normal := []
      preempted := w.preempted ++
        preempt "queued work invalidated by worker shutdown" w.normal
      log := .closeRequested :: w.log }
  | .closing | .closed | .failed => w

def markFailed (fault : Fault) (w : Worker) : Worker :=
  { w with
    state := if w.state = .closed then .closed else .failed
    failure := if w.state = .closed ∨ w.state = .failed then w.failure else some fault }

def publish (state : ConnectionState) (reason : String) (w : Worker) : Worker :=
  { w with session := w.session.transition state reason }

def stopSettlement : Option Fault → Settlement
  | none => .ok none
  | some fault => .error fault.failure

def applyOp (w : Worker) : Op → Worker
  | .publish state reason => w.publish state reason
  | .publishStopped => { w with
      session := if w.session.state = .uncertain then w.session
        else w.session.transition .disconnected "serial worker stopped" }
  | .settle item s => w.setOutcome item.future s
  | .resolveStop error => { w with
      stopRequested := false
      stopWaiters := []
      todo := w.stopWaiters.map fun f => (f, stopSettlement error) }
  | .drain error => { w with
      normal := []
      todo := w.normal.map fun item => (item.future, .error error) }
  | .markFailed fault => w.markFailed fault
  | .release futures error => { w with todo := futures.map fun f => (f, .error error) }

/-- One command of the thread, which leaves `pc` alone. -/
def apply (c : Cmd) (w : Worker) : Worker :=
  let w := w.record (.thread c)
  match c with
  | .skip | .transmitted _ _ | .exchangeFailed _ _ | .stopWritten | .stopUnsent _
  | .stopAcknowledged | .stopFailed _ | .dispatched _ => w
  | .op o => w.applyOp o
  | .observe profile => { w with profile := some profile }
  | .acquire => { w with obtained := w.obtained + 1 }
  | .close t none => { w with closedTransports := t :: w.closedTransports }
  | .close t (some fault) =>
    markFailed fault { w with closedTransports := t :: w.closedTransports }
  | .becomeRunning => { w with state := .running }
  | .takeItem => { w with normal := w.normal.tail }
  | .setRunning item => { w with futures := Function.update w.futures item.future .running }
  | .finish => { w with
      state := if w.state = .failed then .failed else .closed
      normal := []
      stopWaiters := []
      stopRequested := false }

end Worker

namespace Pc

def connect (p : Purpose) : Pc :=
  .perform (.publish .connecting "opening controller transport") (.openTransport p)

def failSession (fault : Fault) (reason : String) (next : Pc) : Pc :=
  .perform (.publish .uncertain
    (s!"{reason}: {fault.message}" ++ if fault.recovered then " (verified v1 only)" else ""))
    (.perform (.markFailed fault) next)

def sessionFailed (action : SessionAction) (item : WorkItem) (fault : Fault) : Pc :=
  .perform (.settle item (.error fault.failure))
    (failSession fault s!"{action.value} could not verify the session" .finish)

def attempt : Nat → Fault → Pc
  | 0, fault => failSession fault "controller could not be reconnected" .finish
  | left + 1, fault => .reconnecting left fault

/-- Where an exception of `_connect` goes. -/
def connectFailed (fault : Fault) : Purpose → Pc
  | .startup =>
    .perform (.publish .uncertain s!"worker fault: {fault.message}")
      (.perform (.markFailed fault) .finish)
  | .reconnect left first =>
    .perform (.publish .disconnected s!"reconnect attempt failed: {fault.message}")
      (attempt left first)
  | .session action item => sessionFailed action item fault

def unverified (t : TransportId) : Purpose → Pc
  | .startup | .reconnect _ _ => .closeTransport t .finish
  | .session action item =>
    sessionFailed action item
      (.protocol "ProtocolError" "v2 request attempted outside an active v2 session")

def verified (t : TransportId) : Purpose → Pc
  | .startup => .started t
  | .reconnect _ _ => .loop t
  | .session action item => .status t action item

def reconnect (attempts : Nat) (t : TransportId) (fault : Fault) : Pc :=
  .closeTransport t (.perform (.publish .disconnected s!"transport lost: {fault.message}")
    (attempt attempts fault))

def recover (t : TransportId) (fault : Fault) : Pc :=
  .perform (.publish .recovering s!"recovering after {fault.message}")
    (.perform (.drain (.preemptedByRecovery
      "queued work discarded by session recovery; not replayed")) (.recovering t fault))

def stopAcknowledged (t : TransportId) : StopCause → Pc
  | .idle => .perform (.resolveStop none) (.loop t)
  | .interrupt item =>
    .perform (.settle item
      (.error (.preemptedByStop "active work cancelled by trusted priority stop")))
      (.perform (.resolveStop none) (.loop t))
  | .late item =>
    .perform (.settle item
      (.error (.preemptedByStop "active result invalidated by trusted priority stop")))
      (.perform (.resolveStop none) (.loop t))

def stopFailed (t : TransportId) (fault : Fault) : StopCause → Pc
  | .idle =>
    .perform (.resolveStop (some fault)) (failSession fault "priority stop was unsafe" (.loop t))
  | .interrupt item => .faulted t item fault
  | .late item =>
    .perform (.settle item
      (.error (.workerUncertain "active result invalidated by failed priority stop")))
      (.perform (.resolveStop (some fault))
        (failSession fault "priority stop was unsafe" (.loop t)))

def afterFault (t : TransportId) (fault : Fault) : Pc :=
  if fault.breaksSession then recover t fault else .loop t

def await (t : TransportId) (item : WorkItem) (id : Nat) (responses : List Response) : Pc :=
  if item.intent.isMovement then .polling t item id responses else .reading t item id responses

def afterResult (t : TransportId) (item : WorkItem) : Pc :=
  if item.intent.isMovement then .refresh t else .loop t

end Pc

def Purpose.item : Purpose → Option WorkItem
  | .session _ item => some item
  | _ => none

namespace Worker

def begin (t : TransportId) (item : WorkItem) (w : Worker) : Pc :=
  match item.intent with
  | .session action =>
    if action = .recover ∨ w.session.state ≠ .ready then
      .closeTransport t (.perform
        (.publish .disconnected s!"{action.value} requested by an operator")
        (Pc.connect (.session action item)))
    else .status t action item
  | .query _ | .home _ | .sort _ => .send t item

def received (t : TransportId) (item : WorkItem) (id : Nat) (responses : List Response)
    (r : Response) : Pc :=
  if r.terminal then
    .finished t item (.completion
      { requestId := id
        succeeded := r.kind = .done
        responses := responses ++ [r]
        error := if r.kind = .done then none else r.name })
  else Pc.await t item id (responses ++ [r])

def terminalError (w : Worker) : Failure :=
  match w.failure with
  | some fault => fault.failure
  | none => .workerNotRunning "serial worker stopped"

/-- The next command of the thread and where it goes from there; `none` while it waits or
for an answer its exchange cannot have. -/
def control (w : Worker) : Pc → Input → Option (Cmd × Pc)
  | .perform o next, .go => some (.op o, next)
  | .openTransport p, .opened =>
    some (.acquire,
      if w.state = .closing then Pc.unverified w.obtained p
      else .perform (.publish .verifyingV1 "verifying legacy v1 barrier")
        (.handshake p w.obtained))
  | .openTransport p, .fault fault => some (.skip, Pc.connectFailed fault p)
  | .handshake p t, .verified =>
    some (.transmitted p.item none,
      .perform (.publish .activatingV2 "negotiating protocol v2") (.activate p t))
  | .handshake p t, .fault fault =>
    some (.exchangeFailed p.item fault, .closeTransport t (Pc.connectFailed fault p))
  | .activate p t, .profile profile =>
    some (.observe profile,
      .perform (.publish .ready "verified v2 session") (Pc.verified t p))
  | .activate p t, .fault fault =>
    some (.exchangeFailed p.item fault, .closeTransport t (Pc.connectFailed fault p))
  | .reactivate t, .profile profile =>
    some (.observe profile, .perform (.publish .ready "verified v2 session") (.loop t))
  | .reactivate t, .fault fault =>
    some (.exchangeFailed none fault, Pc.reconnect w.maxReconnectAttempts t fault)
  | .closeTransport t next, .closed failure => some (.close t failure, next)
  | .started t, .go =>
    if w.state = .closing then some (.skip, .closeTransport t .finish)
    else some (.becomeRunning, .loop t)
  | .reconnecting left fault, .go =>
    some (.skip, if w.state = .closing then .finish else Pc.connect (.reconnect left fault))
  | .loop t, .go =>
    if w.stopRequested then some (.skip, .sendStop .idle t)
    else if w.state = .closing ∨ w.state = .failed then some (.skip, .closeTransport t .finish)
    else match w.normal with
      | [] => none
      | item :: _ => some (.takeItem, .take t item)
  | .take t item, .go =>
    if w.futures item.future = .cancelled then some (.skip, .loop t)
    else some (.setRunning item, .gate t item)
  | .gate t item, .gated none => some (.dispatched item, w.begin t item)
  | .gate t item, .gated (some e) =>
    if item.onDispatch.isSome then some (.skip, .perform (.settle item (.error e)) (.loop t))
    else none
  | .status t _ item, .answer (.status mode phase) =>
    some (.transmitted (some item) none,
      .perform (.settle item (.ok (some (.status mode phase)))) (.loop t))
  | .status _ action item, .fault fault =>
    some (.exchangeFailed (some item) fault, Pc.sessionFailed action item fault)
  | .send t item, .written id =>
    some (.transmitted (some item) (some id), Pc.await t item id [])
  | .send t item, .fault fault =>
    some (.exchangeFailed (some item) fault, .faulted t item fault)
  | .send t item, .refused fault => some (.skip, .faulted t item fault)
  | .polling t item id responses, .go =>
    some (.skip, if w.stopRequested then .sendStop (.interrupt item) t
      else .reading t item id responses)
  | .polling t item _ _, .fault fault =>
    some (.exchangeFailed (some item) fault, .faulted t item fault)
  | .reading t item id responses, .nothing =>
    some (.skip, Pc.await t item id responses)
  | .reading t item id responses, .response r =>
    if r.requestId = id ∧ (r.terminal → item.intent.isMovement) then
      some (.skip, received t item id responses r)
    else none
  | .reading t item _ _, .answer r =>
    if item.intent.isMovement then none else some (.skip, .finished t item r)
  | .reading t item _ _, .fault fault =>
    some (.exchangeFailed (some item) fault, .faulted t item fault)
  | .faulted t item fault, .go =>
    if w.stopRequested then
      some (.skip, .perform (.settle item
        (.error (.workerUncertain "active work became uncertain during priority stop")))
        (.perform (.resolveStop (some fault)) (.perform (.markFailed fault) (.loop t))))
    else some (.skip, .perform (.settle item (.error fault.failure)) (Pc.afterFault t fault))
  | .finished t item result, .go =>
    if w.stopRequested then some (.skip, .sendStop (.late item) t)
    else some (.skip, .perform (.settle item (.ok (some result))) (Pc.afterResult t item))
  | .refresh t, .profile profile => some (.observe profile, .loop t)
  | .refresh t, .fault fault => some (.exchangeFailed none fault, Pc.afterFault t fault)
  | .sendStop cause t, .stopWritten => some (.stopWritten, .awaitStop cause t)
  | .sendStop cause t, .fault fault =>
    if fault.isRecovery then some (.stopUnsent fault, Pc.stopFailed t fault cause) else none
  | .awaitStop cause t, .stopped => some (.stopAcknowledged, Pc.stopAcknowledged t cause)
  | .awaitStop cause t, .fault fault =>
    if fault.isRecovery then some (.stopFailed fault, Pc.stopFailed t fault cause) else none
  | .recovering t fault, .go =>
    some (.skip,
      if w.state = .closing then .closeTransport t .finish
      else if fault.recovered then
        .perform (.publish .verifyingV1 "v1 verified by protocol library recovery")
          (.perform (.publish .activatingV2 "negotiating protocol v2") (.reactivate t))
      else Pc.reconnect w.maxReconnectAttempts t fault)
  | .finish, .go =>
    some (.finish, .perform .publishStopped
      (.perform (.release (w.normal.map WorkItem.future ++ w.stopWaiters) w.terminalError) .ended))
  | _, _ => none

def threadStep (w : Worker) (i : Input) : Option Worker :=
  match w.todo with
  | (f, s) :: rest =>
    if i = .go then some (settlePending f s { w with todo := rest }) else none
  | [] => (w.control w.pc i).map fun next => { w.apply next.1 with pc := next.2 }

end Worker

/-- The steps of the callers and of the thread, in any order. -/
inductive WorkerEvent
  | start
  | startTimeout
  | submit (intent : WorkerIntent) (onDispatch : Option OperationRecord)
  | stop
  | close
  | cancel (f : FutureId)
  | failPreempted (k : Nat)
  | thread (i : Input)
  deriving DecidableEq

namespace Worker

def start (w : Worker) : Worker :=
  if w.state = .new then { w with state := .starting, pc := Pc.connect .startup } else w

/-- The caller of `start` gives up waiting. -/
def startTimeout (w : Worker) : Worker :=
  if w.state = .starting then { w with state := .closing } else w

def cancel (f : FutureId) (w : Worker) : Worker :=
  if f < w.nextFuture ∧ w.futures f = .pending then
    { w with futures := Function.update w.futures f .cancelled }
  else w

def step (w : Worker) : WorkerEvent → Option Worker
  | .start => some w.start
  | .startTimeout => some w.startTimeout
  | .submit intent onDispatch => some (w.submit intent onDispatch).2
  | .stop => some w.submitPriorityStop.2
  | .close => some w.close
  | .cancel f => some (w.cancel f)
  | .failPreempted k =>
    match w.preempted[k]? with
    | none => none
    | some (f, e) =>
      some (settlePending f (.error e) { w with preempted := w.preempted.eraseIdx k })
  | .thread i => w.threadStep i

end Worker
end CaseSorter.Daemon
