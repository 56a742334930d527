import CaseSorter.Lib.Actions
import CaseSorter.Daemon.Journal
import CaseSorter.Daemon.Machine

/-! Operation admission and durable outcomes: what `OperationDomain` does under the
machine lock. Each entry point is split where the source leaves that lock: into its
admission and the hand-over to the serial worker. -/

namespace CaseSorter.Daemon

open CaseSorter.Actions CaseSorter.Transactions

/-- A published view, and the tables as they are committed when it is published. -/
structure PublishedView where
  view : MachineSnapshot
  db : Db
  deriving DecidableEq

/-- The domain over its journal. `machine` is the snapshot of the `MachineState` and `history`
its `_history`, oldest first. `nextId` supplies identities; `appliedHistory` is a record of the
committed configurations, newest first, that no function reads. -/
structure Domain where
  journal : Journal
  machine : MachineSnapshot
  history : List PublishedView
  idempotencyTtl : Nat
  minDeadlineMs : Int
  maxDeadlineMs : Int
  configuration : ConfigurationValues
  configurationGeneration : Nat
  configuredAt : Nat
  nextId : Nat
  appliedHistory : List ConfigurationValues
  ttl_pos : 0 < idempotencyTtl
  deadline_pos : 0 < minDeadlineMs
  deriving DecidableEq

abbrev DomainM := Action Domain Raised

/-- The admission policy a daemon is built with, as its constructor accepts it. -/
structure Policy where
  idempotencyTtl : Nat := 24 * 60 * 60 * 1000
  minDeadlineMs : Int := 100
  maxDeadlineMs : Int := 600000
  ttl_pos : 0 < idempotencyTtl := by decide
  deadline_pos : 0 < minDeadlineMs := by decide
  deadline_ordered : minDeadlineMs ≤ maxDeadlineMs := by decide

namespace Policy

theorem standard_ttl : 0 < 24 * 60 * 60 * 1000 := by decide

theorem standard_deadline : (0 : Int) < 100 := by decide

theorem standard_ordered : (100 : Int) ≤ 600000 := by decide

def standard : Policy :=
  { ttl_pos := standard_ttl, deadline_pos := standard_deadline,
    deadline_ordered := standard_ordered }

end Policy

namespace Domain

/-- What the journal has committed. -/
def db (d : Domain) : Db := d.journal.connection.committed

/-- `_publish`: the view takes the place of the last and goes into the history. -/
def publish (d : Domain) (view : MachineSnapshot) : Domain :=
  { d with machine := view, history := d.history ++ [⟨view, d.db⟩] }

/-- A view that is the one in force is not published again. -/
def observe (d : Domain) (view : MachineSnapshot) : Domain :=
  { d with
    machine := view
    history := if view = d.machine then d.history else d.history ++ [⟨view, d.db⟩] }

@[simp] theorem publish_machine (d : Domain) (view : MachineSnapshot) :
    (d.publish view).machine = view := rfl

@[simp] theorem publish_journal (d : Domain) (view : MachineSnapshot) :
    (d.publish view).journal = d.journal := rfl

@[simp] theorem observe_machine (d : Domain) (view : MachineSnapshot) :
    (d.observe view).machine = view := rfl

@[simp] theorem observe_journal (d : Domain) (view : MachineSnapshot) :
    (d.observe view).journal = d.journal := rfl

end Domain

/-- A new daemon life over the tables an earlier one has left; its machine view and its
in-memory configuration start afresh. -/
def Domain.new (policy : Policy) (db : Db) (nextId now : Nat)
    (appliedHistory : List ConfigurationValues) : Domain where
  journal := Journal.open db
  machine := .initial
  history := [⟨.initial, db⟩]
  idempotencyTtl := policy.idempotencyTtl
  minDeadlineMs := policy.minDeadlineMs
  maxDeadlineMs := policy.maxDeadlineMs
  configuration := .default
  configurationGeneration := 1
  configuredAt := now
  nextId := nextId
  appliedHistory := appliedHistory
  ttl_pos := policy.ttl_pos
  deadline_pos := policy.deadline_pos

/-- What a caller sends along with every request, the moment it is read and what the
durability monitor finds then. -/
structure Caller where
  actor : Actor
  idempotencyKey : String
  fingerprint : String
  deadlineMs : Int
  now : Nat
  threat : Option String := none
  deriving DecidableEq, Repr

/-- What a future of the serial worker is failed with, or a submission refused with.
`other` is an exception of the protocol client or of the transport, by type name. -/
inductive Failure
  | workerNotRunning (message : String)
  | sessionNotReady (message : String)
  | queueFull (message : String)
  | stopInProgress (message : String)
  | preemptedByStop (message : String)
  | preemptedByRecovery (message : String)
  | workerUncertain (message : String)
  | domain (e : Raised)
  | other (typeName message : String)
  deriving DecidableEq, Repr

namespace Failure

def message : Failure → String
  | .workerNotRunning m | .sessionNotReady m | .queueFull m | .stopInProgress m
  | .preemptedByStop m | .preemptedByRecovery m | .workerUncertain m | .other _ m => m
  | .domain e => e.message

def classify (current : OperationState) (error : Failure) : OperationState × String :=
  match error with
  | .domain (.deadlineExpired _) => (.failed, "deadline expired before transmission")
  | .preemptedByStop _ => (.cancelled, "invalidated by a trusted priority stop")
  | .preemptedByRecovery _ => (.cancelled, "discarded by session recovery; never replayed")
  | .workerUncertain m =>
    (.uncertain, s!"worker could not establish a trusted outcome: {m}")
  | .workerNotRunning m | .sessionNotReady m | .queueFull m | .stopInProgress m =>
    (.cancelled, s!"never dispatched: {m}")
  | .domain _ | .other _ _ =>
    if current ≠ .running then (.failed, s!"failed before transmission: {error.message}")
    else (.uncertain, s!"transmitted without a trusted terminal: {error.message}")

def outcome : Failure → String
  | .workerNotRunning _ => "WorkerNotRunningError"
  | .sessionNotReady _ => "SessionNotReadyError"
  | .queueFull _ => "QueueFullError"
  | .stopInProgress _ => "StopInProgressError"
  | .preemptedByStop _ => "PreemptedByStopError"
  | .preemptedByRecovery _ => "PreemptedByRecoveryError"
  | .workerUncertain _ => "WorkerUncertainError"
  | .domain e => e.code
  | .other typeName _ => typeName

def translate : Failure → Raised
  | .queueFull m => .queueFull m
  | .stopInProgress m => .notReady s!"priority stop is in progress: {m}"
  | error => .notReady error.message

end Failure

structure Response where
  requestId : Nat
  kind : Host.ResponseKind
  fields : List (String × String)
  name : Option String
  deriving DecidableEq, Repr

def Response.terminal (r : Response) : Bool := r.kind = .done || r.kind = .error

/-- A correlated completion of the protocol client. -/
structure Completion where
  requestId : Nat
  succeeded : Bool
  responses : List Response
  error : Option String
  deriving DecidableEq, Repr

def Completion.terminalResponse (c : Completion) : Option Response :=
  c.responses.getLast?.filter (·.terminal)

def Completion.terminalFields (c : Completion) : Option (List (String × String)) :=
  c.terminalResponse.map (·.fields)

def Completion.isTrustedTerminal (c : Completion) : Bool :=
  match c.terminalResponse with
  | none => false
  | some terminal =>
    c.succeeded && terminal.kind = .done && terminal.requestId = c.requestId

inductive WorkerResult
  | status (mode phase : String)
  | completion (c : Completion)
  | other (typeName : String)
  deriving DecidableEq, Repr

namespace Domain

variable {α : Type}

def onJournal (f : Journal → Except Raised α × Journal) : DomainM α :=
  ofEffect fun d => ((f d.journal).1, { d with journal := (f d.journal).2 })

def ofExcept (r : Except Raised α) : DomainM α := ofEffect fun d => (r, d)

@[simp] theorem exec_onJournal (f : Journal → Except Raised α × Journal) (d : Domain) :
    exec (onJournal f) d = ((f d.journal).1, { d with journal := (f d.journal).2 }) := rfl

@[simp] theorem exec_ofExcept (r : Except Raised α) (d : Domain) :
    exec (ofExcept r) d = (r, d) := rfl

def newOperationId : DomainM Nat := do
  let d ← get
  modify fun d => { d with nextId := d.nextId + 1 }
  return d.nextId

@[simp] theorem exec_newOperationId (d : Domain) :
    exec newOperationId d = (.ok d.nextId, { d with nextId := d.nextId + 1 }) := rfl

def recordJournalFault (reason : String) (now : Nat) : DomainM Unit := do
  let faultId ← newOperationId
  modify fun d => d.observe (d.machine.recordJournalFault reason faultId now)

@[simp] theorem exec_recordJournalFault (reason : String) (now : Nat) (d : Domain) :
    exec (recordJournalFault reason now) d =
      (.ok (), { d with nextId := d.nextId + 1 }.observe
        (d.machine.recordJournalFault reason d.nextId now)) := rfl

def refreshDurability (threat : Option String) (now : Nat) : DomainM Unit := do
  let d ← get
  match threat with
  | none => pure ()
  | some m =>
    if d.machine.journalAvailable then recordJournalFault s!"durability threat: {m}" now

def requireDurable (view : MachineSnapshot) : Except Raised Unit :=
  if view.journalAvailable then .ok ()
  else .error (.journalUnavailable ("the operation journal is unavailable; new work is blocked" ++
    " until durability is restored"))

def durable (activity : String) (now : Nat) (body : DomainM α) : DomainM α :=
  tryCatch body fun
    | .journalError m => do
      recordJournalFault s!"journal failure while {activity}: {m}" now
      throw (.journalUnavailable s!"could not record while {activity}: {m}")
    | e => throw e

def writeTransition (move : Move) (now : Nat) : DomainM OperationRecord := do
  let d ← get
  let record ← onJournal (Journal.recordTransition ⟨move, d.machine.generation + 1, now⟩)
  let active := if isTerminal move.toState then none else some move.operationId
  modify fun d => d.publish
    (d.machine.transition active s!"operation {move.toState.value}: {move.reason}")
  return record

theorem exec_writeTransition (move : Move) (now : Nat) (d : Domain) :
    exec (writeTransition move now) d =
      match Journal.recordTransition ⟨move, d.machine.generation + 1, now⟩ d.journal with
      | (.ok record, j) => (.ok record, { d with journal := j }.publish
          (d.machine.transition (if isTerminal move.toState then none else some move.operationId)
            s!"operation {move.toState.value}: {move.reason}"))
      | (.error e, j) => (.error e, { d with journal := j }) := by
  simp only [writeTransition, exec_bind, exec_get, exec_onJournal]
  rcases h : Journal.recordTransition ⟨move, d.machine.generation + 1, now⟩ d.journal with
    ⟨e | record, j⟩
  · rfl
  · rfl

def transition (move : Move) (now : Nat) : DomainM OperationRecord :=
  tryCatch (writeTransition move now) fun
    | .journalError m => do
      recordJournalFault
        s!"journal failure recording {move.toState.value} for operation {move.operationId}: {m}"
        now
      throw (.journalError m)
    | e => throw e

theorem transition_eq_ok {move : Move} {now : Nat} {d t : Domain} {record : OperationRecord}
    (h : exec (transition move now) d = (.ok record, t)) :
    ∃ j, Journal.recordTransition ⟨move, d.machine.generation + 1, now⟩ d.journal =
        (.ok record, j) ∧
      t = { d with journal := j }.publish
        (d.machine.transition (if isTerminal move.toState then none else some move.operationId)
          s!"operation {move.toState.value}: {move.reason}") := by
  rw [transition, exec_tryCatch_eq_ok, exec_writeTransition] at h
  · rcases hj : Journal.recordTransition ⟨move, d.machine.generation + 1, now⟩ d.journal with
      ⟨e | r, j⟩
    · rw [hj] at h
      cases h
    · rw [hj] at h
      cases h
      exact ⟨j, rfl, rfl⟩
  · intro e u
    cases e <;> simp [exec_bind]

theorem durable_eq_ok {activity : String} {now : Nat} {body : DomainM α} {d t : Domain} {a : α} :
    exec (durable activity now body) d = (.ok a, t) ↔ exec body d = (.ok a, t) := by
  rw [durable, exec_tryCatch_eq_ok]
  intro e u
  cases e <;> simp [exec_bind]

def safeTransition (move : Move) (now : Nat) : DomainM Unit :=
  tryCatch (do let _ ← transition move now) fun
    | .journalError _ => pure ()
    | e => throw e

def replay (key fingerprint : String) (now : Nat) : DomainM (Option OperationRecord) := do
  match ← onJournal (Journal.idempotencyRecord key now) with
  | none => return none
  | some existing =>
    if existing.fingerprint ≠ fingerprint then
      throw (.idempotencyConflict
        s!"idempotency key {key} is already bound to a different canonical request")
    match ← onJournal (Journal.operation existing.operationId) with
    | none => throw (.journalError s!"idempotency key {key} points at a missing operation")
    | some record => return some record

def requireDeadline (deadlineMs : Int) (d : Domain) : Except Raised Nat :=
  if d.minDeadlineMs ≤ deadlineMs ∧ deadlineMs ≤ d.maxDeadlineMs then .ok deadlineMs.toNat
  else .error (.deadlineInvalid
    s!"deadline must be between {d.minDeadlineMs} and {d.maxDeadlineMs} ms, got {deadlineMs}")

def newOperation (operationId : OperationId) (action : OperationAction) (caller : Caller)
    (generation window : Nat) : Except Raised OperationRecord :=
  if hg : 1 ≤ generation then
    if hd : caller.now < caller.now + window then
      .ok
        { operationId := operationId
          action := action
          fingerprint := caller.fingerprint
          state := .queued
          generation := generation
          createdAt := caller.now
          deadlineAt := caller.now + window
          actor := caller.actor
          trustedTerminal := false
          outcome := none
          terminalAt := none
          protocolRequestId := none
          terminalFields := none
          generation_pos := hg
          deadline_after := hd
          trusted_iff := by simp }
    else .error (.validation "deadline_at must be a finite deadline after created_at")
  else .error (.validation "generation must be positive")

def newIdempotency (operationId : OperationId) (caller : Caller) (d : Domain) :
    IdempotencyRecord :=
  { key := caller.idempotencyKey
    fingerprint := caller.fingerprint
    operationId := operationId
    createdAt := caller.now
    expiresAt := caller.now + d.idempotencyTtl
    expires_after := Nat.lt_add_of_pos_right d.ttl_pos }

def admitOperation (action : OperationAction) (caller : Caller)
    (view : MachineSnapshot) (window : Nat)
    (reason : String) : DomainM OperationRecord := do
  let operationId ← newOperationId
  let operation ← ofExcept (newOperation operationId action caller view.generation window)
  let d ← get
  onJournal (Journal.recordAdmission operation
    s!"admitted against generation {view.generation}" (some (d.newIdempotency operationId caller)))
  transition { operationId := operationId, toState := .accepted, reason := reason } caller.now

def configurationOf (d : Domain) :
    Option (List (String × Int) × Nat × Nat) →
      Except Raised (ConfigurationValues × Nat × Nat)
  | none => .ok (d.configuration, d.configurationGeneration, d.configuredAt)
  | some (values, generation, createdAt) =>
    (ConfigurationValues.fromMapping values).map fun v => (v, generation, createdAt)

/-- The applied policy, the generation that applied it, and when. -/
def currentConfiguration : DomainM (ConfigurationValues × Nat × Nat) := do
  let applied ← onJournal Journal.appliedConfiguration
  let d ← get
  ofExcept (d.configurationOf applied)

def applyConfiguration (operation : OperationRecord) (values : ConfigurationValues)
    (caller : Caller) : DomainM OperationRecord := do
  let version := (← get).machine.generation + 1
  let configId ← newOperationId
  onJournal (Journal.recordConfiguration
    { configId := configId
      generation := version
      payload := values.asMapping
      source := s!"{caller.actor.role}:{caller.actor.userId}"
      createdAt := caller.now })
  modify fun d => {
    d.publish (d.machine.transition (some operation.operationId) "configuration applied") with
    configuration := values
    configurationGeneration := version
    configuredAt := caller.now
    maxDeadlineMs := min d.maxDeadlineMs (values.value .maxDeadlineMs)
    appliedHistory := values :: d.appliedHistory }
  transition
    { operationId := operation.operationId
      toState := .succeeded
      reason := "configuration committed"
      trustedTerminal := true
      outcome := some "applied"
      terminalFields := some (values.asMapping.map fun field => (field.1, toString field.2)) }
    caller.now

inductive Admission
  | replayed (record : OperationRecord)
  | admitted (record : OperationRecord)
  deriving DecidableEq, Repr

def Admission.record : Admission → OperationRecord
  | .replayed r | .admitted r => r

def requireGeneration (kind : String) (expected : Option Nat) (view : MachineSnapshot) :
    Except Raised Unit :=
  match expected with
  | none => .ok ()
  | some g =>
    if g = view.generation then .ok ()
    else .error (.staleGeneration
      s!"{kind} observed generation {g}; the machine is at {view.generation}")

def admission (activity kind : String) (caller : Caller) (expected : Option Nat)
    (check : MachineSnapshot → Except Raised Unit)
    (proceed : MachineSnapshot → DomainM OperationRecord) : DomainM Admission := do
  refreshDurability caller.threat caller.now
  let d ← get
  ofExcept (requireDurable d.machine)
  durable activity caller.now do
    match ← replay caller.idempotencyKey caller.fingerprint caller.now with
    | some record => return .replayed record
    | none =>
      ofExcept (requireGeneration kind expected d.machine)
      ofExcept (check d.machine)
      let record ← proceed d.machine
      return .admitted record

def requireCaller (caller : Caller) : DomainM Nat := do
  ofExcept (requireIdempotencyKey caller.idempotencyKey)
  let d ← get
  ofExcept (d.requireDeadline caller.deadlineMs)

def requireReady (intent : WorkerIntent) (view : MachineSnapshot) : Except Raised Unit :=
  if view.admitsWork then requireSupported intent view
  else .error (.notReady s!"machine does not admit work: {view.connection.value}")

def admitSubmit (action : OperationAction) (body : RequestBody) (caller : Caller)
    (expectedGeneration : Nat) : DomainM (WorkerIntent × Admission) := do
  let intent ← ofExcept (intentFor action body)
  let window ← requireCaller caller
  let result ← admission "admitting an operation" "request" caller (some expectedGeneration)
    (requireReady intent) fun view =>
      admitOperation action caller view window "admitted to the serial lane"
  return (intent, result)

def admitStop (caller : Caller) (expectedGeneration : Option Nat) : DomainM Admission := do
  let window ← requireCaller caller
  admission "admitting a priority stop" "stop" caller expectedGeneration (fun _ => .ok ())
    fun view => do
      let accepted ← admitOperation .stop caller view window "admitted to the priority stop lane"
      transition
        { operationId := accepted.operationId
          toState := .running
          reason := "handed to the priority stop lane" }
        caller.now

def sessionOperation : SessionAction → OperationAction
  | .connect => .connect
  | .recover => .recover

def admitSession (action : SessionAction) (caller : Caller) (expectedGeneration : Nat) :
    DomainM Admission := do
  let window ← requireCaller caller
  let name := (sessionOperation action).value
  admission s!"admitting a {name} operation" "request" caller (some expectedGeneration)
    (fun _ => .ok ()) fun view =>
      admitOperation (sessionOperation action) caller view window
        s!"admitted to the serial lane as a {name} operation"

def admitConfigure (changes : List (String × Int)) (caller : Caller) (expectedGeneration : Nat) :
    DomainM Admission := do
  let window ← requireCaller caller
  let (current, _, _) ← currentConfiguration
  let candidate ← ofExcept (current.withChanges changes)
  admission "applying a configuration change" "request" caller (some expectedGeneration)
    (fun _ => .ok ()) fun view => do
      let accepted ← admitOperation .configure caller view window
        "admitted as a daemon configuration change"
      let running ← transition
        { operationId := accepted.operationId
          toState := .running
          reason := "applying the configuration change" }
        caller.now
      applyConfiguration running candidate caller

def current (operationId : OperationId) (now : Nat) : DomainM (Option OperationRecord) :=
  tryCatch (onJournal (Journal.operation operationId)) fun
    | .journalError m => do
      recordJournalFault s!"journal read failed: {m}" now
      return none
    | e => throw e

def resolution (error : Failure) (record : OperationRecord) : Option Move :=
  if isTerminal record.state then none
  else some
    { operationId := record.operationId
      toState := (error.classify record.state).1
      reason := (error.classify record.state).2
      outcome := some error.outcome }

def resolve (operationId : OperationId) (error : Failure) (now : Nat) : DomainM Unit := do
  match (← current operationId now).bind (resolution error) with
  | none => pure ()
  | some move => safeTransition move now

def completion (result : WorkerResult) (record : OperationRecord) : Option Move :=
  if isTerminal record.state then none
  else match result with
    | .status mode phase =>
      if record.action = .connect ∨ record.action = .recover then
        some
          { operationId := record.operationId
            toState := .succeeded
            reason := "session verified and required snapshots gathered"
            trustedTerminal := true
            outcome := some "ready"
            terminalFields := some [("mode", mode), ("phase", phase)] }
      else some
        { operationId := record.operationId
          toState := .uncertain
          reason := "worker returned a non-command result: Status"
          outcome := some "UNEXPECTED_RESULT" }
    | .other typeName => some
      { operationId := record.operationId
        toState := .uncertain
        reason := s!"worker returned a non-command result: {typeName}"
        outcome := some "UNEXPECTED_RESULT" }
    | .completion c =>
      if c.isTrustedTerminal then
        some
          { operationId := record.operationId
            toState := .succeeded
            reason := "trusted correlated firmware terminal"
            trustedTerminal := true
            outcome := some "done"
            protocolRequestId := some c.requestId
            terminalFields := c.terminalFields }
      else some
        { operationId := record.operationId
          toState := .failed
          reason := "firmware reported a correlated error terminal"
          outcome := some (c.error.getD "error")
          protocolRequestId := some c.requestId
          terminalFields := c.terminalFields }

def complete (operationId : OperationId) (result : WorkerResult) (now : Nat) : DomainM Unit := do
  match (← current operationId now).bind (completion result) with
  | none => pure ()
  | some move => safeTransition move now

/-- The trusted terminal of a stop is the exact `stopped` line the client waits for. -/
def stopped (operationId : OperationId) : Move :=
  { operationId := operationId
    toState := .succeeded
    reason := "trusted exact stopped terminal"
    trustedTerminal := true
    outcome := some "stopped" }

def dispatch (operation : OperationRecord) (now : Nat) : DomainM Unit := do
  if operation.expiredAt now then
    throw (.deadlineExpired
      s!"deadline expired before operation {operation.operationId} was transmitted")
  let _ ← transition
    { operationId := operation.operationId
      toState := .running
      reason := "dispatched to the controller" }
    now

def handOver (refusal : Option Failure) (now : Nat) (a : Admission) : DomainM OperationRecord := do
  match a, refusal with
  | .admitted record, some error =>
    resolve record.operationId error now
    throw error.translate
  | a, _ => return a.record

def submit (action : OperationAction) (body : RequestBody) (caller : Caller)
    (expectedGeneration : Nat) (refusal : Option Failure) : DomainM OperationRecord := do
  let (_, result) ← admitSubmit action body caller expectedGeneration
  handOver refusal caller.now result

def stop (caller : Caller) (expectedGeneration : Option Nat) (refusal : Option Failure) :
    DomainM OperationRecord := do
  let result ← admitStop caller expectedGeneration
  handOver refusal caller.now result

def connect (caller : Caller) (expectedGeneration : Nat) (refusal : Option Failure) :
    DomainM OperationRecord := do
  let result ← admitSession .connect caller expectedGeneration
  handOver refusal caller.now result

def recover (caller : Caller) (expectedGeneration : Nat) (refusal : Option Failure) :
    DomainM OperationRecord := do
  let result ← admitSession .recover caller expectedGeneration
  handOver refusal caller.now result

def configure (changes : List (String × Int)) (caller : Caller) (expectedGeneration : Nat) :
    DomainM OperationRecord := do
  let result ← admitConfigure changes caller expectedGeneration
  return result.record

end Domain
end CaseSorter.Daemon
