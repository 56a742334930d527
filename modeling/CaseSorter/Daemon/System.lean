import CaseSorter.Daemon.History
import CaseSorter.Daemon.WorkerSteps

/-! The daemon as a whole: API threads, the operation domain and the serial worker. An
API call has four sections: its checks, the admission under the machine lock, the
hand-over to the worker and the attaching of its callback; the gate and the callbacks of
the worker enter the domain on the thread that runs them. Any two sections of different
threads may come in either order. -/

namespace CaseSorter.Daemon

open CaseSorter.Actions CaseSorter.Transactions

/-- A request that has passed the checks made before the machine is locked. -/
inductive Prepared
  | submit (action : OperationAction) (intent : WorkerIntent) (window expected : Nat)
  | stop (window : Nat) (expected : Option Nat)
  | session (action : SessionAction) (window expected : Nat)
  | configure (changes : List (String × Int)) (candidate : ConfigurationValues)
      (window expected : Nat)
  deriving DecidableEq

inductive Lane
  | normal (intent : WorkerIntent)
  | stop
  deriving DecidableEq, Repr

namespace Request

open Domain

def prepare (caller : Caller) : Request → DomainM Prepared
  | .submit action body expected => do
    let intent ← Domain.ofExcept (intentFor action body)
    let window ← requireCaller caller
    return .submit action intent window expected
  | .stop expected => return .stop (← requireCaller caller) expected
  | .connect expected => return .session .connect (← requireCaller caller) expected
  | .recover expected => return .session .recover (← requireCaller caller) expected
  | .configure changes expected => do
    let window ← requireCaller caller
    let (current, _, _) ← currentConfiguration
    let candidate ← Domain.ofExcept (current.withChanges changes)
    return .configure changes candidate window expected

end Request

namespace Prepared

open Domain

def admitSection (caller : Caller) : Prepared → DomainM Admission
  | .submit action intent window expected =>
    admission "admitting an operation" "request" caller (some expected) (requireReady intent)
      fun view => Domain.admitOperation action caller view window "admitted to the serial lane"
  | .stop window expected =>
    admission "admitting a priority stop" "stop" caller expected (fun _ => .ok ()) fun view => do
      let accepted ← Domain.admitOperation .stop caller view window
        "admitted to the priority stop lane"
      transition
        { operationId := accepted.operationId
          toState := .running
          reason := "handed to the priority stop lane" }
        caller.now
  | .session action window expected =>
    let name := (sessionOperation action).value
    admission s!"admitting a {name} operation" "request" caller (some expected) (fun _ => .ok ())
      fun view => Domain.admitOperation (sessionOperation action) caller view window
        s!"admitted to the serial lane as a {name} operation"
  | .configure _ candidate window expected =>
    admission "applying a configuration change" "request" caller (some expected)
      (fun _ => .ok ()) fun view => do
        let accepted ← Domain.admitOperation .configure caller view window
          "admitted as a daemon configuration change"
        let running ← transition
          { operationId := accepted.operationId
            toState := .running
            reason := "applying the configuration change" }
          caller.now
        applyConfiguration running candidate caller

def lane : Prepared → Option Lane
  | .submit _ intent _ _ => some (.normal intent)
  | .stop _ _ => some .stop
  | .session action _ _ => some (.normal (.session action))
  | .configure _ _ _ _ => none

end Prepared

theorem sections_admission (caller : Caller) (request : Request) :
    (request.prepare caller >>= fun p => p.admitSection caller) =
      match request with
      | .submit action body expected =>
        Prod.snd <$> Domain.admitSubmit action body caller expected
      | .stop expected => Domain.admitStop caller expected
      | .connect expected => Domain.admitSession .connect caller expected
      | .recover expected => Domain.admitSession .recover caller expected
      | .configure changes expected => Domain.admitConfigure changes caller expected := by
  cases request <;>
    simp only [Request.prepare, Prepared.admitSection, Domain.admitSubmit, Domain.admitStop,
      Domain.admitSession, Domain.admitConfigure, bind_assoc, pure_bind, map_eq_pure_bind,
      bind_pure]

/-- What is attached to the future of an operation. -/
inductive Callback
  | settle (operationId : OperationId)
  | settleStop (operationId : OperationId)
  deriving DecidableEq, Repr

namespace Callback

open Domain

def operationId : Callback → OperationId
  | .settle i | .settleStop i => i

def run (s : Settlement) (now : Nat) : Callback → DomainM Unit
  | .settle i =>
    match s with
    | .error e => resolve i e now
    | .ok (some result) => complete i result now
    | .ok none => complete i (.other "NoneType") now
  | .settleStop i =>
    match s with
    | .error e => resolve i e now
    | .ok _ => safeTransition (stopped i) now

end Callback

def Lane.enqueue (operation : OperationRecord) (w : Worker) :
    Lane → Except Failure FutureId × Worker
  | .normal intent => w.submit intent (some operation)
  | .stop => w.submitPriorityStop

def Lane.callback (i : OperationId) : Lane → Callback
  | .normal _ => .settle i
  | .stop => .settleStop i

/-- What a call came back with. -/
structure Answer where
  caller : Caller
  result : Except Raised OperationRecord
  deriving DecidableEq

/-- An API thread between two of its sections. `settling` runs a callback on a thread
that is not the worker's: it came too late to attach it, or it preempted the queue. -/
inductive ApiThread
  | admitting (caller : Caller) (p : Prepared)
  | enqueuing (caller : Caller) (operation : OperationRecord) (lane : Lane)
  | refused (caller : Caller) (operation : OperationRecord) (failure : Failure)
  | attaching (caller : Caller) (operation : OperationRecord) (callback : Callback) (f : FutureId)
  | settling (f : FutureId) (callback : Callback) (s : Settlement) (answer : Option Answer)
  deriving DecidableEq

inductive Task
  | observeConnection (session : SessionSnapshot)
  | observeProfile (profile : SessionProfile)
  | callback (f : FutureId) (c : Callback) (s : Settlement)
  deriving DecidableEq

/-- The daemon. `handed` records, newest first, the futures the worker has given out for
operations; no function reads it. -/
structure System where
  domain : Domain
  worker : Worker
  api : List ApiThread
  callbacks : List (FutureId × Callback)
  tasks : List Task
  answers : List Answer
  handed : List (OperationId × FutureId)

def FutureState.settlement : FutureState → Option Settlement
  | .resolved s => some s
  | _ => none

namespace System

def new (policy : Policy) (db : Db) (nextId now : Nat) (appliedHistory : List ConfigurationValues)
    (capacity attempts : Nat) (pos : 0 < capacity) : System where
  domain := Domain.new policy db nextId now appliedHistory
  worker := Worker.new capacity attempts pos
  api := []
  callbacks := []
  tasks := []
  answers := []
  handed := []

def ripe (before after : Worker) (callbacks : List (FutureId × Callback)) :
    List (FutureId × Callback × Settlement) :=
  callbacks.filterMap fun (f, c) =>
    if (before.futures f).isOpen then (after.futures f).settlement.map fun s => (f, c, s)
    else none

def observations (before after : Worker) : List Task :=
  (if after.session = before.session then [] else [.observeConnection after.session]) ++
    match after.profile with
    | some profile => if before.profile = some profile then [] else [.observeProfile profile]
    | none => []

def threadStepped (s : System) (w : Worker) : System :=
  { s with
    worker := w
    tasks := observations s.worker w ++
      (ripe s.worker w s.callbacks).map fun (f, c, r) => .callback f c r }

def answered (k : Nat) (a : Answer) (s : System) : System :=
  { s with api := s.api.eraseIdx k, answers := a :: s.answers }

def apiStep (s : System) (k now : Nat) : ApiThread → System
  | .admitting caller p =>
    match Actions.exec (p.admitSection caller) s.domain with
    | (.ok (.admitted record), d) =>
      match p.lane with
      | some lane => { s with domain := d, api := s.api.set k (.enqueuing caller record lane) }
      | none => answered k ⟨caller, .ok record⟩ { s with domain := d }
    | (.ok (.replayed record), d) => answered k ⟨caller, .ok record⟩ { s with domain := d }
    | (.error e, d) => answered k ⟨caller, .error e⟩ { s with domain := d }
  | .enqueuing caller operation lane =>
    match lane.enqueue operation s.worker with
    | (.ok f, w) => { s with
        worker := w
        api := s.api.set k (.attaching caller operation (lane.callback operation.operationId) f)
        handed := (operation.operationId, f) :: s.handed }
    | (.error e, w) => { s with worker := w, api := s.api.set k (.refused caller operation e) }
  | .refused caller operation e =>
    match Actions.exec (Domain.resolve operation.operationId e now) s.domain with
    | (.ok _, d) => answered k ⟨caller, .error e.translate⟩ { s with domain := d }
    | (.error x, d) => answered k ⟨caller, .error x⟩ { s with domain := d }
  | .attaching caller operation callback f =>
    match (s.worker.futures f).settlement with
    | none =>
      answered k ⟨caller, .ok operation⟩ { s with callbacks := s.callbacks ++ [(f, callback)] }
    | some r => { s with
        api := s.api.set k (.settling f callback r (some ⟨caller, .ok operation⟩)) }
  | .settling _ callback r answer => { s with
      domain := (Actions.exec (callback.run r now) s.domain).2
      api := s.api.eraseIdx k
      answers := answer.toList ++ s.answers }

def taskStep (s : System) (now : Nat) : Task → Domain
  | .observeConnection session =>
    s.domain.observe (s.domain.machine.observeConnection session.state session.reason)
  | .observeProfile profile =>
    s.domain.observe (s.domain.machine.observeProfile profile.firmware profile.readiness)
  | .callback _ c r => (Actions.exec (c.run r now) s.domain).2

end System

/-- The sections of all threads, in any order. A gate with an operation is passed by
`dispatch`; `storage` says what the engine is going to make of the statements to come. -/
inductive SystemEvent
  | call (request : Request) (caller : Caller)
  | api (k now : Nat)
  | task (now : Nat)
  | thread (i : Input)
  | dispatch (now : Nat)
  | failPreempted (k : Nat)
  | start
  | startTimeout
  | close
  | refresh (threat : Option String) (now : Nat)
  | prune (now : Nat)
  | storage (engine : List Outcome)

namespace System

def gated (w : Worker) : Option OperationRecord :=
  match w.pc with
  | .gate _ item => item.onDispatch
  | _ => none

def refusal : Except Raised Unit → Option Failure
  | .ok _ => none
  | .error e => some (.domain e)

def step (s : System) : SystemEvent → Option System
  | .call request caller =>
    match Actions.exec (request.prepare caller) s.domain with
    | (.ok p, d) => some { s with domain := d, api := s.api ++ [.admitting caller p] }
    | (.error e, d) => some { s with domain := d, answers := ⟨caller, .error e⟩ :: s.answers }
  | .api k now => (s.api[k]?).map (s.apiStep k now)
  | .task now =>
    match s.tasks with
    | [] => none
    | task :: rest => some { s with domain := s.taskStep now task, tasks := rest }
  | .thread i =>
    if s.tasks = [] ∧ (s.worker.todo ≠ [] ∨ gated s.worker = none) then
      (s.worker.threadStep i).map s.threadStepped
    else none
  | .dispatch now =>
    if s.tasks = [] ∧ s.worker.todo = [] then
      (gated s.worker).bind fun operation =>
        let (result, d) := Actions.exec (Domain.dispatch operation now) s.domain
        (s.worker.threadStep (.gated (refusal result))).map fun w =>
          { s.threadStepped w with domain := d }
    else none
  | .failPreempted k =>
    (s.worker.step (.failPreempted k)).map fun w => { s with
      worker := w
      api := s.api ++ (ripe s.worker w s.callbacks).map fun (f, c, r) =>
        .settling f c r none }
  | .start => some { s with worker := s.worker.start }
  | .startTimeout => some { s with worker := s.worker.startTimeout }
  | .close => some { s with worker := s.worker.close }
  | .refresh threat now =>
    some { s with domain := (Actions.exec (Domain.refreshDurability threat now) s.domain).2 }
  | .prune now =>
    some { s with
      domain := (Actions.exec (Domain.onJournal (Journal.pruneIdempotency now)) s.domain).2 }
  | .storage engine =>
    some
      { s with domain := { s.domain with journal := { s.domain.journal with engine := engine } } }

def firstDaemon : System := System.new .standard .empty 0 0 [] 1 1 Nat.one_pos

end System
end CaseSorter.Daemon
