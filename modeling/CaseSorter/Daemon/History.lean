import CaseSorter.Daemon.Domain

/-! Histories of the daemon: the requests that admit operations, the worker's callbacks
and observations, and the restarts between two lives of the daemon. -/

namespace CaseSorter.Daemon

open CaseSorter.Actions CaseSorter.Transactions

inductive Request
  | submit (action : OperationAction) (body : RequestBody) (expected : Nat)
  | stop (expected : Option Nat)
  | connect (expected : Nat)
  | recover (expected : Nat)
  | configure (changes : List (String × Int)) (expected : Nat)
  deriving DecidableEq, Repr

structure Call where
  request : Request
  caller : Caller
  refusal : Option Failure := none
  deriving DecidableEq, Repr

namespace Call

open Domain

def perform (c : Call) : DomainM OperationRecord :=
  match c.request with
  | .submit action body expected => submit action body c.caller expected c.refusal
  | .stop expected => stop c.caller expected c.refusal
  | .connect expected => connect c.caller expected c.refusal
  | .recover expected => recover c.caller expected c.refusal
  | .configure changes expected => configure changes c.caller expected

end Call

/-- What happens to the domain over the daemon's lives. A restart builds a new domain
over the tables the last one has left; `storage` says what the engine is going to make of
the statements to come. -/
inductive HistoryEvent
  | call (c : Call)
  | observeConnection (state : ConnectionState) (reason : String)
  | observeProfile (firmware : FirmwareProfile) (readiness : MachineReadiness)
  | dispatch (operationId : OperationId) (now : Nat)
  | settle (operationId : OperationId) (result : Except Failure WorkerResult) (now : Nat)
  | settleStop (operationId : OperationId) (failure : Option Failure) (now : Nat)
  | prune (now : Nat)
  | restart (policy : Policy) (now : Nat)
  | storage (engine : List Outcome)

namespace HistoryEvent

open Domain

def step (d : Domain) : HistoryEvent → Option Domain
  | .call c => some (exec c.perform d).2
  | .observeConnection state reason =>
    some (d.observe (d.machine.observeConnection state reason))
  | .observeProfile firmware readiness =>
    some (d.observe (d.machine.observeProfile firmware readiness))
  | .dispatch operationId now =>
    (d.db.readOperation operationId).map fun operation => (exec (Domain.dispatch operation now) d).2
  | .settle operationId (.ok result) now => some (exec (complete operationId result now) d).2
  | .settle operationId (.error failure) now => some (exec (resolve operationId failure now) d).2
  | .settleStop operationId none now =>
    (d.db.readOperation operationId).map fun _ =>
      (exec (safeTransition (stopped operationId) now) d).2
  | .settleStop operationId (some failure) now =>
    some (exec (resolve operationId failure now) d).2
  | .prune now => some (exec (onJournal (Journal.pruneIdempotency now)) d).2
  | .restart policy now => some (Domain.new policy d.db d.nextId now d.appliedHistory)
  | .storage engine => some { d with journal := { d.journal with engine := engine } }

end HistoryEvent

end CaseSorter.Daemon
