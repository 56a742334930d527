import Mathlib.Data.List.Basic

/-! The durable operation vocabulary of the daemon: actions, lifecycle, the records
the journal keeps and the checks their constructors make. Identities come from a
supply that never repeats, moments are counted in milliseconds, and a request
carries the fingerprint of its canonical encoding. -/

namespace CaseSorter.Daemon

/-- What the journal and the domain raise, with the text of the error. -/
inductive Raised
  | sqliteError (message : String)
  | journalError (message : String)
  | validation (message : String)
  | invalidTransition (message : String)
  | notReady (message : String)
  | unsupported (message : String)
  | staleGeneration (message : String)
  | idempotencyConflict (message : String)
  | queueFull (message : String)
  | deadlineInvalid (message : String)
  | deadlineExpired (message : String)
  | journalUnavailable (message : String)
  deriving DecidableEq, Repr

namespace Raised

def message : Raised → String
  | .sqliteError m | .journalError m | .validation m | .invalidTransition m | .notReady m
  | .unsupported m | .staleGeneration m | .idempotencyConflict m | .queueFull m
  | .deadlineInvalid m | .deadlineExpired m | .journalUnavailable m => m

def isJournal : Raised → Bool
  | .journalError _ | .journalUnavailable _ => true
  | _ => false

def code : Raised → String
  | .sqliteError _ => "OperationalError"
  | .journalError _ => "JournalError"
  | .validation _ => "VALIDATION_FAILED"
  | .invalidTransition _ => "INTERNAL_ERROR"
  | .notReady _ => "NOT_READY"
  | .unsupported _ => "UNSUPPORTED"
  | .staleGeneration _ => "STALE_GENERATION"
  | .idempotencyConflict _ => "IDEMPOTENCY_CONFLICT"
  | .queueFull _ => "QUEUE_FULL"
  | .deadlineInvalid _ => "DEADLINE_INVALID"
  | .deadlineExpired _ => "DEADLINE_EXPIRED"
  | .journalUnavailable _ => "JOURNAL_UNAVAILABLE"

end Raised

inductive OperationAction
  | connect
  | recover
  | home
  | sort
  | feed
  | stop
  | configure
  deriving DecidableEq, Repr

def OperationAction.value : OperationAction → String
  | .connect => "connect"
  | .recover => "recover"
  | .home => "home"
  | .sort => "sort"
  | .feed => "feed"
  | .stop => "stop"
  | .configure => "configure"

inductive OperationState
  | queued
  | accepted
  | running
  | succeeded
  | failed
  | cancelled
  | uncertain
  deriving DecidableEq, Repr

def OperationState.value : OperationState → String
  | .queued => "queued"
  | .accepted => "accepted"
  | .running => "running"
  | .succeeded => "succeeded"
  | .failed => "failed"
  | .cancelled => "cancelled"
  | .uncertain => "uncertain"

def isTerminal : OperationState → Bool
  | .succeeded | .failed | .cancelled | .uncertain => true
  | .queued | .accepted | .running => false

def unresolved : List OperationState := [.failed, .cancelled, .uncertain]

def allowedTransitions : OperationState → List OperationState
  | .queued => .accepted :: unresolved
  | .accepted => .running :: unresolved
  | .running => .succeeded :: unresolved
  | .succeeded | .failed | .cancelled | .uncertain => []

def canTransition (fromState toState : OperationState) : Bool :=
  toState ∈ allowedTransitions fromState

attribute [local grind =] canTransition allowedTransitions unresolved isTerminal

theorem canTransition_succeeded {fromState : OperationState}
    (h : canTransition fromState .succeeded = true) : fromState = .running := by
  cases fromState <;> simp_all [canTransition, allowedTransitions, unresolved]

theorem canTransition_open {fromState toState : OperationState}
    (h : canTransition fromState toState = true) : isTerminal fromState = false := by
  cases fromState <;> simp_all [canTransition, allowedTransitions, isTerminal]

abbrev OperationId := Nat

structure Actor where
  userId : String
  role : String
  deriving DecidableEq, Repr

def maxActorFieldLength : Nat := 64

/-- `[A-Za-z0-9][A-Za-z0-9_.:@-]*`. -/
def isActorField (value : String) : Bool :=
  match value.toList with
  | [] => false
  | c :: cs => c.isAlphanum && cs.all fun d => d.isAlphanum || "_.:@-".toList.contains d

def requireToken (value name : String) : Except Raised String :=
  if !isActorField value then
    .error (.validation s!"{name} must be a restricted attribution token")
  else if value.toList.length > maxActorFieldLength then
    .error (.validation s!"{name} must be at most {maxActorFieldLength} characters")
  else .ok value

def Actor.new (userId role : String) : Except Raised Actor := do
  let userId ← requireToken userId "actor user_id"
  let role ← requireToken role "actor role"
  return { userId, role }

/-- The durable identity and current lifecycle position of one operation. -/
structure OperationRecord where
  operationId : OperationId
  action : OperationAction
  fingerprint : String
  state : OperationState
  generation : Nat
  createdAt : Nat
  deadlineAt : Nat
  actor : Actor
  trustedTerminal : Bool
  outcome : Option String
  terminalAt : Option Nat
  protocolRequestId : Option Nat
  terminalFields : Option (List (String × String))
  generation_pos : 1 ≤ generation
  deadline_after : createdAt < deadlineAt
  trusted_iff : trustedTerminal = true ↔ state = .succeeded
  deriving DecidableEq, Repr

theorem queued_untrusted : false = true ↔ OperationState.queued = .succeeded := by decide

/-- Report whether the finite deadline has passed at `moment`. -/
def OperationRecord.expiredAt (r : OperationRecord) (moment : Nat) : Bool := r.deadlineAt ≤ moment

structure TransitionRecord where
  transitionId : Nat
  operationId : OperationId
  fromState : Option OperationState
  toState : OperationState
  generation : Nat
  occurredAt : Nat
  reason : String
  deriving DecidableEq, Repr

/-- A deduplication-window entry binding one key to one canonical request. -/
structure IdempotencyRecord where
  key : String
  fingerprint : String
  operationId : OperationId
  createdAt : Nat
  expiresAt : Nat
  expires_after : createdAt < expiresAt
  deriving DecidableEq, Repr

def IdempotencyRecord.liveAt (r : IdempotencyRecord) (moment : Nat) : Bool := moment < r.expiresAt

def maxIdempotencyKeyLength : Nat := 200

def maxReasonLength : Nat := 512

def maxTerminalFields : Nat := 16

def maxTerminalValueLength : Nat := 64

/-- The characters `str.strip` removes. -/
def isSpace (c : Char) : Bool :=
  (9 ≤ c.toNat && c.toNat ≤ 13) || (28 ≤ c.toNat && c.toNat ≤ 32) || c.toNat == 0x85 ||
    c.toNat == 0xa0 || c.toNat == 0x1680 || (0x2000 ≤ c.toNat && c.toNat ≤ 0x200a) ||
    c.toNat == 0x2028 || c.toNat == 0x2029 || c.toNat == 0x202f || c.toNat == 0x205f ||
    c.toNat == 0x3000

def requireIdempotencyKey (key : String) : Except Raised Unit :=
  if key.toList = [] ∨ ¬ key.toList.all (fun c => 0x21 ≤ c.toNat && c.toNat ≤ 0x7e) then
    .error (.validation "idempotency key must be printable ASCII without spaces")
  else if key.toList.length > maxIdempotencyKeyLength then
    .error (.validation "idempotency key must be at most 200 characters")
  else
    .ok ()

def requireReason (reason : String) : Except Raised Unit :=
  if reason.toList.all isSpace then
    .error (.validation "a transition reason is required")
  else if reason.toList.length > maxReasonLength then
    .error (.validation "reason must be at most 512 characters")
  else
    .ok ()

attribute [local grind =] requireReason requireIdempotencyKey

theorem requireReason_error {reason : String} {e : Raised} (h : requireReason reason = .error e) :
    e.isJournal = false := by
  unfold requireReason at h
  split_ifs at h <;> cases h <;> rfl

theorem requireIdempotencyKey_error {key : String} {e : Raised}
    (h : requireIdempotencyKey key = .error e) : e.isJournal = false := by
  unfold requireIdempotencyKey at h
  split_ifs at h <;> cases h <;> rfl

def isTerminalFieldName (name : String) : Bool :=
  match name.toList with
  | [] => false
  | c :: cs => c.isLower && cs.all fun d => d.isLower || d.isDigit || d == '_'

def requireTerminalFields (fields : List (String × String)) : Except Raised Unit :=
  if fields.length > maxTerminalFields then
    .error (.validation "a terminal carries at most 16 fields")
  else
    match fields.find? fun f => !isTerminalFieldName f.1 ||
      f.2.toList.length > maxTerminalValueLength with
    | none => .ok ()
    | some (name, _) =>
      if isTerminalFieldName name then
        .error (.validation s!"terminal field '{name}' has an unusable value")
      else
        .error (.validation s!"terminal field '{name}' is not a protocol field name")

attribute [local grind =] requireTerminalFields

theorem requireTerminalFields_error {fields : List (String × String)} {e : Raised}
    (h : requireTerminalFields fields = .error e) : e.isJournal = false := by
  unfold requireTerminalFields at h
  split_ifs at h
  · cases h
    rfl
  · split at h
    · cases h
    · split_ifs at h <;> cases h <;> rfl

end CaseSorter.Daemon
