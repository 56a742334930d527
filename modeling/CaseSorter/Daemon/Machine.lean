import CaseSorter.Daemon.Operations
import CaseSorter.Host.Parsing

/-! The immutable machine view with its generation, the daemon's policy values, and
the closed intents an admitted request is translated to. The view's generation
starts again at one in every daemon life. -/

namespace CaseSorter.Daemon

inductive ConnectionState
  | disconnected
  | connecting
  | verifyingV1
  | activatingV2
  | ready
  | recovering
  | uncertain
  deriving DecidableEq, Repr

def ConnectionState.value : ConnectionState → String
  | .disconnected => "disconnected"
  | .connecting => "connecting"
  | .verifyingV1 => "verifying_v1"
  | .activatingV2 => "activating_v2"
  | .ready => "ready"
  | .recovering => "recovering"
  | .uncertain => "uncertain"

inductive FaultState
  | clear
  | active
  | latched
  | uncertain
  deriving DecidableEq, Repr

/-- What the controller advertises, as observed at activation. -/
structure FirmwareProfile where
  protocolVersion : Nat
  slotMax : Nat
  slotCount : Nat
  queueDepth : Nat
  feedSensor : Bool
  feedHome : Bool
  sortHome : Bool
  deriving DecidableEq, Repr

/-- The observed physical readiness the daemon must not assume. -/
structure MachineReadiness where
  feedHomed : Bool
  sortHomed : Bool
  faultCode : Nat
  mode : String
  phase : String
  deriving DecidableEq, Repr

structure MachineSnapshot where
  generation : Nat
  connection : ConnectionState
  reason : String
  activeOperationId : Option OperationId
  fault : FaultState
  journalAvailable : Bool
  firmware : Option FirmwareProfile
  readiness : Option MachineReadiness
  faultId : Option Nat
  faultOpenedAt : Option Nat
  deriving DecidableEq, Repr

namespace MachineSnapshot

def initial : MachineSnapshot :=
  ⟨1, .disconnected, "initial", none, .clear, true, none, none, none, none⟩

def admitsWork (m : MachineSnapshot) : Bool :=
  m.connection = .ready && m.journalAvailable && m.fault = .clear

def publish (m candidate : MachineSnapshot) : MachineSnapshot :=
  { candidate with generation := m.generation + 1 }

/-- Publish an operation change whose durable record has been written. -/
def transition (activeOperationId : Option OperationId) (reason : String) (m : MachineSnapshot) :
    MachineSnapshot :=
  m.publish { m with activeOperationId := activeOperationId, reason := reason }

def observeConnection (state : ConnectionState) (reason : String) (m : MachineSnapshot) :
    MachineSnapshot :=
  if state = m.connection then m
  else m.publish { m with connection := state, reason := reason }

def observeProfile (firmware : FirmwareProfile) (readiness : MachineReadiness)
    (m : MachineSnapshot) : MachineSnapshot :=
  if some firmware = m.firmware ∧ some readiness = m.readiness then m
  else m.publish
    { m with
      firmware := some firmware
      readiness := some readiness
      reason := "observed controller capabilities and readiness" }

/-- Latch the machine as undurable; nothing clears the latch but a restart. -/
def recordJournalFault (reason : String) (faultId openedAt : Nat) (m : MachineSnapshot) :
    MachineSnapshot :=
  if m.journalAvailable then
    m.publish
      { m with
        journalAvailable := false
        fault := .latched
        reason := reason
        faultId := some faultId
        faultOpenedAt := some openedAt }
  else m

@[simp] theorem transition_journalAvailable (a : Option OperationId) (r : String)
    (m : MachineSnapshot) : (m.transition a r).journalAvailable = m.journalAvailable := rfl

@[simp] theorem transition_generation (a : Option OperationId) (r : String)
    (m : MachineSnapshot) : (m.transition a r).generation = m.generation + 1 := rfl

@[simp] theorem recordJournalFault_journalAvailable (r : String) (i t : Nat)
    (m : MachineSnapshot) : (m.recordJournalFault r i t).journalAvailable = false := by
  unfold recordJournalFault
  split_ifs with h
  · rfl
  · simpa using h

end MachineSnapshot

inductive Setting
  | heartbeatIntervalMs
  | eventRetentionCount
  | operationRetentionDays
  | maxDeadlineMs
  deriving DecidableEq, Repr

namespace Setting

def all : List Setting :=
  [.heartbeatIntervalMs, .eventRetentionCount, .operationRetentionDays, .maxDeadlineMs]

theorem mem_all (s : Setting) : s ∈ all := by cases s <;> decide

def name : Setting → String
  | .heartbeatIntervalMs => "heartbeat_interval_ms"
  | .eventRetentionCount => "event_retention_count"
  | .operationRetentionDays => "operation_retention_days"
  | .maxDeadlineMs => "max_deadline_ms"

def lowest : Setting → Int
  | .heartbeatIntervalMs => 1000
  | .eventRetentionCount => 100
  | .operationRetentionDays => 1
  | .maxDeadlineMs => 1000

def highest : Setting → Int
  | .heartbeatIntervalMs => 60000
  | .eventRetentionCount => 100000
  | .operationRetentionDays => 365
  | .maxDeadlineMs => 120000

def default : Setting → Int
  | .heartbeatIntervalMs => 15000
  | .eventRetentionCount => 5000
  | .operationRetentionDays => 30
  | .maxDeadlineMs => 120000

def InBounds (value : Setting → Int) (s : Setting) : Prop :=
  s.lowest ≤ value s ∧ value s ≤ s.highest

instance (value : Setting → Int) (s : Setting) : Decidable (InBounds value s) :=
  inferInstanceAs (Decidable (_ ∧ _))

end Setting

/-- The applied daemon policy at one generation. -/
structure ConfigurationValues where
  value : Setting → Int
  inBounds : ∀ s, Setting.InBounds value s

/-- `sorted` of the names, as Python prints the list. -/
def sortedNames (names : List String) : String :=
  "[" ++ ", ".intercalate ((names.mergeSort (· ≤ ·)).map fun name => Host.repr name.toList) ++
    "]"

namespace ConfigurationValues

@[ext] theorem ext {v w : ConfigurationValues} (h : ∀ s, v.value s = w.value s) : v = w := by
  obtain ⟨f, _⟩ := v
  obtain ⟨g, _⟩ := w
  have same : f = g := funext h
  subst same
  rfl

instance : DecidableEq ConfigurationValues := fun v w =>
  decidable_of_iff (∀ s ∈ Setting.all, v.value s = w.value s)
    ⟨fun h => ext fun s => h s s.mem_all, fun h _ _ => h ▸ rfl⟩

def default : ConfigurationValues := ⟨Setting.default, by intro s; cases s <;> decide⟩

def make (value : Setting → Int) : Except Raised ConfigurationValues :=
  match h : Setting.all.find? fun s => ¬ Setting.InBounds value s with
  | some s => .error (.validation s!"{s.name} must be between {s.lowest} and {s.highest}")
  | none => .ok ⟨value, fun s => by simpa using List.find?_eq_none.mp h s s.mem_all⟩

def unknownFields (mapping : List (String × Int)) : List String :=
  (mapping.map Prod.fst).filter fun name => name ∉ Setting.all.map Setting.name

/-- The values that applying `changes` would produce. -/
def withChanges (v : ConfigurationValues) (changes : List (String × Int)) :
    Except Raised ConfigurationValues :=
  if changes = [] then
    .error (.validation "a configuration change must change something")
  else if unknownFields changes ≠ [] then
    .error (.validation s!"unknown configuration field(s): {sortedNames (unknownFields changes)}")
  else
    make fun s => (changes.lookup s.name).getD (v.value s)

def asMapping (v : ConfigurationValues) : List (String × Int) :=
  Setting.all.map fun s => (s.name, v.value s)

def fromMapping (mapping : List (String × Int)) : Except Raised ConfigurationValues :=
  if unknownFields mapping ≠ [] then
    .error (.validation s!"unknown configuration field(s): {sortedNames (unknownFields mapping)}")
  else
    make fun s => (mapping.lookup s.name).getD s.default

theorem lookup_asMapping (v : ConfigurationValues) (s : Setting) :
    v.asMapping.lookup s.name = some (v.value s) := by
  cases s <;> rfl

theorem unknownFields_asMapping (v : ConfigurationValues) : unknownFields v.asMapping = [] := rfl

theorem make_value (v : ConfigurationValues) : make v.value = .ok v := by
  unfold make
  split
  · rename_i s out
    simpa [v.inBounds s] using List.find?_some out
  · rfl

theorem fromMapping_asMapping (v : ConfigurationValues) : fromMapping v.asMapping = .ok v := by
  rw [fromMapping, unknownFields_asMapping, if_neg (by simp)]
  simp only [lookup_asMapping, Option.getD_some]
  exact make_value v

end ConfigurationValues

inductive HomeAxis
  | feeder
  | sorter
  | both
  deriving DecidableEq, Repr

inductive SessionAction
  | connect
  | recover
  deriving DecidableEq, Repr

inductive QueryKind
  | status
  | capabilities
  | queue
  deriving DecidableEq, Repr

inductive WorkerIntent
  | session (action : SessionAction)
  | query (kind : QueryKind)
  | home (axis : HomeAxis)
  | sort (slot : Fin 103)
  deriving DecidableEq, Repr

inductive BodyValue
  | text (s : String)
  | int (i : Int)
  | bool (b : Bool)
  | null
  deriving DecidableEq, Repr

abbrev RequestBody := List (String × BodyValue)

def homeIntent (body : RequestBody) : Except Raised WorkerIntent :=
  match body with
  | [("axis", .text "feeder")] => .ok (.home .feeder)
  | [("axis", .text "sorter")] => .ok (.home .sorter)
  | [("axis", .text "both")] => .ok (.home .both)
  | [("axis", .text axis)] => .error (.validation s!"unknown home axis '{axis}'")
  | [("axis", _)] => .error (.validation "home axis must be a string")
  | _ => .error (.validation "home takes exactly an axis")

def sortIntent (body : RequestBody) : Except Raised WorkerIntent :=
  match body with
  | [("slot", .int slot)] =>
    if h : 0 ≤ slot ∧ slot ≤ 102 then .ok (.sort ⟨slot.toNat, by omega⟩)
    else .error (.validation "slot must be an integer in range 0..102")
  | [("slot", _)] => .error (.validation "sort slot must be an integer")
  | _ => .error (.validation "sort takes exactly a slot")

def feedIntent (body : RequestBody) : Except Raised WorkerIntent :=
  match body with
  | [("slot", .int _)] =>
    .error (.unsupported ("the v2 feed lifecycle is unavailable: its firmware gate is" ++
      " NOT_EXECUTED and no build advertises it"))
  | [("slot", _)] => .error (.validation "feed slot must be an integer")
  | _ => .error (.validation "feed takes exactly a slot")

def intentFor (action : OperationAction) (body : RequestBody) : Except Raised WorkerIntent :=
  match action with
  | .stop => .error (.validation "a priority stop is admitted through OperationDomain.stop")
  | .connect | .recover =>
    .error (.validation s!"a {action.value} operation is admitted through its own entry point")
  | .home => homeIntent body
  | .feed => feedIntent body
  | .sort | .configure => sortIntent body

def missingCapabilities (axis : HomeAxis) (firmware : FirmwareProfile) : List String :=
  let feed := if firmware.feedHome then [] else ["feed_home"]
  let sort := if firmware.sortHome then [] else ["sort_home"]
  match axis with
  | .feeder => feed
  | .sorter => sort
  | .both => feed ++ sort

/-- Refuse an intent the controller did not advertise or is not ready for. -/
def requireSupported (intent : WorkerIntent) (view : MachineSnapshot) : Except Raised Unit :=
  match view.firmware, view.readiness with
  | some firmware, some readiness =>
    match intent with
    | .home axis =>
      if missingCapabilities axis firmware = [] then .ok ()
      else .error (.unsupported ("controller does not advertise " ++
        " and ".intercalate (missingCapabilities axis firmware)))
    | .sort slot =>
      if slot.val > firmware.slotMax then
        .error (.validation
          s!"slot {slot.val} exceeds the advertised maximum {firmware.slotMax}")
      else if readiness.sortHomed then .ok ()
      else .error (.notReady "the sorter position is unknown; home the sorter first")
    | .session _ | .query _ =>
      .error (.validation "intent is not a state-changing machine operation")
  | _, _ => .error (.notReady "controller capabilities have not been observed yet")

end CaseSorter.Daemon
