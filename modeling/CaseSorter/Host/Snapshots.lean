import CaseSorter.Host.Parsing

/-! The snapshots of models.py, which the client builds from the fields of an inspection,
and the dictionary of fields it collects from the responses to one request. -/

namespace CaseSorter.Host

/-- `fields[key] = value`. -/
def setField (fields : Fields) (entry : Text × Text) : Fields :=
  if fields.any fun f => f.1 = entry.1 then
    fields.map fun f => if f.1 = entry.1 then entry else f
  else fields ++ [entry]

/-- `fields.update(entries)`. -/
def update (fields entries : Fields) : Fields := entries.foldl setField fields

def collect (responses : List Response) : Fields :=
  responses.foldl (fun fields response => update fields response.fields) []

def missing (required : List String) (fields : Fields) : List String :=
  required.filter fun name => !fields.any fun f => f.1 = name.toList

/-- `fields[name]` of a field that is there. -/
def get (fields : Fields) (name : String) : Text :=
  ((fields.find? fun f => f.1 = name.toList).map Prod.snd).getD []

def extras (required : List String) (fields : Fields) : Fields :=
  fields.filter fun f => !required.any fun name => f.1 = name.toList

def getBit (fields : Fields) (name : String) : Except ProtocolError Bool :=
  bit (get fields name) name

def getUint (fields : Fields) (name : String) (minimum : Nat) (maximum : Option Nat) :
    Except ProtocolError Nat :=
  uint (get fields name) name minimum maximum

structure Status where
  mode : Text
  phase : Text
  feedHomed : Bool
  sortHomed : Bool
  motorEnabled : Bool
  activeId : Option Nat
  faultCode : Nat
  queuePrevious : Nat
  queueNext : Nat
  configGeneration : Nat
  extras : Fields
  deriving DecidableEq, Repr

namespace Status

def required : List String :=
  ["active_id", "config_generation", "fault_code", "feed_homed", "mode", "motor_enabled",
   "phase", "queue_next", "queue_previous", "sort_homed"]

def modes : List String := ["running", "recovering", "stopped"]

def phases : List String :=
  ["idle", "feed_wait", "feed_move", "feed_home", "sort_move", "sort_home", "settling",
   "airdrop", "diagnostic"]

def getActiveId (fields : Fields) : Except ProtocolError (Option Nat) :=
  if get fields "active_id" = "none".toList then .ok none
  else (getUint fields "active_id" 0 (some 65535)).map some

def fromFields (fields : Fields) : Except ProtocolError Status :=
  if missing required fields ≠ [] then
    .error (.parse ("status missing required fields: " ++
      ", ".intercalate (missing required fields)))
  else if !modes.any fun name => get fields "mode" = name.toList then
    .error (.parse "invalid status mode")
  else if !phases.any fun name => get fields "phase" = name.toList then
    .error (.parse "invalid status phase")
  else do
    let activeId ← getActiveId fields
    let feedHomed ← getBit fields "feed_homed"
    let sortHomed ← getBit fields "sort_homed"
    let motorEnabled ← getBit fields "motor_enabled"
    let faultCode ← getUint fields "fault_code" 0 none
    let queuePrevious ← getUint fields "queue_previous" 0 none
    let queueNext ← getUint fields "queue_next" 0 none
    let configGeneration ← getUint fields "config_generation" 0 none
    return ⟨get fields "mode", get fields "phase", feedHomed, sortHomed, motorEnabled, activeId,
      faultCode, queuePrevious, queueNext, configGeneration, Host.extras required fields⟩

end Status

structure Capabilities where
  protocol : Nat
  maxLine : Nat
  crc : Text
  queueDepth : Nat
  slotMax : Nat
  slotCount : Nat
  pwm : Bool
  airdrop : Bool
  feedSensor : Bool
  feedHome : Bool
  sortHome : Bool
  extras : Fields
  deriving DecidableEq, Repr

namespace Capabilities

def required : List String :=
  ["airdrop", "crc", "feed_home", "feed_sensor", "max_line", "protocol", "pwm", "queue_depth",
   "slot_count", "slot_max", "sort_home"]

def invalidValue : ProtocolError := .parse "invalid required capability value"

/-- The second operand of an `or` is read only where the first is false. -/
def requireVersion (fields : Fields) (protocol : Nat) : Except ProtocolError Unit :=
  if protocol ≠ 2 then .error invalidValue
  else
    getUint fields "max_line" 0 none >>= fun maxLine =>
      if maxLine ≠ 64 then .error invalidValue
      else if get fields "crc" ≠ "none".toList ∧ get fields "crc" ≠ "optional".toList then
        .error invalidValue
      else .ok ()

def fromFields (fields : Fields) : Except ProtocolError Capabilities :=
  if missing required fields ≠ [] then
    .error (.parse ("capabilities missing required fields: " ++
      ", ".intercalate (missing required fields)))
  else do
    let protocol ← getUint fields "protocol" 0 none
    requireVersion fields protocol
    let queueDepth ← getUint fields "queue_depth" 1 none
    let slotMax ← getUint fields "slot_max" 0 none
    let slotCount ← getUint fields "slot_count" 0 none
    let pwm ← getBit fields "pwm"
    let airdrop ← getBit fields "airdrop"
    let feedSensor ← getBit fields "feed_sensor"
    let feedHome ← getBit fields "feed_home"
    let sortHome ← getBit fields "sort_home"
    return ⟨protocol, 64, get fields "crc", queueDepth, slotMax, slotCount, pwm, airdrop,
      feedSensor, feedHome, sortHome, Host.extras required fields⟩

end Capabilities

structure QueueSnapshot where
  queueDepth : Nat
  queuePrevious : Nat
  queueNext : Nat
  extras : Fields
  deriving DecidableEq, Repr

namespace QueueSnapshot

def required : List String := ["queue_depth", "queue_next", "queue_previous"]

def fromFields (fields : Fields) : Except ProtocolError QueueSnapshot :=
  if missing required fields ≠ [] then
    .error (.parse ("queue missing required fields: " ++
      ", ".intercalate (missing required fields)))
  else do
    let queueDepth ← getUint fields "queue_depth" 1 none
    let queuePrevious ← getUint fields "queue_previous" 0 none
    let queueNext ← getUint fields "queue_next" 0 none
    return ⟨queueDepth, queuePrevious, queueNext, Host.extras required fields⟩

end QueueSnapshot

end CaseSorter.Host
