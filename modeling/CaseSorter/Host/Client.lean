import CaseSorter.Lib.Actions
import CaseSorter.Host.Framing
import CaseSorter.Host.Snapshots
import Mathlib.Data.Finset.Basic

/-! The synchronous client of the host: tracking.py and client.py, with what they use of models.py
and errors.py, over an arbitrary transport. Whatever the client calls (the transport, the clock, its
three callbacks) is a function of a state of its own, so every behaviour of theirs is one
environment. A turn of a waiting loop takes at least one unit of time; the clock may also jump
ahead. -/

namespace CaseSorter.Host

open CaseSorter.Actions

structure RequestTracker where
  active : Finset Nat
  terminalIds : Finset Nat
  next : Nat
  deriving DecidableEq

namespace RequestTracker

def new : RequestTracker := ⟨∅, ∅, 1⟩

def allocateWithin : Nat → RequestTracker → Option (Nat × RequestTracker)
  | 0, _ => none
  | attempts + 1, tracker =>
    let candidate := tracker.next
    let tracker := { tracker with next := if candidate = 65535 then 1 else candidate + 1 }
    if candidate ∈ tracker.active then tracker.allocateWithin attempts
    else
      some (candidate, { tracker with
        active := insert candidate tracker.active
        terminalIds := tracker.terminalIds.erase candidate })

def allocate (tracker : RequestTracker) : Except String (Nat × RequestTracker) :=
  match tracker.allocateWithin 65535 with
  | some allocated => .ok allocated
  | none => .error "all request IDs are active"

def reserve (tracker : RequestTracker) (requestId : Int) :
    Except String (Nat × RequestTracker) :=
  if requestId < 1 ∨ 65535 < requestId ∨ requestId.toNat ∈ tracker.active then
    .error "request ID unavailable"
  else
    .ok (requestId.toNat, { tracker with
      active := insert requestId.toNat tracker.active
      terminalIds := tracker.terminalIds.erase requestId.toNat })

end RequestTracker

def Response.terminal (response : Response) : Bool :=
  response.kind = .done || response.kind = .error

namespace RequestTracker

def observe (tracker : RequestTracker) (response : Response) : Except String RequestTracker :=
  if response.requestId ∉ tracker.active then
    if response.terminal ∧ response.requestId ∈ tracker.terminalIds then
      .error s!"duplicate terminal for ID {response.requestId}"
    else .error s!"unexpected response for ID {response.requestId}"
  else if response.terminal then
    .ok { tracker with
      active := tracker.active.erase response.requestId
      terminalIds := insert response.requestId tracker.terminalIds }
  else .ok tracker

def release (tracker : RequestTracker) (requestId : Nat) : RequestTracker :=
  { tracker with active := tracker.active.erase requestId }

def clear (_ : RequestTracker) : RequestTracker := new

end RequestTracker

structure EventTracker where
  lastSequence : Option Nat
  resyncRequired : Bool
  deriving DecidableEq, Repr

namespace EventTracker

def new : EventTracker := ⟨none, false⟩

def expected (tracker : EventTracker) : Nat :=
  match tracker.lastSequence with
  | none => 1
  | some last => if last = 65535 then 1 else last + 1

def observe (tracker : EventTracker) (event : Event) : Bool × EventTracker :=
  let contiguous : Bool := event.sequence = tracker.expected
  (contiguous, ⟨some event.sequence, tracker.resyncRequired || !contiguous⟩)

def replaceStatus (tracker : EventTracker) : EventTracker :=
  { tracker with resyncRequired := false }

end EventTracker

inductive SessionMode
  | uncertain
  | v1
  | v2
  deriving DecidableEq, Repr

structure Fault where
  code : Nat
  name : Text
  fields : Fields
  deriving DecidableEq, Repr

def Fault.fromResponse (response : Response) : Except ProtocolError Fault :=
  match response.kind, response.code, response.name with
  | .error, some code, some name => .ok ⟨code, name, response.fields⟩
  | _, _, _ => .error (.parse "response is not a fault/error")

def Fault.repr (fault : Fault) : String :=
  let items := fault.fields.map fun f => Host.repr f.1 ++ ": " ++ Host.repr f.2
  s!"Fault(code={fault.code}, name={Host.repr fault.name}, fields=" ++
    "\x7b" ++ ", ".intercalate items ++ "\x7d)"

structure Completion where
  requestId : Nat
  succeeded : Bool
  fields : Fields
  responses : List Response
  error : Option Fault
  answered : responses ≠ []
  deriving DecidableEq, Repr

def Completion.errorText (completion : Completion) : String :=
  (completion.error.map Fault.repr).getD "None"

def Completion.terminalResponse (completion : Completion) : Except ProtocolError Response :=
  let response := completion.responses.getLast completion.answered
  if response.terminal then .ok response
  else .error (.parse "completion does not end in a terminal response")

def Completion.terminalFields (completion : Completion) : Except ProtocolError Fields :=
  completion.terminalResponse.map Response.fields

inductive TransportError
  | timeout (message : String)
  | other (message : String)
  deriving DecidableEq, Repr

inductive Raised
  | recovery (message : String) (recovered : Bool)
  | interrupted (message : String)
  | requestState (message : String)
  | timeout (message : String)
  | framing (error : FramingError)
  | parse (error : ProtocolError)
  | protocol (message : String)
  | value (message : String)
  | other (message : String)
  deriving DecidableEq, Repr

def TransportError.raised : TransportError → Raised
  | .timeout message => .timeout message
  | .other message => .other message

/-- What the client calls. `late` asks the clock whether the deadline of the loop that is
waiting has passed; a transport without a reset hook has no `reset`. -/
structure Environment (τ : Type) where
  write : List UInt8 → τ → Except TransportError (Option Int) × τ
  read : τ → Except TransportError (List UInt8) × τ
  reset : Option (τ → Except TransportError Unit × τ)
  late : τ → Bool × τ
  interruptRequested : τ → Except TransportError Bool × τ
  onEvent : Event → Bool → τ → τ
  onRecovery : τ → τ

inductive Contact
  | wrote (data : List UInt8)
  | heard (line : Text)
  | reset
  deriving DecidableEq, Repr

/-- The client, the state of what it calls, and what has passed between them so far. -/
structure Client (τ : Type) where
  timeout : Nat
  reader : LineReader
  mode : SessionMode
  crcEnabled : Bool
  requests : RequestTracker
  events : EventTracker
  status : Option Status
  world : τ
  contacts : List Contact

abbrev ClientM (τ : Type) := Action (Client τ) Raised

/-- A number of seconds, in units of the clock; a float need not be finite. -/
inductive Duration
  | notFinite
  | units (n : Int)
  deriving DecidableEq, Repr

def Duration.turns : Duration → Option Nat
  | .notFinite => none
  | .units n => if 0 < n then some n.toNat else none

def encodeAscii (text : Text) : List UInt8 := text.map fun c => UInt8.ofNat c.toNat

variable {τ : Type}

def Client.new (timeout : Duration) (world : τ) : Except Raised (Client τ) :=
  match timeout.turns with
  | none => .error (.value "timeout must be finite and positive")
  | some timeout =>
    .ok ⟨timeout, .initial, .v1, false, .new, .new, none, world, []⟩

namespace Client

variable (env : Environment τ)

def self : ClientM τ (Client τ) := MonadState.get

def onWorld {α : Type} (f : τ → α × τ) : ClientM τ α :=
  ofEffect fun client =>
    let (a, world) := f client.world
    (.ok a, { client with world := world })

def note (contact : Contact) : ClientM τ Unit :=
  modify fun client => { client with contacts := client.contacts ++ [contact] }

def lift {α : Type} : Except ProtocolError α → ClientM τ α
  | .ok a => pure a
  | .error e => throw (.parse e)

def received {α : Type} : Except TransportError α → ClientM τ α
  | .ok a => pure a
  | .error e => throw e.raised

def late : ClientM τ Bool := onWorld env.late

def writeBytes (data : List UInt8) : ClientM τ Unit := do
  note (.wrote data)
  match ← received (← onWorld (env.write data)) with
  | none => pure ()
  | some written =>
    if written ≠ data.length then
      throw (.other s!"short transport write: wrote {written} of {data.length} bytes")
    else pure ()

def writeV1 (command : Text) : ClientM τ Unit :=
  if command.any (fun c => c = '\n' || c = '\r') then
    throw (.parse (.parse "commands must not contain a line terminator"))
  else if !isAscii command then throw (.other "ordinal not in range(128)")
  else writeBytes env (encodeAscii command ++ [10])

def feed (chunk : List UInt8) (v2 : Bool) : ClientM τ (Option (Except FramingError Text)) :=
  ofEffect fun client =>
    let (reader, _, result) := client.reader.readLine v2 chunk
    (.ok result, { client with reader := reader })

/-- `read_line`: as many turns as the deadline leaves. -/
def readLine (v2 : Bool) : Nat → ClientM τ Text
  | 0 => throw (.timeout "timed out waiting for a complete line")
  | turns + 1 => do
    if ← late env then throw (.timeout "timed out waiting for a complete line")
    else
      let chunk ← received (← onWorld env.read)
      match ← feed chunk v2 with
      | none => readLine v2 turns
      | some (.error e) => throw (.framing e)
      | some (.ok line) => do
        note (.heard line)
        pure line

def readV1 (turns : Nat) : ClientM τ Text := readLine env false turns

def readV2 (crcRequired : Option Bool) (turns : Nat) : ClientM τ Parsed := do
  let line ← readLine env true turns
  let client ← self
  lift (parseV2Line line (crcRequired.getD client.crcEnabled))

def expectLine (expected : Text) (message : String) (turns : Nat) : ClientM τ Unit := do
  let line ← readV1 env turns
  if line ≠ expected then throw (.parse (.parse message)) else pure ()

def awaitStopped : Nat → ClientM τ Unit
  | 0 => throw (.timeout "timed out waiting for exact stop terminal")
  | turns + 1 => do
    if ← late env then throw (.timeout "timed out waiting for exact stop terminal")
    else
      let line ← readV1 env (turns + 1)
      if line = "stopped".toList then pure () else awaitStopped turns

def resetHook : ClientM τ Unit :=
  match env.reset with
  | none => throw (.recovery "session is uncertain and no reset hook is available" false)
  | some reset =>
    tryCatch
      (do
        note .reset
        received (← onWorld reset))
      fun _ => throw (.recovery "reset failed; could not verify a v1 session" false)

def onTime (message : String) : ClientM τ Unit := do
  if ← late env then throw (.timeout message) else pure ()

def verifyV1 (timeout : Nat) : ClientM τ Unit := do
  onTime env "timed out waiting for exact v1 Ready"
  expectLine env "Ready".toList "expected exact v1 Ready" timeout
  writeV1 env "ping".toList
  onTime env "timed out waiting for exact legacy ping response"
  expectLine env " ok".toList "expected exact legacy ping response ' ok'" timeout

def recoverToV1 : ClientM τ Unit := do
  modify fun client => { client with
    requests := client.requests.clear, mode := .uncertain, crcEnabled := false }
  let client ← self
  tryCatch
    (do
      writeV1 env "stop".toList
      awaitStopped env client.timeout)
    -- a reset is authoritative even if an uncertain parser could not answer stop
    fun _ => pure ()
  resetHook env
  modify fun client => { client with reader := client.reader.clear }
  tryCatch (verifyV1 env client.timeout)
    fun _ => throw (.recovery "reset did not verify a v1 session" false)
  modify fun client => { client with
    mode := .v1
    crcEnabled := false
    requests := client.requests.clear
    events := .new
    status := none }
  modify fun client => { client with world := env.onRecovery client.world }

def recoverFrom {α : Type} (message : String) : ClientM τ α := do
  tryCatch (recoverToV1 env) fun e =>
    match e with
    | .recovery _ _ => throw (.recovery (message ++ "; v1 recovery failed") false)
    | e => throw e
  throw (.recovery (message ++ "; recovered to v1") true)

def failRequest {α : Type} (message : String) : ClientM τ α := do
  modify fun client => { client with requests := client.requests.clear }
  recoverFrom env message

def v1PingBarrier : ClientM τ Unit :=
  tryCatch
    (do
      writeV1 env "ping".toList
      let client ← self
      expectLine env " ok".toList "expected exact legacy ping response ' ok'" client.timeout)
    fun _ => failRequest env "v1 ping barrier was unsafe"

def observeEvent (event : Event) : ClientM τ Unit :=
  modify fun client =>
    let (contiguous, events) := client.events.observe event
    { client with events := events, world := env.onEvent event contiguous client.world }

def track {α : Type} (f : RequestTracker → Except String (α × RequestTracker)) :
    ClientM τ α :=
  ofEffect fun client =>
    match f client.requests with
    | .ok (a, requests) => (.ok a, { client with requests := requests })
    | .error message => (.error (.requestState message), client)

def takeId : Option Int → ClientM τ Nat
  | none => track RequestTracker.allocate
  | some requestId => track fun tracker => tracker.reserve requestId

/-- `_start`: the request's ID, once its frame has been written. -/
def start (command : Text) (requestId : Option Int) : ClientM τ Nat := do
  let client ← self
  if client.mode ≠ .v2 then
    throw (.protocol "v2 request attempted outside an active v2 session")
  else
    let id ← takeId requestId
    let frame ← tryCatch (lift (formatRequest id command client.crcEnabled)) fun e => do
      modify fun client => { client with requests := client.requests.release id }
      throw e
    tryCatch (writeBytes env (encodeAscii frame ++ [10]))
      fun _ => failRequest env "request transmission failed"
    pure id

/-- Send the universal CRC-exempt recovery command and require `stopped`. -/
def outOfBandStop : ClientM τ Unit :=
  tryCatch
    (do
      writeV1 env "stop".toList
      let client ← self
      awaitStopped env client.timeout
      modify fun client => { client with requests := client.requests.clear })
    fun _ => failRequest env "out-of-band stop was unsafe"

def checkInterrupt (interruptible : Bool) (id : Nat) : ClientM τ Unit :=
  if interruptible then do
    let interrupt ← tryCatch (do received (← onWorld env.interruptRequested))
      fun _ => failRequest env "request interruption check failed"
    if ← late env then failRequest env "request timed out"
    else if interrupt then do
      outOfBandStop env
      throw (.interrupted s!"request {id} cancelled by trusted out-of-band stop")
    else pure ()
  else pure ()

def readItem (interruptible : Bool) (responseCrc : Option Bool) (turns : Nat) :
    ClientM τ (Option Parsed) :=
  tryCatch (some <$> readV2 env responseCrc turns) fun e =>
    match e with
    | .timeout _ => do
      if interruptible then
        if ← late env then failRequest env "request timed out" else pure none
      else failRequest env "request timed out"
    | _ => failRequest env "request response was unsafe"

def complete (id : Nat) (earlier : List Response) (terminal : Response) : ClientM τ Completion :=
  let responses := earlier ++ [terminal]
  if terminal.kind = .done then
    pure ⟨id, true, collect responses, responses, none, by simp [responses]⟩
  else do
    let fault ← lift (Fault.fromResponse terminal)
    pure ⟨id, false, collect responses, responses, some fault, by simp [responses]⟩

def correlate (id : Nat) (response : Response) : ClientM τ Unit :=
  tryCatch
    (do
      track fun tracker => (tracker.observe response).map fun tracker => ((), tracker)
      if response.requestId ≠ id then
        throw (.protocol s!"interleaved response for active ID {response.requestId}")
      else pure ())
    fun _ => failRequest env "request response was unsafe"

/-- The loop of `request`, with the turns its deadline leaves. An interruptible request reads
for at most `poll` turns at a time. -/
def awaitTerminal (id : Nat) (poll : Option Nat) (responseCrc : Option Bool) :
    Nat → List Response → ClientM τ Completion
  | 0, _ => failRequest env "request timed out"
  | turns + 1, responses => do
    if ← late env then failRequest env "request timed out"
    else
      checkInterrupt env poll.isSome id
      match ← readItem env poll.isSome responseCrc (min (turns + 1) (poll.getD (turns + 1))) with
      | none => awaitTerminal id poll responseCrc turns responses
      | some (.event event) => do
        observeEvent env event
        awaitTerminal id poll responseCrc turns responses
      | some .stopped => failRequest env "request response was unsafe"
      | some (.response response) => do
        correlate env id response
        if response.terminal then complete id responses response
        else awaitTerminal id poll responseCrc turns (responses ++ [response])

/-- The arguments of `request`; without `interruptible` there is no callback. -/
structure RequestArguments where
  command : Text
  requestId : Option Int := none
  timeout : Option Duration := none
  responseCrc : Option Bool := none
  interruptible : Bool := false
  pollInterval : Duration := .units 1
  deriving DecidableEq, Repr

/-- Send one v2 request and return its correlated terminal completion. -/
def request (arguments : RequestArguments) : ClientM τ Completion := do
  match arguments.pollInterval.turns with
  | none => throw (.value "interrupt_poll_interval must be finite and positive")
  | some poll =>
    let client ← self
    match (arguments.timeout.getD (.units client.timeout)).turns with
    | none => throw (.value "timeout must be finite and positive")
    | some turns =>
      let id ← start env arguments.command arguments.requestId
      awaitTerminal env id (if arguments.interruptible then some poll else none)
        arguments.responseCrc turns []

def confirms (completion : Completion) (name value : String) : ClientM τ Bool :=
  if completion.succeeded then do
    let fields ← lift completion.terminalFields
    pure (fields.any fun f => f.1 = name.toList && f.2 = value.toList)
  else pure false

def enableCrc (requestId : Option Int) : ClientM τ Completion := do
  let client ← self
  if client.crcEnabled then throw (.protocol "CRC is already enabled")
  else
    let completion ← request env { command := "crc:on".toList, requestId,
                                   responseCrc := some true }
    if ← confirms completion "crc" "on" then do
      modify fun client => { client with crcEnabled := true }
      pure completion
    else failRequest env "CRC enable boundary was not confirmed"

def disableCrc (requestId : Option Int) : ClientM τ Completion := do
  let client ← self
  if !client.crcEnabled then throw (.protocol "CRC is already disabled")
  else
    let completion ← request env { command := "crc:off".toList, requestId }
    if ← confirms completion "crc" "off" then do
      modify fun client => { client with crcEnabled := false }
      pure completion
    else failRequest env "CRC disable boundary was not confirmed"

/-- Whether an exception is a `ProtocolError`, which every class of the package is. -/
def isProtocolError : Raised → Bool
  | .value _ | .other _ => false
  | _ => true

/-- Return through the healthy correlated `protocol:1` boundary. -/
def leaveV2 (requestId : Option Int) : ClientM τ Completion := do
  let completion ← tryCatch
    (do
      let completion ← request env { command := "protocol:1".toList, requestId }
      if ← confirms completion "protocol" "1" then pure completion
      else throw (.protocol "protocol:1 was not confirmed"))
    fun e =>
      match e with
      | .recovery message recovered => throw (.recovery message recovered)
      | e => if isProtocolError e then recoverFrom env "v2 leave was uncertain" else throw e
  modify fun client => { client with
    mode := .v1, crcEnabled := false, requests := client.requests.clear, events := .new }
  pure completion

def getProtocolVersion : ClientM τ Nat := do
  let completion ← request env { command := "protocolversion".toList }
  if !completion.succeeded then throw (.protocol
    ("protocolversion failed: " ++ completion.errorText))
  else if !completion.fields.any (fun f => f.1 = "protocol".toList) then
    throw (.parse (.parse "protocolversion missing required protocol"))
  else
    let version ← lift (uint (get completion.fields "protocol") "protocol" 0 none)
    if version ≠ 2 then throw (.parse (.parse "unsupported protocol version")) else pure version

def getCapabilities : ClientM τ Capabilities := do
  let completion ← request env { command := "capabilities".toList }
  if !completion.succeeded then throw (.protocol ("capabilities failed: " ++ completion.errorText))
  else lift (Capabilities.fromFields completion.fields)

def getStatus : ClientM τ Status := do
  let completion ← request env { command := "status".toList }
  if !completion.succeeded then throw (.protocol ("status failed: " ++ completion.errorText))
  else
    let status ← lift (Status.fromFields completion.fields)
    modify fun client => { client with
      status := some status, events := client.events.replaceStatus }
    pure status

/-- `classify_discovery`: only the two exact safe replies. -/
def classifyDiscovery (line : Text) : ClientM τ Bool :=
  if line = "protocol:2 available".toList then pure true
  else if line = "ok".toList then pure false
  else throw (.parse (.parse s!"unsafe discovery response: {repr line}"))

/-- The attempts of `discover`; a busy reply is retried once, behind a ping barrier. -/
def discoverWithin : Nat → ClientM τ Bool
  | 0 => throw (.other "unreachable")
  | attempts + 1 => do
    writeV1 env "protocol:2?".toList
    let client ← self
    let line ← readV1 env client.timeout
    if line = "error:busy".toList ∧ attempts = 1 then do
      v1PingBarrier env
      discoverWithin attempts
    else classifyDiscovery line

/-- Return whether v2 is available; a legacy `ok` is conclusively false. -/
def discover : ClientM τ Bool :=
  tryCatch (discoverWithin env 2) fun e =>
    match e with
    | .recovery message recovered => throw (.recovery message recovered)
    | _ => failRequest env "discovery was unsafe"

def activateKnownAvailable : ClientM τ Bool :=
  tryCatch
    (do
      writeV1 env "protocol:2".toList
      let client ← self
      expectLine env "protocol:2 ready".toList "activation requires exact 'protocol:2 ready'"
        client.timeout
      modify fun client => { client with
        mode := .v2, crcEnabled := false, requests := client.requests.clear, events := .new }
      let _ ← getProtocolVersion env
      let _ ← getCapabilities env
      let _ ← getStatus env
      pure true)
    fun e =>
      match e with
      | .recovery message recovered => throw (.recovery message recovered)
      | _ => recoverFrom env "activation was uncertain"

def activate : ClientM τ Bool := do
  if ← discover env then activateKnownAvailable env else pure false

end Client

end CaseSorter.Host
