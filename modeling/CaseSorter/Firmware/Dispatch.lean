import CaseSorter.Firmware.Framing
import CaseSorter.Firmware.Components

/-! Command vocabulary and `dispatchV1Command`: what one command line means, which
configuration field it changes and which action it asks of the sketch. Both protocol
versions dispatch through this function. The parsers of numbers are those of logic.cpp, the
vocabulary that of protocol.h, the rest is protocol.cpp. -/

namespace CaseSorter.Firmware

def maxAvrInt : Nat := 32767
def maxStandbyTimeoutSeconds : Nat := 4294967295 / 1000

def maximumRepresentableSlotCount (stepSeparation microsteps integerMaximum : Nat) : Nat :=
  if stepSeparation = 0 ∨ microsteps = 0 then 0 else integerMaximum / microsteps /
    stepSeparation + 1

def isSlotCountRepresentable (slotCount stepSeparation microsteps integerMaximum : Nat) : Bool :=
  1 ≤ slotCount && slotCount ≤ maximumRepresentableSlotCount stepSeparation
    microsteps integerMaximum

def clampByte (value : Int) : Int := if value < 0 then 0 else if 255 < value then 255 else value

/-- The source computes `(speed - 1) / 99 * 940` in `double` and truncates; for the
hundred accepted speeds this is the truncated rational quotient. -/
def convertSpeedToDelay (speed : Int) : Int :=
  if speed < 1 ∨ 100 < speed then 500 else 1060 - ((speed - 1) * 940 / 99 + 60)

def parseUint32Loop (maximum : Nat) : Bytes → Nat → Option Nat
  | [], parsed => some parsed
  | c :: rest, parsed =>
    if !isDigit c then none
    else if maximum / 10 < parsed ∨
      (parsed = maximum / 10 ∧ maximum % 10 < digitValue c) then none
    else parseUint32Loop maximum rest (parsed * 10 + digitValue c)

def parseUint32 (text : Bytes) (maximum : Nat) : Option Nat :=
  if text = [] then none else parseUint32Loop maximum text 0

def minus : UInt8 := 45
def plus : UInt8 := 43

def parseInt32 (text : Bytes) (minimum maximum : Int) : Option Int :=
  if maximum < minimum ∨ text = [] then none
  else
    let signed := text.head? = some minus ∨ text.head? = some plus
    let negative := text.head? = some minus
    let digits := if signed then text.tail else text
    if digits = [] then none
    else
      let magnitudeLimit := if negative then (if minimum < 0 then (-minimum).toNat else 0)
        else if 0 < maximum then maximum.toNat else 0
      match parseUint32 digits magnitudeLimit with
      | none => none
      | some magnitude =>
        let parsed : Int := if negative then -(magnitude : Int) else magnitude
        if parsed < minimum ∨ maximum < parsed then none else some parsed

def toLower (b : UInt8) : UInt8 := if 65 ≤ b ∧ b ≤ 90 then b + 32 else b

def equalsIgnoringCase (left right : Bytes) : Bool := left.map toLower = right.map toLower

def parseBool (text : Bytes) : Option Bool :=
  if equalsIgnoringCase text (ascii "true") || equalsIgnoringCase text (ascii "1") then some true
  else if equalsIgnoringCase text (ascii "false") || equalsIgnoringCase text (ascii "0") then
    some false
  else none

structure Configuration where
  feedSpeed : Int
  feedSteps : Int
  sortSpeed : Int
  sortSteps : Nat
  slotCount : Nat
  notificationDelay : Int
  slotDropDelay : Int
  airDropEnabled : Bool
  airDropPostDelay : Int
  airDropPreDelay : Int
  airDropSignalTime : Int
  feedHomingOffset : Int
  sortHomingOffset : Int
  autoMotorStandbyTimeout : Nat
  debounceTimeout : Nat
  debouncePauseTime : Nat
  cameraLedLevel : Int
  deriving DecidableEq, Repr

structure V1DispatchLimits where
  maxAvrInt : Nat
  maxStandbyTimeoutSeconds : Nat
  sortFullRevolutionSteps : Nat
  sortMicrosteps : Nat
  deriving DecidableEq, Repr

structure V1DispatchContext where
  running : Bool
  busy : Bool
  pendingCommand : Bool
  queuedPositionOne : Int
  queuedPositionTwo : Int
  deriving DecidableEq, Repr

inductive V1Response
  | ready | ok | ping | stopped | done | testingStarted | waitingForBrass | feedOvertravel
  | commandTooLong | invalidCommand | notHomed | busy | invalidSlot | invalidSortto | invalidXf
  | invalidDebounceTimeout | invalidDebounceTime | invalidFeedspeed | invalidFeedHomingOffset
  | invalidSortHomingOffset | invalidSortspeed | invalidSortsteps | invalidSlotcount
  | invalidFeedsteps | invalidNotificationDelay | invalidSlotDropDelay | invalidAirdropEnabled
  | invalidAirdropPostDelay | invalidAirdropPreDelay | invalidAirdropSignalDuration
  | invalidAutoMotorStandbyTimeout | invalidCameraLedLevel | invalidTest | invalidSorttest
  deriving DecidableEq, Repr

inductive V1Command
  | unknown | numericPosition | stop | version | homeFeeder | homeSorter | sortTo | forceFeed
  | getConfig | debounceTimeout | debounceTime | feedSpeed | feedHomingOffset | sortHomingOffset
  | sortSpeed | sortSteps | slotCount | feedSteps | notificationDelay | slotDropDelay
  | airDropEnabled | airDropPostDelay | airDropPreDelay | airDropSignalDuration
  | autoMotorStandbyTimeout | cameraLedLevel | test | sortTest | ping
  deriving DecidableEq, Repr

inductive V1Action
  | none | queuePending | stop | homeFeeder | homeSorter | queueFeed | queueForcedFeed | sortTo
  | startTest | startSortTest | applyFeedSpeed | applySortSpeed | applyFeedHomingOffset
  | applySortHomingOffset | applyFeedSteps | applyDropDelay | applyAutoMotorStandbyTimeout
  | applyCameraLedLevel
  deriving DecidableEq, Repr

inductive V1Output
  | none | response | version | configuration
  deriving DecidableEq, Repr

structure V1DispatchResult where
  action : V1Action
  output : V1Output
  response : V1Response := .ok
  value : Int := 0
  deriving DecidableEq, Repr

inductive V1FrameStatus
  | ready | tooLong | invalid
  deriving DecidableEq, Repr

def v1CommandValue (command lead : Bytes) : Option Bytes :=
  if lead.isPrefixOf command then some (command.drop lead.length) else none

def isNumericV1Command : Bytes → Bool
  | [] => false
  | b :: rest => isDigit b || ((b = minus ∨ b = plus) && (rest.head?.any isDigit))

/-- The word of each command: the exact line of a bare command, or the lead of one
that takes an argument, in the order in which `classifyV1Command` tests them. -/
def v1ExactCommands : List (Bytes × V1Command) :=
  [(ascii "stop", .stop), (ascii "version", .version), (ascii "homefeeder", .homeFeeder),
   (ascii "homesorter", .homeSorter), (ascii "getconfig", .getConfig), (ascii "ping", .ping)]

def v1PrefixedCommands : List (Bytes × V1Command) :=
  [(ascii "sortto:", .sortTo), (ascii "xf:", .forceFeed),
   (ascii "debounceTimeout:", .debounceTimeout), (ascii "debounceTime:", .debounceTime),
   (ascii "feedspeed:", .feedSpeed), (ascii "feedhomingoffset:", .feedHomingOffset),
   (ascii "sorthomingoffset:", .sortHomingOffset), (ascii "sortspeed:", .sortSpeed),
   (ascii "sortsteps:", .sortSteps), (ascii "slotcount:", .slotCount),
   (ascii "feedsteps:", .feedSteps), (ascii "notificationdelay:", .notificationDelay),
   (ascii "slotdropdelay:", .slotDropDelay), (ascii "airdropenabled:", .airDropEnabled),
   (ascii "airdroppostdelay:", .airDropPostDelay), (ascii "airdroppredelay:", .airDropPreDelay),
   (ascii "airdropdsignalduration:", .airDropSignalDuration),
   (ascii "automotorstandbytimeout:", .autoMotorStandbyTimeout),
   (ascii "cameraledlevel:", .cameraLedLevel), (ascii "test:", .test),
   (ascii "sorttest:", .sortTest)]

def classifyV1Command (command : Bytes) : V1Command :=
  if isNumericV1Command command then .numericPosition
  else
    match v1ExactCommands.find? fun entry => command = entry.1 with
    | some (_, kind) => kind
    | none =>
      match v1PrefixedCommands.find? fun entry => entry.1.isPrefixOf command with
      | some (_, kind) => kind
      | none => .unknown

def v1CommandRequiresHomedPosition : V1Command → Bool
  | .numericPosition | .forceFeed | .sortTo | .test | .sortTest => true
  | _ => false

def v1InvalidResponse : V1Command → V1Response
  | .numericPosition => .invalidSlot
  | .sortTo => .invalidSortto
  | .forceFeed => .invalidXf
  | .debounceTimeout => .invalidDebounceTimeout
  | .debounceTime => .invalidDebounceTime
  | .feedSpeed => .invalidFeedspeed
  | .feedHomingOffset => .invalidFeedHomingOffset
  | .sortHomingOffset => .invalidSortHomingOffset
  | .sortSpeed => .invalidSortspeed
  | .sortSteps => .invalidSortsteps
  | .slotCount => .invalidSlotcount
  | .feedSteps => .invalidFeedsteps
  | .notificationDelay => .invalidNotificationDelay
  | .slotDropDelay => .invalidSlotDropDelay
  | .airDropEnabled => .invalidAirdropEnabled
  | .airDropPostDelay => .invalidAirdropPostDelay
  | .airDropPreDelay => .invalidAirdropPreDelay
  | .airDropSignalDuration => .invalidAirdropSignalDuration
  | .autoMotorStandbyTimeout => .invalidAutoMotorStandbyTimeout
  | .cameraLedLevel => .invalidCameraLedLevel
  | .test => .invalidTest
  | .sortTest => .invalidSorttest
  | _ => .ok

def v1CommandIsSetter : V1Command → Bool
  | .debounceTimeout | .debounceTime | .feedSpeed | .feedHomingOffset | .sortHomingOffset
  | .sortSpeed | .sortSteps | .slotCount | .feedSteps | .notificationDelay | .slotDropDelay
  | .airDropEnabled | .airDropPostDelay | .airDropPreDelay | .airDropSignalDuration
  | .autoMotorStandbyTimeout | .cameraLedLevel => true
  | _ => false

def v1CommandLead (kind : V1Command) : Bytes :=
  ((v1PrefixedCommands.find? fun entry => entry.2 = kind).map Prod.fst).getD []

def v1SetterArgument (command : Bytes) (kind : V1Command) : Option Bytes :=
  if v1CommandIsSetter kind then v1CommandValue command (v1CommandLead kind) else none

def isCompleteDecimal (text : Bytes) : Bool :=
  let digits := if text.head? = some plus ∨ text.head? = some minus then text.tail else text
  text ≠ [] && digits ≠ [] && digits.all isDigit

def v1SetterArgumentIsSyntacticallyComplete (command : Bytes) (kind : V1Command) : Bool :=
  match v1SetterArgument command kind with
  | none => false
  | some argument =>
    if kind = .airDropEnabled then (parseBool argument).isSome else isCompleteDecimal argument

def v1SetterRange (kind : V1Command) (configuration : Configuration) (limits : V1DispatchLimits) :
    Option (Nat × Nat) :=
  match kind with
  | .feedSpeed | .sortSpeed | .sortSteps => some (1, 100)
  | .feedSteps => some (1, 1000)
  | .feedHomingOffset | .sortHomingOffset => some (0, limits.sortFullRevolutionSteps)
  | .slotCount => some (1, maximumRepresentableSlotCount configuration.sortSteps
      limits.sortMicrosteps limits.maxAvrInt)
  | .debounceTimeout | .debounceTime | .notificationDelay | .slotDropDelay | .airDropPostDelay
  | .airDropPreDelay | .airDropSignalDuration => some (0, limits.maxAvrInt)
  | .autoMotorStandbyTimeout => some (0, limits.maxStandbyTimeoutSeconds)
  | _ => none

def parseBoundedInt (text : Bytes) (minimum maximum : Nat) : Option Nat :=
  (parseUint32 text maximum).filter fun parsed => minimum ≤ parsed

def parseSortPosition (text : Bytes) (configuration : Configuration) (limits : V1DispatchLimits) :
    Option Nat :=
  parseBoundedInt text 0 (maximumRepresentableSlotCount configuration.sortSteps
    limits.sortMicrosteps limits.maxAvrInt - 1)

def refused (response : V1Response) : V1DispatchResult := ⟨.none, .response, response, 0⟩

def invalid (kind : V1Command) : V1DispatchResult := refused (v1InvalidResponse kind)

/-- The argument after the lead of `kind`. The classification guarantees the lead. -/
def v1Argument (command : Bytes) (kind : V1Command) : Bytes :=
  (v1CommandValue command (v1CommandLead kind)).getD []

/-- A setter whose argument is one integer in the range `v1SetterRange` reports. -/
def boundedSetter (command : Bytes) (kind : V1Command) (configuration : Configuration)
    (limits : V1DispatchLimits) (store : Nat → Configuration)
    (result : Nat → V1DispatchResult) :
    V1DispatchResult × Configuration :=
  match v1SetterRange kind configuration limits with
  | none => (invalid kind, configuration)
  | some (minimum, maximum) =>
    match parseBoundedInt (v1Argument command kind) minimum maximum with
    | none => (invalid kind, configuration)
    | some value => (result value, store value)

def applied (action : V1Action) (value : Nat) : V1DispatchResult :=
  ⟨action, .response, .ok, value⟩

def stored (action : V1Action) (_ : Nat) : V1DispatchResult := ⟨action, .response, .ok, 0⟩

/-- `sortsteps:` also refuses a separation under which a queued position or the slot
count could no longer be represented. -/
def dispatchSortSteps (command : Bytes) (context : V1DispatchContext)
    (configuration : Configuration) (limits : V1DispatchLimits) :
    V1DispatchResult × Configuration :=
  match parseBoundedInt (v1Argument command .sortSteps) 1 100 with
  | none => (invalid .sortSteps, configuration)
  | some value =>
    let slots := maximumRepresentableSlotCount value limits.sortMicrosteps limits.maxAvrInt
    if ((slots : Int) - 1 < context.queuedPositionOne) ∨
        ((slots : Int) - 1 < context.queuedPositionTwo) ∨
        !isSlotCountRepresentable configuration.slotCount value limits.sortMicrosteps
          limits.maxAvrInt then
      (invalid .sortSteps, configuration)
    else (stored .none value, { configuration with sortSteps := value })

def dispatchSlotCount (command : Bytes) (configuration : Configuration)
    (limits : V1DispatchLimits) : V1DispatchResult × Configuration :=
  match parseUint32 (v1Argument command .slotCount) (maximumRepresentableSlotCount
      configuration.sortSteps limits.sortMicrosteps limits.maxAvrInt) with
  | none => (invalid .slotCount, configuration)
  | some slots =>
    if !isSlotCountRepresentable slots configuration.sortSteps limits.sortMicrosteps
        limits.maxAvrInt then
      (invalid .slotCount, configuration)
    else (stored .none slots, { configuration with slotCount := slots })

/-- The second `switch` of `dispatchV1Command`: setters, test cycles and `ping`. -/
def dispatchV1Setter (command : Bytes) (kind : V1Command) (context : V1DispatchContext)
    (c : Configuration) (limits : V1DispatchLimits) : V1DispatchResult × Configuration :=
  match kind with
  | .debounceTimeout =>
    boundedSetter command kind c limits (fun v => { c with debounceTimeout := v }) (stored .none)
  | .debounceTime =>
    boundedSetter command kind c limits (fun v => { c with debouncePauseTime := v }) (stored .none)
  | .feedSpeed =>
    boundedSetter command kind c limits (fun v => { c with feedSpeed := v })
      (applied .applyFeedSpeed)
  | .feedHomingOffset =>
    boundedSetter command kind c limits (fun v => { c with feedHomingOffset := v })
      (applied .applyFeedHomingOffset)
  | .sortHomingOffset =>
    boundedSetter command kind c limits (fun v => { c with sortHomingOffset := v })
      (applied .applySortHomingOffset)
  | .sortSpeed =>
    boundedSetter command kind c limits (fun v => { c with sortSpeed := v })
      (applied .applySortSpeed)
  | .sortSteps => dispatchSortSteps command context c limits
  | .slotCount => dispatchSlotCount command c limits
  | .feedSteps =>
    boundedSetter command kind c limits (fun v => { c with feedSteps := v })
      (applied .applyFeedSteps)
  | .notificationDelay =>
    boundedSetter command kind c limits (fun v => { c with notificationDelay := v }) (stored .none)
  | .slotDropDelay =>
    boundedSetter command kind c limits (fun v => { c with slotDropDelay := v })
      (stored .applyDropDelay)
  | .airDropEnabled =>
    match parseBool (v1Argument command kind) with
    | none => (invalid kind, c)
    | some enabled => (stored .applyDropDelay 0, { c with airDropEnabled := enabled })
  | .airDropPostDelay =>
    boundedSetter command kind c limits (fun v => { c with airDropPostDelay := v })
      (stored .applyDropDelay)
  | .airDropPreDelay =>
    boundedSetter command kind c limits (fun v => { c with airDropPreDelay := v }) (stored .none)
  | .airDropSignalDuration =>
    boundedSetter command kind c limits (fun v => { c with airDropSignalTime := v }) (stored .none)
  | .autoMotorStandbyTimeout =>
    match parseUint32 (v1Argument command kind) limits.maxStandbyTimeoutSeconds with
    | none => (invalid kind, c)
    | some seconds =>
      (stored .applyAutoMotorStandbyTimeout 0, { c with autoMotorStandbyTimeout := seconds })
  | .cameraLedLevel =>
    match parseInt32 (v1Argument command kind) (-2147483648) 2147483647 with
    | none => (invalid kind, c)
    | some value =>
      (⟨.applyCameraLedLevel, .response, .ok, value⟩,
        { c with cameraLedLevel := clampByte value })
  | .test =>
    match parseBoundedInt (v1Argument command kind) 0 limits.maxAvrInt with
    | none => (invalid kind, c)
    | some value => (⟨.startTest, .response, .testingStarted, value⟩, c)
  | .sortTest =>
    match parseBoundedInt (v1Argument command kind) 0 limits.maxAvrInt with
    | none => (invalid kind, c)
    | some value => (⟨.startSortTest, .response, .testingStarted, value⟩, c)
  | .ping => (refused .ping, c)
  | _ => (refused .ok, c)

/-- A command that moves to a slot: `position`, `sortto:position` and `xf:position`. -/
def dispatchPosition (text : Bytes) (kind : V1Command) (configuration : Configuration)
    (limits : V1DispatchLimits) (action : V1Action) (output : V1Output) :
    V1DispatchResult × Configuration :=
  match parseSortPosition text configuration limits with
  | none => (invalid kind, configuration)
  | some value => (⟨action, output, .ok, value⟩, configuration)

def dispatchV1Command (command : Bytes) (context : V1DispatchContext)
    (configuration : Configuration) (limits : V1DispatchLimits) :
    V1DispatchResult × Configuration :=
  if commandMaxLength < command.length then (refused .commandTooLong, configuration)
  else if command.contains 0 then (refused .invalidCommand, configuration)
  else
    let kind := classifyV1Command command
    if kind = .stop then (⟨.stop, .response, .stopped, 0⟩, configuration)
    else if !context.running && v1CommandRequiresHomedPosition kind then
      (refused .notHomed, configuration)
    else if context.busy || context.pendingCommand then
      (if context.pendingCommand then refused .busy else ⟨.queuePending, .none, .ok, 0⟩,
        configuration)
    else
      match kind with
      | .numericPosition => dispatchPosition command kind configuration limits .queueFeed .none
      | .version => (⟨.none, .version, .ok, 0⟩, configuration)
      | .homeFeeder => (⟨.homeFeeder, .response, .ok, 0⟩, configuration)
      | .homeSorter => (⟨.homeSorter, .response, .ok, 0⟩, configuration)
      | .sortTo =>
        dispatchPosition (v1Argument command kind) kind configuration limits .sortTo .response
      | .forceFeed =>
        dispatchPosition (v1Argument command kind) kind configuration limits .queueForcedFeed .none
      | .getConfig => (⟨.none, .configuration, .ok, 0⟩, configuration)
      | _ => dispatchV1Setter command kind context configuration limits

def dispatchV1Frame (status : V1FrameStatus) (command : Bytes) (context : V1DispatchContext)
    (configuration : Configuration) (limits : V1DispatchLimits) :
    V1DispatchResult × Configuration :=
  match status with
  | .tooLong => (refused .commandTooLong, configuration)
  | .invalid => (refused .invalidCommand, configuration)
  | .ready => dispatchV1Command command context configuration limits

def V1Command.action : V1Command → V1Action
  | .stop => .stop
  | .numericPosition => .queueFeed
  | .forceFeed => .queueForcedFeed
  | .sortTo => .sortTo
  | .homeFeeder => .homeFeeder
  | .homeSorter => .homeSorter
  | .feedSpeed => .applyFeedSpeed
  | .sortSpeed => .applySortSpeed
  | .feedHomingOffset => .applyFeedHomingOffset
  | .sortHomingOffset => .applySortHomingOffset
  | .feedSteps => .applyFeedSteps
  | .slotDropDelay | .airDropEnabled | .airDropPostDelay => .applyDropDelay
  | .autoMotorStandbyTimeout => .applyAutoMotorStandbyTimeout
  | .cameraLedLevel => .applyCameraLedLevel
  | .test => .startTest
  | .sortTest => .startSortTest
  | _ => .none

attribute [local grind =] boundedSetter dispatchPosition dispatchSortSteps dispatchSlotCount
  dispatchV1Setter dispatchV1Command parseUint32 parseUint32Loop parseBoundedInt digitValue

theorem boundedSetter_action (command : Bytes) (kind : V1Command) (c : Configuration)
    (limits : V1DispatchLimits) (store : Nat → Configuration) (result : Nat → V1DispatchResult)
    (action : V1Action) (h : ∀ v, (result v).action = action) :
    (boundedSetter command kind c limits store result).1.action = .none ∨
      (boundedSetter command kind c limits store result).1.action = action := by
  unfold boundedSetter
  split
  · exact .inl rfl
  · split
    · exact .inl rfl
    · exact .inr (h _)

theorem dispatchPosition_action (text : Bytes) (kind : V1Command) (c : Configuration)
    (limits : V1DispatchLimits) (action : V1Action) (output : V1Output) :
    (dispatchPosition text kind c limits action output).1.action = .none ∨
      (dispatchPosition text kind c limits action output).1.action = action := by
  unfold dispatchPosition
  split
  · exact .inl rfl
  · exact .inr rfl

theorem dispatchV1Setter_action (command : Bytes) (kind : V1Command) (context : V1DispatchContext)
    (c : Configuration) (limits : V1DispatchLimits) :
    (dispatchV1Setter command kind context c limits).1.action = .none ∨
      (dispatchV1Setter command kind context c limits).1.action = kind.action := by
  cases kind
  case debounceTimeout | debounceTime | feedSpeed | feedHomingOffset | sortHomingOffset | sortSpeed
      | feedSteps | notificationDelay | slotDropDelay | airDropPostDelay | airDropPreDelay
      | airDropSignalDuration =>
    exact boundedSetter_action _ _ _ _ _ _ _ fun _ => rfl
  case airDropEnabled | autoMotorStandbyTimeout | cameraLedLevel | test | sortTest =>
    simp only [dispatchV1Setter]
    split
    · exact .inl rfl
    · exact .inr rfl
  case sortSteps =>
    simp only [dispatchV1Setter, dispatchSortSteps]
    split
    · exact .inl rfl
    · split_ifs <;> exact .inl rfl
  case slotCount =>
    simp only [dispatchV1Setter, dispatchSlotCount]
    split
    · exact .inl rfl
    · split_ifs <;> exact .inl rfl
  all_goals exact .inl rfl

theorem dispatchV1Command_action (command : Bytes) (context : V1DispatchContext)
    (c : Configuration) (limits : V1DispatchLimits) :
    let action := (dispatchV1Command command context c limits).1.action
    action = .none ∨ (action = .queuePending ∧ context.busy) ∨
      (action = (classifyV1Command command).action ∧
        (classifyV1Command command = .stop ∨
          (context.busy = false ∧ context.pendingCommand = false ∧
            (v1CommandRequiresHomedPosition (classifyV1Command command) →
              context.running)))) := by
  intro action
  simp only [action, dispatchV1Command]
  split_ifs with long nul stop homed idle pending
  · exact .inl rfl
  · exact .inl rfl
  · exact .inr (.inr ⟨by simp [stop, V1Command.action], .inl stop⟩)
  · exact .inl rfl
  · exact .inl rfl
  · exact .inr (.inl ⟨rfl, by simpa [pending] using idle⟩)
  · simp only [Bool.or_eq_true, not_or, Bool.not_eq_true] at idle
    simp only [Bool.and_eq_true, Bool.not_eq_true', not_and, Bool.not_eq_true] at homed
    have rest : context.busy = false ∧ context.pendingCommand = false ∧
        (v1CommandRequiresHomedPosition (classifyV1Command command) → context.running) :=
      ⟨idle.1, idle.2, fun h => by
        by_contra hr
        simp [homed (by simpa using hr)] at h⟩
    have granted : ∀ a : V1Action, a = .none ∨ a = (classifyV1Command command).action →
        a = .none ∨ (a = .queuePending ∧ context.busy) ∨
          (a = (classifyV1Command command).action ∧
          (classifyV1Command command = .stop ∨ _)) :=
      fun a h => h.elim .inl fun h => .inr (.inr ⟨h, .inr rest⟩)
    refine granted _ ?_
    split
    case h_1 h => exact h ▸ dispatchPosition_action _ _ _ _ _ _
    case h_2 h => exact .inl rfl
    case h_3 h => exact .inr (by rw [h]; rfl)
    case h_4 h => exact .inr (by rw [h]; rfl)
    case h_5 h => exact h ▸ dispatchPosition_action _ _ _ _ _ _
    case h_6 h => exact h ▸ dispatchPosition_action _ _ _ _ _ _
    case h_7 h => exact .inl rfl
    case h_8 => exact dispatchV1Setter_action _ _ _ _ _

theorem boundedSetter_answer (command : Bytes) (kind : V1Command) (c : Configuration)
    (limits : V1DispatchLimits) (store : Nat → Configuration) (result : Nat → V1DispatchResult)
    (h : ∀ v, (result v).output = .response ∧ (result v).response = .ok) :
    let answer := (boundedSetter command kind c limits store result).1
    answer.action = .none ∨ (answer.output = .response ∧ answer.response = .ok) := by
  unfold boundedSetter
  split
  · exact .inl rfl
  · split
    · exact .inl rfl
    · exact .inr (h _)

theorem dispatchV1Setter_answer (command : Bytes) {kind : V1Command} (context : V1DispatchContext)
    (c : Configuration) (limits : V1DispatchLimits) (setter : v1CommandIsSetter kind) :
    let answer := (dispatchV1Setter command kind context c limits).1
    answer.action = .none ∨ (answer.output = .response ∧ answer.response = .ok) := by
  cases kind
  case debounceTimeout | debounceTime | feedSpeed | feedHomingOffset | sortHomingOffset | sortSpeed
      | feedSteps | notificationDelay | slotDropDelay | airDropPostDelay | airDropPreDelay
      | airDropSignalDuration =>
    exact boundedSetter_answer _ _ _ _ _ _ fun _ => ⟨rfl, rfl⟩
  case airDropEnabled | autoMotorStandbyTimeout | cameraLedLevel =>
    simp only [dispatchV1Setter]
    split
    · exact .inl rfl
    · exact .inr ⟨rfl, rfl⟩
  case sortSteps | slotCount =>
    simp only [dispatchV1Setter, dispatchSortSteps, dispatchSlotCount]
    split
    · exact .inl rfl
    · split_ifs <;> exact .inl rfl
  all_goals cases setter

theorem dispatchV1Command_setter {command : Bytes} {context : V1DispatchContext}
    {c : Configuration} {limits : V1DispatchLimits} (idle : context.busy = false)
    (free : context.pendingCommand = false)
    (setter : v1CommandIsSetter (classifyV1Command command)) :
    let answer := (dispatchV1Command command context c limits).1
    answer.action = .none ∨ (answer.output = .response ∧ answer.response = .ok) := by
  simp only [dispatchV1Command]
  split_ifs with long nul stop homed waits pending
  · exact .inl rfl
  · exact .inl rfl
  · rw [stop] at setter
    cases setter
  · exact .inl rfl
  · exact .inl rfl
  · rw [idle, free] at waits
    cases waits
  · have answered := dispatchV1Setter_answer command context c limits setter
    revert setter answered
    cases classifyV1Command command <;> intro setter answered
    case numericPosition | version | homeFeeder | homeSorter | sortTo | forceFeed | getConfig =>
      cases setter
    all_goals exact answered

theorem dispatchV1Command_configuration (command : Bytes) (context : V1DispatchContext)
    (c : Configuration) (limits : V1DispatchLimits)
    (h : (context.busy || context.pendingCommand) = true) :
    (dispatchV1Command command context c limits).2 = c := by
  unfold dispatchV1Command
  simp only [h, if_true]
  split_ifs <;> rfl

theorem dispatchV1Command_configuration_of_not_setter (command : Bytes)
    (context : V1DispatchContext) (c : Configuration) (limits : V1DispatchLimits)
    (h : v1CommandIsSetter (classifyV1Command command) = false) :
    (dispatchV1Command command context c limits).2 = c := by
  have position : ∀ text kind action output,
      (dispatchPosition text kind c limits action output).2 = c := by
    intro text kind action output
    unfold dispatchPosition
    split <;> rfl
  have setter : ∀ kind, v1CommandIsSetter kind = false →
      (dispatchV1Setter command kind context c limits).2 = c := by
    intro kind hk
    cases kind <;> simp [v1CommandIsSetter] at hk <;> simp only [dispatchV1Setter] <;> split <;> rfl
  simp only [dispatchV1Command]
  split_ifs <;> try rfl
  split <;> first | rfl | exact position _ _ _ _ | exact setter _ h

theorem digitValue_le {c : UInt8} (h : isDigit c) : digitValue c ≤ 9 := by
  simp only [isDigit, Bool.and_eq_true, decide_eq_true_eq, UInt8.le_iff_toNat_le] at h
  unfold digitValue
  have := h.2
  simp at this
  omega

theorem parseUint32Loop_le {maximum value : Nat} (text : Bytes) (parsed : Nat)
    (start : parsed ≤ maximum) (h : parseUint32Loop maximum text parsed = some value) :
    value ≤ maximum := by
  induction text generalizing parsed with
  | nil =>
    cases h
    exact start
  | cons c rest ih =>
    unfold parseUint32Loop at h
    split_ifs at h with digit exceeds
    refine ih _ ?_ h
    have small := digitValue_le (by simpa using digit)
    omega

theorem parseBoundedInt_le {text : Bytes} {minimum maximum value : Nat}
    (h : parseBoundedInt text minimum maximum = some value) : value ≤ maximum := by
  unfold parseBoundedInt parseUint32 at h
  rw [Option.filter_eq_some_iff] at h
  obtain ⟨parsed, -⟩ := h
  split_ifs at parsed
  exact parseUint32Loop_le text 0 (Nat.zero_le _) parsed

theorem boundedSetter_configuration {P : Configuration → Prop} {command : Bytes}
    {kind : V1Command}
    {c : Configuration} {limits : V1DispatchLimits} {store : Nat → Configuration}
    {result : Nat → V1DispatchResult} (keep : P c)
    (accept : ∀ minimum maximum value, v1SetterRange kind c limits = some (minimum, maximum) →
      value ≤ maximum → P (store value)) :
    P (boundedSetter command kind c limits store result).2 := by
  unfold boundedSetter
  split
  · exact keep
  · rename_i minimum maximum range
    split
    · exact keep
    · rename_i value parsed
      exact accept minimum maximum value range (parseBoundedInt_le parsed)

theorem dispatchV1Setter_sortHomingOffset {command : Bytes} {kind : V1Command}
    {context : V1DispatchContext} {c : Configuration} {limits : V1DispatchLimits}
    (h : c.sortHomingOffset ≤ limits.sortFullRevolutionSteps) :
    (dispatchV1Setter command kind context c limits).2.sortHomingOffset ≤
      limits.sortFullRevolutionSteps := by
  cases kind
  case sortHomingOffset =>
    refine boundedSetter_configuration
      (P := fun d => d.sortHomingOffset ≤ limits.sortFullRevolutionSteps) h ?_
    intro minimum maximum value range within
    cases range
    exact Int.ofNat_le.mpr within
  case sortSteps =>
    simp only [dispatchV1Setter, dispatchSortSteps]
    split
    · exact h
    · split_ifs <;> exact h
  case slotCount =>
    simp only [dispatchV1Setter, dispatchSlotCount]
    split
    · exact h
    · split_ifs <;> exact h
  case airDropEnabled | autoMotorStandbyTimeout | cameraLedLevel | test | sortTest =>
    simp only [dispatchV1Setter]
    split <;> exact h
  all_goals first
    | exact h
    | exact boundedSetter_configuration
        (P := fun d => d.sortHomingOffset ≤ limits.sortFullRevolutionSteps) h fun _ _ _ _ _ => h

theorem dispatchV1Command_sortHomingOffset {command : Bytes} {context : V1DispatchContext}
    {c : Configuration} {limits : V1DispatchLimits}
    (h : c.sortHomingOffset ≤ limits.sortFullRevolutionSteps) :
    (dispatchV1Command command context c limits).2.sortHomingOffset ≤
      limits.sortFullRevolutionSteps := by
  have position : ∀ text kind action output,
      (dispatchPosition text kind c limits action output).2.sortHomingOffset ≤
        limits.sortFullRevolutionSteps := by
    intro text kind action output
    unfold dispatchPosition
    split <;> exact h
  simp only [dispatchV1Command]
  split_ifs <;> try exact h
  split
  all_goals first
    | exact h
    | exact position _ _ _ _
    | exact dispatchV1Setter_sortHomingOffset h
end CaseSorter.Firmware
