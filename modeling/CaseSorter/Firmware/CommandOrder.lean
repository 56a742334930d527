import CaseSorter.Firmware.PendingSlot
import CaseSorter.Firmware.RequestLedger
import CaseSorter.Firmware.SorterPosition

/-! The order of v1 commands. Every complete line that is no stop has the number of its
arrival, and a record notes what the calls of `handleV1Frame` and the stops do with the
lines: the number behind the text in the pending slot is that of the line put there last. -/

namespace CaseSorter.Firmware

/-- The responses that report an error of a command. -/
def V1Response.isError : V1Response → Bool
  | .ready | .ok | .ping | .stopped | .done | .testingStarted | .waitingForBrass
  | .feedOvertravel => false
  | _ => true

def V1DispatchResult.refuses (result : V1DispatchResult) : Bool :=
  result.output = .response && result.response.isError

inductive LineFate
  | queued
  | executed
  | refused
  | discarded
  deriving DecidableEq, Repr

namespace State

/-- The negotiation step of `handleV1Frame`. -/
def negotiation (s : State) (status : V1FrameStatus) (command : Bytes)
    (dispatchingPending : Bool) : V2NegotiationAction :=
  if !dispatchingPending && status = .ready then
    dispatchV2Negotiation command s.executionBusy s.link.pendingCommand.available
  else .notHandled

def v1Result (s : State) (status : V1FrameStatus) (command : Bytes) (dispatchingPending : Bool) :
    V1DispatchResult × Configuration :=
  dispatchV1Frame status command (s.dispatchContext s.machineState.isRunning s.executionBusy
    (s.link.pendingCommand.available && !dispatchingPending)) s.configuration v1DispatchLimits

/-- What `handleV1Frame` does with a line. -/
def lineFate (s : State) (status : V1FrameStatus) (command : Bytes) (dispatchingPending : Bool) :
    LineFate :=
  match s.negotiation status command dispatchingPending with
  | .busy => .refused
  | .discovery | .activate => .executed
  | .notHandled =>
    let result := (s.v1Result status command dispatchingPending).1
    if result.action = .queuePending then
      if (s.link.pendingCommand.enqueue command).2 then .queued else .refused
    else if result.refuses then .refused
    else .executed

end State

theorem boundedSetter_refuses {command : Bytes} {kind : V1Command} {c : Configuration}
    {limits : V1DispatchLimits} {store : Nat → Configuration} {result : Nat → V1DispatchResult}
    (granted : ∀ v, (result v).refuses = false)
    (h : (boundedSetter command kind c limits store result).1.refuses) :
    (boundedSetter command kind c limits store result).1.action = .none ∧
      (boundedSetter command kind c limits store result).2 = c := by
  revert h
  unfold boundedSetter
  split
  · exact fun _ => ⟨rfl, rfl⟩
  · split
    · exact fun _ => ⟨rfl, rfl⟩
    · exact fun h => absurd ((granted _).symm.trans h) nofun

theorem dispatchV1Setter_refuses {command : Bytes} {kind : V1Command} {context : V1DispatchContext}
    {c : Configuration} {limits : V1DispatchLimits}
    (h : (dispatchV1Setter command kind context c limits).1.refuses) :
    (dispatchV1Setter command kind context c limits).1.action = .none ∧
      (dispatchV1Setter command kind context c limits).2 = c := by
  cases kind
  case debounceTimeout | debounceTime | feedSpeed | feedHomingOffset | sortHomingOffset | sortSpeed
      | feedSteps | notificationDelay | slotDropDelay | airDropPostDelay | airDropPreDelay
      | airDropSignalDuration =>
    exact boundedSetter_refuses (fun _ => rfl) h
  case sortSteps | slotCount =>
    revert h
    simp only [dispatchV1Setter, dispatchSortSteps, dispatchSlotCount]
    split
    · exact fun _ => ⟨rfl, rfl⟩
    · split_ifs
      · exact fun _ => ⟨rfl, rfl⟩
      · rintro ⟨⟩
  case airDropEnabled | autoMotorStandbyTimeout | cameraLedLevel | test | sortTest =>
    revert h
    simp only [dispatchV1Setter]
    split
    · exact fun _ => ⟨rfl, rfl⟩
    · rintro ⟨⟩
  all_goals exact ⟨rfl, rfl⟩

theorem dispatchPosition_refuses {text : Bytes} {kind : V1Command} {c : Configuration}
    {limits : V1DispatchLimits} {action : V1Action} {output : V1Output}
    (h : (dispatchPosition text kind c limits action output).1.refuses) :
    (dispatchPosition text kind c limits action output).1.action = .none ∧
      (dispatchPosition text kind c limits action output).2 = c := by
  revert h
  unfold dispatchPosition
  split
  · exact fun _ => ⟨rfl, rfl⟩
  · exact fun h => absurd (Bool.and_eq_true_iff.mp h).2 nofun

theorem dispatchV1Command_refuses {command : Bytes} {context : V1DispatchContext}
    {c : Configuration} {limits : V1DispatchLimits}
    (h : (dispatchV1Command command context c limits).1.refuses) :
    (dispatchV1Command command context c limits).1.action = .none ∧
      (dispatchV1Command command context c limits).2 = c := by
  revert h
  simp only [dispatchV1Command]
  split_ifs
  · exact fun _ => ⟨rfl, rfl⟩
  · exact fun _ => ⟨rfl, rfl⟩
  · rintro ⟨⟩
  · exact fun _ => ⟨rfl, rfl⟩
  · exact fun _ => ⟨rfl, rfl⟩
  · rintro ⟨⟩
  · split
    · exact dispatchPosition_refuses
    · rintro ⟨⟩
    · rintro ⟨⟩
    · rintro ⟨⟩
    · exact dispatchPosition_refuses
    · exact dispatchPosition_refuses
    · rintro ⟨⟩
    · exact dispatchV1Setter_refuses

theorem classifyV1Command_stop {command : Bytes} (h : classifyV1Command command = .stop) :
    command = ascii "stop" := by
  have exact_ : ∀ entry ∈ v1ExactCommands, entry.2 = .stop →
    entry.1 = ascii "stop" := by decide
  have prefixed : ∀ entry ∈ v1PrefixedCommands, entry.2 ≠ .stop := by decide
  unfold classifyV1Command at h
  split at h
  · cases h
  · split at h
    · rename_i found
      have entry := List.find?_some found
      have matched := exact_ _ (List.mem_of_find?_eq_some found) h
      simp only [decide_eq_true_eq] at entry
      exact entry.trans matched
    · split at h
      · rename_i found
        exact absurd h (prefixed _ (List.mem_of_find?_eq_some found))
      · cases h

theorem dispatchV1Command_queues {command : Bytes} {context : V1DispatchContext}
    {c : Configuration} {limits : V1DispatchLimits}
    (h : (dispatchV1Command command context c limits).1.action = .queuePending) :
    context.pendingCommand = false ∧ command.length ≤ commandMaxLength ∧
      (dispatchV1Command command context c limits).2 = c := by
  have busy : context.busy := by
    rcases dispatchV1Command_action command context c limits with none | ⟨-, busy⟩ |
      ⟨granted, -⟩
    · rw [h] at none
      cases none
    · exact busy
    · rw [h] at granted
      cases kind : classifyV1Command command <;> rw [kind] at granted <;> cases granted
  refine ⟨?_, ?_, dispatchV1Command_configuration command context c limits (by simp [busy])⟩
  · by_contra pending
    have held : context.pendingCommand = true := by simpa using pending
    revert h
    simp only [dispatchV1Command, busy, held, Bool.true_or, if_true]
    split_ifs <;> rintro ⟨⟩
  · by_contra long
    rw [dispatchV1Command, if_pos (Nat.lt_of_not_le long)] at h
    cases h

theorem dispatchV1Command_held {command : Bytes} {context : V1DispatchContext}
    {c : Configuration} {limits : V1DispatchLimits} (held : context.pendingCommand)
    (ordinary : command ≠ ascii "stop") :
    (dispatchV1Command command context c limits).1.refuses := by
  have kind : classifyV1Command command ≠ .stop := fun h => ordinary (classifyV1Command_stop h)
  simp only [dispatchV1Command, kind, held, Bool.or_true, if_true, if_false]
  split_ifs <;> rfl

namespace PendingCommand

theorem enqueue_full {p : PendingCommand} {frame : Bytes} (h : (p.enqueue frame).2 = false) :
    (p.enqueue frame).1 = p := by
  unfold enqueue at h ⊢
  split_ifs at h ⊢
  rfl

theorem empty_of_not_available {p : PendingCommand} (h : p.available = false) : p = .empty := by
  cases p with
  | mk stored =>
    cases stored with
    | none => rfl
    | some frame => cases h

theorem enqueue_stored {p : PendingCommand} {frame : Bytes} (h : (p.enqueue frame).2 = true) :
    p = .empty ∧ (p.enqueue frame).1 = ⟨some frame⟩ := by
  unfold enqueue at h ⊢
  split_ifs at h ⊢ with full
  simp only [Bool.or_eq_true, not_or, Bool.not_eq_true] at full
  exact ⟨empty_of_not_available full.1, rfl⟩

end PendingCommand

namespace State

variable {s : State} {status : V1FrameStatus} {command : Bytes} {dispatchingPending : Bool}

theorem v1Result_refuses (h : (s.v1Result status command dispatchingPending).1.refuses) :
    (s.v1Result status command dispatchingPending).1.action = .none ∧
      (s.v1Result status command dispatchingPending).2 = s.configuration := by
  cases status with
  | tooLong | invalid => exact ⟨rfl, rfl⟩
  | ready => exact dispatchV1Command_refuses h

theorem v1Result_queues
    (h : (s.v1Result status command dispatchingPending).1.action = .queuePending) :
    (s.link.pendingCommand.available && !dispatchingPending) = false ∧
      command.length ≤ commandMaxLength ∧
        (s.v1Result status command dispatchingPending).2 = s.configuration := by
  cases status with
  | tooLong | invalid => cases h
  | ready => exact dispatchV1Command_queues h

theorem handleV1Frame_eq (t : Ticks)
    (h : s.negotiation status command dispatchingPending = .notHandled) :
    s.handleV1Frame status command dispatchingPending t =
      (s.setConfiguration (s.v1Result status command dispatchingPending).2).performV1 status
        command (s.v1Result status command dispatchingPending).1 t := by
  unfold negotiation at h
  dsimp only [handleV1Frame]
  rw [h]
  rfl

theorem handleV1Frame_of_refused (t : Ticks)
    (h : s.lineFate status command dispatchingPending = .refused) :
    ∃ response : V1Response, response.isError ∧
      s.handleV1Frame status command dispatchingPending t = s.emit (.v1 response) := by
  unfold lineFate at h
  cases negotiation : s.negotiation status command dispatchingPending <;>
    simp only [negotiation, reduceCtorEq] at h
  case busy =>
    refine ⟨.busy, rfl, ?_⟩
    unfold State.negotiation at negotiation
    dsimp only [handleV1Frame]
    rw [negotiation]
  case notHandled =>
    rw [handleV1Frame_eq t negotiation]
    by_cases queues : (s.v1Result status command dispatchingPending).1.action = .queuePending
    · rw [if_pos queues] at h
      have full : (s.link.pendingCommand.enqueue command).2 = false := by
        by_contra stored
        rw [if_pos (by simpa using stored)] at h
        cases h
      have kept := PendingCommand.enqueue_full full
      refine ⟨.busy, rfl, ?_⟩
      rw [(v1Result_queues queues).2.2, performV1, if_pos queues]
      dsimp only [setConfiguration]
      rw [full, kept]
      rfl
    · rw [if_neg queues] at h
      have refuses : (s.v1Result status command dispatchingPending).1.refuses := by
        by_contra granted
        rw [if_neg granted] at h
        cases h
      obtain ⟨idle, same⟩ := v1Result_refuses refuses
      simp only [V1DispatchResult.refuses, Bool.and_eq_true, decide_eq_true_eq] at refuses
      refine ⟨_, refuses.2, ?_⟩
      have stored : (s.v1Result status command dispatchingPending).1.response ≠ .ok := by
        intro ok
        rw [ok] at refuses
        cases refuses.2
      rw [same, performV1, if_neg queues]
      simp only [stored, and_false, if_false, applyV1Action, idle, writeV1Output, refuses.1]
      rfl

theorem handleV1Frame_of_queued (t : Ticks)
    (h : s.lineFate status command dispatchingPending = .queued) :
    s.link.pendingCommand = .empty ∧ s.handleV1Frame status command dispatchingPending t =
      s.setPendingCommand ⟨some command⟩ := by
  unfold lineFate at h
  cases negotiation : s.negotiation status command dispatchingPending <;>
    simp only [negotiation, reduceCtorEq] at h
  by_cases queues : (s.v1Result status command dispatchingPending).1.action = .queuePending
  · rw [if_pos queues] at h
    have stored : (s.link.pendingCommand.enqueue command).2 = true := by
      by_contra full
      rw [if_neg full] at h
      cases h
    obtain ⟨empty, filled⟩ := PendingCommand.enqueue_stored stored
    refine ⟨empty, ?_⟩
    rw [handleV1Frame_eq t negotiation, (v1Result_queues queues).2.2, performV1, if_pos queues]
    dsimp only [setConfiguration]
    rw [stored, filled]
    rfl
  · rw [if_neg queues] at h
    split_ifs at h

theorem handleV1Frame_of_executed (t : Ticks)
    (h : s.lineFate status command dispatchingPending = .executed) :
    s.negotiation status command dispatchingPending = .discovery ∨
      s.negotiation status command dispatchingPending = .activate ∨
        (s.v1Result status command dispatchingPending).1.action ≠ .queuePending ∧
          (s.v1Result status command dispatchingPending).1.refuses = false ∧
            s.handleV1Frame status command dispatchingPending t =
              (s.setConfiguration (s.v1Result status command dispatchingPending).2).performV1
                status command (s.v1Result status command dispatchingPending).1 t := by
  unfold lineFate at h
  cases negotiation : s.negotiation status command dispatchingPending <;>
    simp only [negotiation, reduceCtorEq] at h
  · right; right
    have queues : (s.v1Result status command dispatchingPending).1.action ≠ .queuePending := by
      intro queues
      rw [if_pos queues] at h
      split_ifs at h
    rw [if_neg queues] at h
    refine ⟨queues, ?_, handleV1Frame_eq t negotiation⟩
    by_contra refuses
    rw [if_pos (by simpa using refuses)] at h
    cases h
  · exact .inl rfl
  · exact .inr (.inl rfl)

/-- A line other than `stop`. -/
def Ordinary (status : V1FrameStatus) (command : Bytes) : Prop :=
  status = .ready → command ≠ ascii "stop"

theorem v1Result_not_stop (ordinary : Ordinary status command) :
    (s.v1Result status command dispatchingPending).1.action ≠ .stop := by
  cases status with
  | tooLong | invalid => exact nofun
  | ready =>
    intro stop
    have action := dispatchV1Command_action command (s.dispatchContext s.machineState.isRunning
      s.executionBusy (s.link.pendingCommand.available && !dispatchingPending)) s.configuration
      v1DispatchLimits
    have granted : (dispatchV1Command command (s.dispatchContext s.machineState.isRunning
        s.executionBusy (s.link.pendingCommand.available && !dispatchingPending)) s.configuration
        v1DispatchLimits).1.action = .stop := stop
    dsimp only at action
    rw [granted] at action
    rcases action with none | ⟨queues, -⟩ | ⟨kind, -⟩
    · cases none
    · cases queues
    · refine ordinary rfl (classifyV1Command_stop ?_)
      cases classify :
        classifyV1Command command <;> rw [classify] at kind <;> first | rfl | cases kind

theorem negotiation_free (h : s.negotiation status command dispatchingPending = .discovery ∨
      s.negotiation status command dispatchingPending = .activate) :
    s.link.pendingCommand = .empty := by
  refine PendingCommand.empty_of_not_available ?_
  unfold negotiation dispatchV2Negotiation at h
  by_contra available
  have held : s.link.pendingCommand.available = true := by simpa using available
  simp only [held, Bool.or_true, if_true] at h
  split_ifs at h <;> exact h.elim nofun nofun

theorem empty_of_executed (ordinary : Ordinary status command)
    (h : s.lineFate status command false = .executed) : s.link.pendingCommand = .empty := by
  rcases handleV1Frame_of_executed ⟨0, 0, 0, 0⟩ h with discovery | activate |
    ⟨-, granted, -⟩
  · exact negotiation_free (.inl discovery)
  · exact negotiation_free (.inr activate)
  · refine PendingCommand.empty_of_not_available ?_
    by_contra available
    have held : (s.link.pendingCommand.available && !false) = true := by simpa using available
    cases status with
    | tooLong | invalid => cases granted
    | ready =>
      have refuses := @dispatchV1Command_held command (s.dispatchContext s.machineState.isRunning
        s.executionBusy (s.link.pendingCommand.available && !false)) s.configuration
        v1DispatchLimits held (ordinary rfl)
      exact absurd (granted.symm.trans refuses) nofun

theorem performV1_pending (result : V1DispatchResult) (t : Ticks)
    (queues : result.action ≠ .queuePending) (stop : result.action ≠ .stop) :
    (s.performV1 status command result t).link.pendingCommand = s.link.pendingCommand := by
  rw [performV1, if_neg queues]
  dsimp only
  refine (writeV1Output_pending _ _).trans ((applyV1Action_pending _ t stop).trans ?_)
  split_ifs <;> rfl

theorem handleV1Frame_pending (ordinary : Ordinary status command) (t : Ticks)
    (h : s.lineFate status command false ≠ .queued) :
    (s.handleV1Frame status command false t).link.pendingCommand = s.link.pendingCommand := by
  cases fate : s.lineFate status command false with
  | queued => exact absurd fate h
  | refused =>
    obtain ⟨response, -, eq⟩ := handleV1Frame_of_refused t fate
    rw [eq]
    rfl
  | discarded =>
    unfold lineFate at fate
    dsimp only at fate
    split at fate <;> (try split_ifs at fate) <;> cases fate
  | executed =>
    rcases handleV1Frame_of_executed t fate with discovery | activate | ⟨queues, -, eq⟩
    · unfold negotiation at discovery
      dsimp only [handleV1Frame]
      rw [discovery]
      rfl
    · have free := negotiation_free (.inr activate)
      unfold negotiation at activate
      dsimp only [handleV1Frame]
      rw [activate, free]
      rfl
    · rw [eq]
      exact performV1_pending _ t queues (v1Result_not_stop ordinary)

theorem handleV1Frame_mode (v1 : s.link.session.mode = .v1) (t : Ticks)
    (v2 : (s.handleV1Frame status command dispatchingPending t).link.session.mode = .v2) :
    s.negotiation status command dispatchingPending = .activate := by
  cases negotiation : s.negotiation status command dispatchingPending with
  | activate => rfl
  | notHandled =>
    obtain ⟨lines, -, same⟩ := s.handleV1Command_aside status command dispatchingPending t
    have mode : (s.handleV1Frame status command dispatchingPending t).link.session.mode =
        s.link.session.mode := by
      rw [handleV1Frame_eq t negotiation]
      exact congrArg Ledger.mode same
    rw [mode, v1] at v2
    cases v2
  | busy | discovery =>
    unfold State.negotiation at negotiation
    dsimp only [handleV1Frame] at v2
    rw [negotiation] at v2
    exact absurd (v1.symm.trans v2) nofun

end State

inductive Completed
  | nothing
  | stop
  | line (status : V1FrameStatus) (command : Bytes)
  deriving DecidableEq, Repr

def completed (s : State) (byte : UInt8) : Completed :=
  if (s.link.rawStopLineDetector.consume byte).2 then .stop
  else if s.link.session.mode = .v2 then .nothing
  else
    match s.link.commandParser.consume byte with
    | (_, .noFrame) => .nothing
    | (_, .frameOverflow) => .line .tooLong []
    | (_, .frameInvalid) => .line .invalid []
    | (parser, .frameReady) =>
      if parser.buffer = ascii "stop" then .stop else .line .ready parser.buffer

structure LineRecord where
  lines : List Bytes
  slot : Nat
  events : List (Nat × LineFate)
  deriving DecidableEq, Repr

namespace LineRecord

def empty : LineRecord := ⟨[], 0, []⟩

def note (r : LineRecord) (number : Nat) (fate : LineFate) : LineRecord :=
  { r with events := (number, fate) :: r.events }

def arrive (r : LineRecord) (command : Bytes) (fate : LineFate) : LineRecord where
  lines := r.lines ++ [command]
  slot := if fate = .queued then r.lines.length else r.slot
  events := (r.lines.length, fate) :: r.events

def observe (r : LineRecord) (s : State) : Routine → LineRecord
  | .serialByte byte _ =>
    match completed s byte with
    | .nothing => r
    | .stop => if s.link.pendingCommand.available then r.note r.slot .discarded else r
    | .line status command => r.arrive command (s.lineFate status command false)
  | .dispatchPending _ =>
    if s.link.session.mode = .v1 ∧ s.link.pendingCommand.available ∧ !s.executionBusy then
      r.note r.slot (s.lineFate .ready s.link.pendingCommand.frame true)
    else r
  | _ => r

/-- The record of a run. -/
def observeAll (s : State) (r : LineRecord) : List Routine → LineRecord
  | [] => r
  | routine :: routines => observeAll (exec s routine) (r.observe s routine) routines

/-- What has happened to one line, oldest first. -/
def history (r : LineRecord) (number : Nat) : List LineFate :=
  ((r.events.filter fun event => event.1 = number).map Prod.snd).reverse

/-- The executed lines, oldest first. -/
def executions (r : LineRecord) : List Nat :=
  ((r.events.filter fun event => event.2 = .executed).map Prod.fst).reverse

theorem history_cons (lines : List Bytes) (slot m n : Nat) (fate : LineFate)
    (events : List (Nat × LineFate)) :
    (⟨lines, slot, (m, fate) :: events⟩ : LineRecord).history n =
      (⟨lines, slot, events⟩ : LineRecord).history n ++ if m = n then [fate] else [] := by
  unfold history
  by_cases same : m = n
  · simp [same]
  · simp [same]

theorem executions_cons (lines : List Bytes) (slot m : Nat) (fate : LineFate)
    (events : List (Nat × LineFate)) :
    (⟨lines, slot, (m, fate) :: events⟩ : LineRecord).executions =
      (⟨lines, slot, events⟩ : LineRecord).executions ++
        if fate = .executed then [m] else [] := by
  unfold executions
  by_cases executed : fate = .executed
  · simp [executed]
  · simp [executed]

theorem executions_arrive (r : LineRecord) (command : Bytes) (fate : LineFate) :
    (r.arrive command fate).executions =
      r.executions ++ if fate = .executed then [r.lines.length] else [] :=
  executions_cons _ _ _ _ _

theorem executions_note (r : LineRecord) (number : Nat) (fate : LineFate) :
    (r.note number fate).executions =
      r.executions ++ if fate = .executed then [number] else [] :=
  executions_cons _ _ _ _ _

theorem mem_executions {r : LineRecord} {n : Nat} :
    n ∈ r.executions ↔ .executed ∈ r.history n := by
  simp only [executions, history, List.mem_reverse, List.mem_map, List.mem_filter,
    decide_eq_true_eq, Prod.exists]
  constructor
  · rintro ⟨m, fate, ⟨mem, executed⟩, same⟩
    exact ⟨m, fate, ⟨mem, same⟩, executed⟩
  · rintro ⟨m, fate, ⟨mem, same⟩, executed⟩
    exact ⟨m, fate, ⟨mem, executed⟩, same⟩

end LineRecord

/-- All that can happen to a line. -/
def lineHistories : List (List LineFate) :=
  [[.executed], [.refused], [.queued], [.queued, .executed], [.queued, .refused],
    [.queued, .discarded]]

/-- The record agrees with the slot, and has the executed lines in the order of their
arrival. -/
structure Orderly (p : PendingCommand) (r : LineRecord) : Prop where
  settled : ∀ n < r.lines.length, r.history n ∈ lineHistories
  fresh : ∀ n, r.lines.length ≤ n → r.history n = []
  waiting : ∀ n, r.history n = [.queued] ↔ p.available ∧ n = r.slot
  text : p.available → r.lines[r.slot]? = p.stored
  order : r.executions.Pairwise (· < ·)
  before : p.available → ∀ n ∈ r.executions, n < r.slot
  last : r.events.head?.map Prod.snd = some .executed → p = .empty

namespace Orderly

variable {p : PendingCommand} {r : LineRecord}

theorem empty : Orderly .empty .empty := by
  refine ⟨nofun, fun _ _ => rfl, fun n => ⟨nofun, fun h => nomatch h.1⟩, nofun,
    .nil, nofun, nofun⟩

theorem executed_lt (h : Orderly p r) {n : Nat} (mem : n ∈ r.executions) :
    n < r.lines.length := by
  by_contra fresh
  rw [LineRecord.mem_executions, h.fresh n (Nat.le_of_not_lt fresh)] at mem
  cases mem

theorem slot_lt (h : Orderly p r) (available : p.available) : r.slot < r.lines.length := by
  by_contra fresh
  have waits := (h.waiting r.slot).mpr ⟨available, rfl⟩
  rw [h.fresh r.slot (Nat.le_of_not_lt fresh)] at waits
  cases waits

theorem history_arrive (h : Orderly p r) (command : Bytes) (fate : LineFate) (n : Nat) :
    (r.arrive command fate).history n =
      if n = r.lines.length then [fate] else r.history n := by
  refine (LineRecord.history_cons _ _ _ _ _ _).trans ?_
  by_cases last : n = r.lines.length
  · have fresh := h.fresh n (Nat.le_of_eq last.symm)
    rw [if_pos last, if_pos last.symm]
    exact congrArg (· ++ [fate]) fresh
  · rw [if_neg last, if_neg (Ne.symm last), List.append_nil]
    rfl

theorem settled_arrive (h : Orderly p r) (command : Bytes) {fate : LineFate}
    (first : [fate] ∈ lineHistories) :
    (∀ n < (r.arrive command fate).lines.length,
        (r.arrive command fate).history n ∈ lineHistories) ∧
      ∀ n, (r.arrive command fate).lines.length ≤ n →
        (r.arrive command fate).history n = [] := by
  have length : (r.arrive command fate).lines.length = r.lines.length + 1 := by
    simp [LineRecord.arrive]
  rw [length]
  refine ⟨fun n lt => ?_, fun n le => ?_⟩ <;> rw [h.history_arrive]
  · split_ifs with last
    · exact first
    · exact h.settled n (by omega)
  · rw [if_neg (by omega)]
    exact h.fresh n (by omega)

theorem arrived (h : Orderly p r) (command : Bytes) {fate : LineFate}
    (now : fate = .executed ∨ fate = .refused) (free : fate = .executed → p = .empty) :
    Orderly p (r.arrive command fate) := by
  have answered : [fate] ∈ lineHistories ∧ fate ≠ .queued := by
    rcases now with rfl | rfl <;> decide
  have slot : (r.arrive command fate).slot = r.slot := if_neg answered.2
  obtain ⟨settled, fresh⟩ := h.settled_arrive command answered.1
  refine ⟨settled, fresh, fun n => ?_, fun available => ?_, ?_, fun available => ?_,
    fun executed => ?_⟩
  · rw [h.history_arrive, slot, ← h.waiting]
    split_ifs with last
    · rw [h.fresh n (Nat.le_of_eq last.symm)]
      exact ⟨fun same => absurd (List.cons.inj same).1 answered.2, nofun⟩
    · exact .rfl
  · rw [slot]
    exact (List.getElem?_append_left (h.slot_lt available)).trans (h.text available)
  · rw [LineRecord.executions_arrive]
    split_ifs
    · refine List.pairwise_append.mpr ⟨h.order, List.pairwise_singleton _ _, ?_⟩
      intro m mem n last
      rw [List.mem_singleton.mp last]
      exact h.executed_lt mem
    · rw [List.append_nil]
      exact h.order
  · have unexecuted : fate ≠ .executed := fun executed => by
      rw [free executed] at available
      cases available
    rw [LineRecord.executions_arrive, if_neg unexecuted, List.append_nil, slot]
    exact h.before available
  · exact free (Option.some.inj executed)

theorem queued (h : Orderly .empty r) (command : Bytes) :
    Orderly ⟨some command⟩ (r.arrive command .queued) := by
  have executions : (r.arrive command .queued).executions = r.executions := by
    rw [LineRecord.executions_arrive, if_neg nofun, List.append_nil]
  obtain ⟨settled, fresh⟩ := @settled_arrive _ _ h command .queued (by decide)
  refine ⟨settled, fresh, fun n => ?_, fun _ => ?_, ?_, fun _ n mem => ?_, nofun⟩
  · rw [h.history_arrive]
    split_ifs with last
    · exact ⟨fun _ => ⟨rfl, last⟩, fun _ => rfl⟩
    · refine ⟨fun waits => ?_, fun same => absurd same.2 last⟩
      cases ((h.waiting n).mp waits).1
  · exact (List.getElem?_append_right (Nat.le_refl _)).trans (by simp)
  · rw [executions]
    exact h.order
  · rw [executions] at mem
    exact h.executed_lt mem

theorem served (h : Orderly p r) (available : p.available) {fate : LineFate}
    (now : fate = .executed ∨ fate = .refused ∨ fate = .discarded) :
    Orderly .empty (r.note r.slot fate) := by
  have waits := (h.waiting r.slot).mpr ⟨available, rfl⟩
  have history (n : Nat) : (r.note r.slot fate).history n =
      if n = r.slot then [.queued, fate] else r.history n := by
    refine (LineRecord.history_cons _ _ _ _ _ _).trans ?_
    by_cases here : n = r.slot
    · rw [if_pos here, if_pos here.symm, here]
      exact congrArg (· ++ [fate]) waits
    · rw [if_neg here, if_neg (Ne.symm here), List.append_nil]
  have answered : [.queued, fate] ∈ lineHistories := by
    rcases now with rfl | rfl | rfl <;> decide
  refine ⟨fun n lt => ?_, fun n le => ?_, fun n => ?_, nofun, ?_, nofun, fun _ => rfl⟩
  · rw [history]
    split_ifs
    · exact answered
    · exact h.settled n lt
  · have lt := h.slot_lt available
    rw [history, if_neg (fun here => by subst here; exact absurd lt (Nat.not_lt_of_le le))]
    exact h.fresh n le
  · rw [history]
    split_ifs with here
    · exact ⟨nofun, fun free => nomatch free.1⟩
    · exact ⟨fun waits => absurd ((h.waiting n).mp waits).2 here, fun free => nomatch free.1⟩
  · rw [LineRecord.executions_note]
    split_ifs
    · refine List.pairwise_append.mpr ⟨h.order, List.pairwise_singleton _ _, ?_⟩
      intro m mem n last
      rw [List.mem_singleton.mp last]
      exact h.before available m mem
    · rw [List.append_nil]
      exact h.order

end Orderly

/-- Version 2 has no pending line. -/
structure Slotted (s : State) : Prop where
  sound : s.ledger.Sound
  empty : s.link.session.mode = .v2 → s.link.pendingCommand = .empty

theorem Exchange.mode_of_nothing {a b : Ledger} {lines : List Emission}
    (x : Exchange a .nothing lines b) : b.mode = a.mode := by
  cases x <;> rfl

namespace State

variable {s : State}

theorem lineFate_not_discarded (s : State) (status : V1FrameStatus) (command : Bytes)
    (dispatchingPending : Bool) : s.lineFate status command dispatchingPending ≠ .discarded := by
  unfold lineFate
  dsimp only
  split <;> (try split_ifs) <;> exact nofun

theorem lineFate_not_queued {command : Bytes} {status : V1FrameStatus}
    (idle : s.executionBusy = false) : s.lineFate status command true ≠ .queued := by
  unfold lineFate
  dsimp only
  split
  · exact nofun
  · exact nofun
  · exact nofun
  · split_ifs with queues
    · cases status with
      | tooLong | invalid => cases queues
      | ready =>
        have action := dispatchV1Command_action command (s.dispatchContext
          s.machineState.isRunning s.executionBusy (s.link.pendingCommand.available && !true))
          s.configuration v1DispatchLimits
        have granted : (dispatchV1Command command (s.dispatchContext s.machineState.isRunning
            s.executionBusy (s.link.pendingCommand.available && !true)) s.configuration
            v1DispatchLimits).1.action = .queuePending := queues
        dsimp only at action
        rw [granted] at action
        rcases action with none | ⟨-, busy⟩ | ⟨kind, -⟩
        · cases none
        · exact absurd (idle.symm.trans busy) nofun
        · cases classify : classifyV1Command command <;> rw [classify] at kind <;> cases kind
    · exact nofun
    · exact nofun
    · exact nofun

theorem handleV1Frame_stopped (s : State) (t : Ticks) :
    (s.handleV1Frame .ready (ascii "stop") false t).link.pendingCommand = .empty := by
  have negotiation : s.negotiation .ready (ascii "stop") false = .notHandled := by
    have plain : ∀ busy pending,
        dispatchV2Negotiation (ascii "stop") busy pending = .notHandled := by decide
    exact plain s.executionBusy s.link.pendingCommand.available
  have dispatched : s.v1Result .ready (ascii "stop") false =
      (⟨.stop, .response, .stopped, 0⟩, s.configuration) := by
    have short : ¬ commandMaxLength < (ascii "stop").length := by decide
    have plain : (ascii "stop").contains 0 = false := by decide
    have kind : classifyV1Command (ascii "stop") = .stop := by decide
    simp only [v1Result, dispatchV1Frame, dispatchV1Command, short, plain, kind, if_false, if_true,
      Bool.false_eq_true]
  rw [handleV1Frame_eq t negotiation, dispatched, performV1, if_neg (by rintro ⟨⟩)]
  exact writeV1Output_pending _ _

end State

/-- The state in which `handleV1Frame` gets the line the byte completes. -/
def framed (s : State) (byte : UInt8) : State :=
  (s.setRawStopLineDetector (s.link.rawStopLineDetector.consume byte).1).setCommandParser
    (s.link.commandParser.consume byte).1

theorem serialByte_slot {s : State} (slotted : Slotted s) (byte : UInt8) (t : Ticks) :
    match completed s byte with
    | .nothing => (s.serialByte byte t).link.pendingCommand = s.link.pendingCommand ∧
      (s.link.session.mode = .v2 ∨ (s.serialByte byte t).link.session.mode = .v1)
    | .stop => (s.serialByte byte t).link.pendingCommand = .empty
    | .line status command => State.Ordinary status command ∧ s.link.session.mode = .v1 ∧
      (s.serialByte byte t).link.pendingCommand =
        ((framed s byte).handleV1Frame status command false t).link.pendingCommand ∧
      (s.serialByte byte t).link.session.mode =
        ((framed s byte).handleV1Frame status command false t).link.session.mode := by
  by_cases raw : (s.link.rawStopLineDetector.consume byte).2 = true
  · have stop : completed s byte = .stop := if_pos raw
    simp only [stop, State.serialByte, raw, if_true]
    exact State.handleRawStop_pending _
  by_cases v2 : s.link.session.mode = .v2
  · have nothing : completed s byte = .nothing := by rw [completed, if_neg raw, if_pos v2]
    have eq : s.serialByte byte t = State.consumeV2
        (s.setRawStopLineDetector (s.link.rawStopLineDetector.consume byte).1) byte t :=
      (if_neg raw).trans (if_pos v2)
    simp only [nothing, eq]
    rcases State.consumeV2_unfilled
      (s.setRawStopLineDetector (s.link.rawStopLineDetector.consume byte).1) byte t with same |
        cleared
    · exact ⟨same, .inl v2⟩
    · exact ⟨cleared.trans (slotted.empty v2).symm, .inl v2⟩
  · have v1 : s.link.session.mode = .v1 := by
      cases mode : s.link.session.mode with
      | v1 => rfl
      | v2 => exact absurd mode v2
    have eq : s.serialByte byte t = State.consumeV1
        (s.setRawStopLineDetector (s.link.rawStopLineDetector.consume byte).1) byte t :=
      (if_neg raw).trans (if_neg v2)
    rw [completed, if_neg raw, if_neg v2, eq]
    simp only [State.consumeV1, State.setRawStopLineDetector, framed]
    rcases s.link.commandParser.consume byte with ⟨parser, result⟩
    cases result with
    | noFrame => exact ⟨rfl, .inr v1⟩
    | frameOverflow => exact ⟨by rintro ⟨⟩, v1, rfl, rfl⟩
    | frameInvalid => exact ⟨by rintro ⟨⟩, v1, rfl, rfl⟩
    | frameReady =>
      dsimp only
      split_ifs with stop
      · rw [stop]
        exact State.handleV1Frame_stopped (State.setCommandParser
          (s.setRawStopLineDetector (s.link.rawStopLineDetector.consume byte).1) parser) t
      · exact ⟨fun _ => stop, v1, rfl, rfl⟩

theorem Orderly.serialByte {s : State} {r : LineRecord} (slotted : Slotted s)
    (h : Orderly s.link.pendingCommand r) (byte : UInt8) (t : Ticks) :
    Orderly (s.serialByte byte t).link.pendingCommand (r.observe s (.serialByte byte t)) := by
  have slot := serialByte_slot slotted byte t
  dsimp only [LineRecord.observe]
  cases line : completed s byte with
  | nothing =>
    rw [line] at slot
    rw [slot.1]
    exact h
  | stop =>
    rw [line] at slot
    rw [slot]
    dsimp only
    split_ifs with available
    · exact h.served available (.inr (.inr rfl))
    · exact PendingCommand.empty_of_not_available (by simpa using available) ▸ h
  | line status command =>
    rw [line] at slot
    obtain ⟨ordinary, -, slot, -⟩ := slot
    rw [slot]
    have same : (framed s byte).lineFate status command false = s.lineFate status command false :=
      rfl
    dsimp only
    cases fate : s.lineFate status command false with
    | queued =>
      obtain ⟨free, eq⟩ := State.handleV1Frame_of_queued t (same.trans fate)
      rw [eq]
      have empty : Orderly .empty r := free ▸ h
      exact empty.queued command
    | discarded => exact absurd fate (s.lineFate_not_discarded _ _ _)
    | executed =>
      rw [State.handleV1Frame_pending ordinary t (by rw [same, fate]; exact nofun)]
      exact h.arrived command (.inl rfl) fun _ => State.empty_of_executed ordinary fate
    | refused =>
      rw [State.handleV1Frame_pending ordinary t (by rw [same, fate]; exact nofun)]
      exact h.arrived command (.inr rfl) nofun

theorem Slotted.exec {s : State} (h : Slotted s) (routine : Routine) :
    Slotted (exec s routine) := by
  obtain ⟨lines, exchange⟩ := exec_exchange h.sound routine
  refine ⟨sound_exchange exchange h.sound, fun v2 => ?_⟩
  have motion (quiet : handled s routine = .nothing)
      (same : (Firmware.exec s routine).link.pendingCommand = s.link.pendingCommand) :
      (Firmware.exec s routine).link.pendingCommand = .empty := by
    rw [quiet] at exchange
    rw [same]
    exact h.empty (exchange.mode_of_nothing.symm.trans v2)
  cases routine with
  | serialByte byte t =>
    have slot := serialByte_slot h byte t
    cases line : completed s byte with
    | nothing =>
      rw [line] at slot
      rcases slot.2 with was | now
      · exact slot.1.trans (h.empty was)
      · exact absurd (now.symm.trans v2) nofun
    | stop =>
      rw [line] at slot
      exact slot
    | line status command =>
      rw [line] at slot
      obtain ⟨ordinary, v1, slot, mode⟩ := slot
      have activate := @State.handleV1Frame_mode (framed s byte) status command false v1 t
        (mode.symm.trans v2)
      have free := State.negotiation_free (.inr activate)
      have unqueued : (framed s byte).lineFate status command false ≠ .queued := by
        rw [State.lineFate, activate]
        exact nofun
      exact slot.trans ((State.handleV1Frame_pending ordinary t unqueued).trans free)
  | dispatchPending t =>
    dsimp only [Firmware.exec, State.dispatchPending] at v2 ⊢
    split_ifs at v2 ⊢
    · rfl
    · exact h.empty v2
  | _ =>
    exact motion rfl (exec_pending s _ (fun _ _ same => by cases same) fun _ same => by cases same)

theorem Orderly.exec {s : State} {r : LineRecord} (slotted : Slotted s)
    (h : Orderly s.link.pendingCommand r) (routine : Routine) :
    Orderly (exec s routine).link.pendingCommand (r.observe s routine) := by
  cases routine with
  | serialByte byte t => exact h.serialByte slotted byte t
  | dispatchPending t =>
    dsimp only [Firmware.exec, State.dispatchPending, LineRecord.observe]
    split_ifs with ready
    · refine h.served ready.2.1 ?_
      have idle : s.executionBusy = false := by simpa using ready.2.2
      cases fate : s.lineFate .ready s.link.pendingCommand.frame true with
      | queued => exact absurd fate (State.lineFate_not_queued idle)
      | discarded => exact absurd fate (s.lineFate_not_discarded _ _ _)
      | executed => exact .inl rfl
      | refused => exact .inr (.inl rfl)
    · exact h
  | _ =>
    rw [exec_pending s _ (fun _ _ same => by cases same) fun _ same => by cases same]
    exact h

theorem Orderly.observeAll {s : State} {r : LineRecord} (slotted : Slotted s)
    (h : Orderly s.link.pendingCommand r) (routines : List Routine) :
    Orderly (execAll s routines).link.pendingCommand (r.observeAll s routines) := by
  induction routines generalizing s r with
  | nil => exact h
  | cons routine routines ih => exact ih (slotted.exec routine) (h.exec slotted routine)

/-- In every run each line is executed once, refused, discarded while pending, or pending; the
executed lines are so in the order they arrived, and no older line is pending just after. -/
theorem v1_commands_inOrder (now : UInt32) (routines : List Routine) :
    let s := execAll (boot now) routines
    let r := LineRecord.empty.observeAll (boot now) routines
    (∀ n < r.lines.length, r.history n ∈ lineHistories) ∧
    (∀ m n, r.history m = [.queued] → r.history n = [.queued] → m = n) ∧
    r.executions.Pairwise (· < ·) ∧
    (r.events.head?.map Prod.snd = some .executed → ∀ n, r.history n ≠ [.queued]) ∧
    (s.link.pendingCommand.available → r.lines[r.slot]? = s.link.pendingCommand.stored) ∧
    ∀ status command dispatchingPending t,
      s.lineFate status command dispatchingPending = .refused →
        ∃ response : V1Response, response.isError ∧
          s.handleV1Frame status command dispatchingPending t = s.emit (.v1 response) := by
  intro s r
  have booted : Slotted (boot now) := ⟨sound_boot now, nofun⟩
  have h : Orderly s.link.pendingCommand r := Orderly.empty.observeAll booted routines
  refine ⟨h.settled, fun m n first second => ?_, h.order, fun executed n waits => ?_, h.text,
    fun _ _ _ t refused => State.handleV1Frame_of_refused t refused⟩
  · exact ((h.waiting m).mp first).2.trans ((h.waiting n).mp second).2.symm
  · have pending := ((h.waiting n).mp waits).1
    rw [h.last executed] at pending
    cases pending

def lateInputs : List LoopInput :=
  [iteration "stop\nfeedhomingoffset:0\nhomefeeder\nfeedspeed:0\n" true false, silence]

/-- A pending line can be refused when its turn comes. -/
theorem v1_commands_refusedLate :
    ¬ ∀ (now : UInt32) (inputs : List LoopInput) (calls : Nat),
      let r := LineRecord.empty.observeAll (boot now) (sketchRun inputs calls)
      ∀ n < r.lines.length, r.history n ∈
        [[.executed], [.refused], [.queued], [.queued, .executed], [.queued, .discarded]] := by
  intro promised
  have late := promised 0 lateInputs (callCount lateInputs) 2
  revert late
  decide +kernel

end CaseSorter.Firmware
