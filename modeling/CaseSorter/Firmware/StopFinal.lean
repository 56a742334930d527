import CaseSorter.Firmware.RequestTerminals
import CaseSorter.Firmware.PendingSlot

/-! A stop is final until the axis is homed again. The stop leaves an idle machine that
knows neither position; from there an axis makes no step until a command that homes it
has been acknowledged, whatever else the host asks for. -/

namespace CaseSorter.Firmware

open Runs

def homeLine : MachineAxis → Bytes
  | .feeder => ascii "homefeeder"
  | .sorter => ascii "homesorter"

/-- The line homes the axis; only protocol v2 has `homeall`. -/
def homes (axis : MachineAxis) : Handled → Bool
  | .v1Line command => command = homeLine axis
  | .v2Request envelope => envelope.payload = homeLine axis || envelope.payload = ascii "homeall"
  | .nothing | .rawStop => false

/-- The line takes a command on: `ok` in v1, `accepted` in v2. -/
def takesOn : Emission → Bool
  | .v1 .ok => true
  | .response line => line.kind = .accepted
  | _ => false

/-- Lines have been said since `s`, and the newest takes a command on. -/
def acknowledged (s t : State) : Bool :=
  s.link.output.length < t.link.output.length && t.link.output.head?.any takesOn

def acceptsHoming (axis : MachineAxis) (s : State) (routine : Routine) : Bool :=
  homes axis (handled s routine) && acknowledged s (exec s routine)

theorem acknowledged_of_said {s t : State} {line : Emission} {older : List Emission}
    (said : t.link.output = line :: older) (kept : s.link.output.length ≤ older.length)
    (takes : takesOn line = true) : acknowledged s t = true := by
  have longer : s.link.output.length < older.length + 1 := Nat.lt_succ_of_le kept
  simp [acknowledged, longer, said, takes]

theorem acknowledged_earlier {r s t : State} (h : acknowledged s t = true)
    (kept : r.link.output.length ≤ s.link.output.length) : acknowledged r t = true := by
  simp only [acknowledged, Bool.and_eq_true, decide_eq_true_eq] at h ⊢
  exact ⟨Nat.lt_of_le_of_lt kept h.1, h.2⟩

def Recovering (axis : MachineAxis) (s : State) : Prop :=
  (s.machineState.axis axis).recoveryInProgress = true ∨
    (axis = .sorter ∧ s.link.physicalRequestTracker.active = true ∧
      s.link.physicalRequestTracker.operationField = .homeAll)

def Unbegun (axis : MachineAxis) (s t : State) : Prop := Recovering axis t → Recovering axis s

theorem Unbegun.trans {axis : MachineAxis} {s t u : State} (h : Unbegun axis s t)
    (h' : Unbegun axis t u) : Unbegun axis s u := fun recovering => h (h' recovering)

theorem unbegun_of_eq {axis : MachineAxis} {s t : State} (machine : t.machineState = s.machineState)
    (tracker : t.link.physicalRequestTracker = s.link.physicalRequestTracker) :
    Unbegun axis s t := by
  intro recovering
  rw [Recovering, machine, tracker] at recovering
  exact recovering

theorem LinkOnly.unbegun {axis : MachineAxis} {s t : State} (h : LinkOnly s t) : Unbegun axis s t :=
  unbegun_of_eq h.machineState h.tracker

theorem Stopped.unbegun {axis : MachineAxis} {s t : State} (h : Stopped s t) :
    Unbegun axis s t := by
  rintro (recovering | ⟨rfl, active, all⟩)
  · rw [h.machine] at recovering
    cases axis <;> cases recovering
  · obtain ⟨-, same⟩ | inactive := h.tracker
    · rw [same] at active all
      exact .inr ⟨rfl, active, all⟩
    · rw [inactive] at active
      cases active

namespace State

theorem scheduleRun_tracker (s : State) (t : Ticks) :
    (s.scheduleRun t).link.physicalRequestTracker = s.link.physicalRequestTracker := by
  dsimp only [scheduleRun]
  split_ifs <;> rfl

theorem queueFeed_tracker (s : State) (position : Int) (t : Ticks) :
    (s.queueFeed position t).link.physicalRequestTracker = s.link.physicalRequestTracker := by
  refine (scheduleRun_tracker _ t).trans ?_
  dsimp only [scheduleFeed, moveSorterToNextPosition]
  split_ifs <;> rfl

theorem applyV1Action_tracker (s : State) (result : V1DispatchResult) (t : Ticks) :
    (s.applyV1Action result t).link.physicalRequestTracker = s.link.physicalRequestTracker := by
  unfold applyV1Action
  split
  case h_4 => exact queueFeed_tracker _ _ t
  case h_5 => exact queueFeed_tracker _ _ t
  all_goals rfl

def homeAction : MachineAxis → V1Action
  | .feeder => .homeFeeder
  | .sorter => .homeSorter

theorem applyV1Action_unbegun {axis : MachineAxis} (s : State) {result : V1DispatchResult}
    (t : Ticks) (other : result.action ≠ homeAction axis) :
    Unbegun axis s (s.applyV1Action result t) := by
  rintro (recovering | ⟨rfl, active, all⟩)
  · refine .inl ?_
    unfold applyV1Action at recovering
    split at recovering
    case h_1 =>
      cases axis <;> cases recovering
    case h_2 action =>
      cases axis with
      | feeder => exact absurd action other
      | sorter => exact recovering
    case h_3 action =>
      cases axis with
      | feeder => exact recovering
      | sorter => exact absurd action other
    case h_4 =>
      rw [queueFeed_machineState] at recovering
      exact recovering
    case h_5 =>
      rw [queueFeed_machineState] at recovering
      exact recovering
    all_goals exact recovering
  · rw [applyV1Action_tracker] at active all
    exact .inr ⟨rfl, active, all⟩

variable {axis : MachineAxis}

theorem handleV2Stop_unbegun (s : State) (requestId : Nat) :
    Unbegun axis s (s.handleV2Stop requestId) := by
  unfold handleV2Stop
  split_ifs
  · exact (s.emitV2DuplicateId_linkOnly requestId).unbegun
  · have stop : Stopped s ((s.setTracker s.link.physicalRequestTracker.cancel).setLifecycle
        s.link.session.lifecycle.cancel).enterStoppedState := ⟨rfl, rfl, .inr rfl, rfl⟩
    dsimp only
    refine Unbegun.trans ?_
      ((emitV2StateIfChanged_linkOnly _).trans (respond_linkOnly _ _ _ _)).unbegun
    split_ifs
    · exact stop.unbegun.trans (respond_linkOnly _ _ _ _).unbegun
    · exact stop.unbegun

theorem handleV2ProtocolOne_unbegun (s : State) (requestId : Nat) :
    Unbegun axis s (s.handleV2ProtocolOne requestId) := by
  unfold handleV2ProtocolOne
  split_ifs
  · exact (s.emitV2Busy_linkOnly 0 0).unbegun
  · split
    case h_1 refusal h => exact (refuseV2Request_some h).unbegun
    case h_2 h =>
      have begun := s.beginV2Immediate_linkOnly requestId
      have ended := begun.trans
        (emitV2Terminal_linkOnly _ requestId .done [("protocol", "1")])
      dsimp only
      split_ifs
      · exact begun.unbegun
      · exact ended.unbegun
      · exact unbegun_of_eq ended.machineState ended.tracker

theorem setter_homeAction {payload : Bytes} {context : V1DispatchContext} {c : Configuration}
    (setter : v1CommandIsSetter (classifyV1Command payload) = true) :
    (dispatchV1Command payload context c v1DispatchLimits).1.action ≠ homeAction axis := by
  have action := dispatchV1Command_action payload context c v1DispatchLimits
  rcases action with action | ⟨action, -⟩ | ⟨action, -⟩
  · rw [action]
    cases axis <;> decide
  · rw [action]
    cases axis <;> decide
  · rw [action]
    generalize classifyV1Command payload = kind at setter
    cases kind <;> first | (cases axis <;> decide) | cases setter

theorem handleV2Setter_unbegun (s : State) (requestId : Nat) (payload : Bytes) (t : Ticks)
    (setter : v1CommandIsSetter (classifyV1Command payload) = true) :
    Unbegun axis s (s.handleV2Setter requestId payload (classifyV1Command payload) t) := by
  dsimp only [handleV2Setter]
  have begun : LinkOnly s (s.beginV2Setter requestId).1 := by
    unfold beginV2Setter
    split
    case h_1 refusal h => exact refuseV2Request_some h
    case h_2 => exact s.beginV2Active_linkOnly requestId
  split_ifs
  · refine begun.unbegun.trans ?_
    generalize (s.beginV2Setter requestId).1 = u
    dsimp only [applyV2Setter]
    generalize dispatched : dispatchV1Command payload _ u.configuration v1DispatchLimits = outcome
    have other : outcome.1.action ≠ homeAction axis := by
      rw [← dispatched]
      exact setter_homeAction setter
    have stored : Unbegun axis u (u.setConfiguration outcome.2) := unbegun_of_eq rfl rfl
    split_ifs
    · exact stored.trans (emitV2SetterError_linkOnly _ _ _ _).unbegun
    · refine stored.trans ((applyV1Action_unbegun _ t other).trans ?_)
      exact ((advanceConfigGeneration_linkOnly _).trans (emitV2SetterDone_linkOnly _ _ _)).unbegun
  · exact begun.unbegun

def CarriesOut (axis : MachineAxis) (operation : PhysicalRequestOperation)
    (result : V1DispatchResult) : Prop :=
  result.action = homeAction axis ∨ (axis = .sorter ∧ operation = .homeAll)

theorem acceptV2PhysicalRequest_begins (s : State) (requestId : Nat)
    (operation : PhysicalRequestOperation) {result : V1DispatchResult} (t : Ticks)
    (quiet : result.action ≠ .queueFeed) (forced : result.action ≠ .queueForcedFeed) :
    Unbegun axis s (s.acceptV2PhysicalRequest requestId operation result t) ∨
      (CarriesOut axis operation result ∧
        acknowledged s (s.acceptV2PhysicalRequest requestId operation result t) = true) := by
  dsimp only [acceptV2PhysicalRequest]
  generalize (if operation = .sortTo then "sort" else "home" : String) = name
  rcases begin_eq (s.respond requestId .accepted [("operation", name)]).link.physicalRequestTracker
    requestId operation result.value with refused | begun
  · rw [refused, if_neg Bool.false_ne_true]
    exact .inl ((s.respond_linkOnly _ _ _).trans (emitV2Terminal_linkOnly _ _ _ _)).unbegun
  · rw [begun, if_pos rfl]
    by_cases carries : CarriesOut axis operation result
    · refine .inr ⟨carries, ?_⟩
      have output := congrArg Ledger.output (applyV1Action_ledger
        ((s.respond requestId .accepted [("operation", name)]).setTracker
          ⟨true, requestId, operation, result.value, false, .idle⟩) t quiet forced)
      simp only [ledger] at output
      exact acknowledged_of_said output (Nat.le_refl _) rfl
    · simp only [CarriesOut, not_or, not_and] at carries
      refine .inl (Unbegun.trans ?_ (applyV1Action_unbegun _ t carries.1))
      rintro (recovering | ⟨rfl, active, all⟩)
      · exact .inl recovering
      · exact absurd all (carries.2 rfl)

theorem beginV2Active_output (s : State) (requestId : Nat) :
    s.link.output.length ≤ (s.beginV2Active requestId).1.link.output.length := by
  unfold beginV2Active
  dsimp only
  split
  · exact Nat.le_succ _
  · exact Nat.le_succ _
  · exact Nat.le_refl _

theorem beginV2PhysicalRequest_begins (s : State) (requestId : Nat) (payload : Bytes)
    (operation : PhysicalRequestOperation) (command : V1Command)
    (physical : physicalCommand (classifyV1Command payload) = true) (t : Ticks) :
    Unbegun axis s (s.beginV2PhysicalRequest requestId payload operation command t) ∨
      (((classifyV1Command payload).action = homeAction axis ∨
          (axis = .sorter ∧ operation = .homeAll)) ∧
        acknowledged s (s.beginV2PhysicalRequest requestId payload operation command t) =
          true) := by
  unfold beginV2PhysicalRequest
  split
  case h_1 refusal h => exact .inl (refuseV2Request_some h).unbegun
  case h_2 =>
    dsimp only
    generalize dispatched : dispatchV1Command payload _ s.configuration v1DispatchLimits = outcome
    obtain ⟨quiet, forced⟩ : outcome.1.action ≠ .queueFeed ∧
        outcome.1.action ≠ .queueForcedFeed := by
      rw [← dispatched]
      exact physical_action physical
    have homing : outcome.1.action = homeAction axis →
        (classifyV1Command payload).action = homeAction axis := by
      intro homing
      rw [← dispatched] at homing
      rcases dispatchV1Command_action payload _ s.configuration v1DispatchLimits with
        action | ⟨action, -⟩ | ⟨action, -⟩
      · rw [action] at homing
        cases axis <;> cases homing
      · rw [action] at homing
        cases axis <;> cases homing
      · exact action.symm.trans homing
    have stored : Unbegun axis s (s.setConfiguration outcome.2) := unbegun_of_eq rfl rfl
    have begun := (s.setConfiguration outcome.2).beginV2Active_linkOnly requestId
    dsimp only [startV2PhysicalRequest]
    split_ifs
    · exact .inl (stored.trans begun.unbegun)
    · exact .inl (stored.trans (begun.trans (emitV2Terminal_linkOnly _ _ _ _)).unbegun)
    · exact .inl (stored.trans (begun.trans (emitV2Terminal_linkOnly _ _ _ _)).unbegun)
    · obtain rest | ⟨carries, accepted⟩ := @acceptV2PhysicalRequest_begins axis
        ((s.setConfiguration outcome.2).beginV2Active requestId).1 requestId operation
          _ t quiet forced
      · exact .inl (stored.trans (begun.unbegun.trans rest))
      · exact .inr ⟨carries.imp_left homing, acknowledged_earlier accepted
          (beginV2Active_output (s.setConfiguration outcome.2) requestId)⟩

theorem homeLine_of_action {command : Bytes}
    (homing : (classifyV1Command command).action = homeAction axis) : command = homeLine axis := by
  have exact : ∀ entry ∈ v1ExactCommands, entry.2.action = homeAction axis →
    entry.1 = homeLine axis := by
    cases axis <;> decide
  have prefixed : ∀ entry ∈ v1PrefixedCommands, entry.2.action ≠ homeAction axis := by
    cases axis <;> decide
  unfold classifyV1Command at homing
  split_ifs at homing with numeric
  · cases axis <;> cases homing
  · split at homing
    · rename_i word kind found
      have same := List.find?_some found
      rw [decide_eq_true_eq] at same
      exact same.trans (exact _ (List.mem_of_find?_eq_some found) homing)
    · split at homing
      · rename_i word kind found
        exact absurd homing (prefixed _ (List.mem_of_find?_eq_some found))
      · cases axis <;> cases homing

theorem handleV2Request_begins (s : State) (requestId : Nat) (payload : Bytes) (t : Ticks) :
    Unbegun axis s (s.handleV2Request requestId payload t) ∨
      ((payload = homeLine axis ∨ payload = ascii "homeall") ∧
        acknowledged s (s.handleV2Request requestId payload t) = true) := by
  unfold handleV2Request
  dsimp only
  split_ifs with stop one config begun setter all feeder sorter sortTo
  · exact .inl (s.handleV2Stop_unbegun requestId)
  · exact .inl (s.handleV2ProtocolOne_unbegun requestId)
  · exact .inl ((s.beginV2Immediate_linkOnly requestId).trans
      (emitV2Configuration_linkOnly _ _)).unbegun
  · exact .inl (s.beginV2Immediate_linkOnly requestId).unbegun
  · exact .inl (s.handleV2Setter_unbegun requestId payload t setter)
  · refine (s.beginV2PhysicalRequest_begins requestId (ascii "homefeeder") .homeAll .homeFeeder
      (by decide) t).imp_right ?_
    exact fun ⟨_, accepted⟩ => ⟨.inr all, accepted⟩
  · obtain kept | ⟨homing | ⟨_, all⟩, accepted⟩ := @beginV2PhysicalRequest_begins axis
      s requestId payload .homeFeeder _ (by rw [feeder]; rfl) t
    · exact .inl kept
    · exact .inr ⟨.inl (homeLine_of_action homing), accepted⟩
    · cases all
  · obtain kept | ⟨homing | ⟨_, all⟩, accepted⟩ := @beginV2PhysicalRequest_begins axis
      s requestId payload .homeSorter _ (by rw [sorter]; rfl) t
    · exact .inl kept
    · exact .inr ⟨.inl (homeLine_of_action homing), accepted⟩
    · cases all
  · obtain kept | ⟨homing | ⟨_, all⟩, accepted⟩ := @beginV2PhysicalRequest_begins axis
      s requestId payload .sortTo _ (by rw [sortTo]; rfl) t
    · exact .inl kept
    · exact .inr ⟨.inl (homeLine_of_action homing), accepted⟩
    · cases all
  · exact .inl (s.handleV2Immediate_linkOnly requestId payload t).unbegun

theorem dispatchV1Command_home {command : Bytes} {context : V1DispatchContext} {c : Configuration}
    (homing : (dispatchV1Command command context c v1DispatchLimits).1.action = homeAction axis) :
    command = homeLine axis ∧
      (dispatchV1Command command context c v1DispatchLimits).1.output = .response ∧
      (dispatchV1Command command context c v1DispatchLimits).1.response = .ok := by
  have line : command = homeLine axis := by
    rcases dispatchV1Command_action command context c v1DispatchLimits with
      action | ⟨action, -⟩ | ⟨action, -⟩
    · rw [action] at homing
      cases axis <;> cases homing
    · rw [action] at homing
      cases axis <;> cases homing
    · exact homeLine_of_action (action.symm.trans homing)
  have kind : classifyV1Command (homeLine axis) = .homeFeeder ∨
      classifyV1Command (homeLine axis) = .homeSorter := by
    cases axis <;> decide
  refine ⟨line, ?_⟩
  rw [line] at homing ⊢
  unfold dispatchV1Command at homing ⊢
  dsimp only at homing ⊢
  split_ifs at homing ⊢
  all_goals first
    | (cases axis <;> cases homing; done)
    | (obtain kind | kind := kind <;> rw [kind] <;> exact ⟨rfl, rfl⟩)

theorem applyV1Action_output (s : State) {result : V1DispatchResult} (t : Ticks)
    (homing : result.action = homeAction axis) :
    (s.applyV1Action result t).link.output = s.link.output := by
  unfold applyV1Action
  rw [homing]
  cases axis <;> rfl

theorem performV1_acknowledged (s : State) (status : V1FrameStatus) (command : Bytes)
    {result : V1DispatchResult} (t : Ticks) (homing : result.action = homeAction axis)
    (output : result.output = .response) (ok : result.response = .ok) :
    acknowledged s (s.performV1 status command result t) = true := by
  have waiting : result.action ≠ .queuePending := by
    rw [homing]
    cases axis <;> decide
  have said : ∀ u : State, ((u.applyV1Action result t).writeV1Output result).link.output =
      .v1 .ok :: u.link.output := by
    intro u
    rw [writeV1Output, output]
    dsimp only [emit]
    rw [ok, applyV1Action_output u t homing]
  unfold performV1
  rw [if_neg waiting]
  dsimp only
  split_ifs
  · exact acknowledged_of_said (said _) (Nat.le_refl _) rfl
  · exact acknowledged_of_said (said _) (Nat.le_refl _) rfl

theorem performV1_begins (s : State) (status : V1FrameStatus) (command : Bytes)
    {result : V1DispatchResult} (t : Ticks)
    (response : result.action = homeAction axis → result.output = .response ∧
      result.response = .ok) :
    Unbegun axis s (s.performV1 status command result t) ∨
      (result.action = homeAction axis ∧
        acknowledged s (s.performV1 status command result t) = true) := by
  by_cases waiting : result.action = .queuePending
  · exact .inl (s.performV1_queuePending status command result t waiting).unbegun
  · by_cases homing : result.action = homeAction axis
    · obtain ⟨output, ok⟩ := response homing
      exact .inr ⟨homing, performV1_acknowledged s status command t homing output ok⟩
    obtain ⟨u, same, eq⟩ := s.performV1_eq status command result t waiting
    rw [eq]
    · exact .inl (same.unbegun.trans ((applyV1Action_unbegun u t homing).trans
        (writeV1Output_linkOnly _ result).unbegun))

theorem handleV1Frame_begins (s : State) (status : V1FrameStatus) (command : Bytes)
    (dispatchingPending : Bool) (t : Ticks) :
    Unbegun axis s (s.handleV1Frame status command dispatchingPending t) ∨
      (status = .ready ∧ command = homeLine axis ∧
        acknowledged s (s.handleV1Frame status command dispatchingPending t) = true) := by
  dsimp only [handleV1Frame]
  split
  · exact .inl (s.emit_linkOnly _).unbegun
  · exact .inl (s.emit_linkOnly _).unbegun
  · exact .inl (unbegun_of_eq rfl rfl)
  · dsimp only [handleV1Command]
    generalize dispatched :
      dispatchV1Frame status command _ s.configuration v1DispatchLimits = outcome
    have home : outcome.1.action = homeAction axis → status = .ready ∧
      command = homeLine axis ∧
        outcome.1.output = .response ∧ outcome.1.response = .ok := by
      intro homing
      rw [← dispatched] at homing ⊢
      cases status with
      | tooLong => cases axis <;> cases homing
      | invalid => cases axis <;> cases homing
      | ready => exact ⟨rfl, dispatchV1Command_home homing⟩
    have stored : Unbegun axis s (s.setConfiguration outcome.2) := unbegun_of_eq rfl rfl
    obtain kept | ⟨homing, accepted⟩ :=
      @performV1_begins axis (s.setConfiguration outcome.2) status
      command _ t fun homing => (home homing).2.2
    · exact .inl (stored.trans kept)
    · exact .inr ⟨(home homing).1, (home homing).2.1, accepted⟩

theorem handleRawStop_unbegun (s : State) : Unbegun axis s s.handleRawStop := by
  dsimp only [handleRawStop]
  refine Unbegun.trans ?_ (emit_linkOnly _ _).unbegun
  by_cases v2 : s.link.session.mode = .v2
  · simp only [v2, decide_true, if_true]
    refine Unbegun.trans ?_ (emitV2StateIfChanged_linkOnly _).unbegun
    exact Stopped.unbegun ⟨rfl, rfl, .inr rfl, rfl⟩
  · have v1 : s.link.session.mode = .v1 := by
      cases mode : s.link.session.mode with
      | v1 => rfl
      | v2 => exact absurd mode v2
    simp only [v2, decide_false, Bool.false_eq_true, if_false]
    exact Stopped.unbegun ⟨rfl, rfl, .inl ⟨v1, rfl⟩, rfl⟩

theorem consumeV2_begins (s : State) (byte : UInt8) (t : Ticks) :
    Unbegun axis s (s.consumeV2 byte t) ∨
      (homes axis (handledV2 (s.link.session.parser.consume byte)) = true ∧
        acknowledged s (s.consumeV2 byte t) = true) := by
  unfold consumeV2
  generalize s.link.session.parser.consume byte = consumed
  obtain ⟨parser, result⟩ := consumed
  have parsed : Unbegun axis s (s.setV2Parser parser) := (s.setV2Parser_linkOnly parser).unbegun
  have rejected : ∀ code name, Unbegun axis s
      ((s.setV2Parser parser).emitV2Event (.reject code name) []) :=
    fun code name => parsed.trans (emitV2Event_linkOnly _ (.reject code name) []).unbegun
  cases result with
  | noFrame => exact .inl parsed
  | frameOverflow => exact .inl (rejected 1001 "bad_frame")
  | frameInvalid => exact .inl (rejected 1001 "bad_frame")
  | frameReady =>
    dsimp only [handleV2Frame, handledV2]
    cases parseV2RequestEnvelope parser.buffer with
    | badFrame => exact .inl (rejected 1001 "bad_frame")
    | badId => exact .inl (rejected 1003 "bad_id")
    | ready envelope =>
      obtain kept | ⟨line, accepted⟩ := @handleV2Request_begins axis
        (s.setV2Parser parser) envelope.requestId envelope.payload t
      · exact .inl (parsed.trans kept)
      · exact .inr ⟨by simpa [homes] using line, accepted⟩

theorem consumeV1_begins (s : State) (byte : UInt8) (t : Ticks) :
    Unbegun axis s (s.consumeV1 byte t) ∨
      (homes axis (handledV1 (s.link.commandParser.consume byte)) = true ∧
        acknowledged s (s.consumeV1 byte t) = true) := by
  unfold consumeV1
  generalize s.link.commandParser.consume byte = consumed
  obtain ⟨parser, result⟩ := consumed
  have parsed : Unbegun axis s (s.setCommandParser parser) :=
    (s.setCommandParser_linkOnly parser).unbegun
  cases result with
  | noFrame => exact .inl parsed
  | frameOverflow =>
    obtain kept | ⟨ready, _⟩ := @handleV1Frame_begins axis
      (s.setCommandParser parser) .tooLong [] false t
    · exact .inl (parsed.trans kept)
    · cases ready
  | frameInvalid =>
    obtain kept | ⟨ready, _⟩ := @handleV1Frame_begins axis
      (s.setCommandParser parser) .invalid [] false t
    · exact .inl (parsed.trans kept)
    · cases ready
  | frameReady =>
    obtain kept | ⟨_, line, accepted⟩ := @handleV1Frame_begins axis
      (s.setCommandParser parser) .ready parser.buffer false t
    · exact .inl (parsed.trans kept)
    · exact .inr ⟨by simpa [homes, handledV1] using line, accepted⟩

theorem serialByte_begins (s : State) (byte : UInt8) (t : Ticks)
    (refused : acceptsHoming axis s (.serialByte byte t) = false) :
    Unbegun axis s (s.serialByte byte t) := by
  have enough : ∀ {u : State}, exec s (.serialByte byte t) = u →
      Unbegun axis s u ∨ (homes axis (handled s (.serialByte byte t)) = true ∧
        acknowledged s u = true) → Unbegun axis s u := by
    rintro u rfl (kept | ⟨homing, accepted⟩)
    · exact kept
    · rw [acceptsHoming, homing, accepted] at refused
      cases refused
  refine enough rfl ?_
  simp only [handled, serialByte]
  generalize s.link.rawStopLineDetector.consume byte = detected
  obtain ⟨detector, stop⟩ := detected
  have detects : Unbegun axis s (s.setRawStopLineDetector detector) := unbegun_of_eq rfl rfl
  dsimp only
  cases stop with
  | true => exact .inl (detects.trans (handleRawStop_unbegun _))
  | false =>
    cases mode : s.link.session.mode with
    | v2 =>
      have begins := @consumeV2_begins axis (s.setRawStopLineDetector detector) byte t
      rw [if_neg Bool.false_ne_true, if_neg Bool.false_ne_true, if_pos rfl, if_pos (show
        (s.setRawStopLineDetector detector).link.session.mode = .v2 from mode)]
      exact begins.imp_left detects.trans
    | v1 =>
      have begins := @consumeV1_begins axis (s.setRawStopLineDetector detector) byte t
      rw [if_neg Bool.false_ne_true, if_neg Bool.false_ne_true,
        if_neg (show ¬ ProtocolMode.v1 = .v2 by decide),
        if_neg (show ¬ (s.setRawStopLineDetector detector).link.session.mode = .v2 from
          fun v2 => by cases mode.symm.trans v2)]
      exact begins.imp_left detects.trans

theorem dispatchPending_begins (s : State) (t : Ticks)
    (refused : acceptsHoming axis s (.dispatchPending t) = false) :
    Unbegun axis s (s.dispatchPending t) := by
  have begins : Unbegun axis s (s.dispatchPending t) ∨
      (homes axis (handled s (.dispatchPending t)) = true ∧
        acknowledged s (s.dispatchPending t) = true) := by
    simp only [handled, dispatchPending]
    split_ifs
    · obtain kept | ⟨_, line, accepted⟩ := @handleV1Frame_begins axis s .ready
        s.link.pendingCommand.frame true t
      · exact .inl kept
      · exact .inr ⟨by simpa [homes] using line, accepted⟩
    · exact .inl fun recovering => recovering
  obtain kept | ⟨homing, accepted⟩ := begins
  · exact kept
  · rw [acceptsHoming, homing,
      show acknowledged s (exec s (.dispatchPending t)) = true from accepted] at refused
    cases refused

end State

theorem State.runAux_stopped {s : State} (h : s.machineState.isRunning = false) (raw sortRaw : Nat)
    (t : Ticks) (now : UInt32) : s.runAux raw sortRaw t now = s := by
  simp [runAux, h]

/-- The machine does not run, and the axis is neither known nor being recovered. -/
structure MachineState.Dormant (axis : MachineAxis) (m : MachineState) : Prop where
  mode : m.isRunning = false
  unknown : m.axis axis = ⟨false, false⟩

namespace MachineState.Dormant

variable {axis : MachineAxis} {m : MachineState}

theorem enterStopped (axis : MachineAxis) (m : MachineState) : Dormant axis m.enterStopped := by
  cases axis <;> exact ⟨rfl, rfl⟩

theorem completeRecovery (h : Dormant axis m) (other : MachineAxis) :
    Dormant axis (m.completeRecovery other).1 := by
  have unknown := h.unknown
  by_cases same : other = axis
  · subst same
    have idle : (m.completeRecovery other).1 = m := by
      simp [MachineState.completeRecovery, unknown]
    rw [idle]
    exact h
  · dsimp only [MachineState.completeRecovery]
    split_ifs with idle known
    · exact h
    · exact ⟨by cases other <;> exact h.mode, by cases axis <;> cases other <;> trivial⟩
    · exfalso
      simp only [bothPositionsKnown, Bool.not_eq_true', Bool.not_eq_false,
        Bool.and_eq_true] at known
      cases axis <;> cases other <;>
        first | exact same rfl | simp_all [MachineState.axis, MachineState.setAxis]

theorem acknowledgeQueueReset (h : Dormant axis m) : Dormant axis m.acknowledgeQueueReset := by
  cases axis <;> exact ⟨h.mode, h.unknown⟩

theorem invalidateAxis (h : Dormant axis m) (other : MachineAxis) :
    Dormant axis (m.invalidateAxis other) := by
  have unknown := h.unknown
  cases axis <;> cases other <;> exact ⟨rfl, by first | rfl | exact unknown⟩

theorem beginRecovery (h : Dormant axis m) {other : MachineAxis} (different : other ≠ axis) :
    Dormant axis (m.beginRecovery other) := by
  have unknown := h.unknown
  cases axis <;> cases other <;> first
    | exact absurd rfl different
    | exact ⟨rfl, unknown⟩

theorem idle (h : Dormant axis m) : (m.axis axis).recoveryInProgress = false := by
  rw [h.unknown]

end MachineState.Dormant

theorem dormant_updateRecoveryCompletion {axis : MachineAxis} {s : State}
    (h : s.machineState.Dormant axis) (other : MachineAxis) :
    (s.updateRecoveryCompletion other).machineState.Dormant axis := by
  rcases s.updateRecoveryCompletion_eq other with eq | eq | ⟨-, -, eq⟩ <;> rw [eq]
  · exact h
  · exact h.completeRecovery other
  · exact (h.completeRecovery other).acknowledgeQueueReset

def Motion.steps (axis : MachineAxis) : Motion → Bool
  | .feedStep => axis = .feeder
  | .sortStep _ _ => axis = .sorter
  | .slotZeroBegins | .recoveryBegins | .sorterHomed => false

theorem State.reportFeedOvertravel_tracker (s : State) :
    s.reportFeedOvertravel.link.physicalRequestTracker.active = false ∨
      s.reportFeedOvertravel.link.physicalRequestTracker = s.link.physicalRequestTracker := by
  dsimp only [reportFeedOvertravel]
  split_ifs with v2 active
  · refine .inl ?_
    rw [(emitV2StateIfChanged_linkOnly _).tracker, (emitV2Event_linkOnly _ _ _).tracker,
      (emitV2Terminal_linkOnly _ _ _ _).tracker]
    rfl
  · refine .inl ?_
    rw [(emitV2StateIfChanged_linkOnly _).tracker, (emitV2Event_linkOnly _ _ _).tracker]
    rfl
  · exact .inr rfl

/-- How many step pulses the axis has been given. -/
def pulses (axis : MachineAxis) (s : State) : Nat := s.motion.countP (Motion.steps axis)

structure FeederHeld (s : State) : Prop where
  dormant : s.machineState.Dormant .feeder
  scheduled : s.feeder.feedScheduled = false
  feeding : s.feeder.isFeeding = false
  homing : s.feeder.isFeedHoming = false
  offset : s.feeder.isFeedHomingOffset = false
  jog : s.sorter.sorterJogStartsFeedHoming = false

structure SorterHeld (s : State) : Prop where
  dormant : s.machineState.Dormant .sorter
  sorting : s.sorter.isSorting = false
  homing : s.sorter.isSortHoming = false
  jog : s.sorter.sorterJog.active = false
  jogEnded : s.sorter.sorterJog.complete = false
  gate : s.sorter.slotDropGate.active = false
  alone : ¬ (s.link.physicalRequestTracker.active = true ∧
    s.link.physicalRequestTracker.operationField = .homeAll)

namespace FeederHeld

variable {s t : State}

theorem of_sameMotion (h : FeederHeld s) (same : SameMotion s t) : FeederHeld t := by
  obtain ⟨feeder, sorter, -, machineState⟩ := same
  refine ⟨?_, ?_, ?_, ?_, ?_, ?_⟩
  · rw [machineState]; exact h.dormant
  · rw [feeder]; exact h.scheduled
  · rw [feeder]; exact h.feeding
  · rw [feeder]; exact h.homing
  · rw [feeder]; exact h.offset
  · rw [sorter]; exact h.jog

theorem not_running (h : FeederHeld s) : s.machineState.isRunning = false := h.dormant.mode

theorem commandEffect (h : FeederHeld s) (effect : CommandEffect s t)
    (unbegun : Unbegun .feeder s t) : FeederHeld t ∧ pulses .feeder t = pulses .feeder s := by
  cases effect with
  | quiet same =>
    refine ⟨h.of_sameMotion same.sameMotion, ?_⟩
    rw [same.machine]
    rfl
  | stopped stop =>
    rw [stop.machine]
    exact ⟨⟨.enterStopped _ s.machineState, rfl, rfl, rfl, rfl, rfl⟩, rfl⟩
  | switched idle machine tracker =>
    rw [machine]
    exact ⟨⟨h.1, h.2, h.3, h.4, h.5, h.6⟩, rfl⟩
  | acted s₁ result ticks idle prepared permitted done =>
    have start : FeederHeld s₁ ∧ pulses .feeder s₁ = pulses .feeder s := by
      rw [prepared.machine]
      exact ⟨⟨h.1, h.2, h.3, h.4, h.5, h.6⟩, rfl⟩
    obtain ⟨h₁, count⟩ := start
    suffices acted : FeederHeld (s₁.applyV1Action result ticks) ∧
        pulses .feeder (s₁.applyV1Action result ticks) = pulses .feeder s₁ by
      refine ⟨acted.1.of_sameMotion done.sameMotion, ?_⟩
      rw [done.machine]
      exact acted.2.trans count
    have running := h.not_running
    cases action : result.action with
    | stop =>
      rw [action] at permitted
      cases permitted
    | homeFeeder =>
      exfalso
      have begun : Recovering .feeder t := by
        refine .inl ?_
        rw [done.machineState]
        simp only [State.applyV1Action, action]
        rfl
      obtain recovering | ⟨other, -⟩ := unbegun begun
      · rw [h.dormant.idle] at recovering
        cases recovering
      · cases other
    | homeSorter =>
      simp only [State.applyV1Action, action]
      exact ⟨⟨h₁.dormant.beginRecovery (by decide), h₁.2, h₁.3, h₁.4, h₁.5, rfl⟩,
        rfl⟩
    | queueFeed | queueForcedFeed | startTest | startSortTest =>
      rw [action, V1Action.permitted, running] at permitted
      cases permitted
    | none | queuePending | sortTo | applyFeedSpeed | applySortSpeed | applyFeedHomingOffset
    | applySortHomingOffset | applyFeedSteps | applyDropDelay | applyAutoMotorStandbyTimeout
    | applyCameraLedLevel =>
      unfold State.applyV1Action
      rw [action]
      exact ⟨⟨h₁.1, h₁.2, h₁.3, h₁.4, h₁.5, h₁.6⟩, rfl⟩

theorem of_eq (h : FeederHeld s) (machineState : t.machineState = s.machineState)
    (feeder : t.feeder = s.feeder)
    (jog : t.sorter.sorterJogStartsFeedHoming = s.sorter.sorterJogStartsFeedHoming) :
      FeederHeld t := by
  refine ⟨?_, ?_, ?_, ?_, ?_, ?_⟩
  · rw [machineState]; exact h.dormant
  · rw [feeder]; exact h.scheduled
  · rw [feeder]; exact h.feeding
  · rw [feeder]; exact h.homing
  · rw [feeder]; exact h.offset
  · rw [jog]; exact h.jog

theorem unchanged (h : FeederHeld s) (same : t = s) :
    FeederHeld t ∧ pulses .feeder t = pulses .feeder s := by
  rw [same]
  exact ⟨h, rfl⟩

theorem reportMotion (h : FeederHeld s) (slot : Int)
    (finished : PhysicalRequestTracker × PhysicalRequestTransition) :
    FeederHeld (s.reportMotion slot finished) ∧
      pulses .feeder (s.reportMotion slot finished) = pulses .feeder s := by
  rw [State.reportMotion_machine]
  exact ⟨⟨h.1, h.2, h.3, h.4, h.5, h.6⟩, rfl⟩

theorem updateRecoveryCompletion (h : FeederHeld s) (axis : MachineAxis) :
    FeederHeld (s.updateRecoveryCompletion axis) ∧
      pulses .feeder (s.updateRecoveryCompletion axis) = pulses .feeder s := by
  have dormant := dormant_updateRecoveryCompletion h.dormant axis
  rcases s.updateRecoveryCompletion_eq axis with eq | eq | ⟨-, -, eq⟩ <;> rw [eq] at dormant ⊢
  · exact ⟨h, rfl⟩
  · exact ⟨⟨dormant, h.2, h.3, h.4, h.5, h.6⟩, rfl⟩
  · exact ⟨⟨dormant, h.2, h.3, h.4, h.5, h.6⟩, rfl⟩

theorem completeSorterRecoveryHoming (h : FeederHeld s) (now : UInt32) :
    FeederHeld (s.completeSorterRecoveryHoming now) ∧
      pulses .feeder (s.completeSorterRecoveryHoming now) = pulses .feeder s := by
  have stopped : FeederHeld ((s.stopSorterHoming now).record .sorterHomed) :=
    h.of_eq rfl rfl rfl
  obtain ⟨recovered, count⟩ := stopped.updateRecoveryCompletion .sorter
  obtain ⟨reported, same⟩ := recovered.reportMotion 0
    (s.sorterHomingEnds now).link.physicalRequestTracker.sorterHomed
  exact ⟨reported, same.trans count⟩

theorem recoverySearch (h : FeederHeld s) (sensor : Bool) :
    FeederHeld (s.recoverySearch sensor) ∧
      pulses .feeder (s.recoverySearch sensor) = pulses .feeder s := by
  unfold State.recoverySearch State.searchStep
  split_ifs <;> exact ⟨h.of_eq rfl rfl rfl, rfl⟩

theorem homeSortMotor (h : FeederHeld s) (sensor : Bool) (now : UInt32) :
    FeederHeld (s.homeSortMotor sensor now) ∧
      pulses .feeder (s.homeSortMotor sensor now) = pulses .feeder s := by
  unfold State.homeSortMotor
  split_ifs
  · exact ⟨h, rfl⟩
  · exact h.completeSorterRecoveryHoming now
  · exact ⟨h.of_eq rfl rfl rfl, rfl⟩
  · unfold State.searchStep
    split_ifs <;> exact ⟨h.of_eq rfl rfl rfl, rfl⟩
  · exact ⟨h.of_eq rfl rfl rfl, rfl⟩
  · obtain ⟨searched, count⟩ := h.recoverySearch sensor
    unfold State.sortHomingOffsetStep
    split_ifs
    · exact ⟨searched, count⟩
    · obtain ⟨completed, same⟩ := searched.completeSorterRecoveryHoming now
      exact ⟨completed, same.trans count⟩
    · exact ⟨searched.of_eq rfl rfl rfl, count⟩
    · obtain ⟨completed, same⟩ := searched.completeSorterRecoveryHoming now
      exact ⟨completed, same.trans count⟩

theorem onFeedComplete (h : FeederHeld s) (now : UInt32) :
    FeederHeld (s.onFeedComplete now) ∧
      pulses .feeder (s.onFeedComplete now) = pulses .feeder s := by
  unfold State.onFeedComplete
  rw [if_pos (by rw [h.not_running]; rfl)]
  split_ifs
  · exact ⟨⟨h.1, h.2, h.3, h.4, h.5, h.6⟩, rfl⟩
  · exact ⟨h, rfl⟩

theorem exec (h : FeederHeld s) (routine : Routine)
    (refused : acceptsHoming .feeder s routine = false) :
    FeederHeld (exec s routine) ∧ pulses .feeder (Firmware.exec s routine) =
      pulses .feeder s := by
  cases routine with
  | serialByte byte t =>
    exact h.commandEffect (s.serialByte_effect byte t) (s.serialByte_begins byte t refused)
  | dispatchPending t =>
    exact h.commandEffect (s.dispatchPending_effect t) (s.dispatchPending_begins t refused)
  | getProxState sensor now => exact ⟨h.of_eq rfl rfl rfl, rfl⟩
  | updateSlotDropGate now =>
    simp only [Firmware.exec, State.updateSlotDropGate]
    split_ifs <;> exact ⟨h.of_eq rfl rfl rfl, rfl⟩
  | runSortMotor =>
    simp only [Firmware.exec, State.runSortMotor, State.slotZeroPass]
    split_ifs <;> exact ⟨h.of_eq rfl rfl rfl, rfl⟩
  | onSortComplete now =>
    simp only [Firmware.exec, State.onSortComplete]
    split_ifs
    · exact reportMotion (s := s.sortEnds now) (h.of_eq rfl rfl rfl) _ _
    · exact ⟨h, rfl⟩
  | scheduleRun t =>
    exact h.unchanged (State.scheduleRun_unscheduled h.scheduled t)
  | checkFeedErrors =>
    exact h.unchanged (State.checkFeedErrors_still h.feeding h.homing)
  | runFeedMotor =>
    exact h.unchanged (State.runFeedMotor_still h.feeding)
  | homeFeedMotor sensor now =>
    exact h.unchanged (State.homeFeedMotor_still h.homing h.offset sensor now)
  | homeSortMotor sensor now => exact h.homeSortMotor sensor now
  | serviceSorterJog =>
    simp only [Firmware.exec, State.serviceSorterJog, State.sorterJogEnds]
    have homing : (s.feeder.isFeedHoming || s.sorter.sorterJogStartsFeedHoming) = false := by
      rw [h.homing, h.jog]
      rfl
    split_ifs
    all_goals first
      | exact ⟨h.of_eq rfl rfl rfl, rfl⟩
      | exact ⟨⟨h.1, h.2, h.3, h.4, h.5, rfl⟩, rfl⟩
      | exact ⟨⟨h.1, h.2, h.3, homing, h.5, rfl⟩, rfl⟩
  | onFeedComplete now => exact h.onFeedComplete now
  | runAux raw sortRaw t now =>
    exact h.unchanged (State.runAux_stopped h.not_running raw sortRaw t now)
  | motorStandByCheck now =>
    simp only [Firmware.exec, State.motorStandByCheck]
    split_ifs <;> exact ⟨h.of_eq rfl rfl rfl, rfl⟩
  | serviceV2PhysicalRequest =>
    simp only [Firmware.exec, State.serviceV2PhysicalRequest]
    split_ifs <;> exact ⟨h.of_eq rfl rfl rfl, rfl⟩
  | emitV2StateIfChanged =>
    have same := s.emitV2StateIfChanged_linkOnly
    refine ⟨h.of_sameMotion same.sameMotion, ?_⟩
    simp only [Firmware.exec]
    rw [same.machine]
    rfl

end FeederHeld

namespace SorterHeld

variable {s t : State}

theorem not_running (h : SorterHeld s) : s.machineState.isRunning = false := h.dormant.mode

theorem of_eq (h : SorterHeld s) (machineState : t.machineState = s.machineState)
    (sorter : t.sorter = s.sorter)
    (tracker : t.link.physicalRequestTracker = s.link.physicalRequestTracker) : SorterHeld t := by
  refine ⟨?_, ?_, ?_, ?_, ?_, ?_, ?_⟩
  · rw [machineState]; exact h.dormant
  · rw [sorter]; exact h.sorting
  · rw [sorter]; exact h.homing
  · rw [sorter]; exact h.jog
  · rw [sorter]; exact h.jogEnded
  · rw [sorter]; exact h.gate
  · rw [tracker]; exact h.alone

theorem of_linkOnly (h : SorterHeld s) (same : LinkOnly s t) :
    SorterHeld t ∧ pulses .sorter t = pulses .sorter s := by
  refine ⟨h.of_eq same.machineState (by rw [same.machine]) same.tracker, ?_⟩
  rw [same.machine]
  rfl

theorem unchanged (h : SorterHeld s) (same : t = s) :
    SorterHeld t ∧ pulses .sorter t = pulses .sorter s := by
  rw [same]
  exact ⟨h, rfl⟩

theorem not_recovering (h : SorterHeld s) : ¬ Recovering .sorter s := by
  rintro (recovering | ⟨-, active, all⟩)
  · rw [h.dormant.idle] at recovering
    cases recovering
  · exact h.alone ⟨active, all⟩

theorem commandEffect (h : SorterHeld s) (effect : CommandEffect s t)
    (unbegun : Unbegun .sorter s t) : SorterHeld t ∧ pulses .sorter t = pulses .sorter s := by
  have alone : ¬ (t.link.physicalRequestTracker.active = true ∧
      t.link.physicalRequestTracker.operationField = .homeAll) :=
    fun all => h.not_recovering (unbegun (.inr ⟨rfl, all⟩))
  cases effect with
  | quiet same => exact h.of_linkOnly same
  | stopped stop =>
    rw [stop.machine]
    exact ⟨⟨.enterStopped _ s.machineState, rfl, rfl, rfl, rfl, rfl, alone⟩, rfl⟩
  | switched idle machine tracker =>
    rw [machine]
    exact ⟨⟨h.1, h.2, h.3, h.4, h.5, h.6, alone⟩, rfl⟩
  | acted s₁ result ticks idle prepared permitted done =>
    have untracked : s₁.link.physicalRequestTracker = t.link.physicalRequestTracker := by
      rw [done.tracker, State.applyV1Action_tracker]
    have start : SorterHeld s₁ ∧ pulses .sorter s₁ = pulses .sorter s := by
      rw [← untracked] at alone
      rw [prepared.machine]
      exact ⟨⟨h.1, h.2, h.3, h.4, h.5, h.6, alone⟩, rfl⟩
    obtain ⟨h₁, count⟩ := start
    suffices acted : SorterHeld (s₁.applyV1Action result ticks) ∧
        pulses .sorter (s₁.applyV1Action result ticks) = pulses .sorter s₁ by
      obtain ⟨held, same⟩ := acted.1.of_linkOnly done
      exact ⟨held, same.trans (acted.2.trans count)⟩
    have running := h.not_running
    have unknown : s.machineState.sorter.positionKnown = false := by
      rw [show s.machineState.sorter = ⟨false, false⟩ from h.dormant.unknown]
    cases action : result.action with
    | stop =>
      rw [action] at permitted
      cases permitted
    | homeSorter =>
      refine absurd (unbegun (.inl ?_)) h.not_recovering
      rw [done.machineState]
      simp only [State.applyV1Action, action]
      rfl
    | homeFeeder =>
      unfold State.applyV1Action
      rw [action]
      exact ⟨⟨h₁.dormant.beginRecovery (by decide), h₁.2, h₁.3, h₁.4, h₁.5, h₁.6,
        h₁.7⟩, rfl⟩
    | queueFeed | queueForcedFeed | startTest | startSortTest =>
      rw [action, V1Action.permitted, running] at permitted
      cases permitted
    | sortTo =>
      rw [action, V1Action.permitted, running, unknown] at permitted
      cases permitted
    | none | queuePending | applyFeedSpeed | applySortSpeed | applyFeedHomingOffset
    | applySortHomingOffset | applyFeedSteps | applyDropDelay | applyAutoMotorStandbyTimeout
    | applyCameraLedLevel =>
      unfold State.applyV1Action
      rw [action]
      exact ⟨⟨h₁.1, h₁.2, h₁.3, h₁.4, h₁.5, h₁.6, h₁.7⟩, rfl⟩

theorem reportMotion (h : SorterHeld s) (slot : Int)
    {finished : PhysicalRequestTracker × PhysicalRequestTransition}
    (alone : ¬ (finished.1.active = true ∧ finished.1.operationField = .homeAll)) :
    SorterHeld (s.reportMotion slot finished) ∧
      pulses .sorter (s.reportMotion slot finished) = pulses .sorter s := by
  have tracked : SorterHeld (s.setTracker finished.1) :=
    ⟨h.1, h.2, h.3, h.4, h.5, h.6, alone⟩
  dsimp only [State.reportMotion]
  split_ifs
  · exact ⟨h, rfl⟩
  · exact tracked.of_linkOnly (State.finishV2PhysicalRequest_linkOnly _ _ _ _)
  · exact ⟨tracked, rfl⟩

theorem updateRecoveryCompletion (h : SorterHeld s) (axis : MachineAxis) :
    SorterHeld (s.updateRecoveryCompletion axis) ∧
      pulses .sorter (s.updateRecoveryCompletion axis) = pulses .sorter s := by
  have dormant := dormant_updateRecoveryCompletion h.dormant axis
  rcases s.updateRecoveryCompletion_eq axis with eq | eq | ⟨-, -, eq⟩ <;> rw [eq] at dormant ⊢
  · exact ⟨h, rfl⟩
  · exact ⟨⟨dormant, h.2, h.3, h.4, h.5, h.6, h.7⟩, rfl⟩
  · exact ⟨⟨dormant, h.2, h.3, h.4, h.5, h.6, h.7⟩, rfl⟩

theorem completeFeedHoming (h : SorterHeld s) (now : UInt32) :
    SorterHeld (s.completeFeedHoming now) ∧
      pulses .sorter (s.completeFeedHoming now) = pulses .sorter s := by
  obtain ⟨recovered, count⟩ := updateRecoveryCompletion (s := s.stopFeedHoming now)
    (h.of_eq rfl rfl rfl) .feeder
  have ends : SorterHeld (s.feedHomingEnds now) ∧
      pulses .sorter (s.feedHomingEnds now) = pulses .sorter s := by
    dsimp only [State.feedHomingEnds]
    split_ifs
    · exact ⟨recovered.of_eq rfl rfl rfl, count⟩
    · exact ⟨recovered.of_eq rfl rfl rfl, count⟩
  have alone := ends.1.alone
  have single : (s.feedHomingEnds now).link.physicalRequestTracker.feedHomed.2 ≠
    .startSorterHome ∧
      ¬ ((s.feedHomingEnds now).link.physicalRequestTracker.feedHomed.1.active = true ∧
        (s.feedHomingEnds now).link.physicalRequestTracker.feedHomed.1.operationField =
          .homeAll) := by
    unfold PhysicalRequestTracker.feedHomed
    split_ifs with idle homed all
    · exact ⟨fun none => (by cases none), alone⟩
    · exact ⟨fun done => (by cases done), fun all => by cases all.1⟩
    · exact absurd ⟨by simpa using idle, all.1⟩ alone
    · exact ⟨fun none => (by cases none), alone⟩
  dsimp only [State.completeFeedHoming]
  rw [if_neg fun both => single.1 both.2]
  obtain ⟨reported, same⟩ := ends.1.reportMotion 0 single.2
  exact ⟨reported, same.trans ends.2⟩

theorem homeFeedMotor (h : SorterHeld s) (sensor : Bool) (now : UInt32) :
    SorterHeld (s.homeFeedMotor sensor now) ∧
      pulses .sorter (s.homeFeedMotor sensor now) = pulses .sorter s := by
  have offset : ∀ u : State, SorterHeld u → SorterHeld (u.feedHomingOffsetStep now) ∧
      pulses .sorter (u.feedHomingOffsetStep now) = pulses .sorter u := by
    intro u held
    unfold State.feedHomingOffsetStep
    split_ifs
    · exact ⟨held, rfl⟩
    · exact held.completeFeedHoming now
    · exact ⟨held.of_eq rfl rfl rfl, rfl⟩
    · exact held.completeFeedHoming now
  unfold State.homeFeedMotor
  split_ifs
  · exact h.completeFeedHoming now
  · exact offset _ (h.of_eq rfl rfl rfl)
  · exact ⟨h.of_eq rfl rfl rfl, rfl⟩
  · exact offset s h

theorem checkFeedErrors (h : SorterHeld s) :
    SorterHeld s.checkFeedErrors ∧ pulses .sorter s.checkFeedErrors = pulses .sorter s := by
  unfold State.checkFeedErrors
  split_ifs
  · have stopped : SorterHeld s.feedOvertravel ∧
        pulses .sorter s.feedOvertravel = pulses .sorter s := by
      have still : s.feedOvertravel.machineState.Dormant .sorter := by
        dsimp only [State.feedOvertravel]
        split_ifs
        · exact (h.dormant.invalidateAxis .feeder).invalidateAxis .sorter
        · exact h.dormant.invalidateAxis .feeder
      refine ⟨⟨still, ?_, ?_, ?_, ?_, ?_, ?_⟩, ?_⟩
      all_goals
        dsimp only [State.feedOvertravel]
        split_ifs
        all_goals first | rfl | exact h.gate | exact h.alone
    have tracker := s.feedOvertravel.reportFeedOvertravel_tracker
    rw [s.feedOvertravel.reportFeedOvertravel_machine]
    obtain ⟨held, count⟩ := stopped
    refine ⟨⟨held.1, held.2, held.3, held.4, held.5, held.6, ?_⟩, count⟩
    obtain inactive | same := tracker
    · exact fun all => by rw [inactive] at all; cases all.1
    · rw [same]
      exact held.alone
  · exact ⟨h, rfl⟩

theorem onFeedComplete (h : SorterHeld s) (now : UInt32) :
    SorterHeld (s.onFeedComplete now) ∧
      pulses .sorter (s.onFeedComplete now) = pulses .sorter s := by
  unfold State.onFeedComplete
  rw [if_pos (by rw [h.not_running]; rfl)]
  split_ifs
  · exact ⟨h.of_eq rfl rfl rfl, rfl⟩
  · exact ⟨h, rfl⟩

theorem serviceV2PhysicalRequest (h : SorterHeld s) :
    SorterHeld s.serviceV2PhysicalRequest ∧
      pulses .sorter s.serviceV2PhysicalRequest = pulses .sorter s := by
  have alone : ∀ phase, ¬ ((s.link.physicalRequestTracker.observePhase phase).1.active = true ∧
      (s.link.physicalRequestTracker.observePhase phase).1.operationField = .homeAll) := by
    intro phase
    unfold PhysicalRequestTracker.observePhase
    split_ifs <;> exact h.alone
  dsimp only [State.serviceV2PhysicalRequest]
  split_ifs
  · exact ⟨h, rfl⟩
  · exact ⟨⟨h.1, h.2, h.3, h.4, h.5, h.6, alone _⟩, rfl⟩
  · exact ⟨⟨h.1, h.2, h.3, h.4, h.5, h.6, alone _⟩, rfl⟩

theorem exec (h : SorterHeld s) (routine : Routine)
    (refused : acceptsHoming .sorter s routine = false) :
    SorterHeld (exec s routine) ∧ pulses .sorter (Firmware.exec s routine) =
      pulses .sorter s := by
  cases routine with
  | serialByte byte t =>
    exact h.commandEffect (s.serialByte_effect byte t) (s.serialByte_begins byte t refused)
  | dispatchPending t =>
    exact h.commandEffect (s.dispatchPending_effect t) (s.dispatchPending_begins t refused)
  | getProxState sensor now => exact ⟨h.of_eq rfl rfl rfl, rfl⟩
  | updateSlotDropGate now => exact h.unchanged (State.updateSlotDropGate_inactive h.gate now)
  | runSortMotor => exact h.unchanged (State.runSortMotor_still h.sorting)
  | onSortComplete now =>
    simp only [Firmware.exec, State.onSortComplete]
    split_ifs
    · have ended : SorterHeld (s.sortEnds now) := ⟨h.1, h.2, h.3, h.4, h.5, h.6, h.7⟩
      refine ended.reportMotion _ ?_
      unfold PhysicalRequestTracker.sortCompleted
      split_ifs
      · exact fun all => by cases all.1
      · exact h.alone
    · exact ⟨h, rfl⟩
  | scheduleRun t =>
    simp only [Firmware.exec, State.scheduleRun]
    split_ifs <;> exact ⟨h.of_eq rfl rfl rfl, rfl⟩
  | checkFeedErrors => exact h.checkFeedErrors
  | runFeedMotor =>
    simp only [Firmware.exec, State.runFeedMotor]
    split_ifs <;> exact ⟨h.of_eq rfl rfl rfl, rfl⟩
  | homeFeedMotor sensor now => exact h.homeFeedMotor sensor now
  | homeSortMotor sensor now => exact h.unchanged (State.homeSortMotor_still h.homing sensor now)
  | serviceSorterJog => exact h.unchanged (s.serviceSorterJog_inactive h.jog h.jogEnded)
  | onFeedComplete now => exact h.onFeedComplete now
  | runAux raw sortRaw t now =>
    exact h.unchanged (State.runAux_stopped h.not_running raw sortRaw t now)
  | motorStandByCheck now =>
    simp only [Firmware.exec, State.motorStandByCheck]
    split_ifs <;> exact ⟨h.of_eq rfl rfl rfl, rfl⟩
  | serviceV2PhysicalRequest => exact h.serviceV2PhysicalRequest
  | emitV2StateIfChanged => exact h.of_linkOnly s.emitV2StateIfChanged_linkOnly

end SorterHeld

/-- The call completes a raw `stop` line, or a v2 `stop` request whose ID is free. -/
def HandlesStop (s : State) (routine : Routine) : Prop :=
  handled s routine = .rawStop ∨ ∃ envelope, handled s routine = .v2Request envelope ∧
    envelope.payload = ascii "stop" ∧ s.link.session.lifecycle.owns envelope.requestId = false

/-- The idle, unhomed machine a stop leaves. -/
structure AtStop (t : State) : Prop where
  idle : t.executionBusy = false
  pending : t.link.pendingCommand.available = false
  feeder : t.machineState.feeder.positionKnown = false
  sorter : t.machineState.sorter.positionKnown = false
  drivers : t.motorDriversEnabled = false

/-- What every stop does to the machine. -/
structure StopDone (s t : State) : Prop where
  machine : t = { s.enterStoppedState with link := t.link }
  pending : t.link.pendingCommand = .empty
  tracker : t.link.physicalRequestTracker.active = false

theorem StopDone.atStop {s t : State} (h : StopDone s t) : AtStop t := by
  have machine := h.machine
  refine ⟨?_, ?_, ?_, ?_, ?_⟩
  · rw [machine]; rfl
  · rw [h.pending]; rfl
  · rw [machine]; rfl
  · rw [machine]; rfl
  · rw [machine]; rfl

theorem StopDone.feederHeld {s t : State} (h : StopDone s t) : FeederHeld t := by
  rw [h.machine]
  exact ⟨.enterStopped _ s.machineState, rfl, rfl, rfl, rfl, rfl⟩

theorem StopDone.sorterHeld {s t : State} (h : StopDone s t) : SorterHeld t := by
  have alone : ¬ (t.link.physicalRequestTracker.active = true ∧
      t.link.physicalRequestTracker.operationField = .homeAll) := by
    rw [h.tracker]
    exact fun all => by cases all.1
  rw [h.machine]
  exact ⟨.enterStopped _ s.machineState, rfl, rfl, rfl, rfl, rfl, alone⟩

theorem enterStoppedState_done {s t : State} (machine : t = { s with link := t.link })
    (tracker : t.link.physicalRequestTracker.active = false) : StopDone s t.enterStoppedState := by
  refine ⟨?_, rfl, tracker⟩
  rw [machine]
  rfl

theorem StopDone.of_link {s t u : State} (h : StopDone s t)
    (machine : u = { t with link := u.link })
    (pending : u.link.pendingCommand = t.link.pendingCommand)
    (tracker : u.link.physicalRequestTracker = t.link.physicalRequestTracker) : StopDone s u := by
  refine ⟨?_, pending.trans h.pending, by rw [tracker]; exact h.tracker⟩
  rw [machine, h.machine]

theorem StopDone.reported {s t : State} (h : StopDone s t) : StopDone s t.emitV2StateIfChanged :=
  h.of_link t.emitV2StateIfChanged_linkOnly.machine t.emitV2StateIfChanged_pending
    t.emitV2StateIfChanged_linkOnly.tracker

theorem handleRawStop_done {s : State} (sound : s.ledger.Sound) : StopDone s s.handleRawStop := by
  dsimp only [State.handleRawStop]
  cases mode : s.link.session.mode with
  | v2 =>
    simp only [decide_true, if_true]
    have done : StopDone s (((s.setTracker s.link.physicalRequestTracker.cancel).setLifecycle
        s.link.session.lifecycle.cancel).setV2Parser .reset).enterStoppedState :=
      enterStoppedState_done rfl rfl
    exact done.reported.of_link rfl rfl rfl
  | v1 =>
    have untracked : s.link.physicalRequestTracker.active = false := by
      by_contra on
      have v2 := (sound.tracked s.link.physicalRequestTracker.requestIdField
        (by simp [State.ledger, PhysicalRequestTracker.tracked, on])).1
      cases mode.symm.trans v2
    simp only [reduceCtorEq, decide_false, Bool.false_eq_true, if_false]
    have done : StopDone s (s.setCommandParser .reset).enterStoppedState :=
      enterStoppedState_done rfl untracked
    exact done.of_link rfl rfl rfl

theorem handleV2Stop_done {s : State} {requestId : Nat}
    (free : s.link.session.lifecycle.owns requestId = false) :
    StopDone s (s.handleV2Stop requestId) := by
  unfold State.handleV2Stop
  rw [if_neg (by rw [free]; exact Bool.false_ne_true)]
  dsimp only
  generalize stopped : ite (s.link.session.lifecycle.active = true) _ _ = u
  have done : StopDone s u := by
    rw [← stopped]
    have cancelled : StopDone s ((s.setTracker s.link.physicalRequestTracker.cancel).setLifecycle
        s.link.session.lifecycle.cancel).enterStoppedState := enterStoppedState_done rfl rfl
    split_ifs
    · exact cancelled.of_link rfl rfl rfl
    · exact cancelled
  exact done.reported.of_link rfl rfl rfl

theorem stopDone_of_handled {s : State} {routine : Routine} (sound : s.ledger.Sound)
    (stop : HandlesStop s routine) : StopDone s (exec s routine) := by
  obtain raw | ⟨envelope, asked, payload, free⟩ := stop
  · cases routine with
    | serialByte byte t =>
      have stops : (s.link.rawStopLineDetector.consume byte).2 = true := by
        simp only [handled] at raw
        split_ifs at raw with stops v2
        · exact stops
        · exact absurd raw (by
            generalize s.link.session.parser.consume byte = consumed
            obtain ⟨parser, result⟩ := consumed
            dsimp only [handledV2]
            cases result <;> first | (dsimp only; split <;> exact fun raw => by cases raw) |
              exact fun raw => by cases raw)
        · exact absurd raw (by
            generalize s.link.commandParser.consume byte = consumed
            obtain ⟨parser, result⟩ := consumed
            cases result <;> exact fun raw => by cases raw)
      simp only [exec, State.serialByte, stops, if_true]
      have done := handleRawStop_done (s := s.setRawStopLineDetector
        (s.link.rawStopLineDetector.consume byte).1) sound
      exact ⟨by rw [done.machine]; rfl, done.pending, done.tracker⟩
    | dispatchPending t =>
      simp only [handled] at raw
      split_ifs at raw
    | getProxState | updateSlotDropGate | runSortMotor | onSortComplete | scheduleRun
    | checkFeedErrors | runFeedMotor | homeFeedMotor | homeSortMotor | serviceSorterJog
    | onFeedComplete | runAux | motorStandByCheck | serviceV2PhysicalRequest
    | emitV2StateIfChanged => cases raw
  · obtain ⟨-, -, detector, parser, t, eq⟩ := exec_request asked
    rw [eq, State.handleV2Request, if_pos payload]
    have done :=
      handleV2Stop_done (s := (s.setRawStopLineDetector detector).setV2Parser parser) free
    exact ⟨by rw [done.machine]; rfl, done.pending, done.tracker⟩

/-- In every run of the sketch, a handled stop leaves an idle machine without a pending
command, unhomed and with its drivers off; and after it an axis makes no step until a
command that homes it has been accepted. -/
theorem stop_final (now : UInt32) (before : List Routine) (routine : Routine)
    (stop : HandlesStop (execAll (boot now) before) routine) :
    let t := exec (execAll (boot now) before) routine
    AtStop t ∧ ∀ axis later, Meets sketchStep
      (fun s r => acceptsHoming axis s r = false) t later →
      pulses axis (execAll t later) = pulses axis t := by
  intro t
  have done : StopDone _ t := stopDone_of_handled (sound_execAll (sound_boot now) before) stop
  have feeder : ∀ (later : List Routine) (u : State), FeederHeld u →
      Meets sketchStep (fun s r => acceptsHoming .feeder s r = false) u later →
      pulses .feeder (execAll u later) = pulses .feeder u := by
    intro later
    induction later with
    | nil => exact fun u _ _ => rfl
    | cons r later ih =>
      intro u held refused
      obtain ⟨next, same⟩ := held.exec r refused.1
      exact (ih (exec u r) next (refused.2 _ rfl)).trans same
  have sorter : ∀ (later : List Routine) (u : State), SorterHeld u →
      Meets sketchStep (fun s r => acceptsHoming .sorter s r = false) u later →
      pulses .sorter (execAll u later) = pulses .sorter u := by
    intro later
    induction later with
    | nil => exact fun u _ _ => rfl
    | cons r later ih =>
      intro u held refused
      obtain ⟨next, same⟩ := held.exec r refused.1
      exact (ih (exec u r) next (refused.2 _ rfl)).trans same
  refine ⟨done.atStop, fun axis later refused => ?_⟩
  cases axis with
  | feeder => exact feeder later t done.feederHeld refused
  | sorter => exact sorter later t done.sorterHeld refused

/-- The feeder is being homed, `homesorter` waits for it, and a stop comes up to its last byte. -/
def stopMidHoming : List Routine :=
  lineRoutines (ascii "stop\nhomefeeder\n") ++ List.replicate 3 (.homeFeedMotor false 0) ++
    lineRoutines (ascii "homesorter\nstop")

def sorterAlone : List Routine :=
  lineRoutines (ascii "sortto:3\nhomesorter\n") ++
    [.homeFeedMotor false 0, .serviceSorterJog, .serviceSorterJog, .runFeedMotor]

theorem stop_final_midHoming :
    let s := execAll (boot 0) stopMidHoming
    let t := exec s newline
    s.executionBusy = true ∧ s.link.pendingCommand.available = true ∧ 0 < pulses .feeder s ∧
      AtStop t ∧ pulses .feeder (execAll t sorterAlone) = pulses .feeder t ∧
      pulses .sorter t < pulses .sorter (execAll t sorterAlone) := by
  intro s t
  obtain ⟨idle, unmoved⟩ := stop_final 0 stopMidHoming newline (.inl (by decide +kernel))
  exact ⟨by decide +kernel, by decide +kernel, by decide +kernel, idle,
    unmoved .feeder sorterAlone (by decide +kernel), by decide +kernel⟩

end CaseSorter.Firmware
