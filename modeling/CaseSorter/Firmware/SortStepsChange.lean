import CaseSorter.Firmware.Interlock
import CaseSorter.Firmware.RequestTerminals
import Mathlib.Tactic.Ring

/-! A new step separation. A move is planned as a difference of two products with the
separation in force, so an arm that an earlier one put off slot 0 is carried past its slot by
the difference of the two. -/

namespace CaseSorter.Firmware

open Runs

def Configured (s t : State) : Prop :=
  t = { s with configuration.sortSteps := t.configuration.sortSteps, link := t.link }

namespace Configured

theorem of_linkOnly {s t : State} (h : LinkOnly s t) : Configured s t := by
  have machine := h.machine
  unfold Configured
  rw [machine]

theorem trans {s t u : State} (h : Configured s t) (h' : Configured t u) : Configured s u := by
  unfold Configured at h h' ⊢
  rw [h', h]

theorem executionBusy {s t : State} (h : Configured s t) : t.executionBusy = s.executionBusy := by
  rw [h]
  rfl

end Configured

theorem dispatchV1Command_sortSteps {command : Bytes}
    (kind : classifyV1Command command = .sortSteps) (context : V1DispatchContext)
    (c : Configuration) (limits : V1DispatchLimits) :
    let dispatched := dispatchV1Command command context c limits
    (dispatched.1.action = .none ∨ (dispatched.1.action = .queuePending ∧ context.busy)) ∧
      dispatched.2 = { c with sortSteps := dispatched.2.sortSteps } := by
  constructor
  · rcases dispatchV1Command_action command context c limits with none | waits | ⟨granted, -⟩
    · exact .inl none
    · exact .inr waits
    · rw [kind] at granted
      exact .inl granted
  · simp only [dispatchV1Command, kind]
    split_ifs <;> try rfl
    simp only [dispatchV1Setter, dispatchSortSteps]
    split
    · rfl
    · split_ifs <;> rfl

theorem setConfiguration_configured {s : State} {c : Configuration}
    (same : c = { s.configuration with sortSteps := c.sortSteps }) :
    Configured s (s.setConfiguration c) := by
  unfold Configured
  conv_lhs => rw [State.setConfiguration, same]
  rfl

theorem handleV1Frame_configured {s : State} {command : Bytes}
    (kind : classifyV1Command command = .sortSteps) (pending : Bool) (t : Ticks) :
    Configured s (s.handleV1Frame .ready command pending t) := by
  unfold State.handleV1Frame
  dsimp only
  split
  · exact .of_linkOnly (s.emit_linkOnly _)
  · exact .of_linkOnly (s.emit_linkOnly _)
  · rfl
  · unfold State.handleV1Command
    dsimp only [dispatchV1Frame]
    obtain ⟨action, same⟩ := dispatchV1Command_sortSteps kind (s.dispatchContext
      s.machineState.isRunning s.executionBusy (s.link.pendingCommand.available && !pending))
      s.configuration v1DispatchLimits
    generalize dispatchV1Command command _ s.configuration v1DispatchLimits = dispatched
      at action same ⊢
    have configured := setConfiguration_configured same
    by_cases waits : dispatched.1.action = .queuePending
    · exact configured.trans (.of_linkOnly (State.performV1_queuePending _ _ _ _ t waits))
    · obtain ⟨u, link, done⟩ := (s.setConfiguration dispatched.2).performV1_eq .ready command
        dispatched.1 t waits
      rw [done, State.applyV1Action_none t (action.resolve_right fun queued => waits queued.1)]
      exact configured.trans (.of_linkOnly (link.trans (State.writeV1Output_linkOnly _ _)))

theorem applyV2Setter_configured {s : State} {payload : Bytes}
    (kind : classifyV1Command payload = .sortSteps) (requestId : Nat) (t : Ticks) :
    Configured s (s.applyV2Setter requestId payload .sortSteps t) := by
  unfold State.applyV2Setter
  dsimp only
  obtain ⟨action, same⟩ := dispatchV1Command_sortSteps kind
    (s.dispatchContext s.machineState.isRunning false false) s.configuration v1DispatchLimits
  generalize context : s.dispatchContext s.machineState.isRunning false false =
    idle at action same ⊢
  have free : ¬idle.busy := by
    rw [← context]
    exact nofun
  generalize dispatchV1Command payload idle s.configuration v1DispatchLimits = dispatched
    at action same ⊢
  have configured := setConfiguration_configured same
  split_ifs
  · exact configured.trans (.of_linkOnly (State.emitV2SetterError_linkOnly _ _ _ _))
  · rw [State.applyV1Action_none t (action.resolve_right fun waits => free waits.2)]
    exact configured.trans (.of_linkOnly ((State.advanceConfigGeneration_linkOnly _).trans
      (State.emitV2SetterDone_linkOnly _ _ _)))

theorem handleV2Request_configured {s : State} {payload : Bytes}
    (kind : classifyV1Command payload = .sortSteps) (requestId : Nat) (t : Ticks) :
    Configured s (s.handleV2Request requestId payload t) := by
  have stop : payload ≠ ascii "stop" := by
    rintro rfl
    exact absurd kind (by decide)
  have one : payload ≠ ascii "protocol:1" := by
    rintro rfl
    exact absurd kind (by decide)
  unfold State.handleV2Request
  rw [if_neg stop, if_neg one, kind]
  dsimp only
  have setter : v1CommandIsSetter .sortSteps = true := rfl
  rw [if_neg nofun, if_pos setter]
  unfold State.handleV2Setter State.beginV2Setter
  cases refused : s.refuseV2Request requestId with
  | some refusal => exact .of_linkOnly (State.refuseV2Request_some refused)
  | none =>
    have begun := s.beginV2Active_linkOnly requestId
    dsimp only
    split_ifs
    · exact (Configured.of_linkOnly begun).trans (applyV2Setter_configured kind requestId t)
    · exact .of_linkOnly begun

/-- The text of the line from the host, without the ID of a request. -/
def Handled.line : Handled → Option Bytes
  | .v1Line command => some command
  | .v2Request envelope => some envelope.payload
  | .nothing | .rawStop => none

theorem handledV1_line {parser : CommandParser × FrameResult} {command : Bytes}
    (asked : handledV1 parser = .v1Line command) :
    parser.2 = .frameReady ∧ parser.1.buffer = command := by
  obtain ⟨parser, result⟩ := parser
  cases result with
  | noFrame | frameOverflow | frameInvalid => cases asked
  | frameReady =>
    cases asked
    exact ⟨rfl, rfl⟩

theorem handledV2_line {parser : V2FrameParser × FrameResult} {command : Bytes} :
    handledV2 parser ≠ .v1Line command := by
  obtain ⟨parser, result⟩ := parser
  cases result with
  | noFrame | frameOverflow | frameInvalid => exact nofun
  | frameReady =>
    dsimp only [handledV2]
    split <;> exact fun asked => by cases asked

theorem consumeV1_line {s : State} {byte : UInt8} (t : Ticks)
    (ready : (s.link.commandParser.consume byte).2 = .frameReady) :
    s.consumeV1 byte t = ((s.setCommandParser (s.link.commandParser.consume byte).1).handleV1Frame
      .ready (s.link.commandParser.consume byte).1.buffer false t).setCommandParser .reset := by
  unfold State.consumeV1
  generalize s.link.commandParser.consume byte = consumed at ready ⊢
  obtain ⟨parser, result⟩ := consumed
  cases ready
  rfl

theorem exec_line {s : State} {routine : Routine} {command : Bytes}
    (asked : handled s routine = .v1Line command) :
    ∃ u pending t, LinkOnly s u ∧
      LinkOnly (u.handleV1Frame .ready command pending t) (exec s routine) := by
  cases routine with
  | serialByte byte t =>
    simp only [handled] at asked
    split_ifs at asked with stop mode
    · exact absurd asked handledV2_line
    · obtain ⟨ready, buffer⟩ := handledV1_line asked
      have heard : LinkOnly s ((s.setRawStopLineDetector
          (s.link.rawStopLineDetector.consume byte).1).setCommandParser
            (s.link.commandParser.consume byte).1) := ⟨rfl, rfl, rfl, rfl⟩
      refine ⟨_, false, t, heard, ?_⟩
      change LinkOnly _ (s.serialByte byte t)
      dsimp only [State.serialByte]
      have v1 : (s.setRawStopLineDetector
          (s.link.rawStopLineDetector.consume byte).1).link.session.mode ≠ .v2 := mode
      rw [if_neg stop, if_neg v1, ← buffer, consumeV1_line (s := s.setRawStopLineDetector
        (s.link.rawStopLineDetector.consume byte).1) t ready]
      exact State.setCommandParser_linkOnly _ _
  | dispatchPending t =>
    simp only [handled] at asked
    split_ifs at asked with due
    cases asked
    refine ⟨s, true, t, .refl s, ?_⟩
    dsimp only [exec, State.dispatchPending]
    rw [if_pos due]
    exact State.setPendingCommand_linkOnly _ _
  | getProxState | updateSlotDropGate | runSortMotor | onSortComplete | scheduleRun
  | checkFeedErrors | runFeedMotor | homeFeedMotor | homeSortMotor | serviceSorterJog
  | onFeedComplete | runAux | motorStandByCheck | serviceV2PhysicalRequest
  | emitV2StateIfChanged => cases asked

theorem exec_configured {s : State} {routine : Routine} {command : Bytes}
    (asked : (handled s routine).line = some command)
    (kind : classifyV1Command command = .sortSteps) : Configured s (exec s routine) := by
  cases line : handled s routine <;> rw [line] at asked <;> cases asked
  · obtain ⟨u, pending, t, before, after⟩ := exec_line line
    exact (Configured.of_linkOnly before).trans
      ((handleV1Frame_configured kind pending t).trans (.of_linkOnly after))
  · obtain ⟨-, -, detector, parser, t, done⟩ := exec_request line
    rw [done]
    have begun : LinkOnly s ((s.setRawStopLineDetector detector).setV2Parser parser) :=
      ⟨rfl, rfl, rfl, rfl⟩
    exact (Configured.of_linkOnly begun).trans
      ((handleV2Request_configured kind _ t).trans (.of_linkOnly (State.setV2Parser_linkOnly _ _)))

/-- The arm and its queue stand as they stood, and so does the machine state. -/
structure SamePlace (s t : State) : Prop where
  position : t.sorter.qPos1 = s.sorter.qPos1
  displacement : displacement t.motion = displacement s.motion
  machineState : t.machineState = s.machineState

namespace SamePlace

theorem refl (s : State) : SamePlace s s := ⟨rfl, rfl, rfl⟩

theorem trans {s t u : State} (h : SamePlace s t) (h' : SamePlace t u) : SamePlace s u :=
  ⟨h'.1.trans h.1, h'.2.trans h.2, h'.3.trans h.3⟩

theorem of_linkOnly {s t : State} (h : LinkOnly s t) : SamePlace s t := by
  rw [h.machine]
  exact ⟨rfl, rfl, rfl⟩

theorem of_configured {s t : State} (h : Configured s t) : SamePlace s t := by
  rw [h]
  exact ⟨rfl, rfl, rfl⟩

theorem applyV1Action {s : State} (result : V1DispatchResult) (t : Ticks)
    (idle : (s.applyV1Action result t).executionBusy = false)
    (known : (s.applyV1Action result t).machineState.sorter.positionKnown) :
    SamePlace s (s.applyV1Action result t) := by
  have queued (u : State) (position : Int) (idle : (u.queueFeed position t).executionBusy = false) :
      False := by
    have busy : (u.queueFeed position t).feeder.feedScheduled ∨
        (u.queueFeed position t).feeder.isFeeding := by
      dsimp only [State.queueFeed, State.scheduleRun, State.scheduleFeed,
        State.moveSorterToNextPosition]
      split_ifs <;> first | exact .inl rfl | exact .inr rfl
    rcases busy with busy | busy <;> simp [State.executionBusy, busy] at idle
  unfold State.applyV1Action at idle known ⊢
  cases action : result.action <;> rw [action] at idle known
  case stop | homeSorter => cases known
  case homeFeeder | sortTo | startTest | startSortTest =>
    simp [State.executionBusy, State.homeFeeder, State.moveSorterToPosition,
      State.beginMove] at idle
  case queueFeed | queueForcedFeed => exact (queued _ _ idle).elim
  all_goals exact ⟨rfl, rfl, rfl⟩

theorem commanded {s t : State} (step : Commanded s t) (idle : t.executionBusy = false)
    (known : t.machineState.sorter.positionKnown) : SamePlace s t := by
  cases step with
  | quiet same => exact of_linkOnly same
  | stopped stop =>
    rw [stop.machine] at known
    cases known
  | switched _ machine =>
    rw [machine]
    exact ⟨rfl, rfl, rfl⟩
  | acted s₁ result ticks _ asked prepared permitted done =>
    have before : SamePlace s s₁ := by
      rw [prepared.machine]
      exact ⟨rfl, rfl, rfl⟩
    rw [done.executionBusy] at idle
    rw [done.machineState] at known
    exact before.trans ((applyV1Action result ticks idle known).trans (of_linkOnly done))

end SamePlace

theorem exec_rests {s : State} (co : Coordinated s) (rest : s.executionBusy = false)
    {routine : Routine} (serial : ∀ byte t, routine ≠ .serialByte byte t)
    (pending : ∀ t, routine ≠ .dispatchPending t) :
    (exec s routine).sorter = s.sorter ∧ SamePlace s (exec s routine) := by
  have still := Coordinated.rest_of_idle rest
  have unchanged {t : State} (same : t = s) : t.sorter = s.sorter ∧ SamePlace s t :=
    same ▸ ⟨rfl, .refl t⟩
  simp only [State.executionBusy, Bool.or_eq_false_iff] at rest
  cases routine with
  | serialByte byte t => exact absurd rfl (serial byte t)
  | dispatchPending t => exact absurd rfl (pending t)
  | getProxState sensor now => exact ⟨rfl, rfl, rfl, rfl⟩
  | updateSlotDropGate now => exact unchanged (State.updateSlotDropGate_inactive still.gate now)
  | runSortMotor => exact unchanged (State.runSortMotor_still still.sorting)
  | onSortComplete now => exact unchanged (State.onSortComplete_unfinished (by simp [rest]) now)
  | scheduleRun t => exact unchanged (State.scheduleRun_unscheduled (by simp [rest]) t)
  | checkFeedErrors => exact unchanged (State.checkFeedErrors_still still.feeding still.feedHoming)
  | runFeedMotor => exact unchanged (State.runFeedMotor_still still.feeding)
  | homeFeedMotor sensor now =>
    exact unchanged (State.homeFeedMotor_still still.feedHoming still.feedHomingOffset sensor now)
  | homeSortMotor sensor now => exact unchanged (State.homeSortMotor_still still.homing sensor now)
  | serviceSorterJog => exact unchanged (s.serviceSorterJog_inactive still.jog co.jogEnded)
  | onFeedComplete now =>
    have settled := s.onFeedComplete_settled now
    refine ⟨settled.sorter, ?_, ?_, (s.onFeedComplete_faultless now).machineState⟩
    · rw [exec, settled.sorter]
    · rw [exec, settled.motion]
  | runAux raw sortRaw t now =>
    refine unchanged (?_ : s.runAux raw sortRaw t now = s)
    simp [State.runAux, State.runTestCycle, State.runSortTestCycle, rest]
  | motorStandByCheck now =>
    dsimp only [exec, State.motorStandByCheck]
    split_ifs <;> exact ⟨rfl, rfl, rfl, rfl⟩
  | serviceV2PhysicalRequest =>
    dsimp only [exec, State.serviceV2PhysicalRequest]
    split_ifs <;> exact ⟨rfl, rfl, rfl, rfl⟩
  | emitV2StateIfChanged =>
    have linked := s.emitV2StateIfChanged_linkOnly
    exact ⟨linked.sameMotion.sorter, .of_linkOnly linked⟩

theorem exec_idle {s : State} (co : Coordinated s) (rest : s.executionBusy = false)
    (routine : Routine) : Commanded s (exec s routine) ∨
      ((exec s routine).sorter = s.sorter ∧ SamePlace s (exec s routine)) := by
  cases routine
  case serialByte byte t => exact .inl (s.serialByte_commanded byte t)
  case dispatchPending t => exact .inl (s.dispatchPending_commanded t)
  all_goals exact .inr (exec_rests co rest nofun nofun)

theorem exec_samePlace {s : State} (co : Coordinated s) (rest : s.executionBusy = false)
    {routine : Routine} (idle : (exec s routine).executionBusy = false)
    (known : (exec s routine).machineState.sorter.positionKnown) :
    SamePlace s (exec s routine) := by
  rcases exec_idle co rest routine with step | ⟨-, same⟩
  · exact .commanded step idle known
  · exact same

/-- Every call leaves the machine idle and the sorter known. -/
def Waits (s : State) (routines : List Routine) : Prop :=
  Meets sketchStep (fun u routine => (exec u routine).executionBusy = false ∧
    (exec u routine).machineState.sorter.positionKnown) s routines

instance (s : State) (routines : List Routine) : Decidable (Waits s routines) := by
  unfold Waits
  infer_instance

theorem Waits.samePlace {s : State} {routines : List Routine} (h : Waits s routines)
    (co : Coordinated s) (rest : s.executionBusy = false) :
    SamePlace s (execAll s routines) ∧ (execAll s routines).executionBusy = false := by
  induction routines generalizing s with
  | nil => exact ⟨.refl s, rest⟩
  | cons routine routines ih =>
    have after := ih (h.2 _ rfl) (co.exec routine) h.1.1
    exact ⟨(exec_samePlace co rest h.1.1 h.1.2).trans after.1, after.2⟩

/-- The arm is on its way to `slot`, and stands at `target` when no step is left. -/
structure Underway (slot target : Int) (s : State) : Prop where
  sorting : s.sorter.isSorting
  homing : s.sorter.isSortHoming = false
  slot : s.sorter.qPos1 = slot
  aim : displacement s.motion = target + s.sorter.sortStepsToNextPosition
  feeder : s.machineState.feeder.recoveryInProgress = false

/-- The move is over; if the position was not lost the arm stands at `target`. -/
def Landed (target : Int) (s : State) : Prop :=
  s.sorter.isSorting = false ∧
    (s.machineState.sorter.positionKnown → displacement s.motion = target)

namespace Underway

variable {slot target : Int} {s t : State}

theorem of_same (h : Underway slot target s) (sorter : t.sorter = s.sorter)
    (motion : displacement t.motion = displacement s.motion)
    (axis : t.machineState.feeder = s.machineState.feeder) : Underway slot target t where
  sorting := sorter ▸ h.sorting
  homing := sorter ▸ h.homing
  slot := sorter ▸ h.slot
  aim := by rw [motion, sorter, h.aim]
  feeder := axis ▸ h.feeder

theorem of_linkOnly (h : Underway slot target s) (same : LinkOnly s t) :
    Underway slot target t := by
  rw [same.machine]
  exact h.of_same rfl rfl rfl

theorem commanded (h : Underway slot target s) (step : Commanded s t) :
    Underway slot target t ∨ Landed target t := by
  have busy : s.executionBusy = true := by simp [State.executionBusy, h.sorting]
  cases step with
  | quiet same => exact .inl (h.of_linkOnly same)
  | stopped stop =>
    right
    rw [stop.machine]
    exact ⟨rfl, by rintro ⟨⟩⟩
  | switched idle => cases idle.symm.trans busy
  | acted s₁ result ticks idle => cases idle.symm.trans busy

theorem runSortMotor (h : Underway slot target s) (away : slot ≠ 0) :
    Underway slot target s.runSortMotor ∨ Landed target s.runSortMotor := by
  have aim := h.aim
  unfold State.runSortMotor
  split_ifs with idle arrived zero
  · exact .inl h
  · exact absurd (h.slot.symm.trans zero) away
  · refine .inr ⟨rfl, fun _ => ?_⟩
    rw [arrived, Int.add_zero] at aim
    exact aim
  · refine .inl ⟨h.sorting, h.homing, h.slot, ?_, h.feeder⟩
    generalize decide (0 < s.sorter.sortStepsToNextPosition) = forward
    change displacement s.motion + (if forward then -1 else 1) =
      target + (s.sorter.sortStepsToNextPosition + if forward then -1 else 1)
    omega

theorem completeFeedHoming (h : Underway slot target s) (now : UInt32) :
    Underway slot target (s.completeFeedHoming now) ∨
      Landed target (s.completeFeedHoming now) := by
  have ended : Underway slot target (s.feedHomingEnds now) := by
    have same : (s.stopFeedHoming now).updateRecoveryCompletion .feeder = s.stopFeedHoming now := by
      unfold State.updateRecoveryCompletion
      exact if_pos (by simpa [State.stopFeedHoming, MachineState.axis] using h.feeder)
    unfold State.feedHomingEnds
    rw [same]
    dsimp only
    split_ifs <;> exact h.of_same rfl rfl rfl
  dsimp only [State.completeFeedHoming]
  split_ifs
  · exact .inr ⟨rfl, by rintro ⟨⟩⟩
  · rw [State.reportMotion_machine]
    exact .inl (ended.of_same rfl rfl rfl)

theorem feedHomingOffsetStep (h : Underway slot target s) (now : UInt32) :
    Underway slot target (s.feedHomingOffsetStep now) ∨
      Landed target (s.feedHomingOffsetStep now) := by
  unfold State.feedHomingOffsetStep
  split_ifs
  · exact .inl h
  · exact h.completeFeedHoming now
  · exact .inl (h.of_same rfl rfl rfl)
  · exact h.completeFeedHoming now

theorem homeFeedMotor (h : Underway slot target s) (sensor : Bool) (now : UInt32) :
    Underway slot target (s.homeFeedMotor sensor now) ∨
      Landed target (s.homeFeedMotor sensor now) := by
  have found : Underway slot target
      { s with feeder.isFeedHoming := false
               feeder.isFeedHomingOffset := true
               feeder.feedHomingOffsetSteps := s.drive.feedHomingOffset } :=
    h.of_same rfl rfl rfl
  dsimp only [State.homeFeedMotor]
  split_ifs
  · exact h.completeFeedHoming now
  · exact found.feedHomingOffsetStep now
  · exact .inl (h.of_same rfl rfl rfl)
  · exact h.feedHomingOffsetStep now

theorem checkFeedErrors (h : Underway slot target s) :
    Underway slot target s.checkFeedErrors ∨ Landed target s.checkFeedErrors := by
  have moving : s.sorterMoving := by simp [State.sorterMoving, h.sorting]
  dsimp only [State.checkFeedErrors]
  split_ifs
  · rw [State.reportFeedOvertravel_machine]
    dsimp only [State.feedOvertravel]
    rw [if_pos moving]
    exact .inr ⟨rfl, by rintro ⟨⟩⟩
  · exact .inl h

theorem runAux (h : Underway slot target s) (co : Coordinated s) (raw sortRaw : Nat) (t : Ticks)
    (now : UInt32) : Underway slot target (s.runAux raw sortRaw t now) := by
  have moving := (co.sorting h.sorting).1
  have tested : (s.runTestCycle raw t).sorter = s.sorter ∧
      Underway slot target (s.runTestCycle raw t) := by
    dsimp only [State.runTestCycle]
    split_ifs with active
    · simp only [Bool.and_eq_true, Bool.not_eq_true'] at active
      rcases co.testSort active.1.1 h.sorting with scheduled | cycle
      · exact absurd (active.1.2.symm.trans scheduled) nofun
      · exact absurd (active.2.symm.trans cycle) nofun
    · exact ⟨rfl, h.of_same rfl rfl rfl⟩
    · exact ⟨rfl, h⟩
  unfold State.runAux
  split_ifs
  · exact h
  · unfold State.runSortTestCycle
    rw [tested.1, moving, Bool.not_true, Bool.and_false, if_neg nofun]
    exact tested.2

theorem exec (h : Underway slot target s) (co : Coordinated s) (away : slot ≠ 0)
    (routine : Routine) : Underway slot target (Firmware.exec s routine) ∨
      Landed target (Firmware.exec s routine) := by
  cases routine with
  | serialByte byte t => exact h.commanded (s.serialByte_commanded byte t)
  | dispatchPending t => exact h.commanded (s.dispatchPending_commanded t)
  | getProxState sensor now => exact .inl (h.of_same rfl rfl rfl)
  | updateSlotDropGate now =>
    have gate : s.sorter.slotDropGate.active = false := by
      rw [Bool.eq_false_iff]
      intro gated
      exact absurd ((co.gated gated).2.1.symm.trans h.sorting) nofun
    rw [Firmware.exec, State.updateSlotDropGate_inactive gate]
    exact .inl h
  | runSortMotor => exact h.runSortMotor away
  | onSortComplete now =>
    rw [Firmware.exec, State.onSortComplete_unfinished (by simp [(co.sorting h.sorting).2])]
    exact .inl h
  | scheduleRun t =>
    dsimp only [Firmware.exec, State.scheduleRun]
    split_ifs <;> exact .inl (h.of_same rfl rfl rfl)
  | checkFeedErrors => exact h.checkFeedErrors
  | runFeedMotor =>
    dsimp only [Firmware.exec, State.runFeedMotor]
    split_ifs <;> exact .inl (h.of_same rfl rfl rfl)
  | homeFeedMotor sensor now => exact h.homeFeedMotor sensor now
  | homeSortMotor sensor now =>
    rw [Firmware.exec, State.homeSortMotor_still h.homing]
    exact .inl h
  | serviceSorterJog =>
    have jog : s.sorter.sorterJog.active = false := by
      rw [Bool.eq_false_iff]
      intro jogging
      exact absurd ((co.jogging jogging).1.symm.trans h.sorting) nofun
    rw [Firmware.exec, s.serviceSorterJog_inactive jog co.jogEnded]
    exact .inl h
  | onFeedComplete now =>
    have settled := s.onFeedComplete_settled now
    have same := (s.onFeedComplete_faultless now).machineState
    exact .inl (h.of_same settled.sorter (by rw [Firmware.exec, settled.motion])
      (congrArg MachineState.feeder same))
  | runAux raw sortRaw t now => exact .inl (h.runAux co raw sortRaw t now)
  | motorStandByCheck now =>
    dsimp only [Firmware.exec, State.motorStandByCheck]
    split_ifs <;> exact .inl (h.of_same rfl rfl rfl)
  | serviceV2PhysicalRequest =>
    dsimp only [Firmware.exec, State.serviceV2PhysicalRequest]
    split_ifs <;> exact .inl (h.of_same rfl rfl rfl)
  | emitV2StateIfChanged => exact .inl (h.of_linkOnly s.emitV2StateIfChanged_linkOnly)

end Underway

/-- Every call finds the move under way. -/
def Moves (s : State) (routines : List Routine) : Prop :=
  Meets sketchStep (fun u _ => u.sorter.isSorting) s routines

instance (s : State) (routines : List Routine) : Decidable (Moves s routines) := by
  unfold Moves
  infer_instance

theorem Underway.landed {slot target : Int} {s : State} {routines : List Routine}
    (h : Underway slot target s) (co : Coordinated s) (away : slot ≠ 0)
    (moves : Moves s routines) (ended : (execAll s routines).sorter.isSorting = false) :
    Landed target (execAll s routines) := by
  induction routines generalizing s with
  | nil => exact absurd (ended.symm.trans h.sorting) nofun
  | cons routine routines ih =>
    have rest : Moves (Firmware.exec s routine) routines := moves.2 _ rfl
    rcases h.exec co away routine with goesOn | landed
    · exact ih goesOn (co.exec routine) rest ended
    · cases routines with
      | nil => exact landed
      | cons => exact absurd (landed.1.symm.trans rest.1) nofun

theorem Asked.configuration {s : State} {result : V1DispatchResult} {c : Configuration}
    (asked : Asked s result c) (moves : result.action = .sortTo ∨ result.action = .queueFeed ∨
      result.action = .queueForcedFeed) : c = s.configuration := by
  obtain ⟨command, context, -, -, dispatch⟩ := asked
  have action := dispatchV1Command_action command context s.configuration v1DispatchLimits
  have kept := dispatchV1Command_configuration_of_not_setter command context s.configuration
    v1DispatchLimits
  rw [dispatch] at action kept
  refine kept ?_
  dsimp only at action
  rcases action with none | ⟨waits, -⟩ | ⟨granted, -⟩
  · simp [none] at moves
  · simp [waits] at moves
  · rw [granted] at moves
    revert moves
    cases classifyV1Command command <;> simp [V1Command.action, v1CommandIsSetter]

/-- A move that begins at rest is planned from the slot of `qPos1`. -/
structure Begins (s t : State) : Prop where
  homing : t.sorter.isSortHoming = false
  aim : displacement t.motion = displacement s.motion +
    (s.positionSteps t.sorter.qPos1 - s.positionSteps s.sorter.qPos1) +
      t.sorter.sortStepsToNextPosition
  steps : t.configuration.sortSteps = s.configuration.sortSteps
  machineState : t.machineState = s.machineState

theorem Begins.beginMove {s : State} (homing : s.sorter.isSortHoming = false)
    (position next : Int) : Begins s (s.beginMove position next) := by
  refine ⟨homing, ?_, rfl, rfl⟩
  dsimp only [State.beginMove]
  omega

theorem Begins.queueFeed {s : State} (sorting : s.sorter.isSorting = false)
    (homing : s.sorter.isSortHoming = false) (position : Int) (t : Ticks)
    (begun : (s.queueFeed position t).sorter.isSorting) : Begins s (s.queueFeed position t) := by
  have scheduled (u : State) : (u.scheduleFeed.scheduleRun t).sorter = u.sorter ∧
      (u.scheduleFeed.scheduleRun t).motion = u.motion ∧
      (u.scheduleFeed.scheduleRun t).configuration = u.configuration ∧
      (u.scheduleFeed.scheduleRun t).machineState = u.machineState := by
    dsimp only [State.scheduleRun, State.scheduleFeed]
    split_ifs <;> exact ⟨rfl, rfl, rfl, rfl⟩
  obtain ⟨sorter, motion, configuration, machine⟩ :=
    scheduled (s.moveSorterToNextPosition position t.now)
  unfold State.queueFeed at begun ⊢
  rw [sorter] at begun
  dsimp only [State.moveSorterToNextPosition] at begun sorter motion configuration machine ⊢
  split_ifs at begun sorter motion configuration machine ⊢
  · exact absurd (sorting.symm.trans begun) nofun
  · have move := Begins.beginMove homing s.sorter.qPos2 position
    exact ⟨sorter ▸ move.homing, by rw [motion, sorter]; exact move.aim,
      by rw [configuration]; exact move.steps, machine.trans move.machineState⟩

theorem Begins.applyV1Action {s : State} (idle : s.executionBusy = false)
    (result : V1DispatchResult) (t : Ticks)
    (begun : (s.applyV1Action result t).sorter.isSorting) :
    Begins s (s.applyV1Action result t) ∧
      (result.action = .sortTo ∨ result.action = .queueFeed ∨
      result.action = .queueForcedFeed) := by
  have rest := Coordinated.rest_of_idle idle
  unfold State.applyV1Action at begun ⊢
  cases action : result.action <;> rw [action] at begun
  case sortTo => exact ⟨.beginMove rest.homing _ _, .inl rfl⟩
  case queueFeed =>
    have move := Begins.queueFeed (s := s.setForceFeed false) rest.sorting rest.homing _ t begun
    exact ⟨⟨move.homing, move.aim, move.steps, move.machineState⟩, .inr (.inl rfl)⟩
  case queueForcedFeed =>
    have move := Begins.queueFeed (s := s.setForceFeed true) rest.sorting rest.homing _ t begun
    exact ⟨⟨move.homing, move.aim, move.steps, move.machineState⟩, .inr (.inr rfl)⟩
  case stop | homeSorter => cases begun
  all_goals exact absurd (rest.sorting.symm.trans begun) nofun

theorem Begins.commanded {s t : State} (idle : s.executionBusy = false) (step : Commanded s t)
    (begun : t.sorter.isSorting) : Begins s t := by
  have rest := Coordinated.rest_of_idle idle
  cases step with
  | quiet same =>
    rw [same.sameMotion.sorter] at begun
    exact absurd (rest.sorting.symm.trans begun) nofun
  | stopped stop =>
    rw [stop.machine] at begun
    cases begun
  | switched _ machine =>
    rw [machine] at begun
    exact absurd (rest.sorting.symm.trans begun) nofun
  | acted s₁ result ticks _ asked prepared permitted done =>
    have still : s₁.executionBusy = false := by
      rw [prepared.machine]
      exact idle
    rw [done.sameMotion.sorter] at begun
    obtain ⟨move, moves⟩ := Begins.applyV1Action still result ticks begun
    have kept := asked.configuration moves
    have motion : s₁.motion = s.motion := by rw [prepared.machine]
    have sorter : s₁.sorter = s.sorter := by rw [prepared.machine]
    have planned (position : Int) : s₁.positionSteps position = s.positionSteps position := by
      rw [State.positionSteps, kept, State.positionSteps]
    have aim := move.aim
    rw [motion, sorter, planned, planned] at aim
    rw [done.machine]
    refine ⟨move.homing, aim, ?_, ?_⟩
    · exact move.steps.trans (congrArg Configuration.sortSteps kept)
    · refine move.machineState.trans ?_
      rw [prepared.machine]

theorem exec_begins {s : State} (co : Coordinated s) (idle : s.executionBusy = false)
    {routine : Routine} (begun : (exec s routine).sorter.isSorting) :
      Begins s (exec s routine) := by
  rcases exec_idle co idle routine with step | ⟨sorter, -⟩
  · exact .commanded idle step begun
  · rw [sorter] at begun
    exact absurd ((Coordinated.rest_of_idle idle).sorting.symm.trans begun) nofun

theorem offset_vanishes_iff (q p : Int) (old n : Nat) :
    q * old * sortMicrosteps + (p * n * sortMicrosteps - q * n * sortMicrosteps) =
      p * n * sortMicrosteps ↔ q = 0 ∨ n = old := by
  have factored : q * old * sortMicrosteps + (p * n * sortMicrosteps - q * n * sortMicrosteps) -
      p * n * sortMicrosteps = q * ((old - n : Int) * sortMicrosteps) := by ring
  rw [← sub_eq_zero, factored]
  have micro : sortMicrosteps ≠ 0 := by decide
  simp only [mul_eq_zero, micro, or_false]
  omega

/-- From a homed and idle machine whose arm stands at the slot of `qPos1`, a line of the
`sortsteps` setter and a later move to a slot other than 0 bring the arm to that slot if and
only if the arm stood at slot 0 or the step separation is the one it stood by. -/
theorem sortSteps_keepsPosition_iff (now : UInt32) (before : List Routine) {setter : Routine}
    {waiting : List Routine} {begins : Routine} {moving : List Routine} {command : Bytes}
    {slot : Int} :
    let s := execAll (boot now) before
    let ready := execAll (exec s setter) waiting
    let started := exec ready begins
    let ended := execAll started moving
    s.executionBusy = false → s.machineState.feeder.positionKnown →
    s.machineState.sorter.positionKnown →
    displacement s.motion = s.sorter.qPos1 * s.configuration.sortSteps * sortMicrosteps →
    (handled s setter).line = some command → classifyV1Command command = .sortSteps →
    Waits (exec s setter) waiting →
    started.sorter.isSorting → started.sorter.qPos1 = slot → 0 < slot →
    Moves started moving → ended.sorter.isSorting = false →
    ended.machineState.sorter.positionKnown →
    (displacement ended.motion = slot * ready.configuration.sortSteps * sortMicrosteps ↔
      s.sorter.qPos1 = 0 ∨ ready.configuration.sortSteps = s.configuration.sortSteps) := by
  intro s ready started ended idle feeder sorter stands line kind waits begun toSlot away moves
    arrived known
  have co : Coordinated s := (Coordinated.boot now).execAll before
  have unfed : Unfed s := (Unfed.boot now).execAll (.boot now) before
  have configured := exec_configured line kind
  have still : (exec s setter).executionBusy = false := configured.executionBusy.trans idle
  obtain ⟨place, rest⟩ := waits.samePlace (co.exec setter) still
  have stays : SamePlace s ready := (SamePlace.of_configured configured).trans place
  have reached : Coordinated ready := (co.exec setter).execAll waiting
  have move : Begins ready started := exec_begins reached rest begun
  have recovered : started.machineState.feeder.recoveryInProgress = false := by
    rw [move.machineState, stays.machineState]
    exact unfed.known feeder
  have way : Underway slot _ started := ⟨begun, move.homing, toSlot, move.aim, recovered⟩
  have landed := (way.landed (reached.exec begins) (by omega) moves arrived).2 known
  rw [landed, stays.displacement, toSlot, stays.position, stands]
  exact offset_vanishes_iff _ _ _ _

def feederHomed : State := loop sorterHomed (iteration "@3 homefeeder\n" true false)

def oneBegun : State := loop feederHomed (iteration "@2 sortto:1\n" false false)

def oneEnding : State :=
  { oneBegun with
      drive.sortDelayMs :=
        State.accSortDelay oneBegun.drive oneBegun.sorter.sortStepsToNextPositionTracker (-1)
      sorter.sortStepsToNextPosition := 0
      motorDriversEnabled := true
      motion := List.replicate 319 (.sortStep .move false) ++ oneBegun.motion }

def atOne : State := loop oneEnding silence

theorem oneBegun_moving : Moving silence (318 + 1) oneBegun := by decide +kernel

def atOneInputs : List LoopInput :=
  sorterHoming ++ (iteration "@3 homefeeder\n" true false :: sortToOne)

theorem iterate_atOneInputs : iterate (boot 0) atOneInputs = atOne := by
  have start : iterate sorterHomed (iteration "@3 homefeeder\n" true false :: sortToOne) =
      iterate oneBegun (List.replicate 319 silence ++ [silence]) := by
    simp only [sortToOne, iterate, List.foldl_cons, oneBegun, feederHomed]
  rw [atOneInputs, iterate_append, iterate_sorterHoming, start, iterate_append,
    oneBegun_moving.iterate 318]
  simp only [iterate, List.foldl_cons, List.foldl_nil, atOne, oneEnding]

/-- The bytes of `line` without its end, on an arm at slot 1. -/
def typed (line : String) : List Routine :=
  atOneInputs.flatMap loopRoutines ++ lineRoutines (ascii line)

theorem execAll_typed (line : String) :
    execAll (boot 0) (typed line) = execAll atOne (lineRoutines (ascii line)) := by
  have reached : execAll (boot 0) (atOneInputs.flatMap loopRoutines) = atOne := by
    rw [execAll_flatMap, iterate_atOneInputs]
  rw [typed, ← reached]
  exact List.foldl_append

def backToOne : List Routine := lineRoutines (ascii "@5 sortto:1")

theorem sortSteps_keepsPosition_unchanged :
    let started := exec (execAll (exec (execAll (boot 0) (typed "@4 sortsteps:20")) newline)
      backToOne) newline
    displacement (execAll started [.runSortMotor]).motion = 1 * (20 : Nat) * sortMicrosteps := by
  have position := @sortSteps_keepsPosition_iff 0 (typed "@4 sortsteps:20") newline
    backToOne newline
    [.runSortMotor] (ascii "sortsteps:20") 1
  dsimp only at position ⊢
  rw [execAll_typed] at position ⊢
  generalize run : execAll atOne (lineRoutines (ascii "@4 sortsteps:20")) = s at position ⊢
  obtain ⟨idle, feeder, sorter, stands, line, waits, begun, slot, moves, arrived, known, kept⟩ :
      s.executionBusy = false ∧ s.machineState.feeder.positionKnown ∧
      s.machineState.sorter.positionKnown ∧
      displacement s.motion = s.sorter.qPos1 * s.configuration.sortSteps * sortMicrosteps ∧
      (handled s newline).line = some (ascii "sortsteps:20") ∧
      Waits (exec s newline) backToOne ∧
      (exec (execAll (exec s newline) backToOne) newline).sorter.isSorting ∧
      (exec (execAll (exec s newline) backToOne) newline).sorter.qPos1 = 1 ∧
      Moves (exec (execAll (exec s newline) backToOne) newline) [.runSortMotor] ∧
      (execAll (exec (execAll (exec s newline) backToOne) newline)
        [.runSortMotor]).sorter.isSorting = false ∧
      (execAll (exec (execAll (exec s newline) backToOne) newline)
        [.runSortMotor]).machineState.sorter.positionKnown ∧
      (execAll (exec s newline) backToOne).configuration.sortSteps = 20 ∧
      s.configuration.sortSteps = 20 := by
    rw [← run]
    decide +kernel
  rw [kept.1] at position
  exact (position idle feeder sorter stands line (by decide) waits begun slot (by decide) moves
    arrived known).mpr (.inr kept.2.symm)

/-- After `sortsteps:10` the arm stays where slot 1 was. -/
theorem sortSteps_movesSlots :
    let s := execAll (boot 0) (typed "@4 sortsteps:10")
    let ready := execAll (exec s newline) backToOne
    let started := exec ready newline
    let ended := execAll started [.runSortMotor]
    s.executionBusy = false ∧ s.machineState.bothPositionsKnown ∧
    displacement s.motion = s.sorter.qPos1 * s.configuration.sortSteps * sortMicrosteps ∧
    (exec s newline).configuration.sortSteps = 10 ∧ Waits (exec s newline) backToOne ∧
    started.sorter.isSorting ∧ started.sorter.qPos1 = 1 ∧ ended.sorter.isSorting = false ∧
    ended.machineState.sorter.positionKnown ∧
    displacement ended.motion ≠ 1 * 10 * sortMicrosteps := by
  dsimp only
  rw [execAll_typed]
  decide +kernel

end CaseSorter.Firmware
