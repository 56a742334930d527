import CaseSorter.Firmware.Coordination
import CaseSorter.Firmware.RequestLedger

/-! No feed in protocol v2. A feed, a test cycle and the completion of a feed begin in v1
only, and the change to v2 finds none of them: nothing that announces them runs in v2. -/

namespace CaseSorter.Firmware

/-- No feed is scheduled, under way or being completed, and no test cycle is on; a cycle that
is marked complete was ended by an overtravel. -/
structure Fasting (f : Feeder) (d : Diagnostics) (c : FeedCompletion) : Prop where
  scheduled : f.feedScheduled = false
  feeding : f.isFeeding = false
  cycle : f.feedCycleInProgress = false
  complete : f.feedCycleComplete = true → f.isFeedError = true
  test : d.isTestCycle = false
  sortTest : d.isSortTestCycle = false
  completion : c.isActive = false

def State.Fasts (s : State) : Prop := Fasting s.feeder s.diagnostics s.feedCompletion

/-- A recovery of the feeder, which clears the fault, finds no cycle to complete. -/
structure Uncycled (s : State) : Prop where
  known : s.machineState.feeder.positionKnown = true →
    s.machineState.feeder.recoveryInProgress = false
  recovering : s.machineState.feeder.recoveryInProgress = true →
    s.feeder.feedScheduled = false ∧ s.feeder.feedCycleInProgress = false ∧
      s.feeder.feedCycleComplete = false

structure Unfed (s : State) : Prop extends Uncycled s where
  v2 : s.link.session.mode = .v2 → s.Fasts

def V1Action.feeds : V1Action → Bool
  | .queueFeed | .queueForcedFeed | .startTest | .startSortTest => true
  | _ => false

namespace State

theorem Fasts.of_linkOnly {s t : State} (h : s.Fasts) (same : LinkOnly s t) : t.Fasts := by
  rw [same.machine]
  exact h

theorem fasts_of_idle {s : State} (idle : s.executionBusy = false) : s.Fasts := by
  simp only [executionBusy, Bool.or_eq_false_iff, Bool.and_eq_false_iff] at idle
  obtain ⟨⟨⟨⟨⟨⟨⟨⟨⟨⟨⟨⟨⟨⟨scheduled, feeding⟩, -⟩, -⟩, cycle⟩,
    complete⟩, completion⟩, -⟩, -⟩, -⟩, -⟩, -⟩, -⟩, test⟩, sortTest⟩ := idle
  refine ⟨scheduled, feeding, cycle, fun ended => ?_, test, sortTest, completion⟩
  simpa [ended] using complete

theorem enterStoppedState_fasts (s : State) : s.enterStoppedState.Fasts :=
  ⟨rfl, rfl, rfl, nofun, rfl, rfl, rfl⟩

theorem Fasts.applyV1Action {s : State} (h : s.Fasts) {result : V1DispatchResult} (t : Ticks)
    (other : result.action.feeds = false) : (s.applyV1Action result t).Fasts := by
  unfold State.applyV1Action
  cases action : result.action with
  | stop => exact s.enterStoppedState_fasts
  | homeFeeder => exact ⟨h.scheduled, rfl, rfl, nofun, h.test, h.sortTest, h.completion⟩
  | queueFeed | queueForcedFeed | startTest | startSortTest =>
    rw [action] at other
    cases other
  | applyFeedHomingOffset =>
    exact ⟨h.scheduled, h.feeding, h.cycle, h.complete, h.test, h.sortTest, h.completion⟩
  | _ => exact h

theorem dispatched_feeds {payload : Bytes} {context : V1DispatchContext} {c : Configuration}
    (kind : v1CommandIsSetter (classifyV1Command payload) = true ∨
      physicalCommand (classifyV1Command payload) = true) :
    (dispatchV1Command payload context c v1DispatchLimits).1.action.feeds = false := by
  have action := dispatchV1Command_action payload context c v1DispatchLimits
  rcases action with action | ⟨action, -⟩ | ⟨action, -⟩ <;> rw [action]
  · rfl
  · rfl
  · generalize classifyV1Command payload = command at kind
    rcases kind with kind | kind <;> cases command <;> first | rfl | cases kind

theorem Fasts.handleV2Setter {s : State} (h : s.Fasts) (requestId : Nat) (payload : Bytes)
    (t : Ticks) (setter : v1CommandIsSetter (classifyV1Command payload) = true) :
    (s.handleV2Setter requestId payload (classifyV1Command payload) t).Fasts := by
  unfold State.handleV2Setter beginV2Setter
  cases refuses : s.refuseV2Request requestId with
  | some refusal => exact h.of_linkOnly (refuseV2Request_some refuses)
  | none =>
    have begun := h.of_linkOnly (s.beginV2Active_linkOnly requestId)
    dsimp only
    split_ifs
    · dsimp only [applyV2Setter]
      generalize (s.beginV2Active requestId).1 = u at begun ⊢
      have other := @dispatched_feeds payload
        (u.dispatchContext u.machineState.isRunning false false) u.configuration (.inl setter)
      have stored (c : Configuration) : (u.setConfiguration c).Fasts := begun
      split_ifs
      · exact (stored _).of_linkOnly (emitV2SetterError_linkOnly _ _ _ _)
      · exact ((stored _).applyV1Action t other).of_linkOnly
          ((advanceConfigGeneration_linkOnly _).trans (emitV2SetterDone_linkOnly _ _ _))
    · exact begun

theorem Fasts.acceptV2PhysicalRequest {s : State} (h : s.Fasts) (requestId : Nat)
    (operation : PhysicalRequestOperation) {result : V1DispatchResult} (t : Ticks)
    (other : result.action.feeds = false) :
    (s.acceptV2PhysicalRequest requestId operation result t).Fasts := by
  unfold State.acceptV2PhysicalRequest
  dsimp only
  generalize PhysicalRequestTracker.begin _ requestId operation result.value = begun
  have tracked (fields : List Field) :
      ((s.respond requestId .accepted fields).setTracker begun.1).Fasts := h
  split_ifs
  · exact (tracked _).applyV1Action t other
  · exact (tracked _).applyV1Action t other
  · exact (tracked _).of_linkOnly (emitV2Terminal_linkOnly _ _ _ _)
  · exact (tracked _).of_linkOnly (emitV2Terminal_linkOnly _ _ _ _)

theorem Fasts.beginV2PhysicalRequest {s : State} (h : s.Fasts) (requestId : Nat) (payload : Bytes)
    (operation : PhysicalRequestOperation) (command : V1Command) (t : Ticks)
    (physical : physicalCommand (classifyV1Command payload) = true) :
    (s.beginV2PhysicalRequest requestId payload operation command t).Fasts := by
  unfold State.beginV2PhysicalRequest
  split
  case h_1 refusal refuses => exact h.of_linkOnly (refuseV2Request_some refuses)
  case h_2 =>
    dsimp only
    generalize s.dispatchContext _ false false = context
    have other := @dispatched_feeds payload context s.configuration (.inr physical)
    generalize dispatchV1Command payload context s.configuration v1DispatchLimits = outcome
      at other ⊢
    have stored : (s.setConfiguration outcome.2).Fasts := h
    have begun := stored.of_linkOnly (beginV2Active_linkOnly _ requestId)
    dsimp only [startV2PhysicalRequest]
    split_ifs
    · exact begun
    · exact begun.of_linkOnly (emitV2Terminal_linkOnly _ _ _ _)
    · exact begun.of_linkOnly (emitV2Terminal_linkOnly _ _ _ _)
    · exact begun.acceptV2PhysicalRequest requestId operation t other

theorem Fasts.handleV2Stop {s : State} (h : s.Fasts) (requestId : Nat) :
    (s.handleV2Stop requestId).Fasts := by
  unfold State.handleV2Stop
  split_ifs
  · exact h.of_linkOnly (s.emitV2DuplicateId_linkOnly requestId)
  · dsimp only
    refine Fasts.of_linkOnly ?_ ((emitV2StateIfChanged_linkOnly _).trans (respond_linkOnly _ _ _ _))
    split_ifs
    · exact Fasts.of_linkOnly (enterStoppedState_fasts _) (respond_linkOnly _ _ _ _)
    · exact enterStoppedState_fasts _

theorem Fasts.handleV2ProtocolOne {s : State} (h : s.Fasts) (requestId : Nat) :
    (s.handleV2ProtocolOne requestId).Fasts := by
  unfold State.handleV2ProtocolOne
  split_ifs
  · exact h.of_linkOnly (s.emitV2Busy_linkOnly 0 0)
  · split
    case h_1 refusal refuses => exact h.of_linkOnly (refuseV2Request_some refuses)
    case h_2 =>
      have begun := h.of_linkOnly (s.beginV2Immediate_linkOnly requestId)
      have ended :=
        begun.of_linkOnly (emitV2Terminal_linkOnly _ requestId .done [("protocol", "1")])
      dsimp only
      split_ifs
      · exact begun
      · exact ended
      · exact ended

theorem Fasts.handleV2Request {s : State} (h : s.Fasts) (requestId : Nat) (payload : Bytes)
    (t : Ticks) : (s.handleV2Request requestId payload t).Fasts := by
  unfold State.handleV2Request
  dsimp only
  split_ifs with stop one config begun setter all feeder sorter sortTo
  · exact h.handleV2Stop requestId
  · exact h.handleV2ProtocolOne requestId
  · exact h.of_linkOnly
      ((s.beginV2Immediate_linkOnly requestId).trans (emitV2Configuration_linkOnly _ _))
  · exact h.of_linkOnly (s.beginV2Immediate_linkOnly requestId)
  · exact h.handleV2Setter requestId payload t setter
  · exact h.beginV2PhysicalRequest requestId _ .homeAll .homeFeeder t (by decide)
  · exact h.beginV2PhysicalRequest requestId payload .homeFeeder _ t (by rw [feeder]; rfl)
  · exact h.beginV2PhysicalRequest requestId payload .homeSorter _ t (by rw [sorter]; rfl)
  · exact h.beginV2PhysicalRequest requestId payload .sortTo _ t (by rw [sortTo]; rfl)
  · exact h.of_linkOnly (s.handleV2Immediate_linkOnly requestId payload t)

theorem Fasts.consumeV2 {s : State} (h : s.Fasts) (byte : UInt8) (t : Ticks) :
    (s.consumeV2 byte t).Fasts := by
  unfold State.consumeV2
  generalize s.link.session.parser.consume byte = consumed
  obtain ⟨parser, result⟩ := consumed
  have parsed : (s.setV2Parser parser).Fasts := h
  cases result with
  | noFrame => exact parsed
  | frameOverflow | frameInvalid => exact parsed.of_linkOnly (emitV2Event_linkOnly _ _ _)
  | frameReady =>
    dsimp only [handleV2Frame]
    cases parseV2RequestEnvelope parser.buffer with
    | badFrame | badId =>
      exact parsed.of_linkOnly ((emitV2Event_linkOnly _ _ _).trans (setV2Parser_linkOnly _ _))
    | ready envelope =>
      exact (parsed.handleV2Request _ _ t).of_linkOnly (setV2Parser_linkOnly _ _)

end State

theorem Uncycled.of_same {s t : State} (h : Uncycled s) (feeder : t.feeder = s.feeder)
    (axis : t.machineState.feeder = s.machineState.feeder) : Uncycled t := by
  constructor
  · rw [axis]
    exact h.known
  · rw [axis, feeder]
    exact h.recovering

theorem uncycled_of_settled {s : State}
    (settled : s.machineState.feeder.recoveryInProgress = false) : Uncycled s :=
  ⟨fun _ => settled, fun recovering => (by rw [settled] at recovering; cases recovering)⟩

namespace State

theorem applyV1Action_mode (s : State) (result : V1DispatchResult) (t : Ticks) :
    (s.applyV1Action result t).link.session.mode = s.link.session.mode := by
  unfold applyV1Action
  cases result.action with
  | queueFeed | queueForcedFeed =>
    dsimp only [setForceFeed, queueFeed, scheduleRun, scheduleFeed, moveSorterToNextPosition]
    split_ifs <;> rfl
  | _ => rfl

end State

theorem Uncycled.applyV1Action {s : State} (h : Uncycled s) (running : s.machineState.RunningKnown)
    (idle : s.executionBusy = false) {result : V1DispatchResult} (t : Ticks)
    (permitted : result.action.permitted s.machineState = true) :
    Uncycled (s.applyV1Action result t) := by
  have settled (run : s.machineState.isRunning = true) :
      s.machineState.feeder.recoveryInProgress = false := h.known (running run).1
  have fasts := State.fasts_of_idle idle
  unfold State.applyV1Action
  cases action : result.action with
  | stop => exact uncycled_of_settled rfl
  | homeFeeder => exact ⟨nofun, fun _ => ⟨fasts.scheduled, rfl, rfl⟩⟩
  | queueFeed | queueForcedFeed =>
    rw [action] at permitted
    refine uncycled_of_settled ?_
    rw [State.queueFeed_machineState]
    exact settled permitted
  | startTest =>
    rw [action] at permitted
    exact uncycled_of_settled (settled permitted)
  | applyFeedHomingOffset => exact ⟨h.known, h.recovering⟩
  | _ => exact h.of_same rfl rfl

theorem Unfed.commandEffect {s t : State} (h : Unfed s) (running : s.machineState.RunningKnown)
    (effect : CommandEffect s t) (v2 : s.link.session.mode = .v2 → t.Fasts) : Unfed t := by
  cases effect with
  | quiet same =>
    have mode := same.mode
    rw [same.machine] at mode ⊢
    exact ⟨h.toUncycled.of_same rfl rfl, fun v2 => h.v2 (mode.symm.trans v2)⟩
  | stopped stop =>
    have fasts := s.enterStoppedState_fasts
    rw [stop.machine]
    exact ⟨uncycled_of_settled rfl, fun _ => fasts⟩
  | switched idle machine tracker =>
    have fasts := State.fasts_of_idle idle
    rw [machine]
    exact ⟨h.toUncycled.of_same rfl rfl, fun _ => fasts⟩
  | acted s₁ result ticks idle prepared permitted done =>
    have before : Uncycled s₁ := by
      rw [prepared.machine]
      exact h.toUncycled.of_same rfl rfl
    have machine : s₁.machineState = s.machineState := by rw [prepared.machine]
    have still : s₁.executionBusy = false := by
      rw [prepared.machine]
      exact idle
    have acted := before.applyV1Action (machine ▸ running) still ticks (machine ▸ permitted)
    have mode := (done.mode.trans (s₁.applyV1Action_mode result ticks)).trans prepared.mode
    refine ⟨?_, fun later => v2 (mode.symm.trans later)⟩
    rw [done.machine]
    exact acted.of_same rfl rfl

namespace Unfed

theorem boot (now : UInt32) : Unfed (Firmware.boot now) :=
  ⟨⟨nofun, fun _ => ⟨rfl, rfl, rfl⟩⟩, nofun⟩

theorem of_same {s t : State} (h : Unfed s) (feeder : t.feeder = s.feeder)
    (axis : t.machineState.feeder = s.machineState.feeder)
    (diagnostics : t.diagnostics = s.diagnostics)
    (completion : t.feedCompletion = s.feedCompletion)
    (mode : t.link.session.mode = s.link.session.mode) : Unfed t := by
  refine ⟨h.toUncycled.of_same feeder axis, ?_⟩
  unfold State.Fasts
  rw [mode, feeder, diagnostics, completion]
  exact h.v2

theorem of_linkOnly {s t : State} (h : Unfed s) (same : LinkOnly s t) : Unfed t := by
  have mode := same.mode
  rw [same.machine] at mode ⊢
  exact h.of_same rfl rfl rfl rfl mode

theorem serialByte {s : State} (h : Unfed s) (running : s.machineState.RunningKnown) (byte : UInt8)
    (t : Ticks) : Unfed (s.serialByte byte t) := by
  refine h.commandEffect running (s.serialByte_effect byte t) fun v2 => ?_
  have fasts := h.v2 v2
  unfold State.serialByte
  dsimp only
  split_ifs with stop protocol
  · generalize stopped : State.setRawStopLineDetector s _ = u
    unfold State.handleRawStop
    have mode : u.link.session.mode = .v2 := by
      rw [← stopped]
      exact v2
    simp only [mode, decide_true, if_true]
    exact (State.enterStoppedState_fasts _).of_linkOnly
      ((State.emitV2StateIfChanged_linkOnly _).trans (State.emit_linkOnly _ _))
  · have detected : (s.setRawStopLineDetector
      (s.link.rawStopLineDetector.consume byte).1).Fasts := fasts
    exact detected.consumeV2 byte t
  · exact absurd v2 protocol

theorem dispatchPending {s : State} (h : Unfed s) (running : s.machineState.RunningKnown)
    (t : Ticks) : Unfed (s.dispatchPending t) := by
  refine h.commandEffect running (s.dispatchPending_effect t) fun v2 => ?_
  have skipped : s.dispatchPending t = s := by
    unfold State.dispatchPending
    rw [v2, if_neg (by rintro ⟨v1, -⟩; cases v1)]
  rw [skipped]
  exact h.v2 v2

theorem reportMotion {s : State} (h : Unfed s) (slot : Int)
    (finished : PhysicalRequestTracker × PhysicalRequestTransition) :
    Unfed (s.reportMotion slot finished) := by
  have mode : (s.reportMotion slot finished).link.session.mode = s.link.session.mode := by
    dsimp only [State.reportMotion]
    split_ifs
    · rfl
    · exact (State.finishV2PhysicalRequest_linkOnly _ _ _ _).mode
    · rfl
  rw [s.reportMotion_machine] at mode ⊢
  exact h.of_same rfl rfl rfl rfl mode

theorem onSortComplete {s : State} (h : Unfed s) (now : UInt32) : Unfed (s.onSortComplete now) := by
  unfold State.onSortComplete
  split_ifs
  · have ended : Unfed (s.sortEnds now) := h.of_same rfl rfl rfl rfl rfl
    exact ended.reportMotion _ _
  · exact h

theorem scheduleRun {s : State} (h : Unfed s) (t : Ticks) : Unfed (s.scheduleRun t) := by
  dsimp only [State.scheduleRun]
  split_ifs with gate scheduled ready waiting
  · exact h
  · simp only [Bool.and_eq_true] at scheduled
    have settled : s.machineState.feeder.recoveryInProgress = false := by
      rw [Bool.eq_false_iff]
      intro recovering
      cases (h.recovering recovering).1.symm.trans scheduled.1
    refine ⟨uncycled_of_settled settled, fun v2 => ?_⟩
    cases (h.v2 v2).scheduled.symm.trans scheduled.1
  · exact h.of_same rfl rfl rfl rfl rfl
  · exact h.of_same rfl rfl rfl rfl rfl
  · exact h

theorem checkFeedErrors {s : State} (h : Unfed s) : Unfed s.checkFeedErrors := by
  unfold State.checkFeedErrors
  split_ifs
  · have mode : s.feedOvertravel.reportFeedOvertravel.link.session.mode = s.link.session.mode := by
      have same : s.feedOvertravel.link.session.mode = s.link.session.mode := by
        dsimp only [State.feedOvertravel]
        split_ifs <;> rfl
      rw [← same]
      dsimp only [State.reportFeedOvertravel]
      split_ifs
      · exact (State.emitV2StateIfChanged_linkOnly _).mode.trans
          (State.emitV2Terminal_linkOnly _ _ _ _).mode
      · exact (State.emitV2StateIfChanged_linkOnly _).mode
      · rfl
    rw [s.feedOvertravel.reportFeedOvertravel_machine] at mode ⊢
    have settled : s.feedOvertravel.machineState.feeder = ⟨false, false⟩ := by
      dsimp only [State.feedOvertravel]
      split_ifs <;> rfl
    have fasts (v2 : s.link.session.mode = .v2) : s.feedOvertravel.Fasts := by
      dsimp only [State.feedOvertravel]
      split_ifs <;> exact ⟨rfl, rfl, rfl, fun _ => rfl, rfl, rfl, rfl⟩
    exact ⟨uncycled_of_settled (by rw [settled]), fun v2 => fasts (mode.symm.trans v2)⟩
  · exact h

theorem runFeedMotor {s : State} (h : Unfed s) : Unfed s.runFeedMotor := by
  unfold State.runFeedMotor
  split_ifs with sorting feeding ends
  · exact h
  · refine ⟨⟨h.known, h.recovering⟩, fun v2 => ?_⟩
    have f := h.v2 v2
    exact ⟨f.scheduled, f.feeding, f.cycle, f.complete, f.test, f.sortTest, f.completion⟩
  · refine ⟨⟨h.known, h.recovering⟩, fun v2 => ?_⟩
    have f := h.v2 v2
    exact ⟨f.scheduled, rfl, f.cycle, f.complete, f.test, f.sortTest, f.completion⟩
  · exact h

theorem feedHomingEnds {s : State} (h : Unfed s) (now : UInt32) : Unfed (s.feedHomingEnds now) := by
  unfold State.feedHomingEnds
  cases recovering : s.machineState.feeder.recoveryInProgress with
  | true =>
    obtain ⟨scheduled, cycle, complete⟩ := h.recovering recovering
    have axis : ((s.stopFeedHoming now).updateRecoveryCompletion .feeder).machineState.feeder =
        ⟨true, false⟩ := by
      have started : ((s.stopFeedHoming now).machineState.axis .feeder).recoveryInProgress = true :=
        recovering
      dsimp only [State.updateRecoveryCompletion, MachineState.completeRecovery]
      rw [started]
      simp only [Bool.not_true, Bool.false_eq_true, if_false]
      split_ifs <;> rfl
    have rest : ((s.stopFeedHoming now).updateRecoveryCompletion .feeder) =
        { s.stopFeedHoming now with
            machineState := ((s.stopFeedHoming now).updateRecoveryCompletion .feeder).machineState
            sorter := ((s.stopFeedHoming now).updateRecoveryCompletion .feeder).sorter } := by
      rcases (s.stopFeedHoming now).updateRecoveryCompletion_eq .feeder with e | e |
        ⟨-, -, e⟩ <;>
        rw [e]
    simp only [if_true]
    rw [rest]
    refine ⟨uncycled_of_settled (congrArg AxisState.recoveryInProgress axis), fun v2 => ?_⟩
    have f := h.v2 v2
    refine ⟨f.scheduled, f.feeding, rfl, fun ended => ?_, f.test, f.sortTest, f.completion⟩
    change (s.feeder.feedCycleInProgress || s.feeder.feedCycleComplete) = true at ended
    rw [cycle, complete] at ended
    cases ended
  | false =>
    have same : (s.stopFeedHoming now).updateRecoveryCompletion .feeder = s.stopFeedHoming now := by
      unfold State.updateRecoveryCompletion
      rw [show ((s.stopFeedHoming now).machineState.axis .feeder).recoveryInProgress = false from
        recovering]
      rfl
    simp only [Bool.false_eq_true, if_false]
    rw [same]
    refine ⟨uncycled_of_settled recovering, fun v2 => ?_⟩
    have f := h.v2 v2
    refine ⟨f.scheduled, f.feeding, rfl, fun ended => f.complete ?_, f.test, f.sortTest,
      f.completion⟩
    change (s.feeder.feedCycleInProgress || s.feeder.feedCycleComplete) = true at ended
    rwa [f.cycle] at ended

theorem completeFeedHoming {s : State} (h : Unfed s) (now : UInt32) :
    Unfed (s.completeFeedHoming now) := by
  have ended := h.feedHomingEnds now
  dsimp only [State.completeFeedHoming]
  split_ifs
  · exact ended.of_same rfl rfl rfl rfl rfl
  · exact ended.reportMotion _ _

theorem feedHomingOffsetStep {s : State} (h : Unfed s) (now : UInt32) :
    Unfed (s.feedHomingOffsetStep now) := by
  unfold State.feedHomingOffsetStep
  split_ifs
  · exact h
  · exact h.completeFeedHoming now
  · refine ⟨⟨h.known, h.recovering⟩, fun v2 => ?_⟩
    have f := h.v2 v2
    exact ⟨f.scheduled, f.feeding, f.cycle, f.complete, f.test, f.sortTest, f.completion⟩
  · exact h.completeFeedHoming now

theorem homeFeedMotor {s : State} (h : Unfed s) (sensor : Bool) (now : UInt32) :
    Unfed (s.homeFeedMotor sensor now) := by
  unfold State.homeFeedMotor
  split_ifs
  · exact h.completeFeedHoming now
  · have found : Unfed { s with
        feeder.isFeedHoming := false
        feeder.isFeedHomingOffset := true
        feeder.feedHomingOffsetSteps := s.drive.feedHomingOffset } := by
      refine ⟨⟨h.known, h.recovering⟩, fun v2 => ?_⟩
      have f := h.v2 v2
      exact ⟨f.scheduled, f.feeding, f.cycle, f.complete, f.test, f.sortTest, f.completion⟩
    exact found.feedHomingOffsetStep now
  · refine ⟨⟨h.known, h.recovering⟩, fun v2 => ?_⟩
    have f := h.v2 v2
    exact ⟨f.scheduled, f.feeding, f.cycle, f.complete, f.test, f.sortTest, f.completion⟩
  · exact h.feedHomingOffsetStep now

theorem completeSorterRecoveryHoming {s : State} (h : Unfed s) (now : UInt32) :
    Unfed (s.completeSorterRecoveryHoming now) := by
  have ended : Unfed (s.sorterHomingEnds now) := by
    unfold State.sorterHomingEnds
    generalize stopped : (s.stopSorterHoming now).record .sorterHomed = u
    have before : Unfed u := by
      rw [← stopped]
      exact h.of_same rfl rfl rfl rfl rfl
    have axis : (u.machineState.completeRecovery .sorter).1.feeder = u.machineState.feeder := by
      dsimp only [MachineState.completeRecovery]
      split_ifs <;> rfl
    rcases u.updateRecoveryCompletion_eq .sorter with e | e | ⟨-, -, e⟩ <;> rw [e]
    · exact before
    · exact before.of_same rfl axis rfl rfl rfl
    · exact before.of_same rfl axis rfl rfl rfl
  exact ended.reportMotion _ _

theorem homeSortMotor {s : State} (h : Unfed s) (sensor : Bool) (now : UInt32) :
    Unfed (s.homeSortMotor sensor now) := by
  unfold State.homeSortMotor State.searchStep
  split_ifs
  · exact h
  · exact h.completeSorterRecoveryHoming now
  · exact h.of_same rfl rfl rfl rfl rfl
  · exact h.of_same rfl rfl rfl rfl rfl
  · exact h
  · exact h.of_same rfl rfl rfl rfl rfl
  · have searched : Unfed (s.recoverySearch sensor) := by
      unfold State.recoverySearch State.searchStep
      split_ifs
      · exact h
      · exact h.of_same rfl rfl rfl rfl rfl
      · exact h
      · exact h.of_same rfl rfl rfl rfl rfl
    unfold State.sortHomingOffsetStep
    split_ifs
    · exact searched
    · exact searched.completeSorterRecoveryHoming now
    · exact searched.of_same rfl rfl rfl rfl rfl
    · exact searched.completeSorterRecoveryHoming now

theorem serviceSorterJog {s : State} (h : Unfed s) : Unfed s.serviceSorterJog := by
  dsimp only [State.serviceSorterJog, State.sorterJogEnds]
  split_ifs
  all_goals
    refine ⟨⟨h.known, h.recovering⟩, fun v2 => ?_⟩
    have f := h.v2 v2
    exact ⟨f.scheduled, f.feeding, f.cycle, f.complete, f.test, f.sortTest, f.completion⟩

theorem onFeedComplete_fasting {s : State} (h : s.Fasts) (now : UInt32) :
    s.onFeedComplete now = s := by
  have inactive := h.completion
  have idle : s.feedCompletion.state = .idle := by simpa [FeedCompletion.isActive] using inactive
  have ended : (s.feeder.feedCycleComplete && !s.feeder.isFeedError) = false := by
    cases complete : s.feeder.feedCycleComplete with
    | false => rfl
    | true => rw [h.complete complete]; rfl
  unfold State.onFeedComplete
  split_ifs with stopped started starts
  · rw [inactive] at started
    cases started
  · rfl
  · rw [ended] at starts
    cases starts
  · exact State.feedCompletionTurns_idle idle 3 now

theorem feedCompletionTurns_uncycled {s : State} (h : Uncycled s) (turns : Nat) (now : UInt32) :
    Uncycled (State.feedCompletionTurns turns s now) ∧
      (State.feedCompletionTurns turns s now).link.session.mode = s.link.session.mode := by
  induction turns generalizing s with
  | zero => exact ⟨h, rfl⟩
  | succ turns ih =>
    unfold State.feedCompletionTurns
    generalize s.feedCompletion.update now = updated
    obtain ⟨completion, event⟩ := updated
    cases event with
    | none => exact ⟨h.of_same rfl rfl, rfl⟩
    | signalHigh =>
      exact @ih { s with feedCompletion := completion, feedDoneSignal := true }
        (h.of_same rfl rfl)
    | signalLow =>
      exact @ih { s with feedCompletion := completion, feedDoneSignal := false }
        (h.of_same rfl rfl)
    | notify =>
      refine ⟨⟨h.known, fun recovering => ?_⟩, rfl⟩
      exact ⟨(h.recovering recovering).1, (h.recovering recovering).2.1, rfl⟩

theorem onFeedComplete {s : State} (h : Unfed s) (now : UInt32) : Unfed (s.onFeedComplete now) := by
  cases mode : s.link.session.mode with
  | v2 =>
    rw [onFeedComplete_fasting (h.v2 mode) now]
    exact h
  | v1 =>
    have stays {t : State} (turned : Uncycled t ∧ t.link.session.mode = s.link.session.mode) :
        Unfed t :=
      ⟨turned.1, fun v2 => by cases (mode.symm.trans turned.2.symm).trans v2⟩
    dsimp only [State.onFeedComplete]
    split_ifs
    · refine stays ⟨⟨h.known, fun recovering => ?_⟩, rfl⟩
      exact ⟨(h.recovering recovering).1, (h.recovering recovering).2.1, rfl⟩
    · exact h
    · generalize started :
        ({ s with feedCompletion := _, clocks.timeSinceLastMotorMove := _ } : State)
        = u
      have turned := feedCompletionTurns_uncycled (s := u)
        (h.toUncycled.of_same (by rw [← started]) (by rw [← started])) 3 now
      exact stays ⟨turned.1, turned.2.trans (by rw [← started])⟩
    · generalize started : ({ s with feedCompletion := _ } : State) = u
      have turned := feedCompletionTurns_uncycled (s := u)
        (h.toUncycled.of_same (by rw [← started]) (by rw [← started])) 3 now
      exact stays ⟨turned.1, turned.2.trans (by rw [← started])⟩
    · exact stays (feedCompletionTurns_uncycled h.toUncycled 3 now)

theorem runAux_machineState (s : State) (raw sortRaw : Nat) (t : Ticks) (now : UInt32) :
    (s.runAux raw sortRaw t now).machineState = s.machineState ∧
      (s.runAux raw sortRaw t now).link.session.mode = s.link.session.mode := by
  have tested : (s.runTestCycle raw t).link.session.mode = s.link.session.mode := by
    unfold State.runTestCycle
    dsimp only [State.queueFeed, State.scheduleRun, State.scheduleFeed,
      State.moveSorterToNextPosition]
    split_ifs <;> rfl
  unfold State.runAux
  split_ifs
  · exact ⟨rfl, rfl⟩
  · rw [← s.runTestCycle_machineState raw t, ← tested]
    unfold State.runSortTestCycle
    dsimp only
    split_ifs <;> exact ⟨rfl, rfl⟩

theorem runAux {s : State} (h : Unfed s) (running : s.machineState.RunningKnown)
    (raw sortRaw : Nat) (t : Ticks) (now : UInt32) : Unfed (s.runAux raw sortRaw t now) := by
  obtain ⟨machine, mode⟩ := runAux_machineState s raw sortRaw t now
  cases protocol : s.link.session.mode with
  | v2 =>
    have fasts := h.v2 protocol
    rw [State.runAux_idle fasts.test fasts.sortTest]
    exact h
  | v1 =>
    refine ⟨?_, fun v2 => by cases (protocol.symm.trans mode.symm).trans v2⟩
    by_cases run : s.machineState.isRunning = true
    · refine uncycled_of_settled ?_
      rw [machine]
      exact h.known (running run).1
    · have skipped : s.runAux raw sortRaw t now = s := by
        unfold State.runAux
        rw [if_pos (by simp [run])]
      rw [skipped]
      exact h.toUncycled

theorem exec {s : State} (h : Unfed s) (running : s.machineState.RunningKnown) (routine : Routine) :
    Unfed (Firmware.exec s routine) := by
  cases routine with
  | serialByte byte t => exact h.serialByte running byte t
  | dispatchPending t => exact h.dispatchPending running t
  | getProxState sensor now => exact h.of_same rfl rfl rfl rfl rfl
  | updateSlotDropGate now =>
    dsimp only [Firmware.exec, State.updateSlotDropGate]
    split_ifs
    · exact h
    · exact h.of_same rfl rfl rfl rfl rfl
  | runSortMotor =>
    dsimp only [Firmware.exec, State.runSortMotor, State.slotZeroPass]
    split_ifs <;> exact h.of_same rfl rfl rfl rfl rfl
  | onSortComplete now => exact h.onSortComplete now
  | scheduleRun t => exact h.scheduleRun t
  | checkFeedErrors => exact h.checkFeedErrors
  | runFeedMotor => exact h.runFeedMotor
  | homeFeedMotor sensor now => exact h.homeFeedMotor sensor now
  | homeSortMotor sensor now => exact h.homeSortMotor sensor now
  | serviceSorterJog => exact h.serviceSorterJog
  | onFeedComplete now => exact h.onFeedComplete now
  | runAux raw sortRaw t now => exact h.runAux running raw sortRaw t now
  | motorStandByCheck now =>
    dsimp only [Firmware.exec, State.motorStandByCheck]
    split_ifs <;> exact h.of_same rfl rfl rfl rfl rfl
  | serviceV2PhysicalRequest =>
    dsimp only [Firmware.exec, State.serviceV2PhysicalRequest]
    split_ifs <;> exact h.of_same rfl rfl rfl rfl rfl
  | emitV2StateIfChanged => exact h.of_linkOnly s.emitV2StateIfChanged_linkOnly

theorem execAll {s : State} (h : Unfed s) (co : Coordinated s) (routines : List Routine) :
    Unfed (Firmware.execAll s routines) := by
  induction routines generalizing s with
  | nil => exact h
  | cons routine routines ih => exact ih (h.exec co.running routine) (co.exec routine)

end Unfed

end CaseSorter.Firmware
