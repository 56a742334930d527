import CaseSorter.Link.EmittedLines

/-! The lines of the commands and of the motion routines, and from these of a whole run: in
protocol v2 the sketch says nothing but what the host accepts. -/

namespace CaseSorter.Link

open Firmware

theorem Tells.quiet {s t u : State} (h : Tells s t) (output : u.link.output = t.link.output)
    (ranged : Ranged t → Ranged u) : Tells s u := by
  obtain ⟨before, lines, added, heard⟩ := h
  exact ⟨ranged before, lines, output.trans added, heard⟩

theorem Ranged.tells_refl {s : State} (h : Ranged s) : Tells s s := (Talks.refl s).tells h

theorem Tells.after_v1 {s t u : State} (v1 : s.link.session.mode = .v1) (h : Tells s t)
    (h' : Ranged t → Tells t u) : Tells s u := by
  obtain ⟨before, older, output, -⟩ := h
  obtain ⟨after, newer, output', -⟩ := h' before
  refine ⟨after, newer ++ older, by rw [output', output, List.append_assoc], fun v2 => ?_⟩
  cases v1.symm.trans v2

theorem emit_talks_v1 {s : State} (v1 : s.link.session.mode = .v1) (line : Emission) :
    Talks s (s.emit line) :=
  emit_talks s fun _ v2 => by cases v1.symm.trans v2

theorem resetTracker_talks (s : State) : Talks s (s.setTracker .reset) :=
  setTracker_talks s fun _ => ⟨Nat.zero_le _, small_nat (Nat.zero_le _)⟩

theorem resetLifecycle_talks (s : State) (lifecycle : V2RequestLifecycle) :
    Talks s (s.setLifecycle lifecycle.cancel) :=
  setLifecycle_talks s fun _ => Nat.zero_le _

theorem enterStoppedState_talks (s : State) : Talks s s.enterStoppedState :=
  talks_silent rfl rfl fun ranged => ⟨ranged.configuration, ranged.generation, ranged.sequence,
    ranged.sequenceMax, ranged.active, ranged.tracked, ranged.slot⟩

theorem scheduleRun_talks {s : State}
    (unfed : s.link.session.mode = .v2 → s.feeder.feedScheduled = false) (t : Ticks) :
    Talks s (s.scheduleRun t) := by
  dsimp only [State.scheduleRun]
  split_ifs with gate scheduled ready waiting
  · exact .refl s
  · exact talks_same rfl rfl
  · have v1 : s.link.session.mode = .v1 := by
      cases mode : s.link.session.mode with
      | v1 => rfl
      | v2 =>
        rw [unfed mode] at scheduled
        cases scheduled
    have settled : Talks s (s.readyToFeed t.ready).1 := talks_same rfl rfl
    exact (settled.trans (emit_talks_v1 (settled.mode.trans v1) _)).trans (talks_same rfl rfl)
  · exact talks_same rfl rfl
  · exact .refl s

theorem queueFeed_talks {s : State} (v1 : s.link.session.mode = .v1) (forced : Bool)
    (position : Int) (t : Ticks) : Talks s ((s.setForceFeed forced).queueFeed position t) := by
  have moved : Talks s
      ((s.setForceFeed forced).moveSorterToNextPosition position t.now).scheduleFeed := by
    dsimp only [State.moveSorterToNextPosition]
    split_ifs <;> exact talks_same rfl rfl
  refine moved.trans (scheduleRun_talks (fun v2 => ?_) t)
  cases (moved.mode.trans v1).symm.trans v2

theorem applyV1Action_talks {s : State} {result : V1DispatchResult}
    (h : s.link.session.mode = .v1 ∨ result.action.feeds = false) (t : Ticks) :
    Talks s (s.applyV1Action result t) := by
  have v1 (feeds : result.action.feeds = true) : s.link.session.mode = .v1 := by
    refine h.resolve_right fun other => ?_
    cases feeds.symm.trans other
  unfold State.applyV1Action
  cases action : result.action with
  | stop => exact enterStoppedState_talks s
  | queueFeed => exact queueFeed_talks (v1 (by rw [action]; rfl)) false _ t
  | queueForcedFeed => exact queueFeed_talks (v1 (by rw [action]; rfl)) true _ t
  | applyCameraLedLevel =>
    refine talks_silent rfl rfl fun ranged => ⟨?_, ranged.generation, ranged.sequence,
      ranged.sequenceMax, ranged.active, ranged.tracked, ranged.slot⟩
    exact { ranged.configuration with cameraLedLevel := small_clampByte _ }
  | _ => exact talks_same rfl rfl

theorem applyV2Setter_talks (s : State) {requestId : Nat} (small : requestId ≤ 65535)
    (payload : Bytes) (t : Ticks) (setter : v1CommandIsSetter (classifyV1Command payload) = true) :
    Talks s (s.applyV2Setter requestId payload (classifyV1Command payload) t) := by
  dsimp only [State.applyV2Setter]
  generalize s.dispatchContext _ false false = context
  have other := @State.dispatched_feeds payload context s.configuration (.inl setter)
  have stored : Talks s (s.setConfiguration
      (dispatchV1Command payload context s.configuration v1DispatchLimits).2) :=
    setConfiguration_talks s (.inr ⟨payload, context, rfl⟩)
  refine stored.trans ?_
  split_ifs
  · exact emitV2SetterError_talks _ small setter _
  · exact ((applyV1Action_talks (.inr other) t).trans (advanceConfigGeneration_talks _)).trans
      (emitV2SetterDone_talks _ small setter)

theorem handleV2Setter_talks (s : State) {requestId : Nat} (small : requestId ≤ 65535)
    (payload : Bytes) (t : Ticks) (setter : v1CommandIsSetter (classifyV1Command payload) = true) :
    Talks s (s.handleV2Setter requestId payload (classifyV1Command payload) t) := by
  unfold State.handleV2Setter State.beginV2Setter
  cases refuses : s.refuseV2Request requestId with
  | some refusal => exact refuseV2Request_talks s small refuses
  | none =>
    dsimp only
    refine (beginV2Active_talks s small).trans ?_
    split_ifs
    · exact applyV2Setter_talks _ small payload t setter
    · exact .refl _

theorem acceptV2PhysicalRequest_talks (s : State) {requestId : Nat} (small : requestId ≤ 65535)
    (operation : PhysicalRequestOperation) {result : V1DispatchResult} (slot : Small result.value)
    (other : result.action.feeds = false) (t : Ticks) :
    Talks s (s.acceptV2PhysicalRequest requestId operation result t) := by
  dsimp only [State.acceptV2PhysicalRequest]
  have accepted : Talks s (s.respond requestId .accepted
      [("operation", if operation = .sortTo then "sort" else "home")]) := by
    refine respond_talks s fun _ => ⟨small, by simp, ?_⟩
    split_ifs <;> decide
  have tracked (u : State) : Talks u (u.setTracker
      (u.link.physicalRequestTracker.begin requestId operation result.value).1) := by
    refine setTracker_talks u fun ranged => ?_
    unfold PhysicalRequestTracker.begin
    split_ifs
    · exact ⟨ranged.tracked, ranged.slot⟩
    · exact ⟨small, slot⟩
  refine (accepted.trans (tracked _)).trans ?_
  have busy : FitsResponse (.error 2001 "busy") [] := ⟨by decide, by decide⟩
  split_ifs
  all_goals first
    | exact applyV1Action_talks (.inr other) t
    | exact emitV2Terminal_talks _ fun _ => ⟨small, busy⟩

theorem beginV2PhysicalRequest_talks (s : State) {requestId : Nat} (small : requestId ≤ 65535)
    (payload : Bytes) (operation : PhysicalRequestOperation) (command : V1Command) (t : Ticks)
    (physical : State.physicalCommand (classifyV1Command payload) = true) :
    Talks s (s.beginV2PhysicalRequest requestId payload operation command t) := by
  unfold State.beginV2PhysicalRequest
  split
  case h_1 refusal refuses => exact refuseV2Request_talks s small refuses
  case h_2 =>
    dsimp only
    generalize s.dispatchContext _ false false = context
    have other := @State.dispatched_feeds payload context s.configuration (.inr physical)
    have slot := @physical_small payload context s.configuration physical
    have stored : Talks s (s.setConfiguration
        (dispatchV1Command payload context s.configuration v1DispatchLimits).2) :=
      setConfiguration_talks s (.inr ⟨payload, context, rfl⟩)
    refine stored.trans ?_
    dsimp only [State.startV2PhysicalRequest]
    refine (beginV2Active_talks _ small).trans ?_
    split_ifs
    · exact .refl _
    · exact emitV2Terminal_talks _ fun _ => ⟨small, by decide, by decide⟩
    · exact emitV2Terminal_talks _ fun _ => ⟨small, by decide, by decide⟩
    · exact acceptV2PhysicalRequest_talks _ small operation slot other t

theorem handleV2Stop_talks (s : State) {requestId : Nat} (small : requestId ≤ 65535) :
    Talks s (s.handleV2Stop requestId) := by
  unfold State.handleV2Stop
  split_ifs with owned
  · exact emitV2DuplicateId_talks s small
  · dsimp only
    have reset : Talks s ((s.setTracker s.link.physicalRequestTracker.cancel).setLifecycle
        s.link.session.lifecycle.cancel).enterStoppedState :=
      ((resetTracker_talks s).trans (resetLifecycle_talks _ _)).trans (enterStoppedState_talks _)
    have stopped : FitsResponse .done [("mode", "stopped")] := by decide
    have ends (u : State) : Talks u (u.emitV2StateIfChanged.respond requestId .done
        [("mode", "stopped")]) :=
      (emitV2StateIfChanged_talks u).trans (respond_talks _ fun _ => ⟨small, stopped⟩)
    have fits : FitsResponse (.error 2004 "cancelled") [field "by" requestId] :=
      ⟨by decide, fits_nat (k := 5) (by decide) (by decide) (by omega) (by decide)⟩
    refine Talks.trans ?_ (ends _)
    split_ifs
    · refine ⟨rfl, fun ranged => ?_⟩
      have cancelled :=
        respond_talks ((s.setTracker s.link.physicalRequestTracker.cancel).setLifecycle
        s.link.session.lifecycle.cancel).enterStoppedState
        fun _ => ⟨V2RequestLifecycle.activeRequestId_le ranged.active, fits⟩
      exact (reset.trans cancelled).tells ranged
    · exact reset

theorem handleV2ProtocolOne_tells {s : State} (ranged : Ranged s) {requestId : Nat}
    (small : requestId ≤ 65535) : Tells s (s.handleV2ProtocolOne requestId) := by
  unfold State.handleV2ProtocolOne
  split_ifs
  · exact (emitV2Busy_talks s (Nat.zero_le _) fun _ => Nat.zero_le _).tells ranged
  · split
    case h_1 refusal refuses => exact (refuseV2Request_talks s small refuses).tells ranged
    case h_2 =>
      have protocol : FitsResponse .done [("protocol", "1")] := by decide
      have begun := beginV2Immediate_talks s small
      have ended := begun.trans (emitV2Terminal_talks _ fun _ => ⟨small, protocol⟩)
      dsimp only
      split_ifs
      · exact begun.tells ranged
      · exact ended.tells ranged
      · exact (ended.tells ranged).quiet rfl fun later => ⟨later.configuration, later.generation,
          nofun, Nat.zero_le _, Nat.zero_le _, later.tracked, later.slot⟩

theorem handleV2Request_tells {s : State} (ranged : Ranged s) {requestId : Nat}
    (small : requestId ≤ 65535) (payload : Bytes) (t : Ticks) :
    Tells s (s.handleV2Request requestId payload t) := by
  unfold State.handleV2Request
  dsimp only
  split_ifs with stop one config begun setter all feeder sorter sortTo
  · exact (handleV2Stop_talks s small).tells ranged
  · exact handleV2ProtocolOne_tells ranged small
  · exact ((beginV2Immediate_talks s small).trans (emitV2Configuration_talks _ small)).tells ranged
  · exact (beginV2Immediate_talks s small).tells ranged
  · exact (handleV2Setter_talks s small payload t setter).tells ranged
  · exact (beginV2PhysicalRequest_talks s small _ .homeAll .homeFeeder t (by decide)).tells ranged
  · exact (beginV2PhysicalRequest_talks s small payload .homeFeeder _ t
      (by rw [feeder]; rfl)).tells ranged
  · exact (beginV2PhysicalRequest_talks s small payload .homeSorter _ t
      (by rw [sorter]; rfl)).tells ranged
  · exact (beginV2PhysicalRequest_talks s small payload .sortTo _ t
      (by rw [sortTo]; rfl)).tells ranged
  · exact (handleV2Immediate_talks s small payload t).tells ranged

theorem handleV2Frame_tells {s : State} (ranged : Ranged s) (status : FrameResult) (frame : Bytes)
    (t : Ticks) : Tells s (s.handleV2Frame status frame t) := by
  have rejected : ∀ code name, FitsEvent (.reject code name) [] →
      Tells s (s.emitV2Event (.reject code name) []) := fun code name fits =>
    (emitV2Event_talks s fun _ => fits).tells ranged
  unfold State.handleV2Frame
  cases status with
  | noFrame => exact Ranged.tells_refl ranged
  | frameOverflow | frameInvalid => exact rejected 1001 "bad_frame" (by decide)
  | frameReady =>
    cases envelope : parseV2RequestEnvelope frame with
    | badId => exact rejected 1003 "bad_id" (by decide)
    | badFrame => exact rejected 1001 "bad_frame" (by decide)
    | ready request =>
      exact handleV2Request_tells ranged (parseV2RequestEnvelope_le envelope) _ t

theorem consumeV2_tells {s : State} (ranged : Ranged s) (byte : UInt8) (t : Ticks) :
    Tells s (s.consumeV2 byte t) := by
  unfold State.consumeV2
  generalize s.link.session.parser.consume byte = consumed
  obtain ⟨parser, result⟩ := consumed
  have parsed := setV2Parser_talks s parser
  cases result with
  | noFrame => exact parsed.tells ranged
  | frameOverflow | frameInvalid =>
    exact parsed.before (fun later => handleV2Frame_tells later _ [] t) ranged
  | frameReady =>
    refine (parsed.before (fun later => handleV2Frame_tells later _ _ t) ranged).quiet rfl ?_
    exact fun later => ⟨later.configuration, later.generation, later.sequence, later.sequenceMax,
      later.active, later.tracked, later.slot⟩

theorem handleRawStop_talks (s : State) : Talks s s.handleRawStop := by
  unfold State.handleRawStop
  dsimp only
  have stopped (u : State) : Talks u (u.emit (.v1 .stopped)) :=
    emit_talks u fun _ _ => accepted_stopped
  split_ifs
  · have reset := ((resetTracker_talks s).trans
      (resetLifecycle_talks _ s.link.session.lifecycle)).trans (setV2Parser_talks _ .reset)
    exact ((reset.trans (enterStoppedState_talks _)).trans (emitV2StateIfChanged_talks _)).trans
      (stopped _)
  · exact ((setCommandParser_talks s _).trans (enterStoppedState_talks _)).trans (stopped _)

theorem writeV1Output_talks {s : State} (v1 : s.link.session.mode = .v1)
    (result : V1DispatchResult) : Talks s (s.writeV1Output result) := by
  unfold State.writeV1Output
  cases result.output with
  | none => exact .refl s
  | response | version | configuration => exact emit_talks_v1 v1 _

theorem performV1_talks {s : State} (v1 : s.link.session.mode = .v1) (status : V1FrameStatus)
    (command : Bytes) (result : V1DispatchResult) (t : Ticks) :
    Talks s (s.performV1 status command result t) := by
  dsimp only [State.performV1]
  have acted {u : State} (before : Talks s u) :
      Talks s ((u.applyV1Action result t).writeV1Output result) := by
    have same := before.mode.trans v1
    have applied : Talks u (u.applyV1Action result t) := applyV1Action_talks (.inl same) t
    exact (before.trans applied).trans (writeV1Output_talks (applied.mode.trans same) result)
  split_ifs
  · exact setPendingCommand_talks s _
  · have queued := setPendingCommand_talks s (s.link.pendingCommand.enqueue command).1
    exact queued.trans (emit_talks_v1 (queued.mode.trans v1) _)
  · exact acted (advanceConfigGeneration_talks s)
  · exact acted (.refl s)

theorem handleV1Command_talks {s : State} (v1 : s.link.session.mode = .v1)
    (status : V1FrameStatus) (command : Bytes) (pending : Bool) (t : Ticks) :
    Talks s (s.handleV1Command status command pending t) := by
  dsimp only [State.handleV1Command]
  generalize s.dispatchContext _ _ _ = context
  have dispatched : Dispatched s.configuration
      (dispatchV1Frame status command context s.configuration v1DispatchLimits).2 := by
    cases status with
    | ready => exact .inr ⟨command, context, rfl⟩
    | tooLong | invalid => exact .inl rfl
  have stored := setConfiguration_talks s dispatched
  exact stored.trans (performV1_talks (stored.mode.trans v1) status command _ t)

theorem handleV1Frame_tells {s : State} (ranged : Ranged s) (v1 : s.link.session.mode = .v1)
    (status : V1FrameStatus) (command : Bytes) (pending : Bool) (t : Ticks) :
    Tells s (s.handleV1Frame status command pending t) := by
  unfold State.handleV1Frame
  dsimp only
  split
  · exact (emit_talks_v1 v1 _).tells ranged
  · exact (emit_talks_v1 v1 _).tells ranged
  · refine ((emit_talks_v1 v1 .protocolReady).tells ranged).quiet rfl fun later => ?_
    exact ⟨later.configuration, later.generation, fun _ => Nat.le_refl 1,
      show 1 ≤ 65535 by decide, Nat.zero_le _, later.tracked, later.slot⟩
  · exact (handleV1Command_talks v1 status command pending t).tells ranged

theorem consumeV1_tells {s : State} (ranged : Ranged s) (v1 : s.link.session.mode = .v1)
    (byte : UInt8) (t : Ticks) : Tells s (s.consumeV1 byte t) := by
  unfold State.consumeV1
  generalize s.link.commandParser.consume byte = consumed
  obtain ⟨parser, result⟩ := consumed
  have parsed := setCommandParser_talks s parser
  have handled (status : V1FrameStatus) (command : Bytes) :
      Tells s ((s.setCommandParser parser).handleV1Frame status command false t) :=
    parsed.before (fun later => handleV1Frame_tells later v1 status command false t) ranged
  cases result with
  | noFrame => exact parsed.tells ranged
  | frameOverflow => exact handled .tooLong []
  | frameInvalid => exact handled .invalid []
  | frameReady =>
    exact (handled .ready _).after_v1 v1 (setCommandParser_talks _ _).tells

theorem serialByte_tells {s : State} (ranged : Ranged s) (byte : UInt8) (t : Ticks) :
    Tells s (s.serialByte byte t) := by
  unfold State.serialByte
  generalize s.link.rawStopLineDetector.consume byte = detected
  refine (setRawStopLineDetector_talks s detected.1).before (fun later => ?_) ranged
  dsimp only
  split_ifs with stop v2
  · exact (handleRawStop_talks _).tells later
  · exact consumeV2_tells later byte t
  · refine consumeV1_tells later ?_ byte t
    cases mode : s.link.session.mode with
    | v1 => exact mode
    | v2 => exact absurd mode v2

theorem dispatchPending_tells {s : State} (ranged : Ranged s) (t : Ticks) :
    Tells s (s.dispatchPending t) := by
  unfold State.dispatchPending
  split_ifs with pending
  · exact (handleV1Frame_tells ranged pending.1 .ready _ true t).after_v1 pending.1
      (setPendingCommand_talks _ _).tells
  · exact Ranged.tells_refl ranged

theorem finishV2PhysicalRequest_talks (s : State) {requestId : Nat} (small : requestId ≤ 65535)
    (operation : PhysicalRequestOperation) {slot : Int} (h : Small slot) :
    Talks s (s.finishV2PhysicalRequest requestId operation slot) := by
  unfold State.finishV2PhysicalRequest
  split_ifs
  · exact .refl s
  · refine (emitV2StateIfChanged_talks s).trans ?_
    cases operation with
    | none => exact .refl _
    | homeAll | homeFeeder | homeSorter =>
      exact emitV2Terminal_talks _ fun _ => ⟨small, by decide⟩
    | sortTo =>
      obtain ⟨n, text, le⟩ := toString_small h
      have slots : FitsResponse .done [("slot", toString slot)] := by
        rw [text]
        unfold maxAvrInt at le
        exact fits_nat (k := 5) (by decide) (by decide) (by omega) (by decide)
      exact (respond_talks _ fun _ => ⟨small, slots⟩).trans
        (setLifecycle_talks _ fun later => V2RequestLifecycle.terminal_le later.active requestId)

def Carries (t : PhysicalRequestTracker)
    (finished : PhysicalRequestTracker × PhysicalRequestTransition) : Prop :=
  finished.1 = .reset ∨
    (finished.1.requestIdField = t.requestIdField ∧ finished.1.slot = t.slot)

theorem feedHomed_carries (t : PhysicalRequestTracker) : Carries t t.feedHomed := by
  unfold PhysicalRequestTracker.feedHomed
  split_ifs
  · exact .inr ⟨rfl, rfl⟩
  · exact .inl rfl
  · exact .inr ⟨rfl, rfl⟩
  · exact .inr ⟨rfl, rfl⟩

theorem sorterHomed_carries (t : PhysicalRequestTracker) : Carries t t.sorterHomed := by
  unfold PhysicalRequestTracker.sorterHomed
  split_ifs
  · exact .inr ⟨rfl, rfl⟩
  · exact .inl rfl
  · exact .inr ⟨rfl, rfl⟩

theorem sortCompleted_carries (t : PhysicalRequestTracker) : Carries t t.sortCompleted := by
  unfold PhysicalRequestTracker.sortCompleted
  split_ifs
  · exact .inl rfl
  · exact .inr ⟨rfl, rfl⟩

theorem setTracker_carries (s : State)
    {finished : PhysicalRequestTracker × PhysicalRequestTransition}
    (carries : Carries s.link.physicalRequestTracker finished) :
    Talks s (s.setTracker finished.1) := by
  refine setTracker_talks s fun ranged => ?_
  rcases carries with reset | ⟨requestId, slot⟩
  · rw [reset]
    exact ⟨Nat.zero_le _, small_nat (Nat.zero_le _)⟩
  · rw [requestId, slot]
    exact ⟨ranged.tracked, ranged.slot⟩

theorem reportMotion_talks (s : State) {slot : Int}
    {finished : PhysicalRequestTracker × PhysicalRequestTransition}
    (h : Ranged s → Small slot) (carries : Carries s.link.physicalRequestTracker finished) :
    Talks s (s.reportMotion slot finished) := by
  have stored := setTracker_carries s carries
  dsimp only [State.reportMotion]
  split_ifs
  · exact .refl s
  · refine ⟨(State.finishV2PhysicalRequest_linkOnly _ _ _ _).mode, fun ranged => ?_⟩
    have finish := finishV2PhysicalRequest_talks (s.setTracker finished.1)
      (PhysicalRequestTracker.requestId_le ranged.tracked)
      s.link.physicalRequestTracker.operation (h ranged)
    exact (stored.trans finish).tells ranged
  · exact stored

theorem onSortComplete_talks (s : State) (now : UInt32) : Talks s (s.onSortComplete now) := by
  unfold State.onSortComplete
  split_ifs
  · have ended : Talks s (s.sortEnds now) := talks_same rfl rfl
    exact ended.trans (reportMotion_talks _ (fun later => later.slot) (sortCompleted_carries _))
  · exact .refl s

theorem updateRecoveryCompletion_talks (s : State) (axis : MachineAxis) :
    Talks s (s.updateRecoveryCompletion axis) := by
  rcases s.updateRecoveryCompletion_eq axis with e | e | ⟨-, -, e⟩ <;> rw [e] <;>
    exact talks_same rfl rfl

theorem feedHomingEnds_talks (s : State) (now : UInt32) : Talks s (s.feedHomingEnds now) := by
  have stopped : Talks s (s.stopFeedHoming now) := talks_same rfl rfl
  have recovered := stopped.trans (updateRecoveryCompletion_talks _ .feeder)
  have ended (u : State) : Talks u u.endFeedCycle := talks_same rfl rfl
  have cleared (u : State) : Talks u u.clearFeedFault :=
    (setFaultStateTracker_talks u _).trans (talks_same rfl rfl)
  unfold State.feedHomingEnds
  dsimp only
  split_ifs
  · exact (recovered.trans (cleared _)).trans (ended _)
  · exact recovered.trans (ended _)

theorem completeFeedHoming_talks (s : State) (now : UInt32) :
    Talks s (s.completeFeedHoming now) := by
  have zero : Small 0 := small_nat (Nat.zero_le _)
  refine (feedHomingEnds_talks s now).trans ?_
  dsimp only [State.completeFeedHoming]
  split_ifs
  · exact (setTracker_carries _ (feedHomed_carries _)).trans (talks_same rfl rfl)
  · exact reportMotion_talks _ (fun _ => zero) (feedHomed_carries _)

theorem feedHomingOffsetStep_talks (s : State) (now : UInt32) :
    Talks s (s.feedHomingOffsetStep now) := by
  unfold State.feedHomingOffsetStep
  split_ifs
  · exact .refl s
  · exact completeFeedHoming_talks s now
  · exact talks_same rfl rfl
  · exact completeFeedHoming_talks s now

theorem homeFeedMotor_talks (s : State) (sensor : Bool) (now : UInt32) :
    Talks s (s.homeFeedMotor sensor now) := by
  unfold State.homeFeedMotor
  split_ifs
  · exact completeFeedHoming_talks s now
  · have found : Talks s { s with
        feeder.isFeedHoming := false
        feeder.isFeedHomingOffset := true
        feeder.feedHomingOffsetSteps := s.drive.feedHomingOffset } := talks_same rfl rfl
    exact found.trans (feedHomingOffsetStep_talks _ now)
  · exact talks_same rfl rfl
  · exact feedHomingOffsetStep_talks s now

theorem completeSorterRecoveryHoming_talks (s : State) (now : UInt32) :
    Talks s (s.completeSorterRecoveryHoming now) := by
  have zero : Small 0 := small_nat (Nat.zero_le _)
  have stopped : Talks s ((s.stopSorterHoming now).record .sorterHomed) := talks_same rfl rfl
  exact (stopped.trans (updateRecoveryCompletion_talks _ .sorter)).trans
    (reportMotion_talks _ (fun _ => zero) (sorterHomed_carries _))

theorem homeSortMotor_talks (s : State) (sensor : Bool) (now : UInt32) :
    Talks s (s.homeSortMotor sensor now) := by
  unfold State.homeSortMotor State.searchStep
  split_ifs
  · exact .refl s
  · exact completeSorterRecoveryHoming_talks s now
  · exact talks_same rfl rfl
  · exact talks_same rfl rfl
  · exact .refl s
  · exact talks_same rfl rfl
  · have searched : Talks s (s.recoverySearch sensor) := by
      unfold State.recoverySearch State.searchStep
      split_ifs <;> exact talks_same rfl rfl
    refine searched.trans ?_
    unfold State.sortHomingOffsetStep
    split_ifs
    · exact .refl _
    · exact completeSorterRecoveryHoming_talks _ now
    · exact talks_same rfl rfl
    · exact completeSorterRecoveryHoming_talks _ now

theorem reportFeedOvertravel_talks (s : State) : Talks s s.reportFeedOvertravel := by
  have latched := setFaultStateTracker_talks s s.link.faultStateTracker.latchFeedOvertravel
  have error : FitsResponse (.error 3001 "feed_overtravel") [] := by decide
  have fault : FitsEvent (.fault 3001 "feed_overtravel") [("latched", "1")] := by decide
  have reported (u : State) : Talks u
      (u.emitV2Event (.fault 3001 "feed_overtravel") [("latched", "1")]).emitV2StateIfChanged :=
    (emitV2Event_talks u fun _ => fault).trans (emitV2StateIfChanged_talks _)
  dsimp only [State.reportFeedOvertravel]
  split_ifs with v2 active
  · have cancelled := latched.trans (resetTracker_talks _)
    refine (cancelled.trans ?_).trans (reported _)
    exact emitV2Terminal_talks _ fun later =>
      ⟨V2RequestLifecycle.activeRequestId_le later.active, error⟩
  · exact (latched.trans (resetTracker_talks _)).trans (reported _)
  · exact latched.trans (emit_talks _ fun _ later => absurd later v2)

theorem checkFeedErrors_talks (s : State) : Talks s s.checkFeedErrors := by
  unfold State.checkFeedErrors
  split_ifs
  · have moved : Talks s s.feedOvertravel := by
      dsimp only [State.feedOvertravel]
      split_ifs <;> exact talks_same rfl rfl
    exact moved.trans (reportFeedOvertravel_talks _)
  · exact .refl s

theorem serviceV2PhysicalRequest_talks (s : State) : Talks s s.serviceV2PhysicalRequest := by
  have phase : FitsResponse .progress [("phase", s.currentPhase.name)] := by
    cases s.currentPhase <;> decide
  have observed (ranged : Ranged s) :
      (s.link.physicalRequestTracker.observePhase s.currentPhase).1.requestIdField ≤ 65535 ∧
        Small (s.link.physicalRequestTracker.observePhase s.currentPhase).1.slot := by
    unfold PhysicalRequestTracker.observePhase
    split_ifs <;> exact ⟨ranged.tracked, ranged.slot⟩
  have stored := setTracker_talks s observed
  dsimp only [State.serviceV2PhysicalRequest]
  split_ifs
  · exact .refl s
  · exact stored
  · exact stored.trans (respond_talks _ fun later =>
      ⟨PhysicalRequestTracker.requestId_le later.tracked, phase⟩)

theorem feedCompletionTurns_talks {s : State} (v1 : s.link.session.mode = .v1) (turns : Nat)
    (now : UInt32) : Talks s (State.feedCompletionTurns turns s now) := by
  induction turns generalizing s with
  | zero => exact .refl s
  | succ turns ih =>
    unfold State.feedCompletionTurns
    generalize s.feedCompletion.update now = updated
    obtain ⟨completion, event⟩ := updated
    cases event with
    | none => exact talks_same rfl rfl
    | signalHigh =>
      have high : Talks s { s with feedCompletion := completion, feedDoneSignal := true } :=
        talks_same rfl rfl
      exact high.trans (ih v1)
    | signalLow =>
      have low : Talks s { s with feedCompletion := completion, feedDoneSignal := false } :=
        talks_same rfl rfl
      exact low.trans (ih v1)
    | notify =>
      have updated : Talks s { s with feedCompletion := completion } := talks_same rfl rfl
      exact (updated.trans (emit_talks_v1 (updated.mode.trans v1) _)).trans (talks_same rfl rfl)

theorem onFeedComplete_talks {s : State} (unfed : s.link.session.mode = .v2 → s.Fasts)
    (now : UInt32) : Talks s (s.onFeedComplete now) := by
  cases mode : s.link.session.mode with
  | v2 =>
    rw [Unfed.onFeedComplete_fasting (unfed mode) now]
    exact .refl s
  | v1 =>
    have turned {u : State} (started : Talks s u) :
        Talks s (State.feedCompletionTurns 3 u now) :=
      started.trans (feedCompletionTurns_talks (started.mode.trans mode) 3 now)
    dsimp only [State.onFeedComplete]
    split_ifs
    · exact talks_same rfl rfl
    · exact .refl s
    all_goals exact turned (talks_same rfl rfl)

theorem runTestCycle_talks {s : State} (v1 : s.link.session.mode = .v1) (raw : Nat) (t : Ticks) :
    Talks s (s.runTestCycle raw t) := by
  dsimp only [State.runTestCycle]
  split_ifs
  · have queued := queueFeed_talks v1 s.feeder.forceFeed
      (State.randomBelow raw s.configuration.slotCount) t
    exact (queued.trans (emit_talks_v1 (queued.mode.trans v1) _)).trans (talks_same rfl rfl)
  · exact talks_same rfl rfl
  · exact .refl s

theorem runSortTestCycle_talks {s : State} (v1 : s.link.session.mode = .v1) (raw : Nat)
    (now : UInt32) : Talks s (s.runSortTestCycle raw now) := by
  dsimp only [State.runSortTestCycle]
  split_ifs
  · exact talks_same rfl rfl
  · exact .refl s
  · exact (emit_talks_v1 v1 _).trans (talks_same rfl rfl)
  · have moved : Talks s (s.moveSorterToPosition 0) := talks_same rfl rfl
    exact (moved.trans (emit_talks_v1 (moved.mode.trans v1) _)).trans (talks_same rfl rfl)
  · exact .refl s

theorem runAux_talks {s : State} (unfed : s.link.session.mode = .v2 → s.Fasts)
    (raw sortRaw : Nat) (t : Ticks) (now : UInt32) : Talks s (s.runAux raw sortRaw t now) := by
  cases mode : s.link.session.mode with
  | v2 =>
    rw [State.runAux_idle (unfed mode).test (unfed mode).sortTest]
    exact .refl s
  | v1 =>
    unfold State.runAux
    split_ifs
    · exact .refl s
    · have tested := runTestCycle_talks mode raw t
      exact tested.trans (runSortTestCycle_talks (tested.mode.trans mode) sortRaw now)

theorem exec_tells {s : State} (ranged : Ranged s) (unfed : Unfed s) (routine : Routine) :
    Tells s (exec s routine) := by
  cases routine with
  | serialByte byte t => exact serialByte_tells ranged byte t
  | dispatchPending t => exact dispatchPending_tells ranged t
  | getProxState sensor now => exact Talks.tells (talks_same rfl rfl) ranged
  | updateSlotDropGate now =>
    dsimp only [exec, State.updateSlotDropGate]
    split_ifs <;> exact Talks.tells (talks_same rfl rfl) ranged
  | runSortMotor =>
    dsimp only [exec, State.runSortMotor, State.slotZeroPass]
    split_ifs <;> exact Talks.tells (talks_same rfl rfl) ranged
  | onSortComplete now => exact (onSortComplete_talks s now).tells ranged
  | scheduleRun t =>
    exact (scheduleRun_talks (fun v2 => (unfed.v2 v2).scheduled) t).tells ranged
  | checkFeedErrors => exact (checkFeedErrors_talks s).tells ranged
  | runFeedMotor =>
    dsimp only [exec, State.runFeedMotor]
    split_ifs <;> exact Talks.tells (talks_same rfl rfl) ranged
  | homeFeedMotor sensor now => exact (homeFeedMotor_talks s sensor now).tells ranged
  | homeSortMotor sensor now => exact (homeSortMotor_talks s sensor now).tells ranged
  | serviceSorterJog =>
    dsimp only [exec, State.serviceSorterJog, State.sorterJogEnds]
    split_ifs <;> exact Talks.tells (talks_same rfl rfl) ranged
  | onFeedComplete now => exact (onFeedComplete_talks unfed.v2 now).tells ranged
  | runAux raw sortRaw t now => exact (runAux_talks unfed.v2 raw sortRaw t now).tells ranged
  | motorStandByCheck now =>
    dsimp only [exec, State.motorStandByCheck]
    split_ifs <;> exact Talks.tells (talks_same rfl rfl) ranged
  | serviceV2PhysicalRequest => exact (serviceV2PhysicalRequest_talks s).tells ranged
  | emitV2StateIfChanged => exact (emitV2StateIfChanged_talks s).tells ranged

/-- Between two routines. -/
structure Speaking (s : State) : Prop where
  coordinated : Coordinated s
  unfed : Unfed s
  ranged : Ranged s

theorem Speaking.exec {s : State} (h : Speaking s) (routine : Routine) :
    Speaking (Firmware.exec s routine) where
  coordinated := h.coordinated.exec routine
  unfed := h.unfed.exec h.coordinated.running routine
  ranged := (exec_tells h.ranged h.unfed routine).ranged

theorem Speaking.execAll {s : State} (h : Speaking s) (routines : List Routine) :
    Speaking (Firmware.execAll s routines) := by
  induction routines generalizing s with
  | nil => exact h
  | cons routine routines ih => exact ih (h.exec routine)

theorem speaking_run (now : UInt32) (routines : List Routine) :
    Speaking (execAll (boot now) routines) :=
  Speaking.execAll ⟨.boot now, .boot now, ranged_boot now⟩ routines

end CaseSorter.Link
