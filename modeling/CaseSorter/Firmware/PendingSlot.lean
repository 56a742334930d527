import CaseSorter.Firmware.Coordination

/-! The pending slot. Only a v1 line fills it, and only a stop or a change of the protocol
version empties it without serving it; everything else leaves it as it is. -/

namespace CaseSorter.Firmware

namespace State

theorem respondData_pending (s : State) (requestId : Nat) (fields : List Field) :
    (s.respondData requestId fields).link.pendingCommand = s.link.pendingCommand := by
  induction fields generalizing s with
  | nil => rfl
  | cons entry fields ih => exact ih (s.respond requestId .data [entry])

theorem emitV2Terminal_pending (s : State) (requestId : Nat) (kind : V2ResponseKind)
    (fields : List Field) :
    (s.emitV2Terminal requestId kind fields).1.link.pendingCommand = s.link.pendingCommand := by
  unfold emitV2Terminal
  split_ifs <;> rfl

theorem emitV2StateIfChanged_pending (s : State) :
    s.emitV2StateIfChanged.link.pendingCommand = s.link.pendingCommand := by
  dsimp only [emitV2StateIfChanged]
  split_ifs <;> rfl

theorem beginV2Immediate_pending (s : State) (requestId : Nat) :
    (s.beginV2Immediate requestId).1.link.pendingCommand = s.link.pendingCommand := by
  dsimp only [beginV2Immediate]
  split_ifs
  · rfl
  · split <;> rfl

theorem beginV2Active_pending (s : State) (requestId : Nat) :
    (s.beginV2Active requestId).1.link.pendingCommand = s.link.pendingCommand := by
  dsimp only [beginV2Active]
  split <;> rfl

theorem finishV2PhysicalRequest_pending (s : State) (requestId : Nat)
    (operation : PhysicalRequestOperation) (slot : Int) :
    (s.finishV2PhysicalRequest requestId operation slot).link.pendingCommand =
      s.link.pendingCommand := by
  unfold finishV2PhysicalRequest
  split_ifs
  · rfl
  · have observed := s.emitV2StateIfChanged_pending
    cases operation with
    | homeAll | homeFeeder | homeSorter => exact (emitV2Terminal_pending _ _ _ _).trans observed
    | sortTo | none => exact observed

theorem refuseV2Request_pending {s refusal : State} {requestId : Nat}
    (h : s.refuseV2Request requestId = some refusal) :
    refusal.link.pendingCommand = s.link.pendingCommand := by
  unfold refuseV2Request at h
  split_ifs at h
  · exact Option.some.inj h ▸ rfl
  · exact Option.some.inj h ▸ rfl

theorem scheduleRun_pending (s : State) (t : Ticks) :
    (s.scheduleRun t).link.pendingCommand = s.link.pendingCommand := by
  dsimp only [scheduleRun]
  split_ifs <;> rfl

theorem queueFeed_pending (s : State) (position : Int) (t : Ticks) :
    (s.queueFeed position t).link.pendingCommand = s.link.pendingCommand := by
  refine (scheduleRun_pending _ t).trans ?_
  dsimp only [scheduleFeed, moveSorterToNextPosition]
  split_ifs <;> rfl

theorem applyV1Action_pending (s : State) {result : V1DispatchResult} (t : Ticks)
    (h : result.action ≠ .stop) :
    (s.applyV1Action result t).link.pendingCommand = s.link.pendingCommand := by
  unfold applyV1Action
  cases action : result.action
  case stop => exact absurd action h
  case queueFeed | queueForcedFeed => exact queueFeed_pending _ _ t
  all_goals rfl

theorem writeV1Output_pending (s : State) (result : V1DispatchResult) :
    (s.writeV1Output result).link.pendingCommand = s.link.pendingCommand := by
  unfold writeV1Output
  split <;> rfl

def Unfilled (s t : State) : Prop :=
  t.link.pendingCommand = s.link.pendingCommand ∨ t.link.pendingCommand = .empty

theorem Unfilled.trans {s t u : State} (h : Unfilled s t) (h' : Unfilled t u) : Unfilled s u := by
  rcases h' with same | cleared
  · exact h.imp same.trans same.trans
  · exact .inr cleared

theorem Unfilled.then_same {s t u : State} (h : Unfilled s t)
    (same : u.link.pendingCommand = t.link.pendingCommand) : Unfilled s u := h.trans (.inl same)

theorem Unfilled.applyV1Action (s : State) (result : V1DispatchResult) (t : Ticks) :
    Unfilled s (s.applyV1Action result t) := by
  by_cases stop : result.action = .stop
  · right
    rw [State.applyV1Action, stop]
    rfl
  · exact .inl (s.applyV1Action_pending t stop)

theorem handleV2Immediate_pending (s : State) (requestId : Nat) (payload : Bytes) (t : Ticks) :
    (s.handleV2Immediate requestId payload t).link.pendingCommand = s.link.pendingCommand := by
  have begun := s.beginV2Immediate_pending requestId
  dsimp only [handleV2Immediate]
  split_ifs
  · exact begun
  · exact begun
  · exact (emitV2Terminal_pending _ _ _ _).trans begun
  · exact (emitV2Terminal_pending _ _ _ _).trans ((respondData_pending _ _ _).trans begun)
  · exact (emitV2Terminal_pending _ _ _ _).trans begun

theorem handleV2Stop_unfilled (s : State) (requestId : Nat) :
    Unfilled s (s.handleV2Stop requestId) := by
  dsimp only [handleV2Stop]
  split_ifs
  · exact .inl rfl
  · exact .inr (emitV2StateIfChanged_pending _)
  · exact .inr (emitV2StateIfChanged_pending _)

theorem handleV2ProtocolOne_unfilled (s : State) (requestId : Nat) :
    Unfilled s (s.handleV2ProtocolOne requestId) := by
  have begun := s.beginV2Immediate_pending requestId
  cases refused : s.refuseV2Request requestId with
  | some refusal =>
    have same := refuseV2Request_pending refused
    simp only [handleV2ProtocolOne, refused]
    split_ifs
    · exact .inl rfl
    · exact .inl same
  | none =>
    simp only [handleV2ProtocolOne, refused]
    split_ifs
    · exact .inl rfl
    · exact .inl begun
    · exact .inl ((emitV2Terminal_pending _ _ _ _).trans begun)
    · exact .inr rfl

theorem applyV2Setter_unfilled (s : State) (requestId : Nat) (payload : Bytes)
    (command : V1Command) (t : Ticks) :
      Unfilled s (s.applyV2Setter requestId payload command t) := by
  dsimp only [applyV2Setter]
  split_ifs
  · exact .inl (emitV2Terminal_pending _ _ _ _)
  · refine .then_same ?_ (emitV2Terminal_pending _ _ _ _)
    refine .then_same ?_ rfl
    exact Unfilled.applyV1Action _ _ t

theorem handleV2Setter_unfilled (s : State) (requestId : Nat) (payload : Bytes)
    (command : V1Command) (t : Ticks) :
    Unfilled s (s.handleV2Setter requestId payload command t) := by
  have begun : Unfilled s (s.beginV2Setter requestId).1 := by
    unfold beginV2Setter
    split
    · rename_i refusal refused
      exact .inl (refuseV2Request_pending refused)
    · exact .inl (s.beginV2Active_pending requestId)
  dsimp only [handleV2Setter]
  split_ifs
  · exact begun.trans (applyV2Setter_unfilled _ _ _ _ t)
  · exact begun

theorem acceptV2PhysicalRequest_unfilled (s : State) (requestId : Nat)
    (operation : PhysicalRequestOperation) (result : V1DispatchResult) (t : Ticks) :
    Unfilled s (s.acceptV2PhysicalRequest requestId operation result t) := by
  unfold acceptV2PhysicalRequest
  generalize (if operation = .sortTo then "sort" else "home") = name
  dsimp only
  split_ifs
  · refine Unfilled.trans ?_ (Unfilled.applyV1Action _ _ t)
    exact .inl rfl
  · refine Unfilled.then_same ?_ (emitV2Terminal_pending _ _ _ _)
    exact .inl rfl

theorem startV2PhysicalRequest_unfilled (s : State) (requestId : Nat)
    (operation : PhysicalRequestOperation) (result : V1DispatchResult) (t : Ticks) :
    Unfilled s (s.startV2PhysicalRequest requestId operation result t) := by
  have begun : Unfilled s (s.beginV2Active requestId).1 := .inl (s.beginV2Active_pending requestId)
  dsimp only [startV2PhysicalRequest]
  split_ifs
  · exact begun
  · exact begun.then_same (emitV2Terminal_pending _ _ _ _)
  · exact begun.then_same (emitV2Terminal_pending _ _ _ _)
  · exact begun.trans (acceptV2PhysicalRequest_unfilled _ requestId operation result t)

theorem beginV2PhysicalRequest_unfilled (s : State) (requestId : Nat) (payload : Bytes)
    (operation : PhysicalRequestOperation) (command : V1Command) (t : Ticks) :
    Unfilled s (s.beginV2PhysicalRequest requestId payload operation command t) := by
  unfold beginV2PhysicalRequest
  split
  · rename_i refusal refused
    exact .inl (refuseV2Request_pending refused)
  · exact startV2PhysicalRequest_unfilled _ requestId operation _ t

theorem handleV2Request_unfilled (s : State) (requestId : Nat) (payload : Bytes) (t : Ticks) :
    Unfilled s (s.handleV2Request requestId payload t) := by
  dsimp only [handleV2Request]
  split_ifs
  · exact s.handleV2Stop_unfilled requestId
  · exact s.handleV2ProtocolOne_unfilled requestId
  · exact .inl ((emitV2Terminal_pending _ _ _ _).trans
      ((respondData_pending _ _ _).trans (s.beginV2Immediate_pending requestId)))
  · exact .inl (s.beginV2Immediate_pending requestId)
  · exact s.handleV2Setter_unfilled requestId payload _ t
  · exact s.beginV2PhysicalRequest_unfilled requestId _ _ _ t
  · exact s.beginV2PhysicalRequest_unfilled requestId _ _ _ t
  · exact s.beginV2PhysicalRequest_unfilled requestId _ _ _ t
  · exact s.beginV2PhysicalRequest_unfilled requestId _ _ _ t
  · exact .inl (s.handleV2Immediate_pending requestId payload t)

theorem consumeV2_unfilled (s : State) (byte : UInt8) (t : Ticks) :
    Unfilled s (s.consumeV2 byte t) := by
  have frame (u : State) (status : FrameResult) (frame : Bytes) :
      Unfilled u (u.handleV2Frame status frame t) := by
    unfold handleV2Frame
    split
    · exact .inl rfl
    · exact .inl rfl
    · exact .inl rfl
    · split
      · exact .inl rfl
      · exact .inl rfl
      · exact handleV2Request_unfilled _ _ _ t
  dsimp only [consumeV2]
  split
  · exact .inl rfl
  · exact frame (s.setV2Parser (s.link.session.parser.consume byte).1) _ _
  · exact frame (s.setV2Parser (s.link.session.parser.consume byte).1) _ _
  · exact frame (s.setV2Parser (s.link.session.parser.consume byte).1) _ _

theorem handleRawStop_pending (s : State) : s.handleRawStop.link.pendingCommand = .empty := by
  dsimp only [handleRawStop]
  split_ifs
  · exact emitV2StateIfChanged_pending _
  · rfl

theorem reportMotion_pending (s : State) (slot : Int)
    (finished : PhysicalRequestTracker × PhysicalRequestTransition) :
    (s.reportMotion slot finished).link.pendingCommand = s.link.pendingCommand := by
  dsimp only [reportMotion]
  split_ifs
  · rfl
  · exact finishV2PhysicalRequest_pending _ _ _ _
  · rfl

theorem updateRecoveryCompletion_pending (s : State) (axis : MachineAxis) :
    (s.updateRecoveryCompletion axis).link.pendingCommand = s.link.pendingCommand := by
  rcases s.updateRecoveryCompletion_eq axis with eq | eq | ⟨-, -, eq⟩ <;> rw [eq]

theorem completeFeedHoming_pending (s : State) (now : UInt32) :
    (s.completeFeedHoming now).link.pendingCommand = s.link.pendingCommand := by
  have recovered := (s.stopFeedHoming now).updateRecoveryCompletion_pending .feeder
  have ended : (s.feedHomingEnds now).link.pendingCommand = s.link.pendingCommand := by
    dsimp only [feedHomingEnds]
    split_ifs <;> exact recovered
  dsimp only [completeFeedHoming]
  split_ifs
  · exact ended
  · exact (reportMotion_pending _ _ _).trans ended

theorem feedHomingOffsetStep_pending (s : State) (now : UInt32) :
    (s.feedHomingOffsetStep now).link.pendingCommand = s.link.pendingCommand := by
  unfold feedHomingOffsetStep
  split_ifs
  · rfl
  · exact s.completeFeedHoming_pending now
  · rfl
  · exact s.completeFeedHoming_pending now

theorem homeFeedMotor_pending (s : State) (sensor : Bool) (now : UInt32) :
    (s.homeFeedMotor sensor now).link.pendingCommand = s.link.pendingCommand := by
  dsimp only [homeFeedMotor]
  split_ifs
  · exact s.completeFeedHoming_pending now
  · exact feedHomingOffsetStep_pending _ now
  · rfl
  · exact s.feedHomingOffsetStep_pending now

theorem completeSorterRecoveryHoming_pending (s : State) (now : UInt32) :
    (s.completeSorterRecoveryHoming now).link.pendingCommand = s.link.pendingCommand :=
  (reportMotion_pending _ _ _).trans (updateRecoveryCompletion_pending _ .sorter)

theorem homeSortMotor_pending (s : State) (sensor : Bool) (now : UInt32) :
    (s.homeSortMotor sensor now).link.pendingCommand = s.link.pendingCommand := by
  have searched : (s.recoverySearch sensor).link.pendingCommand = s.link.pendingCommand := by
    unfold recoverySearch searchStep
    split_ifs <;> rfl
  have offset : ((s.recoverySearch sensor).sortHomingOffsetStep now).link.pendingCommand =
      s.link.pendingCommand := by
    unfold sortHomingOffsetStep
    split_ifs
    · exact searched
    · exact (completeSorterRecoveryHoming_pending _ now).trans searched
    · exact searched
    · exact (completeSorterRecoveryHoming_pending _ now).trans searched
  unfold homeSortMotor searchStep
  split_ifs
  all_goals first
    | rfl
    | exact s.completeSorterRecoveryHoming_pending now
    | exact offset

theorem reportFeedOvertravel_pending (s : State) :
    s.reportFeedOvertravel.link.pendingCommand = s.link.pendingCommand := by
  dsimp only [reportFeedOvertravel]
  split_ifs
  · refine (emitV2StateIfChanged_pending _).trans ?_
    exact emitV2Terminal_pending _ _ _ _
  · exact emitV2StateIfChanged_pending _
  · rfl

theorem checkFeedErrors_pending (s : State) :
    s.checkFeedErrors.link.pendingCommand = s.link.pendingCommand := by
  unfold checkFeedErrors
  split_ifs
  · refine (reportFeedOvertravel_pending _).trans ?_
    dsimp only [feedOvertravel]
    split_ifs <;> rfl
  · rfl

theorem feedCompletionTurns_pending (turns : Nat) (s : State) (now : UInt32) :
    (feedCompletionTurns turns s now).link.pendingCommand = s.link.pendingCommand := by
  induction turns generalizing s with
  | zero => rfl
  | succ turns ih =>
    unfold feedCompletionTurns
    dsimp only
    split
    · rfl
    · exact ih _
    · exact ih _
    · rfl

theorem onFeedComplete_pending (s : State) (now : UInt32) :
    (s.onFeedComplete now).link.pendingCommand = s.link.pendingCommand := by
  dsimp only [onFeedComplete]
  split_ifs
  · rfl
  · rfl
  · exact feedCompletionTurns_pending 3 _ now
  · exact feedCompletionTurns_pending 3 _ now
  · exact feedCompletionTurns_pending 3 _ now

theorem runAux_pending (s : State) (raw sortRaw : Nat) (t : Ticks) (now : UInt32) :
    (s.runAux raw sortRaw t now).link.pendingCommand = s.link.pendingCommand := by
  have tested : (s.runTestCycle raw t).link.pendingCommand = s.link.pendingCommand := by
    dsimp only [runTestCycle]
    split_ifs
    · exact s.queueFeed_pending _ t
    · rfl
    · rfl
  dsimp only [runAux, runSortTestCycle]
  split_ifs <;> first | rfl | exact tested

theorem serviceV2PhysicalRequest_pending (s : State) :
    s.serviceV2PhysicalRequest.link.pendingCommand = s.link.pendingCommand := by
  dsimp only [serviceV2PhysicalRequest]
  split_ifs <;> rfl

end State

theorem exec_pending (s : State) (routine : Routine)
    (serial : ∀ byte t, routine ≠ .serialByte byte t)
    (pending : ∀ t, routine ≠ .dispatchPending t) :
    (exec s routine).link.pendingCommand = s.link.pendingCommand := by
  cases routine with
  | serialByte byte t => exact absurd rfl (serial byte t)
  | dispatchPending t => exact absurd rfl (pending t)
  | getProxState sensor now => rfl
  | updateSlotDropGate now =>
    dsimp only [exec, State.updateSlotDropGate]
    split_ifs <;> rfl
  | runSortMotor =>
    dsimp only [exec, State.runSortMotor, State.slotZeroPass]
    split_ifs <;> rfl
  | onSortComplete now =>
    dsimp only [exec, State.onSortComplete]
    split_ifs
    · exact State.reportMotion_pending _ _ _
    · rfl
  | scheduleRun t => exact s.scheduleRun_pending t
  | checkFeedErrors => exact s.checkFeedErrors_pending
  | runFeedMotor =>
    dsimp only [exec, State.runFeedMotor]
    split_ifs <;> rfl
  | homeFeedMotor sensor now => exact s.homeFeedMotor_pending sensor now
  | homeSortMotor sensor now => exact s.homeSortMotor_pending sensor now
  | serviceSorterJog =>
    dsimp only [exec, State.serviceSorterJog, State.sorterJogEnds]
    split_ifs <;> rfl
  | onFeedComplete now => exact s.onFeedComplete_pending now
  | runAux raw sortRaw t now => exact s.runAux_pending raw sortRaw t now
  | motorStandByCheck now =>
    dsimp only [exec, State.motorStandByCheck]
    split_ifs <;> rfl
  | serviceV2PhysicalRequest => exact s.serviceV2PhysicalRequest_pending
  | emitV2StateIfChanged => exact s.emitV2StateIfChanged_pending

end CaseSorter.Firmware
