import CaseSorter.Firmware.RequestLedger
import CaseSorter.Firmware.Unfed

/-! The calls by which the sketch changes what it knows of its axes. Every routine of `loop()`
changes `machineState` by these alone, and an idle sketch that is told nothing by none. -/

namespace CaseSorter.Firmware

inductive AxisCall
  | beginRecovery (axis : MachineAxis)
  | completeRecovery (axis : MachineAxis)
  | invalidateAxis (axis : MachineAxis)
  | acknowledgeQueueReset
  | enterStopped
  deriving DecidableEq, Repr

namespace MachineState

def call (m : MachineState) : AxisCall → MachineState
  | .beginRecovery axis => m.beginRecovery axis
  | .completeRecovery axis => (m.completeRecovery axis).1
  | .invalidateAxis axis => m.invalidateAxis axis
  | .acknowledgeQueueReset => m.acknowledgeQueueReset
  | .enterStopped => m.enterStopped

def Called (allowed : AxisCall → Bool) (m n : MachineState) : Prop :=
  ∃ calls : List AxisCall, (∀ c ∈ calls, allowed c = true) ∧ n = calls.foldl call m

section

variable {allowed : AxisCall → Bool} {m n o : MachineState}

theorem Called.refl (allowed : AxisCall → Bool) (m : MachineState) : m.Called allowed m :=
  ⟨[], List.forall_mem_nil _, rfl⟩

theorem Called.of_eq (same : n = m) : m.Called allowed n := same ▸ .refl allowed m

theorem Called.one (m : MachineState) {c : AxisCall} (may : allowed c = true) :
    m.Called allowed (m.call c) := ⟨[c], by simpa using may, rfl⟩

theorem Called.trans (first : m.Called allowed n) (second : n.Called allowed o) :
    m.Called allowed o := by
  obtain ⟨calls, may, rfl⟩ := first
  obtain ⟨more, may', rfl⟩ := second
  exact ⟨calls ++ more, List.forall_mem_append.mpr ⟨may, may'⟩, by rw [List.foldl_append]⟩

end

end MachineState

def Routine.calls : Routine → AxisCall → Bool
  | .serialByte _ _, .beginRecovery _ | .serialByte _ _, .enterStopped
  | .dispatchPending _, .beginRecovery _ | .dispatchPending _, .enterStopped
  | .checkFeedErrors, .invalidateAxis _
  | .homeFeedMotor _ _, .completeRecovery .feeder | .homeFeedMotor _ _, .beginRecovery .sorter
  | .homeFeedMotor _ _, .acknowledgeQueueReset
  | .homeSortMotor _ _, .completeRecovery .sorter
  | .homeSortMotor _ _, .acknowledgeQueueReset => true
  | _, _ => false

namespace State

variable (s : State)

theorem feedCompletionTurns_machineState (turns : Nat) (now : UInt32) :
    (feedCompletionTurns turns s now).machineState = s.machineState := by
  induction turns generalizing s with
  | zero => rfl
  | succ turns ih =>
    unfold feedCompletionTurns
    dsimp only
    split
    · rfl
    · exact ih _
    · exact ih _
    · rfl

theorem onFeedComplete_machineState (now : UInt32) :
    (s.onFeedComplete now).machineState = s.machineState := by
  unfold onFeedComplete
  split_ifs
  · rfl
  · rfl
  · refine (feedCompletionTurns_machineState _ 3 now).trans ?_
    dsimp only
    split_ifs <;> rfl
  · exact feedCompletionTurns_machineState _ 3 now

theorem reportMotion_machineState (slot : Int)
    (finished : PhysicalRequestTracker × PhysicalRequestTransition) :
    (s.reportMotion slot finished).machineState = s.machineState := by
  rw [s.reportMotion_machine]

section Homing

variable {allowed : AxisCall → Bool}

theorem updateRecoveryCompletion_called {axis : MachineAxis}
    (completes : allowed (.completeRecovery axis) = true)
    (acknowledges : allowed .acknowledgeQueueReset = true) :
    s.machineState.Called allowed (s.updateRecoveryCompletion axis).machineState := by
  have completed := MachineState.Called.one s.machineState completes
  rcases s.updateRecoveryCompletion_eq axis with same | done | ⟨-, -, done⟩
  · rw [same]
    exact .refl allowed _
  · rw [done]
    exact completed
  · rw [done]
    exact completed.trans (.one _ acknowledges)

theorem feedHomingEnds_called (now : UInt32)
    (completes : allowed (.completeRecovery .feeder) = true)
    (acknowledges : allowed .acknowledgeQueueReset = true) :
    s.machineState.Called allowed (s.feedHomingEnds now).machineState := by
  have completed := (s.stopFeedHoming now).updateRecoveryCompletion_called completes acknowledges
  unfold feedHomingEnds
  dsimp only
  split_ifs <;> exact completed

variable (raw : Bool) (t now : UInt32)

theorem completeFeedHoming_called :
    s.machineState.Called (Routine.homeFeedMotor raw t).calls
      (s.completeFeedHoming now).machineState := by
  have ended : s.machineState.Called (Routine.homeFeedMotor raw t).calls
      (s.feedHomingEnds now).machineState := s.feedHomingEnds_called now rfl rfl
  unfold completeFeedHoming
  dsimp only
  split_ifs
  · exact ended.trans (.one _ (c := .beginRecovery .sorter) rfl)
  · rw [reportMotion_machineState]
    exact ended

theorem feedHomingOffsetStep_called :
    s.machineState.Called (Routine.homeFeedMotor raw t).calls
      (s.feedHomingOffsetStep now).machineState := by
  unfold feedHomingOffsetStep
  split_ifs
  · exact .refl _ _
  · exact s.completeFeedHoming_called raw t now
  · exact .refl _ _
  · exact s.completeFeedHoming_called raw t now

theorem homeFeedMotor_called (sensor : Bool) (now : UInt32) :
    s.machineState.Called (Routine.homeFeedMotor sensor now).calls
      (s.homeFeedMotor sensor now).machineState := by
  unfold homeFeedMotor
  split_ifs
  · exact s.completeFeedHoming_called sensor now now
  · exact feedHomingOffsetStep_called _ sensor now now
  · exact .refl _ _
  · exact s.feedHomingOffsetStep_called sensor now now

theorem completeSorterRecoveryHoming_called :
    s.machineState.Called (Routine.homeSortMotor raw t).calls
      (s.completeSorterRecoveryHoming now).machineState := by
  unfold completeSorterRecoveryHoming
  dsimp only
  rw [reportMotion_machineState]
  exact updateRecoveryCompletion_called _ rfl rfl

theorem homeSortMotor_called (sensor : Bool) (now : UInt32) :
    s.machineState.Called (Routine.homeSortMotor sensor now).calls
      (s.homeSortMotor sensor now).machineState := by
  have search (limit : Int) (cause : StepCause) :
      (s.searchStep cause limit).machineState = s.machineState := by
    unfold searchStep
    split_ifs <;> rfl
  have before : s.machineState.Called (Routine.homeSortMotor sensor now).calls
      (s.recoverySearch sensor).machineState := .of_eq (s.recoverySearch_machineState sensor)
  unfold homeSortMotor
  split_ifs with homing enabled
  · exact .refl _ _
  · cases enabled
  · cases enabled
  · exact .of_eq (search _ _)
  · exact .refl _ _
  · unfold sortHomingOffsetStep
    split_ifs
    · exact before
    · exact before.trans (completeSorterRecoveryHoming_called _ sensor now now)
    · exact before
    · exact before.trans (completeSorterRecoveryHoming_called _ sensor now now)

end Homing

theorem checkFeedErrors_called :
    s.machineState.Called Routine.checkFeedErrors.calls s.checkFeedErrors.machineState := by
  unfold checkFeedErrors
  split_ifs
  · rw [s.feedOvertravel.reportFeedOvertravel_machine]
    have feeder : s.machineState.Called Routine.checkFeedErrors.calls
      (s.machineState.call (.invalidateAxis .feeder)) := .one _ rfl
    dsimp only [feedOvertravel]
    split_ifs
    · exact feeder.trans (.one _ (c := .invalidateAxis .sorter) rfl)
    · exact feeder
  · exact .refl _ _

theorem applyV1Action_called {allowed : AxisCall → Bool} (stops : allowed .enterStopped = true)
    (begins : ∀ axis, allowed (.beginRecovery axis) = true)
    (result : V1DispatchResult) (t : Ticks) :
    s.machineState.Called allowed (s.applyV1Action result t).machineState := by
  unfold applyV1Action
  cases result.action with
  | stop => exact .one _ stops
  | homeFeeder => exact .one _ (begins .feeder)
  | homeSorter => exact .one _ (begins .sorter)
  | queueFeed => exact .of_eq (queueFeed_machineState _ _ t)
  | queueForcedFeed => exact .of_eq (queueFeed_machineState _ _ t)
  | _ => exact .refl _ _

end State

theorem CommandEffect.called {s t : State} (effect : CommandEffect s t)
    {allowed : AxisCall → Bool} (stops : allowed .enterStopped = true)
    (begins : ∀ axis, allowed (.beginRecovery axis) = true) :
    s.machineState.Called allowed t.machineState := by
  cases effect with
  | quiet same => exact .of_eq same.machineState
  | stopped stop =>
    rw [stop.machine]
    exact .one _ stops
  | switched idle machine tracker =>
    rw [machine]
    exact .refl _ _
  | acted s₁ result ticks idle prepared permitted done =>
    rw [done.machineState, show s.machineState = s₁.machineState by rw [prepared.machine]]
    exact s₁.applyV1Action_called stops begins result ticks

def Routine.locates : Routine → Bool
  | .serialByte _ _ | .dispatchPending _ | .checkFeedErrors | .homeFeedMotor _ _
  | .homeSortMotor _ _ => true
  | _ => false

theorem exec_machineState (s : State) {routine : Routine} (aside : routine.locates = false) :
    (exec s routine).machineState = s.machineState := by
  cases routine with
  | scheduleRun t => exact s.scheduleRun_machineState t
  | serviceSorterJog => exact s.serviceSorterJog_machineState
  | onFeedComplete now => exact s.onFeedComplete_machineState now
  | runAux raw sortRaw t now => exact (Unfed.runAux_machineState s raw sortRaw t now).1
  | emitV2StateIfChanged => exact s.emitV2StateIfChanged_linkOnly.machineState
  | getProxState sensor now => rfl
  | updateSlotDropGate now =>
    dsimp only [exec, State.updateSlotDropGate]
    split_ifs <;> rfl
  | runSortMotor =>
    dsimp only [exec, State.runSortMotor, State.slotZeroPass]
    split_ifs <;> rfl
  | onSortComplete now =>
    dsimp only [exec, State.onSortComplete]
    split_ifs
    · exact State.reportMotion_machineState _ _ _
    · rfl
  | runFeedMotor =>
    dsimp only [exec, State.runFeedMotor]
    split_ifs <;> rfl
  | motorStandByCheck now =>
    dsimp only [exec, State.motorStandByCheck]
    split_ifs <;> rfl
  | serviceV2PhysicalRequest =>
    dsimp only [exec, State.serviceV2PhysicalRequest]
    split_ifs <;> rfl
  | _ => cases aside

theorem handleRawStop_machineState (s : State) :
    s.handleRawStop.machineState = s.machineState.call .enterStopped := by
  dsimp only [State.handleRawStop]
  split_ifs
  · exact (State.emitV2StateIfChanged_linkOnly _).machineState
  · rfl

theorem exec_called (s : State) (routine : Routine) :
    s.machineState.Called routine.calls (exec s routine).machineState := by
  by_cases locates : routine.locates = true
  · cases routine with
    | serialByte byte t => exact (s.serialByte_effect byte t).called rfl fun _ => rfl
    | dispatchPending t => exact (s.dispatchPending_effect t).called rfl fun _ => rfl
    | checkFeedErrors => exact s.checkFeedErrors_called
    | homeFeedMotor sensor now => exact s.homeFeedMotor_called sensor now
    | homeSortMotor sensor now => exact s.homeSortMotor_called sensor now
    | _ => cases locates
  · exact .of_eq (exec_machineState s (by simpa using locates))

theorem exec_unasked {s : State} (idle : s.executionBusy = false) {routine : Routine}
    (unheard : ∀ byte t, routine ≠ .serialByte byte t)
    (pending : ∀ t, routine ≠ .dispatchPending t) :
    (exec s routine).machineState = s.machineState := by
  simp only [State.executionBusy, Bool.or_eq_false_iff] at idle
  by_cases locates : routine.locates = true
  · cases routine with
    | serialByte byte t => exact absurd rfl (unheard byte t)
    | dispatchPending t => exact absurd rfl (pending t)
    | checkFeedErrors =>
      exact congrArg State.machineState (State.checkFeedErrors_still (by simp_all) (by simp_all))
    | homeFeedMotor sensor now =>
      exact congrArg State.machineState
        (State.homeFeedMotor_still (by simp_all) (by simp_all) sensor now)
    | homeSortMotor sensor now =>
      exact congrArg State.machineState (State.homeSortMotor_still (by simp_all) sensor now)
    | _ => cases locates
  · exact exec_machineState s (by simpa using locates)

end CaseSorter.Firmware
