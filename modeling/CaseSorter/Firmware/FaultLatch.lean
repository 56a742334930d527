import CaseSorter.Firmware.Coordination

/-! The mode, the two axes, the error flag of the feeder and the latch of the fault tracker.
They are set by different routines; `FaultLatch` is the link between them, and while the
fault is latched the machine is not running, so no command and no test starts a cycle. -/

namespace CaseSorter.Firmware

namespace MachineState

def RunsKnown (m : MachineState) : Prop := m.isRunning = m.bothPositionsKnown

theorem beginRecovery_runsKnown (m : MachineState) (axis : MachineAxis) :
    (m.beginRecovery axis).RunsKnown := by
  cases axis <;> simp [RunsKnown, beginRecovery, setAxis, isRunning, bothPositionsKnown]

theorem invalidateAxis_runsKnown (m : MachineState) (axis : MachineAxis) :
    (m.invalidateAxis axis).RunsKnown := by
  cases axis <;> simp [RunsKnown, invalidateAxis, setAxis, isRunning, bothPositionsKnown]

theorem completeRecovery_runsKnown {m : MachineState} (h : m.RunsKnown) (axis : MachineAxis) :
    (m.completeRecovery axis).1.RunsKnown := by
  dsimp only [completeRecovery]
  split_ifs with idle unknown
  · exact h
  · have stopped : m.isRunning = false := by
      unfold RunsKnown at h
      rw [h]
      cases axis <;> simp_all [setAxis, bothPositionsKnown]
    simp only [Bool.not_eq_true'] at unknown
    unfold RunsKnown
    rw [unknown]
    cases axis <;> exact stopped
  · simp only [Bool.not_eq_true', Bool.not_eq_false] at unknown
    unfold RunsKnown
    exact unknown.symm

end MachineState

namespace State

def latched (s : State) : Bool := s.link.faultStateTracker.feedOvertravelLatched

/-- A feed cycle is scheduled or going on, or a diagnostic cycle is. -/
def cycling (s : State) : Bool :=
  s.feeder.feedScheduled || s.feeder.isFeeding || s.feeder.feedCycleInProgress ||
    s.diagnostics.isTestCycle || s.diagnostics.isSortTestCycle

/-- The condition of `checkFeedErrors`. -/
def overtravels (s : State) : Bool :=
  (s.feeder.isFeeding || s.feeder.isFeedHoming) && !s.feeder.feedCycleComplete &&
    s.feeder.feedSteps < s.drive.feedOverTravelSteps

end State

structure FaultLatch (s : State) : Prop where
  modes : s.machineState.RunsKnown
  error : s.feeder.isFeedError = s.latched
  known : s.machineState.feeder.positionKnown → s.latched = false
  blocked : s.latched → s.cycling = false

/-- The step from `s` to `t` completes a recovery homing of the feeder. -/
def FeederRecovers (s t : State) : Prop :=
  s.machineState.feeder.recoveryInProgress ∧ t.machineState.feeder.positionKnown

/-- The step changes neither the mode nor the fault, and a cycle starts only on a running
machine. -/
structure Faultless (s t : State) : Prop where
  machineState : t.machineState = s.machineState
  error : t.feeder.isFeedError = s.feeder.isFeedError
  latched : t.latched = s.latched
  cycling : t.cycling → s.cycling ∨ s.machineState.isRunning

namespace Faultless

theorem refl (s : State) : Faultless s s := ⟨rfl, rfl, rfl, .inl⟩

theorem trans {s t u : State} (h : Faultless s t) (h' : Faultless t u) : Faultless s u where
  machineState := h'.machineState.trans h.machineState
  error := h'.error.trans h.error
  latched := h'.latched.trans h.latched
  cycling cycle := by
    rcases h'.cycling cycle with cycle | running
    · exact h.cycling cycle
    · exact .inr (h.machineState ▸ running)

theorem of_linkOnly {s t : State} (h : LinkOnly s t) : Faultless s t := by
  have same := h.sameMotion
  refine ⟨same.machineState, by rw [same.feeder], h.latched, fun cycle => .inl ?_⟩
  unfold State.cycling at cycle ⊢
  rw [same.feeder, same.diagnostics] at cycle
  exact cycle

end Faultless

namespace State

theorem scheduleRun_faultless (s : State) (t : Ticks) : Faultless s (s.scheduleRun t) := by
  dsimp only [scheduleRun]
  split_ifs with gate waiting ready
  · exact .refl s
  · refine ⟨rfl, rfl, rfl, fun _ => .inl ?_⟩
    simp only [Bool.and_eq_true] at waiting
    simp [cycling, waiting.1]
  · exact ⟨rfl, rfl, rfl, .inl⟩
  · exact ⟨rfl, rfl, rfl, .inl⟩
  · exact .refl s

theorem moveSorterToNextPosition_faultless (s : State) (position : Int) (now : UInt32) :
    Faultless s (s.moveSorterToNextPosition position now) := by
  dsimp only [moveSorterToNextPosition]
  split_ifs <;> exact ⟨rfl, rfl, rfl, .inl⟩

theorem queueFeed_faultless {s : State} (running : s.machineState.isRunning) (position : Int)
    (t : Ticks) : Faultless s (s.queueFeed position t) := by
  have moved := s.moveSorterToNextPosition_faultless position t.now
  have scheduled : Faultless (s.moveSorterToNextPosition position t.now)
      (s.moveSorterToNextPosition position t.now).scheduleFeed := by
    refine ⟨rfl, rfl, rfl, fun _ => .inr ?_⟩
    rw [moved.machineState]
    exact running
  exact (moved.trans scheduled).trans (scheduleRun_faultless _ t)

theorem runTestCycle_faultless {s : State} (running : s.machineState.isRunning) (raw : Nat)
    (t : Ticks) : Faultless s (s.runTestCycle raw t) := by
  dsimp only [runTestCycle]
  split_ifs with active more
  · exact (queueFeed_faultless running _ t).trans ⟨rfl, rfl, rfl, .inl⟩
  · refine ⟨rfl, rfl, rfl, fun _ => .inl ?_⟩
    simp only [Bool.and_eq_true] at active
    simp [cycling, active.1.1]
  · exact .refl s

theorem runSortTestCycle_faultless (s : State) (raw : Nat) (now : UInt32) :
    Faultless s (s.runSortTestCycle raw now) := by
  dsimp only [runSortTestCycle]
  split_ifs with active more pacing elapsed
  · exact ⟨rfl, rfl, rfl, .inl⟩
  · exact .refl s
  · exact ⟨rfl, rfl, rfl, .inl⟩
  · refine ⟨rfl, rfl, rfl, fun _ => .inl ?_⟩
    simp only [Bool.and_eq_true] at active
    simp [cycling, active.1]
  · exact .refl s

theorem runAux_faultless (s : State) (raw sortRaw : Nat) (t : Ticks) (now : UInt32) :
    Faultless s (s.runAux raw sortRaw t now) := by
  unfold runAux
  split_ifs with skip
  · exact .refl s
  · simp only [Bool.or_eq_true, Bool.not_eq_true', not_or, Bool.not_eq_false] at skip
    exact (runTestCycle_faultless skip.1 raw t).trans (runSortTestCycle_faultless _ sortRaw now)

theorem feedCompletionTurns_faultless (turns : Nat) (s : State) (now : UInt32) :
    Faultless s (feedCompletionTurns turns s now) := by
  induction turns generalizing s with
  | zero => exact .refl s
  | succ turns ih =>
    unfold feedCompletionTurns
    dsimp only
    split
    · exact ⟨rfl, rfl, rfl, .inl⟩
    · refine Faultless.trans ?_ (ih _)
      exact ⟨rfl, rfl, rfl, .inl⟩
    · refine Faultless.trans ?_ (ih _)
      exact ⟨rfl, rfl, rfl, .inl⟩
    · exact ⟨rfl, rfl, rfl, .inl⟩

theorem onFeedComplete_faultless (s : State) (now : UInt32) :
    Faultless s (s.onFeedComplete now) := by
  have turns := fun u (h : Faultless s u) => h.trans (feedCompletionTurns_faultless 3 u now)
  dsimp only [onFeedComplete]
  split_ifs
  · exact ⟨rfl, rfl, rfl, .inl⟩
  · exact .refl s
  · exact turns _ ⟨rfl, rfl, rfl, .inl⟩
  · exact turns _ ⟨rfl, rfl, rfl, .inl⟩
  · exact turns _ (.refl s)

theorem finishV2PhysicalRequest_faultless (s : State) (requestId : Nat)
    (operation : PhysicalRequestOperation) (slot : Int) :
    Faultless s (s.finishV2PhysicalRequest requestId operation slot) :=
  .of_linkOnly (s.finishV2PhysicalRequest_linkOnly requestId operation slot)

theorem reportMotion_faultless (s : State) (slot : Int)
    (finished : PhysicalRequestTracker × PhysicalRequestTransition) :
    Faultless s (s.reportMotion slot finished) := by
  have tracked : Faultless s (s.setTracker finished.1) := ⟨rfl, rfl, rfl, .inl⟩
  dsimp only [reportMotion]
  split_ifs
  · exact .refl s
  · exact tracked.trans (finishV2PhysicalRequest_faultless _ _ _ _)
  · exact tracked

end State

theorem exec_faultless (s : State) (routine : Routine) :
    Faultless s (exec s routine) ∨ Commanded s (exec s routine) ∨ routine = .checkFeedErrors ∨
      (∃ sensor now, routine = .homeFeedMotor sensor now) ∨
        ∃ sensor now, routine = .homeSortMotor sensor now := by
  cases routine with
  | serialByte byte t => exact .inr (.inl (s.serialByte_commanded byte t))
  | dispatchPending t => exact .inr (.inl (s.dispatchPending_commanded t))
  | checkFeedErrors => exact .inr (.inr (.inl rfl))
  | homeFeedMotor sensor now => exact .inr (.inr (.inr (.inl ⟨sensor, now, rfl⟩)))
  | homeSortMotor sensor now => exact .inr (.inr (.inr (.inr ⟨sensor, now, rfl⟩)))
  | getProxState sensor now => exact .inl ⟨rfl, rfl, rfl, .inl⟩
  | scheduleRun t => exact .inl (s.scheduleRun_faultless t)
  | onFeedComplete now => exact .inl (s.onFeedComplete_faultless now)
  | runAux raw sortRaw t now => exact .inl (s.runAux_faultless raw sortRaw t now)
  | emitV2StateIfChanged => exact .inl (.of_linkOnly s.emitV2StateIfChanged_linkOnly)
  | updateSlotDropGate now =>
    left
    dsimp only [exec, State.updateSlotDropGate]
    split_ifs <;> exact ⟨rfl, rfl, rfl, .inl⟩
  | runSortMotor =>
    left
    dsimp only [exec, State.runSortMotor, State.slotZeroPass]
    split_ifs <;> exact ⟨rfl, rfl, rfl, .inl⟩
  | onSortComplete now =>
    left
    dsimp only [exec, State.onSortComplete]
    split_ifs
    · have ended : Faultless s (s.sortEnds now) := ⟨rfl, rfl, rfl, .inl⟩
      exact ended.trans (State.reportMotion_faultless _ _ _)
    · exact .refl s
  | runFeedMotor =>
    left
    dsimp only [exec, State.runFeedMotor]
    split_ifs with moving feeding ended
    · exact .refl s
    · exact ⟨rfl, rfl, rfl, .inl⟩
    · refine ⟨rfl, rfl, rfl, fun _ => .inl ?_⟩
      simp [State.cycling, ended]
    · exact .refl s
  | serviceSorterJog =>
    left
    dsimp only [exec, State.serviceSorterJog, State.sorterJogEnds]
    split_ifs <;> exact ⟨rfl, rfl, rfl, .inl⟩
  | motorStandByCheck now =>
    left
    dsimp only [exec, State.motorStandByCheck]
    split_ifs <;> exact ⟨rfl, rfl, rfl, .inl⟩
  | serviceV2PhysicalRequest =>
    left
    dsimp only [exec, State.serviceV2PhysicalRequest]
    split_ifs <;> exact ⟨rfl, rfl, rfl, .inl⟩

namespace FaultLatch

theorem of_faultless {s t : State} (h : FaultLatch s) (step : Faultless s t) : FaultLatch t := by
  have unlatched : s.machineState.isRunning → s.latched = false := by
    intro running
    refine h.known ?_
    have both : s.machineState.bothPositionsKnown := h.modes ▸ running
    simp only [MachineState.bothPositionsKnown, Bool.and_eq_true] at both
    exact both.1
  refine ⟨by rw [step.machineState]; exact h.modes,
    by rw [step.error, step.latched, h.error], ?_, ?_⟩
  · rw [step.machineState, step.latched]
    exact h.known
  · intro fault
    rw [step.latched] at fault
    by_contra cycle
    rcases step.cycling (by simpa using cycle) with cycle | running
    · rw [h.blocked fault] at cycle
      cases cycle
    · rw [unlatched running] at fault
      cases fault

theorem boot (now : UInt32) : FaultLatch (Firmware.boot now) := ⟨rfl, rfl, nofun, nofun⟩

theorem enterStoppedState {s : State} (h : FaultLatch s) : FaultLatch s.enterStoppedState :=
  ⟨rfl, h.error, nofun, fun _ => rfl⟩

theorem homeFeeder {s : State} (h : FaultLatch s) : FaultLatch s.homeFeeder := by
  refine ⟨s.machineState.beginRecovery_runsKnown .feeder, h.error, nofun, fun fault => ?_⟩
  have idle := h.blocked fault
  simp only [State.cycling, Bool.or_eq_false_iff] at idle
  simp [State.cycling, State.homeFeeder, State.setMotorDriversEnabled, idle]

theorem homeSorter {s : State} (h : FaultLatch s) : FaultLatch s.homeSorter :=
  ⟨s.machineState.beginRecovery_runsKnown .sorter, h.error, h.known, h.blocked⟩

theorem applyV1Action {s : State} (h : FaultLatch s) {result : V1DispatchResult}
    (permitted : result.action.permitted s.machineState) (t : Ticks) :
    FaultLatch (s.applyV1Action result t) := by
  unfold State.applyV1Action
  cases action : result.action <;> rw [action] at permitted
  case stop => cases permitted
  case homeFeeder => exact h.homeFeeder
  case homeSorter => exact h.homeSorter
  case queueFeed | queueForcedFeed =>
    have forced : ∀ f, Faultless s (s.setForceFeed f) := fun _ => ⟨rfl, rfl, rfl, .inl⟩
    refine h.of_faultless ((forced _).trans (State.queueFeed_faultless ?_ _ t))
    exact permitted
  case startTest | startSortTest =>
    exact h.of_faultless ⟨rfl, rfl, rfl, fun _ => .inr permitted⟩
  all_goals exact h.of_faultless ⟨rfl, rfl, rfl, .inl⟩

theorem commanded {s t : State} (h : FaultLatch s) (step : Commanded s t) : FaultLatch t := by
  cases step with
  | quiet same => exact h.of_faultless (.of_linkOnly same)
  | stopped stop =>
    have stopped := h.enterStoppedState
    rw [stop.machine]
    exact ⟨stopped.modes, h.error.trans stop.latched.symm, nofun, fun _ => rfl⟩
  | switched idle machine tracker latched =>
    refine h.of_faultless ?_
    rw [machine]
    exact ⟨rfl, rfl, latched, .inl⟩
  | acted s₁ result ticks idle asked prepared permitted done =>
    have begun : FaultLatch s₁ := by
      refine h.of_faultless ?_
      rw [prepared.machine]
      exact ⟨rfl, rfl, prepared.latched, .inl⟩
    have same : s₁.machineState = s.machineState := by rw [prepared.machine]
    exact (begun.applyV1Action (same ▸ permitted) ticks).of_faultless (.of_linkOnly done)

theorem updateRecoveryCompletion_sorter {s : State} (h : FaultLatch s) :
    FaultLatch (s.updateRecoveryCompletion .sorter) := by
  have modes := MachineState.completeRecovery_runsKnown h.modes .sorter
  have feeder : (s.machineState.completeRecovery .sorter).1.feeder = s.machineState.feeder := by
    dsimp only [MachineState.completeRecovery]
    split_ifs <;> rfl
  rcases s.updateRecoveryCompletion_eq .sorter with eq | eq | ⟨-, -, eq⟩ <;> rw [eq]
  · exact h
  · exact ⟨modes, h.error, fun known => h.known (feeder ▸ known), h.blocked⟩
  · exact ⟨modes, h.error, fun known => h.known (feeder ▸ known), h.blocked⟩

theorem completeSorterRecoveryHoming {s : State} (h : FaultLatch s) (now : UInt32) :
    FaultLatch (s.completeSorterRecoveryHoming now) := by
  have ended : FaultLatch ((s.stopSorterHoming now).record .sorterHomed) :=
    h.of_faultless ⟨rfl, rfl, rfl, .inl⟩
  exact ended.updateRecoveryCompletion_sorter.of_faultless (State.reportMotion_faultless _ _ _)

theorem feedHomingEnds {s : State} (h : FaultLatch s) (now : UInt32) :
    FaultLatch (s.feedHomingEnds now) := by
  have modes := MachineState.completeRecovery_runsKnown h.modes .feeder
  by_cases recovering : s.machineState.feeder.recoveryInProgress
  · have recovered : (s.feedHomingEnds now).machineState.RunsKnown := by
      rcases (s.stopFeedHoming now).updateRecoveryCompletion_eq .feeder with eq |
        eq | ⟨-, -, eq⟩
      all_goals
        simp only [State.feedHomingEnds, recovering, if_true, eq]
      · exact h.modes
      · exact modes
      · exact modes
    have clear : (s.feedHomingEnds now).latched = false := by
      simp [State.feedHomingEnds, recovering, State.latched, State.clearFeedFault,
        State.endFeedCycle, State.setFaultStateTracker, FaultStateTracker.clearAfterFeedRecovery]
    refine ⟨recovered, ?_, fun _ => clear, fun fault => ?_⟩
    · rw [clear]
      simp [State.feedHomingEnds, recovering, State.clearFeedFault, State.endFeedCycle]
    · rw [clear] at fault
      cases fault
  · have idle : (s.stopFeedHoming now).updateRecoveryCompletion .feeder =
      s.stopFeedHoming now := by
      simp only [Bool.not_eq_true] at recovering
      simp [State.updateRecoveryCompletion, MachineState.axis, State.stopFeedHoming, recovering]
    refine h.of_faultless ?_
    simp only [State.feedHomingEnds, recovering, idle]
    refine ⟨rfl, rfl, rfl, fun cycle => .inl ?_⟩
    simp only [State.cycling, State.endFeedCycle, State.stopFeedHoming] at cycle ⊢
    simp only [Bool.or_eq_true] at cycle ⊢
    tauto

theorem completeFeedHoming {s : State} (h : FaultLatch s) (now : UInt32) :
    FaultLatch (s.completeFeedHoming now) := by
  have ended := h.feedHomingEnds now
  dsimp only [State.completeFeedHoming]
  split_ifs
  · have tracked : ∀ tracker, FaultLatch ((s.feedHomingEnds now).setTracker tracker) :=
      fun _ => ended.of_faultless ⟨rfl, rfl, rfl, .inl⟩
    exact (tracked _).homeSorter
  · exact ended.of_faultless (State.reportMotion_faultless _ _ _)

theorem feedHomingOffsetStep {s : State} (h : FaultLatch s) (now : UInt32) :
    FaultLatch (s.feedHomingOffsetStep now) := by
  unfold State.feedHomingOffsetStep
  split_ifs
  · exact h
  · exact h.completeFeedHoming now
  · exact h.of_faultless ⟨rfl, rfl, rfl, .inl⟩
  · exact h.completeFeedHoming now

theorem homeFeedMotor {s : State} (h : FaultLatch s) (sensor : Bool) (now : UInt32) :
    FaultLatch (s.homeFeedMotor sensor now) := by
  dsimp only [State.homeFeedMotor]
  split_ifs
  · exact h.completeFeedHoming now
  · refine feedHomingOffsetStep (h.of_faultless ?_) now
    exact ⟨rfl, rfl, rfl, .inl⟩
  · exact h.of_faultless ⟨rfl, rfl, rfl, .inl⟩
  · exact h.feedHomingOffsetStep now

theorem homeSortMotor {s : State} (h : FaultLatch s) (sensor : Bool) (now : UInt32) :
    FaultLatch (s.homeSortMotor sensor now) := by
  have searched : FaultLatch (s.recoverySearch sensor) := by
    refine h.of_faultless ?_
    unfold State.recoverySearch State.searchStep
    split_ifs <;> exact ⟨rfl, rfl, rfl, .inl⟩
  have offset : FaultLatch ((s.recoverySearch sensor).sortHomingOffsetStep now) := by
    unfold State.sortHomingOffsetStep
    split_ifs
    · exact searched
    · exact searched.completeSorterRecoveryHoming now
    · exact searched.of_faultless ⟨rfl, rfl, rfl, .inl⟩
    · exact searched.completeSorterRecoveryHoming now
  dsimp only [State.homeSortMotor, State.searchStep]
  split_ifs <;> first
    | exact h
    | exact h.completeSorterRecoveryHoming now
    | exact offset
    | exact h.of_faultless ⟨rfl, rfl, rfl, .inl⟩

theorem feedOvertravel (s : State) :
    FaultLatch s.feedOvertravel.reportFeedOvertravel ∧
      s.feedOvertravel.reportFeedOvertravel.latched := by
  have machine := s.feedOvertravel.reportFeedOvertravel_machine
  have fault : s.feedOvertravel.reportFeedOvertravel.latched := by
    unfold State.reportFeedOvertravel
    dsimp only
    split_ifs
    · rw [State.latched, (State.emitV2StateIfChanged_linkOnly _).latched,
        (State.emitV2Event_linkOnly _ _ _).latched, (State.emitV2Terminal_linkOnly _ _ _ _).latched]
      rfl
    · rw [State.latched, (State.emitV2StateIfChanged_linkOnly _).latched,
        (State.emitV2Event_linkOnly _ _ _).latched]
      rfl
    · rfl
  have modes : s.feedOvertravel.machineState.RunsKnown ∧
      s.feedOvertravel.machineState.feeder.positionKnown = false := by
    dsimp only [State.feedOvertravel]
    split_ifs
    · exact ⟨MachineState.invalidateAxis_runsKnown _ .sorter, rfl⟩
    · exact ⟨MachineState.invalidateAxis_runsKnown _ .feeder, rfl⟩
  have resting : s.feedOvertravel.feeder.isFeedError ∧ s.feedOvertravel.cycling = false := by
    dsimp only [State.feedOvertravel]
    split_ifs <;> exact ⟨rfl, rfl⟩
  refine ⟨⟨?_, ?_, ?_, fun _ => ?_⟩, fault⟩
  · rw [machine]
    exact modes.1
  · rw [fault, machine]
    exact resting.1
  · rw [machine]
    exact fun known => absurd known (by simp [modes.2])
  · rw [machine]
    exact resting.2

theorem checkFeedErrors {s : State} (h : FaultLatch s) : FaultLatch s.checkFeedErrors := by
  unfold State.checkFeedErrors
  split_ifs
  · exact (feedOvertravel s).1
  · exact h

theorem exec {s : State} (h : FaultLatch s) (routine : Routine) :
    FaultLatch (Firmware.exec s routine) := by
  rcases exec_faultless s routine with step | step | rfl | ⟨sensor, now, rfl⟩ |
    ⟨sensor, now, rfl⟩
  · exact h.of_faultless step
  · exact h.commanded step
  · exact h.checkFeedErrors
  · exact h.homeFeedMotor sensor now
  · exact h.homeSortMotor sensor now

theorem execAll {s : State} (h : FaultLatch s) (routines : List Routine) :
    FaultLatch (Firmware.execAll s routines) := by
  induction routines generalizing s with
  | nil => exact h
  | cons routine routines ih => exact ih (h.exec routine)

end FaultLatch

theorem Commanded.latched {s t : State} (h : Commanded s t) : t.latched = s.latched := by
  cases h with
  | quiet same => exact same.latched
  | stopped stop => exact stop.latched
  | switched idle machine tracker latched => exact latched
  | acted s₁ result ticks idle asked prepared permitted done =>
    have queued : ∀ u position, (State.queueFeed u position ticks).latched = u.latched := by
      intro u position
      rw [State.queueFeed, (State.scheduleRun_faultless _ ticks).latched]
      exact (u.moveSorterToNextPosition_faultless position ticks.now).latched
    have applied : (s₁.applyV1Action result ticks).latched = s₁.latched := by
      unfold State.applyV1Action
      cases result.action
      case queueFeed | queueForcedFeed => exact queued _ _
      all_goals rfl
    exact (done.latched.trans applied).trans prepared.latched

namespace State

theorem updateRecoveryCompletion_known {s : State}
    (recovering : s.machineState.feeder.recoveryInProgress) :
    (s.updateRecoveryCompletion .feeder).machineState.feeder.positionKnown := by
  have known : (s.machineState.completeRecovery .feeder).1.feeder.positionKnown := by
    simp only [MachineState.completeRecovery, MachineState.axis, recovering, Bool.not_true,
      Bool.false_eq_true, if_false]
    split_ifs <;> rfl
  dsimp only [updateRecoveryCompletion]
  split_ifs with idle
  · simp [MachineState.axis, recovering] at idle
  · exact known
  · exact known

theorem completeFeedHoming_latched (s : State) (now : UInt32) :
    (s.completeFeedHoming now).latched = s.latched ∨
      FeederRecovers s (s.completeFeedHoming now) := by
  have ended : (s.feedHomingEnds now).latched = s.latched ∨
      FeederRecovers s (s.feedHomingEnds now) := by
    by_cases recovering : s.machineState.feeder.recoveryInProgress
    · have known := @updateRecoveryCompletion_known (s.stopFeedHoming now) recovering
      refine .inr ⟨recovering, ?_⟩
      simp only [feedHomingEnds, recovering, if_true]
      exact known
    · left
      simp only [Bool.not_eq_true] at recovering
      simp [feedHomingEnds, updateRecoveryCompletion, MachineState.axis, stopFeedHoming, recovering]
      rfl
  dsimp only [completeFeedHoming]
  split_ifs
  · exact ended
  · have reported := reportMotion_faultless (s.feedHomingEnds now) 0
      (s.feedHomingEnds now).link.physicalRequestTracker.feedHomed
    unfold FeederRecovers
    rw [reported.latched, reported.machineState]
    exact ended

theorem homeFeedMotor_latched (s : State) (sensor : Bool) (now : UInt32) :
    (s.homeFeedMotor sensor now).latched = s.latched ∨
      FeederRecovers s (s.homeFeedMotor sensor now) := by
  have offset : ∀ u : State, (u.feedHomingOffsetStep now).latched = u.latched ∨
      FeederRecovers u (u.feedHomingOffsetStep now) := by
    intro u
    unfold feedHomingOffsetStep
    split_ifs
    · exact .inl rfl
    · exact u.completeFeedHoming_latched now
    · exact .inl rfl
    · exact u.completeFeedHoming_latched now
  dsimp only [homeFeedMotor]
  split_ifs
  · exact s.completeFeedHoming_latched now
  · exact offset _
  · exact .inl rfl
  · exact offset s

theorem homeSortMotor_latched (s : State) (sensor : Bool) (now : UInt32) :
    (s.homeSortMotor sensor now).latched = s.latched := by
  have homed : ∀ u : State, (u.completeSorterRecoveryHoming now).latched = u.latched := by
    intro u
    unfold completeSorterRecoveryHoming
    rw [(reportMotion_faultless _ _ _).latched]
    unfold sorterHomingEnds
    rcases ((u.stopSorterHoming now).record .sorterHomed).updateRecoveryCompletion_eq .sorter
      with eq | eq | ⟨-, -, eq⟩ <;> rw [eq] <;> rfl
  have found : (s.recoverySearch sensor).latched = s.latched := by
    unfold recoverySearch searchStep
    split_ifs <;> rfl
  unfold homeSortMotor searchStep sortHomingOffsetStep
  split_ifs <;> first | rfl | exact found | exact (homed _).trans found | exact homed _

end State

theorem exec_latched {s : State} {routine : Routine} (fault : s.latched)
    (unrecovered : ¬FeederRecovers s (exec s routine)) : (exec s routine).latched := by
  rcases exec_faultless s routine with step | step | rfl | ⟨sensor, now, rfl⟩ |
    ⟨sensor, now, rfl⟩
  · exact step.latched.trans fault
  · exact step.latched.trans fault
  · dsimp only [exec, State.checkFeedErrors]
    split_ifs
    · exact (FaultLatch.feedOvertravel s).2
    · exact fault
  · rcases s.homeFeedMotor_latched sensor now with same | recovers
    · exact same.trans fault
    · exact absurd recovers unrecovered
  · exact (s.homeSortMotor_latched sensor now).trans fault

/-- No step of the run completes a recovery homing of the feeder. -/
def Unrecovered (s : State) (routines : List Routine) : Prop :=
  Runs.Meets sketchStep (fun u routine => ¬FeederRecovers u (exec u routine)) s routines

instance (s : State) (routines : List Routine) : Decidable (Unrecovered s routines) := by
  unfold Unrecovered FeederRecovers
  infer_instance

theorem execAll_latched {s : State} {routines : List Routine} (fault : s.latched)
    (unrecovered : Unrecovered s routines) : (execAll s routines).latched := by
  have keeps : ∀ u routine v, u.latched = true → ¬FeederRecovers u (exec u routine) →
      sketchStep u routine = some v → v.latched = true := by
    intro u routine v fault unrecovered step
    cases step
    exact exec_latched fault unrecovered
  exact Runs.run_invariant keeps fault unrecovered (run_sketchStep s routines)

/-- In every state a run reaches, the machine runs exactly when both axes are known, the error
flag and the latch agree, and a known feeder has no fault; from an overtravel until the feeder
recovers no feed cycle and no diagnostic cycle goes on. -/
theorem fault_latch (now : UInt32) (routines : List Routine) :
    let s := execAll (boot now) routines
    (s.machineState.isRunning ↔
      s.machineState.feeder.positionKnown ∧ s.machineState.sorter.positionKnown) ∧
    (s.feeder.isFeedError ↔ s.link.faultStateTracker.feedOvertravelLatched) ∧
    (s.machineState.feeder.positionKnown → s.link.faultStateTracker.feedOvertravelLatched =
      false) ∧
    ∀ before after, routines = before ++ .checkFeedErrors :: after →
      (execAll (boot now) before).overtravels →
      Unrecovered (exec (execAll (boot now) before) .checkFeedErrors) after →
        s.cycling = false := by
  intro s
  have h : FaultLatch s := (FaultLatch.boot now).execAll routines
  refine ⟨?_, ?_, h.known, ?_⟩
  · rw [h.modes, MachineState.bothPositionsKnown, Bool.and_eq_true]
  · rw [h.error]
    exact Iff.rfl
  · intro before after split overtravels unrecovered
    have stops : exec (execAll (boot now) before) .checkFeedErrors =
        (execAll (boot now) before).feedOvertravel.reportFeedOvertravel := if_pos overtravels
    have fault : (exec (execAll (boot now) before) .checkFeedErrors).latched :=
      stops ▸ (FaultLatch.feedOvertravel _).2
    refine h.blocked ?_
    have ran : s = execAll (exec (execAll (boot now) before) .checkFeedErrors) after := by
      simp only [s, split, execAll, List.foldl_append, List.foldl_cons]
    rw [ran]
    exact execAll_latched fault unrecovered

theorem execAll_unsensed {s : State} (homing : s.feeder.isFeedHoming)
    (enabled : s.motorDriversEnabled) (now : UInt32) (pulses : Nat) :
    execAll s (List.replicate pulses (.homeFeedMotor false now)) =
      { s with feeder.feedSteps := s.feeder.feedSteps - pulses
               motion := List.replicate pulses .feedStep ++ s.motion } := by
  induction pulses generalizing s with
  | zero =>
    simp [execAll]
  | succ pulses ih =>
    have pulse : exec s (.homeFeedMotor false now) =
        { s with feeder.feedSteps := s.feeder.feedSteps - 1, motion := .feedStep :: s.motion } := by
      simp [exec, State.homeFeedMotor, homing, feedHomingEnabled, State.stepFeedMotor,
        State.setMotorDriversEnabled, enabled]
    have rest := @ih (exec s (.homeFeedMotor false now)) (by rw [pulse]; exact homing)
      (by rw [pulse]; exact enabled)
    rw [List.replicate_succ, execAll, List.foldl_cons]
    refine rest.trans ?_
    rw [pulse]
    simp only [List.replicate_succ', List.append_assoc, List.singleton_append]
    congr 2
    omega

theorem fault_latch_silent :
    let search := List.replicate 1441 (Routine.homeFeedMotor false 0)
    let before := lineRoutines (ascii "stop\nhomefeeder\n") ++ search
    (execAll (boot 0) (before ++ [.checkFeedErrors, .runAux 5 5 ⟨0, 0, 0, 0⟩ 0])).cycling =
      false := by
  intro search before
  have ran : execAll (boot 0) before = execAll (execAll (boot 0)
      (lineRoutines (ascii "stop\nhomefeeder\n"))) search := List.foldl_append ..
  have searched := ran.trans (execAll_unsensed (by decide +kernel) (by decide +kernel) 0 1441)
  have latch := (fault_latch 0 (before ++ [.checkFeedErrors, .runAux 5 5 ⟨0, 0, 0, 0⟩ 0])).2.2.2
  refine latch before [.runAux 5 5 ⟨0, 0, 0, 0⟩ 0] rfl ?_ ?_
  · rw [searched]
    decide +kernel
  · rw [searched]
    decide +kernel

end CaseSorter.Firmware
