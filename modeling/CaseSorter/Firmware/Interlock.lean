import CaseSorter.Firmware.FaultLatch
import CaseSorter.Firmware.SorterPosition
import CaseSorter.Firmware.StopFinal
import CaseSorter.Firmware.Unfed

/-! A feed cycle and a sorter transition take turns. The feed of a cycle waits for the
transition queued with it, and from its first pulse on the sorter has nothing to do:
a new transition needs an idle machine or a test cycle whose last feed is over. -/

namespace CaseSorter.Firmware

def CycleRuns (s : State) : Prop := s.cycling → s.machineState.isRunning

namespace CycleRuns

theorem of_faultless {s t : State} (h : CycleRuns s) (step : Faultless s t) : CycleRuns t := by
  intro cycle
  rw [step.machineState]
  exact (step.cycling cycle).elim h id

theorem of_resting {s : State} (rests : s.cycling = false) : CycleRuns s := by
  intro cycle
  rw [rests] at cycle
  cases cycle

theorem boot (now : UInt32) : CycleRuns (Firmware.boot now) := of_resting rfl

theorem cycling_of_fasts {s : State} (h : s.Fasts) : s.cycling = false := by
  obtain ⟨scheduled, feeding, cycle, -, test, sortTest, -⟩ := h
  simp [State.cycling, scheduled, feeding, cycle, test, sortTest]

theorem applyV1Action {s : State} (idle : s.executionBusy = false) {result : V1DispatchResult}
    (permitted : result.action.permitted s.machineState) (t : Ticks) :
    CycleRuns (s.applyV1Action result t) := by
  have rests := cycling_of_fasts (State.fasts_of_idle idle)
  have scheduled := (State.fasts_of_idle idle).scheduled
  have still : CycleRuns s := of_resting rests
  unfold State.applyV1Action
  cases action : result.action <;> rw [action] at permitted
  case stop => cases permitted
  case homeFeeder =>
    simp only [State.cycling, Bool.or_eq_false_iff] at rests
    exact of_resting
      (by simp [State.cycling, State.homeFeeder, State.setMotorDriversEnabled, rests])
  case homeSorter => exact of_resting rests
  case queueFeed | queueForcedFeed =>
    have forced : ∀ f, Faultless s (s.setForceFeed f) := fun _ => ⟨rfl, rfl, rfl, .inl⟩
    refine still.of_faultless ((forced _).trans (State.queueFeed_faultless ?_ _ t))
    exact permitted
  case startTest | startSortTest => exact fun _ => permitted
  all_goals exact of_resting rests

theorem commanded {s t : State} (h : CycleRuns s) (step : Commanded s t) : CycleRuns t := by
  cases step with
  | quiet same => exact h.of_faultless (.of_linkOnly same)
  | stopped stop =>
    rw [stop.machine]
    exact of_resting rfl
  | switched idle machine tracker latched =>
    rw [machine]
    exact h
  | acted s₁ result ticks idle asked prepared permitted done =>
    have still : s₁.executionBusy = false := by
      rw [prepared.machine]
      exact idle
    have same : s₁.machineState = s.machineState := by rw [prepared.machine]
    exact (applyV1Action still (same ▸ permitted) ticks).of_faultless (.of_linkOnly done)

theorem completeRecovery_running {m : MachineState} (running : m.isRunning) (axis : MachineAxis) :
    (m.completeRecovery axis).1.isRunning := by
  dsimp only [MachineState.completeRecovery]
  split_ifs
  · exact running
  · cases axis <;> exact running
  · rfl

theorem updateRecoveryCompletion {s : State} (h : CycleRuns s) (axis : MachineAxis) :
    CycleRuns (s.updateRecoveryCompletion axis) := by
  rcases s.updateRecoveryCompletion_eq axis with eq | eq | ⟨-, -, eq⟩ <;> rw [eq]
  · exact h
  · exact fun cycle => completeRecovery_running (h cycle) axis
  · exact fun cycle => completeRecovery_running (h cycle) axis

theorem feedHomingEnds {s : State} (h : CycleRuns s) (now : UInt32) :
    CycleRuns (s.feedHomingEnds now) := by
  have stopped : CycleRuns (s.stopFeedHoming now) := h
  have recovered := stopped.updateRecoveryCompletion .feeder
  have ends : ∀ u : State, CycleRuns u → CycleRuns u.endFeedCycle := by
    intro u running cycle
    refine running ?_
    simp only [State.cycling, State.endFeedCycle, Bool.or_eq_true] at cycle ⊢
    tauto
  refine ends _ ?_
  split_ifs
  · exact recovered
  · exact recovered

theorem completeFeedHoming {s : State} (h : CycleRuns s) (unfed : Unfed s) (now : UInt32) :
    CycleRuns (s.completeFeedHoming now) := by
  have ended := h.feedHomingEnds now
  dsimp only [State.completeFeedHoming]
  split_ifs with chained
  · have rests := cycling_of_fasts ((unfed.feedHomingEnds now).v2 chained.1)
    exact of_resting rests
  · exact ended.of_faultless (State.reportMotion_faultless _ _ _)

theorem feedHomingOffsetStep {s : State} (h : CycleRuns s) (unfed : Unfed s) (now : UInt32) :
    CycleRuns (s.feedHomingOffsetStep now) := by
  unfold State.feedHomingOffsetStep
  split_ifs
  · exact h
  · exact h.completeFeedHoming unfed now
  · exact h
  · exact h.completeFeedHoming unfed now

theorem homeFeedMotor {s : State} (h : CycleRuns s) (unfed : Unfed s) (sensor : Bool)
    (now : UInt32) : CycleRuns (s.homeFeedMotor sensor now) := by
  dsimp only [State.homeFeedMotor]
  split_ifs
  · exact h.completeFeedHoming unfed now
  · refine feedHomingOffsetStep ?_ ?_ now
    · exact h
    · refine ⟨⟨unfed.known, unfed.recovering⟩, fun v2 => ?_⟩
      have f := unfed.v2 v2
      exact ⟨f.scheduled, f.feeding, f.cycle, f.complete, f.test, f.sortTest, f.completion⟩
  · exact h
  · exact h.feedHomingOffsetStep unfed now

theorem homeSortMotor {s : State} (h : CycleRuns s) (sensor : Bool) (now : UInt32) :
    CycleRuns (s.homeSortMotor sensor now) := by
  have homed : ∀ u : State, CycleRuns u → CycleRuns (u.completeSorterRecoveryHoming now) := by
    intro u running
    have ended : CycleRuns ((u.stopSorterHoming now).record .sorterHomed) := running
    exact (ended.updateRecoveryCompletion .sorter).of_faultless (State.reportMotion_faultless _ _ _)
  have searched : CycleRuns (s.recoverySearch sensor) := by
    refine h.of_faultless ?_
    unfold State.recoverySearch State.searchStep
    split_ifs <;> exact ⟨rfl, rfl, rfl, .inl⟩
  have offset : CycleRuns ((s.recoverySearch sensor).sortHomingOffsetStep now) := by
    unfold State.sortHomingOffsetStep
    split_ifs
    · exact searched
    · exact homed _ searched
    · exact searched
    · exact homed _ searched
  dsimp only [State.homeSortMotor, State.searchStep]
  split_ifs
  · exact h
  · exact homed _ h
  · exact h.of_faultless ⟨rfl, rfl, rfl, .inl⟩
  · exact h.of_faultless ⟨rfl, rfl, rfl, .inl⟩
  · exact h.of_faultless ⟨rfl, rfl, rfl, .inl⟩
  · exact h.of_faultless ⟨rfl, rfl, rfl, .inl⟩
  · exact offset

theorem exec {s : State} (h : CycleRuns s) (unfed : Unfed s) (routine : Routine) :
    CycleRuns (Firmware.exec s routine) := by
  rcases exec_faultless s routine with step | step | rfl | ⟨sensor, now, rfl⟩ |
    ⟨sensor, now, rfl⟩
  · exact h.of_faultless step
  · exact h.commanded step
  · dsimp only [Firmware.exec, State.checkFeedErrors]
    split_ifs
    · have latch := FaultLatch.feedOvertravel s
      exact of_resting (latch.1.blocked latch.2)
    · exact h
  · exact h.homeFeedMotor unfed sensor now
  · exact h.homeSortMotor sensor now

end CycleRuns

theorem Commanded.motion {s t : State} (h : Commanded s t) : t.motion = s.motion := by
  cases h with
  | quiet same => rw [same.machine]
  | stopped stop =>
    rw [stop.machine]
    rfl
  | switched idle machine tracker latched => rw [machine]
  | acted s₁ result ticks idle asked prepared permitted done =>
    have scheduled : ∀ u : State, (u.scheduleRun ticks).motion = u.motion := by
      intro u
      dsimp only [State.scheduleRun]
      split_ifs <;> rfl
    have queued : ∀ (u : State) position, (u.queueFeed position ticks).motion = u.motion := by
      intro u position
      refine (scheduled _).trans ?_
      dsimp only [State.scheduleFeed, State.moveSorterToNextPosition]
      split_ifs <;> rfl
    have applied : (s₁.applyV1Action result ticks).motion = s₁.motion := by
      unfold State.applyV1Action
      cases result.action
      case queueFeed | queueForcedFeed => exact queued _ _
      all_goals rfl
    rw [done.machine, applied, prepared.machine]

namespace State

def feedHoming (s : State) : Bool := s.feeder.isFeedHoming || s.feeder.isFeedHomingOffset

theorem scheduleRun_feedHoming (s : State) (t : Ticks) :
    (s.scheduleRun t).feedHoming = s.feedHoming := by
  dsimp only [scheduleRun]
  split_ifs <;> rfl

theorem queueFeed_feedHoming (s : State) (position : Int) (t : Ticks) :
    (s.queueFeed position t).feedHoming = s.feedHoming := by
  refine (scheduleRun_feedHoming _ t).trans ?_
  dsimp only [scheduleFeed, moveSorterToNextPosition]
  split_ifs <;> rfl

end State

def HomingWaits (s : State) : Prop :=
  s.feedHoming → s.feeder.feedCycleInProgress → s.sorter.sortInProgress = false

namespace HomingWaits

theorem of_still {s : State} (h : s.feedHoming = false) : HomingWaits s := by
  intro homing
  rw [h] at homing
  cases homing

theorem of_uncycled {s : State} (h : s.feeder.feedCycleInProgress = false) : HomingWaits s := by
  intro _ cycle
  rw [h] at cycle
  cases cycle

theorem of_feeder {s t : State} (h : HomingWaits s) (feeder : t.feeder = s.feeder)
    (moving : t.sorter.sortInProgress → s.sorter.sortInProgress) : HomingWaits t := by
  unfold HomingWaits State.feedHoming
  rw [feeder]
  intro homing cycle
  have waits := h homing cycle
  rw [Bool.eq_false_iff] at waits ⊢
  exact fun moves => waits (moving moves)

theorem applyV1Action {s : State} (idle : s.executionBusy = false) (result : V1DispatchResult)
    (t : Ticks) : HomingWaits (s.applyV1Action result t) := by
  simp only [State.executionBusy, Bool.or_eq_false_iff] at idle
  have still : s.feedHoming = false := by simp [State.feedHoming, idle]
  unfold State.applyV1Action
  cases result.action
  case homeFeeder => exact of_uncycled rfl
  case stop => exact of_uncycled rfl
  case queueFeed | queueForcedFeed =>
    exact of_still ((State.queueFeed_feedHoming _ _ t).trans still)
  all_goals exact of_still still

theorem commanded {s t : State} (h : HomingWaits s) (step : Commanded s t) : HomingWaits t := by
  cases step with
  | quiet same =>
    exact h.of_feeder same.sameMotion.feeder (by rw [same.sameMotion.sorter]; exact id)
  | stopped stop =>
    rw [stop.machine]
    exact of_uncycled rfl
  | switched idle machine tracker latched =>
    rw [machine]
    exact h
  | acted s₁ result ticks idle asked prepared permitted done =>
    have still : s₁.executionBusy = false := by
      rw [prepared.machine]
      exact idle
    have same := done.sameMotion
    exact (applyV1Action still result ticks).of_feeder same.feeder (by rw [same.sorter]; exact id)

theorem completeFeedHoming (s : State) (now : UInt32) :
    (s.completeFeedHoming now).feeder.feedCycleInProgress = false ∧
      (s.completeFeedHoming now).motion = s.motion := by
  have ended : (s.feedHomingEnds now).feeder.feedCycleInProgress = false ∧
      (s.feedHomingEnds now).motion = s.motion := by
    refine ⟨rfl, ?_⟩
    unfold State.feedHomingEnds
    rcases (s.stopFeedHoming now).updateRecoveryCompletion_eq .feeder with eq | eq |
      ⟨-, -, eq⟩ <;>
      rw [eq] <;> dsimp only <;> split_ifs <;> rfl
  dsimp only [State.completeFeedHoming]
  split_ifs
  · exact ended
  · rw [State.reportMotion_machine]
    exact ended

theorem feedHomingOffsetStep {s : State} (h : HomingWaits s) (now : UInt32) :
    HomingWaits (s.feedHomingOffsetStep now) := by
  unfold State.feedHomingOffsetStep
  split_ifs
  · exact h
  · exact of_uncycled (completeFeedHoming s now).1
  · exact h
  · exact of_uncycled (completeFeedHoming s now).1

theorem homeFeedMotor {s : State} (h : HomingWaits s) (sensor : Bool) (now : UInt32) :
    HomingWaits (s.homeFeedMotor sensor now) := by
  dsimp only [State.homeFeedMotor]
  split_ifs with homing
  · exact of_uncycled (completeFeedHoming s now).1
  · refine feedHomingOffsetStep ?_ now
    intro _ cycle
    exact h (by simp [State.feedHoming, homing]) cycle
  · exact h
  · exact h.feedHomingOffsetStep now

theorem homeSortMotor_waits (s : State) (sensor : Bool) (now : UInt32) :
    (s.homeSortMotor sensor now).feeder = s.feeder ∧
      (s.homeSortMotor sensor now).sorter.sortInProgress = s.sorter.sortInProgress := by
  have homed : ∀ u : State, (u.completeSorterRecoveryHoming now).feeder = u.feeder ∧
      (u.completeSorterRecoveryHoming now).sorter.sortInProgress = u.sorter.sortInProgress := by
    intro u
    unfold State.completeSorterRecoveryHoming
    rw [State.reportMotion_machine]
    unfold State.sorterHomingEnds
    rcases ((u.stopSorterHoming now).record .sorterHomed).updateRecoveryCompletion_eq .sorter
      with eq | eq | ⟨-, -, eq⟩ <;> rw [eq] <;> exact ⟨rfl, rfl⟩
  have found : (s.recoverySearch sensor).feeder = s.feeder ∧
      (s.recoverySearch sensor).sorter.sortInProgress = s.sorter.sortInProgress := by
    unfold State.recoverySearch State.searchStep
    split_ifs <;> exact ⟨rfl, rfl⟩
  have offset : ((s.recoverySearch sensor).sortHomingOffsetStep now).feeder = s.feeder ∧
      ((s.recoverySearch sensor).sortHomingOffsetStep now).sorter.sortInProgress =
        s.sorter.sortInProgress := by
    have ended := homed (s.recoverySearch sensor)
    unfold State.sortHomingOffsetStep
    split_ifs
    · exact found
    · exact ⟨ended.1.trans found.1, ended.2.trans found.2⟩
    · exact found
    · exact ⟨ended.1.trans found.1, ended.2.trans found.2⟩
  dsimp only [State.homeSortMotor, State.searchStep]
  split_ifs
  · exact ⟨rfl, rfl⟩
  · exact homed s
  · exact ⟨rfl, rfl⟩
  · exact ⟨rfl, rfl⟩
  · exact ⟨rfl, rfl⟩
  · exact ⟨rfl, rfl⟩
  · exact offset

end HomingWaits

/-- The feeder homes and cycles as before, and the sorter is as it was. -/
structure FeedSettled (s t : State) : Prop where
  homing : t.feedHoming = s.feedHoming
  cycle : t.feeder.feedCycleInProgress = s.feeder.feedCycleInProgress
  sorter : t.sorter = s.sorter
  motion : t.motion = s.motion

theorem FeedSettled.trans {s t u : State} (h : FeedSettled s t) (h' : FeedSettled t u) :
    FeedSettled s u :=
  ⟨h'.homing.trans h.homing, h'.cycle.trans h.cycle, h'.sorter.trans h.sorter,
    h'.motion.trans h.motion⟩

namespace State

theorem feedCompletionTurns_settled (turns : Nat) (s : State) (now : UInt32) :
    FeedSettled s (feedCompletionTurns turns s now) := by
  induction turns generalizing s with
  | zero => exact ⟨rfl, rfl, rfl, rfl⟩
  | succ turns ih =>
    unfold feedCompletionTurns
    dsimp only
    split
    · exact ⟨rfl, rfl, rfl, rfl⟩
    · refine FeedSettled.trans ?_ (ih _)
      exact ⟨rfl, rfl, rfl, rfl⟩
    · refine FeedSettled.trans ?_ (ih _)
      exact ⟨rfl, rfl, rfl, rfl⟩
    · exact ⟨rfl, rfl, rfl, rfl⟩

theorem onFeedComplete_settled (s : State) (now : UInt32) :
    FeedSettled s (s.onFeedComplete now) := by
  have turns := fun u (h : FeedSettled s u) => h.trans (feedCompletionTurns_settled 3 u now)
  dsimp only [onFeedComplete]
  split_ifs
  · exact ⟨rfl, rfl, rfl, rfl⟩
  · exact ⟨rfl, rfl, rfl, rfl⟩
  · exact turns _ ⟨rfl, rfl, rfl, rfl⟩
  · exact turns _ ⟨rfl, rfl, rfl, rfl⟩
  · exact turns _ ⟨rfl, rfl, rfl, rfl⟩

theorem checkFeedErrors_uncycled (s : State) :
    s.checkFeedErrors = s ∨ (s.checkFeedErrors.feeder.feedCycleInProgress = false ∧
      s.checkFeedErrors.motion = s.motion) := by
  dsimp only [checkFeedErrors]
  split_ifs
  · right
    rw [s.feedOvertravel.reportFeedOvertravel_machine]
    dsimp only [feedOvertravel]
    split_ifs <;> exact ⟨rfl, rfl⟩
  · exact .inl rfl

theorem runTestCycle_cycling {s : State} (cycle : s.feeder.feedCycleInProgress) (raw : Nat)
    (t : Ticks) : s.runTestCycle raw t = s := by
  simp [runTestCycle, cycle]

theorem runSortTestCycle_off {s : State} (off : s.diagnostics.isSortTestCycle = false) (raw : Nat)
    (now : UInt32) : s.runSortTestCycle raw now = s := by
  simp [runSortTestCycle, off]

theorem runAux_cycling {s : State} (co : Coordinated s) (cycle : s.feeder.feedCycleInProgress)
    (raw sortRaw : Nat) (t : Ticks) (now : UInt32) : s.runAux raw sortRaw t now = s := by
  have off : s.diagnostics.isSortTestCycle = false := by
    rw [Bool.eq_false_iff]
    intro on
    rw [(co.sortTest on).2.2] at cycle
    cases cycle
  unfold runAux
  rw [runTestCycle_cycling cycle, runSortTestCycle_off off, ite_self]

theorem runAux_feedHoming (s : State) (raw sortRaw : Nat) (t : Ticks) (now : UInt32) :
    (s.runAux raw sortRaw t now).feedHoming = s.feedHoming := by
  have tested : (s.runTestCycle raw t).feedHoming = s.feedHoming := by
    unfold runTestCycle
    split_ifs
    · exact s.queueFeed_feedHoming _ t
    · rfl
    · rfl
  dsimp only [runAux, runSortTestCycle]
  split_ifs <;> first | rfl | exact tested

end State

theorem CycleRuns.known {s : State} (h : CycleRuns s) (co : Coordinated s)
    (cycle : s.feeder.feedCycleInProgress) :
    s.machineState.feeder.positionKnown ∧ s.machineState.sorter.positionKnown :=
  co.running (h (by simp [State.cycling, cycle]))

theorem Coordinated.unhoming {s : State} (co : Coordinated s) (scheduled : s.feeder.feedScheduled) :
    s.feedHoming = false := by
  obtain ⟨-, homing, offset⟩ := co.scheduled scheduled
  simp [State.feedHoming, homing, offset]

theorem HomingWaits.exec {s : State} (h : HomingWaits s) (co : Coordinated s) (runs : CycleRuns s)
    (routine : Routine) : HomingWaits (Firmware.exec s routine) := by
  cases routine with
  | serialByte byte t => exact h.commanded (s.serialByte_commanded byte t)
  | dispatchPending t => exact h.commanded (s.dispatchPending_commanded t)
  | getProxState sensor now => exact h
  | updateSlotDropGate now =>
    dsimp only [Firmware.exec, State.updateSlotDropGate]
    split_ifs with elapsed
    · exact h
    · have active : s.sorter.slotDropGate.active := by
        simp [RuntimeTimer.hasElapsed] at elapsed
        exact elapsed.1
      exact of_still (co.unhoming (co.gated active).1)
  | runSortMotor =>
    dsimp only [Firmware.exec, State.runSortMotor, State.slotZeroPass]
    split_ifs <;> exact h
  | onSortComplete now =>
    dsimp only [Firmware.exec, State.onSortComplete]
    split_ifs
    · rw [State.reportMotion_machine]
      exact fun _ _ => rfl
    · exact h
  | scheduleRun t =>
    by_cases scheduled : s.feeder.feedScheduled
    · exact of_still ((s.scheduleRun_feedHoming t).trans (co.unhoming scheduled))
    · dsimp only [Firmware.exec]
      rw [State.scheduleRun_unscheduled (by simpa using scheduled) t]
      exact h
  | checkFeedErrors =>
    dsimp only [Firmware.exec]
    rcases s.checkFeedErrors_uncycled with same | ⟨ended, -⟩
    · rw [same]
      exact h
    · exact of_uncycled ended
  | runFeedMotor =>
    dsimp only [Firmware.exec, State.runFeedMotor]
    split_ifs with moving
    · exact h
    · exact h
    · exact fun _ _ => by simpa using moving
    · exact h
  | homeFeedMotor sensor now => exact h.homeFeedMotor sensor now
  | homeSortMotor sensor now =>
    obtain ⟨feeder, moving⟩ := homeSortMotor_waits s sensor now
    exact h.of_feeder feeder (by rw [← moving]; exact id)
  | serviceSorterJog =>
    by_cases active : s.sorter.sorterJog.active
    · refine of_uncycled ?_
      have uncycled : s.feeder.feedCycleInProgress = false := by
        rw [Bool.eq_false_iff]
        intro cycle
        have unknown := (co.jogging active).2.2
        rw [(runs.known co cycle).2] at unknown
        cases unknown
      dsimp only [Firmware.exec, State.serviceSorterJog, State.sorterJogEnds]
      split_ifs <;> exact uncycled
    · dsimp only [Firmware.exec]
      rw [s.serviceSorterJog_inactive (by simpa using active) co.jogEnded]
      exact h
  | onFeedComplete now =>
    have settled := s.onFeedComplete_settled now
    unfold HomingWaits Firmware.exec
    dsimp only
    rw [settled.homing, settled.cycle, settled.sorter]
    exact h
  | runAux raw sortRaw t now =>
    dsimp only [Firmware.exec]
    by_cases cycle : s.feeder.feedCycleInProgress
    · rw [State.runAux_cycling co cycle]
      exact h
    · by_cases test : s.diagnostics.isTestCycle
      · refine of_still ((s.runAux_feedHoming raw sortRaw t now).trans ?_)
        rw [Bool.eq_false_iff]
        intro homing
        exact cycle (co.testFeed test (by simpa [State.feedHoming] using homing))
      · refine of_uncycled ?_
        have tested : s.runTestCycle raw t = s := by simp [State.runTestCycle, test]
        simp only [Bool.not_eq_true] at cycle
        dsimp only [State.runAux, State.runSortTestCycle]
        rw [tested]
        split_ifs <;> exact cycle
  | motorStandByCheck now =>
    dsimp only [Firmware.exec, State.motorStandByCheck]
    split_ifs <;> exact h
  | serviceV2PhysicalRequest =>
    dsimp only [Firmware.exec, State.serviceV2PhysicalRequest]
    split_ifs <;> exact h
  | emitV2StateIfChanged =>
    have same := s.emitV2StateIfChanged_linkOnly.sameMotion
    exact h.of_feeder same.feeder (by rw [Firmware.exec, same.sorter]; exact id)

structure SorterRests (q : Sorter) : Prop where
  moving : q.sortInProgress = false
  sorting : q.isSorting = false
  homing : q.isSortHoming = false
  jog : q.sorterJog.active = false
  gate : q.slotDropGate.active = false

def KeepsRest (s t : State) : Prop :=
  pulses .sorter t = pulses .sorter s ∧
    (t.feeder.feedCycleInProgress → SorterRests t.sorter)

theorem keepsRest_of_sorter {s t : State} (rests : SorterRests s.sorter)
    (motion : pulses .sorter t = pulses .sorter s) (sorter : t.sorter = s.sorter) :
    KeepsRest s t := ⟨motion, fun _ => sorter ▸ rests⟩

theorem keepsRest_of_uncycled {s t : State} (motion : t.motion = s.motion)
    (ended : t.feeder.feedCycleInProgress = false) : KeepsRest s t := by
  refine ⟨by rw [pulses, motion, pulses], fun cycle => ?_⟩
  rw [ended] at cycle
  cases cycle

theorem Commanded.keepsRest {s t : State} (h : Commanded s t) (rests : SorterRests s.sorter)
    (cycle : s.feeder.feedCycleInProgress) : KeepsRest s t := by
  have motion := h.motion
  have busy : s.executionBusy = true := by simp [State.executionBusy, cycle]
  cases h with
  | quiet same =>
    exact keepsRest_of_sorter rests (by rw [pulses, motion, pulses]) same.sameMotion.sorter
  | stopped stop =>
    refine keepsRest_of_uncycled motion ?_
    rw [stop.machine]
    rfl
  | switched idle machine tracker latched => cases idle.symm.trans busy
  | acted s₁ result ticks idle asked prepared permitted done =>
    cases idle.symm.trans busy

theorem feedHomingOffsetStep_keepsRest {s : State} (rests : SorterRests s.sorter) (now : UInt32) :
    KeepsRest s (s.feedHomingOffsetStep now) := by
  have ended := HomingWaits.completeFeedHoming s now
  unfold State.feedHomingOffsetStep
  split_ifs
  · exact keepsRest_of_sorter rests rfl rfl
  · exact keepsRest_of_uncycled ended.2 ended.1
  · exact keepsRest_of_sorter rests rfl rfl
  · exact keepsRest_of_uncycled ended.2 ended.1

theorem homeFeedMotor_keepsRest {s : State} (rests : SorterRests s.sorter) (sensor : Bool)
    (now : UInt32) : KeepsRest s (s.homeFeedMotor sensor now) := by
  have ended := HomingWaits.completeFeedHoming s now
  dsimp only [State.homeFeedMotor]
  split_ifs
  · exact keepsRest_of_uncycled ended.2 ended.1
  · exact feedHomingOffsetStep_keepsRest (s := { s with
      feeder.isFeedHoming := false
      feeder.isFeedHomingOffset := true
      feeder.feedHomingOffsetSteps := s.drive.feedHomingOffset }) rests now
  · exact keepsRest_of_sorter rests rfl rfl
  · exact feedHomingOffsetStep_keepsRest rests now

theorem exec_keepsRest {s : State} (co : Coordinated s) (rests : SorterRests s.sorter)
    (cycle : s.feeder.feedCycleInProgress) (routine : Routine) : KeepsRest s (exec s routine) := by
  have same : KeepsRest s s := keepsRest_of_sorter rests rfl rfl
  cases routine with
  | serialByte byte t => exact (s.serialByte_commanded byte t).keepsRest rests cycle
  | dispatchPending t => exact (s.dispatchPending_commanded t).keepsRest rests cycle
  | getProxState sensor now => exact keepsRest_of_sorter rests rfl rfl
  | updateSlotDropGate now =>
    dsimp only [exec]
    rw [State.updateSlotDropGate_inactive rests.gate]
    exact same
  | runSortMotor =>
    dsimp only [exec]
    rw [State.runSortMotor_still rests.sorting]
    exact same
  | onSortComplete now =>
    dsimp only [exec]
    rw [State.onSortComplete_unfinished (by simp [rests.moving])]
    exact same
  | scheduleRun t =>
    refine keepsRest_of_sorter rests ?_ ?_
    · dsimp only [exec, State.scheduleRun]
      split_ifs <;> rfl
    · dsimp only [exec, State.scheduleRun]
      split_ifs <;> rfl
  | checkFeedErrors =>
    dsimp only [exec]
    rcases s.checkFeedErrors_uncycled with unchanged | ⟨ended, motion⟩
    · rw [unchanged]
      exact same
    · exact keepsRest_of_uncycled motion ended
  | runFeedMotor =>
    dsimp only [exec, State.runFeedMotor]
    split_ifs <;> exact keepsRest_of_sorter rests rfl rfl
  | homeFeedMotor sensor now => exact homeFeedMotor_keepsRest rests sensor now
  | homeSortMotor sensor now =>
    dsimp only [exec]
    rw [State.homeSortMotor_still rests.homing]
    exact same
  | serviceSorterJog =>
    dsimp only [exec]
    rw [s.serviceSorterJog_inactive rests.jog co.jogEnded]
    exact same
  | onFeedComplete now =>
    have settled := s.onFeedComplete_settled now
    exact keepsRest_of_sorter rests (by rw [exec, pulses, settled.motion, pulses]) settled.sorter
  | runAux raw sortRaw t now =>
    dsimp only [exec]
    rw [State.runAux_cycling co cycle]
    exact same
  | motorStandByCheck now =>
    dsimp only [exec, State.motorStandByCheck]
    split_ifs <;> exact keepsRest_of_sorter rests rfl rfl
  | serviceV2PhysicalRequest =>
    dsimp only [exec, State.serviceV2PhysicalRequest]
    split_ifs <;> exact keepsRest_of_sorter rests rfl rfl
  | emitV2StateIfChanged =>
    have linked := s.emitV2StateIfChanged_linkOnly
    exact keepsRest_of_sorter rests (by rw [exec, linked.machine]; rfl) linked.sameMotion.sorter

theorem pulses_feeder_homeSortMotor (s : State) (sensor : Bool) (now : UInt32) :
    pulses .feeder (s.homeSortMotor sensor now) = pulses .feeder s := by
  have homed : ∀ u : State,
      pulses .feeder (u.completeSorterRecoveryHoming now) = pulses .feeder u := by
    intro u
    unfold State.completeSorterRecoveryHoming pulses
    rw [State.reportMotion_machine]
    unfold State.sorterHomingEnds
    rcases ((u.stopSorterHoming now).record .sorterHomed).updateRecoveryCompletion_eq .sorter
      with eq | eq | ⟨-, -, eq⟩ <;> rw [eq] <;> rfl
  have found : pulses .feeder (s.recoverySearch sensor) = pulses .feeder s := by
    unfold State.recoverySearch State.searchStep
    split_ifs <;> rfl
  have offset : pulses .feeder ((s.recoverySearch sensor).sortHomingOffsetStep now) =
      pulses .feeder s := by
    unfold State.sortHomingOffsetStep
    split_ifs
    · exact found
    · exact (homed _).trans found
    · exact found
    · exact (homed _).trans found
  dsimp only [State.homeSortMotor, State.searchStep]
  split_ifs
  · rfl
  · exact homed s
  · rfl
  · rfl
  · rfl
  · rfl
  · exact offset

def Routine.pulsesFeeder : Routine → Bool
  | .runFeedMotor | .homeFeedMotor _ _ => true
  | _ => false

theorem pulses_feeder_exec (s : State) {routine : Routine} (other : routine.pulsesFeeder = false) :
    pulses .feeder (exec s routine) = pulses .feeder s := by
  have still {t : State} (motion : t.motion = s.motion) : pulses .feeder t = pulses .feeder s := by
    rw [pulses, motion, pulses]
  cases routine with
  | serialByte byte t => exact still (s.serialByte_commanded byte t).motion
  | dispatchPending t => exact still (s.dispatchPending_commanded t).motion
  | getProxState sensor now => rfl
  | updateSlotDropGate now =>
    refine still ?_
    dsimp only [exec, State.updateSlotDropGate]
    split_ifs <;> rfl
  | runSortMotor =>
    dsimp only [exec, State.runSortMotor, State.slotZeroPass]
    split_ifs <;> rfl
  | onSortComplete now =>
    refine still ?_
    dsimp only [exec, State.onSortComplete]
    split_ifs
    · rw [State.reportMotion_machine]
      rfl
    · rfl
  | scheduleRun t =>
    refine still ?_
    dsimp only [exec, State.scheduleRun]
    split_ifs <;> rfl
  | checkFeedErrors =>
    refine still ?_
    dsimp only [exec]
    rcases s.checkFeedErrors_uncycled with same | ⟨-, motion⟩
    · rw [same]
    · exact motion
  | runFeedMotor => cases other
  | homeFeedMotor sensor now => cases other
  | homeSortMotor sensor now => exact pulses_feeder_homeSortMotor s sensor now
  | serviceSorterJog =>
    dsimp only [exec, State.serviceSorterJog, State.sorterJogEnds]
    split_ifs <;> rfl
  | onFeedComplete now => exact still (s.onFeedComplete_settled now).motion
  | runAux raw sortRaw t now =>
    refine still ?_
    have tested : (s.runTestCycle raw t).motion = s.motion := by
      dsimp only [State.runTestCycle, State.queueFeed, State.scheduleRun, State.scheduleFeed,
        State.moveSorterToNextPosition]
      split_ifs <;> rfl
    dsimp only [exec, State.runAux, State.runSortTestCycle]
    split_ifs <;> first | rfl | exact tested
  | motorStandByCheck now =>
    refine still ?_
    dsimp only [exec, State.motorStandByCheck]
    split_ifs <;> rfl
  | serviceV2PhysicalRequest =>
    refine still ?_
    dsimp only [exec, State.serviceV2PhysicalRequest]
    split_ifs <;> rfl
  | emitV2StateIfChanged =>
    refine still ?_
    rw [exec, s.emitV2StateIfChanged_linkOnly.machine]

theorem exec_feederPulses {s : State} {routine : Routine}
    (pulsed : pulses .feeder (exec s routine) ≠ pulses .feeder s) :
    (routine = .runFeedMotor ∧ s.sorter.sortInProgress = false ∧ s.feeder.isFeeding) ∨
      s.feedHoming := by
  cases feeder : routine.pulsesFeeder
  · exact absurd (pulses_feeder_exec s feeder) pulsed
  cases routine with
  | runFeedMotor =>
    dsimp only [exec, State.runFeedMotor] at pulsed
    split_ifs at pulsed with moving feeding ends
    · exact absurd rfl pulsed
    · simp only [Bool.and_eq_true] at feeding
      exact .inl ⟨rfl, by simpa using moving, feeding.1⟩
    · exact absurd rfl pulsed
    · exact absurd rfl pulsed
  | homeFeedMotor sensor now =>
    right
    rw [← Bool.not_eq_false]
    intro off
    simp only [State.feedHoming, Bool.or_eq_false_iff] at off
    refine pulsed ?_
    dsimp only [exec]
    rw [State.homeFeedMotor_still off.1 off.2]
  | _ => cases feeder

/-- What the reachable states meet. -/
structure Interlocked (s : State) : Prop where
  coordinated : Coordinated s
  unfed : Unfed s
  runs : CycleRuns s
  waits : HomingWaits s

namespace Interlocked

theorem boot (now : UInt32) : Interlocked (Firmware.boot now) :=
  ⟨.boot now, .boot now, .boot now, nofun⟩

theorem exec {s : State} (h : Interlocked s) (routine : Routine) :
    Interlocked (Firmware.exec s routine) :=
  ⟨h.coordinated.exec routine, h.unfed.exec h.coordinated.running routine,
    h.runs.exec h.unfed routine, h.waits.exec h.coordinated h.runs routine⟩

theorem execAll {s : State} (h : Interlocked s) (routines : List Routine) :
    Interlocked (Firmware.execAll s routines) := by
  induction routines generalizing s with
  | nil => exact h
  | cons routine routines ih => exact ih (h.exec routine)

theorem rests {s : State} (h : Interlocked s) (cycle : s.feeder.feedCycleInProgress)
    {routine : Routine} (pulsed : pulses .feeder (Firmware.exec s routine) ≠ pulses .feeder s) :
    SorterRests s.sorter := by
  have co := h.coordinated
  have known := h.runs.known co cycle
  have feeds : s.sorter.sortInProgress = false ∧ s.feeder.feedScheduled = false := by
    have unscheduled (active : ¬s.feeder.feedScheduled = true) := Bool.eq_false_iff.mpr active
    rcases exec_feederPulses pulsed with ⟨-, moving, feeding⟩ | homing
    · refine ⟨moving, unscheduled fun scheduled => ?_⟩
      rw [(co.scheduled scheduled).1] at feeding
      cases feeding
    · refine ⟨h.waits homing cycle, unscheduled fun scheduled => ?_⟩
      rw [co.unhoming scheduled] at homing
      cases homing
  have sorting : s.sorter.isSorting = false := by
    rw [Bool.eq_false_iff]
    intro sorting
    exact absurd ((co.sorting sorting).1.symm.trans feeds.1) nofun
  refine ⟨feeds.1, sorting, ?_, ?_, ?_⟩
  · rw [Bool.eq_false_iff]
    intro homing
    exact absurd (known.2.symm.trans (co.searching homing sorting)) nofun
  · rw [Bool.eq_false_iff]
    intro jogging
    exact absurd (known.2.symm.trans (co.jogging jogging).2.2) nofun
  · rw [Bool.eq_false_iff]
    intro gated
    exact absurd ((co.gated gated).1.symm.trans feeds.2) nofun

end Interlocked

/-- Every step of the run finds a feed cycle in progress. -/
def CycleGoesOn (s : State) (routines : List Routine) : Prop :=
  Runs.Meets sketchStep (fun u _ => u.feeder.feedCycleInProgress) s routines

instance (s : State) (routines : List Routine) : Decidable (CycleGoesOn s routines) := by
  unfold CycleGoesOn
  infer_instance

theorem execAll_sorterPulses {s : State} (h : Interlocked s)
    (rests : s.feeder.feedCycleInProgress → SorterRests s.sorter) {routines : List Routine}
    (goesOn : CycleGoesOn s routines) : pulses .sorter (execAll s routines) = pulses .sorter s := by
  induction routines generalizing s with
  | nil => rfl
  | cons routine routines ih =>
    have step := exec_keepsRest h.coordinated (rests goesOn.1) goesOn.1 routine
    exact (ih (h.exec routine) step.2 (goesOn.2 _ rfl)).trans step.1

/-- A feeder pulse of a feed cycle finds the transition queued with it finished, and from it on
the sorter gets no pulse for as long as the cycle is in progress. -/
theorem feed_sort_interlock (now : UInt32) (before : List Routine) (routine : Routine)
    (cycle : (execAll (boot now) before).feeder.feedCycleInProgress)
    (pulsed : pulses .feeder (exec (execAll (boot now) before) routine) ≠
      pulses .feeder (execAll (boot now) before)) :
    (execAll (boot now) before).sorter.sortInProgress = false ∧
    (execAll (boot now) before).sorter.slotDropGate.active = false ∧
    ∀ after, CycleGoesOn (execAll (boot now) before) (routine :: after) →
      pulses .sorter (execAll (execAll (boot now) before) (routine :: after)) =
        pulses .sorter (execAll (boot now) before) := by
  have h : Interlocked (execAll (boot now) before) := (Interlocked.boot now).execAll before
  have rests := h.rests cycle pulsed
  exact ⟨rests.moving, rests.gate, fun after goesOn =>
    execAll_sorterPulses h (fun _ => rests) goesOn⟩

def feedInputs : List LoopInput :=
  [iteration "@2 protocol:1\nhomefeeder\n" true false, iteration "xf:0\n" false true]

theorem feed_sort_interlock_forced :
    let before := (sorterHoming ++ feedInputs).flatMap loopRoutines ++ [.onSortComplete 0]
    pulses .feeder (exec (execAll (boot 0) before) .runFeedMotor) =
      pulses .feeder (execAll (boot 0) before) + 1 ∧
    pulses .sorter (execAll (execAll (boot 0) before)
      [.runFeedMotor, .runFeedMotor, .runSortMotor]) =
      pulses .sorter (execAll (boot 0) before) := by
  intro before
  have ran :
      execAll (boot 0) before = execAll (iterate sorterHomed feedInputs) [.onSortComplete 0] := by
    rw [← iterate_sorterHoming, ← iterate_append, ← execAll_flatMap]
    exact List.foldl_append
  have pulsed : pulses .feeder (exec (execAll (boot 0) before) .runFeedMotor) =
      pulses .feeder (execAll (boot 0) before) + 1 := by
    rw [ran]
    decide +kernel
  refine ⟨pulsed, (feed_sort_interlock 0 before .runFeedMotor ?_ (by omega)).2.2
    [.runFeedMotor, .runSortMotor] ?_⟩
  · rw [ran]
    decide +kernel
  · rw [ran]
    decide +kernel

end CaseSorter.Firmware
