import CaseSorter.Firmware.Coordination

/-! Where the sorter arm stands. `displacement` follows the arm through the recorded
motion, in microsteps from the last homing; `Tracked` relates it to the queue. -/

namespace CaseSorter.Firmware

open Runs

/-- `stepSortMotor(false)` counts one up, `stepSortMotor(true)` one down, a completed
homing starts again at 0. -/
def displacement : List Motion → Int
  | [] => 0
  | .sorterHomed :: _ => 0
  | .sortStep _ forward :: rest => displacement rest + if forward then -1 else 1
  | .feedStep :: rest => displacement rest
  | .slotZeroBegins :: rest => displacement rest
  | .recoveryBegins :: rest => displacement rest

structure Tracked (s : State) : Prop where
  still : s.machineState.sorter.positionKnown → s.sorter.isSorting = false →
    s.sorter.isSortHoming = false → displacement s.motion = s.positionSteps s.sorter.qPos1
  moving : s.machineState.sorter.positionKnown → s.sorter.isSorting →
    s.sorter.isSortHoming = false →
    displacement s.motion = s.positionSteps s.sorter.qPos1 + s.sorter.sortStepsToNextPosition

namespace Tracked

theorem of_unknown {s : State} (h : s.machineState.sorter.positionKnown = false) : Tracked s where
  still known := by simp [h] at known
  moving known := by simp [h] at known

theorem of_slotZero {s : State} (sorting : s.sorter.isSorting) (homing : s.sorter.isSortHoming) :
    Tracked s where
  still _ idle := by simp [idle] at sorting
  moving _ _ idle := by simp [idle] at homing

theorem of_same {s t : State} (h : Tracked s) (sorter : t.sorter = s.sorter)
    (axis : t.machineState.sorter = s.machineState.sorter)
    (motion : displacement t.motion = displacement s.motion)
    (steps : t.configuration.sortSteps = s.configuration.sortSteps) : Tracked t where
  still := by
    simp only [sorter, axis, motion, State.positionSteps, steps]
    exact h.still
  moving := by
    simp only [sorter, axis, motion, State.positionSteps, steps]
    exact h.moving

theorem of_linkOnly {s t : State} (h : Tracked s) (same : LinkOnly s t) : Tracked t := by
  rw [same.machine]
  exact h.of_same rfl rfl rfl rfl

theorem beginMove {s : State} (h : Tracked s) (sorting : s.sorter.isSorting = false)
    (homing : s.sorter.isSortHoming = false) (position next : Int) :
    Tracked (s.beginMove position next) where
  still _ idle := by cases idle
  moving known _ _ := by
    have start := h.still known sorting homing
    simp only [State.beginMove, State.positionSteps] at start ⊢
    omega

theorem updateSlotDropGate {s : State} (h : Tracked s) (co : Coordinated s) (now : UInt32) :
    Tracked (s.updateSlotDropGate now) := by
  unfold State.updateSlotDropGate
  split_ifs with elapsed
  · exact h
  · simp only [RuntimeTimer.hasElapsed, Bool.not_eq_true', Bool.not_eq_false,
      Bool.and_eq_true] at elapsed
    obtain ⟨-, sorting, homing, -⟩ := co.gated elapsed.1
    have opened : Tracked s.openSlotDropGate := ⟨h.still, h.moving⟩
    exact opened.beginMove sorting homing _ _

theorem slotZeroPass {s : State} (sorting : s.sorter.isSorting) : Tracked s.slotZeroPass := by
  refine of_slotZero ?_ rfl
  dsimp only [State.slotZeroPass]
  split_ifs <;> exact sorting

theorem sortMoveStep {s : State} (h : Tracked s) (sorting : s.sorter.isSorting)
    (forward : Bool) : Tracked (s.sortMoveStep forward) where
  still _ idle := absurd (idle.symm.trans sorting) nofun
  moving known _ homing := by
    have moved := h.moving known sorting homing
    change displacement s.motion + (if forward then -1 else 1) = s.positionSteps s.sorter.qPos1 +
      (s.sorter.sortStepsToNextPosition + if forward then -1 else 1)
    omega

theorem sortMoveEnds {s : State} (h : Tracked s) (sorting : s.sorter.isSorting)
    (arrived : s.sorter.sortStepsToNextPosition = 0) : Tracked s.sortMoveEnds where
  still known _ homing := by
    have moved := h.moving known sorting homing
    rw [arrived, Int.add_zero] at moved
    exact moved
  moving _ idle := by cases idle

theorem runSortMotor {s : State} (h : Tracked s) : Tracked s.runSortMotor := by
  unfold State.runSortMotor
  split_ifs with idle arrived zero
  · exact h
  · exact slotZeroPass (by simpa using idle)
  · exact h.sortMoveEnds (by simpa using idle) arrived
  · exact h.sortMoveStep (by simpa using idle) _

theorem moveSorterToNextPosition {s : State} (h : Tracked s) (sorting : s.sorter.isSorting = false)
    (homing : s.sorter.isSortHoming = false) (position : Int) (now : UInt32) :
    Tracked (s.moveSorterToNextPosition position now) := by
  dsimp only [State.moveSorterToNextPosition]
  split_ifs
  · exact ⟨h.still, h.moving⟩
  · exact h.beginMove sorting homing _ _

theorem scheduleRun {s : State} (h : Tracked s) (t : Ticks) : Tracked (s.scheduleRun t) := by
  dsimp only [State.scheduleRun]
  split_ifs
  · exact h
  · exact ⟨h.still, h.moving⟩
  · exact ⟨h.still, h.moving⟩
  · exact ⟨h.still, h.moving⟩
  · exact h

theorem queueFeed {s : State} (h : Tracked s) (sorting : s.sorter.isSorting = false)
    (homing : s.sorter.isSortHoming = false) (position : Int) (t : Ticks) :
    Tracked (s.queueFeed position t) := by
  have moved := h.moveSorterToNextPosition sorting homing position t.now
  have scheduled : Tracked (s.moveSorterToNextPosition position t.now).scheduleFeed :=
    ⟨moved.still, moved.moving⟩
  exact scheduled.scheduleRun t

theorem feedOvertravel {s : State} (h : Tracked s) : Tracked s.feedOvertravel := by
  have axis : s.feedOvertravel.machineState.sorter =
      if s.sorterMoving then ⟨false, false⟩ else s.machineState.sorter := by
    dsimp only [State.feedOvertravel]
    split_ifs <;> rfl
  have motion : s.feedOvertravel.motion = s.motion := by
    dsimp only [State.feedOvertravel]
    split_ifs <;> rfl
  have steps : s.feedOvertravel.configuration = s.configuration := by
    dsimp only [State.feedOvertravel]
    split_ifs <;> rfl
  have sorter : s.feedOvertravel.sorter.isSorting = false ∧
      s.feedOvertravel.sorter.qPos1 = s.sorter.qPos1 := by
    dsimp only [State.feedOvertravel]
    split_ifs <;> exact ⟨rfl, rfl⟩
  by_cases moving : s.sorterMoving
  · exact of_unknown (by rw [axis, if_pos moving])
  · rw [if_neg moving] at axis
    simp only [State.sorterMoving, Bool.or_eq_true, not_or, Bool.not_eq_true] at moving
    refine ⟨fun known _ _ => ?_, fun _ sorting => absurd (sorter.1.symm.trans sorting) nofun⟩
    rw [motion, State.positionSteps, steps, sorter.2]
    exact h.still (axis ▸ known) moving.1.1.1.2 moving.1.1.2

theorem updateRecoveryCompletion {s : State} (h : Tracked s)
    (reset : (s.machineState.completeRecovery .feeder).2 → s.machineState.queueResetRequired →
      s.sorter.qPos1 = 0) : Tracked (s.updateRecoveryCompletion .feeder) := by
  have axis := MachineState.completeRecovery_feeder_sorter s.machineState
  rcases s.updateRecoveryCompletion_eq .feeder with eq | eq | ⟨both, required, eq⟩ <;> rw [eq]
  · exact h
  · exact h.of_same rfl axis rfl rfl
  · have zero := reset both required
    have unchanged : Tracked { s with
        machineState := (s.machineState.completeRecovery .feeder).1.acknowledgeQueueReset } :=
      h.of_same rfl axis rfl rfl
    refine ⟨fun known sorting homing => ?_, fun known sorting homing => ?_⟩
    · exact zero ▸ unchanged.still known sorting homing
    · exact zero ▸ unchanged.moving known sorting homing

theorem feedHomingEnds {s : State} (h : Tracked s)
    (reset : (s.machineState.completeRecovery .feeder).2 → s.machineState.queueResetRequired →
      s.sorter.qPos1 = 0) (now : UInt32) : Tracked (s.feedHomingEnds now) := by
  have stopped : Tracked (s.stopFeedHoming now) := ⟨h.still, h.moving⟩
  have recovered := stopped.updateRecoveryCompletion reset
  dsimp only [State.feedHomingEnds]
  split_ifs
  · exact ⟨recovered.still, recovered.moving⟩
  · exact ⟨recovered.still, recovered.moving⟩

theorem reportMotion {s : State} (h : Tracked s) (slot : Int)
    (finished : PhysicalRequestTracker × PhysicalRequestTransition) :
    Tracked (s.reportMotion slot finished) := by
  rw [s.reportMotion_machine]
  exact ⟨h.still, h.moving⟩

theorem completeFeedHoming {s : State} (h : Tracked s)
    (reset : (s.machineState.completeRecovery .feeder).2 → s.machineState.queueResetRequired →
      s.sorter.qPos1 = 0) (now : UInt32) : Tracked (s.completeFeedHoming now) := by
  have ended := h.feedHomingEnds reset now
  dsimp only [State.completeFeedHoming]
  split_ifs
  · exact of_unknown rfl
  · exact ended.reportMotion _ _

end Tracked

/-- This call of `homeFeedMotor` completes the feed homing. -/
def State.feedHomingFinishes (s : State) (sensor : Bool) : Bool :=
  if s.feeder.isFeedHoming then
    !feedHomingEnabled || (sensor && s.drive.feedHomingOffset ≤ 0)
  else s.feeder.isFeedHomingOffset &&
    (s.drive.feedHomingOffset = 0 || s.feeder.feedHomingOffsetSteps ≤ 0)

/-- A feeder recovery that completes while the sorter is known and the queue reset is still
required finds the queue at slot 0. -/
def ResetsAtSlotZero (s : State) : Routine → Prop
  | .homeFeedMotor sensor _ => s.feedHomingFinishes sensor →
    s.machineState.feeder.recoveryInProgress → s.machineState.sorter.positionKnown →
    s.machineState.queueResetRequired → s.sorter.qPos1 = 0
  | _ => True

def KeepsSortSteps (s : State) (routine : Routine) : Prop :=
  (exec s routine).configuration.sortSteps = s.configuration.sortSteps

namespace Tracked

theorem feedHomingOffsetStep {s : State} (h : Tracked s) (now : UInt32)
    (reset : s.feeder.isFeedHomingOffset →
      s.drive.feedHomingOffset = 0 ∨ s.feeder.feedHomingOffsetSteps ≤ 0 →
      (s.machineState.completeRecovery .feeder).2 → s.machineState.queueResetRequired →
      s.sorter.qPos1 = 0) : Tracked (s.feedHomingOffsetStep now) := by
  unfold State.feedHomingOffsetStep
  split_ifs with homing zero left
  · exact h
  · exact h.completeFeedHoming (reset (by simpa using homing) (.inl zero)) now
  · exact ⟨h.still, h.moving⟩
  · exact h.completeFeedHoming (reset (by simpa using homing) (.inr (by omega))) now

theorem homeFeedMotor {s : State} (h : Tracked s) (sensor : Bool) (now : UInt32)
    (reset : ResetsAtSlotZero s (.homeFeedMotor sensor now)) :
    Tracked (s.homeFeedMotor sensor now) := by
  have finishes : s.feedHomingFinishes sensor → (s.machineState.completeRecovery .feeder).2 →
      s.machineState.queueResetRequired → s.sorter.qPos1 = 0 := fun finishes both =>
    have known := MachineState.completeRecovery_feeder_both both
    reset finishes known.1 known.2
  unfold State.feedHomingFinishes at finishes
  unfold State.homeFeedMotor
  split_ifs with homing enabled found
  · cases enabled
  · have found' : Tracked { s with feeder.isFeedHoming := false
                                   feeder.isFeedHomingOffset := true
                                   feeder.feedHomingOffsetSteps := s.drive.feedHomingOffset } :=
      ⟨h.still, h.moving⟩
    refine found'.feedHomingOffsetStep now fun _ done => finishes ?_
    rw [if_pos homing, found]
    simpa [feedHomingEnabled] using done.elim Int.le_of_eq id
  · exact ⟨h.still, h.moving⟩
  · refine h.feedHomingOffsetStep now fun offset done => finishes ?_
    rw [if_neg homing, offset]
    simpa using done

theorem searchStep {s : State} (homing : s.sorter.isSortHoming)
    (h : s.sorter.isSorting ∨ s.machineState.sorter.positionKnown = false) (cause : StepCause)
    (limit : Int) : Tracked (s.searchStep cause limit) := by
  unfold State.searchStep
  rcases h with sorting | unknown
  · split_ifs <;> exact of_slotZero sorting homing
  · split_ifs <;> exact of_unknown unknown

theorem of_home {s : State} (sorting : s.sorter.isSorting = false) (zero : s.sorter.qPos1 = 0)
    (home : displacement s.motion = 0) : Tracked s where
  still _ _ _ := by
    rw [home, State.positionSteps, zero]
    simp
  moving _ moves := absurd (sorting.symm.trans moves) nofun

theorem completeSorterRecoveryHoming (s : State) (now : UInt32) :
    Tracked (s.completeSorterRecoveryHoming now) := by
  refine reportMotion ?_ _ _
  unfold State.sorterHomingEnds
  rcases ((s.stopSorterHoming now).record .sorterHomed).updateRecoveryCompletion_eq .sorter with
    eq | eq | ⟨-, -, eq⟩ <;> rw [eq] <;> exact of_home rfl rfl rfl

theorem sortHomingOffsetStep {s : State} (unknown : s.machineState.sorter.positionKnown = false)
    (now : UInt32) : Tracked (s.sortHomingOffsetStep now) := by
  unfold State.sortHomingOffsetStep
  split_ifs
  · exact of_unknown unknown
  · exact completeSorterRecoveryHoming s now
  · exact of_unknown unknown
  · exact completeSorterRecoveryHoming s now

theorem homeSortMotor {s : State} (h : Tracked s) (co : Coordinated s) (sensor : Bool)
    (now : UInt32) : Tracked (s.homeSortMotor sensor now) := by
  unfold State.homeSortMotor
  split_ifs with idle enabled recovering sorting dead
  · exact h
  · cases enabled
  · cases enabled
  · exact searchStep (by simpa using idle) (.inl sorting) _ _
  · exact of_home rfl (co.slotZero sorting (by simpa using idle)).1 rfl
  · refine sortHomingOffsetStep ?_ now
    rw [s.recoverySearch_machineState sensor]
    exact co.searching (by simpa using idle) (by simpa using sorting)

theorem serviceSorterJog {s : State} (h : Tracked s) (co : Coordinated s) :
    Tracked s.serviceSorterJog := by
  by_cases active : s.sorter.sorterJog.active
  · refine of_unknown ?_
    rw [s.serviceSorterJog_machineState]
    exact (co.jogging active).2.2
  · rw [s.serviceSorterJog_inactive (by simpa using active) co.jogEnded]
    exact h

theorem runTestCycle {s : State} (h : Tracked s) (co : Coordinated s)
    (running : s.machineState.isRunning) (raw : Nat) (t : Ticks) :
    Tracked (s.runTestCycle raw t) := by
  dsimp only [State.runTestCycle]
  split_ifs with active more
  · simp only [Bool.and_eq_true, Bool.not_eq_true'] at active
    have rest := co.rest_of_testCycle running active.1.1 active.1.2 active.2
    have queued := h.queueFeed rest.sorting rest.homing
      (State.randomBelow raw s.configuration.slotCount) t
    exact ⟨queued.still, queued.moving⟩
  · exact ⟨h.still, h.moving⟩
  · exact h

theorem runSortTestCycle {s : State} (h : Tracked s) (co : Coordinated s)
    (running : s.machineState.isRunning) (raw : Nat) (now : UInt32) :
    Tracked (s.runSortTestCycle raw now) := by
  dsimp only [State.runSortTestCycle]
  split_ifs with active more pacing elapsed
  · exact ⟨h.still, h.moving⟩
  · exact h
  · simp only [Bool.and_eq_true, Bool.not_eq_true'] at active
    obtain ⟨sorting, homing⟩ := co.sorterStill running active.2
    have moved := h.beginMove sorting homing (State.randomBelow raw s.configuration.slotCount)
      (State.randomBelow raw s.configuration.slotCount)
    exact ⟨moved.still, moved.moving⟩
  · simp only [Bool.and_eq_true, Bool.not_eq_true'] at active
    obtain ⟨sorting, homing⟩ := co.sorterStill running active.2
    have moved := h.beginMove sorting homing 0 0
    exact ⟨moved.still, moved.moving⟩
  · exact h

theorem runAux {s : State} (h : Tracked s) (co : Coordinated s) (raw sortRaw : Nat) (t : Ticks)
    (now : UInt32) : Tracked (s.runAux raw sortRaw t now) := by
  unfold State.runAux
  split_ifs with skip
  · exact h
  · simp only [Bool.or_eq_true, Bool.not_eq_true', not_or, Bool.not_eq_false] at skip
    refine (h.runTestCycle co skip.1 raw t).runSortTestCycle (co.runTestCycle skip.1 raw t) ?_
      sortRaw now
    rw [s.runTestCycle_machineState raw t]
    exact skip.1

theorem applyV1Action {s : State} (h : Tracked s) (idle : s.executionBusy = false)
    (result : V1DispatchResult) (t : Ticks) : Tracked (s.applyV1Action result t) := by
  have rest := Coordinated.rest_of_idle idle
  unfold State.applyV1Action
  cases result.action with
  | stop => exact of_unknown rfl
  | homeSorter => exact of_unknown rfl
  | queueFeed =>
    have forced : Tracked (s.setForceFeed false) := ⟨h.still, h.moving⟩
    exact forced.queueFeed rest.sorting rest.homing _ t
  | queueForcedFeed =>
    have forced : Tracked (s.setForceFeed true) := ⟨h.still, h.moving⟩
    exact forced.queueFeed rest.sorting rest.homing _ t
  | sortTo => exact h.beginMove rest.sorting rest.homing _ _
  | _ => exact ⟨h.still, h.moving⟩

theorem commandEffect {s t : State} (h : Tracked s) (effect : CommandEffect s t)
    (steps : t.configuration.sortSteps = s.configuration.sortSteps) : Tracked t := by
  cases effect with
  | quiet same => exact h.of_linkOnly same
  | stopped stop =>
    rw [stop.machine]
    exact of_unknown rfl
  | switched idle machine tracker =>
    rw [machine]
    exact ⟨h.still, h.moving⟩
  | acted s₁ result ticks idle prepared permitted done =>
    have kept : s₁.configuration.sortSteps = s.configuration.sortSteps := by
      rw [done.machine] at steps
      exact (s₁.applyV1Action_sortSteps result ticks).symm.trans steps
    have ready : Tracked s₁ := by
      rw [prepared.machine] at kept ⊢
      exact h.of_same rfl rfl rfl kept
    have still : s₁.executionBusy = false := by
      rw [prepared.machine]
      exact idle
    exact (ready.applyV1Action still result ticks).of_linkOnly done

theorem feedCompletionTurns {s : State} (h : Tracked s) (turns : Nat) (now : UInt32) :
    Tracked (State.feedCompletionTurns turns s now) := by
  induction turns generalizing s with
  | zero => exact h
  | succ turns ih =>
    unfold State.feedCompletionTurns
    dsimp only
    split
    · exact ⟨h.still, h.moving⟩
    · exact ih ⟨h.still, h.moving⟩
    · exact ih ⟨h.still, h.moving⟩
    · exact ⟨h.still, h.moving⟩

theorem onFeedComplete {s : State} (h : Tracked s) (now : UInt32) :
    Tracked (s.onFeedComplete now) := by
  unfold State.onFeedComplete
  split_ifs
  · exact ⟨h.still, h.moving⟩
  · exact h
  · refine feedCompletionTurns ?_ 3 now
    dsimp only
    split_ifs <;> exact ⟨h.still, h.moving⟩
  · exact h.feedCompletionTurns 3 now

theorem exec {s : State} (h : Tracked s) (co : Coordinated s) (routine : Routine)
    (steps : KeepsSortSteps s routine) (reset : ResetsAtSlotZero s routine) :
    Tracked (Firmware.exec s routine) := by
  cases routine with
  | serialByte byte t => exact h.commandEffect (s.serialByte_effect byte t) steps
  | dispatchPending t => exact h.commandEffect (s.dispatchPending_effect t) steps
  | getProxState sensor now => exact ⟨h.still, h.moving⟩
  | updateSlotDropGate now => exact h.updateSlotDropGate co now
  | runSortMotor => exact h.runSortMotor
  | onSortComplete now =>
    unfold Firmware.exec State.onSortComplete
    dsimp only
    split_ifs
    · have ended : Tracked (s.sortEnds now) := ⟨h.still, h.moving⟩
      exact ended.reportMotion _ _
    · exact h
  | scheduleRun t => exact h.scheduleRun t
  | checkFeedErrors =>
    unfold Firmware.exec State.checkFeedErrors
    dsimp only
    split_ifs
    · rw [s.feedOvertravel.reportFeedOvertravel_machine]
      exact ⟨h.feedOvertravel.still, h.feedOvertravel.moving⟩
    · exact h
  | runFeedMotor =>
    unfold Firmware.exec State.runFeedMotor
    dsimp only
    split_ifs
    · exact h
    · exact ⟨h.still, h.moving⟩
    · exact ⟨h.still, h.moving⟩
    · exact h
  | homeFeedMotor sensor now => exact h.homeFeedMotor sensor now reset
  | homeSortMotor sensor now => exact h.homeSortMotor co sensor now
  | serviceSorterJog => exact h.serviceSorterJog co
  | onFeedComplete now => exact h.onFeedComplete now
  | runAux raw sortRaw t now => exact h.runAux co raw sortRaw t now
  | motorStandByCheck now =>
    unfold Firmware.exec State.motorStandByCheck
    dsimp only
    split_ifs <;> exact ⟨h.still, h.moving⟩
  | serviceV2PhysicalRequest =>
    unfold Firmware.exec State.serviceV2PhysicalRequest
    dsimp only
    split_ifs <;> exact ⟨h.still, h.moving⟩
  | emitV2StateIfChanged => exact h.of_linkOnly s.emitV2StateIfChanged_linkOnly

end Tracked

theorem tracked_execAll {s : State} (co : Coordinated s) (h : Tracked s) (routines : List Routine)
    (steps : Meets sketchStep KeepsSortSteps s routines)
    (resets : Meets sketchStep ResetsAtSlotZero s routines) : Tracked (execAll s routines) := by
  have preserve : ∀ s r t, Coordinated s ∧ Tracked s → KeepsSortSteps s r ∧
    ResetsAtSlotZero s r →
      sketchStep s r = some t → Coordinated t ∧ Tracked t := by
    intro s r t inv ok eq
    cases eq
    exact ⟨inv.1.exec r, inv.2.exec inv.1 r ok.1 ok.2⟩
  exact (run_invariant preserve ⟨co, h⟩ (meets_and steps resets) (run_sketchStep s routines)).2

/-- In every run that keeps the step separation, and in which every queue reset by a
completed feeder recovery finds the queue at slot 0, an idle sorter of known position
stands at the slot of `qPos1`. -/
theorem sorterPosition_tracked (now : UInt32) (inputs : List LoopInput) (calls : Nat)
    (steps : Meets sketchStep KeepsSortSteps (boot now) (sketchRun inputs calls))
    (resets : Meets sketchStep ResetsAtSlotZero (boot now) (sketchRun inputs calls)) :
    let s := execAll (boot now) (sketchRun inputs calls)
    s.sorterMoving = false → s.machineState.sorter.positionKnown →
      displacement s.motion = s.sorter.qPos1 * s.configuration.sortSteps * sortMicrosteps := by
  intro s idle known
  have tracked := tracked_execAll (.boot now) (.of_unknown rfl) _ steps resets
  simp only [State.sorterMoving, Bool.or_eq_false_iff] at idle
  exact tracked.still known idle.1.1.1.2 idle.1.1.2

instance (s : State) (routine : Routine) : Decidable (KeepsSortSteps s routine) :=
  inferInstanceAs (Decidable (_ = _))

instance (s : State) : ∀ routine, Decidable (ResetsAtSlotZero s routine)
  | .homeFeedMotor _ _ => inferInstanceAs (Decidable (_ → _ → _ → _ → _))
  | .serialByte _ _ | .dispatchPending _ | .getProxState _ _ | .updateSlotDropGate _
  | .runSortMotor | .onSortComplete _ | .scheduleRun _ | .checkFeedErrors | .runFeedMotor
  | .homeSortMotor _ _ | .serviceSorterJog | .onFeedComplete _ | .runAux _ _ _ _
  | .motorStandByCheck _ | .serviceV2PhysicalRequest | .emitV2StateIfChanged =>
    inferInstanceAs (Decidable True)

/-- The two conditions of `sorterPosition_tracked` on one call. -/
def Tracks (s : State) (routine : Routine) : Prop :=
  KeepsSortSteps s routine ∧ ResetsAtSlotZero s routine

instance (s : State) (routine : Routine) : Decidable (Tracks s routine) :=
  inferInstanceAs (Decidable (_ ∧ _))

theorem meets_tracks {s : State} {routines : List Routine}
    (h : Meets sketchStep Tracks s routines) :
    Meets sketchStep KeepsSortSteps s routines ∧ Meets sketchStep ResetsAtSlotZero s routines :=
  ⟨h.imp fun _ _ both => both.1, h.imp fun _ _ both => both.2⟩

theorem Quiet.keepsSortSteps {s : State} {i : LoopInput} (h : Quiet s i) :
    Meets sketchStep KeepsSortSteps s (loopRoutines i) := by
  have motion : Meets sketchStep KeepsSortSteps s (motionRoutines i) := by
    simp only [motionRoutines, Meets, sketchStep, Option.some.injEq, forall_eq', KeepsSortSteps,
      and_true]
    refine ⟨?_, ?_, ?_, ?_, ?_, ?_, ?_, ?_, ?_, ?_, ?_, ?_, ?_, ?_, ?_⟩ <;>
    exact congrArg Configuration.sortSteps (exec_configuration _ _ (by simp) (by simp))
  simp only [loopRoutines, serialRoutines, h.serial, List.map_nil, List.nil_append,
    List.cons_append, Meets, sketchStep, Option.some.injEq, forall_eq', exec, KeepsSortSteps]
  rw [State.dispatchPending_empty h.pending]
  exact ⟨rfl, motion⟩

theorem Quiet.resetsAtSlotZero {s : State} {i : LoopInput} (h : Quiet s i)
    (moved : Quiet (s.runSortMotor.onSortComplete i.sorted) i) :
    Meets sketchStep ResetsAtSlotZero s (loopRoutines i) := by
  simp only [loopRoutines, serialRoutines, motionRoutines, h.serial, List.map_nil,
    List.nil_append, List.cons_append, exec, Meets, sketchStep, Option.some.injEq, forall_eq',
    ResetsAtSlotZero, true_and, and_true]
  rw [State.dispatchPending_empty h.pending, State.getProxState_settled h.sensor h.settled,
    State.updateSlotDropGate_inactive h.gate, State.scheduleRun_unscheduled moved.scheduled,
    State.checkFeedErrors_still moved.feeding moved.feedHoming,
    State.runFeedMotor_still moved.feeding]
  intro finishes
  simp [State.feedHomingFinishes, moved.feedHoming, moved.feedHomingOffset] at finishes

theorem meets_replicate {ok : State → Routine → Prop} {i : LoopInput}
    (Phase : Nat → State → Prop)
    (here : ∀ left s, Phase (left + 1) s → Meets sketchStep ok s (loopRoutines i))
    (next : ∀ left s, Phase (left + 1) s → Phase left (loop s i)) (count : Nat) {s : State}
    (start : Phase count s) :
    Meets sketchStep ok s ((List.replicate count i).flatMap loopRoutines) := by
  induction count generalizing s with
  | zero => trivial
  | succ count ih =>
    rw [List.replicate_succ, List.flatMap_cons]
    refine (here count s start).append fun t ran => ?_
    rw [run_sketchStep, Option.some.injEq] at ran
    subst ran
    exact ih (next count s start)

theorem Jogging.tracks {i : LoopInput} (count left : Nat) {s : State}
    (h : Jogging i (count + left) s) :
    Meets sketchStep Tracks s ((List.replicate count i).flatMap loopRoutines) := by
  refine meets_replicate (fun count s => Jogging i (count + left) s) ?_ ?_ count h
  · intro count s h
    exact meets_and h.quiet.keepsSortSteps (h.quiet.resetsAtSlotZero (h.still.symm ▸ h.quiet))
  · intro count s h
    rw [Nat.add_right_comm] at h
    rw [h.loop]
    exact h.step

theorem Moving.tracks {i : LoopInput} (count : Nat) {s : State} (h : Moving i count s) :
    Meets sketchStep Tracks s ((List.replicate count i).flatMap loopRoutines) := by
  refine meets_replicate (fun count s => Moving i count s) ?_ ?_ count h
  · intro count s h
    exact meets_and h.quiet.keepsSortSteps (h.quiet.resetsAtSlotZero (h.moves ▸ h.step.quiet))
  · intro count s h
    rw [h.loop]
    exact h.step

/-- An iteration at `millis()` 0 that receives `text` and reads the two homing sensors. -/
def iteration (text : String) (feedHoming sortHoming : Bool) : LoopInput :=
  ⟨(ascii text).map (·, ⟨0, 0, 0, 0⟩), ⟨0, 0, 0, 0⟩, false, 0, 0, 0,
    ⟨0, 0, 0, 0⟩, feedHoming, 0, sortHoming, 0, 0, 0, ⟨0, 0, 0, 0⟩, 0, 0⟩

def silence : LoopInput := iteration "" false false

def stopAndHomeSorter : LoopInput :=
  iteration "stop\nfeedhomingoffset:0\nprotocol:2\n@1 homesorter\n" false false

def sorterHoming : List LoopInput :=
  stopAndHomeSorter :: (List.replicate 398 silence ++ [silence, iteration "" false true])

def sortToOne : List LoopInput :=
  iteration "@2 sortto:1\n" false false :: (List.replicate 319 silence ++ [silence])

def jogBegun : State := loop (boot 0) stopAndHomeSorter

def jogEnding : State :=
  { jogBegun with sorter.sorterJog := ⟨1, true, false⟩
                  motion := List.replicate 398 (.sortStep .jog false) ++ jogBegun.motion }

def sorterHomed : State := loop (loop jogEnding silence) (iteration "" false true)

def moveBegun : State := loop sorterHomed (iteration "@2 sortto:1\n" false false)

def moveEnding : State :=
  { moveBegun with
      drive.sortDelayMs :=
        State.accSortDelay moveBegun.drive moveBegun.sorter.sortStepsToNextPositionTracker (-1)
      sorter.sortStepsToNextPosition := 0
      motorDriversEnabled := true
      motion := List.replicate 319 (.sortStep .move false) ++ moveBegun.motion }

def movedToOne : State := loop moveEnding silence

theorem jogBegun_jogging : Jogging silence (398 + 0) jogBegun ∧ jogBegun.motorDriversEnabled := by
  decide +kernel

theorem moveBegun_moving : Moving silence (318 + 1) moveBegun := by decide +kernel

example : movedToOne.sorter.qPos1 = 1 := by decide +kernel

theorem iterate_sorterHoming : iterate (boot 0) sorterHoming = sorterHomed := by
  have start : iterate (boot 0) sorterHoming =
      iterate jogBegun (List.replicate 398 silence ++ [silence, iteration "" false true]) := by
    simp only [sorterHoming, iterate, List.foldl_cons, jogBegun]
  rw [start, iterate_append, jogBegun_jogging.1.iterate 398 0 jogBegun_jogging.2]
  simp only [iterate, List.foldl_cons, List.foldl_nil, sorterHomed, jogEnding]

theorem iterate_sortToOne : iterate sorterHomed sortToOne = movedToOne := by
  have start : iterate sorterHomed sortToOne =
      iterate moveBegun (List.replicate 319 silence ++ [silence]) := by
    simp only [sortToOne, iterate, List.foldl_cons, moveBegun]
  rw [start, iterate_append, moveBegun_moving.iterate 318]
  simp only [iterate, List.foldl_cons, List.foldl_nil, movedToOne, moveEnding]

theorem meets_iterations {ok : State → Routine → Prop} {s : State}
    {inputs more : List LoopInput}
    (h : Meets sketchStep ok s (inputs.flatMap loopRoutines))
    (rest : Meets sketchStep ok (iterate s inputs) (more.flatMap loopRoutines)) :
    Meets sketchStep ok s ((inputs ++ more).flatMap loopRoutines) := by
  rw [List.flatMap_append]
  refine h.append fun t ran => ?_
  rw [run_sketchStep, Option.some.injEq, execAll_flatMap] at ran
  exact ran ▸ rest

theorem meets_phase {ok : State → Routine → Prop} {first i : LoopInput} {rest : List LoopInput}
    {count : Nat} {s t u : State} (started : loop s first = t)
    (ended : iterate t (List.replicate count i) = u)
    (start : Meets sketchStep ok s ([first].flatMap loopRoutines))
    (middle : Meets sketchStep ok t ((List.replicate count i).flatMap loopRoutines))
    (finish : Meets sketchStep ok u (rest.flatMap loopRoutines)) :
    Meets sketchStep ok s ((first :: (List.replicate count i ++ rest)).flatMap loopRoutines) := by
  subst started ended
  exact meets_iterations start (meets_iterations middle finish)

theorem tracks_sorterHoming :
    Meets sketchStep Tracks (boot 0) (sorterHoming.flatMap loopRoutines) :=
  meets_phase (t := jogBegun) (u := jogEnding) rfl
    (jogBegun_jogging.1.iterate 398 0 jogBegun_jogging.2) (by decide +kernel)
    (jogBegun_jogging.1.tracks 398 0) (by decide +kernel)

theorem tracks_sortToOne :
    Meets sketchStep Tracks sorterHomed (sortToOne.flatMap loopRoutines) :=
  meets_phase (t := moveBegun) (u := moveEnding) rfl (moveBegun_moving.iterate 318)
    (by decide +kernel) (moveBegun_moving.tracks (318 + 1)) (by decide +kernel)

example : sorterHomed.sorter.qPos1 = 0 := by decide +kernel

@[irreducible] def callCount (inputs : List LoopInput) : Nat :=
  (inputs.flatMap loopRoutines).length

theorem sketchRun_callCount (inputs : List LoopInput) :
    sketchRun inputs (callCount inputs) = inputs.flatMap loopRoutines := by
  unfold callCount
  exact List.take_length

theorem execAll_callCount (s : State) (inputs : List LoopInput) :
    execAll s (sketchRun inputs (callCount inputs)) = iterate s inputs := by
  rw [sketchRun_callCount, execAll_flatMap]

def slotOneInputs : List LoopInput := sorterHoming ++ sortToOne

def slotOneRun : List Routine := sketchRun slotOneInputs (callCount slotOneInputs)

theorem iterate_slotOneInputs : iterate (boot 0) slotOneInputs = movedToOne := by
  rw [slotOneInputs, iterate_append, iterate_sorterHoming, iterate_sortToOne]

theorem tracks_slotOneInputs :
    Meets sketchStep Tracks (boot 0) (slotOneInputs.flatMap loopRoutines) := by
  refine meets_iterations tracks_sorterHoming ?_
  rw [iterate_sorterHoming]
  exact tracks_sortToOne

/-- The arm stands at slot 1. -/
theorem sorterPosition_tracked_slotOne :
    Meets sketchStep KeepsSortSteps (boot 0) slotOneRun ∧
    Meets sketchStep ResetsAtSlotZero (boot 0) slotOneRun ∧
    (execAll (boot 0) slotOneRun).sorterMoving = false ∧
    (execAll (boot 0) slotOneRun).machineState.sorter.positionKnown ∧
    (execAll (boot 0) slotOneRun).sorter.qPos1 = 1 ∧
    displacement (execAll (boot 0) slotOneRun).motion =
      (execAll (boot 0) slotOneRun).sorter.qPos1 *
        (execAll (boot 0) slotOneRun).configuration.sortSteps * sortMicrosteps := by
  have ends : execAll (boot 0) slotOneRun = movedToOne := by
    rw [slotOneRun, execAll_callCount, iterate_slotOneInputs]
  have tracks : Meets sketchStep Tracks (boot 0) slotOneRun := by
    rw [slotOneRun, sketchRun_callCount]
    exact tracks_slotOneInputs
  obtain ⟨steps, resets⟩ := meets_tracks tracks
  have rest : movedToOne.sorterMoving = false ∧ movedToOne.machineState.sorter.positionKnown ∧
      movedToOne.sorter.qPos1 = 1 := by decide +kernel
  rw [← ends] at rest
  exact ⟨steps, resets, rest.1, rest.2.1, rest.2.2,
    sorterPosition_tracked 0 slotOneInputs (callCount slotOneInputs) steps resets rest.1 rest.2.1⟩

def feederHoming : LoopInput := iteration "@3 homefeeder\n" true false

def feederLastInputs : List LoopInput := slotOneInputs ++ [feederHoming]

def feederLastRun : List Routine := sketchRun feederLastInputs (callCount feederLastInputs)

theorem sorterPosition_lost :
    Meets sketchStep KeepsSortSteps (boot 0) feederLastRun ∧
    (execAll (boot 0) feederLastRun).sorterMoving = false ∧
    (execAll (boot 0) feederLastRun).machineState.sorter.positionKnown ∧
    (execAll (boot 0) feederLastRun).sorter.qPos1 = 0 ∧
    displacement (execAll (boot 0) feederLastRun).motion ≠
      (execAll (boot 0) feederLastRun).sorter.qPos1 *
        (execAll (boot 0) feederLastRun).configuration.sortSteps * sortMicrosteps := by
  have ends : execAll (boot 0) feederLastRun = loop movedToOne feederHoming := by
    rw [feederLastRun, execAll_callCount, feederLastInputs, iterate_append, iterate_slotOneInputs]
    simp only [iterate, List.foldl_cons, List.foldl_nil]
  have homing :
      Meets sketchStep KeepsSortSteps movedToOne ([feederHoming].flatMap loopRoutines) := by
    decide +kernel
  have steps : Meets sketchStep KeepsSortSteps (boot 0) feederLastRun := by
    rw [feederLastRun, sketchRun_callCount, feederLastInputs]
    refine meets_iterations (meets_tracks tracks_slotOneInputs).1 ?_
    rw [iterate_slotOneInputs]
    exact homing
  refine ⟨steps, ?_⟩
  rw [ends]
  decide +kernel

end CaseSorter.Firmware
