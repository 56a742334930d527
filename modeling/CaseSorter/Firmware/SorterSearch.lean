import CaseSorter.Firmware.SorterPosition

/-! How far the sorter turns in search of its homing sensor. `Kept` says what the routines
that do not pulse the sorter leave alone; `homingSteps` and the offset counter then limit
what a recovery homing can do on a sensor that never reads active. -/

namespace CaseSorter.Firmware

/-- The search pulses of the latest slot-0 pass in the record. -/
def passPulses : List Motion → Nat
  | [] => 0
  | .slotZeroBegins :: _ => 0
  | .sortStep .slotZero _ :: rest => passPulses rest + 1
  | _ :: rest => passPulses rest

/-- The pulses of the latest recovery homing in the record, after its jog. -/
def recoveryPulses : List Motion → Nat
  | [] => 0
  | .recoveryBegins :: _ => 0
  | .sortStep .recovery _ :: rest | .sortStep .recoveryOffset _ :: rest => recoveryPulses rest + 1
  | _ :: rest => recoveryPulses rest

def slotZeroLimit : Int := sortFullRevolutionSteps * sortMicrosteps

def recoveryLimit : Int := (sortFullRevolutionSteps + sortHomingMarginSteps) * sortMicrosteps

namespace State

def passing (s : State) : Bool := s.sorter.isSorting && s.sorter.isSortHoming

def searching (s : State) : Bool := !s.sorter.isSorting && s.sorter.isSortHoming

def OffsetBounded (s : State) : Prop :=
  s.configuration.sortHomingOffset ≤ sortFullRevolutionSteps ∧
    s.drive.sortHomingOffset ≤ slotZeroLimit

end State

theorem dispatched_sortHomingOffset {c d : Configuration} (h : Dispatched c d)
    (bounded : c.sortHomingOffset ≤ sortFullRevolutionSteps) :
    d.sortHomingOffset ≤ sortFullRevolutionSteps := by
  rcases h with rfl | ⟨command, context, rfl⟩
  · exact bounded
  · exact dispatchV1Command_sortHomingOffset bounded

/-- A recovery homing that is still going on is where it was, and none has begun. -/
structure KeepsSearch (s t : State) : Prop where
  recovery : recoveryPulses t.motion = recoveryPulses s.motion
  searching : t.searching → s.searching ∧ t.sorter.homingSteps = s.sorter.homingSteps ∧
    t.sorter.isSortHomingOffset = s.sorter.isSortHomingOffset ∧
    t.sorter.sortHomingOffsetSteps = s.sorter.sortHomingOffsetSteps
  jogging : t.sorter.sorterJog.active →
    (t.sorter.homingSteps = 0 ∧ t.sorter.isSortHomingOffset = false) ∨
    (s.sorter.sorterJog.active ∧ t.sorter.homingSteps = s.sorter.homingSteps ∧
      t.sorter.isSortHomingOffset = s.sorter.isSortHomingOffset)
  offset : s.OffsetBounded → t.OffsetBounded

/-- Nor has a slot-0 pass made a pulse or begun. -/
structure Kept (s t : State) : Prop extends KeepsSearch s t where
  pass : passPulses t.motion = passPulses s.motion
  passing : t.passing → s.passing

theorem KeepsSearch.trans {s t u : State} (h : KeepsSearch s t) (h' : KeepsSearch t u) :
    KeepsSearch s u where
  recovery := h'.recovery.trans h.recovery
  searching active := by
    obtain ⟨active', steps, offset, left⟩ := h'.searching active
    obtain ⟨active'', steps', offset', left'⟩ := h.searching active'
    exact ⟨active'', steps.trans steps', offset.trans offset', left.trans left'⟩
  jogging active := by
    rcases h'.jogging active with reset | ⟨active', steps, offset⟩
    · exact .inl reset
    · rcases h.jogging active' with ⟨steps', offset'⟩ | ⟨active'', steps', offset'⟩
      · exact .inl ⟨steps.trans steps', offset.trans offset'⟩
      · exact .inr ⟨active'', steps.trans steps', offset.trans offset'⟩
  offset bounded := h'.offset (h.offset bounded)

namespace Kept

theorem trans {s t u : State} (h : Kept s t) (h' : Kept t u) : Kept s u where
  toKeepsSearch := h.toKeepsSearch.trans h'.toKeepsSearch
  pass := h'.pass.trans h.pass
  passing active := h.passing (h'.passing active)

theorem of_sorter {s t : State} (sorter : t.sorter = s.sorter) (drive : t.drive = s.drive)
    (configuration : t.configuration = s.configuration)
    (pass : passPulses t.motion = passPulses s.motion)
    (recovery : recoveryPulses t.motion = recoveryPulses s.motion) : Kept s t where
  recovery := recovery
  searching := by simp only [State.searching, sorter, and_self, and_true, imp_self]
  jogging active := .inr ⟨sorter ▸ active, by rw [sorter], by rw [sorter]⟩
  offset := by simp only [State.OffsetBounded, drive, configuration, imp_self]
  pass := pass
  passing := by simp only [State.passing, sorter, imp_self]

theorem refl (s : State) : Kept s s := of_sorter rfl rfl rfl rfl rfl

theorem after {s t u : State} (h : Kept t u) (sorter : t.sorter = s.sorter)
    (drive : t.drive = s.drive) (configuration : t.configuration = s.configuration)
    (motion : t.motion = s.motion) : Kept s u :=
  (of_sorter sorter drive configuration (by rw [motion]) (by rw [motion])).trans h

theorem of_still {s t : State} (homing : t.sorter.isSortHoming = false)
    (jogging : t.sorter.sorterJog.active →
      (t.sorter.homingSteps = 0 ∧ t.sorter.isSortHomingOffset = false) ∨
      (s.sorter.sorterJog.active ∧ t.sorter.homingSteps = s.sorter.homingSteps ∧
        t.sorter.isSortHomingOffset = s.sorter.isSortHomingOffset))
    (motion : t.motion = s.motion) (offset : s.OffsetBounded → t.OffsetBounded) : Kept s t where
  recovery := by rw [motion]
  searching := by simp [State.searching, homing]
  jogging := jogging
  offset := offset
  pass := by rw [motion]
  passing := by simp [State.passing, homing]

theorem linkOnly {s t : State} (h : LinkOnly s t) : Kept s t := by
  rw [h.machine]
  exact of_sorter rfl rfl rfl rfl rfl

theorem reportMotion (s : State) (slot : Int)
    (finished : PhysicalRequestTracker × PhysicalRequestTransition) :
    Kept s (s.reportMotion slot finished) := by
  rw [s.reportMotion_machine]
  exact of_sorter rfl rfl rfl rfl rfl

theorem beginMove {s : State} (homing : s.sorter.isSortHoming = false) (position next : Int) :
    Kept s (s.beginMove position next) :=
  of_still homing (fun active => .inr ⟨active, rfl, rfl⟩) rfl id

theorem updateSlotDropGate {s : State} (co : Coordinated s) (now : UInt32) :
    Kept s (s.updateSlotDropGate now) := by
  unfold State.updateSlotDropGate
  split_ifs with elapsed
  · exact .refl s
  · simp only [RuntimeTimer.hasElapsed, Bool.not_eq_true', Bool.not_eq_false,
      Bool.and_eq_true] at elapsed
    obtain ⟨-, -, homing, -⟩ := co.gated elapsed.1
    exact of_still homing (fun active => .inr ⟨active, rfl, rfl⟩) rfl id

theorem onSortComplete (s : State) (now : UInt32) : Kept s (s.onSortComplete now) := by
  have ended : Kept s (s.sortEnds now) :=
    ⟨⟨rfl, fun active => ⟨active, rfl, rfl, rfl⟩, fun active =>
      .inr ⟨active, rfl, rfl⟩, id⟩, rfl, id⟩
  dsimp only [State.onSortComplete]
  split_ifs
  · exact ended.trans (reportMotion _ _ _)
  · exact .refl s

theorem scheduleRun (s : State) (t : Ticks) : Kept s (s.scheduleRun t) := by
  dsimp only [State.scheduleRun]
  split_ifs <;> exact of_sorter rfl rfl rfl rfl rfl

theorem queueFeed {s : State} (homing : s.sorter.isSortHoming = false) (position : Int)
    (t : Ticks) : Kept s (s.queueFeed position t) := by
  have moved : Kept s (s.moveSorterToNextPosition position t.now) := by
    dsimp only [State.moveSorterToNextPosition]
    split_ifs
    · exact of_still homing (fun active => .inr ⟨active, rfl, rfl⟩) rfl id
    · exact beginMove homing _ _
  have scheduled : Kept s (s.moveSorterToNextPosition position t.now).scheduleFeed :=
    moved.trans (of_sorter rfl rfl rfl rfl rfl)
  exact scheduled.trans (scheduleRun _ t)

theorem checkFeedErrors (s : State) : Kept s s.checkFeedErrors := by
  unfold State.checkFeedErrors
  split_ifs
  · have stopped : Kept s s.feedOvertravel := by
      dsimp only [State.feedOvertravel]
      split_ifs <;> exact of_still rfl nofun rfl id
    refine stopped.trans ?_
    rw [s.feedOvertravel.reportFeedOvertravel_machine]
    exact of_sorter rfl rfl rfl rfl rfl
  · exact .refl s

theorem runFeedMotor (s : State) : Kept s s.runFeedMotor := by
  dsimp only [State.runFeedMotor]
  split_ifs
  · exact .refl s
  · exact ⟨⟨rfl, fun active => ⟨active, rfl, rfl, rfl⟩,
      fun active => .inr ⟨active, rfl, rfl⟩, id⟩, rfl, id⟩
  · exact of_sorter rfl rfl rfl rfl rfl
  · exact .refl s

theorem updateRecoveryCompletion (s : State) (axis : MachineAxis) :
    Kept s (s.updateRecoveryCompletion axis) := by
  rcases s.updateRecoveryCompletion_eq axis with eq | eq | ⟨-, -, eq⟩ <;> rw [eq]
  · exact .refl s
  · exact of_sorter rfl rfl rfl rfl rfl
  · exact ⟨⟨rfl, fun active => ⟨active, rfl, rfl, rfl⟩,
      fun active => .inr ⟨active, rfl, rfl⟩, id⟩, rfl, id⟩

theorem homeSorter (s : State) : Kept s s.homeSorter :=
  of_still rfl (fun _ => .inl ⟨rfl, rfl⟩) rfl id

theorem completeFeedHoming (s : State) (now : UInt32) : Kept s (s.completeFeedHoming now) := by
  have ended : Kept s (s.feedHomingEnds now) := by
    have recovered : Kept s ((s.stopFeedHoming now).updateRecoveryCompletion .feeder) :=
      (updateRecoveryCompletion (s.stopFeedHoming now) .feeder).after rfl rfl rfl rfl
    dsimp only [State.feedHomingEnds]
    split_ifs <;> exact recovered.trans (of_sorter rfl rfl rfl rfl rfl)
  refine ended.trans ?_
  dsimp only [State.completeFeedHoming]
  split_ifs
  · exact (homeSorter _).after rfl rfl rfl rfl
  · exact reportMotion _ _ _

theorem feedHomingOffsetStep (s : State) (now : UInt32) : Kept s (s.feedHomingOffsetStep now) := by
  unfold State.feedHomingOffsetStep
  split_ifs
  · exact .refl s
  · exact completeFeedHoming s now
  · exact of_sorter rfl rfl rfl rfl rfl
  · exact completeFeedHoming s now

theorem homeFeedMotor (s : State) (sensor : Bool) (now : UInt32) :
    Kept s (s.homeFeedMotor sensor now) := by
  unfold State.homeFeedMotor
  split_ifs
  · exact completeFeedHoming s now
  · exact (feedHomingOffsetStep _ now).after rfl rfl rfl rfl
  · exact of_sorter rfl rfl rfl rfl rfl
  · exact feedHomingOffsetStep s now

theorem feedCompletionTurns (turns : Nat) (s : State) (now : UInt32) :
    Kept s (State.feedCompletionTurns turns s now) := by
  induction turns generalizing s with
  | zero => exact .refl s
  | succ turns ih =>
    unfold State.feedCompletionTurns
    dsimp only
    split
    · exact of_sorter rfl rfl rfl rfl rfl
    · exact (ih _).after rfl rfl rfl rfl
    · exact (ih _).after rfl rfl rfl rfl
    · exact of_sorter rfl rfl rfl rfl rfl

theorem onFeedComplete (s : State) (now : UInt32) : Kept s (s.onFeedComplete now) := by
  dsimp only [State.onFeedComplete]
  split_ifs
  · exact of_sorter rfl rfl rfl rfl rfl
  · exact .refl s
  · exact (feedCompletionTurns 3 _ now).after rfl rfl rfl rfl
  · exact (feedCompletionTurns 3 _ now).after rfl rfl rfl rfl
  · exact feedCompletionTurns 3 s now

theorem runTestCycle {s : State} (co : Coordinated s) (running : s.machineState.isRunning)
    (raw : Nat) (t : Ticks) : Kept s (s.runTestCycle raw t) := by
  dsimp only [State.runTestCycle]
  split_ifs with active more
  · simp only [Bool.and_eq_true, Bool.not_eq_true'] at active
    have rest := co.rest_of_testCycle running active.1.1 active.1.2 active.2
    exact (queueFeed rest.homing _ t).trans (of_sorter rfl rfl rfl rfl rfl)
  · exact of_sorter rfl rfl rfl rfl rfl
  · exact .refl s

theorem runSortTestCycle {s : State} (co : Coordinated s) (running : s.machineState.isRunning)
    (raw : Nat) (now : UInt32) : Kept s (s.runSortTestCycle raw now) := by
  dsimp only [State.runSortTestCycle]
  split_ifs with active more pacing elapsed
  · exact of_sorter rfl rfl rfl rfl rfl
  · exact .refl s
  · simp only [Bool.and_eq_true, Bool.not_eq_true'] at active
    exact of_still (co.sorterStill running active.2).2 (fun jog => .inr ⟨jog, rfl, rfl⟩) rfl id
  · simp only [Bool.and_eq_true, Bool.not_eq_true'] at active
    exact of_still (co.sorterStill running active.2).2 (fun jog => .inr ⟨jog, rfl, rfl⟩) rfl id
  · exact .refl s

theorem runAux {s : State} (co : Coordinated s) (raw sortRaw : Nat) (t : Ticks) (now : UInt32) :
    Kept s (s.runAux raw sortRaw t now) := by
  unfold State.runAux
  split_ifs with skip
  · exact .refl s
  · simp only [Bool.or_eq_true, Bool.not_eq_true', not_or, Bool.not_eq_false] at skip
    refine (runTestCycle co skip.1 raw t).trans
      (runSortTestCycle (co.runTestCycle skip.1 raw t) ?_ sortRaw now)
    rw [s.runTestCycle_machineState raw t]
    exact skip.1

theorem enterStoppedState (s : State) : Kept s s.enterStoppedState :=
  of_still rfl nofun rfl id

theorem applyV1Action {s : State} (idle : s.executionBusy = false) (result : V1DispatchResult)
    (t : Ticks) : Kept s (s.applyV1Action result t) := by
  have rest := Coordinated.rest_of_idle idle
  unfold State.applyV1Action
  cases result.action with
  | stop => exact enterStoppedState s
  | homeSorter => exact homeSorter s
  | homeFeeder => exact of_still rest.homing (fun jog => .inr ⟨jog, rfl, rfl⟩) rfl id
  | queueFeed =>
    exact (queueFeed (s := s.setForceFeed false) rest.homing _ t).after rfl rfl rfl rfl
  | queueForcedFeed =>
    exact (queueFeed (s := s.setForceFeed true) rest.homing _ t).after rfl rfl rfl rfl
  | sortTo => exact beginMove rest.homing _ _
  | applySortHomingOffset =>
    refine of_still rest.homing (fun jog => .inr ⟨jog, rfl, rfl⟩) rfl fun bounded =>
      ⟨bounded.1, ?_⟩
    exact Int.mul_le_mul_of_nonneg_right bounded.1 (by decide)
  | _ => exact of_still rest.homing (fun jog => .inr ⟨jog, rfl, rfl⟩) rfl id

theorem commandEffect {s t : State} (effect : CommandEffect s t) : Kept s t := by
  cases effect with
  | quiet same => exact linkOnly same
  | stopped stop =>
    refine (enterStoppedState s).trans ?_
    rw [stop.machine]
    exact of_sorter rfl rfl rfl rfl rfl
  | switched idle machine tracker =>
    rw [machine]
    exact of_sorter rfl rfl rfl rfl rfl
  | acted s₁ result ticks idle prepared permitted done =>
    have rest := Coordinated.rest_of_idle idle
    have still : s₁.executionBusy = false := by
      rw [prepared.machine]
      exact idle
    have ready : Kept s s₁ := by
      have offset := dispatched_sortHomingOffset prepared.configuration
      rw [prepared.machine]
      exact of_still rest.homing (fun jog => .inr ⟨jog, rfl, rfl⟩) rfl fun bounded =>
        ⟨offset bounded.1, bounded.2⟩
    exact (ready.trans (applyV1Action still result ticks)).trans (linkOnly done)

theorem serviceV2PhysicalRequest (s : State) : Kept s s.serviceV2PhysicalRequest := by
  dsimp only [State.serviceV2PhysicalRequest]
  split_ifs <;> exact of_sorter rfl rfl rfl rfl rfl

theorem motorStandByCheck (s : State) (now : UInt32) : Kept s (s.motorStandByCheck now) := by
  dsimp only [State.motorStandByCheck]
  split_ifs <;> exact of_sorter rfl rfl rfl rfl rfl

end Kept

def Routine.turnsSorter : Routine → Bool
  | .runSortMotor | .homeSortMotor _ _ | .serviceSorterJog => true
  | _ => false

theorem Kept.exec {s : State} (co : Coordinated s) (routine : Routine)
    (h : routine.turnsSorter = false) : Kept s (Firmware.exec s routine) := by
  cases routine with
  | serialByte byte t => exact commandEffect (s.serialByte_effect byte t)
  | dispatchPending t => exact commandEffect (s.dispatchPending_effect t)
  | getProxState sensor now => exact of_sorter rfl rfl rfl rfl rfl
  | updateSlotDropGate now => exact updateSlotDropGate co now
  | onSortComplete now => exact onSortComplete s now
  | scheduleRun t => exact scheduleRun s t
  | checkFeedErrors => exact checkFeedErrors s
  | runFeedMotor => exact runFeedMotor s
  | homeFeedMotor sensor now => exact homeFeedMotor s sensor now
  | onFeedComplete now => exact onFeedComplete s now
  | runAux raw sortRaw t now => exact runAux co raw sortRaw t now
  | motorStandByCheck now => exact motorStandByCheck s now
  | serviceV2PhysicalRequest => exact serviceV2PhysicalRequest s
  | emitV2StateIfChanged => exact linkOnly s.emitV2StateIfChanged_linkOnly
  | runSortMotor | homeSortMotor _ _ | serviceSorterJog => cases h

theorem Kept.execAll {s : State} (co : Coordinated s) (routines : List Routine)
    (h : ∀ routine ∈ routines, routine.turnsSorter = false) :
    Kept s (Firmware.execAll s routines) := by
  induction routines generalizing s with
  | nil => exact .refl s
  | cons routine routines ih =>
    rw [List.forall_mem_cons] at h
    exact (Kept.exec co routine h.1).trans (ih (co.exec routine) h.2)

/-- What `homingSteps` and the offset counter allow a recovery homing from here on. -/
structure SearchLimits (s : State) : Prop where
  offset : s.OffsetBounded
  jogging : s.sorter.sorterJog.active →
    s.sorter.homingSteps = 0 ∧ s.sorter.isSortHomingOffset = false
  searching : s.searching → s.sorter.isSortHomingOffset = false →
    0 ≤ s.sorter.homingSteps ∧ s.sorter.homingSteps ≤ recoveryLimit
  offsetting : s.searching → s.sorter.isSortHomingOffset →
    s.sorter.sortHomingOffsetSteps ≤ slotZeroLimit

/-- The recorded pulses of a recovery homing are paid for by the two counters. -/
structure Counted (s : State) : Prop where
  limit : recoveryPulses s.motion ≤ recoveryLimit
  searching : s.searching → s.sorter.isSortHomingOffset = false →
    recoveryPulses s.motion ≤ s.sorter.homingSteps
  offsetting : s.searching → s.sorter.isSortHomingOffset →
    recoveryPulses s.motion + max 0 s.sorter.sortHomingOffsetSteps ≤ recoveryLimit

theorem SearchLimits.keep {s t : State} (h : SearchLimits s) (kept : KeepsSearch s t) :
    SearchLimits t where
  offset := kept.offset h.offset
  jogging active := by
    rcases kept.jogging active with reset | ⟨active', steps, offset⟩
    · exact reset
    · rw [steps, offset]
      exact h.jogging active'
  searching active found := by
    obtain ⟨active', steps, offset, -⟩ := kept.searching active
    rw [steps]
    exact h.searching active' (offset ▸ found)
  offsetting active found := by
    obtain ⟨active', -, offset, left⟩ := kept.searching active
    rw [left]
    exact h.offsetting active' (offset ▸ found)

theorem Counted.keep {s t : State} (h : Counted s) (kept : KeepsSearch s t) : Counted t where
  limit := by
    rw [kept.recovery]
    exact h.limit
  searching active found := by
    obtain ⟨active', steps, offset, -⟩ := kept.searching active
    rw [kept.recovery, steps]
    exact h.searching active' (offset ▸ found)
  offsetting active found := by
    obtain ⟨active', -, offset, left⟩ := kept.searching active
    rw [kept.recovery, left]
    exact h.offsetting active' (offset ▸ found)

theorem KeepsSearch.runSortMotor {s : State} (co : Coordinated s) :
    KeepsSearch s s.runSortMotor := by
  by_cases sorting : s.sorter.isSorting
  · have jog : s.sorter.sorterJog.active = false := by
      by_contra jog
      rw [(co.jogging (by simpa using jog)).1] at sorting
      cases sorting
    unfold State.runSortMotor
    split_ifs with idle arrived zero
    · exact (Kept.refl s).toKeepsSearch
    · dsimp only [State.slotZeroPass]
      split_ifs <;> exact ⟨rfl, by simp [State.searching, State.record, sorting],
        by simp [State.record, jog], id⟩
    · refine ⟨rfl, ?_, by simp [State.sortMoveEnds, jog], id⟩
      intro searching
      simp only [State.searching, State.sortMoveEnds, Bool.not_false, Bool.true_and] at searching
      exact absurd (co.slotZero sorting searching).1 zero
    · exact ⟨rfl, by simp [State.searching, State.sortMoveStep, State.stepSortMotor,
        State.setAccSortDelay, State.setMotorDriversEnabled, sorting],
        fun active => (by cases active.symm.trans jog), id⟩
  · rw [State.runSortMotor_still (by simpa using sorting)]
    exact (Kept.refl s).toKeepsSearch

theorem KeepsSearch.searchStep_slotZero {s : State} (co : Coordinated s)
    (sorting : s.sorter.isSorting) (limit : Int) :
    KeepsSearch s (s.searchStep .slotZero limit) := by
  have jog : s.sorter.sorterJog.active → False := by
    intro jog
    rw [(co.jogging jog).1] at sorting
    cases sorting
  unfold State.searchStep
  split_ifs
  · refine ⟨rfl, ?_, fun active => (jog active).elim, id⟩
    simp [State.searching, State.stepSortMotor, State.setMotorDriversEnabled, sorting]
  · exact (Kept.refl s).toKeepsSearch

theorem KeepsSearch.of_ended {s t : State} (homing : t.sorter.isSortHoming = false)
    (jog : t.sorter.sorterJog.active = false)
    (recovery : recoveryPulses t.motion = recoveryPulses s.motion)
    (offset : s.OffsetBounded → t.OffsetBounded) : KeepsSearch s t :=
  ⟨recovery, by simp [State.searching, homing], fun active =>
    absurd (active.symm.trans jog) nofun, offset⟩

theorem KeepsSearch.completeSorterRecoveryHoming {s : State}
    (jog : s.sorter.sorterJog.active = false) (now : UInt32) :
    KeepsSearch s (s.completeSorterRecoveryHoming now) := by
  have stopped : KeepsSearch s ((s.stopSorterHoming now).record .sorterHomed) :=
    .of_ended rfl jog rfl id
  exact (stopped.trans (Kept.updateRecoveryCompletion _ .sorter).toKeepsSearch).trans
    (Kept.reportMotion _ _ _).toKeepsSearch

theorem jog_inactive {s : State} (co : Coordinated s) (homing : s.sorter.isSortHoming) :
    s.sorter.sorterJog.active = false := by
  by_contra jog
  have idle := (co.jogging (by simpa using jog)).2.1
  rw [homing] at idle
  cases idle

theorem SearchLimits.sortHomingOffsetStep {s : State} (h : SearchLimits s)
    (jog : s.sorter.sorterJog.active = false) (now : UInt32) :
    SearchLimits (s.sortHomingOffsetStep now) := by
  unfold State.sortHomingOffsetStep
  split_ifs with found zero left
  · exact h
  · exact h.keep (.completeSorterRecoveryHoming jog now)
  · have found' : s.sorter.isSortHomingOffset := by simpa using found
    refine ⟨h.offset, h.jogging, fun _ missing => ?_, fun active offset => ?_⟩
    · exact absurd (missing.symm.trans found') nofun
    · have bound := h.offsetting active offset
      change s.sorter.sortHomingOffsetSteps - 1 ≤ slotZeroLimit
      omega
  · exact h.keep (.completeSorterRecoveryHoming jog now)

theorem SearchLimits.recoverySearch {s : State} (h : SearchLimits s) (searching : s.searching)
    (jog : s.sorter.sorterJog.active = false) (sensor : Bool) :
    SearchLimits (s.recoverySearch sensor) := by
  unfold State.recoverySearch State.searchStep
  split_ifs with found dead left
  · exact h
  · have missing : s.sorter.isSortHomingOffset = false := by simpa using found
    have bound := h.searching searching missing
    refine ⟨h.offset, fun active => absurd (active.symm.trans jog) nofun, fun _ _ => ?_,
      fun _ offset => absurd (missing.symm.trans offset) nofun⟩
    change 0 ≤ s.sorter.homingSteps + 1 ∧ s.sorter.homingSteps + 1 ≤ recoveryLimit
    simp only [recoveryLimit] at bound left ⊢
    omega
  · exact h
  · exact ⟨h.offset, fun active => absurd (active.symm.trans jog) nofun, nofun,
      fun _ _ => h.offset.2⟩

theorem SearchLimits.homeSortMotor {s : State} (h : SearchLimits s) (co : Coordinated s)
    (sensor : Bool) (now : UInt32) : SearchLimits (s.homeSortMotor sensor now) := by
  unfold State.homeSortMotor
  split_ifs with idle enabled recovering sorting dead
  · exact h
  · cases enabled
  · cases enabled
  · exact h.keep (.searchStep_slotZero co sorting _)
  · have jog := jog_inactive co (by simpa using idle)
    exact h.keep (.of_ended rfl jog rfl id)
  · have homing : s.sorter.isSortHoming := by simpa using idle
    have jog := jog_inactive co homing
    refine (h.recoverySearch ?_ jog sensor).sortHomingOffsetStep ?_ now
    · simp [State.searching, sorting, homing]
    · exact (s.recoverySearch_sorterJog sensor).symm ▸ jog

theorem Counted.sortHomingOffsetStep {s : State} (h : Counted s) (searching : s.searching)
    (found : s.sorter.isSortHomingOffset) (jog : s.sorter.sorterJog.active = false) (now : UInt32) :
    Counted (s.sortHomingOffsetStep now) := by
  unfold State.sortHomingOffsetStep
  split_ifs with missing zero left
  · exact h
  · exact h.keep (.completeSorterRecoveryHoming jog now)
  · have count := h.offsetting searching found
    have pulses : recoveryPulses ((s.stepSortMotor .recoveryOffset true).motion) =
        recoveryPulses s.motion + 1 := rfl
    refine ⟨?_, fun _ missing => absurd (missing.symm.trans found) nofun, fun _ _ => ?_⟩
    · change ((recoveryPulses (s.stepSortMotor .recoveryOffset true).motion : Nat) : Int) ≤ _
      rw [pulses]
      omega
    · change ((recoveryPulses (s.stepSortMotor .recoveryOffset true).motion : Nat) : Int) +
        max 0 (s.sorter.sortHomingOffsetSteps - 1) ≤ _
      rw [pulses]
      omega
  · exact h.keep (.completeSorterRecoveryHoming jog now)

theorem Counted.searchStep {s : State} (h : Counted s) (searching : s.searching)
    (missing : s.sorter.isSortHomingOffset = false) :
    Counted (s.searchStep .recovery recoveryLimit) := by
  unfold State.searchStep
  split_ifs with left
  · have count := h.searching searching missing
    have pulses : recoveryPulses ((s.stepSortMotor .recovery true).motion) =
        recoveryPulses s.motion + 1 := rfl
    refine ⟨?_, fun _ _ => ?_, fun _ found => absurd (missing.symm.trans found) nofun⟩
    · change ((recoveryPulses (s.stepSortMotor .recovery true).motion : Nat) : Int) ≤ _
      rw [pulses]
      omega
    · change ((recoveryPulses (s.stepSortMotor .recovery true).motion : Nat) : Int) ≤
        s.sorter.homingSteps + 1
      rw [pulses]
      omega
  · exact h

theorem searchStep_isSortHomingOffset (s : State) (cause : StepCause) (limit : Int) :
    (s.searchStep cause limit).sorter.isSortHomingOffset = s.sorter.isSortHomingOffset := by
  unfold State.searchStep
  split_ifs <;> rfl

theorem Counted.homeSortMotor {s : State} (h : Counted s) (co : Coordinated s) (now : UInt32) :
    Counted (s.homeSortMotor false now) := by
  unfold State.homeSortMotor
  split_ifs with idle enabled recovering sorting dead
  · exact h
  · cases enabled
  · cases enabled
  · exact h.keep (.searchStep_slotZero co sorting _)
  · cases dead rfl
  · have homing : s.sorter.isSortHoming := by simpa using idle
    have jog := jog_inactive co homing
    have searching : s.searching := by simp [State.searching, sorting, homing]
    by_cases found : s.sorter.isSortHomingOffset
    · have search : s.recoverySearch false = s := by simp [State.recoverySearch, found]
      rw [search]
      exact h.sortHomingOffsetStep searching found jog now
    · have missing : s.sorter.isSortHomingOffset = false := by simpa using found
      have search : s.recoverySearch false = s.searchStep .recovery recoveryLimit := by
        simp [State.recoverySearch, missing, recoveryLimit]
      have rest : (s.searchStep .recovery recoveryLimit).sortHomingOffsetStep now =
          s.searchStep .recovery recoveryLimit := by
        simp [State.sortHomingOffsetStep, searchStep_isSortHomingOffset, missing]
      rw [search, rest]
      exact h.searchStep searching missing

/-- The jog ends and the search of a recovery homing begins. -/
structure BeginsSearch (s t : State) : Prop where
  jogging : s.sorter.sorterJog.active
  ended : t.sorter.sorterJog.active = false
  recovery : recoveryPulses t.motion = 0
  steps : t.sorter.homingSteps = s.sorter.homingSteps
  found : t.sorter.isSortHomingOffset = s.sorter.isSortHomingOffset
  offset : s.OffsetBounded → t.OffsetBounded

theorem serviceSorterJog_search {s : State} (co : Coordinated s) :
    KeepsSearch s s.serviceSorterJog ∨ BeginsSearch s s.serviceSorterJog := by
  by_cases active : s.sorter.sorterJog.active
  · have homing := (co.jogging active).2.1
    dsimp only [State.serviceSorterJog, StepSequence.takeStep]
    by_cases last : s.sorter.sorterJog.remaining - 1 = 0
    · simp only [active, last, Bool.not_true, Bool.false_eq_true, if_false, if_true,
        State.sorterJogEnds]
      split_ifs
      · exact .inl ⟨rfl, by simp [State.searching, State.cancelSorterJog, State.stepSortMotor,
          State.setMotorDriversEnabled, homing], by rintro ⟨⟩, id⟩
      · exact .inr ⟨active, rfl, rfl, rfl, rfl, id⟩
    · simp only [active, last, Bool.not_true, Bool.false_eq_true, if_false, if_true, co.jogEnded]
      exact .inl ⟨rfl, by simp [State.searching, State.stepSortMotor,
          State.setMotorDriversEnabled, homing], fun _ => .inr ⟨active, rfl, rfl⟩, id⟩
  · rw [s.serviceSorterJog_inactive (by simpa using active) co.jogEnded]
    exact .inl (Kept.refl s).toKeepsSearch

theorem SearchLimits.serviceSorterJog {s : State} (h : SearchLimits s) (co : Coordinated s) :
    SearchLimits s.serviceSorterJog := by
  rcases serviceSorterJog_search co with kept | begins
  · exact h.keep kept
  · obtain ⟨steps, found⟩ := h.jogging begins.jogging
    refine ⟨begins.offset h.offset, fun active => absurd (active.symm.trans begins.ended) nofun,
      fun _ _ => ?_, fun _ offset => ?_⟩
    · rw [begins.steps, steps]
      decide
    · rw [begins.found, found] at offset
      cases offset

theorem Counted.serviceSorterJog {s : State} (h : Counted s) (limits : SearchLimits s)
    (co : Coordinated s) : Counted s.serviceSorterJog := by
  rcases serviceSorterJog_search co with kept | begins
  · exact h.keep kept
  · obtain ⟨steps, found⟩ := limits.jogging begins.jogging
    refine ⟨?_, fun _ _ => ?_, fun _ offset => ?_⟩
    · rw [begins.recovery]
      decide
    · rw [begins.recovery, begins.steps, steps]
      exact Int.le_refl 0
    · rw [begins.found, found] at offset
      cases offset

theorem SearchLimits.exec {s : State} (h : SearchLimits s) (co : Coordinated s)
    (routine : Routine) : SearchLimits (Firmware.exec s routine) := by
  by_cases turns : routine.turnsSorter
  · cases routine with
    | runSortMotor => exact h.keep (.runSortMotor co)
    | homeSortMotor sensor now => exact h.homeSortMotor co sensor now
    | serviceSorterJog => exact h.serviceSorterJog co
    | _ => cases turns
  · exact h.keep (Kept.exec co routine (by simpa using turns)).toKeepsSearch

theorem Counted.exec {s : State} (h : Counted s) (limits : SearchLimits s) (co : Coordinated s)
    (routine : Routine) (dead : ∀ now, routine ≠ .homeSortMotor true now) :
    Counted (Firmware.exec s routine) := by
  by_cases turns : routine.turnsSorter
  · cases routine with
    | runSortMotor => exact h.keep (.runSortMotor co)
    | homeSortMotor sensor now =>
      cases sensor with
      | false => exact h.homeSortMotor co now
      | true => exact absurd rfl (dead now)
    | serviceSorterJog => exact h.serviceSorterJog limits co
    | _ => cases turns
  · exact h.keep (Kept.exec co routine (by simpa using turns)).toKeepsSearch

theorem SearchLimits.boot (now : UInt32) : SearchLimits (Firmware.boot now) :=
  ⟨⟨(by decide : (0 : Int) ≤ 200), (by decide : (0 : Int) ≤ 3200)⟩, fun _ =>
    ⟨rfl, rfl⟩, nofun, nofun⟩

theorem SearchLimits.execAll {s : State} (h : SearchLimits s) (co : Coordinated s)
    (routines : List Routine) : SearchLimits (Firmware.execAll s routines) := by
  induction routines generalizing s with
  | nil => exact h
  | cons routine routines ih => exact ih (h.exec co routine) (co.exec routine)

theorem Counted.execAll {s : State} (h : Counted s) (limits : SearchLimits s) (co : Coordinated s)
    (routines : List Routine) (dead : ∀ now, .homeSortMotor true now ∉ routines) :
    Counted (Firmware.execAll s routines) := by
  induction routines generalizing s with
  | nil => exact h
  | cons routine routines ih =>
    refine ih (h.exec limits co routine fun now eq => dead now (eq ▸ List.mem_cons_self))
      (limits.exec co routine) (co.exec routine) fun now mem =>
        dead now (List.mem_cons_of_mem _ mem)

end CaseSorter.Firmware
