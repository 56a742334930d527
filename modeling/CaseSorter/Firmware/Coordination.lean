import CaseSorter.Firmware.Effects
import CaseSorter.Firmware.Quiet

/-! How the motion flags of the sketch exclude each other. `Coordinated` is inductive over
every routine of `loop()` in any order; what it says of a test cycle, of the slot drop gate
and of the boot jog is what the later invariants of the sorter need. -/

namespace CaseSorter.Firmware

/-- `slotZero` describes a slot-0 homing pass, `searching` a recovery homing, `gated` a
transition held back by the slot drop gate. -/
structure Coordinated (s : State) : Prop where
  running : s.machineState.RunningKnown
  sorting : s.sorter.isSorting → s.sorter.sortInProgress ∧ s.sorter.sortComplete = false
  slotZero : s.sorter.isSorting → s.sorter.isSortHoming →
    s.sorter.qPos1 = 0 ∧ s.sorter.sortStepsToNextPosition = 0
  searching : s.sorter.isSortHoming → s.sorter.isSorting = false →
    s.machineState.sorter.positionKnown = false
  jogging : s.sorter.sorterJog.active → s.sorter.isSorting = false ∧
    s.sorter.isSortHoming = false ∧ s.machineState.sorter.positionKnown = false
  jogEnded : s.sorter.sorterJog.complete = false
  bootJog : s.sorter.sorterJog.active → s.sorter.sorterJogStartsFeedHoming →
    s.diagnostics.isTestCycle = false ∧ s.feeder.feedScheduled = false ∧
      s.feeder.isFeeding = false
  gated : s.sorter.slotDropGate.active → s.feeder.feedScheduled ∧ s.sorter.isSorting = false ∧
    s.sorter.isSortHoming = false ∧ s.sorter.sorterJog.active = false ∧
    s.diagnostics.isSortTestCycle = false
  scheduled : s.feeder.feedScheduled → s.feeder.isFeeding = false ∧
    s.feeder.isFeedHoming = false ∧ s.feeder.isFeedHomingOffset = false
  feeding : s.feeder.isFeeding → s.feeder.feedCycleInProgress ∧
    s.feeder.isFeedHoming = false ∧ s.feeder.isFeedHomingOffset = false
  cycleHoming : s.feeder.isFeedHoming ∨ s.feeder.isFeedHomingOffset →
    s.feeder.feedCycleInProgress → s.sorter.isSorting = false
  testFeed : s.diagnostics.isTestCycle → s.feeder.isFeedHoming ∨ s.feeder.isFeedHomingOffset →
    s.feeder.feedCycleInProgress
  testSort : s.diagnostics.isTestCycle → s.sorter.isSorting →
    s.feeder.feedScheduled ∨ s.feeder.feedCycleInProgress
  sortTest : s.diagnostics.isSortTestCycle → s.diagnostics.isTestCycle = false ∧
    s.feeder.feedScheduled = false ∧ s.feeder.feedCycleInProgress = false

/-- The two states differ in nothing that moves a motor. -/
structure SameMotion (s t : State) : Prop where
  feeder : t.feeder = s.feeder
  sorter : t.sorter = s.sorter
  diagnostics : t.diagnostics = s.diagnostics
  machineState : t.machineState = s.machineState

theorem LinkOnly.sameMotion {s t : State} (h : LinkOnly s t) : SameMotion s t := by
  rw [h.machine]
  exact ⟨rfl, rfl, rfl, rfl⟩

namespace State

theorem updateRecoveryCompletion_eq (s : State) (axis : MachineAxis) :
    s.updateRecoveryCompletion axis = s ∨
    s.updateRecoveryCompletion axis =
        { s with machineState := (s.machineState.completeRecovery axis).1 } ∨
      ((s.machineState.completeRecovery axis).2 ∧ s.machineState.queueResetRequired ∧
        s.updateRecoveryCompletion axis =
          { s with machineState := (s.machineState.completeRecovery axis).1.acknowledgeQueueReset
                   sorter.qPos1 := 0, sorter.qPos2 := 0 }) := by
  dsimp only [updateRecoveryCompletion]
  split_ifs with idle reset
  · exact .inl rfl
  · simp only [Bool.and_eq_true, MachineState.completeRecovery_queueResetRequired] at reset
    exact .inr (.inr ⟨reset.1, reset.2, rfl⟩)
  · exact .inr (.inl rfl)

theorem updateRecoveryCompletion_feeder (s : State) (axis : MachineAxis) :
    (s.updateRecoveryCompletion axis).feeder = s.feeder := by
  rcases s.updateRecoveryCompletion_eq axis with h | h | ⟨-, -, h⟩ <;> rw [h]

theorem updateRecoveryCompletion_isSorting (s : State) (axis : MachineAxis) :
    (s.updateRecoveryCompletion axis).sorter.isSorting = s.sorter.isSorting := by
  rcases s.updateRecoveryCompletion_eq axis with h | h | ⟨-, -, h⟩ <;> rw [h]

theorem feedHomingEnds_slotDropGate (s : State) (now : UInt32) :
    (s.feedHomingEnds now).sorter.slotDropGate = s.sorter.slotDropGate := by
  unfold feedHomingEnds
  rcases (s.stopFeedHoming now).updateRecoveryCompletion_eq .feeder with h | h | ⟨-, -, h⟩ <;>
    rw [h] <;> dsimp only <;> split_ifs <;> rfl

theorem recoverySearch_isSortHoming (s : State) (sensor : Bool) :
    (s.recoverySearch sensor).sorter.isSortHoming = s.sorter.isSortHoming := by
  unfold recoverySearch searchStep
  split_ifs <;> rfl

theorem recoverySearch_sorterJog (s : State) (sensor : Bool) :
    (s.recoverySearch sensor).sorter.sorterJog = s.sorter.sorterJog := by
  unfold recoverySearch searchStep
  split_ifs <;> rfl

theorem scheduleRun_machineState (s : State) (t : Ticks) :
    (s.scheduleRun t).machineState = s.machineState := by
  dsimp only [scheduleRun]
  split_ifs <;> rfl

theorem queueFeed_machineState (s : State) (position : Int) (t : Ticks) :
    (s.queueFeed position t).machineState = s.machineState := by
  refine (scheduleRun_machineState _ t).trans ?_
  dsimp only [scheduleFeed, moveSorterToNextPosition]
  split_ifs <;> rfl

theorem runTestCycle_machineState (s : State) (raw : Nat) (t : Ticks) :
    (s.runTestCycle raw t).machineState = s.machineState := by
  unfold runTestCycle
  split_ifs
  · exact queueFeed_machineState s _ t
  · rfl
  · rfl

theorem recoverySearch_machineState (s : State) (sensor : Bool) :
    (s.recoverySearch sensor).machineState = s.machineState := by
  unfold recoverySearch searchStep
  split_ifs <;> rfl

theorem serviceSorterJog_isSorting (s : State) :
    s.serviceSorterJog.sorter.isSorting = s.sorter.isSorting := by
  dsimp only [serviceSorterJog, sorterJogEnds]
  split_ifs <;> rfl

theorem serviceSorterJog_machineState (s : State) :
    s.serviceSorterJog.machineState = s.machineState := by
  dsimp only [serviceSorterJog, sorterJogEnds]
  split_ifs <;> rfl

end State

namespace Coordinated

theorem of_sameMotion {s t : State} (h : Coordinated s) (same : SameMotion s t) :
    Coordinated t := by
  obtain ⟨feeder, sorter, diagnostics, machineState⟩ := same
  constructor <;> simp only [feeder, sorter, diagnostics, machineState]
  exacts [h.1, h.2, h.3, h.4, h.5, h.6, h.7, h.8, h.9, h.10, h.11, h.12, h.13, h.14]

theorem boot (now : UInt32) : Coordinated (Firmware.boot now) := by
  exact ⟨nofun, nofun, nofun, nofun, fun _ => ⟨rfl, rfl, rfl⟩, rfl,
    fun _ _ => ⟨rfl, rfl, rfl⟩, nofun,
    nofun, nofun, fun h => h.elim nofun nofun, nofun, nofun, nofun⟩

theorem enterStoppedState (s : State) : Coordinated s.enterStoppedState := by
  constructor <;> simp [State.enterStoppedState, State.setMotorDriversEnabled,
    State.cancelFeedCompletion, State.cancelSorterJog, State.stopFeed, State.stopSort,
    State.cancelDiagnosticCycles, State.clearPendingCommand, State.setPendingCommand,
    MachineState.enterStopped, MachineState.RunningKnown, MachineState.isRunning,
    StepSequence.cancel, RuntimeTimer.cancel]

theorem feedQuiet {s : State} (h : Coordinated s) (scheduled : s.feeder.feedScheduled) :
    ¬(s.feeder.isFeedHoming ∨ s.feeder.isFeedHomingOffset) := by
  obtain ⟨-, homing, offset⟩ := h.scheduled scheduled
  simp [homing, offset]

theorem ungated_of_sorting {s : State} (h : Coordinated s) (sorting : s.sorter.isSorting) :
    s.sorter.slotDropGate.active = false := by
  by_contra gate
  have idle := (h.gated (by simpa using gate)).2.1
  rw [sorting] at idle
  cases idle

theorem unjogged_of_sorting {s : State} (h : Coordinated s) (sorting : s.sorter.isSorting) :
    s.sorter.sorterJog.active = false := by
  by_contra jog
  have idle := (h.jogging (by simpa using jog)).1
  rw [sorting] at idle
  cases idle

theorem beginMove {s : State} (h : Coordinated s) (jog : s.sorter.sorterJog.active = false)
    (homing : s.sorter.isSortHoming = false) (gate : s.sorter.slotDropGate.active = false)
    (cycle : s.feeder.isFeedHoming ∨ s.feeder.isFeedHomingOffset →
      s.feeder.feedCycleInProgress = false)
    (test : s.diagnostics.isTestCycle → s.feeder.feedScheduled) (position next : Int) :
    Coordinated (s.beginMove position next) :=
  { h with
    sorting := fun _ => ⟨rfl, rfl⟩
    slotZero := fun _ homes => absurd (homing.symm.trans homes) nofun
    searching := fun _ => nofun
    jogging := fun jogs => absurd (jog.symm.trans jogs) nofun
    gated := fun gated => absurd (gate.symm.trans gated) nofun
    cycleHoming := fun homes cycles => absurd ((cycle homes).symm.trans cycles) nofun
    testSort := fun tests _ => .inl (test tests) }

theorem openSlotDropGate {s : State} (h : Coordinated s) : Coordinated s.openSlotDropGate :=
  { h with gated := nofun }

theorem updateSlotDropGate {s : State} (h : Coordinated s) (now : UInt32) :
    Coordinated (s.updateSlotDropGate now) := by
  unfold State.updateSlotDropGate
  split_ifs with elapsed
  · exact h
  · have active : s.sorter.slotDropGate.active := by
      simp [RuntimeTimer.hasElapsed] at elapsed
      exact elapsed.1
    obtain ⟨scheduled, -, homing, jog, -⟩ := h.gated active
    have quiet := h.feedQuiet scheduled
    exact h.openSlotDropGate.beginMove jog homing rfl (fun homes => absurd homes quiet)
      (fun _ => scheduled) _ _

theorem slotZeroPass {s : State} (h : Coordinated s) (sorting : s.sorter.isSorting)
    (arrived : s.sorter.sortStepsToNextPosition = 0) (zero : s.sorter.qPos1 = 0) :
    Coordinated s.slotZeroPass := by
  have gate := h.ungated_of_sorting sorting
  have jog := h.unjogged_of_sorting sorting
  dsimp only [State.slotZeroPass]
  split_ifs
  all_goals
    exact
      { h with
        slotZero := fun _ _ => ⟨zero, arrived⟩
        searching := fun _ idle => absurd (sorting.symm.trans idle) nofun
        jogging := fun jogs => absurd (jog.symm.trans jogs) nofun
        gated := fun gated => absurd (gate.symm.trans gated) nofun }

theorem sortMoveEnds {s : State} (h : Coordinated s) (sorting : s.sorter.isSorting)
    (elsewhere : s.sorter.qPos1 ≠ 0) : Coordinated s.sortMoveEnds := by
  have gate := h.ungated_of_sorting sorting
  have jog := h.unjogged_of_sorting sorting
  exact
    { h with
      sorting := nofun
      slotZero := nofun
      searching := fun homing _ => absurd (h.slotZero sorting homing).1 elsewhere
      jogging := fun jogs => absurd (jog.symm.trans jogs) nofun
      gated := fun gated => absurd (gate.symm.trans gated) nofun
      cycleHoming := fun _ _ => rfl
      testSort := fun _ => nofun }

theorem runSortMotor {s : State} (h : Coordinated s) : Coordinated s.runSortMotor := by
  unfold State.runSortMotor
  split_ifs with idle arrived zero
  · exact h
  · exact h.slotZeroPass (by simpa using idle) arrived zero
  · exact h.sortMoveEnds (by simpa using idle) zero
  · exact
      { h with
        slotZero := fun sorting homing => absurd (h.slotZero sorting homing).2 arrived }

theorem sortEnds {s : State} (h : Coordinated s) (complete : s.sorter.sortComplete)
    (now : UInt32) : Coordinated (s.sortEnds now) :=
  { h with sorting := fun sorting => absurd (complete.symm.trans (h.sorting sorting).2) nofun }

theorem reportMotion {s : State} (h : Coordinated s) (slot : Int)
    (finished : PhysicalRequestTracker × PhysicalRequestTransition) :
    Coordinated (s.reportMotion slot finished) := by
  rw [s.reportMotion_machine]
  exact h.of_sameMotion ⟨rfl, rfl, rfl, rfl⟩

theorem onSortComplete {s : State} (h : Coordinated s) (now : UInt32) :
    Coordinated (s.onSortComplete now) := by
  unfold State.onSortComplete
  split_ifs with complete
  · simp only [Bool.and_eq_true] at complete
    exact (h.sortEnds complete.2 now).reportMotion _ _
  · exact h

theorem startFeedCycle {s : State} (h : Coordinated s) (scheduled : s.feeder.feedScheduled)
    (gate : s.sorter.slotDropGate.active = false) : Coordinated s.startFeedCycle := by
  have quiet := h.feedQuiet scheduled
  obtain ⟨-, homing, offset⟩ := h.scheduled scheduled
  exact
    { h with
      bootJog := fun jogs starts =>
        absurd ((h.bootJog jogs starts).2.1.symm.trans scheduled) nofun
      gated := fun gated => absurd (gate.symm.trans gated) nofun
      scheduled := nofun
      feeding := fun _ => ⟨rfl, homing, offset⟩
      cycleHoming := fun homes => absurd homes quiet
      testFeed := fun _ _ => rfl
      testSort := fun _ _ => .inr rfl
      sortTest := fun test => absurd ((h.sortTest test).2.1.symm.trans scheduled) nofun }

theorem scheduleRun {s : State} (h : Coordinated s) (t : Ticks) :
    Coordinated (s.scheduleRun t) := by
  have settled : Coordinated (s.readyToFeed t.ready).1 := h.of_sameMotion ⟨rfl, rfl, rfl, rfl⟩
  dsimp only [State.scheduleRun]
  split_ifs with gate scheduled ready wait
  · exact h
  · simp only [Bool.and_eq_true, Bool.not_eq_true] at scheduled gate
    exact settled.startFeedCycle scheduled.1 gate
  · exact settled.of_sameMotion ⟨rfl, rfl, rfl, rfl⟩
  · exact settled
  · exact h

theorem ungated_of_feedActive {s : State} (h : Coordinated s)
    (active : s.feeder.isFeeding ∨ s.feeder.isFeedHoming ∨ s.feeder.isFeedHomingOffset) :
    s.sorter.slotDropGate.active = false := by
  by_contra gate
  obtain ⟨feeding, homing, offset⟩ := h.scheduled (h.gated (by simpa using gate)).1
  simp [feeding, homing, offset] at active

theorem feedOvertravel {s : State} (gate : s.sorter.slotDropGate.active = false) :
    Coordinated s.feedOvertravel := by
  dsimp only [State.feedOvertravel]
  split_ifs
  all_goals
    exact
      { running := nofun
        sorting := nofun
        slotZero := nofun
        searching := nofun
        jogging := nofun
        jogEnded := rfl
        bootJog := nofun
        gated := fun gated => absurd (gate.symm.trans gated) nofun
        scheduled := nofun
        feeding := nofun
        cycleHoming := fun _ => nofun
        testFeed := nofun
        testSort := nofun
        sortTest := nofun }

theorem runFeedMotor {s : State} (h : Coordinated s) : Coordinated s.runFeedMotor := by
  unfold State.runFeedMotor
  split_ifs with sorts feeding ending
  · exact h
  · exact { h with }
  · obtain ⟨cycle, homing, offset⟩ := h.feeding ending
    have still : s.sorter.isSorting = false := by
      by_contra moving
      exact sorts (h.sorting (by simpa using moving)).1
    exact
      { h with
        bootJog := fun jogs starts =>
          ⟨(h.bootJog jogs starts).1, (h.bootJog jogs starts).2.1, rfl⟩
        scheduled := fun scheduled =>
          absurd ((h.scheduled scheduled).1.symm.trans ending) nofun
        feeding := nofun
        cycleHoming := fun _ _ => still
        testFeed := fun _ _ => cycle }
  · exact h

theorem ungated_of_jogging {s : State} (h : Coordinated s) (active : s.sorter.sorterJog.active) :
    s.sorter.slotDropGate.active = false := by
  by_contra gate
  have idle := (h.gated (by simpa using gate)).2.2.2.1
  rw [active] at idle
  cases idle

theorem sorterJogEnds {s : State} (h : Coordinated s) (active : s.sorter.sorterJog.active)
    (jog : StepSequence) :
    Coordinated (({ s with sorter.sorterJog := jog }.stepSortMotor .jog false).sorterJogEnds) := by
  obtain ⟨sorting, homing, unknown⟩ := h.jogging active
  have gate := h.ungated_of_jogging active
  have unstarted : s.diagnostics.isTestCycle ∨ s.feeder.feedScheduled ∨ s.feeder.isFeeding →
      s.sorter.sorterJogStartsFeedHoming = false := by
    intro busy
    by_contra starts
    obtain ⟨test, scheduled, feeding⟩ := h.bootJog active (by simpa using starts)
    simp [test, scheduled, feeding] at busy
  have tested : s.diagnostics.isTestCycle →
      (s.feeder.isFeedHoming || s.sorter.sorterJogStartsFeedHoming) → s.feeder.isFeedHoming := by
    intro test homes
    simpa [unstarted (.inl test)] using homes
  unfold State.sorterJogEnds
  split_ifs with stopped
  · exact
      { h with
        jogging := nofun
        jogEnded := rfl
        bootJog := nofun
        gated := fun gated => absurd (gate.symm.trans gated) nofun }
  · exact
      { h with
        slotZero := fun sorts => absurd (sorting.symm.trans sorts) nofun
        searching := fun _ _ => unknown
        jogging := nofun
        jogEnded := rfl
        bootJog := nofun
        gated := fun gated => absurd (gate.symm.trans gated) nofun
        scheduled := fun scheduled => by
          obtain ⟨feeding, homing, offset⟩ := h.scheduled scheduled
          have starts := unstarted (.inr (.inl scheduled))
          exact ⟨feeding, Bool.or_eq_false_iff.2 ⟨homing, starts⟩, offset⟩
        feeding := fun feeding => by
          obtain ⟨cycle, homing, offset⟩ := h.feeding feeding
          have starts := unstarted (.inr (.inr feeding))
          exact ⟨cycle, Bool.or_eq_false_iff.2 ⟨homing, starts⟩, offset⟩
        cycleHoming := fun _ _ => sorting
        testFeed := fun test homes => h.testFeed test (homes.imp_left (tested test)) }

theorem serviceSorterJog {s : State} (h : Coordinated s) : Coordinated s.serviceSorterJog := by
  have rest := h.jogEnded
  dsimp only [State.serviceSorterJog, StepSequence.takeStep]
  by_cases active : s.sorter.sorterJog.active
  · by_cases last : s.sorter.sorterJog.remaining - 1 = 0
    · simp [active, last]
      exact h.sorterJogEnds active _
    · simp [active, last, rest]
      have gate := h.ungated_of_jogging active
      exact
        { h with
          jogging := fun _ => h.jogging active
          jogEnded := rfl
          bootJog := fun _ => h.bootJog active
          gated := fun gated => absurd (gate.symm.trans gated) nofun }
  · simp [active, rest]
    exact h

theorem recovered {s : State} (h : Coordinated s) {m : MachineState} (running : m.RunningKnown)
    (still : m.sorter.positionKnown → s.machineState.sorter.positionKnown ∨
      (s.sorter.sorterJog.active = false ∧ s.sorter.isSortHoming = false)) :
    Coordinated { s with machineState := m } := by
  refine { h with running, searching := ?_, jogging := ?_ }
  · intro homing sorting
    by_contra known
    rcases still (by simpa using known) with old | ⟨-, idle⟩
    · rw [h.searching homing sorting] at old
      cases old
    · rw [idle] at homing
      cases homing
  · intro jog
    refine ⟨(h.jogging jog).1, (h.jogging jog).2.1, ?_⟩
    by_contra known
    rcases still (by simpa using known) with old | ⟨idle, -⟩
    · rw [(h.jogging jog).2.2] at old
      cases old
    · rw [idle] at jog
      cases jog

theorem resetQueue {s : State} (h : Coordinated s) :
    Coordinated { s with sorter.qPos1 := 0, sorter.qPos2 := 0 } :=
  { h with slotZero := fun sorting homing => ⟨rfl, (h.slotZero sorting homing).2⟩ }

theorem updateRecoveryCompletion {s : State} (h : Coordinated s) (axis : MachineAxis)
    (still : axis = .sorter →
      s.sorter.sorterJog.active = false ∧ s.sorter.isSortHoming = false) :
    Coordinated (s.updateRecoveryCompletion axis) := by
  have running := MachineState.completeRecovery_runningKnown h.running axis
  have known : (s.machineState.completeRecovery axis).1.sorter.positionKnown →
      s.machineState.sorter.positionKnown ∨
        (s.sorter.sorterJog.active = false ∧ s.sorter.isSortHoming = false) := by
    cases axis with
    | feeder =>
      rw [MachineState.completeRecovery_feeder_sorter]
      exact .inl
    | sorter => exact fun _ => .inr (still rfl)
  rcases s.updateRecoveryCompletion_eq axis with eq | eq | ⟨-, -, eq⟩ <;> rw [eq]
  · exact h
  · exact h.recovered running known
  · exact h.resetQueue.recovered running known

theorem stopFeedHoming {s : State} (h : Coordinated s) (now : UInt32) :
    Coordinated (s.stopFeedHoming now) :=
  { h with
    scheduled := fun scheduled => ⟨(h.scheduled scheduled).1, rfl, rfl⟩
    feeding := fun feeding => ⟨(h.feeding feeding).1, rfl, rfl⟩
    cycleHoming := fun homing => homing.elim nofun nofun
    testFeed := fun _ homing => homing.elim nofun nofun }

theorem clearFeedFault {s : State} (h : Coordinated s) : Coordinated s.clearFeedFault :=
  { h with }

theorem endFeedCycle {s : State} (h : Coordinated s) (feeding : s.feeder.isFeeding = false)
    (homing : s.feeder.isFeedHoming = false) (offset : s.feeder.isFeedHomingOffset = false)
    (sorting : s.feeder.feedCycleInProgress → s.sorter.isSorting = false) :
    Coordinated s.endFeedCycle := by
  have quiet : ¬(s.feeder.isFeedHoming ∨ s.feeder.isFeedHomingOffset) := by
    simp [homing, offset]
  exact
    { h with
      feeding := fun feeds => absurd (feeding.symm.trans feeds) nofun
      cycleHoming := fun _ => nofun
      testFeed := fun _ homes => absurd homes quiet
      testSort := fun test moves =>
        .inl ((h.testSort test moves).resolve_right fun cycle =>
          absurd ((sorting cycle).symm.trans moves) nofun)
      sortTest := fun test => ⟨(h.sortTest test).1, (h.sortTest test).2.1, rfl⟩ }

theorem feedHomingEnds {s : State} (h : Coordinated s)
    (homing : s.feeder.isFeedHoming ∨ s.feeder.isFeedHomingOffset) (now : UInt32) :
    Coordinated (s.feedHomingEnds now) := by
  have feeding : s.feeder.isFeeding = false := by
    by_contra feeding
    have := h.feeding (by simpa using feeding)
    simp [this] at homing
  have recovered := (h.stopFeedHoming now).updateRecoveryCompletion .feeder nofun
  have feeder := (s.stopFeedHoming now).updateRecoveryCompletion_feeder .feeder
  have sorting := (s.stopFeedHoming now).updateRecoveryCompletion_isSorting .feeder
  unfold State.feedHomingEnds
  generalize (s.stopFeedHoming now).updateRecoveryCompletion .feeder = u at *
  have still : u.feeder.feedCycleInProgress → u.sorter.isSorting = false := by
    rw [feeder, sorting]
    exact h.cycleHoming homing
  have idle : u.feeder.isFeeding = false ∧ u.feeder.isFeedHoming = false ∧
      u.feeder.isFeedHomingOffset = false := by
    rw [feeder]
    exact ⟨feeding, rfl, rfl⟩
  dsimp only
  split_ifs
  · exact recovered.clearFeedFault.endFeedCycle idle.1 idle.2.1 idle.2.2 still
  · exact recovered.endFeedCycle idle.1 idle.2.1 idle.2.2 still

theorem homeSorter {s : State} (h : Coordinated s)
    (gate : s.sorter.slotDropGate.active = false) : Coordinated s.homeSorter :=
  { h with
    running := nofun
    sorting := nofun
    slotZero := nofun
    searching := nofun
    jogging := fun _ => ⟨rfl, rfl, rfl⟩
    jogEnded := rfl
    bootJog := fun _ => nofun
    gated := fun gated => absurd (gate.symm.trans gated) nofun
    cycleHoming := fun _ _ => rfl
    testSort := fun _ => nofun }

theorem completeFeedHoming {s : State} (h : Coordinated s)
    (homing : s.feeder.isFeedHoming ∨ s.feeder.isFeedHomingOffset) (now : UInt32) :
    Coordinated (s.completeFeedHoming now) := by
  have ended := h.feedHomingEnds homing now
  unfold State.completeFeedHoming
  dsimp only
  split_ifs
  · refine homeSorter (ended.of_sameMotion ⟨rfl, rfl, rfl, rfl⟩) ?_
    exact (s.feedHomingEnds_slotDropGate now) ▸ h.ungated_of_feedActive (.inr homing)
  · exact ended.reportMotion _ _

theorem feedHomingOffsetStep {s : State} (h : Coordinated s) (now : UInt32) :
    Coordinated (s.feedHomingOffsetStep now) := by
  unfold State.feedHomingOffsetStep
  split_ifs with homing zero left
  · exact h
  · exact h.completeFeedHoming (.inr (by simpa using homing)) now
  · exact { h with }
  · exact h.completeFeedHoming (.inr (by simpa using homing)) now

theorem homeFeedMotor {s : State} (h : Coordinated s) (sensor : Bool) (now : UInt32) :
    Coordinated (s.homeFeedMotor sensor now) := by
  unfold State.homeFeedMotor
  split_ifs with homing enabled found
  · exact h.completeFeedHoming (.inl homing) now
  · refine feedHomingOffsetStep ?_ now
    exact
      { h with
        scheduled := fun scheduled =>
          absurd ((h.scheduled scheduled).2.1.symm.trans homing) nofun
        feeding := fun feeding => absurd ((h.feeding feeding).2.1.symm.trans homing) nofun
        cycleHoming := fun _ => h.cycleHoming (.inl homing)
        testFeed := fun test _ => h.testFeed test (.inl homing) }
  · exact { h with }
  · exact h.feedHomingOffsetStep now

theorem completeSorterRecoveryHoming {s : State} (h : Coordinated s)
    (homing : s.sorter.isSortHoming) (now : UInt32) :
    Coordinated (s.completeSorterRecoveryHoming now) := by
  have jog : s.sorter.sorterJog.active = false := by
    by_contra jog
    have idle := (h.jogging (by simpa using jog)).2.1
    rw [homing] at idle
    cases idle
  have stopped : Coordinated ((s.stopSorterHoming now).record .sorterHomed) :=
    { h with
      sorting := nofun
      slotZero := nofun
      searching := nofun
      jogging := fun jogs => absurd (jog.symm.trans jogs) nofun
      gated := fun gated => ⟨(h.gated gated).1, rfl, rfl, (h.gated gated).2.2.2⟩
      cycleHoming := fun _ _ => rfl
      testSort := fun _ => nofun }
  exact (stopped.updateRecoveryCompletion .sorter fun _ => ⟨jog, rfl⟩).reportMotion _ _

theorem searchStep {s : State} (h : Coordinated s) (cause : StepCause) (limit : Int) :
    Coordinated (s.searchStep cause limit) := by
  unfold State.searchStep
  split_ifs
  · exact { h with }
  · exact h

theorem slotZeroEnds {s : State} (h : Coordinated s) (steps : Int) :
    Coordinated { s.slotZeroEnds with sorter.homingSteps := steps } :=
  { h with
    sorting := nofun
    slotZero := nofun
    searching := nofun
    jogging := fun jogs => ⟨rfl, rfl, (h.jogging jogs).2.2⟩
    gated := fun gated => ⟨(h.gated gated).1, rfl, rfl, (h.gated gated).2.2.2⟩
    cycleHoming := fun _ _ => rfl
    testSort := fun _ => nofun }

theorem sortHomingOffsetStep {s : State} (h : Coordinated s) (homing : s.sorter.isSortHoming)
    (now : UInt32) : Coordinated (s.sortHomingOffsetStep now) := by
  unfold State.sortHomingOffsetStep
  split_ifs
  · exact h
  · exact h.completeSorterRecoveryHoming homing now
  · exact { h with }
  · exact h.completeSorterRecoveryHoming homing now

theorem recoverySearch {s : State} (h : Coordinated s) (sensor : Bool) :
    Coordinated (s.recoverySearch sensor) := by
  unfold State.recoverySearch
  split_ifs
  · exact h
  · exact h.searchStep _ _
  · exact { h with }

theorem homeSortMotor {s : State} (h : Coordinated s) (sensor : Bool) (now : UInt32) :
    Coordinated (s.homeSortMotor sensor now) := by
  unfold State.homeSortMotor
  split_ifs with homing enabled recovering sorting dead
  · exact h
  · cases enabled
  · cases enabled
  · exact h.searchStep _ _
  · exact h.slotZeroEnds 0
  · refine (h.recoverySearch sensor).sortHomingOffsetStep ?_ now
    rw [s.recoverySearch_isSortHoming sensor]
    simpa using homing

theorem homeFeeder {s : State} (h : Coordinated s) (idle : s.executionBusy = false) :
    Coordinated s.homeFeeder := by
  simp only [State.executionBusy, Bool.or_eq_false_iff] at idle
  have scheduled : s.feeder.feedScheduled = false := by simp [idle]
  have test : s.diagnostics.isTestCycle = false := by simp [idle]
  exact
    { h with
      running := nofun
      bootJog := fun _ _ => ⟨test, scheduled, rfl⟩
      scheduled := fun feeds => absurd (scheduled.symm.trans feeds) nofun
      feeding := nofun
      cycleHoming := fun _ => nofun
      testFeed := fun tests => absurd (test.symm.trans tests) nofun
      testSort := fun tests => absurd (test.symm.trans tests) nofun
      sortTest := fun _ => ⟨test, scheduled, rfl⟩ }

/-- Sorter and feeder are at rest, so that a queued feed may begin. -/
structure Rest (s : State) : Prop where
  sorting : s.sorter.isSorting = false
  homing : s.sorter.isSortHoming = false
  jog : s.sorter.sorterJog.active = false
  gate : s.sorter.slotDropGate.active = false
  feeding : s.feeder.isFeeding = false
  feedHoming : s.feeder.isFeedHoming = false
  feedHomingOffset : s.feeder.isFeedHomingOffset = false
  cycle : s.feeder.feedCycleInProgress = false
  sortTest : s.diagnostics.isSortTestCycle = false

theorem queueFeed {s : State} (h : Coordinated s) (rest : Rest s) (position : Int) (t : Ticks) :
    Coordinated (s.queueFeed position t) := by
  refine scheduleRun ?_ t
  have scheduled : Coordinated s.scheduleFeed :=
    { h with
      bootJog := fun jogs => absurd (rest.jog.symm.trans jogs) nofun
      gated := fun gated => absurd (rest.gate.symm.trans gated) nofun
      scheduled := fun _ => ⟨rfl, rest.feedHoming, rest.feedHomingOffset⟩
      feeding := nofun
      testSort := fun _ sorts => absurd (rest.sorting.symm.trans sorts) nofun
      sortTest := fun tests => absurd (rest.sortTest.symm.trans tests) nofun }
  dsimp only [State.moveSorterToNextPosition]
  split_ifs
  · exact
      { scheduled with
        gated := fun _ => ⟨rfl, rest.sorting, rest.homing, rest.jog, rest.sortTest⟩ }
  · exact scheduled.beginMove rest.jog rest.homing rest.gate (fun _ => rest.cycle)
      (fun _ => rfl) _ _

theorem setForceFeed {s : State} (h : Coordinated s) (forced : Bool) :
    Coordinated (s.setForceFeed forced) :=
  { h with }

theorem rest_of_idle {s : State} (idle : s.executionBusy = false) : Rest s := by
  simp only [State.executionBusy, Bool.or_eq_false_iff] at idle
  constructor <;> simp only [idle]

theorem startTest {s : State} (h : Coordinated s) (rest : Rest s) (interval : Int) :
    Coordinated
      { s with diagnostics.isTestCycle := true, diagnostics.testCycleInterval := interval
               diagnostics.testsCompleted := 0, feeder.feedScheduled := false
               feeder.feedCycleInProgress := false } := by
  have quiet : ¬(s.feeder.isFeedHoming ∨ s.feeder.isFeedHomingOffset) := by
    simp [rest.feedHoming, rest.feedHomingOffset]
  exact
    { h with
      bootJog := fun jogs => absurd (rest.jog.symm.trans jogs) nofun
      gated := fun gated => absurd (rest.gate.symm.trans gated) nofun
      scheduled := nofun
      feeding := fun feeds => absurd (rest.feeding.symm.trans feeds) nofun
      cycleHoming := fun _ => nofun
      testFeed := fun _ homes => absurd homes quiet
      testSort := fun _ sorts => absurd (rest.sorting.symm.trans sorts) nofun
      sortTest := fun tests => absurd (rest.sortTest.symm.trans tests) nofun }

theorem applyV1Action {s : State} (h : Coordinated s) (idle : s.executionBusy = false)
    (result : V1DispatchResult) (t : Ticks) : Coordinated (s.applyV1Action result t) := by
  have rest := rest_of_idle idle
  have busy := idle
  simp only [State.executionBusy, Bool.or_eq_false_iff] at busy
  unfold State.applyV1Action
  cases result.action with
  | stop => exact enterStoppedState s
  | homeFeeder => exact h.homeFeeder idle
  | homeSorter => exact h.homeSorter rest.gate
  | queueFeed => exact (h.setForceFeed false).queueFeed (rest_of_idle idle) _ t
  | queueForcedFeed => exact (h.setForceFeed true).queueFeed (rest_of_idle idle) _ t
  | sortTo =>
    have test : s.diagnostics.isTestCycle = false := busy.1.2
    exact h.beginMove rest.jog rest.homing rest.gate (fun _ => rest.cycle)
      (fun tests => absurd (test.symm.trans tests) nofun) _ _
  | startTest => exact h.startTest rest _
  | startSortTest =>
    have scheduled : s.feeder.feedScheduled = false := by simp [busy]
    exact
      { h with
        gated := fun gated => absurd (rest.gate.symm.trans gated) nofun
        sortTest := fun _ => ⟨busy.1.2, scheduled, rest.cycle⟩ }
  | _ => exact { h with }

theorem commandEffect {s t : State} (h : Coordinated s) (effect : CommandEffect s t) :
    Coordinated t := by
  cases effect with
  | quiet same => exact h.of_sameMotion same.sameMotion
  | stopped stop =>
    rw [stop.machine]
    exact (enterStoppedState s).of_sameMotion ⟨rfl, rfl, rfl, rfl⟩
  | switched idle machine tracker =>
    rw [machine]
    exact h.of_sameMotion ⟨rfl, rfl, rfl, rfl⟩
  | acted s₁ result ticks idle prepared permitted done =>
    have same : SameMotion s s₁ := by
      rw [prepared.machine]
      exact ⟨rfl, rfl, rfl, rfl⟩
    have still : s₁.executionBusy = false := by
      rw [prepared.machine]
      exact idle
    exact ((h.of_sameMotion same).applyV1Action still result ticks).of_sameMotion done.sameMotion

theorem checkFeedErrors {s : State} (h : Coordinated s) : Coordinated s.checkFeedErrors := by
  unfold State.checkFeedErrors
  split_ifs with fault
  · simp only [Bool.and_eq_true, Bool.or_eq_true] at fault
    have gate := h.ungated_of_feedActive (fault.1.1.imp id .inl)
    rw [s.feedOvertravel.reportFeedOvertravel_machine]
    exact (feedOvertravel gate).of_sameMotion ⟨rfl, rfl, rfl, rfl⟩
  · exact h

theorem feedCompletionTurns {s : State} (h : Coordinated s) (turns : Nat) (now : UInt32) :
    Coordinated (State.feedCompletionTurns turns s now) := by
  induction turns generalizing s with
  | zero => exact h
  | succ turns ih =>
    have updated : Coordinated { s with feedCompletion := (s.feedCompletion.update now).1 } :=
      h.of_sameMotion ⟨rfl, rfl, rfl, rfl⟩
    unfold State.feedCompletionTurns
    dsimp only
    split
    · exact updated
    · exact ih (updated.of_sameMotion ⟨rfl, rfl, rfl, rfl⟩)
    · exact ih (updated.of_sameMotion ⟨rfl, rfl, rfl, rfl⟩)
    · exact { h with }

theorem onFeedComplete {s : State} (h : Coordinated s) (now : UInt32) :
    Coordinated (s.onFeedComplete now) := by
  unfold State.onFeedComplete
  split_ifs
  · exact { h with }
  · exact h
  · refine feedCompletionTurns ?_ 3 now
    dsimp only
    split_ifs
    · exact h.of_sameMotion ⟨rfl, rfl, rfl, rfl⟩
    · exact h.of_sameMotion ⟨rfl, rfl, rfl, rfl⟩
  · exact h.feedCompletionTurns 3 now

theorem unjogged_of_running {s : State} (h : Coordinated s)
    (running : s.machineState.isRunning) : s.sorter.sorterJog.active = false := by
  by_contra jog
  have unknown := (h.jogging (by simpa using jog)).2.2
  rw [(h.running running).2] at unknown
  cases unknown

theorem unhomed_of_running {s : State} (h : Coordinated s) (running : s.machineState.isRunning)
    (still : s.sorter.isSorting = false) : s.sorter.isSortHoming = false := by
  by_contra homing
  have unknown := h.searching (by simpa using homing) still
  rw [(h.running running).2] at unknown
  cases unknown

theorem rest_of_testCycle {s : State} (h : Coordinated s) (running : s.machineState.isRunning)
    (test : s.diagnostics.isTestCycle) (scheduled : s.feeder.feedScheduled = false)
    (cycle : s.feeder.feedCycleInProgress = false) : Rest s := by
  have still : s.sorter.isSorting = false := by
    by_contra sorting
    have feed := h.testSort test (by simpa using sorting)
    simp [scheduled, cycle] at feed
  have quiet (homing : s.feeder.isFeedHoming ∨ s.feeder.isFeedHomingOffset) : False :=
    absurd (cycle.symm.trans (h.testFeed test homing)) nofun
  exact
    { sorting := still
      homing := h.unhomed_of_running running still
      jog := h.unjogged_of_running running
      gate := Bool.eq_false_iff.2 fun gate =>
        absurd (scheduled.symm.trans (h.gated gate).1) nofun
      feeding := Bool.eq_false_iff.2 fun feeding =>
        absurd (cycle.symm.trans (h.feeding feeding).1) nofun
      feedHoming := Bool.eq_false_iff.2 fun homing => quiet (.inl homing)
      feedHomingOffset := Bool.eq_false_iff.2 fun offset => quiet (.inr offset)
      cycle
      sortTest := Bool.eq_false_iff.2 fun sortTest =>
        absurd ((h.sortTest sortTest).1.symm.trans test) nofun }

theorem runTestCycle {s : State} (h : Coordinated s) (running : s.machineState.isRunning)
    (raw : Nat) (t : Ticks) : Coordinated (s.runTestCycle raw t) := by
  dsimp only [State.runTestCycle]
  split_ifs with active more
  · simp only [Bool.and_eq_true, Bool.not_eq_true'] at active
    have rest := h.rest_of_testCycle running active.1.1 active.1.2 active.2
    have queued := h.queueFeed rest (State.randomBelow raw s.configuration.slotCount) t
    exact { queued with }
  · exact
      { h with
        bootJog := fun jogs starts => ⟨rfl, (h.bootJog jogs starts).2⟩
        testFeed := nofun
        testSort := nofun
        sortTest := fun test => ⟨rfl, (h.sortTest test).2⟩ }
  · exact h

theorem sorterStill {s : State} (h : Coordinated s) (running : s.machineState.isRunning)
    (idle : s.sorter.sortInProgress = false) :
    s.sorter.isSorting = false ∧ s.sorter.isSortHoming = false := by
  have still : s.sorter.isSorting = false := Bool.eq_false_iff.2 fun sorting =>
    absurd (idle.symm.trans (h.sorting sorting).1) nofun
  exact ⟨still, h.unhomed_of_running running still⟩

theorem moveSorterToPosition {s : State} (h : Coordinated s) (running : s.machineState.isRunning)
    (test : s.diagnostics.isSortTestCycle) (idle : s.sorter.sortInProgress = false)
    (position : Int) : Coordinated (s.moveSorterToPosition position) := by
  obtain ⟨testCycle, -, cycle⟩ := h.sortTest test
  have gate : s.sorter.slotDropGate.active = false := Bool.eq_false_iff.2 fun gate =>
    absurd ((h.gated gate).2.2.2.2.symm.trans test) nofun
  exact h.beginMove (h.unjogged_of_running running) (h.sorterStill running idle).2 gate
    (fun _ => cycle) (fun tests => absurd (testCycle.symm.trans tests) nofun) _ _

theorem runSortTestCycle {s : State} (h : Coordinated s) (running : s.machineState.isRunning)
    (raw : Nat) (now : UInt32) : Coordinated (s.runSortTestCycle raw now) := by
  dsimp only [State.runSortTestCycle]
  split_ifs with active more pacing elapsed
  · exact { h with }
  · exact h
  · simp only [Bool.and_eq_true, Bool.not_eq_true'] at active
    have moved := h.moveSorterToPosition running active.1 active.2
      (State.randomBelow raw s.configuration.slotCount)
    exact { moved with }
  · simp only [Bool.and_eq_true, Bool.not_eq_true'] at active
    have moved := h.moveSorterToPosition running active.1 active.2 0
    exact
      { moved with
        gated := fun gate => by
          obtain ⟨scheduled, sorting, homing, jog, -⟩ := moved.gated gate
          exact ⟨scheduled, sorting, homing, jog, rfl⟩
        sortTest := nofun }
  · exact h

theorem runAux {s : State} (h : Coordinated s) (raw sortRaw : Nat) (t : Ticks) (now : UInt32) :
    Coordinated (s.runAux raw sortRaw t now) := by
  unfold State.runAux
  split_ifs with skip
  · exact h
  · simp only [Bool.or_eq_true, Bool.not_eq_true', not_or, Bool.not_eq_false] at skip
    refine (h.runTestCycle skip.1 raw t).runSortTestCycle ?_ sortRaw now
    rw [s.runTestCycle_machineState raw t]
    exact skip.1

theorem motorStandByCheck {s : State} (h : Coordinated s) (now : UInt32) :
    Coordinated (s.motorStandByCheck now) := by
  unfold State.motorStandByCheck
  split_ifs
  · exact h
  · exact h
  · exact h.of_sameMotion ⟨rfl, rfl, rfl, rfl⟩
  · exact h

theorem serviceV2PhysicalRequest {s : State} (h : Coordinated s) :
    Coordinated s.serviceV2PhysicalRequest := by
  unfold State.serviceV2PhysicalRequest
  split_ifs
  · exact h
  · dsimp only
    split_ifs
    · exact h.of_sameMotion ⟨rfl, rfl, rfl, rfl⟩
    · exact h.of_sameMotion ⟨rfl, rfl, rfl, rfl⟩

theorem exec {s : State} (h : Coordinated s) (routine : Routine) :
    Coordinated (Firmware.exec s routine) := by
  cases routine with
  | serialByte byte t => exact h.commandEffect (s.serialByte_effect byte t)
  | dispatchPending t => exact h.commandEffect (s.dispatchPending_effect t)
  | getProxState sensor now => exact h.of_sameMotion ⟨rfl, rfl, rfl, rfl⟩
  | updateSlotDropGate now => exact h.updateSlotDropGate now
  | runSortMotor => exact h.runSortMotor
  | onSortComplete now => exact h.onSortComplete now
  | scheduleRun t => exact h.scheduleRun t
  | checkFeedErrors => exact h.checkFeedErrors
  | runFeedMotor => exact h.runFeedMotor
  | homeFeedMotor sensor now => exact h.homeFeedMotor sensor now
  | homeSortMotor sensor now => exact h.homeSortMotor sensor now
  | serviceSorterJog => exact h.serviceSorterJog
  | onFeedComplete now => exact h.onFeedComplete now
  | runAux raw sortRaw t now => exact h.runAux raw sortRaw t now
  | motorStandByCheck now => exact h.motorStandByCheck now
  | serviceV2PhysicalRequest => exact h.serviceV2PhysicalRequest
  | emitV2StateIfChanged => exact h.of_sameMotion s.emitV2StateIfChanged_linkOnly.sameMotion

theorem execAll {s : State} (h : Coordinated s) (routines : List Routine) :
    Coordinated (Firmware.execAll s routines) := by
  induction routines generalizing s with
  | nil => exact h
  | cons routine routines ih => exact ih (h.exec routine)

end Coordinated

end CaseSorter.Firmware
