import CaseSorter.Firmware.FeedSearch
import CaseSorter.Firmware.SortStepsChange

/-! The length of a feed. The overtravel limit is counted from the start of the commanded
travel, so a feed longer than `FEED_OVERSTEP_THRESHOLD` full steps reaches the limit before
its commanded steps are out, however soon the homing sensor would have been found. -/

namespace CaseSorter.Firmware

namespace State

def fedThrough (s : State) : Bool :=
  !s.feeder.feedCycleInProgress && s.feeder.feedCycleComplete && !s.feeder.isFeedError

/-- `homeFeedMotor` finds the sensor active if it reads it. -/
def sensesFeed (s : State) : Routine → Bool
  | .homeFeedMotor sensor _ => !s.feeder.isFeedHoming || sensor
  | _ => true

end State

/-- As long as the feed cycle is in progress, no stop ends it and the homing sensor reads
active whenever it is read. -/
def HealthyCycle : State → List Routine → Prop
  | _, [] => True
  | s, routine :: routines => s.feeder.feedCycleInProgress →
    (exec s routine).machineState.mode ≠ .stopped ∧ s.sensesFeed routine ∧
      HealthyCycle (exec s routine) routines

/-- The cycle that is in progress in `s` ends within the run, completed and without a fault. -/
def Completes (s : State) (routines : List Routine) : Prop :=
  ∃ fed rest, routines = fed ++ rest ∧ CycleGoesOn s fed ∧ (execAll s fed).fedThrough

/-- What the reachable states of a feed cycle meet. -/
structure Cycled (w : Watch) (s : State) : Prop where
  watched : Watched w s
  interlocked : Interlocked s
  latch : FaultLatch s

namespace Cycled

theorem start (now : UInt32) : Cycled .unchecked (Firmware.boot now) :=
  ⟨.start now, .boot now, .boot now⟩

theorem exec {w : Watch} {s : State} {routine : Routine} (h : Cycled w s)
    (admits : w.admits routine) : Cycled (w.after routine) (Firmware.exec s routine) :=
  ⟨h.watched.exec admits, h.interlocked.exec routine, h.latch.exec routine⟩

theorem execAll {w : Watch} {s : State} {routines more : List Routine} (h : Cycled w s)
    (order : w.InOrder (routines ++ more)) :
    ∃ w', Cycled w' (Firmware.execAll s routines) ∧ w'.InOrder more := by
  induction routines generalizing w s with
  | nil => exact ⟨w, h, order⟩
  | cons routine routines ih => exact ih (h.exec order.1) order.2

end Cycled

def State.feedPhase (s : State) : Bool := s.seeksFeed || s.feeder.isFeedHomingOffset

def Routine.drivesFeed : Routine → Bool
  | .checkFeedErrors | .runFeedMotor | .homeFeedMotor _ _ => true
  | _ => false

/-- The feed is where it was. -/
structure SameFeed (s t : State) : Prop where
  count : SameCount s t
  cycle : t.feeder.feedCycleInProgress = s.feeder.feedCycleInProgress

theorem SameFeed.of_eq {s t : State} (same : t = s) : SameFeed s t := by
  subst same
  exact ⟨.refl t, rfl⟩

theorem sparing_cycle (s : State) {routine : Routine} (spares : SameCount.sparing routine) :
    (exec s routine).feeder.feedCycleInProgress = s.feeder.feedCycleInProgress := by
  cases routine with
  | getProxState sensor now => rfl
  | updateSlotDropGate now =>
    dsimp only [exec, State.updateSlotDropGate]
    split_ifs <;> rfl
  | runSortMotor =>
    dsimp only [exec, State.runSortMotor, State.slotZeroPass]
    split_ifs <;> rfl
  | onSortComplete now =>
    dsimp only [exec, State.onSortComplete]
    split_ifs
    · rw [State.reportMotion_machine]
      rfl
    · rfl
  | homeSortMotor sensor now => rw [exec, (HomingWaits.homeSortMotor_waits s sensor now).1]
  | onFeedComplete now => exact (s.onFeedComplete_settled now).cycle
  | motorStandByCheck now =>
    dsimp only [exec, State.motorStandByCheck]
    split_ifs <;> rfl
  | serviceV2PhysicalRequest =>
    dsimp only [exec, State.serviceV2PhysicalRequest]
    split_ifs <;> rfl
  | emitV2StateIfChanged => rw [exec, s.emitV2StateIfChanged_linkOnly.sameMotion.feeder]
  | serialByte | dispatchPending | scheduleRun | checkFeedErrors | runFeedMotor | homeFeedMotor
  | serviceSorterJog | runAux => cases spares

theorem feedPhase_elim {s : State} (phase : s.feedPhase) :
    s.feeder.isFeeding ∨ s.feeder.isFeedHoming ∨ s.feeder.isFeedHomingOffset := by
  simpa only [State.feedPhase, State.seeksFeed, Bool.or_eq_true, or_assoc] using phase

/-- A stop ends the cycle without completing it. -/
structure Abandons (t : State) : Prop where
  mode : t.machineState.mode = .stopped
  ended : t.feeder.feedCycleInProgress = false
  through : t.fedThrough = false

theorem Commanded.sameFeed {s t : State} (h : Commanded s t)
    (cycle : s.feeder.feedCycleInProgress) : SameFeed s t ∨ Abandons t := by
  have busy : s.executionBusy = true := by simp [State.executionBusy, cycle]
  cases h with
  | quiet same => exact .inl ⟨.of_linkOnly same, by rw [same.sameMotion.feeder]⟩
  | stopped stop =>
    rw [stop.machine]
    exact .inr ⟨rfl, rfl, rfl⟩
  | switched idle => cases idle.symm.trans busy
  | acted s₁ result ticks idle => cases idle.symm.trans busy

theorem SameFeed.exec {s : State} (h : Interlocked s) (cycle : s.feeder.feedCycleInProgress)
    (phase : s.feedPhase) {routine : Routine} (other : routine.drivesFeed = false) :
    SameFeed s (Firmware.exec s routine) ∨ Abandons (Firmware.exec s routine) := by
  have co := h.coordinated
  cases routine with
  | serialByte byte t => exact (s.serialByte_commanded byte t).sameFeed cycle
  | dispatchPending t => exact (s.dispatchPending_commanded t).sameFeed cycle
  | scheduleRun t =>
    have unscheduled : s.feeder.feedScheduled = false := by
      rw [Bool.eq_false_iff]
      intro scheduled
      have rest := co.scheduled scheduled
      simp [State.feedPhase, State.seeksFeed, rest] at phase
    exact .inl (.of_eq (by simp [Firmware.exec, State.scheduleRun, unscheduled]))
  | serviceSorterJog =>
    have inactive : s.sorter.sorterJog.active = false := by
      rw [Bool.eq_false_iff]
      intro jogging
      have known := (h.runs.known co cycle).2
      cases known.symm.trans (co.jogging jogging).2.2
    exact .inl (.of_eq (s.serviceSorterJog_inactive inactive co.jogEnded))
  | runAux raw sortRaw t now =>
    exact .inl (.of_eq (State.runAux_cycling co cycle raw sortRaw t now))
  | checkFeedErrors | runFeedMotor | homeFeedMotor => cases other
  | getProxState | updateSlotDropGate | runSortMotor | onSortComplete | homeSortMotor
  | onFeedComplete | motorStandByCheck | serviceV2PhysicalRequest | emitV2StateIfChanged =>
    exact .inl ⟨.exec s rfl, sparing_cycle s rfl⟩

def State.feedNeed (s : State) : Nat :=
  if s.feeder.isFeeding then s.feeder.feedSteps.toNat + s.drive.feedHomingOffset.toNat + 1
  else if s.feeder.isFeedHoming then s.drive.feedHomingOffset.toNat + 1
  else s.feeder.feedHomingOffsetSteps.toNat + 1

/-- A feed under way that the overtravel check cannot end. -/
structure Feeds (w : Watch) (s : State) : Prop where
  cycled : Cycled w s
  cycle : s.feeder.feedCycleInProgress
  phase : s.feedPhase
  counted : s.seeksFeed → 0 ≤ s.feeder.feedSteps
  short : s.drive.feedOverTravelSteps ≤ 0

theorem feedNeed_feeding {s : State} (feeding : s.feeder.isFeeding) :
    s.feedNeed = s.feeder.feedSteps.toNat + s.drive.feedHomingOffset.toNat + 1 := if_pos feeding

theorem feedNeed_pos (s : State) : 0 < s.feedNeed := by
  unfold State.feedNeed
  split_ifs <;> omega

theorem SameFeed.feedNeed {s t : State} (same : SameFeed s t) : t.feedNeed = s.feedNeed := by
  unfold State.feedNeed
  rw [same.count.feeding, same.count.homing, same.count.steps, same.count.offsetSteps,
    same.count.parameters]

theorem ahead_after {w : Watch} {routine : Routine} (other : routine ≠ .runFeedMotor)
    (s : State) : ahead (w.after routine) s = 0 := by
  have after : w.after routine ≠ .moved := by cases routine <;> cases w <;> simp_all [Watch.after]
  simp [ahead, after]

theorem fedThrough_completeFeedHoming {s : State} (cycle : s.feeder.feedCycleInProgress)
    (healthy : s.feeder.isFeedError = false) (now : UInt32) :
    (s.completeFeedHoming now).fedThrough := by
  have ended : (s.feedHomingEnds now).fedThrough := by
    unfold State.feedHomingEnds
    dsimp only
    split_ifs <;> simp [State.fedThrough, State.endFeedCycle, State.clearFeedFault,
      State.setFaultStateTracker, State.updateRecoveryCompletion_feeder, State.stopFeedHoming,
      cycle, healthy]
  dsimp only [State.completeFeedHoming]
  split_ifs
  · exact ended
  · rw [State.reportMotion_machine]
    exact ended

namespace Feeds

theorem healthy {w : Watch} {s : State} (h : Feeds w s) : s.feeder.isFeedError = false := by
  rw [h.cycled.latch.error, Bool.eq_false_iff]
  intro fault
  have rests := h.cycled.latch.blocked fault
  simp [State.cycling, h.cycle] at rests

theorem of_same {w w' : Watch} {s t : State} (h : Feeds w s) (cycled : Cycled w' t)
    (same : SameFeed s t) : Feeds w' t where
  cycled := cycled
  cycle := same.cycle ▸ h.cycle
  phase := by
    rw [State.feedPhase, same.count.seeksFeed, same.count.passing]
    exact h.phase
  counted := by
    rw [same.count.seeksFeed, same.count.steps]
    exact h.counted
  short := by
    rw [same.count.parameters]
    exact h.short

def Advances (w : Watch) (s : State) (routine : Routine) : Prop :=
  (exec s routine).fedThrough ∨ Feeds (w.after routine) (exec s routine) ∧
    (s.passesFeed routine).toNat + ((exec s routine).feedNeed +
      ahead (w.after routine) (exec s routine)) ≤ s.feedNeed + ahead w s

theorem checkFeedErrors {w : Watch} {s : State} (h : Feeds w s)
    (admits : w.admits .checkFeedErrors) :
    Advances w s .checkFeedErrors := by
  have within : ¬s.overtravels := by
    simp only [State.overtravels, Bool.and_eq_true, decide_eq_true_eq]
    rintro ⟨⟨seeks, -⟩, past⟩
    have counted := h.counted seeks
    have short := h.short
    omega
  have same : exec s .checkFeedErrors = s := if_neg within
  refine .inr ⟨h.of_same (h.cycled.exec admits) (.of_eq same), ?_⟩
  have other : Routine.checkFeedErrors ≠ .runFeedMotor := by rintro ⟨⟩
  rw [ahead_after other, same]
  exact Nat.le_trans (Nat.le_of_eq (Nat.zero_add _)) (Nat.le_add_right _ _)

theorem other {w : Watch} {s : State} (h : Feeds w s) {routine : Routine}
    (admits : w.admits routine) (other : routine.drivesFeed = false)
    (on : (exec s routine).machineState.mode ≠ .stopped) : Advances w s routine := by
  have same : SameFeed s (exec s routine) :=
    (SameFeed.exec h.cycled.interlocked h.cycle h.phase other).resolve_right
      fun stop => on stop.mode
  refine .inr ⟨h.of_same (h.cycled.exec admits) same, ?_⟩
  have unpassed : s.passesFeed routine = false := by cases routine <;> first | rfl | cases other
  have unfed : routine ≠ .runFeedMotor := by rintro rfl; cases other
  rw [ahead_after unfed, same.feedNeed, unpassed]
  exact Nat.le_trans (Nat.le_of_eq (Nat.zero_add _)) (Nat.le_add_right _ _)

theorem runFeedMotor {w : Watch} {s : State} (h : Feeds w s) (admits : w.admits .runFeedMotor) :
    Advances w s .runFeedMotor := by
  have cycled := h.cycled.exec admits
  have checked : w = .checked := by simpa [Watch.admits] using admits
  have unmoved : ahead w s = 0 := by simp [ahead, checked]
  subst checked
  change Cycled .moved s.runFeedMotor at cycled
  change _ ∨ Feeds .moved s.runFeedMotor ∧
    0 + (s.runFeedMotor.feedNeed + ahead .moved s.runFeedMotor) ≤ _
  right
  rw [unmoved]
  by_cases moving : s.sorter.sortInProgress
  · have same : s.runFeedMotor = s := by simp [State.runFeedMotor, moving]
    refine ⟨h.of_same cycled (.of_eq same), ?_⟩
    simp [same, ahead, moving]
  by_cases feeding : s.feeder.isFeeding
  · have counted := h.counted (by simp [State.seeksFeed, feeding])
    by_cases more : 0 < s.feeder.feedSteps
    · have step : s.runFeedMotor =
          { s.setAccFeedDelay.stepFeedMotor with feeder.feedSteps := s.feeder.feedSteps - 1 } := by
        simp [State.runFeedMotor, moving, feeding, more]
        rfl
      refine ⟨⟨cycled, ?_, ?_, ?_, ?_⟩, ?_⟩
      · rw [step]
        exact h.cycle
      · rw [step]
        exact h.phase
      · rw [step]
        intro _
        change 0 ≤ s.feeder.feedSteps - 1
        omega
      · rw [step]
        exact h.short
      · have one := ahead_le .moved s.runFeedMotor
        have need : s.runFeedMotor.feedNeed + 1 = s.feedNeed := by
          have on : s.runFeedMotor.feeder.isFeeding := by
            rw [step]
            exact feeding
          have left : s.runFeedMotor.feeder.feedSteps = s.feeder.feedSteps - 1 := by rw [step]
          have offset : s.runFeedMotor.drive.feedHomingOffset = s.drive.feedHomingOffset := by
            rw [step]
            rfl
          rw [feedNeed_feeding on, feedNeed_feeding feeding, left, offset]
          omega
        omega
    · have step : s.runFeedMotor =
          { s with feeder.isFeeding := false, feeder.isFeedHoming := true } := by
        simp [State.runFeedMotor, moving, feeding, more]
      refine ⟨⟨cycled, ?_, ?_, ?_, ?_⟩, ?_⟩
      · rw [step]
        exact h.cycle
      · rw [step]
        rfl
      · rw [step]
        exact fun _ => counted
      · rw [step]
        exact h.short
      · rw [step]
        simp [ahead, State.feedNeed, feeding]
  · have same : s.runFeedMotor = s := by simp [State.runFeedMotor, moving, feeding]
    refine ⟨h.of_same cycled (.of_eq same), ?_⟩
    simp [same, ahead, feeding]

end Feeds

/-- A feed that passes the sensor by the homing offset. -/
structure FeedPassing (s : State) : Prop where
  cycle : s.feeder.feedCycleInProgress
  offset : s.feeder.isFeedHomingOffset
  found : s.seeksFeed = false

theorem feedNeed_passing {s : State} (h : FeedPassing s) :
    s.feedNeed = s.feeder.feedHomingOffsetSteps.toNat + 1 := by
  have found := h.found
  simp only [State.seeksFeed, Bool.or_eq_false_iff] at found
  simp [State.feedNeed, found]

theorem FeedPassing.step {s : State} (h : FeedPassing s) (healthy : s.feeder.isFeedError = false)
    (now : UInt32) : (s.feedHomingOffsetStep now).fedThrough ∨
      FeedPassing (s.feedHomingOffsetStep now) ∧ (s.feedHomingOffsetStep now).drive = s.drive ∧
        (s.feedHomingOffsetStep now).feedNeed + 1 = s.feedNeed := by
  by_cases ends : s.drive.feedHomingOffset = 0 ∨ ¬0 < s.feeder.feedHomingOffsetSteps
  · have step : s.feedHomingOffsetStep now = s.completeFeedHoming now := by
      rcases ends with none | done <;> simp [State.feedHomingOffsetStep, h.offset, *]
    rw [step]
    exact .inl (fedThrough_completeFeedHoming h.cycle healthy now)
  · simp only [not_or, not_not] at ends
    have step : s.feedHomingOffsetStep now = { s.stepFeedMotor with
        feeder.feedHomingOffsetSteps := s.feeder.feedHomingOffsetSteps - 1
        feeder.feedSteps := s.feeder.feedSteps - 1 } := by
      simp [State.feedHomingOffsetStep, h.offset, ends, State.stepFeedMotor,
        State.setMotorDriversEnabled]
    have passing : FeedPassing (s.feedHomingOffsetStep now) := by
      rw [step]
      exact ⟨h.cycle, h.offset, h.found⟩
    have left : (s.feedHomingOffsetStep now).feeder.feedHomingOffsetSteps =
        s.feeder.feedHomingOffsetSteps - 1 := by rw [step]
    refine .inr ⟨passing, by rw [step]; rfl, ?_⟩
    rw [feedNeed_passing passing, feedNeed_passing h, left]
    omega

namespace Feeds

theorem passed {w : Watch} {s u : State} {sensor : Bool} {now : UInt32} (h : Feeds w s)
    (admits : w.admits (.homeFeedMotor sensor now))
    (step : s.homeFeedMotor sensor now = u.feedHomingOffsetStep now) (passing : FeedPassing u)
    (error : u.feeder.isFeedError = s.feeder.isFeedError) (drive : u.drive = s.drive)
    (need : u.feedNeed = s.feedNeed) : Advances w s (.homeFeedMotor sensor now) := by
  have cycled := h.cycled.exec admits
  have one := Bool.toNat_le (s.passesFeed (.homeFeedMotor sensor now))
  have other : Routine.homeFeedMotor sensor now ≠ .runFeedMotor := by rintro ⟨⟩
  have unmoved := @ahead_after w _ other (exec s (.homeFeedMotor sensor now))
  rcases passing.step (error.trans h.healthy) now with through | ⟨passing, same, less⟩
  · left
    rw [exec, step]
    exact through
  · rw [exec, step] at cycled unmoved
    refine .inr ⟨?_, ?_⟩
    · rw [exec, step]
      refine ⟨cycled, passing.cycle, ?_, ?_, ?_⟩
      · simp [State.feedPhase, passing.offset]
      · rw [passing.found]
        rintro ⟨⟩
      · rw [same, drive]
        exact h.short
    · rw [exec, step, unmoved]
      omega

theorem homeFeedMotor {w : Watch} {s : State} (h : Feeds w s) {sensor : Bool} {now : UInt32}
    (admits : w.admits (.homeFeedMotor sensor now))
    (senses : s.sensesFeed (.homeFeedMotor sensor now)) :
    Advances w s (.homeFeedMotor sensor now) := by
  have co := h.cycled.watched.coordinated
  by_cases feeding : s.feeder.isFeeding
  · have exclusive := co.feeding feeding
    have same : exec s (.homeFeedMotor sensor now) = s :=
      State.homeFeedMotor_still exclusive.2.1 exclusive.2.2 sensor now
    have other : Routine.homeFeedMotor sensor now ≠ .runFeedMotor := nofun
    have moved : w = .moved := by simpa [Watch.admits] using admits
    refine .inr ⟨h.of_same (h.cycled.exec admits) (.of_eq same), ?_⟩
    rw [ahead_after other, same]
    cases moving : s.sorter.sortInProgress <;>
      simp [State.passesFeed, ahead, moved, feeding, moving, Nat.add_comm]
  have off : s.feeder.isFeeding = false := by simpa using feeding
  by_cases homing : s.feeder.isFeedHoming
  · have found : sensor = true := by simpa [State.sensesFeed, homing] using senses
    have step : s.homeFeedMotor sensor now =
        { s with feeder.isFeedHoming := false, feeder.isFeedHomingOffset := true
                 feeder.feedHomingOffsetSteps := s.drive.feedHomingOffset }.feedHomingOffsetStep
          now := by
      simp [State.homeFeedMotor, homing, feedHomingEnabled, found]
    refine h.passed admits step ⟨h.cycle, rfl, ?_⟩ rfl rfl ?_
    · simp [State.seeksFeed, off]
    · simp [State.feedNeed, off, homing]
  · have passing : s.feeder.isFeedHomingOffset := by
      simpa [feeding, homing] using feedPhase_elim h.phase
    have step : s.homeFeedMotor sensor now = s.feedHomingOffsetStep now := by
      simp [State.homeFeedMotor, homing]
    refine h.passed admits step ⟨h.cycle, passing, ?_⟩ rfl rfl rfl
    simp [State.seeksFeed, feeding, homing]

theorem exec {w : Watch} {s : State} (h : Feeds w s) {routine : Routine} (admits : w.admits routine)
    (on : (Firmware.exec s routine).machineState.mode ≠ .stopped)
    (senses : s.sensesFeed routine) :
    Advances w s routine := by
  cases routine with
  | checkFeedErrors => exact h.checkFeedErrors admits
  | runFeedMotor => exact h.runFeedMotor admits
  | homeFeedMotor sensor now => exact h.homeFeedMotor admits senses
  | _ => exact h.other admits rfl on

theorem completes {w : Watch} {s : State} {routines : List Routine} (h : Feeds w s)
    (order : w.InOrder routines) (healthy : HealthyCycle s routines)
    (enough : s.feedNeed + ahead w s ≤ feedPasses s routines) : Completes s routines := by
  induction routines generalizing w s with
  | nil =>
    have need := feedNeed_pos s
    simp only [feedPasses] at enough
    omega
  | cons routine routines ih =>
    obtain ⟨on, senses, rest⟩ := healthy h.cycle
    rcases h.exec order.1 on senses with through | ⟨feeds, less⟩
    · exact ⟨[routine], routines, rfl, ⟨h.cycle, fun _ _ => trivial⟩, through⟩
    · rw [feedPasses] at enough
      obtain ⟨fed, more, parts, goesOn, through⟩ := ih feeds order.2 rest (by omega)
      refine ⟨routine :: fed, more, by rw [parts]; rfl, ⟨h.cycle, ?_⟩, through⟩
      rintro _ ⟨⟩
      exact goesOn

end Feeds

theorem exec_feeding {w : Watch} {s : State} (h : Cycled w s) (feeding : s.feeder.isFeeding)
    (limit : feedMicrosteps ≤ s.drive.feedOverTravelSteps) (routine : Routine) :
    (exec s routine).feeder.isFeeding ∧
        (exec s routine).drive.feedOverTravelSteps = s.drive.feedOverTravelSteps ∨
      (exec s routine).feeder.feedCycleInProgress = false ∧
      (exec s routine).fedThrough = false := by
  have co := h.watched.coordinated
  have exclusive := co.feeding feeding
  cases kind : routine.drivesFeed
  · have phase : s.feedPhase := by simp [State.feedPhase, State.seeksFeed, feeding]
    rcases SameFeed.exec h.interlocked exclusive.1 phase kind with same | stop
    · exact .inl ⟨same.count.feeding.trans feeding, by rw [same.count.parameters]⟩
    · exact .inr ⟨stop.ended, stop.through⟩
  cases routine with
  | checkFeedErrors =>
    by_cases past : s.overtravels
    · have fires : exec s .checkFeedErrors = s.feedOvertravel.reportFeedOvertravel := if_pos past
      right
      rw [fires, State.reportFeedOvertravel_machine]
      dsimp only [State.feedOvertravel]
      split_ifs <;> exact ⟨rfl, rfl⟩
    · have same : exec s .checkFeedErrors = s := if_neg past
      rw [same]
      exact .inl ⟨feeding, rfl⟩
  | runFeedMotor =>
    have searching := (h.watched.counted.searching (.inl feeding)).1
    have one : (1 : Int) < feedMicrosteps := by decide
    have more : 0 < s.feeder.feedSteps := by omega
    dsimp only [exec, State.runFeedMotor]
    rw [if_pos (show (s.feeder.isFeeding && 0 < s.feeder.feedSteps) = true by simp [feeding, more])]
    split_ifs <;> exact .inl ⟨feeding, rfl⟩
  | homeFeedMotor sensor now =>
    have same := State.homeFeedMotor_still exclusive.2.1 exclusive.2.2 sensor now
    rw [exec, same]
    exact .inl ⟨feeding, rfl⟩
  | _ => cases kind

theorem not_completes {w : Watch} {s : State} {routines : List Routine} (h : Cycled w s)
    (order : w.InOrder routines) (feeding : s.feeder.isFeeding)
    (limit : feedMicrosteps ≤ s.drive.feedOverTravelSteps) : ¬Completes s routines := by
  rintro ⟨fed, rest, rfl, goesOn, through⟩
  induction fed generalizing w s with
  | nil =>
    have cycle := (h.watched.coordinated.feeding feeding).1
    simp [execAll, State.fedThrough, cycle] at through
  | cons routine fed ih =>
    have step := h.exec order.1
    rcases exec_feeding h feeding limit routine with ⟨on, same⟩ | ⟨ended, missed⟩
    · exact ih step on (same.symm ▸ limit) order.2 (goesOn.2 _ rfl) through
    · have last : fed = [] := by
        cases fed with
        | nil => rfl
        | cons next fed => cases ended.symm.trans (goesOn.2 _ rfl).1
      subst last
      cases missed.symm.trans through

theorem unsought_of_begins {s : State} (co : Coordinated s) {routine : Routine}
    (idle : s.feeder.isFeeding = false) (begun : (exec s routine).feeder.isFeeding) :
    s.seeksFeed = false := by
  rw [Bool.eq_false_iff]
  intro seeks
  have homing : s.feeder.isFeedHoming := by simpa [State.seeksFeed, idle] using seeks
  have busy := busy_of_seeks seeks
  have commanded {t : State} (h : Commanded s t) : t.feeder.isFeeding = false := by
    cases h with
    | quiet same => rw [same.sameMotion.feeder, idle]
    | stopped stop => rw [stop.machine]; rfl
    | switched ready => cases ready.symm.trans busy
    | acted s₁ result ticks ready => cases ready.symm.trans busy
  refine absurd begun ?_
  rw [Bool.not_eq_true]
  cases routine with
  | serialByte byte t => exact commanded (s.serialByte_commanded byte t)
  | dispatchPending t => exact commanded (s.dispatchPending_commanded t)
  | scheduleRun t =>
    rw [exec, State.scheduleRun_unscheduled (unscheduled_of_seeks co seeks)]
    exact idle
  | checkFeedErrors =>
    dsimp only [exec, State.checkFeedErrors]
    split_ifs
    · rw [State.reportFeedOvertravel_machine]
      dsimp only [State.feedOvertravel]
      split_ifs <;> rfl
    · exact idle
  | runFeedMotor =>
    rw [exec, State.runFeedMotor_still idle]
    exact idle
  | homeFeedMotor sensor now =>
    have ended (u : State) (off : u.feeder.isFeeding = false) :
        (u.completeFeedHoming now).feeder.isFeeding = false := by
      have still := completeFeedHoming_idle off now
      simp only [State.seeksFeed, Bool.or_eq_false_iff] at still
      exact still.1
    dsimp only [exec, State.homeFeedMotor, State.feedHomingOffsetStep]
    split_ifs <;> first | exact idle | exact ended _ idle
  | serviceSorterJog =>
    obtain ⟨starts, feeder, -⟩ := serviceSorterJog_feeder co
    rw [exec, feeder]
    exact idle
  | runAux raw sortRaw t now =>
    by_cases cycle : s.feeder.feedCycleInProgress
    · rw [exec, State.runAux_cycling co cycle]
      exact idle
    · have test : ¬s.diagnostics.isTestCycle := fun on => cycle (co.testFeed on (.inl homing))
      have tested : s.runTestCycle raw t = s := by simp [State.runTestCycle, test]
      dsimp only [exec, State.runAux, State.runSortTestCycle]
      rw [tested]
      split_ifs <;> exact idle
  | getProxState | updateSlotDropGate | runSortMotor | onSortComplete | homeSortMotor
  | onFeedComplete | motorStandByCheck | serviceV2PhysicalRequest | emitV2StateIfChanged =>
    exact (SameCount.exec s rfl).feeding.trans idle

/-- A feed cycle that finds the homing sensor active as soon as it reads it, and is given the
passes that its steps and the homing offset take, completes if and only if its length is
within `FEED_OVERSTEP_THRESHOLD`. -/
theorem feedLength_completes_iff (now : UInt32) (inputs : List LoopInput) (calls : Nat)
    (before cycle : List Routine) (begins : Routine)
    (run : sketchRun inputs calls = before ++ begins :: cycle)
    (idle : (execAll (boot now) before).feeder.isFeeding = false)
    (begun : (exec (execAll (boot now) before) begins).feeder.isFeeding)
    (healthy : HealthyCycle (exec (execAll (boot now) before) begins) cycle)
    (enough : let s := exec (execAll (boot now) before) begins
      (s.configuration.feedSteps + s.configuration.feedHomingOffset) * feedMicrosteps + 1 ≤
        feedPasses s cycle) :
    let s := exec (execAll (boot now) before) begins
    Completes s cycle ↔ s.configuration.feedSteps ≤ feedOverstepThreshold := by
  intro s
  have order : Watch.unchecked.InOrder (before ++ begins :: cycle) :=
    run ▸ Watch.InOrder.sketchRun inputs calls
  obtain ⟨w, reached, after⟩ := (Cycled.start now).execAll order
  have start : Cycled (w.after begins) s := reached.exec after.1
  have co := reached.watched.coordinated
  have unsought := unsought_of_begins co idle begun
  have seeks : s.seeksFeed := by
    have on : s.feeder.isFeeding := begun
    simp [State.seeksFeed, on]
  have full : s.feeder.feedSteps = s.drive.feedMicroSteps :=
    Full.exec co reached.watched.boot unsought begins seeks
  have unmoved : ahead (w.after begins) s = 0 := by
    refine ahead_after ?_ s
    rintro rfl
    rw [exec, State.runFeedMotor_still idle] at begun
    cases idle.symm.trans begun
  have derived := start.watched.sized.derived
  have sized := start.watched.sized.configuration
  have micro : feedMicrosteps = 16 := rfl
  have threshold : feedOverstepThreshold = 90 := rfl
  have limit : s.drive.feedOverTravelSteps = s.configuration.feedSteps * 16 - 90 * 16 :=
    derived.feedOverTravelSteps
  constructor
  · intro completes
    by_contra long
    refine not_completes start after.2 begun ?_ completes
    omega
  · intro short
    have counted := start.watched.counted.feeding begun
    have need : s.feedNeed = s.feeder.feedSteps.toNat + s.drive.feedHomingOffset.toNat + 1 :=
      feedNeed_feeding begun
    have steps : s.drive.feedMicroSteps = s.configuration.feedSteps * 16 := derived.feedMicroSteps
    have offset : s.drive.feedHomingOffset = s.configuration.feedHomingOffset * 16 :=
      derived.feedHomingOffset
    have given : (s.configuration.feedSteps + s.configuration.feedHomingOffset) * 16 + 1 ≤
        feedPasses s cycle := enough
    refine Feeds.completes ⟨start, (start.watched.coordinated.feeding begun).1, ?_, ?_, ?_⟩
      after.2
      healthy ?_
    · simp [State.feedPhase, seeks]
    · exact fun _ => counted.1
    · omega
    · have feedRange := sized.feedSteps
      have offsetRange := sized.feedHomingOffset
      rw [unmoved, need, full]
      omega

instance : ∀ (s : State) (routines : List Routine), Decidable (HealthyCycle s routines)
  | _, [] => .isTrue trivial
  | s, routine :: routines =>
    let _ := instDecidableHealthyCycle (exec s routine) routines
    inferInstanceAs (Decidable (_ → _ ∧ _ ∧ _))

def sensing : LoopInput := iteration "" true true

/-- What a homed machine is asked: to home the feeder, then to feed `steps` steps. -/
def feedAfter (steps : String) : List LoopInput :=
  [iteration "@2 protocol:1\nhomefeeder\n" true false,
    iteration ("feedsteps:" ++ steps ++ "\nxf:0\n") false true]

def feedOneInputs : List LoopInput := sorterHoming ++ (feedAfter "1" ++ List.replicate 18 sensing)

def feedOne : List Routine := (feedAfter "1" ++ List.replicate 18 sensing).flatMap loopRoutines

theorem feedLength_completes_one :
    let s := exec (execAll (boot 0) (sorterHoming.flatMap loopRoutines ++ feedOne.take 57)) newline
    Completes s (feedOne.drop 58) := by
  intro s
  have reached : execAll (boot 0) (sorterHoming.flatMap loopRoutines ++ feedOne.take 57) =
      execAll sorterHomed (feedOne.take 57) := by
    rw [← iterate_sorterHoming, ← execAll_flatMap]
    exact List.foldl_append
  have parts : sketchRun feedOneInputs (callCount feedOneInputs) =
      (sorterHoming.flatMap loopRoutines ++ feedOne.take 57) ++ newline :: feedOne.drop 58 := by
    have split : feedOne = feedOne.take 57 ++ newline :: feedOne.drop 58 := by decide +kernel
    rw [sketchRun_callCount, feedOneInputs, List.flatMap_append, List.append_assoc, ← split]
    rfl
  have completes := feedLength_completes_iff 0 feedOneInputs (callCount feedOneInputs) _ _ _ parts
  rw [reached] at completes
  obtain ⟨idle, begun, healthy, enough, short⟩ :
      (execAll sorterHomed (feedOne.take 57)).feeder.isFeeding = false ∧
      (exec (execAll sorterHomed (feedOne.take 57)) newline).feeder.isFeeding ∧
      HealthyCycle (exec (execAll sorterHomed (feedOne.take 57)) newline) (feedOne.drop 58) ∧
      ((exec (execAll sorterHomed (feedOne.take 57)) newline).configuration.feedSteps +
          (exec (execAll sorterHomed (feedOne.take 57)) newline).configuration.feedHomingOffset) *
            feedMicrosteps + 1 ≤
        feedPasses (exec (execAll sorterHomed (feedOne.take 57)) newline) (feedOne.drop 58) ∧
      (exec (execAll sorterHomed (feedOne.take 57)) newline).configuration.feedSteps ≤
        feedOverstepThreshold := by
    decide +kernel
  simp only [s, reached]
  exact (completes idle begun healthy enough).mpr short

/-- A feed of 91 steps is accepted and begun, and never completes however long the sensor reads
active. -/
theorem feedLength_faults :
    let s := execAll (boot 0) ((sorterHoming ++ feedAfter "91").flatMap loopRoutines)
    s.configuration.feedSteps = 91 ∧ s.feeder.isFeeding ∧
      ∀ loops, ¬Completes s ((List.replicate loops sensing).flatMap loopRoutines) := by
  intro s
  have reached : s = iterate sorterHomed (feedAfter "91") := by
    rw [← iterate_sorterHoming, ← iterate_append, ← execAll_flatMap]
  obtain ⟨steps, feeding, limit⟩ :
      (iterate sorterHomed (feedAfter "91")).configuration.feedSteps = 91 ∧
      (iterate sorterHomed (feedAfter "91")).feeder.isFeeding ∧
      feedMicrosteps ≤ (iterate sorterHomed (feedAfter "91")).drive.feedOverTravelSteps := by
    decide +kernel
  rw [← reached] at steps feeding limit
  refine ⟨steps, feeding, fun loops => ?_⟩
  have order : Watch.unchecked.InOrder
      ((sorterHoming ++ feedAfter "91").flatMap loopRoutines ++
        (List.replicate loops sensing).flatMap loopRoutines) := by
    rw [← List.flatMap_append, ← sketchRun_callCount]
    exact .sketchRun _ _
  obtain ⟨w, cycled, rest⟩ := (Cycled.start 0).execAll order
  exact not_completes cycled rest feeding limit

end CaseSorter.Firmware
