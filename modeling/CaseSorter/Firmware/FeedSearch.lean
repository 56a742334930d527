import CaseSorter.Firmware.FeedCounter
import CaseSorter.Firmware.Interlock

/-! The search for the feed homing sensor. From the first call of a feed or of a feeder
homing on the counter takes one for every pulse, whichever routine gives it, so the limit of
the overtravel check is a limit on the pulses of the search. -/

namespace CaseSorter.Firmware

namespace State

def seeksFeed (s : State) : Bool := s.feeder.isFeeding || s.feeder.isFeedHoming

/-- `homeFeedMotor` reads the sensor only while it searches for it. -/
def findsFeed (s : State) : Routine → Bool
  | .homeFeedMotor sensor _ => s.feeder.isFeedHoming && sensor
  | _ => false

end State

/-- Every step of the run is one of the search, and none finds the sensor active. -/
def FeedSearch (s : State) (routines : List Routine) : Prop :=
  Runs.Meets sketchStep (fun u routine => u.seeksFeed ∧ u.findsFeed routine = false) s routines

instance (s : State) (routines : List Routine) : Decidable (FeedSearch s routines) := by
  unfold FeedSearch
  infer_instance

/-- The call is one of `homeFeedMotor` while no sorter move holds the feeder up. -/
def State.passesFeed (s : State) : Routine → Bool
  | .homeFeedMotor _ _ => !s.sorter.sortInProgress
  | _ => false

def feedPasses : State → List Routine → Nat
  | _, [] => 0
  | s, routine :: routines =>
    (s.passesFeed routine).toNat + feedPasses (exec s routine) routines

/-- `t` follows `s` by an overtravel. -/
structure FeedFaulted (s t : State) : Prop where
  feeder : t.machineState.feeder.positionKnown = false
  sorter : s.sorterMoving → t.machineState.sorter.positionKnown = false
  latched : t.link.faultStateTracker.feedOvertravelLatched
  drivers : t.motorDriversEnabled = false
  still : t.executionBusy = false

/-- The search goes on, and every pulse is counted. -/
structure Seeks (s t : State) : Prop where
  seeks : t.seeksFeed
  micro : t.drive.feedMicroSteps = s.drive.feedMicroSteps
  count : (pulses .feeder t : Int) + t.feeder.feedSteps = pulses .feeder s + s.feeder.feedSteps

inductive SearchStep (s : State) (routine : Routine) (t : State) : Prop
  | goesOn (on : Seeks s t)
  | stopped (ended : t.seeksFeed = false) (mode : t.machineState.mode = .stopped)
      (still : pulses .feeder t = pulses .feeder s) (other : routine.pulsesFeeder = false)
  | faulted (ended : t.seeksFeed = false) (check : routine = .checkFeedErrors)
      (past : s.overtravels) (fault : FeedFaulted s t)
      (still : pulses .feeder t = pulses .feeder s)

theorem Seeks.of_sameCount {s t : State} (seeks : s.seeksFeed) (same : SameCount s t)
    (still : pulses .feeder t = pulses .feeder s) : Seeks s t where
  seeks := by
    rw [State.seeksFeed, same.feeding, same.homing]
    exact seeks
  micro := by rw [same.parameters]
  count := by rw [still, same.steps]

theorem seeksFeed_elim {s : State} (seeks : s.seeksFeed) :
    s.feeder.isFeeding ∨ s.feeder.isFeedHoming := by
  simpa only [State.seeksFeed, Bool.or_eq_true] using seeks

theorem busy_of_seeks {s : State} (seeks : s.seeksFeed) : s.executionBusy = true := by
  rcases seeksFeed_elim seeks with feeding | homing
  · simp [State.executionBusy, feeding]
  · simp [State.executionBusy, homing]

theorem unscheduled_of_seeks {s : State} (co : Coordinated s) (seeks : s.seeksFeed) :
    s.feeder.feedScheduled = false := by
  rw [Bool.eq_false_iff]
  intro scheduled
  have rest := co.scheduled scheduled
  simp [State.seeksFeed, rest.1, rest.2.1] at seeks

theorem Commanded.search {s t : State} (seeks : s.seeksFeed) (h : Commanded s t)
    {routine : Routine} (other : routine.pulsesFeeder = false) : SearchStep s routine t := by
  have busy := busy_of_seeks seeks
  have still : pulses .feeder t = pulses .feeder s := by rw [pulses, h.motion, pulses]
  cases h with
  | quiet same => exact .goesOn (.of_sameCount seeks (.of_linkOnly same) still)
  | stopped stop =>
    refine .stopped ?_ ?_ still other <;> rw [stop.machine] <;> rfl
  | switched idle => cases idle.symm.trans busy
  | acted s₁ result ticks idle => cases idle.symm.trans busy

theorem feedFaulted_of_overtravels {s : State} (co : Coordinated s) (past : s.overtravels) :
    FeedFaulted s (exec s .checkFeedErrors) ∧ (exec s .checkFeedErrors).seeksFeed = false := by
  have fires : exec s .checkFeedErrors = s.feedOvertravel.reportFeedOvertravel := if_pos past
  have fault := (FaultLatch.feedOvertravel s).2
  have seeks : s.seeksFeed := by
    simp only [State.overtravels, Bool.and_eq_true] at past
    exact past.1.1
  have gate : s.sorter.slotDropGate.active = false := by
    rw [Bool.eq_false_iff]
    intro gated
    exact absurd ((co.gated gated).1.symm.trans (unscheduled_of_seeks co seeks)) nofun
  rw [fires]
  refine ⟨⟨?_, fun moving => ?_, fault, ?_, ?_⟩, ?_⟩ <;>
    rw [State.reportFeedOvertravel_machine] <;>
    dsimp only [State.feedOvertravel]
  · split_ifs <;> rfl
  · rw [if_pos moving]
    rfl
  · split_ifs <;> rfl
  · split_ifs <;>
      simp [State.executionBusy, State.cancelFeedCompletion, State.cancelDiagnosticCycles,
        State.cancelSorterJog, State.setMotorDriversEnabled, FeedCompletion.cancel,
        FeedCompletion.isActive, StepSequence.cancel, gate]
  · split_ifs <;> rfl

theorem SearchStep.checkFeedErrors {s : State} (co : Coordinated s) (seeks : s.seeksFeed) :
    SearchStep s .checkFeedErrors (exec s .checkFeedErrors) := by
  have still := @pulses_feeder_exec s .checkFeedErrors rfl
  by_cases past : s.overtravels
  · obtain ⟨fault, ended⟩ := feedFaulted_of_overtravels co past
    exact .faulted ended rfl past fault still
  · have same : exec s .checkFeedErrors = s := if_neg past
    rw [same]
    exact .goesOn ⟨seeks, rfl, rfl⟩

theorem pulses_stepFeedMotor (s : State) :
    pulses .feeder s.stepFeedMotor = pulses .feeder s + 1 := by
  simp [pulses, State.stepFeedMotor, State.setMotorDriversEnabled, Motion.steps]

theorem SearchStep.runFeedMotor {s : State} (seeks : s.seeksFeed) :
    SearchStep s .runFeedMotor s.runFeedMotor := by
  refine .goesOn ?_
  dsimp only [State.runFeedMotor]
  split_ifs with moving feeding ends
  · exact ⟨seeks, rfl, rfl⟩
  · refine ⟨seeks, rfl, ?_⟩
    have pulse : pulses .feeder s.setAccFeedDelay.stepFeedMotor = pulses .feeder s + 1 := by
      simp [pulses, State.stepFeedMotor, State.setAccFeedDelay, State.setMotorDriversEnabled,
        Motion.steps]
    change (pulses .feeder s.setAccFeedDelay.stepFeedMotor : Int) + (s.feeder.feedSteps - 1) = _
    omega
  · exact ⟨rfl, rfl, rfl⟩
  · exact ⟨seeks, rfl, rfl⟩

theorem SearchStep.homeFeedMotor {s : State} (co : Coordinated s) (seeks : s.seeksFeed)
    {sensor : Bool} {now : UInt32} (silent : s.findsFeed (.homeFeedMotor sensor now) = false) :
    SearchStep s (.homeFeedMotor sensor now) (s.homeFeedMotor sensor now) := by
  refine .goesOn ?_
  by_cases homing : s.feeder.isFeedHoming
  · have off : sensor = false := by simpa [State.findsFeed, homing] using silent
    have step : s.homeFeedMotor sensor now =
        { s.stepFeedMotor with feeder.feedSteps := s.feeder.feedSteps - 1 } := by
      simp [State.homeFeedMotor, homing, feedHomingEnabled, off, State.stepFeedMotor,
        State.setMotorDriversEnabled]
    have pulse := pulses_stepFeedMotor s
    rw [step]
    refine ⟨seeks, rfl, ?_⟩
    change (pulses .feeder s.stepFeedMotor : Int) + (s.feeder.feedSteps - 1) = _
    omega
  · have feeding := (seeksFeed_elim seeks).resolve_right homing
    have exclusive := co.feeding feeding
    rw [State.homeFeedMotor_still exclusive.2.1 exclusive.2.2]
    exact ⟨seeks, rfl, rfl⟩

theorem SearchStep.scheduleRun {s : State} (co : Coordinated s) (seeks : s.seeksFeed)
    (t : Ticks) : SearchStep s (.scheduleRun t) (s.scheduleRun t) := by
  have same : s.scheduleRun t = s := by
    simp [State.scheduleRun, unscheduled_of_seeks co seeks]
  rw [same]
  exact .goesOn ⟨seeks, rfl, rfl⟩

theorem serviceSorterJog_feeder {s : State} (co : Coordinated s) : ∃ starts,
    s.serviceSorterJog.feeder =
      { s.feeder with isFeedHoming := s.feeder.isFeedHoming || starts } ∧
    (starts → s.sorter.sorterJog.active ∧ s.sorter.sorterJogStartsFeedHoming) := by
  have unchanged : s.feeder = { s.feeder with isFeedHoming := s.feeder.isFeedHoming || false } := by
    rw [Bool.or_false]
  by_cases active : s.sorter.sorterJog.active
  · dsimp only [State.serviceSorterJog, State.sorterJogEnds]
    split_ifs <;> first
      | exact ⟨false, unchanged, nofun⟩
      | exact ⟨s.sorter.sorterJogStartsFeedHoming, rfl, fun starts => ⟨active, starts⟩⟩
  · rw [s.serviceSorterJog_inactive (by simpa using active) co.jogEnded]
    exact ⟨false, unchanged, nofun⟩

theorem SearchStep.serviceSorterJog {s : State} (co : Coordinated s) (seeks : s.seeksFeed) :
    SearchStep s .serviceSorterJog s.serviceSorterJog := by
  have still : pulses .feeder s.serviceSorterJog = pulses .feeder s :=
    @pulses_feeder_exec s .serviceSorterJog rfl
  obtain ⟨starts, feeder, -⟩ := serviceSorterJog_feeder co
  refine .goesOn ⟨?_, ?_, ?_⟩
  · rcases seeksFeed_elim seeks with on | on <;> simp [State.seeksFeed, feeder, on]
  · dsimp only [State.serviceSorterJog, State.sorterJogEnds]
    split_ifs <;> rfl
  · rw [still, feeder]

theorem SearchStep.runAux {s : State} (co : Coordinated s) (seeks : s.seeksFeed)
    (raw sortRaw : Nat) (t : Ticks) (now : UInt32) :
    SearchStep s (.runAux raw sortRaw t now) (s.runAux raw sortRaw t now) := by
  have still := @pulses_feeder_exec s (.runAux raw sortRaw t now) rfl
  refine .goesOn ?_
  by_cases cycle : s.feeder.feedCycleInProgress
  · rw [State.runAux_cycling co cycle]
    exact ⟨seeks, rfl, rfl⟩
  · have homing : s.feeder.isFeedHoming := by
      refine (seeksFeed_elim seeks).resolve_left fun feeding => ?_
      exact cycle (co.feeding feeding).1
    have test : ¬s.diagnostics.isTestCycle := fun on => cycle (co.testFeed on (.inl homing))
    refine .of_sameCount seeks ?_ still
    have tested : s.runTestCycle raw t = s := by simp [State.runTestCycle, test]
    dsimp only [State.runAux, State.runSortTestCycle]
    rw [tested]
    split_ifs <;> exact .of_feeder rfl rfl rfl rfl

theorem SearchStep.exec {s : State} (co : Coordinated s) (seeks : s.seeksFeed) {routine : Routine}
    (silent : s.findsFeed routine = false) : SearchStep s routine (Firmware.exec s routine) := by
  cases routine with
  | serialByte byte t => exact (s.serialByte_commanded byte t).search seeks rfl
  | dispatchPending t => exact (s.dispatchPending_commanded t).search seeks rfl
  | scheduleRun t => exact .scheduleRun co seeks t
  | checkFeedErrors => exact .checkFeedErrors co seeks
  | runFeedMotor => exact .runFeedMotor seeks
  | homeFeedMotor sensor now => exact .homeFeedMotor co seeks silent
  | serviceSorterJog => exact .serviceSorterJog co seeks
  | runAux raw sortRaw t now => exact .runAux co seeks raw sortRaw t now
  | getProxState | updateSlotDropGate | runSortMotor | onSortComplete | homeSortMotor
  | onFeedComplete | motorStandByCheck | serviceV2PhysicalRequest | emitV2StateIfChanged =>
    exact .goesOn (.of_sameCount seeks (.exec s rfl) (pulses_feeder_exec s rfl))

def BootCounted (s : State) : Prop :=
  s.sorter.sorterJog.active → s.sorter.sorterJogStartsFeedHoming →
    s.feeder.feedSteps = s.drive.feedMicroSteps

def Full (s : State) : Prop := s.seeksFeed → s.feeder.feedSteps = s.drive.feedMicroSteps

theorem Full.of_idle {s : State} (idle : s.seeksFeed = false) : Full s := by
  intro seeks
  rw [idle] at seeks
  cases seeks

theorem SameCount.seeksFeed {s t : State} (same : SameCount s t) : t.seeksFeed = s.seeksFeed := by
  rw [State.seeksFeed, same.feeding, same.homing, State.seeksFeed]

theorem Full.of_sameCount {s t : State} (h : Full s) (same : SameCount s t) : Full t := by
  intro seeks
  rw [same.seeksFeed] at seeks
  rw [same.steps, same.parameters]
  exact h seeks

theorem Full.scheduleRun {s : State} (idle : s.seeksFeed = false) (t : Ticks) :
    Full (s.scheduleRun t) := by
  dsimp only [State.scheduleRun]
  split_ifs
  · exact .of_idle idle
  · exact fun _ => rfl
  · exact .of_idle idle
  · exact .of_idle idle
  · exact .of_idle idle

theorem Full.queueFeed {s : State} (homing : s.feeder.isFeedHoming = false) (position : Int)
    (t : Ticks) : Full (s.queueFeed position t) := by
  refine .scheduleRun ?_ t
  dsimp only [State.scheduleFeed, State.moveSorterToNextPosition]
  split_ifs <;> exact homing

theorem Full.applyV1Action {s : State} (idle : s.executionBusy = false)
    (result : V1DispatchResult) (t : Ticks) : Full (s.applyV1Action result t) := by
  have rest := Coordinated.rest_of_idle idle
  have still : s.seeksFeed = false := by simp [State.seeksFeed, rest.feeding, rest.feedHoming]
  unfold State.applyV1Action
  cases result.action
  case stop => exact .of_idle rfl
  case homeFeeder => exact fun _ => rfl
  case queueFeed => exact .queueFeed (s := s.setForceFeed false) rest.feedHoming _ t
  case queueForcedFeed => exact .queueFeed (s := s.setForceFeed true) rest.feedHoming _ t
  all_goals exact .of_idle still

theorem Full.commanded {s t : State} (idle : s.seeksFeed = false) (step : Commanded s t) :
    Full t := by
  have still : Full s := .of_idle idle
  cases step with
  | quiet same => exact still.of_sameCount (.of_linkOnly same)
  | stopped stop =>
    refine .of_idle ?_
    rw [stop.machine]
    rfl
  | switched idle machine =>
    rw [machine]
    exact still
  | acted s₁ result ticks idle asked prepared permitted done =>
    have ready : s₁.executionBusy = false := by
      rw [prepared.machine]
      exact idle
    exact (Full.applyV1Action ready result ticks).of_sameCount (.of_linkOnly done)

theorem completeFeedHoming_idle {s : State} (feeding : s.feeder.isFeeding = false) (now : UInt32) :
    (s.completeFeedHoming now).seeksFeed = false := by
  have ended : (s.feedHomingEnds now).feeder.isFeeding = false ∧
      (s.feedHomingEnds now).feeder.isFeedHoming = false := by
    unfold State.feedHomingEnds
    dsimp only
    split_ifs <;> dsimp only [State.endFeedCycle, State.clearFeedFault, State.setFaultStateTracker]
      <;> rw [State.updateRecoveryCompletion_feeder] <;> exact ⟨feeding, rfl⟩
  dsimp only [State.completeFeedHoming]
  split_ifs
  · simp [State.seeksFeed, State.homeSorter, State.jogSorter, State.setMotorDriversEnabled,
      State.setTracker, ended]
  · rw [State.reportMotion_machine]
    simp [State.seeksFeed, ended]

theorem Full.homeFeedMotor {s : State} (idle : s.seeksFeed = false) (sensor : Bool)
    (now : UInt32) : Full (s.homeFeedMotor sensor now) := by
  have rest : s.feeder.isFeeding = false ∧ s.feeder.isFeedHoming = false := by
    simpa [State.seeksFeed] using idle
  refine .of_idle ?_
  have ended := completeFeedHoming_idle rest.1 now
  unfold State.homeFeedMotor State.feedHomingOffsetStep
  rw [if_neg (by simp [rest.2])]
  split_ifs
  · exact idle
  · exact ended
  · exact idle
  · exact ended

theorem Full.serviceSorterJog {s : State} (co : Coordinated s) (idle : s.seeksFeed = false)
    (boot : BootCounted s) : Full s.serviceSorterJog := by
  obtain ⟨starts, feeder, jogged⟩ := serviceSorterJog_feeder co
  have rest : s.feeder.isFeeding = false ∧ s.feeder.isFeedHoming = false := by
    simpa [State.seeksFeed] using idle
  have micro : s.serviceSorterJog.drive.feedMicroSteps = s.drive.feedMicroSteps := by
    dsimp only [State.serviceSorterJog, State.sorterJogEnds]
    split_ifs <;> rfl
  intro seeks
  have started : starts := by simpa [State.seeksFeed, feeder, rest] using seeks
  rw [micro, feeder]
  exact boot (jogged started).1 (jogged started).2

theorem Full.runAux {s : State} (idle : s.seeksFeed = false)
    (raw sortRaw : Nat) (t : Ticks) (now : UInt32) : Full (s.runAux raw sortRaw t now) := by
  have rest : s.feeder.isFeeding = false ∧ s.feeder.isFeedHoming = false := by
    simpa [State.seeksFeed] using idle
  have tested : Full (s.runTestCycle raw t) := by
    dsimp only [State.runTestCycle]
    split_ifs
    · exact (Full.queueFeed rest.2 _ t).of_sameCount (.of_feeder rfl rfl rfl rfl)
    · exact .of_idle idle
    · exact .of_idle idle
  unfold State.runAux
  split_ifs
  · exact .of_idle idle
  · refine tested.of_sameCount ?_
    dsimp only [State.runSortTestCycle]
    split_ifs <;> exact .of_feeder rfl rfl rfl rfl

theorem Full.exec {s : State} (co : Coordinated s) (boot : BootCounted s)
    (idle : s.seeksFeed = false) (routine : Routine) : Full (Firmware.exec s routine) := by
  have rest : s.feeder.isFeeding = false ∧ s.feeder.isFeedHoming = false := by
    simpa [State.seeksFeed] using idle
  have still : Full s := .of_idle idle
  cases routine with
  | serialByte byte t => exact .commanded idle (s.serialByte_commanded byte t)
  | dispatchPending t => exact .commanded idle (s.dispatchPending_commanded t)
  | scheduleRun t => exact .scheduleRun idle t
  | checkFeedErrors =>
    dsimp only [Firmware.exec, State.checkFeedErrors]
    rw [if_neg (by simp [rest])]
    exact still
  | runFeedMotor =>
    have same : s.runFeedMotor = s := by simp [State.runFeedMotor, rest]
    rw [Firmware.exec, same]
    exact still
  | homeFeedMotor sensor now => exact .homeFeedMotor idle sensor now
  | serviceSorterJog => exact .serviceSorterJog co idle boot
  | runAux raw sortRaw t now => exact .runAux idle raw sortRaw t now
  | getProxState | updateSlotDropGate | runSortMotor | onSortComplete | homeSortMotor
  | onFeedComplete | motorStandByCheck | serviceV2PhysicalRequest | emitV2StateIfChanged =>
    exact still.of_sameCount (.exec s rfl)

namespace BootCounted

theorem of_unbooted {s : State}
    (jog : s.sorter.sorterJog.active = false ∨ s.sorter.sorterJogStartsFeedHoming = false) :
    BootCounted s := by
  intro active starts
  rcases jog with jog | jog
  · exact absurd (jog.symm.trans active) nofun
  · exact absurd (jog.symm.trans starts) nofun

theorem of_sameCount {s t : State} (h : BootCounted s) (same : SameCount s t) : BootCounted t := by
  intro active starts
  have jog := same.jog active starts
  rw [same.steps, same.parameters]
  exact h jog.1 jog.2

theorem applyV1Action {s : State} (idle : s.executionBusy = false) (result : V1DispatchResult)
    (t : Ticks) : BootCounted (s.applyV1Action result t) := by
  have rest := Coordinated.rest_of_idle idle
  have queued (u : State) (jog : u.sorter.sorterJog.active = false) (position : Int) :
      BootCounted (u.queueFeed position t) := by
    refine of_unbooted (.inl ?_)
    dsimp only [State.queueFeed, State.scheduleRun, State.scheduleFeed,
      State.moveSorterToNextPosition]
    split_ifs <;> exact jog
  unfold State.applyV1Action
  cases result.action
  case stop => exact of_unbooted (.inr rfl)
  case homeSorter => exact of_unbooted (.inr rfl)
  case queueFeed => exact queued (s.setForceFeed false) rest.jog _
  case queueForcedFeed => exact queued (s.setForceFeed true) rest.jog _
  all_goals exact of_unbooted (.inl rest.jog)

theorem commanded {s t : State} (h : BootCounted s) (step : Commanded s t) : BootCounted t := by
  cases step with
  | quiet same => exact h.of_sameCount (.of_linkOnly same)
  | stopped stop =>
    rw [stop.machine]
    exact of_unbooted (.inr rfl)
  | switched idle machine =>
    rw [machine]
    exact h
  | acted s₁ result ticks idle asked prepared permitted done =>
    have ready : s₁.executionBusy = false := by
      rw [prepared.machine]
      exact idle
    exact (applyV1Action ready result ticks).of_sameCount (.of_linkOnly done)

theorem of_kept {s t : State} (h : BootCounted s)
    (jog : t.sorter.sorterJog.active → t.sorter.sorterJogStartsFeedHoming →
      s.sorter.sorterJog.active ∧ s.sorter.sorterJogStartsFeedHoming)
    (kept : s.sorter.sorterJog.active → s.sorter.sorterJogStartsFeedHoming →
      t.feeder.feedSteps = s.feeder.feedSteps ∧ t.drive.feedMicroSteps = s.drive.feedMicroSteps) :
    BootCounted t := by
  intro active starts
  obtain ⟨active, starts⟩ := jog active starts
  obtain ⟨steps, micro⟩ := kept active starts
  rw [steps, micro]
  exact h active starts

theorem completeFeedHoming {s : State} (unbooted : s.sorter.sorterJog.active = false ∨
    s.sorter.sorterJogStartsFeedHoming = false) (now : UInt32) :
    BootCounted (s.completeFeedHoming now) := by
  have ended : (s.feedHomingEnds now).sorter.sorterJog = s.sorter.sorterJog ∧
      (s.feedHomingEnds now).sorter.sorterJogStartsFeedHoming =
        s.sorter.sorterJogStartsFeedHoming := by
    unfold State.feedHomingEnds
    rcases (s.stopFeedHoming now).updateRecoveryCompletion_eq .feeder with eq | eq |
      ⟨-, -, eq⟩ <;>
      rw [eq] <;> dsimp only <;> split_ifs <;> exact ⟨rfl, rfl⟩
  dsimp only [State.completeFeedHoming]
  split_ifs
  · exact of_unbooted (.inr rfl)
  · rw [State.reportMotion_machine]
    refine of_unbooted ?_
    change (s.feedHomingEnds now).sorter.sorterJog.active = false ∨
      (s.feedHomingEnds now).sorter.sorterJogStartsFeedHoming = false
    rw [ended.1, ended.2]
    exact unbooted

theorem homeFeedMotor {s : State} (h : BootCounted s) (counted : FeedCounted s) (sensor : Bool)
    (now : UInt32) : BootCounted (s.homeFeedMotor sensor now) := by
  by_cases homing : s.feeder.isFeedHoming ∨ s.feeder.isFeedHomingOffset
  · have unbooted := counted.unbooted homing
    have ended := completeFeedHoming unbooted now
    have offset (u : State) (same : u.sorter = s.sorter) :
        BootCounted (u.feedHomingOffsetStep now) := by
      have rest := same.symm ▸ unbooted
      unfold State.feedHomingOffsetStep
      split_ifs
      · exact of_unbooted rest
      · exact completeFeedHoming rest now
      · exact of_unbooted rest
      · exact completeFeedHoming rest now
    dsimp only [State.homeFeedMotor]
    split_ifs
    · exact ended
    · exact offset _ rfl
    · exact of_unbooted unbooted
    · exact offset s rfl
  · simp only [not_or, Bool.not_eq_true] at homing
    rw [State.homeFeedMotor_still homing.1 homing.2]
    exact h

theorem exec {s : State} (h : BootCounted s) (co : Coordinated s) (counted : FeedCounted s)
    (routine : Routine) : BootCounted (Firmware.exec s routine) := by
  cases routine with
  | serialByte byte t => exact h.commanded (s.serialByte_commanded byte t)
  | dispatchPending t => exact h.commanded (s.dispatchPending_commanded t)
  | scheduleRun t =>
    refine h.of_kept ?_ fun active starts => ?_
    · dsimp only [Firmware.exec, State.scheduleRun]
      split_ifs <;> exact fun active starts => ⟨active, starts⟩
    · have same : s.scheduleRun t = s := by
        simp [State.scheduleRun, (co.bootJog active starts).2.1]
      rw [Firmware.exec, same]
      exact ⟨rfl, rfl⟩
  | checkFeedErrors =>
    dsimp only [Firmware.exec, State.checkFeedErrors]
    split_ifs
    · rw [State.reportFeedOvertravel_machine]
      refine of_unbooted (.inr ?_)
      dsimp only [State.feedOvertravel]
      split_ifs <;> rfl
    · exact h
  | runFeedMotor =>
    refine h.of_kept ?_ fun active starts => ?_
    · dsimp only [Firmware.exec, State.runFeedMotor]
      split_ifs <;> exact fun active starts => ⟨active, starts⟩
    · have same : s.runFeedMotor = s := by
        simp [State.runFeedMotor, (co.bootJog active starts).2.2]
      rw [Firmware.exec, same]
      exact ⟨rfl, rfl⟩
  | homeFeedMotor sensor now => exact h.homeFeedMotor counted sensor now
  | serviceSorterJog =>
    refine h.of_kept ?_ fun active starts => ⟨?_, ?_⟩
    · by_cases active : s.sorter.sorterJog.active
      · dsimp only [Firmware.exec, State.serviceSorterJog, State.sorterJogEnds]
        split_ifs <;> intro _ starts <;> first
          | exact ⟨active, starts⟩
          | cases starts
      · rw [Firmware.exec, s.serviceSorterJog_inactive (by simpa using active) co.jogEnded]
        exact fun active starts => ⟨active, starts⟩
    · obtain ⟨_, feeder, -⟩ := serviceSorterJog_feeder co
      rw [Firmware.exec, feeder]
    · dsimp only [Firmware.exec, State.serviceSorterJog, State.sorterJogEnds]
      split_ifs <;> rfl
  | runAux raw sortRaw t now =>
    refine h.of_kept ?_ fun active starts => ?_
    · have tested : (s.runTestCycle raw t).sorter.sorterJog = s.sorter.sorterJog ∧
          (s.runTestCycle raw t).sorter.sorterJogStartsFeedHoming =
            s.sorter.sorterJogStartsFeedHoming := by
        dsimp only [State.runTestCycle, State.queueFeed, State.scheduleRun, State.scheduleFeed,
          State.moveSorterToNextPosition]
        split_ifs <;> exact ⟨rfl, rfl⟩
      intro active starts
      rw [← tested.1, ← tested.2]
      dsimp only [Firmware.exec, State.runAux, State.runSortTestCycle] at active starts
      split_ifs at active starts <;> first
        | exact ⟨active, starts⟩
        | rw [tested.1, tested.2]; exact ⟨active, starts⟩
    · have test := (co.bootJog active starts).1
      have tested : s.runTestCycle raw t = s := by simp [State.runTestCycle, test]
      dsimp only [Firmware.exec, State.runAux, State.runSortTestCycle]
      rw [tested]
      split_ifs <;> exact ⟨rfl, rfl⟩
  | getProxState | updateSlotDropGate | runSortMotor | onSortComplete | homeSortMotor
  | onFeedComplete | motorStandByCheck | serviceV2PhysicalRequest | emitV2StateIfChanged =>
    exact h.of_sameCount (.exec s rfl)

end BootCounted

theorem BootCounted.boot (now : UInt32) : BootCounted (Firmware.boot now) := fun _ _ => rfl

/-- What holds in the states a run of the sketch reaches between two calls. -/
structure Watched (w : Watch) (s : State) : Prop where
  coordinated : Coordinated s
  sized : Sized s
  counted : FeedCounted s
  holds : w.Holds s
  boot : BootCounted s

namespace Watched

theorem start (now : UInt32) : Watched .unchecked (Firmware.boot now) :=
  ⟨.boot now, .boot now, .boot now, trivial, .boot now⟩

theorem exec {w : Watch} {s : State} {routine : Routine} (h : Watched w s)
    (admits : w.admits routine) : Watched (w.after routine) (Firmware.exec s routine) :=
  ⟨h.coordinated.exec routine, h.sized.exec routine,
    h.counted.exec h.coordinated h.sized h.holds admits,
    Watch.holds_exec h.coordinated h.counted h.holds, h.boot.exec h.coordinated h.counted routine⟩

theorem execAll {w : Watch} {s : State} {routines more : List Routine} (h : Watched w s)
    (order : w.InOrder (routines ++ more)) :
    ∃ w', Watched w' (Firmware.execAll s routines) ∧ w'.InOrder more := by
  induction routines generalizing w s with
  | nil => exact ⟨w, h, order⟩
  | cons routine routines ih => exact ih (h.exec order.1) order.2

theorem within {w : Watch} {s : State} (h : Watched w s) (seeks : s.seeksFeed) :
    s.drive.feedMicroSteps - s.feeder.feedSteps ≤ feedOverstepThreshold * feedMicrosteps + 1 := by
  have limit := h.sized.feedDrive.limit
  have searching := (h.counted.searching (seeksFeed_elim seeks)).1
  have bound : feedOverstepThreshold * feedMicrosteps + 1 = 1441 := by decide
  omega

theorem exceeded {w : Watch} {s : State} (h : Watched w s) (past : s.overtravels) :
    s.drive.feedMicroSteps - s.feeder.feedSteps = feedOverstepThreshold * feedMicrosteps + 1 := by
  simp only [State.overtravels, Bool.and_eq_true, decide_eq_true_eq] at past
  have limit := h.sized.feedDrive.limit
  have within := h.within past.1.1
  have bound : feedOverstepThreshold * feedMicrosteps + 1 = 1441 := by decide
  omega

theorem overtravels {w : Watch} {s : State} (h : Watched w s) (seeks : s.seeksFeed)
    (full : s.drive.feedMicroSteps - s.feeder.feedSteps =
      feedOverstepThreshold * feedMicrosteps + 1) : s.overtravels := by
  have limit := h.sized.feedDrive.limit
  have incomplete := (h.counted.searching (seeksFeed_elim seeks)).2
  have bound : feedOverstepThreshold * feedMicrosteps + 1 = 1441 := by decide
  have seeking := seeksFeed_elim seeks
  simp only [State.overtravels, Bool.and_eq_true, Bool.or_eq_true, decide_eq_true_eq, incomplete,
    Bool.not_false, and_true]
  exact ⟨seeking, by omega⟩

end Watched

/-- How a search that `base` pulses precede stands at the end of the run. -/
inductive SearchEnds (base : Int) (s : State) (routines : List Routine) (t : State) : Prop
  | goesOn (seeks : t.seeksFeed)
      (count : (pulses .feeder t : Int) + t.feeder.feedSteps = base + t.drive.feedMicroSteps)
  | stopped (ended : t.seeksFeed = false) (mode : t.machineState.mode = .stopped)
      (bound : (pulses .feeder t : Int) - base ≤ feedOverstepThreshold * feedMicrosteps + 1)
  | faulted (ended : t.seeksFeed = false) (earlier : List Routine)
      (last : routines = earlier ++ [.checkFeedErrors])
      (given : (pulses .feeder t : Int) - base = feedOverstepThreshold * feedMicrosteps + 1)
      (fault : FeedFaulted (execAll s earlier) t)

theorem FeedSearch.nil {s : State} {routines : List Routine} (search : FeedSearch s routines)
    (ended : s.seeksFeed = false) : routines = [] := by
  cases routines with
  | nil => rfl
  | cons routine routines => exact absurd (ended.symm.trans search.1.1) nofun

theorem SearchEnds.execAll {base : Int} {w : Watch} {s : State} {routines : List Routine}
    (h : Watched w s) (order : w.InOrder routines) (search : FeedSearch s routines)
    (seeks : s.seeksFeed)
    (count : (pulses .feeder s : Int) + s.feeder.feedSteps = base + s.drive.feedMicroSteps) :
    SearchEnds base s routines (Firmware.execAll s routines) := by
  induction routines generalizing w s with
  | nil => exact .goesOn seeks count
  | cons routine routines ih =>
    have rest : FeedSearch (exec s routine) routines := search.2 _ rfl
    cases SearchStep.exec h.coordinated seeks search.1.2 with
    | goesOn on =>
      have counted : (pulses .feeder (exec s routine) : Int) + (exec s routine).feeder.feedSteps =
          base + (exec s routine).drive.feedMicroSteps := by
        rw [on.count, on.micro]
        exact count
      cases ih (h.exec order.1) order.2 rest on.seeks counted with
      | goesOn seeks count => exact .goesOn seeks count
      | stopped ended mode bound => exact .stopped ended mode bound
      | faulted ended earlier last given fault =>
        exact .faulted ended (routine :: earlier) (last ▸ rfl) given fault
    | stopped ended mode still other =>
      cases rest.nil ended
      have within := h.within seeks
      refine .stopped ended mode ?_
      change (pulses .feeder (exec s routine) : Int) - base ≤ _
      rw [still]
      omega
    | faulted ended check past fault still =>
      cases rest.nil ended
      subst check
      have exceeded := h.exceeded past
      refine .faulted ended [] rfl ?_ fault
      change (pulses .feeder (exec s .checkFeedErrors) : Int) - base = _
      rw [still]
      omega

/-- A feed pulse has been given for the pass that the next call of `homeFeedMotor` makes. -/
def ahead (w : Watch) (s : State) : Nat :=
  if w = .moved ∧ s.feeder.isFeeding ∧ s.sorter.sortInProgress = false then 1 else 0

theorem ahead_le (w : Watch) (s : State) : ahead w s ≤ 1 := by
  unfold ahead
  split_ifs <;> decide

theorem runFeedMotor_ahead (s : State) :
    pulses .feeder s + ahead .moved s.runFeedMotor ≤ pulses .feeder s.runFeedMotor := by
  dsimp only [State.runFeedMotor]
  split_ifs with moving feeding ends
  · simp [ahead, moving]
  · refine Nat.le_trans (Nat.add_le_add_left (ahead_le _ _) _) ?_
    exact Nat.le_of_eq (pulses_stepFeedMotor s.setAccFeedDelay).symm
  · exact Nat.le_refl _
  · simp [ahead, ends]

theorem homeFeedMotor_passes {s : State} (co : Coordinated s) (seeks : s.seeksFeed) {sensor : Bool}
    {now : UInt32} (silent : s.findsFeed (.homeFeedMotor sensor now) = false) :
    (s.passesFeed (.homeFeedMotor sensor now)).toNat + pulses .feeder s ≤
      pulses .feeder (s.homeFeedMotor sensor now) + ahead .moved s := by
  by_cases homing : s.feeder.isFeedHoming
  · have off : sensor = false := by simpa [State.findsFeed, homing] using silent
    have pulse := pulses_stepFeedMotor s
    have one := Bool.toNat_le (s.passesFeed (.homeFeedMotor sensor now))
    have step : pulses .feeder (s.homeFeedMotor sensor now) = pulses .feeder s.stepFeedMotor := by
      simp [State.homeFeedMotor, homing, feedHomingEnabled, off, State.stepFeedMotor,
        State.setMotorDriversEnabled, pulses]
    omega
  · have feeding := (seeksFeed_elim seeks).resolve_right homing
    have exclusive := co.feeding feeding
    rw [State.homeFeedMotor_still exclusive.2.1 exclusive.2.2]
    cases moving : s.sorter.sortInProgress
    · simp [ahead, feeding, moving, State.passesFeed, Nat.add_comm]
    · simp [ahead, moving, State.passesFeed]

theorem feedPasses_le {w : Watch} {s : State} {routines : List Routine} (h : Watched w s)
    (order : w.InOrder routines) (search : FeedSearch s routines) :
    feedPasses s routines + pulses .feeder s ≤
      pulses .feeder (execAll s routines) + ahead w s := by
  induction routines generalizing w s with
  | nil => simp [feedPasses, execAll]
  | cons routine routines ih =>
    have rest := ih (h.exec order.1) order.2 (search.2 _ rfl)
    change (s.passesFeed routine).toNat + feedPasses (exec s routine) routines + _ ≤
      pulses .feeder (execAll (exec s routine) routines) + _
    by_cases feeds : routine = .runFeedMotor
    · subst feeds
      have pulse := runFeedMotor_ahead s
      cases w with
      | checked =>
        change _ ≤ _ + ahead .moved s.runFeedMotor at rest
        have none : (s.passesFeed .runFeedMotor).toNat = 0 := rfl
        dsimp only [exec] at rest ⊢
        omega
      | unchecked | moved => cases order.1
    have unmoved : ahead (w.after routine) (exec s routine) = 0 := by
      have after : w.after routine ≠ .moved := by
        cases routine <;> cases w <;> simp_all [Watch.after]
      simp [ahead, after]
    cases feeder : routine.pulsesFeeder
    · have still := pulses_feeder_exec s feeder
      have none : (s.passesFeed routine).toNat = 0 := by
        cases routine <;> first | rfl | cases feeder
      omega
    · cases routine with
      | homeFeedMotor sensor now =>
        cases w with
        | moved =>
          have passes := homeFeedMotor_passes h.coordinated search.1.1 search.1.2
          dsimp only [exec] at rest passes unmoved ⊢
          omega
        | unchecked | checked => cases order.1
      | runFeedMotor => exact absurd rfl feeds
      | _ => cases feeder

/-- A search that never finds the sensor gives the feeder at most
`FEED_OVERSTEP_THRESHOLD * FEED_MICROSTEPS + 1` pulses, and gives one in every pass that no
sorter move holds up. Unless it is stopped, it ends with the overtravel fault after exactly
that many pulses, and the next check faults once they have been given. -/
theorem feedSearch_bounded (now : UInt32) (inputs : List LoopInput) (calls : Nat)
    (before search : List Routine) (begins : Routine)
    (run : sketchRun inputs calls = before ++ begins :: search)
    (idle : (execAll (boot now) before).seeksFeed = false)
    (begun : (exec (execAll (boot now) before) begins).seeksFeed)
    (silent : FeedSearch (exec (execAll (boot now) before) begins) search) :
    let s := exec (execAll (boot now) before) begins
    let t := execAll s search
    let limit := feedOverstepThreshold * feedMicrosteps + 1
    (pulses .feeder t : Int) - pulses .feeder s ≤ limit ∧
    feedPasses s search + pulses .feeder s ≤ pulses .feeder t ∧
    (t.seeksFeed = false → t.machineState.mode = .stopped ∨
      ∃ earlier, search = earlier ++ [.checkFeedErrors] ∧
        (pulses .feeder t : Int) - pulses .feeder s = limit ∧
        FeedFaulted (execAll s earlier) t) ∧
    (t.seeksFeed → (pulses .feeder t : Int) - pulses .feeder s = limit →
      FeedFaulted t (exec t .checkFeedErrors)) := by
  intro s t limit
  have order : Watch.unchecked.InOrder (before ++ begins :: search) :=
    run ▸ Watch.InOrder.sketchRun inputs calls
  obtain ⟨w, reached, after⟩ := (Watched.start now).execAll order
  have start : Watched (w.after begins) s := reached.exec after.1
  have rest : (w.after begins).InOrder (search ++ []) := (List.append_nil search).symm ▸ after.2
  obtain ⟨w', last, -⟩ := start.execAll rest
  have reach : Watched w' t := last
  have full : s.feeder.feedSteps = s.drive.feedMicroSteps :=
    Full.exec reached.coordinated reached.boot idle begins begun
  have unmoved : ahead (w.after begins) s = 0 := by
    unfold ahead
    rw [if_neg]
    rintro ⟨moved, -, -⟩
    have feeds : begins = .runFeedMotor := by cases begins <;> cases w <;> simp_all [Watch.after]
    have rest := idle
    simp only [State.seeksFeed, Bool.or_eq_false_iff] at rest
    have same : (execAll (boot now) before).runFeedMotor = execAll (boot now) before := by
      simp [State.runFeedMotor, rest.1]
    rw [feeds, exec, same] at begun
    cases idle.symm.trans begun
  have passes := feedPasses_le start after.2 silent
  have count : (pulses .feeder s : Int) + s.feeder.feedSteps =
      pulses .feeder s + s.drive.feedMicroSteps := by rw [full]
  have ends : SearchEnds (pulses .feeder s) s search t :=
    .execAll start after.2 silent begun count
  refine ⟨?_, by rw [unmoved] at passes; exact passes, ?_, ?_⟩
  · cases ends with
    | goesOn seeks count =>
      have within := reach.within seeks
      simp only [limit]
      omega
    | stopped ended mode bound => exact bound
    | faulted ended earlier last given fault => exact Int.le_of_eq given
  · intro done
    cases ends with
    | goesOn seeks count => cases done.symm.trans seeks
    | stopped ended mode bound => exact .inl mode
    | faulted ended earlier last given fault => exact .inr ⟨earlier, last, given, fault⟩
  · intro seeks given
    cases ends with
    | goesOn seeks count =>
      refine (feedFaulted_of_overtravels reach.coordinated (reach.overtravels seeks ?_)).1
      simp only [limit] at given
      omega
    | stopped ended mode bound => cases ended.symm.trans seeks
    | faulted ended earlier last given fault => cases ended.symm.trans seeks

/-- A feeder homing right after boot, for two calls of `loop()`. -/
def homeFeederInputs : List LoopInput :=
  [iteration "stop\nhomefeeder\n" false false, silence]

theorem feedSearch_bounded_homing :
    let run := sketchRun homeFeederInputs 48
    let s := execAll (boot 0) (run.take 16)
    (pulses .feeder (execAll s (run.drop 16)) : Int) - pulses .feeder s ≤ 1441 ∧
      feedPasses s (run.drop 16) = 2 := by
  intro run s
  have bounded := (feedSearch_bounded 0 homeFeederInputs 48 (run.take 15) (run.drop 16)
    (.serialByte lineFeed ⟨0, 0, 0, 0⟩) (by decide +kernel) (by decide +kernel)
    (by decide +kernel)
    (by decide +kernel)).1
  exact ⟨bounded, by decide +kernel⟩

end CaseSorter.Firmware
