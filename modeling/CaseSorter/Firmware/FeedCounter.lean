import CaseSorter.Firmware.QueueBounds

/-! The counter of the feeder. It falls below zero while the homing sensor is searched, as
far as the overtravel check lets it; the check stands in `loop()` just before the two
routines that pulse the feeder, so the bound is one on the order of the routines. -/

namespace CaseSorter.Firmware

/-- `searching` is one below the limit: the check of the next `loop()` finds it. -/
structure FeedCounted (s : State) : Prop where
  offset : 0 ≤ s.feeder.feedHomingOffsetSteps ∧ s.feeder.feedHomingOffsetSteps ≤ 3200
  range : -4641 ≤ s.feeder.feedSteps ∧ s.feeder.feedSteps ≤ 16000
  feeding : s.feeder.isFeeding →
    0 ≤ s.feeder.feedSteps ∧ s.feeder.feedSteps ≤ s.drive.feedMicroSteps
  searching : s.feeder.isFeeding ∨ s.feeder.isFeedHoming →
    s.drive.feedOverTravelSteps - 1 ≤ s.feeder.feedSteps ∧ s.feeder.feedCycleComplete = false
  passing : s.feeder.isFeedHomingOffset →
    s.drive.feedOverTravelSteps - 3201 + s.feeder.feedHomingOffsetSteps ≤ s.feeder.feedSteps
  booting : s.sorter.sorterJog.active → s.sorter.sorterJogStartsFeedHoming →
    s.drive.feedOverTravelSteps - 1 ≤ s.feeder.feedSteps ∧
      s.feeder.feedCycleComplete = false ∧
      s.feeder.isFeedHoming = false ∧ s.feeder.isFeedHomingOffset = false

/-- The counter and what bounds it are the same. -/
structure SameCount (s t : State) : Prop where
  parameters : SameParameters s.drive t.drive
  feeding : t.feeder.isFeeding = s.feeder.isFeeding
  homing : t.feeder.isFeedHoming = s.feeder.isFeedHoming
  passing : t.feeder.isFeedHomingOffset = s.feeder.isFeedHomingOffset
  steps : t.feeder.feedSteps = s.feeder.feedSteps
  offsetSteps : t.feeder.feedHomingOffsetSteps = s.feeder.feedHomingOffsetSteps
  complete : t.feeder.feedCycleComplete → s.feeder.feedCycleComplete
  jog : t.sorter.sorterJog.active → t.sorter.sorterJogStartsFeedHoming →
    s.sorter.sorterJog.active ∧ s.sorter.sorterJogStartsFeedHoming

namespace SameCount

theorem of_feeder {s t : State} (parameters : SameParameters s.drive t.drive)
    (feeder : t.feeder = s.feeder) (jog : t.sorter.sorterJog = s.sorter.sorterJog)
    (starts : t.sorter.sorterJogStartsFeedHoming = s.sorter.sorterJogStartsFeedHoming) :
    SameCount s t := by
  refine ⟨parameters, ?_, ?_, ?_, ?_, ?_, ?_, ?_⟩ <;> try rw [feeder]
  · exact id
  · rw [jog, starts]
    exact fun active starts => ⟨active, starts⟩

theorem refl (s : State) : SameCount s s := .of_feeder rfl rfl rfl rfl

theorem trans {s t u : State} (h : SameCount s t) (h' : SameCount t u) : SameCount s u where
  parameters := h.parameters.trans h'.parameters
  feeding := h'.feeding.trans h.feeding
  homing := h'.homing.trans h.homing
  passing := h'.passing.trans h.passing
  steps := h'.steps.trans h.steps
  offsetSteps := h'.offsetSteps.trans h.offsetSteps
  complete complete := h.complete (h'.complete complete)
  jog active starts := h.jog (h'.jog active starts).1 (h'.jog active starts).2

theorem of_linkOnly {s t : State} (h : LinkOnly s t) : SameCount s t := by
  rw [h.machine]
  exact .of_feeder rfl rfl rfl rfl

theorem reportMotion (s : State) (slot : Int)
    (finished : PhysicalRequestTracker × PhysicalRequestTransition) :
    SameCount s (s.reportMotion slot finished) := by
  rw [s.reportMotion_machine]
  exact .of_feeder rfl rfl rfl rfl

theorem completeSorterRecoveryHoming (s : State) (now : UInt32) :
    SameCount s (s.completeSorterRecoveryHoming now) := by
  refine SameCount.trans ?_ (reportMotion (s.sorterHomingEnds now) _ _)
  unfold State.sorterHomingEnds
  rcases ((s.stopSorterHoming now).record .sorterHomed).updateRecoveryCompletion_eq .sorter with
    eq | eq | ⟨-, -, eq⟩ <;> rw [eq] <;> exact .of_feeder rfl rfl rfl rfl

theorem homeSortMotor (s : State) (sensor : Bool) (now : UInt32) :
    SameCount s (s.homeSortMotor sensor now) := by
  have searched : SameCount s (s.recoverySearch sensor) := by
    unfold State.recoverySearch State.searchStep
    split_ifs <;> exact .of_feeder rfl rfl rfl rfl
  have offset : SameCount (s.recoverySearch sensor)
      ((s.recoverySearch sensor).sortHomingOffsetStep now) := by
    unfold State.sortHomingOffsetStep
    split_ifs
    · exact .refl _
    · exact completeSorterRecoveryHoming _ now
    · exact .of_feeder rfl rfl rfl rfl
    · exact completeSorterRecoveryHoming _ now
  unfold State.homeSortMotor
  split_ifs
  · exact .refl s
  · exact completeSorterRecoveryHoming s now
  · exact .of_feeder rfl rfl rfl rfl
  · unfold State.searchStep
    split_ifs <;> exact .of_feeder rfl rfl rfl rfl
  · exact .of_feeder rfl rfl rfl rfl
  · exact searched.trans offset

theorem feedCompletionTurns (turns : Nat) (s : State) (now : UInt32) :
    SameCount s (State.feedCompletionTurns turns s now) := by
  induction turns generalizing s with
  | zero => exact .refl s
  | succ turns ih =>
    unfold State.feedCompletionTurns
    dsimp only
    split
    · exact .of_feeder rfl rfl rfl rfl
    · refine SameCount.trans ?_ (ih _)
      exact .of_feeder rfl rfl rfl rfl
    · refine SameCount.trans ?_ (ih _)
      exact .of_feeder rfl rfl rfl rfl
    · exact ⟨rfl, rfl, rfl, rfl, rfl, rfl, nofun, fun a b => ⟨a, b⟩⟩

theorem onFeedComplete (s : State) (now : UInt32) : SameCount s (s.onFeedComplete now) := by
  dsimp only [State.onFeedComplete]
  split_ifs
  · exact ⟨rfl, rfl, rfl, rfl, rfl, rfl, nofun, fun a b => ⟨a, b⟩⟩
  · exact .refl s
  · refine SameCount.trans ?_ (feedCompletionTurns 3 _ now)
    exact .of_feeder rfl rfl rfl rfl
  · refine SameCount.trans ?_ (feedCompletionTurns 3 _ now)
    exact .of_feeder rfl rfl rfl rfl
  · exact feedCompletionTurns 3 s now

def sparing : Routine → Bool
  | .getProxState _ _ | .updateSlotDropGate _ | .runSortMotor | .onSortComplete _
  | .homeSortMotor _ _ | .onFeedComplete _ | .motorStandByCheck _ | .serviceV2PhysicalRequest
  | .emitV2StateIfChanged => true
  | _ => false

theorem exec (s : State) {routine : Routine} (spares : sparing routine) :
    SameCount s (Firmware.exec s routine) := by
  cases routine with
  | getProxState sensor now => exact .of_feeder rfl rfl rfl rfl
  | updateSlotDropGate now =>
    dsimp only [Firmware.exec, State.updateSlotDropGate]
    split_ifs <;> exact .of_feeder rfl rfl rfl rfl
  | runSortMotor =>
    dsimp only [Firmware.exec, State.runSortMotor, State.slotZeroPass]
    split_ifs <;> exact .of_feeder rfl rfl rfl rfl
  | onSortComplete now =>
    dsimp only [Firmware.exec, State.onSortComplete]
    split_ifs
    · refine SameCount.trans ?_ (reportMotion (s.sortEnds now) _ _)
      exact .of_feeder rfl rfl rfl rfl
    · exact .refl s
  | homeSortMotor sensor now => exact homeSortMotor s sensor now
  | onFeedComplete now => exact onFeedComplete s now
  | motorStandByCheck now =>
    dsimp only [Firmware.exec, State.motorStandByCheck]
    split_ifs <;> exact .of_feeder rfl rfl rfl rfl
  | serviceV2PhysicalRequest =>
    dsimp only [Firmware.exec, State.serviceV2PhysicalRequest]
    split_ifs <;> exact .of_feeder rfl rfl rfl rfl
  | emitV2StateIfChanged => exact .of_linkOnly s.emitV2StateIfChanged_linkOnly
  | serialByte | dispatchPending | scheduleRun | checkFeedErrors | runFeedMotor | homeFeedMotor
  | serviceSorterJog | runAux => cases spares

end SameCount

/-- What the steps of a feed, the overtravel limit and the homing offset come to. -/
structure FeedDrive (d : Drive) : Prop where
  micro : 0 ≤ d.feedMicroSteps ∧ d.feedMicroSteps ≤ 16000
  limit : d.feedOverTravelSteps = d.feedMicroSteps - 1440
  offset : 0 ≤ d.feedHomingOffset ∧ d.feedHomingOffset ≤ 3200

theorem Sized.feedDrive {s : State} (h : Sized s) : FeedDrive s.drive := by
  have steps := h.configuration.feedSteps
  have offset := h.configuration.feedHomingOffset
  constructor
  · rw [h.derived.feedMicroSteps, feedMicrosteps]
    omega
  · rw [h.derived.feedMicroSteps, h.derived.feedOverTravelSteps, feedOverstepThreshold,
      feedMicrosteps]
    omega
  · rw [h.derived.feedHomingOffset, feedMicrosteps]
    omega

namespace FeedCounted

theorem of_sameCount {s t : State} (h : FeedCounted s) (same : SameCount s t) : FeedCounted t := by
  have micro : t.drive.feedMicroSteps = s.drive.feedMicroSteps := by rw [same.parameters]
  have limit : t.drive.feedOverTravelSteps = s.drive.feedOverTravelSteps := by
    rw [same.parameters]
  have incomplete (h : s.feeder.feedCycleComplete = false) :
      t.feeder.feedCycleComplete = false := by
    by_contra complete
    rw [same.complete (by simpa using complete)] at h
    cases h
  constructor
  · rw [same.offsetSteps]
    exact h.offset
  · rw [same.steps]
    exact h.range
  · rw [same.feeding, same.steps, micro]
    exact h.feeding
  · rw [same.feeding, same.homing, same.steps, limit]
    exact fun active => ⟨(h.searching active).1, incomplete (h.searching active).2⟩
  · rw [same.passing, same.steps, same.offsetSteps, limit]
    exact h.passing
  · intro active starts
    have jog := same.jog active starts
    have boot := h.booting jog.1 jog.2
    rw [same.steps, same.homing, same.passing, limit]
    exact ⟨boot.1, incomplete boot.2.1, boot.2.2⟩

theorem of_still {s : State} (offset : 0 ≤ s.feeder.feedHomingOffsetSteps ∧
      s.feeder.feedHomingOffsetSteps ≤ 3200)
    (range : -4641 ≤ s.feeder.feedSteps ∧ s.feeder.feedSteps ≤ 16000)
    (feeding : s.feeder.isFeeding = false) (homing : s.feeder.isFeedHoming = false)
    (passing : s.feeder.isFeedHomingOffset = false)
    (jog : s.sorter.sorterJog.active = false ∨ s.sorter.sorterJogStartsFeedHoming = false) :
    FeedCounted s := by
  refine ⟨offset, range, ?_, ?_, ?_, ?_⟩
  · rw [feeding]
    exact nofun
  · rw [feeding, homing]
    exact fun active => active.elim nofun nofun
  · rw [passing]
    exact nofun
  · intro active starts
    rcases jog with jog | jog
    · rw [jog] at active
      cases active
    · rw [jog] at starts
      cases starts

theorem boot (now : UInt32) : FeedCounted (Firmware.boot now) := by
  have limits : (0 : Int) ≤ 3 * feedMicrosteps ∧ 3 * feedMicrosteps ≤ 3200 ∧
      -4641 ≤ 70 * feedMicrosteps ∧ 70 * feedMicrosteps ≤ 16000 ∧
      70 * feedMicrosteps - feedOverstepThreshold * feedMicrosteps - 1 ≤ 70 * feedMicrosteps := by
    decide
  exact ⟨⟨limits.1, limits.2.1⟩, ⟨limits.2.2.1, limits.2.2.2.1⟩, nofun,
    fun h => h.elim nofun nofun, nofun, fun _ _ => ⟨limits.2.2.2.2, rfl, rfl, rfl⟩⟩

theorem enterStoppedState (s : State) : FeedCounted s.enterStoppedState := by
  have cleared : (0 : Int) ≤ 0 ∧ (0 : Int) ≤ 3200 ∧ (-4641 : Int) ≤ 0 ∧
    (0 : Int) ≤ 16000 := by
    decide
  exact .of_still ⟨cleared.1, cleared.2.1⟩ ⟨cleared.2.2.1, cleared.2.2.2⟩ rfl
    rfl rfl (.inr rfl)

theorem startFeedCycle {s : State} (drive : FeedDrive s.drive) (h : FeedCounted s)
    (passing : s.feeder.isFeedHomingOffset = false)
    (jog : s.sorter.sorterJog.active = false ∨ s.sorter.sorterJogStartsFeedHoming = false) :
    FeedCounted s.startFeedCycle := by
  have micro := drive.micro
  have limit := drive.limit
  refine ⟨h.offset, ?_, fun _ => ⟨micro.1, Int.le_refl _⟩, fun _ => ⟨?_, rfl⟩, ?_, ?_⟩
  · exact ⟨Int.le_trans (by decide) micro.1, micro.2⟩
  · dsimp only [State.startFeedCycle]
    omega
  · intro offset
    exact absurd (passing.symm.trans offset) nofun
  · intro active starts
    rcases jog with jog | jog
    · exact absurd (jog.symm.trans active) nofun
    · exact absurd (jog.symm.trans starts) nofun

theorem scheduleRun {s : State} (drive : FeedDrive s.drive) (h : FeedCounted s)
    (due : s.feeder.feedScheduled → s.feeder.isFeedHomingOffset = false ∧
      (s.sorter.sorterJog.active = false ∨ s.sorter.sorterJogStartsFeedHoming = false))
    (t : Ticks) : FeedCounted (s.scheduleRun t) := by
  have settled : FeedCounted (s.readyToFeed t.ready).1 :=
    h.of_sameCount (.of_feeder rfl rfl rfl rfl)
  dsimp only [State.scheduleRun]
  split_ifs with gate scheduled ready wait
  · exact h
  · simp only [Bool.and_eq_true] at scheduled
    obtain ⟨passing, jog⟩ := due scheduled.1
    exact startFeedCycle drive settled passing jog
  · exact settled.of_sameCount (.of_feeder rfl rfl rfl rfl)
  · exact settled
  · exact h

theorem queueFeed {s : State} (rest : Coordinated.Rest s) (drive : FeedDrive s.drive)
    (h : FeedCounted s) (position : Int) (t : Ticks) : FeedCounted (s.queueFeed position t) := by
  refine scheduleRun ?_ ?_ ?_ t <;> dsimp only [State.scheduleFeed, State.moveSorterToNextPosition]
    <;> split_ifs
  · exact drive
  · exact drive
  · exact .of_still h.offset h.range rfl rest.feedHoming rest.feedHomingOffset (.inl rest.jog)
  · exact .of_still h.offset h.range rfl rest.feedHoming rest.feedHomingOffset (.inl rest.jog)
  · exact fun _ => ⟨rest.feedHomingOffset, .inl rest.jog⟩
  · exact fun _ => ⟨rest.feedHomingOffset, .inl rest.jog⟩

theorem homeFeeder {s : State} (drive : FeedDrive s.drive)
    (jog : s.sorter.sorterJog.active = false) : FeedCounted s.homeFeeder := by
  have micro := drive.micro
  have limit := drive.limit
  have cleared : (0 : Int) ≤ 0 ∧ (0 : Int) ≤ 3200 := by decide
  refine ⟨cleared, ⟨Int.le_trans (by decide) micro.1, micro.2⟩, nofun,
    fun _ => ⟨?_, rfl⟩, nofun, ?_⟩
  · dsimp only [State.homeFeeder, State.setMotorDriversEnabled]
    omega
  · intro active
    exact absurd (jog.symm.trans active) nofun

theorem homeSorter {s : State} (h : FeedCounted s) : FeedCounted s.homeSorter :=
  ⟨h.offset, h.range, h.feeding, h.searching, h.passing, nofun⟩

theorem applyV1Action {s : State} (idle : s.executionBusy = false) (drive : FeedDrive s.drive)
    (offset : 0 ≤ s.configuration.feedHomingOffset ∧ s.configuration.feedHomingOffset ≤ 200)
    (h : FeedCounted s) (result : V1DispatchResult) (t : Ticks) :
    FeedCounted (s.applyV1Action result t) := by
  have rest := Coordinated.rest_of_idle idle
  have still {u : State} (offset : 0 ≤ u.feeder.feedHomingOffsetSteps ∧
      u.feeder.feedHomingOffsetSteps ≤ 3200) (steps : u.feeder.feedSteps = s.feeder.feedSteps)
      (feeding : u.feeder.isFeeding = s.feeder.isFeeding)
      (homing : u.feeder.isFeedHoming = s.feeder.isFeedHoming)
      (passing : u.feeder.isFeedHomingOffset = s.feeder.isFeedHomingOffset)
      (jog : u.sorter.sorterJog = s.sorter.sorterJog) : FeedCounted u :=
    .of_still offset (steps ▸ h.range) (feeding.trans rest.feeding) (homing.trans rest.feedHoming)
      (passing.trans rest.feedHomingOffset) (.inl (jog ▸ rest.jog))
  have forced (f : Bool) : FeedCounted (s.setForceFeed f) :=
    h.of_sameCount ⟨rfl, rfl, rfl, rfl, rfl, rfl, id, fun a b => ⟨a, b⟩⟩
  unfold State.applyV1Action
  cases result.action
  case stop => exact enterStoppedState s
  case homeFeeder => exact homeFeeder drive rest.jog
  case homeSorter => exact h.homeSorter
  case queueFeed =>
    exact queueFeed (Coordinated.rest_of_idle (s := s.setForceFeed false) idle) drive (forced _) _ t
  case queueForcedFeed =>
    exact queueFeed (Coordinated.rest_of_idle (s := s.setForceFeed true) idle) drive (forced _) _ t
  case applyFeedHomingOffset =>
    refine still ?_ rfl rfl rfl rfl rfl
    dsimp only [feedMicrosteps]
    omega
  all_goals exact still h.offset rfl rfl rfl rfl rfl

theorem commanded {s t : State} (sized : Sized s) (h : FeedCounted s) (step : Commanded s t) :
    FeedCounted t := by
  cases step with
  | quiet same => exact h.of_sameCount (.of_linkOnly same)
  | stopped stop =>
    rw [stop.machine]
    exact (enterStoppedState s).of_sameCount (.of_feeder rfl rfl rfl rfl)
  | switched idle machine tracker latched =>
    rw [machine]
    exact h.of_sameCount (.of_feeder rfl rfl rfl rfl)
  | acted s₁ result ticks idle asked prepared permitted done =>
    refine of_sameCount ?_ (.of_linkOnly done)
    have drive : s₁.drive = s.drive := by rw [prepared.machine]
    have feeder : s₁.feeder = s.feeder := by rw [prepared.machine]
    have sorter : s₁.sorter = s.sorter := by rw [prepared.machine]
    have still : s₁.executionBusy = false := by
      rw [prepared.machine]
      exact idle
    have counted : FeedCounted s₁ :=
      h.of_sameCount (.of_feeder (drive ▸ rfl) feeder (sorter ▸ rfl) (sorter ▸ rfl))
    obtain ⟨command, context, one, two, dispatch⟩ := asked
    have queue : QueueSized context s.configuration :=
      ⟨sized.configuration, one ▸ sized.sorter.first, two ▸ sized.sorter.second⟩
    have configured := (@dispatchV1Command_sized command context s.configuration queue).sized
    rw [dispatch] at configured
    exact applyV1Action still (drive ▸ sized.feedDrive) configured.feedHomingOffset counted result
      ticks

end FeedCounted

/-- What the overtravel check has found out about the counter when a routine is called:
`checked` just after it, `moved` after the feed pulse that follows it. -/
inductive Watch
  | unchecked
  | checked
  | moved
  deriving DecidableEq

namespace Watch

def after : Watch → Routine → Watch
  | _, .checkFeedErrors => .checked
  | .checked, .runFeedMotor => .moved
  | _, _ => .unchecked

def admits : Watch → Routine → Bool
  | w, .runFeedMotor => w = .checked
  | w, .homeFeedMotor _ _ => w = .moved
  | _, _ => true

def InOrder : Watch → List Routine → Prop
  | _, [] => True
  | w, routine :: routines => w.admits routine ∧ InOrder (w.after routine) routines

def Holds (s : State) : Watch → Prop
  | .unchecked => True
  | .checked => s.feeder.isFeeding ∨ s.feeder.isFeedHoming →
      s.drive.feedOverTravelSteps ≤ s.feeder.feedSteps
  | .moved => s.feeder.isFeedHoming → s.drive.feedOverTravelSteps ≤ s.feeder.feedSteps

theorem InOrder.take {w : Watch} {routines : List Routine} (h : w.InOrder routines) (calls : Nat) :
    w.InOrder (routines.take calls) := by
  induction routines generalizing w calls with
  | nil => simpa using h
  | cons routine routines ih =>
    cases calls with
    | zero => trivial
    | succ calls => exact ⟨h.1, ih h.2 calls⟩

theorem InOrder.serial {bytes : List (UInt8 × Ticks)} {t : Ticks}
    {routines : List Routine} (w : Watch)
    (h : unchecked.InOrder (.dispatchPending t :: routines)) :
    w.InOrder (bytes.map (fun entry => .serialByte entry.1 entry.2) ++
      .dispatchPending t :: routines) := by
  induction bytes generalizing w with
  | nil => cases w <;> exact h
  | cons byte bytes ih => cases w <;> exact ⟨rfl, ih .unchecked⟩

theorem InOrder.loop (i : LoopInput) {routines : List Routine}
    (h : unchecked.InOrder routines) (w : Watch) : w.InOrder (loopRoutines i ++ routines) := by
  unfold loopRoutines serialRoutines motionRoutines
  simp only [List.append_assoc, List.cons_append, List.nil_append]
  refine InOrder.serial w ?_
  simp [InOrder, admits, after, h]

theorem InOrder.sketchRun (inputs : List LoopInput) (calls : Nat) :
    unchecked.InOrder (sketchRun inputs calls) := by
  refine InOrder.take ?_ calls
  induction inputs with
  | nil => trivial
  | cons i inputs ih => exact InOrder.loop i ih .unchecked

end Watch

namespace FeedCounted

theorem unbooted {s : State} (h : FeedCounted s)
    (homing : s.feeder.isFeedHoming ∨ s.feeder.isFeedHomingOffset) :
    s.sorter.sorterJog.active = false ∨ s.sorter.sorterJogStartsFeedHoming = false := by
  by_contra boot
  simp only [not_or, Bool.not_eq_false] at boot
  obtain ⟨-, -, idle, still⟩ := h.booting boot.1 boot.2
  rw [idle, still] at homing
  exact homing.elim nofun nofun

theorem feeding_of_homing {s : State} (co : Coordinated s)
    (homing : s.feeder.isFeedHoming ∨ s.feeder.isFeedHomingOffset) :
      s.feeder.isFeeding = false := by
  by_contra feeding
  have exclusive := co.feeding (by simpa using feeding)
  rw [exclusive.2.1, exclusive.2.2] at homing
  exact homing.elim nofun nofun

theorem feedHomingEnds {s : State} (co : Coordinated s) (h : FeedCounted s)
    (homing : s.feeder.isFeedHoming ∨ s.feeder.isFeedHomingOffset) (now : UInt32) :
    FeedCounted (s.feedHomingEnds now) := by
  have unbooted := h.unbooted homing
  have feeding := feeding_of_homing co homing
  have cleared : (0 : Int) ≤ 0 ∧ (0 : Int) ≤ 3200 := by decide
  have feeder := (s.stopFeedHoming now).updateRecoveryCompletion_feeder .feeder
  have jog : ((s.stopFeedHoming now).updateRecoveryCompletion .feeder).sorter.sorterJog.active =
        false ∨ ((s.stopFeedHoming now).updateRecoveryCompletion
          .feeder).sorter.sorterJogStartsFeedHoming = false := by
    rcases (s.stopFeedHoming now).updateRecoveryCompletion_eq .feeder with eq | eq |
      ⟨-, -, eq⟩ <;>
      rw [eq] <;> exact unbooted
  unfold State.feedHomingEnds
  generalize (s.stopFeedHoming now).updateRecoveryCompletion .feeder = u at *
  refine .of_still ?_ ?_ ?_ ?_ ?_ ?_ <;> dsimp only <;> split_ifs <;>
    dsimp only [State.endFeedCycle, State.clearFeedFault, State.setFaultStateTracker] <;>
      try rw [feeder]
  · exact cleared
  · exact cleared
  · exact h.range
  · exact h.range
  · exact feeding
  · exact feeding
  · rfl
  · rfl
  · rfl
  · rfl
  · exact jog
  · exact jog

theorem completeFeedHoming {s : State} (co : Coordinated s) (h : FeedCounted s)
    (homing : s.feeder.isFeedHoming ∨ s.feeder.isFeedHomingOffset) (now : UInt32) :
    FeedCounted (s.completeFeedHoming now) := by
  have ended := h.feedHomingEnds co homing now
  dsimp only [State.completeFeedHoming]
  split_ifs
  · exact homeSorter (ended.of_sameCount (.of_feeder rfl rfl rfl rfl))
  · exact ended.of_sameCount (.reportMotion _ _ _)

theorem feedHomingOffsetStep {s : State} (co : Coordinated s) (drive : FeedDrive s.drive)
    (h : FeedCounted s) (idle : s.feeder.isFeedHoming = false) (now : UInt32) :
    FeedCounted (s.feedHomingOffsetStep now) := by
  unfold State.feedHomingOffsetStep
  split_ifs with off zero more
  · exact h
  · exact h.completeFeedHoming co (.inr (by simpa using off)) now
  · simp only [Bool.not_eq_true', Bool.not_eq_false] at off
    have feeding := feeding_of_homing co (.inr off)
    have offset := h.offset
    have range := h.range
    have passing := h.passing off
    have micro := drive.micro
    have limit := drive.limit
    have booted := h.unbooted (.inr off)
    refine ⟨?_, ?_, ?_, ?_, fun _ => ?_, ?_⟩ <;>
      dsimp only [State.stepFeedMotor, State.setMotorDriversEnabled]
    · omega
    · omega
    · rw [feeding]
      exact nofun
    · rw [feeding, idle]
      exact fun active => active.elim nofun nofun
    · omega
    · intro active starts
      rw [active, starts] at booted
      exact booted.elim nofun nofun
  · exact h.completeFeedHoming co (.inr (by simpa using off)) now

theorem homeFeedMotor {s : State} (co : Coordinated s) (drive : FeedDrive s.drive)
    (h : FeedCounted s) (moved : Watch.moved.Holds s) (sensor : Bool) (now : UInt32) :
    FeedCounted (s.homeFeedMotor sensor now) := by
  have offset := h.offset
  have range := h.range
  have micro := drive.micro
  have limit := drive.limit
  have next := drive.offset
  dsimp only [State.homeFeedMotor]
  split_ifs with homing enabled found
  · exact h.completeFeedHoming co (.inl homing) now
  · have within := moved homing
    have booted := h.unbooted (.inl homing)
    have feeding := feeding_of_homing co (.inl homing)
    refine feedHomingOffsetStep ?_ ?_ ?_ ?_ now
    · obtain ⟨h1, h2, h3, h4, h5, h6, h7, h8, h9, h10, h11, h12, h13, h14⟩ := co
      constructor <;> simp_all
    · exact drive
    · refine ⟨next, range, ?_, ?_, fun _ => ?_, ?_⟩
      · dsimp only
        rw [feeding]
        exact nofun
      · dsimp only
        rw [feeding]
        exact fun active => active.elim nofun nofun
      · dsimp only
        omega
      · intro active starts
        rw [active, starts] at booted
        exact booted.elim nofun nofun
    · rfl
  · have within := moved homing
    have searching := h.searching (.inr homing)
    have booted := h.unbooted (.inl homing)
    have feeding := feeding_of_homing co (.inl homing)
    refine ⟨offset, ?_, ?_, fun _ => ⟨?_, searching.2⟩, fun off => ?_, ?_⟩ <;>
      dsimp only [State.stepFeedMotor, State.setMotorDriversEnabled]
    · omega
    · rw [feeding]
      exact nofun
    · omega
    · omega
    · intro active starts
      rw [active, starts] at booted
      exact booted.elim nofun nofun
  · exact h.feedHomingOffsetStep co drive (by simpa using homing) now

theorem checkFeedErrors {s : State} (h : FeedCounted s) : FeedCounted s.checkFeedErrors := by
  unfold State.checkFeedErrors
  split_ifs
  · rw [State.reportFeedOvertravel_machine]
    refine of_sameCount ?_ (.of_feeder rfl rfl rfl rfl)
    dsimp only [State.feedOvertravel]
    split_ifs <;> exact .of_still h.offset h.range rfl rfl rfl (.inr rfl)
  · exact h

theorem runFeedMotor {s : State} (co : Coordinated s) (h : FeedCounted s)
    (checked : Watch.checked.Holds s) : FeedCounted s.runFeedMotor := by
  have range := h.range
  dsimp only [State.runFeedMotor]
  split_ifs with moving feeding ended
  · exact h
  · simp only [Bool.and_eq_true, decide_eq_true_eq] at feeding
    have within := checked (.inl feeding.1)
    have counted := h.feeding feeding.1
    have searching := h.searching (.inl feeding.1)
    have exclusive := co.feeding feeding.1
    have unbooted : s.sorter.sorterJog.active → s.sorter.sorterJogStartsFeedHoming → False := by
      intro active starts
      exact absurd ((co.bootJog active starts).2.2.symm.trans feeding.1) nofun
    refine ⟨h.offset, ?_, fun _ => ?_, fun _ => ⟨?_, searching.2⟩, fun off => ?_,
      fun active starts => (unbooted active starts).elim⟩ <;>
      dsimp only [State.setAccFeedDelay, State.stepFeedMotor, State.setMotorDriversEnabled]
    · omega
    · omega
    · omega
    · exact absurd (exclusive.2.2.symm.trans off) nofun
  · have searching := h.searching (.inl ended)
    have unbooted : s.sorter.sorterJog.active → s.sorter.sorterJogStartsFeedHoming → False := by
      intro active starts
      exact absurd ((co.bootJog active starts).2.2.symm.trans ended) nofun
    exact ⟨h.offset, range, nofun, fun _ => searching, h.passing,
      fun active starts => (unbooted active starts).elim⟩
  · exact h

theorem sorterJogEnds {s : State} (h : FeedCounted s) (active : s.sorter.sorterJog.active)
    (jog : StepSequence) :
    FeedCounted (({ s with sorter.sorterJog := jog }.stepSortMotor .jog false).sorterJogEnds) := by
  have boot := h.booting active
  dsimp only [State.sorterJogEnds]
  split_ifs
  · exact h.of_sameCount ⟨rfl, rfl, rfl, rfl, rfl, rfl, id, fun _ => nofun⟩
  · refine ⟨h.offset, h.range, h.feeding, ?_, h.passing, fun _ => nofun⟩
    cases starts : s.sorter.sorterJogStartsFeedHoming
    · have same : (s.feeder.isFeedHoming || false) = s.feeder.isFeedHoming := Bool.or_false _
      dsimp only [State.cancelSorterJog, State.record, State.stepSortMotor,
        State.setMotorDriversEnabled]
      rw [same]
      exact h.searching
    · exact fun _ => ⟨(boot starts).1, (boot starts).2.1⟩

theorem serviceSorterJog {s : State} (co : Coordinated s) (h : FeedCounted s) :
    FeedCounted s.serviceSorterJog := by
  have rest := co.jogEnded
  dsimp only [State.serviceSorterJog, StepSequence.takeStep]
  by_cases active : s.sorter.sorterJog.active
  · by_cases last : s.sorter.sorterJog.remaining - 1 = 0
    · simp [active, last]
      exact h.sorterJogEnds active _
    · simp [active, last, rest]
      exact h.of_sameCount ⟨rfl, rfl, rfl, rfl, rfl, rfl, id,
        fun _ starts => ⟨active, starts⟩⟩
  · simp [active, rest]
    exact h

theorem runAux {s : State} (co : Coordinated s) (drive : FeedDrive s.drive) (h : FeedCounted s)
    (raw sortRaw : Nat) (t : Ticks) (now : UInt32) : FeedCounted (s.runAux raw sortRaw t now) := by
  have tested (running : s.machineState.isRunning) : FeedCounted (s.runTestCycle raw t) := by
    dsimp only [State.runTestCycle]
    split_ifs with active more
    · simp only [Bool.and_eq_true, Bool.not_eq_true'] at active
      have rest := co.rest_of_testCycle running active.1.1 active.1.2 active.2
      have queued := queueFeed rest drive h (State.randomBelow raw s.configuration.slotCount) t
      exact queued.of_sameCount (.of_feeder rfl rfl rfl rfl)
    · exact h.of_sameCount (.of_feeder rfl rfl rfl rfl)
    · exact h
  unfold State.runAux
  split_ifs with skip
  · exact h
  · simp only [Bool.or_eq_true, Bool.not_eq_true', not_or, Bool.not_eq_false] at skip
    refine (tested skip.1).of_sameCount ?_
    dsimp only [State.runSortTestCycle]
    split_ifs <;> exact .of_feeder rfl rfl rfl rfl

theorem exec {s : State} {w : Watch} {routine : Routine} (co : Coordinated s) (sized : Sized s)
    (h : FeedCounted s) (holds : w.Holds s) (admits : w.admits routine) :
    FeedCounted (Firmware.exec s routine) := by
  have drive := sized.feedDrive
  cases routine with
  | serialByte byte t => exact h.commanded sized (s.serialByte_commanded byte t)
  | dispatchPending t => exact h.commanded sized (s.dispatchPending_commanded t)
  | scheduleRun t =>
    refine scheduleRun drive h (fun due => ⟨(co.scheduled due).2.2, ?_⟩) t
    by_contra boot
    simp only [not_or, Bool.not_eq_false] at boot
    exact absurd ((co.bootJog boot.1 boot.2).2.1.symm.trans due) nofun
  | checkFeedErrors => exact h.checkFeedErrors
  | runFeedMotor =>
    cases w with
    | checked => exact h.runFeedMotor co holds
    | unchecked | moved => cases admits
  | homeFeedMotor sensor now =>
    cases w with
    | moved => exact h.homeFeedMotor co drive holds sensor now
    | unchecked | checked => cases admits
  | serviceSorterJog => exact h.serviceSorterJog co
  | runAux raw sortRaw t now => exact h.runAux co drive raw sortRaw t now
  | getProxState | updateSlotDropGate | runSortMotor | onSortComplete | homeSortMotor
  | onFeedComplete | motorStandByCheck | serviceV2PhysicalRequest | emitV2StateIfChanged =>
    exact h.of_sameCount (.exec s rfl)

end FeedCounted

theorem Watch.holds_exec {s : State} {w : Watch} {routine : Routine} (co : Coordinated s)
    (h : FeedCounted s) (holds : w.Holds s) : (w.after routine).Holds (exec s routine) := by
  cases routine
  case checkFeedErrors =>
    dsimp only [Watch.after, Watch.Holds, exec, State.checkFeedErrors]
    split_ifs with fault
    · rw [State.reportFeedOvertravel_machine]
      dsimp only [State.feedOvertravel]
      split_ifs <;> exact fun active => active.elim nofun nofun
    · intro active
      by_contra below
      have searching := h.searching active
      simp only [Bool.and_eq_true, Bool.or_eq_true, decide_eq_true_eq, Bool.not_eq_true'] at fault
      exact fault ⟨⟨active, searching.2⟩, by omega⟩
  case runFeedMotor =>
    cases w with
    | unchecked | moved => trivial
    | checked =>
      dsimp only [Watch.after, Watch.Holds, exec, State.runFeedMotor]
      split_ifs with moving feeding ended
      · exact fun homing => holds (.inr homing)
      · simp only [Bool.and_eq_true] at feeding
        exact fun homing => absurd ((co.feeding feeding.1).2.1.symm.trans homing) nofun
      · exact fun _ => holds (.inl ended)
      · exact fun homing => holds (.inr homing)
  all_goals cases w <;> trivial

theorem FeedCounted.execAll {s : State} {w : Watch} {routines : List Routine}
    (co : Coordinated s) (sized : Sized s) (h : FeedCounted s) (holds : w.Holds s)
    (order : w.InOrder routines) : FeedCounted (Firmware.execAll s routines) := by
  induction routines generalizing s w with
  | nil => exact h
  | cons routine routines ih =>
    exact ih (co.exec routine) (sized.exec routine) (h.exec co sized holds order.1)
      (Watch.holds_exec co h holds) order.2

end CaseSorter.Firmware
