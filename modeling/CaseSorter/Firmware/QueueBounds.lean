import CaseSorter.Firmware.DerivedParameters
import CaseSorter.Firmware.Coordination
import CaseSorter.Firmware.Ranges

/-! The size of what the motion code computes with. A position is bounded by the separation
of the slots, which can change while positions are queued; the checks of the two setters,
the bound of the parsers and the idle machine they need keep the bound together. -/

namespace CaseSorter.Firmware

/-- The highest slot whose steps fit an `int`. -/
def maxPosition (c : Configuration) : Int :=
  (maximumRepresentableSlotCount c.sortSteps v1DispatchLimits.sortMicrosteps
    v1DispatchLimits.maxAvrInt : Int) - 1

def InQueue (c : Configuration) (position : Int) : Prop :=
  0 ≤ position ∧ position ≤ maxPosition c

theorem InQueue.product {c : Configuration} {p : Int} (h : InQueue c p) :
    0 ≤ p * c.sortSteps ∧ p * c.sortSteps ≤ 2047 := by
  obtain ⟨nonneg, le⟩ := h
  obtain ⟨n, rfl⟩ := Int.eq_ofNat_of_zero_le nonneg
  unfold maxPosition maximumRepresentableSlotCount at le
  have limit : v1DispatchLimits.maxAvrInt / v1DispatchLimits.sortMicrosteps = 2047 := by decide
  rw [limit] at le
  split_ifs at le with zero
  · omega
  · have within : n ≤ 2047 / c.sortSteps := by omega
    have product : n * c.sortSteps ≤ 2047 := by
      have positive : 0 < c.sortSteps := Nat.pos_of_ne_zero fun h => zero (.inl h)
      exact (Nat.le_div_iff_mul_le positive).mp within
    exact ⟨Int.mul_nonneg nonneg (Int.natCast_nonneg _), Int.ofNat_le.mpr product⟩

/-- The values of the configuration the motion code computes with. -/
structure Configuration.Sized (c : Configuration) : Prop where
  slots : isSlotCountRepresentable c.slotCount c.sortSteps v1DispatchLimits.sortMicrosteps
    v1DispatchLimits.maxAvrInt
  feedSteps : 0 ≤ c.feedSteps ∧ c.feedSteps ≤ 1000
  feedHomingOffset : 0 ≤ c.feedHomingOffset ∧ c.feedHomingOffset ≤ 200
  sortHomingOffset : 0 ≤ c.sortHomingOffset ∧ c.sortHomingOffset ≤ 200
  slotDropDelay : Small c.slotDropDelay
  airDropPostDelay : Small c.airDropPostDelay

namespace Configuration.Sized

variable {c : Configuration}

theorem slotCount (h : c.Sized) : 1 ≤ c.slotCount ∧
    (c.slotCount : Int) - 1 ≤ maxPosition c := by
  have slots := h.slots
  unfold isSlotCountRepresentable at slots
  simp only [Bool.and_eq_true, decide_eq_true_eq] at slots
  unfold maxPosition
  omega

theorem zero (h : c.Sized) : InQueue c 0 := ⟨Int.le_refl 0, by have := h.slotCount; omega⟩

theorem default : defaultConfiguration.Sized := by
  constructor <;> first | decide | exact ⟨by decide, by decide⟩

end Configuration.Sized

/-- The configuration and the two queued positions a command finds. -/
structure QueueSized (context : V1DispatchContext) (c : Configuration) : Prop where
  sized : c.Sized
  first : InQueue c context.queuedPositionOne
  second : InQueue c context.queuedPositionTwo

theorem dispatchV1Setter_sized {command : Bytes} {kind : V1Command} {context : V1DispatchContext}
    {c : Configuration} (h : QueueSized context c) :
    QueueSized context (dispatchV1Setter command kind context c v1DispatchLimits).2 := by
  have bounded {store : Nat → Configuration} {result : Nat → V1DispatchResult}
      (accept : ∀ minimum maximum value,
        v1SetterRange kind c v1DispatchLimits = some (minimum, maximum) → value ≤ maximum →
          QueueSized context (store value)) :
      QueueSized context (boundedSetter command kind c v1DispatchLimits store result).2 :=
    boundedSetter_configuration h accept
  have sized := h.sized
  cases kind
  case sortSteps =>
    simp only [dispatchV1Setter, dispatchSortSteps]
    split
    · exact h
    · split_ifs with refused
      · exact h
      · simp only [not_or, Int.not_lt, Bool.not_eq_true', Bool.not_eq_false] at refused
        exact ⟨{ sized with slots := refused.2.2 }, ⟨h.first.1, refused.1⟩,
          ⟨h.second.1, refused.2.1⟩⟩
  case slotCount =>
    simp only [dispatchV1Setter, dispatchSlotCount]
    split
    · exact h
    · split_ifs with refused
      · exact h
      · simp only [Bool.not_eq_true', Bool.not_eq_false] at refused
        exact ⟨{ sized with slots := refused }, h.first, h.second⟩
  case feedSteps =>
    refine bounded fun _ _ value range le => ?_
    cases range
    exact ⟨{ sized with feedSteps := ⟨Int.natCast_nonneg _, Int.ofNat_le.mpr le⟩ },
      h.first, h.second⟩
  case feedHomingOffset =>
    refine bounded fun _ _ value range le => ?_
    cases range
    exact ⟨{ sized with feedHomingOffset := ⟨Int.natCast_nonneg _, Int.ofNat_le.mpr le⟩ },
      h.first, h.second⟩
  case sortHomingOffset =>
    refine bounded fun _ _ value range le => ?_
    cases range
    exact ⟨{ sized with sortHomingOffset := ⟨Int.natCast_nonneg _, Int.ofNat_le.mpr le⟩ },
      h.first, h.second⟩
  case slotDropDelay =>
    refine bounded fun _ _ value range le => ?_
    cases range
    exact ⟨{ sized with slotDropDelay := small_nat le }, h.first, h.second⟩
  case airDropPostDelay =>
    refine bounded fun _ _ value range le => ?_
    cases range
    exact ⟨{ sized with airDropPostDelay := small_nat le }, h.first, h.second⟩
  case debounceTimeout | debounceTime | feedSpeed | sortSpeed | notificationDelay | airDropPreDelay
      | airDropSignalDuration =>
    exact bounded fun _ _ value range le => ⟨{ sized with }, h.first, h.second⟩
  case airDropEnabled | autoMotorStandbyTimeout | cameraLedLevel =>
    simp only [dispatchV1Setter]
    split
    · exact h
    · exact ⟨{ sized with }, h.first, h.second⟩
  case test | sortTest =>
    simp only [dispatchV1Setter]
    split <;> exact h
  all_goals exact h

theorem dispatchV1Command_sized {command : Bytes} {context : V1DispatchContext} {c : Configuration}
    (h : QueueSized context c) :
    QueueSized context (dispatchV1Command command context c v1DispatchLimits).2 := by
  simp only [dispatchV1Command]
  split_ifs <;> try exact h
  split
  all_goals first
    | exact h
    | exact dispatchPosition_configuration _ _ _ _ _ _ ▸ h
    | exact dispatchV1Setter_sized h

def V1Action.moves : V1Action → Bool
  | .queueFeed | .queueForcedFeed | .sortTo => true
  | _ => false

def V1Action.tests : V1Action → Bool
  | .startTest | .startSortTest => true
  | _ => false

def ValueSized (c : Configuration) (result : V1DispatchResult) : Prop :=
  (result.action.moves → InQueue c result.value) ∧ (result.action.tests → Small result.value)

theorem valueSized_none {c : Configuration} {result : V1DispatchResult}
    (h : result.action = .none) : ValueSized c result := by
  unfold ValueSized
  rw [h]
  exact ⟨nofun, nofun⟩

theorem dispatchPosition_value {text : Bytes} {kind : V1Command} {c : Configuration}
    {action : V1Action} {output : V1Output} (h : c.Sized) (moves : action.tests = false) :
    ValueSized (dispatchPosition text kind c v1DispatchLimits action output).2
      (dispatchPosition text kind c v1DispatchLimits action output).1 := by
  unfold dispatchPosition
  split
  · exact valueSized_none rfl
  · rename_i value parsed
    have highest : (value : Int) ≤ maxPosition c := by
      have le := parseBoundedInt_le parsed
      have slots := h.slotCount
      unfold maxPosition at slots ⊢
      omega
    refine ⟨fun _ => ⟨Int.natCast_nonneg _, highest⟩, fun tests => ?_⟩
    exact absurd (moves.symm.trans tests) nofun

theorem dispatchV1Setter_value {command : Bytes} {kind : V1Command} {context : V1DispatchContext}
    {c : Configuration} :
    ValueSized (dispatchV1Setter command kind context c v1DispatchLimits).2
      (dispatchV1Setter command kind context c v1DispatchLimits).1 := by
  have action := dispatchV1Setter_action command kind context c v1DispatchLimits
  cases kind
  case test | sortTest =>
    simp only [dispatchV1Setter]
    split
    · exact valueSized_none rfl
    · rename_i value parsed
      exact ⟨by rintro ⟨⟩, fun _ => small_nat (parseBoundedInt_le parsed)⟩
  case numericPosition | sortTo | forceFeed => exact valueSized_none rfl
  all_goals
    unfold ValueSized
    rcases action with action | action <;> rw [action] <;>
      exact ⟨by rintro ⟨⟩, by rintro ⟨⟩⟩

theorem dispatchV1Command_value {command : Bytes} {context : V1DispatchContext} {c : Configuration}
    (h : c.Sized) : ValueSized (dispatchV1Command command context c v1DispatchLimits).2
      (dispatchV1Command command context c v1DispatchLimits).1 := by
  simp only [dispatchV1Command]
  split_ifs
  · exact valueSized_none rfl
  · exact valueSized_none rfl
  · exact ⟨by rintro ⟨⟩, by rintro ⟨⟩⟩
  · exact valueSized_none rfl
  · exact valueSized_none rfl
  · exact ⟨by rintro ⟨⟩, by rintro ⟨⟩⟩
  · split
    · exact dispatchPosition_value h rfl
    · exact valueSized_none rfl
    · exact ⟨by rintro ⟨⟩, by rintro ⟨⟩⟩
    · exact ⟨by rintro ⟨⟩, by rintro ⟨⟩⟩
    · exact dispatchPosition_value h rfl
    · exact dispatchPosition_value h rfl
    · exact valueSized_none rfl
    · exact dispatchV1Setter_value

structure SorterSized (c : Configuration) (q : Sorter) : Prop where
  first : InQueue c q.qPos1
  second : InQueue c q.qPos2
  pending : InQueue c q.pendingQueuedDestination
  gate : q.slotDropGate.active = false → q.pendingQueuedDestination = 0
  tracker : -32752 ≤ q.sortStepsToNextPositionTracker ∧
    q.sortStepsToNextPositionTracker ≤ 32752
  left : (0 ≤ q.sortStepsToNextPosition ∧
      q.sortStepsToNextPosition ≤ q.sortStepsToNextPositionTracker) ∨
    (q.sortStepsToNextPositionTracker ≤ q.sortStepsToNextPosition ∧
      q.sortStepsToNextPosition ≤ 0)
  homingSteps : 0 ≤ q.homingSteps ∧ q.homingSteps ≤ 3360
  offset : 0 ≤ q.sortHomingOffsetSteps ∧ q.sortHomingOffsetSteps ≤ 3200

structure TestsSized (d : Diagnostics) : Prop where
  completed : 0 ≤ d.testsCompleted ∧ d.testsCompleted ≤ d.testCycleInterval
  interval : d.testCycleInterval ≤ 32767

structure DelaysSized (d : Drive) : Prop where
  sort : 0 ≤ d.sortDelayMs ∧ d.sortDelayMs ≤ 1200
  feed : 0 ≤ d.feedDelayMs ∧ d.feedDelayMs ≤ 1200

structure Sized (s : State) : Prop where
  configuration : s.configuration.Sized
  derived : Derived s.configuration s.drive
  sorter : SorterSized s.configuration s.sorter
  tests : TestsSized s.diagnostics
  delays : DelaysSized s.drive

theorem convertSpeedToDelay_le (speed : Int) :
    60 ≤ convertSpeedToDelay speed ∧ convertSpeedToDelay speed ≤ 1000 := by
  unfold convertSpeedToDelay
  split_ifs <;> omega

theorem left_after_step {left tracker : Int}
    (h : (0 ≤ left ∧ left ≤ tracker) ∨ (tracker ≤ left ∧ left ≤ 0))
    (moving : left ≠ 0) :
    (0 ≤ left + (if decide (0 < left) then -1 else 1) ∧
        left + (if decide (0 < left) then -1 else 1) ≤ tracker) ∨
      (tracker ≤ left + (if decide (0 < left) then -1 else 1) ∧
        left + (if decide (0 < left) then -1 else 1) ≤ 0) := by
  by_cases forward : 0 < left
  · simp only [forward, decide_true, if_true]
    omega
  · simp only [forward, decide_false, Bool.false_eq_true, if_false]
    omega

theorem accSortDelay_le {d : Drive} (speed : 0 ≤ d.sortMotorSpeed ∧ d.sortMotorSpeed ≤ 1000)
    {tracker left : Int} (within : (left.natAbs : Int) ≤ tracker.natAbs) :
    0 ≤ State.accSortDelay d tracker left ∧ State.accSortDelay d tracker left ≤ 1200 := by
  simp only [State.accSortDelay, accSortEnabled, sortAccSlope, accFactor, sortRamp]
  split_ifs <;> omega

namespace SorterSized

variable {c : Configuration} {q : Sorter}

theorem of_rest (first : InQueue c q.qPos1) (second : InQueue c q.qPos2)
    (pending : InQueue c q.pendingQueuedDestination)
    (gate : q.slotDropGate.active = false → q.pendingQueuedDestination = 0)
    (tracker : q.sortStepsToNextPositionTracker = 0) (left : q.sortStepsToNextPosition = 0)
    (homing : q.homingSteps = 0) (offset : q.sortHomingOffsetSteps = 0) : SorterSized c q := by
  refine ⟨first, second, pending, gate, ?_, ?_, ?_, ?_⟩
  · rw [tracker]
    decide
  · rw [tracker, left]
    decide
  · rw [homing]
    decide
  · rw [offset]
    decide

theorem left_abs (h : SorterSized c q) :
    (q.sortStepsToNextPosition.natAbs : Int) ≤ q.sortStepsToNextPositionTracker.natAbs := by
  have left := h.left
  omega

end SorterSized

namespace State

theorem positionSteps_le {s : State} {p : Int} (h : InQueue s.configuration p) :
    0 ≤ s.positionSteps p ∧ s.positionSteps p ≤ 32752 := by
  have product := h.product
  unfold positionSteps sortMicrosteps
  omega

theorem beginMove_sized {s : State} (h : SorterSized s.configuration s.sorter) {position next : Int}
    (first : InQueue s.configuration position) (second : InQueue s.configuration next) :
    SorterSized s.configuration (s.beginMove position next).sorter := by
  have start := positionSteps_le h.first
  have target := positionSteps_le first
  refine ⟨first, second, h.pending, h.gate, ?_, ?_, h.homingSteps, h.offset⟩
  · dsimp only [beginMove]
    omega
  · dsimp only [beginMove]
    omega

theorem beginQueuedSorterTransition_sized {s : State} (h : SorterSized s.configuration s.sorter)
    {position : Int} (first : InQueue s.configuration position) :
    SorterSized s.configuration (s.beginQueuedSorterTransition position).sorter :=
  beginMove_sized h h.second first

theorem moveSorterToNextPosition_sized {s : State} (h : SorterSized s.configuration s.sorter)
    {position : Int} (first : InQueue s.configuration position) (now : UInt32) :
    SorterSized s.configuration (s.moveSorterToNextPosition position now).sorter := by
  dsimp only [moveSorterToNextPosition]
  split_ifs
  · exact ⟨h.first, h.second, first, nofun, h.tracker, h.left, h.homingSteps, h.offset⟩
  · exact beginQueuedSorterTransition_sized h first

theorem scheduleRun_sorter (s : State) (t : Ticks) : (s.scheduleRun t).sorter = s.sorter := by
  dsimp only [scheduleRun]
  split_ifs <;> rfl

theorem scheduleRun_diagnostics (s : State) (t : Ticks) :
    (s.scheduleRun t).diagnostics = s.diagnostics := by
  dsimp only [scheduleRun]
  split_ifs <;> rfl

theorem queueFeed_sized {s : State} (h : SorterSized s.configuration s.sorter) {position : Int}
    (first : InQueue s.configuration position) (t : Ticks) :
    SorterSized s.configuration (s.queueFeed position t).sorter := by
  have moved := moveSorterToNextPosition_sized h first t.now
  rw [queueFeed, scheduleRun_sorter]
  exact moved

theorem queueFeed_diagnostics (s : State) (position : Int) (t : Ticks) :
    (s.queueFeed position t).diagnostics = s.diagnostics := by
  rw [queueFeed, scheduleRun_diagnostics]
  dsimp only [scheduleFeed, moveSorterToNextPosition]
  split_ifs <;> rfl

end State

namespace Sized

theorem of_same {s t : State} (h : Sized s) (configuration : t.configuration = s.configuration)
    (drive : t.drive = s.drive) (sorter : t.sorter = s.sorter)
    (diagnostics : t.diagnostics = s.diagnostics) : Sized t := by
  constructor <;> simp only [configuration, drive, sorter, diagnostics]
  exacts [h.1, h.2, h.3, h.4, h.5]

theorem of_linkOnly {s t : State} (h : Sized s) (same : LinkOnly s t) : Sized t := by
  rw [same.machine]
  exact h.of_same rfl rfl rfl rfl

theorem of_sorter {s t : State} (h : Sized s) (configuration : t.configuration = s.configuration)
    (drive : t.drive = s.drive) (sorter : SorterSized s.configuration t.sorter)
    (diagnostics : t.diagnostics = s.diagnostics) : Sized t := by
  constructor <;> simp only [configuration, drive, diagnostics]
  exacts [h.1, h.2, sorter, h.4, h.5]

theorem boot (now : UInt32) : Sized (Firmware.boot now) where
  configuration := .default
  derived := .boot now
  sorter := .of_rest Configuration.Sized.default.zero Configuration.Sized.default.zero
    Configuration.Sized.default.zero (fun _ => rfl) rfl rfl rfl rfl
  tests := (⟨by decide, by decide⟩ : TestsSized powerOn.diagnostics)
  delays :=
    have powered : DelaysSized powerOn.drive := ⟨by decide, by decide⟩
    ⟨powered.sort, powered.feed⟩

theorem enterStoppedState {s : State} (h : Sized s) : Sized s.enterStoppedState where
  configuration := h.configuration
  derived := h.derived
  sorter := .of_rest h.sorter.first h.sorter.second h.configuration.zero
    (fun _ => rfl) rfl rfl rfl rfl
  tests := ⟨⟨Int.le_refl 0, Int.le_refl 0⟩, (by decide : (0 : Int) ≤ 32767)⟩
  delays := h.delays

theorem applyV1Action_configuration {t : State} (h : t.configuration.Sized)
    (result : V1DispatchResult) (ticks : Ticks) :
    (t.applyV1Action result ticks).configuration.Sized := by
  unfold State.applyV1Action
  cases result.action
  case queueFeed | queueForcedFeed =>
    dsimp only
    rw [State.queueFeed_configuration]
    exact h
  case applyCameraLedLevel => exact { h with }
  all_goals exact h

theorem applyV1Action_sorter {t : State} (h : SorterSized t.configuration t.sorter)
    (sized : t.configuration.Sized) {result : V1DispatchResult}
    (value : ValueSized t.configuration result) (ticks : Ticks) :
    SorterSized (t.applyV1Action result ticks).configuration
      (t.applyV1Action result ticks).sorter := by
  unfold State.applyV1Action
  cases action : result.action <;> rw [ValueSized, action] at value
  case stop => exact .of_rest h.first h.second sized.zero (fun _ => rfl) rfl rfl rfl rfl
  case homeSorter =>
    have rest : (0 : Int) ≤ 0 ∧ (0 : Int) ≤ 3360 ∧ (0 : Int) ≤ 3200 := by decide
    exact ⟨h.first, h.second, h.pending, h.gate, h.tracker, h.left, ⟨rest.1, rest.2.1⟩,
      ⟨rest.1, rest.2.2⟩⟩
  case queueFeed =>
    dsimp only
    rw [State.queueFeed_configuration]
    exact @State.queueFeed_sized (t.setForceFeed false) h _ (value.1 rfl) ticks
  case queueForcedFeed =>
    dsimp only
    rw [State.queueFeed_configuration]
    exact @State.queueFeed_sized (t.setForceFeed true) h _ (value.1 rfl) ticks
  case sortTo => exact State.beginMove_sized h (value.1 rfl) (value.1 rfl)
  case applySortHomingOffset =>
    have offset := sized.sortHomingOffset
    have steps : 0 ≤ t.configuration.sortHomingOffset * sortMicrosteps ∧
        t.configuration.sortHomingOffset * sortMicrosteps ≤ 3200 := by
      unfold sortMicrosteps
      omega
    exact ⟨h.first, h.second, h.pending, h.gate, h.tracker, h.left, h.homingSteps, steps⟩
  case applyCameraLedLevel =>
    exact ⟨h.first, h.second, h.pending, h.gate, h.tracker, h.left, h.homingSteps, h.offset⟩
  all_goals exact h

theorem applyV1Action_tests {t : State} (h : TestsSized t.diagnostics) {result : V1DispatchResult}
    (value : ValueSized t.configuration result) (ticks : Ticks) :
    TestsSized (t.applyV1Action result ticks).diagnostics := by
  unfold State.applyV1Action
  cases action : result.action <;> rw [ValueSized, action] at value
  case stop => exact ⟨⟨Int.le_refl 0, Int.le_refl 0⟩, (by decide : (0 : Int) ≤ 32767)⟩
  case startTest | startSortTest =>
    exact ⟨⟨Int.le_refl 0, (value.2 rfl).1⟩, (value.2 rfl).2⟩
  case queueFeed | queueForcedFeed =>
    dsimp only
    rw [State.queueFeed_diagnostics]
    exact h
  all_goals exact h

theorem applyV1Action_delays {t : State} (h : DelaysSized t.drive) (result : V1DispatchResult)
    (ticks : Ticks) : DelaysSized (t.applyV1Action result ticks).drive := by
  have reset : (0 : Int) ≤ 400 ∧ (400 : Int) ≤ 1200 := by decide
  unfold State.applyV1Action
  cases result.action
  case homeFeeder => exact ⟨h.sort, reset⟩
  case homeSorter => exact ⟨reset, h.feed⟩
  case queueFeed | queueForcedFeed =>
    dsimp only
    rw [State.queueFeed_drive]
    exact h
  all_goals exact ⟨h.sort, h.feed⟩

theorem acted {s t : State} {result : V1DispatchResult} (h : Sized s)
    (idle : s.executionBusy = false) (asked : Asked s result t.configuration)
    (machine : t = { s with configuration := t.configuration, link := t.link }) (ticks : Ticks) :
    Sized (t.applyV1Action result ticks) := by
  have drive : t.drive = s.drive := by rw [machine]
  have derived := Derived.applyV1Action ticks (drive ▸ h.derived) asked.refreshes
  obtain ⟨command, context, one, two, dispatch⟩ := asked
  have queue : QueueSized context s.configuration :=
    ⟨h.configuration, one ▸ h.sorter.first, two ▸ h.sorter.second⟩
  have sized := @dispatchV1Command_sized command context s.configuration queue
  have value := @dispatchV1Command_value command context s.configuration h.configuration
  rw [dispatch] at sized value
  have ungated : s.sorter.slotDropGate.active = false := by
    simp only [State.executionBusy, Bool.or_eq_false_iff] at idle
    exact idle.1.1.1.1.1.1.2
  have sorter : SorterSized t.configuration t.sorter := by
    have same : t.sorter = s.sorter := by rw [machine]
    rw [same]
    refine ⟨one ▸ sized.first, two ▸ sized.second, ?_, h.sorter.gate, h.sorter.tracker,
      h.sorter.left, h.sorter.homingSteps, h.sorter.offset⟩
    rw [h.sorter.gate ungated]
    exact sized.sized.zero
  have tests : TestsSized t.diagnostics := by
    rw [machine]
    exact h.tests
  exact ⟨applyV1Action_configuration sized.sized result ticks, derived,
    applyV1Action_sorter sorter sized.sized value ticks, applyV1Action_tests tests value ticks,
    applyV1Action_delays (drive ▸ h.delays) result ticks⟩

theorem commanded {s t : State} (h : Sized s) (step : Commanded s t) : Sized t := by
  cases step with
  | quiet same => exact h.of_linkOnly same
  | stopped stop =>
    rw [stop.machine]
    exact h.enterStoppedState.of_same rfl rfl rfl rfl
  | switched idle machine tracker latched =>
    rw [machine]
    exact h.of_same rfl rfl rfl rfl
  | acted s₁ result ticks idle asked prepared permitted done =>
    exact (h.acted idle asked prepared.machine ticks).of_linkOnly done

theorem reportMotion {s : State} (h : Sized s) (slot : Int)
    (finished : PhysicalRequestTracker × PhysicalRequestTransition) :
    Sized (s.reportMotion slot finished) := by
  rw [State.reportMotion_machine]
  exact h.of_same rfl rfl rfl rfl

theorem updateRecoveryCompletion {s : State} (h : Sized s) (axis : MachineAxis) :
    Sized (s.updateRecoveryCompletion axis) := by
  rcases s.updateRecoveryCompletion_eq axis with eq | eq | ⟨-, -, eq⟩ <;> rw [eq]
  · exact h
  · exact h.of_same rfl rfl rfl rfl
  · have q := h.sorter
    exact h.of_sorter rfl rfl ⟨h.configuration.zero, h.configuration.zero, q.pending, q.gate,
      q.tracker, q.left, q.homingSteps, q.offset⟩ rfl

theorem completeFeedHoming {s : State} (h : Sized s) (now : UInt32) :
    Sized (s.completeFeedHoming now) := by
  have stopped : Sized (s.stopFeedHoming now) := h.of_same rfl rfl rfl rfl
  have recovered := stopped.updateRecoveryCompletion .feeder
  have ended : Sized (s.feedHomingEnds now) := by
    dsimp only [State.feedHomingEnds]
    split_ifs <;> exact recovered.of_same rfl rfl rfl rfl
  dsimp only [State.completeFeedHoming]
  split_ifs
  · have q := ended.sorter
    have rest : (0 : Int) ≤ 0 ∧ (0 : Int) ≤ 3360 ∧ (0 : Int) ≤ 3200 ∧
      (0 : Int) ≤ 400 ∧
        (400 : Int) ≤ 1200 := by decide
    have d := ended.derived
    exact ⟨ended.configuration, ⟨d.1, d.2, d.3, d.4, d.5, d.6, d.7, d.8⟩,
      ⟨q.first, q.second, q.pending, q.gate, q.tracker, q.left, ⟨rest.1, rest.2.1⟩,
        ⟨rest.1, rest.2.2.1⟩⟩, ended.tests, ⟨rest.2.2.2, ended.delays.feed⟩⟩
  · exact ended.reportMotion _ _

theorem feedHomingOffsetStep {s : State} (h : Sized s) (now : UInt32) :
    Sized (s.feedHomingOffsetStep now) := by
  unfold State.feedHomingOffsetStep
  split_ifs
  · exact h
  · exact h.completeFeedHoming now
  · exact h.of_same rfl rfl rfl rfl
  · exact h.completeFeedHoming now

theorem homeFeedMotor {s : State} (h : Sized s) (sensor : Bool) (now : UInt32) :
    Sized (s.homeFeedMotor sensor now) := by
  dsimp only [State.homeFeedMotor]
  split_ifs
  · exact h.completeFeedHoming now
  · refine feedHomingOffsetStep ?_ now
    exact h.of_same rfl rfl rfl rfl
  · exact h.of_same rfl rfl rfl rfl
  · exact h.feedHomingOffsetStep now

theorem completeSorterRecoveryHoming {s : State} (h : Sized s) (now : UInt32) :
    Sized (s.completeSorterRecoveryHoming now) := by
  have q := h.sorter
  have rest : (0 : Int) ≤ 0 ∧ (0 : Int) ≤ 3360 ∧ (0 : Int) ≤ 3200 := by decide
  have stopped : Sized ((s.stopSorterHoming now).record .sorterHomed) :=
    h.of_sorter rfl rfl ⟨h.configuration.zero, h.configuration.zero, q.pending, q.gate, q.tracker,
      q.left, ⟨rest.1, rest.2.1⟩, ⟨rest.1, rest.2.2⟩⟩ rfl
  exact (stopped.updateRecoveryCompletion .sorter).reportMotion _ _

theorem searchStep {s : State} (h : Sized s) (cause : StepCause) {limit : Int}
    (within : limit ≤ 3360) : Sized (s.searchStep cause limit) := by
  have q := h.sorter
  have homing := q.homingSteps
  unfold State.searchStep
  split_ifs with more
  · have next : 0 ≤ s.sorter.homingSteps + 1 ∧ s.sorter.homingSteps + 1 ≤ 3360 := by omega
    exact h.of_sorter rfl rfl ⟨q.first, q.second, q.pending, q.gate, q.tracker, q.left, next,
      q.offset⟩ rfl
  · exact h

theorem recoverySearch {s : State} (h : Sized s) (sensor : Bool) :
    Sized (s.recoverySearch sensor) := by
  unfold State.recoverySearch
  split_ifs
  · exact h
  · exact h.searchStep _ (by decide)
  · have q := h.sorter
    have rest : (0 : Int) ≤ 0 ∧ (0 : Int) ≤ 3360 := by decide
    have offset : 0 ≤ s.drive.sortHomingOffset ∧ s.drive.sortHomingOffset ≤ 3200 := by
      have configured := h.configuration.sortHomingOffset
      rw [h.derived.sortHomingOffset, sortMicrosteps]
      omega
    exact h.of_sorter rfl rfl ⟨q.first, q.second, q.pending, q.gate, q.tracker, q.left, rest,
      offset⟩ rfl

theorem sortHomingOffsetStep {s : State} (h : Sized s) (now : UInt32) :
    Sized (s.sortHomingOffsetStep now) := by
  unfold State.sortHomingOffsetStep
  split_ifs with off none more
  · exact h
  · exact h.completeSorterRecoveryHoming now
  · have q := h.sorter
    have offset := q.offset
    have next : 0 ≤ s.sorter.sortHomingOffsetSteps - 1 ∧
        s.sorter.sortHomingOffsetSteps - 1 ≤ 3200 := by omega
    exact h.of_sorter rfl rfl ⟨q.first, q.second, q.pending, q.gate, q.tracker, q.left,
      q.homingSteps, next⟩ rfl
  · exact h.completeSorterRecoveryHoming now

theorem slotZeroEnds {s : State} (h : Sized s) : Sized s.slotZeroEnds := by
  have q := h.sorter
  exact h.of_sorter rfl rfl ⟨q.first, q.second, q.pending, q.gate, q.tracker, q.left,
    q.homingSteps, q.offset⟩ rfl

theorem homeSortMotor {s : State} (h : Sized s) (sensor : Bool) (now : UInt32) :
    Sized (s.homeSortMotor sensor now) := by
  have rest : (0 : Int) ≤ 0 ∧ (0 : Int) ≤ 3360 := by decide
  have q := h.slotZeroEnds.sorter
  unfold State.homeSortMotor
  split_ifs
  · exact h
  · exact h.completeSorterRecoveryHoming now
  · exact h.slotZeroEnds.of_sorter rfl rfl ⟨q.first, q.second, q.pending, q.gate, q.tracker,
      q.left, q.homingSteps, q.offset⟩ rfl
  · exact h.searchStep _ (by decide)
  · exact h.slotZeroEnds.of_sorter rfl rfl ⟨q.first, q.second, q.pending, q.gate, q.tracker,
      q.left, rest, q.offset⟩ rfl
  · exact (h.recoverySearch sensor).sortHomingOffsetStep now

theorem runSortMotor {s : State} (h : Sized s) : Sized s.runSortMotor := by
  have q := h.sorter
  dsimp only [State.runSortMotor]
  split_ifs with idle arrived zero
  · exact h
  · have rest : (0 : Int) ≤ 0 ∧ (0 : Int) ≤ 3360 := by decide
    have pass : SorterSized s.configuration s.slotZeroPass.sorter := by
      unfold State.slotZeroPass
      dsimp only
      split_ifs <;> exact ⟨q.first, q.second, q.pending, q.gate, q.tracker, q.left,
        rest, q.offset⟩
    refine h.of_sorter ?_ ?_ pass ?_ <;> dsimp only [State.slotZeroPass] <;> split_ifs <;> rfl
  · exact h.of_sorter rfl rfl ⟨q.first, q.second, q.pending, q.gate, q.tracker, q.left,
      q.homingSteps, q.offset⟩ rfl
  · have speed := convertSpeedToDelay_le s.configuration.sortSpeed
    rw [← h.derived.sortMotorSpeed] at speed
    have delay := @accSortDelay_le s.drive (by omega) s.sorter.sortStepsToNextPositionTracker
      s.sorter.sortStepsToNextPosition q.left_abs
    have d := h.derived
    have left := q.left
    refine ⟨h.configuration, ⟨d.1, d.2, d.3, d.4, d.5, d.6, d.7, d.8⟩, ?_, h.tests,
      ⟨delay, h.delays.feed⟩⟩
    refine ⟨q.first, q.second, q.pending, q.gate, q.tracker, ?_, q.homingSteps, q.offset⟩
    have closer := left_after_step left arrived
    exact closer

theorem onSortComplete {s : State} (h : Sized s) (now : UInt32) : Sized (s.onSortComplete now) := by
  have q := h.sorter
  unfold State.onSortComplete
  split_ifs
  · have ended : Sized (s.sortEnds now) :=
      h.of_sorter rfl rfl ⟨q.first, q.second, q.pending, q.gate, q.tracker, q.left,
        q.homingSteps, q.offset⟩ rfl
    exact ended.reportMotion _ _
  · exact h

theorem updateSlotDropGate {s : State} (h : Sized s) (now : UInt32) :
    Sized (s.updateSlotDropGate now) := by
  have q := h.sorter
  unfold State.updateSlotDropGate
  split_ifs
  · exact h
  · have opened : SorterSized s.configuration s.openSlotDropGate.sorter :=
      ⟨q.first, q.second, h.configuration.zero, fun _ => rfl, q.tracker, q.left, q.homingSteps,
        q.offset⟩
    exact h.of_sorter rfl rfl
      (@State.beginQueuedSorterTransition_sized s.openSlotDropGate opened _ q.pending) rfl

theorem scheduleRun {s : State} (h : Sized s) (t : Ticks) : Sized (s.scheduleRun t) :=
  h.of_same (s.scheduleRun_configuration t) (s.scheduleRun_drive t) (s.scheduleRun_sorter t)
    (s.scheduleRun_diagnostics t)

theorem checkFeedErrors {s : State} (h : Sized s) : Sized s.checkFeedErrors := by
  have q := h.sorter
  have faulted : Sized s.feedOvertravel := by
    have sorter : SorterSized s.configuration s.feedOvertravel.sorter := by
      dsimp only [State.feedOvertravel]
      split_ifs <;> exact .of_rest q.first q.second q.pending q.gate rfl rfl rfl rfl
    have tests : TestsSized s.feedOvertravel.diagnostics := by
      have cleared : (0 : Int) ≤ 0 ∧ (0 : Int) ≤ 32767 := by decide
      dsimp only [State.feedOvertravel]
      split_ifs <;> exact ⟨⟨cleared.1, cleared.1⟩, cleared.2⟩
    have configuration : s.feedOvertravel.configuration = s.configuration := by
      dsimp only [State.feedOvertravel]
      split_ifs <;> rfl
    have drive : s.feedOvertravel.drive = s.drive := by
      dsimp only [State.feedOvertravel]
      split_ifs <;> rfl
    exact ⟨configuration ▸ h.configuration, configuration ▸ drive ▸ h.derived,
      configuration ▸ sorter, tests, drive ▸ h.delays⟩
  unfold State.checkFeedErrors
  split_ifs
  · rw [State.reportFeedOvertravel_machine]
    exact faulted.of_same rfl rfl rfl rfl
  · exact h

theorem runFeedMotor {s : State} (h : Sized s) : Sized s.runFeedMotor := by
  have d := h.derived
  have speed := convertSpeedToDelay_le s.configuration.feedSpeed
  rw [← d.feedMotorSpeed] at speed
  have delay : 0 ≤ s.drive.feedMotorSpeed ∧ s.drive.feedMotorSpeed ≤ 1200 := by omega
  dsimp only [State.runFeedMotor]
  split_ifs
  · exact h
  · exact ⟨h.configuration, ⟨d.1, d.2, d.3, d.4, d.5, d.6, d.7, d.8⟩, h.sorter, h.tests,
      ⟨h.delays.sort, delay⟩⟩
  · exact h.of_same rfl rfl rfl rfl
  · exact h

theorem serviceSorterJog {s : State} (h : Sized s) : Sized s.serviceSorterJog := by
  have q := h.sorter
  have sorter : SorterSized s.configuration s.serviceSorterJog.sorter := by
    dsimp only [State.serviceSorterJog, State.sorterJogEnds]
    split_ifs <;> exact ⟨q.first, q.second, q.pending, q.gate, q.tracker, q.left, q.homingSteps,
      q.offset⟩
  refine h.of_sorter ?_ ?_ sorter ?_ <;>
    dsimp only [State.serviceSorterJog, State.sorterJogEnds] <;> split_ifs <;> rfl

theorem feedCompletionTurns {s : State} (h : Sized s) (turns : Nat) (now : UInt32) :
    Sized (State.feedCompletionTurns turns s now) := by
  induction turns generalizing s with
  | zero => exact h
  | succ turns ih =>
    have updated : Sized { s with feedCompletion := (s.feedCompletion.update now).1 } :=
      h.of_same rfl rfl rfl rfl
    unfold State.feedCompletionTurns
    dsimp only
    split
    · exact updated
    · exact ih (updated.of_same rfl rfl rfl rfl)
    · exact ih (updated.of_same rfl rfl rfl rfl)
    · exact updated.of_same rfl rfl rfl rfl

theorem onFeedComplete {s : State} (h : Sized s) (now : UInt32) : Sized (s.onFeedComplete now) := by
  unfold State.onFeedComplete
  split_ifs
  · exact h.of_same rfl rfl rfl rfl
  · exact h
  · refine feedCompletionTurns ?_ 3 now
    dsimp only
    split_ifs <;> exact h.of_same rfl rfl rfl rfl
  · exact h.feedCompletionTurns 3 now

theorem random_inQueue {c : Configuration} (h : c.Sized) (raw : Nat) :
    InQueue c (State.randomBelow raw c.slotCount : Int) := by
  have slots := h.slotCount
  have below : State.randomBelow raw c.slotCount < c.slotCount := by
    unfold State.randomBelow
    split_ifs
    · omega
    · exact Nat.mod_lt _ (by omega)
  exact ⟨Int.natCast_nonneg _, by omega⟩

theorem runTestCycle {s : State} (h : Sized s) (raw : Nat) (t : Ticks) :
    Sized (s.runTestCycle raw t) := by
  have tests := h.tests
  dsimp only [State.runTestCycle]
  split_ifs with test more
  · have configuration := s.queueFeed_configuration
      (State.randomBelow raw s.configuration.slotCount) t
    have drive := s.queueFeed_drive (State.randomBelow raw s.configuration.slotCount) t
    have diagnostics := s.queueFeed_diagnostics (State.randomBelow raw s.configuration.slotCount) t
    have sorter := State.queueFeed_sized h.sorter (random_inQueue h.configuration raw) t
    have next : 0 ≤ s.diagnostics.testsCompleted + 1 ∧
        s.diagnostics.testsCompleted + 1 ≤ s.diagnostics.testCycleInterval := by
      have completed := tests.completed
      omega
    generalize s.queueFeed (State.randomBelow raw s.configuration.slotCount : Nat) t = u at *
    have queued : Sized u := h.of_sorter configuration drive sorter diagnostics
    refine ⟨queued.configuration, queued.derived, queued.sorter, ?_, queued.delays⟩
    refine ⟨?_, queued.tests.interval⟩
    dsimp only [State.emit]
    rw [diagnostics]
    exact next
  · have cleared : (0 : Int) ≤ 0 ∧ (0 : Int) ≤ 32767 := by decide
    exact ⟨h.configuration, h.derived, h.sorter,
      ⟨⟨cleared.1, cleared.1⟩, cleared.2⟩, h.delays⟩
  · exact h

theorem runSortTestCycle {s : State} (h : Sized s) (raw : Nat) (now : UInt32) :
    Sized (s.runSortTestCycle raw now) := by
  have tests := h.tests
  dsimp only [State.runSortTestCycle]
  split_ifs with test more pacing elapsed
  · exact ⟨h.configuration, h.derived, h.sorter,
      ⟨tests.completed, tests.interval⟩, h.delays⟩
  · exact h
  · have slot := random_inQueue h.configuration raw
    have next : 0 ≤ s.diagnostics.testsCompleted + 1 ∧
        s.diagnostics.testsCompleted + 1 ≤ s.diagnostics.testCycleInterval := by
      have completed := tests.completed
      omega
    exact ⟨h.configuration, h.derived, State.beginMove_sized h.sorter slot slot,
      ⟨next, tests.interval⟩, h.delays⟩
  · have cleared : (0 : Int) ≤ 0 ∧ (0 : Int) ≤ 32767 := by decide
    have first := h.configuration.zero
    exact ⟨h.configuration, h.derived, State.beginMove_sized h.sorter first first,
      ⟨⟨cleared.1, cleared.1⟩, cleared.2⟩, h.delays⟩
  · exact h

theorem runAux {s : State} (h : Sized s) (raw sortRaw : Nat) (t : Ticks) (now : UInt32) :
    Sized (s.runAux raw sortRaw t now) := by
  unfold State.runAux
  split_ifs
  · exact h
  · exact (h.runTestCycle raw t).runSortTestCycle sortRaw now

theorem exec {s : State} (h : Sized s) (routine : Routine) : Sized (Firmware.exec s routine) := by
  cases routine with
  | serialByte byte t => exact h.commanded (s.serialByte_commanded byte t)
  | dispatchPending t => exact h.commanded (s.dispatchPending_commanded t)
  | getProxState sensor now => exact h.of_same rfl rfl rfl rfl
  | updateSlotDropGate now => exact h.updateSlotDropGate now
  | runSortMotor => exact h.runSortMotor
  | onSortComplete now => exact h.onSortComplete now
  | scheduleRun t => exact h.scheduleRun t
  | checkFeedErrors => exact h.checkFeedErrors
  | runFeedMotor => exact h.runFeedMotor
  | homeFeedMotor sensor now => exact h.homeFeedMotor sensor now
  | homeSortMotor sensor now => exact h.homeSortMotor sensor now
  | serviceSorterJog => exact h.serviceSorterJog
  | onFeedComplete now => exact h.onFeedComplete now
  | runAux raw sortRaw t now => exact h.runAux raw sortRaw t now
  | motorStandByCheck now =>
    dsimp only [Firmware.exec, State.motorStandByCheck]
    split_ifs <;> exact h.of_same rfl rfl rfl rfl
  | serviceV2PhysicalRequest =>
    dsimp only [Firmware.exec, State.serviceV2PhysicalRequest]
    split_ifs <;> exact h.of_same rfl rfl rfl rfl
  | emitV2StateIfChanged => exact h.of_linkOnly s.emitV2StateIfChanged_linkOnly

theorem execAll {s : State} (h : Sized s) (routines : List Routine) :
    Sized (Firmware.execAll s routines) := by
  induction routines generalizing s with
  | nil => exact h
  | cons routine routines ih => exact ih (h.exec routine)

end Sized

end CaseSorter.Firmware
