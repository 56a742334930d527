import CaseSorter.Firmware.FeedCounter

/-! The `int` expressions of the motion code. They are listed as the source writes them,
each where its guard lets it be evaluated, over a state between two routines; a routine
computes the values of the state it starts in or of the one it leaves. -/

namespace CaseSorter.Firmware

/-- The values of an AVR `int`. -/
def Fits (value : Int) : Prop := -32768 ≤ value ∧ value ≤ 32767

/-- A move from the first position of the queue to `position`. -/
def moveTerms (s : State) (position : Int) : List Int :=
  let steps : Int := s.configuration.sortSteps
  [s.sorter.qPos1 * steps, s.positionSteps s.sorter.qPos1, position * steps,
    s.positionSteps position, s.positionSteps s.sorter.qPos1 - s.positionSteps position]

/-- The positions the sorter can be sent to from the state. -/
inductive Requested (s : State) : Int → Prop
  | command (command : Bytes) (context : V1DispatchContext)
      (moves : (dispatchV1Command command context s.configuration
        v1DispatchLimits).1.action.moves) :
      Requested s (dispatchV1Command command context s.configuration v1DispatchLimits).1.value
  | queued : Requested s s.sorter.qPos2
  | heldBack : Requested s s.sorter.pendingQueuedDestination
  | random (raw : Nat) : Requested s (State.randomBelow raw s.configuration.slotCount : Nat)
  | sortTestEnds : Requested s 0

def speedTerms (speed : Int) : List Int :=
  if speed < 1 ∨ 100 < speed then [500]
  else [speed - 1, (speed - 1) * 940 / 99, (speed - 1) * 940 / 99 + 60, convertSpeedToDelay speed]

def parameterTerms (s : State) : List Int :=
  let c := s.configuration
  let d := s.drive
  [c.feedSteps * feedMicrosteps, feedOverstepThreshold * feedMicrosteps,
    c.feedSteps * feedMicrosteps - feedOverstepThreshold * feedMicrosteps,
    c.feedHomingOffset * feedMicrosteps, c.sortHomingOffset * sortMicrosteps,
    d.dropDelay, d.feedMotorSpeed, d.sortMotorSpeed, d.feedMicroSteps, d.feedOverTravelSteps,
    d.feedHomingOffset, d.sortHomingOffset, d.feedDelayMs, d.sortDelayMs]

def counterTerms (s : State) : List Int :=
  let f := s.feeder
  let q := s.sorter
  let t := s.diagnostics
  [f.feedSteps, f.feedSteps - 1, f.feedHomingOffsetSteps, f.feedHomingOffsetSteps - 1,
    q.homingSteps, q.homingSteps + 1, sortFullRevolutionSteps * sortMicrosteps,
    (sortFullRevolutionSteps + sortHomingMarginSteps) * sortMicrosteps,
    q.sortHomingOffsetSteps, q.sortHomingOffsetSteps - 1, q.sortStepsToNextPositionTracker,
    q.sortStepsToNextPosition, q.sortStepsToNextPosition + 1, q.sortStepsToNextPosition - 1,
    t.testCycleInterval, t.testsCompleted] ++
    if t.testsCompleted < t.testCycleInterval then [t.testsCompleted + 1] else []

/-- `slope`, `ramp` and `whole` are the constants of one motor and the length of its motion,
`left` what remains of it. -/
def rampTerms (slope ramp whole left : Int) : List Int :=
  [whole - left, whole - slope] ++
    if whole - left < slope then [(whole - left) * ramp, accFactor - (whole - left) * ramp]
    else if whole - slope < whole - left then [slope - left, (slope - left) * ramp]
    else []

def sortRampTerms (s : State) : List Int :=
  let tracker : Int := s.sorter.sortStepsToNextPositionTracker.natAbs
  let left : Int := s.sorter.sortStepsToNextPosition.natAbs
  [tracker, left] ++ rampTerms sortAccSlope sortRamp tracker left

def feedRampTerms (s : State) : List Int :=
  if s.feeder.isFeeding && 0 < s.feeder.feedSteps then
    rampTerms feedAccSlope feedRamp s.drive.feedMicroSteps s.feeder.feedSteps
  else []

def motionTerms (s : State) : List Int :=
  parameterTerms s ++ speedTerms s.configuration.feedSpeed ++
    speedTerms s.configuration.sortSpeed ++
    counterTerms s ++ sortRampTerms s ++ feedRampTerms s

theorem dispatchV1Setter_moves (command : Bytes) (kind : V1Command) (context : V1DispatchContext)
    (c : Configuration) :
    (dispatchV1Setter command kind context c v1DispatchLimits).1.action.moves = false := by
  have action := dispatchV1Setter_action command kind context c v1DispatchLimits
  cases kind
  case numericPosition | sortTo | forceFeed => rfl
  all_goals rcases action with action | action <;> rw [action] <;> rfl

theorem dispatchV1Command_moves {command : Bytes} {context : V1DispatchContext} {c : Configuration}
    (h : (dispatchV1Command command context c v1DispatchLimits).1.action.moves) :
    (dispatchV1Command command context c v1DispatchLimits).2 = c := by
  revert h
  simp only [dispatchV1Command]
  split_ifs <;> try exact fun _ => rfl
  split
  all_goals first
    | exact fun _ => rfl
    | exact fun _ => dispatchPosition_configuration _ _ _ _ _ _
    | intro moves
      cases (dispatchV1Setter_moves _ _ _ _).symm.trans moves

theorem Requested.inQueue {s : State} (h : Sized s) {position : Int} (r : Requested s position) :
    InQueue s.configuration position := by
  cases r with
  | command command context moves =>
    have value := (@dispatchV1Command_value command context s.configuration h.configuration).1 moves
    rwa [dispatchV1Command_moves moves] at value
  | queued => exact h.sorter.second
  | heldBack => exact h.sorter.pending
  | random raw => exact Sized.random_inQueue h.configuration raw
  | sortTestEnds => exact h.configuration.zero

theorem moveTerms_fit {s : State} (h : Sized s) {position : Int}
    (queued : InQueue s.configuration position) : ∀ term ∈ moveTerms s position, Fits term := by
  have first := h.sorter.first.product
  have second := queued.product
  have start := State.positionSteps_le h.sorter.first
  have target := State.positionSteps_le queued
  simp only [moveTerms, List.forall_mem_cons, Fits]
  refine ⟨?_, ?_, ?_, ?_, ?_, by simp⟩ <;> omega

theorem speedTerms_fit (speed : Int) : ∀ term ∈ speedTerms speed, Fits term := by
  have delay := convertSpeedToDelay_le speed
  unfold speedTerms
  split_ifs with out
  · simp [Fits]
  · simp only [List.forall_mem_cons, Fits]
    refine ⟨?_, ?_, ?_, ?_, by simp⟩ <;> omega

theorem parameterTerms_fit {s : State} (h : Sized s) :
    ∀ term ∈ parameterTerms s, Fits term := by
  have feed := h.configuration.feedSteps
  have feedOffset := h.configuration.feedHomingOffset
  have sortOffset := h.configuration.sortHomingOffset
  have drop := h.configuration.slotDropDelay
  have post := h.configuration.airDropPostDelay
  have feedSpeed := convertSpeedToDelay_le s.configuration.feedSpeed
  have sortSpeed := convertSpeedToDelay_le s.configuration.sortSpeed
  have sortDelay := h.delays.sort
  have feedDelay := h.delays.feed
  simp only [parameterTerms, List.forall_mem_cons, Fits, h.derived.dropDelay,
    h.derived.feedMotorSpeed, h.derived.sortMotorSpeed, h.derived.feedMicroSteps,
    h.derived.feedOverTravelSteps, h.derived.feedHomingOffset, h.derived.sortHomingOffset,
    feedMicrosteps, sortMicrosteps, feedOverstepThreshold]
  unfold Small maxAvrInt at drop post
  refine ⟨?_, ?_, ?_, ?_, ?_, ?_, ?_, ?_, ?_, ?_, ?_, ?_, ?_, ?_, by simp⟩
  all_goals omega

theorem counterTerms_fit {s : State} (h : Sized s) (counted : FeedCounted s) :
    ∀ term ∈ counterTerms s, Fits term := by
  have range := counted.range
  have offset := counted.offset
  have homing := h.sorter.homingSteps
  have sortOffset := h.sorter.offset
  have tracker := h.sorter.tracker
  have left := h.sorter.left
  have completed := h.tests.completed
  have interval := h.tests.interval
  simp only [counterTerms, List.forall_mem_append, List.forall_mem_cons, Fits,
    sortFullRevolutionSteps, sortMicrosteps, sortHomingMarginSteps]
  refine ⟨⟨?_, ?_, ?_, ?_, ?_, ?_, ?_, ?_, ?_, ?_, ?_, ?_, ?_, ?_, ?_, ?_, by simp⟩, ?_⟩
  all_goals try omega
  split_ifs with more
  · simp only [List.forall_mem_cons]
    exact ⟨by omega, by simp⟩
  · simp

theorem rampTerms_fit {slope ramp whole left : Int} (slopes : 0 ≤ slope ∧ slope ≤ 64)
    (ramps : slope * ramp ≤ 1216 ∧ 0 ≤ ramp) (within : 0 ≤ left ∧ left ≤ whole)
    (top : whole ≤ 32752) :
    ∀ term ∈ rampTerms slope ramp whole left, Fits term := by
  have scaled (k : Int) (low : 0 ≤ k) (high : k ≤ slope) :
      0 ≤ k * ramp ∧ k * ramp ≤ 1216 :=
    ⟨Int.mul_nonneg low ramps.2, Int.le_trans
      (Int.mul_le_mul_of_nonneg_right high ramps.2) ramps.1⟩
  simp only [rampTerms, List.forall_mem_append, List.forall_mem_cons, Fits]
  refine ⟨⟨by omega, by omega, by simp⟩, ?_⟩
  split_ifs with up down
  · have scale := scaled (whole - left) (by omega) (by omega)
    simp only [List.forall_mem_cons, accFactor]
    exact ⟨by omega, by omega, by simp⟩
  · have scale := scaled (slope - left) (by omega) (by omega)
    simp only [List.forall_mem_cons]
    exact ⟨by omega, by omega, by simp⟩
  · simp

theorem sortRampTerms_fit {s : State} (h : Sized s) : ∀ term ∈ sortRampTerms s, Fits term := by
  have tracker := h.sorter.tracker
  have left := h.sorter.left_abs
  have ramps : (0 ≤ sortAccSlope ∧ sortAccSlope ≤ 64) ∧ sortAccSlope * sortRamp ≤ 1216 ∧
      0 ≤ sortRamp := by decide
  simp only [sortRampTerms, List.forall_mem_append, List.forall_mem_cons, Fits]
  refine ⟨⟨by omega, by omega, by simp⟩,
    rampTerms_fit ramps.1 ramps.2 ⟨?_, left⟩ ?_⟩ <;> omega

theorem feedRampTerms_fit {s : State} (h : Sized s) (counted : FeedCounted s) :
    ∀ term ∈ feedRampTerms s, Fits term := by
  have micro := h.feedDrive.micro
  have ramps : (0 ≤ feedAccSlope ∧ feedAccSlope ≤ 64) ∧ feedAccSlope * feedRamp ≤ 1216 ∧
      0 ≤ feedRamp := by decide
  unfold feedRampTerms
  split_ifs with feeding
  · simp only [Bool.and_eq_true] at feeding
    exact rampTerms_fit ramps.1 ramps.2 (counted.feeding feeding.1) (by omega)
  · simp

/-- No run overflows an `int` of the motion code, whatever commands it accepts. -/
theorem motion_fits (now : UInt32) (inputs : List LoopInput) (calls : Nat) :
    let s := execAll (boot now) (sketchRun inputs calls)
    (s.sorter.qPos1 ≤ maxPosition s.configuration ∧
      s.sorter.qPos2 ≤ maxPosition s.configuration ∧
      s.sorter.pendingQueuedDestination ≤ maxPosition s.configuration ∧
      (s.configuration.slotCount : Int) - 1 ≤ maxPosition s.configuration) ∧
    (∀ term ∈ motionTerms s, Fits term) ∧
      ∀ position, Requested s position → ∀ term ∈ moveTerms s position, Fits term := by
  intro s
  have sized : Sized s := (Sized.boot now).execAll _
  have counted : FeedCounted s :=
    FeedCounted.execAll (w := .unchecked) (.boot now) (.boot now) (.boot now) trivial
      (.sketchRun inputs calls)
  refine ⟨⟨sized.sorter.first.2, sized.sorter.second.2, sized.sorter.pending.2,
    sized.configuration.slotCount.2⟩, ?_, fun position r =>
      moveTerms_fit sized (r.inQueue sized)⟩
  simp only [motionTerms, List.forall_mem_append]
  exact ⟨⟨⟨⟨⟨parameterTerms_fit sized, speedTerms_fit _⟩, speedTerms_fit _⟩,
    counterTerms_fit sized counted⟩, sortRampTerms_fit sized⟩,
      feedRampTerms_fit sized counted⟩

end CaseSorter.Firmware
