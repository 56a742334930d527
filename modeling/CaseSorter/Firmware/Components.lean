import Mathlib.Data.Int.Basic

/-! The small classes of the sketch, in the order of their files: machine_state.cpp,
runtime_timer.cpp, step_sequence.cpp, feed_completion.cpp, proximity_settler.cpp and
fault_state_tracker.cpp, which is passed the mode and the phase as their `uint8_t` values. Every
method is a function from the old value to the new one; a method that also returns a result gives
the pair. `millis()` values are `UInt32` and wrap. -/

namespace CaseSorter.Firmware

inductive MachineMode
  | running
  | stopped
  | recovering
  deriving DecidableEq, Repr

inductive MachineAxis
  | feeder
  | sorter
  deriving DecidableEq, Repr

structure AxisState where
  positionKnown : Bool
  recoveryInProgress : Bool
  deriving DecidableEq, Repr

structure MachineState where
  mode : MachineMode
  feeder : AxisState
  sorter : AxisState
  queueResetRequired : Bool
  deriving DecidableEq, Repr

namespace MachineState

def initial : MachineState := ⟨.recovering, ⟨false, true⟩, ⟨false, true⟩, true⟩

def axis (m : MachineState) : MachineAxis → AxisState
  | .feeder => m.feeder
  | .sorter => m.sorter

def isRunning (m : MachineState) : Bool := m.mode = .running

def bothPositionsKnown (m : MachineState) : Bool :=
  m.feeder.positionKnown && m.sorter.positionKnown

def setAxis (m : MachineState) (a : MachineAxis) (v : AxisState) : MachineState :=
  match a with
  | .feeder => { m with feeder := v }
  | .sorter => { m with sorter := v }

def enterStopped (_ : MachineState) : MachineState :=
  ⟨.stopped, ⟨false, false⟩, ⟨false, false⟩, true⟩

def beginRecovery (m : MachineState) (a : MachineAxis) : MachineState :=
  { m.setAxis a ⟨false, true⟩ with mode := .recovering }

def invalidateAxis (m : MachineState) (a : MachineAxis) : MachineState :=
  let m := { m.setAxis a ⟨false, false⟩ with mode := .recovering }
  if a = .sorter then { m with queueResetRequired := true } else m

def completeRecovery (m : MachineState) (a : MachineAxis) : MachineState × Bool :=
  if !(m.axis a).recoveryInProgress then (m, false)
  else
    let m := m.setAxis a ⟨true, false⟩
    if !m.bothPositionsKnown then (m, false) else ({ m with mode := .running }, true)

def acknowledgeQueueReset (m : MachineState) : MachineState :=
  { m with queueResetRequired := false }

def RunningKnown (m : MachineState) : Prop :=
  m.isRunning → m.feeder.positionKnown ∧ m.sorter.positionKnown

theorem completeRecovery_runningKnown {m : MachineState} (h : m.RunningKnown) (axis : MachineAxis) :
    (m.completeRecovery axis).1.RunningKnown := by
  dsimp only [completeRecovery]
  split_ifs with idle unknown
  · exact h
  · intro running
    have known := h (by cases axis <;> exact running)
    cases axis
    · exact ⟨rfl, known.2⟩
    · exact ⟨known.1, rfl⟩
  · intro running
    simpa [bothPositionsKnown] using unknown

theorem completeRecovery_feeder_sorter (m : MachineState) :
    (m.completeRecovery .feeder).1.sorter = m.sorter := by
  dsimp only [completeRecovery]
  split_ifs <;> rfl

theorem completeRecovery_feeder_both {m : MachineState} (h : (m.completeRecovery .feeder).2) :
    m.feeder.recoveryInProgress ∧ m.sorter.positionKnown := by
  dsimp only [completeRecovery] at h
  split_ifs at h with idle unknown
  · simp only [Bool.not_eq_true', Bool.not_eq_false] at idle unknown
    simp only [bothPositionsKnown, Bool.and_eq_true] at unknown
    exact ⟨idle, unknown.2⟩

theorem completeRecovery_queueResetRequired (m : MachineState) (axis : MachineAxis) :
    (m.completeRecovery axis).1.queueResetRequired = m.queueResetRequired := by
  dsimp only [completeRecovery]
  split_ifs <;> cases axis <;> rfl

end MachineState

def hasElapsed (now started duration : UInt32) : Bool := duration ≤ now - started

structure RuntimeTimer where
  started : UInt32
  duration : UInt32
  active : Bool
  deriving DecidableEq, Repr

namespace RuntimeTimer

def initial : RuntimeTimer := ⟨0, 0, false⟩

def start (_ : RuntimeTimer) (started duration : UInt32) : RuntimeTimer :=
  ⟨started, duration, true⟩

def cancel (t : RuntimeTimer) : RuntimeTimer := { t with active := false }

def hasElapsed (t : RuntimeTimer) (now : UInt32) : Bool :=
  t.active && Firmware.hasElapsed now t.started t.duration

end RuntimeTimer

structure StepSequence where
  remaining : Nat
  active : Bool
  complete : Bool
  deriving DecidableEq, Repr

namespace StepSequence

def initial : StepSequence := ⟨0, false, false⟩

def start (_ : StepSequence) (count : Nat) : StepSequence := ⟨count, 0 < count, count = 0⟩

def cancel (_ : StepSequence) : StepSequence := ⟨0, false, false⟩

def takeStep (q : StepSequence) : StepSequence × Bool :=
  if !q.active then (q, false)
  else
    let left := q.remaining - 1
    (if left = 0 then ⟨left, false, true⟩ else { q with remaining := left }, true)

end StepSequence

inductive FeedCompletionState
  | idle
  | preSignalDelay
  | signalHigh
  | notificationDelay
  deriving DecidableEq, Repr

inductive FeedCompletionEvent
  | none
  | signalHigh
  | signalLow
  | notify
  deriving DecidableEq, Repr

structure FeedCompletionConfig where
  airDropEnabled : Bool
  preSignalDelay : UInt32
  signalDuration : UInt32
  notificationDelay : UInt32
  deriving DecidableEq, Repr

structure FeedCompletion where
  state : FeedCompletionState
  config : FeedCompletionConfig
  timer : RuntimeTimer
  deriving DecidableEq, Repr

namespace FeedCompletion

def initial : FeedCompletion := ⟨.idle, ⟨false, 0, 0, 0⟩, .initial⟩

def isActive (f : FeedCompletion) : Bool := f.state ≠ .idle

def airDropActive (f : FeedCompletion) : Bool := f.isActive && f.config.airDropEnabled

def start (f : FeedCompletion) (now : UInt32) (config : FeedCompletionConfig) :
    FeedCompletion × Bool :=
  if f.isActive then (f, false)
  else if config.airDropEnabled then
    (⟨.preSignalDelay, config, f.timer.start now config.preSignalDelay⟩, true)
  else (⟨.notificationDelay, config, f.timer.start now config.notificationDelay⟩, true)

def update (f : FeedCompletion) (now : UInt32) : FeedCompletion × FeedCompletionEvent :=
  if !f.timer.hasElapsed now then (f, .none)
  else
    match f.state with
    | .preSignalDelay =>
      ({ f with state := .signalHigh, timer := f.timer.start now f.config.signalDuration },
        .signalHigh)
    | .signalHigh =>
      ({ f with state := .notificationDelay
                timer := f.timer.start now f.config.notificationDelay }, .signalLow)
    | .notificationDelay => ({ f with state := .idle, timer := f.timer.cancel }, .notify)
    | .idle => (f, .none)

def cancel (f : FeedCompletion) : FeedCompletion :=
  { f with state := .idle, timer := f.timer.cancel }

end FeedCompletion

structure ProximitySettler where
  sensorActive : Bool
  settleRequired : Bool
  absenceActive : Bool
  absenceStartedAt : UInt32
  settleTimer : RuntimeTimer
  deriving DecidableEq, Repr

namespace ProximitySettler

def initial : ProximitySettler := ⟨false, false, false, 0, .initial⟩

def observe (p : ProximitySettler) (now : UInt32) (sensorActive : Bool)
    (absenceTimeout : UInt32) : ProximitySettler :=
  let p := { p with sensorActive }
  if sensorActive then { p with absenceActive := false }
  else
    let p := { p with settleTimer := p.settleTimer.cancel }
    if p.settleRequired then p
    else
      let p := if !p.absenceActive then { p with absenceActive := true, absenceStartedAt := now }
        else p
      if absenceTimeout < now - p.absenceStartedAt then
        { p with absenceActive := false, settleRequired := true }
      else p

def ready (p : ProximitySettler) (now settleDuration : UInt32) (bypass : Bool) :
    ProximitySettler × Bool :=
  if bypass then (p, true)
  else if !p.sensorActive then (p, false)
  else if !p.settleRequired then (p, true)
  else
    let p := if !p.settleTimer.active then
        { p with settleTimer := p.settleTimer.start now settleDuration }
      else p
    if !p.settleTimer.hasElapsed now then (p, false)
    else ({ p with settleTimer := p.settleTimer.cancel, settleRequired := false }, true)

def reset (p : ProximitySettler) : ProximitySettler :=
  ⟨false, false, false, 0, p.settleTimer.cancel⟩

end ProximitySettler

structure FaultStateTracker where
  stateKnown : Bool
  feedOvertravelLatched : Bool
  mode : Nat
  phase : Nat
  deriving DecidableEq, Repr

namespace FaultStateTracker

def initial : FaultStateTracker := ⟨false, false, 0, 0⟩

def baseline (f : FaultStateTracker) (mode phase : Nat) : FaultStateTracker :=
  { f with stateKnown := true, mode, phase }

def observeState (f : FaultStateTracker) (mode phase : Nat) : FaultStateTracker × Bool :=
  if !f.stateKnown then (f.baseline mode phase, false)
  else if f.mode = mode ∧ f.phase = phase then (f, false)
  else (f.baseline mode phase, true)

def latchFeedOvertravel (f : FaultStateTracker) : FaultStateTracker :=
  { f with feedOvertravelLatched := true }

def clearAfterFeedRecovery (f : FaultStateTracker) : FaultStateTracker :=
  { f with feedOvertravelLatched := false }

def faultCode (f : FaultStateTracker) : Nat := if f.feedOvertravelLatched then 3001 else 0

theorem observeState_latched (f : FaultStateTracker) (mode phase : Nat) :
    (f.observeState mode phase).1.feedOvertravelLatched = f.feedOvertravelLatched := by
  unfold observeState
  split_ifs <;> rfl

end FaultStateTracker

end CaseSorter.Firmware
