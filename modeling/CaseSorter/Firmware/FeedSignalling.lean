import Mathlib.Data.List.Induction
import CaseSorter.Firmware.Interlock
import CaseSorter.Firmware.ProximitySettling

/-! What is signalled when a feed completes. The component plays a short script with a delay
before each event; the cycles it has played are kept with their true times, and each is shown to
follow the script of the configuration it was started with. In the sketch the pin of the air drop
is high exactly while the component is between its two signal events, and only on a running
machine. -/

namespace CaseSorter.Firmware

open CaseSorter.Runs

/-- What a cycle is to signal, and the delay before each of it. -/
def FeedCompletionConfig.script (c : FeedCompletionConfig) :
    List (UInt32 × FeedCompletionEvent) :=
  (if c.airDropEnabled then [(c.preSignalDelay, .signalHigh), (c.signalDuration, .signalLow)]
    else []) ++ [(c.notificationDelay, .notify)]

/-- A started cycle, with the configuration of its start and the events so far. -/
structure FeedCycle where
  started : Nat
  config : FeedCompletionConfig
  events : List (Nat × FeedCompletionEvent)
  cancelled : Bool
  deriving DecidableEq, Repr

namespace FeedCycle

def latest (c : FeedCycle) : Nat := (c.events.getLast?.map Prod.fst).getD c.started

def rest (c : FeedCycle) : List (UInt32 × FeedCompletionEvent) :=
  c.config.script.drop c.events.length

def signal (c : FeedCycle) (now : Nat) (event : FeedCompletionEvent) : FeedCycle :=
  { c with events := c.events ++ [(now, event)] }

def cancel (c : FeedCycle) : FeedCycle := { c with cancelled := c.cancelled || !c.rest.isEmpty }

end FeedCycle

/-- A call of the component at its true time, or a setter, which changes the configuration that
starts take from then on. -/
inductive SignallingCall
  | set (configuration : FeedCompletionConfig)
  | start (now : Nat)
  | update (now : Nat)
  | cancel
  deriving DecidableEq, Repr

/-- The component, the configuration, the time of the last call and the cycles, newest first. -/
structure Signalling where
  completion : FeedCompletion
  configuration : FeedCompletionConfig
  clock : Nat
  cycles : List FeedCycle
  deriving DecidableEq, Repr

namespace Signalling

def initial (configuration : FeedCompletionConfig) : Signalling :=
  ⟨.initial, configuration, 0, []⟩

def call (s : Signalling) : SignallingCall → Signalling
  | .set configuration => { s with configuration }
  | .start now =>
    let (completion, started) := s.completion.start (low now) s.configuration
    { s with
      completion
      clock := now
      cycles := if started then ⟨now, s.configuration, [], false⟩ :: s.cycles else s.cycles }
  | .update now =>
    let (completion, event) := s.completion.update (low now)
    { s with
      completion
      clock := now
      cycles := if event = .none then s.cycles else s.cycles.modifyHead (·.signal now event) }
  | .cancel =>
    { s with completion := s.completion.cancel, cycles := s.cycles.modifyHead FeedCycle.cancel }

def step (s : Signalling) (c : SignallingCall) : Option Signalling := some (s.call c)

/-- The clock does not go back. -/
def Timely (s : Signalling) : SignallingCall → Prop
  | .start now | .update now => s.clock ≤ now
  | _ => True

end Signalling

/-- What an update is to answer: the next event of the newest cycle, unless that is cancelled,
once its delay has passed on the 32-bit clock. -/
def Signalling.expected (s : Signalling) (now : Nat) : FeedCompletionEvent :=
  match s.cycles with
  | [] => .none
  | c :: _ =>
    match c.rest with
    | [] => .none
    | (delay, event) :: _ =>
      if !c.cancelled && delay.toNat ≤ (now - c.latest) % 4294967296 then event else .none

/-- The events are the first of the script, each at least its delay after the one before it. -/
def Follows : Nat → List (UInt32 × FeedCompletionEvent) →
    List (Nat × FeedCompletionEvent) → Prop
  | _, _, [] => True
  | _, [], _ :: _ => False
  | last, (delay, due) :: script, (now, event) :: events =>
    event = due ∧ last + delay.toNat ≤ now ∧ Follows now script events

theorem follows_nil (last : Nat) (script : List (UInt32 × FeedCompletionEvent)) :
    Follows last script [] := by
  cases script <;> trivial

theorem follows_append {last : Nat} {script : List (UInt32 × FeedCompletionEvent)}
    {events : List (Nat × FeedCompletionEvent)} (h : Follows last script events) {delay : UInt32}
    {due : FeedCompletionEvent} {more : List (UInt32 × FeedCompletionEvent)}
    (rest : script.drop events.length = (delay, due) :: more) {now : Nat}
    (late : (events.getLast?.map Prod.fst).getD last + delay.toNat ≤ now) :
    Follows last script (events ++ [(now, due)]) := by
  induction events generalizing last script with
  | nil =>
    rw [List.length_nil, List.drop_zero] at rest
    subst rest
    exact ⟨rfl, late, follows_nil now more⟩
  | cons entry events ih =>
    cases script with
    | nil => cases h
    | cons expected script =>
      obtain ⟨same, spaced, follows⟩ := h
      refine ⟨same, spaced, ih follows rest ?_⟩
      rw [List.getLast?_cons] at late
      cases last : events.getLast? <;> rw [last] at late <;> exact late

theorem follows_complete {last : Nat} {script : List (UInt32 × FeedCompletionEvent)}
    {events : List (Nat × FeedCompletionEvent)} (h : Follows last script events)
    (complete : script.drop events.length = []) : events.map Prod.snd = script.map Prod.snd := by
  induction events generalizing last script with
  | nil =>
    rw [List.length_nil, List.drop_zero] at complete
    rw [complete]
    rfl
  | cons entry events ih =>
    cases script with
    | nil => cases h
    | cons expected script =>
      obtain ⟨same, -, follows⟩ := h
      rw [List.map_cons, List.map_cons, ih follows complete, same]

def FeedCompletion.remaining (f : FeedCompletion) : List (UInt32 × FeedCompletionEvent) :=
  match f.state with
  | .idle => []
  | .preSignalDelay => [(f.config.preSignalDelay, .signalHigh),
      (f.config.signalDuration, .signalLow), (f.config.notificationDelay, .notify)]
  | .signalHigh => [(f.config.signalDuration, .signalLow), (f.config.notificationDelay, .notify)]
  | .notificationDelay => [(f.config.notificationDelay, .notify)]

theorem FeedCompletion.update_cases (f : FeedCompletion) (now : UInt32) :
    f.update now = (f, .none) ∨ ∃ delay rest, f.timer.hasElapsed now = true ∧
      f.remaining = (delay, (f.update now).2) :: rest ∧ (f.update now).2 ≠ .none ∧
        (f.update now).1.config = f.config ∧ (f.update now).1.remaining = rest ∧
          ∀ entry ∈ rest.head?, (f.update now).1.timer = ⟨now, entry.1, true⟩ := by
  cases elapsed : f.timer.hasElapsed now with
  | false => exact .inl (by simp [update, elapsed])
  | true =>
    cases state : f.state with
    | idle => exact .inl (by simp [update, elapsed, state])
    | preSignalDelay | signalHigh | notificationDelay =>
      right
      simp [update, elapsed, remaining, state, RuntimeTimer.start]

theorem FeedCompletion.update_event (f : FeedCompletion) (now : UInt32) :
    (f.update now).2 =
      if f.timer.hasElapsed now then (f.remaining.head?.map Prod.snd).getD .none else .none := by
  cases elapsed : f.timer.hasElapsed now with
  | false => simp [update, elapsed]
  | true => cases state : f.state <;> simp [update, elapsed, remaining, state]

/-- The component is playing the cycle. -/
structure Plays (f : FeedCompletion) (clock : Nat) (c : FeedCycle) : Prop where
  cancelled : c.cancelled = false
  config : f.config = c.config
  remaining : f.remaining = c.rest
  timer : ∀ entry ∈ c.rest.head?, f.timer = ⟨low c.latest, entry.1, true⟩
  clock : c.latest ≤ clock

def FeedCycle.Ended (c : FeedCycle) : Prop := c.cancelled = true ∨ c.rest = []

structure Told (s : Signalling) : Prop where
  follows : ∀ c ∈ s.cycles, Follows c.started c.config.script c.events
  older : ∀ c ∈ s.cycles.tail, c.Ended
  idle : s.completion.isActive = false → ∀ c ∈ s.cycles, c.Ended
  active : s.completion.isActive = true → ∃ c ∈ s.cycles.head?, Plays s.completion s.clock c

theorem FeedCompletion.remaining_active {f : FeedCompletion} :
    f.isActive = true ↔ f.remaining ≠ [] := by
  cases state : f.state <;> simp [isActive, remaining, state]

theorem FeedCompletion.start_remaining (f : FeedCompletion) (now : UInt32)
    (config : FeedCompletionConfig) (idle : f.isActive = false) :
    (f.start now config).1.remaining = config.script ∧ (f.start now config).1.config = config ∧
      ∀ entry ∈ config.script.head?, (f.start now config).1.timer =
        ⟨now, entry.1, true⟩ := by
  cases drop : config.airDropEnabled <;>
    simp [start, idle, drop, remaining, FeedCompletionConfig.script, RuntimeTimer.start]

namespace Told

variable {s : Signalling}

theorem initial (configuration : FeedCompletionConfig) : Told (.initial configuration) := by
  refine ⟨fun c member => ?_, fun c member => ?_, fun _ c member => ?_, fun active => ?_⟩
  · cases member
  · cases member
  · cases member
  · cases active

theorem later (h : Told s) {now : Nat} (clock : s.clock ≤ now) :
    Told { s with clock := now } := by
  refine ⟨h.follows, h.older, h.idle, fun active => ?_⟩
  obtain ⟨c, newest, plays⟩ := h.active active
  exact ⟨c, newest, plays.1, plays.2, plays.3, plays.4, Nat.le_trans plays.clock clock⟩

theorem start (h : Told s) {now : Nat} (clock : s.clock ≤ now) : Told (s.call (.start now)) := by
  cases active : s.completion.isActive with
  | true =>
    have call : s.call (.start now) = { s with clock := now } := by
      simp [Signalling.call, FeedCompletion.start, active]
    rw [call]
    exact h.later clock
  | false =>
    have accepted : (s.completion.start (low now) s.configuration).2 = true := by
      cases drop : s.configuration.airDropEnabled <;> simp [FeedCompletion.start, active, drop]
    obtain ⟨remaining, config, timer⟩ :=
      s.completion.start_remaining (low now) s.configuration active
    have call : s.call (.start now) =
        { s with
          completion := (s.completion.start (low now) s.configuration).1
          clock := now
          cycles := ⟨now, s.configuration, [], false⟩ :: s.cycles } := by
      simp [Signalling.call, accepted]
    rw [call]
    refine ⟨fun c member => ?_, h.idle active, fun idle => ?_, fun _ => ?_⟩
    · rcases List.mem_cons.mp member with rfl | member
      · exact follows_nil ..
      · exact h.follows c member
    · have playing : (s.completion.start (low now) s.configuration).1.isActive = true := by
        rw [FeedCompletion.remaining_active, remaining]
        simp [FeedCompletionConfig.script]
      exact absurd (idle.symm.trans playing) (by decide)
    · exact ⟨_, rfl, rfl, config, remaining, timer, Nat.le_refl now⟩

theorem update (h : Told s) {now : Nat} (clock : s.clock ≤ now) :
    Told (s.call (.update now)) := by
  rcases s.completion.update_cases (low now) with quiet |
      ⟨delay, rest, elapsed, remaining, some_, config, left, timer⟩
  · have call : s.call (.update now) = { s with clock := now } := by
      simp [Signalling.call, quiet]
    rw [call]
    exact h.later clock
  · have active : s.completion.isActive = true := by
      rw [FeedCompletion.remaining_active, remaining]
      exact List.cons_ne_nil _ _
    obtain ⟨c, newest, plays⟩ := h.active active
    obtain ⟨older, cycles⟩ : ∃ older, s.cycles = c :: older := by
      cases cycles : s.cycles <;> rw [cycles] at newest <;> cases newest
      exact ⟨_, rfl⟩
    have due : c.rest = (delay, (s.completion.update (low now)).2) :: rest :=
      plays.remaining.symm.trans remaining
    have late : c.latest + delay.toNat ≤ now := by
      have before : c.latest ≤ now := Nat.le_trans plays.clock clock
      have running := plays.timer (delay, (s.completion.update (low now)).2) (by rw [due]; rfl)
      simp only [running, RuntimeTimer.hasElapsed, Firmware.hasElapsed, Bool.true_and,
        decide_eq_true_eq, UInt32.le_iff_toNat_le, low_sub before] at elapsed
      omega
    have played : (c.signal now (s.completion.update (low now)).2).rest = rest := by
      simp only [FeedCycle.rest, FeedCycle.signal, List.length_append, List.length_singleton]
      rw [← List.drop_drop]
      exact congrArg (List.drop 1) due
    have call : s.call (.update now) =
        { s with
          completion := (s.completion.update (low now)).1
          clock := now
          cycles := c.signal now (s.completion.update (low now)).2 :: older } := by
      simp [Signalling.call, some_, cycles]
    have told := h.follows
    have ended := h.older
    rw [cycles] at told ended
    rw [call]
    refine ⟨fun d member => ?_, ended, fun idle d member => ?_, fun active => ?_⟩
    · rcases List.mem_cons.mp member with rfl | member
      · exact follows_append (told c (List.mem_cons_self ..)) due late
      · exact told d (List.mem_cons_of_mem _ member)
    · rcases List.mem_cons.mp member with rfl | member
      · right
        rw [played, ← left]
        exact not_not.mp (mt FeedCompletion.remaining_active.mpr (Bool.eq_false_iff.mp idle))
      · exact ended d member
    · refine ⟨_, rfl, plays.cancelled, config.trans plays.config,
        left.trans played.symm, ?_, ?_⟩
      · rw [played]
        simpa [FeedCycle.latest, FeedCycle.signal] using timer
      · simp [FeedCycle.latest, FeedCycle.signal]

theorem cancel (h : Told s) : Told (s.call .cancel) := by
  have ends : ∀ c : FeedCycle, c.cancel.Ended := by
    intro c
    cases rest : c.rest with
    | nil => exact .inr rest
    | cons entry rest' => exact .inl (by simp [FeedCycle.cancel, rest])
  have all : ∀ c ∈ s.cycles.modifyHead FeedCycle.cancel, c.Ended := by
    intro c member
    have older := h.older
    cases cycles : s.cycles with
    | nil =>
      rw [cycles] at member
      cases member
    | cons newest rest =>
      rw [cycles] at member older
      rcases List.mem_cons.mp member with rfl | member
      · exact ends newest
      · exact older c member
  refine ⟨fun c member => ?_, fun c member => all c (List.mem_of_mem_tail member),
    fun _ => all, fun active => ?_⟩
  · have told := h.follows
    cases cycles : s.cycles with
    | nil =>
      rw [Signalling.call, cycles] at member
      cases member
    | cons newest rest =>
      rw [cycles] at told
      rw [Signalling.call, cycles] at member
      rcases List.mem_cons.mp member with rfl | member
      · exact told newest (List.mem_cons_self ..)
      · exact told c (List.mem_cons_of_mem _ member)
  · cases active

theorem call (h : Told s) {c : SignallingCall} (timely : s.Timely c) : Told (s.call c) := by
  cases c with
  | set configuration =>
    refine ⟨h.follows, h.older, h.idle, fun active => ?_⟩
    exact h.active active
  | start now => exact h.start timely
  | update now => exact h.update timely
  | cancel => exact h.cancel

theorem expected (h : Told s) {now : Nat} (clock : s.clock ≤ now) :
    (s.completion.update (low now)).2 = s.expected now := by
  rw [FeedCompletion.update_event]
  unfold Signalling.expected
  cases active : s.completion.isActive with
  | false =>
    have nothing : s.completion.remaining = [] :=
      not_not.mp (mt FeedCompletion.remaining_active.mpr (Bool.eq_false_iff.mp active))
    have ended := h.idle active
    rw [nothing]
    cases cycles : s.cycles with
    | nil => simp
    | cons c older =>
      rw [cycles] at ended
      rcases ended c (List.mem_cons_self ..) with cancelled | complete
      · cases rest : c.rest <;> simp [rest, cancelled]
      · simp [complete]
  | true =>
    obtain ⟨c, newest, plays⟩ := h.active active
    obtain ⟨older, cycles⟩ : ∃ older, s.cycles = c :: older := by
      cases cycles : s.cycles <;> rw [cycles] at newest <;> cases newest
      exact ⟨_, rfl⟩
    have before : c.latest ≤ now := Nat.le_trans plays.clock clock
    rw [plays.remaining, cycles]
    cases rest : c.rest with
    | nil => simp [rest]
    | cons entry more =>
      have running := plays.timer entry (by rw [rest]; rfl)
      simp [rest, running, RuntimeTimer.hasElapsed, Firmware.hasElapsed, plays.cancelled,
        UInt32.le_iff_toNat_le, low_sub before]

end Told

theorem told {configuration : FeedCompletionConfig} {calls : List SignallingCall} {s : Signalling}
    (timely : Meets Signalling.step Signalling.Timely (.initial configuration) calls)
    (ran : run Signalling.step (.initial configuration) calls = some s) : Told s := by
  refine run_invariant (fun s c t h timely step => ?_) (Told.initial configuration) timely ran
  cases step
  exact h.call timely

/-- The events of one pass of `onFeedComplete`. -/
def completionEvents : Nat → FeedCompletion → UInt32 → List FeedCompletionEvent
  | 0, _, _ => []
  | turns + 1, f, now =>
    match (f.update now).2 with
    | .none => []
    | .notify => [.notify]
    | event => event :: completionEvents turns (f.update now).1 now

/-- The component as the turns of `onFeedComplete` find it. -/
def State.completionFor (s : State) (now : UInt32) : FeedCompletion :=
  if s.feeder.feedCycleComplete && !s.feeder.isFeedError && !s.feedCompletion.isActive then
    (s.feedCompletion.start now (feedCompletionConfig s.configuration)).1
  else s.feedCompletion

/-- The events of the feed completion in a routine. -/
def signals (s : State) : Routine → List FeedCompletionEvent
  | .onFeedComplete now =>
    if s.machineState.isRunning then completionEvents 3 (s.completionFor now) now else []
  | _ => []

/-- The pin is high while the component waits to take it low, on a running machine only. -/
structure PinFollows (s : State) : Prop where
  pin : s.feedDoneSignal = true ↔ s.feedCompletion.state = .signalHigh
  running : s.feedCompletion.isActive = true → s.machineState.isRunning = true

/-- What a routine other than `onFeedComplete` does to the component and the pin. -/
inductive SignalStep (s t : State) : Prop
  | kept (completion : t.feedCompletion = s.feedCompletion)
      (pin : t.feedDoneSignal = s.feedDoneSignal)
      (running : s.feedCompletion.isActive = true → s.machineState.isRunning = true →
        t.machineState.isRunning = true)
  | cancelled (idle : t.feedCompletion.state = .idle) (pin : t.feedDoneSignal = false)

namespace SignalStep

variable {s t : State}

theorem of_same (completion : t.feedCompletion = s.feedCompletion)
    (pin : t.feedDoneSignal = s.feedDoneSignal) (machine : t.machineState = s.machineState) :
    SignalStep s t := .kept completion pin fun _ running => machine ▸ running

theorem of_linkOnly (h : LinkOnly s t) : SignalStep s t := by
  rw [h.machine]
  exact .of_same rfl rfl rfl

theorem idle_state (idle : s.executionBusy = false) : s.feedCompletion.isActive = false :=
  (State.fasts_of_idle idle).completion

theorem queueFeed_signal (s : State) (position : Int) (t : Ticks) :
    (s.queueFeed position t).feedCompletion = s.feedCompletion ∧
      (s.queueFeed position t).feedDoneSignal = s.feedDoneSignal := by
  dsimp only [State.queueFeed, State.scheduleRun, State.scheduleFeed,
    State.moveSorterToNextPosition]
  split_ifs <;> exact ⟨rfl, rfl⟩

theorem applyV1Action (idle : s.feedCompletion.isActive = false) (result : V1DispatchResult)
    (t : Ticks) : SignalStep s (s.applyV1Action result t) := by
  have kept {u : State} (completion : u.feedCompletion = s.feedCompletion)
      (pin : u.feedDoneSignal = s.feedDoneSignal) : SignalStep s u :=
    .kept completion pin fun active => absurd (idle.symm.trans active) (by decide)
  unfold State.applyV1Action
  cases action : result.action
  case stop => exact .cancelled rfl rfl
  case queueFeed | queueForcedFeed => exact kept (queueFeed_signal ..).1 (queueFeed_signal ..).2
  all_goals exact kept rfl rfl

theorem commanded (step : Commanded s t) : SignalStep s t := by
  cases step with
  | quiet same => exact .of_linkOnly same
  | stopped stop =>
    rw [stop.machine]
    exact .cancelled rfl rfl
  | switched idle machine tracker latched =>
    rw [machine]
    exact .of_same rfl rfl rfl
  | acted s₁ result ticks idle asked prepared permitted done =>
    have before : s₁.feedCompletion = s.feedCompletion ∧
        s₁.feedDoneSignal = s.feedDoneSignal := by
      rw [prepared.machine]
      exact ⟨rfl, rfl⟩
    have inactive := idle_state idle
    have after : t.feedCompletion = (s₁.applyV1Action result ticks).feedCompletion ∧
        t.feedDoneSignal = (s₁.applyV1Action result ticks).feedDoneSignal := by
      rw [done.machine]
      exact ⟨rfl, rfl⟩
    cases applyV1Action (before.1 ▸ inactive) result ticks with
    | kept completion pin running =>
      refine .kept (after.1.trans (completion.trans before.1)) (after.2.trans (pin.trans before.2))
        fun active => absurd (inactive.symm.trans active) (by decide)
    | cancelled idle pin => exact .cancelled (after.1 ▸ idle) (after.2 ▸ pin)

theorem reportMotion (slot : Int) (finished : PhysicalRequestTracker × PhysicalRequestTransition)
    (h : SignalStep s t) : SignalStep s (t.reportMotion slot finished) := by
  rw [t.reportMotion_machine]
  cases h with
  | kept completion pin running => exact .kept completion pin running
  | cancelled idle pin => exact .cancelled idle pin

theorem updateRecoveryCompletion (axis : MachineAxis) (h : SignalStep s t) :
    SignalStep s (t.updateRecoveryCompletion axis) := by
  have still := @CycleRuns.completeRecovery_running t.machineState
  cases h with
  | kept completion pin running =>
    rcases t.updateRecoveryCompletion_eq axis with eq | eq | ⟨-, -, eq⟩ <;> rw [eq]
    · exact .kept completion pin running
    · exact .kept completion pin fun active run => still (running active run) axis
    · exact .kept completion pin fun active run => still (running active run) axis
  | cancelled idle pin =>
    rcases t.updateRecoveryCompletion_eq axis with eq | eq | ⟨-, -, eq⟩ <;> rw [eq] <;>
      exact .cancelled idle pin

theorem feedHomingEnds (s : State) (now : UInt32) : SignalStep s (s.feedHomingEnds now) := by
  have stopped : SignalStep s (s.stopFeedHoming now) := .of_same rfl rfl rfl
  have recovered := stopped.updateRecoveryCompletion .feeder
  unfold State.feedHomingEnds
  dsimp only
  split_ifs
  all_goals
    cases recovered with
    | kept completion pin running => exact .kept completion pin running
    | cancelled idle pin => exact .cancelled idle pin

theorem completeFeedHoming (unfed : Unfed s) (now : UInt32) :
    SignalStep s (s.completeFeedHoming now) := by
  have ended := feedHomingEnds s now
  dsimp only [State.completeFeedHoming]
  split_ifs with chained
  · have fasts := ((unfed.feedHomingEnds now).v2 chained.1).completion
    cases ended with
    | kept completion pin running =>
      refine .kept completion pin fun active => ?_
      rw [completion] at fasts
      exact absurd (fasts.symm.trans active) (by decide)
    | cancelled idle pin => exact .cancelled idle pin
  · exact ended.reportMotion _ _

theorem of_moved {u : State} (completion : t.feedCompletion = s.feedCompletion)
    (pin : t.feedDoneSignal = s.feedDoneSignal) (machine : t.machineState = s.machineState)
    (h : SignalStep t u) : SignalStep s u := by
  cases h with
  | kept completion' pin' running =>
    rw [completion, machine] at running
    exact .kept (completion'.trans completion) (pin'.trans pin) running
  | cancelled idle pin' => exact .cancelled idle pin'

theorem feedHomingOffsetStep (unfed : Unfed s) (now : UInt32) :
    SignalStep s (s.feedHomingOffsetStep now) := by
  unfold State.feedHomingOffsetStep
  split_ifs
  · exact .of_same rfl rfl rfl
  · exact completeFeedHoming unfed now
  · exact .of_same rfl rfl rfl
  · exact completeFeedHoming unfed now

theorem homeFeedMotor (unfed : Unfed s) (sensor : Bool) (now : UInt32) :
    SignalStep s (s.homeFeedMotor sensor now) := by
  dsimp only [State.homeFeedMotor]
  split_ifs
  · exact completeFeedHoming unfed now
  · refine of_moved (t := { s with
      feeder.isFeedHoming := false
      feeder.isFeedHomingOffset := true
      feeder.feedHomingOffsetSteps := s.drive.feedHomingOffset }) rfl rfl rfl
      (feedHomingOffsetStep ?_ now)
    refine ⟨⟨unfed.known, unfed.recovering⟩, fun v2 => ?_⟩
    have f := unfed.v2 v2
    exact ⟨f.scheduled, f.feeding, f.cycle, f.complete, f.test, f.sortTest, f.completion⟩
  · exact .of_same rfl rfl rfl
  · exact feedHomingOffsetStep unfed now

theorem completeSorterRecoveryHoming (s : State) (now : UInt32) :
    SignalStep s (s.completeSorterRecoveryHoming now) := by
  have ended : SignalStep s ((s.stopSorterHoming now).record .sorterHomed) := .of_same rfl rfl rfl
  exact (ended.updateRecoveryCompletion .sorter).reportMotion _ _

theorem homeSortMotor (s : State) (sensor : Bool) (now : UInt32) :
    SignalStep s (s.homeSortMotor sensor now) := by
  have found : (s.recoverySearch sensor).feedCompletion = s.feedCompletion ∧
      (s.recoverySearch sensor).feedDoneSignal = s.feedDoneSignal := by
    unfold State.recoverySearch State.searchStep
    split_ifs <;> exact ⟨rfl, rfl⟩
  have machine := s.recoverySearch_machineState sensor
  have offset : SignalStep s ((s.recoverySearch sensor).sortHomingOffsetStep now) := by
    refine of_moved found.1 found.2 machine ?_
    unfold State.sortHomingOffsetStep
    split_ifs
    · exact .of_same rfl rfl rfl
    · exact completeSorterRecoveryHoming _ now
    · exact .of_same rfl rfl rfl
    · exact completeSorterRecoveryHoming _ now
  dsimp only [State.homeSortMotor, State.searchStep]
  split_ifs <;> first
    | exact offset
    | exact completeSorterRecoveryHoming s now
    | exact .of_same rfl rfl rfl

theorem checkFeedErrors (s : State) : SignalStep s s.checkFeedErrors := by
  unfold State.checkFeedErrors
  split_ifs
  · rw [s.feedOvertravel.reportFeedOvertravel_machine]
    refine .cancelled ?_ ?_ <;> (dsimp only [State.feedOvertravel]; split_ifs <;> rfl)
  · exact .of_same rfl rfl rfl

theorem runTestCycle_signal (s : State) (raw : Nat) (t : Ticks) :
    (s.runTestCycle raw t).feedCompletion = s.feedCompletion ∧
      (s.runTestCycle raw t).feedDoneSignal = s.feedDoneSignal := by
  unfold State.runTestCycle
  dsimp only
  split_ifs
  · exact queueFeed_signal s _ t
  · exact ⟨rfl, rfl⟩
  · exact ⟨rfl, rfl⟩

theorem runSortTestCycle_signal (s : State) (raw : Nat) (now : UInt32) :
    (s.runSortTestCycle raw now).feedCompletion = s.feedCompletion ∧
      (s.runSortTestCycle raw now).feedDoneSignal = s.feedDoneSignal := by
  unfold State.runSortTestCycle
  dsimp only
  split_ifs <;> exact ⟨rfl, rfl⟩

theorem runAux (s : State) (raw sortRaw : Nat) (t : Ticks) (now : UInt32) :
    SignalStep s (s.runAux raw sortRaw t now) := by
  have machine := (s.runAux_faultless raw sortRaw t now).machineState
  unfold State.runAux at machine ⊢
  split_ifs at machine ⊢
  · exact .of_same rfl rfl rfl
  · obtain ⟨completion, pin⟩ := runSortTestCycle_signal (s.runTestCycle raw t) sortRaw now
    obtain ⟨completion', pin'⟩ := runTestCycle_signal s raw t
    exact .of_same (completion.trans completion') (pin.trans pin') machine

theorem exec (unfed : Unfed s) {routine : Routine}
    (other : ∀ now, routine ≠ .onFeedComplete now) :
    SignalStep s (Firmware.exec s routine) := by
  cases routine with
  | serialByte byte t => exact .commanded (s.serialByte_commanded byte t)
  | dispatchPending t => exact .commanded (s.dispatchPending_commanded t)
  | checkFeedErrors => exact checkFeedErrors s
  | homeFeedMotor sensor now => exact homeFeedMotor unfed sensor now
  | homeSortMotor sensor now => exact homeSortMotor s sensor now
  | getProxState sensor now => exact .of_same rfl rfl rfl
  | onFeedComplete now => exact absurd rfl (other now)
  | runAux raw sortRaw t now => exact runAux s raw sortRaw t now
  | emitV2StateIfChanged => exact .of_linkOnly s.emitV2StateIfChanged_linkOnly
  | onSortComplete now =>
    dsimp only [Firmware.exec, State.onSortComplete]
    split_ifs
    · have ended : SignalStep s (s.sortEnds now) := .of_same rfl rfl rfl
      exact ended.reportMotion _ _
    · exact .of_same rfl rfl rfl
  | updateSlotDropGate now =>
    dsimp only [Firmware.exec, State.updateSlotDropGate]
    split_ifs <;> exact .of_same rfl rfl rfl
  | runSortMotor =>
    dsimp only [Firmware.exec, State.runSortMotor, State.slotZeroPass]
    split_ifs <;> exact .of_same rfl rfl rfl
  | scheduleRun t =>
    dsimp only [Firmware.exec, State.scheduleRun]
    split_ifs <;> exact .of_same rfl rfl rfl
  | runFeedMotor =>
    dsimp only [Firmware.exec, State.runFeedMotor]
    split_ifs <;> exact .of_same rfl rfl rfl
  | serviceSorterJog =>
    dsimp only [Firmware.exec, State.serviceSorterJog, State.sorterJogEnds]
    split_ifs <;> exact .of_same rfl rfl rfl
  | motorStandByCheck now =>
    dsimp only [Firmware.exec, State.motorStandByCheck]
    split_ifs <;> exact .of_same rfl rfl rfl
  | serviceV2PhysicalRequest =>
    dsimp only [Firmware.exec, State.serviceV2PhysicalRequest]
    split_ifs <;> exact .of_same rfl rfl rfl

end SignalStep

theorem FeedCompletion.update_state (f : FeedCompletion) (now : UInt32) :
    match (f.update now).2 with
    | .none => (f.update now).1 = f
    | .signalHigh => (f.update now).1.state = .signalHigh
    | .signalLow => (f.update now).1.state = .notificationDelay
    | .notify => f.state = .notificationDelay ∧ (f.update now).1.state = .idle := by
  cases elapsed : f.timer.hasElapsed now with
  | false => simp [update, elapsed]
  | true => cases state : f.state <;> simp [update, elapsed, state]

theorem FeedCompletion.start_low (f : FeedCompletion) (now : UInt32)
    (config : FeedCompletionConfig) (idle : f.isActive = false) :
    (f.start now config).1.state ≠ .signalHigh := by
  cases drop : config.airDropEnabled <;> simp [start, idle, drop]

def Pinned (s : State) : Prop :=
  s.feedDoneSignal = true ↔ s.feedCompletion.state = .signalHigh

theorem turns_pin (turns : Nat) {s : State} (pin : Pinned s) (now : UInt32) :
    Pinned (s.feedCompletionTurns turns now) ∧
      ((s.feedCompletionTurns turns now).feedDoneSignal = true ↔
        (completionEvents turns s.feedCompletion now).getLast? = some .signalHigh ∨
          completionEvents turns s.feedCompletion now = [] ∧ s.feedDoneSignal = true) := by
  induction turns generalizing s with
  | zero => exact ⟨pin, by simp [State.feedCompletionTurns, completionEvents]⟩
  | succ turns ih =>
    have next := s.feedCompletion.update_state now
    unfold State.feedCompletionTurns completionEvents
    generalize s.feedCompletion.update now = updated at next ⊢
    obtain ⟨completion, event⟩ := updated
    cases event with
    | none =>
      have same : completion = s.feedCompletion := next
      subst same
      exact ⟨pin, by simp⟩
    | signalHigh =>
      have high : completion.state = .signalHigh := next
      obtain ⟨pinned, last⟩ :=
        @ih { s with feedCompletion := completion, feedDoneSignal := true } (by simp [Pinned, high])
      refine ⟨pinned, last.trans ?_⟩
      dsimp only
      rw [List.getLast?_cons, ← List.getLast?_eq_none_iff]
      cases (completionEvents turns completion now).getLast? <;> simp
    | signalLow =>
      have waits : completion.state = .notificationDelay := next
      obtain ⟨pinned, last⟩ :=
        @ih { s with feedCompletion := completion, feedDoneSignal := false }
          (by simp [Pinned, waits])
      refine ⟨pinned, last.trans ?_⟩
      dsimp only
      rw [List.getLast?_cons]
      cases (completionEvents turns completion now).getLast? <;> simp
    | notify =>
      obtain ⟨waits, idle⟩ : s.feedCompletion.state = .notificationDelay ∧
        completion.state = .idle := next
      have off : s.feedDoneSignal = false := by simpa [Pinned, waits] using pin
      simp [Pinned, State.emit, idle, off]

theorem completionFor_pin {s : State} (pin : Pinned s) (now : UInt32) :
    s.feedDoneSignal = true ↔ (s.completionFor now).state = .signalHigh := by
  unfold State.completionFor
  split_ifs with starts
  · simp only [Bool.and_eq_true, Bool.not_eq_true'] at starts
    have idle := starts.2
    have low := s.feedCompletion.start_low now (State.feedCompletionConfig s.configuration) idle
    have rest : s.feedCompletion.state = .idle := by simpa [FeedCompletion.isActive] using idle
    unfold Pinned at pin
    rw [pin, rest]
    simp [low]
  · exact pin

theorem onFeedComplete_pin {s : State} (h : PinFollows s) (now : UInt32) :
    PinFollows (s.onFeedComplete now) ∧
      ((s.onFeedComplete now).feedDoneSignal = true ↔
        (signals s (.onFeedComplete now)).getLast? = some .signalHigh ∨
          signals s (.onFeedComplete now) = [] ∧ s.feedDoneSignal = true) := by
  have machine := (s.onFeedComplete_faultless now).machineState
  cases running : s.machineState.isRunning with
  | false =>
    have idle : s.feedCompletion.isActive = false := by
      rw [Bool.eq_false_iff]
      exact fun active => absurd (running.symm.trans (h.running active)) (by decide)
    have still : s.onFeedComplete now = s := by
      unfold State.onFeedComplete
      simp [running, idle]
    rw [still]
    exact ⟨h, by simp [signals, running]⟩
  | true =>
    obtain ⟨u, turned, completion, pin⟩ : ∃ u : State, s.onFeedComplete now =
        u.feedCompletionTurns 3 now ∧ u.feedCompletion = s.completionFor now ∧
          u.feedDoneSignal = s.feedDoneSignal := by
      unfold State.onFeedComplete State.completionFor
      rw [running, if_neg (by decide)]
      dsimp only
      split_ifs <;> exact ⟨_, rfl, rfl, rfl⟩
    have pinned : Pinned u := by
      rw [Pinned, completion, pin]
      exact completionFor_pin h.pin now
    obtain ⟨after, last⟩ := turns_pin 3 pinned now
    rw [completion, pin] at last
    rw [turned] at machine ⊢
    refine ⟨⟨after, fun _ => machine ▸ running⟩, ?_⟩
    rw [signals, running, if_pos rfl]
    exact last

namespace PinFollows

theorem boot (now : UInt32) : PinFollows (Firmware.boot now) := by
  refine ⟨⟨fun high => ?_, fun waits => ?_⟩, fun active => ?_⟩
  · cases high
  · cases waits
  · cases active

theorem exec {s : State} (h : PinFollows s) (unfed : Unfed s) (routine : Routine) :
    PinFollows (Firmware.exec s routine) ∧
      ((Firmware.exec s routine).feedDoneSignal = true →
        (signals s routine).getLast? = some .signalHigh ∨
          signals s routine = [] ∧ s.feedDoneSignal = true) ∧
      ((signals s routine).getLast? = some .signalHigh →
        (Firmware.exec s routine).feedDoneSignal = true) := by
  by_cases pass : ∃ now, routine = .onFeedComplete now
  · obtain ⟨now, rfl⟩ := pass
    obtain ⟨follows, last⟩ := onFeedComplete_pin h now
    exact ⟨follows, last.mp, fun high => last.mpr (.inl high)⟩
  · have other : ∀ now, routine ≠ .onFeedComplete now := fun now same => pass ⟨now, same⟩
    have silent : signals s routine = [] := by
      cases routine <;> first | rfl | exact absurd rfl (other _)
    rw [silent]
    refine ⟨?_, fun high => .inr ⟨rfl, ?_⟩, fun high => by cases high⟩
    · cases SignalStep.exec unfed other with
      | kept completion pin running =>
        refine ⟨?_, fun active => ?_⟩
        · rw [completion, pin]
          exact h.pin
        · rw [completion] at active
          exact running active (h.running active)
      | cancelled idle pin =>
        refine ⟨by simp [pin, idle], fun active => ?_⟩
        simp [FeedCompletion.isActive, idle] at active
    · cases SignalStep.exec unfed other with
      | kept completion pin running => exact pin ▸ high
      | cancelled idle pin => exact absurd (pin.symm.trans high) (by decide)

theorem execAll {s : State} (h : PinFollows s) (locked : Interlocked s) (routines : List Routine) :
    PinFollows (Firmware.execAll s routines) := by
  induction routines generalizing s with
  | nil => exact h
  | cons routine routines ih => exact ih (h.exec locked.unfed routine).1 (locked.exec routine)

end PinFollows

/-- Neither stopped nor faulted nor otherwise out of the running mode. -/
structure State.Works (s : State) : Prop where
  running : s.machineState.isRunning = true
  unstopped : s.machineState.mode ≠ .stopped
  unfaulted : s.latched = false

theorem high_since (now : UInt32) (routines : List Routine)
    (high : (execAll (boot now) routines).feedDoneSignal = true) :
    ∃ before tick after, routines = before ++ .onFeedComplete tick :: after ∧
      (signals (execAll (boot now) before) (.onFeedComplete tick)).getLast? = some .signalHigh ∧
      ∀ later rest, after = later ++ rest →
        (execAll (boot now) (before ++ .onFeedComplete tick :: later)).Works ∧
          ∀ next ∈ rest.head?,
            signals (execAll (boot now) (before ++ .onFeedComplete tick :: later)) next = [] := by
  have works : ∀ routines, (execAll (boot now) routines).feedDoneSignal = true →
      (execAll (boot now) routines).Works := by
    intro routines high
    have follows := (PinFollows.boot now).execAll (.boot now) routines
    have latch := (FaultLatch.boot now).execAll routines
    have running := follows.running (by simp [FeedCompletion.isActive, follows.pin.mp high])
    have known : (execAll (boot now) routines).machineState.bothPositionsKnown = true :=
      latch.modes ▸ running
    simp only [MachineState.bothPositionsKnown, Bool.and_eq_true] at known
    refine ⟨running, fun stopped => ?_, latch.known known.1⟩
    simp [MachineState.isRunning, stopped] at running
  induction routines using List.reverseRecOn with
  | nil => cases high
  | append_singleton routines routine ih =>
    have split : execAll (boot now) (routines ++ [routine]) =
        exec (execAll (boot now) routines) routine := List.foldl_append
    have done := works _ high
    have follows := (PinFollows.boot now).execAll (.boot now) routines
    have unfed := ((Interlocked.boot now).execAll routines).unfed
    rcases (follows.exec unfed routine).2.1 (split ▸ high) with raised | ⟨silent, before⟩
    · cases routine with
      | onFeedComplete tick =>
        refine ⟨routines, tick, [], rfl, raised, fun later rest parts => ?_⟩
        obtain ⟨rfl, rfl⟩ := List.append_eq_nil_iff.mp parts.symm
        exact ⟨done, by simp⟩
      | _ => cases raised
    · obtain ⟨start, tick, after, rfl, raised, since⟩ := ih before
      refine ⟨start, tick, after ++ [routine], by simp, raised, fun later rest parts => ?_⟩
      rcases List.eq_nil_or_concat' rest with rfl | ⟨more, last, rfl⟩
      · rw [List.append_nil] at parts
        subst parts
        refine ⟨?_, by simp⟩
        simpa using done
      · rw [← List.append_assoc] at parts
        obtain ⟨front, same⟩ := List.append_inj' parts rfl
        obtain ⟨continues, quiet⟩ := since later more front
        refine ⟨continues, fun next member => ?_⟩
        cases more with
        | nil =>
          cases same
          cases member
          rw [List.append_nil] at front
          exact front ▸ silent
        | cons first more => exact quiet next member

end CaseSorter.Firmware
