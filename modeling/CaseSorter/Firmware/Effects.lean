import CaseSorter.Firmware.Sketch

/-! What a line from the host can do to the machine. The handlers either leave it as it
is, stop it, change the protocol version of an idle machine, or apply one permitted
action to an idle machine; everything else they do is protocol bookkeeping. -/

namespace CaseSorter.Firmware

/-- The machine of `t` is the machine of `s`: only protocol bookkeeping differs, and
neither the protocol mode nor the tracked request nor the fault latch. -/
structure LinkOnly (s t : State) : Prop where
  machine : t = { s with link := t.link }
  mode : t.link.session.mode = s.link.session.mode
  tracker : t.link.physicalRequestTracker = s.link.physicalRequestTracker
  latched : t.link.faultStateTracker.feedOvertravelLatched =
    s.link.faultStateTracker.feedOvertravelLatched

namespace LinkOnly

theorem refl (s : State) : LinkOnly s s := ⟨rfl, rfl, rfl, rfl⟩

theorem trans {s t u : State} (h : LinkOnly s t) (h' : LinkOnly t u) : LinkOnly s u where
  machine := by rw [h'.machine, h.machine]
  mode := h'.mode.trans h.mode
  tracker := h'.tracker.trans h.tracker
  latched := h'.latched.trans h.latched

theorem executionBusy {s t : State} (h : LinkOnly s t) :
    t.executionBusy = s.executionBusy := by
  rw [h.machine]
  rfl

theorem machineState {s t : State} (h : LinkOnly s t) : t.machineState = s.machineState := by
  rw [h.machine]

end LinkOnly

namespace State

theorem emit_linkOnly (s : State) (line : Emission) : LinkOnly s (s.emit line) :=
  ⟨rfl, rfl, rfl, rfl⟩

theorem respond_linkOnly (s : State) (requestId : Nat) (kind : V2ResponseKind)
    (fields : List Field) : LinkOnly s (s.respond requestId kind fields) := ⟨rfl, rfl, rfl, rfl⟩

theorem respondData_linkOnly (s : State) (requestId : Nat) (fields : List Field) :
    LinkOnly s (s.respondData requestId fields) := by
  induction fields generalizing s with
  | nil => exact .refl s
  | cons entry fields ih => exact (s.respond_linkOnly requestId .data [entry]).trans (ih _)

theorem advanceConfigGeneration_linkOnly (s : State) : LinkOnly s s.advanceConfigGeneration :=
  ⟨rfl, rfl, rfl, rfl⟩

theorem setV2Parser_linkOnly (s : State) (parser : V2FrameParser) :
    LinkOnly s (s.setV2Parser parser) := ⟨rfl, rfl, rfl, rfl⟩

theorem setCommandParser_linkOnly (s : State) (parser : CommandParser) :
    LinkOnly s (s.setCommandParser parser) := ⟨rfl, rfl, rfl, rfl⟩

theorem setPendingCommand_linkOnly (s : State) (pending : PendingCommand) :
    LinkOnly s (s.setPendingCommand pending) := ⟨rfl, rfl, rfl, rfl⟩

theorem setLifecycle_linkOnly (s : State) (lifecycle : V2RequestLifecycle) :
    LinkOnly s (s.setLifecycle lifecycle) := ⟨rfl, rfl, rfl, rfl⟩

theorem emitV2Terminal_linkOnly (s : State) (requestId : Nat) (kind : V2ResponseKind)
    (fields : List Field) : LinkOnly s (s.emitV2Terminal requestId kind fields).1 := by
  unfold emitV2Terminal
  split_ifs
  · exact .refl s
  · exact ⟨rfl, rfl, rfl, rfl⟩

theorem emitV2Event_linkOnly (s : State) (kind : V2EventKind) (fields : List Field) :
    LinkOnly s (s.emitV2Event kind fields) := ⟨rfl, rfl, rfl, rfl⟩

theorem emitV2StateIfChanged_linkOnly (s : State) : LinkOnly s s.emitV2StateIfChanged := by
  have latched := s.link.faultStateTracker.observeState_latched s.machineState.mode.code
    s.currentPhase.code
  unfold emitV2StateIfChanged
  split_ifs
  · exact .refl s
  · dsimp only
    split_ifs
    · exact ⟨rfl, rfl, rfl, latched⟩
    · exact ⟨rfl, rfl, rfl, latched⟩

theorem emitV2DuplicateId_linkOnly (s : State) (requestId : Nat) :
    LinkOnly s (s.emitV2DuplicateId requestId) := s.emitV2Event_linkOnly _ _

theorem emitV2Busy_linkOnly (s : State) (requestId activeRequestId : Nat) :
    LinkOnly s (s.emitV2Busy requestId activeRequestId) := s.respond_linkOnly _ _ _

theorem beginV2Immediate_linkOnly (s : State) (requestId : Nat) :
    LinkOnly s (s.beginV2Immediate requestId).1 := by
  unfold beginV2Immediate
  split_ifs
  · exact s.emitV2Busy_linkOnly 0 0
  · dsimp only
    split
    · exact (s.setLifecycle_linkOnly _).trans (emitV2DuplicateId_linkOnly _ _)
    · exact (s.setLifecycle_linkOnly _).trans (emitV2Busy_linkOnly _ _ _)
    · exact s.setLifecycle_linkOnly _

theorem beginV2Active_linkOnly (s : State) (requestId : Nat) :
    LinkOnly s (s.beginV2Active requestId).1 := by
  unfold beginV2Active
  dsimp only
  split
  · exact (s.setLifecycle_linkOnly _).trans (emitV2DuplicateId_linkOnly _ _)
  · exact (s.setLifecycle_linkOnly _).trans (emitV2Busy_linkOnly _ _ _)
  · exact s.setLifecycle_linkOnly _

theorem finishV2PhysicalRequest_linkOnly (s : State) (requestId : Nat)
    (operation : PhysicalRequestOperation) (slot : Int) :
    LinkOnly s (s.finishV2PhysicalRequest requestId operation slot) := by
  unfold finishV2PhysicalRequest
  split_ifs
  · exact .refl s
  · refine s.emitV2StateIfChanged_linkOnly.trans ?_
    cases operation with
    | sortTo => exact ⟨rfl, rfl, rfl, rfl⟩
    | none => exact .refl _
    | homeAll | homeFeeder | homeSorter => exact emitV2Terminal_linkOnly _ _ _ _

theorem reportFeedOvertravel_machine (s : State) :
    s.reportFeedOvertravel = { s with link := s.reportFeedOvertravel.link } := by
  unfold reportFeedOvertravel
  dsimp only
  split_ifs
  · rw [(emitV2StateIfChanged_linkOnly _).machine, (emitV2Event_linkOnly _ _ _).machine,
      (emitV2Terminal_linkOnly _ _ _ _).machine]
    rfl
  · rw [(emitV2StateIfChanged_linkOnly _).machine, (emitV2Event_linkOnly _ _ _).machine]
    rfl
  · rfl

theorem reportMotion_machine (s : State) (slot : Int)
    (finished : PhysicalRequestTracker × PhysicalRequestTransition) :
    s.reportMotion slot finished = { s with link := (s.reportMotion slot finished).link } := by
  unfold reportMotion
  dsimp only
  split_ifs
  · rfl
  · rw [(finishV2PhysicalRequest_linkOnly _ _ _ _).machine]
    rfl
  · rfl

end State

def V1Action.permitted (m : MachineState) : V1Action → Bool
  | .stop => false
  | .queueFeed | .queueForcedFeed | .startTest | .startSortTest => m.isRunning
  | .sortTo => m.isRunning || m.sorter.positionKnown
  | _ => true

def PhysicalRequestOperation.action : PhysicalRequestOperation → V1Action
  | .none => .none
  | .homeFeeder | .homeAll => .homeFeeder
  | .homeSorter => .homeSorter
  | .sortTo => .sortTo

def Dispatched (c d : Configuration) : Prop :=
  d = c ∨ ∃ command context, d = (dispatchV1Command command context c v1DispatchLimits).2

/-- What the handlers establish before an action runs: the new configuration, and in v2
the tracked request whose operation the action carries out. -/
structure Prepared (s t : State) (action : V1Action) : Prop where
  machine : t = { s with configuration := t.configuration, link := t.link }
  configuration : Dispatched s.configuration t.configuration
  mode : t.link.session.mode = s.link.session.mode
  tracker : t.link.physicalRequestTracker = s.link.physicalRequestTracker ∨
    (s.link.session.mode = .v2 ∧ ∃ requestId operation slot,
      t.link.physicalRequestTracker = ⟨true, requestId, operation, slot, false, .idle⟩ ∧
        action = operation.action)
  latched : t.link.faultStateTracker.feedOvertravelLatched =
    s.link.faultStateTracker.feedOvertravelLatched

structure Stopped (s t : State) : Prop where
  machine : t = { s.enterStoppedState with link := t.link }
  mode : t.link.session.mode = s.link.session.mode
  tracker : (s.link.session.mode = .v1 ∧
      t.link.physicalRequestTracker = s.link.physicalRequestTracker) ∨
    t.link.physicalRequestTracker.active = false
  latched : t.link.faultStateTracker.feedOvertravelLatched =
    s.link.faultStateTracker.feedOvertravelLatched

inductive CommandEffect (s : State) : State → Prop
  | quiet {t : State} (same : LinkOnly s t) : CommandEffect s t
  | stopped {t : State} (stop : Stopped s t) : CommandEffect s t
  | switched {t : State} (idle : s.executionBusy = false) (machine : t = { s with link := t.link })
      (tracker : t.link.physicalRequestTracker = s.link.physicalRequestTracker) :
      CommandEffect s t
  | acted {t : State} (s₁ : State) (result : V1DispatchResult) (ticks : Ticks)
      (idle : s.executionBusy = false) (prepared : Prepared s s₁ result.action)
      (permitted : result.action.permitted s.machineState)
      (done : LinkOnly (s₁.applyV1Action result ticks) t) : CommandEffect s t

def Asked (s : State) (result : V1DispatchResult) (configuration : Configuration) : Prop :=
  ∃ command context, context.queuedPositionOne = s.sorter.qPos1 ∧
    context.queuedPositionTwo = s.sorter.qPos2 ∧
    dispatchV1Command command context s.configuration v1DispatchLimits = (result, configuration)

inductive Commanded (s : State) : State → Prop
  | quiet {t : State} (same : LinkOnly s t) : Commanded s t
  | stopped {t : State} (stop : Stopped s t) : Commanded s t
  | switched {t : State} (idle : s.executionBusy = false) (machine : t = { s with link := t.link })
      (tracker : t.link.physicalRequestTracker = s.link.physicalRequestTracker)
      (latched : t.link.faultStateTracker.feedOvertravelLatched =
        s.link.faultStateTracker.feedOvertravelLatched) : Commanded s t
  | acted {t : State} (s₁ : State) (result : V1DispatchResult) (ticks : Ticks)
      (idle : s.executionBusy = false) (asked : Asked s result s₁.configuration)
      (prepared : Prepared s s₁ result.action)
      (permitted : result.action.permitted s.machineState)
      (done : LinkOnly (s₁.applyV1Action result ticks) t) : Commanded s t

namespace Commanded

theorem effect {s t : State} (h : Commanded s t) : CommandEffect s t := by
  cases h with
  | quiet same => exact .quiet same
  | stopped stop => exact .stopped stop
  | switched idle machine tracker latched => exact .switched idle machine tracker
  | acted s₁ result ticks idle asked prepared permitted done =>
    exact .acted s₁ result ticks idle prepared permitted done

theorem of_linkOnly {s t u : State} (h : LinkOnly s t) (h' : Commanded t u) : Commanded s u := by
  cases h' with
  | quiet same => exact .quiet (h.trans same)
  | stopped stop =>
    refine .stopped ⟨?_, stop.mode.trans h.mode, ?_, stop.latched.trans h.latched⟩
    · rw [stop.machine, h.machine]
      rfl
    · rw [← h.mode, ← h.tracker]
      exact stop.tracker
  | switched idle machine tracker latched =>
    refine .switched (h.executionBusy ▸ idle) ?_ (tracker.trans h.tracker)
      (latched.trans h.latched)
    rw [machine, h.machine]
  | acted s₁ result ticks idle asked prepared permitted done =>
    refine .acted s₁ result ticks (h.executionBusy ▸ idle) ?_
      ⟨?_, ?_, prepared.mode.trans h.mode, ?_, prepared.latched.trans h.latched⟩
      (h.machineState ▸ permitted) done
    · rw [h.machine] at asked
      exact asked
    · rw [prepared.machine, h.machine]
    · have configuration := prepared.configuration
      rw [h.machine] at configuration
      exact configuration
    · rw [← h.mode, ← h.tracker]
      exact prepared.tracker

theorem then_linkOnly {s t u : State} (h : Commanded s t) (h' : LinkOnly t u) : Commanded s u := by
  cases h with
  | quiet same => exact .quiet (same.trans h')
  | stopped stop =>
    refine .stopped ⟨?_, h'.mode.trans stop.mode, ?_, h'.latched.trans stop.latched⟩
    · rw [h'.machine, stop.machine]
    · rw [h'.tracker]
      exact stop.tracker
  | switched idle machine tracker latched =>
    refine .switched idle ?_ (h'.tracker.trans tracker) (h'.latched.trans latched)
    rw [h'.machine, machine]
  | acted s₁ result ticks idle asked prepared permitted done =>
    exact .acted s₁ result ticks idle asked prepared permitted (done.trans h')

end Commanded

namespace State

theorem emitV2Inspection_linkOnly (s : State) (requestId : Nat) (inspection : V2InspectionCommand) :
    LinkOnly s (s.emitV2Inspection requestId inspection) :=
  (s.respondData_linkOnly _ _).trans (emitV2Terminal_linkOnly _ _ _ _)

theorem emitV2Configuration_linkOnly (s : State) (requestId : Nat) :
    LinkOnly s (s.emitV2Configuration requestId) :=
  (s.respondData_linkOnly _ _).trans (emitV2Terminal_linkOnly _ _ _ _)

theorem handleV2Immediate_linkOnly (s : State) (requestId : Nat) (payload : Bytes) (t : Ticks) :
    LinkOnly s (s.handleV2Immediate requestId payload t) := by
  refine (s.beginV2Immediate_linkOnly requestId).trans ?_
  unfold handleV2Immediate
  dsimp only
  split_ifs
  · exact .refl _
  · exact ⟨rfl, rfl, rfl, rfl⟩
  · exact (respond_linkOnly _ _ _ _).trans (emitV2Terminal_linkOnly _ _ _ _)
  · exact emitV2Inspection_linkOnly _ _ _
  · exact emitV2Terminal_linkOnly _ _ _ _

theorem refuseV2Request_some {s refusal : State} {requestId : Nat}
    (h : s.refuseV2Request requestId = some refusal) : LinkOnly s refusal := by
  unfold refuseV2Request at h
  split_ifs at h
  · exact Option.some.inj h ▸ s.emitV2DuplicateId_linkOnly requestId
  · exact Option.some.inj h ▸ s.emitV2Busy_linkOnly _ _

theorem refuseV2Request_none {s : State} {requestId : Nat}
    (h : s.refuseV2Request requestId = none) : s.executionBusy = false := by
  unfold refuseV2Request at h
  split_ifs at h with _ busy
  simp only [Bool.or_eq_true, not_or, Bool.not_eq_true] at busy
  exact busy.1

theorem handleV2Stop_commanded (s : State) (requestId : Nat) :
    Commanded s (s.handleV2Stop requestId) := by
  unfold handleV2Stop
  split_ifs
  · exact .quiet (s.emitV2DuplicateId_linkOnly requestId)
  · have stop : Stopped s ((s.setTracker s.link.physicalRequestTracker.cancel).setLifecycle
        s.link.session.lifecycle.cancel).enterStoppedState := ⟨rfl, rfl, .inr rfl, rfl⟩
    dsimp only
    refine Commanded.then_linkOnly ?_
      ((emitV2StateIfChanged_linkOnly _).trans (respond_linkOnly _ _ _ _))
    split_ifs
    · exact .then_linkOnly (.stopped stop) (respond_linkOnly _ _ _ _)
    · exact .stopped stop

theorem handleV2ProtocolOne_commanded (s : State) (requestId : Nat) :
    Commanded s (s.handleV2ProtocolOne requestId) := by
  unfold handleV2ProtocolOne
  split_ifs
  · exact .quiet (s.emitV2Busy_linkOnly 0 0)
  · split
    case h_1 refusal h => exact .quiet (refuseV2Request_some h)
    case h_2 h =>
      have begun := s.beginV2Immediate_linkOnly requestId
      have ended := begun.trans
        (emitV2Terminal_linkOnly _ requestId .done [("protocol", "1")])
      dsimp only
      split_ifs
      · exact .quiet begun
      · exact .quiet ended
      · exact .switched (refuseV2Request_none h) (by rw [ended.machine]) ended.tracker
          ended.latched

theorem emitV2SetterDone_linkOnly (s : State) (requestId : Nat) (command : V1Command) :
    LinkOnly s (s.emitV2SetterDone requestId command) := s.emitV2Terminal_linkOnly _ _ _

theorem emitV2SetterError_linkOnly (s : State) (requestId : Nat) (command : V1Command)
    (malformed : Bool) : LinkOnly s (s.emitV2SetterError requestId command malformed) :=
  s.emitV2Terminal_linkOnly _ _ _

theorem applyV1Action_none {s : State} {result : V1DispatchResult} (t : Ticks)
    (h : result.action = .none) : s.applyV1Action result t = s := by
  unfold applyV1Action
  rw [h]

theorem applyV2Setter_commanded (s : State) (requestId : Nat) (payload : Bytes) (t : Ticks)
    (idle : s.executionBusy = false) (setter : v1CommandIsSetter (classifyV1Command payload)) :
    Commanded s (s.applyV2Setter requestId payload (classifyV1Command payload) t) := by
  unfold applyV2Setter
  dsimp only
  generalize context : s.dispatchContext s.machineState.isRunning false false = c
  have idling : c.busy = false := by rw [← context]; rfl
  have free : c.pendingCommand = false := by rw [← context]; rfl
  have action := dispatchV1Command_action payload c s.configuration v1DispatchLimits
  have refuses := @dispatchV1Command_setter payload c s.configuration v1DispatchLimits
    idling free setter
  have asked : Asked s (dispatchV1Command payload c s.configuration v1DispatchLimits).1
      (dispatchV1Command payload c s.configuration v1DispatchLimits).2 :=
    ⟨payload, c, by rw [← context]; rfl, by rw [← context]; rfl, rfl⟩
  generalize dispatchV1Command payload c s.configuration v1DispatchLimits = dispatched
    at action refuses asked ⊢
  have prepared : Prepared s (s.setConfiguration dispatched.2) dispatched.1.action := by
    refine ⟨rfl, .inr ?_, rfl, .inl rfl, rfl⟩
    obtain ⟨command, context, -, -, dispatch⟩ := asked
    exact ⟨command, context, by rw [dispatch]; rfl⟩
  split_ifs with wrong
  · have none := refuses.resolve_right fun right => by
      rcases wrong with output | response
      · exact output right.1
      · exact response right.2
    refine .acted _ dispatched.1 t idle asked prepared (by rw [none]; rfl) ?_
    rw [applyV1Action_none t none]
    exact emitV2SetterError_linkOnly _ _ _ _
  · refine .acted _ dispatched.1 t idle asked prepared ?_
      ((advanceConfigGeneration_linkOnly _).trans (emitV2SetterDone_linkOnly _ _ _))
    revert setter
    rcases action with action | ⟨action, -⟩ | ⟨action, -⟩ <;> rw [action]
    · exact fun _ => rfl
    · exact fun _ => rfl
    · cases classifyV1Command payload <;> simp [v1CommandIsSetter, V1Command.action,
        V1Action.permitted]

theorem handleV2Setter_commanded (s : State) (requestId : Nat) (payload : Bytes) (t : Ticks)
    (setter : v1CommandIsSetter (classifyV1Command payload)) :
    Commanded s (s.handleV2Setter requestId payload (classifyV1Command payload) t) := by
  unfold handleV2Setter beginV2Setter
  cases h : s.refuseV2Request requestId with
  | some refusal => exact .quiet (refuseV2Request_some h)
  | none =>
    have begun := s.beginV2Active_linkOnly requestId
    dsimp only
    split_ifs
    · refine .of_linkOnly begun (applyV2Setter_commanded _ _ _ _ ?_ setter)
      rw [begun.executionBusy]
      exact refuseV2Request_none h
    · exact .quiet begun

theorem begin_eq (t : PhysicalRequestTracker) (requestId : Nat)
    (operation : PhysicalRequestOperation) (slot : Int) :
    t.begin requestId operation slot = (t, false) ∨
      t.begin requestId operation slot =
        (⟨true, requestId, operation, slot, false, .idle⟩, true) := by
  unfold PhysicalRequestTracker.begin
  split_ifs
  · exact .inl rfl
  · exact .inr rfl

theorem acceptV2PhysicalRequest_commanded (s : State) (requestId : Nat)
    (operation : PhysicalRequestOperation) (result : V1DispatchResult) (t : Ticks)
    (idle : s.executionBusy = false) (v2 : s.link.session.mode = .v2)
    (asked : Asked s result s.configuration) (permitted : result.action.permitted s.machineState)
    (action : result.action = operation.action) :
    Commanded s (s.acceptV2PhysicalRequest requestId operation result t) := by
  unfold acceptV2PhysicalRequest
  dsimp only
  rcases begin_eq (s.respond requestId .accepted
      [("operation", if operation = .sortTo then "sort" else "home")]).link.physicalRequestTracker
      requestId operation result.value with h | h
  · simp only [h]
    exact .quiet ((s.respond_linkOnly _ _ _).trans (emitV2Terminal_linkOnly _ _ _ _))
  · simp only [h]
    refine .acted _ result t idle ?_ ?_ permitted (.refl _)
    · exact asked
    · exact ⟨rfl, .inl rfl, rfl, .inr ⟨v2, requestId, operation, result.value, rfl, action⟩,
        rfl⟩

theorem startV2PhysicalRequest_commanded (s : State) (requestId : Nat)
    (operation : PhysicalRequestOperation) (result : V1DispatchResult) (t : Ticks)
    (idle : s.executionBusy = false) (v2 : s.link.session.mode = .v2)
    (asked : Asked s result s.configuration) (permitted : result.action.permitted s.machineState)
    (action : result.action ≠ .none → result.action = operation.action) :
    Commanded s (s.startV2PhysicalRequest requestId operation result t) := by
  have begun := s.beginV2Active_linkOnly requestId
  refine .of_linkOnly begun ?_
  unfold startV2PhysicalRequest
  dsimp only
  split_ifs with _ none
  · exact .quiet (.refl _)
  · exact .quiet (emitV2Terminal_linkOnly _ _ _ _)
  · exact .quiet (emitV2Terminal_linkOnly _ _ _ _)
  · refine acceptV2PhysicalRequest_commanded _ _ _ _ _ ?_ (begun.mode.trans v2) ?_ ?_ (action none)
    · rw [begun.executionBusy]
      exact idle
    · rw [begun.machine]
      exact asked
    · rw [begun.machineState]
      exact permitted

theorem beginV2PhysicalRequest_commanded (s : State) (requestId : Nat) (payload : Bytes)
    (operation : PhysicalRequestOperation) (t : Ticks) (v2 : s.link.session.mode = .v2)
    (kind : (classifyV1Command payload = .sortTo ∧ operation = .sortTo) ∨
      (classifyV1Command payload = .homeSorter ∧ operation = .homeSorter) ∨
      (classifyV1Command payload = .homeFeeder ∧ operation.action = .homeFeeder)) :
    Commanded s (s.beginV2PhysicalRequest requestId payload operation
      (classifyV1Command payload) t) := by
  unfold beginV2PhysicalRequest
  split
  case h_1 refusal h => exact .quiet (refuseV2Request_some h)
  case h_2 h =>
    have setter : v1CommandIsSetter (classifyV1Command payload) = false := by
      rcases kind with ⟨kind, -⟩ | ⟨kind, -⟩ | ⟨kind, -⟩ <;> rw [kind] <;> rfl
    dsimp only
    generalize context : s.dispatchContext (if classifyV1Command payload = .sortTo then
      s.machineState.sorter.positionKnown else s.machineState.isRunning) false false = c
    have action := dispatchV1Command_action payload c s.configuration v1DispatchLimits
    have kept := dispatchV1Command_configuration_of_not_setter payload c s.configuration
      v1DispatchLimits setter
    have asked : Asked s (dispatchV1Command payload c s.configuration v1DispatchLimits).1
        (dispatchV1Command payload c s.configuration v1DispatchLimits).2 :=
      ⟨payload, c, by rw [← context]; rfl, by rw [← context]; rfl, rfl⟩
    rw [kept] at asked ⊢
    generalize (dispatchV1Command payload c s.configuration v1DispatchLimits).1 = result
      at action asked ⊢
    refine startV2PhysicalRequest_commanded s requestId operation result t
      (refuseV2Request_none h) v2 asked ?_ ?_
    · rcases action with action | ⟨action, -⟩ | ⟨action, granted⟩
      · rw [action]
        rfl
      · rw [action]
        rfl
      · rw [action]
        rcases kind with ⟨kind, -⟩ | ⟨kind, -⟩ | ⟨kind, -⟩
        · rw [kind] at granted ⊢
          simp only [reduceCtorEq, false_or] at granted
          have running := granted.2.2 rfl
          rw [← context, if_pos kind] at running
          simp only [V1Command.action, V1Action.permitted, Bool.or_eq_true]
          exact .inr running
        · rw [kind]
          rfl
        · rw [kind]
          rfl
    · intro granted
      rcases action with action | ⟨-, busy⟩ | ⟨action, -⟩
      · exact absurd action granted
      · rw [← context] at busy
        cases busy
      · rw [action]
        rcases kind with ⟨kind, operation⟩ | ⟨kind, operation⟩ | ⟨kind, operation⟩ <;>
          rw [kind, operation] <;> rfl

theorem beginV2HomeAll_commanded (s : State) (requestId : Nat) (t : Ticks)
    (v2 : s.link.session.mode = .v2) : Commanded s (s.beginV2HomeAll requestId t) := by
  have kind : classifyV1Command (ascii "homefeeder") = .homeFeeder := by decide
  have h := s.beginV2PhysicalRequest_commanded requestId (ascii "homefeeder") .homeAll t v2
    (.inr (.inr ⟨kind, rfl⟩))
  rw [kind] at h
  exact h

theorem handleV2Request_commanded (s : State) (requestId : Nat) (payload : Bytes) (t : Ticks)
    (v2 : s.link.session.mode = .v2) :
    Commanded s (s.handleV2Request requestId payload t) := by
  unfold handleV2Request
  dsimp only
  split_ifs with stop one config _ setter all feeder sorter sortTo
  · exact s.handleV2Stop_commanded requestId
  · exact s.handleV2ProtocolOne_commanded requestId
  · exact .quiet ((s.beginV2Immediate_linkOnly requestId).trans
      (emitV2Configuration_linkOnly _ _))
  · exact .quiet (s.beginV2Immediate_linkOnly requestId)
  · exact s.handleV2Setter_commanded requestId payload t setter
  · exact s.beginV2HomeAll_commanded requestId t v2
  · exact s.beginV2PhysicalRequest_commanded requestId payload _ t v2
      (.inr (.inr ⟨feeder, rfl⟩))
  · exact s.beginV2PhysicalRequest_commanded requestId payload _ t v2
      (.inr (.inl ⟨sorter, rfl⟩))
  · exact s.beginV2PhysicalRequest_commanded requestId payload _ t v2 (.inl ⟨sortTo, rfl⟩)
  · exact .quiet (s.handleV2Immediate_linkOnly requestId payload t)

theorem handleV2Frame_commanded (s : State) (status : FrameResult) (frame : Bytes) (t : Ticks)
    (v2 : s.link.session.mode = .v2) : Commanded s (s.handleV2Frame status frame t) := by
  unfold handleV2Frame
  cases status with
  | noFrame => exact .quiet (.refl s)
  | frameOverflow | frameInvalid => exact .quiet (s.emitV2Event_linkOnly _ _)
  | frameReady =>
    dsimp only
    split
    · exact .quiet (s.emitV2Event_linkOnly _ _)
    · exact .quiet (s.emitV2Event_linkOnly _ _)
    · exact s.handleV2Request_commanded _ _ t v2

theorem consumeV2_commanded (s : State) (byte : UInt8) (t : Ticks)
    (v2 : s.link.session.mode = .v2) :
    Commanded s (s.consumeV2 byte t) := by
  refine .of_linkOnly (s.setV2Parser_linkOnly (s.link.session.parser.consume byte).1) ?_
  have frame := fun status frame => handleV2Frame_commanded
    (s.setV2Parser (s.link.session.parser.consume byte).1) status frame t v2
  simp only [consumeV2]
  split
  · exact .quiet (.refl _)
  · exact (frame _ _).then_linkOnly (setV2Parser_linkOnly _ _)
  · exact frame _ _
  · exact frame _ _

theorem writeV1Output_linkOnly (s : State) (result : V1DispatchResult) :
    LinkOnly s (s.writeV1Output result) := by
  unfold writeV1Output
  split
  · exact .refl s
  · exact s.emit_linkOnly _
  · exact s.emit_linkOnly _
  · exact s.emit_linkOnly _

theorem dispatchV1Frame_action (s : State) (status : V1FrameStatus) (command : Bytes)
    (pending : Bool) :
    let dispatch := dispatchV1Frame status command
      (s.dispatchContext s.machineState.isRunning s.executionBusy pending) s.configuration
      v1DispatchLimits
    (dispatch.2 = s.configuration ∧
        (dispatch.1.action = .none ∨ dispatch.1.action = .queuePending ∨
          dispatch.1.action = .stop)) ∨
      (s.executionBusy = false ∧ dispatch.1.action ≠ .queuePending ∧
        dispatch.1.action.permitted s.machineState) := by
  cases status with
  | tooLong | invalid => exact .inl ⟨rfl, .inl rfl⟩
  | ready =>
    have action := dispatchV1Command_action command
      (s.dispatchContext s.machineState.isRunning s.executionBusy pending) s.configuration
      v1DispatchLimits
    have busy := dispatchV1Command_configuration command
      (s.dispatchContext s.machineState.isRunning s.executionBusy pending) s.configuration
      v1DispatchLimits
    simp only [dispatchV1Frame, dispatchContext] at action busy ⊢
    by_cases stop : classifyV1Command command = .stop
    · refine .inl ⟨dispatchV1Command_configuration_of_not_setter _ _ _ _
        (by rw [stop]; rfl), ?_⟩
      rcases action with action | ⟨action, -⟩ | ⟨action, -⟩
      · exact .inl action
      · exact .inr (.inl action)
      · exact .inr (.inr (by rw [action, stop]; rfl))
    by_cases idle : s.executionBusy = false
    · refine .inr ⟨idle, ?_⟩
      rcases action with action | ⟨-, action⟩ | ⟨action, granted⟩
      · rw [action]
        exact ⟨nofun, rfl⟩
      · rw [idle] at action
        cases action
      · rw [action]
        replace granted := (granted.resolve_left stop).2.2
        revert granted stop
        cases classifyV1Command command <;>
          simp +contextual [V1Command.action, V1Action.permitted, v1CommandRequiresHomedPosition]
    · rw [Bool.not_eq_false] at idle
      refine .inl ⟨busy (by simp [idle]), ?_⟩
      rcases action with action | ⟨action, -⟩ | ⟨-, granted⟩
      · exact .inl action
      · exact .inr (.inl action)
      · rw [idle] at granted
        cases (granted.resolve_left stop).1

theorem scheduleRun_configuration (s : State) (t : Ticks) :
    (s.scheduleRun t).configuration = s.configuration := by
  dsimp only [scheduleRun]
  split_ifs <;> rfl

theorem queueFeed_configuration (s : State) (position : Int) (t : Ticks) :
    (s.queueFeed position t).configuration = s.configuration := by
  refine (scheduleRun_configuration _ t).trans ?_
  dsimp only [scheduleFeed, moveSorterToNextPosition]
  split_ifs <;> rfl

theorem applyV1Action_sortSteps (s : State) (result : V1DispatchResult) (t : Ticks) :
    (s.applyV1Action result t).configuration.sortSteps = s.configuration.sortSteps := by
  unfold applyV1Action
  cases result.action with
  | queueFeed | queueForcedFeed => dsimp only; rw [queueFeed_configuration]; rfl
  | _ => rfl

theorem performV1_queuePending (s : State) (status : V1FrameStatus) (command : Bytes)
    (result : V1DispatchResult) (t : Ticks) (h : result.action = .queuePending) :
    LinkOnly s (s.performV1 status command result t) := by
  unfold performV1
  rw [if_pos h]
  dsimp only
  split_ifs
  · exact s.setPendingCommand_linkOnly _
  · exact (s.setPendingCommand_linkOnly _).trans (emit_linkOnly _ _)

theorem performV1_eq (s : State) (status : V1FrameStatus) (command : Bytes)
    (result : V1DispatchResult) (t : Ticks) (h : result.action ≠ .queuePending) :
    ∃ u, LinkOnly s u ∧ s.performV1 status command result t =
      (u.applyV1Action result t).writeV1Output result := by
  unfold performV1
  rw [if_neg h]
  dsimp only
  split_ifs
  · exact ⟨_, s.advanceConfigGeneration_linkOnly, rfl⟩
  · exact ⟨s, .refl s, rfl⟩

theorem performV1_refused (s : State) (status : V1FrameStatus) (command : Bytes)
    (result : V1DispatchResult) (t : Ticks) (v1 : s.link.session.mode = .v1)
    (h : result.action = .none ∨ result.action = .queuePending ∨ result.action = .stop) :
    Commanded s (s.performV1 status command result t) := by
  by_cases waiting : result.action = .queuePending
  · exact .quiet (s.performV1_queuePending status command result t waiting)
  · obtain ⟨u, same, eq⟩ := s.performV1_eq status command result t waiting
    rw [eq]
    refine .of_linkOnly same (.then_linkOnly ?_ (writeV1Output_linkOnly _ _))
    rcases h with none | waits | stop
    · rw [applyV1Action_none t none]
      exact .quiet (.refl u)
    · exact absurd waits waiting
    · simp only [applyV1Action, stop]
      exact .stopped ⟨rfl, rfl, .inl ⟨same.mode.trans v1, rfl⟩, rfl⟩

theorem performV1_granted (s : State) {configuration : Configuration} (status : V1FrameStatus)
    (command : Bytes) (result : V1DispatchResult) (t : Ticks) (idle : s.executionBusy = false)
    (asked : Asked s result configuration) (granted : result.action ≠ .queuePending)
    (permitted : result.action.permitted s.machineState) :
    Commanded s ((s.setConfiguration configuration).performV1 status command result t) := by
  obtain ⟨u, same, eq⟩ :=
    (s.setConfiguration configuration).performV1_eq status command result t granted
  have configured : u.configuration = configuration := by
    rw [same.machine]
    rfl
  rw [eq]
  refine .acted u result t idle (configured ▸ asked)
    ⟨?_, ?_, same.mode, .inl same.tracker, same.latched⟩ permitted (writeV1Output_linkOnly _ _)
  · rw [same.machine]
    rfl
  · rw [configured]
    obtain ⟨line, context, -, -, dispatch⟩ := asked
    exact .inr ⟨line, context, by rw [dispatch]⟩

theorem handleV1Command_commanded (s : State) (status : V1FrameStatus) (command : Bytes)
    (dispatchingPending : Bool) (t : Ticks) (v1 : s.link.session.mode = .v1) :
    Commanded s (s.handleV1Command status command dispatchingPending t) := by
  have action := s.dispatchV1Frame_action status command
    (s.link.pendingCommand.available && !dispatchingPending)
  unfold handleV1Command
  dsimp only at action ⊢
  rcases action with ⟨configuration, action⟩ | ⟨idle, granted, permitted⟩
  · rw [configuration]
    exact s.performV1_refused status command _ t v1 action
  · cases status with
    | tooLong | invalid => exact s.performV1_refused _ command _ t v1 (.inl rfl)
    | ready =>
      exact s.performV1_granted _ command _ t idle ⟨command, _, rfl, rfl, rfl⟩ granted permitted

theorem dispatchV2Negotiation_activate {command : Bytes} {busy pending : Bool}
    (h : dispatchV2Negotiation command busy pending = .activate) : busy = false := by
  unfold dispatchV2Negotiation at h
  split_ifs at h with _ _ _ idle
  simp only [Bool.or_eq_true, not_or, Bool.not_eq_true] at idle
  exact idle.1

theorem handleV1Frame_commanded (s : State) (status : V1FrameStatus) (command : Bytes)
    (dispatchingPending : Bool) (t : Ticks) (v1 : s.link.session.mode = .v1) :
    Commanded s (s.handleV1Frame status command dispatchingPending t) := by
  unfold handleV1Frame
  dsimp only
  split
  · exact .quiet (s.emit_linkOnly _)
  · exact .quiet (s.emit_linkOnly _)
  · rename_i activate
    split_ifs at activate
    exact .switched (dispatchV2Negotiation_activate activate) rfl rfl rfl
  · exact s.handleV1Command_commanded status command dispatchingPending t v1

theorem handleRawStop_commanded (s : State) : Commanded s s.handleRawStop := by
  unfold handleRawStop
  cases mode : s.link.session.mode with
  | v1 =>
    refine .then_linkOnly (.stopped (?_ : Stopped s (s.setCommandParser .reset).enterStoppedState))
      (emit_linkOnly _ _)
    exact ⟨rfl, rfl, .inl ⟨mode, rfl⟩, rfl⟩
  | v2 =>
    have stop : Stopped s (((s.setTracker s.link.physicalRequestTracker.cancel).setLifecycle
        s.link.session.lifecycle.cancel).setV2Parser .reset).enterStoppedState :=
      ⟨rfl, rfl, .inr rfl, rfl⟩
    exact .then_linkOnly (.stopped stop)
      ((emitV2StateIfChanged_linkOnly _).trans (emit_linkOnly _ _))

theorem consumeV1_commanded (s : State) (byte : UInt8) (t : Ticks)
    (v1 : s.link.session.mode = .v1) :
    Commanded s (s.consumeV1 byte t) := by
  refine .of_linkOnly (s.setCommandParser_linkOnly (s.link.commandParser.consume byte).1) ?_
  have frame := fun status frame => handleV1Frame_commanded
    (s.setCommandParser (s.link.commandParser.consume byte).1) status frame false t v1
  simp only [consumeV1]
  split
  · exact .quiet (.refl _)
  · exact frame _ _
  · exact frame _ _
  · exact (frame _ _).then_linkOnly (setCommandParser_linkOnly _ _)

theorem serialByte_commanded (s : State) (byte : UInt8) (t : Ticks) :
    Commanded s (s.serialByte byte t) := by
  have detected : LinkOnly s
      (s.setRawStopLineDetector (s.link.rawStopLineDetector.consume byte).1) :=
        ⟨rfl, rfl, rfl, rfl⟩
  refine .of_linkOnly detected ?_
  simp only [serialByte]
  split_ifs with stop v2
  · exact handleRawStop_commanded _
  · exact consumeV2_commanded _ byte t v2
  · refine consumeV1_commanded _ byte t ?_
    cases h : s.link.session.mode with
    | v1 => exact h
    | v2 => exact absurd h v2

theorem dispatchPending_commanded (s : State) (t : Ticks) :
    Commanded s (s.dispatchPending t) := by
  unfold dispatchPending
  split_ifs with h
  · exact (s.handleV1Frame_commanded _ _ _ t h.1).then_linkOnly (setPendingCommand_linkOnly _ _)
  · exact .quiet (.refl s)

theorem serialByte_effect (s : State) (byte : UInt8) (t : Ticks) :
    CommandEffect s (s.serialByte byte t) := (s.serialByte_commanded byte t).effect

theorem dispatchPending_effect (s : State) (t : Ticks) :
    CommandEffect s (s.dispatchPending t) := (s.dispatchPending_commanded t).effect

end State

namespace State

theorem updateRecoveryCompletion_configuration (s : State) (axis : MachineAxis) :
    (s.updateRecoveryCompletion axis).configuration = s.configuration := by
  dsimp only [updateRecoveryCompletion]
  split_ifs <;> rfl

theorem reportMotion_configuration (s : State) (slot : Int)
    (finished : PhysicalRequestTracker × PhysicalRequestTransition) :
    (s.reportMotion slot finished).configuration = s.configuration := by
  rw [s.reportMotion_machine]

theorem completeFeedHoming_configuration (s : State) (now : UInt32) :
    (s.completeFeedHoming now).configuration = s.configuration := by
  have ended : (s.feedHomingEnds now).configuration = s.configuration := by
    have recovered := (s.stopFeedHoming now).updateRecoveryCompletion_configuration .feeder
    dsimp only [feedHomingEnds]
    split_ifs <;> exact recovered
  dsimp only [completeFeedHoming]
  split_ifs
  · exact ended
  · rw [reportMotion_configuration]
    exact ended

theorem feedHomingOffsetStep_configuration (s : State) (now : UInt32) :
    (s.feedHomingOffsetStep now).configuration = s.configuration := by
  unfold feedHomingOffsetStep
  split_ifs
  · rfl
  · exact s.completeFeedHoming_configuration now
  · rfl
  · exact s.completeFeedHoming_configuration now

theorem homeSortMotor_configuration (s : State) (sensor : Bool) (now : UInt32) :
    (s.homeSortMotor sensor now).configuration = s.configuration := by
  have homed : ∀ s : State, (s.completeSorterRecoveryHoming now).configuration =
    s.configuration := by
    intro s
    unfold completeSorterRecoveryHoming
    rw [reportMotion_configuration]
    exact updateRecoveryCompletion_configuration _ .sorter
  have found : (s.recoverySearch sensor).configuration = s.configuration := by
    unfold recoverySearch searchStep
    split_ifs <;> rfl
  unfold homeSortMotor searchStep sortHomingOffsetStep
  split_ifs <;> first | rfl | exact found | exact (homed _).trans found | exact homed _

theorem feedCompletionTurns_configuration (turns : Nat) (s : State) (now : UInt32) :
    (feedCompletionTurns turns s now).configuration = s.configuration := by
  induction turns generalizing s with
  | zero => rfl
  | succ turns ih =>
    unfold feedCompletionTurns
    dsimp only
    split
    · rfl
    · exact ih _
    · exact ih _
    · rfl

end State

theorem exec_configuration (s : State) (routine : Routine)
    (motion : ∀ byte t, routine ≠ .serialByte byte t)
    (pending : ∀ t, routine ≠ .dispatchPending t) :
    (exec s routine).configuration = s.configuration := by
  cases routine with
  | serialByte byte t => exact absurd rfl (motion byte t)
  | dispatchPending t => exact absurd rfl (pending t)
  | getProxState sensor now => rfl
  | updateSlotDropGate now =>
    dsimp only [exec, State.updateSlotDropGate]
    split_ifs <;> rfl
  | runSortMotor =>
    dsimp only [exec, State.runSortMotor, State.slotZeroPass]
    split_ifs <;> rfl
  | onSortComplete now =>
    dsimp only [exec, State.onSortComplete]
    split_ifs
    · exact State.reportMotion_configuration _ _ _
    · rfl
  | scheduleRun t =>
    dsimp only [exec, State.scheduleRun]
    split_ifs <;> rfl
  | checkFeedErrors =>
    dsimp only [exec, State.checkFeedErrors]
    split_ifs
    · rw [s.feedOvertravel.reportFeedOvertravel_machine]
      dsimp only [State.feedOvertravel]
      split_ifs <;> rfl
    · rfl
  | runFeedMotor =>
    dsimp only [exec, State.runFeedMotor]
    split_ifs <;> rfl
  | homeFeedMotor sensor now =>
    dsimp only [exec, State.homeFeedMotor]
    split_ifs
    · exact s.completeFeedHoming_configuration now
    · exact State.feedHomingOffsetStep_configuration _ now
    · rfl
    · exact s.feedHomingOffsetStep_configuration now
  | homeSortMotor sensor now => exact s.homeSortMotor_configuration sensor now
  | serviceSorterJog =>
    dsimp only [exec, State.serviceSorterJog, State.sorterJogEnds]
    split_ifs <;> rfl
  | onFeedComplete now =>
    dsimp only [exec, State.onFeedComplete]
    split_ifs
    · rfl
    · rfl
    · exact State.feedCompletionTurns_configuration 3 _ now
    · exact State.feedCompletionTurns_configuration 3 _ now
    · exact State.feedCompletionTurns_configuration 3 _ now
  | runAux raw sortRaw t now =>
    have tested : (s.runTestCycle raw t).configuration = s.configuration := by
      dsimp only [State.runTestCycle]
      split_ifs
      · exact s.queueFeed_configuration _ t
      · rfl
      · rfl
    dsimp only [exec, State.runAux, State.runSortTestCycle]
    split_ifs <;> first | rfl | exact tested
  | motorStandByCheck now =>
    dsimp only [exec, State.motorStandByCheck]
    split_ifs <;> rfl
  | serviceV2PhysicalRequest =>
    dsimp only [exec, State.serviceV2PhysicalRequest]
    split_ifs <;> rfl
  | emitV2StateIfChanged =>
    dsimp only [exec]
    rw [s.emitV2StateIfChanged_linkOnly.machine]

end CaseSorter.Firmware
