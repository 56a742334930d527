import Mathlib.Algebra.GroupWithZero.Nat
import CaseSorter.Link.Lines
import CaseSorter.Firmware.Ranges
import CaseSorter.Firmware.Unfed

/-! Every line the sketch emits in protocol v2 is one the host accepts. `Talks` goes through
the routines of `loop()`: the values on a line keep their range, so that the line keeps its
length, and what only v1 says is never reached. -/

namespace CaseSorter.Link

open Firmware

instance (f : Field) : Decidable (Wire f) :=
  decidable_of_iff (Host.isName f.1.toList = true ∧ f.2.toList ≠ [] ∧
    f.2.toList.all isPlain = true)
    ⟨fun h => ⟨h.1, h.2.1, h.2.2⟩, fun h => ⟨h.1, h.2, h.3⟩⟩

instance (head : Nat) (fields : List Field) : Decidable (Fits head fields) :=
  decidable_of_iff ((∀ f ∈ fields, Wire f) ∧ (fields.map Prod.fst).Nodup ∧
    head + width fields ≤ 57)
    ⟨fun h => ⟨h.1, h.2.1, h.2.2⟩, fun h => ⟨h.1, h.2, h.3⟩⟩

instance (code : Nat) (name : String) : Decidable (Coded code name) :=
  inferInstanceAs (Decidable (_ ∧ _ ∧ _))

instance : (kind : V2ResponseKind) → (fields : List Field) →
    Decidable (FitsResponse kind fields)
  | .accepted, fields | .progress, fields =>
    inferInstanceAs (Decidable (fields ≠ [] ∧ Fits 8 fields))
  | .data, fields => inferInstanceAs (Decidable (fields ≠ [] ∧ Fits 4 fields))
  | .done, fields => inferInstanceAs (Decidable (Fits 4 fields))
  | .error _ _, _ => inferInstanceAs (Decidable (_ ∧ _))

instance : (kind : V2EventKind) → (fields : List Field) → Decidable (FitsEvent kind fields)
  | .state, fields => inferInstanceAs (Decidable (fields ≠ [] ∧ _))
  | .fault _ _, _ | .reject _ _, _ => inferInstanceAs (Decidable (_ ∧ _))

theorem wire_nat {key : String} (name : Host.isName key.toList = true) (n : Nat) :
    Wire (key, toString n) := ⟨name, digits_given n, plain_digits n⟩

theorem length_nat {n k : Nat} (positive : 0 < k) (h : n < 10 ^ k) : (toString n).length ≤ k :=
  (Nat.length_repr_le_iff positive).mpr h

theorem fits_nat {head : Nat} {key : String} (name : Host.isName key.toList = true) {n k : Nat}
    (positive : 0 < k) (h : n < 10 ^ k) (short : head + key.length + k ≤ 55) :
    Fits head [field key n] where
  wire f member := by
    obtain rfl := List.mem_singleton.mp member
    exact wire_nat name n
  keys := by simp
  short := by
    have length := length_nat positive h
    simp only [width, field, List.map_cons, List.map_nil, List.sum_cons, List.sum_nil]
    omega

/-- The lines from `s` to `t`, and what they leave. -/
structure Tells (s t : State) : Prop where
  ranged : Ranged t
  lines : ∃ lines, t.link.output = lines ++ s.link.output ∧
    (s.link.session.mode = .v2 → ∀ line ∈ lines, Accepted line)

structure Talks (s t : State) : Prop where
  mode : t.link.session.mode = s.link.session.mode
  tells : Ranged s → Tells s t

theorem Talks.before {s t u : State} (h : Talks s t) (h' : Ranged t → Tells t u)
    (ranged : Ranged s) :
    Tells s u := by
  obtain ⟨between, older, output, heard⟩ := h.tells ranged
  obtain ⟨after, newer, output', heard'⟩ := h' between
  refine ⟨after, newer ++ older, by rw [output', output, List.append_assoc],
    fun v2 line member => ?_⟩
  rcases List.mem_append.mp member with new | old
  · exact heard' (h.mode.trans v2) line new
  · exact heard v2 line old

theorem Talks.trans {s t u : State} (h : Talks s t) (h' : Talks t u) : Talks s u :=
  ⟨h'.mode.trans h.mode, h.before h'.tells⟩

theorem talks_silent {s t : State} (mode : t.link.session.mode = s.link.session.mode)
    (output : t.link.output = s.link.output) (ranged : Ranged s → Ranged t) : Talks s t :=
  ⟨mode, fun h => ⟨ranged h, [], output, fun _ _ member => absurd member List.not_mem_nil⟩⟩

theorem talks_same {s t : State} (link : t.link = s.link)
    (configuration : t.configuration = s.configuration) : Talks s t := by
  refine talks_silent (by rw [link]) (by rw [link]) fun h => ?_
  constructor
  · rw [configuration]
    exact h.configuration
  all_goals rw [link]
  exacts [h.generation, h.sequence, h.sequenceMax, h.active, h.tracked, h.slot]

theorem Talks.refl (s : State) : Talks s s := talks_same rfl rfl

section Emitters

variable (s : State)

theorem emit_talks {line : Emission}
    (h : Ranged s → s.link.session.mode = .v2 → Accepted line) :
    Talks s (s.emit line) := by
  refine ⟨rfl, fun ranged => ⟨?_, [line], rfl, fun v2 other member => ?_⟩⟩
  · exact ⟨ranged.configuration, ranged.generation, ranged.sequence, ranged.sequenceMax,
      ranged.active, ranged.tracked, ranged.slot⟩
  · rw [List.mem_singleton.mp member]
    exact h ranged v2

theorem respond_talks {requestId : Nat} {kind : V2ResponseKind} {fields : List Field}
    (h : Ranged s → requestId ≤ 65535 ∧ FitsResponse kind fields) :
    Talks s (s.respond requestId kind fields) :=
  emit_talks s fun ranged _ => accepted_response (h ranged).1 (h ranged).2

theorem setLifecycle_talks {lifecycle : V2RequestLifecycle}
    (h : Ranged s → lifecycle.activeId ≤ 65535) : Talks s (s.setLifecycle lifecycle) :=
  talks_silent rfl rfl fun ranged => ⟨ranged.configuration, ranged.generation, ranged.sequence,
    ranged.sequenceMax, h ranged, ranged.tracked, ranged.slot⟩

theorem setTracker_talks {tracker : PhysicalRequestTracker}
    (h : Ranged s → tracker.requestIdField ≤ 65535 ∧ Small tracker.slot) :
    Talks s (s.setTracker tracker) :=
  talks_silent rfl rfl fun ranged => ⟨ranged.configuration, ranged.generation, ranged.sequence,
    ranged.sequenceMax, ranged.active, (h ranged).1, (h ranged).2⟩

theorem setV2Parser_talks (parser : V2FrameParser) : Talks s (s.setV2Parser parser) :=
  talks_silent rfl rfl fun ranged => ⟨ranged.configuration, ranged.generation, ranged.sequence,
    ranged.sequenceMax, ranged.active, ranged.tracked, ranged.slot⟩

theorem setCommandParser_talks (parser : CommandParser) : Talks s (s.setCommandParser parser) :=
  talks_silent rfl rfl fun ranged => ⟨ranged.configuration, ranged.generation, ranged.sequence,
    ranged.sequenceMax, ranged.active, ranged.tracked, ranged.slot⟩

theorem setPendingCommand_talks (pending : PendingCommand) :
    Talks s (s.setPendingCommand pending) :=
  talks_silent rfl rfl fun ranged => ⟨ranged.configuration, ranged.generation, ranged.sequence,
    ranged.sequenceMax, ranged.active, ranged.tracked, ranged.slot⟩

theorem setFaultStateTracker_talks (tracker : FaultStateTracker) :
    Talks s (s.setFaultStateTracker tracker) :=
  talks_silent rfl rfl fun ranged => ⟨ranged.configuration, ranged.generation, ranged.sequence,
    ranged.sequenceMax, ranged.active, ranged.tracked, ranged.slot⟩

theorem setRawStopLineDetector_talks (detector : RawStopLineDetector) :
    Talks s (s.setRawStopLineDetector detector) :=
  talks_silent rfl rfl fun ranged => ⟨ranged.configuration, ranged.generation, ranged.sequence,
    ranged.sequenceMax, ranged.active, ranged.tracked, ranged.slot⟩

theorem setConfiguration_talks {configuration : Configuration}
    (dispatched : Dispatched s.configuration configuration) :
    Talks s (s.setConfiguration configuration) :=
  talks_silent rfl rfl fun ranged => ⟨dispatched.ranged ranged.configuration, ranged.generation,
    ranged.sequence, ranged.sequenceMax, ranged.active, ranged.tracked, ranged.slot⟩

theorem advanceConfigGeneration_talks : Talks s s.advanceConfigGeneration := by
  refine talks_silent rfl rfl fun ranged => ⟨ranged.configuration, ?_, ranged.sequence,
    ranged.sequenceMax, ranged.active, ranged.tracked, ranged.slot⟩
  have le := ranged.generation
  unfold State.advanceConfigGeneration
  dsimp only
  split_ifs
  · exact Nat.zero_le _
  · omega

theorem emitV2Event_talks {kind : V2EventKind} {fields : List Field}
    (h : Ranged s → FitsEvent kind fields) : Talks s (s.emitV2Event kind fields) := by
  refine ⟨rfl, fun ranged => ⟨?_, [_], rfl, fun v2 other member => ?_⟩⟩
  · have le := ranged.sequenceMax
    refine ⟨ranged.configuration, ranged.generation, fun _ => ?_, ?_, ranged.active,
      ranged.tracked, ranged.slot⟩
    · simp only [State.emitV2Event, State.emit, ProtocolSession.nextEventSequence]
      split_ifs <;> omega
    · simp only [State.emitV2Event, State.emit, ProtocolSession.nextEventSequence]
      split_ifs <;> omega
  · rw [List.mem_singleton.mp member]
    exact accepted_event (ranged.sequence v2) ranged.sequenceMax (h ranged)

theorem emitV2Terminal_talks {requestId : Nat} {kind : V2ResponseKind} {fields : List Field}
    (h : Ranged s → requestId ≤ 65535 ∧ FitsResponse kind fields) :
    Talks s (s.emitV2Terminal requestId kind fields).1 := by
  unfold State.emitV2Terminal
  split_ifs
  · exact .refl s
  · exact (respond_talks s h).trans
      (setLifecycle_talks _ fun ranged => V2RequestLifecycle.terminal_le ranged.active requestId)

theorem respondData_talks {requestId : Nat} {fields : List Field} (small : requestId ≤ 65535)
    (h : Ranged s → ∀ f ∈ fields, Fits 4 [f]) : Talks s (s.respondData requestId fields) := by
  induction fields generalizing s with
  | nil => exact .refl s
  | cons f fields ih =>
    refine ⟨?_, fun ranged => ?_⟩
    · exact ((s.respondData_linkOnly requestId (f :: fields))).mode
    · have first := respond_talks s fun _ => ⟨small, show FitsResponse .data [f] from
        ⟨by simp, h ranged f List.mem_cons_self⟩⟩
      refine first.before ?_ ranged
      exact (ih (s.respond requestId .data [f]) fun _ g member =>
        h ranged g (List.mem_cons_of_mem f member)).tells

theorem emitV2StateIfChanged_talks : Talks s s.emitV2StateIfChanged := by
  have fits : ∀ mode : MachineMode, ∀ phase : MachinePhase,
      FitsEvent .state [("mode", mode.name), ("phase", phase.name)] := by
    intro mode phase
    refine ⟨by simp, ?_⟩
    cases mode <;> cases phase <;> decide
  unfold State.emitV2StateIfChanged
  split_ifs
  · exact .refl s
  · dsimp only
    split_ifs
    · exact setFaultStateTracker_talks s _
    · exact (setFaultStateTracker_talks s _).trans (emitV2Event_talks _ fun _ => fits _ _)

theorem fits_busy {activeRequestId : Nat} (small : activeRequestId ≤ 65535) :
    FitsResponse (.error 2001 "busy") [field "active_id" activeRequestId] :=
  ⟨by decide, fits_nat (k := 5) (by decide) (by decide) (by omega) (by decide)⟩

theorem emitV2Busy_talks {requestId activeRequestId : Nat} (small : requestId ≤ 65535)
    (active : Ranged s → activeRequestId ≤ 65535) :
    Talks s (s.emitV2Busy requestId activeRequestId) :=
  respond_talks s fun ranged => ⟨small, fits_busy (active ranged)⟩

theorem emitV2DuplicateId_talks {requestId : Nat} (small : requestId ≤ 65535) :
    Talks s (s.emitV2DuplicateId requestId) := by
  refine emitV2Event_talks s fun _ => ⟨by decide, ?_⟩
  split_ifs
  · exact fits_nat (k := 5) (by decide) (by decide) (by omega) (by decide)
  · decide

theorem beginV2Immediate_talks {requestId : Nat} (small : requestId ≤ 65535) :
    Talks s (s.beginV2Immediate requestId).1 := by
  have begun := setLifecycle_talks s fun ranged =>
    V2RequestLifecycle.beginReadOnly_le ranged.active requestId
  unfold State.beginV2Immediate
  split_ifs
  · exact emitV2Busy_talks s (Nat.zero_le _) fun _ => Nat.zero_le _
  · dsimp only
    split
    · exact begun.trans (emitV2DuplicateId_talks _ small)
    · refine begun.trans (emitV2Busy_talks _ small fun ranged => ?_)
      exact V2RequestLifecycle.activeRequestId_le ranged.active
    · exact begun

theorem beginV2Active_talks {requestId : Nat} (small : requestId ≤ 65535) :
    Talks s (s.beginV2Active requestId).1 := by
  have begun := setLifecycle_talks s fun ranged =>
    V2RequestLifecycle.beginActive_le ranged.active small
  unfold State.beginV2Active
  dsimp only
  split
  · exact begun.trans (emitV2DuplicateId_talks _ small)
  · refine begun.trans (emitV2Busy_talks _ small fun ranged => ?_)
    exact V2RequestLifecycle.activeRequestId_le ranged.active
  · exact begun

theorem refuseV2Request_talks {refusal : State} {requestId : Nat} (small : requestId ≤ 65535)
    (h : s.refuseV2Request requestId = some refusal) : Talks s refusal := by
  unfold State.refuseV2Request at h
  split_ifs at h
  · exact Option.some.inj h ▸ emitV2DuplicateId_talks s small
  · exact Option.some.inj h ▸ emitV2Busy_talks s small fun ranged =>
      V2RequestLifecycle.activeRequestId_le ranged.active

theorem entry_nat {key : String} (name : Host.isName key.toList = true)
    (short : key.length ≤ 41) {n : Nat} (h : n < 10 ^ 10) : Fits 4 [(key, toString n)] :=
  fits_nat (k := 10) name (by decide) h (by omega)

theorem entry_unsigned {key : String} (name : Host.isName key.toList = true)
    (short : key.length ≤ 41) (value : Int) : Fits 4 [field key (State.unsigned value)] := by
  have bound := (UInt32.ofInt value).toNat_lt
  exact entry_nat name short (by unfold State.unsigned; omega)

theorem entry_bit {key : String} (name : Host.isName key.toList = true)
    (short : key.length ≤ 41) (value : Bool) : Fits 4 [field key value.toNat] :=
  entry_nat name short (by have := value.toNat_le; omega)

theorem fits_activeId (ranged : Ranged s) : Fits 4 [s.activeIdField] := by
  unfold State.activeIdField
  split_ifs
  · have small := V2RequestLifecycle.activeRequestId_le ranged.active
    exact entry_nat (by decide) (by decide) (by omega)
  · decide

theorem fits_status (ranged : Ranged s) : ∀ f ∈ s.statusFields, Fits 4 [f] := by
  have generation := ranged.generation
  have fault : s.link.faultStateTracker.faultCode < 10 ^ 10 := by
    unfold FaultStateTracker.faultCode
    split_ifs <;> decide
  have mode : Fits 4 [("mode", s.machineState.mode.name)] := by
    cases s.machineState.mode <;> decide
  have phase : Fits 4 [("phase", s.currentPhase.name)] := by
    cases s.currentPhase <;> decide
  simp only [State.statusFields, State.queueFields, List.cons_append, List.nil_append,
    List.forall_mem_cons]
  refine ⟨mode, phase, entry_bit (by decide) (by decide) _, entry_bit (by decide) (by decide) _,
    entry_bit (by decide) (by decide) _, fits_activeId s ranged,
    entry_nat (by decide) (by decide) fault, entry_unsigned (by decide) (by decide) _,
    entry_unsigned (by decide) (by decide) _, entry_nat (by decide) (by decide) ?_, nofun⟩
  unfold v2ConfigGenerationMax at generation
  omega

theorem fits_capabilities (ranged : Ranged s) : ∀ f ∈ s.capabilityFields, Fits 4 [f] := by
  have count := ranged.configuration.slotCount
  have slots : maximumRepresentableSlotCount s.configuration.sortSteps sortMicrosteps.toNat
      maxAvrInt ≤ 2048 := maximumRepresentableSlotCount_le s.configuration.sortSteps
  unfold maxAvrInt at count
  simp only [State.capabilityFields, List.forall_mem_cons]
  refine ⟨by decide, by decide, by decide, by decide,
    entry_nat (by decide) (by decide) (by omega),
    entry_nat (by decide) (by decide) (by omega), by decide, by decide, by decide, by decide,
    by decide, nofun⟩

theorem fits_inspection (ranged : Ranged s) (inspection : V2InspectionCommand) :
    ∀ f ∈ s.inspectionFields inspection, Fits 4 [f] := by
  cases inspection with
  | none => exact nofun
  | protocolVersion =>
    simp only [State.inspectionFields, List.forall_mem_cons]
    exact ⟨by decide, nofun⟩
  | capabilities => exact fits_capabilities s ranged
  | status => exact fits_status s ranged
  | queue =>
    simp only [State.inspectionFields, State.queueFields, List.forall_mem_cons]
    exact ⟨by decide, entry_unsigned (by decide) (by decide) _,
      entry_unsigned (by decide) (by decide) _, nofun⟩

theorem fits_configuration {c : Configuration} (ranged : c.Ranged) :
    ∀ f ∈ State.configurationFields c, Fits 4 [f] := by
  have steps := ranged.sortSteps
  have count := ranged.slotCount
  have standby := ranged.autoMotorStandbyTimeout
  have timeout := ranged.debounceTimeout
  have pause := ranged.debouncePauseTime
  unfold maxAvrInt at steps count timeout pause
  unfold maxStandbyTimeoutSeconds at standby
  simp only [State.configurationFields, useArduinoPwmDimmer, Bool.false_eq_true, if_false,
    List.append_nil, List.forall_mem_cons]
  refine ⟨?_, ?_, ?_, ?_, ?_, ?_, ?_, ?_, ?_, ?_, ?_, ?_, ?_, ?_, ?_, ?_, nofun⟩
  case refine_4 | refine_5 | refine_14 | refine_15 | refine_16 =>
    exact entry_nat (by decide) (by decide) (by omega)
  case refine_8 => exact entry_bit (by decide) (by decide) _
  all_goals exact entry_unsigned (by decide) (by decide) _

theorem fits_done : Fits 4 [] := by decide

theorem emitV2Inspection_talks {requestId : Nat} (small : requestId ≤ 65535)
    (inspection : V2InspectionCommand) : Talks s (s.emitV2Inspection requestId inspection) :=
  (respondData_talks s small fun ranged => fits_inspection s ranged inspection).trans
    (emitV2Terminal_talks _ fun _ => ⟨small, fits_done⟩)

theorem emitV2Configuration_talks {requestId : Nat} (small : requestId ≤ 65535) :
    Talks s (s.emitV2Configuration requestId) :=
  (respondData_talks s small fun ranged => fits_configuration ranged.configuration).trans
    (emitV2Terminal_talks _ fun _ => ⟨small, fits_done⟩)

theorem handleV2Immediate_talks {requestId : Nat} (small : requestId ≤ 65535) (payload : Bytes)
    (t : Ticks) : Talks s (s.handleV2Immediate requestId payload t) := by
  refine (beginV2Immediate_talks s small).trans ?_
  unfold State.handleV2Immediate
  dsimp only
  split_ifs
  · exact .refl _
  · have uptime : Fits 4 [field "uptime_ms" t.now.toNat] :=
      entry_nat (by decide) (by decide) (by have := t.now.toNat_lt; omega)
    exact (respond_talks _ fun _ => ⟨small, show FitsResponse .done [_] from uptime⟩).trans
      (setLifecycle_talks _ fun ranged => V2RequestLifecycle.terminal_le ranged.active requestId)
  · have version : Fits 4 [("version", State.firmwareVersion)] := by decide
    exact (respond_talks _ fun _ =>
        ⟨small, show FitsResponse .data [_] from ⟨by simp, version⟩⟩).trans
      (emitV2Terminal_talks _ fun _ => ⟨small, fits_done⟩)
  · exact emitV2Inspection_talks _ small _
  · exact emitV2Terminal_talks _ fun _ => ⟨small, by decide, by decide⟩

theorem toString_small {value : Int} (h : Small value) :
    ∃ n : Nat, toString value = toString n ∧ n ≤ maxAvrInt := by
  obtain ⟨n, rfl⟩ := Int.eq_ofNat_of_zero_le h.1
  exact ⟨n, rfl, Int.ofNat_le.mp h.2⟩

theorem setterValue {c : Configuration} (ranged : c.Ranged) {command : V1Command}
    (setter : v1CommandIsSetter command = true) :
    Host.isName (State.v2SetterKey command).toList = true ∧
      ∃ n k, State.v2SetterValue c command = toString n ∧ 0 < k ∧ n < 10 ^ k ∧
        (State.v2SetterKey command).length + k ≤ 30 := by
  have int {value : Int} (h : Small value) : ∃ n, toString value = toString n ∧ n < 10 ^ 5 := by
    obtain ⟨n, text, le⟩ := toString_small h
    unfold maxAvrInt at le
    exact ⟨n, text, by omega⟩
  have nat {n : Nat} (h : n ≤ maxAvrInt) : ∃ m, toString n = toString m ∧ m < 10 ^ 5 := by
    unfold maxAvrInt at h
    exact ⟨n, rfl, by omega⟩
  have five {key value : String} (name : Host.isName key.toList = true)
      (h : ∃ n, value = toString n ∧ n < 10 ^ 5) (short : key.length ≤ 25) :
      Host.isName key.toList = true ∧
        ∃ n k, value = toString n ∧ 0 < k ∧ n < 10 ^ k ∧ key.length + k ≤ 30 := by
    obtain ⟨n, text, le⟩ := h
    exact ⟨name, n, 5, text, by decide, le, by omega⟩
  cases command
  case debounceTimeout => exact five (by decide) (nat ranged.debounceTimeout) (by decide)
  case debounceTime => exact five (by decide) (nat ranged.debouncePauseTime) (by decide)
  case feedSpeed => exact five (by decide) (int ranged.feedSpeed) (by decide)
  case feedHomingOffset => exact five (by decide) (int ranged.feedHomingOffset) (by decide)
  case sortHomingOffset => exact five (by decide) (int ranged.sortHomingOffset) (by decide)
  case sortSpeed => exact five (by decide) (int ranged.sortSpeed) (by decide)
  case sortSteps => exact five (by decide) (nat ranged.sortSteps) (by decide)
  case slotCount => exact five (by decide) (nat ranged.slotCount) (by decide)
  case feedSteps => exact five (by decide) (int ranged.feedSteps) (by decide)
  case notificationDelay => exact five (by decide) (int ranged.notificationDelay) (by decide)
  case slotDropDelay => exact five (by decide) (int ranged.slotDropDelay) (by decide)
  case airDropEnabled =>
    exact five (by decide) ⟨_, rfl, by have := c.airDropEnabled.toNat_le; omega⟩ (by decide)
  case airDropPostDelay => exact five (by decide) (int ranged.airDropPostDelay) (by decide)
  case airDropPreDelay => exact five (by decide) (int ranged.airDropPreDelay) (by decide)
  case airDropSignalDuration => exact five (by decide) (int ranged.airDropSignalTime) (by decide)
  case autoMotorStandbyTimeout =>
    have le := ranged.autoMotorStandbyTimeout
    unfold maxStandbyTimeoutSeconds at le
    exact ⟨by decide, _, 7, rfl, by decide, by omega, by decide⟩
  case cameraLedLevel => exact five (by decide) (int ranged.cameraLedLevel) (by decide)
  all_goals cases setter

theorem emitV2SetterDone_talks {requestId : Nat} (small : requestId ≤ 65535) {command : V1Command}
    (setter : v1CommandIsSetter command = true) :
      Talks s (s.emitV2SetterDone requestId command) := by
  refine emitV2Terminal_talks s fun ranged => ⟨small, ?_⟩
  obtain ⟨name, n, k, text, positive, bound, short⟩ := setterValue ranged.configuration setter
  have generation : s.link.configGeneration < 10 ^ 9 := by
    have le := ranged.generation
    unfold v2ConfigGenerationMax at le
    omega
  rw [text]
  constructor
  · simp only [List.forall_mem_cons]
    exact ⟨wire_nat name n, wire_nat (by decide) _, nofun⟩
  · have other : State.v2SetterKey command ≠ "generation" := by
      cases command <;> decide
    simpa [field] using other
  · have value := length_nat positive bound
    have last := length_nat (by decide) generation
    simp only [width, field, List.map_cons, List.map_nil, List.sum_cons, List.sum_nil,
      show "generation".length = 10 from rfl]
    omega

theorem setterRange {command : V1Command} (fits : State.v2SetterRangeFitsLine command = true) :
    ∃ minimum maximum, s.v2SetterRangeFields command =
        [field "min" minimum, field "max" maximum] ∧ minimum < 10 ∧ maximum < 10 ^ 5 := by
  have slots := maximumRepresentableSlotCount_le s.configuration.sortSteps
  cases command
  case feedSpeed | sortSpeed | sortSteps | feedSteps | slotDropDelay | debounceTime =>
    exact ⟨_, _, rfl, by decide, by decide⟩
  case slotCount => exact ⟨_, _, rfl, by decide, by omega⟩
  all_goals cases fits

theorem emitV2SetterError_talks {requestId : Nat} (small : requestId ≤ 65535)
    {command : V1Command}
    (setter : v1CommandIsSetter command = true) (malformed : Bool) :
    Talks s (s.emitV2SetterError requestId command malformed) := by
  unfold State.emitV2SetterError
  refine emitV2Terminal_talks s fun _ => ⟨small, ?_⟩
  cases malformed with
  | true =>
    refine ⟨by decide, ?_⟩
    simp only [Bool.not_true, Bool.false_and, Bool.false_eq_true, if_false]
    cases command <;> first | decide | cases setter
  | false =>
    refine ⟨by decide, ?_⟩
    cases fits : State.v2SetterRangeFitsLine command with
    | false =>
      simp only [Bool.and_false, Bool.false_eq_true, if_false]
      cases command <;> first | decide | cases setter
    | true =>
      obtain ⟨minimum, maximum, range, low, high⟩ := setterRange s fits
      have key : Wire ("key", State.v2SetterKey command) ∧
        (State.v2SetterKey command).length ≤ 13 := by
        cases command <;> first | decide | cases fits
      simp only [Bool.not_false, Bool.and_true, if_true, range]
      constructor
      · simp only [List.forall_mem_cons]
        exact ⟨key.1, wire_nat (by decide) _, wire_nat (by decide) _, nofun⟩
      · show ["key", "min", "max"].Nodup
        decide
      · have first := length_nat (k := 1) (by decide) low
        have second := length_nat (by decide) high
        simp only [width, field, List.map_cons, List.map_nil, List.sum_cons, List.sum_nil,
          show "key".length = 3 from rfl, show "min".length = 3 from rfl,
          show "max".length = 3 from rfl,
          show codedLength "error" 1006 "out_of_range" = 23 by decide]
        omega

end Emitters

end CaseSorter.Link
