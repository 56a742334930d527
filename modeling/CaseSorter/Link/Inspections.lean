import CaseSorter.Host.Snapshots
import CaseSorter.Link.HeardLines

/-! The inspections of the host. The data lines of a status, capabilities or queue request
carry every field the host requires, and what the client collects from them is a snapshot
with the values of the sketch. -/

namespace CaseSorter.Link

open Firmware

section Dictionary

variable {fields : List Field}

theorem get_mem (nodup : (fields.map Prod.fst).Nodup) {key value : String}
    (member : (key, value) ∈ fields) : Host.get (hostFields fields) key = value.toList := by
  induction fields with
  | nil => cases member
  | cons f fields ih =>
    obtain ⟨fresh, rest⟩ := List.nodup_cons.mp nodup
    unfold Host.get hostFields
    rw [List.map_cons, List.find?_cons]
    rcases List.mem_cons.mp member with rfl | later
    · simp
    · have other : f.1 ≠ key := fun same => fresh (List.mem_map.mpr ⟨_, later, same.symm⟩)
      have differs : decide (f.1.toList = key.toList) = false := by
        simpa [String.toList_inj] using other
      simp only [differs]
      exact ih rest later

theorem missing_eq_nil {required : List String}
    (all : ∀ name ∈ required, name ∈ fields.map Prod.fst) :
    Host.missing required (hostFields fields) = [] := by
  unfold Host.missing hostFields
  rw [List.filter_eq_nil_iff]
  intro name member
  obtain ⟨f, held, same⟩ := List.mem_map.mp (all name member)
  have found : (fields.map fun f => (f.1.toList, f.2.toList)).any
      (fun f => decide (f.1 = name.toList)) = true := by
    rw [List.any_map, List.any_eq_true]
    exact ⟨f, held, by simp [same]⟩
  simp [found]

theorem extras_eq_nil {required : List String}
    (all : ∀ name ∈ fields.map Prod.fst, name ∈ required) :
    Host.extras required (hostFields fields) = [] := by
  unfold Host.extras hostFields
  rw [List.filter_eq_nil_iff]
  intro entry member
  obtain ⟨f, held, rfl⟩ := List.mem_map.mp member
  have known : required.any (fun name => decide (f.1.toList = name.toList)) = true :=
    List.any_eq_true.mpr ⟨f.1, all f.1 (List.mem_map_of_mem held), by simp⟩
  simp [known]

theorem getUint_field (nodup : (fields.map Prod.fst).Nodup) {key : String} {n minimum : Nat}
    {maximum : Option Nat} (member : field key n ∈ fields) (low : minimum ≤ n)
    (high : ∀ m ∈ maximum, n ≤ m) :
    Host.getUint (hostFields fields) key minimum maximum = .ok n := by
  unfold Host.getUint
  rw [get_mem nodup member]
  exact uint_toString key low high

theorem getBit_field (nodup : (fields.map Prod.fst).Nodup) {key : String} {b : Bool}
    (member : field key b.toNat ∈ fields) : Host.getBit (hostFields fields) key = .ok b := by
  unfold Host.getBit
  rw [get_mem nodup member]
  cases b <;> rfl

end Dictionary

def answers (requestId : Nat) (fields : List Field) : List V2Response :=
  fields.map (fun f => ⟨requestId, .data, [f]⟩) ++ [⟨requestId, .done, []⟩]

theorem update_fresh {fields : Host.Fields} {entry : Host.Text × Host.Text}
    (fresh : entry.1 ∉ fields.map Prod.fst) : Host.update fields [entry] = fields ++ [entry] := by
  have absent : (fields.any fun f => decide (f.1 = entry.1)) = false := by
    rw [List.any_eq_false]
    intro f member same
    exact fresh (List.mem_map.mpr ⟨f, member, of_decide_eq_true same⟩)
  simp [Host.update, Host.setField, absent]

theorem collect_data (requestId : Nat) {fields : List Field} {held : Host.Fields}
    (nodup : ((held ++ hostFields fields).map Prod.fst).Nodup) :
    (fields.map fun f => hostResponse ⟨requestId, .data, [f]⟩).foldl
      (fun held response => Host.update held response.fields) held = held ++ hostFields fields := by
  induction fields generalizing held with
  | nil => simp [hostFields]
  | cons f fields ih =>
    have split : held ++ hostFields (f :: fields) =
        (held ++ [(f.1.toList, f.2.toList)]) ++ hostFields fields := by simp [hostFields]
    have fresh : f.1.toList ∉ held.map Prod.fst := by
      intro member
      rw [List.map_append] at nodup
      exact (List.nodup_append.mp nodup).2.2 _ member _ (by simp [hostFields]) rfl
    rw [split] at nodup ⊢
    rw [List.map_cons, List.foldl_cons, ← ih nodup]
    congr 1
    exact update_fresh fresh

theorem hostFields_keys (fields : List Field) :
    (hostFields fields).map Prod.fst = (fields.map Prod.fst).map String.toList := by
  simp [hostFields, Function.comp_def]

theorem collect_answers (requestId : Nat) {fields : List Field}
    (nodup : (fields.map Prod.fst).Nodup) :
    Host.collect ((answers requestId fields).map hostResponse) = hostFields fields := by
  have keys : (([] ++ hostFields fields).map Prod.fst).Nodup := by
    rw [List.nil_append, hostFields_keys]
    exact List.pairwise_map.mpr (nodup.imp fun other same => other (String.toList_inj.mp same))
  have data := collect_data requestId keys
  unfold Host.collect answers
  rw [List.map_append, List.map_map, List.foldl_append, Function.comp_def, data]
  rfl

theorem respondData_output (s : State) (requestId : Nat) (fields : List Field) :
    (s.respondData requestId fields).link.output =
      (fields.map fun f => Emission.response ⟨requestId, .data, [f]⟩).reverse ++
        s.link.output := by
  induction fields generalizing s with
  | nil => rfl
  | cons f fields ih =>
    have rest := ih (s.respond requestId .data [f])
    rw [List.map_cons, List.reverse_cons, List.append_assoc]
    exact rest

theorem beginV2Immediate_started {s : State} (sound : s.ledger.Sound) {requestId : Nat}
    (free : s.link.session.lifecycle.owns requestId = false) :
    s.beginV2Immediate requestId = (s.setLifecycle
      { s.link.session.lifecycle with readOnly := true, readOnlyId := requestId }, true) := by
  have begun := (State.beginV2Immediate_free sound free).1
  have started := V2RequestLifecycle.beginReadOnly_started sound.readOnly free
  change s.link.session.lifecycle.beginReadOnly requestId = _ at started
  unfold State.beginV2Immediate at begun ⊢
  rw [started] at begun ⊢
  split_ifs at begun ⊢
  rfl

theorem emitV2Inspection_output {s : State} {requestId : Nat}
    (owned : s.link.session.lifecycle.owns requestId = true) (inspection : V2InspectionCommand) :
    (s.emitV2Inspection requestId inspection).link.output =
      ((answers requestId (s.inspectionFields inspection)).map Emission.response).reverse ++
        s.link.output := by
  have same : (s.respondData requestId (s.inspectionFields inspection)).link.session.lifecycle =
      s.link.session.lifecycle := by
    obtain ⟨lines, -, eq⟩ := data_respond s requestId (s.inspectionFields inspection)
    rw [eq]
  unfold State.emitV2Inspection
  dsimp only
  rw [State.emitV2Terminal_owned (by rw [same]; exact owned)]
  have output := respondData_output s requestId (s.inspectionFields inspection)
  simp only [answers, List.map_append, List.map_map, List.reverse_append, List.append_assoc]
  exact congrArg (Emission.response ⟨requestId, .done, []⟩ :: ·) output

theorem handleV2Request_inspection {s : State} {requestId : Nat} {payload : Bytes} {t : Ticks}
    (inspects : payload = ascii "status" ∨ payload = ascii "capabilities" ∨
      payload = ascii "queue") :
    s.handleV2Request requestId payload t = s.handleV2Immediate requestId payload t := by
  rcases inspects with rfl | rfl | rfl <;> rfl

theorem handleV2Immediate_output {s : State} (sound : s.ledger.Sound) {requestId : Nat}
    (free : s.link.session.lifecycle.owns requestId = false) {payload : Bytes} {t : Ticks}
    (inspects : payload = ascii "status" ∨ payload = ascii "capabilities" ∨
      payload = ascii "queue") :
    (s.handleV2Immediate requestId payload t).link.output =
      ((answers requestId (s.inspectionFields (classifyV2InspectionCommand payload))).map
        Emission.response).reverse ++ s.link.output := by
  have inspected := @emitV2Inspection_output (s.setLifecycle
    { s.link.session.lifecycle with readOnly := true, readOnlyId := requestId }) requestId
    (by simp [V2RequestLifecycle.owns, V2RequestLifecycle.ownsReadOnly, State.setLifecycle])
  unfold State.handleV2Immediate
  rw [beginV2Immediate_started sound free]
  rcases inspects with rfl | rfl | rfl
  · exact inspected .status
  · exact inspected .capabilities
  · exact inspected .queue

theorem exec_request {s : State} {routine : Routine} {envelope : V2RequestEnvelope}
    (h : handled s routine = .v2Request envelope) :
    ∃ (t : Ticks) (detector : RawStopLineDetector) (parser : V2FrameParser),
      exec s routine = (((s.setRawStopLineDetector detector).setV2Parser parser).handleV2Request
        envelope.requestId envelope.payload t).setV2Parser .reset := by
  cases routine with
  | serialByte byte t =>
    simp only [handled, exec, State.serialByte] at h ⊢
    generalize s.link.rawStopLineDetector.consume byte = detected at h ⊢
    split_ifs at h with stop v2
    · have later : (s.setRawStopLineDetector detected.1).link.session.mode = .v2 := v2
      rw [if_neg stop, if_pos later]
      unfold State.consumeV2
      change handledV2 ((s.setRawStopLineDetector detected.1).link.session.parser.consume byte) = _
        at h
      generalize (s.setRawStopLineDetector detected.1).link.session.parser.consume byte = consumed
        at h ⊢
      obtain ⟨parser, result⟩ := consumed
      cases result with
      | noFrame | frameOverflow | frameInvalid => cases h
      | frameReady =>
        dsimp only [handledV2, State.handleV2Frame] at h ⊢
        cases parsed : parseV2RequestEnvelope parser.buffer with
        | badFrame | badId =>
          rw [parsed] at h
          cases h
        | ready request =>
          rw [parsed] at h
          cases h
          exact ⟨t, detected.1, parser, rfl⟩
    · generalize s.link.commandParser.consume byte = consumed at h
      obtain ⟨parser, result⟩ := consumed
      cases result <;> cases h
  | dispatchPending t =>
    simp only [handled] at h
    split_ifs at h
  | _ => cases h

theorem exec_inspection {s : State} (sound : s.ledger.Sound) {routine : Routine}
    {envelope : V2RequestEnvelope} (h : handled s routine = .v2Request envelope)
    (free : s.link.session.lifecycle.owns envelope.requestId = false)
    (inspects : envelope.payload = ascii "status" ∨ envelope.payload = ascii "capabilities" ∨
      envelope.payload = ascii "queue") :
    (exec s routine).link.output =
      ((answers envelope.requestId (s.inspectionFields
        (classifyV2InspectionCommand envelope.payload))).map Emission.response).reverse ++
          s.link.output := by
  obtain ⟨t, detector, parser, done⟩ := exec_request h
  rw [done, handleV2Request_inspection inspects]
  exact handleV2Immediate_output (s := (s.setRawStopLineDetector detector).setV2Parser parser)
    sound free inspects

def hostStatus (s : State) : Host.Status where
  mode := s.machineState.mode.name.toList
  phase := s.currentPhase.name.toList
  feedHomed := s.machineState.feeder.positionKnown
  sortHomed := s.machineState.sorter.positionKnown
  motorEnabled := s.motorDriversEnabled
  activeId :=
    if s.link.session.lifecycle.active then some s.link.session.lifecycle.activeId else none
  faultCode := s.link.faultStateTracker.faultCode
  queuePrevious := State.unsigned s.sorter.qPos1
  queueNext := State.unsigned s.sorter.qPos2
  configGeneration := s.link.configGeneration
  extras := []

def hostCapabilities (s : State) : Host.Capabilities where
  protocol := 2
  maxLine := v2MaxLineLength
  crc := "none".toList
  queueDepth := 2
  slotMax := maximumRepresentableSlotCount s.configuration.sortSteps
    sortMicrosteps.toNat maxAvrInt - 1
  slotCount := s.configuration.slotCount
  pwm := useArduinoPwmDimmer
  airdrop := true
  feedSensor := feedSensorEnabled
  feedHome := feedHomingEnabled
  sortHome := sortHomingEnabled
  extras := []

def hostQueue (s : State) : Host.QueueSnapshot where
  queueDepth := 2
  queuePrevious := State.unsigned s.sorter.qPos1
  queueNext := State.unsigned s.sorter.qPos2
  extras := []

theorem queue_keys (s : State) : (s.inspectionFields .queue).map Prod.fst =
    ["queue_depth", "queue_previous", "queue_next"] := rfl

theorem capabilities_keys (s : State) : (s.inspectionFields .capabilities).map Prod.fst =
    ["protocol", "max_line", "crc", "queue_depth", "slot_max", "slot_count", "pwm", "airdrop",
     "feed_sensor", "feed_home", "sort_home"] := rfl

theorem status_keys (s : State) : (s.inspectionFields .status).map Prod.fst =
    ["mode", "phase", "feed_homed", "sort_homed", "motor_enabled", "active_id", "fault_code",
     "queue_previous", "queue_next", "config_generation"] := by
  simp only [State.inspectionFields, State.statusFields, State.activeIdField]
  split_ifs <;> rfl

theorem inspection_nodup (s : State) (inspection : V2InspectionCommand) :
    ((s.inspectionFields inspection).map Prod.fst).Nodup := by
  cases inspection with
  | none => exact List.nodup_nil
  | protocolVersion => exact List.pairwise_singleton _ _
  | capabilities => rw [capabilities_keys]; decide
  | status => rw [status_keys]; decide
  | queue => rw [queue_keys]; decide

theorem queue_fromFields (s : State) :
    Host.QueueSnapshot.fromFields (hostFields (s.inspectionFields .queue)) = .ok (hostQueue s) := by
  have nodup := inspection_nodup s .queue
  have uint {key : String} {n : Nat} (minimum : Nat) (low : minimum ≤ n)
      (member : field key n ∈ s.inspectionFields .queue) :
      Host.getUint (hostFields (s.inspectionFields .queue)) key minimum none = .ok n :=
    getUint_field nodup member low nofun
  have depth := @uint "queue_depth" 2 1 (by decide) (by simp [State.inspectionFields])
  have previous := @uint "queue_previous" (State.unsigned s.sorter.qPos1) 0 (Nat.zero_le _)
    (by simp [State.inspectionFields, State.queueFields])
  have next := @uint "queue_next" (State.unsigned s.sorter.qPos2) 0 (Nat.zero_le _)
    (by simp [State.inspectionFields, State.queueFields])
  unfold Host.QueueSnapshot.fromFields
  rw [missing_eq_nil (by rw [queue_keys]; decide), extras_eq_nil (by rw [queue_keys]; decide),
    depth, previous, next]
  rfl

theorem capabilities_fromFields (s : State) :
    Host.Capabilities.fromFields (hostFields (s.inspectionFields .capabilities)) =
      .ok (hostCapabilities s) := by
  have nodup := inspection_nodup s .capabilities
  have uint {key : String} {n : Nat} (minimum : Nat) (low : minimum ≤ n)
      (member : field key n ∈ s.capabilityFields) :
      Host.getUint (hostFields (s.inspectionFields .capabilities)) key minimum none = .ok n :=
    getUint_field nodup member low nofun
  have bit {key : String} {b : Bool} (member : field key b.toNat ∈ s.capabilityFields) :
      Host.getBit (hostFields (s.inspectionFields .capabilities)) key = .ok b :=
    getBit_field nodup member
  have crc : Host.get (hostFields (s.inspectionFields .capabilities)) "crc" = "none".toList :=
    get_mem nodup (by simp [State.inspectionFields, State.capabilityFields])
  have protocol := @uint "protocol" 2 0 (by decide) (by simp [State.capabilityFields])
  have line := @uint "max_line" v2MaxLineLength 0 (by decide) (by simp [State.capabilityFields])
  have depth := @uint "queue_depth" 2 1 (by decide) (by simp [State.capabilityFields])
  have largest := @uint "slot_max" (hostCapabilities s).slotMax 0 (Nat.zero_le _)
    (by simp [State.capabilityFields, hostCapabilities])
  have count := @uint "slot_count" s.configuration.slotCount 0 (Nat.zero_le _)
    (by simp [State.capabilityFields])
  have pwm := @bit "pwm" useArduinoPwmDimmer (by simp [State.capabilityFields])
  have airdrop := @bit "airdrop" true (by simp [State.capabilityFields])
  have sensor := @bit "feed_sensor" feedSensorEnabled (by simp [State.capabilityFields])
  have feed := @bit "feed_home" feedHomingEnabled (by simp [State.capabilityFields])
  have sort := @bit "sort_home" sortHomingEnabled (by simp [State.capabilityFields])
  unfold Host.Capabilities.fromFields Host.Capabilities.requireVersion
  rw [missing_eq_nil (by rw [capabilities_keys]; decide),
    extras_eq_nil (by rw [capabilities_keys]; decide), crc, protocol,
    line, depth, largest, count, pwm, airdrop, sensor, feed, sort]
  rfl

theorem activeId_read (s : State) (ranged : Ranged s) :
    Host.Status.getActiveId (hostFields (s.inspectionFields .status)) =
      .ok (hostStatus s).activeId := by
  have nodup := inspection_nodup s .status
  have member : s.activeIdField ∈ s.inspectionFields .status := by
    simp [State.inspectionFields, State.statusFields]
  unfold State.activeIdField at member
  unfold Host.Status.getActiveId hostStatus
  cases active : s.link.session.lifecycle.active with
  | true =>
    rw [active, if_pos rfl] at member
    have same : s.link.session.lifecycle.activeRequestId = s.link.session.lifecycle.activeId := by
      rw [V2RequestLifecycle.activeRequestId, active, if_pos rfl]
    rw [same] at member
    have number (text : (toString s.link.session.lifecycle.activeId).toList = "none".toList) :
        False := by
      have digits := digits_all s.link.session.lifecycle.activeId
      rw [text] at digits
      cases digits
    have read : Host.getUint (hostFields (s.inspectionFields .status)) "active_id" 0 (some 65535) =
        .ok s.link.session.lifecycle.activeId :=
      getUint_field nodup member (Nat.zero_le _) fun m bound => by
        cases bound
        exact ranged.active
    rw [get_mem nodup member, if_neg number, read]
    rfl
  | false =>
    rw [active, if_neg Bool.false_ne_true] at member
    rw [get_mem nodup member, if_pos rfl]
    rfl

theorem status_fromFields (s : State) (ranged : Ranged s) :
    Host.Status.fromFields (hostFields (s.inspectionFields .status)) = .ok (hostStatus s) := by
  have nodup := inspection_nodup s .status
  have uint {key : String} {n : Nat} (member : field key n ∈ s.inspectionFields .status) :
      Host.getUint (hostFields (s.inspectionFields .status)) key 0 none = .ok n :=
    getUint_field nodup member (Nat.zero_le _) nofun
  have bit {key : String} {b : Bool} (member : field key b.toNat ∈ s.inspectionFields .status) :
      Host.getBit (hostFields (s.inspectionFields .status)) key = .ok b := getBit_field nodup member
  have mode : Host.get (hostFields (s.inspectionFields .status)) "mode" =
      s.machineState.mode.name.toList :=
    get_mem nodup (by simp [State.inspectionFields, State.statusFields])
  have phase : Host.get (hostFields (s.inspectionFields .status)) "phase" =
      s.currentPhase.name.toList :=
    get_mem nodup (by simp [State.inspectionFields, State.statusFields])
  have modes : (Host.Status.modes.any fun name =>
      decide (s.machineState.mode.name.toList = name.toList)) = true := by
    cases s.machineState.mode <;> decide
  have phases : (Host.Status.phases.any fun name =>
      decide (s.currentPhase.name.toList = name.toList)) = true := by
    cases s.currentPhase <;> decide
  have feed := @bit "feed_homed" s.machineState.feeder.positionKnown
    (by simp [State.inspectionFields, State.statusFields])
  have sort := @bit "sort_homed" s.machineState.sorter.positionKnown
    (by simp [State.inspectionFields, State.statusFields])
  have motor := @bit "motor_enabled" s.motorDriversEnabled
    (by simp [State.inspectionFields, State.statusFields])
  have fault := @uint "fault_code" s.link.faultStateTracker.faultCode
    (by simp [State.inspectionFields, State.statusFields])
  have previous := @uint "queue_previous" (State.unsigned s.sorter.qPos1)
    (by simp [State.inspectionFields, State.statusFields, State.queueFields])
  have next := @uint "queue_next" (State.unsigned s.sorter.qPos2)
    (by simp [State.inspectionFields, State.statusFields, State.queueFields])
  have generation := @uint "config_generation" s.link.configGeneration
    (by simp [State.inspectionFields, State.statusFields])
  unfold Host.Status.fromFields
  rw [missing_eq_nil (by rw [status_keys]; decide),
    extras_eq_nil (by rw [status_keys]; decide), mode, phase,
    modes, phases, activeId_read s ranged, feed, sort, motor, fault, previous, next,
    generation]
  rfl

/-- The host, which reads the lines of `responses`, has the snapshot `value`. -/
def Snapshot {α : Type} (s t : State) (requestId : Nat)
    (fromFields : Host.Fields → Except Host.ProtocolError α) (value : α) : Prop :=
  ∃ fields : List Field,
    t.link.output = ((answers requestId fields).map Emission.response).reverse ++ s.link.output ∧
      fromFields (Host.collect ((answers requestId fields).map hostResponse)) = .ok value

theorem snapshot_inspection {α : Type} {s : State} (sound : s.ledger.Sound) {routine : Routine}
    {envelope : V2RequestEnvelope} (h : handled s routine = .v2Request envelope)
    (free : s.link.session.lifecycle.owns envelope.requestId = false)
    (inspects : envelope.payload = ascii "status" ∨ envelope.payload = ascii "capabilities" ∨
      envelope.payload = ascii "queue")
    {fromFields : Host.Fields → Except Host.ProtocolError α} {value : α}
    (read : fromFields (hostFields (s.inspectionFields
      (classifyV2InspectionCommand envelope.payload))) = .ok value) :
    Snapshot s (exec s routine) envelope.requestId fromFields value := by
  refine ⟨_, exec_inspection sound h free inspects, ?_⟩
  rw [collect_answers envelope.requestId (inspection_nodup s _)]
  exact read

theorem v2Lines_accepted (now : UInt32) (routines : List Routine) (routine : Routine)
    (v2 : (execAll (boot now) routines).link.session.mode = .v2) :
    let s := execAll (boot now) routines
    (∃ lines, (exec s routine).link.output = lines ++ s.link.output ∧
      ∀ line ∈ lines, Accepted line) ∧
    ∀ envelope, handled s routine = .v2Request envelope →
      s.link.session.lifecycle.owns envelope.requestId = false →
      (envelope.payload = ascii "status" →
        Snapshot s (exec s routine) envelope.requestId Host.Status.fromFields (hostStatus s)) ∧
      (envelope.payload = ascii "capabilities" →
        Snapshot s (exec s routine) envelope.requestId Host.Capabilities.fromFields
          (hostCapabilities s)) ∧
      (envelope.payload = ascii "queue" →
        Snapshot s (exec s routine) envelope.requestId Host.QueueSnapshot.fromFields
          (hostQueue s)) := by
  intro s
  have speaking : Speaking s := speaking_run now routines
  have sound : s.ledger.Sound := sound_execAll (sound_boot now) routines
  constructor
  · obtain ⟨lines, output, accepted⟩ :=
      (exec_tells speaking.ranged speaking.unfed routine).lines
    exact ⟨lines, output, accepted v2⟩
  intro envelope request free
  refine ⟨fun payload => ?_, fun payload => ?_, fun payload => ?_⟩
  · refine snapshot_inspection sound request free (.inl payload) ?_
    rw [payload]
    exact status_fromFields s speaking.ranged
  · refine snapshot_inspection sound request free (.inr (.inl payload)) ?_
    rw [payload]
    exact capabilities_fromFields s
  · refine snapshot_inspection sound request free (.inr (.inr payload)) ?_
    rw [payload]
    exact queue_fromFields s

def received (text : String) : List Routine :=
  (ascii text).map fun byte => .serialByte byte ⟨0, 0, 0, 0⟩

def statusAsked : List Routine := received "stop\nprotocol:2\n@65535 status"

theorem v2Lines_accepted_status :
    let s := execAll (boot 0) statusAsked
    (∃ lines, (exec s (.serialByte 10 ⟨0, 0, 0, 0⟩)).link.output = lines ++ s.link.output ∧
      ∀ line ∈ lines, Accepted line) ∧
    Snapshot s (exec s (.serialByte 10 ⟨0, 0, 0, 0⟩)) 65535 Host.Status.fromFields
      (hostStatus s) := by
  have accepted := v2Lines_accepted 0 statusAsked (.serialByte 10 ⟨0, 0, 0, 0⟩)
    (by decide +kernel)
  exact ⟨accepted.1, (accepted.2 ⟨65535, ascii "status", true⟩ (by decide +kernel)
    (by decide +kernel)).1 rfl⟩

end CaseSorter.Link
