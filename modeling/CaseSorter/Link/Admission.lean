import CaseSorter.Daemon.Machine
import CaseSorter.Firmware.SorterPosition
import CaseSorter.Link.Inspections

/-! Admission of a sort. The largest slot and the readiness of the sorter travel from the
sketch through the inspections into the machine view; the daemon compares a slot with
them, and the sketch compares the argument of `sortto:` with its own configuration. -/

namespace CaseSorter.Link

open Firmware

/-- `_observe_profile`: the capabilities, in the words of the machine view. -/
def firmwareProfile (capabilities : Host.Capabilities) : Daemon.FirmwareProfile where
  protocolVersion := capabilities.protocol
  slotMax := capabilities.slotMax
  slotCount := capabilities.slotCount
  queueDepth := capabilities.queueDepth
  feedSensor := capabilities.feedSensor
  feedHome := capabilities.feedHome
  sortHome := capabilities.sortHome

def machineReadiness (status : Host.Status) : Daemon.MachineReadiness where
  feedHomed := status.feedHomed
  sortHomed := status.sortHomed
  faultCode := status.faultCode
  mode := String.ofList status.mode
  phase := String.ofList status.phase

/-- `require_supported(SortIntent(slot), view)` returns. -/
def SortAdmitted (slot : Int) (view : Daemon.MachineSnapshot) : Prop :=
  ∃ intent, Daemon.sortIntent [("slot", .int slot)] = .ok intent ∧
    Daemon.requireSupported intent view = .ok ()

theorem observeProfile_firmware (firmware : Daemon.FirmwareProfile)
    (readiness : Daemon.MachineReadiness) (view : Daemon.MachineSnapshot) :
    (view.observeProfile firmware readiness).firmware = some firmware ∧
      (view.observeProfile firmware readiness).readiness = some readiness := by
  unfold Daemon.MachineSnapshot.observeProfile
  split_ifs with same
  · exact ⟨same.1.symm, same.2.symm⟩
  · exact ⟨rfl, rfl⟩

theorem sortAdmitted_iff {slot : Int} {view : Daemon.MachineSnapshot}
    {firmware : Daemon.FirmwareProfile} {readiness : Daemon.MachineReadiness}
    (profile : view.firmware = some firmware) (ready : view.readiness = some readiness) :
    SortAdmitted slot view ↔
      (0 ≤ slot ∧ slot ≤ 102) ∧ slot ≤ firmware.slotMax ∧
        readiness.sortHomed = true := by
  rw [SortAdmitted, Daemon.sortIntent]
  by_cases h : 0 ≤ slot ∧ slot ≤ 102
  · rw [dif_pos h]
    have supported : Daemon.requireSupported (.sort ⟨slot.toNat, by omega⟩) view = .ok () ↔
        slot.toNat ≤ firmware.slotMax ∧ readiness.sortHomed = true := by
      simp only [Daemon.requireSupported, profile, ready]
      split_ifs with large homed
      · simp only [false_iff, not_and]
        intro small
        exact absurd small (Nat.not_le.mpr large)
      · simp only [homed, true_iff, and_true]
        exact Nat.not_lt.mp large
      · simp [homed]
    constructor
    · rintro ⟨intent, is, admitted⟩
      cases is
      obtain ⟨small, homed⟩ := supported.mp admitted
      exact ⟨h, by omega, homed⟩
    · rintro ⟨-, small, homed⟩
      exact ⟨_, rfl, supported.mpr ⟨by omega, homed⟩⟩
  · rw [dif_neg h]
    constructor
    · rintro ⟨intent, is, -⟩
      cases is
    · exact fun admitted => absurd admitted.1 h

/-- The command of a sort intent. -/
def sortCommand (slot : Int) : Host.Text := "sortto:".toList ++ (toString slot).toList

theorem encode_sortCommand (slot : Int) :
    encode (sortCommand slot) = ascii "sortto:" ++ encode (toString slot).toList :=
  List.map_append

theorem parseUint32Loop_digits {digits : List Char} (all : ∀ c ∈ digits, c.isDigit = true)
    {maximum n : Nat} (low : n ≤ maximum) :
    parseUint32Loop maximum (encode digits) n =
      if Nat.ofDigitChars 10 digits n ≤ maximum then some (Nat.ofDigitChars 10 digits n)
      else none := by
  induction digits generalizing n with
  | nil => simp [encode, parseUint32Loop, low]
  | cons c digits ih =>
    obtain ⟨digit, value, -⟩ := isDigit_encoded (all c List.mem_cons_self)
    have next : Nat.ofDigitChars 10 (c :: digits) n =
        Nat.ofDigitChars 10 digits (n * 10 + (c.toNat - '0'.toNat)) := by
      rw [Nat.mul_comm]
      rfl
    have small : c.toNat - '0'.toNat ≤ 9 := by
      have le := all c List.mem_cons_self
      simp only [Char.isDigit, Bool.and_eq_true, decide_eq_true_eq] at le
      have high : c.toNat ≤ 57 := le.2
      have zero : '0'.toNat = 48 := rfl
      omega
    have grows := le_ofDigitChars digits (n * 10 + (c.toNat - '0'.toNat))
    rw [encode, List.map_cons, parseUint32Loop, digit, value, next]
    simp only [Bool.not_true, Bool.false_eq_true, if_false]
    split_ifs with past fits fits
    · omega
    · rfl
    · exact (ih (fun c member => all c (List.mem_cons_of_mem _ member)) (by omega)).trans
        (if_pos fits)
    · by_cases high : n * 10 + (c.toNat - '0'.toNat) ≤ maximum
      · exact (ih (fun c member => all c (List.mem_cons_of_mem _ member)) high).trans
          (if_neg fits)
      · omega

theorem encode_digits_ne_nil (n : Nat) : encode (toString n).toList ≠ [] := by
  intro none'
  have positive : 0 < (Nat.toDigits 10 n).length := Nat.length_toDigits_pos
  rw [encode, List.map_eq_nil_iff, digits_toString] at none'
  rw [none'] at positive
  exact Nat.lt_irrefl 0 positive

theorem parseUint32_toString (maximum n : Nat) :
    parseUint32 (encode (toString n).toList) maximum = if n ≤ maximum then some n else none := by
  have value : Nat.ofDigitChars 10 (toString n).toList 0 = n := by
    rw [digits_toString, Nat.ofDigitChars_ten_toDigits]
  have digits : ∀ c ∈ (toString n).toList, c.isDigit = true := by
    rw [digits_toString]
    exact fun c member => Nat.isDigit_of_mem_toDigits (by decide) (by decide) member
  rw [parseUint32, if_neg (encode_digits_ne_nil n),
    parseUint32Loop_digits digits (Nat.zero_le _), value]

/-- The largest position that `sortto:` accepts, which is the `slot_max` of the sketch. -/
def largestSlot (c : Configuration) : Nat :=
  maximumRepresentableSlotCount c.sortSteps v1DispatchLimits.sortMicrosteps
    v1DispatchLimits.maxAvrInt - 1

theorem parseSortPosition_slot (slot : Int) (c : Configuration) :
    parseSortPosition (encode (toString slot).toList) c v1DispatchLimits =
      if 0 ≤ slot ∧ slot ≤ largestSlot c then some slot.toNat else none := by
  cases slot with
  | ofNat n =>
    have read := parseUint32_toString (largestSlot c) n
    change (parseUint32 (encode (toString n).toList) (largestSlot c)).filter _ = _
    rw [read]
    by_cases fits : n ≤ largestSlot c
    · rw [if_pos fits, if_pos ⟨Int.natCast_nonneg n, Int.ofNat_le.mpr fits⟩]
      rfl
    · rw [if_neg fits, if_neg fun within => fits (Int.ofNat_le.mp within.2)]
      rfl
  | negSucc n =>
    rw [if_neg fun within => absurd within.1 (by omega)]
    have minus' : encode (toString (Int.negSucc n)).toList =
        minus :: encode (toString (n + 1)).toList := by
      simp [encode, Int.repr, minus]
    rw [parseSortPosition, parseBoundedInt, minus']
    rfl

theorem classifyV1Command_sortTo (argument : Bytes) :
    classifyV1Command (ascii "sortto:" ++ argument) = .sortTo := rfl

theorem handleV2Request_sortTo (s : State) (requestId : Nat) (argument : Bytes) (t : Ticks) :
    s.handleV2Request requestId (ascii "sortto:" ++ argument) t =
      s.beginV2PhysicalRequest requestId (ascii "sortto:" ++ argument) .sortTo .sortTo t := rfl

theorem largestSlot_le (c : Configuration) : largestSlot c ≤ 2047 := by
  have slots := maximumRepresentableSlotCount_le c.sortSteps
  unfold largestSlot
  omega

theorem sortCommand_plain {n : Nat} (small : n ≤ 2047) :
    (encode (sortCommand n)).length ≤ commandMaxLength ∧
      (encode (sortCommand n)).contains 0 = false := by
  have length : (toString n).length ≤ 4 := length_nat (by decide) (by omega)
  have bytes : (encode (toString n).toList).contains 0 = false := by
    rw [List.contains_eq_any_beq, List.any_eq_false]
    intro b member same
    obtain ⟨c, inside, rfl⟩ := List.mem_map.mp member
    rw [digits_toString] at inside
    obtain ⟨digit, -⟩ := isDigit_encoded
      (Nat.isDigit_of_mem_toDigits (by decide) (by decide) inside)
    rw [← beq_iff_eq.mp same] at digit
    cases digit
  rw [encode_sortCommand]
  constructor
  · have lead : (ascii "sortto:").length = 7 := rfl
    have max : commandMaxLength = 40 := rfl
    have digits : (encode (toString (n : Int)).toList).length ≤ 4 := by
      rw [encode, List.length_map]
      exact length
    rw [List.length_append, lead, max]
    omega
  · exact bytes

theorem dispatch_sortCommand (slot : Int) (context : V1DispatchContext)
    (idle : context.busy = false ∧ context.pendingCommand = false) (c : Configuration) :
    (dispatchV1Command (encode (sortCommand slot)) context c v1DispatchLimits).2 = c ∧
    ((dispatchV1Command (encode (sortCommand slot)) context c v1DispatchLimits).1.action =
      if context.running = true ∧ 0 ≤ slot ∧
        slot ≤ largestSlot c then .sortTo else .none) := by
  have kind : classifyV1Command (encode (sortCommand slot)) = .sortTo := by
    rw [encode_sortCommand]
    exact classifyV1Command_sortTo _
  have argument : v1Argument (encode (sortCommand slot)) .sortTo =
      encode (toString slot).toList := by
    rw [encode_sortCommand]
    rfl
  have position := parseSortPosition_slot slot c
  unfold dispatchV1Command
  simp only [kind, argument, dispatchPosition, position, idle.1, idle.2]
  by_cases within : 0 ≤ slot ∧ slot ≤ largestSlot c
  · obtain ⟨n, rfl⟩ := Int.eq_ofNat_of_zero_le within.1
    obtain ⟨short, plain⟩ := sortCommand_plain
      (Nat.le_trans (Int.ofNat_le.mp within.2) (largestSlot_le c))
    rw [if_neg (Nat.not_lt.mpr short), if_neg (by rw [plain]; decide)]
    cases context.running <;> simp [within, v1CommandRequiresHomedPosition, refused]
  · cases context.running
    all_goals simp only [within, and_false, if_false, invalid, refused, reduceCtorEq,
      Bool.or_self, Bool.false_eq_true]
    all_goals split_ifs <;> exact ⟨rfl, rfl⟩

/-- No motion, no request without its terminal and no line of which only a part came. -/
structure Idle (s : State) : Prop where
  still : s.executionBusy = false
  inactive : s.link.session.lifecycle.active = false
  parser : s.link.session.parser = .reset
  detector : s.link.rawStopLineDetector = .reset

instance (s : State) : Decidable (Idle s) :=
  decidable_of_iff (s.executionBusy = false ∧ s.link.session.lifecycle.active = false ∧
    s.link.session.parser = .reset ∧ s.link.rawStopLineDetector = .reset)
    ⟨fun h => ⟨h.1, h.2.1, h.2.2.1, h.2.2.2⟩, fun h => ⟨h.1, h.2, h.3, h.4⟩⟩

theorem owns_idle {s : State} (sound : s.ledger.Sound)
    (inactive : s.link.session.lifecycle.active = false) (requestId : Nat) :
    s.link.session.lifecycle.owns requestId = false := by
  have readOnly : s.link.session.lifecycle.readOnly = false := sound.readOnly
  simp [V2RequestLifecycle.owns, V2RequestLifecycle.ownsActive, V2RequestLifecycle.ownsReadOnly,
    readOnly, inactive]

theorem refuseV2Request_idle {s : State} (sound : s.ledger.Sound)
    (still : s.executionBusy = false) (inactive : s.link.session.lifecycle.active = false)
    (requestId : Nat) : s.refuseV2Request requestId = none := by
  simp [State.refuseV2Request, owns_idle sound inactive, still, inactive]

def physicalAnswer (requestId : Nat) (name : String) (result : V1DispatchResult) : V2Response :=
  if result.action = .none then
    if result.response = .notHomed then ⟨requestId, .error 2002 "not_homed", []⟩
    else ⟨requestId, .error 1005 "invalid_argument", []⟩
  else ⟨requestId, .accepted, [("operation", name)]⟩

theorem startV2PhysicalRequest_output {s : State} (sound : s.ledger.Sound)
    (inactive : s.link.session.lifecycle.active = false) (requestId : Nat)
    {result : V1DispatchResult} (t : Ticks) (quiet : result.action ≠ .queueFeed)
    (forced : result.action ≠ .queueForcedFeed) :
    (s.startV2PhysicalRequest requestId .sortTo result t).link.output =
      .response (physicalAnswer requestId "sort" result) :: s.link.output := by
  have begun : s.beginV2Active requestId = (s.setLifecycle
      { s.link.session.lifecycle with active := true, activeId := requestId }, true) := by
    unfold State.beginV2Active
    rw [V2RequestLifecycle.beginActive_started (owns_idle sound inactive requestId) inactive]
  have untracked : s.link.physicalRequestTracker.active = false := by
    have tracked := State.untracked_of_idle sound inactive
    unfold State.ledger PhysicalRequestTracker.tracked at tracked
    by_contra on
    simp [on] at tracked
  have owned : (s.setLifecycle { s.link.session.lifecycle with
      active := true, activeId := requestId }).link.session.lifecycle.owns requestId = true := by
    simp [V2RequestLifecycle.owns, V2RequestLifecycle.ownsActive, State.setLifecycle]
  unfold State.startV2PhysicalRequest physicalAnswer
  rw [begun]
  dsimp only
  rw [if_neg (by decide)]
  split_ifs with refused unhomed
  · rw [State.emitV2Terminal_owned owned]
    rfl
  · rw [State.emitV2Terminal_owned owned]
    rfl
  · have tracking (slot : Int) : s.link.physicalRequestTracker.begin requestId .sortTo slot =
        (⟨true, requestId, .sortTo, slot, false, .idle⟩, true) := by
      simp [PhysicalRequestTracker.begin, untracked]
    unfold State.acceptV2PhysicalRequest
    change (if (s.link.physicalRequestTracker.begin requestId .sortTo result.value).2 = true then
      (_ : State) else _).link.output = _
    rw [tracking, if_pos rfl]
    exact congrArg Ledger.output (State.applyV1Action_ledger _ t quiet forced)

theorem handleV2Request_sort {s : State} (sound : s.ledger.Sound)
    (still : s.executionBusy = false) (inactive : s.link.session.lifecycle.active = false)
    (requestId : Nat) (slot : Int) (t : Ticks) :
    ∃ answer, (s.handleV2Request requestId (encode (sortCommand slot)) t).link.output =
        .response answer :: s.link.output ∧
      (answer = ⟨requestId, .accepted, [("operation", "sort")]⟩ ↔
        s.machineState.sorter.positionKnown = true ∧ 0 ≤ slot ∧
          slot ≤ largestSlot s.configuration) := by
  obtain ⟨same, action⟩ := dispatch_sortCommand slot
    (s.dispatchContext s.machineState.sorter.positionKnown false false)
      ⟨rfl, rfl⟩ s.configuration
  have begun : s.handleV2Request requestId (encode (sortCommand slot)) t =
      s.startV2PhysicalRequest requestId .sortTo (dispatchV1Command (encode (sortCommand slot))
        (s.dispatchContext s.machineState.sorter.positionKnown false false) s.configuration
          v1DispatchLimits).1 t := by
    rw [encode_sortCommand, handleV2Request_sortTo, ← encode_sortCommand,
      State.beginV2PhysicalRequest, refuseV2Request_idle sound still inactive]
    dsimp only
    rw [if_pos rfl, same]
    rfl
  generalize dispatchV1Command (encode (sortCommand slot)) _ s.configuration v1DispatchLimits =
    dispatched at same action begun
  by_cases within : s.machineState.sorter.positionKnown = true ∧ 0 ≤ slot ∧
      slot ≤ largestSlot s.configuration
  · have sorts : dispatched.1.action = .sortTo := action.trans (if_pos within)
    have output := startV2PhysicalRequest_output sound inactive requestId t (by rw [sorts]; decide)
      (by rw [sorts]; decide)
    rw [begun]
    refine ⟨_, output, ?_⟩
    simp [physicalAnswer, sorts, within]
  · have nothing : dispatched.1.action = .none := action.trans (if_neg within)
    have output := startV2PhysicalRequest_output sound inactive requestId t
      (by rw [nothing]; decide) (by rw [nothing]; decide)
    rw [begun]
    refine ⟨_, output, ?_⟩
    rw [physicalAnswer, if_pos nothing]
    split_ifs <;> simp [within]

def typed (line : List (UInt8 × Ticks)) : List Routine :=
  line.map fun entry => .serialByte entry.1 entry.2

/-- `t` follows `s` by the request `requestId` as the host writes it. -/
def Given (s : State) (requestId : Nat) (command : Host.Text) (t : State) : Prop :=
  ∃ frame line, Host.formatRequest requestId command false = .ok frame ∧
    line.map Prod.fst = encode frame ++ [lineFeed] ∧ t = execAll s (typed line)

theorem execAll_typed {s : State} (v2 : s.link.session.mode = .v2) (line : List (UInt8 × Ticks))
    (silent : (feed V2FrameParser.consume s.link.session.parser (line.map Prod.fst)).2 =
      List.replicate line.length .noFrame)
    (plain : (feed RawStopLineDetector.consume s.link.rawStopLineDetector
      (line.map Prod.fst)).2 = List.replicate line.length false) :
    execAll s (typed line) = (s.setRawStopLineDetector (feed RawStopLineDetector.consume
      s.link.rawStopLineDetector (line.map Prod.fst)).1).setV2Parser
        (feed V2FrameParser.consume s.link.session.parser (line.map Prod.fst)).1 := by
  induction line generalizing s with
  | nil => rfl
  | cons entry line ih =>
    obtain ⟨byte, t⟩ := entry
    rw [List.map_cons, feed, List.length_cons, List.replicate_succ, List.cons.injEq] at silent
    rw [List.map_cons, feed, List.length_cons, List.replicate_succ, List.cons.injEq] at plain
    have read : exec s (.serialByte byte t) = (s.setRawStopLineDetector
        (s.link.rawStopLineDetector.consume byte).1).setV2Parser
          (s.link.session.parser.consume byte).1 := by
      have later : (s.setRawStopLineDetector
        (s.link.rawStopLineDetector.consume byte).1).link.session.mode = .v2 := v2
      change State.serialByte s byte t = _
      unfold State.serialByte
      dsimp only
      rw [plain.1, if_neg Bool.false_ne_true, if_pos later]
      have parsed : ((s.setRawStopLineDetector (s.link.rawStopLineDetector.consume
        byte).1).link.session.parser.consume byte).2 = .noFrame := silent.1
      unfold State.consumeV2
      simp only [parsed]
      rfl
    have rest := @ih (exec s (.serialByte byte t)) (by rw [read]; exact v2)
      (by rw [read]; exact silent.2) (by rw [read]; exact plain.2)
    have first : execAll s (typed ((byte, t) :: line)) =
        execAll (exec s (.serialByte byte t)) (typed line) := rfl
    rw [first, rest, read]
    rfl

theorem Given.completed {s t : State} {requestId : Nat} {command : Host.Text}
    (v2 : s.link.session.mode = .v2) (idle : Idle s) (given : Given s requestId command t) :
    ∃ (detector : RawStopLineDetector) (parser : V2FrameParser) (routine : Routine),
      handled ((s.setRawStopLineDetector detector).setV2Parser parser) routine =
        .v2Request ⟨requestId, encode command, true⟩ ∧
      t = exec ((s.setRawStopLineDetector detector).setV2Parser parser) routine := by
  obtain ⟨frame, line, formatted, bytes, rfl⟩ := given
  obtain ⟨frames, envelope, plain⟩ := formatRequest_roundTrip requestId command frame formatted
    [lineFeed] (.inl rfl)
  obtain ⟨before, ⟨last, ticks⟩, rfl⟩ : ∃ before last, line = before ++ [last] := by
    refine ⟨line.dropLast, line.getLast ?_, (List.dropLast_append_getLast _).symm⟩
    rintro rfl
    simp at bytes
  rw [List.map_append, List.map_singleton] at bytes
  obtain ⟨body, feed'⟩ := List.append_inj' bytes rfl
  obtain rfl : last = lineFeed := by simpa using feed'
  have count : before.length = frame.length := by
    have lengths := congrArg List.length body
    simpa [encode] using lengths
  rw [feed_append] at frames plain
  obtain ⟨parsed, results⟩ := Prod.mk.inj frames
  simp only [feed, List.length_singleton, Nat.add_sub_cancel] at parsed results plain
  obtain ⟨silent, ready⟩ := List.append_inj' results rfl
  rw [List.replicate_add] at plain
  obtain ⟨unseen, plain⟩ := List.append_inj' plain rfl
  have typing := execAll_typed v2 before (by rw [idle.parser, body, silent, count])
    (by rw [idle.detector, body, unseen, count])
  have ran : execAll s (typed (before ++ [(lineFeed, ticks)])) =
      exec (execAll s (typed before)) (.serialByte lineFeed ticks) := by
    rw [typed, List.map_append]
    exact List.foldl_append
  rw [ran, typing, idle.detector, idle.parser, body]
  refine ⟨_, _, _, ?_, rfl⟩
  have later : ((s.setRawStopLineDetector
      (feed RawStopLineDetector.consume .reset (encode frame)).1).setV2Parser
        (feed V2FrameParser.consume .reset (encode frame)).1).link.session.mode = .v2 := v2
  have seen : ¬ ((feed RawStopLineDetector.consume .reset (encode frame)).1.consume
      lineFeed).2 = true := by
    rw [(List.cons.inj plain).1]
    exact Bool.false_ne_true
  have buffer : ((feed V2FrameParser.consume .reset (encode frame)).1.consume lineFeed) =
      (⟨encode frame, .noFrame, false⟩, .frameReady) := Prod.ext parsed (List.cons.inj ready).1
  change (if ((feed RawStopLineDetector.consume .reset (encode frame)).1.consume
    lineFeed).2 = true then Handled.rawStop else _) = _
  rw [if_neg seen, if_pos later]
  change handledV2 ((feed V2FrameParser.consume .reset (encode frame)).1.consume lineFeed) = _
  rw [buffer, handledV2, envelope]

theorem Snapshot.unique {α : Type} {s t : State} {requestId : Nat}
    {fromFields : Host.Fields → Except Host.ProtocolError α} {value other : α}
    (h : Snapshot s t requestId fromFields value) (h' : Snapshot s t requestId fromFields other) :
    value = other := by
  obtain ⟨fields, output, read⟩ := h
  obtain ⟨fields', output', read'⟩ := h'
  have lines := List.reverse_injective (List.append_cancel_right (output.symm.trans output'))
  have same : answers requestId fields = answers requestId fields' :=
    (List.map_injective_iff.mpr fun _ _ => Emission.response.inj) lines
  rw [same, read'] at read
  exact (Except.ok.inj read).symm

/-- What the host reads from the lines that answer `command` in this state. -/
def Reads {α : Type} (s : State) (command : String)
    (fromFields : Host.Fields → Except Host.ProtocolError α) (value : α) : Prop :=
  ∃ requestId t, Given s requestId command.toList t ∧ Snapshot s t requestId fromFields value

/-- `response` is among the lines from `s` to `t`. -/
def Answers (s t : State) (response : V2Response) : Prop :=
  ∃ lines, t.link.output = lines ++ s.link.output ∧ .response response ∈ lines

theorem Reads.value {α : Type} {s : State} (sound : s.ledger.Sound)
    (v2 : s.link.session.mode = .v2) (idle : Idle s) {command : String}
    (inspects : ascii command = ascii "status" ∨ ascii command = ascii "capabilities" ∨
      ascii command = ascii "queue")
    {fromFields : Host.Fields → Except Host.ProtocolError α} {value known : α}
    (read : fromFields (hostFields (s.inspectionFields
      (classifyV2InspectionCommand (ascii command)))) = .ok known)
    (reads : Reads s command fromFields value) : value = known := by
  obtain ⟨requestId, t, given, snapshot⟩ := reads
  obtain ⟨detector, parser, routine, request, rfl⟩ := given.completed v2 idle
  have told : Snapshot ((s.setRawStopLineDetector detector).setV2Parser parser) _ requestId
      fromFields known :=
    snapshot_inspection (s := (s.setRawStopLineDetector detector).setV2Parser parser) sound
      request (owns_idle sound idle.inactive requestId) inspects read
  exact snapshot.unique told

theorem reads_known {α : Type} {s : State} (sound : s.ledger.Sound)
    (v2 : s.link.session.mode = .v2) (idle : Idle s) {command : String}
    (inspects : ascii command = ascii "status" ∨ ascii command = ascii "capabilities" ∨
      ascii command = ascii "queue") {requestId : Nat} {frame : Host.Text}
    (formatted : Host.formatRequest requestId command.toList false = .ok frame)
    {fromFields : Host.Fields → Except Host.ProtocolError α} {known : α}
    (read : fromFields (hostFields (s.inspectionFields
      (classifyV2InspectionCommand (ascii command)))) = .ok known) :
    Reads s command fromFields known := by
  have given : Given s requestId command.toList (execAll s (typed
      ((encode frame ++ [lineFeed]).map fun byte => (byte, ⟨0, 0, 0, 0⟩)))) :=
    ⟨frame, _, formatted, by simp [Function.comp_def], rfl⟩
  refine ⟨requestId, _, given, ?_⟩
  obtain ⟨detector, parser, routine, request, done⟩ := given.completed v2 idle
  rw [done]
  exact snapshot_inspection (s := (s.setRawStopLineDetector detector).setV2Parser parser) sound
    request (owns_idle sound idle.inactive requestId) inspects read

theorem sort_admission (now : UInt32) (routines : List Routine)
    (v2 : (execAll (boot now) routines).link.session.mode = .v2)
    (idle : Idle (execAll (boot now) routines)) {capabilities : Host.Capabilities}
    {status : Host.Status}
    (advertised : Reads (execAll (boot now) routines) "capabilities" Host.Capabilities.fromFields
      capabilities)
    (reported : Reads (execAll (boot now) routines) "status" Host.Status.fromFields status)
    (view : Daemon.MachineSnapshot) (slot : Int) {requestId : Nat} {t : State}
    (given : Given (execAll (boot now) routines) requestId (sortCommand slot) t) :
    SortAdmitted slot
        (view.observeProfile (firmwareProfile capabilities) (machineReadiness status)) ↔
      slot ≤ 102 ∧ Answers (execAll (boot now) routines) t
        ⟨requestId, .accepted, [("operation", "sort")]⟩ := by
  have ranged : Ranged (execAll (boot now) routines) := (speaking_run now routines).ranged
  have sound : (execAll (boot now) routines).ledger.Sound :=
    sound_execAll (sound_boot now) routines
  generalize execAll (boot now) routines = s at v2 idle advertised reported given ranged sound ⊢
  obtain rfl := advertised.value sound v2 idle (.inr (.inl rfl)) (capabilities_fromFields s)
  obtain rfl := reported.value sound v2 idle (.inl rfl) (status_fromFields s ranged)
  obtain ⟨detector, parser, routine, request, rfl⟩ := given.completed v2 idle
  obtain ⟨ticks, detector', parser', done⟩ := exec_request request
  obtain ⟨answer, output, accepted⟩ := handleV2Request_sort
    (s := ((((s.setRawStopLineDetector detector).setV2Parser parser).setRawStopLineDetector
      detector').setV2Parser parser')) sound idle.still idle.inactive requestId slot ticks
  obtain ⟨profile, ready⟩ := observeProfile_firmware (firmwareProfile (hostCapabilities s))
    (machineReadiness (hostStatus s)) view
  have answers : Answers s (exec ((s.setRawStopLineDetector detector).setV2Parser parser) routine)
      ⟨requestId, .accepted, [("operation", "sort")]⟩ ↔
        answer = ⟨requestId, .accepted, [("operation", "sort")]⟩ := by
    rw [done]
    constructor
    · rintro ⟨lines, printed, member⟩
      have only : [Emission.response answer] = lines :=
        List.append_cancel_right (output.symm.trans printed)
      rw [← only, List.mem_singleton] at member
      exact (Emission.response.inj member).symm
    · rintro rfl
      exact ⟨[_], output, List.mem_singleton_self _⟩
  rw [answers, accepted, sortAdmitted_iff profile ready]
  have largest : (firmwareProfile (hostCapabilities s)).slotMax = largestSlot s.configuration := rfl
  have homed : (machineReadiness (hostStatus s)).sortHomed =
      s.machineState.sorter.positionKnown := rfl
  rw [largest, homed]
  constructor
  · rintro ⟨⟨low, high⟩, fits, known⟩
    exact ⟨high, known, low, fits⟩
  · rintro ⟨high, known, low, fits⟩
    exact ⟨⟨low, high⟩, fits, known⟩

def finelySpaced : List Routine :=
  sorterHoming.flatMap loopRoutines ++ received "@2 sortsteps:10\n"

theorem execAll_finelySpaced :
    execAll (boot 0) finelySpaced = execAll sorterHomed (received "@2 sortsteps:10\n") := by
  rw [finelySpaced, execAll, List.foldl_append, ← iterate_sorterHoming]
  exact congrArg (fun s => execAll s (received "@2 sortsteps:10\n")) (execAll_flatMap _ _)

theorem finelySpaced_idle : (execAll (boot 0) finelySpaced).link.session.mode = .v2 ∧
    Idle (execAll (boot 0) finelySpaced) := by
  rw [execAll_finelySpaced]
  decide +kernel

theorem finelySpaced_read :
    Reads (execAll (boot 0) finelySpaced) "capabilities" Host.Capabilities.fromFields
        (hostCapabilities (execAll (boot 0) finelySpaced)) ∧
      Reads (execAll (boot 0) finelySpaced) "status" Host.Status.fromFields
        (hostStatus (execAll (boot 0) finelySpaced)) := by
  have sound : (execAll (boot 0) finelySpaced).ledger.Sound :=
    sound_execAll (sound_boot 0) finelySpaced
  obtain ⟨v2, idle⟩ := finelySpaced_idle
  have ranged := (speaking_run 0 finelySpaced).ranged
  have capabilities := capabilities_fromFields (execAll (boot 0) finelySpaced)
  have status := status_fromFields (execAll (boot 0) finelySpaced) ranged
  have third : Host.formatRequest 3 "capabilities".toList false =
      .ok "@3 capabilities".toList := rfl
  have fourth : Host.formatRequest 4 "status".toList false = .ok "@4 status".toList := rfl
  exact ⟨reads_known sound v2 idle (.inr (.inl rfl)) third capabilities,
    reads_known sound v2 idle (.inl rfl) fourth status⟩

theorem received_typed (text : String) :
    received text = typed ((ascii text).map fun byte => (byte, ⟨0, 0, 0, 0⟩)) := by
  simp [received, typed, Function.comp_def]

theorem finelySpaced_given {slot : Int} {text : String} {frame : Host.Text}
    (formatted : Host.formatRequest 5 (sortCommand slot) false = .ok frame)
    (bytes : ascii text = encode frame ++ [lineFeed]) :
    Given (execAll (boot 0) finelySpaced) 5 (sortCommand slot)
      (execAll (execAll (boot 0) finelySpaced) (received text)) :=
  ⟨frame, (ascii text).map fun byte => (byte, ⟨0, 0, 0, 0⟩), formatted,
    by rw [← bytes, List.map_map]; exact List.map_id _, by rw [received_typed]⟩

theorem sort_admission_finelySpaced :
    let s := execAll (boot 0) finelySpaced
    SortAdmitted 102 (Daemon.MachineSnapshot.initial.observeProfile
        (firmwareProfile (hostCapabilities s)) (machineReadiness (hostStatus s))) ↔
      (102 : Int) ≤ 102 ∧ Answers s (execAll s (received "@5 sortto:102\n"))
        ⟨5, .accepted, [("operation", "sort")]⟩ :=
  sort_admission 0 finelySpaced finelySpaced_idle.1 finelySpaced_idle.2 finelySpaced_read.1
    finelySpaced_read.2 .initial 102 (finelySpaced_given rfl rfl)

theorem finelySpaced_accepts : Answers (execAll (boot 0) finelySpaced)
    (execAll (execAll (boot 0) finelySpaced) (received "@5 sortto:103\n"))
      ⟨5, .accepted, [("operation", "sort")]⟩ := by
  rw [execAll_finelySpaced]
  exact ⟨[.response ⟨5, .accepted, [("operation", "sort")]⟩], by decide +kernel,
    List.mem_singleton_self _⟩

/-- A slot that the sketch advertises and accepts, and that no sort intent can carry. -/
theorem sort_admission_largeSlot :
    let s := execAll (boot 0) finelySpaced
    let t := execAll s (received "@5 sortto:103\n")
    s.link.session.mode = .v2 ∧ Idle s ∧
    Reads s "capabilities" Host.Capabilities.fromFields (hostCapabilities s) ∧
    Reads s "status" Host.Status.fromFields (hostStatus s) ∧
    Given s 5 (sortCommand 103) t ∧
    Answers s t ⟨5, .accepted, [("operation", "sort")]⟩ ∧
    ∀ view : Daemon.MachineSnapshot, ¬ SortAdmitted 103 (view.observeProfile
      (firmwareProfile (hostCapabilities s)) (machineReadiness (hostStatus s))) := by
  dsimp only
  have refuses (view : Daemon.MachineSnapshot) : ¬ SortAdmitted 103 view := by
    rintro ⟨intent, is, -⟩
    rw [Daemon.sortIntent, dif_neg (by omega)] at is
    cases is
  have given : Given (execAll (boot 0) finelySpaced) 5 (sortCommand 103)
      (execAll (execAll (boot 0) finelySpaced) (received "@5 sortto:103\n")) :=
    finelySpaced_given rfl rfl
  exact ⟨finelySpaced_idle.1, finelySpaced_idle.2, finelySpaced_read.1, finelySpaced_read.2,
    given, finelySpaced_accepts, fun view => refuses _⟩

end CaseSorter.Link
