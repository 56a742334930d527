import CaseSorter.Firmware.SorterSearch

/-! Slot-0 passes on a sensor that never reads active. `runSortMotor` resets `homingSteps` in
every iteration in which a pass is going on, so the counter never ends it: the pass makes
one pulse an iteration until a stop arrives. -/

namespace CaseSorter.Firmware

/-- No pulse of a slot-0 pass was made; a pass that has begun has made none yet. -/
structure PassKept (s t : State) : Prop where
  pulses : passPulses t.motion ≤ passPulses s.motion
  passing : t.passing →
    (s.passing ∧ passPulses t.motion = passPulses s.motion) ∨ passPulses t.motion = 0

theorem PassKept.trans {s t u : State} (h : PassKept s t) (h' : PassKept t u) : PassKept s u where
  pulses := Nat.le_trans h'.pulses h.pulses
  passing active := by
    rcases h'.passing active with ⟨active', same⟩ | none
    · rw [same]
      exact h.passing active'
    · exact .inr none

theorem Kept.passKept {s t : State} (h : Kept s t) : PassKept s t :=
  ⟨Nat.le_of_eq h.pass, fun active => .inl ⟨h.passing active, h.pass⟩⟩

theorem PassKept.runSortMotor (s : State) : PassKept s s.runSortMotor := by
  unfold State.runSortMotor
  split_ifs with idle arrived zero
  · exact (Kept.refl s).passKept
  · dsimp only [State.slotZeroPass]
    split_ifs with homing
    · refine ⟨le_rfl, fun _ => .inl ⟨?_, rfl⟩⟩
      simpa [State.passing, homing] using idle
    · exact ⟨Nat.zero_le _, fun _ => .inr rfl⟩
  · exact ⟨le_rfl, by rintro ⟨⟩⟩
  · exact ⟨le_rfl, fun active => .inl ⟨active, rfl⟩⟩

theorem PassKept.serviceSorterJog {s : State} (co : Coordinated s) :
    PassKept s s.serviceSorterJog := by
  by_cases active : s.sorter.sorterJog.active
  · have sorting := (co.jogging active).1
    have pulses : passPulses s.serviceSorterJog.motion = passPulses s.motion := by
      dsimp only [State.serviceSorterJog, State.sorterJogEnds]
      split_ifs <;> rfl
    refine ⟨Nat.le_of_eq pulses, fun passing => ?_⟩
    simp only [State.passing, State.serviceSorterJog_isSorting, sorting, Bool.false_and,
      Bool.false_eq_true] at passing
  · rw [s.serviceSorterJog_inactive (by simpa using active) co.jogEnded]
    exact (Kept.refl s).passKept

theorem PassKept.exec {s : State} (co : Coordinated s) (routine : Routine)
    (h : ∀ sensor now, routine ≠ .homeSortMotor sensor now) :
    PassKept s (Firmware.exec s routine) := by
  by_cases turns : routine.turnsSorter
  · cases routine with
    | runSortMotor => exact .runSortMotor s
    | homeSortMotor sensor now => exact absurd rfl (h sensor now)
    | serviceSorterJog => exact .serviceSorterJog co
    | _ => cases turns
  · exact (Kept.exec co routine (by simpa using turns)).passKept

theorem PassKept.execAll {s : State} (co : Coordinated s) (routines : List Routine)
    (h : ∀ sensor now, .homeSortMotor sensor now ∉ routines) :
    PassKept s (Firmware.execAll s routines) := by
  induction routines generalizing s with
  | nil => exact (Kept.refl s).passKept
  | cons routine routines ih =>
    have first := PassKept.exec co routine fun sensor now eq =>
      h sensor now (eq ▸ List.mem_cons_self)
    exact first.trans (ih (co.exec routine) fun sensor now mem =>
      h sensor now (List.mem_cons_of_mem _ mem))

theorem completeSorterRecoveryHoming_pass (s : State) (now : UInt32) :
    passPulses (s.completeSorterRecoveryHoming now).motion = passPulses s.motion ∧
      (s.completeSorterRecoveryHoming now).sorter.isSorting = false := by
  unfold State.completeSorterRecoveryHoming
  rw [State.reportMotion_machine]
  have ended := ((s.stopSorterHoming now).record .sorterHomed).updateRecoveryCompletion_isSorting
    .sorter
  have kept := (Kept.updateRecoveryCompletion
    ((s.stopSorterHoming now).record .sorterHomed) .sorter).pass
  exact ⟨kept, ended⟩

theorem sortHomingOffsetStep_pass {s : State} (sorting : s.sorter.isSorting = false)
    (now : UInt32) : passPulses (s.sortHomingOffsetStep now).motion = passPulses s.motion ∧
      (s.sortHomingOffsetStep now).sorter.isSorting = false := by
  unfold State.sortHomingOffsetStep
  split_ifs
  · exact ⟨rfl, sorting⟩
  · exact completeSorterRecoveryHoming_pass s now
  · exact ⟨rfl, sorting⟩
  · exact completeSorterRecoveryHoming_pass s now

theorem homeSortMotor_pass (s : State) (now : UInt32) :
    passPulses (s.homeSortMotor false now).motion ≤ passPulses s.motion + s.passing.toNat ∧
      ((s.homeSortMotor false now).passing → s.passing) := by
  unfold State.homeSortMotor
  split_ifs with idle enabled recovering sorting dead
  · exact ⟨Nat.le_add_right _ _, id⟩
  · cases enabled
  · cases enabled
  · have passing : s.passing := by simpa [State.passing, sorting] using idle
    rw [passing]
    unfold State.searchStep
    split_ifs
    · exact ⟨le_rfl, fun _ => rfl⟩
    · exact ⟨Nat.le_add_right _ _, fun _ => rfl⟩
  · cases dead rfl
  · have searched : passPulses (s.recoverySearch false).motion = passPulses s.motion ∧
        (s.recoverySearch false).sorter.isSorting = false := by
      have still : s.sorter.isSorting = false := by simpa using sorting
      unfold State.recoverySearch State.searchStep
      split_ifs <;> exact ⟨rfl, still⟩
    obtain ⟨same, still⟩ := sortHomingOffsetStep_pass searched.2 now
    refine ⟨?_, fun passing => ?_⟩
    · rw [same, searched.1]
      exact Nat.le_add_right _ _
    · rw [State.passing, still] at passing
      cases passing

/-- The byte completes a line that stops the machine: a raw `stop`, or a stop frame of the
active protocol whose ID is free. -/
def State.stopByte (s : State) (byte : UInt8) : Bool :=
  (s.link.rawStopLineDetector.consume byte).2 ||
    if s.link.session.mode = .v2 then
      let (parser, result) := s.link.session.parser.consume byte
      result = .frameReady && match parseV2RequestEnvelope parser.buffer with
        | .ready envelope => envelope.payload = ascii "stop" &&
            !s.link.session.lifecycle.owns envelope.requestId
        | .badId | .badFrame => false
    else
      let (parser, result) := s.link.commandParser.consume byte
      result = .frameReady && parser.buffer = ascii "stop"

def receivesStop : State → List (UInt8 × Ticks) → Bool
  | _, [] => false
  | s, (byte, t) :: rest => s.stopByte byte || receivesStop (s.serialByte byte t) rest

theorem handleV2Stop_isSorting {s : State} {requestId : Nat}
    (free : s.link.session.lifecycle.owns requestId = false) :
    (s.handleV2Stop requestId).sorter.isSorting = false := by
  dsimp only [State.handleV2Stop]
  rw [if_neg (by simp [free]), (State.respond_linkOnly _ _ _ _).machine,
    (State.emitV2StateIfChanged_linkOnly _).machine]
  split_ifs <;> rfl

theorem handleRawStop_isSorting (s : State) : s.handleRawStop.sorter.isSorting = false := by
  dsimp only [State.handleRawStop]
  rw [(State.emit_linkOnly _ _).machine]
  split_ifs
  · rw [(State.emitV2StateIfChanged_linkOnly _).machine]
    rfl
  · rfl

theorem handleV1Frame_stop (s : State) (t : Ticks) :
    (s.handleV1Frame .ready (ascii "stop") false t).sorter.isSorting = false := by
  have negotiation : ∀ busy pending,
      dispatchV2Negotiation (ascii "stop") busy pending = .notHandled := by decide
  have dispatched : ∀ context c limits, dispatchV1Command (ascii "stop") context c limits =
      (⟨.stop, .response, .stopped, 0⟩, c) := by
    intro context c limits
    have short : ¬ commandMaxLength < (ascii "stop").length := by decide
    have plain : (ascii "stop").contains 0 = false := by decide
    have kind : classifyV1Command (ascii "stop") = .stop := by decide
    simp only [dispatchV1Command, short, plain, kind, if_false, if_true, Bool.false_eq_true]
  simp only [State.handleV1Frame, negotiation, State.handleV1Command, dispatchV1Frame, dispatched,
    State.performV1]
  simp [State.applyV1Action, State.writeV1Output]
  rfl

theorem consumeV2_stop {s : State} {byte : UInt8} {envelope : V2RequestEnvelope}
    (ready : (s.link.session.parser.consume byte).2 = .frameReady)
    (frame : parseV2RequestEnvelope (s.link.session.parser.consume byte).1.buffer = .ready envelope)
    (stop : envelope.payload = ascii "stop")
    (free : s.link.session.lifecycle.owns envelope.requestId = false) (t : Ticks) :
    (s.consumeV2 byte t).sorter.isSorting = false := by
  simp only [State.consumeV2, ready]
  rw [(State.setV2Parser_linkOnly _ _).machine]
  simp only [State.handleV2Frame, frame, State.handleV2Request, stop, if_true]
  exact handleV2Stop_isSorting free

theorem consumeV1_stop {s : State} {byte : UInt8}
    (ready : (s.link.commandParser.consume byte).2 = .frameReady)
    (stop : (s.link.commandParser.consume byte).1.buffer = ascii "stop") (t : Ticks) :
    (s.consumeV1 byte t).sorter.isSorting = false := by
  simp only [State.consumeV1, ready, stop]
  rw [(State.setCommandParser_linkOnly _ _).machine]
  exact handleV1Frame_stop _ t

theorem serialByte_stop {s : State} {byte : UInt8} (h : s.stopByte byte) (t : Ticks) :
    (s.serialByte byte t).sorter.isSorting = false := by
  simp only [State.serialByte]
  split_ifs with raw v2
  · exact handleRawStop_isSorting _
  · have mode : s.link.session.mode = .v2 := v2
    simp only [State.stopByte, raw, Bool.false_or, mode, if_true, Bool.and_eq_true,
      decide_eq_true_eq] at h
    obtain ⟨ready, frame⟩ := h
    split at frame
    · rename_i envelope parsed
      simp only [Bool.and_eq_true, decide_eq_true_eq, Bool.not_eq_true'] at frame
      exact consumeV2_stop
        (s := s.setRawStopLineDetector (s.link.rawStopLineDetector.consume byte).1)
        ready parsed frame.1 frame.2 t
    · cases frame
    · cases frame
  · have mode : ¬ s.link.session.mode = .v2 := v2
    simp only [State.stopByte, raw, Bool.false_or, mode, if_false, Bool.and_eq_true,
      decide_eq_true_eq] at h
    exact consumeV1_stop
      (s := s.setRawStopLineDetector (s.link.rawStopLineDetector.consume byte).1) h.1 h.2 t

theorem serialBytes_turnsSorter (bytes : List (UInt8 × Ticks)) :
    ∀ routine ∈ bytes.map fun entry => Routine.serialByte entry.1 entry.2,
      routine.turnsSorter = false := by
  intro routine mem
  obtain ⟨entry, -, rfl⟩ := List.mem_map.mp mem
  rfl

theorem receivesStop_passing {s : State} (co : Coordinated s) (bytes : List (UInt8 × Ticks))
    (h : receivesStop s bytes) :
    (execAll s (bytes.map fun entry => .serialByte entry.1 entry.2)).passing = false := by
  induction bytes generalizing s with
  | nil => cases h
  | cons entry bytes ih =>
    simp only [receivesStop, Bool.or_eq_true] at h
    have co' : Coordinated (s.serialByte entry.1 entry.2) := co.exec (.serialByte entry.1 entry.2)
    rcases h with stop | later
    · have kept := Kept.execAll co' _ (serialBytes_turnsSorter bytes)
      have still : (s.serialByte entry.1 entry.2).passing = false := by
        rw [State.passing, serialByte_stop stop, Bool.false_and]
      exact Bool.eq_false_iff.mpr fun passing => absurd (kept.passing passing) (by simp [still])
    · exact ih co' later

def routinesBeforeSearch (i : LoopInput) : List Routine :=
  [.getProxState i.feedSensor i.proximity, .updateSlotDropGate i.now, .runSortMotor,
   .onSortComplete i.sorted, .scheduleRun i.schedule, .checkFeedErrors, .runFeedMotor,
   .homeFeedMotor i.feedHomingSensor i.feedHomed]

def routinesAfterSearch (i : LoopInput) : List Routine :=
  [.serviceSorterJog, .onFeedComplete i.now, .runAux i.raw i.sortRaw i.test i.sortTest,
   .motorStandByCheck i.standBy, .serviceV2PhysicalRequest, .emitV2StateIfChanged]

theorem motionRoutines_search (i : LoopInput) :
    motionRoutines i = routinesBeforeSearch i ++
      .homeSortMotor i.sortHomingSensor i.sorterHomed :: routinesAfterSearch i := rfl

theorem execAll_append (s : State) (routines more : List Routine) :
    execAll s (routines ++ more) = execAll (execAll s routines) more := List.foldl_append

theorem loop_search (s : State) (i : LoopInput) :
    loop s i = execAll (exec (execAll (execAll s (serialRoutines i)) (routinesBeforeSearch i))
      (.homeSortMotor i.sortHomingSensor i.sorterHomed)) (routinesAfterSearch i) := by
  rw [loop, loopRoutines, motionRoutines_search, execAll_append, execAll_append]
  simp only [execAll, List.foldl_cons]

theorem serialRoutines_passing {s : State} (co : Coordinated s) (i : LoopInput) :
    Kept s (execAll s (serialRoutines i)) ∧
      ((execAll s (serialRoutines i)).passing → receivesStop s i.serial = false) := by
  have co' := co.execAll (i.serial.map fun entry => .serialByte entry.1 entry.2)
  have bytes := Kept.execAll co _ (serialBytes_turnsSorter i.serial)
  have pending := Kept.exec co' (.dispatchPending i.pending) rfl
  rw [serialRoutines, execAll_append]
  refine ⟨bytes.trans pending, fun passing => ?_⟩
  by_contra stop
  have still := receivesStop_passing co i.serial (by simpa using stop)
  exact absurd (pending.passing passing) (by simp [still])

theorem pass_chain {s s₁ s₂ s₃ s₄ : State} {stopped : Bool} (serial : Kept s s₁)
    (stop : s₁.passing → stopped = false) (before : PassKept s₁ s₂)
    (search : passPulses s₃.motion ≤ passPulses s₂.motion + s₂.passing.toNat ∧
      (s₃.passing → s₂.passing)) (after : PassKept s₃ s₄) :
    (s.passing ∧ stopped = false ∧ passPulses s₄.motion ≤ passPulses s.motion + 1) ∨
    passPulses s₄.motion ≤ 1 ∨
    (passPulses s₄.motion ≤ passPulses s.motion ∧ s₄.passing = false) := by
  have total := Nat.le_trans after.pulses search.1
  by_cases passing : s₂.passing
  · rw [passing, Bool.toNat_true] at total
    rcases before.passing passing with ⟨active, same⟩ | none
    · rw [same, serial.pass] at total
      exact .inl ⟨serial.passing active, stop active, total⟩
    · rw [none] at total
      exact .inr (.inl total)
  · rw [Bool.eq_false_iff.mpr passing, Bool.toNat_false, Nat.add_zero] at total
    by_cases goes : s₄.passing
    · rcases after.passing goes with ⟨active, -⟩ | none
      · exact absurd (search.2 active) passing
      · rw [none]
        exact .inr (.inl (Nat.zero_le 1))
    · refine .inr (.inr ⟨?_, Bool.eq_false_iff.mpr goes⟩)
      rw [← serial.pass]
      exact Nat.le_trans total before.pulses

theorem loop_pass {s : State} (co : Coordinated s) {i : LoopInput}
    (dead : i.sortHomingSensor = false) :
    (s.passing ∧ receivesStop s i.serial = false ∧
      passPulses (loop s i).motion ≤ passPulses s.motion + 1) ∨
    passPulses (loop s i).motion ≤ 1 ∨
    (passPulses (loop s i).motion ≤ passPulses s.motion ∧ (loop s i).passing = false) := by
  obtain ⟨serial, stop⟩ := serialRoutines_passing co i
  have co₁ := co.execAll (serialRoutines i)
  have before := PassKept.execAll co₁ (routinesBeforeSearch i) (by simp [routinesBeforeSearch])
  have co₂ := co₁.execAll (routinesBeforeSearch i)
  have co₃ := co₂.exec (.homeSortMotor i.sortHomingSensor i.sorterHomed)
  have after := PassKept.execAll co₃ (routinesAfterSearch i) (by simp [routinesAfterSearch])
  have search := homeSortMotor_pass
    (execAll (execAll s (serialRoutines i)) (routinesBeforeSearch i)) i.sorterHomed
  rw [loop_search]
  rw [← dead] at search
  exact pass_chain serial stop before search after

/-- `going` iterations in a row have ended with a slot-0 pass going on, and only the first of them
may have received a stop. After a full revolution's worth of them the next one does. -/
def StoppedInTime : Nat → State → List LoopInput → Prop
  | _, _, [] => True
  | going, s, i :: window =>
    (going = (sortFullRevolutionSteps * sortMicrosteps).toNat → receivesStop s i.serial) ∧
    StoppedInTime
      (if (loop s i).passing then if receivesStop s i.serial then 1 else going + 1 else 0)
      (loop s i) window

structure PassBounded (going : Nat) (s : State) : Prop where
  limit : passPulses s.motion ≤ 3200
  passing : s.passing → passPulses s.motion ≤ going
  going : going ≤ 3200

theorem PassBounded.loop {going : Nat} {s : State} (h : PassBounded going s) (co : Coordinated s)
    {i : LoopInput} (dead : i.sortHomingSensor = false)
    (stops : going = 3200 → receivesStop s i.serial) :
    PassBounded (if (loop s i).passing then if receivesStop s i.serial then 1 else going + 1 else 0)
      (Firmware.loop s i) := by
  have limit := h.limit
  have bound := h.going
  rcases loop_pass co dead with ⟨passing, stop, pulses⟩ | pulses | ⟨pulses, still⟩
  · have count := h.passing passing
    have below : going ≠ 3200 := fun full => by
      rw [stops full] at stop
      cases stop
    by_cases goes : (Firmware.loop s i).passing
    · simp only [goes, stop, if_true, Bool.false_eq_true, if_false]
      exact ⟨by omega, fun _ => by omega, by omega⟩
    · simp only [goes, Bool.false_eq_true, if_false]
      exact ⟨by omega, fun goes' => absurd goes' goes, by omega⟩
  · by_cases goes : (Firmware.loop s i).passing
    · simp only [goes, if_true]
      by_cases stop : receivesStop s i.serial
      · simp only [stop, if_true]
        exact ⟨by omega, fun _ => by omega, by omega⟩
      · simp only [stop, Bool.false_eq_true, if_false]
        have below : going ≠ 3200 := fun full => stop (stops full)
        exact ⟨by omega, fun _ => by omega, by omega⟩
    · simp only [goes, Bool.false_eq_true, if_false]
      exact ⟨by omega, fun goes' => absurd goes' goes, by omega⟩
  · simp only [still, Bool.false_eq_true, if_false]
    exact ⟨by omega, fun goes => absurd (goes.symm.trans still) nofun, by omega⟩

/-- The state with an empty motion record, which the sketch never reads. -/
def State.restartRecord (s : State) : State := { s with motion := [] }

theorem homeSortMotor_dead {i : LoopInput} (dead : i.sortHomingSensor = false) (now : UInt32) :
    .homeSortMotor true now ∉ loopRoutines i := by
  simp [loopRoutines, serialRoutines, motionRoutines, dead]

theorem window_bounded {going : Nat} {s : State} {window : List LoopInput} (co : Coordinated s)
    (limits : SearchLimits s) (counted : Counted s) (bounded : PassBounded going s)
    (dead : ∀ i ∈ window, i.sortHomingSensor = false) (stopped : StoppedInTime going s window)
    (count : Nat) :
    passPulses (iterate s (window.take count)).motion ≤ 3200 ∧
      Counted (iterate s (window.take count)) := by
  induction window generalizing going s count with
  | nil =>
    rw [List.take_nil]
    exact ⟨bounded.limit, counted⟩
  | cons i window ih =>
    cases count with
    | zero => exact ⟨bounded.limit, counted⟩
    | succ count =>
      rw [List.forall_mem_cons] at dead
      rw [List.take_succ_cons, iterate, List.foldl_cons]
      exact ih (co.execAll _) (limits.execAll co _)
        (counted.execAll limits co _ (homeSortMotor_dead dead.1))
        (bounded.loop co dead.1 stopped.1) dead.2 stopped.2 count

/-- From an iteration on after which the sort homing sensor never reads active, a recovery homing
makes at most 210 steps, and a slot-0 pass at most 200 if a stop reaches it in time. -/
theorem sorterSearch_bounded (now : UInt32) (inputs window : List LoopInput)
    (dead : ∀ i ∈ window, i.sortHomingSensor = false)
    (stopped : StoppedInTime 0 (iterate (boot now) inputs).restartRecord window) (count : Nat) :
    let s := iterate (iterate (boot now) inputs).restartRecord (window.take count)
    (passPulses s.motion : Int) ≤ sortFullRevolutionSteps * sortMicrosteps ∧
      (recoveryPulses s.motion : Int) ≤
        (sortFullRevolutionSteps + sortHomingMarginSteps) * sortMicrosteps := by
  have co : Coordinated (iterate (boot now) inputs) := by
    rw [← execAll_flatMap]
    exact (Coordinated.boot now).execAll _
  have limits : SearchLimits (iterate (boot now) inputs) := by
    rw [← execAll_flatMap]
    exact (SearchLimits.boot now).execAll (.boot now) _
  have counted : Counted (iterate (boot now) inputs).restartRecord := by
    refine ⟨(by decide : ((0 : Nat) : Int) ≤ 3360),
      fun active missing => (limits.searching active missing).1,
      fun active found => ?_⟩
    have left := limits.offsetting active found
    change ((0 : Nat) : Int) + max 0 (iterate (boot now) inputs).sorter.sortHomingOffsetSteps ≤
      3360
    change _ ≤ (3200 : Int) at left
    omega
  have bounded : PassBounded 0 (iterate (boot now) inputs).restartRecord :=
    ⟨Nat.zero_le _, fun _ => le_rfl, Nat.zero_le _⟩
  have co' : Coordinated (iterate (boot now) inputs).restartRecord :=
    co.of_sameMotion ⟨rfl, rfl, rfl, rfl⟩
  have limits' : SearchLimits (iterate (boot now) inputs).restartRecord :=
    ⟨limits.1, limits.2, limits.3, limits.4⟩
  obtain ⟨pass, recovery⟩ := window_bounded co' limits' counted bounded dead stopped count
  exact ⟨Int.ofNat_le.mpr pass, recovery.limit⟩

instance : ∀ going s window, Decidable (StoppedInTime going s window)
  | _, _, [] => .isTrue trivial
  | going, s, i :: window =>
    have := instDecidableStoppedInTime
      (if (loop s i).passing then if receivesStop s i.serial then 1 else going + 1 else 0)
      (loop s i) window
    inferInstanceAs (Decidable (_ ∧ _))

def sortToZero : LoopInput := iteration "@2 sortto:0\n" false false

/-- A pass that a stop ends after its second pulse. -/
theorem sorterSearch_bounded_stop :
    let window := [sortToZero, silence, iteration "stop\n" false false]
    (∀ i ∈ window, i.sortHomingSensor = false) ∧
    StoppedInTime 0 (iterate (boot 0) sorterHoming).restartRecord window ∧
    passPulses (iterate (iterate (boot 0) sorterHoming).restartRecord (window.take 3)).motion =
      2 ∧
    (passPulses (iterate (iterate (boot 0) sorterHoming).restartRecord
      (window.take 3)).motion : Int) ≤ sortFullRevolutionSteps * sortMicrosteps := by
  intro window
  have dead : ∀ i ∈ window, i.sortHomingSensor = false := by decide
  have stopped : StoppedInTime 0 (iterate (boot 0) sorterHoming).restartRecord window := by
    rw [iterate_sorterHoming]
    decide +kernel
  have bound := (sorterSearch_bounded 0 sorterHoming window dead stopped 3).1
  refine ⟨dead, stopped, ?_, bound⟩
  rw [iterate_sorterHoming]
  decide +kernel

def passBegun : State := loop sorterHomed.restartRecord sortToZero

theorem passBegun_passing : Passing silence passBegun ∧ passPulses passBegun.motion = 1 := by
  decide +kernel

theorem passPulses_replicate (count : Nat) (motion : List Motion) :
    passPulses (List.replicate count (.sortStep .slotZero true) ++ motion) =
      count + passPulses motion := by
  induction count with
  | zero => simp
  | succ count ih =>
    rw [List.replicate_succ, List.cons_append, passPulses, ih]
    omega

/-- Without a stop the pass goes on past a full revolution. -/
theorem sorterSearch_unbounded :
    let window := sortToZero :: List.replicate 3200 silence
    (∀ i ∈ window, i.sortHomingSensor = false) ∧
    ¬ (passPulses (iterate (iterate (boot 0) sorterHoming).restartRecord window).motion : Int) ≤
      sortFullRevolutionSteps * sortMicrosteps := by
  have pulses : passPulses (iterate (iterate (boot 0) sorterHoming).restartRecord
      (sortToZero :: List.replicate 3200 silence)).motion = 3201 := by
    rw [iterate_sorterHoming, iterate, List.foldl_cons]
    exact (congrArg passPulses (passBegun_passing.1.iterate 3200)).trans
      ((passPulses_replicate 3200 _).trans (by rw [passBegun_passing.2]))
  refine ⟨?_, ?_⟩
  · intro i mem
    rcases List.mem_cons.mp mem with rfl | mem
    · rfl
    · rw [List.eq_of_mem_replicate mem]
      rfl
  · rw [pulses]
    decide

end CaseSorter.Firmware
