import CaseSorter.Firmware.RequestLedger

/-! The range of what the sketch prints: every value of the configuration stays within the
limits its setter checks, and the request IDs, the sequence number and the configuration
generation within their types. -/

namespace CaseSorter.Firmware

/-- The non-negative values of an `int`. -/
def Small (value : Int) : Prop := 0 ≤ value ∧ value ≤ maxAvrInt

namespace Configuration

structure Ranged (c : Configuration) : Prop where
  feedSpeed : Small c.feedSpeed
  feedSteps : Small c.feedSteps
  sortSpeed : Small c.sortSpeed
  sortSteps : c.sortSteps ≤ maxAvrInt
  slotCount : c.slotCount ≤ maxAvrInt
  notificationDelay : Small c.notificationDelay
  slotDropDelay : Small c.slotDropDelay
  airDropPostDelay : Small c.airDropPostDelay
  airDropPreDelay : Small c.airDropPreDelay
  airDropSignalTime : Small c.airDropSignalTime
  feedHomingOffset : Small c.feedHomingOffset
  sortHomingOffset : Small c.sortHomingOffset
  autoMotorStandbyTimeout : c.autoMotorStandbyTimeout ≤ maxStandbyTimeoutSeconds
  debounceTimeout : c.debounceTimeout ≤ maxAvrInt
  debouncePauseTime : c.debouncePauseTime ≤ maxAvrInt
  cameraLedLevel : Small c.cameraLedLevel

end Configuration

theorem small_nat {n : Nat} (h : n ≤ maxAvrInt) : Small n :=
  ⟨Int.natCast_nonneg n, Int.ofNat_le.mpr h⟩

theorem small_clampByte (value : Int) : Small (clampByte value) := by
  unfold clampByte Small maxAvrInt
  split_ifs <;> omega

theorem maximumRepresentableSlotCount_le (stepSeparation : Nat) :
    maximumRepresentableSlotCount stepSeparation v1DispatchLimits.sortMicrosteps
      v1DispatchLimits.maxAvrInt ≤ 2048 := by
  unfold maximumRepresentableSlotCount
  split_ifs
  · exact Nat.zero_le _
  · have le := Nat.div_le_self (v1DispatchLimits.maxAvrInt / v1DispatchLimits.sortMicrosteps)
      stepSeparation
    have whole : v1DispatchLimits.maxAvrInt / v1DispatchLimits.sortMicrosteps = 2047 := by decide
    omega

theorem ranged_default : defaultConfiguration.Ranged := by
  constructor <;> first | decide | exact ⟨by decide, by decide⟩

theorem parseUint32_le {text : Bytes} {maximum value : Nat}
    (h : parseUint32 text maximum = some value) : value ≤ maximum := by
  unfold parseUint32 at h
  split_ifs at h
  exact parseUint32Loop_le text 0 (Nat.zero_le _) h

theorem dispatchV1Setter_ranged {command : Bytes} {kind : V1Command} {context : V1DispatchContext}
    {c : Configuration} (h : c.Ranged) :
    (dispatchV1Setter command kind context c v1DispatchLimits).2.Ranged := by
  have bounded {store : Nat → Configuration} {result : Nat → V1DispatchResult}
      (accept : ∀ minimum maximum value,
        v1SetterRange kind c v1DispatchLimits = some (minimum, maximum) → value ≤ maximum →
          (store value).Ranged) :
      (boundedSetter command kind c v1DispatchLimits store result).2.Ranged :=
    boundedSetter_configuration h accept
  cases kind
  case sortSteps =>
    simp only [dispatchV1Setter, dispatchSortSteps]
    split
    · exact h
    · rename_i value parsed
      have le := parseBoundedInt_le parsed
      split_ifs
      · exact h
      · exact { h with sortSteps := Nat.le_trans le (by decide) }
  case slotCount =>
    simp only [dispatchV1Setter, dispatchSlotCount]
    split
    · exact h
    · rename_i value parsed
      have le := Nat.le_trans (parseUint32_le parsed) (maximumRepresentableSlotCount_le _)
      split_ifs
      · exact h
      · exact { h with slotCount := Nat.le_trans le (by decide) }
  case airDropEnabled =>
    simp only [dispatchV1Setter]
    split
    · exact h
    · exact { h with }
  case autoMotorStandbyTimeout =>
    simp only [dispatchV1Setter]
    split
    · exact h
    · rename_i seconds parsed
      exact { h with autoMotorStandbyTimeout := parseUint32_le parsed }
  case cameraLedLevel =>
    simp only [dispatchV1Setter]
    split
    · exact h
    · exact { h with cameraLedLevel := small_clampByte _ }
  case test | sortTest =>
    simp only [dispatchV1Setter]
    split <;> exact h
  case debounceTimeout =>
    refine bounded fun _ _ value range le => ?_
    cases range
    exact { h with debounceTimeout := le }
  case debounceTime =>
    refine bounded fun _ _ value range le => ?_
    cases range
    exact { h with debouncePauseTime := le }
  case feedSpeed =>
    refine bounded fun _ _ value range le => ?_
    cases range
    exact { h with feedSpeed := small_nat (Nat.le_trans le (by decide)) }
  case feedHomingOffset =>
    refine bounded fun _ _ value range le => ?_
    cases range
    exact { h with feedHomingOffset := small_nat (Nat.le_trans le (by decide)) }
  case sortHomingOffset =>
    refine bounded fun _ _ value range le => ?_
    cases range
    exact { h with sortHomingOffset := small_nat (Nat.le_trans le (by decide)) }
  case sortSpeed =>
    refine bounded fun _ _ value range le => ?_
    cases range
    exact { h with sortSpeed := small_nat (Nat.le_trans le (by decide)) }
  case feedSteps =>
    refine bounded fun _ _ value range le => ?_
    cases range
    exact { h with feedSteps := small_nat (Nat.le_trans le (by decide)) }
  case notificationDelay =>
    refine bounded fun _ _ value range le => ?_
    cases range
    exact { h with notificationDelay := small_nat le }
  case slotDropDelay =>
    refine bounded fun _ _ value range le => ?_
    cases range
    exact { h with slotDropDelay := small_nat le }
  case airDropPostDelay =>
    refine bounded fun _ _ value range le => ?_
    cases range
    exact { h with airDropPostDelay := small_nat le }
  case airDropPreDelay =>
    refine bounded fun _ _ value range le => ?_
    cases range
    exact { h with airDropPreDelay := small_nat le }
  case airDropSignalDuration =>
    refine bounded fun _ _ value range le => ?_
    cases range
    exact { h with airDropSignalTime := small_nat le }
  all_goals exact h

theorem dispatchPosition_configuration (text : Bytes) (kind : V1Command) (c : Configuration)
    (limits : V1DispatchLimits) (action : V1Action) (output : V1Output) :
    (dispatchPosition text kind c limits action output).2 = c := by
  unfold dispatchPosition
  split <;> rfl

theorem dispatchV1Command_ranged {command : Bytes} {context : V1DispatchContext}
    {c : Configuration} (h : c.Ranged) :
    (dispatchV1Command command context c v1DispatchLimits).2.Ranged := by
  simp only [dispatchV1Command]
  split_ifs <;> try exact h
  split
  all_goals first
    | exact h
    | exact dispatchPosition_configuration _ _ _ _ _ _ ▸ h
    | exact dispatchV1Setter_ranged h

theorem Dispatched.ranged {c d : Configuration} (dispatched : Dispatched c d) (h : c.Ranged) :
    d.Ranged := by
  obtain rfl | ⟨command, context, rfl⟩ := dispatched
  · exact h
  · exact dispatchV1Command_ranged h

theorem dispatchPosition_small (text : Bytes) (kind : V1Command) (c : Configuration)
    (action : V1Action) (output : V1Output) :
    Small (dispatchPosition text kind c v1DispatchLimits action output).1.value := by
  unfold dispatchPosition
  split
  · exact small_nat (Nat.zero_le _)
  · rename_i value parsed
    have le := parseBoundedInt_le parsed
    have slots := maximumRepresentableSlotCount_le c.sortSteps
    exact small_nat (show value ≤ 32767 by omega)

theorem physical_small {payload : Bytes} {context : V1DispatchContext} {c : Configuration}
    (physical : State.physicalCommand (classifyV1Command payload) = true) :
    Small (dispatchV1Command payload context c v1DispatchLimits).1.value := by
  have zero : Small 0 := small_nat (Nat.zero_le _)
  simp only [dispatchV1Command]
  split_ifs <;> try exact zero
  generalize classifyV1Command payload = kind at physical
  cases kind
  case sortTo => exact dispatchPosition_small _ _ _ _ _
  case homeFeeder | homeSorter => exact zero
  all_goals cases physical

/-- What the numbers on a v2 line are taken from. -/
structure Ranged (s : State) : Prop where
  configuration : s.configuration.Ranged
  generation : s.link.configGeneration ≤ v2ConfigGenerationMax
  sequence : s.link.session.mode = .v2 → 1 ≤ s.link.session.eventSequence
  sequenceMax : s.link.session.eventSequence ≤ 65535
  active : s.link.session.lifecycle.activeId ≤ 65535
  tracked : s.link.physicalRequestTracker.requestIdField ≤ 65535
  slot : Small s.link.physicalRequestTracker.slot

theorem ranged_boot (now : UInt32) : Ranged (boot now) :=
  ⟨ranged_default, Nat.zero_le _, nofun, Nat.zero_le _, Nat.zero_le _, Nat.zero_le _,
    small_nat (Nat.zero_le _)⟩

theorem V2RequestLifecycle.activeRequestId_le {l : V2RequestLifecycle} (h : l.activeId ≤ 65535) :
    l.activeRequestId ≤ 65535 := by
  unfold activeRequestId
  split_ifs
  · exact h
  · exact Nat.zero_le _

theorem V2RequestLifecycle.terminal_le {l : V2RequestLifecycle} (h : l.activeId ≤ 65535)
    (requestId : Nat) : (l.terminal requestId).1.activeId ≤ 65535 := by
  unfold terminal
  split_ifs
  · exact Nat.zero_le _
  · exact h
  · exact h

theorem V2RequestLifecycle.beginReadOnly_le {l : V2RequestLifecycle} (h : l.activeId ≤ 65535)
    (requestId : Nat) : (l.beginReadOnly requestId).1.activeId ≤ 65535 := by
  unfold beginReadOnly
  split_ifs <;> exact h

theorem V2RequestLifecycle.beginActive_le {l : V2RequestLifecycle} (h : l.activeId ≤ 65535)
    {requestId : Nat} (small : requestId ≤ 65535) :
    (l.beginActive requestId).1.activeId ≤ 65535 := by
  unfold beginActive
  split_ifs
  · exact h
  · exact h
  · exact h
  · exact h
  · exact small

theorem PhysicalRequestTracker.requestId_le {t : PhysicalRequestTracker}
    (h : t.requestIdField ≤ 65535) : t.requestId ≤ 65535 := by
  unfold requestId
  split_ifs
  · exact h
  · exact Nat.zero_le _

theorem envelopeId_le {bytes rest : Bytes} {n value : Nat} (h : n ≤ 65535)
    (read : envelopeId bytes n = some (value, rest)) : value ≤ 65535 := by
  induction bytes generalizing n with
  | nil =>
    cases read
    exact h
  | cons b bytes ih =>
    unfold envelopeId at read
    dsimp only at read
    split_ifs at read with digit exceeds
    · exact ih (Nat.le_of_not_lt exceeds) read
    · cases read
      exact h

theorem parseV2RequestEnvelope_le {frame : Bytes} {envelope : V2RequestEnvelope}
    (h : parseV2RequestEnvelope frame = .ready envelope) : envelope.requestId ≤ 65535 := by
  unfold parseV2RequestEnvelope at h
  split_ifs at h
  · cases h
    exact Nat.zero_le _
  · split at h
    · cases h
    · rename_i value rest read
      dsimp only at h
      split_ifs at h
      cases h
      exact envelopeId_le (Nat.zero_le _) read

end CaseSorter.Firmware
