import CaseSorter.Firmware.Effects

/-! Setters. Each stores one value in one field after every check, or nothing at all; the two
protocol handlers put the same payload through the same dispatch and the same action, so that
an idle machine comes out the same of both. -/

namespace CaseSorter.Firmware

def decimalValue (digits : Bytes) : Nat := digits.foldl (fun n d => n * 10 + digitValue d) 0

/-- The text is all digits, and this is their value. -/
def Unsigned (text : Bytes) (value : Nat) : Prop :=
  text ≠ [] ∧ (∀ d ∈ text, isDigit d = true) ∧ value = decimalValue text

/-- Digits, with a sign in front or without. -/
def Signed (text : Bytes) (value : Int) : Prop :=
  ∃ digits magnitude, Unsigned digits magnitude ∧
    (text = minus :: digits ∧ value = -(magnitude : Int) ∨
      (text = plus :: digits ∨ text = digits) ∧ value = magnitude)

theorem parseUint32Loop_decimal {maximum value : Nat} {text : Bytes} {parsed : Nat}
    (h : parseUint32Loop maximum text parsed = some value) :
    (∀ d ∈ text, isDigit d = true) ∧
      value = text.foldl (fun n d => n * 10 + digitValue d) parsed := by
  induction text generalizing parsed with
  | nil =>
    cases h
    exact ⟨fun d member => (List.not_mem_nil member).elim, rfl⟩
  | cons d text ih =>
    unfold parseUint32Loop at h
    split_ifs at h with other large
    obtain ⟨digits, same⟩ := ih h
    refine ⟨fun e member => ?_, same⟩
    rcases List.mem_cons.mp member with rfl | later
    · simpa using other
    · exact digits e later

theorem parseUint32_decimal {text : Bytes} {maximum value : Nat}
    (h : parseUint32 text maximum = some value) : Unsigned text value ∧ value ≤ maximum := by
  unfold parseUint32 at h
  split_ifs at h with empty
  exact ⟨⟨empty, parseUint32Loop_decimal h⟩, parseUint32Loop_le text 0 (Nat.zero_le _) h⟩

theorem parseBoundedInt_decimal {text : Bytes} {minimum maximum value : Nat}
    (h : parseBoundedInt text minimum maximum = some value) :
    Unsigned text value ∧ minimum ≤ value ∧ value ≤ maximum := by
  obtain ⟨parsed, least⟩ := Option.filter_eq_some_iff.mp h
  obtain ⟨decimal, most⟩ := parseUint32_decimal parsed
  exact ⟨decimal, by simpa using least, most⟩

theorem magnitude_decimal {digits : Bytes} {limit : Nat} {negative : Prop} [Decidable negative]
    {minimum maximum value : Int}
    (h : (match parseUint32 digits limit with
      | none => none
      | some magnitude =>
        let parsed : Int := if negative then -(magnitude : Int) else magnitude
        if parsed < minimum ∨ maximum < parsed then none else some parsed) = some value) :
    ∃ magnitude, Unsigned digits magnitude ∧
      value = if negative then -(magnitude : Int) else magnitude := by
  cases parsed : parseUint32 digits limit with
  | none =>
    rw [parsed] at h
    cases h
  | some magnitude =>
    rw [parsed] at h
    dsimp only at h
    split_ifs at h with sign outside outside
    · exact ⟨magnitude, (parseUint32_decimal parsed).1, by rw [if_pos sign, Option.some.inj h]⟩
    · exact ⟨magnitude, (parseUint32_decimal parsed).1, by rw [if_neg sign, Option.some.inj h]⟩

theorem parseInt32_decimal {text : Bytes} {minimum maximum value : Int}
    (h : parseInt32 text minimum maximum = some value) : Signed text value := by
  unfold parseInt32 at h
  by_cases refused : maximum < minimum ∨ text = []
  · rw [if_pos refused] at h
    cases h
  · rw [if_neg refused] at h
    dsimp only at h
    by_cases missing : (if text.head? = some minus ∨ text.head? = some plus then text.tail
        else text) = []
    · rw [if_pos missing] at h
      cases h
    · rw [if_neg missing] at h
      obtain ⟨magnitude, decimal, same⟩ := magnitude_decimal h
      refine ⟨_, magnitude, decimal, ?_⟩
      cases text with
      | nil => simp at refused
      | cons b digits =>
        simp only [List.head?_cons, Option.some.injEq, List.tail_cons] at same ⊢
        by_cases negative : b = minus
        · rw [if_pos negative] at same
          exact .inl ⟨by simp [negative], same⟩
        · rw [if_neg negative] at same
          by_cases positive : b = plus
          · exact .inr ⟨.inl (by simp [positive]), same⟩
          · exact .inr ⟨.inr (by simp [negative, positive]), same⟩

def V1Command.assign (c : Configuration) (value : Int) : V1Command → Configuration
  | .debounceTimeout => { c with debounceTimeout := value.toNat }
  | .debounceTime => { c with debouncePauseTime := value.toNat }
  | .feedSpeed => { c with feedSpeed := value }
  | .feedHomingOffset => { c with feedHomingOffset := value }
  | .sortHomingOffset => { c with sortHomingOffset := value }
  | .sortSpeed => { c with sortSpeed := value }
  | .sortSteps => { c with sortSteps := value.toNat }
  | .slotCount => { c with slotCount := value.toNat }
  | .feedSteps => { c with feedSteps := value }
  | .notificationDelay => { c with notificationDelay := value }
  | .slotDropDelay => { c with slotDropDelay := value }
  | .airDropEnabled => { c with airDropEnabled := value ≠ 0 }
  | .airDropPostDelay => { c with airDropPostDelay := value }
  | .airDropPreDelay => { c with airDropPreDelay := value }
  | .airDropSignalDuration => { c with airDropSignalTime := value }
  | .autoMotorStandbyTimeout => { c with autoMotorStandbyTimeout := value.toNat }
  | .cameraLedLevel => { c with cameraLedLevel := value }
  | _ => c

def Accepts (kind : V1Command) (c : Configuration) (limits : V1DispatchLimits) (argument : Bytes)
    (value : Int) : Prop :=
  match kind with
  | .airDropEnabled => (parseBool argument = some true ∧ value = 1) ∨
      (parseBool argument = some false ∧ value = 0)
  | .cameraLedLevel => ∃ given, Signed argument given ∧ value = clampByte given
  | _ => ∃ minimum maximum parsed, v1SetterRange kind c limits = some (minimum, maximum) ∧
      Unsigned argument parsed ∧ minimum ≤ parsed ∧ parsed ≤ maximum ∧ value = parsed

def AnswersOk (result : V1DispatchResult) : Prop :=
  result.output = .response ∧ result.response = .ok

instance (result : V1DispatchResult) : Decidable (AnswersOk result) :=
  inferInstanceAs (Decidable (_ ∧ _))

/-- The field named is set to the value the argument stands for and the answer is `ok`, or the
configuration is as it was and a setter is not answered with `ok`. -/
def Atomic (command : Bytes) (kind : V1Command) (c : Configuration) (limits : V1DispatchLimits)
    (answer : V1DispatchResult × Configuration) : Prop :=
  (v1CommandIsSetter kind = true ∧ AnswersOk answer.1 ∧ ∃ argument value,
      command = v1CommandLead kind ++ argument ∧ Accepts kind c limits argument value ∧
      answer.2 = kind.assign c value) ∨
    (answer.2 = c ∧ (v1CommandIsSetter kind = true → ¬ AnswersOk answer.1))

def Led (command : Bytes) (kind : V1Command) : Prop :=
  command = v1CommandLead kind ++ v1Argument command kind

section Setter

variable {command : Bytes} {kind : V1Command} {c : Configuration} {limits : V1DispatchLimits}

theorem classified_led (setter : v1CommandIsSetter (classifyV1Command command) = true) :
    Led command (classifyV1Command command) := by
  have leads : ∀ entry ∈ v1PrefixedCommands, v1CommandLead entry.2 = entry.1 := by decide
  have bare : ∀ entry ∈ v1ExactCommands, v1CommandIsSetter entry.2 = false := by decide
  unfold classifyV1Command at setter ⊢
  split_ifs at setter ⊢ with numeric
  · cases setter
  · split at setter
    · rename_i word kind found
      have plain := bare _ (List.mem_of_find?_eq_some found)
      rw [setter] at plain
      cases plain
    · split at setter
      · rename_i lead kind found
        have same := leads _ (List.mem_of_find?_eq_some found)
        have begins : lead.isPrefixOf command = true := by simpa using List.find?_some found
        dsimp only at same ⊢
        unfold Led v1Argument v1CommandValue
        rw [same, if_pos begins, Option.getD_some]
        obtain ⟨rest, rfl⟩ := List.isPrefixOf_iff_prefix.mp begins
        rw [List.drop_left]
      · cases setter

theorem atomic_refused {response : V1Response} (other : response ≠ .ok) :
    Atomic command kind c limits (refused response, c) :=
  .inr ⟨rfl, fun _ ok => other ok.2⟩

theorem atomic_invalid (setter : v1CommandIsSetter kind = true) :
    Atomic command kind c limits (invalid kind, c) := by
  refine .inr ⟨rfl, fun _ ok => ?_⟩
  have other : v1InvalidResponse kind ≠ .ok := by
    cases kind <;> first | decide | cases setter
  exact other ok.2

theorem atomic_stored (led : Led command kind) (setter : v1CommandIsSetter kind = true)
    {result : V1DispatchResult} (ok : AnswersOk result) {value : Int}
    (accepted : Accepts kind c limits (v1Argument command kind) value) {next : Configuration}
    (assigned : next = kind.assign c value) : Atomic command kind c limits (result, next) :=
  .inl ⟨setter, ok, _, value, led, accepted, assigned⟩

theorem boundedSetter_atomic (led : Led command kind) (setter : v1CommandIsSetter kind = true)
    {store : Nat → Configuration} {result : Nat → V1DispatchResult}
    (ok : ∀ v, AnswersOk (result v)) (assigned : ∀ v : Nat, store v = kind.assign c v)
    (plain : kind ≠ .airDropEnabled ∧ kind ≠ .cameraLedLevel) :
    Atomic command kind c limits (boundedSetter command kind c limits store result) := by
  unfold boundedSetter
  split
  · exact atomic_invalid setter
  · rename_i minimum maximum range
    split
    · exact atomic_invalid setter
    · rename_i value parsed
      obtain ⟨decimal, least, most⟩ := parseBoundedInt_decimal parsed
      have accepted : Accepts kind c limits (v1Argument command kind) value := by
        unfold Accepts
        split
        · exact absurd rfl plain.1
        · exact absurd rfl plain.2
        · exact ⟨minimum, maximum, value, range, decimal, least, most, rfl⟩
      exact atomic_stored led setter (ok value) accepted (assigned value)

theorem dispatchSortSteps_atomic (led : Led command .sortSteps) (context : V1DispatchContext) :
    Atomic command .sortSteps c limits (dispatchSortSteps command context c limits) := by
  unfold dispatchSortSteps
  split
  · exact atomic_invalid rfl
  · rename_i value parsed
    dsimp only
    split_ifs
    · exact atomic_invalid rfl
    · obtain ⟨decimal, least, most⟩ := parseBoundedInt_decimal parsed
      have accepted : Accepts .sortSteps c limits (v1Argument command .sortSteps) value :=
        ⟨1, 100, value, rfl, decimal, least, most, rfl⟩
      exact atomic_stored led rfl ⟨rfl, rfl⟩ accepted rfl

theorem dispatchSlotCount_atomic (led : Led command .slotCount) :
    Atomic command .slotCount c limits (dispatchSlotCount command c limits) := by
  unfold dispatchSlotCount
  split
  · exact atomic_invalid rfl
  · rename_i slots parsed
    split_ifs with refused
    · exact atomic_invalid rfl
    · obtain ⟨decimal, most⟩ := parseUint32_decimal parsed
      simp only [isSlotCountRepresentable, Bool.not_eq_true', Bool.not_eq_false, Bool.and_eq_true,
        decide_eq_true_eq] at refused
      have accepted : Accepts .slotCount c limits (v1Argument command .slotCount) slots :=
        ⟨1, _, slots, rfl, decimal, refused.1, most, rfl⟩
      exact atomic_stored led rfl ⟨rfl, rfl⟩ accepted rfl

theorem dispatchV1Setter_atomic (context : V1DispatchContext)
    (led : v1CommandIsSetter kind = true → Led command kind) :
    Atomic command kind c limits (dispatchV1Setter command kind context c limits) := by
  cases kind
  case debounceTimeout | debounceTime | feedSpeed | feedHomingOffset | sortHomingOffset | sortSpeed
      | feedSteps | notificationDelay | slotDropDelay | airDropPostDelay | airDropPreDelay
      | airDropSignalDuration =>
    exact boundedSetter_atomic (led rfl) rfl (fun _ => ⟨rfl, rfl⟩) (fun _ => rfl) (by decide)
  case sortSteps => exact dispatchSortSteps_atomic (led rfl) context
  case slotCount => exact dispatchSlotCount_atomic (led rfl)
  case airDropEnabled =>
    simp only [dispatchV1Setter]
    split
    · exact atomic_invalid rfl
    · rename_i enabled parsed
      cases enabled with
      | true => exact atomic_stored (led rfl) rfl ⟨rfl, rfl⟩ (.inl ⟨parsed, rfl⟩) rfl
      | false => exact atomic_stored (led rfl) rfl ⟨rfl, rfl⟩ (.inr ⟨parsed, rfl⟩) rfl
  case autoMotorStandbyTimeout =>
    simp only [dispatchV1Setter]
    split
    · exact atomic_invalid rfl
    · rename_i seconds parsed
      obtain ⟨decimal, most⟩ := parseUint32_decimal parsed
      have accepted : Accepts .autoMotorStandbyTimeout c limits
          (v1Argument command .autoMotorStandbyTimeout) seconds :=
        ⟨0, _, seconds, rfl, decimal, Nat.zero_le _, most, rfl⟩
      exact atomic_stored (led rfl) rfl ⟨rfl, rfl⟩ accepted rfl
  case cameraLedLevel =>
    simp only [dispatchV1Setter]
    split
    · exact atomic_invalid rfl
    · rename_i value parsed
      exact atomic_stored (led rfl) rfl ⟨rfl, rfl⟩
        ⟨value, parseInt32_decimal parsed, rfl⟩ rfl
  all_goals
    simp only [dispatchV1Setter]
    first
      | exact .inr ⟨rfl, fun setter => by cases setter⟩
      | split <;> exact .inr ⟨rfl, fun setter => by cases setter⟩

theorem dispatchV1Command_atomic (command : Bytes) (context : V1DispatchContext)
    (c : Configuration) (limits : V1DispatchLimits) :
    Atomic command (classifyV1Command command) c limits
      (dispatchV1Command command context c limits) := by
  have position : ∀ text kind action output, v1CommandIsSetter kind = false →
      Atomic command kind c limits (dispatchPosition text kind c limits action output) := by
    intro text kind action output other
    unfold dispatchPosition
    split <;> exact .inr ⟨rfl, fun setter => by rw [other] at setter; cases setter⟩
  have set : Atomic command _ c limits (dispatchV1Setter command _ context c limits) :=
    dispatchV1Setter_atomic context classified_led
  unfold dispatchV1Command
  dsimp only
  generalize classifyV1Command command = kind at set ⊢
  split_ifs with long nul stop homed busy pending
  · exact atomic_refused (by decide)
  · exact atomic_refused (by decide)
  · exact .inr ⟨rfl, fun _ ok => by cases ok.2⟩
  · exact atomic_refused (by decide)
  · exact atomic_refused (by decide)
  · exact .inr ⟨rfl, fun _ ok => by cases ok.1⟩
  · split
    case h_1 | h_5 | h_6 => exact position _ _ _ _ rfl
    case h_8 => exact set
    all_goals exact .inr ⟨rfl, fun setter => by cases setter⟩

end Setter

def V1Action.adjusts : V1Action → Bool
  | .none | .applyFeedSpeed | .applySortSpeed | .applyFeedHomingOffset | .applySortHomingOffset
  | .applyFeedSteps | .applyDropDelay | .applyAutoMotorStandbyTimeout | .applyCameraLedLevel => true
  | _ => false

theorem setter_adjusts {kind : V1Command} (setter : v1CommandIsSetter kind = true) :
    kind.action.adjusts = true := by
  cases kind <;> first | rfl | cases setter

/-- The generation after a setter that succeeded, or after one that did not. -/
def nextGeneration (succeeded : Bool) (generation : Nat) : Nat :=
  if !succeeded then generation
  else if generation = v2ConfigGenerationMax then 0 else generation + 1

namespace State

theorem applyV1Action_linked {s : State} {result : V1DispatchResult} (t : Ticks) (l : Link)
    (adjusts : result.action.adjusts = true) :
    ({ s with link := l } : State).applyV1Action result t =
      { s.applyV1Action result t with link := l } := by
  unfold applyV1Action
  cases action : result.action <;> rw [action] at adjusts <;> first | rfl | cases adjusts

theorem applyV1Action_link {s : State} {result : V1DispatchResult} (t : Ticks)
    (adjusts : result.action.adjusts = true) : (s.applyV1Action result t).link = s.link := by
  have same : s.applyV1Action result t = { s.applyV1Action result t with link := s.link } :=
    applyV1Action_linked t s.link adjusts
  rw [same]

def setterDispatch (s : State) (payload : Bytes) : V1DispatchResult × Configuration :=
  dispatchV1Command payload (s.dispatchContext s.machineState.isRunning false false)
    s.configuration v1DispatchLimits

/-- The setter is answered with `ok`. -/
def setterSucceeds (s : State) (payload : Bytes) : Bool := AnswersOk (s.setterDispatch payload).1

/-- The machine has taken the answer in; only the link may differ, by the new generation and by
what has been said. -/
structure Sets (s : State) (payload : Bytes) (t : Ticks) (s' : State) : Prop where
  machine : s' = { (s.setConfiguration (s.setterDispatch payload).2).applyV1Action
    (s.setterDispatch payload).1 t with link := s'.link }
  generation : s'.link.configGeneration =
    nextGeneration (s.setterSucceeds payload) s.link.configGeneration

section Handlers

variable {s u : State} {payload : Bytes} {t : Ticks}

theorem setter_notNegotiated (setter : v1CommandIsSetter (classifyV1Command payload) = true)
    (busy pending : Bool) : dispatchV2Negotiation payload busy pending = .notHandled := by
  unfold dispatchV2Negotiation
  split_ifs with asked asked
  all_goals first
    | rfl
    | rw [‹payload = _›] at setter; exact absurd setter (by decide)

theorem setter_applies (setter : v1CommandIsSetter (classifyV1Command payload) = true) :
    (s.setterDispatch payload).1.action.adjusts = true := by
  rcases dispatchV1Command_action payload (s.dispatchContext s.machineState.isRunning false false)
    s.configuration v1DispatchLimits with none | ⟨-, busy⟩ | ⟨same, -⟩
  · rw [setterDispatch, none]
    rfl
  · cases busy
  · rw [setterDispatch, same]
    exact setter_adjusts setter

theorem setter_refused (setter : v1CommandIsSetter (classifyV1Command payload) = true)
    (fails : s.setterSucceeds payload = false) :
    (s.setterDispatch payload).1.action = .none ∧
      (s.setterDispatch payload).2 = s.configuration := by
  have failed : ¬ AnswersOk (s.setterDispatch payload).1 := of_decide_eq_false fails
  have answer := @dispatchV1Command_setter payload
    (s.dispatchContext s.machineState.isRunning false false) s.configuration v1DispatchLimits
    rfl rfl setter
  refine ⟨answer.resolve_right failed, ?_⟩
  rcases dispatchV1Command_atomic payload (s.dispatchContext s.machineState.isRunning false false)
    s.configuration v1DispatchLimits with ⟨-, ok, -⟩ | ⟨same, -⟩
  · exact absurd ok failed
  · exact same

theorem sets_applied (setter : v1CommandIsSetter (classifyV1Command payload) = true)
    {l : Link} (generation : l.configGeneration =
      nextGeneration (s.setterSucceeds payload) s.link.configGeneration) :
    Sets s payload t
      ((({ s with link := l } : State).setConfiguration (s.setterDispatch payload).2).applyV1Action
        (s.setterDispatch payload).1 t) := by
  have adjusts := setter_applies (s := s) setter
  have same :=
    applyV1Action_linked (s := s.setConfiguration (s.setterDispatch payload).2) t l adjusts
  have linked := applyV1Action_link (s := ({ s with link := l } : State).setConfiguration
    (s.setterDispatch payload).2) t adjusts
  refine ⟨?_, ?_⟩
  · rw [linked]
    exact same
  · rw [linked]
    exact generation

theorem Sets.then_link {s' s'' : State} (h : Sets s payload t s')
    (same : s'' = { s' with link := s''.link })
    (generation : s''.link.configGeneration = s'.link.configGeneration) : Sets s payload t s'' := by
  refine ⟨?_, generation.trans h.generation⟩
  rw [same, h.machine]

theorem takenIn (same : u = { s with link := u.link })
    (setter : v1CommandIsSetter (classifyV1Command payload) = true) (t : Ticks) :
    (u.setConfiguration (u.setterDispatch payload).2).applyV1Action (u.setterDispatch payload).1 t =
      { (s.setConfiguration (s.setterDispatch payload).2).applyV1Action
        (s.setterDispatch payload).1 t with link := u.link } := by
  have answer : u.setterDispatch payload = s.setterDispatch payload := by
    rw [same]
    rfl
  rw [answer, ← applyV1Action_linked (s := s.setConfiguration (s.setterDispatch payload).2) t
    u.link
    (setter_applies (s := s) setter), same]
  rfl

theorem Sets.of_link (same : u = { s with link := u.link })
    (generation : u.link.configGeneration = s.link.configGeneration) {s' : State}
    (h : Sets u payload t s') (setter : v1CommandIsSetter (classifyV1Command payload) = true) :
    Sets s payload t s' := by
  have answer : u.setterDispatch payload = s.setterDispatch payload := by
    rw [same]
    rfl
  refine ⟨?_, ?_⟩
  · have machine := h.machine
    rw [takenIn same setter] at machine
    exact machine
  · rw [h.generation, setterSucceeds, answer, generation]
    rfl

theorem writeV1Output_machine (s : State) (result : V1DispatchResult) :
    s.writeV1Output result = { s with link := (s.writeV1Output result).link } ∧
      (s.writeV1Output result).link.configGeneration = s.link.configGeneration := by
  unfold writeV1Output
  split <;> exact ⟨rfl, rfl⟩

theorem handleV1Frame_sets (setter : v1CommandIsSetter (classifyV1Command payload) = true)
    (idle : s.executionBusy = false) {dispatchingPending : Bool}
    (free : (s.link.pendingCommand.available && !dispatchingPending) = false) (t : Ticks) :
    Sets s payload t (s.handleV1Frame .ready payload dispatchingPending t) := by
  have handled : s.handleV1Frame .ready payload dispatchingPending t =
      (s.setConfiguration (s.setterDispatch payload).2).performV1 .ready payload
        (s.setterDispatch payload).1 t := by
    unfold handleV1Frame
    dsimp only
    rw [setter_notNegotiated setter]
    unfold handleV1Command setterDispatch
    rw [idle, free]
    split_ifs <;> rfl
  have adjusts := setter_applies (s := s) setter
  have unqueued : (s.setterDispatch payload).1.action ≠ .queuePending := fun is => by
    rw [is] at adjusts
    cases adjusts
  rw [handled]
  unfold performV1
  rw [if_neg unqueued]
  dsimp only
  obtain ⟨written, kept⟩ := writeV1Output_machine _ (s.setterDispatch payload).1
  refine Sets.then_link ?_ written kept
  cases succeeds : s.setterSucceeds payload with
  | true =>
    have ok : AnswersOk (s.setterDispatch payload).1 := of_decide_eq_true succeeds
    rw [if_pos ⟨rfl, setter, ok⟩]
    refine sets_applied (l := s.advanceConfigGeneration.link) setter ?_
    rw [succeeds]
    rfl
  | false =>
    have failed : ¬ AnswersOk (s.setterDispatch payload).1 := of_decide_eq_false succeeds
    rw [if_neg fun all => failed ⟨all.2.2.1, all.2.2.2⟩]
    refine sets_applied (l := s.link) setter ?_
    rw [succeeds]
    rfl

theorem emitV2Terminal_machine (s : State) (requestId : Nat) (kind : V2ResponseKind)
    (fields : List Field) :
    (s.emitV2Terminal requestId kind fields).1 =
        { s with link := (s.emitV2Terminal requestId kind fields).1.link } ∧
      (s.emitV2Terminal requestId kind fields).1.link.configGeneration =
        s.link.configGeneration := by
  unfold emitV2Terminal
  split_ifs <;> exact ⟨rfl, rfl⟩

/-- No request is being served. -/
def Unclaimed (s : State) : Prop :=
  s.link.session.lifecycle.active = false ∧ s.link.session.lifecycle.readOnly = false

instance : DecidablePred Unclaimed := fun _ => inferInstanceAs (Decidable (_ ∧ _))

theorem Unclaimed.begins (unclaimed : s.Unclaimed) (idle : s.executionBusy = false)
    (requestId : Nat) : ∃ lifecycle, s.beginV2Setter requestId =
      (s.setLifecycle lifecycle, true) := by
  obtain ⟨active, readOnly⟩ := unclaimed
  have unowned : s.link.session.lifecycle.owns requestId = false := by
    simp [V2RequestLifecycle.owns, V2RequestLifecycle.ownsActive, V2RequestLifecycle.ownsReadOnly,
      active, readOnly]
  have free : s.refuseV2Request requestId = none := by
    simp [refuseV2Request, unowned, idle, active]
  refine ⟨{ s.link.session.lifecycle with active := true, activeId := requestId }, ?_⟩
  unfold beginV2Setter
  rw [free]
  simp [beginV2Active, V2RequestLifecycle.beginActive, V2RequestLifecycle.owns,
    V2RequestLifecycle.ownsActive, V2RequestLifecycle.ownsReadOnly, active, readOnly]

theorem handleV2Request_setter (s : State)
    (setter : v1CommandIsSetter (classifyV1Command payload) = true) (requestId : Nat) (t : Ticks) :
    s.handleV2Request requestId payload t =
      s.handleV2Setter requestId payload (classifyV1Command payload) t := by
  have other (word : Bytes) (bare : v1CommandIsSetter (classifyV1Command word) = false) :
      payload ≠ word := fun is => by
    rw [is, bare] at setter
    cases setter
  have kind : classifyV1Command payload ≠ .getConfig := fun is => by
    rw [is] at setter
    cases setter
  unfold handleV2Request
  rw [if_neg (other _ (by decide)), if_neg (other _ (by decide))]
  dsimp only
  rw [if_neg kind, if_pos setter]

theorem handleV2Request_sets (setter : v1CommandIsSetter (classifyV1Command payload) = true)
    (idle : s.executionBusy = false) (unclaimed : s.Unclaimed) (requestId : Nat) (t : Ticks) :
    Sets s payload t (s.handleV2Request requestId payload t) := by
  obtain ⟨lifecycle, begun⟩ := unclaimed.begins idle requestId
  rw [handleV2Request_setter s setter]
  unfold handleV2Setter
  rw [begun]
  refine Sets.of_link (u := s.setLifecycle lifecycle) rfl rfl ?_ setter
  generalize s.setLifecycle lifecycle = u
  show Sets u payload t (u.applyV2Setter requestId payload (classifyV1Command payload) t)
  have applied : Sets u payload t
      (if u.setterSucceeds payload then
        ((u.setConfiguration (u.setterDispatch payload).2).applyV1Action
        (u.setterDispatch payload).1 t).advanceConfigGeneration else u) := by
    cases succeeds : u.setterSucceeds payload with
    | true =>
      have adjusts := setter_applies (s := u) setter
      have linked :=
        applyV1Action_link (s := u.setConfiguration (u.setterDispatch payload).2) t adjusts
      refine ⟨rfl, ?_⟩
      rw [if_pos rfl, succeeds]
      show nextGeneration true _ = _
      rw [linked]
      rfl
    | false =>
      obtain ⟨none, same⟩ := setter_refused setter succeeds
      refine ⟨?_, by rw [succeeds]; rfl⟩
      simp only [Bool.false_eq_true, if_false, same, applyV1Action, none]
      rfl
  unfold applyV2Setter
  dsimp only
  rw [show dispatchV1Command payload (u.dispatchContext u.machineState.isRunning false false)
    u.configuration v1DispatchLimits = u.setterDispatch payload from rfl]
  cases succeeds : u.setterSucceeds payload with
  | true =>
    have ok : AnswersOk (u.setterDispatch payload).1 := of_decide_eq_true succeeds
    rw [if_neg fun failed => failed.elim (· ok.1) (· ok.2)]
    rw [if_pos succeeds] at applied
    obtain ⟨said, kept⟩ := emitV2Terminal_machine _ requestId .done _
    exact applied.then_link said kept
  | false =>
    have failed : ¬ AnswersOk (u.setterDispatch payload).1 := of_decide_eq_false succeeds
    rw [if_pos (by rw [← not_and_or]; exact failed), (setter_refused setter succeeds).2]
    rw [if_neg (by simp [succeeds])] at applied
    obtain ⟨said, kept⟩ := emitV2Terminal_machine u requestId _ _
    exact applied.then_link said kept

/-- A line of the v1 link: one over the limit comes without its text. -/
def handleV1Line (s : State) (line : Bytes) (dispatchingPending : Bool) (t : Ticks) : State :=
  if commandMaxLength < line.length then s.handleV1Frame .tooLong [] dispatchingPending t
  else s.handleV1Frame .ready line dispatchingPending t

theorem handleV1Line_sets (setter : v1CommandIsSetter (classifyV1Command payload) = true)
    (idle : s.executionBusy = false) {dispatchingPending : Bool}
    (free : (s.link.pendingCommand.available && !dispatchingPending) = false) (t : Ticks) :
    Sets s payload t (s.handleV1Line payload dispatchingPending t) := by
  unfold handleV1Line
  split_ifs with long
  · have refusal : s.setterDispatch payload = (refused .commandTooLong, s.configuration) := by
      rw [setterDispatch, dispatchV1Command, if_pos long]
    have said : s.handleV1Frame .tooLong [] dispatchingPending t =
      s.emit (.v1 .commandTooLong) := by
      cases dispatchingPending <;> rfl
    refine ⟨?_, ?_⟩
    · rw [said, refusal]
      rfl
    · rw [said, setterSucceeds, refusal]
      rfl
  · exact handleV1Frame_sets setter idle free t

end Handlers
end State

/-- Every command sets the one field it names to the value of its argument and is answered with
`ok`, or leaves the configuration alone; and an idle machine comes out of the same setter with
the same configuration, parameters and everything else behind the link over either protocol, in
a new generation if and only if the setter is answered with `ok`. -/
theorem setters_agree :
    (∀ (command : Bytes) (context : V1DispatchContext) (c : Configuration)
      (limits : V1DispatchLimits),
      Atomic command (classifyV1Command command) c limits
        (dispatchV1Command command context c limits)) ∧
    ∀ (s u : State) (payload : Bytes) (dispatchingPending : Bool) (requestId : Nat) (t : Ticks),
      u = { s with link := u.link } → v1CommandIsSetter (classifyV1Command payload) = true →
      s.executionBusy = false → (s.link.pendingCommand.available && !dispatchingPending) =
        false →
      u.Unclaimed →
      let s' := s.handleV1Line payload dispatchingPending t
      let u' := u.handleV2Request requestId payload t
      u' = { s' with link := u'.link } ∧
        s'.link.configGeneration =
          nextGeneration (s.setterSucceeds payload) s.link.configGeneration ∧
        u'.link.configGeneration =
          nextGeneration (s.setterSucceeds payload) u.link.configGeneration := by
  refine ⟨dispatchV1Command_atomic, ?_⟩
  intro s u payload dispatchingPending requestId t same setter idle free unclaimed s' u'
  have busy : u.executionBusy = false := by
    rw [same]
    exact idle
  have first := State.handleV1Line_sets setter idle free t
  have second := State.handleV2Request_sets setter busy unclaimed requestId t
  have answer : u.setterDispatch payload = s.setterDispatch payload := by
    rw [same]
    rfl
  have generation := second.generation
  rw [State.setterSucceeds, answer] at generation
  refine ⟨?_, first.generation, generation⟩
  have taken := second.machine
  rw [State.takenIn same setter] at taken
  show u.handleV2Request requestId payload t = { s.handleV1Line payload dispatchingPending t with
    link := (u.handleV2Request requestId payload t).link }
  rw [first.machine]
  exact taken

def stoppedV1 : State := (boot 0).handleRawStop

def stoppedV2 : State := { stoppedV1 with link.session := stoppedV1.link.session.enterV2 }

theorem setters_agree_feedSpeed :
    let v1 := stoppedV1.handleV1Line (ascii "feedspeed:50") false ⟨0, 0, 0, 0⟩
    let v2 := stoppedV2.handleV2Request 7 (ascii "feedspeed:50") ⟨0, 0, 0, 0⟩
    v2 = { v1 with link := v2.link } ∧ v1.link.configGeneration = 1 ∧
      v2.link.configGeneration = 1 := by
  have agree := setters_agree.2 stoppedV1 stoppedV2 (ascii "feedspeed:50") false 7
    ⟨0, 0, 0, 0⟩ rfl
    (by decide) (by decide) (by decide) (by decide)
  exact ⟨agree.1, agree.2.1.trans (by decide), agree.2.2.trans (by decide)⟩

end CaseSorter.Firmware
