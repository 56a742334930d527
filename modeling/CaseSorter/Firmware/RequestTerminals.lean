import CaseSorter.Firmware.RequestLedger

/-! One terminal for each request of protocol v2. Between two calls the bookkeeping is
sound, every request with an ID is rejected, answered or becomes the active one, the
active one is only released by its terminal or by a raw stop, and nothing follows a
terminal until its ID is used again. -/

namespace CaseSorter.Firmware

open Runs

/-- How many done and error lines of the request are among the lines. -/
def terminals (requestId : Nat) (lines : List Emission) : Nat :=
  lines.countP (Emission.closes requestId)

theorem closes_carries {requestId : Nat} {line : Emission}
    (closes : line.closes requestId = true) : line.carries = some requestId := by
  cases line with
  | response line =>
    simp only [Emission.closes, Bool.and_eq_true, decide_eq_true_eq] at closes
    rw [Emission.carries, closes.2]
  | v1 | version | configuration | protocolAvailable | protocolReady | testProgress
  | sortTestProgress | sortTestCompleted | event => cases closes

theorem Plain.terminals {lines : List Emission} (plain : Plain lines) (requestId : Nat) :
    terminals requestId lines = 0 := by
  rw [Firmware.terminals, List.countP_eq_zero]
  intro line mem closes
  have none := plain line mem
  rw [closes_carries closes] at none
  cases none

theorem Data.terminals {requestId : Nat} {lines : List Emission} (data : Data requestId lines) :
    terminals requestId lines = 0 := by
  rw [Firmware.terminals, List.countP_eq_zero]
  intro line mem closes
  rw [(data line mem).2] at closes
  cases closes

theorem terminals_cons {requestId : Nat} {line : Emission} {lines : List Emission}
    (closes : line.closes requestId = true) :
    terminals requestId (line :: lines) = terminals requestId lines + 1 := by
  rw [terminals, List.countP_cons_of_pos closes]
  rfl

theorem terminals_append (requestId : Nat) (newer older : List Emission) :
    terminals requestId (newer ++ older) = terminals requestId newer + terminals requestId older :=
  List.countP_append

theorem Plain.silent {lines : List Emission} (plain : Plain lines) (requestId : Nat) :
    ∀ line ∈ lines, line.carries ≠ some requestId := by
  intro line mem carries
  rw [plain line mem] at carries
  cases carries

theorem cancelLines_carry {l : V2RequestLifecycle} {canceller : Nat} {line : Emission}
    (mem : line ∈ cancelLines l canceller) :
      l.active = true ∧ line.carries = some l.activeRequestId := by
  unfold cancelLines at mem
  split_ifs at mem with active
  · rw [List.mem_singleton.mp mem]
    exact ⟨active, rfl⟩
  · cases mem

theorem cancelLines_silent {l : V2RequestLifecycle} {canceller requestId : Nat}
    (free : l.ownsActive requestId = false) :
    ∀ line ∈ cancelLines l canceller, line.carries ≠ some requestId := by
  intro line mem carries
  obtain ⟨active, carried⟩ := cancelLines_carry mem
  have same := Option.some.inj (carried.symm.trans carries)
  rw [← same, V2RequestLifecycle.activeRequestId_owned active] at free
  cases free

theorem silent_terminals {requestId : Nat} {lines : List Emission}
    (silent : ∀ line ∈ lines, line.carries ≠ some requestId) :
      terminals requestId lines = 0 := by
  rw [terminals, List.countP_eq_zero]
  exact fun line mem closes => silent line mem (closes_carries closes)

theorem Plain.unclosed {lines : List Emission} {line : Emission} {requestId : Nat}
    (plain : Plain lines) (mem : line ∈ lines) (closes : line.closes requestId = true) : False :=
  plain.silent requestId line mem (closes_carries closes)

/-- No line of the request is newer than a terminal of it. -/
def Ended (requestId : Nat) (lines : List Emission) : Prop :=
  lines.Pairwise fun newer older => older.closes requestId = true →
    newer.carries ≠ some requestId

theorem Plain.ended {lines : List Emission} (plain : Plain lines) (requestId : Nat) :
    Ended requestId lines :=
  List.pairwise_of_forall_mem_list fun newer mem _ _ _ => plain.silent requestId newer mem

namespace Exchange

variable {a b : Ledger} {h : Handled} {lines : List Emission} {requestId : Nat}

theorem unmentioned (x : Exchange a h lines b) (sound : a.Sound)
    (free : a.lifecycle.ownsActive requestId = false)
    (unasked : ∀ envelope, h = .v2Request envelope → envelope.requestId ≠ requestId) :
    (∀ line ∈ lines, line.carries ≠ some requestId) ∧
      b.lifecycle.ownsActive requestId = false := by
  cases x with
  | aside plain owned => exact ⟨plain.silent requestId, free⟩
  | progress tracked =>
    rename_i named fields
    refine ⟨fun line mem carries => ?_, free⟩
    rw [List.mem_singleton.mp mem] at carries
    cases carries
    rw [(sound.tracked named tracked).2] at free
    cases free
  | ended active closes before after =>
    rename_i named line older newer
    refine ⟨fun other mem carries => ?_, rfl⟩
    rw [List.mem_append, List.mem_cons] at mem
    obtain mem | rfl | mem := mem
    · exact after.silent requestId other mem carries
    · have same := Option.some.inj ((closes_carries closes).symm.trans carries)
      rw [same, free] at active
      cases active
    · exact before.silent requestId other mem carries
  | untracked plain idle => exact ⟨plain.silent requestId, free⟩
  | silenced plain => exact ⟨plain.silent requestId, rfl⟩
  | opened v1 plain => exact ⟨plain.silent requestId, rfl⟩
  | answered owned closes own =>
    rename_i envelope line data
    have different := unasked envelope rfl
    refine ⟨fun other mem carries => ?_, free⟩
    obtain rfl | mem := List.mem_cons.mp mem
    · exact different (Option.some.inj ((closes_carries closes).symm.trans carries))
    · exact different (Option.some.inj ((own other mem).1.symm.trans carries))
  | closed idle untracked closes =>
    rename_i envelope line
    refine ⟨fun other mem carries => ?_, rfl⟩
    rw [List.mem_singleton.mp mem] at carries
    exact unasked envelope rfl (Option.some.inj ((closes_carries closes).symm.trans carries))
  | accepted v2 idle =>
    rename_i envelope fields
    have different := unasked envelope rfl
    refine ⟨fun other mem carries => ?_, ?_⟩
    · rw [List.mem_singleton.mp mem] at carries
      exact different (Option.some.inj carries)
    · simp [V2RequestLifecycle.ownsActive, different]
  | stopped owned closes plain =>
    rename_i envelope line older
    refine ⟨fun other mem carries => ?_, rfl⟩
    rw [List.mem_append, List.mem_cons] at mem
    obtain (rfl | mem) | mem := mem
    · exact unasked envelope rfl (Option.some.inj ((closes_carries closes).symm.trans carries))
    · exact plain.silent requestId other mem carries
    · exact cancelLines_silent free other mem carries

theorem request (x : Exchange a h lines b) (sound : a.Sound) {envelope : V2RequestEnvelope}
    (asked : h = .v2Request envelope)
    (free : a.lifecycle.ownsActive envelope.requestId = false) :
    (terminals envelope.requestId lines = 1 ∧
      b.lifecycle.ownsActive envelope.requestId = false) ∨
    (terminals envelope.requestId lines = 0 ∧
      b.lifecycle.ownsActive envelope.requestId = true) := by
  cases x with
  | aside plain owned =>
    have owned := owned envelope asked
    rw [V2RequestLifecycle.owns_eq sound.readOnly, free] at owned
    cases owned
  | progress tracked => cases asked
  | ended active closes before after => cases asked
  | untracked plain idle => cases asked
  | silenced plain => cases asked
  | opened v1 plain => cases asked
  | answered owned closes own =>
    cases asked
    exact .inl ⟨by rw [terminals_cons closes, own.terminals], free⟩
  | closed idle untracked closes =>
    cases asked
    exact .inl ⟨by rw [terminals_cons closes]; rfl, rfl⟩
  | accepted v2 idle =>
    cases asked
    exact .inr ⟨rfl, by simp [V2RequestLifecycle.ownsActive]⟩
  | stopped owned closes plain =>
    cases asked
    refine .inl ⟨?_, rfl⟩
    rw [terminals_append, terminals_cons closes, plain.terminals,
      silent_terminals (cancelLines_silent free)]

theorem released (x : Exchange a h lines b) (sound : a.Sound)
    (active : a.lifecycle.ownsActive requestId = true)
    (gone : b.lifecycle.ownsActive requestId = false) :
    terminals requestId lines = 1 ∨ h = .rawStop := by
  have busy : a.lifecycle.active = false → False := by
    intro idle
    rw [V2RequestLifecycle.ownsActive_inactive idle] at active
    cases active
  have kept : a.lifecycle.ownsActive requestId = false → terminals requestId lines = 1 ∨
    h = .rawStop := by
    intro free
    rw [active] at free
    cases free
  cases x with
  | aside plain owned => exact kept gone
  | progress tracked => exact kept gone
  | ended owned closes before after =>
    refine .inl ?_
    rw [← V2RequestLifecycle.ownsActive_unique owned active, terminals_append,
      terminals_cons closes, before.terminals, after.terminals]
  | untracked plain idle => exact (busy idle).elim
  | silenced plain => exact .inr rfl
  | opened v1 plain => exact (busy (sound.v1 v1)).elim
  | answered owned closes own => exact kept gone
  | closed idle untracked closes => exact (busy idle).elim
  | accepted v2 idle => exact (busy idle).elim
  | stopped free closes plain =>
    rename_i envelope line older
    have on : a.lifecycle.active = true := eq_true_of_ne_false busy
    have other : line.closes requestId = false := by
      rw [Bool.eq_false_iff]
      intro both
      have same := Option.some.inj ((closes_carries both).symm.trans (closes_carries closes))
      rw [← same, V2RequestLifecycle.owns, active, Bool.true_or] at free
      cases free
    have cancelled : terminals requestId (cancelLines a.lifecycle envelope.requestId) = 1 := by
      rw [cancelLines, if_pos on, terminals_cons]
      · rfl
      · rw [V2RequestLifecycle.ownsActive_unique active
          (V2RequestLifecycle.activeRequestId_owned on)]
        exact closes_response rfl
    refine .inl ?_
    rw [terminals_append, cancelled, terminals, List.countP_cons_of_neg (by simp [other])]
    exact congrArg (· + 1) (plain.terminals requestId)

theorem ended_lines (x : Exchange a h lines b) (requestId : Nat) : Ended requestId lines := by
  cases x with
  | aside plain owned => exact plain.ended requestId
  | progress tracked => exact List.pairwise_singleton _ _
  | ended active closes before after =>
    refine List.pairwise_append.mpr ⟨after.ended requestId, ?_, ?_⟩
    · exact List.pairwise_cons.mpr ⟨fun older mem closes => (before.unclosed mem closes).elim,
        before.ended requestId⟩
    · exact fun newer mem _ _ _ => after.silent requestId newer mem
  | untracked plain idle => exact plain.ended requestId
  | silenced plain => exact plain.ended requestId
  | opened v1 plain => exact plain.ended requestId
  | answered free closes own =>
    rename_i envelope line data
    have unclosed : ∀ other ∈ data, other.closes requestId = false := by
      intro other mem
      rw [Bool.eq_false_iff]
      intro closes
      have same := Option.some.inj ((own other mem).1.symm.trans (closes_carries closes))
      rw [← same, (own other mem).2] at closes
      cases closes
    have data_ended : Ended requestId data :=
      List.pairwise_of_forall_mem_list fun _ _ older mem closes => by
      rw [unclosed older mem] at closes
      cases closes
    refine List.pairwise_cons.mpr ⟨fun older mem closes => ?_, data_ended⟩
    rw [unclosed older mem] at closes
    cases closes
  | closed idle untracked closes => exact List.pairwise_singleton _ _
  | accepted v2 idle => exact List.pairwise_singleton _ _
  | stopped free closes plain =>
    rename_i envelope line older
    have single : Ended requestId (cancelLines a.lifecycle envelope.requestId) := by
      unfold cancelLines
      split_ifs
      · exact List.pairwise_singleton _ _
      · exact List.Pairwise.nil
    refine List.pairwise_append.mpr ⟨?_, single, ?_⟩
    · exact List.pairwise_cons.mpr ⟨fun older mem closes => (plain.unclosed mem closes).elim,
        plain.ended requestId⟩
    · intro newer mem cancelled cancelledMem cancels carries
      obtain ⟨active, carried⟩ := cancelLines_carry cancelledMem
      have named := Option.some.inj (carried.symm.trans (closes_carries cancels))
      obtain rfl | mem := List.mem_cons.mp mem
      · have same := Option.some.inj ((closes_carries closes).symm.trans carries)
        rw [V2RequestLifecycle.owns, same, ← named,
          V2RequestLifecycle.activeRequestId_owned active, Bool.true_or] at free
        cases free
      · exact plain.silent requestId newer mem carries

theorem free_after (x : Exchange a h lines b) (sound : a.Sound) (explicit : requestId ≠ 0)
    {line : Emission} (mem : line ∈ lines) (closes : line.closes requestId = true) :
    b.lifecycle.ownsActive requestId = false := by
  cases x with
  | aside plain owned => exact (plain.unclosed mem closes).elim
  | progress tracked =>
    rw [List.mem_singleton.mp mem] at closes
    cases closes
  | ended active own before after => rfl
  | untracked plain idle => exact (plain.unclosed mem closes).elim
  | silenced plain => rfl
  | opened v1 plain => rfl
  | answered free own data =>
    rename_i envelope answer lines
    obtain rfl | mem := List.mem_cons.mp mem
    · have same := Option.some.inj ((closes_carries own).symm.trans (closes_carries closes))
      rw [same] at free
      have owned := free explicit
      rw [V2RequestLifecycle.owns_eq sound.readOnly] at owned
      exact owned
    · have same := Option.some.inj ((data line mem).1.symm.trans (closes_carries closes))
      rw [← same, (data line mem).2] at closes
      cases closes
  | closed idle untracked own => rfl
  | accepted v2 idle =>
    rw [List.mem_singleton.mp mem] at closes
    cases closes
  | stopped free own plain => rfl

end Exchange

/-- The call has emitted the event that rejects the request, and has left everything but
the framing of the line as it was. -/
structure Rejected (s t : State) (requestId : Nat) : Prop where
  unchanged : t = { s with
    link.output := t.link.output
    link.session.eventSequence := t.link.session.eventSequence
    link.session.parser := t.link.session.parser
    link.rawStopLineDetector := t.link.rawStopLineDetector }
  event : t.link.output = .event ⟨s.link.session.eventSequence, .reject 1003 "bad_id",
    [field "id" requestId]⟩ :: s.link.output

theorem handleV2Request_owned {s : State} {requestId : Nat} (explicit : requestId ≠ 0)
    (owned : s.link.session.lifecycle.owns requestId = true) (payload : Bytes) (t : Ticks) :
    s.handleV2Request requestId payload t = s.emitV2DuplicateId requestId := by
  have refused : s.refuseV2Request requestId = some (s.emitV2DuplicateId requestId) := by
    simp [State.refuseV2Request, owned]
  have immediate : s.beginV2Immediate requestId = (s.emitV2DuplicateId requestId, false) := by
    have duplicate : s.link.session.lifecycle.beginReadOnly requestId =
        (s.link.session.lifecycle, .duplicateId) := by
      simp [V2RequestLifecycle.beginReadOnly, explicit, owned]
    simp only [State.beginV2Immediate, explicit, false_and, if_false, duplicate]
    rfl
  unfold State.handleV2Request
  dsimp only
  split_ifs with stop one config begun setter all feeder sorter sortTo
  · simp [State.handleV2Stop, owned]
  · simp [State.handleV2ProtocolOne, explicit, refused]
  · rw [immediate] at begun
    cases begun
  · rw [immediate]
  · simp [State.handleV2Setter, State.beginV2Setter, refused]
  · simp [State.beginV2HomeAll, State.beginV2PhysicalRequest, refused]
  · simp [State.beginV2PhysicalRequest, refused]
  · simp [State.beginV2PhysicalRequest, refused]
  · simp [State.beginV2PhysicalRequest, refused]
  · simp [State.handleV2Immediate, immediate]

theorem handledV2_request {parser : V2FrameParser × FrameResult} {envelope : V2RequestEnvelope}
    (asked : handledV2 parser = .v2Request envelope) :
    parser.2 = .frameReady ∧ parseV2RequestEnvelope parser.1.buffer = .ready envelope := by
  obtain ⟨parser, result⟩ := parser
  cases result with
  | noFrame | frameOverflow | frameInvalid => cases asked
  | frameReady =>
    refine ⟨rfl, ?_⟩
    dsimp only [handledV2] at asked
    split at asked
    · rename_i parsed
      cases asked
      exact parsed
    · cases asked
    · cases asked

theorem handledV1_request {parser : CommandParser × FrameResult} {envelope : V2RequestEnvelope} :
    handledV1 parser ≠ .v2Request envelope := by
  obtain ⟨parser, result⟩ := parser
  cases result <;> exact fun asked => by cases asked

theorem consumeV2_request {s : State} {byte : UInt8} {envelope : V2RequestEnvelope} (t : Ticks)
    (ready : (s.link.session.parser.consume byte).2 = .frameReady)
    (parsed : parseV2RequestEnvelope (s.link.session.parser.consume byte).1.buffer =
      .ready envelope) :
    s.consumeV2 byte t = ((s.setV2Parser (s.link.session.parser.consume byte).1).handleV2Request
      envelope.requestId envelope.payload t).setV2Parser .reset := by
  unfold State.consumeV2
  generalize s.link.session.parser.consume byte = consumed at ready parsed ⊢
  obtain ⟨parser, result⟩ := consumed
  cases ready
  simp only [State.handleV2Frame, parsed]

theorem exec_request {s : State} {routine : Routine} {envelope : V2RequestEnvelope}
    (asked : handled s routine = .v2Request envelope) :
    (∃ frame, parseV2RequestEnvelope frame = .ready envelope) ∧ s.link.session.mode = .v2 ∧
      ∃ detector parser t, exec s routine = (((s.setRawStopLineDetector detector).setV2Parser
        parser).handleV2Request envelope.requestId envelope.payload t).setV2Parser .reset := by
  cases routine with
  | serialByte byte t =>
    simp only [handled] at asked
    split_ifs at asked with stop v2
    · obtain ⟨ready, parsed⟩ := handledV2_request asked
      refine ⟨⟨_, parsed⟩, v2, (s.link.rawStopLineDetector.consume byte).1,
        (s.link.session.parser.consume byte).1, t, ?_⟩
      have mode : (s.setRawStopLineDetector
          (s.link.rawStopLineDetector.consume byte).1).link.session.mode = .v2 := v2
      change s.serialByte byte t = _
      unfold State.serialByte
      dsimp only
      rw [if_neg stop, if_pos mode]
      exact consumeV2_request (s := s.setRawStopLineDetector _) t ready parsed
    · exact absurd asked handledV1_request
  | dispatchPending t =>
    simp only [handled] at asked
    split_ifs at asked
  | getProxState | updateSlotDropGate | runSortMotor | onSortComplete | scheduleRun
  | checkFeedErrors | runFeedMotor | homeFeedMotor | homeSortMotor | serviceSorterJog
  | onFeedComplete | runAux | motorStandByCheck | serviceV2PhysicalRequest
  | emitV2StateIfChanged => cases asked

theorem rejected_owned {s : State} {routine : Routine} {envelope : V2RequestEnvelope}
    (asked : handled s routine = .v2Request envelope) (explicit : envelope.requestId ≠ 0)
    (owned : s.link.session.lifecycle.owns envelope.requestId = true) :
    Rejected s (exec s routine) envelope.requestId := by
  obtain ⟨-, -, detector, parser, t, eq⟩ := exec_request asked
  rw [eq,
    handleV2Request_owned explicit (s := (s.setRawStopLineDetector detector).setV2Parser parser)
    owned]
  refine ⟨rfl, ?_⟩
  simp only [State.emitV2DuplicateId, ne_eq, explicit, not_false_eq_true, if_true]
  rfl

theorem explicit_requestId {frame : Bytes} {envelope : V2RequestEnvelope}
    (parsed : parseV2RequestEnvelope frame = .ready envelope)
    (explicit : envelope.explicitId = true) : envelope.requestId ≠ 0 := by
  unfold parseV2RequestEnvelope at parsed
  split_ifs at parsed
  · cases parsed
    cases explicit
  · split at parsed
    · cases parsed
    · dsimp only at parsed
      split_ifs at parsed with bad
      · cases parsed
        exact fun zero => bad (.inr (.inl zero))

/-- The request does not ask for this ID. -/
def Unasked (requestId : Nat) (s : State) (routine : Routine) : Prop :=
  ∀ envelope, handled s routine = .v2Request envelope → envelope.requestId ≠ requestId

theorem silent_execAll {s : State} (sound : s.ledger.Sound) {requestId : Nat}
    (free : s.link.session.lifecycle.ownsActive requestId = false) (later : List Routine)
    (unasked : Meets sketchStep (Unasked requestId) s later) :
    ∃ newer, (execAll s later).link.output = newer ++ s.link.output ∧
      ∀ line ∈ newer, line.carries ≠ some requestId := by
  induction later generalizing s with
  | nil => exact ⟨[], rfl, by simp⟩
  | cons routine later ih =>
    obtain ⟨lines, x⟩ := exec_exchange sound routine
    obtain ⟨silent, stillFree⟩ := x.unmentioned sound free unasked.1
    obtain ⟨newer, output, rest⟩ := ih (sound_exchange x sound) stillFree
      (unasked.2 (exec s routine) rfl)
    refine ⟨newer ++ lines, ?_, ?_⟩
    · rw [List.append_assoc, ← show (exec s routine).link.output = lines ++
        s.link.output from x.output]
      exact output
    · intro line mem
      exact (List.mem_append.mp mem).elim (rest line) (silent line)

/-- Between two calls the read-only slot is empty, and the tracker names the active
request. -/
structure BetweenFrames (s : State) : Prop where
  readOnly : s.link.session.lifecycle.readOnly = false
  tracker : s.link.physicalRequestTracker.active = true →
    s.link.session.lifecycle.ownsActive s.link.physicalRequestTracker.requestId = true

theorem betweenFrames {s : State} (sound : s.ledger.Sound) : BetweenFrames s where
  readOnly := sound.readOnly
  tracker active := by
    rw [PhysicalRequestTracker.requestId, active, if_pos rfl]
    exact (sound.tracked _ (by simp [State.ledger, PhysicalRequestTracker.tracked, active])).2

/-- In every run of the sketch, a request with an ID is rejected, answered by one terminal
or becomes the active one; the active one is released by one terminal of its own or by a
raw stop; and after its terminal no line carries its ID until the ID is used again. -/
theorem v2Requests_oneTerminal (now : UInt32) (before : List Routine) (routine : Routine) :
    let s := execAll (boot now) before
    let t := exec s routine
    BetweenFrames s ∧ ∃ lines, t.link.output = lines ++ s.link.output ∧
      (∀ envelope, handled s routine = .v2Request envelope → envelope.explicitId →
        let owned (u : State) := u.link.session.lifecycle.owns envelope.requestId
        (owned s ∧ Rejected s t envelope.requestId) ∨
        (¬ owned s ∧ terminals envelope.requestId lines = 1 ∧ ¬ owned t) ∨
        (¬ owned s ∧ terminals envelope.requestId lines = 0 ∧
          t.link.session.lifecycle.ownsActive envelope.requestId)) ∧
      ∀ requestId, requestId ≠ 0 →
        (s.link.session.lifecycle.ownsActive requestId →
          ¬ t.link.session.lifecycle.ownsActive requestId →
          terminals requestId lines = 1 ∨ handled s routine = .rawStop) ∧
        Ended requestId lines ∧
        (∀ line ∈ lines, line.closes requestId → ∀ later,
          Meets sketchStep (Unasked requestId) t later →
          ∃ newer, (execAll t later).link.output = newer ++ t.link.output ∧
            ∀ line ∈ newer, line.carries ≠ some requestId) := by
  intro s t
  have sound : s.ledger.Sound := sound_execAll (sound_boot now) before
  obtain ⟨lines, x⟩ := exec_exchange sound routine
  have next := sound_exchange x sound
  refine ⟨betweenFrames sound, lines, x.output, ?_, ?_⟩
  · intro envelope asked explicit owned
    obtain ⟨⟨frame, parsed⟩, -, -⟩ := exec_request asked
    have named := explicit_requestId parsed explicit
    cases held : s.link.session.lifecycle.owns envelope.requestId with
    | true => exact .inl ⟨held, rejected_owned asked named held⟩
    | false =>
      have unowned : ¬ owned s = true := Bool.eq_false_iff.mp held
      have free := (V2RequestLifecycle.owns_eq sound.readOnly envelope.requestId).symm.trans held
      obtain ⟨once, gone⟩ | ⟨none, active⟩ := x.request sound asked free
      · refine .inr (.inl ⟨unowned, once, Bool.eq_false_iff.mp ?_⟩)
        exact (V2RequestLifecycle.owns_eq next.readOnly envelope.requestId).trans gone
      · exact .inr (.inr ⟨unowned, none, active⟩)
  · intro requestId named
    refine ⟨?_, x.ended_lines requestId, ?_⟩
    · intro active released
      exact x.released sound active (Bool.eq_false_iff.mpr released)
    · intro line mem closes later unasked
      exact silent_execAll next (x.free_after sound named mem closes) later unasked

end CaseSorter.Firmware
