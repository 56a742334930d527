import CaseSorter.Firmware.RequestTerminals

/-! A second ID-less request. The reserved ID 0 is one that the lifecycle can own, and the
guard of the setters and of the physical requests asks for the owner of the ID before it
asks whether the firmware is busy: these requests are rejected as duplicates. -/

namespace CaseSorter.Firmware

/-- `t` follows `s` by one `@0` busy line; the machine and the active request are the
same. -/
structure AnsweredBusy (s t : State) : Prop where
  line : ∃ fields, t.link.output = .response ⟨0, .error 2001 "busy", fields⟩ :: s.link.output
  machine : t = { s with link := t.link }
  lifecycle : t.link.session.lifecycle = s.link.session.lifecycle
  tracker : t.link.physicalRequestTracker = s.link.physicalRequestTracker
  generation : t.link.configGeneration = s.link.configGeneration

def guarded (payload : Bytes) : Bool :=
  v1CommandIsSetter (classifyV1Command payload) || payload = ascii "homeall" ||
    classifyV1Command payload = .homeFeeder || classifyV1Command payload = .homeSorter ||
      classifyV1Command payload = .sortTo

theorem owns_zero {s : State} (idless : s.link.session.lifecycle.isIdlessActive) :
    s.link.session.lifecycle.owns 0 := by
  simp only [V2RequestLifecycle.isIdlessActive, Bool.and_eq_true] at idless
  simp [V2RequestLifecycle.owns, V2RequestLifecycle.ownsActive, idless]

theorem refuse_zero {s : State} (idless : s.link.session.lifecycle.isIdlessActive) :
    s.refuseV2Request 0 = some (s.emitV2DuplicateId 0) := by
  rw [State.refuseV2Request, if_pos (owns_zero idless)]

theorem beginV2Immediate_zero {s : State} (idless : s.link.session.lifecycle.isIdlessActive) :
    s.beginV2Immediate 0 = (s.emitV2Busy 0 0, false) := by
  rw [State.beginV2Immediate, if_pos ⟨rfl, idless⟩]

theorem handleV2Request_zero {s : State} (idless : s.link.session.lifecycle.isIdlessActive)
    {payload : Bytes} (other : payload ≠ ascii "stop") (t : Ticks) :
    s.handleV2Request 0 payload t =
      if guarded payload then s.emitV2DuplicateId 0 else s.emitV2Busy 0 0 := by
  have refused := refuse_zero idless
  have immediate := beginV2Immediate_zero idless
  unfold State.handleV2Request guarded
  rw [if_neg other]
  dsimp only
  by_cases one : payload = ascii "protocol:1"
  · subst one
    rw [if_pos rfl, State.handleV2ProtocolOne, if_pos ⟨rfl, idless⟩, if_neg (by decide)]
  rw [if_neg one]
  by_cases config : classifyV1Command payload = .getConfig
  · have plain : payload ≠ ascii "homeall" := by
      rintro rfl
      exact absurd config (by decide)
    rw [if_pos config, immediate, config]
    simp [plain, v1CommandIsSetter]
  rw [if_neg config]
  cases setter : v1CommandIsSetter (classifyV1Command payload)
  · rw [if_neg Bool.false_ne_true]
    by_cases all : payload = ascii "homeall"
    · simp [all, State.beginV2HomeAll, State.beginV2PhysicalRequest, refused]
    by_cases feeder : classifyV1Command payload = .homeFeeder
    · simp [all, feeder, State.beginV2PhysicalRequest, refused]
    by_cases sorter : classifyV1Command payload = .homeSorter
    · simp [all, sorter, State.beginV2PhysicalRequest, refused]
    by_cases sort : classifyV1Command payload = .sortTo
    · simp [all, sort, State.beginV2PhysicalRequest, refused]
    simp [all, feeder, sorter, sort, State.handleV2Immediate, immediate]
  · simp [State.handleV2Setter, State.beginV2Setter, refused]

/-- During an ID-less request another ID-less frame is answered busy on `@0`, and changes
nothing, if and only if it is neither a setter nor a physical request. -/
theorem idless_answeredBusy_iff {s : State} {routine : Routine} {payload : Bytes}
    (idless : s.link.session.lifecycle.isIdlessActive)
    (asked : handled s routine = .v2Request ⟨0, payload, false⟩)
    (other : payload ≠ ascii "stop") :
    AnsweredBusy s (exec s routine) ↔ guarded payload = false := by
  obtain ⟨-, -, detector, parser, t, done⟩ := exec_request asked
  rw [done, @handleV2Request_zero ((s.setRawStopLineDetector detector).setV2Parser parser)
    idless payload other t]
  cases guarded payload
  · rw [if_neg nofun]
    exact iff_of_true ⟨⟨_, rfl⟩, rfl, rfl, rfl, rfl⟩ rfl
  · rw [if_pos rfl]
    refine iff_of_false (fun answered => ?_) nofun
    obtain ⟨fields, line⟩ := answered.line
    cases (List.cons.inj line).1

def feederBusy (second : String) : State :=
  execAll (boot 0) (lineRoutines (ascii ("stop\nprotocol:2\nhomefeeder\n" ++ second)))

theorem idless_answeredBusy_queue :
    AnsweredBusy (feederBusy "queue") (exec (feederBusy "queue") newline) :=
  (@idless_answeredBusy_iff (feederBusy "queue") newline (ascii "queue") (by decide +kernel)
    (by decide +kernel) (by decide)).mpr (by decide)

/-- `feedsteps:70` is rejected as a bad ID. -/
theorem idless_rejected :
    (feederBusy "feedsteps:70").link.session.mode = .v2 ∧
    (feederBusy "feedsteps:70").link.session.lifecycle.isIdlessActive ∧
    handled (feederBusy "feedsteps:70") newline =
      .v2Request ⟨0, ascii "feedsteps:70", false⟩ ∧
    ¬ AnsweredBusy (feederBusy "feedsteps:70") (exec (feederBusy "feedsteps:70") newline) := by
  refine ⟨by decide +kernel, by decide +kernel, by decide +kernel, fun answered => ?_⟩
  obtain ⟨fields, line⟩ := answered.line
  have head : (exec (feederBusy "feedsteps:70") newline).link.output.head? =
      some (.event ⟨1, .reject 1003 "bad_id", []⟩) := by decide +kernel
  rw [line] at head
  cases head

end CaseSorter.Firmware
