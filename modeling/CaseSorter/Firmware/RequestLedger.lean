import CaseSorter.Firmware.Coordination

/-! The request bookkeeping of protocol v2, apart from the machine: the mode, the
lifecycle, the request the physical tracker names and the lines emitted so far.
`Exchange` lists everything one call can do to it, together with the line the call
handles and the lines it emits. -/

namespace CaseSorter.Firmware

inductive Handled
  | nothing
  | rawStop
  | v1Line (command : Bytes)
  | v2Request (envelope : V2RequestEnvelope)
  deriving DecidableEq, Repr

def handledV2 : V2FrameParser × FrameResult → Handled
  | (parser, .frameReady) =>
    match parseV2RequestEnvelope parser.buffer with
    | .ready envelope => .v2Request envelope
    | .badFrame | .badId => .nothing
  | (_, .noFrame) | (_, .frameOverflow) | (_, .frameInvalid) => .nothing

def handledV1 : CommandParser × FrameResult → Handled
  | (parser, .frameReady) => .v1Line parser.buffer
  | (_, .noFrame) | (_, .frameOverflow) | (_, .frameInvalid) => .nothing

/-- The line from the host that a call completes. -/
def handled (s : State) : Routine → Handled
  | .serialByte byte _ =>
    if (s.link.rawStopLineDetector.consume byte).2 then .rawStop
    else if s.link.session.mode = .v2 then handledV2 (s.link.session.parser.consume byte)
    else handledV1 (s.link.commandParser.consume byte)
  | .dispatchPending _ =>
    if s.link.session.mode = .v1 ∧ s.link.pendingCommand.available ∧ !s.executionBusy then
      .v1Line s.link.pendingCommand.frame
    else .nothing
  | _ => .nothing

/-- The ID on an accepted, progress, data, done or error line. -/
def Emission.carries : Emission → Option Nat
  | .response line => some line.requestId
  | _ => none

def V2ResponseKind.terminal : V2ResponseKind → Bool
  | .done | .error _ _ => true
  | .accepted | .progress | .data => false

/-- A done or error line of the request. -/
def Emission.closes (requestId : Nat) : Emission → Bool
  | .response line => line.kind.terminal && line.requestId = requestId
  | _ => false

def Plain (lines : List Emission) : Prop := ∀ line ∈ lines, line.carries = none

def Data (requestId : Nat) (lines : List Emission) : Prop :=
  ∀ line ∈ lines, line.carries = some requestId ∧ line.closes requestId = false

theorem plain_nil : Plain [] := by simp [Plain]

theorem Plain.cons {lines : List Emission} {line : Emission} (h : Plain lines)
    (plain : line.carries = none) : Plain (line :: lines) := by
  intro other mem
  obtain rfl | mem := List.mem_cons.mp mem
  · exact plain
  · exact h other mem

theorem Plain.append {newer older : List Emission} (h : Plain newer) (h' : Plain older) :
    Plain (newer ++ older) := by
  intro line mem
  exact (List.mem_append.mp mem).elim (h line) (h' line)

def PhysicalRequestTracker.tracked (t : PhysicalRequestTracker) : Option Nat :=
  if t.active then some t.requestIdField else none

structure Ledger where
  mode : ProtocolMode
  lifecycle : V2RequestLifecycle
  tracked : Option Nat
  output : List Emission
  deriving DecidableEq, Repr

def State.ledger (s : State) : Ledger where
  mode := s.link.session.mode
  lifecycle := s.link.session.lifecycle
  tracked := s.link.physicalRequestTracker.tracked
  output := s.link.output

def Ledger.stating (a : Ledger) (lines : List Emission) : Ledger :=
  { a with output := lines ++ a.output }

def Aside (a b : Ledger) : Prop := ∃ lines, Plain lines ∧ b = a.stating lines

theorem Aside.refl (a : Ledger) : Aside a a := ⟨[], plain_nil, rfl⟩

theorem Aside.of_eq {a b : Ledger} (h : b = a) : Aside a b := h ▸ .refl a

theorem Aside.trans {a b c : Ledger} (h : Aside a b) (h' : Aside b c) : Aside a c := by
  obtain ⟨older, plain, rfl⟩ := h
  obtain ⟨newer, plain', rfl⟩ := h'
  exact ⟨newer ++ older, plain'.append plain, by simp [Ledger.stating]⟩

/-- Between two calls: the read-only slot is empty, an idle lifecycle keeps no ID, the
tracker names the active request, and nothing is active in v1. -/
structure Ledger.Sound (a : Ledger) : Prop where
  readOnly : a.lifecycle.readOnly = false
  readOnlyId : a.lifecycle.readOnlyId = 0
  idle : a.lifecycle.active = false → a.lifecycle.activeId = 0
  tracked : ∀ requestId, a.tracked = some requestId →
    a.mode = .v2 ∧ a.lifecycle.ownsActive requestId = true
  v1 : a.mode = .v1 → a.lifecycle.active = false

def V2RequestLifecycle.release (l : V2RequestLifecycle) : V2RequestLifecycle :=
  { l with active := false, activeId := 0 }

def cancelLines (l : V2RequestLifecycle) (canceller : Nat) : List Emission :=
  if l.active then
    [.response ⟨l.activeRequestId, .error 2004 "cancelled", [field "by" canceller]⟩]
  else []

inductive Exchange (a : Ledger) : Handled → List Emission → Ledger → Prop
  | aside {h : Handled} {lines : List Emission} (plain : Plain lines)
      (owned : ∀ envelope, h = .v2Request envelope → a.lifecycle.owns envelope.requestId) :
      Exchange a h lines (a.stating lines)
  | progress {requestId : Nat} {fields : List Field} (tracked : a.tracked = some requestId) :
      Exchange a .nothing [.response ⟨requestId, .progress, fields⟩]
        (a.stating [.response ⟨requestId, .progress, fields⟩])
  | ended {requestId : Nat} {line : Emission} {older newer : List Emission}
      (active : a.lifecycle.ownsActive requestId) (closes : line.closes requestId)
      (before : Plain older) (after : Plain newer) :
      Exchange a .nothing (newer ++ line :: older)
        { a.stating (newer ++ line :: older) with
            lifecycle := a.lifecycle.release, tracked := none }
  | untracked {lines : List Emission} (plain : Plain lines) (idle : a.lifecycle.active = false) :
      Exchange a .nothing lines { a.stating lines with tracked := none }
  | silenced {lines : List Emission} (plain : Plain lines) :
      Exchange a .rawStop lines { a.stating lines with lifecycle := .reset, tracked := none }
  | opened {command : Bytes} {lines : List Emission} (v1 : a.mode = .v1) (plain : Plain lines) :
      Exchange a (.v1Line command) lines { a.stating lines with mode := .v2, lifecycle := .reset }
  | answered {envelope : V2RequestEnvelope} {line : Emission} {data : List Emission}
      (free : envelope.requestId ≠ 0 → a.lifecycle.owns envelope.requestId = false)
      (closes : line.closes envelope.requestId)
      (own : Data envelope.requestId data) :
      Exchange a (.v2Request envelope) (line :: data) (a.stating (line :: data))
  | closed {envelope : V2RequestEnvelope} {line : Emission}
      (idle : a.lifecycle.active = false) (untracked : a.tracked = none)
      (closes : line.closes envelope.requestId) :
      Exchange a (.v2Request envelope) [line]
        { a.stating [line] with mode := .v1, lifecycle := .reset }
  | accepted {envelope : V2RequestEnvelope} {fields : List Field}
      (v2 : a.mode = .v2) (idle : a.lifecycle.active = false) :
      Exchange a (.v2Request envelope) [.response ⟨envelope.requestId, .accepted, fields⟩]
        { a.stating [.response ⟨envelope.requestId, .accepted, fields⟩] with
            lifecycle := { a.lifecycle with active := true, activeId := envelope.requestId }
            tracked := some envelope.requestId }
  | stopped {envelope : V2RequestEnvelope} {line : Emission} {lines : List Emission}
      (free : a.lifecycle.owns envelope.requestId = false)
      (closes : line.closes envelope.requestId) (plain : Plain lines) :
      Exchange a (.v2Request envelope)
        (line :: lines ++ cancelLines a.lifecycle envelope.requestId)
        { a.stating (line :: lines ++ cancelLines a.lifecycle envelope.requestId) with
            lifecycle := .reset, tracked := none }

theorem Exchange.output {a b : Ledger} {h : Handled} {lines : List Emission}
    (x : Exchange a h lines b) : b.output = lines ++ a.output := by
  cases x <;> rfl

theorem Exchange.of_aside {a b : Ledger} {h : Handled} (aside : Aside a b)
    (owned : ∀ envelope, h = .v2Request envelope → a.lifecycle.owns envelope.requestId) :
    ∃ lines, Exchange a h lines b := by
  obtain ⟨lines, plain, rfl⟩ := aside
  exact ⟨lines, .aside plain owned⟩

theorem Exchange.reach {a b c : Ledger} {h : Handled} {lines : List Emission}
    (x : Exchange a h lines b) (same : c = b) : ∃ lines, Exchange a h lines c :=
  ⟨lines, same ▸ x⟩

theorem sound_exchange {a b : Ledger} {h : Handled} {lines : List Emission}
    (x : Exchange a h lines b) (sound : a.Sound) : b.Sound := by
  have none_tracked : ∀ {p : Nat → Prop}, ∀ requestId,
      (none : Option Nat) = some requestId → p requestId :=
    fun requestId none => by cases none
  cases x with
  | aside plain owned => exact ⟨sound.1, sound.2, sound.3, sound.4, sound.5⟩
  | progress tracked => exact ⟨sound.1, sound.2, sound.3, sound.4, sound.5⟩
  | ended active closes before after =>
    exact ⟨sound.1, sound.2, fun _ => rfl, none_tracked, fun _ => rfl⟩
  | untracked plain idle => exact ⟨sound.1, sound.2, sound.3, none_tracked, sound.5⟩
  | silenced plain => exact ⟨rfl, rfl, fun _ => rfl, none_tracked, fun _ => rfl⟩
  | opened v1 plain =>
    refine ⟨rfl, rfl, fun _ => rfl, fun requestId tracked => ?_, fun _ => rfl⟩
    have v2 := (sound.tracked requestId tracked).1
    rw [v1] at v2
    cases v2
  | answered free closes own => exact ⟨sound.1, sound.2, sound.3, sound.4, sound.5⟩
  | closed idle untracked closes =>
    refine ⟨rfl, rfl, fun _ => rfl, fun requestId tracked => ?_, fun _ => rfl⟩
    have none := untracked.symm.trans tracked
    cases none
  | accepted v2 idle =>
    refine ⟨sound.1, sound.2, fun idle => (by cases idle),
      fun requestId tracked => ?_, fun v1 => ?_⟩
    · cases tracked
      exact ⟨v2, by simp [V2RequestLifecycle.ownsActive]⟩
    · rw [show a.mode = .v1 from v1] at v2
      cases v2
  | stopped free closes plain => exact ⟨rfl, rfl, fun _ => rfl, none_tracked, fun _ => rfl⟩

namespace State

@[simp] theorem emit_ledger (s : State) (line : Emission) :
    (s.emit line).ledger = s.ledger.stating [line] := rfl

@[simp] theorem respond_ledger (s : State) (requestId : Nat) (kind : V2ResponseKind)
    (fields : List Field) :
    (s.respond requestId kind fields).ledger =
      s.ledger.stating [.response ⟨requestId, kind, fields⟩] := rfl

@[simp] theorem setLifecycle_ledger (s : State) (lifecycle : V2RequestLifecycle) :
    (s.setLifecycle lifecycle).ledger = { s.ledger with lifecycle } := rfl

@[simp] theorem setTracker_ledger (s : State) (tracker : PhysicalRequestTracker) :
    (s.setTracker tracker).ledger = { s.ledger with tracked := tracker.tracked } := rfl

theorem emitV2Event_aside (s : State) (kind : V2EventKind) (fields : List Field) :
    Aside s.ledger (s.emitV2Event kind fields).ledger :=
  ⟨_, plain_nil.cons rfl, rfl⟩

theorem emitV2StateIfChanged_aside (s : State) : Aside s.ledger s.emitV2StateIfChanged.ledger := by
  dsimp only [emitV2StateIfChanged]
  split_ifs
  · exact .refl _
  · exact .refl _
  · exact emitV2Event_aside _ _ _

theorem scheduleRun_aside (s : State) (t : Ticks) : Aside s.ledger (s.scheduleRun t).ledger := by
  dsimp only [scheduleRun]
  split_ifs
  · exact .refl _
  · exact .refl _
  · exact ⟨[.v1 .waitingForBrass], plain_nil.cons rfl, rfl⟩
  · exact .refl _
  · exact .refl _

theorem moveSorterToNextPosition_ledger (s : State) (position : Int) (now : UInt32) :
    (s.moveSorterToNextPosition position now).ledger = s.ledger := by
  dsimp only [moveSorterToNextPosition]
  split_ifs <;> rfl

theorem queueFeed_aside (s : State) (position : Int) (t : Ticks) :
    Aside s.ledger (s.queueFeed position t).ledger := by
  have moved : Aside s.ledger (s.moveSorterToNextPosition position t.now).scheduleFeed.ledger :=
    .of_eq (s.moveSorterToNextPosition_ledger position t.now)
  exact moved.trans (scheduleRun_aside _ t)

theorem applyV1Action_aside (s : State) (result : V1DispatchResult) (t : Ticks) :
    Aside s.ledger (s.applyV1Action result t).ledger := by
  unfold applyV1Action
  split
  case h_4 => exact queueFeed_aside (s.setForceFeed false) result.value t
  case h_5 => exact queueFeed_aside (s.setForceFeed true) result.value t
  all_goals exact .refl _

theorem applyV1Action_ledger (s : State) {result : V1DispatchResult} (t : Ticks)
    (quiet : result.action ≠ .queueFeed) (forced : result.action ≠ .queueForcedFeed) :
    (s.applyV1Action result t).ledger = s.ledger := by
  unfold applyV1Action
  split
  case h_4 h => exact absurd h quiet
  case h_5 h => exact absurd h forced
  all_goals rfl

end State

namespace V2RequestLifecycle

theorem owns_eq {l : V2RequestLifecycle} (readOnly : l.readOnly = false) (requestId : Nat) :
    l.owns requestId = l.ownsActive requestId := by
  simp [owns, ownsReadOnly, readOnly]

theorem ownsActive_inactive {l : V2RequestLifecycle} (idle : l.active = false) (requestId : Nat) :
    l.ownsActive requestId = false := by
  simp [ownsActive, idle]

theorem activeRequestId_owned {l : V2RequestLifecycle} (active : l.active = true) :
    l.ownsActive l.activeRequestId = true := by
  simp [ownsActive, activeRequestId, active]

theorem ownsActive_unique {l : V2RequestLifecycle} {m n : Nat} (hm : l.ownsActive m = true)
    (hn : l.ownsActive n = true) : m = n := by
  simp only [ownsActive, Bool.and_eq_true, decide_eq_true_eq] at hm hn
  exact hm.2.symm.trans hn.2

theorem beginReadOnly_started {l : V2RequestLifecycle} (readOnly : l.readOnly = false)
    {requestId : Nat} (free : l.owns requestId = false) :
    l.beginReadOnly requestId =
      ({ l with readOnly := true, readOnlyId := requestId }, .started) := by
  have zero : ¬ (requestId = 0 ∧ l.owns 0 = true) := by
    rintro ⟨rfl, owned⟩
    rw [free] at owned
    cases owned
  simp [beginReadOnly, zero, free, readOnly]

theorem terminal_readOnly {l : V2RequestLifecycle} {requestId : Nat}
    (free : l.ownsActive requestId = false) :
    ({ l with readOnly := true, readOnlyId := requestId }.terminal requestId) =
      ({ l with readOnly := false, readOnlyId := 0 }, true) := by
  have other :
      ({ l with readOnly := true, readOnlyId := requestId }.ownsActive requestId) = false :=
    free
  simp [terminal, other, ownsReadOnly]

theorem terminal_active {l : V2RequestLifecycle} {requestId : Nat}
    (active : l.ownsActive requestId = true) : l.terminal requestId = (l.release, true) := by
  simp [terminal, active, release]

theorem beginActive_started {l : V2RequestLifecycle} {requestId : Nat}
    (free : l.owns requestId = false) (idle : l.active = false) :
    l.beginActive requestId = ({ l with active := true, activeId := requestId }, .started) := by
  have zero : ¬ (requestId = 0 ∧ l.owns 0 = true) := by
    rintro ⟨rfl, owned⟩
    rw [free] at owned
    cases owned
  simp only [owns, Bool.or_eq_false_iff] at free
  simp [beginActive, zero, free.1, free.2, idle]

end V2RequestLifecycle

namespace Ledger.Sound

variable {a : Ledger}

theorem answered_lifecycle (sound : a.Sound) {requestId : Nat}
    (free : a.lifecycle.ownsActive requestId = false) :
    ({ a.lifecycle with readOnly := true, readOnlyId := requestId }.terminal requestId).1 =
      a.lifecycle := by
  rw [V2RequestLifecycle.terminal_readOnly free]
  have same := sound.readOnly
  have zero := sound.readOnlyId
  generalize a.lifecycle = l at same zero
  cases l
  cases same
  cases zero
  rfl

theorem finished_lifecycle (sound : a.Sound) {requestId : Nat} (idle : a.lifecycle.active = false) :
    ({ a.lifecycle with active := true, activeId := requestId }.terminal requestId).1 =
      a.lifecycle := by
  rw [V2RequestLifecycle.terminal_active (by simp [V2RequestLifecycle.ownsActive])]
  have zero := sound.idle idle
  generalize a.lifecycle = l at idle zero
  cases l
  cases idle
  cases zero
  rfl

end Ledger.Sound

theorem data_respond (s : State) (requestId : Nat) (fields : List Field) :
    ∃ lines, Data requestId lines ∧
      s.respondData requestId fields = { s with link.output := lines ++ s.link.output } := by
  unfold State.respondData
  induction fields generalizing s with
  | nil => exact ⟨[], by simp [Data], rfl⟩
  | cons entry fields ih =>
    obtain ⟨lines, data, eq⟩ := ih (s.respond requestId .data [entry])
    refine ⟨lines ++ [.response ⟨requestId, .data, [entry]⟩], ?_, ?_⟩
    · intro line mem
      obtain mem | mem := List.mem_append.mp mem
      · exact data line mem
      · rw [List.mem_singleton.mp mem]
        exact ⟨rfl, rfl⟩
    · rw [List.foldl_cons, eq]
      simp [State.respond, State.emit]

theorem closes_response {requestId : Nat} {kind : V2ResponseKind} {fields : List Field}
    (terminal : kind.terminal = true) :
    (Emission.response ⟨requestId, kind, fields⟩).closes requestId = true := by
  simp [Emission.closes, terminal]

/-- Handling the request leads to `t`. -/
def Replies (s : State) (envelope : V2RequestEnvelope) (t : State) : Prop :=
  ∃ lines, Exchange s.ledger (.v2Request envelope) lines t.ledger

namespace State

variable {s : State} {envelope : V2RequestEnvelope}

theorem ownsActive_eq (sound : s.ledger.Sound) (requestId : Nat) :
    s.link.session.lifecycle.ownsActive requestId = s.link.session.lifecycle.owns requestId :=
  (V2RequestLifecycle.owns_eq sound.readOnly requestId).symm

theorem replies_duplicate (owned : s.link.session.lifecycle.owns envelope.requestId = true) :
    Replies s envelope (s.emitV2DuplicateId envelope.requestId) := by
  refine Exchange.of_aside (emitV2Event_aside _ _ _) ?_
  intro other same
  cases same
  exact owned

theorem replies_line {kind : V2ResponseKind} {fields : List Field}
    (free : envelope.requestId ≠ 0 → s.link.session.lifecycle.owns envelope.requestId = false)
    (terminal : kind.terminal = true) :
    Replies s envelope (s.respond envelope.requestId kind fields) := by
  have own : Data envelope.requestId [] := by simp [Data]
  exact ⟨_, .answered free (closes_response terminal) own⟩

theorem emitV2Terminal_owned {requestId : Nat} {kind : V2ResponseKind} {fields : List Field}
    (owned : s.link.session.lifecycle.owns requestId = true) :
    s.emitV2Terminal requestId kind fields =
      ((s.respond requestId kind fields).setLifecycle
        (s.link.session.lifecycle.terminal requestId).1,
        (s.link.session.lifecycle.terminal requestId).2) := by
  simp only [emitV2Terminal, owned, Bool.not_true, Bool.false_eq_true, if_false]
  rfl

/-- The request holds the read-only slot, and `data` has been emitted for it. -/
structure Immediate (s u : State) (requestId : Nat) (data : List Emission) : Prop where
  ledger : u.ledger = { s.ledger.stating data with
    lifecycle := { s.link.session.lifecycle with readOnly := true, readOnlyId := requestId } }
  data : Data requestId data

theorem Immediate.lifecycle {u : State} {requestId : Nat} {data : List Emission}
    (h : Immediate s u requestId data) : u.link.session.lifecycle =
      { s.link.session.lifecycle with readOnly := true, readOnlyId := requestId } :=
  congrArg Ledger.lifecycle h.ledger

theorem Immediate.owns {u : State} {requestId : Nat} {data : List Emission}
    (h : Immediate s u requestId data) : u.link.session.lifecycle.owns requestId = true := by
  rw [h.lifecycle]
  simp [V2RequestLifecycle.owns, V2RequestLifecycle.ownsReadOnly]

theorem Immediate.done {u : State} {data : List Emission} {kind : V2ResponseKind}
    {fields : List Field} (h : Immediate s u envelope.requestId data) (sound : s.ledger.Sound)
    (free : s.link.session.lifecycle.owns envelope.requestId = false)
    (terminal : kind.terminal = true) :
    Replies s envelope ((u.respond envelope.requestId kind fields).setLifecycle
      (u.link.session.lifecycle.terminal envelope.requestId).1) := by
  have idle := (ownsActive_eq sound envelope.requestId).trans free
  have same : (u.link.session.lifecycle.terminal envelope.requestId).1 =
      s.link.session.lifecycle := by
    rw [h.lifecycle]
    exact sound.answered_lifecycle idle
  have closes : (Emission.response ⟨envelope.requestId, kind, fields⟩).closes
      envelope.requestId = true := closes_response terminal
  have reply : Exchange s.ledger (.v2Request envelope) _ _ :=
    .answered (fun _ => free) closes h.data
  rw [Replies, setLifecycle_ledger, respond_ledger, same, h.ledger]
  exact ⟨_, reply⟩

theorem Immediate.terminal {u : State} {data : List Emission} {kind : V2ResponseKind}
    {fields : List Field} (h : Immediate s u envelope.requestId data) (sound : s.ledger.Sound)
    (free : s.link.session.lifecycle.owns envelope.requestId = false)
    (terminal : kind.terminal = true) :
    Replies s envelope (u.emitV2Terminal envelope.requestId kind fields).1 := by
  rw [emitV2Terminal_owned h.owns]
  exact h.done sound free terminal

theorem Immediate.respondData {u : State} {requestId : Nat} (h : Immediate s u requestId [])
    (fields : List Field) :
      ∃ data, Immediate s (u.respondData requestId fields) requestId data := by
  obtain ⟨data, own, eq⟩ := data_respond u requestId fields
  refine ⟨data, ⟨?_, own⟩⟩
  rw [eq]
  have said : { u with link.output := data ++ u.link.output }.ledger = u.ledger.stating data := rfl
  rw [said, h.ledger]
  rfl

theorem beginV2Immediate_free (sound : s.ledger.Sound) {requestId : Nat}
    (free : s.link.session.lifecycle.owns requestId = false) :
    (s.beginV2Immediate requestId).2 = true ∧
      Immediate s (s.beginV2Immediate requestId).1 requestId [] := by
  have explicit : ¬ (requestId = 0 ∧ s.link.session.lifecycle.isIdlessActive = true) := by
    rintro ⟨rfl, active⟩
    have owned : s.link.session.lifecycle.owns 0 = true := by
      simp only [V2RequestLifecycle.owns, V2RequestLifecycle.ownsActive,
        V2RequestLifecycle.isIdlessActive] at active ⊢
      rw [active, Bool.true_or]
    rw [free] at owned
    cases owned
  have started := V2RequestLifecycle.beginReadOnly_started sound.readOnly free
  change s.link.session.lifecycle.beginReadOnly requestId = _ at started
  simp only [beginV2Immediate, explicit, if_false, started]
  exact ⟨trivial, rfl, by simp [Data]⟩

theorem beginV2Immediate_owned (sound : s.ledger.Sound)
    (owned : s.link.session.lifecycle.owns envelope.requestId = true) :
    (s.beginV2Immediate envelope.requestId).2 = false ∧
      Replies s envelope (s.beginV2Immediate envelope.requestId).1 := by
  have active := (ownsActive_eq sound envelope.requestId).trans owned
  by_cases zero : envelope.requestId = 0
  · have idless : s.link.session.lifecycle.isIdlessActive = true := by
      rw [zero] at active
      exact active
    simp only [beginV2Immediate, zero, idless, and_self, if_true]
    refine ⟨trivial, ?_⟩
    have reply : Replies s envelope
        (s.respond envelope.requestId (.error 2001 "busy") [field "active_id" 0]) :=
      replies_line (fun explicit => absurd zero explicit) rfl
    rw [zero] at reply
    exact reply
  · have duplicate : s.link.session.lifecycle.beginReadOnly envelope.requestId =
        (s.link.session.lifecycle, .duplicateId) := by
      simp [V2RequestLifecycle.beginReadOnly, zero, owned]
    simp only [beginV2Immediate, zero, false_and, if_false, duplicate]
    exact ⟨trivial, replies_duplicate owned⟩

theorem immediate_replies (sound : s.ledger.Sound) {f : State → State}
    (answers : ∀ u, s.link.session.lifecycle.owns envelope.requestId = false →
      Immediate s u envelope.requestId [] → Replies s envelope (f u)) :
    Replies s envelope (if (s.beginV2Immediate envelope.requestId).2 then
      f (s.beginV2Immediate envelope.requestId).1 else
        (s.beginV2Immediate envelope.requestId).1) := by
  cases owned : s.link.session.lifecycle.owns envelope.requestId with
  | true =>
    obtain ⟨refused, reply⟩ := beginV2Immediate_owned sound owned
    rw [refused]
    exact reply
  | false =>
    obtain ⟨started, immediate⟩ := beginV2Immediate_free sound owned
    rw [started]
    exact answers _ owned immediate

theorem handleV2Immediate_replies (sound : s.ledger.Sound) (payload : Bytes) (t : Ticks) :
    Replies s envelope (s.handleV2Immediate envelope.requestId payload t) := by
  have reply := @immediate_replies s envelope sound
    (fun u =>
      if payload = ascii "ping" then
        (u.respond envelope.requestId .done [field "uptime_ms" t.now.toNat]).setLifecycle
          (u.link.session.lifecycle.terminal envelope.requestId).1
      else if payload = ascii "version" then
        ((u.respond envelope.requestId .data [("version", firmwareVersion)]).emitV2Terminal
          envelope.requestId .done []).1
      else if classifyV2InspectionCommand payload ≠ .none then
        u.emitV2Inspection envelope.requestId (classifyV2InspectionCommand payload)
      else (u.emitV2Terminal envelope.requestId (.error 1004 "unknown_command") []).1) ?_
  · unfold handleV2Immediate
    generalize s.beginV2Immediate envelope.requestId = begun at reply ⊢
    obtain ⟨u, started⟩ := begun
    cases started
    · exact reply
    · exact reply
  · intro u free immediate
    split_ifs
    · exact immediate.done sound free rfl
    · obtain ⟨data, versioned⟩ := immediate.respondData [("version", firmwareVersion)]
      exact versioned.terminal sound free rfl
    · obtain ⟨data, inspected⟩ := immediate.respondData
        (u.inspectionFields (classifyV2InspectionCommand payload))
      exact inspected.terminal sound free rfl
    · exact immediate.terminal sound free rfl

theorem refuseV2Request_replies {refusal : State}
    (h : s.refuseV2Request envelope.requestId = some refusal) : Replies s envelope refusal := by
  unfold refuseV2Request at h
  split_ifs at h with owned busy
  · cases h
    exact replies_duplicate owned
  · cases h
    exact replies_line (fun _ => by simpa using owned) rfl

theorem refuseV2Request_free {requestId : Nat} (h : s.refuseV2Request requestId = none) :
    s.link.session.lifecycle.owns requestId = false ∧
      s.link.session.lifecycle.active = false := by
  unfold refuseV2Request at h
  split_ifs at h with owned busy
  simp only [Bool.or_eq_true, not_or, Bool.not_eq_true] at busy owned
  exact ⟨owned, busy.2⟩

theorem untracked_of_idle (sound : s.ledger.Sound)
    (idle : s.link.session.lifecycle.active = false) : s.ledger.tracked = none := by
  cases tracked : s.ledger.tracked with
  | none => rfl
  | some requestId =>
    have active := (sound.tracked requestId tracked).2
    rw [V2RequestLifecycle.ownsActive_inactive (l := s.ledger.lifecycle) idle] at active
    cases active

def Active (s u : State) (requestId : Nat) : Prop :=
  u.ledger = { s.ledger with
    lifecycle := { s.link.session.lifecycle with active := true, activeId := requestId } }

theorem beginV2Active_free {requestId : Nat}
    (free : s.link.session.lifecycle.owns requestId = false)
    (idle : s.link.session.lifecycle.active = false) :
    (s.beginV2Active requestId).2 = true ∧ Active s (s.beginV2Active requestId).1 requestId := by
  simp only [beginV2Active, V2RequestLifecycle.beginActive_started free idle]
  exact ⟨trivial, rfl⟩

theorem Active.lifecycle {u : State} {requestId : Nat} (h : Active s u requestId) :
    u.link.session.lifecycle =
      { s.link.session.lifecycle with active := true, activeId := requestId } :=
  congrArg Ledger.lifecycle h

theorem Active.terminal {u : State} {kind : V2ResponseKind} {fields : List Field}
    (h : Active s u envelope.requestId) (sound : s.ledger.Sound)
    (free : s.link.session.lifecycle.owns envelope.requestId = false)
    (idle : s.link.session.lifecycle.active = false) (terminal : kind.terminal = true) :
    Replies s envelope (u.emitV2Terminal envelope.requestId kind fields).1 := by
  have owned : u.link.session.lifecycle.owns envelope.requestId = true := by
    rw [h.lifecycle]
    simp [V2RequestLifecycle.owns, V2RequestLifecycle.ownsActive]
  have same : (u.link.session.lifecycle.terminal envelope.requestId).1 =
      s.link.session.lifecycle := by
    rw [h.lifecycle]
    exact sound.finished_lifecycle idle
  have closes : (Emission.response ⟨envelope.requestId, kind, fields⟩).closes
      envelope.requestId = true := closes_response terminal
  have own : Data envelope.requestId [] := by simp [Data]
  have reply : Exchange s.ledger (.v2Request envelope) _ _ :=
    .answered (fun _ => free) closes own
  rw [emitV2Terminal_owned owned, Replies, setLifecycle_ledger, respond_ledger, same, h]
  exact ⟨_, reply⟩

theorem setter_action {payload : Bytes} {context : V1DispatchContext} {c : Configuration}
    (setter : v1CommandIsSetter (classifyV1Command payload) = true) :
    (dispatchV1Command payload context c v1DispatchLimits).1.action ≠ .queueFeed ∧
      (dispatchV1Command payload context c v1DispatchLimits).1.action ≠ .queueForcedFeed := by
  have action := dispatchV1Command_action payload context c v1DispatchLimits
  rcases action with action | ⟨action, -⟩ | ⟨action, -⟩
  · rw [action]
    exact ⟨by decide, by decide⟩
  · rw [action]
    exact ⟨by decide, by decide⟩
  · rw [action]
    generalize classifyV1Command payload = kind at setter
    cases kind <;> first | exact ⟨by decide, by decide⟩ | cases setter

theorem handleV2Setter_replies (sound : s.ledger.Sound) (payload : Bytes) (t : Ticks)
    (setter : v1CommandIsSetter (classifyV1Command payload) = true) :
    Replies s envelope
      (s.handleV2Setter envelope.requestId payload (classifyV1Command payload) t) := by
  unfold handleV2Setter beginV2Setter
  cases refuses : s.refuseV2Request envelope.requestId with
  | some refusal => exact refuseV2Request_replies refuses
  | none =>
    obtain ⟨free, idle⟩ := refuseV2Request_free refuses
    obtain ⟨begun, active⟩ := beginV2Active_free free idle
    generalize s.beginV2Active envelope.requestId = started at begun active
    obtain ⟨u, flag⟩ := started
    cases begun
    change Replies s envelope (u.applyV2Setter envelope.requestId payload _ t)
    dsimp only [applyV2Setter]
    generalize eq : dispatchV1Command payload _ u.configuration v1DispatchLimits = dispatched
    obtain ⟨quiet, forced⟩ : dispatched.1.action ≠ .queueFeed ∧
        dispatched.1.action ≠ .queueForcedFeed := by
      rw [← eq]
      exact setter_action setter
    have stored : Active s (u.setConfiguration dispatched.2) envelope.requestId := active
    split_ifs with refused
    · rw [emitV2SetterError]
      split_ifs <;> exact stored.terminal sound free idle rfl
    · have acted : Active s (((u.setConfiguration dispatched.2).applyV1Action dispatched.1
          t).advanceConfigGeneration) envelope.requestId :=
        (applyV1Action_ledger (u.setConfiguration dispatched.2) t quiet forced).trans stored
      exact acted.terminal sound free idle rfl

def physicalCommand : V1Command → Bool
  | .sortTo | .homeSorter | .homeFeeder => true
  | _ => false

theorem physical_action {payload : Bytes} {context : V1DispatchContext} {c : Configuration}
    (physical : physicalCommand (classifyV1Command payload) = true) :
    (dispatchV1Command payload context c v1DispatchLimits).1.action ≠ .queueFeed ∧
      (dispatchV1Command payload context c v1DispatchLimits).1.action ≠ .queueForcedFeed := by
  have action := dispatchV1Command_action payload context c v1DispatchLimits
  rcases action with action | ⟨action, -⟩ | ⟨action, -⟩
  · rw [action]
    exact ⟨by decide, by decide⟩
  · rw [action]
    exact ⟨by decide, by decide⟩
  · rw [action]
    generalize classifyV1Command payload = kind at physical
    cases kind <;> first | exact ⟨by decide, by decide⟩ | cases physical

theorem acceptV2PhysicalRequest_replies {u : State} (sound : s.ledger.Sound)
    (v2 : s.link.session.mode = .v2) (idle : s.link.session.lifecycle.active = false)
    (active : Active s u envelope.requestId) {operation : PhysicalRequestOperation}
    (some : operation ≠ .none) {result : V1DispatchResult} (t : Ticks)
    (quiet : result.action ≠ .queueFeed) (forced : result.action ≠ .queueForcedFeed) :
    Replies s envelope (u.acceptV2PhysicalRequest envelope.requestId operation result t) := by
  have untracked : u.link.physicalRequestTracker.active = false := by
    have none : u.ledger.tracked = none := by
      rw [active]
      exact untracked_of_idle sound idle
    by_contra on
    simp [ledger, PhysicalRequestTracker.tracked, on] at none
  have begun : u.link.physicalRequestTracker.begin envelope.requestId operation result.value =
      (⟨true, envelope.requestId, operation, result.value, false, .idle⟩, true) := by
    simp [PhysicalRequestTracker.begin, untracked, some]
  dsimp only [acceptV2PhysicalRequest]
  change Replies s envelope (if (u.link.physicalRequestTracker.begin _ _ _).2 = true then
    ((u.respond _ _ _).setTracker (u.link.physicalRequestTracker.begin _ _ _).1).applyV1Action
      result t else _)
  rw [begun, if_pos rfl, Replies, applyV1Action_ledger _ t quiet forced, setTracker_ledger,
    respond_ledger, active]
  exact ⟨_, .accepted v2 idle⟩

theorem startV2PhysicalRequest_replies {u : State} (sound : s.ledger.Sound)
    (v2 : s.link.session.mode = .v2) (same : u.ledger = s.ledger)
    (free : s.link.session.lifecycle.owns envelope.requestId = false)
    (idle : s.link.session.lifecycle.active = false) {operation : PhysicalRequestOperation}
    (some : operation ≠ .none) {result : V1DispatchResult} (t : Ticks)
    (quiet : result.action ≠ .queueFeed) (forced : result.action ≠ .queueForcedFeed) :
    Replies s envelope (u.startV2PhysicalRequest envelope.requestId operation result t) := by
  have lifecycle : u.link.session.lifecycle = s.link.session.lifecycle :=
    congrArg Ledger.lifecycle same
  obtain ⟨begun, active⟩ :=
    beginV2Active_free (s := u) (lifecycle ▸ free) (lifecycle ▸ idle)
  unfold startV2PhysicalRequest
  generalize u.beginV2Active envelope.requestId = started at begun active
  obtain ⟨w, flag⟩ := started
  cases begun
  have active : Active s w envelope.requestId := by
    rw [Active, active, same, lifecycle]
  simp only [Bool.not_true, Bool.false_eq_true, if_false]
  split_ifs
  · exact active.terminal sound free idle rfl
  · exact active.terminal sound free idle rfl
  · exact acceptV2PhysicalRequest_replies sound v2 idle active some t quiet forced

theorem beginV2PhysicalRequest_replies (sound : s.ledger.Sound) (v2 : s.link.session.mode = .v2)
    (payload : Bytes) {operation : PhysicalRequestOperation} (some : operation ≠ .none)
    (command : V1Command) (physical : physicalCommand (classifyV1Command payload) = true)
    (t : Ticks) :
    Replies s envelope
      (s.beginV2PhysicalRequest envelope.requestId payload operation command t) := by
  unfold beginV2PhysicalRequest
  split
  case h_1 refusal refuses => exact refuseV2Request_replies refuses
  case h_2 refuses =>
    obtain ⟨free, idle⟩ := refuseV2Request_free refuses
    dsimp only
    generalize dispatched : dispatchV1Command payload _ s.configuration v1DispatchLimits = outcome
    obtain ⟨quiet, forced⟩ : outcome.1.action ≠ .queueFeed ∧
        outcome.1.action ≠ .queueForcedFeed := by
      rw [← dispatched]
      exact physical_action physical
    exact startV2PhysicalRequest_replies (u := s.setConfiguration outcome.2) sound v2 rfl free idle
      some t quiet forced

theorem handleV2Stop_replies :
    Replies s envelope (s.handleV2Stop envelope.requestId) := by
  unfold handleV2Stop
  split_ifs with owned
  · exact replies_duplicate owned
  · dsimp only
    generalize stopped : ite (s.link.session.lifecycle.active = true) _ _ = u
    have said : u.ledger =
        { s.ledger.stating (cancelLines s.link.session.lifecycle envelope.requestId) with
            lifecycle := .reset, tracked := none } := by
      rw [← stopped, cancelLines]
      split_ifs <;> rfl
    obtain ⟨lines, plain, eq⟩ := emitV2StateIfChanged_aside u
    have closes : (Emission.response ⟨envelope.requestId, .done, [("mode", "stopped")]⟩).closes
        envelope.requestId = true := closes_response rfl
    have reply : Exchange s.ledger (.v2Request envelope) _ _ :=
      .stopped (Bool.eq_false_iff.mpr owned) closes plain
    refine reply.reach ?_
    rw [respond_ledger, eq, said]
    simp [Ledger.stating, ledger]

theorem handleV2ProtocolOne_replies (sound : s.ledger.Sound) :
    Replies s envelope (s.handleV2ProtocolOne envelope.requestId) := by
  unfold handleV2ProtocolOne
  split_ifs with idless
  · have reply : Replies s envelope
        (s.respond envelope.requestId (.error 2001 "busy") [field "active_id" 0]) :=
      replies_line (fun explicit => absurd idless.1 explicit) rfl
    rw [idless.1] at reply
    exact reply
  · split
    case h_1 refusal refuses => exact refuseV2Request_replies refuses
    case h_2 refuses =>
      obtain ⟨free, idle⟩ := refuseV2Request_free refuses
      obtain ⟨begun, immediate⟩ := beginV2Immediate_free sound free
      generalize s.beginV2Immediate envelope.requestId = started at begun immediate
      obtain ⟨u, flag⟩ := started
      cases begun
      have immediate : Immediate s u envelope.requestId [] := immediate
      have released : (u.link.session.lifecycle.terminal envelope.requestId).2 = true := by
        rw [immediate.lifecycle, V2RequestLifecycle.terminal_readOnly
          ((ownsActive_eq sound envelope.requestId).trans free)]
      simp only [emitV2Terminal_owned immediate.owns, released, Bool.not_true,
        Bool.false_eq_true, if_false]
      have closes : (Emission.response ⟨envelope.requestId, .done, [("protocol", "1")]⟩).closes
          envelope.requestId = true := closes_response rfl
      have reply : Exchange s.ledger (.v2Request envelope) _ _ :=
        .closed idle (untracked_of_idle sound idle) closes
      refine reply.reach ?_
      have said := immediate.ledger
      simp only [ledger, Ledger.stating, Ledger.mk.injEq, List.nil_append] at said
      simp [ledger, Ledger.stating, setLifecycle, respond, emit, ProtocolSession.reset, said.2.2.1,
        said.2.2.2]

theorem handleV2Request_replies (sound : s.ledger.Sound) (v2 : s.link.session.mode = .v2)
    (payload : Bytes) (t : Ticks) :
    Replies s envelope (s.handleV2Request envelope.requestId payload t) := by
  unfold handleV2Request
  dsimp only
  split_ifs with stop one config begun setter all feeder sorter sortTo
  · exact handleV2Stop_replies
  · exact handleV2ProtocolOne_replies sound
  · have reply := @immediate_replies s envelope sound
      (fun u => u.emitV2Configuration envelope.requestId) ?_
    · rw [begun, if_pos rfl] at reply
      exact reply
    · intro u free immediate
      obtain ⟨data, listed⟩ := immediate.respondData (configurationFields u.configuration)
      exact listed.terminal sound free rfl
  · cases owned : s.link.session.lifecycle.owns envelope.requestId with
    | true => exact (beginV2Immediate_owned sound owned).2
    | false => exact absurd (beginV2Immediate_free sound owned).1 begun
  · exact handleV2Setter_replies sound payload t setter
  · exact beginV2PhysicalRequest_replies sound v2 _ (by decide) _ (by decide) t
  · exact beginV2PhysicalRequest_replies sound v2 _ (by decide) _ (by rw [feeder]; rfl) t
  · exact beginV2PhysicalRequest_replies sound v2 _ (by decide) _ (by rw [sorter]; rfl) t
  · exact beginV2PhysicalRequest_replies sound v2 _ (by decide) _ (by rw [sortTo]; rfl) t
  · exact handleV2Immediate_replies sound payload t

theorem writeV1Output_aside (s : State) (result : V1DispatchResult) :
    Aside s.ledger (s.writeV1Output result).ledger := by
  unfold writeV1Output
  split
  · exact .refl _
  all_goals exact ⟨_, plain_nil.cons rfl, rfl⟩

theorem performV1_aside (s : State) (status : V1FrameStatus) (command : Bytes)
    (result : V1DispatchResult) (t : Ticks) :
    Aside s.ledger (s.performV1 status command result t).ledger := by
  dsimp only [performV1]
  split_ifs
  · exact .refl _
  · exact ⟨[.v1 .busy], plain_nil.cons rfl, rfl⟩
  all_goals
    refine Aside.trans ?_ (writeV1Output_aside _ result)
    exact applyV1Action_aside _ result t

theorem handleV1Command_aside (s : State) (status : V1FrameStatus) (command : Bytes)
    (dispatchingPending : Bool) (t : Ticks) :
    Aside s.ledger (s.handleV1Command status command dispatchingPending t).ledger :=
  performV1_aside (s.setConfiguration _) status command _ t

theorem handleV1Frame_exchange (s : State) (status : V1FrameStatus) (command line : Bytes)
    (dispatchingPending : Bool) (t : Ticks) (v1 : s.link.session.mode = .v1) :
    ∃ lines, Exchange s.ledger (.v1Line line) lines
      (s.handleV1Frame status command dispatchingPending t).ledger := by
  have plain : ∀ {b : Ledger}, Aside s.ledger b → ∃ lines,
      Exchange s.ledger (.v1Line line) lines b :=
    fun aside => Exchange.of_aside aside fun _ same => by cases same
  dsimp only [handleV1Frame]
  split
  · exact plain ⟨_, plain_nil.cons rfl, rfl⟩
  · exact plain ⟨_, plain_nil.cons rfl, rfl⟩
  · exact ⟨[.protocolReady], .opened v1 (plain_nil.cons rfl)⟩
  · exact plain (handleV1Command_aside s status command dispatchingPending t)

theorem handleV1Frame_refused (s : State) {status : V1FrameStatus} (t : Ticks)
    (refused : status ≠ .ready) :
    Aside s.ledger (s.handleV1Frame status [] false t).ledger := by
  have notHandled : (if (!false && decide (status = .ready)) = true then
      dispatchV2Negotiation [] s.executionBusy s.link.pendingCommand.available
      else V2NegotiationAction.notHandled) = .notHandled := by
    simp [refused]
  dsimp only [handleV1Frame]
  rw [notHandled]
  exact handleV1Command_aside s status [] false t

theorem exchange_nothing {b : Ledger} (aside : Aside s.ledger b) :
    ∃ lines, Exchange s.ledger .nothing lines b :=
  Exchange.of_aside aside fun _ same => by cases same

theorem handleRawStop_exchange (s : State) :
    ∃ lines, Exchange s.ledger .rawStop lines s.handleRawStop.ledger := by
  unfold handleRawStop
  by_cases v2 : s.link.session.mode = .v2
  · simp only [v2, decide_true, if_true]
    generalize stopped : enterStoppedState _ = u
    have said : u.ledger = { s.ledger with lifecycle := .reset, tracked := none } := by
      rw [← stopped]
      rfl
    obtain ⟨lines, plain, eq⟩ := emitV2StateIfChanged_aside u
    rw [emit_ledger, eq, said]
    exact ⟨.v1 .stopped :: lines, .silenced (plain.cons rfl)⟩
  · simp only [v2, decide_false, Bool.false_eq_true, if_false]
    exact Exchange.of_aside ⟨[.v1 .stopped], plain_nil.cons rfl, rfl⟩ fun _ same => by
      cases same

theorem consumeV2_exchange (sound : s.ledger.Sound) (v2 : s.link.session.mode = .v2)
    (byte : UInt8) (t : Ticks) :
    ∃ lines, Exchange s.ledger (handledV2 (s.link.session.parser.consume byte)) lines
      (s.consumeV2 byte t).ledger := by
  unfold consumeV2
  generalize s.link.session.parser.consume byte = consumed
  obtain ⟨parser, result⟩ := consumed
  cases result with
  | noFrame => exact exchange_nothing (.refl _)
  | frameOverflow => exact exchange_nothing (emitV2Event_aside (s.setV2Parser parser) _ _)
  | frameInvalid => exact exchange_nothing (emitV2Event_aside (s.setV2Parser parser) _ _)
  | frameReady =>
    dsimp only [handledV2, handleV2Frame]
    cases parseV2RequestEnvelope parser.buffer with
    | badFrame => exact exchange_nothing (emitV2Event_aside (s.setV2Parser parser) _ _)
    | badId => exact exchange_nothing (emitV2Event_aside (s.setV2Parser parser) _ _)
    | ready envelope =>
      exact handleV2Request_replies (s := s.setV2Parser parser) sound v2 envelope.payload t

theorem consumeV1_exchange (s : State) (v1 : s.link.session.mode = .v1) (byte : UInt8) (t : Ticks) :
    ∃ lines, Exchange s.ledger (handledV1 (s.link.commandParser.consume byte)) lines
      (s.consumeV1 byte t).ledger := by
  unfold consumeV1
  generalize s.link.commandParser.consume byte = consumed
  obtain ⟨parser, result⟩ := consumed
  cases result with
  | noFrame => exact exchange_nothing (.refl _)
  | frameOverflow =>
    exact exchange_nothing (handleV1Frame_refused (s.setCommandParser parser) t (by decide))
  | frameInvalid =>
    exact exchange_nothing (handleV1Frame_refused (s.setCommandParser parser) t (by decide))
  | frameReady =>
    exact handleV1Frame_exchange (s.setCommandParser parser) .ready parser.buffer parser.buffer
      false t v1

theorem serialByte_exchange (sound : s.ledger.Sound) (byte : UInt8) (t : Ticks) :
    ∃ lines, Exchange s.ledger (handled s (.serialByte byte t)) lines
      (s.serialByte byte t).ledger := by
  simp only [handled, serialByte]
  generalize s.link.rawStopLineDetector.consume byte = detected
  obtain ⟨detector, stop⟩ := detected
  cases stop with
  | true => exact handleRawStop_exchange (s.setRawStopLineDetector detector)
  | false =>
    cases mode : s.link.session.mode with
    | v2 =>
      have reply := consumeV2_exchange (s := s.setRawStopLineDetector detector) sound mode byte t
      rw [if_neg Bool.false_ne_true, if_neg Bool.false_ne_true, if_pos rfl,
        if_pos (show (s.setRawStopLineDetector detector).link.session.mode = .v2 from mode)]
      exact reply
    | v1 =>
      have reply := consumeV1_exchange (s.setRawStopLineDetector detector) mode byte t
      rw [if_neg Bool.false_ne_true, if_neg Bool.false_ne_true, if_neg (by decide),
        if_neg (show ¬ (s.setRawStopLineDetector detector).link.session.mode = .v2 from
          fun v2 => by cases mode.symm.trans v2)]
      exact reply

theorem dispatchPending_exchange (s : State) (t : Ticks) :
    ∃ lines, Exchange s.ledger (handled s (.dispatchPending t)) lines
      (s.dispatchPending t).ledger := by
  simp only [handled, dispatchPending]
  split_ifs with ready
  · exact handleV1Frame_exchange s .ready _ _ true t ready.1
  · exact exchange_nothing (.refl _)

/-- The tracker ends the request it names, or keeps naming it. -/
structure Finished (t : PhysicalRequestTracker)
    (finished : PhysicalRequestTracker × PhysicalRequestTransition) : Prop where
  done : finished.2 = .done → t.active = true ∧ t.operationField ≠ .none ∧
    finished.1 = .reset
  kept : finished.2 ≠ .done → finished.1.tracked = t.tracked

theorem sortCompleted_finished (t : PhysicalRequestTracker) : Finished t t.sortCompleted := by
  unfold PhysicalRequestTracker.sortCompleted
  split_ifs with sorted
  · exact ⟨fun _ => ⟨sorted.1, by rw [sorted.2]; decide, rfl⟩,
      fun other => absurd rfl other⟩
  · exact ⟨fun done => (by cases done), fun _ => rfl⟩

theorem sorterHomed_finished (t : PhysicalRequestTracker) : Finished t t.sorterHomed := by
  unfold PhysicalRequestTracker.sorterHomed
  split_ifs with idle homed
  · exact ⟨fun done => (by cases done), fun _ => rfl⟩
  · refine ⟨fun _ => ⟨by simpa using idle, ?_, rfl⟩, fun other => absurd rfl other⟩
    obtain homed | ⟨homed, _⟩ := homed <;> rw [homed] <;> decide
  · exact ⟨fun done => (by cases done), fun _ => rfl⟩

theorem feedHomed_finished (t : PhysicalRequestTracker) : Finished t t.feedHomed := by
  unfold PhysicalRequestTracker.feedHomed
  split_ifs with idle homed all
  · exact ⟨fun done => (by cases done), fun _ => rfl⟩
  · exact ⟨fun _ => ⟨by simpa using idle, by rw [homed]; decide, rfl⟩,
      fun other => absurd rfl other⟩
  · exact ⟨fun done => (by cases done), fun _ => rfl⟩
  · exact ⟨fun done => (by cases done), fun _ => rfl⟩

theorem finishV2PhysicalRequest_exchange {requestId : Nat} {operation : PhysicalRequestOperation}
    (slot : Int) (active : s.link.session.lifecycle.ownsActive requestId = true)
    (some : operation ≠ .none) :
    ∃ lines, Exchange s.ledger .nothing lines
      ((s.setTracker .reset).finishV2PhysicalRequest requestId operation slot).ledger := by
  have owned : s.link.session.lifecycle.owns requestId = true := by
    rw [V2RequestLifecycle.owns, active, Bool.true_or]
  obtain ⟨older, plain, eq⟩ := emitV2StateIfChanged_aside (s.setTracker .reset)
  generalize reported : (s.setTracker .reset).emitV2StateIfChanged = u at eq
  have lifecycle : u.link.session.lifecycle = s.link.session.lifecycle :=
    congrArg Ledger.lifecycle eq
  have ended : ∀ kind fields, kind.terminal = true → ∃ lines, Exchange s.ledger .nothing lines
      ((u.respond requestId kind fields).setLifecycle
        (u.link.session.lifecycle.terminal requestId).1).ledger := by
    intro kind fields terminal
    rw [setLifecycle_ledger, respond_ledger, lifecycle,
      V2RequestLifecycle.terminal_active active, eq]
    have closes : (Emission.response ⟨requestId, kind, fields⟩).closes requestId = true :=
      closes_response terminal
    exact ⟨_, .ended active closes plain plain_nil⟩
  have terminal : ∀ fields, (u.emitV2Terminal requestId .done fields).1 =
      (u.respond requestId .done fields).setLifecycle
        (u.link.session.lifecycle.terminal requestId).1 := by
    intro fields
    rw [emitV2Terminal_owned (by rw [lifecycle]; exact owned)]
  have begun : (!(s.setTracker .reset).link.session.lifecycle.owns requestId) = false := by
    change (!s.link.session.lifecycle.owns requestId) = false
    rw [owned, Bool.not_true]
  unfold finishV2PhysicalRequest
  rw [begun, if_neg (by decide), reported]
  cases operation with
  | none => exact absurd rfl some
  | homeAll | homeFeeder | homeSorter =>
    dsimp only
    rw [terminal]
    exact ended _ _ rfl
  | sortTo => exact ended _ _ rfl

theorem reportMotion_exchange (sound : s.ledger.Sound) (slot : Int)
    {finished : PhysicalRequestTracker × PhysicalRequestTransition}
    (h : Finished s.link.physicalRequestTracker finished) :
    ∃ lines, Exchange s.ledger .nothing lines (s.reportMotion slot finished).ledger := by
  dsimp only [reportMotion]
  split_ifs with v1 done
  · exact exchange_nothing (.refl _)
  · obtain ⟨active, some, reset⟩ := h.done done
    have owned := (sound.tracked s.link.physicalRequestTracker.requestIdField
      (by simp [ledger, PhysicalRequestTracker.tracked, active])).2
    rw [reset, PhysicalRequestTracker.requestId, PhysicalRequestTracker.operation,
      active, if_pos rfl, if_pos rfl]
    exact finishV2PhysicalRequest_exchange slot owned some
  · refine exchange_nothing (.of_eq ?_)
    rw [setTracker_ledger, h.kept done]
    rfl

theorem updateRecoveryCompletion_ledger (s : State) (axis : MachineAxis) :
    (s.updateRecoveryCompletion axis).ledger = s.ledger := by
  dsimp only [updateRecoveryCompletion]
  split_ifs <;> rfl

theorem completeSorterRecoveryHoming_exchange (sound : s.ledger.Sound) (now : UInt32) :
    ∃ lines, Exchange s.ledger .nothing lines (s.completeSorterRecoveryHoming now).ledger := by
  have same : (s.sorterHomingEnds now).ledger = s.ledger :=
    updateRecoveryCompletion_ledger _ .sorter
  rw [← same] at sound ⊢
  exact reportMotion_exchange sound 0 (sorterHomed_finished _)

theorem feedHomingEnds_ledger (s : State) (now : UInt32) :
    (s.feedHomingEnds now).ledger = s.ledger := by
  have same := updateRecoveryCompletion_ledger (s.stopFeedHoming now) .feeder
  dsimp only [feedHomingEnds]
  split_ifs
  · exact same
  · exact same

theorem completeFeedHoming_exchange (sound : s.ledger.Sound) (now : UInt32) :
    ∃ lines, Exchange s.ledger .nothing lines (s.completeFeedHoming now).ledger := by
  have same := feedHomingEnds_ledger s now
  rw [← same] at sound ⊢
  have finished := feedHomed_finished (s.feedHomingEnds now).link.physicalRequestTracker
  dsimp only [completeFeedHoming]
  split_ifs with sorterNext
  · refine exchange_nothing (.of_eq ?_)
    have kept := finished.kept (by rw [sorterNext.2]; decide)
    have homing : ∀ u : State, u.homeSorter.ledger = u.ledger := fun _ => rfl
    rw [homing, setTracker_ledger, kept]
    rfl
  · exact reportMotion_exchange sound 0 finished

theorem feedHomingOffsetStep_exchange (sound : s.ledger.Sound) (now : UInt32) :
    ∃ lines, Exchange s.ledger .nothing lines (s.feedHomingOffsetStep now).ledger := by
  dsimp only [feedHomingOffsetStep]
  split_ifs
  · exact exchange_nothing (.refl _)
  · exact completeFeedHoming_exchange sound now
  · exact exchange_nothing (.refl _)
  · exact completeFeedHoming_exchange sound now

theorem homeFeedMotor_exchange (sound : s.ledger.Sound) (sensor : Bool) (now : UInt32) :
    ∃ lines, Exchange s.ledger .nothing lines (s.homeFeedMotor sensor now).ledger := by
  unfold homeFeedMotor
  split_ifs
  · exact completeFeedHoming_exchange sound now
  · exact feedHomingOffsetStep_exchange (s := { s with
      feeder.isFeedHoming := false
      feeder.isFeedHomingOffset := true
      feeder.feedHomingOffsetSteps := s.drive.feedHomingOffset }) sound now
  · exact exchange_nothing (.refl _)
  · exact feedHomingOffsetStep_exchange sound now

theorem searchStep_ledger (s : State) (cause : StepCause) (limit : Int) :
    (s.searchStep cause limit).ledger = s.ledger := by
  unfold searchStep
  split_ifs <;> rfl

theorem recoverySearch_ledger (s : State) (sensor : Bool) :
    (s.recoverySearch sensor).ledger = s.ledger := by
  unfold recoverySearch
  split_ifs
  · rfl
  · exact searchStep_ledger _ _ _
  · rfl

theorem homeSortMotor_exchange (sound : s.ledger.Sound) (sensor : Bool) (now : UInt32) :
    ∃ lines, Exchange s.ledger .nothing lines (s.homeSortMotor sensor now).ledger := by
  unfold homeSortMotor
  split_ifs
  · exact exchange_nothing (.refl _)
  · exact completeSorterRecoveryHoming_exchange sound now
  · exact exchange_nothing (.refl _)
  · exact exchange_nothing (.of_eq (searchStep_ledger _ _ _))
  · exact exchange_nothing (.refl _)
  · have same := recoverySearch_ledger s sensor
    rw [← same] at sound ⊢
    dsimp only [sortHomingOffsetStep]
    split_ifs
    · exact exchange_nothing (.refl _)
    · exact completeSorterRecoveryHoming_exchange sound now
    · exact exchange_nothing (.refl _)
    · exact completeSorterRecoveryHoming_exchange sound now

theorem reported_aside (s : State) : Aside s.ledger
    (s.emitV2Event (.fault 3001 "feed_overtravel")
      [("latched", "1")]).emitV2StateIfChanged.ledger :=
  (emitV2Event_aside s _ _).trans (emitV2StateIfChanged_aside _)

theorem reportFeedOvertravel_exchange (s : State) :
    ∃ lines, Exchange s.ledger .nothing lines s.reportFeedOvertravel.ledger := by
  dsimp only [reportFeedOvertravel]
  generalize latched : s.setFaultStateTracker _ = w
  have same : w.ledger = s.ledger := by
    rw [← latched]
    rfl
  rw [← same]
  split_ifs with v2 active
  · generalize cancelled : w.setTracker _ = u at active
    have said : u.ledger = { w.ledger with tracked := none } := by
      rw [← cancelled]
      rfl
    have lifecycle : u.link.session.lifecycle = w.link.session.lifecycle :=
      congrArg Ledger.lifecycle said
    rw [lifecycle] at active ⊢
    have owned := V2RequestLifecycle.activeRequestId_owned active
    have held : u.link.session.lifecycle.owns w.link.session.lifecycle.activeRequestId = true := by
      rw [lifecycle, V2RequestLifecycle.owns, owned, Bool.true_or]
    have terminal : u.emitV2Terminal w.link.session.lifecycle.activeRequestId
        (.error 3001 "feed_overtravel") [] = _ := emitV2Terminal_owned held
    rw [terminal, lifecycle, V2RequestLifecycle.terminal_active owned]
    obtain ⟨newer, plain, eq⟩ := reported_aside ((u.respond
      w.link.session.lifecycle.activeRequestId (.error 3001 "feed_overtravel") []).setLifecycle
        w.link.session.lifecycle.release)
    have closes : (Emission.response ⟨w.link.session.lifecycle.activeRequestId,
        .error 3001 "feed_overtravel", []⟩).closes w.link.session.lifecycle.activeRequestId =
          true := closes_response rfl
    have reply : Exchange w.ledger .nothing _ _ := .ended owned closes plain_nil plain
    refine reply.reach ?_
    rw [eq, setLifecycle_ledger, respond_ledger, said]
    simp [Ledger.stating, ledger]
  · obtain ⟨lines, plain, eq⟩ :=
      reported_aside (w.setTracker w.link.physicalRequestTracker.cancel)
    rw [eq]
    exact ⟨lines, .untracked plain (Bool.eq_false_iff.mpr active)⟩
  · exact exchange_nothing ⟨_, plain_nil.cons rfl, rfl⟩

theorem checkFeedErrors_exchange (s : State) :
    ∃ lines, Exchange s.ledger .nothing lines s.checkFeedErrors.ledger := by
  have same : s.feedOvertravel.ledger = s.ledger := by
    dsimp only [feedOvertravel]
    split_ifs <;> rfl
  unfold checkFeedErrors
  split_ifs
  · rw [← same]
    exact reportFeedOvertravel_exchange s.feedOvertravel
  · exact exchange_nothing (.refl _)

theorem serviceV2PhysicalRequest_exchange (s : State) :
    ∃ lines, Exchange s.ledger .nothing lines s.serviceV2PhysicalRequest.ledger := by
  unfold serviceV2PhysicalRequest
  split_ifs with idle
  · exact exchange_nothing (.refl _)
  · simp only [not_or, Bool.not_eq_true', Bool.not_eq_false] at idle
    have tracked : s.ledger.tracked = some s.link.physicalRequestTracker.requestIdField := by
      simp [ledger, PhysicalRequestTracker.tracked, idle.2]
    have named : ∀ phase, PhysicalRequestTracker.requestId
        { s.link.physicalRequestTracker with phase } =
          s.link.physicalRequestTracker.requestIdField :=
      fun _ => by simp [PhysicalRequestTracker.requestId, idle.2]
    unfold PhysicalRequestTracker.observePhase
    split_ifs with same
    · exact exchange_nothing (.refl _)
    · dsimp only
      rw [if_neg (by decide), named]
      have reply : Exchange s.ledger .nothing
          [.response ⟨_, .progress, [("phase", s.currentPhase.name)]⟩] _ := .progress tracked
      exact reply.reach rfl

theorem feedCompletionTurns_aside (turns : Nat) (s : State) (now : UInt32) :
    Aside s.ledger (feedCompletionTurns turns s now).ledger := by
  induction turns generalizing s with
  | zero => exact .refl _
  | succ turns ih =>
    unfold feedCompletionTurns
    generalize s.feedCompletion.update now = updated
    obtain ⟨completion, event⟩ := updated
    cases event with
    | none => exact .refl _
    | signalHigh => exact ih _
    | signalLow => exact ih _
    | notify => exact ⟨_, plain_nil.cons rfl, rfl⟩

theorem onFeedComplete_aside (s : State) (now : UInt32) :
    Aside s.ledger (s.onFeedComplete now).ledger := by
  dsimp only [onFeedComplete]
  split_ifs
  · exact .refl _
  · exact .refl _
  · exact feedCompletionTurns_aside 3 { s with
      feedCompletion := (s.feedCompletion.start now (feedCompletionConfig s.configuration)).1
      clocks.timeSinceLastMotorMove := now } now
  · exact feedCompletionTurns_aside 3 { s with
      feedCompletion := (s.feedCompletion.start now (feedCompletionConfig s.configuration)).1 } now
  · exact feedCompletionTurns_aside 3 s now

theorem runTestCycle_aside (s : State) (raw : Nat) (t : Ticks) :
    Aside s.ledger (s.runTestCycle raw t).ledger := by
  dsimp only [runTestCycle]
  split_ifs
  · exact (queueFeed_aside s _ t).trans ⟨_, plain_nil.cons rfl, rfl⟩
  · exact .refl _
  · exact .refl _

theorem runSortTestCycle_aside (s : State) (raw : Nat) (now : UInt32) :
    Aside s.ledger (s.runSortTestCycle raw now).ledger := by
  dsimp only [runSortTestCycle]
  split_ifs
  · exact .refl _
  · exact .refl _
  · exact ⟨_, plain_nil.cons rfl, rfl⟩
  · exact ⟨_, plain_nil.cons rfl, rfl⟩
  · exact .refl _

theorem runAux_aside (s : State) (raw sortRaw : Nat) (t : Ticks) (now : UInt32) :
    Aside s.ledger (s.runAux raw sortRaw t now).ledger := by
  unfold runAux
  split_ifs
  · exact .refl _
  · exact (runTestCycle_aside s raw t).trans (runSortTestCycle_aside _ sortRaw now)

theorem onSortComplete_exchange (sound : s.ledger.Sound) (now : UInt32) :
    ∃ lines, Exchange s.ledger .nothing lines (s.onSortComplete now).ledger := by
  dsimp only [onSortComplete]
  split_ifs
  · exact reportMotion_exchange (s := s.sortEnds now) sound _ (sortCompleted_finished _)
  · exact exchange_nothing (.refl _)

end State

theorem exec_exchange {s : State} (sound : s.ledger.Sound) (routine : Routine) :
    ∃ lines, Exchange s.ledger (handled s routine) lines (exec s routine).ledger := by
  cases routine with
  | serialByte byte t => exact State.serialByte_exchange sound byte t
  | dispatchPending t => exact State.dispatchPending_exchange s t
  | getProxState sensor now => exact State.exchange_nothing (.refl _)
  | updateSlotDropGate now =>
    refine State.exchange_nothing (.of_eq ?_)
    dsimp only [exec, State.updateSlotDropGate]
    split_ifs <;> rfl
  | runSortMotor =>
    refine State.exchange_nothing (.of_eq ?_)
    dsimp only [exec, State.runSortMotor, State.slotZeroPass]
    split_ifs <;> rfl
  | onSortComplete now => exact State.onSortComplete_exchange sound now
  | scheduleRun t => exact State.exchange_nothing (s.scheduleRun_aside t)
  | checkFeedErrors => exact s.checkFeedErrors_exchange
  | runFeedMotor =>
    refine State.exchange_nothing (.of_eq ?_)
    dsimp only [exec, State.runFeedMotor]
    split_ifs <;> rfl
  | homeFeedMotor sensor now => exact State.homeFeedMotor_exchange sound sensor now
  | homeSortMotor sensor now => exact State.homeSortMotor_exchange sound sensor now
  | serviceSorterJog =>
    refine State.exchange_nothing (.of_eq ?_)
    dsimp only [exec, State.serviceSorterJog, State.sorterJogEnds]
    split_ifs <;> rfl
  | onFeedComplete now => exact State.exchange_nothing (s.onFeedComplete_aside now)
  | runAux raw sortRaw t now => exact State.exchange_nothing (s.runAux_aside raw sortRaw t now)
  | motorStandByCheck now =>
    refine State.exchange_nothing (.of_eq ?_)
    dsimp only [exec, State.motorStandByCheck]
    split_ifs <;> rfl
  | serviceV2PhysicalRequest => exact s.serviceV2PhysicalRequest_exchange
  | emitV2StateIfChanged => exact State.exchange_nothing s.emitV2StateIfChanged_aside

theorem sound_boot (now : UInt32) : (boot now).ledger.Sound :=
  ⟨rfl, rfl, fun _ => rfl, fun _ none => (by cases none), fun _ => rfl⟩

theorem sound_execAll {s : State} (sound : s.ledger.Sound) (routines : List Routine) :
    (execAll s routines).ledger.Sound := by
  induction routines generalizing s with
  | nil => exact sound
  | cons routine routines ih =>
    obtain ⟨lines, x⟩ := exec_exchange sound routine
    exact ih (sound_exchange x sound)

end CaseSorter.Firmware
