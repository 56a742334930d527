import CaseSorter.Lib.Runs
import CaseSorter.Firmware.Components

/-! When the proximity settler answers ready. The settler keeps two 32-bit times; the record of
what it has been told keeps the true ones. Absences and settling intervals are read off the
record, and the settler is shown to agree with it as long as no absence can run around the
clock between two observations. -/

namespace CaseSorter.Firmware

open CaseSorter.Runs

/-- The low 32 bits of a true time. -/
def low (now : Nat) : UInt32 := UInt32.ofNat now

theorem low_sub {now started : Nat} (later : started ≤ now) :
    (low now - low started).toNat = (now - started) % 4294967296 := by
  simp only [low, UInt32.toNat_sub, UInt32.toNat_ofNat']
  omega

/-- A call of the settler, at its true time. -/
inductive SettlerCall
  | observe (now : Nat) (active : Bool) (timeout : UInt32)
  | ready (now : Nat) (duration : UInt32) (bypass : Bool)
  | reset
  deriving DecidableEq, Repr

/-- What has been observed and asked, and the answers given. -/
inductive SettlerEntry
  | observed (now : Nat) (active : Bool) (timeout : UInt32)
  | asked (now : Nat) (duration : UInt32) (bypass answer : Bool)
  | reset
  deriving DecidableEq, Repr

/-- The settler and its record, newest first. -/
structure Settling where
  settler : ProximitySettler
  record : List SettlerEntry
  deriving DecidableEq, Repr

namespace Settling

def initial : Settling := ⟨.initial, []⟩

def call (s : Settling) : SettlerCall → Settling
  | .observe now active timeout =>
    ⟨s.settler.observe (low now) active timeout, .observed now active timeout :: s.record⟩
  | .ready now duration bypass =>
    let (settler, answer) := s.settler.ready (low now) duration bypass
    ⟨settler, .asked now duration bypass answer :: s.record⟩
  | .reset => ⟨s.settler.reset, .reset :: s.record⟩

def step (s : Settling) (c : SettlerCall) : Option Settling := some (s.call c)

end Settling

/-- What the last observation has seen. -/
def lastSeen : List SettlerEntry → Option Bool
  | .observed _ active _ :: _ => some active
  | .asked _ _ _ _ :: older => lastSeen older
  | _ => none

def absence : List SettlerEntry → Option (Nat × Nat × UInt32)
  | .observed now active timeout :: older =>
    if active then none else some (((absence older).map Prod.fst).getD now, now, timeout)
  | .asked _ _ _ _ :: older => absence older
  | _ => none

/-- Since the last settling that was completed, or the last reset, brass had been seen absent for
longer than the timeout of an observation. -/
def overdue : List SettlerEntry → Bool
  | .observed now active timeout :: older =>
    overdue older || !active && ((absence older).any fun first => timeout.toNat < now - first.1)
  | .asked _ _ bypass answer :: older => overdue older && !(answer && !bypass)
  | _ => false

/-- Some call of `ready`, made at least the duration given to it before `now`, has seen nothing
but brass since. -/
def settled (now : Nat) : List SettlerEntry → Bool
  | .observed _ active _ :: older => active && settled now older
  | .asked asked duration bypass _ :: older =>
    (!bypass && asked + duration.toNat ≤ now) || settled now older
  | _ => false

def latest : List SettlerEntry → Nat
  | .observed now _ _ :: _ => now
  | .asked now _ _ _ :: _ => now
  | .reset :: older => latest older
  | [] => 0

/-- The clock does not go back, and an absence that is still within the timeout of the last
observation is not longer than the clock by the next. -/
def Settling.Timely (s : Settling) : SettlerCall → Prop
  | .observe now _ _ => latest s.record ≤ now ∧
      ∀ a ∈ absence s.record, a.2.1 - a.1 ≤ a.2.2.toNat →
        a.2.2.toNat + (now - a.2.1) < 4294967296
  | .ready now _ _ => latest s.record ≤ now
  | .reset => True

theorem absence_seen {record : List SettlerEntry} (seen : lastSeen record = some true) :
    absence record = none := by
  induction record with
  | nil => rfl
  | cons entry older ih =>
    cases entry with
    | observed now active timeout =>
      have brass : active = true := Option.some.inj seen
      simp [absence, brass]
    | asked now duration bypass answer => exact ih seen
    | reset => rfl

/-- What the settler keeps is what the record says. -/
structure Agrees (s : Settling) : Prop where
  sensor : s.settler.sensorActive = (lastSeen s.record).getD false
  required : s.settler.settleRequired = overdue s.record
  absent : s.settler.absenceActive = (!overdue s.record && (absence s.record).isSome)
  started : overdue s.record = false → ∀ a ∈ absence s.record,
    s.settler.absenceStartedAt = low a.1 ∧ a.1 ≤ a.2.1 ∧ a.2.1 ≤ latest s.record ∧
      a.2.1 - a.1 ≤ a.2.2.toNat
  settling : s.settler.settleTimer.active = true → ∃ asked ≤ latest s.record,
    s.settler.settleTimer.started = low asked ∧
      ∀ now, asked + s.settler.settleTimer.duration.toNat ≤ now → settled now s.record = true

theorem agrees_initial : Agrees .initial :=
  ⟨rfl, rfl, rfl, fun _ _ none => (by cases none), fun active => (by cases active)⟩

namespace Agrees

variable {s : Settling}

theorem seen (h : Agrees s) (now : Nat) (timeout : UInt32) (clock : latest s.record ≤ now) :
    Agrees (s.call (.observe now true timeout)) := by
  have call : s.call (.observe now true timeout) =
      ⟨{ s.settler with sensorActive := true, absenceActive := false },
        .observed now true timeout :: s.record⟩ := rfl
  rw [call]
  refine ⟨rfl, by simpa [overdue] using h.required, by simp [absence], fun _ a none => ?_,
    fun active => ?_⟩
  · simp [absence] at none
  · obtain ⟨asked, before, started, rest⟩ := h.settling active
    exact ⟨asked, Nat.le_trans before clock, started, fun later past => rest later past⟩

theorem elapsed (h : Agrees s) (within : overdue s.record = false) {now : Nat} {timeout : UInt32}
    {active : Bool} (timely : s.Timely (.observe now active timeout)) {a : Nat × Nat × UInt32}
    (member : a ∈ absence s.record) :
    a.1 ≤ now ∧
      (timeout < low now - s.settler.absenceStartedAt ↔ timeout.toNat < now - a.1) := by
  obtain ⟨started, ordered, before, short⟩ := h.started within a member
  obtain ⟨clock, fits⟩ := timely
  have room := fits a member short
  have later : a.1 ≤ now := by omega
  refine ⟨later, ?_⟩
  rw [started, UInt32.lt_iff_toNat_lt, low_sub later, Nat.mod_eq_of_lt (by omega)]

theorem missed (h : Agrees s) {now : Nat} {timeout : UInt32}
    (timely : s.Timely (.observe now false timeout)) :
    Agrees (s.call (.observe now false timeout)) := by
  have required := h.required
  have absent := h.absent
  cases due : overdue s.record with
  | true =>
    rw [due] at required absent
    have call : s.call (.observe now false timeout) =
        ⟨{ s.settler with sensorActive := false, settleTimer := s.settler.settleTimer.cancel },
          .observed now false timeout :: s.record⟩ := by
      simp [Settling.call, ProximitySettler.observe, required]
    rw [call]
    refine ⟨rfl, ?_, ?_, fun none => ?_, fun active => (by cases active)⟩
    · simp [overdue, due, required]
    · simpa [overdue, due] using absent
    · simp [overdue, due] at none
  | false =>
    rw [due] at required absent
    rw [Bool.not_false, Bool.true_and] at absent
    cases running : absence s.record with
    | none =>
      rw [running] at absent
      have call : s.call (.observe now false timeout) =
          ⟨{ s.settler with
              sensorActive := false
              absenceActive := true
              absenceStartedAt := low now
              settleTimer := s.settler.settleTimer.cancel },
            .observed now false timeout :: s.record⟩ := by
        have absent' : s.settler.absenceActive = false := absent
        simp [Settling.call, ProximitySettler.observe, required, absent']
      rw [call]
      refine ⟨rfl, ?_, ?_, fun _ a member => ?_, fun active => (by cases active)⟩
      · simp [overdue, due, required, running]
      · simp [overdue, due, absence, running]
      · simp only [absence, running, Bool.false_eq_true, if_false, Option.map_none,
          Option.getD_none, Option.mem_some] at member
        subst member
        exact ⟨rfl, Nat.le_refl _, Nat.le_refl _, by simp⟩
    | some a =>
      obtain ⟨ordered, code⟩ := h.elapsed due timely running
      rw [running] at absent
      have absent' : s.settler.absenceActive = true := absent
      by_cases late : timeout.toNat < now - a.1
      · have call : s.call (.observe now false timeout) =
            ⟨{ s.settler with
                sensorActive := false
                absenceActive := false
                settleRequired := true
                settleTimer := s.settler.settleTimer.cancel },
              .observed now false timeout :: s.record⟩ := by
          simp [Settling.call, ProximitySettler.observe, required, absent', code.mpr late]
        rw [call]
        refine ⟨rfl, ?_, ?_, fun within => ?_, fun active => (by cases active)⟩
        · simp [overdue, running, late]
        · simp [overdue, running, late]
        · simp [overdue, running, late] at within
      · have call : s.call (.observe now false timeout) =
            ⟨{ s.settler with
                sensorActive := false
                settleTimer := s.settler.settleTimer.cancel },
              .observed now false timeout :: s.record⟩ := by
          simp [Settling.call, ProximitySettler.observe, required, absent', mt code.mp late]
        rw [call]
        obtain ⟨started, -⟩ := h.started due a running
        refine ⟨rfl, ?_, ?_, fun _ b member => ?_, fun active => (by cases active)⟩
        · simp [overdue, due, required, running, late]
        · simp [overdue, due, absence, running, late, absent']
        · simp only [absence, running, Bool.false_eq_true, if_false, Option.map_some,
            Option.getD_some, Option.mem_some] at member
          subst member
          exact ⟨started, ordered, Nat.le_refl _, Nat.le_of_not_lt late⟩

theorem reset (s : Settling) : Agrees (s.call .reset) :=
  ⟨rfl, rfl, rfl, fun _ _ none => (by cases none), fun active => (by cases active)⟩

theorem asked (h : Agrees s) {now : Nat} {duration : UInt32} {bypass answer : Bool}
    (clock : latest s.record ≤ now) (open_ : answer = false ∨ bypass = true ∨
      overdue s.record = false) :
    Agrees ⟨s.settler, .asked now duration bypass answer :: s.record⟩ := by
  have same : overdue (.asked now duration bypass answer :: s.record) = overdue s.record := by
    rcases open_ with rfl | rfl | due
    · simp [overdue]
    · simp [overdue]
    · simp [overdue, due]
  refine ⟨h.sensor, h.required.trans same.symm, ?_, fun within a member => ?_, fun active => ?_⟩
  · show s.settler.absenceActive = _
    rw [same]
    exact h.absent
  · obtain ⟨started, ordered, before, short⟩ := h.started (same ▸ within) a member
    exact ⟨started, ordered, Nat.le_trans before clock, short⟩
  · obtain ⟨asked, before, started, rest⟩ := h.settling active
    refine ⟨asked, Nat.le_trans before clock, started, fun later past => ?_⟩
    simp [settled, rest later past]

theorem interval (h : Agrees s) {now : Nat} {duration : UInt32} (clock : latest s.record ≤ now) :
    ∃ asked ≤ now, ∃ timer : RuntimeTimer, timer.active = true ∧
      timer.started = low asked ∧
      (if !s.settler.settleTimer.active then
        { s.settler with settleTimer := s.settler.settleTimer.start (low now) duration }
      else s.settler) = { s.settler with settleTimer := timer } ∧
      ∀ later answer, asked + timer.duration.toNat ≤ later →
        settled later (.asked now duration false answer :: s.record) = true := by
  cases active : s.settler.settleTimer.active with
  | true =>
    obtain ⟨asked, before, started, rest⟩ := h.settling active
    refine ⟨asked, Nat.le_trans before clock, s.settler.settleTimer, active, started, by simp,
      fun later answer past => ?_⟩
    simp [settled, rest later past]
  | false =>
    refine ⟨now, Nat.le_refl _, ⟨low now, duration, true⟩, rfl, rfl,
      by simp [RuntimeTimer.start], fun later answer past => ?_⟩
    have reached : now + duration.toNat ≤ later := past
    simp [settled, reached]

theorem ready (h : Agrees s) {now : Nat} (duration : UInt32) (bypass : Bool)
    (clock : latest s.record ≤ now) :
    Agrees (s.call (.ready now duration bypass)) ∧
      ((s.settler.ready (low now) duration bypass).2 = true → bypass = false →
        lastSeen s.record = some true ∧ (overdue s.record = true →
          settled now (.asked now duration false true :: s.record) = true)) := by
  cases bypass with
  | true => exact ⟨h.asked clock (.inr (.inl rfl)), fun _ forced => (by cases forced)⟩
  | false =>
    by_cases brass : s.settler.sensorActive = true
    · have seen : lastSeen s.record = some true := by
        have sensor := h.sensor
        rw [brass] at sensor
        cases last : lastSeen s.record with
        | none =>
          rw [last] at sensor
          cases sensor
        | some active =>
          rw [last] at sensor
          rw [← sensor.trans (Option.getD_some ..)]
      cases due : overdue s.record with
      | false =>
        have free : s.settler.settleRequired = false := h.required.trans due
        have answer : s.settler.ready (low now) duration false = (s.settler, true) := by
          simp [ProximitySettler.ready, brass, free]
        refine ⟨?_, fun _ _ => ⟨seen, fun required => (by cases required)⟩⟩
        simp only [Settling.call, answer]
        exact h.asked clock (.inr (.inr due))
      | true =>
        have required : s.settler.settleRequired = true := h.required.trans due
        obtain ⟨asked, before, timer, active, started, same, rest⟩ :=
          @interval s h now duration clock
        have answer : s.settler.ready (low now) duration false =
            if timer.hasElapsed (low now) then
              ({ s.settler with settleTimer := timer.cancel, settleRequired := false }, true)
            else ({ s.settler with settleTimer := timer }, false) := by
          unfold ProximitySettler.ready
          rw [if_neg (by decide), if_neg (by simp [brass]), if_neg (by simp [required]), same]
          dsimp only
          cases timer.hasElapsed (low now) <;> rfl
        by_cases elapsed : timer.hasElapsed (low now) = true
        · rw [if_pos elapsed] at answer
          have past : asked + timer.duration.toNat ≤ now := by
            simp only [RuntimeTimer.hasElapsed, Firmware.hasElapsed, active, Bool.true_and,
              decide_eq_true_eq, UInt32.le_iff_toNat_le, started, low_sub before] at elapsed
            omega
          refine ⟨?_, fun _ _ => ⟨seen, fun _ => rest now true past⟩⟩
          simp only [Settling.call, answer]
          have absent := absence_seen seen
          refine ⟨h.sensor, by simp [overdue], ?_, fun _ a member => ?_,
            fun running => (by cases running)⟩
          · have idle := h.absent
            rw [due] at idle
            simpa [absence, absent] using idle
          · rw [absence, absent] at member
            cases member
        · rw [if_neg elapsed] at answer
          refine ⟨?_, fun yes => ?_⟩
          · simp only [Settling.call, answer]
            have still : overdue (.asked now duration false false :: s.record) =
              overdue s.record := by
              simp [overdue]
            refine ⟨h.sensor, h.required.trans still.symm, ?_, fun within => ?_, fun _ => ?_⟩
            · rw [still]
              exact h.absent
            · rw [still, due] at within
              cases within
            · exact ⟨asked, before, started, fun later past => rest later false past⟩
          · rw [answer] at yes
            cases yes
    · have none : s.settler.sensorActive = false := by simpa using brass
      have answer : s.settler.ready (low now) duration false = (s.settler, false) := by
        simp [ProximitySettler.ready, none]
      refine ⟨?_, fun yes => ?_⟩
      · simp only [Settling.call, answer]
        exact h.asked clock (.inl rfl)
      · rw [answer] at yes
        cases yes

theorem call (h : Agrees s) {c : SettlerCall} (timely : s.Timely c) : Agrees (s.call c) := by
  cases c with
  | observe now active timeout =>
    cases active with
    | true => exact h.seen now timeout timely.1
    | false => exact h.missed timely
  | ready now duration bypass => exact (h.ready duration bypass timely).1
  | reset => exact Agrees.reset s

end Agrees

/-- In every sequence of calls whose clock does not go back and whose absences fit it, `ready`
without bypass is true only if the last observation has seen brass and, when brass had been
seen absent for longer than its timeout since the last settling or reset, some call of `ready`
at least its own duration ago has seen nothing but brass since. -/
theorem ready_settled (cs : List SettlerCall) (s : Settling)
    (timely : Meets Settling.step Settling.Timely .initial cs)
    (reached : run Settling.step .initial cs = some s) (now : Nat) (duration : UInt32)
    (clock : latest s.record ≤ now)
    (ready : (s.settler.ready (low now) duration false).2 = true) :
    lastSeen s.record = some true ∧ (overdue s.record = true →
      settled now (.asked now duration false true :: s.record) = true) := by
  have agrees : Agrees s := run_invariant
    (fun _ _ _ agrees timely next => Option.some.inj next ▸ agrees.call timely) agrees_initial
    timely reached
  exact (agrees.ready duration false clock).2 ready rfl

instance : ∀ (s : Settling) (c : SettlerCall), Decidable (s.Timely c)
  | s, .observe _ _ _ => inferInstanceAs (Decidable (_ ∧ ∀ a ∈ absence s.record, _))
  | _, .ready _ _ _ => inferInstanceAs (Decidable (_ ≤ _))
  | _, .reset => .isTrue trivial

def returning : List SettlerCall :=
  [.observe 0 false 300, .observe 1000 false 300, .observe 1100 true 300, .ready 1100 500 false]

theorem ready_settled_returning :
    settled 1600 (.asked 1600 500 false true :: (runD Settling.step .initial returning).record) =
      true := by
  have settles := ready_settled returning (runD Settling.step .initial returning) (by decide)
    (run_eq_runD (by decide)) 1600 500 (by decide) (by decide)
  exact settles.2 (by decide)

def SettlerCall.time : SettlerCall → Option Nat
  | .observe now _ _ | .ready now _ _ => some now
  | .reset => none

def goneRound : List SettlerCall :=
  [.observe 0 false 300, .ready 2147483647 500 false, .ready 4294967294 500 false,
    .observe 4294967300 false 300, .observe 4294967301 true 300]

theorem ready_unsettled :
    let s := runD Settling.step .initial goneRound
    (goneRound.filterMap SettlerCall.time ++ [4294967302]).IsChain
        (fun a b => a ≤ b ∧ b - a < 2147483648) ∧
      (s.settler.ready (low 4294967302) 500 false).2 = true ∧ overdue s.record = true ∧
      settled 4294967302 (.asked 4294967302 500 false true :: s.record) = false := by
  decide

end CaseSorter.Firmware
