import CaseSorter.Daemon.WorkerOutcomes
import CaseSorter.Firmware.AxisCalls
import CaseSorter.Link.Inspections
import CaseSorter.Lib.Runs

/-! The readiness that the worker publishes, beside the positions that its controller knows.
A bench is a worker with its controller; the controller is what the sketch makes of its axes,
by the calls of a command, a stop, a fault or a restart. -/

namespace CaseSorter.Link

open CaseSorter.Daemon CaseSorter.Firmware CaseSorter.Runs

def homes : HomeAxis → MachineAxis → Bool
  | .feeder, .sorter | .sorter, .feeder => false
  | _, _ => true

def commandCalls : WorkerIntent → AxisCall → Bool
  | .home axis, .beginRecovery a | .home axis, .completeRecovery a => homes axis a
  | .home _, .acknowledgeQueueReset => true
  | _, _ => false

theorem isMovement_of_calls {intent : WorkerIntent} {c : AxisCall}
    (calls : commandCalls intent c = true) : intent.isMovement = true := by
  cases intent with
  | home axis => rfl
  | _ => cases c <;> cases calls

def Matches (p : SessionProfile) (m : MachineState) : Prop :=
  p.readiness.feedHomed = m.feeder.positionKnown ∧ p.readiness.sortHomed = m.sorter.positionKnown

instance (p : SessionProfile) (m : MachineState) : Decidable (Matches p m) :=
  inferInstanceAs (Decidable (_ ∧ _))

theorem matches_hostStatus (firmware : FirmwareProfile) (s : Firmware.State) :
    Matches
      ⟨firmware, ⟨(hostStatus s).feedHomed, (hostStatus s).sortHomed, (hostStatus s).faultCode,
      String.ofList (hostStatus s).mode, String.ofList (hostStatus s).phase⟩⟩ s.machineState :=
  ⟨rfl, rfl⟩

def vouches (wrote : WorkItem → Bool) : Bool → Pc → Bool
  | _, .perform (.publish state _) next =>
    decide (state = .ready) || vouches wrote false next
  | _, .perform .publishStopped next => vouches wrote false next
  | ready, .perform _ next | ready, .closeTransport _ next => vouches wrote ready next
  | ready, .polling _ item _ _ | ready, .reading _ item _ _ | ready, .finished _ item _ =>
    ready && !item.intent.isMovement
  | ready, .faulted _ item fault =>
    ready && !fault.breaksSession && !(item.intent.isMovement && wrote item)
  | _, .refresh _ | _, .sendStop _ _ | _, .awaitStop _ _ => false
  | ready, _ => ready

def Vouched (w : Worker) : Prop := vouches w.wrote (decide (w.session.state = .ready)) w.pc = true

instance (w : Worker) : Decidable (Vouched w) := inferInstanceAs (Decidable (_ = _))

def atRest : Pc → Bool
  | .loop _ | .take _ _ | .gate _ _ | .started _ | .closeTransport _ .finish | .finish => true
  | _ => false

def refreshes : Pc → Bool
  | .refresh _ => true
  | _ => false

def permits (w : Worker) (c : AxisCall) : Bool :=
  match w.pc with
  | .polling _ item _ _ | .reading _ item _ _ | .sendStop (.interrupt item) _
  | .awaitStop (.interrupt item) _ => commandCalls item.intent c
  | .faulted _ item fault =>
    fault.breaksSession || (w.wrote item && commandCalls item.intent c)
  | .finished _ _ _ | .refresh _ | .sendStop _ _ | .awaitStop _ _ => false
  | _ => !decide (Vouched w)

def endsExchange : WorkerEvent → Bool
  | .thread (.profile _) | .thread (.answer _) | .thread .stopped | .thread .verified
  | .thread (.fault _) => true
  | .thread (.response r) => r.terminal
  | _ => false

/-- `faulted` says that the controller has raised a fault since the last exchange. -/
structure Bench where
  worker : Worker
  machine : MachineState
  faulted : Bool

inductive BenchEvent
  | worker (e : WorkerEvent)
  | call (c : AxisCall)
  | fault (axis : MachineAxis)
  | restart
  deriving DecidableEq

namespace Bench

def Answers (b : Bench) : WorkerEvent → Prop
  | .thread (.profile p) => Matches p b.machine
  | _ => True

instance (b : Bench) : DecidablePred b.Answers
  | .thread (.profile p) => inferInstanceAs (Decidable (Matches p b.machine))
  | .start | .startTimeout | .submit _ _ | .stop | .close | .cancel _ | .failPreempted _
  | .thread .go | .thread .opened | .thread .verified | .thread (.closed _)
  | .thread (.gated _) | .thread (.written _) | .thread .nothing | .thread (.response _)
  | .thread (.answer _) | .thread .stopWritten | .thread .stopped | .thread (.refused _)
  | .thread (.fault _) => .isTrue trivial

def answered (m : MachineState) : WorkerEvent → MachineState
  | .thread .stopped => m.call .enterStopped
  | _ => m

def step (b : Bench) : BenchEvent → Option Bench
  | .worker e =>
    if b.Answers e then (b.worker.step e).map fun w =>
      { worker := w, machine := answered b.machine e, faulted := b.faulted && !endsExchange e }
    else none
  | .call c => if permits b.worker c then some { b with machine := b.machine.call c } else none
  | .fault axis =>
    some { b with machine := b.machine.call (.invalidateAxis axis), faulted := true }
  | .restart => if Vouched b.worker then none else some { b with machine := .initial }

def new (capacity attempts : Nat) (pos : 0 < capacity) (m : MachineState) : Bench where
  worker := Worker.new capacity attempts pos
  machine := m
  faulted := false

def Fresh (b : Bench) : Prop := ∃ p, b.worker.profile = some p ∧ Matches p b.machine

/-- The session is published ready, no request or stop is in progress, and no fault has been
raised since the last exchange. -/
def AtRest (b : Bench) : Prop :=
  b.worker.session.state = .ready ∧ b.worker.stopRequested = false ∧
    atRest b.worker.pc = true ∧ b.faulted = false

instance (b : Bench) : Decidable b.AtRest := inferInstanceAs (Decidable (_ ∧ _ ∧ _ ∧ _))

def Unhomed (b : Bench) : Prop :=
  ∃ p, b.worker.profile = some p ∧ p.readiness.feedHomed = false ∧
    p.readiness.sortHomed = false

instance (b : Bench) : Decidable b.Unhomed :=
  decidable_of_iff (b.worker.profile.any fun p => !p.readiness.feedHomed && !p.readiness.sortHomed)
    (by cases h : b.worker.profile <;> simp [Unhomed, h])

def failsOpenly (w : Worker) : Pc → Bool
  | .faulted _ item fault =>
    if fault.breaksSession then !w.stopRequested
    else !(item.intent.isMovement && w.wrote item)
  | _ => true

/-- The steps after which the readiness is still to be trusted. -/
def Careful (b : Bench) : BenchEvent → Prop
  | .worker (.thread .stopped) => b.Unhomed
  | .worker (.thread (.answer _)) => b.faulted = false
  | .worker (.thread (.fault fault)) => fault.breaksSession = true ∨
    (b.faulted = false ∧ refreshes b.worker.pc = false)
  | .worker (.thread .go) => failsOpenly b.worker b.worker.pc = true
  | _ => True

instance (b : Bench) : DecidablePred b.Careful
  | .worker (.thread .stopped) => inferInstanceAs (Decidable b.Unhomed)
  | .worker (.thread (.answer _)) => inferInstanceAs (Decidable (_ = _))
  | .worker (.thread (.fault _)) => inferInstanceAs (Decidable (_ ∨ _))
  | .worker (.thread .go) => inferInstanceAs (Decidable (_ = _))
  | .worker .start | .worker .startTimeout | .worker (.submit _ _) | .worker .stop
  | .worker .close | .worker (.cancel _) | .worker (.failPreempted _) | .worker (.thread .opened)
  | .worker (.thread .verified) | .worker (.thread (.profile _)) | .worker (.thread (.closed _))
  | .worker (.thread (.gated _)) | .worker (.thread (.written _)) | .worker (.thread .nothing)
  | .worker (.thread (.response _)) | .worker (.thread .stopWritten)
  | .worker (.thread (.refused _)) | .call _ | .fault _ | .restart => .isTrue trivial

end Bench

namespace Bench

def Abides (w : Worker) (s : Firmware.State) (routine : Routine) : Prop :=
  (∀ c, routine.calls c = true → permits w c = true ∨ ∃ axis, c = .invalidateAxis axis) ∨
    s.executionBusy = false ∧ (∀ byte t, routine ≠ .serialByte byte t) ∧
      ∀ t, routine ≠ .dispatchPending t

theorem follows_calls (b : Bench) {calls : List AxisCall}
    (may : ∀ c ∈ calls, permits b.worker c = true ∨ ∃ axis, c = .invalidateAxis axis) :
    ∃ es c, run step b es = some c ∧ c.worker = b.worker ∧
      c.machine = calls.foldl MachineState.call b.machine := by
  induction calls generalizing b with
  | nil => exact ⟨[], b, rfl, rfl, rfl⟩
  | cons call calls ih =>
    obtain ⟨e, after, stepped, worker, machine⟩ : ∃ e after, step b e = some after ∧
        after.worker = b.worker ∧ after.machine = b.machine.call call := by
      rcases may call List.mem_cons_self with permitted | ⟨axis, rfl⟩
      · exact ⟨.call call, _, if_pos permitted, rfl, rfl⟩
      · exact ⟨.fault axis, _, rfl, rfl, rfl⟩
    obtain ⟨es, c, ran, same, calls⟩ := ih after fun other member => by
      rw [worker]
      exact may other (List.mem_cons_of_mem _ member)
    refine ⟨e :: es, c, run_cons_eq_some.mpr ⟨after, stepped, ran⟩, same.trans worker, ?_⟩
    rw [calls, machine, List.foldl_cons]

theorem follows_exec {b : Bench} {s : Firmware.State} (own : b.machine = s.machineState)
    {routine : Routine} (abides : Abides b.worker s routine) :
    ∃ es c, run step b es = some c ∧ c.worker = b.worker ∧
      c.machine = (exec s routine).machineState := by
  rcases abides with may | ⟨idle, unheard, pending⟩
  · obtain ⟨calls, allowed, result⟩ := exec_called s routine
    rw [result, ← own]
    exact b.follows_calls fun c member => may c (allowed c member)
  · exact ⟨[], b, rfl, rfl, own.trans (exec_unasked idle unheard pending).symm⟩

theorem follows_execAll {b : Bench} {s : Firmware.State} (own : b.machine = s.machineState)
    {routines : List Routine}
    (abides : Meets (fun s routine => some (exec s routine)) (Abides b.worker) s routines) :
    ∃ es c, run step b es = some c ∧ c.worker = b.worker ∧
      c.machine = (execAll s routines).machineState := by
  induction routines generalizing b s with
  | nil => exact ⟨[], b, rfl, rfl, own⟩
  | cons routine routines ih =>
    obtain ⟨es, u, ran, worker, machine⟩ := follows_exec own abides.1
    obtain ⟨fs, c, rest, same, final⟩ := ih machine (worker ▸ abides.2 _ rfl)
    exact ⟨es ++ fs, c, run_append_eq_some.mpr ⟨u, ran, rest⟩, same.trans worker, final⟩

theorem answered_stopped {b : Bench} {s : Firmware.State} (own : b.machine = s.machineState) :
    answered b.machine (.thread .stopped) = s.handleRawStop.machineState := by
  rw [own, handleRawStop_machineState]
  rfl

end Bench

theorem isRecovery_breaksSession {fault : Fault} (recovery : fault.isRecovery = true) :
    fault.breaksSession = true := by
  cases fault <;> first | rfl | cases recovery

theorem vouches_of_rest {wrote : WorkItem → Bool} {ready : Bool} {pc : Pc}
    (rest : atRest pc = true) : vouches wrote ready pc = ready := by
  unfold atRest at rest
  split at rest <;> first | rfl | cases rest

theorem permits_unvouched {w : Worker} {c : AxisCall} (permitted : permits w c = true) :
    ¬ Vouched w := by
  unfold permits at permitted
  split at permitted
  · rename_i at_pc
    simp [Vouched, at_pc, vouches, isMovement_of_calls permitted]
  · rename_i at_pc
    simp [Vouched, at_pc, vouches, isMovement_of_calls permitted]
  · rename_i at_pc
    simp [Vouched, at_pc, vouches]
  · rename_i at_pc
    simp [Vouched, at_pc, vouches]
  · rename_i item fault at_pc
    simp only [Bool.or_eq_true, Bool.and_eq_true] at permitted
    rcases permitted with breaks | ⟨wrote, calls⟩
    · simp [Vouched, at_pc, vouches, breaks]
    · simp [Vouched, at_pc, vouches, wrote, isMovement_of_calls calls]
  · cases permitted
  · cases permitted
  · cases permitted
  · cases permitted
  · simpa using permitted

attribute [grind =] vouches

section Vouching

variable (wrote : WorkItem → Bool) (ready : Bool)

theorem vouches_failSession (fault : Fault) (reason : String) {next : Pc}
    (silent : vouches wrote false next = false) :
    vouches wrote ready (Pc.failSession fault reason next) = false := by
  simpa [Pc.failSession, vouches] using silent

theorem vouches_sessionFailed (action : SessionAction) (item : WorkItem) (fault : Fault) :
    vouches wrote ready (Pc.sessionFailed action item fault) = false := by
  simp [Pc.sessionFailed, Pc.failSession, vouches]

theorem vouches_attempt (left : Nat) (fault : Fault) :
    vouches wrote false (Pc.attempt left fault) = false := by
  cases left with
  | zero => exact vouches_failSession wrote false fault _ rfl
  | succ left => rfl

theorem vouches_connectFailed (fault : Fault) (p : Purpose) :
    vouches wrote ready (Pc.connectFailed fault p) = false := by
  cases p with
  | startup => rfl
  | reconnect left first => simp [Pc.connectFailed, vouches, vouches_attempt]
  | session action item => exact vouches_sessionFailed wrote ready action item fault

theorem vouches_reconnect (attempts : Nat) (t : TransportId) (fault : Fault) :
    vouches wrote ready (Pc.reconnect attempts t fault) = false := by
  simp [Pc.reconnect, vouches, vouches_attempt]

theorem vouches_afterFault (t : TransportId) (fault : Fault) :
    vouches wrote ready (Pc.afterFault t fault) = (ready && !fault.breaksSession) := by
  unfold Pc.afterFault
  split_ifs with breaks
  · simp [Pc.recover, vouches, breaks]
  · simp [vouches, breaks]

theorem vouches_stopFailed (t : TransportId) {fault : Fault} (recovery : fault.isRecovery = true)
    (cause : StopCause) : vouches wrote ready (Pc.stopFailed t fault cause) = false := by
  cases cause with
  | interrupt item => simp [Pc.stopFailed, vouches, isRecovery_breaksSession recovery]
  | _ => simp [Pc.stopFailed, Pc.failSession, vouches]

theorem vouches_await (t : TransportId) (item : WorkItem) (id : Nat) (responses : List Response) :
    vouches wrote ready (Pc.await t item id responses) = (ready && !item.intent.isMovement) := by
  unfold Pc.await
  split_ifs <;> rfl

theorem vouches_received (t : TransportId) (item : WorkItem) (id : Nat)
    (responses : List Response) (r : Response) :
    vouches wrote ready (Worker.received t item id responses r) =
      (ready && !item.intent.isMovement) := by
  unfold Worker.received
  by_cases terminal : r.terminal = true
  · rw [if_pos terminal]
    rfl
  · rw [if_neg terminal]
    exact vouches_await wrote ready t item id _

theorem vouches_afterResult (t : TransportId) (item : WorkItem) :
    vouches wrote ready (Pc.afterResult t item) = (ready && !item.intent.isMovement) := by
  unfold Pc.afterResult
  split_ifs with movement <;> simp [vouches, movement]

theorem vouches_unverified {t : TransportId} {p : Purpose}
    (vouched : vouches wrote ready (Pc.unverified t p) = true) : ready = true := by
  cases p with
  | session action item =>
    rw [Pc.unverified, vouches_sessionFailed] at vouched
    cases vouched
  | _ => exact vouched

theorem vouches_begin {t : TransportId} {item : WorkItem} {w : Worker}
    (vouched : vouches wrote ready (w.begin t item) = true) : ready = true := by
  unfold Worker.begin at vouched
  split at vouched
  · split_ifs at vouched
    · cases vouched
    · exact vouched
  all_goals exact vouched

theorem vouches_failed {t : TransportId} {item : WorkItem} {fault : Fault}
    (sent : wrote item = true) (vouched : vouches wrote ready (.faulted t item fault) = true) :
    ready = true ∧ fault.breaksSession = false ∧ item.intent.isMovement = false := by
  simpa [vouches, sent, and_assoc] using vouched

end Vouching

theorem observe_iff {w : Worker} {pc pc' : Pc} {i : Input} {c : Cmd} (p : SessionProfile)
    (m : Worker.Moves w pc i c pc') : c = .observe p ↔ i = .profile p := by
  cases m <;> simp

theorem vouched_before {b : Bench} {i : Input} {c : Cmd} {pc' : Pc}
    (m : Worker.Moves b.worker b.worker.pc i c pc') (careful : b.Careful (.worker (.thread i)))
    (unobserved : ∀ p, i ≠ .profile p) (unstopped : i ≠ .stopped)
    (vouched : Vouched { b.worker.apply c with pc := pc' }) :
    Vouched b.worker ∧ (endsExchange (.thread i) = true → b.faulted = false) := by
  have wrote (item : WorkItem) : (b.worker.apply c).wrote item =
      (c.writes item || b.worker.wrote item) := Worker.wrote_apply b.worker c item
  have same (quiet : ∀ item, c.writes item = false) :
      (b.worker.apply c).wrote = b.worker.wrote := by
    funext item
    rw [wrote, quiet, Bool.false_or]
  change vouches (b.worker.apply c).wrote (decide ((b.worker.apply c).session.state = .ready)) pc' =
    true at vouched
  have kept (quiet : (Entry.thread c).publishes = false) :
      vouches (b.worker.apply c).wrote (decide (b.worker.session.state = .ready)) pc' = true :=
    Worker.session_kept quiet ▸ vouched
  unfold Vouched
  generalize at_pc : b.worker.pc = pc at m ⊢
  generalize decide (b.worker.session.state = .ready) = ready at kept ⊢
  cases m
  case perform o =>
    refine ⟨?_, by rintro ⟨⟩⟩
    rw [same fun _ => rfl] at kept vouched
    cases o with
    | publish state reason =>
      change vouches _ (decide ((b.worker.session.transition state reason).state = .ready)) _ =
        true at vouched
      rw [Worker.transition_state] at vouched
      by_cases becomes : state = .ready
      · simp [vouches, becomes]
      · simpa [vouches, becomes] using vouched
    | publishStopped =>
      have unready : decide ((b.worker.apply (.op .publishStopped)).session.state = .ready) =
          false := by
        rw [Worker.session_apply]
        by_cases uncertain : b.worker.session.state = .uncertain <;> simp [uncertain]
      rw [unready] at vouched
      exact vouched
    | _ => exact kept rfl
  case closed =>
    rw [same fun _ => rfl] at kept
    exact ⟨kept rfl, by rintro ⟨⟩⟩
  all_goals replace vouched := kept rfl
  case activated => exact absurd rfl (unobserved _)
  case reactivated => exact absurd rfl (unobserved _)
  case refreshed => exact absurd rfl (unobserved _)
  case stopAcknowledged => exact absurd rfl unstopped
  case openedClosing => exact ⟨vouches_unverified _ _ vouched, by rintro ⟨⟩⟩
  case dispatched => exact ⟨vouches_begin _ _ vouched, by rintro ⟨⟩⟩
  case status => exact ⟨vouched, fun _ => careful⟩
  case readAnswer => exact ⟨vouched, fun _ => careful⟩
  case sent =>
    rw [vouches_await] at vouched
    exact ⟨(Bool.and_eq_true_iff.mp vouched).1, by rintro ⟨⟩⟩
  case readNothing =>
    rw [vouches_await] at vouched
    exact ⟨vouched, by rintro ⟨⟩⟩
  case readResponse movement =>
    rw [vouches_received] at vouched
    refine ⟨vouched, fun terminal => ?_⟩
    simp [movement terminal] at vouched
  case finished =>
    change vouches _ ready (Pc.afterResult _ _) = true at vouched
    rw [vouches_afterResult] at vouched
    exact ⟨vouched, by rintro ⟨⟩⟩
  case faulted t item fault stop =>
    change vouches _ ready (Pc.afterFault t fault) = true at vouched
    rw [vouches_afterFault, Bool.and_eq_true] at vouched
    have open' : Bench.failsOpenly b.worker b.worker.pc = true := careful
    simp only [Bool.not_eq_true'] at vouched
    simp only [at_pc, Bench.failsOpenly, vouched.2, Bool.false_eq_true, if_false] at open'
    exact ⟨by simp [vouches, vouched, open'], by rintro ⟨⟩⟩
  case faultedStop t item fault stop =>
    have open' : Bench.failsOpenly b.worker b.worker.pc = true := careful
    have stands : ready = true := vouched
    simp only [at_pc, Bench.failsOpenly, stop, Bool.not_true, Bool.if_false_left,
      Bool.and_eq_true] at open'
    exact ⟨by simpa [vouches, stands] using open', by rintro ⟨⟩⟩
  case sendRefused =>
    rw [same fun _ => rfl] at vouched
    simp only [vouches, Bool.and_eq_true] at vouched
    exact ⟨vouched.1.1, by rintro ⟨⟩⟩
  case sendFailed t item fault =>
    obtain ⟨stands, unbroken, still⟩ := vouches_failed _ _ (by simp [wrote, Cmd.writes]) vouched
    exact ⟨stands, fun _ => (careful.resolve_left (by simp [unbroken])).1⟩
  case pollFailed t item id responses fault =>
    obtain ⟨stands, unbroken, still⟩ := vouches_failed _ _ (by simp [wrote, Cmd.writes]) vouched
    refine ⟨?_, fun _ => (careful.resolve_left (by simp [unbroken])).1⟩
    simp [vouches, stands, still]
  case readFailed t item id responses fault =>
    obtain ⟨stands, unbroken, still⟩ := vouches_failed _ _ (by simp [wrote, Cmd.writes]) vouched
    refine ⟨?_, fun _ => (careful.resolve_left (by simp [unbroken])).1⟩
    simp [vouches, stands, still]
  case refreshFailed t fault =>
    rw [vouches_afterFault, Bool.and_eq_true] at vouched
    have other := (careful.resolve_left (by simpa using vouched.2)).2
    rw [at_pc] at other
    cases other
  -- the others leave it standing as it was, or leave nothing standing
  all_goals first
    | exact ⟨vouched, by rintro ⟨⟩⟩
    | simp [vouches, Pc.connect, vouches_connectFailed, vouches_reconnect, vouches_stopFailed,
        vouches_sessionFailed, *] at vouched

theorem wrote_sameThread {w v : Worker} (same : Worker.SameThread w v) : v.wrote = w.wrote := by
  funext item
  have written (u : Worker) : u.wrote item = true ↔ ∃ c, u.Did c ∧ c.writes item = true := by
    rw [Worker.wrote, List.any_eq_true]
    constructor
    · rintro ⟨entry, member, writes⟩
      cases entry with
      | thread c => exact ⟨c, member, writes⟩
      | _ => cases writes
    · rintro ⟨c, did, writes⟩
      exact ⟨.thread c, did, writes⟩
  rw [Bool.eq_iff_iff, written, written]
  exact exists_congr fun c => and_congr_left fun _ => same.did c

namespace Bench

def Trusty (b : Bench) : Prop := Vouched b.worker → b.faulted = false → b.Fresh

theorem trusty_thread {b : Bench} {i : Input} {w : Worker} (inv : b.Trusty)
    (careful : b.Careful (.worker (.thread i))) (answers : b.Answers (.thread i))
    (moved : b.worker.threadStep i = some w) :
    Trusty ⟨w, answered b.machine (.thread i), b.faulted && !endsExchange (.thread i)⟩ := by
  intro vouched sound
  cases todo : b.worker.todo with
  | cons owed rest =>
    -- the futures of a stop or of a queue are resolved; nothing else changes
    obtain ⟨f, s⟩ := owed
    simp only [Worker.threadStep, todo] at moved
    split_ifs at moved with go
    cases moved
    subst go
    have wrote : (Worker.settlePending f s { b.worker with todo := rest }).wrote =
        b.worker.wrote := funext fun item => Worker.wrote_settlePending f s _ item
    unfold Vouched at vouched
    rw [wrote] at vouched
    exact inv vouched (by simpa [endsExchange] using sound)
  | nil =>
    obtain ⟨_, _, _, owing, -⟩ | ⟨-, c, pc', m, rfl⟩ := Worker.threadStep_cases moved
    · rw [todo] at owing
      cases owing
    have profile := Worker.profile_apply c b.worker
    by_cases observed : ∃ p, i = .profile p
    · obtain ⟨p, rfl⟩ := observed
      obtain rfl := (observe_iff p m).mpr rfl
      exact ⟨p, profile, answers⟩
    · have unobserved : ∀ p, i ≠ .profile p := fun p is => observed ⟨p, is⟩
      have kept : (b.worker.apply c).profile = b.worker.profile := by
        rw [profile]
        split
        · exact absurd ((observe_iff _ m).mp rfl) (unobserved _)
        · rfl
      by_cases stopped : i = .stopped
      · subst stopped
        obtain ⟨p, known, feed, sort⟩ := careful
        exact ⟨p, kept.trans known, feed, sort⟩
      · obtain ⟨before, quiet⟩ := vouched_before m careful unobserved stopped vouched
        have machine : answered b.machine (.thread i) = b.machine := by
          cases i <;> first | rfl | exact absurd rfl stopped
        have unfaulted : b.faulted = false := by
          cases ends : endsExchange (.thread i) with
          | true => exact quiet ends
          | false => simpa [ends] using sound
        obtain ⟨p, known, same⟩ := inv before unfaulted
        refine ⟨p, kept.trans known, ?_⟩
        change Matches p (answered b.machine (.thread i))
        rwa [machine]

theorem trusty_step {b c : Bench} {e : BenchEvent} (inv : b.Trusty) (careful : b.Careful e)
    (h : b.step e = some c) : c.Trusty := by
  cases e with
  | worker e =>
    simp only [step] at h
    split_ifs at h with answers
    obtain ⟨w, moved, rfl⟩ := Option.map_eq_some_iff.mp h
    by_cases turn : ∃ i, e = .thread i
    · obtain ⟨i, rfl⟩ := turn
      exact trusty_thread inv careful answers moved
    · have aside : answered b.machine e = b.machine ∧ endsExchange e = false := by
        cases e <;> first | exact ⟨rfl, rfl⟩ | exact absurd ⟨_, rfl⟩ turn
      rcases Worker.step_cases moved with ⟨rfl, -, rfl⟩ | ⟨i, rfl, -⟩ | same
      · intro vouched
        cases vouched
      · exact absurd ⟨i, rfl⟩ turn
      · intro vouched sound
        simp only [Vouched, same.pc, same.session, wrote_sameThread same] at vouched
        simp only [aside.2, Bool.not_false, Bool.and_true] at sound
        obtain ⟨p, known, matching⟩ := inv vouched sound
        refine ⟨p, same.profile.trans known, ?_⟩
        change Matches p (answered b.machine e)
        rwa [aside.1]
  | call call =>
    simp only [step] at h
    split_ifs at h with permitted
    cases h
    exact fun vouched => absurd vouched (permits_unvouched permitted)
  | fault axis =>
    cases h
    exact fun _ sound => by cases sound
  | restart =>
    simp only [step] at h
    split_ifs at h with unvouched
    cases h
    exact fun vouched => absurd vouched unvouched

theorem trusty_new (capacity attempts : Nat) (pos : 0 < capacity) (m : MachineState) :
    (new capacity attempts pos m).Trusty := fun vouched => by cases vouched

theorem fresh_stopped {b c : Bench} (h : b.step (.worker (.thread .stopped)) = some c) :
    c.Fresh ↔ b.Unhomed := by
  simp only [step] at h
  split_ifs at h with answers
  obtain ⟨w, moved, rfl⟩ := Option.map_eq_some_iff.mp h
  have kept : w.profile = b.worker.profile := by
    rcases Worker.threadStep_cases moved with ⟨f, s, rest, -, rfl⟩ | ⟨-, c, pc', m, rfl⟩
    · rfl
    · refine (Worker.profile_apply c b.worker).trans ?_
      split
      · cases (observe_iff _ m).mp rfl
      · rfl
  exact exists_congr fun p => and_congr_left fun _ => by rw [kept]

/-- In every run whose steps are careful the published readiness of a bench at rest is what
its controller knows, and no sort is supported while the sorter's position is unknown. -/
theorem readiness_fresh (capacity attempts : Nat) (pos : 0 < capacity) (m : MachineState)
    (es : List BenchEvent) (b : Bench)
    (careful : Meets step Careful (new capacity attempts pos m) es)
    (reached : run step (new capacity attempts pos m) es = some b) (rest : b.AtRest) :
    b.Fresh ∧ ∀ slot view, view.readiness = b.worker.profile.map SessionProfile.readiness →
      b.machine.sorter.positionKnown = false → requireSupported (.sort slot) view ≠ .ok () := by
  have inv := run_invariant (fun _ _ _ inv ok next => trusty_step inv ok next)
    (trusty_new capacity attempts pos m) careful reached
  obtain ⟨ready, -, still, sound⟩ := rest
  have vouched : Vouched b.worker := by
    rw [Vouched, vouches_of_rest still, ready]
    rfl
  obtain ⟨p, known, matching⟩ := inv vouched sound
  refine ⟨⟨p, known, matching⟩, fun slot view seen lost supported => ?_⟩
  rw [known, Option.map_some] at seen
  unfold requireSupported at supported
  split at supported
  · rename_i firmware readiness _ own
    cases own.symm.trans seen
    dsimp only at supported
    rw [matching.2, lost] at supported
    split_ifs at supported
    contradiction
  · cases supported

def homedProfile : SessionProfile :=
  ⟨⟨2, 7, 8, 2, true, true, true⟩, ⟨true, true, 0, "running", "idle"⟩⟩

def unhomedProfile : SessionProfile :=
  ⟨⟨2, 7, 8, 2, true, true, true⟩, ⟨false, false, 0, "running", "idle"⟩⟩

def bench : Bench := new 16 1 sixteen_pos .initial

def stoppedUnhomed : List BenchEvent :=
  [.worker .start, .worker (.thread .go), .worker (.thread .opened), .worker (.thread .go),
    .worker (.thread .verified), .worker (.thread .go),
    .worker (.thread (.profile unhomedProfile)), .worker (.thread .go), .worker (.thread .go),
    .worker .stop, .worker (.thread .go), .worker (.thread .stopWritten),
    .worker (.thread .stopped), .worker (.thread .go), .worker (.thread .go)]

def homedBoth : List BenchEvent :=
  [.worker (.submit (.home .both) none), .worker (.thread .go), .worker (.thread .go),
    .worker (.thread (.gated none)), .worker (.thread (.written 1)),
    .call (.beginRecovery .feeder), .worker (.thread .go),
    .worker (.thread (.response ⟨1, .accepted, [], none⟩)),
    .call (.completeRecovery .feeder), .call (.beginRecovery .sorter),
    .call (.completeRecovery .sorter), .call .acknowledgeQueueReset, .worker (.thread .go),
    .worker (.thread (.response ⟨1, .done, [("State", "idle")], none⟩)), .worker (.thread .go),
    .worker (.thread .go), .worker (.thread (.profile homedProfile))]

theorem readiness_fresh_homed :
    (∀ slot view, view.readiness = some unhomedProfile.readiness →
      requireSupported (.sort slot) view ≠ .ok ()) ∧
    (runD step bench (stoppedUnhomed ++ homedBoth)).Fresh := by
  have stopped : run step bench stoppedUnhomed = some (runD step bench stoppedUnhomed) :=
    run_eq_runD (by decide +kernel)
  have ran : run step bench (stoppedUnhomed ++ homedBoth) =
      some (runD step bench (stoppedUnhomed ++ homedBoth)) := run_eq_runD (by decide +kernel)
  have known : (runD step bench stoppedUnhomed).worker.profile = some unhomedProfile := by
    decide +kernel
  constructor
  · intro slot view seen
    refine (readiness_fresh 16 1 (by decide) .initial stoppedUnhomed _ (by decide +kernel) stopped
      (by decide +kernel)).2 slot view ?_ (by decide +kernel)
    rw [known, seen]
    rfl
  · exact (readiness_fresh 16 1 (by decide) .initial (stoppedUnhomed ++ homedBoth) _
      (by decide +kernel) ran (by decide +kernel)).1

def activatedHomed : List BenchEvent :=
  [.worker .start, .worker (.thread .go), .worker (.thread .opened), .worker (.thread .go),
    .call (.completeRecovery .feeder), .call (.completeRecovery .sorter),
    .call .acknowledgeQueueReset, .worker (.thread .verified), .worker (.thread .go),
    .worker (.thread (.profile homedProfile)), .worker (.thread .go), .worker (.thread .go)]

def stoppedIdle : List BenchEvent :=
  [.worker .stop, .worker (.thread .go), .worker (.thread .stopWritten),
    .worker (.thread .stopped), .worker (.thread .go), .worker (.thread .go)]

def homedView : MachineSnapshot :=
  MachineSnapshot.initial.observeProfile homedProfile.firmware homedProfile.readiness

/-- After an acknowledged stop the session is ready, nothing is in progress, and a sort is
supported on the strength of a position the controller has forgotten. -/
theorem readiness_stale :
    (run step bench (activatedHomed ++ stoppedIdle)).isSome = true ∧
      (runD step bench (activatedHomed ++ stoppedIdle)).AtRest ∧
      (runD step bench (activatedHomed ++ stoppedIdle)).worker.profile = some homedProfile ∧
      homedView.readiness = some homedProfile.readiness ∧
      (runD step bench (activatedHomed ++ stoppedIdle)).machine.sorter.positionKnown = false ∧
      ¬ (runD step bench (activatedHomed ++ stoppedIdle)).Fresh ∧
      requireSupported (.sort 3) homedView = .ok () := by
  have known : (runD step bench (activatedHomed ++ stoppedIdle)).worker.profile =
      some homedProfile := by decide +kernel
  have lost : (runD step bench (activatedHomed ++ stoppedIdle)).machine.sorter.positionKnown =
      false := by decide +kernel
  refine ⟨by decide +kernel, by decide +kernel, known, by decide +kernel, lost, ?_,
    by decide +kernel⟩
  rintro ⟨p, own, -, sort⟩
  cases known.symm.trans own
  rw [lost] at sort
  cases sort

end Bench
end CaseSorter.Link
