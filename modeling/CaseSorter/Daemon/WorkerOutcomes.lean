import CaseSorter.Daemon.StopAnswers
import CaseSorter.Daemon.StopPrecedence

/-! What the outcome of an item rests on: a command's result on the terminal of its own
request, a session's on the snapshots gathered for it, a preemption of an item that was
dispatched on the acknowledgement of a stop. -/

namespace CaseSorter.Daemon

def Completion.Correlated (c : Completion) : Prop :=
  ∃ r, c.terminalResponse = some r ∧ r.requestId = c.requestId ∧
    (c.succeeded = true ↔ r.kind = .done)

def Failure.Unproven : Failure → Prop
  | .other _ _ | .workerUncertain _ => True
  | _ => False

theorem Fault.failure_unproven (fault : Fault) : fault.failure.Unproven := by
  cases fault <;> trivial

def Entry.publishes : Entry → Bool
  | .thread (.op (.publish _ _)) | .thread (.op .publishStopped) => true
  | _ => false

def Entry.observes : Entry → Bool
  | .thread (.observe _) => true
  | _ => false

def sessionVerified : List Entry → Bool
  | [] => false
  | .thread (.op (.publish .ready _)) :: older => older.any Entry.observes
  | x :: older => !x.publishes && sessionVerified older

theorem sessionVerified_cons {x : Entry} {older : List Entry} (quiet : x.publishes = false)
    (verified : sessionVerified older = true) : sessionVerified (x :: older) = true := by
  unfold sessionVerified
  split
  · rename_i same
    cases same
  · rename_i same
    cases same
    cases quiet
  · rename_i same
    cases same
    simp [quiet, verified]

namespace Worker

def Observed (w : Worker) : Prop := w.log.any Entry.observes = true

def StatusRead (w : Worker) (item : WorkItem) : Prop :=
  ∃ newer older, w.log = newer ++ .thread (.transmitted (some item) none) :: older ∧
    sessionVerified older = true

def StoppedAfter (w : Worker) (item : WorkItem) : Prop :=
  ∃ newer older, w.log = newer ++ .thread .stopAcknowledged :: older ∧
    .thread (.dispatched item) ∈ older

def Grounded (w : Worker) (item : WorkItem) : Settlement → Prop
  | .ok r =>
    (item.intent.isMovement = true → ∃ c, r = some (.completion c) ∧ c.Correlated ∧
      w.Did (.transmitted (some item) (some c.requestId))) ∧
      (item.intent.isSession = true →
        (∃ mode phase, r = some (.status mode phase)) ∧ w.StatusRead item)
  | .error e => w.Did (.dispatched item) →
    e.Unproven ∨ ((∃ m, e = .preemptedByStop m) ∧ w.StoppedAfter item)

end Worker

def StopCause.item : StopCause → Option WorkItem
  | .idle => none
  | .interrupt item | .late item => some item

/-- The outcomes the code at this point is going to give are of admitted items and grounded;
`ready` says whether the session is. -/
def Pc.Grounds (w : Worker) : Bool → Pc → Prop
  | ready, .perform (.settle item s) next =>
    w.Admitted item ∧ w.Grounded item s ∧ next.Grounds w ready
  | _, .perform (.publish state _) next =>
    (state = .ready → w.Observed) ∧ next.Grounds w (state = .ready)
  | _, .perform .publishStopped next => next.Grounds w false
  | ready, .perform _ next | ready, .closeTransport _ next => next.Grounds w ready
  | _, .openTransport p | _, .handshake p _ | _, .activate p _ =>
    ∀ item, p.item = some item → w.Admitted item ∧ item.intent.isSession = true
  | ready, .status _ _ item =>
    ready = true ∧ w.Admitted item ∧ item.intent.isSession = true
  | _, .send _ item => w.Admitted item ∧ item.intent.isSession = false
  | _, .polling _ item id _ | _, .reading _ item id _ =>
    w.Admitted item ∧ item.intent.isSession = false ∧
      w.Did (.transmitted (some item) (some id))
  | _, .faulted _ item _ => w.Admitted item
  | _, .finished _ item result => w.Admitted item ∧ w.Grounded item (.ok (some result))
  | _, .sendStop cause _ | _, .awaitStop cause _ =>
    ∀ item, cause.item = some item → w.Admitted item
  | _, _ => True

namespace Worker

/-- More has happened, but nothing more was dispatched. -/
structure Extends (w v : Worker) : Prop where
  log : ∃ added, v.log = added ++ w.log
  dispatched : ∀ item, v.Did (.dispatched item) → w.Did (.dispatched item)

theorem Grounded.later {w v : Worker} {item : WorkItem} {s : Settlement}
    (grounded : w.Grounded item s) (log : ∃ added, v.log = added ++ w.log)
    (same : v.Did (.dispatched item) → w.Did (.dispatched item)) : v.Grounded item s := by
  obtain ⟨added, log⟩ := log
  have did : ∀ {c}, w.Did c → v.Did c := fun was => by
    rw [Did, log]
    exact List.mem_append_right _ was
  cases s with
  | ok r =>
    obtain ⟨movement, session⟩ := grounded
    refine ⟨fun moves => ?_, fun own => ?_⟩
    · obtain ⟨c, result, correlated, sent⟩ := movement moves
      exact ⟨c, result, correlated, did sent⟩
    · obtain ⟨status, newer, older, split, verified⟩ := session own
      exact ⟨status, added ++ newer, older, by rw [log, split, List.append_assoc], verified⟩
  | error e =>
    intro dispatched
    refine (grounded (same dispatched)).imp_right ?_
    rintro ⟨preempted, newer, older, split, before⟩
    exact ⟨preempted, added ++ newer, older, by rw [log, split, List.append_assoc], before⟩

section Extends

variable {w v : Worker}

theorem Extends.grounded (ext : w.Extends v) {item : WorkItem} {s : Settlement}
    (grounded : w.Grounded item s) : v.Grounded item s :=
  grounded.later ext.log (ext.dispatched item)

theorem Extends.admitted (ext : w.Extends v) {item : WorkItem} (was : w.Admitted item) :
    v.Admitted item := by
  obtain ⟨added, same⟩ := ext.log
  rw [Admitted, same]
  exact List.mem_append_right _ was

theorem Extends.did (ext : w.Extends v) {c : Cmd} (did : w.Did c) : v.Did c := by
  obtain ⟨added, same⟩ := ext.log
  rw [Did, same]
  exact List.mem_append_right _ did

theorem Extends.observed (ext : w.Extends v) (observed : w.Observed) : v.Observed := by
  obtain ⟨added, same⟩ := ext.log
  rw [Observed, same, List.any_append, show w.log.any Entry.observes = true from observed,
    Bool.or_true]

theorem Extends.grounds (ext : w.Extends v) {ready : Bool} {pc : Pc}
    (grounds : pc.Grounds w ready) : pc.Grounds v ready := by
  induction pc generalizing ready with
  | perform o next ih =>
    cases o with
    | settle item s => exact ⟨ext.admitted grounds.1, ext.grounded grounds.2.1, ih grounds.2.2⟩
    | publish state reason => exact ⟨fun is => ext.observed (grounds.1 is), ih grounds.2⟩
    | _ => exact ih grounds
  | closeTransport t next ih => exact ih grounds
  | openTransport p =>
    exact fun item own => ⟨ext.admitted (grounds item own).1, (grounds item own).2⟩
  | handshake p t =>
    exact fun item own => ⟨ext.admitted (grounds item own).1, (grounds item own).2⟩
  | activate p t =>
    exact fun item own => ⟨ext.admitted (grounds item own).1, (grounds item own).2⟩
  | status t action item => exact ⟨grounds.1, ext.admitted grounds.2.1, grounds.2.2⟩
  | send t item => exact ⟨ext.admitted grounds.1, grounds.2⟩
  | polling t item id responses =>
    exact ⟨ext.admitted grounds.1, grounds.2.1, ext.did grounds.2.2⟩
  | reading t item id responses =>
    exact ⟨ext.admitted grounds.1, grounds.2.1, ext.did grounds.2.2⟩
  | faulted t item fault => exact ext.admitted grounds
  | finished t item result => exact ⟨ext.admitted grounds.1, ext.grounded grounds.2⟩
  | sendStop cause t => exact fun item own => ext.admitted (grounds item own)
  | awaitStop cause t => exact fun item own => ext.admitted (grounds item own)
  | _ => trivial

end Extends

theorem log_extends (c : Cmd) (w : Worker) : ∃ added, (w.apply c).log = added ++ w.log := by
  rw [log_apply]
  split
  · exact ⟨[_, _], rfl⟩
  · exact ⟨[_], rfl⟩

theorem extends_apply {w : Worker} {c : Cmd} (other : ∀ item, c ≠ .dispatched item) :
    w.Extends (w.apply c) := by
  refine ⟨log_extends c w, fun item did => ?_⟩
  exact ((did_apply w c _).mp did).resolve_left fun same => other item same.symm

theorem extends_of_log {w v : Worker} (same : v.log = w.log) : w.Extends v := by
  refine ⟨⟨[], same⟩, fun item did => ?_⟩
  rwa [Did, same] at did

section Continuations

variable {w : Worker} {ready : Bool}

theorem grounded_failed (item : WorkItem) {e : Failure} (unproven : e.Unproven) :
    w.Grounded item (.error e) := fun _ => .inl unproven

theorem grounds_attempt (left : Nat) (fault : Fault) : (Pc.attempt left fault).Grounds w ready := by
  cases left with
  | zero => exact ⟨nofun, trivial⟩
  | succ left => trivial

theorem grounds_sessionFailed (action : SessionAction) {item : WorkItem} (fault : Fault)
    (admitted : w.Admitted item) : (Pc.sessionFailed action item fault).Grounds w ready :=
  ⟨admitted, grounded_failed item fault.failure_unproven, nofun, trivial⟩

theorem grounds_connectFailed (fault : Fault) {p : Purpose}
    (own : ∀ item, p.item = some item → w.Admitted item) :
    (Pc.connectFailed fault p).Grounds w ready := by
  cases p with
  | startup => exact ⟨nofun, trivial⟩
  | reconnect left first => exact ⟨nofun, grounds_attempt left first⟩
  | session action item => exact grounds_sessionFailed action fault (own item rfl)

theorem grounds_unverified (t : TransportId) {p : Purpose}
    (own : ∀ item, p.item = some item → w.Admitted item) :
    (Pc.unverified t p).Grounds w ready := by
  cases p with
  | session action item => exact grounds_sessionFailed action _ (own item rfl)
  | _ => trivial

theorem grounds_verified (t : TransportId) {p : Purpose}
    (own : ∀ item, p.item = some item → w.Admitted item ∧ item.intent.isSession = true) :
    (Pc.verified t p).Grounds w true := by
  cases p with
  | session action item => exact ⟨rfl, own item rfl⟩
  | _ => trivial

theorem grounds_await (t : TransportId) {item : WorkItem} {id : Nat} (responses : List Response)
    (own : w.Admitted item ∧ item.intent.isSession = false ∧
      w.Did (.transmitted (some item) (some id))) :
    (Pc.await t item id responses).Grounds w ready := by
  unfold Pc.await
  split_ifs <;> exact own

theorem correlated_received {id : Nat} {responses : List Response} {r : Response}
    (terminal : r.terminal = true) (same : r.requestId = id) :
    Completion.Correlated
      { requestId := id
        succeeded := r.kind = .done
        responses := responses ++ [r]
        error := if r.kind = .done then none else r.name } := by
  refine ⟨r, ?_, same, by simp⟩
  simp [Completion.terminalResponse, terminal]

theorem grounds_received (t : TransportId) {item : WorkItem} {id : Nat}
    (responses : List Response) (r : Response) (same : r.requestId = id)
    (own : w.Admitted item ∧ item.intent.isSession = false ∧
      w.Did (.transmitted (some item) (some id))) :
    (received t item id responses r).Grounds w ready := by
  unfold received
  by_cases terminal : r.terminal = true
  · rw [if_pos terminal]
    refine ⟨own.1, fun _ => ⟨_, rfl, correlated_received terminal same, own.2.2⟩,
      fun session => ?_⟩
    rw [own.2.1] at session
    cases session
  · rw [if_neg terminal]
    exact grounds_await t _ own

theorem isSession_of_movement {intent : WorkerIntent} (moves : intent.isMovement = true) :
    intent.isSession = false := by
  cases intent <;> first | rfl | cases moves

theorem grounds_begin (v : Worker) (t : TransportId) {item : WorkItem} (admitted : w.Admitted item)
    (current : v.session.state = .ready → ready = true) : (v.begin t item).Grounds w ready := by
  unfold begin
  split
  · rename_i action intent
    have session : item.intent.isSession = true := by
      rw [intent]
      rfl
    split_ifs with torn
    · refine ⟨nofun, nofun, fun other same => ?_⟩
      cases same
      exact ⟨admitted, session⟩
    · exact ⟨current (not_not.mp (not_or.mp torn).2), admitted, session⟩
  all_goals
    rename_i intent
    refine ⟨admitted, ?_⟩
    rw [intent]
    rfl

theorem grounds_afterFault (t : TransportId) (fault : Fault) :
    (Pc.afterFault t fault).Grounds w ready := by
  unfold Pc.afterFault
  split_ifs
  · exact ⟨nofun, trivial⟩
  · trivial

theorem grounds_afterResult (t : TransportId) (item : WorkItem) :
    (Pc.afterResult t item).Grounds w ready := by
  unfold Pc.afterResult
  split_ifs <;> trivial

theorem grounds_stopFailed (t : TransportId) (fault : Fault) {cause : StopCause}
    (own : ∀ item, cause.item = some item → w.Admitted item) :
    (Pc.stopFailed t fault cause).Grounds w ready := by
  cases cause with
  | idle => exact ⟨nofun, trivial⟩
  | interrupt item => exact own item rfl
  | late item => exact ⟨own item rfl, grounded_failed item trivial, nofun, trivial⟩

theorem grounds_stopAcknowledged (t : TransportId) {cause : StopCause}
    (own : ∀ item, cause.item = some item → w.Admitted item)
    (log : ∃ older, w.log = .thread .stopAcknowledged :: older ∧
      ∀ item, w.Did (.dispatched item) → .thread (.dispatched item) ∈ older) :
    (Pc.stopAcknowledged t cause).Grounds w ready := by
  obtain ⟨older, same, before⟩ := log
  have preempted : ∀ item m, w.Grounded item (.error (.preemptedByStop m)) := fun item m did =>
    .inr ⟨⟨m, rfl⟩, [], older, same, before item did⟩
  cases cause with
  | idle => trivial
  | interrupt item => exact ⟨own item rfl, preempted item _, trivial⟩
  | late item => exact ⟨own item rfl, preempted item _, trivial⟩

end Continuations

/-- The outcomes that have been given are grounded, and those to come will be. -/
structure Outcomes (w : Worker) : Prop where
  lane : w.StopLane
  started : w.StartedOnly
  grounds : w.pc.Grounds w (decide (w.session.state = .ready))
  session : w.session.state = .ready → sessionVerified w.log = true
  fetched : ∀ item ∈ w.pc.fetched, ¬ w.Did (.dispatched item)
  settled : ∀ item s, w.Admitted item → w.futures item.future = .resolved s →
    w.Grounded item s
  written : ∀ item, w.wrote item = true → w.Did (.dispatched item)

@[simp] theorem transition_state (state : ConnectionState) (reason : String) (s : SessionSnapshot) :
    (s.transition state reason).state = state := by
  unfold SessionSnapshot.transition
  split_ifs with same
  · exact same.symm
  · rfl

theorem Outcomes.undispatched {w : Worker} (inv : w.Outcomes) {item : WorkItem}
    (waiting : w.futures item.future = .pending ∨ w.futures item.future = .cancelled) :
    ¬ w.Did (.dispatched item) := by
  intro did
  rcases inv.started item (.inl did) with running | ⟨s, resolved⟩
  · rw [running] at waiting
    exact waiting.elim nofun nofun
  · rw [resolved] at waiting
    exact waiting.elim nofun nofun

theorem Moves.writes_executes {w : Worker} {pc pc' : Pc} {i : Input} {c : Cmd}
    (m : Moves w pc i c pc') {item : WorkItem} (writes : c.writes item = true) :
    item ∈ pc.executes := by
  cases m
  case verified => exact Option.mem_toList.mpr (of_decide_eq_true writes)
  case handshakeFailed => exact Option.mem_toList.mpr (of_decide_eq_true writes)
  case activateFailed => exact Option.mem_toList.mpr (of_decide_eq_true writes)
  all_goals
    simp only [Cmd.writes, reduceCtorEq, decide_false, Bool.false_eq_true, Option.some.injEq,
      decide_eq_true_eq] at writes
  all_goals
    subst writes
    exact List.mem_singleton_self _

theorem wrote_aside {w v : Worker}
    (log : v.log = w.log ∨ ∃ x, Entry.Aside x ∧ v.log = x :: w.log) (item : WorkItem) :
    v.wrote item = w.wrote item := by
  rcases log with same | ⟨x, aside, added⟩
  · rw [wrote, wrote, same]
  · rw [wrote, wrote, added]
    cases x with
    | thread c => exact absurd rfl (aside c)
    | _ => rfl

theorem Outcomes.written_before {w v : Worker} {e : WorkerEvent} (inv : w.Outcomes)
    (h : w.step e = some v) {item : WorkItem} (wrote : v.wrote item = true) :
    w.Did (.dispatched item) := by
  rcases step_calls h with calls | ⟨i, -, moved⟩
  · rw [wrote_aside (calls.log.imp_right fun ⟨x, aside, _, added⟩ =>
      ⟨x, aside, added⟩)] at wrote
    exact inv.written item wrote
  · rcases threadStep_cases moved with ⟨f, s, rest, -, rfl⟩ | ⟨-, c, pc', m, rfl⟩
    · rw [wrote_settlePending] at wrote
      exact inv.written item wrote
    · change (w.apply c).wrote item = true at wrote
      rw [wrote_apply, Bool.or_eq_true] at wrote
      rcases wrote with writes | before
      · exact inv.lane.items.dispatched item (m.writes_executes writes)
      · exact inv.written item before

theorem session_kept {w : Worker} {c : Cmd} (quiet : (Entry.thread c).publishes = false) :
    (w.apply c).session = w.session := by
  rw [session_apply]
  split
  · cases quiet
  · cases quiet
  · rfl

theorem grounds_perform {w : Worker} {o : Op} {next : Pc}
    (grounds : (Pc.perform o next).Grounds w (decide (w.session.state = .ready))) :
    next.Grounds (w.apply (.op o)) (decide ((w.apply (.op o)).session.state = .ready)) := by
  have ext : w.Extends (w.apply (.op o)) := extends_apply (by simp)
  cases o with
  | settle item s => exact ext.grounds grounds.2.2
  | publish state reason =>
    rw [session_apply, transition_state]
    exact ext.grounds grounds.2
  | publishStopped =>
    have stopped : (w.apply (.op .publishStopped)).session.state ≠ .ready := by
      rw [session_apply]
      dsimp only
      split_ifs with uncertain
      · rw [uncertain]
        nofun
      · rw [transition_state]
        nofun
    rw [decide_eq_false stopped]
    exact ext.grounds grounds
  | _ => exact ext.grounds grounds

theorem grounds_move {w : Worker} {i : Input} {c : Cmd} {pc' : Pc} (inv : w.Outcomes)
    (m : Moves w w.pc i c pc') :
    pc'.Grounds (w.apply c) (decide ((w.apply c).session.state = .ready)) := by
  have grounds := inv.grounds
  have admitted : ∀ {item}, w.Admitted item → (w.apply c).Admitted item := fun was =>
    (admitted_apply w c _).mpr was
  have did : ∀ {d}, w.Did d → (w.apply c).Did d := fun was => (did_apply w c _).mpr (.inr was)
  have entered : ∀ {item}, item ∈ w.pc.fetched → w.Admitted item :=
    admitted_of_fetched inv.lane.items
  have unheld := inv.fetched
  generalize at_pc : w.pc = pc at m grounds entered unheld
  cases m
  case perform => exact grounds_perform grounds
  case closed t failure =>
    rw [session_kept rfl]
    exact (extends_apply (by simp)).grounds grounds
  case openedClosing => exact grounds_unverified _ fun item own => admitted (grounds item own).1
  case opened =>
    exact ⟨nofun, fun item own => ⟨admitted (grounds item own).1, (grounds item own).2⟩⟩
  case openFailed => exact grounds_connectFailed _ fun item own => admitted (grounds item own).1
  case verified =>
    exact ⟨nofun, fun item own => ⟨admitted (grounds item own).1, (grounds item own).2⟩⟩
  case handshakeFailed =>
    exact grounds_connectFailed _ fun item own => admitted (grounds item own).1
  case activateFailed =>
    exact grounds_connectFailed _ fun item own => admitted (grounds item own).1
  case activated =>
    exact ⟨fun _ => rfl,
      grounds_verified _ fun item own =>
      ⟨admitted (grounds item own).1, (grounds item own).2⟩⟩
  case reactivated => exact ⟨fun _ => rfl, trivial⟩
  case reactivateFailed => exact ⟨nofun, grounds_attempt _ _⟩
  case reconnect => exact ⟨nofun, grounds_attempt _ _⟩
  case reconnecting => exact ⟨nofun, fun item own => by cases own⟩
  case stopNext => exact fun item own => by cases own
  case dispatched t item =>
    exact grounds_begin w t (admitted (entered (List.mem_singleton_self item))) decide_eq_true
  case withdrawn t item e gate =>
    have undone : ¬ w.Did (.dispatched item) := unheld item (List.mem_singleton_self item)
    refine ⟨admitted (entered (List.mem_singleton_self item)), fun done => ?_, trivial⟩
    exact absurd (((did_apply w .skip _).mp done).resolve_left (by simp)) undone
  case status t action item mode phase =>
    obtain ⟨ready, own, session⟩ := grounds
    refine ⟨admitted own, ⟨fun moves => ?_,
      fun _ => ⟨⟨mode, phase, rfl⟩, ?_⟩⟩, trivial⟩
    · rw [isSession_of_movement moves] at session
      cases session
    · exact ⟨[], w.log, rfl, inv.session (of_decide_eq_true ready)⟩
  case statusFailed => exact grounds_sessionFailed _ _ (admitted grounds.2.1)
  case sent t item id =>
    exact grounds_await t _ ⟨admitted grounds.1, grounds.2, (did_apply w _ _).mpr (.inl rfl)⟩
  case sendFailed => exact admitted grounds.1
  case sendRefused => exact admitted grounds.1
  case pollStop =>
    intro item own
    cases own
    exact admitted grounds.1
  case poll => exact ⟨admitted grounds.1, grounds.2.1, did grounds.2.2⟩
  case pollFailed => exact admitted grounds.1
  case readNothing => exact grounds_await _ _ ⟨admitted grounds.1, grounds.2.1, did grounds.2.2⟩
  case readResponse same movement =>
    exact grounds_received _ _ _ same ⟨admitted grounds.1, grounds.2.1, did grounds.2.2⟩
  case readAnswer query =>
    refine ⟨admitted grounds.1, fun moves => ?_, fun session => ?_⟩
    · rw [query] at moves
      cases moves
    · rw [grounds.2.1] at session
      cases session
  case readFailed => exact admitted grounds.1
  case faultedStop => exact ⟨admitted grounds, grounded_failed _ trivial, trivial⟩
  case faulted fault _ =>
    exact ⟨admitted grounds, grounded_failed _ fault.failure_unproven, grounds_afterFault _ _⟩
  case finishedStop =>
    intro item own
    cases own
    exact admitted grounds.1
  case finished =>
    exact ⟨admitted grounds.1, (extends_apply (by simp)).grounded grounds.2,
      grounds_afterResult _ _⟩
  case refreshFailed => exact grounds_afterFault _ _
  case stopSent => exact fun item own => admitted (grounds item own)
  case stopUnsent => exact grounds_stopFailed _ _ fun item own => admitted (grounds item own)
  case stopUnanswered => exact grounds_stopFailed _ _ fun item own => admitted (grounds item own)
  case stopAcknowledged cause t =>
    refine grounds_stopAcknowledged t (fun item own => admitted (grounds item own))
      ⟨w.log, rfl, fun item done => ?_⟩
    exact ((did_apply w .stopAcknowledged _).mp done).resolve_left (by simp)
  case recovered => exact ⟨nofun, nofun, trivial⟩
  all_goals trivial

theorem session_move {w : Worker} {i : Input} {c : Cmd} {pc' : Pc} (inv : w.Outcomes)
    (m : Moves w w.pc i c pc') (ready : (w.apply c).session.state = .ready) :
    sessionVerified (w.apply c).log = true := by
  by_cases quiet : (Entry.thread c).publishes = false
  · rw [session_kept quiet] at ready
    have head := sessionVerified_cons quiet (inv.session ready)
    rw [log_apply]
    split
    · split_ifs <;> exact sessionVerified_cons rfl head
    · exact head
  · have grounds := inv.grounds
    generalize w.pc = pc at m grounds
    unfold Entry.publishes at quiet
    split at quiet
    · rename_i state reason same
      cases same
      rw [session_apply, transition_state] at ready
      subst ready
      cases m
      exact grounds.1 rfl
    · rename_i same
      cases same
      rw [session_apply] at ready
      dsimp only at ready
      split_ifs at ready with uncertain
      · rw [uncertain] at ready
        cases ready
      · rw [transition_state] at ready
        cases ready
    · exact absurd rfl quiet

theorem fetched_move {w : Worker} {i : Input} {c : Cmd} {pc' : Pc} (inv : w.Outcomes)
    (m : Moves w w.pc i c pc') {item : WorkItem} (held : item ∈ pc'.fetched) :
    ¬ (w.apply c).Did (.dispatched item) := by
  intro did
  rcases (did_apply w c _).mp did with rfl | before
  · -- what has just been dispatched is executed, not held before its gate
    generalize w.pc = pc at m
    cases m
    rw [(Pc.carries_begin _ item w).1] at held
    cases held
  · rcases m.holdsFrom.fetched item held with was | queued
    · exact inv.fetched item was before
    · refine inv.undispatched (inv.lane.accounted.account.waiting _ ?_) before
      exact List.mem_append_left _ (List.mem_map_of_mem queued)

theorem settled_move {w : Worker} {i : Input} {c : Cmd} {pc' : Pc} (inv : w.Outcomes)
    (m : Moves w w.pc i c pc') {item : WorkItem} {s : Settlement} (admitted : w.Admitted item)
    (resolved : (w.apply c).futures item.future = .resolved s) : (w.apply c).Grounded item s := by
  rcases resolved_apply resolved with before | ⟨other, rfl, same⟩
  · refine (inv.settled item s admitted before).later (log_extends c w) fun did => ?_
    refine ((did_apply w c _).mp did).resolve_left fun now => ?_
    -- an item at its gate is running, so it has no outcome yet
    subst now
    have running := inv.lane.accounted.account.running _ (m.active item (.inl rfl))
    rw [running] at before
    cases before
  · have grounds := inv.grounds
    generalize w.pc = pc at m grounds
    cases m
    rw [inv.lane.items.unique item other admitted grounds.1 same.symm]
    exact (extends_apply (by simp)).grounded grounds.2.1

theorem outcomes_move {w : Worker} {i : Input} {c : Cmd} {pc' : Pc} (inv : w.Outcomes)
    (m : Moves w w.pc i c pc') (lane : ({ w.apply c with pc := pc' } : Worker).StopLane)
    (started : ({ w.apply c with pc := pc' } : Worker).StartedOnly)
    (written : ∀ item, ({ w.apply c with pc := pc' } : Worker).wrote item = true →
      w.Did (.dispatched item)) : ({ w.apply c with pc := pc' } : Worker).Outcomes := by
  have ext : (w.apply c).Extends { w.apply c with pc := pc' } := extends_of_log rfl
  refine ⟨lane, started, ext.grounds (grounds_move inv m), session_move inv m,
    fun item held did => fetched_move inv m held (ext.dispatched item did),
    fun item s admitted resolved => ext.grounded (settled_move inv m ?_ resolved),
    fun item wrote => (did_apply w c _).mpr (.inr (written item wrote))⟩
  exact (admitted_apply w c item).mp admitted

theorem outcomes_aside {w v : Worker} (inv : w.Outcomes) (lane : v.StopLane)
    (started : v.StartedOnly) (pc : v.pc = w.pc) (session : v.session = w.session)
    (did : ∀ d, v.Did d ↔ w.Did d)
    (log : v.log = w.log ∨ ∃ x, Entry.Aside x ∧ v.log = x :: w.log)
    (settled : ∀ item s, v.Admitted item → v.futures item.future = .resolved s →
      (w.Admitted item ∧ w.futures item.future = .resolved s) ∨
        ((∃ e, s = .error e) ∧ ¬ w.Did (.dispatched item))) : v.Outcomes := by
  have ext : w.Extends v := by
    refine ⟨?_, fun item => (did _).mp⟩
    rcases log with same | ⟨x, -, added⟩
    · exact ⟨[], same⟩
    · exact ⟨[x], added⟩
  refine ⟨lane, started, ?_, fun ready => ?_, fun item held done => ?_,
    fun item s admitted resolved => ?_, fun item wrote => ?_⟩
  · rw [pc, session]
    exact ext.grounds inv.grounds
  · rw [session] at ready
    rcases log with same | ⟨x, aside, added⟩
    · rw [same]
      exact inv.session ready
    · rw [added]
      refine sessionVerified_cons ?_ (inv.session ready)
      cases x with
      | thread c => exact absurd rfl (aside c)
      | _ => rfl
  · rw [pc] at held
    exact inv.fetched item held ((did _).mp done)
  · rcases settled item s admitted resolved with ⟨was, before⟩ | ⟨⟨e, rfl⟩, never⟩
    · exact ext.grounded (inv.settled item s was before)
    · exact fun done => absurd ((did _).mp done) never
  · rw [wrote_aside log] at wrote
    exact ext.did (inv.written item wrote)

theorem Calls.settled {w v : Worker} {e : WorkerEvent} (calls : Calls w e v) (inv : w.Outcomes)
    {item : WorkItem} {s : Settlement} (admitted : v.Admitted item)
    (resolved : v.futures item.future = .resolved s) :
    (w.Admitted item ∧ w.futures item.future = .resolved s) ∨
      ((∃ e, s = .error e) ∧ ¬ w.Did (.dispatched item)) := by
  cases calls with
  | admitted running ready unstopped =>
    rcases List.mem_cons.mp admitted with new | old
    · cases new
      have unborn := inv.lane.accounted.account.unborn w.nextFuture (Nat.le_refl _)
      exact absurd (unborn.symm.trans resolved) nofun
    · exact .inl ⟨old, resolved⟩
  | cancelled known pending =>
    rename_i f
    by_cases same : item.future = f
    · rw [same] at resolved
      exact absurd ((Function.update_self f _ w.futures).symm.trans resolved) nofun
    · exact .inl ⟨admitted, (Function.update_of_ne same _ w.futures).symm.trans resolved⟩
  | preemptedFailed found =>
    rw [admitted_settlePending] at admitted
    rcases resolved_settlePending resolved with earlier | ⟨same, rfl, pending⟩
    · exact .inl ⟨admitted, earlier⟩
    · exact .inr ⟨⟨_, rfl⟩, inv.undispatched (.inl (same ▸ pending))⟩
  | _ => exact .inl ⟨by simpa [Admitted] using admitted, resolved⟩

theorem outcomes_step {w v : Worker} {e : WorkerEvent} (inv : w.Outcomes)
    (h : w.step e = some v) : v.Outcomes := by
  have lane := stopLane_step inv.lane h
  have started := startedOnly_step inv.lane.accounted inv.started h
  rcases step_calls h with calls | ⟨i, rfl, moved⟩
  · rcases calls.sameThread with ⟨rfl, new, rfl⟩ | same
    · exact ⟨lane, started, ⟨nofun, fun item own => by cases own⟩, inv.session,
        fun item held => absurd held List.not_mem_nil, inv.settled, inv.written⟩
    · exact outcomes_aside inv lane started same.pc same.session same.did
        (calls.log.imp_right fun ⟨x, aside, _, added⟩ => ⟨x, aside, added⟩)
        fun item s admitted resolved => calls.settled inv admitted resolved
  · rcases threadStep_cases moved with ⟨f, s, rest, todo, rfl⟩ | ⟨-, c, pc', m, rfl⟩
    · refine outcomes_aside inv lane started rfl rfl
        (did_settlePending f s { w with todo := rest })
        ((log_settlePending f s { w with todo := rest }).imp_right fun ⟨x, aside, _, added⟩ =>
          ⟨x, aside, added⟩) fun item r admitted resolved => ?_
      rw [admitted_settlePending] at admitted
      rcases resolved_settlePending resolved with earlier | ⟨same, rfl, pending⟩
      · exact .inl ⟨admitted, earlier⟩
      · refine .inr ⟨?_, inv.undispatched (.inl (same ▸ pending))⟩
        cases s with
        | error e => exact ⟨e, rfl⟩
        | ok r =>
          have never := (inv.lane.items.lane item admitted).2 r
          rw [same, todo] at never
          exact absurd List.mem_cons_self never
    · exact outcomes_move inv m lane started fun item wrote => inv.written_before h wrote

theorem outcomes_new (capacity attempts : Nat) (pos : 0 < capacity) :
    (Worker.new capacity attempts pos).Outcomes := by
  refine ⟨stopLane_new capacity attempts pos, fun item acts => ?_, trivial, nofun,
    fun item held => ?_, fun item s admitted => ?_, fun item wrote => ?_⟩
  · rcases acts with did | wrote
    · cases did
    · cases wrote
  · cases held
  · cases admitted
  · cases wrote

end Worker
end CaseSorter.Daemon
