import CaseSorter.Daemon.Settlements
import CaseSorter.Daemon.StopOutcomes

/-! Outcomes fail closed. The row of an operation ends as the future that was given out for
it, and that rests on what the worker has seen of the controller; no byte goes out before the
row is running. -/

namespace CaseSorter.Daemon

open CaseSorter.Actions CaseSorter.Transactions CaseSorter.Runs

def WorkerIntent.isCommand (intent : WorkerIntent) : Bool := intent.isMovement || intent.isSession

def Lane.isCommand : Lane → Bool
  | .normal intent => intent.isCommand
  | .stop => true

theorem homeIntent_command {body : RequestBody} {intent : WorkerIntent}
    (h : homeIntent body = .ok intent) : intent.isCommand = true := by
  unfold homeIntent at h
  split at h <;> cases h <;> rfl

theorem sortIntent_command {body : RequestBody} {intent : WorkerIntent}
    (h : sortIntent body = .ok intent) : intent.isCommand = true := by
  unfold sortIntent at h
  split at h
  · split_ifs at h
    cases h
    rfl
  · cases h
  · cases h

theorem feedIntent_command {body : RequestBody} {intent : WorkerIntent}
    (h : feedIntent body = .ok intent) : intent.isCommand = true := by
  unfold feedIntent at h
  split at h <;> cases h

theorem intentFor_command {action : OperationAction} {body : RequestBody} {intent : WorkerIntent}
    (h : intentFor action body = .ok intent) : intent.isCommand = true := by
  cases action with
  | home => exact homeIntent_command h
  | feed => exact feedIntent_command h
  | sort => exact sortIntent_command h
  | configure => exact sortIntent_command h
  | _ => cases h

theorem Request.prepare_command {request : Request} {caller : Caller} {p : Prepared} {d t : Domain}
    (h : exec (request.prepare caller) d = (.ok p, t)) {lane : Lane} (own : p.lane = some lane) :
    lane.isCommand = true := by
  cases request with
  | submit action body expected =>
    simp only [Request.prepare, exec_bind_eq_ok] at h
    obtain ⟨intent, u, known, window, v, -, returned⟩ := h
    cases returned
    cases own
    exact intentFor_command (Domain.ofExcept_eq_ok known).1
  | configure changes expected =>
    simp only [Request.prepare, exec_bind_eq_ok] at h
    obtain ⟨window, u, -, current, v, -, candidate, x, -, returned⟩ := h
    cases returned
    cases own
  | _ =>
    simp only [Request.prepare, exec_bind_eq_ok] at h
    obtain ⟨window, u, -, returned⟩ := h
    cases returned
    cases own
    rfl

def ApiThread.Commands : ApiThread → Prop
  | .admitting _ p => ∀ lane, p.lane = some lane → lane.isCommand = true
  | .enqueuing _ _ lane => lane.isCommand = true
  | _ => True

namespace System

variable {first : OperationId} {s t : System} {e : SystemEvent}

theorem Steps.commands (steps : Steps s e t) (commands : ∀ a ∈ s.api, a.Commands) :
    ∀ a ∈ t.api, a.Commands := by
  intro a member
  cases steps with
  | asked passed =>
    rcases List.mem_append.mp member with old | new
    · exact commands a old
    · rw [List.mem_singleton.mp new]
      exact fun lane own => Request.prepare_command passed own
  | admitted at_k made handed =>
    rcases List.mem_or_eq_of_mem_set member with old | rfl
    · exact commands a old
    · exact commands _ (List.mem_of_getElem? at_k) _ handed
  | handed at_k taken =>
    rcases List.mem_or_eq_of_mem_set member with old | rfl
    · exact commands a old
    · trivial
  | refused at_k full =>
    rcases List.mem_or_eq_of_mem_set member with old | rfl
    · exact commands a old
    · trivial
  | late at_k resolved =>
    rcases List.mem_or_eq_of_mem_set member with old | rfl
    · exact commands a old
    · trivial
  | preempted failed =>
    rcases List.mem_append.mp member with old | new
    · exact commands a old
    · obtain ⟨_, -, rfl⟩ := List.mem_map.mp new
      trivial
  | applied at_k _ _ => exact commands a (List.mem_of_mem_eraseIdx member)
  | replayed at_k _ => exact commands a (List.mem_of_mem_eraseIdx member)
  | rejected at_k _ => exact commands a (List.mem_of_mem_eraseIdx member)
  | withdrawn at_k => exact commands a (List.mem_of_mem_eraseIdx member)
  | attached at_k _ => exact commands a (List.mem_of_mem_eraseIdx member)
  | settled at_k => exact commands a (List.mem_of_mem_eraseIdx member)
  | _ => exact commands a member

/-- What the outcomes of the operations rest on. -/
structure Grounding (first : OperationId) (s : System) : Prop where
  bound : s.Bound first
  items : s.worker.Outcomes
  stops : s.worker.StopOutcomes
  intents : ∀ item, s.worker.Admitted item → item.intent.isCommand = true
  threads : ∀ a ∈ s.api, a.Commands

theorem grounding_step (inv : s.Grounding first) (steps : Steps s e t) : t.Grounding first := by
  refine ⟨bound_step inv.bound steps, ?_, ?_, fun item was => ?_, steps.commands inv.threads⟩
  · rcases steps.worker with same | ⟨we, moved⟩
    · exact same ▸ inv.items
    · exact Worker.outcomes_step inv.items moved
  · rcases steps.worker with same | ⟨we, moved⟩
    · exact same ▸ inv.stops
    · exact Worker.stopOutcomes_step inv.stops moved
  · rcases steps.intake with ⟨items, -, -⟩ |
      ⟨k, now, caller, operation, lane, w, -, at_k, taken, rfl, -⟩
    · exact inv.intents item (items item was)
    · rcases (Worker.admitted_iff (enqueue_step taken) item).mp was with
        old | ⟨intent, gate, asked, -, rfl⟩
      · exact inv.intents item old
      · cases lane with
        | stop => cases asked
        | normal intent' =>
          cases asked
          exact inv.threads _ (List.mem_of_getElem? at_k)

theorem grounding_new (policy : Policy) {db : Db} {nextId : Nat} (now : Nat)
    (appliedHistory : List ConfigurationValues) (capacity attempts : Nat) (pos : 0 < capacity)
    (supplied : ∀ i ∈ db.operationIds, i < nextId) :
    (System.new policy db nextId now appliedHistory capacity attempts pos).Grounding nextId :=
  ⟨bound_new policy now appliedHistory capacity attempts pos supplied,
    Worker.outcomes_new capacity attempts pos, Worker.stopOutcomes_new capacity attempts pos,
    fun _ was => absurd was List.not_mem_nil, fun _ member => absurd member List.not_mem_nil⟩

/-- Bytes of the operation's request may have been written. -/
def MayHaveWritten (s : System) (i : OperationId) : Prop :=
  ∃ f, (i, f) ∈ s.handed ∧
    ((∃ item, s.worker.Admitted item ∧ item.future = f ∧ s.worker.wrote item = true) ∨
      s.worker.LineSent f)

def Terminated (s : System) (i : OperationId) (kind : Host.ResponseKind) : Prop :=
  ∃ item c r, (i, item.future) ∈ s.handed ∧ s.worker.Admitted item ∧
    s.worker.futures item.future = .resolved (.ok (some (.completion c))) ∧
    c.terminalResponse = some r ∧ r.kind = kind ∧ r.requestId = c.requestId ∧
    s.worker.Did (.transmitted (some item) (some c.requestId))

def Acknowledged (s : System) (i : OperationId) : Prop :=
  ∃ f r newer older, (i, f) ∈ s.handed ∧ s.worker.StopAccepted f ∧
    s.worker.log = newer ++ .resolved f (.ok r) :: older ∧ stopAnswered older = true

def Verified (s : System) (i : OperationId) : Prop :=
  ∃ item mode phase, (i, item.future) ∈ s.handed ∧ s.worker.Admitted item ∧
    s.worker.futures item.future = .resolved (.ok (some (.status mode phase))) ∧
    s.worker.StatusRead item

def Applied (s : System) (db : Db) (i : OperationId) : Prop :=
  ∃ caller changes candidate window expected row snapshot,
    .admitting caller (.configure changes candidate window expected) ∈ s.api ∧
    db.readOperation i = some row ∧ row.action = .configure ∧ snapshot ∈ db.configurations ∧
    snapshot.payload = candidate.asMapping ∧ snapshot.createdAt = caller.now

def Trusted (s : System) (db : Db) (i : OperationId) : Prop :=
  s.Terminated i .done ∨ s.Acknowledged i ∨ s.Verified i ∨ s.Applied db i

def Preempted (s : System) (i : OperationId) : Prop :=
  ∃ item m, (i, item.future) ∈ s.handed ∧ s.worker.Admitted item ∧
    s.worker.futures item.future = .resolved (.error (.preemptedByStop m)) ∧
    s.worker.StoppedAfter item

/-- What an entry of the journal may claim. -/
structure FailClosed (s : System) (db : Db) (r : TransitionRecord) : Prop where
  succeeded : r.toState = .succeeded →
    r.fromState = some .running ∧ s.Trusted db r.operationId
  written : s.MayHaveWritten r.operationId → isTerminal r.toState = true →
    r.toState = .succeeded ∨ (r.toState = .failed ∧ s.Terminated r.operationId .error) ∨
      (r.toState = .cancelled ∧ s.Preempted r.operationId) ∨ r.toState = .uncertain

theorem Bound.handed_unique (bound : s.Bound first) {i : OperationId} {f g : FutureId}
    (given : (i, f) ∈ s.handed) (other : (i, g) ∈ s.handed) : f = g := by
  have once := (List.nodup_append.mp bound.once).2.1
  exact (Prod.mk.inj (List.inj_on_of_nodup_map once given other rfl)).2

theorem MayHaveWritten.item (inv : s.Grounding first) {i : OperationId}
    (written : s.MayHaveWritten i) {item : WorkItem} (given : (i, item.future) ∈ s.handed)
    (admitted : s.worker.Admitted item) : s.worker.wrote item = true := by
  obtain ⟨f, other, ⟨item', was, same, wrote⟩ | sent⟩ := written
  · have equal : item' = item := inv.items.lane.items.unique item' item was admitted
      (same.trans (inv.bound.handed_unique other given))
    exact equal ▸ wrote
  · have stopped := sent.accepted
    rw [inv.bound.handed_unique other given] at stopped
    exact absurd stopped (inv.items.lane.kinds item admitted)

theorem MayHaveWritten.line (inv : s.Grounding first) {i : OperationId}
    (written : s.MayHaveWritten i) {f : FutureId} (given : (i, f) ∈ s.handed)
    (stopped : s.worker.StopAccepted f) : s.worker.LineSent f := by
  obtain ⟨g, other, ⟨item', was, same, wrote⟩ | sent⟩ := written
  · rw [← inv.bound.handed_unique other given, ← same] at stopped
    exact absurd stopped (inv.items.lane.kinds item' was)
  · rwa [← inv.bound.handed_unique other given]

end System

theorem Db.Begun.running {db : Db} {i : OperationId} {row : OperationRecord} (begun : db.Begun i)
    (found : db.readOperation i = some row) (opened : ¬ isTerminal row.state = true) :
    row.state = .running := by
  obtain ⟨row', -, read, rank, -⟩ := begun
  cases found.symm.trans read
  rw [isTerminal_iff_rank] at opened
  cases state : row.state with
  | running => rfl
  | _ =>
    rw [state] at rank opened
    revert rank opened
    decide

theorem Failure.Unproven.uncertain {e : Failure} (unproven : e.Unproven) :
    (e.classify .running).1 = .uncertain := by
  cases e <;> first | rfl | exact unproven.elim

theorem Completion.Correlated.error {c : Completion} (correlated : c.Correlated)
    (untrusted : ¬ c.isTrustedTerminal = true) :
    ∃ r, c.terminalResponse = some r ∧ r.kind = .error ∧ r.requestId = c.requestId := by
  obtain ⟨r, last, same, done⟩ := correlated
  refine ⟨r, last, ?_, same⟩
  have terminal : r.terminal = true := by
    unfold Completion.terminalResponse at last
    exact (Option.filter_eq_some_iff.mp last).2
  have other : r.kind ≠ .done := fun is => untrusted (by
    simp [Completion.isTrustedTerminal, last, is, same, done.mpr is])
  cases kind : r.kind <;> simp_all [Response.terminal]

theorem Completion.done {c : Completion} (trusted : c.isTrustedTerminal = true) :
    ∃ r, c.terminalResponse = some r ∧ r.kind = .done ∧ r.requestId = c.requestId := by
  unfold Completion.isTrustedTerminal at trusted
  split at trusted
  · cases trusted
  · rename_i r last
    simp only [Bool.and_eq_true, decide_eq_true_eq] at trusted
    exact ⟨r, last, trusted.1.2, trusted.2⟩

namespace System

variable {first : OperationId} {s t : System} {e : SystemEvent} {P : Db → JournalWrite → Prop}
  {mid db : Db} {entry : TransitionRecord}

theorem failClosed_resolution {i : OperationId} {error : Failure} {row : OperationRecord}
    {move : Move} (chosen : Domain.resolution error row = some move)
    (named : entry.operationId = i) (state : entry.toState = move.toState)
    (sent : s.MayHaveWritten i → ¬ isTerminal row.state = true → row.state = .running ∧
      (error.Unproven ∨ ((∃ m, error = .preemptedByStop m) ∧ s.Preempted i))) :
    s.FailClosed db entry := by
  unfold Domain.resolution at chosen
  split_ifs at chosen with ended
  cases chosen
  change entry.toState = (error.classify row.state).1 at state
  have other : entry.toState ≠ .succeeded :=
    state ▸ (@unresolved_ends .running _ (classify_unresolved error row.state)).2.1
  refine ⟨fun succeeded => absurd succeeded other, fun written _ => .inr ?_⟩
  obtain ⟨running, unproven | ⟨⟨m, rfl⟩, preempted⟩⟩ := sent (named ▸ written) ended
  · rw [running, unproven.uncertain] at state
    exact .inr (.inr state)
  · exact .inr (.inl ⟨state, named ▸ preempted⟩)

theorem failClosed_completion (inv : s.Grounding first) {i : OperationId} {item : WorkItem}
    {result : WorkerResult} {row : OperationRecord} {move : Move}
    (given : (i, item.future) ∈ s.handed) (admitted : s.worker.Admitted item)
    (resolved : s.worker.futures item.future = .resolved (.ok (some result)))
    (chosen : Domain.completion result row = some move) (named : entry.operationId = i)
    (state : entry.toState = move.toState) (from' : entry.fromState = some row.state)
    (allowed : canTransition row.state move.toState = true) : s.FailClosed db entry := by
  have grounded := inv.items.settled item _ admitted resolved
  have command := inv.intents item admitted
  simp only [WorkerIntent.isCommand, Bool.or_eq_true] at command
  have running : move.toState = .succeeded → entry.fromState = some .running := fun is => by
    rw [is] at allowed
    rw [from', canTransition_succeeded allowed]
  have uncertain : move.toState = .uncertain → s.FailClosed db entry := fun is => by
    refine ⟨fun succeeded => ?_, fun _ _ => .inr (.inr (.inr (state.trans is)))⟩
    rw [state, is] at succeeded
    cases succeeded
  subst named
  unfold Domain.completion at chosen
  cases result with
  | status mode phase =>
    have read : s.worker.StatusRead item := by
      rcases command with moves | session
      · obtain ⟨c, same, -⟩ := grounded.1 moves
        cases same
      · exact (grounded.2 session).2
    dsimp only at chosen
    split_ifs at chosen with ended own
    · cases chosen
      have verified : s.Verified entry.operationId :=
        ⟨item, mode, phase, given, admitted, resolved, read⟩
      exact ⟨fun _ => ⟨running rfl, .inr (.inr (.inl verified))⟩, fun _ _ => .inl state⟩
    · cases chosen
      exact uncertain rfl
  | other typeName =>
    dsimp only at chosen
    split_ifs at chosen
    cases chosen
    exact uncertain rfl
  | completion c =>
    obtain ⟨correlated, sent⟩ : c.Correlated ∧
        s.worker.Did (.transmitted (some item) (some c.requestId)) := by
      rcases command with moves | session
      · obtain ⟨c', same, rest⟩ := grounded.1 moves
        cases same
        exact rest
      · obtain ⟨mode, phase, same⟩ := (grounded.2 session).1
        cases same
    dsimp only at chosen
    split_ifs at chosen with ended trusted
    · cases chosen
      obtain ⟨r, last, done, own⟩ := Completion.done trusted
      have terminated : s.Terminated entry.operationId .done :=
        ⟨item, c, r, given, admitted, resolved, last, done, own, sent⟩
      exact ⟨fun _ => ⟨running rfl, .inl terminated⟩, fun _ _ => .inl state⟩
    · cases chosen
      obtain ⟨r, last, error, own⟩ := correlated.error trusted
      refine ⟨fun succeeded => ?_, fun _ _ => .inr (.inl ⟨state, item, c, r, given, admitted,
        resolved, last, error, own, sent⟩)⟩
      rw [state] at succeeded
      cases succeeded

theorem failed_item (inv : s.Grounding first) {i : OperationId} {item : WorkItem} {error : Failure}
    (given : (i, item.future) ∈ s.handed) (admitted : s.worker.Admitted item)
    (resolved : s.worker.futures item.future = .resolved (.error error))
    (written : s.MayHaveWritten i) :
    s.domain.db.Begun i ∧
      (error.Unproven ∨ ((∃ m, error = .preemptedByStop m) ∧ s.Preempted i)) := by
  have dispatched := inv.items.written item (written.item inv given admitted)
  constructor
  · rcases inv.bound.given i _ given with stopped | ⟨item', operation, was, same, gate, rfl⟩
    · exact absurd stopped (inv.items.lane.kinds item admitted)
    · rw [inv.items.lane.items.unique item' item was admitted same] at gate
      exact inv.bound.dispatched item operation dispatched gate
  · rcases inv.items.settled item _ admitted resolved dispatched with unproven |
      ⟨⟨m, rfl⟩, stopped⟩
    · exact .inl unproven
    · exact .inr ⟨⟨m, rfl⟩, item, m, given, admitted, resolved, stopped⟩

theorem failClosed_settles (inv : s.Grounding first) {c : Callback} {f : FutureId} {r : Settlement}
    {now : Nat} {w : JournalWrite} (owns : s.Owns c f) (resolved : s.worker.futures f = .resolved r)
    (later : Commits P s.domain.db mid) (settles : Settles c.operationId (c.choose r) now mid w)
    (records : w.Records mid entry) : s.FailClosed db entry := by
  cases w with
  | transition write =>
    obtain ⟨named, -, row, found, chosen⟩ := settles
    obtain ⟨own, state, -, current, read, from', allowed⟩ := records
    rw [named] at own read
    cases found.symm.trans read
    have running : s.domain.db.Begun c.operationId → ¬ isTerminal row.state = true →
        row.state = .running := fun begun opened => (later.begun begun).running found opened
    cases c with
    | settle i =>
      obtain ⟨given, item, admitted, rfl⟩ := owns
      cases r with
      | error error =>
        refine failClosed_resolution chosen own state fun written opened => ?_
        obtain ⟨begun, rest⟩ := failed_item inv given admitted resolved written
        exact ⟨running begun opened, rest⟩
      | ok result =>
        cases result with
        | none =>
          -- an item that is a command is given a result of its own
          have grounded := inv.items.settled item _ admitted resolved
          have command := inv.intents item admitted
          simp only [WorkerIntent.isCommand, Bool.or_eq_true] at command
          rcases command with moves | session
          · obtain ⟨c, same, -⟩ := grounded.1 moves
            cases same
          · obtain ⟨mode, phase, same⟩ := (grounded.2 session).1
            cases same
        | some result =>
          exact failClosed_completion inv given admitted resolved chosen own state from' allowed
    | settleStop i =>
      obtain ⟨given, stopped⟩ := owns
      have grounded := inv.stops.settled f r stopped resolved
      cases r with
      | error error =>
        refine failClosed_resolution chosen own state fun written opened => ?_
        exact ⟨running (inv.bound.stops i f given stopped) opened,
          .inl (grounded (written.line inv given stopped))⟩
      | ok result =>
        obtain ⟨newer, older, split, answered⟩ := grounded
        have is : write.toState = .succeeded := by
          rw [← Option.some.inj chosen]
          rfl
        rw [is] at allowed
        refine ⟨fun _ => ⟨?_, .inr (.inl ?_)⟩, fun _ _ => .inl (state.trans is)⟩
        · rw [from', canTransition_succeeded allowed]
        · exact ⟨f, result, newer, older, own ▸ given, stopped, split, answered⟩
  | _ => exact settles.elim

theorem admitted_action {nextId : OperationId} {caller : Caller} {p : Prepared} {d d' : Db}
    (h : Commits (Admits nextId caller p) d d')
    (old : ∀ row ∈ d.operations, row.operationId < nextId) :
    ∀ row ∈ d'.operations, nextId ≤ row.operationId → row.action = p.action := by
  induction h with
  | refl => exact fun row member new => absurd (old row member) (Nat.not_lt.mpr new)
  | tail _ last ih =>
    obtain ⟨w, allowed, changed⟩ := last
    intro row member new
    cases w with
    | admission operation reason key =>
      rw [(changes_admission changed).2.1] at member
      rcases List.mem_append.mp member with before | added
      · exact ih row before new
      · cases allowed
        rw [List.mem_singleton.mp added]
        assumption
    | transition t =>
      obtain ⟨current, forward, trusted, found, permitted, replaced, -⟩ :=
        changes_transition changed
      rw [replaced, Db.replaceOperation, List.mem_map] at member
      obtain ⟨before, was, rfl⟩ := member
      split_ifs at new ⊢ with same
      · exact ih current (List.mem_of_find?_eq_some found) new
      · exact ih before was new
    | configuration snapshot =>
      rw [(changes_configuration changed).1] at member
      exact ih row member new
    | prune moment =>
      rw [(changes_prune changed).1] at member
      exact ih row member new

theorem failClosed_admits (inv : s.Grounding first) {caller : Caller} {p : Prepared}
    {w : JournalWrite} (asked : .admitting caller p ∈ s.api)
    (before : Commits (Admits s.domain.nextId caller p) s.domain.db mid)
    (admits : Admits s.domain.nextId caller p mid w) (records : w.Records mid entry)
    (later : Commits P mid db) : s.FailClosed db entry := by
  have unwritten : s.domain.nextId ≤ entry.operationId →
    ¬ s.MayHaveWritten entry.operationId := by
    rintro new ⟨f, given, -⟩
    have claimed : entry.operationId ∈ s.claimed :=
      List.mem_append_right _ (List.mem_map.mpr ⟨_, given, rfl⟩)
    obtain ⟨row, member, named⟩ := List.mem_map.mp (inv.bound.claims _ claimed).2
    have supplied := (inv.bound.current row member).1
    rw [named] at supplied
    exact absurd supplied (Nat.not_lt.mpr new)
  have moved : ∀ {state : OperationState}, entry.toState = state → isTerminal state = false →
      s.FailClosed db entry := by
    intro state is opened
    refine ⟨fun succeeded => ?_, fun _ ended => ?_⟩
    · rw [← is, succeeded] at opened
      cases opened
    · rw [is, opened] at ended
      cases ended
  cases admits with
  | admission new action own key fingerprint actor => exact moved records.2.2.1 rfl
  | accepted new state => exact moved (records.2.1.trans state) rfl
  | running new state direct => exact moved (records.2.1.trans state) rfl
  | configuration configures => exact records.elim
  | applied new state configures committed payload now =>
    obtain ⟨own, is, -, row, found, from', allowed⟩ := records
    subst configures
    rw [← own] at new found
    rw [state] at allowed
    refine ⟨fun _ => ⟨?_, .inr (.inr (.inr ?_))⟩,
      fun written _ => absurd written (unwritten new)⟩
    · rw [from', canTransition_succeeded allowed]
    · obtain ⟨row', found', still⟩ := later.later found
      have action := admitted_action before (fun row member => (inv.bound.current row member).1) row
        (List.mem_of_find?_eq_some found) ((Db.readOperation_operationId found).symm ▸ new)
      exact ⟨caller, _, _, _, _, row', _, asked, found', still.action.trans action,
        later.configurations committed, payload, now⟩

theorem grants_failClosed (inv : s.Grounding first) {w : JournalWrite}
    (before : Commits (s.grants e) s.domain.db mid) (granted : s.grants e mid w)
    (records : w.Records mid entry) (later : Commits (s.grants e) mid db) :
    s.FailClosed db entry := by
  have settles (c : Callback) (f : FutureId) (r : Settlement) (now : Nat) (owns : s.Owns c f)
      (resolved : s.worker.futures f = .resolved r)
      (settles : Settles c.operationId (c.choose r) now mid w) : s.FailClosed db entry :=
    failClosed_settles inv owns resolved before settles records
  cases e with
  | api k now =>
    cases at_k : s.api[k]? with
    | none =>
      simp only [grants, at_k] at granted
      exact granted.elim
    | some a =>
      have member := List.mem_of_getElem? at_k
      cases a with
      | admitting caller p =>
        simp only [grants, at_k] at before granted
        exact failClosed_admits inv member before granted records later
      | refused caller operation error =>
        simp only [grants, at_k] at granted
        cases w with
        | transition t =>
          obtain ⟨named, -, row, found, chosen⟩ := granted
          obtain ⟨own, state, -⟩ := records
          refine failClosed_resolution chosen (own.trans named) state ?_
          -- what is to be withdrawn has not been handed over
          rintro ⟨f, given, -⟩ -
          have apart := (List.nodup_append.mp inv.bound.once).2.2
          exact absurd rfl (apart _ (List.mem_filterMap.mpr ⟨_, member, rfl⟩) _
            (List.mem_map.mpr ⟨_, given, rfl⟩))
        | _ => exact granted.elim
      | settling f c r answer =>
        simp only [grants, at_k] at granted
        obtain ⟨owns, resolved⟩ := inv.bound.threads _ member
        exact settles c f r now owns resolved granted
      | enqueuing caller operation lane =>
        simp only [grants, at_k] at granted
        exact granted.elim
      | attaching caller operation c f =>
        simp only [grants, at_k] at granted
        exact granted.elim
  | task now =>
    cases owed : s.tasks with
    | nil =>
      simp only [grants, owed] at granted
      exact granted.elim
    | cons task rest =>
      cases task with
      | callback f c r =>
        simp only [grants, owed] at granted
        obtain ⟨owns, resolved⟩ := inv.bound.tasks f c r (owed ▸ List.mem_cons_self)
        exact settles c f r now owns resolved granted
      | _ =>
        simp only [grants, owed] at granted
        exact granted.elim
  | dispatch now =>
    cases gate : gated s.worker with
    | none =>
      simp only [grants, gate] at granted
      exact granted.elim
    | some operation =>
      simp only [grants, gate] at granted
      cases w with
      | transition t =>
        obtain ⟨-, running, -⟩ := granted
        have state : entry.toState = .running := records.2.1.trans running
        refine ⟨fun succeeded => ?_, fun _ ended => ?_⟩
        · rw [state] at succeeded
          cases succeeded
        · rw [state] at ended
          cases ended
      | _ => exact granted.elim
  | prune now =>
    cases granted
    exact records.elim
  | _ => exact granted.elim

theorem Steps.written_begun (inv : s.Grounding first) (steps : Steps s e t) {i : OperationId}
    (written : t.MayHaveWritten i) : s.domain.db.Begun i := by
  have bound := bound_step inv.bound steps
  obtain ⟨f, given, ⟨item, admitted, rfl, wrote⟩ | sent⟩ := written
  · have did : s.worker.Did (.dispatched item) := by
      rcases steps.worker with same | ⟨we, moved⟩
      · exact inv.items.written item (same ▸ wrote)
      · exact inv.items.written_before moved wrote
    rcases bound.given i _ given with stopped | ⟨item', operation, was, same, gate, rfl⟩
    · exact absurd stopped (bound.lane.kinds item admitted)
    · obtain rfl := bound.lane.items.unique item' item was admitted same
      exact inv.bound.dispatched item' operation did gate
  · have accepted : s.worker.StopAccepted f := by
      rcases steps.worker with same | ⟨we, moved⟩
      · exact (same ▸ sent : s.worker.LineSent f).accepted
      · exact sent.accepted_before moved
    refine inv.bound.stops i f ?_ accepted
    rcases steps.intake with ⟨-, -, same⟩ |
      ⟨k, now, caller, operation, lane, w, -, -, -, -, new⟩
    · exact same ▸ given
    · rw [new] at given
      rcases List.mem_cons.mp given with added | old
      · cases added
        exact absurd (inv.bound.lane.bound _ accepted) (Nat.lt_irrefl _)
      · exact old

/-- In every run, whatever fails and in whatever order: an entry that a section makes claims no
more than what is known, the state of a row is that of an entry, and bytes have gone out only
for operations recorded running before their deadline by an earlier section. -/
theorem outcomes_failClosed (policy : Policy) (db : Db) (nextId started : Nat)
    (appliedHistory : List ConfigurationValues) (capacity attempts : Nat) (pos : 0 < capacity)
    (es : List SystemEvent) (s t : System) (supplied : ∀ i ∈ db.operationIds, i < nextId)
    (reached : run step (System.new policy db nextId started appliedHistory capacity attempts pos)
      es = some s)
    (e : SystemEvent) (stepped : s.step e = some t) :
    (∀ r ∈ t.domain.db.transitions, r ∈ s.domain.db.transitions ∨
      s.FailClosed t.domain.db r) ∧
      (∀ i row, t.domain.db.readOperation i = some row →
        s.domain.db.readOperation i = some row ∨ ∃ r ∈ t.domain.db.transitions,
          r.operationId = i ∧ r.toState = row.state ∧ s.FailClosed t.domain.db r) ∧
      ∀ i, t.MayHaveWritten i → s.domain.db.Begun i := by
  have meets : Meets step (fun _ _ => True)
      (System.new policy db nextId started appliedHistory capacity attempts pos) es :=
    meets_of_forall (fun _ _ _ => trivial) _
  have inv := run_invariant (fun _ _ _ inv _ next => grounding_step inv (step_steps next))
    (grounding_new policy started appliedHistory capacity attempts pos supplied) meets reached
  have steps := step_steps stepped
  refine ⟨fun r member => ?_, fun i row read => ?_, fun i written => ?_⟩
  · refine (steps.commits.recorded member).imp_right ?_
    rintro ⟨mid, w, before, granted, records, later⟩
    exact grants_failClosed inv before granted records later
  · refine (steps.commits.entered read).imp_right ?_
    rintro ⟨r, member, named, state, mid, w, before, granted, records, later⟩
    exact ⟨r, member, named, state, grants_failClosed inv before granted records later⟩
  · exact steps.written_begun inv written

theorem outcomes_failClosed_homed :
    ((runD System.step emptyDaemon (homed (doneWith "state") ++ [.task 3])).domain.db.readOperation
        0).map (·.state) = some .succeeded ∧
      (runD System.step emptyDaemon (homed (doneWith "state"))).Trusted
        (runD System.step emptyDaemon (homed (doneWith "state") ++ [.task 3])).domain.db 0 := by
  have ran : run System.step emptyDaemon (homed (doneWith "state")) =
      some (runD System.step emptyDaemon (homed (doneWith "state"))) :=
    run_eq_runD (by decide +kernel)
  have next : (runD System.step emptyDaemon (homed (doneWith "state"))).step (.task 3) =
      some (runD System.step emptyDaemon (homed (doneWith "state") ++ [.task 3])) :=
    step_runD (by decide +kernel)
  obtain ⟨-, rows, -⟩ := outcomes_failClosed {} .empty 0 0 [] 16 1 (by decide)
    (homed (doneWith "state")) _ _ (fun i member => absurd member List.not_mem_nil) ran (.task 3)
    next
  have after : ((runD System.step emptyDaemon
      (homed (doneWith "state") ++ [.task 3])).domain.db.readOperation 0).map (·.state) =
      some .succeeded := by decide +kernel
  have before : ((runD System.step emptyDaemon
      (homed (doneWith "state"))).domain.db.readOperation 0).map (·.state) = some .running := by
    decide +kernel
  refine ⟨after, ?_⟩
  obtain ⟨row, read, succeeded⟩ := Option.map_eq_some_iff.mp after
  rcases rows 0 row read with same | ⟨r, -, named, state, closed⟩
  · rw [same, Option.map_some, succeeded] at before
    cases before
  · exact named ▸ (closed.succeeded (state.trans succeeded)).2

end System
end CaseSorter.Daemon
