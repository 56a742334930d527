import CaseSorter.Daemon.Commits
import CaseSorter.Daemon.ConfigurationHistory
import CaseSorter.Daemon.System

/-! What an admission comes to: it replays the operation of a live key, is refused with
nothing written, or makes the operation it returns. -/

namespace CaseSorter.Daemon

open CaseSorter.Actions CaseSorter.Transactions

/-- Storage has failed a statement, or the machine is latched because it has. -/
def Raised.isStorage : Raised → Bool
  | .sqliteError _ | .journalError _ | .journalUnavailable _ => true
  | _ => false

namespace Domain

variable {α : Type} {P : Db → JournalWrite → Prop}

/-- What the connection sees, an open transaction included. -/
def view (d : Domain) : Db := d.journal.connection.view

def NoWrite (_ : Db) (_ : JournalWrite) : Prop := False

theorem Advances.db_eq {d t : Domain} (h : Advances NoWrite d t) : t.db = d.db := by
  have commits := h.commits
  generalize t.db = db at commits
  induction commits with
  | refl => rfl
  | tail _ last ih =>
    obtain ⟨w, never, -⟩ := last
    exact never.elim

theorem Advances.of_noWrite {d t : Domain} (h : Advances NoWrite d t) : Advances P d t :=
  h.imp fun _ _ never => never.elim

theorem exec_refreshDurability (threat : Option String) (now : Nat) (d : Domain) :
    ∃ t, exec (refreshDurability threat now) d = (.ok (), t) := by
  simp only [refreshDurability, exec_bind, exec_get]
  cases threat with
  | none => exact ⟨d, rfl⟩
  | some m =>
    dsimp only
    split_ifs
    · exact ⟨_, exec_recordJournalFault _ now d⟩
    · exact ⟨d, rfl⟩

theorem guard_error {read : Db → α} {j j' : Journal} {e : Raised}
    (h : Journal.guard read j = (.error e, j')) : ∃ m, e = .journalError m := by
  unfold Journal.guard at h
  split_ifs at h <;> cases h <;> exact ⟨_, rfl⟩

/-- The relation holds across the beats that write nothing: reads and latched faults. -/
structure Idles (R : Domain → Domain → Prop) : Prop where
  read : ∀ {α : Type} (read : Db → α), Keeps R (onJournal (Journal.guard read))
  fault : ∀ reason now, Keeps R (recordJournalFault reason now)

theorem idles_noWrite : Idles (Advances NoWrite) := ⟨advances_read, advances_recordJournalFault⟩

section Idles

variable {R : Domain → Domain → Prop} [Std.Refl R] [IsTrans Domain R]

theorem Idles.refresh (idles : Idles R) (threat : Option String) (now : Nat) :
    Keeps R (refreshDurability threat now) := by
  refine keeps_bind keeps_get fun d => ?_
  cases threat with
  | none => exact keeps_pure ()
  | some m =>
    dsimp only
    split_ifs
    · exact idles.fault _ now
    · exact keeps_pure ()

omit [Std.Refl R] in
theorem replay_cases (idles : Idles R) (key fingerprint : String) (now : Nat) (d : Domain)
    {r : Except Raised (Option OperationRecord)} {t : Domain}
    (h : exec (replay key fingerprint now) d = (r, t)) :
    R d t ∧
      ((∃ m, r = .error (.journalError m)) ∨
        (r = .ok none ∧ OnlyRead d t ∧ d.view.idempotencyRecord key now = none) ∨
        ∃ b, d.view.idempotencyRecord key now = some b ∧
          ((b.fingerprint ≠ fingerprint ∧ r = .error (.idempotencyConflict
              s!"idempotency key {key} is already bound to a different canonical request")) ∨
            (b.fingerprint = fingerprint ∧ ∃ record,
              d.view.readOperation b.operationId = some record ∧ r = .ok (some record)))) := by
  rw [replay, exec_bind] at h
  have first := idles.read (Db.idempotencyRecord key now) d
  rcases hr : exec (onJournal (Journal.idempotencyRecord key now)) d with ⟨e | existing, u⟩
  · have read := hr
    rw [Journal.idempotencyRecord] at read
    rw [read] at first
    rw [hr] at h
    cases h
    rw [exec_onJournal] at read
    obtain ⟨m, rfl⟩ := guard_error (Prod.ext (Prod.mk.inj read).1 rfl)
    exact ⟨first, .inl ⟨m, rfl⟩⟩
  · have read := hr
    rw [Journal.idempotencyRecord] at read
    rw [read] at first
    obtain ⟨only, value⟩ := onlyRead_guard read
    have seen : u.view = d.view := by rw [view, only.connection, view]
    rw [hr] at h
    cases existing with
    | none =>
      cases h
      exact ⟨first, .inr (.inl ⟨rfl, only, value.symm⟩)⟩
    | some b =>
      have found : d.view.idempotencyRecord key now = some b := value.symm
      dsimp only at h
      by_cases differs : b.fingerprint ≠ fingerprint
      · rw [if_pos differs, exec_bind] at h
        cases h
        exact ⟨first, .inr (.inr ⟨b, found, .inl ⟨differs, rfl⟩⟩)⟩
      · have second := idles.read (Db.readOperation b.operationId) u
        simp only [if_neg differs, exec_bind] at h
        rcases ho : exec (onJournal (Journal.operation b.operationId)) u with ⟨e | row, v⟩
        · have read := ho
          rw [Journal.operation] at read
          rw [read] at second
          rw [ho] at h
          cases h
          rw [exec_onJournal] at read
          obtain ⟨m, rfl⟩ := guard_error (Prod.ext (Prod.mk.inj read).1 rfl)
          exact ⟨IsTrans.trans _ _ _ first second, .inl ⟨m, rfl⟩⟩
        · have read := ho
          rw [Journal.operation] at read
          rw [read] at second
          obtain ⟨-, value⟩ := onlyRead_guard read
          rw [ho] at h
          cases row with
          | none =>
            cases h
            exact ⟨IsTrans.trans _ _ _ first second, .inl ⟨_, rfl⟩⟩
          | some record =>
            have row : d.view.readOperation b.operationId = some record := by
              rw [← seen]
              exact value.symm
            cases h
            exact ⟨IsTrans.trans _ _ _ first second,
              .inr (.inr ⟨b, found, .inr ⟨not_not.mp differs, record, row, rfl⟩⟩)⟩

inductive Admitted (R : Domain → Domain → Prop) (caller : Caller) (kind : String)
    (expected : Option Nat)
    (check : MachineSnapshot → Except Raised Unit)
    (proceed : MachineSnapshot → DomainM OperationRecord)
    (d t : Domain) : Except Raised Admission → Prop
  | unavailable {e} (still : R d t) (storage : e.isStorage = true) :
    Admitted R caller kind expected check proceed d t (.error e)
  | conflict {b} (still : R d t)
      (live : d.view.idempotencyRecord caller.idempotencyKey caller.now = some b)
      (differs : b.fingerprint ≠ caller.fingerprint) :
    Admitted R caller kind expected check proceed d t (.error <| .idempotencyConflict
      s!"idempotency key {caller.idempotencyKey} is already bound to a different canonical request")
  | replayed {b record} (still : R d t)
      (live : d.view.idempotencyRecord caller.idempotencyKey caller.now = some b)
      (same : b.fingerprint = caller.fingerprint)
      (row : d.view.readOperation b.operationId = some record) :
    Admitted R caller kind expected check proceed d t (.ok (.replayed record))
  | stale {e} (still : R d t)
      (absent : d.view.idempotencyRecord caller.idempotencyKey caller.now = none)
      (moved : requireGeneration kind expected d.machine = .error e) :
    Admitted R caller kind expected check proceed d t (.error e)
  | unfit {e x} (still : R d t)
      (absent : d.view.idempotencyRecord caller.idempotencyKey caller.now = none)
      (current : requireGeneration kind expected d.machine = .ok ())
      (refused : check d.machine = .error x) :
    Admitted R caller kind expected check proceed d t (.error e)
  | admitted {u record} (only : OnlyRead d u) (still : R d u)
      (absent : d.view.idempotencyRecord caller.idempotencyKey caller.now = none)
      (current : requireGeneration kind expected d.machine = .ok ())
      (passed : check d.machine = .ok ()) (made : exec (proceed d.machine) u = (.ok record, t))
      (available : d.machine.journalAvailable = true) :
    Admitted R caller kind expected check proceed d t (.ok (.admitted record))
  | failed {u v e x} (only : OnlyRead d u) (still : R d u)
      (absent : d.view.idempotencyRecord caller.idempotencyKey caller.now = none)
      (current : requireGeneration kind expected d.machine = .ok ())
      (passed : check d.machine = .ok ()) (broke : exec (proceed d.machine) u = (.error x, v))
      (after : R v t) (storage : x.isStorage = true → e.isStorage = true)
      (latched : ∀ m, x = .journalError m → t.machine.journalAvailable = false)
      (available : d.machine.journalAvailable = true) :
    Admitted R caller kind expected check proceed d t (.error e)

omit [IsTrans Domain R] in
theorem durable_cases (idles : Idles R) {activity : String} {now : Nat}
    {body : DomainM α} {d t : Domain}
    {r : Except Raised α} (h : exec (durable activity now body) d = (r, t)) :
    (∃ a, r = .ok a ∧ exec body d = (.ok a, t)) ∨
      ∃ e u e', exec body d = (.error e, u) ∧ r = .error e' ∧ R u t ∧
        (e.isStorage = true → e'.isStorage = true) ∧
        ((∀ m, e ≠ .journalError m) → e' = e) ∧
        (∀ m, e = .journalError m → t.machine.journalAvailable = false) := by
  rw [durable, exec_tryCatch] at h
  rcases hb : exec body d with ⟨e | a, u⟩
  · rw [hb] at h
    cases e with
    | journalError m =>
      cases h
      exact .inr ⟨_, u, _, rfl, rfl, idles.fault _ now u, fun _ => rfl,
        fun other => absurd rfl (other m),
        fun _ _ => MachineSnapshot.recordJournalFault_journalAvailable _ _ _ _⟩
    | _ =>
      cases h
      exact .inr ⟨_, _, _, rfl, rfl, refl _, id, fun _ => rfl, fun m is => by cases is⟩
  · rw [hb] at h
    cases h
    exact .inl ⟨a, rfl, rfl⟩

theorem requireGeneration_raises {kind : String} {expected : Option Nat} {view : MachineSnapshot}
    {e : Raised} (h : requireGeneration kind expected view = .error e) :
    ∃ m, e = .staleGeneration m := by
  unfold requireGeneration at h
  split at h
  · cases h
  · split_ifs at h
    cases h
    exact ⟨_, rfl⟩

theorem admission_cases (idles : Idles R) {activity kind : String} {caller : Caller}
    {expected : Option Nat}
    {check : MachineSnapshot → Except Raised Unit}
    {proceed : MachineSnapshot → DomainM OperationRecord} {d t : Domain}
    {r : Except Raised Admission}
    (h : exec (admission activity kind caller expected check proceed) d = (r, t)) :
    Admitted R caller kind expected check proceed d t r := by
  obtain ⟨d', refreshed⟩ := exec_refreshDurability caller.threat caller.now d
  have refresh := idles.refresh caller.threat caller.now d
  rw [refreshed] at refresh
  simp only [admission, exec_bind, refreshed, exec_get, exec_ofExcept] at h
  cases available : requireDurable d'.machine with
  | error e =>
    rw [available] at h
    cases h
    refine .unavailable refresh ?_
    unfold requireDurable at available
    split_ifs at available
    cases available
    rfl
  | ok u =>
    obtain rfl := refreshDurability_eq_ok refreshed available
    have durable : d'.machine.journalAvailable = true := by
      unfold requireDurable at available
      split_ifs at available with is
      exact is
    rw [available] at h
    rcases looked :
      exec (replay caller.idempotencyKey caller.fingerprint caller.now) d' with ⟨x, u⟩
    obtain ⟨still, found⟩ := replay_cases idles _ _ _ d' looked
    rcases durable_cases idles h with
      ⟨a, rfl, returned⟩ | ⟨e, v, e', raised, rfl, after, storage, own, latched⟩
    · rw [exec_bind, looked] at returned
      rcases found with ⟨m, rfl⟩ | ⟨rfl, only, absent⟩ |
        ⟨b, live, ⟨differs, rfl⟩ | ⟨same, record, row, rfl⟩⟩
      · cases returned
      · simp only [exec_bind, exec_ofExcept] at returned
        cases current : requireGeneration kind expected d'.machine with
        | error e =>
          rw [current] at returned
          cases returned
        | ok w =>
          rw [current] at returned
          cases passed : check d'.machine with
          | error e =>
            rw [passed] at returned
            cases returned
          | ok w' =>
            rw [passed] at returned
            rcases made : exec (proceed d'.machine) u with ⟨e | record, v⟩
            · simp only [made] at returned
              cases returned
            · simp only [made] at returned
              cases returned
              exact .admitted only still absent current passed made durable
      · cases returned
      · cases returned
        exact .replayed still live same row
    · rw [exec_bind, looked] at raised
      rcases found with ⟨m, rfl⟩ | ⟨rfl, only, absent⟩ |
        ⟨b, live, ⟨differs, rfl⟩ | ⟨same, record, row, rfl⟩⟩
      · cases raised
        exact .unavailable (IsTrans.trans _ _ _ still after) (storage rfl)
      · simp only [exec_bind, exec_ofExcept] at raised
        cases current : requireGeneration kind expected d'.machine with
        | error x =>
          rw [current] at raised
          cases raised
          obtain ⟨m, rfl⟩ := requireGeneration_raises current
          obtain rfl := own fun m => by simp
          exact .stale (IsTrans.trans _ _ _ still after) absent current
        | ok w =>
          rw [current] at raised
          cases passed : check d'.machine with
          | error x =>
            rw [passed] at raised
            cases raised
            exact .unfit (IsTrans.trans _ _ _ still after) absent current passed
          | ok w' =>
            rw [passed] at raised
            rcases made : exec (proceed d'.machine) u with ⟨x | record, v⟩
            · simp only [made] at raised
              cases raised
              exact .failed only still absent current passed made after storage latched durable
            · simp only [made] at raised
              cases raised
      · cases raised
        obtain rfl := own fun m => by simp
        exact .conflict (IsTrans.trans _ _ _ still after) live differs
      · cases raised

end Idles

end Domain

def Prepared.action : Prepared → OperationAction
  | .submit action _ _ _ => action
  | .stop _ _ => .stop
  | .session action _ _ => Domain.sessionOperation action
  | .configure _ _ _ _ => .configure

inductive Admits (first : OperationId) (caller : Caller) (p : Prepared) (db : Db) :
    JournalWrite → Prop
  | admission {operation reason record} (new : first ≤ operation.operationId)
      (action : operation.action = p.action) (own : record.operationId = operation.operationId)
      (key : record.key = caller.idempotencyKey)
      (fingerprint : record.fingerprint = caller.fingerprint)
      (actor : operation.actor = caller.actor) :
    Admits first caller p db (.admission operation reason (some record))
  | accepted {t} (new : first ≤ t.operationId) (state : t.toState = .accepted) :
    Admits first caller p db (.transition t)
  | running {t} (new : first ≤ t.operationId) (state : t.toState = .running)
      (direct : ∀ intent, p.lane ≠ some (.normal intent)) :
    Admits first caller p db (.transition t)
  | configuration {snapshot} (configures : p.action = .configure) :
    Admits first caller p db (.configuration snapshot)
  | applied {t snapshot changes candidate window expected} (new : first ≤ t.operationId)
      (state : t.toState = .succeeded)
      (configures : p = .configure changes candidate window expected)
      (committed : snapshot ∈ db.configurations)
      (payload : snapshot.payload = candidate.asMapping) (now : snapshot.createdAt = caller.now) :
    Admits first caller p db (.transition t)

theorem Admits.later {first from' : OperationId} {caller : Caller} {p : Prepared} {db : Db}
    {w : JournalWrite} (h : Admits from' caller p db w) (le : first ≤ from') :
    Admits first caller p db w := by
  cases h with
  | admission new action own key fingerprint actor =>
    exact .admission (Nat.le_trans le new) action own key fingerprint actor
  | accepted new state => exact .accepted (Nat.le_trans le new) state
  | running new state direct => exact .running (Nat.le_trans le new) state direct
  | configuration configures => exact .configuration configures
  | applied new state configures committed payload now =>
    exact .applied (Nat.le_trans le new) state configures committed payload now

namespace Domain

theorem newOperation_eq_ok {i : OperationId} {action : OperationAction} {caller : Caller}
    {generation window : Nat} {operation : OperationRecord}
    (h : newOperation i action caller generation window = .ok operation) :
    operation.operationId = i ∧ operation.action = action ∧
      operation.generation = generation ∧
      operation.state = .queued ∧ caller.now < operation.deadlineAt := by
  unfold newOperation at h
  split_ifs at h with positive window_pos
  cases h
  exact ⟨rfl, rfl, rfl, rfl, window_pos⟩

theorem newOperation_actor {i : OperationId} {action : OperationAction} {caller : Caller}
    {generation window : Nat} {operation : OperationRecord}
    (h : newOperation i action caller generation window = .ok operation) :
    operation.actor = caller.actor := by
  unfold newOperation at h
  split_ifs at h
  cases h
  rfl

theorem advances_admitOperation {action : OperationAction} {caller : Caller}
    {view : MachineSnapshot}
    {window : Nat} {reason : String} {p : Prepared} {d : Domain} (own : p.action = action)
    (reached : view.generation ≤ d.machine.generation) :
    Advances (Admits d.nextId caller p) d (exec
      (admitOperation action caller view window reason) d).2 := by
  have supplied := advances_newOperationId (P := Admits d.nextId caller p) d
  rw [exec_newOperationId] at supplied
  simp only [admitOperation, exec_bind, exec_newOperationId, exec_ofExcept]
  cases made : newOperation d.nextId action caller view.generation window with
  | error e => exact supplied
  | ok operation =>
    obtain ⟨id_eq, action_eq, generation_eq, -, -⟩ := newOperation_eq_ok made
    simp only [exec_get]
    generalize record_eq : newIdempotency d.nextId caller { d with nextId := d.nextId + 1 } = record
    have bound : record.operationId = operation.operationId := by
      rw [← record_eq, id_eq]
      rfl
    have written := @advances_write _ (Admits d.nextId caller p)
      (admissionScript operation s!"admitted against generation {view.generation}" (some record))
      (.admission operation s!"admitted against generation {view.generation}" (some record))
      { d with nextId := d.nextId + 1 } (fun _ _ h => h)
      (fun db' changed => .admission (Nat.le_of_eq id_eq.symm) (action_eq.trans own.symm) bound
        (by rw [← record_eq]; rfl) (by rw [← record_eq]; rfl) (newOperation_actor made))
      (fun first db' changed before row member => by
        rw [(changes_admission changed).2.1] at member
        rcases List.mem_append.mp member with old | new
        · exact before row old
        · rw [List.mem_singleton.mp new, id_eq, generation_eq]
          exact ⟨Nat.lt_succ_self _, fun _ => reached⟩)
    change Advances _ _ (exec (onJournal (Journal.recordAdmission operation _ _)) _).2 at written
    rcases hw : exec (onJournal (Journal.recordAdmission operation
        s!"admitted against generation {view.generation}" (some record)))
        { d with nextId := d.nextId + 1 } with ⟨e | u, t⟩
    · rw [hw] at written
      exact supplied.trans written
    · rw [hw] at written
      refine (supplied.trans written).trans (advances_transition fun _ _ _ => ?_)
      exact .accepted (Nat.le_refl _) rfl

/-- The operation an admission has made. -/
structure Made (first : OperationId) (caller : Caller) (action : OperationAction)
    (record : OperationRecord) (t : Domain) : Prop where
  new : first ≤ record.operationId
  row : t.db.readOperation record.operationId = some record
  action : record.action = action
  deadline : caller.now < record.deadlineAt

theorem Made.moved {first : OperationId} {caller : Caller} {action : OperationAction}
    {record record' : OperationRecord} {d t : Domain} {move : Move} {now : Nat}
    (made : Made first caller action record d) (own : move.operationId = record.operationId)
    (h : exec (transition move now) d = (.ok record', t)) :
    Made first caller action record' t ∧ record'.operationId = record.operationId := by
  obtain ⟨changed, row⟩ := transition_changes h
  rw [own] at row
  obtain ⟨r, found, later⟩ := changed.later made.row
  obtain rfl := Option.some.inj (found.symm.trans row)
  have same := later.operationId
  exact ⟨⟨same ▸ made.new, same.symm ▸ row, later.action.trans made.action,
    later.deadlineAt ▸ made.deadline⟩, same⟩

theorem admit_made {action : OperationAction} {caller : Caller} {view : MachineSnapshot}
    {window : Nat} {reason : String} {d t : Domain} {record : OperationRecord}
    (h : exec (admitOperation action caller view window reason) d = (.ok record, t)) :
    Made d.nextId caller action record t ∧ record.state = .accepted := by
  simp only [admitOperation, exec_bind_eq_ok] at h
  obtain ⟨i, d₁, supplied, operation, d₂, built, d₃, d₄, got, u, d₅,
    recorded, moved⟩ := h
  rw [exec_newOperationId] at supplied
  cases supplied
  obtain ⟨valid, rfl⟩ := ofExcept_eq_ok built
  cases got
  obtain ⟨id_eq, action_eq, -, -, deadline⟩ := newOperation_eq_ok valid
  obtain ⟨fresh, inserted, -⟩ := @changes_admission operation _ _ _ _ (write_changes recorded)
  have made : Made d.nextId caller action operation d₅ :=
    ⟨Nat.le_of_eq id_eq.symm, readOperation_new inserted fresh, action_eq, deadline⟩
  exact ⟨(made.moved id_eq.symm moved).1, (transition_left moved).1⟩

theorem advances_applyConfiguration {operation : OperationRecord}
    {changes : List (String × Int)} {candidate : ConfigurationValues}
    {window expected : Nat} {caller : Caller} {first : OperationId} {d : Domain}
    (new : first ≤ operation.operationId) :
    Advances (Admits first caller (.configure changes candidate window expected)) d
      (exec (applyConfiguration operation candidate caller) d).2 := by
  simp only [applyConfiguration, exec_bind, exec_get, exec_newOperationId, exec_onJournal]
  generalize snapshot_eq : ConfigurationSnapshot.mk d.nextId (d.machine.generation + 1)
    candidate.asMapping s!"{caller.actor.role}:{caller.actor.userId}" caller.now = snapshot
  have supplied := advances_newOperationId
    (P := Admits first caller (.configure changes candidate window expected)) d
  rw [exec_newOperationId] at supplied
  have written :=
    @advances_write _ (Admits first caller (.configure changes candidate window expected))
    (configurationScript snapshot) (.configuration snapshot)
    { d with nextId := d.nextId + 1 } (fun _ _ h => h)
    (fun _ _ => .configuration rfl)
    (fun first db' changed before row member => by
      rw [(changes_configuration changed).1] at member
      exact before row member)
  change Advances _ _ (exec (onJournal (Journal.recordConfiguration snapshot)) _).2 at written
  rw [exec_onJournal] at written
  rcases hw : Journal.recordConfiguration snapshot d.journal with ⟨e | u, j⟩
  · rw [hw] at written
    exact supplied.trans written
  · rw [hw] at written
    refine (supplied.trans written).trans ?_
    refine Advances.trans (t := {
      { d with nextId := d.nextId + 1, journal := j }.publish
        (d.machine.transition (some operation.operationId) "configuration applied") with
      configuration := candidate
      configurationGeneration := d.machine.generation + 1
      configuredAt := caller.now
      maxDeadlineMs := min d.maxDeadlineMs (candidate.value .maxDeadlineMs)
      appliedHistory := candidate :: d.appliedHistory })
      (advances_of_journal rfl (Nat.le_refl _) (Nat.le_succ _)) ?_
    refine advances_transition fun _ _ _ => ?_
    suffices committed : snapshot ∈ j.connection.committed.configurations from
      .applied new rfl rfl committed (by rw [← snapshot_eq]) (by rw [← snapshot_eq])
    show snapshot ∈ j.connection.committed.configurations
    rw [(recordConfiguration_eq_ok hw).1]
    exact List.mem_append_right _ (List.mem_singleton_self _)

end Domain

namespace Prepared

open Domain

def kind : Prepared → String
  | .stop _ _ => "stop"
  | _ => "request"

def activity : Prepared → String
  | .submit _ _ _ _ => "admitting an operation"
  | .stop _ _ => "admitting a priority stop"
  | .session action _ _ => s!"admitting a {(sessionOperation action).value} operation"
  | .configure _ _ _ _ => "applying a configuration change"

def expected : Prepared → Option Nat
  | .submit _ _ _ expected | .session _ _ expected | .configure _ _ _ expected => some expected
  | .stop _ expected => expected

def check : Prepared → MachineSnapshot → Except Raised Unit
  | .submit _ intent _ _ => requireReady intent
  | _ => fun _ => .ok ()

def proceed (caller : Caller) : Prepared → MachineSnapshot → DomainM OperationRecord
  | .submit action _ window _ => fun view =>
    Domain.admitOperation action caller view window "admitted to the serial lane"
  | .stop window _ => fun view => do
    let accepted ← Domain.admitOperation .stop caller view window
      "admitted to the priority stop lane"
    transition
      { operationId := accepted.operationId
        toState := .running
        reason := "handed to the priority stop lane" }
      caller.now
  | .session action window _ => fun view =>
    Domain.admitOperation (sessionOperation action) caller view window
      s!"admitted to the serial lane as a {(sessionOperation action).value} operation"
  | .configure _ candidate window _ => fun view => do
    let accepted ← Domain.admitOperation .configure caller view window
      "admitted as a daemon configuration change"
    let running ← transition
      { operationId := accepted.operationId
        toState := .running
        reason := "applying the configuration change" }
      caller.now
    applyConfiguration running candidate caller

theorem admit_eq (caller : Caller) (p : Prepared) :
    p.admitSection caller = admission p.activity p.kind caller p.expected p.check
      (p.proceed caller) := by
  cases p <;> rfl

theorem advances_proceed {caller : Caller} {p : Prepared} {view : MachineSnapshot} {d : Domain}
    (reached : view.generation ≤ d.machine.generation) :
    Advances (Admits d.nextId caller p) d (exec (p.proceed caller view) d).2 := by
  cases p with
  | submit action intent window expected => exact advances_admitOperation rfl reached
  | session action window expected => exact advances_admitOperation rfl reached
  | stop window expected =>
    refine (advances_admitOperation rfl reached).bind fun record t made => ?_
    refine advances_transition fun _ _ _ => ?_
    exact .running (admit_made made).1.new rfl fun _ normal => by cases normal
  | configure changes candidate window expected =>
    refine (advances_admitOperation rfl reached).bind fun record t admitted => ?_
    have made := (admit_made admitted).1
    refine Advances.bind (advances_transition fun _ _ _ => ?_) fun running u moved => ?_
    · exact .running made.new rfl fun _ normal => by cases normal
    · exact advances_applyConfiguration ((made.moved rfl moved).2 ▸ made.new)

theorem advances_admitting (caller : Caller) (p : Prepared) (d : Domain) :
    Advances (Admits d.nextId caller p) d (exec (p.admitSection caller) d).2 := by
  rw [admit_eq]
  rcases h : exec (admission p.activity p.kind caller p.expected p.check (p.proceed caller)) d
    with ⟨r, t⟩
  have proceeded : ∀ {u : Domain}, OnlyRead d u → Advances NoWrite d u →
      Advances (Admits d.nextId caller p) d (exec (p.proceed caller d.machine) u).2 :=
    fun only still => still.of_noWrite.trans
      ((advances_proceed (Nat.le_of_eq (congrArg _ only.machine.symm))).imp
        fun _ _ own => own.later still.supply)
  cases admission_cases idles_noWrite h with
  | unavailable still _ => exact still.of_noWrite
  | conflict still _ _ => exact still.of_noWrite
  | replayed still _ _ _ => exact still.of_noWrite
  | stale still _ _ => exact still.of_noWrite
  | unfit still _ _ _ => exact still.of_noWrite
  | admitted only still _ _ _ made =>
    have went := proceeded only still
    rw [made] at went
    exact went
  | failed only still _ _ _ broke after _ _ =>
    have went := proceeded only still
    rw [broke] at went
    exact went.trans after.of_noWrite

theorem admitted_made {caller : Caller} {p : Prepared} {d t : Domain} {record : OperationRecord}
    (h : exec (p.admitSection caller) d = (.ok (.admitted record), t)) {lane : Lane}
    (handed : p.lane = some lane) :
    Made d.nextId caller p.action record t ∧ (lane ≠ .stop → record.state = .accepted) ∧
      (lane = .stop → record.state = .running ∧ ∃ r ∈ t.db.transitions,
        r.operationId = record.operationId ∧ r.toState = .running ∧
        r.occurredAt = caller.now) := by
  rw [admit_eq] at h
  have cases' := admission_cases idles_noWrite h
  generalize at_r : (Except.ok (Admission.admitted record) : Except Raised Admission) = r at cases'
  cases cases' <;> cases at_r
  rename_i u only still absent current passed available made
  have supply := still.supply
  cases p with
  | submit action intent window expected =>
    obtain ⟨m, state⟩ := admit_made made
    refine ⟨⟨Nat.le_trans supply m.new, m.row, m.action, m.deadline⟩, fun _ => state, ?_⟩
    rintro rfl
    cases handed
  | session action window expected =>
    obtain ⟨m, state⟩ := admit_made made
    refine ⟨⟨Nat.le_trans supply m.new, m.row, m.action, m.deadline⟩, fun _ => state, ?_⟩
    rintro rfl
    cases handed
  | stop window expected =>
    cases handed
    simp only [proceed, exec_bind_eq_ok] at made
    obtain ⟨accepted, v, admitted, moved⟩ := made
    obtain ⟨m, -⟩ := admit_made admitted
    obtain ⟨m', same⟩ := m.moved rfl moved
    obtain ⟨state, r, member, named, moves, moment⟩ := transition_left moved
    refine ⟨⟨Nat.le_trans supply m'.new, m'.row, m'.action, m'.deadline⟩,
      fun other => absurd rfl other,
      fun _ => ⟨state, r, member, named.trans same.symm, moves, moment⟩⟩
  | configure changes candidate window expected => cases handed

end Prepared
end CaseSorter.Daemon
