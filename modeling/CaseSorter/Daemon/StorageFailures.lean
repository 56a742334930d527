import CaseSorter.Daemon.Domain

/-! What a failed write leaves behind. The transaction wrapper rolls back whatever
exception it is handed, so its answer depends on whether a transaction is open at
that point; a refused commit leaves one open, and the next reads see it. -/

namespace CaseSorter.Daemon

open CaseSorter.Actions CaseSorter.Transactions

namespace Journal

variable {α : Type} {body : Except Raised (Script Db Raised α)} {j : Journal}

theorem guard_served (read : Db → α) (opened : j.closed = false) :
    (guard read { j with engine := [] }).1 = .ok (read j.connection.view) := by
  simp [guard, opened]

def failurePoint (body : Except Raised (Script Db Raised α)) (j : Journal) : Option FailurePoint :=
  match body with
  | .error _ => none
  | .ok body => if j.closed then none else Transactions.failurePoint body j.engine j.connection

theorem failurePoint_eq_some {p : FailurePoint} (h : failurePoint body j = some p) :
    ∃ script, body = .ok script ∧ j.closed = false ∧
      Transactions.failurePoint script j.engine j.connection = some p := by
  cases body with
  | error e => simp [failurePoint] at h
  | ok script =>
    simp only [failurePoint] at h
    split_ifs at h with closed
    exact ⟨script, rfl, by simpa using closed, h⟩

/-- What the wrapper raises for a failure of the engine: its own `ROLLBACK` fails where
no transaction is open, and that error is not the journal's. -/
def failure (j : Journal) : FailurePoint → Raised
  | .begin => if j.connection.pending.isSome then .journalError "journal write failed"
      else .sqliteError "cannot rollback - no transaction is active"
  | .statement rolledBack =>
    if rolledBack then .sqliteError "cannot rollback - no transaction is active"
    else .journalError "journal write failed"
  | .commit => .journalError "journal commit failed"

theorem write_begin_failed (h : failurePoint body j = some .begin) :
    write body j = (.error (j.failure .begin),
      { j with connection := ⟨j.connection.committed, none⟩, engine := j.engine.tail }) := by
  obtain ⟨script, rfl, opened, at_begin⟩ := failurePoint_eq_some h
  have refused := failurePoint_begin at_begin
  obtain ⟨⟨committed, pending⟩, closed, engine⟩ := j
  simp only at opened refused
  subst opened
  simp only [write, transaction, Bool.false_eq_true, if_false, if_pos refused]
  cases pending <;> simp [rollback, Connection.rollback, failure]

theorem write_statement_failed {rolledBack : Bool}
    (h : failurePoint body j = some (.statement rolledBack)) :
    ∃ engine, write body j = (.error (j.failure (.statement rolledBack)),
      { j with engine := engine }) := by
  obtain ⟨script, rfl, opened, at_statement⟩ := failurePoint_eq_some h
  obtain ⟨served, clean⟩ := failurePoint_started at_statement (by simp)
  have ending := failurePoint_statement at_statement
  obtain ⟨⟨committed, pending⟩, closed, engine⟩ := j
  simp only at opened clean ending
  subst opened clean
  simp only [write, transaction, Bool.false_eq_true, if_false, if_neg served, ending]
  cases rolledBack <;> simp [rollback, Connection.rollback, failure]

theorem write_commit_failed (h : failurePoint body j = some .commit) :
    ∃ script a d engine, body = .ok script ∧ j.connection.pending = none ∧
      script.run [] j.connection.committed = (.returned a, d, []) ∧
      write body j = (.error (j.failure .commit),
        { j with connection := ⟨j.connection.committed, some d⟩, engine := engine }) := by
  obtain ⟨script, rfl, opened, at_commit⟩ := failurePoint_eq_some h
  obtain ⟨served, clean⟩ := failurePoint_started at_commit (by simp)
  obtain ⟨a, d, os, ending, unserved⟩ := failurePoint_commit at_commit
  obtain ⟨⟨committed, pending⟩, closed, engine⟩ := j
  simp only at opened clean ending
  subst opened clean
  refine ⟨script, a, d, os.tail, rfl, rfl, Script.run_returned ending, ?_⟩
  simp only [write, transaction, Bool.false_eq_true, if_false, if_neg served, ending,
    if_neg unserved, failure]

theorem write_failed {p : FailurePoint} (h : failurePoint body j = some p) :
    (write body j).1 = .error (j.failure p) := by
  cases p with
  | begin => rw [write_begin_failed h]
  | statement rolledBack =>
    obtain ⟨engine, failed⟩ := write_statement_failed h
    rw [failed]
  | commit =>
    obtain ⟨_, _, _, _, -, -, -, failed⟩ := write_commit_failed h
    rw [failed]

end Journal

/-- The writes of the journal. -/
inductive JournalWrite
  | admission (operation : OperationRecord) (reason : String)
      (idempotency : Option IdempotencyRecord)
  | transition (t : TransitionWrite)
  | configuration (snapshot : ConfigurationSnapshot)
  | prune (moment : Nat)

namespace JournalWrite

def Result : JournalWrite → Type
  | .admission .. => Unit
  | .transition _ => OperationRecord
  | .configuration _ => Unit
  | .prune _ => Nat

def perform : (w : JournalWrite) → Journal → Except Raised w.Result × Journal
  | .admission operation reason idempotency =>
    Journal.recordAdmission operation reason idempotency
  | .transition t => Journal.recordTransition t
  | .configuration snapshot => Journal.recordConfiguration snapshot
  | .prune moment => Journal.pruneIdempotency moment

def failurePoint (w : JournalWrite) (j : Journal) : Option FailurePoint :=
  match w with
  | .admission operation reason idempotency =>
    Journal.failurePoint (admissionScript operation reason idempotency) j
  | .transition t => Journal.failurePoint (transitionScript t) j
  | .configuration snapshot => Journal.failurePoint (configurationScript snapshot) j
  | .prune moment => Journal.failurePoint (pruneScript moment) j

end JournalWrite

inductive JournalRead
  | operation (operationId : OperationId)
  | recentOperations (limit : Nat) (before : Option Nat) (state : Option OperationState)
      (action : Option OperationAction)
  | appliedConfiguration
  | transitions (operationId : OperationId)
  | idempotencyRecord (key : String) (moment : Nat)

namespace JournalRead

def Result : JournalRead → Type
  | .operation _ => Option OperationRecord
  | .recentOperations .. => List (Nat × OperationRecord)
  | .appliedConfiguration => Option (List (String × Int) × Nat × Nat)
  | .transitions _ => List TransitionRecord
  | .idempotencyRecord .. => Option IdempotencyRecord

def perform : (r : JournalRead) → Journal → Except Raised r.Result × Journal
  | .operation operationId => Journal.operation operationId
  | .recentOperations limit before state action =>
    Journal.recentOperations limit before state action
  | .appliedConfiguration => Journal.appliedConfiguration
  | .transitions operationId => Journal.transitions operationId
  | .idempotencyRecord key moment => Journal.idempotencyRecord key moment

def answer (r : JournalRead) (j : Journal) : Except Raised r.Result :=
  (r.perform { j with engine := [] }).1

def eval : (r : JournalRead) → Db → Except Raised r.Result
  | .operation operationId, db => .ok (db.readOperation operationId)
  | .recentOperations limit before state action, db =>
    if limit < 1 then .error (.validation "limit must be positive")
    else .ok (db.recentOperations limit before state action)
  | .appliedConfiguration, db => .ok db.appliedConfiguration
  | .transitions operationId, db => .ok (db.transitionsOf operationId)
  | .idempotencyRecord key moment, db => .ok (db.idempotencyRecord key moment)

theorem answer_eq_eval (r : JournalRead) {j : Journal} (opened : j.closed = false) :
    r.answer j = r.eval j.connection.view := by
  cases r with
  | recentOperations limit before state action =>
    simp only [answer, perform, eval, Journal.recentOperations]
    split_ifs with h
    · rfl
    · exact Journal.guard_served _ opened
  | _ => exact Journal.guard_served _ opened

end JournalRead

def SameReads (d d' : Db) : Prop := ∀ r : JournalRead, r.eval d = r.eval d'

theorem answers_eq_iff {j : Journal} (opened : j.closed = false) (c : Connection Db)
    (engine : List Outcome) :
    (∀ r : JournalRead, r.answer { j with connection := c, engine := engine } = r.answer j) ↔
      SameReads c.view j.connection.view := by
  have opened' : ({ j with connection := c, engine := engine } : Journal).closed = false := opened
  simp only [SameReads, JournalRead.answer_eq_eval _ opened, JournalRead.answer_eq_eval _ opened']

theorem sameReads_iff_appliedConfiguration {d d' : Db} (operations : d'.operations = d.operations)
    (transitions : d'.transitions = d.transitions) (idempotency : d'.idempotency = d.idempotency) :
    SameReads d' d ↔ d'.appliedConfiguration = d.appliedConfiguration := by
  constructor
  · intro same
    exact Except.ok.inj (same .appliedConfiguration)
  · intro same r
    cases r with
    | operation id => simp [JournalRead.eval, Db.readOperation, operations]
    | recentOperations limit before state action =>
      simp [JournalRead.eval, Db.recentOperations, operations]
    | appliedConfiguration => exact congrArg Except.ok same
    | transitions id => simp [JournalRead.eval, Db.transitionsOf, transitions]
    | idempotencyRecord key moment => simp [JournalRead.eval, Db.idempotencyRecord, idempotency]

/-- The committed effect of a write's statements on `db`, had they been committed. -/
def Effect {α : Type} (body : Except Raised (Script Db Raised α)) (db db' : Db) : Prop :=
  ∃ script a, body = .ok script ∧ script.run [] db = (.returned a, db', [])

def CleanFailure {α : Type} (body : Except Raised (Script Db Raised α)) (j : Journal) :
    FailurePoint → Prop
  | .begin => ∃ d, j.connection.pending = some d ∧ SameReads j.connection.committed d
  | .statement rolledBack => rolledBack = false
  | .commit => ∀ d, Effect body j.connection.committed d → SameReads d j.connection.committed

theorem write_failed_iff {α : Type} {body : Except Raised (Script Db Raised α)} {j : Journal}
    {p : FailurePoint} (h : Journal.failurePoint body j = some p) :
    ((∃ m, j.failure p = .journalError m) ∧
      ∀ r : JournalRead, r.answer (Journal.write body j).2 = r.answer j) ↔
      CleanFailure body j p := by
  obtain ⟨_, -, opened, -⟩ := Journal.failurePoint_eq_some h
  cases p with
  | begin =>
    rw [Journal.write_begin_failed h, answers_eq_iff opened]
    cases hp : j.connection.pending with
    | none => simp [CleanFailure, Journal.failure, hp]
    | some d => simp [CleanFailure, Journal.failure, hp, Connection.view]
  | statement rolledBack =>
    obtain ⟨engine, failed⟩ := Journal.write_statement_failed h
    rw [failed]
    cases rolledBack with
    | false =>
      simp only [CleanFailure, iff_true]
      refine ⟨⟨_, rfl⟩, ?_⟩
      exact (answers_eq_iff opened j.connection engine).mpr fun r => rfl
    | true => simp [CleanFailure, Journal.failure]
  | commit =>
    obtain ⟨script, a, d, engine, rfl, clean, effect, failed⟩ := Journal.write_commit_failed h
    rw [failed, and_iff_right ⟨_, rfl⟩, answers_eq_iff opened]
    simp only [Connection.view, clean, Option.getD_none, Option.getD_some, CleanFailure]
    constructor
    · rintro same d' ⟨script', a', script_eq, effect'⟩
      cases script_eq
      rw [effect] at effect'
      cases effect'
      exact same
    · intro same
      exact same d ⟨script, a, rfl, effect⟩

def JournalWrite.Unnoticed : JournalWrite → Db → Prop
  | .admission .., _ => False
  | .transition _, _ => False
  | .configuration snapshot, db =>
    ∃ best, db.latestConfiguration = some best ∧
      (snapshot.generation < best.generation ∨
        snapshot.payload = best.payload ∧ snapshot.generation = best.generation ∧
          snapshot.createdAt = best.createdAt)
  | .prune moment, db => ∀ r ∈ db.idempotency, r.liveAt moment

theorem admission_noticed {operation : OperationRecord} {reason : String}
    {idempotency : Option IdempotencyRecord} {db db' : Db}
    (effect : Effect (admissionScript operation reason idempotency) db db') :
    ¬ SameReads db' db := by
  obtain ⟨script, u, ok, ran⟩ := effect
  rw [admissionScript_eq_ok ok] at ran
  obtain ⟨fresh, inserted, -⟩ := admissionBody_returned ran
  intro same
  have read : db'.readOperation operation.operationId = db.readOperation operation.operationId :=
    Except.ok.inj (same (.operation operation.operationId))
  have absent : db.readOperation operation.operationId = none := by
    rw [Db.readOperation, List.find?_eq_none]
    intro row member found
    exact fresh (List.mem_map.mpr ⟨row, member, by simpa using found⟩)
  have present : (db'.readOperation operation.operationId).isSome := by
    rw [Db.readOperation, List.find?_isSome, inserted]
    exact ⟨operation, by simp, by simp⟩
  rw [read, absent] at present
  simp at present

theorem transition_noticed {t : TransitionWrite} {db db' : Db}
    (effect : Effect (transitionScript t) db db') : ¬ SameReads db' db := by
  obtain ⟨script, result, ok, ran⟩ := effect
  obtain ⟨trusted, rfl⟩ := transitionScript_eq_ok ok
  obtain ⟨current, forward, -, -, -, -, appended, -⟩ := TransitionWrite.body_returned ran
  intro same
  have read : db'.transitionsOf t.operationId = db.transitionsOf t.operationId :=
    Except.ok.inj (same (.transitions t.operationId))
  rw [Db.transitionsOf, appended, List.filter_append] at read
  simpa [Db.transitionsOf] using congrArg List.length read

theorem configuration_noticed_iff {snapshot : ConfigurationSnapshot} {db db' : Db}
    (effect : Effect (configurationScript snapshot) db db') :
    SameReads db' db ↔ (JournalWrite.configuration snapshot).Unnoticed db := by
  obtain ⟨script, u, ok, ran⟩ := effect
  cases ok
  rw [Script.run_execute_nil] at ran
  split at ran
  · rename_i d inserted
    cases ran
    obtain ⟨o, t, i, c⟩ := Db.insertConfiguration_eq_some inserted
    rw [sameReads_iff_appliedConfiguration o t i, Db.appliedConfiguration, Db.appliedConfiguration,
      Db.latestConfiguration_insert c]
    simp only [JournalWrite.Unnoticed]
    cases hb : db.latestConfiguration with
    | none => simp
    | some best =>
      simp only [Option.some.injEq, exists_eq_left']
      split_ifs with newer
      · simp [Prod.ext_iff, Nat.not_lt.mpr newer]
      · simp [Nat.lt_of_not_le newer]
  · simp at ran

theorem prune_noticed_iff {moment : Nat} {db db' : Db}
    (effect : Effect (pruneScript moment) db db') :
    SameReads db' db ↔ (JournalWrite.prune moment).Unnoticed db := by
  obtain ⟨script, n, ok, ran⟩ := effect
  cases ok
  rw [Script.run_execute_nil] at ran
  simp only [Db.deleteExpired, Script.run_done, Prod.mk.injEq, and_true] at ran
  obtain ⟨-, rfl⟩ := ran
  constructor
  · -- a record that is gone was still answered at the moment it was created
    intro same r member
    have read := Except.ok.inj (same (.idempotencyRecord r.key r.createdAt))
    have before : db.idempotencyRecord r.key r.createdAt = some r := by
      rw [Db.idempotencyRecord, Db.find_idempotency member]
      simp [IdempotencyRecord.liveAt, r.expires_after]
    rw [before] at read
    have kept := List.mem_of_find?_eq_some (Option.filter_eq_some_iff.mp read).1
    exact (List.mem_filter.mp kept).2
  · intro live
    have kept : db.idempotency.filter (·.liveAt moment) = db.idempotency :=
      List.filter_eq_self.mpr live
    refine (sameReads_iff_appliedConfiguration ?_ ?_ ?_).mpr ?_
    · rfl
    · rfl
    · exact kept
    · rfl

/-- The condition under which a write that the engine fails at `p` is both reported as
a journal error and invisible. -/
def JournalWrite.FailsCleanly (w : JournalWrite) (j : Journal) : FailurePoint → Prop
  | .begin => ∃ d, j.connection.pending = some d ∧ SameReads j.connection.committed d
  | .statement rolledBack => rolledBack = false
  | .commit => w.Unnoticed j.connection.committed

/-- What every failing write owes: the journal's error, the fault latched by the
domain's guard around it, and reads that answer as before. -/
structure FailsClosed (w : JournalWrite) (d : Domain) (activity : String) (now : Nat) : Prop where
  raised : ∃ m, (w.perform d.journal).1 = .error (.journalError m)
  latched :
    (exec (Domain.durable activity now (Domain.onJournal w.perform)) d).2.machine.journalAvailable
    = false
  reads : ∀ r : JournalRead, r.answer (w.perform d.journal).2 = r.answer d.journal

theorem durable_latches {α : Type} (f : Journal → Except Raised α × Journal) (d : Domain)
    (activity : String) (now : Nat) {m : String}
    (raised : (f d.journal).1 = .error (.journalError m)) :
    (exec (Domain.durable activity now (Domain.onJournal f)) d).2.machine.journalAvailable
      = false := by
  have body : exec (Domain.onJournal f) d =
      (.error (.journalError m), { d with journal := (f d.journal).2 }) := by
    rw [Domain.onJournal, exec_ofEffect, raised]
  rw [Domain.durable, exec_tryCatch, body]
  simp [exec_bind, Domain.recordJournalFault, Domain.newOperationId]

theorem cleanFailure_commit {α : Type} {body : Except Raised (Script Db Raised α)} {j : Journal}
    {unnoticed : Prop} (h : Journal.failurePoint body j = some .commit)
    (noticed : ∀ d, Effect body j.connection.committed d →
      (SameReads d j.connection.committed ↔ unnoticed)) :
    CleanFailure body j .commit ↔ unnoticed := by
  obtain ⟨script, a, d, -, body_eq, -, ran, -⟩ := Journal.write_commit_failed h
  have effect : Effect body j.connection.committed d := ⟨script, a, body_eq, ran⟩
  constructor
  · intro clean
    exact (noticed d effect).mp (clean d effect)
  · intro h d' effect'
    exact (noticed d' effect').mpr h

theorem JournalWrite.perform_failed {w : JournalWrite} {j : Journal} {p : FailurePoint}
    (h : w.failurePoint j = some p) :
    (w.perform j).1 = .error (j.failure p) ∧
      (((∃ m, j.failure p = .journalError m) ∧
        ∀ r : JournalRead, r.answer (w.perform j).2 = r.answer j) ↔ w.FailsCleanly j p) := by
  cases w with
  | admission operation reason idempotency =>
    refine ⟨Journal.write_failed h, (write_failed_iff h).trans ?_⟩
    cases p with
    | commit =>
      exact cleanFailure_commit h fun d effect => iff_false_intro (admission_noticed effect)
    | _ => rfl
  | transition t =>
    have failed := Journal.write_failed h
    have same : (JournalWrite.transition t).perform j =
        (.error (j.failure p), (Journal.write (transitionScript t) j).2) := by
      simp only [JournalWrite.perform, Journal.recordTransition]
      split
      all_goals
        rename_i ran
        rw [ran] at failed ⊢
        cases failed
      rfl
    rw [same]
    refine ⟨rfl, (write_failed_iff h).trans ?_⟩
    cases p with
    | commit =>
      exact cleanFailure_commit h fun d effect => iff_false_intro (transition_noticed effect)
    | _ => rfl
  | configuration snapshot =>
    have failed : Journal.failurePoint (configurationScript snapshot) j = some p := h
    refine ⟨Journal.write_failed failed, (write_failed_iff failed).trans ?_⟩
    cases p with
    | commit => exact cleanFailure_commit h fun d effect => configuration_noticed_iff effect
    | _ => rfl
  | prune moment =>
    have failed : Journal.failurePoint (pruneScript moment) j = some p := h
    refine ⟨Journal.write_failed failed, (write_failed_iff failed).trans ?_⟩
    cases p with
    | commit => exact cleanFailure_commit h fun d effect => prune_noticed_iff effect
    | _ => rfl

/-- A write that the engine fails closed is one that failed cleanly, and no other. -/
theorem failedWrite_failsClosed (w : JournalWrite) (d : Domain) (activity : String) (now : Nat)
    (p : FailurePoint) (h : w.failurePoint d.journal = some p) :
    FailsClosed w d activity now ↔ w.FailsCleanly d.journal p := by
  obtain ⟨raises, clean⟩ := JournalWrite.perform_failed h
  rw [← clean]
  constructor
  · intro closed
    obtain ⟨m, raised⟩ := closed.raised
    rw [raises] at raised
    exact ⟨⟨m, Except.error.inj raised⟩, closed.reads⟩
  · rintro ⟨⟨m, failure⟩, reads⟩
    have raised : (w.perform d.journal).1 = .error (.journalError m) := by rw [raises, failure]
    exact ⟨⟨m, raised⟩, durable_latches w.perform d activity now raised, reads⟩

def firstConfiguration : JournalWrite :=
  .configuration ⟨0, 3, ConfigurationValues.default.asMapping, "admin:operator", 0⟩

def failingDomain (engine : List Outcome) : Domain :=
  { Domain.new .standard .empty 1 0 [] with journal := ⟨⟨.empty, none⟩, false, engine⟩ }

/-- A statement that fails and leaves its transaction to the wrapper. -/
theorem failedWrite_failsClosed_statement :
    firstConfiguration.failurePoint (failingDomain [.ok, .fail]).journal =
      some (.statement false) ∧
      FailsClosed firstConfiguration (failingDomain [.ok, .fail]) "applying a change" 0 := by
  have failed : firstConfiguration.failurePoint (failingDomain [.ok, .fail]).journal =
      some (.statement false) := by decide +kernel
  exact ⟨failed, (failedWrite_failsClosed _ _ _ _ _ failed).mpr rfl⟩

/-- A busy `BEGIN` surfaces as the engine's own error, and a refused `COMMIT` leaves its
row for the next read. -/
theorem failedWrite_failsOpen :
    (firstConfiguration.failurePoint (failingDomain [.fail]).journal = some .begin ∧
      ¬ FailsClosed firstConfiguration (failingDomain [.fail]) "applying a change" 0) ∧
    (firstConfiguration.failurePoint (failingDomain [.ok, .ok, .fail]).journal = some .commit ∧
      ¬ FailsClosed firstConfiguration (failingDomain [.ok, .ok, .fail])
        "applying a change" 0) := by
  refine ⟨⟨by decide +kernel, ?_⟩, ⟨by decide +kernel, ?_⟩⟩
  · intro closed
    obtain ⟨m, raised⟩ := closed.raised
    have engineError : (firstConfiguration.perform (failingDomain [.fail]).journal).1 =
        .error (.sqliteError "cannot rollback - no transaction is active") := rfl
    rw [engineError] at raised
    cases raised
  · intro closed
    have read := closed.reads .appliedConfiguration
    have before : JournalRead.answer .appliedConfiguration
        (failingDomain [.ok, .ok, .fail]).journal = .ok none := rfl
    have after : JournalRead.answer .appliedConfiguration
        (firstConfiguration.perform (failingDomain [.ok, .ok, .fail]).journal).2 =
        .ok (some (ConfigurationValues.default.asMapping, 3, 0)) := rfl
    rw [before, after] at read
    cases read

end CaseSorter.Daemon
