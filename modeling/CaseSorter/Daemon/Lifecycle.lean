import CaseSorter.Daemon.Commits

/-! The lifecycle the journal records. Over storage that never fails, whatever is asked of
it, the entries of each operation lead from its admission to the state of its row. -/

namespace CaseSorter.Daemon

open CaseSorter.Transactions

/-- The entries of one operation, oldest first: they lead from its admission to `state`,
step by allowed step, and never back in generation. -/
inductive Path : List TransitionRecord → OperationState → Nat → Prop
  | admitted {r : TransitionRecord} (first : r.fromState = none) (queued : r.toState = .queued) :
    Path [r] .queued r.generation
  | moved {entries : List TransitionRecord} {state : OperationState} {generation : Nat}
      {r : TransitionRecord} (before : Path entries state generation)
      (next : r.fromState = some state) (allowed : canTransition state r.toState = true)
      (forward : generation ≤ r.generation) : Path (entries ++ [r]) r.toState r.generation

/-- The row, the log and the marks of an end agree. -/
structure Lifecycle (db : Db) : Prop where
  paths :
    ∀ row ∈ db.operations, Path (db.transitionsOf row.operationId) row.state row.generation
  terminalAt : ∀ row ∈ db.operations, row.terminalAt.isSome = isTerminal row.state
  trusted : ∀ row ∈ db.operations, row.trustedTerminal = true ↔ row.state = .succeeded
  entries : ∀ r ∈ db.transitions, r.operationId ∈ db.operationIds

theorem lifecycle_empty : Lifecycle .empty := by
  refine ⟨?_, ?_, ?_, ?_⟩ <;> intro row member <;> exact absurd member List.not_mem_nil

section Writes

variable {db db' : Db}

theorem transitionsOf_append {i : OperationId} {r : TransitionRecord}
    (h : db'.transitions = db.transitions ++ [r]) :
    db'.transitionsOf i = db.transitionsOf i ++ if r.operationId = i then [r] else [] := by
  rw [Db.transitionsOf, h, List.filter_append, Db.transitionsOf, List.filter_singleton]
  congr 1
  by_cases same : r.operationId = i <;> simp [same]

theorem lifecycle_admission {operation : OperationRecord} {reason : String}
    {key : Option IdempotencyRecord} (life : Lifecycle db) (unended : operation.terminalAt = none)
    (h : (JournalWrite.admission operation reason key).Changes db db') : Lifecycle db' := by
  obtain ⟨fresh, rows, log, -⟩ := changes_admission h
  obtain ⟨script, -, ok, -⟩ := h
  have queued := admissionScript_queued ok
  have absent : db.transitionsOf operation.operationId = [] := by
    refine List.filter_eq_nil_iff.mpr fun r member own => fresh ?_
    rw [← of_decide_eq_true own]
    exact life.entries r member
  have ids : db'.operationIds = db.operationIds ++ [operation.operationId] := by
    rw [Db.operationIds, rows, List.map_append, Db.operationIds, List.map_singleton]
  refine ⟨fun row member => ?_, fun row member => ?_, fun row _ => row.trusted_iff,
    fun r member => ?_⟩
  · rw [rows] at member
    rw [transitionsOf_append log]
    rcases List.mem_append.mp member with old | new
    · have other : operation.operationId ≠ row.operationId := fun same =>
        fresh (same ▸ List.mem_map.mpr ⟨row, old, rfl⟩)
      rw [if_neg other, List.append_nil]
      exact life.paths row old
    · rw [List.mem_singleton.mp new, absent, if_pos rfl, queued]
      exact .admitted rfl rfl
  · rw [rows] at member
    rcases List.mem_append.mp member with old | new
    · exact life.terminalAt row old
    · rw [List.mem_singleton.mp new, unended, queued]
      rfl
  · rw [log] at member
    rw [ids]
    rcases List.mem_append.mp member with old | new
    · exact List.mem_append_left _ (life.entries r old)
    · rw [List.mem_singleton.mp new]
      exact List.mem_append_right _ (List.mem_singleton_self _)

theorem lifecycle_transition {t : TransitionWrite} (life : Lifecycle db)
    (h : (JournalWrite.transition t).Changes db db') : Lifecycle db' := by
  obtain ⟨current, forward, trusted, found, allowed, rows, log, -⟩ := changes_transition h
  have named : current.operationId = t.operationId := Db.readOperation_operationId found
  have stored : current ∈ db.operations := List.mem_of_find?_eq_some found
  have known : t.operationId ∈ db.operationIds := Db.mem_operationIds_iff.mpr ⟨current, found⟩
  have ids : db'.operationIds = db.operationIds := by
    rw [Db.operationIds, rows, Db.replaceOperation_ids, Db.operationIds]
  -- a row of the new table is an old one of another operation, or the one that has moved
  have split :
      ∀ row ∈ db'.operations, (row ∈ db.operations ∧ row.operationId ≠ t.operationId) ∨
        row = t.move current forward trusted := by
    intro row member
    rw [rows, Db.replaceOperation, List.mem_map] at member
    obtain ⟨old, was, rfl⟩ := member
    split_ifs with same
    · exact .inr rfl
    · exact .inl ⟨was, fun own => same (own.trans named.symm)⟩
  refine ⟨fun row member => ?_, fun row member => ?_, fun row _ => row.trusted_iff,
    fun r member => ?_⟩
  · rw [transitionsOf_append log]
    rcases split row member with ⟨old, other⟩ | rfl
    · rw [if_neg fun own => other (Eq.symm own), List.append_nil]
      exact life.paths row old
    · have own : t.operationId = (t.move current forward trusted).operationId := named.symm
      rw [if_pos own]
      exact .moved (life.paths current stored) rfl allowed forward
  · rcases split row member with ⟨old, -⟩ | rfl
    · exact life.terminalAt row old
    · show (if isTerminal t.toState then some t.occurredAt else none).isSome = isTerminal t.toState
      cases isTerminal t.toState <;> rfl
  · rw [log] at member
    rw [ids]
    rcases List.mem_append.mp member with old | new
    · exact life.entries r old
    · rw [List.mem_singleton.mp new]
      exact known

end Writes

/-- A call of the journal that is about operations. -/
inductive JournalCall
  | recordAdmission (operation : OperationRecord) (reason : String)
      (idempotency : Option IdempotencyRecord)
  | recordTransition (t : TransitionWrite)

namespace JournalCall

def perform (j : Journal) : JournalCall → Except Raised (Option OperationRecord) × Journal
  | .recordAdmission operation reason idempotency =>
    let (r, j') := Journal.recordAdmission operation reason idempotency j
    (r.map fun _ => none, j')
  | .recordTransition t =>
    let (r, j') := Journal.recordTransition t j
    (r.map some, j')

/-- The domain admits operations that have not ended. -/
def Unended : JournalCall → Prop
  | .recordAdmission operation _ _ => operation.terminalAt = none
  | .recordTransition _ => True

def write : JournalCall → JournalWrite
  | .recordAdmission operation reason idempotency => .admission operation reason idempotency
  | .recordTransition t => .transition t

theorem perform_open (call : JournalCall) (db : Db) :
    (∃ r db', call.perform (Journal.open db) = (.ok r, Journal.open db') ∧
        call.write.Changes db db') ∨
      ∃ e, call.perform (Journal.open db) = (.error e, Journal.open db) := by
  have wrote : ∀ {α : Type} (body : Except Raised (Script Db Raised α)),
      (∃ a db', Journal.write body (Journal.open db) = (.ok a, Journal.open db') ∧
          Effect body db db') ∨
        ∃ e, Journal.write body (Journal.open db) = (.error e, Journal.open db) := by
    intro α body
    cases body with
    | error e => exact .inr ⟨e, rfl⟩
    | ok script =>
      rw [Journal.write_open]
      cases ending : (script.run [] db).1 with
      | returned a => exact .inl ⟨a, _, rfl, script, a, rfl, Script.run_nil_eq ending⟩
      | raised e => exact .inr ⟨e, rfl⟩
      | refused rolledBack => exact .inr ⟨_, rfl⟩
  cases call with
  | recordAdmission operation reason idempotency =>
    rcases wrote (admissionScript operation reason idempotency) with ⟨a, db', ran, effect⟩ |
      ⟨e, ran⟩
    · refine .inl ⟨none, db', ?_, effect⟩
      simp only [perform, Journal.recordAdmission, ran, Except.map]
    · refine .inr ⟨e, ?_⟩
      simp only [perform, Journal.recordAdmission, ran, Except.map]
  | recordTransition t =>
    rcases wrote (transitionScript t) with ⟨a, db', ran, effect⟩ | ⟨e, ran⟩
    · rcases recorded : Journal.recordTransition t (Journal.open db) with ⟨e | updated, j⟩
      · rw [Journal.recordTransition_error recorded] at ran
        cases ran
      · have same : j = Journal.open db' := by
          simp only [Journal.recordTransition, ran] at recorded
          cases a with
          | none => cases recorded
          | some updated' =>
            cases recorded
            rfl
        refine .inl ⟨some updated, db', ?_, effect⟩
        simp only [perform, recorded, Except.map, same]
    · refine .inr ⟨e, ?_⟩
      simp only [perform, Journal.recordTransition, ran, Except.map]

/-- The journal after a sequence of calls, whatever each of them came to. -/
def performAll (j : Journal) (calls : List JournalCall) : Journal :=
  calls.foldl (fun j call => (call.perform j).2) j

theorem performAll_open {P : Db → Prop}
    (preserve : ∀ (call : JournalCall) db db', call.Unended → P db →
      call.write.Changes db db' → P db') (calls : List JournalCall) (db : Db) (holds : P db)
    (unended : ∀ call ∈ calls, call.Unended) :
    ∃ db', performAll (Journal.open db) calls = Journal.open db' ∧ P db' := by
  induction calls generalizing db with
  | nil => exact ⟨db, rfl, holds⟩
  | cons call calls ih =>
    have rest := fun c member => unended c (List.mem_cons_of_mem call member)
    have step : performAll (Journal.open db) (call :: calls) =
      performAll (call.perform (Journal.open db)).2 calls := rfl
    rw [step]
    rcases call.perform_open db with ⟨r, db', ran, changed⟩ | ⟨e, ran⟩
    · rw [ran]
      exact ih db' (preserve call db db' (unended call List.mem_cons_self) holds changed) rest
    · rw [ran]
      exact ih db holds rest

theorem lifecycle_preserved {call : JournalCall} {db db' : Db} (unended : call.Unended)
    (life : Lifecycle db) (changed : call.write.Changes db db') : Lifecycle db' := by
  cases call with
  | recordAdmission operation reason idempotency => exact lifecycle_admission life unended changed
  | recordTransition t => exact lifecycle_transition life changed

/-- After any calls on storage that never fails: the tables are in lifecycle order, no
later call changes the row of an operation that has ended, and a call that raises changes
nothing. -/
theorem journal_lifecycle (calls : List JournalCall) (unended : ∀ call ∈ calls, call.Unended) :
    ∃ db, performAll (Journal.open .empty) calls = Journal.open db ∧ Lifecycle db ∧
      (∀ i row, db.readOperation i = some row → isTerminal row.state = true →
        ∀ more : List JournalCall, (∀ call ∈ more, call.Unended) →
          (performAll (Journal.open db) more).connection.committed.readOperation i = some row) ∧
      ∀ (call : JournalCall) (e : Raised) (j : Journal),
        call.perform (Journal.open db) = (.error e, j) → j = Journal.open db := by
  obtain ⟨db, reached, life⟩ := performAll_open (P := Lifecycle)
    (fun _ _ _ unended life changed => lifecycle_preserved unended life changed) calls .empty
    lifecycle_empty unended
  refine ⟨db, reached, life, fun i row found ended more later => ?_, fun call e j raised => ?_⟩
  · obtain ⟨db', after, still⟩ :=
      performAll_open (P := fun db => db.readOperation i = some row)
      (fun call before db' _ found changed => by
        obtain ⟨row', found', moved⟩ := changed.later found
        rw [found', moved.of_terminal ended]) more db found later
    rw [after]
    exact still
  · rcases call.perform_open db with ⟨r, db', ran, -⟩ | ⟨e', ran⟩
    · rw [ran] at raised
      cases raised
    · rw [ran] at raised
      cases raised
      rfl

def homeOperation : OperationRecord where
  operationId := 0
  action := .home
  fingerprint := "home"
  state := .queued
  generation := 1
  createdAt := 0
  deadlineAt := 1000
  actor := ⟨"operator", "admin"⟩
  trustedTerminal := false
  outcome := none
  terminalAt := none
  protocolRequestId := none
  terminalFields := none
  generation_pos := by decide
  deadline_after := by decide
  trusted_iff := queued_untrusted

def homeFails : List JournalCall :=
  [.recordAdmission homeOperation "admitted" none,
    .recordTransition ⟨{ operationId := 0, toState := .accepted, reason := "accepted" }, 2, 1⟩,
    .recordTransition ⟨{ operationId := 0, toState := .running, reason := "dispatched" }, 3, 2⟩,
    .recordTransition ⟨{ operationId := 0, toState := .failed, reason := "failed" }, 4, 3⟩]

theorem journal_lifecycle_home : ∃ db, performAll
    (Journal.open .empty) homeFails = Journal.open db ∧
    Lifecycle db ∧ db.operations.map (·.state) = [.failed] := by
  obtain ⟨db, reached, life, -⟩ := journal_lifecycle homeFails (by
    simp [homeFails, Unended, homeOperation])
  refine ⟨db, reached, life, ?_⟩
  have same : db = (performAll (Journal.open .empty) homeFails).connection.committed := by
    rw [reached]
    rfl
  rw [same]
  decide +kernel

end JournalCall
end CaseSorter.Daemon
