import Mathlib.Logic.Relation
import CaseSorter.Daemon.HealthyStorage
import CaseSorter.Daemon.StorageFailures

/-! What a domain action may commit. Whatever the engine does, the tables move only by
whole writes, and a transaction that is left open holds one write that was not committed.
Each action is described by the writes it makes, on the tables it makes them to. -/

namespace CaseSorter.Daemon

open CaseSorter.Actions CaseSorter.Transactions

def JournalWrite.Changes : JournalWrite → Db → Db → Prop
  | .admission operation reason key => Effect (admissionScript operation reason key)
  | .transition t => Effect (transitionScript t)
  | .configuration snapshot => Effect (configurationScript snapshot)
  | .prune moment => Effect (pruneScript moment)

/-- A sequence of committed writes, each of which `P` allows on the tables it finds. -/
def Commits (P : Db → JournalWrite → Prop) : Db → Db → Prop :=
  Relation.ReflTransGen fun db db' => ∃ w, P db w ∧ w.Changes db db'

theorem Commits.imp {P Q : Db → JournalWrite → Prop} {db db' : Db} (h : Commits P db db')
    (imp : ∀ db w, P db w → Q db w) : Commits Q db db' :=
  Relation.ReflTransGen.mono (fun _ _ ⟨w, allowed, changed⟩ =>
    ⟨w, imp _ w allowed, changed⟩) _ _ h

theorem changes_admission {operation : OperationRecord} {reason : String}
    {key : Option IdempotencyRecord} {db db' : Db}
    (h : (JournalWrite.admission operation reason key).Changes db db') :
    operation.operationId ∉ db.operationIds ∧ db'.operations = db.operations ++ [operation] ∧
      db'.transitions = db.transitions ++
        [⟨db.transitions.length + 1, operation.operationId, none,
        operation.state, operation.generation, operation.createdAt, reason⟩] ∧
      db'.idempotency = db.idempotency ++ key.toList ∧
      db'.configurations = db.configurations := by
  obtain ⟨script, u, ok, ran⟩ := h
  rw [admissionScript_eq_ok ok] at ran
  exact admissionBody_returned ran

theorem changes_transition {t : TransitionWrite} {db db' : Db}
    (h : (JournalWrite.transition t).Changes db db') :
    ∃ current forward trusted, db.readOperation t.operationId = some current ∧
      canTransition current.state t.toState = true ∧
      db'.operations = Db.replaceOperation (t.move current forward trusted) db.operations ∧
      db'.transitions = db.transitions ++ [⟨db.transitions.length + 1, t.operationId,
        some current.state, t.toState, t.generation, t.occurredAt, t.reason⟩] ∧
      db'.idempotency = db.idempotency ∧ db'.configurations = db.configurations := by
  obtain ⟨script, result, ok, ran⟩ := h
  obtain ⟨trusted, rfl⟩ := transitionScript_eq_ok ok
  obtain ⟨current, forward, found, allowed, -, rest⟩ := TransitionWrite.body_returned ran
  exact ⟨current, forward, trusted, found, allowed, rest⟩

theorem changes_configuration {snapshot : ConfigurationSnapshot} {db db' : Db}
    (h : (JournalWrite.configuration snapshot).Changes db db') :
    db'.operations = db.operations ∧ db'.transitions = db.transitions ∧
      db'.idempotency = db.idempotency ∧
      db'.configurations = db.configurations ++ [snapshot] := by
  obtain ⟨script, u, ok, ran⟩ := h
  cases ok
  rw [Script.run_execute_nil] at ran
  split at ran
  · rename_i d inserted
    cases ran
    exact Db.insertConfiguration_eq_some inserted
  · simp at ran

theorem changes_prune {moment : Nat} {db db' : Db}
    (h : (JournalWrite.prune moment).Changes db db') :
    db'.operations = db.operations ∧ db'.transitions = db.transitions ∧
      db'.idempotency = db.idempotency.filter (·.liveAt moment) ∧
      db'.configurations = db.configurations := by
  obtain ⟨script, n, ok, ran⟩ := h
  cases ok
  rw [Script.run_execute_nil] at ran
  simp only [Db.deleteExpired, Script.run_done, Prod.mk.injEq, and_true] at ran
  obtain ⟨-, rfl⟩ := ran
  exact ⟨rfl, rfl, rfl, rfl⟩

def OperationState.rank : OperationState → Nat
  | .queued => 0
  | .accepted => 1
  | .running => 2
  | .succeeded | .failed | .cancelled | .uncertain => 3

theorem rank_lt_of_canTransition {a b : OperationState} (h : canTransition a b = true) :
    a.rank < b.rank := by
  cases a <;> cases b <;> first | decide | cases h

theorem isTerminal_iff_rank (s : OperationState) : isTerminal s = true ↔ 3 ≤ s.rank := by
  cases s <;> decide

theorem rank_le (s : OperationState) : s.rank ≤ 3 := by
  cases s <;> decide

/-- The row of an operation as later writes may leave it: what was asked for stays, and
its state only moves on. -/
structure OperationRecord.Later (r r' : OperationRecord) : Prop where
  operationId : r'.operationId = r.operationId
  action : r'.action = r.action
  deadlineAt : r'.deadlineAt = r.deadlineAt
  state : r' = r ∨ r.state.rank < r'.state.rank

theorem OperationRecord.later_refl (r : OperationRecord) : r.Later r :=
  ⟨rfl, rfl, rfl, .inl rfl⟩

theorem OperationRecord.Later.trans {r s t : OperationRecord} (h : r.Later s) (h' : s.Later t) :
    r.Later t := by
  refine ⟨h'.operationId.trans h.operationId, h'.action.trans h.action,
    h'.deadlineAt.trans h.deadlineAt, ?_⟩
  rcases h'.state with rfl | further
  · exact h.state
  · rcases h.state with rfl | before
    · exact .inr further
    · exact .inr (Nat.lt_trans before further)

theorem OperationRecord.Later.rank_le {r r' : OperationRecord} (h : r.Later r') :
    r.state.rank ≤ r'.state.rank := by
  rcases h.state with rfl | further
  · exact Nat.le_refl _
  · exact Nat.le_of_lt further

theorem OperationRecord.Later.of_terminal {r r' : OperationRecord} (h : r.Later r')
    (ended : isTerminal r.state = true) : r' = r := by
  rcases h.state with same | further
  · exact same
  · have top := CaseSorter.Daemon.rank_le r'.state
    rw [isTerminal_iff_rank] at ended
    omega

theorem later_move {t : TransitionWrite} {current : OperationRecord}
    (forward : current.generation ≤ t.generation)
    (trusted : t.trustedTerminal = true ↔ t.toState = .succeeded)
    (allowed : canTransition current.state t.toState = true) :
    current.Later (t.move current forward trusted) :=
  ⟨rfl, rfl, rfl, .inr (rank_lt_of_canTransition allowed)⟩

theorem readOperation_insert {operation : OperationRecord} {db db' : Db} {i : OperationId}
    (h : db'.operations = db.operations ++ [operation]) {r : OperationRecord}
    (found : db.readOperation i = some r) : db'.readOperation i = some r := by
  rw [Db.readOperation, h, List.find?_append, show db.operations.find? _ = some r from found]
  rfl

theorem readOperation_new {operation : OperationRecord} {db db' : Db}
    (h : db'.operations = db.operations ++ [operation])
    (fresh : operation.operationId ∉ db.operationIds) :
    db'.readOperation operation.operationId = some operation := by
  have absent : db.operations.find? (·.operationId = operation.operationId) = none := by
    rw [List.find?_eq_none]
    intro row member found
    exact fresh (List.mem_map.mpr ⟨row, member, by simpa using found⟩)
  rw [Db.readOperation, h, List.find?_append, absent]
  simp

theorem readOperation_replace {operation : OperationRecord} {db db' : Db}
    (h : db'.operations = Db.replaceOperation operation db.operations) (i : OperationId) :
    db'.readOperation i = (db.readOperation i).map fun row =>
      if row.operationId = operation.operationId then operation else row := by
  rw [Db.readOperation, h, Db.readOperation, Db.replaceOperation, List.find?_map]
  congr 2
  funext row
  simp only [Function.comp_apply]
  split_ifs with same
  · rw [same]
  · rfl

theorem JournalWrite.Changes.later {w : JournalWrite} {db db' : Db} (h : w.Changes db db')
    {i : OperationId} {r : OperationRecord} (found : db.readOperation i = some r) :
    ∃ r', db'.readOperation i = some r' ∧ r.Later r' := by
  cases w with
  | admission operation reason key =>
    obtain ⟨-, inserted, -⟩ := changes_admission h
    exact ⟨r, readOperation_insert inserted found, r.later_refl⟩
  | transition t =>
    obtain ⟨current, forward, trusted, read, allowed, replaced, -⟩ := changes_transition h
    rw [readOperation_replace replaced, found, Option.map_some]
    refine ⟨_, rfl, ?_⟩
    have id_eq := Db.readOperation_operationId found
    split_ifs with same
    · have own : r = current := by
        have named : current.operationId = t.operationId := Db.readOperation_operationId read
        rw [id_eq.symm.trans (same.trans named), read] at found
        exact (Option.some.inj found).symm
      rw [own]
      exact later_move forward trusted allowed
    · exact r.later_refl
  | configuration snapshot =>
    obtain ⟨same, -⟩ := changes_configuration h
    exact ⟨r, by rw [Db.readOperation, same]; exact found, r.later_refl⟩
  | prune moment =>
    obtain ⟨same, -⟩ := changes_prune h
    exact ⟨r, by rw [Db.readOperation, same]; exact found, r.later_refl⟩

theorem Commits.later {P : Db → JournalWrite → Prop} {db db' : Db} (h : Commits P db db')
    {i : OperationId} {r : OperationRecord} (found : db.readOperation i = some r) :
    ∃ r', db'.readOperation i = some r' ∧ r.Later r' := by
  induction h with
  | refl => exact ⟨r, found, r.later_refl⟩
  | tail _ last ih =>
    obtain ⟨w, -, changed⟩ := last
    obtain ⟨r', read, later⟩ := ih
    obtain ⟨r'', read', later'⟩ := changed.later read
    exact ⟨r'', read', later.trans later'⟩

def JournalWrite.Records (db : Db) (r : TransitionRecord) : JournalWrite → Prop
  | .admission operation _ _ => r.operationId = operation.operationId ∧ r.fromState = none ∧
      r.toState = .queued ∧ operation.operationId ∉ db.operationIds
  | .transition t => r.operationId = t.operationId ∧ r.toState = t.toState ∧
      r.occurredAt = t.occurredAt ∧ ∃ current, db.readOperation t.operationId = some current ∧
        r.fromState = some current.state ∧ canTransition current.state t.toState = true
  | .configuration _ | .prune _ => False

theorem admissionScript_queued {operation : OperationRecord} {reason : String}
    {key : Option IdempotencyRecord} {script : Script Db Raised Unit}
    (h : admissionScript operation reason key = .ok script) : operation.state = .queued := by
  unfold admissionScript at h
  split_ifs at h with queued
  exact not_not.mp queued

theorem JournalWrite.Changes.transitions {w : JournalWrite} {db db' : Db} (h : w.Changes db db')
    (r : TransitionRecord) :
    (r ∈ db.transitions → r ∈ db'.transitions) ∧
      (r ∈ db'.transitions → r ∈ db.transitions ∨ w.Records db r) := by
  cases w with
  | admission operation reason key =>
    obtain ⟨fresh, -, appended, -⟩ := changes_admission h
    obtain ⟨script, -, ok, -⟩ := h
    rw [appended]
    refine ⟨List.mem_append_left _, fun member =>
      (List.mem_append.mp member).imp_right fun new => ?_⟩
    rw [List.mem_singleton.mp new]
    exact ⟨rfl, rfl, admissionScript_queued ok, fresh⟩
  | transition t =>
    obtain ⟨current, -, -, read, allowed, -, appended, -⟩ := changes_transition h
    rw [appended]
    refine ⟨List.mem_append_left _, fun member =>
      (List.mem_append.mp member).imp_right fun new => ?_⟩
    rw [List.mem_singleton.mp new]
    exact ⟨rfl, rfl, rfl, current, read, rfl, allowed⟩
  | configuration snapshot =>
    rw [(changes_configuration h).2.1]
    exact ⟨id, .inl⟩
  | prune moment =>
    rw [(changes_prune h).2.1]
    exact ⟨id, .inl⟩

theorem Commits.kept {P : Db → JournalWrite → Prop} {db db' : Db} (h : Commits P db db')
    {r : TransitionRecord} (member : r ∈ db.transitions) : r ∈ db'.transitions := by
  induction h with
  | refl => exact member
  | tail _ last ih =>
    obtain ⟨w, -, changed⟩ := last
    exact (changed.transitions r).1 ih

theorem Commits.recorded {P : Db → JournalWrite → Prop} {db db' : Db} (h : Commits P db db')
    {r : TransitionRecord} (member : r ∈ db'.transitions) :
    r ∈ db.transitions ∨ ∃ mid w, Commits P db mid ∧ P mid w ∧ w.Records mid r ∧
      Commits P mid db' := by
  induction h with
  | refl => exact .inl member
  | tail before last ih =>
    obtain ⟨w, allowed, changed⟩ := last
    rcases (changed.transitions r).2 member with old | records
    · rcases ih old with earlier | ⟨mid, v, first, allowed', records, rest⟩
      · exact .inl earlier
      · exact .inr ⟨mid, v, first, allowed', records, rest.tail ⟨w, allowed, changed⟩⟩
    · exact .inr ⟨_, w, before, allowed, records, .single ⟨w, allowed, changed⟩⟩

theorem JournalWrite.Changes.entered {w : JournalWrite} {db db' : Db} (h : w.Changes db db')
    {i : OperationId} {row : OperationRecord} (read : db'.readOperation i = some row) :
    db.readOperation i = some row ∨
      ∃ r ∈ db'.transitions, r.operationId = i ∧ r.toState = row.state ∧
      w.Records db r := by
  cases w with
  | admission operation reason key =>
    obtain ⟨fresh, inserted, appended, -⟩ := changes_admission h
    obtain ⟨script, -, ok, -⟩ := h
    rw [Db.readOperation, inserted, List.find?_append, Option.or_eq_some_iff] at read
    refine read.imp id fun added => ?_
    have new := added.2
    obtain rfl := List.mem_singleton.mp (List.mem_of_find?_eq_some new)
    refine ⟨_, appended ▸ List.mem_append_right _ (List.mem_singleton_self _),
      ?_, rfl, rfl, rfl, admissionScript_queued ok, fresh⟩
    simpa using List.find?_some new
  | transition t =>
    obtain ⟨current, forward, trusted, found, allowed, replaced, appended, -⟩ :=
      changes_transition h
    rw [readOperation_replace replaced, Option.map_eq_some_iff] at read
    obtain ⟨old, was, rfl⟩ := read
    split_ifs with same
    · refine .inr ⟨_, appended ▸ List.mem_append_right _
        (List.mem_singleton_self _), ?_, rfl, rfl, rfl, rfl, current, found, rfl, allowed⟩
      have named : current.operationId = t.operationId := Db.readOperation_operationId found
      exact named.symm.trans (same.symm.trans (Db.readOperation_operationId was))
    · exact .inl was
  | configuration snapshot =>
    rw [Db.readOperation, (changes_configuration h).1] at read
    exact .inl read
  | prune moment =>
    rw [Db.readOperation, (changes_prune h).1] at read
    exact .inl read

theorem Commits.entered {P : Db → JournalWrite → Prop} {db db' : Db} (h : Commits P db db')
    {i : OperationId} {row : OperationRecord} (read : db'.readOperation i = some row) :
    db.readOperation i = some row ∨
      ∃ r ∈ db'.transitions, r.operationId = i ∧ r.toState = row.state ∧
        ∃ mid w, Commits P db mid ∧ P mid w ∧ w.Records mid r ∧ Commits P mid db' := by
  induction h with
  | refl => exact .inl read
  | tail before last ih =>
    obtain ⟨w, allowed, changed⟩ := last
    rcases changed.entered read with old | ⟨r, member, named, state, records⟩
    · rcases ih old with earlier |
        ⟨r, member, named, state, mid, v, first, permitted, records, rest⟩
      · exact .inl earlier
      · exact .inr ⟨r, (changed.transitions r).1 member, named, state, mid, v, first, permitted,
          records, rest.tail ⟨w, allowed, changed⟩⟩
    · exact .inr ⟨r, member, named, state, _, w, before, allowed, records,
        .single ⟨w, allowed, changed⟩⟩

theorem Commits.configurations {P : Db → JournalWrite → Prop} {db db' : Db}
    (h : Commits P db db')
    {c : ConfigurationSnapshot} (member : c ∈ db.configurations) : c ∈ db'.configurations := by
  induction h with
  | refl => exact member
  | tail _ last ih =>
    obtain ⟨w, -, changed⟩ := last
    cases w with
    | admission operation reason key =>
      rw [(changes_admission changed).2.2.2.2]
      exact ih
    | transition t =>
      obtain ⟨-, -, -, -, -, -, -, -, same⟩ := changes_transition changed
      rw [same]
      exact ih
    | configuration snapshot =>
      rw [(changes_configuration changed).2.2.2]
      exact List.mem_append_left _ ih
    | prune moment =>
      rw [(changes_prune changed).2.2.2]
      exact ih

namespace Journal

variable {α : Type}

theorem write_error {body : Except Raised (Script Db Raised α)} {j j' : Journal} {e : Raised}
    (h : write body j = (.error e, j')) :
    j'.connection.committed = j.connection.committed ∧
      ∀ p, j'.connection.pending = some p → j.connection.pending = some p ∨
        (j.connection.pending = none ∧ Effect body j.connection.committed p) := by
  cases body with
  | error x =>
    cases h
    exact ⟨rfl, fun p => .inl⟩
  | ok script =>
    have rolledBack : ∀ (c : Connection Db) (x : Raised),
      (rollback c x).2.committed = c.committed ∧
        (rollback c x).2.pending = none := by
      intro c x
      rcases c with ⟨committed, _ | pending⟩ <;> exact ⟨rfl, rfl⟩
    simp only [write, transaction] at h
    by_cases closed : j.closed = true
    · rw [if_pos closed] at h
      cases h
      exact ⟨rfl, fun p => .inl⟩
    rw [if_neg closed] at h
    by_cases refused : j.engine.headD .ok ≠ .ok ∨ j.connection.pending.isSome
    · rw [if_pos refused] at h
      cases h
      obtain ⟨same, none⟩ := rolledBack j.connection (.journalError "journal write failed")
      exact ⟨same, fun p open' => by rw [none] at open'; cases open'⟩
    rw [if_neg refused] at h
    have clean : j.connection.pending = none := by simpa using (not_or.mp refused).2
    rcases ran : script.run j.engine.tail j.connection.committed with ⟨a | x | inEngine, d, os⟩
    · simp only [ran] at h
      by_cases served : os.headD .ok = .ok
      · rw [if_pos served] at h
        cases h
      rw [if_neg served] at h
      cases h
      refine ⟨rfl, fun p open' => .inr ⟨clean, script, a, rfl, ?_⟩⟩
      cases open'
      exact Script.run_returned ran
    · simp only [ran] at h
      cases h
      obtain ⟨same, none⟩ := rolledBack ⟨j.connection.committed, some d⟩ x
      exact ⟨same, fun p open' => by rw [none] at open'; cases open'⟩
    · simp only [ran] at h
      cases inEngine <;> cases h <;> exact ⟨rfl, fun p open' => by cases open'⟩

theorem recordTransition_ok {t : TransitionWrite} {j j' : Journal} {record : OperationRecord}
    (h : recordTransition t j = (.ok record, j')) :
    j.connection.pending = none ∧ ∃ db', (JournalWrite.transition t).Changes
      j.connection.committed db' ∧
      j'.connection = ⟨db', none⟩ ∧ db'.readOperation t.operationId = some record := by
  unfold recordTransition at h
  rcases hw : write (transitionScript t) j with ⟨e | _ | updated, j''⟩
  · rw [hw] at h
    cases h
  · rw [hw] at h
    cases h
  · rw [hw] at h
    cases h
    cases hs : transitionScript t with
    | error e =>
      rw [hs] at hw
      cases hw
    | ok script =>
      rw [hs] at hw
      obtain ⟨clean, -, db', ran, connection⟩ := transaction_eq_ok hw
      obtain ⟨trusted, rfl⟩ := transitionScript_eq_ok hs
      obtain ⟨-, -, -, -, read, -⟩ := TransitionWrite.body_returned ran
      exact ⟨clean, db', ⟨_, _, hs, ran⟩, connection, read.symm⟩

theorem recordTransition_error {t : TransitionWrite} {j j' : Journal} {e : Raised}
    (h : recordTransition t j = (.error e, j')) :
    write (transitionScript t) j = (.error e, j') := by
  unfold recordTransition at h
  rcases hw : write (transitionScript t) j with ⟨x | _ | updated, j''⟩
  · rw [hw] at h
    cases h
    rfl
  · cases hs : transitionScript t with
    | error x =>
      rw [hs] at hw
      cases hw
    | ok script =>
      rw [hs] at hw
      obtain ⟨-, -, db', ran, -⟩ := transaction_eq_ok hw
      obtain ⟨trusted, rfl⟩ := transitionScript_eq_ok hs
      obtain ⟨current, forward, found, -, read, replaced, -⟩ :=
        TransitionWrite.body_returned ran
      rw [readOperation_replace replaced, found] at read
      cases read
  · rw [hw] at h
    cases h

theorem guard_connection (read : Db → α) (j : Journal) :
    (guard read j).2.connection.committed = j.connection.committed ∧
      ∀ p, (guard read j).2.connection.pending = some p → j.connection.pending = some p := by
  unfold guard
  split_ifs with closed served rolledBack
  · exact ⟨rfl, fun p => id⟩
  · exact ⟨rfl, fun p => id⟩
  · exact ⟨rfl, fun p open' => by cases open'⟩
  · exact ⟨rfl, fun p => id⟩

theorem write_open_open (body : Except Raised (Script Db Raised α)) (db : Db) :
    ∃ db', (write body (Journal.open db)).2 = Journal.open db' := by
  cases body with
  | error e => exact ⟨db, rfl⟩
  | ok script =>
    rw [write_open]
    split <;> exact ⟨_, rfl⟩

end Journal

namespace Domain

variable {α β : Type} {P : Db → JournalWrite → Prop}

def Steady (d : Domain) : Prop := d.journal = Journal.open d.db

def Current (first : OperationId) (d : Domain) : Prop :=
  ∀ row ∈ d.db.operations, row.operationId < d.nextId ∧
    (first ≤ row.operationId → row.generation ≤ d.machine.generation)

/-- The action has committed writes that `P` allows, and at most left one of them open. -/
structure Advances (P : Db → JournalWrite → Prop) (d t : Domain) : Prop where
  commits : Commits P d.db t.db
  pending : ∀ p, t.journal.connection.pending = some p →
    (d.journal.connection.pending = some p ∧ t.db = d.db) ∨ ∃ w, P t.db w ∧ w.Changes t.db p
  supply : d.nextId ≤ t.nextId
  forward : d.machine.generation ≤ t.machine.generation
  steady : d.Steady → t.Steady
  current : ∀ first, d.Current first → t.Current first

theorem advances_refl (d : Domain) : Advances P d d :=
  ⟨.refl, fun _ pending => .inl ⟨pending, rfl⟩, Nat.le_refl _, Nat.le_refl _, id,
    fun _ => id⟩

theorem Advances.trans {d t u : Domain} (h : Advances P d t) (h' : Advances P t u) :
    Advances P d u := by
  refine ⟨h.commits.trans h'.commits, fun p pending => ?_, Nat.le_trans h.supply h'.supply,
    Nat.le_trans h.forward h'.forward, fun steady => h'.steady (h.steady steady),
    fun first current => h'.current first (h.current first current)⟩
  rcases h'.pending p pending with ⟨before, same⟩ | own
  · rw [same]
    exact h.pending p before
  · exact .inr own

theorem Advances.imp {Q : Db → JournalWrite → Prop} {d t : Domain} (h : Advances P d t)
    (imp : ∀ db w, P db w → Q db w) : Advances Q d t :=
  ⟨h.commits.imp imp,
    fun p pending => (h.pending p pending).imp_right fun ⟨w, allowed, changed⟩ =>
      ⟨w, imp _ w allowed, changed⟩,
    h.supply, h.forward, h.steady, h.current⟩

instance : Std.Refl (Advances P) := ⟨advances_refl⟩

instance : IsTrans Domain (Advances P) := ⟨fun _ _ _ => Advances.trans⟩

theorem Advances.bind {x : DomainM α} {f : α → DomainM β} {d : Domain}
    (hx : Advances P d (exec x d).2)
    (hf : ∀ a t, exec x d = (.ok a, t) → Advances P t (exec (f a) t).2) :
    Advances P d (exec (x >>= f) d).2 := by
  rw [exec_bind]
  rcases h : exec x d with ⟨e | a, t⟩
  · rw [h] at hx
    exact hx
  · rw [h] at hx
    exact hx.trans (hf a t h)

theorem advances_of_journal {d t : Domain} (journal : t.journal = d.journal)
    (supply : d.nextId ≤ t.nextId) (forward : d.machine.generation ≤ t.machine.generation) :
    Advances P d t := by
  have same : t.db = d.db := congrArg (·.connection.committed) journal
  refine ⟨same ▸ .refl, fun p pending => .inl ⟨journal ▸ pending, same⟩, supply, forward,
    fun steady => ?_, fun first current row member => ?_⟩
  · rw [Steady, journal, same]
    exact steady
  · obtain ⟨supplied, reached⟩ := current row (same ▸ member)
    exact ⟨Nat.lt_of_lt_of_le supplied supply, fun mine => Nat.le_trans (reached mine) forward⟩

theorem advances_read (read : Db → α) : Keeps (Advances P) (onJournal (Journal.guard read)) := by
  intro d
  obtain ⟨same, pending⟩ := Journal.guard_connection read d.journal
  rw [exec_onJournal]
  have kept : ({ d with journal := (Journal.guard read d.journal).2 } : Domain).db = d.db := same
  refine ⟨kept ▸ .refl, fun p open' => .inl ⟨pending p open', same⟩,
    Nat.le_refl _, Nat.le_refl _,
    fun steady => ?_, fun first current row member => current row (kept ▸ member)⟩
  rw [Steady, kept]
  show (Journal.guard read d.journal).2 = _
  rw [steady, Journal.guard_open]

theorem advances_ofExcept (r : Except Raised α) : Keeps (Advances P) (Domain.ofExcept r) :=
  advances_refl

theorem advances_newOperationId : Keeps (Advances P) newOperationId := fun _ =>
  advances_of_journal rfl (Nat.le_succ _) (Nat.le_refl _)

theorem recordJournalFault_generation (reason : String) (i t : Nat) (m : MachineSnapshot) :
    m.generation ≤ (m.recordJournalFault reason i t).generation := by
  unfold MachineSnapshot.recordJournalFault
  split_ifs
  · exact Nat.le_succ _
  · exact Nat.le_refl _

theorem advances_recordJournalFault (reason : String) (now : Nat) :
    Keeps (Advances P) (recordJournalFault reason now) := by
  intro d
  rw [exec_recordJournalFault]
  exact advances_of_journal rfl (Nat.le_succ _) (recordJournalFault_generation reason _ now _)

theorem advances_refreshDurability (threat : Option String) (now : Nat) :
    Keeps (Advances P) (refreshDurability threat now) := by
  refine keeps_bind keeps_get fun d => ?_
  cases threat with
  | none => exact keeps_pure ()
  | some m =>
    dsimp only
    split_ifs
    · exact advances_recordJournalFault _ now
    · exact keeps_pure ()

theorem advances_write {body : Except Raised (Script Db Raised α)} {w : JournalWrite} {d : Domain}
    (changes : ∀ db db', Effect body db db' → w.Changes db db')
    (allowed : ∀ db', w.Changes d.db db' → P d.db w)
    (current : ∀ first db', w.Changes d.db db' → d.Current first → ∀ row ∈ db'.operations,
      row.operationId < d.nextId ∧
        (first ≤ row.operationId → row.generation ≤ d.machine.generation)) :
    Advances P d (exec (onJournal (Journal.write body)) d).2 := by
  rw [exec_onJournal]
  have steady :
      d.Steady → ({ d with journal := (Journal.write body d.journal).2 } : Domain).Steady := by
    intro steady
    obtain ⟨db', opened⟩ := Journal.write_open_open body d.db
    show (Journal.write body d.journal).2 =
      Journal.open (Journal.write body d.journal).2.connection.committed
    rw [steady, opened]
    rfl
  rcases hw : Journal.write body d.journal with ⟨e | a, j⟩
  · obtain ⟨same, pending⟩ := Journal.write_error hw
    rw [hw] at steady
    have kept : ({ d with journal := j } : Domain).db = d.db := same
    refine ⟨kept ▸ .refl, fun p open' => ?_, Nat.le_refl _, Nat.le_refl _, steady,
      fun first before row member => before row (kept ▸ member)⟩
    rcases pending p open' with before | ⟨-, effect⟩
    · exact .inl ⟨before, same⟩
    · have changed := changes _ _ effect
      refine .inr ⟨w, ?_⟩
      rw [kept]
      exact ⟨allowed p changed, changed⟩
  · rw [hw] at steady
    cases body with
    | error e => cases hw
    | ok script =>
      obtain ⟨-, -, db', ran, connection⟩ := Journal.transaction_eq_ok hw
      have changed : w.Changes d.db db' := changes _ _ ⟨script, a, rfl, ran⟩
      have written : ({ d with journal := j } : Domain).db = db' := by
        show j.connection.committed = db'
        rw [connection]
      refine ⟨.single ⟨w, allowed db' changed, written ▸ changed⟩,
        fun p open' => ?_, Nat.le_refl _,
        Nat.le_refl _, steady, fun first before row member => ?_⟩
      · change j.connection.pending = some p at open'
        rw [connection] at open'
        cases open'
      · exact current first db' changed before row (written ▸ member)

theorem write_changes {body : Except Raised (Script Db Raised α)} {d t : Domain} {a : α}
    (h : exec (onJournal (Journal.write body)) d = (.ok a, t)) : Effect body d.db t.db := by
  rw [exec_onJournal] at h
  obtain ⟨returned, rfl⟩ := Prod.mk.inj h
  cases body with
  | error e => cases returned
  | ok script =>
    obtain ⟨-, -, db', ran, connection⟩ := Journal.transaction_eq_ok (Prod.ext returned rfl)
    refine ⟨script, a, rfl, ?_⟩
    show script.run [] d.db =
      (.returned a, (Journal.write (.ok script) d.journal).2.connection.committed, [])
    rw [show (Journal.write (.ok script) d.journal).2.connection = ⟨db', none⟩ from connection]
    exact ran

def writeOf (d : Domain) (move : Move) (now : Nat) : TransitionWrite :=
  ⟨move, d.machine.generation + 1, now⟩

theorem transition_changes {move : Move} {now : Nat} {d t : Domain} {record : OperationRecord}
    (h : exec (transition move now) d = (.ok record, t)) :
    (JournalWrite.transition (d.writeOf move now)).Changes d.db t.db ∧
      t.db.readOperation move.operationId = some record := by
  obtain ⟨j, recorded, rfl⟩ := transition_eq_ok h
  obtain ⟨-, db', changed, connection, read⟩ := Journal.recordTransition_ok recorded
  have written : j.connection.committed = db' := by rw [connection]
  constructor
  · show (JournalWrite.transition (d.writeOf move now)).Changes d.db j.connection.committed
    rw [written]
    exact changed
  · show j.connection.committed.readOperation move.operationId = some record
    rw [written]
    exact read

theorem transition_left {move : Move} {now : Nat} {d t : Domain} {record : OperationRecord}
    (h : exec (transition move now) d = (.ok record, t)) :
    record.state = move.toState ∧ ∃ r ∈ t.db.transitions, r.operationId = move.operationId ∧
      r.toState = move.toState ∧ r.occurredAt = now := by
  obtain ⟨changed, row⟩ := transition_changes h
  obtain ⟨current, forward, trusted, found, -, replaced, appended, -⟩ :=
    changes_transition changed
  have named : current.operationId = move.operationId := Db.readOperation_operationId found
  constructor
  · rw [readOperation_replace replaced, show d.db.readOperation move.operationId = _ from found,
      Option.map_some] at row
    rw [← Option.some.inj row]
    split_ifs with same
    · rfl
    · exact absurd rfl same
  · rw [appended]
    exact ⟨_, List.mem_append_right _ (List.mem_singleton_self _), rfl, rfl, rfl⟩

theorem recordTransition_open_open (t : TransitionWrite) (db : Db) :
    ∃ db', (Journal.recordTransition t (Journal.open db)).2 = Journal.open db' := by
  obtain ⟨db', opened⟩ := Journal.write_open_open (transitionScript t) db
  refine ⟨db', ?_⟩
  unfold Journal.recordTransition
  rcases hw : Journal.write (transitionScript t) (Journal.open db) with ⟨e | _ | updated, j⟩ <;>
    · rw [hw] at opened
      exact opened

theorem advances_writeTransition {move : Move} {now : Nat} {d : Domain}
    (allowed : d.journal.connection.pending = none → ∀ db',
      (JournalWrite.transition (d.writeOf move now)).Changes d.db db' →
        P d.db (.transition (d.writeOf move now))) :
    Advances P d (exec (writeTransition move now) d).2 := by
  have opens := recordTransition_open_open (d.writeOf move now) d.db
  rw [exec_writeTransition]
  change ∃ db', (Journal.recordTransition ⟨move, d.machine.generation + 1, now⟩ _).2 =
    _ at opens
  rcases hr : Journal.recordTransition ⟨move, d.machine.generation + 1, now⟩ d.journal with
    ⟨e | record, j⟩
  · have steady : d.Steady → ({ d with journal := j } : Domain).Steady := by
      intro steady
      obtain ⟨db', opened⟩ := opens
      rw [steady] at hr
      rw [hr] at opened
      show j = Journal.open j.connection.committed
      rw [show j = _ from opened]
      rfl
    obtain ⟨same, pending⟩ := Journal.write_error (Journal.recordTransition_error hr)
    have kept : ({ d with journal := j } : Domain).db = d.db := same
    refine ⟨kept ▸ .refl, fun p open' => ?_, Nat.le_refl _, Nat.le_refl _, steady,
      fun first before row member => before row (kept ▸ member)⟩
    rcases pending p open' with before | ⟨clean, effect⟩
    · exact .inl ⟨before, same⟩
    · refine .inr ⟨.transition (d.writeOf move now), ?_⟩
      rw [kept]
      exact ⟨allowed clean p effect, effect⟩
  · obtain ⟨clean, db', changed, connection, -⟩ := Journal.recordTransition_ok hr
    have written : j.connection.committed = db' := by rw [connection]
    refine ⟨.single ⟨.transition (d.writeOf move now), allowed clean db' changed, ?_⟩,
      fun p open' => ?_, Nat.le_refl _, Nat.le_succ _, fun steady =>
        ?_, fun first before row member => ?_⟩
    · show (JournalWrite.transition _).Changes d.db j.connection.committed
      rw [written]
      exact changed
    · change j.connection.pending = some p at open'
      rw [connection] at open'
      cases open'
    · obtain ⟨db'', opened⟩ := opens
      rw [steady] at hr
      rw [hr] at opened
      show j = Journal.open j.connection.committed
      rw [show j = _ from opened]
      rfl
    · -- the row that was written bears the generation the machine has moved to
      change row ∈ j.connection.committed.operations at member
      show row.operationId < d.nextId ∧
        (first ≤ row.operationId → row.generation ≤ d.machine.generation + 1)
      obtain ⟨current, forward, trusted, -, -, replaced, -⟩ := changes_transition changed
      rw [written, replaced, Db.replaceOperation, List.mem_map] at member
      obtain ⟨old, was, rfl⟩ := member
      obtain ⟨supplied, reached⟩ := before old was
      split_ifs with same
      · exact ⟨same ▸ supplied, fun _ => Nat.le_refl _⟩
      · exact ⟨supplied, fun mine => Nat.le_succ_of_le (reached mine)⟩

theorem advances_transition {move : Move} {now : Nat} {d : Domain}
    (allowed : d.journal.connection.pending = none → ∀ db',
      (JournalWrite.transition (d.writeOf move now)).Changes d.db db' →
        P d.db (.transition (d.writeOf move now))) :
    Advances P d (exec (transition move now) d).2 := by
  have written := advances_writeTransition allowed
  rw [transition, exec_tryCatch]
  rcases h : exec (writeTransition move now) d with ⟨e | record, t⟩
  · rw [h] at written
    refine written.trans ?_
    cases e with
    | journalError m =>
      exact keeps_bind (advances_recordJournalFault _ now) (fun _ => keeps_throw _) t
    | _ => exact advances_refl t
  · rw [h] at written
    exact written

theorem advances_safeTransition {move : Move} {now : Nat} {d : Domain}
    (allowed : d.journal.connection.pending = none → ∀ db',
      (JournalWrite.transition (d.writeOf move now)).Changes d.db db' →
        P d.db (.transition (d.writeOf move now))) :
    Advances P d (exec (safeTransition move now) d).2 := by
  have moved : Advances P d (exec (do let _ ← transition move now) d).2 :=
    (advances_transition allowed).bind fun _ t _ => advances_refl t
  rw [safeTransition, exec_tryCatch]
  rcases h : exec (do let _ ← transition move now) d with ⟨e | record, t⟩
  · rw [h] at moved
    refine moved.trans ?_
    cases e <;> exact advances_refl t
  · rw [h] at moved
    exact moved

end Domain
end CaseSorter.Daemon
