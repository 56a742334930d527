import CaseSorter.Daemon.DueMoves
import CaseSorter.Daemon.Handovers

/-! At-most-once admission. An admission makes one row and one key record in one
transaction; while the record is live every call under its key is answered from it, and
the operation is handed to the worker once at most. -/

namespace CaseSorter.Daemon

open CaseSorter.Actions CaseSorter.Transactions CaseSorter.Runs

def JournalWrite.InPlace : JournalWrite → Prop
  | .transition _ | .configuration _ => True
  | _ => False

theorem JournalWrite.Changes.inPlace {w : JournalWrite} {db db' : Db} (h : w.Changes db db')
    (own : w.InPlace) : db'.operationIds = db.operationIds ∧
      db'.idempotency = db.idempotency := by
  cases w with
  | transition t =>
    obtain ⟨current, forward, trusted, -, -, replaced, -, keys, -⟩ := changes_transition h
    exact ⟨by rw [Db.operationIds, replaced, Db.replaceOperation_ids, Db.operationIds], keys⟩
  | configuration snapshot =>
    obtain ⟨rows, -, keys, -⟩ := changes_configuration h
    exact ⟨by rw [Db.operationIds, rows, Db.operationIds], keys⟩
  | admission operation reason key => exact own.elim
  | prune moment => exact own.elim

theorem Commits.inPlace {db db' : Db} (h : Commits (fun _ w => w.InPlace) db db') :
    db'.operationIds = db.operationIds ∧ db'.idempotency = db.idempotency := by
  induction h with
  | refl => exact ⟨rfl, rfl⟩
  | tail _ last ih =>
    obtain ⟨w, own, changed⟩ := last
    obtain ⟨rows, keys⟩ := changed.inPlace own
    exact ⟨rows.trans ih.1, keys.trans ih.2⟩

/-- The tables hold one row and one key record more, those of the caller's operation. -/
structure Entered (caller : Caller) (b : IdempotencyRecord) (db db' : Db) : Prop where
  row : db'.operationIds = db.operationIds ++ [b.operationId]
  record : db'.idempotency = db.idempotency ++ [b]
  key : b.key = caller.idempotencyKey
  fingerprint : b.fingerprint = caller.fingerprint
  createdAt : b.createdAt = caller.now

theorem Entered.later {caller : Caller} {b : IdempotencyRecord} {db db' db'' : Db}
    (h : Entered caller b db db') (then' : Commits (fun _ w => w.InPlace) db' db'') :
    Entered caller b db db'' := by
  obtain ⟨rows, keys⟩ := then'.inPlace
  exact ⟨rows.trans h.row, keys.trans h.record, h.key, h.fingerprint, h.createdAt⟩

namespace Domain

/-- The row as the last of the domain's own transitions has left it. -/
structure Stands (record : OperationRecord) (state : OperationState) (d : Domain) : Prop where
  row : d.db.readOperation record.operationId = some record
  state : record.state = state
  generation : record.generation ≤ d.machine.generation

theorem transition_stands {move : Move} {now : Nat} {d t : Domain} {record : OperationRecord}
    (h : exec (transition move now) d = (.ok record, t)) :
    t.Stands record move.toState ∧ record.operationId = move.operationId := by
  obtain ⟨changed, row⟩ := transition_changes h
  obtain ⟨j, -, rfl⟩ := transition_eq_ok h
  obtain ⟨current, forward, trusted, found, -, replaced, -⟩ := changes_transition changed
  have named := Db.readOperation_operationId row
  have moved : record = (d.writeOf move now).move current forward trusted := by
    rw [readOperation_replace replaced, show d.db.readOperation move.operationId = _ from found,
      Option.map_some] at row
    rw [← Option.some.inj row]
    exact if_pos rfl
  refine ⟨⟨named ▸ row, ?_, ?_⟩, named⟩
  · rw [moved]
    rfl
  · rw [moved]
    exact Nat.le_refl (d.machine.generation + 1)

theorem transition_inPlace (move : Move) (now : Nat) (d : Domain) :
    Commits (fun _ w => w.InPlace) d.db (exec (transition move now) d).2.db :=
  (advances_transition fun _ _ _ => trivial).commits

theorem Stands.allows {record : OperationRecord} {state : OperationState} {d : Domain} {move : Move}
    (h : d.Stands record state) (own : move.operationId = record.operationId)
    (allowed : canTransition state move.toState = true) : d.Allows move :=
  ⟨record, own ▸ h.row, h.state ▸ allowed, Nat.le_succ_of_le h.generation⟩

def Enters (caller : Caller) (d t : Domain) (r : Except Raised OperationRecord) : Prop :=
  ((∃ e, r = .error e) ∧ t.db = d.db) ∨
    ∃ b, Entered caller b d.db t.db ∧ (∀ record, r = .ok record →
        record.operationId = b.operationId) ∧ ∀ e, r = .error e → e.isStorage = true

theorem Enters.next {caller : Caller} {d t : Domain} {x : DomainM OperationRecord}
    {f : OperationRecord → DomainM OperationRecord} {r : Except Raised OperationRecord}
    (h : exec (x >>= f) d = (r, t))
    (first : ∀ r' t', exec x d = (r', t') → Enters caller d t' r')
    (then' : ∀ record t', exec x d = (.ok record, t') →
      Commits (fun _ w => w.InPlace) t'.db t.db ∧ (∀ record', r = .ok record' →
        record'.operationId = record.operationId) ∧ ∀ e, r = .error e → e.isStorage = true) :
    Enters caller d t r := by
  rw [exec_bind] at h
  rcases hx : exec x d with ⟨e | record, t'⟩
  · rw [hx] at h
    cases h
    rcases first _ _ hx with ⟨-, same⟩ | ⟨b, entered, -, storage⟩
    · exact .inl ⟨⟨e, rfl⟩, same⟩
    · refine .inr ⟨b, entered, fun record ok => ?_, fun e' raised => ?_⟩
      · cases ok
      · cases raised
        exact storage e rfl
  · obtain ⟨commits, same, storage⟩ := then' record t' hx
    rcases first _ _ hx with ⟨⟨e, raised⟩, -⟩ | ⟨b, entered, own, -⟩
    · cases raised
    · exact .inr ⟨b, entered.later commits,
        fun record' ok => (same record' ok).trans (own record rfl),
        storage⟩

theorem fit_plain {i : OperationId} {state : OperationState} {reason : String}
    (said : requireReason reason = .ok ()) (open' : state ≠ .succeeded) :
    Move.Fit { operationId := i, toState := state, reason := reason } := by
  refine ⟨said, ⟨fun no => (by cases no), fun succeeded => absurd succeeded open'⟩, ?_⟩
  intro fields given
  cases given

theorem admit_enters {action : OperationAction} {caller : Caller} {view : MachineSnapshot}
    {window : Nat} {reason : String} {d t : Domain} {r : Except Raised OperationRecord}
    (said : requireReason reason = .ok ()) (reached : view.generation ≤ d.machine.generation)
    (h : exec (admitOperation action caller view window reason) d = (r, t)) :
      Enters caller d t r := by
  simp only [admitOperation, exec_bind, exec_newOperationId, exec_ofExcept, exec_get] at h
  cases made : newOperation d.nextId action caller view.generation window with
  | error e =>
    rw [made] at h
    cases h
    exact .inl ⟨⟨e, rfl⟩, rfl⟩
  | ok operation =>
    rw [made] at h
    obtain ⟨id_eq, -, generation_eq, queued, -⟩ := newOperation_eq_ok made
    simp only at h
    rcases hw : exec (onJournal (Journal.recordAdmission operation
        s!"admitted against generation {view.generation}"
        (some (newIdempotency d.nextId caller { d with nextId := d.nextId + 1 }))))
        { d with nextId := d.nextId + 1 } with ⟨e | u, v⟩
    · rw [hw] at h
      cases h
      rw [exec_onJournal] at hw
      obtain ⟨raised, rfl⟩ := Prod.mk.inj hw
      obtain ⟨same, -⟩ := Journal.write_error (Prod.ext raised rfl)
      exact .inl ⟨⟨e, rfl⟩, same⟩
    · rw [hw] at h
      have written := write_changes hw
      obtain ⟨fresh, inserted, -, keys, -⟩ := @changes_admission operation _ _ _ _ written
      have machine : v.machine = d.machine := by
        rw [exec_onJournal] at hw
        exact (congrArg Domain.machine (Prod.mk.inj hw).2).symm
      have stands : v.Stands operation .queued :=
        ⟨readOperation_new inserted fresh, queued,
          by rw [machine, generation_eq]; exact reached⟩
      have entered : Entered caller (newIdempotency d.nextId caller d) d.db v.db := by
        refine ⟨?_, keys, rfl, rfl, rfl⟩
        rw [Db.operationIds, inserted, List.map_append, Db.operationIds, List.map_singleton, id_eq]
        rfl
      have moves := transition_inPlace
        { operationId := d.nextId, toState := .accepted, reason := reason } caller.now v
      dsimp only at h
      rw [h] at moves
      refine .inr ⟨_, entered.later moves, fun record ok => ?_, fun e raised => ?_⟩
      · rw [ok] at h
        exact (transition_stands h).2
      · rw [raised] at h
        exact transition_raises (stands.allows id_eq.symm rfl) (fit_plain said (by decide)) h

theorem requireTerminalFields_asMapping (values : ConfigurationValues) :
    requireTerminalFields (values.asMapping.map fun field => (field.1, toString field.2)) =
      .ok () := by
  have short : ∀ s : Setting, (toString (values.value s)).toList.length ≤
    maxTerminalValueLength := by
    intro s
    obtain ⟨low, high⟩ := values.inBounds s
    have bounds : 0 ≤ s.lowest ∧ s.highest ≤ 120000 := by cases s <;> decide
    obtain ⟨n, value⟩ := Int.eq_ofNat_of_zero_le (Int.le_trans bounds.1 low)
    rw [value] at high ⊢
    have small : n < 10 ^ 6 := by omega
    have digits : n.repr.length ≤ 6 := (Nat.length_repr_le_iff (by decide)).mpr small
    rw [show toString (n : Int) = n.repr from rfl, String.length_toList]
    exact Nat.le_trans digits (by decide)
  have none : (values.asMapping.map fun field => (field.1, toString field.2)).find?
      (fun f => !isTerminalFieldName f.1 || f.2.toList.length > maxTerminalValueLength) = none := by
    rw [List.find?_eq_none]
    intro f member
    simp only [ConfigurationValues.asMapping, List.map_map, List.mem_map,
      Function.comp_apply] at member
    obtain ⟨s, -, rfl⟩ := member
    have named : isTerminalFieldName s.name = true := by cases s <;> decide
    have fits := short s
    simp only [named, Bool.not_true, Bool.false_or, decide_eq_true_eq]
    exact Nat.not_lt.mpr fits
  unfold requireTerminalFields
  rw [if_neg, none]
  simp [ConfigurationValues.asMapping, Setting.all, maxTerminalFields]

theorem applyConfiguration_enters {operation : OperationRecord} {values : ConfigurationValues}
    {caller : Caller} {d t : Domain} {r : Except Raised OperationRecord}
    (stands : d.Stands operation .running)
    (h : exec (applyConfiguration operation values caller) d = (r, t)) :
    Commits (fun _ w => w.InPlace) d.db t.db ∧ (∀ record, r = .ok record →
      record.operationId = operation.operationId) ∧ ∀ e, r = .error e →
        e.isStorage = true := by
  simp only [applyConfiguration, exec_bind, exec_get, exec_newOperationId, exec_modify] at h
  generalize snapshot_eq : ConfigurationSnapshot.mk d.nextId (d.machine.generation + 1)
    values.asMapping s!"{caller.actor.role}:{caller.actor.userId}" caller.now = snapshot at h
  rcases hw :
    exec (onJournal (Journal.recordConfiguration snapshot)) { d with nextId := d.nextId + 1 }
    with ⟨e | u, v⟩
  · rw [hw] at h
    cases h
    rw [exec_onJournal] at hw
    obtain ⟨raised, rfl⟩ := Prod.mk.inj hw
    have failed : Journal.write (configurationScript snapshot) d.journal = (.error e, _) :=
      Prod.ext raised rfl
    have same :
        (Journal.write (configurationScript snapshot) d.journal).2.connection.committed = d.db :=
      (Journal.write_error failed).1
    refine ⟨?_, fun record ok => (by cases ok), fun e' is => ?_⟩
    · show Commits _ d.db (Journal.write (configurationScript snapshot)
        d.journal).2.connection.committed
      rw [same]
      exact .refl
    cases is
    rcases Journal.write_raises failed with storage | ⟨db, ran⟩
    · exact storage
    · rw [Script.run_execute_nil] at ran
      split at ran <;> cases ran
  · rw [hw] at h
    have changed : (JournalWrite.configuration snapshot).Changes d.db v.db :=
      write_changes (d := { d with nextId := d.nextId + 1 }) hw
    have written : Commits (fun _ w => w.InPlace) d.db v.db :=
      .single ⟨.configuration snapshot, trivial, changed⟩
    have machine : v.machine = d.machine := by
      rw [exec_onJournal] at hw
      exact (congrArg Domain.machine (Prod.mk.inj hw).2).symm
    dsimp only at h
    generalize applied_eq : ({
      v.publish (v.machine.transition (some operation.operationId) "configuration applied") with
      configuration := values
      configurationGeneration := d.machine.generation + 1
      configuredAt := caller.now
      maxDeadlineMs := min v.maxDeadlineMs (values.value .maxDeadlineMs)
      appliedHistory := values :: v.appliedHistory } : Domain) = applied at h
    have still : applied.Stands operation .running := by
      rw [← applied_eq]
      refine ⟨?_, stands.state, ?_⟩
      · show v.db.readOperation operation.operationId = some operation
        rw [Db.readOperation, (changes_configuration changed).1]
        exact stands.row
      · show operation.generation ≤ v.machine.generation + 1
        rw [machine]
        exact Nat.le_succ_of_le stands.generation
    have db_eq : applied.db = v.db := by
      rw [← applied_eq]
      rfl
    have moves := transition_inPlace
      { operationId := operation.operationId
        toState := .succeeded
        reason := "configuration committed"
        trustedTerminal := true
        outcome := some "applied"
        terminalFields := some (values.asMapping.map fun field => (field.1, toString field.2)) }
      caller.now applied
    rw [h, db_eq] at moves
    refine ⟨written.trans moves, fun record ok => ?_, fun e raised => ?_⟩
    · rw [ok] at h
      exact (transition_stands h).2
    · rw [raised] at h
      refine transition_raises (still.allows rfl rfl) ⟨?_, ?_, ?_⟩ h
      · show requireReason "configuration committed" = .ok ()
        decide
      · exact ⟨fun _ => rfl, fun _ => rfl⟩
      · intro fields given
        cases given
        exact requireTerminalFields_asMapping values

theorem running_enters {record : OperationRecord} {reason : String} {now : Nat} {d t : Domain}
    {r : Except Raised OperationRecord} (said : requireReason reason = .ok ())
    (stands : d.Stands record .accepted)
    (h : exec
      (transition { operationId := record.operationId, toState := .running, reason := reason }
      now) d = (r, t)) :
    Commits (fun _ w => w.InPlace) d.db t.db ∧ (∀ record', r = .ok record' →
      record'.operationId = record.operationId) ∧ ∀ e, r = .error e → e.isStorage = true := by
  have moves := transition_inPlace
    { operationId := record.operationId, toState := .running, reason := reason } now d
  rw [h] at moves
  refine ⟨moves, fun record' ok => ?_, fun e raised => ?_⟩
  · rw [ok] at h
    exact (transition_stands h).2
  · rw [raised] at h
    exact transition_raises (stands.allows rfl rfl) (fit_plain said (by decide)) h

theorem admit_stands {action : OperationAction} {caller : Caller} {view : MachineSnapshot}
    {window : Nat} {reason : String} {d t : Domain} {record : OperationRecord}
    (h : exec (admitOperation action caller view window reason) d = (.ok record, t)) :
    t.Stands record .accepted := by
  simp only [admitOperation, exec_bind_eq_ok] at h
  obtain ⟨i, -, -, operation, -, -, -, -, -, u, d₅, -, moved⟩ := h
  exact (transition_stands moved).1

end Domain

open Domain in
theorem Prepared.proceed_enters {caller : Caller} {p : Prepared} {view : MachineSnapshot}
    {d t : Domain} {r : Except Raised OperationRecord}
    (reached : view.generation ≤ d.machine.generation)
    (h : exec (p.proceed caller view) d = (r, t)) : Enters caller d t r := by
  cases p with
  | submit action intent window expected => exact admit_enters (by decide) reached h
  | session action window expected =>
    refine admit_enters ?_ reached h
    cases action <;> decide
  | stop window expected =>
    refine Enters.next h (fun r' t' made => admit_enters (by decide) reached made)
      fun record t' made => ?_
    simp only [proceed, exec_bind, made] at h
    exact running_enters (by decide) (admit_stands made) h
  | configure changes candidate window expected =>
    refine Enters.next h (fun r' t' made => admit_enters (by decide) reached made)
      fun record t' made => ?_
    simp only [proceed, exec_bind, made] at h
    rcases moved : exec (transition
        { operationId := record.operationId
          toState := .running
          reason := "applying the configuration change" } caller.now) t' with ⟨e | running, u⟩
    · have entered := running_enters (by decide) (admit_stands made) moved
      rw [moved] at h
      cases h
      exact ⟨entered.1, fun _ ok => (by cases ok),
        fun e' is => (by cases is; exact entered.2.2 e rfl)⟩
    · have entered := running_enters (by decide) (admit_stands made) moved
      rw [moved] at h
      obtain ⟨commits, own, storage⟩ := applyConfiguration_enters (transition_stands moved).1 h
      exact ⟨entered.1.trans commits,
        fun record' ok => (own record' ok).trans (entered.2.1 running rfl), storage⟩

def Domain.Holds (b : IdempotencyRecord) (d : Domain) : Prop :=
  b ∈ d.db.idempotency ∧ ∀ p, d.journal.connection.pending = some p → b ∈ p.idempotency

theorem Domain.Holds.found {b : IdempotencyRecord} {d : Domain} (h : d.Holds b) {now : Nat}
    (live : b.liveAt now = true) : d.view.idempotencyRecord b.key now = some b := by
  have member : b ∈ d.view.idempotency := by
    rw [Domain.view, Connection.view]
    cases pending : d.journal.connection.pending with
    | none => exact h.1
    | some p => exact h.2 p pending
  rw [Db.idempotencyRecord, Db.find_idempotency member, Option.filter_some, if_pos live]

theorem Domain.Holds.row {b : IdempotencyRecord} {d : Domain} (h : d.Holds b) :
    d.db.operationIds.count b.operationId = 1 :=
  List.count_eq_one_of_mem d.db.operation_ids (d.db.idempotency_refs b h.1)

def JournalWrite.Spares (b : IdempotencyRecord) : JournalWrite → Prop
  | .prune moment => b.liveAt moment = true
  | _ => True

theorem JournalWrite.Changes.spares {w : JournalWrite} {db db' : Db} {b : IdempotencyRecord}
    (h : w.Changes db db') (spares : w.Spares b) (member : b ∈ db.idempotency) :
    b ∈ db'.idempotency := by
  cases w with
  | admission operation reason key =>
    obtain ⟨-, -, -, keys, -⟩ := changes_admission h
    rw [keys]
    exact List.mem_append_left _ member
  | transition t => exact (h.inPlace trivial).2 ▸ member
  | configuration snapshot => exact (h.inPlace trivial).2 ▸ member
  | prune moment =>
    rw [(changes_prune h).2.2.1]
    exact List.mem_filter.mpr ⟨member, spares⟩

theorem Domain.Advances.holds {P : Db → JournalWrite → Prop} {d t : Domain}
    {b : IdempotencyRecord}
    (h : Domain.Advances P d t) (spares : ∀ db w, P db w → w.Spares b) (held : d.Holds b) :
    t.Holds b := by
  have committed : b ∈ t.db.idempotency := by
    have commits := h.commits
    generalize t.db = db at commits
    induction commits with
    | refl => exact held.1
    | tail _ last ih =>
      obtain ⟨w, allowed, changed⟩ := last
      exact changed.spares (spares _ w allowed) ih
  refine ⟨committed, fun p pending => ?_⟩
  rcases h.pending p pending with ⟨before, -⟩ | ⟨w, allowed, changed⟩
  · exact held.2 p before
  · exact changed.spares (spares _ w allowed) committed

namespace System

/-- No pruning comes after the record has expired. -/
def Unpruned (b : IdempotencyRecord) (_ : System) : SystemEvent → Prop
  | .prune now => b.liveAt now = true
  | _ => True

theorem grants_spares {s : System} {e : SystemEvent} {b : IdempotencyRecord}
    (ok : Unpruned b s e) (db : Db) (w : JournalWrite) (granted : s.grants e db w) :
      w.Spares b := by
  cases w with
  | prune moment =>
    cases e with
    | prune now =>
      cases granted
      exact ok
    | api k now =>
      cases at_k : s.api[k]? with
      | none =>
        simp only [grants, at_k] at granted
        exact granted.elim
      | some a =>
        simp only [grants, at_k] at granted
        cases a with
        | admitting caller p => cases granted
        | _ => exact granted.elim
    | task now =>
      rcases owed : s.tasks with _ | ⟨task, rest⟩
      · simp only [grants, owed] at granted
        exact granted.elim
      · simp only [grants, owed] at granted
        cases task <;> exact granted.elim
    | dispatch now =>
      cases gate : gated s.worker with
      | none =>
        simp only [grants, gate] at granted
        exact granted.elim
      | some operation =>
        simp only [grants, gate] at granted
        exact granted.elim
    | _ => exact granted.elim
  | _ => trivial

theorem Steps.holds {s t : System} {e : SystemEvent} {b : IdempotencyRecord} (steps : Steps s e t)
    (ok : Unpruned b s e) (held : s.domain.Holds b) : t.domain.Holds b := by
  refine steps.advances.holds (fun db w => grants_spares ok db w) ?_
  cases e <;> exact held

/-- The call was answered with no row written and nothing enqueued. -/
structure Turned (s t : System) (k : Nat) (a : Answer) : Prop where
  db : t.domain.db = s.domain.db
  worker : t.worker = s.worker
  handed : t.handed = s.handed
  api : t.api = s.api.eraseIdx k
  answers : t.answers = a :: s.answers

theorem turned_answered {s : System} {k : Nat} {caller : Caller} {x : Except Raised OperationRecord}
    {d : Domain} (same : d.db = s.domain.db) :
    Turned s (answered k ⟨caller, x⟩ { s with domain := d }) k ⟨caller, x⟩ :=
  ⟨same, rfl, rfl, rfl, rfl⟩

/-- What a call is answered with from the live record of its key. -/
def Replays (b : IdempotencyRecord) (caller : Caller) : Except Raised OperationRecord → Prop
  | .ok record => b.fingerprint = caller.fingerprint ∧ record.operationId = b.operationId
  | .error e => e.isStorage = true ∨ (b.fingerprint ≠ caller.fingerprint ∧
      ∃ m, e = .idempotencyConflict m)

/-- The call that makes an operation goes on with it, has been answered with it, or has
been failed by storage. -/
def Carries (i : OperationId) (k : Nat) (caller : Caller) (s t : System) : Prop :=
  (∃ record lane, t.api[k]? = some (.enqueuing caller record lane) ∧ record.operationId = i) ∨
    (∃ record, t.answers = ⟨caller, .ok record⟩ :: s.answers ∧ record.operationId = i) ∨
    ∃ e, t.answers = ⟨caller, .error e⟩ :: s.answers ∧ e.isStorage = true

/-- The answer a call past its admission is going to give. -/
def promised : ApiThread → Option Answer
  | .enqueuing caller operation _
  | .attaching caller operation _ _ => some ⟨caller, .ok operation⟩
  | .settling _ _ _ answer => answer
  | _ => none

theorem promise_kept {s t : System} {k now : Nat} {thread : ApiThread} {a : Answer}
    (at_k : s.api[k]? = some thread) (promise : promised thread = some a)
    (h : s.step (.api k now) = some t) :
    t.answers = a :: s.answers ∨
      (∃ thread', t.api[k]? = some thread' ∧ promised thread' = some a) ∨
      ∃ operation e, t.api[k]? = some (.refused a.caller operation e) := by
  obtain ⟨bound, -⟩ := List.getElem?_eq_some_iff.mp at_k
  have placed : ∀ b, (s.api.set k b)[k]? = some b := fun b => by
    rw [List.getElem?_set_self bound]
  simp only [step, at_k, Option.map_some, Option.some.injEq] at h
  subst h
  cases thread with
  | admitting caller p => cases promise
  | refused caller operation e => cases promise
  | enqueuing caller operation lane =>
    cases promise
    simp only [apiStep]
    split
    · exact .inr (.inl ⟨_, placed _, rfl⟩)
    · exact .inr (.inr ⟨_, _, placed _⟩)
  | attaching caller operation callback f =>
    cases promise
    simp only [apiStep]
    split
    · exact .inl rfl
    · exact .inr (.inl ⟨_, placed _, rfl⟩)
  | settling f callback r answer =>
    cases promise
    exact .inl rfl

section Admitting

variable {s t : System} {k now : Nat} {caller : Caller} {p : Prepared}

theorem admitting_step (at_k : s.api[k]? = some (.admitting caller p))
    (h : s.step (.api k now) = some t) :
    ∃ r d, Domain.Admitted (Domain.Advances Domain.NoWrite) caller p.kind p.expected p.check
      (p.proceed caller) s.domain d r ∧
      match r with
      | .ok (.admitted record) => t.domain = d ∧
          ((∃ lane, t.api[k]? = some (.enqueuing caller record lane)) ∨
            t.answers = ⟨caller, .ok record⟩ :: s.answers)
      | .ok (.replayed record) => t = answered k ⟨caller, .ok record⟩ { s with domain := d }
      | .error e => t = answered k ⟨caller, .error e⟩ { s with domain := d } := by
  obtain ⟨bound, -⟩ := List.getElem?_eq_some_iff.mp at_k
  simp only [step, at_k, Option.map_some, Option.some.injEq] at h
  rcases ran : exec (p.admitSection caller) s.domain with ⟨r, d⟩
  have admission := ran
  rw [Prepared.admit_eq] at admission
  refine ⟨r, d, Domain.admission_cases Domain.idles_noWrite admission, ?_⟩
  simp only [apiStep, ran] at h
  rcases r with e | record | record
  · exact h.symm
  · exact h.symm
  · cases lane : p.lane with
    | none =>
      rw [lane] at h
      rw [← h]
      exact ⟨rfl, .inr rfl⟩
    | some l =>
      rw [lane] at h
      rw [← h]
      exact ⟨rfl, .inl ⟨l, List.getElem?_set_self bound⟩⟩

theorem admitting_live {b : IdempotencyRecord} (at_k : s.api[k]? = some (.admitting caller p))
    (live : s.domain.view.idempotencyRecord caller.idempotencyKey caller.now = some b)
    (h : s.step (.api k now) = some t) : ∃ x, Turned s t k ⟨caller, x⟩ ∧
      Replays b caller x := by
  obtain ⟨r, d, admitted, rest⟩ := admitting_step at_k h
  have absent : ¬ s.domain.view.idempotencyRecord caller.idempotencyKey caller.now = none := by
    rw [live]
    simp
  cases admitted with
  | unavailable still storage =>
    subst rest
    exact ⟨_, turned_answered still.db_eq, .inl storage⟩
  | conflict still found differs =>
    subst rest
    cases live.symm.trans found
    exact ⟨_, turned_answered still.db_eq, .inr ⟨differs, _, rfl⟩⟩
  | replayed still found same row =>
    subst rest
    cases live.symm.trans found
    exact ⟨_, turned_answered still.db_eq, same, Db.readOperation_operationId row⟩
  | stale _ none _ => exact absurd none absent
  | unfit _ none _ _ => exact absurd none absent
  | admitted _ _ none _ _ _ => exact absurd none absent
  | failed _ _ none _ _ _ _ _ _ => exact absurd none absent

theorem admitting_stale {g : Nat} (at_k : s.api[k]? = some (.admitting caller p))
    (absent : s.domain.view.idempotencyRecord caller.idempotencyKey caller.now = none)
    (given : p.expected = some g) (moved : g ≠ s.domain.machine.generation)
    (h : s.step (.api k now) = some t) :
    ∃ e, Turned s t k ⟨caller, .error e⟩ ∧
      (e.isStorage = true ∨ ∃ m, e = .staleGeneration m) := by
  obtain ⟨r, d, admitted, rest⟩ := admitting_step at_k h
  have refused : ¬ Domain.requireGeneration p.kind p.expected s.domain.machine = .ok () := by
    rw [given, Domain.requireGeneration]
    simp [moved]
  cases admitted with
  | unavailable still storage =>
    subst rest
    exact ⟨_, turned_answered still.db_eq, .inl storage⟩
  | conflict _ found _ => cases absent.symm.trans found
  | replayed _ found _ _ => cases absent.symm.trans found
  | stale still _ stale =>
    subst rest
    exact ⟨_, turned_answered still.db_eq, .inr (Domain.requireGeneration_raises stale)⟩
  | unfit _ _ current _ => exact absurd current refused
  | admitted _ _ _ current _ _ => exact absurd current refused
  | failed _ _ _ current _ _ _ _ _ => exact absurd current refused

theorem admitting_writes (at_k : s.api[k]? = some (.admitting caller p))
    (h : s.step (.api k now) = some t) (wrote : t.domain.db ≠ s.domain.db) :
    ∃ b, Entered caller b s.domain.db t.domain.db ∧ Carries b.operationId k caller s t := by
  obtain ⟨r, d, admitted, rest⟩ := admitting_step at_k h
  cases admitted with
  | unavailable still _ =>
    subst rest
    exact absurd still.db_eq wrote
  | conflict still _ _ =>
    subst rest
    exact absurd still.db_eq wrote
  | replayed still _ _ _ =>
    subst rest
    exact absurd still.db_eq wrote
  | stale still _ _ =>
    subst rest
    exact absurd still.db_eq wrote
  | unfit still _ _ _ =>
    subst rest
    exact absurd still.db_eq wrote
  | admitted only still _ _ _ made =>
    obtain ⟨rfl, next⟩ := rest
    rcases Prepared.proceed_enters (Nat.le_of_eq (congrArg _ only.machine.symm)) made with
      ⟨⟨e, raised⟩, -⟩ | ⟨b, entered, own, -⟩
    · cases raised
    · rw [still.db_eq] at entered
      refine ⟨b, entered, ?_⟩
      rcases next with ⟨lane, enqueuing⟩ | done
      · exact .inl ⟨_, lane, enqueuing, own _ rfl⟩
      · exact .inr (.inl ⟨_, done, own _ rfl⟩)
  | failed only still _ _ _ broke after storage _ =>
    subst rest
    rcases Prepared.proceed_enters (Nat.le_of_eq (congrArg _ only.machine.symm)) broke with
      ⟨-, same⟩ | ⟨b, entered, -, fails⟩
    · exact absurd ((after.db_eq.trans same).trans still.db_eq) wrote
    · rw [still.db_eq] at entered
      refine ⟨b, ?_, .inr (.inr ⟨_, rfl, storage (fails _ rfl)⟩)⟩
      show Entered caller b s.domain.db d.db
      rw [after.db_eq]
      exact entered

theorem admitting_holds {b : IdempotencyRecord} (h : s.step (.api k now) = some t)
    (entered : Entered caller b s.domain.db t.domain.db) :
    t.domain.Holds b := by
  have member : b ∈ t.domain.db.idempotency := by
    rw [entered.record]
    exact List.mem_append_right _ (List.mem_singleton_self b)
  refine ⟨member, fun p pending => ?_⟩
  rcases (step_steps h).advances.pending p pending with ⟨-, same⟩ | ⟨w, granted, changed⟩
  · -- the row was committed, so no transaction of before is open
    have grown := congrArg List.length entered.row
    rw [show t.domain.db = s.domain.db from same, List.length_append] at grown
    simp at grown
  · exact changed.spares (grants_spares (e := .api k now) trivial _ w granted) member

end Admitting

/-- In every state that any interleaving of calls, hand-overs, worker steps and storage
failures reaches: no operation has been handed over twice; the checks of a call write
nothing; a call under a live key is answered from its record; one under a new key and a
generation that has passed is refused; one that writes enters one operation with its key,
and the record and the row stay until a pruning after it has expired; and a call past its
admission returns its operation, unless the worker refuses it. -/
theorem admission_atMostOnce (policy : Policy) (db : Db) (nextId started : Nat)
    (appliedHistory : List ConfigurationValues) (capacity attempts : Nat) (pos : 0 < capacity)
    (es : List SystemEvent) (s : System) (supplied : ∀ i ∈ db.operationIds, i < nextId)
    (reached : run System.step
      (System.new policy db nextId started appliedHistory capacity attempts pos) es = some s) :
    (s.handed.map Prod.fst).Nodup ∧
      (∀ request caller t, s.step (.call request caller) = some t →
        t.domain.db = s.domain.db ∧ t.worker = s.worker ∧ t.handed = s.handed) ∧
      (∀ k now caller p t, s.api[k]? = some (.admitting caller p) →
        s.step (.api k now) = some t →
        (∀ b, s.domain.view.idempotencyRecord caller.idempotencyKey caller.now = some b →
          ∃ x, Turned s t k ⟨caller, x⟩ ∧ Replays b caller x) ∧
        (s.domain.view.idempotencyRecord caller.idempotencyKey caller.now = none →
          ∀ g, p.expected = some g → g ≠ s.domain.machine.generation →
            ∃ e, Turned s t k ⟨caller, .error e⟩ ∧
              (e.isStorage = true ∨ ∃ m, e = .staleGeneration m)) ∧
        (t.domain.db ≠ s.domain.db → ∃ b, Entered caller b s.domain.db t.domain.db ∧
          Carries b.operationId k caller s t ∧
          ∀ fs u, Meets System.step (Unpruned b) t fs → run System.step t fs = some u →
            (∀ m, b.liveAt m = true → u.domain.view.idempotencyRecord b.key m = some b) ∧
              u.domain.db.operationIds.count b.operationId = 1)) ∧
      ∀ k now thread a t, s.api[k]? = some thread → promised thread = some a →
        s.step (.api k now) = some t →
          t.answers = a :: s.answers ∨
            (∃ thread', t.api[k]? = some thread' ∧ promised thread' = some a) ∨
            ∃ operation e, t.api[k]? = some (.refused a.caller operation e) := by
  have bound : s.Bound nextId := run_invariant
    (fun _ _ _ inv (_ : True) h => bound_step inv (step_steps h))
    (bound_new policy started appliedHistory capacity attempts pos supplied)
    (meets_of_forall (fun _ _ _ => trivial) _) reached
  refine ⟨(List.nodup_append.mp bound.once).2.1, ?_, ?_, ?_⟩
  · intro request caller t h
    have steps := step_steps h
    have same := Domain.Advances.db_eq steps.advances
    cases steps with
    | asked passed => exact ⟨same, rfl, rfl⟩
    | unasked refused => exact ⟨same, rfl, rfl⟩
  · intro k now caller p t at_k h
    refine ⟨fun b live => admitting_live at_k live h,
      fun absent g given moved => admitting_stale at_k absent given moved h, fun wrote => ?_⟩
    obtain ⟨b, entered, carries⟩ := admitting_writes at_k h wrote
    refine ⟨b, entered, carries, fun fs u meets ran => ?_⟩
    have held : u.domain.Holds b := run_invariant (motive := fun s => s.domain.Holds b)
      (fun _ _ _ held ok h => (step_steps h).holds ok held) (admitting_holds h entered) meets ran
    exact ⟨fun m live => held.found live, held.row⟩
  · intro k now thread a t at_k promise h
    exact promise_kept at_k promise h

def stopCaller : Caller := ⟨⟨"operator", "admin"⟩, "k", "stop", 1000, 0, none⟩

def stopUnder (again : Caller) : List SystemEvent :=
  [.call (.stop none) stopCaller, .api 0 0, .api 0 0, .api 0 0, .call (.stop none) again]

def stopKey : IdempotencyRecord := ⟨"k", "stop", 0, 0, 24 * 60 * 60 * 1000, Policy.standard_ttl⟩

/-- A stop is entered; the same call is answered from its record, and so is another one. -/
theorem admission_atMostOnce_stop :
    (∃ b, Entered stopCaller b Db.empty
      (runD System.step firstDaemon [.call (.stop none) stopCaller, .api 0 0]).domain.db) ∧
    ∀ again ∈ [stopCaller, { stopCaller with fingerprint := "another stop" }],
      ∃ x, Turned (runD System.step firstDaemon (stopUnder again))
        (runD System.step firstDaemon (stopUnder again ++ [.api 0 0])) 0 ⟨again, x⟩ ∧
          Replays stopKey again x := by
  constructor
  · obtain ⟨-, -, admits, -⟩ := admission_atMostOnce {} .empty 0 0 [] 1 1 (by decide)
      [.call (.stop none) stopCaller] _ (fun i member => absurd member List.not_mem_nil)
      (run_eq_runD (by decide +kernel))
    obtain ⟨-, -, writes⟩ := admits 0 0 stopCaller (.stop 1000 none) _ (by decide +kernel)
      (step_runD (by decide +kernel))
    obtain ⟨b, entered, -⟩ := writes (by decide +kernel)
    exact ⟨b, entered⟩
  · intro again member
    have enabled : ∀ again ∈ [stopCaller, { stopCaller with fingerprint := "another stop" }],
        (run System.step firstDaemon (stopUnder again)).isSome = true ∧
        (run System.step firstDaemon (stopUnder again ++ [.api 0 0])).isSome = true ∧
        (runD System.step firstDaemon (stopUnder again)).api[0]? =
          some (.admitting again (.stop 1000 none)) ∧
        (runD System.step firstDaemon (stopUnder again)).domain.view.idempotencyRecord
          again.idempotencyKey again.now = some stopKey := by
      decide +kernel
    obtain ⟨before, after, asked, live⟩ := enabled again member
    obtain ⟨-, -, admits, -⟩ := admission_atMostOnce {} .empty 0 0 [] 1 1 (by decide)
      (stopUnder again) _ (fun i member => absurd member List.not_mem_nil) (run_eq_runD before)
    obtain ⟨replays, -⟩ := admits 0 0 again (.stop 1000 none) _ asked (step_runD after)
    exact replays stopKey live

/-- Of two stops under one key the first raises, as the worker refuses it, and the second
returns the operation the first has made. -/
theorem admission_refusedRaises :
    (run System.step firstDaemon [.call (.stop none) stopCaller, .api 0 0, .api 0 0, .api 0 0,
      .call (.stop none) stopCaller, .api 0 0]).isSome = true ∧
    (runD System.step firstDaemon [.call (.stop none) stopCaller, .api 0 0, .api 0 0, .api 0 0,
      .call (.stop none) stopCaller, .api 0 0]).answers.map
        (fun a => (a.caller, a.result.toOption.map (·.operationId))) =
      [(stopCaller, some 0), (stopCaller, none)] := by
  decide +kernel

end System

end CaseSorter.Daemon
