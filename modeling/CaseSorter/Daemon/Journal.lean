import Mathlib.Data.List.Nodup
import CaseSorter.Lib.Transactions
import CaseSorter.Daemon.Operations

/-! The operation journal: its tables, the statements its writes execute, the
transaction wrapper around them and its reads. Tables are lists in row order; no
row is ever deleted but an idempotency record, so a row identity is a position. -/

namespace CaseSorter.Daemon

open CaseSorter.Transactions

/-- One applied configuration version, as the table stores it. -/
structure ConfigurationSnapshot where
  configId : Nat
  generation : Nat
  payload : List (String × Int)
  source : String
  createdAt : Nat
  deriving DecidableEq, Repr

/-- The tables. The engine keeps their primary keys unique and lets no idempotency
record outlive the operation it refers to. -/
structure Db where
  operations : List OperationRecord
  transitions : List TransitionRecord
  idempotency : List IdempotencyRecord
  configurations : List ConfigurationSnapshot
  operation_ids : (operations.map (·.operationId)).Nodup
  idempotency_keys : (idempotency.map (·.key)).Nodup
  idempotency_refs : ∀ r ∈ idempotency, r.operationId ∈ operations.map (·.operationId)
  deriving DecidableEq

namespace Db

def empty : Db := ⟨[], [], [], [], by simp, by simp, by simp⟩

def readOperation (operationId : OperationId) (db : Db) : Option OperationRecord :=
  db.operations.find? (·.operationId = operationId)

def operationIds (db : Db) : List OperationId := db.operations.map (·.operationId)

def insertOperation (operation : OperationRecord) (db : Db) : Option Db :=
  if fresh : operation.operationId ∈ db.operationIds then none
  else some
    { db with
      operations := db.operations ++ [operation]
      operation_ids := by
        rw [List.map_append]
        exact List.Nodup.append db.operation_ids (by simp) (by simpa [operationIds] using fresh)
      idempotency_refs := fun r hr => by
        rw [List.map_append]
        exact List.mem_append_left _ (db.idempotency_refs r hr) }

/-- The table with the row of `operation`'s identity replaced. -/
def replaceOperation (operation : OperationRecord) (rows : List OperationRecord) :
    List OperationRecord :=
  rows.map fun row => if row.operationId = operation.operationId then operation else row

theorem replaceOperation_ids (operation : OperationRecord) (rows : List OperationRecord) :
    (replaceOperation operation rows).map (·.operationId) = rows.map (·.operationId) := by
  rw [replaceOperation, List.map_map]
  apply List.map_congr_left
  intro row _
  simp only [Function.comp_apply]
  split_ifs with h
  · exact h.symm
  · rfl

def updateOperation (operation : OperationRecord) (db : Db) : Option Db :=
  some
    { db with
      operations := replaceOperation operation db.operations
      operation_ids := by
        rw [replaceOperation_ids]
        exact db.operation_ids
      idempotency_refs := by
        rw [replaceOperation_ids]
        exact db.idempotency_refs }

def appendTransition (operationId : OperationId) (fromState : Option OperationState)
    (toState : OperationState) (generation occurredAt : Nat) (reason : String) (db : Db) :
    Option Db :=
  if operationId ∈ db.operationIds then
    some
      { db with
        transitions := db.transitions ++
          [⟨db.transitions.length + 1, operationId, fromState, toState, generation, occurredAt,
            reason⟩] }
  else none

def insertIdempotency (record : IdempotencyRecord) (db : Db) : Option Db :=
  if taken : record.key ∈ db.idempotency.map (·.key) then none
  else if refers : record.operationId ∈ db.operationIds then
    some
      { db with
        idempotency := db.idempotency ++ [record]
        idempotency_keys := by
          rw [List.map_append]
          exact List.Nodup.append db.idempotency_keys (by simp) (by simpa using taken)
        idempotency_refs := by
          intro r hr
          rcases List.mem_append.mp hr with old | new
          · exact db.idempotency_refs r old
          · rw [List.mem_singleton.mp new]
            exact refers }
  else none

def insertConfiguration (snapshot : ConfigurationSnapshot) (db : Db) : Option Db :=
  if db.configurations.any (·.configId = snapshot.configId) then none
  else some { db with configurations := db.configurations ++ [snapshot] }

def deleteExpired (moment : Nat) (db : Db) : Option Db :=
  some
    { db with
      idempotency := db.idempotency.filter (·.liveAt moment)
      idempotency_keys := db.idempotency_keys.sublist (List.filter_sublist.map _)
      idempotency_refs := fun r hr => db.idempotency_refs r (List.mem_of_mem_filter hr) }

theorem readOperation_operationId {db : Db} {operationId : OperationId} {r : OperationRecord}
    (h : db.readOperation operationId = some r) : r.operationId = operationId := by
  simpa using List.find?_some h

theorem mem_operationIds_iff {db : Db} {operationId : OperationId} :
    operationId ∈ db.operationIds ↔ ∃ r, db.readOperation operationId = some r := by
  rw [← Option.isSome_iff_exists, readOperation, List.find?_isSome, operationIds, List.mem_map]
  simp

section Statements

variable {db db' : Db}

theorem insertOperation_eq_some {operation : OperationRecord}
    (h : insertOperation operation db = some db') :
    operation.operationId ∉ db.operationIds ∧ db'.operations = db.operations ++ [operation] ∧
      db'.transitions = db.transitions ∧ db'.idempotency = db.idempotency ∧
      db'.configurations = db.configurations := by
  unfold insertOperation at h
  split_ifs at h with fresh
  cases h
  exact ⟨fresh, rfl, rfl, rfl, rfl⟩

theorem appendTransition_eq_some {operationId : OperationId} {fromState : Option OperationState}
    {toState : OperationState} {generation occurredAt : Nat} {reason : String}
    (h : appendTransition operationId fromState toState generation occurredAt reason db =
      some db') :
    db'.operations = db.operations ∧
      db'.transitions = db.transitions ++ [⟨db.transitions.length + 1, operationId, fromState,
        toState, generation, occurredAt, reason⟩] ∧
      db'.idempotency = db.idempotency ∧ db'.configurations = db.configurations := by
  unfold appendTransition at h
  split_ifs at h
  cases h
  exact ⟨rfl, rfl, rfl, rfl⟩

theorem updateOperation_known (operation : OperationRecord) (db : Db) :
    ∃ db', updateOperation operation db = some db' ∧ db'.operationIds = db.operationIds :=
  ⟨_, rfl, replaceOperation_ids operation db.operations⟩

theorem appendTransition_known {operationId : OperationId} (fromState : Option OperationState)
    (toState : OperationState) (generation occurredAt : Nat) (reason : String)
    (known : operationId ∈ db.operationIds) :
    ∃ db', appendTransition operationId fromState toState generation occurredAt reason db =
      some db' ∧ db'.operationIds = db.operationIds := by
  rw [appendTransition, if_pos known]
  exact ⟨_, rfl, rfl⟩

theorem insertIdempotency_eq_some {record : IdempotencyRecord}
    (h : insertIdempotency record db = some db') :
    record.key ∉ db.idempotency.map (·.key) ∧ db'.operations = db.operations ∧
      db'.transitions = db.transitions ∧ db'.idempotency = db.idempotency ++ [record] ∧
      db'.configurations = db.configurations := by
  unfold insertIdempotency at h
  split_ifs at h with taken refers
  cases h
  exact ⟨taken, rfl, rfl, rfl, rfl⟩

theorem insertConfiguration_eq_some {snapshot : ConfigurationSnapshot}
    (h : insertConfiguration snapshot db = some db') :
    db'.operations = db.operations ∧ db'.transitions = db.transitions ∧
      db'.idempotency = db.idempotency ∧
      db'.configurations = db.configurations ++ [snapshot] := by
  unfold insertConfiguration at h
  split_ifs at h
  cases h
  exact ⟨rfl, rfl, rfl, rfl⟩

end Statements

/-- The row `ORDER BY generation DESC, rowid DESC LIMIT 1` selects. -/
def latestConfiguration (db : Db) : Option ConfigurationSnapshot :=
  db.configurations.foldl (fun best row =>
    match best with
    | none => some row
    | some b => if b.generation ≤ row.generation then some row else some b) none

theorem find_idempotency {db : Db} {r : IdempotencyRecord} (member : r ∈ db.idempotency) :
    db.idempotency.find? (·.key = r.key) = some r := by
  have found : (db.idempotency.find? (·.key = r.key)).isSome := by
    rw [List.find?_isSome]
    exact ⟨r, member, by simp⟩
  obtain ⟨r', hr'⟩ := Option.isSome_iff_exists.mp found
  have same : r'.key = r.key := by simpa using List.find?_some hr'
  rw [hr', List.inj_on_of_nodup_map db.idempotency_keys (List.mem_of_find?_eq_some hr') member same]

theorem latestConfiguration_insert {snapshot : ConfigurationSnapshot} {db db' : Db}
    (h : db'.configurations = db.configurations ++ [snapshot]) :
    db'.latestConfiguration =
      match db.latestConfiguration with
      | none => some snapshot
      | some best =>
        if best.generation ≤ snapshot.generation then some snapshot else some best := by
  rw [latestConfiguration, h, List.foldl_append]
  rfl

end Db

/-- The journal's connection. `engine` is what SQLite is going to make of the
statements to come; it fails none once the list has run out. -/
structure Journal where
  connection : Connection Db
  closed : Bool
  engine : List Outcome
  deriving DecidableEq

namespace Journal

variable {α : Type}

def «open» (db : Db) : Journal := ⟨⟨db, none⟩, false, []⟩

/-- `ROLLBACK` while an exception is being handled: where no transaction is open its
own error replaces that exception. -/
def rollback (c : Connection Db) (e : Raised) : Raised × Connection Db :=
  match c.rollback with
  | none => (.sqliteError "cannot rollback - no transaction is active", c)
  | some c' => (e, c')

def transaction (body : Script Db Raised α) (j : Journal) : Except Raised α × Journal :=
  if j.closed then
    (.error (.journalError "journal is closed"), j)
  else if j.engine.headD .ok ≠ .ok ∨ j.connection.pending.isSome then
    let (e, c) := rollback j.connection (.journalError "journal write failed")
    (.error e, { j with connection := c, engine := j.engine.tail })
  else
    let (ending, d, engine) := body.run j.engine.tail j.connection.committed
    let opened : Connection Db := ⟨j.connection.committed, some d⟩
    match ending with
    | .raised e =>
      let (e, c) := rollback opened e
      (.error e, { j with connection := c, engine := engine })
    | .refused rolledBack =>
      let (e, c) := rollback (if rolledBack then { opened with pending := none } else opened)
        (.journalError "journal write failed")
      (.error e, { j with connection := c, engine := engine })
    | .returned a =>
      if engine.headD .ok = .ok then
        (.ok a, { j with connection := ⟨d, none⟩, engine := engine.tail })
      else
        (.error (.journalError "journal commit failed"),
          { j with connection := opened, engine := engine.tail })

def guard (read : Db → α) (j : Journal) : Except Raised α × Journal :=
  if j.closed then
    (.error (.journalError "journal is closed"), j)
  else if j.engine.headD .ok = .ok then
    (.ok (read j.connection.view), { j with engine := j.engine.tail })
  else
    let c := if j.engine.headD .ok = .failRolledBack then ⟨j.connection.committed, none⟩
      else j.connection
    (.error (.journalError "journal read failed"),
      { j with connection := c, engine := j.engine.tail })

theorem transaction_eq_ok {body : Script Db Raised α} {j j' : Journal} {a : α}
    (h : transaction body j = (.ok a, j')) :
    j.connection.pending = none ∧ j'.closed = j.closed ∧
      ∃ d, body.run [] j.connection.committed = (.returned a, d, []) ∧
        j'.connection = ⟨d, none⟩ := by
  unfold transaction at h
  split_ifs at h with closed refused
  · cases h
  · simp only at h
    cases h
  · rcases ran : body.run j.engine.tail j.connection.committed with ⟨b | e | rolledBack, d, os⟩
    · simp only [ran] at h
      split_ifs at h with served
      · cases h
        refine ⟨by simpa using (not_or.mp refused).2, rfl, d, Script.run_returned ran, rfl⟩
      · cases h
    · simp only [ran] at h
      cases h
    · simp only [ran] at h
      cases h

theorem guard_eq_ok {read : Db → α} {j j' : Journal} {a : α} (h : guard read j = (.ok a, j')) :
    a = read j.connection.view ∧ j'.connection = j.connection ∧ j'.closed = j.closed := by
  unfold guard at h
  split_ifs at h with closed served
  all_goals cases h
  exact ⟨rfl, rfl, rfl⟩

def write (body : Except Raised (Script Db Raised α)) (j : Journal) :
    Except Raised α × Journal :=
  match body with
  | .error e => (.error e, j)
  | .ok body => transaction body j

end Journal

def admissionBody (operation : OperationRecord) (reason : String)
    (idempotency : Option IdempotencyRecord) : Script Db Raised Unit :=
  .execute (Db.insertOperation operation) fun _ =>
    .execute (Db.appendTransition operation.operationId none operation.state
      operation.generation operation.createdAt reason) fun _ =>
    match idempotency with
    | none => .done ()
    | some record => .execute (Db.insertIdempotency record) fun _ => .done ()

def requireIdempotency (operation : OperationRecord) :
    Option IdempotencyRecord → Except Raised Unit
  | none => .ok ()
  | some record =>
    if record.operationId ≠ operation.operationId then
      .error (.validation "idempotency record must reference its own operation")
    else if record.fingerprint ≠ operation.fingerprint then
      .error (.validation "idempotency record must carry the request fingerprint")
    else .ok ()

def admissionScript (operation : OperationRecord) (reason : String)
    (idempotency : Option IdempotencyRecord) : Except Raised (Script Db Raised Unit) :=
  if operation.state ≠ .queued then
    .error (.invalidTransition "an admitted operation must start queued")
  else do
    requireReason reason
    requireIdempotency operation idempotency
    return admissionBody operation reason idempotency

/-- One step of an operation's lifecycle and what it records. -/
structure Move where
  operationId : OperationId
  toState : OperationState
  reason : String
  trustedTerminal : Bool := false
  outcome : Option String := none
  protocolRequestId : Option Nat := none
  terminalFields : Option (List (String × String)) := none
  deriving DecidableEq, Repr

structure TransitionWrite extends Move where
  generation : Nat
  occurredAt : Nat
  deriving DecidableEq, Repr

def TransitionWrite.move (t : TransitionWrite) (current : OperationRecord)
    (forward : current.generation ≤ t.generation)
    (trusted : t.trustedTerminal = true ↔ t.toState = .succeeded) : OperationRecord :=
  { current with
    state := t.toState
    generation := t.generation
    trustedTerminal := t.trustedTerminal
    outcome := t.outcome
    terminalAt := if isTerminal t.toState then some t.occurredAt else none
    protocolRequestId := t.protocolRequestId <|> current.protocolRequestId
    terminalFields := t.terminalFields <|> current.terminalFields
    generation_pos := Nat.le_trans current.generation_pos forward
    trusted_iff := trusted }

def TransitionWrite.requireFields (t : TransitionWrite) : Except Raised Unit :=
  match t.terminalFields with
  | none => .ok ()
  | some fields => requireTerminalFields fields

def TransitionWrite.body (t : TransitionWrite)
    (trusted : t.trustedTerminal = true ↔ t.toState = .succeeded) :
    Script Db Raised (Option OperationRecord) :=
  .execute some fun db =>
    match db.readOperation t.operationId with
    | none => .raise (.journalError s!"unknown operation {t.operationId}")
    | some current =>
      if canTransition current.state t.toState = false then
        .raise (.invalidTransition
          s!"operation {t.operationId} cannot move from {current.state.value} to {t.toState.value}")
      else if backwards : t.generation < current.generation then
        .raise (.invalidTransition "snapshot generation must not move backwards")
      else
        match t.requireFields with
        | .error e => .raise e
        | .ok () =>
          .execute (Db.updateOperation (t.move current (Nat.le_of_not_lt backwards) trusted))
            fun _ =>
          .execute (Db.appendTransition t.operationId (some current.state) t.toState
            t.generation t.occurredAt t.reason) fun _ =>
          .execute some fun db => .done (db.readOperation t.operationId)

def transitionScript (t : TransitionWrite) :
    Except Raised (Script Db Raised (Option OperationRecord)) := do
  requireReason t.reason
  if untrusted : t.toState = .succeeded ∧ t.trustedTerminal = false then
    throw (.invalidTransition "succeeded requires a trusted correlated firmware terminal")
  else if stray : t.trustedTerminal = true ∧ t.toState ≠ .succeeded then
    throw (.invalidTransition "only a succeeded operation records a trusted terminal")
  else
    return t.body (by grind)

theorem admissionScript_eq_ok {operation : OperationRecord} {reason : String}
    {idempotency : Option IdempotencyRecord} {script : Script Db Raised Unit}
    (h : admissionScript operation reason idempotency = .ok script) :
    script = admissionBody operation reason idempotency := by
  unfold admissionScript at h
  split_ifs at h
  cases hr : requireReason reason with
  | error e => simp [hr, bind, Except.bind] at h
  | ok u =>
    cases hi : requireIdempotency operation idempotency with
    | error e => simp [hr, hi, bind, Except.bind] at h
    | ok v => simpa [hr, hi, bind, Except.bind, pure, Except.pure] using h.symm

theorem admissionBody_returned {operation : OperationRecord} {reason : String}
    {idempotency : Option IdempotencyRecord} {db db' : Db} {u : Unit}
    (h : (admissionBody operation reason idempotency).run [] db = (.returned u, db', [])) :
    operation.operationId ∉ db.operationIds ∧ db'.operations = db.operations ++ [operation] ∧
      db'.transitions = db.transitions ++
        [⟨db.transitions.length + 1, operation.operationId, none,
        operation.state, operation.generation, operation.createdAt, reason⟩] ∧
      db'.idempotency = db.idempotency ++ idempotency.toList ∧
      db'.configurations = db.configurations := by
  simp only [admissionBody, Script.run_execute_nil] at h
  split at h
  · rename_i d₁ inserted
    obtain ⟨fresh, o₁, t₁, i₁, c₁⟩ := Db.insertOperation_eq_some inserted
    split at h
    · rename_i d₂ appended
      obtain ⟨o₂, t₂, i₂, c₂⟩ := Db.appendTransition_eq_some appended
      cases idempotency with
      | none =>
        simp only [Script.run_done, Prod.mk.injEq, true_and, and_true] at h
        obtain ⟨-, rfl⟩ := h
        refine ⟨fresh, by rw [o₂, o₁], by rw [t₂, t₁], by simp [i₂, i₁],
          by rw [c₂, c₁]⟩
      | some record =>
        simp only [Script.run_execute_nil] at h
        split at h
        · rename_i d₃ keyed
          obtain ⟨-, o₃, t₃, i₃, c₃⟩ := Db.insertIdempotency_eq_some keyed
          simp only [Script.run_done, Prod.mk.injEq, and_true] at h
          obtain ⟨-, rfl⟩ := h
          exact ⟨fresh, by rw [o₃, o₂, o₁], by rw [t₃, t₂, t₁],
            by rw [i₃, i₂, i₁]; rfl, by rw [c₃, c₂, c₁]⟩
        · simp at h
    · simp at h
  · simp at h

theorem transitionScript_eq_ok {t : TransitionWrite}
    {script : Script Db Raised (Option OperationRecord)} (h : transitionScript t = .ok script) :
    ∃ trusted, script = t.body trusted := by
  unfold transitionScript at h
  cases hr : requireReason t.reason with
  | error e => simp [hr, bind, Except.bind] at h
  | ok u =>
    simp only [hr, bind, Except.bind] at h
    split_ifs at h with untrusted stray
    exact ⟨_, (Except.ok.inj h).symm⟩

theorem TransitionWrite.body_returned {t : TransitionWrite}
    {trusted : t.trustedTerminal = true ↔ t.toState = .succeeded} {db db' : Db}
    {result : Option OperationRecord}
    (h : (t.body trusted).run [] db = (.returned result, db', [])) :
    ∃ current forward, db.readOperation t.operationId = some current ∧
      canTransition current.state t.toState = true ∧
      result = db'.readOperation t.operationId ∧
      db'.operations = Db.replaceOperation (t.move current forward trusted) db.operations ∧
      db'.transitions = db.transitions ++ [⟨db.transitions.length + 1, t.operationId,
        some current.state, t.toState, t.generation, t.occurredAt, t.reason⟩] ∧
      db'.idempotency = db.idempotency ∧ db'.configurations = db.configurations := by
  simp only [TransitionWrite.body, Script.run_execute_nil] at h
  split at h
  · simp at h
  · rename_i current found
    split_ifs at h with disallowed backwards
    · simp at h
    · simp at h
    · split at h
      · simp at h
      · simp only [Script.run_execute_nil] at h
        split at h
        · rename_i d₁ updated
          split at h
          · rename_i d₂ appended
            obtain ⟨o₂, t₂, i₂, c₂⟩ := Db.appendTransition_eq_some appended
            simp only [Script.run_done, Prod.mk.injEq, and_true] at h
            obtain ⟨result_eq, rfl⟩ := h
            cases updated
            exact ⟨current, Nat.le_of_not_lt backwards, found, by simpa using disallowed,
              (Ending.returned.inj result_eq).symm, o₂, t₂, i₂, c₂⟩
          · simp at h
        · simp at h

def configurationScript (snapshot : ConfigurationSnapshot) :
    Except Raised (Script Db Raised Unit) :=
  .ok (.execute (Db.insertConfiguration snapshot) fun _ => .done ())

def pruneScript (moment : Nat) : Except Raised (Script Db Raised Nat) :=
  .ok (.execute (Db.deleteExpired moment) fun db =>
    .done (db.idempotency.countP fun record => !record.liveAt moment))

namespace Journal

def recordAdmission (operation : OperationRecord) (reason : String)
    (idempotency : Option IdempotencyRecord) : Journal → Except Raised Unit × Journal :=
  write (admissionScript operation reason idempotency)

def recordTransition (t : TransitionWrite) (j : Journal) :
    Except Raised OperationRecord × Journal :=
  match write (transitionScript t) j with
  | (.error e, j) => (.error e, j)
  | (.ok (some updated), j) => (.ok updated, j)
  | (.ok none, j) =>
    (.error (.journalError s!"operation {t.operationId} disappeared during transition"), j)

def recordConfiguration (snapshot : ConfigurationSnapshot) :
    Journal → Except Raised Unit × Journal :=
  write (configurationScript snapshot)

def pruneIdempotency (moment : Nat) : Journal → Except Raised Nat × Journal :=
  write (pruneScript moment)

end Journal

def Db.recentOperations (limit : Nat) (before : Option Nat) (state : Option OperationState)
    (action : Option OperationAction) (db : Db) : List (Nat × OperationRecord) :=
  let rows := (db.operations.zipIdx 1).filter fun row =>
    before.all (row.2 < ·) && state.all (row.1.state = ·) && action.all (row.1.action = ·)
  (rows.reverse.take limit).map fun row => (row.2, row.1)

def Db.appliedConfiguration (db : Db) : Option (List (String × Int) × Nat × Nat) :=
  db.latestConfiguration.map fun row => (row.payload, row.generation, row.createdAt)

def Db.transitionsOf (operationId : OperationId) (db : Db) : List TransitionRecord :=
  db.transitions.filter (·.operationId = operationId)

/-- The live record for `key`; an expired one is neither returned nor deleted. -/
def Db.idempotencyRecord (key : String) (moment : Nat) (db : Db) : Option IdempotencyRecord :=
  (db.idempotency.find? (·.key = key)).filter (·.liveAt moment)

namespace Journal

def operation (operationId : OperationId) : Journal →
    Except Raised (Option OperationRecord) × Journal :=
  guard (Db.readOperation operationId)

def recentOperations (limit : Nat) (before : Option Nat) (state : Option OperationState)
    (action : Option OperationAction) (j : Journal) :
    Except Raised (List (Nat × OperationRecord)) × Journal :=
  if limit < 1 then (.error (.validation "limit must be positive"), j)
  else guard (Db.recentOperations limit before state action) j

def appliedConfiguration : Journal → Except Raised
    (Option (List (String × Int) × Nat × Nat)) × Journal :=
  guard Db.appliedConfiguration

def transitions (operationId : OperationId) :
    Journal → Except Raised (List TransitionRecord) × Journal :=
  guard (Db.transitionsOf operationId)

def idempotencyRecord (key : String) (moment : Nat) :
    Journal → Except Raised (Option IdempotencyRecord) × Journal :=
  guard (Db.idempotencyRecord key moment)

end Journal
end CaseSorter.Daemon
