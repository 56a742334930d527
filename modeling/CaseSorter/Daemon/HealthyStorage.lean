import CaseSorter.Daemon.History

/-! The domain over storage that never fails: which of its actions raise nothing of the
journal's and leave it in service. -/

namespace CaseSorter.Daemon

open CaseSorter.Actions CaseSorter.Transactions

namespace Journal

variable {α : Type}

@[simp] theorem open_committed (db : Db) : (Journal.open db).connection.committed = db := rfl

@[simp] theorem guard_open (read : Db → α) (db : Db) :
    guard read (Journal.open db) = (.ok (read db), Journal.open db) := rfl

theorem write_open (script : Script Db Raised α) (db : Db) :
    write (.ok script) (Journal.open db) =
      match (script.run [] db).1 with
      | .returned a => (.ok a, Journal.open (script.run [] db).2.1)
      | .raised e => (.error e, Journal.open db)
      | .refused rolledBack =>
        (.error (if rolledBack then .sqliteError "cannot rollback - no transaction is active"
          else .journalError "journal write failed"), Journal.open db) := by
  have answers := Script.run_nil_answers script db
  rw [write, transaction, if_neg (by simp [Journal.open]), if_neg (by simp [Journal.open])]
  simp only [Journal.open, List.tail_nil, answers]
  cases h : (script.run [] db).1 with
  | returned a => rfl
  | raised e => rfl
  | refused rolledBack => cases rolledBack <;> rfl

end Journal

theorem TransitionWrite.requireFields_error {t : TransitionWrite} {e : Raised}
    (h : t.requireFields = .error e) : e.isJournal = false := by
  unfold TransitionWrite.requireFields at h
  split at h
  · cases h
  · exact requireTerminalFields_error h

theorem TransitionWrite.body_run_known (t : TransitionWrite)
    (trusted : t.trustedTerminal = true ↔ t.toState = .succeeded) {db : Db}
    (known : t.operationId ∈ db.operationIds) :
    (∃ e, ((t.body trusted).run [] db).1 = .raised e ∧ e.isJournal = false) ∨
      ∃ record, ((t.body trusted).run [] db).1 = .returned (some record) := by
  obtain ⟨current, found⟩ := Db.mem_operationIds_iff.mp known
  simp only [TransitionWrite.body, Script.run_execute_nil, found]
  split_ifs with disallowed backwards
  · exact .inl ⟨_, rfl, rfl⟩
  · exact .inl ⟨_, rfl, rfl⟩
  · split
    · rename_i e invalid
      exact .inl ⟨e, rfl, TransitionWrite.requireFields_error invalid⟩
    · obtain ⟨d₁, updated, ids₁⟩ := Db.updateOperation_known
        (t.move current (Nat.le_of_not_lt backwards) trusted) db
      obtain ⟨d₂, appended, ids₂⟩ :=
        Db.appendTransition_known (some current.state) t.toState
        t.generation t.occurredAt t.reason (ids₁ ▸ known)
      have still : t.operationId ∈ d₂.operationIds := by
        rw [ids₂, ids₁]
        exact known
      obtain ⟨record, read⟩ := Db.mem_operationIds_iff.mp still
      simp only [Script.run_execute_nil, updated, appended, Script.run_done, read]
      exact .inr ⟨record, rfl⟩

theorem Journal.recordTransition_open (t : TransitionWrite) {db : Db}
    (known : t.operationId ∈ db.operationIds) :
    (∃ e, recordTransition t (Journal.open db) = (.error e, Journal.open db) ∧
      e.isJournal = false) ∨
    ∃ record db', recordTransition t (Journal.open db) = (.ok record, Journal.open db') ∧
      record.operationId = t.operationId ∧ db'.operationIds = db.operationIds ∧
      db'.idempotency = db.idempotency ∧ db'.configurations = db.configurations := by
  unfold recordTransition
  cases hs : transitionScript t with
  | error e =>
    refine .inl ⟨e, rfl, ?_⟩
    unfold transitionScript at hs
    cases hr : requireReason t.reason with
    | error e' =>
      rw [hr] at hs
      cases hs
      exact requireReason_error hr
    | ok u =>
      simp only [hr, bind, Except.bind] at hs
      split_ifs at hs <;> cases hs <;> rfl
  | ok script =>
    obtain ⟨trusted, rfl⟩ := transitionScript_eq_ok hs
    rw [write_open]
    rcases t.body_run_known trusted known with ⟨e, raised, quiet⟩ | ⟨record, returned⟩
    · rw [raised]
      exact .inl ⟨e, rfl, quiet⟩
    · rw [returned]
      refine .inr ⟨record, _, rfl, ?_⟩
      obtain ⟨current, forward, -, -, read, moved, -, keys, configurations⟩ :=
        TransitionWrite.body_returned (Script.run_nil_eq returned)
      refine ⟨Db.readOperation_operationId read.symm, ?_, keys, configurations⟩
      rw [Db.operationIds, moved, Db.replaceOperation_ids, Db.operationIds]

theorem admissionScript_error {operation : OperationRecord} {reason : String}
    {idempotency : Option IdempotencyRecord} {e : Raised}
    (h : admissionScript operation reason idempotency = .error e) : e.isJournal = false := by
  unfold admissionScript at h
  split_ifs at h
  · cases h
    rfl
  · cases hr : requireReason reason with
    | error e' =>
      rw [hr] at h
      cases h
      exact requireReason_error hr
    | ok u =>
      simp only [hr, bind, Except.bind] at h
      cases hi : requireIdempotency operation idempotency with
      | error e' =>
        rw [hi] at h
        cases h
        unfold requireIdempotency at hi
        split at hi
        · cases hi
        · split_ifs at hi <;> cases hi <;> rfl
      | ok v =>
        rw [hi] at h
        cases h

theorem Journal.recordAdmission_fresh {operation : OperationRecord} (reason : String)
    {record : IdempotencyRecord} {db : Db} (fresh : operation.operationId ∉ db.operationIds)
    (owned : record.operationId = operation.operationId)
    (free : record.key ∉ db.idempotency.map (·.key)) :
    (∃ e, recordAdmission operation reason (some record) (Journal.open db) =
      (.error e, Journal.open db) ∧ e.isJournal = false) ∨
    ∃ db', recordAdmission operation reason (some record) (Journal.open db) =
      (.ok (), Journal.open db') ∧
      db'.operationIds = db.operationIds ++ [operation.operationId] ∧
      db'.configurations = db.configurations := by
  unfold recordAdmission
  cases hs : admissionScript operation reason (some record) with
  | error e => exact .inl ⟨e, rfl, admissionScript_error hs⟩
  | ok script =>
    rw [admissionScript_eq_ok hs, write_open]
    have inserted : ∃ d₁, Db.insertOperation operation db = some d₁ := by
      rw [Db.insertOperation, dif_neg fresh]
      exact ⟨_, rfl⟩
    obtain ⟨d₁, inserted⟩ := inserted
    obtain ⟨-, o₁, -, i₁, -⟩ := Db.insertOperation_eq_some inserted
    have ids₁ : d₁.operationIds = db.operationIds ++ [operation.operationId] := by
      rw [Db.operationIds, o₁, List.map_append, Db.operationIds]
      rfl
    obtain ⟨d₂, appended, ids₂⟩ := Db.appendTransition_known none operation.state
      operation.generation operation.createdAt reason
      (show operation.operationId ∈ d₁.operationIds by simp [ids₁])
    obtain ⟨-, -, i₂, -⟩ := Db.appendTransition_eq_some appended
    have keyed : ∃ d₃, Db.insertIdempotency record d₂ = some d₃ := by
      rw [Db.insertIdempotency, dif_neg (by rw [i₂, i₁]; exact free),
        dif_pos (by rw [ids₂, ids₁, owned]; simp)]
      exact ⟨_, rfl⟩
    obtain ⟨d₃, keyed⟩ := keyed
    have ran : (admissionBody operation reason (some record)).run [] db =
        (.returned (), d₃, []) := by
      simp only [admissionBody, Script.run_execute_nil, inserted, appended, keyed,
        Script.run_done]
    obtain ⟨-, o₃, -, -, c₃⟩ := admissionBody_returned ran
    rw [ran]
    refine .inr ⟨d₃, rfl, ?_, c₃⟩
    rw [Db.operationIds, o₃, List.map_append, Db.operationIds]
    rfl

theorem Journal.recordAdmission_taken (operation : OperationRecord) (reason : String)
    (record : IdempotencyRecord) {db : Db} (taken : record.key ∈ db.idempotency.map (·.key)) :
    ∃ e, recordAdmission operation reason (some record) (Journal.open db) =
      (.error e, Journal.open db) := by
  unfold recordAdmission
  cases hs : admissionScript operation reason (some record) with
  | error e => exact ⟨e, rfl⟩
  | ok script =>
    rw [admissionScript_eq_ok hs, write_open]
    cases hr : ((admissionBody operation reason (some record)).run [] db).1 with
    | raised e => exact ⟨e, rfl⟩
    | refused rolledBack => exact ⟨_, rfl⟩
    | returned u =>
      have ran := Script.run_nil_eq hr
      obtain ⟨-, -, -, keys, -⟩ := admissionBody_returned ran
      have unique := ((admissionBody operation reason (some record)).run [] db).2.1.idempotency_keys
      rw [keys, List.map_append, List.nodup_append] at unique
      exact absurd rfl (unique.2.2 _ taken _ (by simp))

theorem Journal.recordConfiguration_fresh (snapshot : ConfigurationSnapshot) {db : Db}
    (fresh : ∀ c ∈ db.configurations, c.configId ≠ snapshot.configId) :
    ∃ db', recordConfiguration snapshot (Journal.open db) = (.ok (), Journal.open db') ∧
      db'.operationIds = db.operationIds ∧
      db'.configurations = db.configurations ++ [snapshot] := by
  have inserted : ∃ d₁, Db.insertConfiguration snapshot db = some d₁ := by
    rw [Db.insertConfiguration, if_neg (by simpa using fresh)]
    exact ⟨_, rfl⟩
  obtain ⟨d₁, inserted⟩ := inserted
  obtain ⟨operations, -, -, configurations⟩ := Db.insertConfiguration_eq_some inserted
  refine ⟨d₁, ?_, ?_, configurations⟩
  · rw [recordConfiguration, configurationScript, write_open, Script.run_execute_nil, inserted]
    rfl
  · rw [Db.operationIds, operations, Db.operationIds]

namespace Domain

variable {α : Type}

/-- The domain is in service over storage that never fails. -/
structure Sound (d : Domain) : Prop where
  journal : d.journal = Journal.open d.db
  available : d.machine.journalAvailable = true
  operations : ∀ i ∈ d.db.operationIds, i < d.nextId
  configurations : ∀ c ∈ d.db.configurations, c.configId < d.nextId

def Listed (record : OperationRecord) (d : Domain) : Prop :=
  d.Sound ∧ record.operationId ∈ d.db.operationIds

def Quiet (e : Raised) (d : Domain) : Prop := e.isJournal = false ∧ d.Sound

theorem exec_read {d : Domain} (sound : d.Sound) (read : Db → α) :
    exec (onJournal (Journal.guard read)) d = (.ok (read d.db), d) := by
  rw [exec_onJournal, sound.journal, Journal.guard_open]
  simp only [← sound.journal]

theorem Sound.write {d : Domain} (sound : d.Sound) {db' : Db} {m : MachineSnapshot}
    {views : List PublishedView} {n : Nat} (available : m.journalAvailable = true)
    (supply : d.nextId ≤ n)
    (operations : ∀ i ∈ db'.operationIds, i ∈ d.db.operationIds ∨ i < n)
    (configurations : ∀ c ∈ db'.configurations, c ∈ d.db.configurations ∨ c.configId < n) :
    ({ d with
        journal := Journal.open db'
        machine := m
        history := views
        nextId := n } : Domain).Sound where
  journal := rfl
  available := available
  operations i hi :=
    (operations i hi).elim (fun h => Nat.lt_of_lt_of_le (sound.operations i h) supply) id
  configurations c hc :=
    (configurations c hc).elim (fun h => Nat.lt_of_lt_of_le (sound.configurations c h) supply) id

theorem ensures_transition (move : Move) (now : Nat) :
    Ensures (fun d => d.Sound ∧ move.operationId ∈ d.db.operationIds) (transition move now)
      Listed Quiet := by
  rintro d ⟨sound, known⟩
  have written := exec_writeTransition move now d
  rw [transition, exec_tryCatch]
  rcases Journal.recordTransition_open ⟨move, d.machine.generation + 1, now⟩ known with
    ⟨e, recorded, quiet⟩ | ⟨record, db', recorded, id_eq, ids, -, configurations⟩
  · rw [sound.journal, recorded] at written
    simp only [← sound.journal] at written
    rw [written]
    cases e <;> first | exact ⟨quiet, sound⟩ | cases quiet
  · rw [sound.journal, recorded] at written
    rw [written]
    refine ⟨sound.write sound.available (Nat.le_refl _) ?_ ?_, ?_⟩
    · intro i hi
      exact .inl (ids ▸ hi)
    · intro c hc
      exact .inl (configurations ▸ hc)
    · show record.operationId ∈ db'.operationIds
      rw [id_eq, ids]
      exact known

theorem ensures_transition_listed {record : OperationRecord} {move : Move}
    (own : move.operationId = record.operationId) (now : Nat) :
    Ensures (Listed record) (transition move now) Listed Quiet :=
  (ensures_transition move now).weaken (fun _ h => ⟨h.1, own ▸ h.2⟩) (fun _ _ h => h)
    (fun _ _ h => h)

theorem newOperation_operationId {i : OperationId} {action : OperationAction} {caller : Caller}
    {generation window : Nat} {operation : OperationRecord}
    (h : newOperation i action caller generation window = .ok operation) :
    operation.operationId = i := by
  unfold newOperation at h
  split_ifs at h
  cases h
  rfl

theorem newOperation_error {i : OperationId} {action : OperationAction} {caller : Caller}
    {generation window : Nat} {e : Raised}
    (h : newOperation i action caller generation window = .error e) : e.isJournal = false := by
  unfold newOperation at h
  split_ifs at h <;> cases h <;> rfl

theorem ensures_admitOperation (action : OperationAction) (caller : Caller) (view : MachineSnapshot)
    (window : Nat) (reason : String) :
    Ensures (fun d => d.Sound ∧ caller.idempotencyKey ∉ d.db.idempotency.map (·.key))
      (admitOperation action caller view window reason) Listed Quiet := by
  rintro d ⟨sound, free⟩
  have supplied : ({ d with nextId := d.nextId + 1 } : Domain).Sound := by
    refine ⟨sound.journal, sound.available, fun i hi => ?_, fun c hc => ?_⟩
    · exact Nat.lt_succ_of_lt (sound.operations i hi)
    · exact Nat.lt_succ_of_lt (sound.configurations c hc)
  simp only [admitOperation, exec_bind, exec_newOperationId, exec_ofExcept]
  cases made : newOperation d.nextId action caller view.generation window with
  | error e => exact ⟨newOperation_error made, supplied⟩
  | ok operation =>
    have id_eq := newOperation_operationId made
    have fresh : operation.operationId ∉ d.db.operationIds := by
      rw [id_eq]
      exact fun h => Nat.lt_irrefl _ (sound.operations _ h)
    simp only [exec_get, exec_onJournal]
    rcases Journal.recordAdmission_fresh s!"admitted against generation {view.generation}" fresh
        (show (newIdempotency d.nextId caller { d with nextId := d.nextId + 1 }).operationId =
          operation.operationId from id_eq.symm) free with
      ⟨e, recorded, quiet⟩ | ⟨db', recorded, ids, configurations⟩
    · rw [← sound.journal] at recorded
      rw [recorded]
      exact ⟨quiet, supplied⟩
    · rw [← sound.journal] at recorded
      rw [recorded]
      refine ensures_transition _ _ _ ⟨?_, ?_⟩
      · refine sound.write sound.available (Nat.le_succ _) ?_ ?_
        · intro i hi
          rw [ids, List.mem_append, List.mem_singleton] at hi
          rcases hi with old | new
          · exact .inl old
          · refine .inr ?_
            rw [new, id_eq]
            exact Nat.lt_succ_self _
        · intro c hc
          exact .inl (configurations ▸ hc)
      · show d.nextId ∈ db'.operationIds
        rw [ids, ← id_eq]
        simp

theorem ensures_applyConfiguration (operation : OperationRecord) (values : ConfigurationValues)
    (caller : Caller) :
    Ensures (Listed operation) (applyConfiguration operation values caller) Listed Quiet := by
  rintro d ⟨sound, listed⟩
  have fresh : ∀ c ∈ d.db.configurations, c.configId ≠ d.nextId :=
    fun c hc => Nat.ne_of_lt (sound.configurations c hc)
  simp only [applyConfiguration, exec_bind, exec_get, exec_newOperationId, exec_onJournal]
  obtain ⟨db', recorded, ids, configurations⟩ := Journal.recordConfiguration_fresh
    ⟨d.nextId, d.machine.generation + 1, values.asMapping,
      s!"{caller.actor.role}:{caller.actor.userId}", caller.now⟩ fresh
  rw [← sound.journal] at recorded
  rw [recorded]
  simp only [exec_modify]
  refine ensures_transition _ _ _ ⟨⟨rfl, sound.available, ?_, ?_⟩, ?_⟩
  · intro i hi
    exact Nat.lt_succ_of_lt (sound.operations i (ids ▸ hi))
  · intro c hc
    change c ∈ db'.configurations at hc
    rw [configurations, List.mem_append, List.mem_singleton] at hc
    rcases hc with old | new
    · exact Nat.lt_succ_of_lt (sound.configurations c old)
    · rw [new]
      exact Nat.lt_succ_self _
  · show operation.operationId ∈ db'.operationIds
    rw [ids]
    exact listed

theorem ensures_durable {P : Domain → Prop} {Q : α → Domain → Prop} {body : DomainM α}
    (activity : String) (now : Nat) (h : Ensures P body Q Quiet) :
    Ensures P (durable activity now body) Q Quiet := by
  refine ensures_tryCatch h fun e => ?_
  rintro d ⟨quiet, sound⟩
  cases e <;> first | exact ⟨quiet, sound⟩ | cases quiet

theorem Db.idempotencyRecord_eq_none {db : Db} {key : String} {now : Nat}
    (h : db.idempotencyRecord key now = none) :
    ∀ row ∈ db.idempotency, row.key = key → row.liveAt now = false := by
  rintro row member rfl
  rw [Db.idempotencyRecord, Db.find_idempotency member] at h
  simpa using h

theorem exec_replay {d : Domain} (sound : d.Sound) (key fingerprint : String) (now : Nat) :
    (d.db.idempotencyRecord key now = none ∧
      exec (replay key fingerprint now) d = (.ok none, d)) ∨
    (∃ e, e.isJournal = false ∧ exec (replay key fingerprint now) d = (.error e, d)) ∨
    ∃ record, record.operationId ∈ d.db.operationIds ∧
      exec (replay key fingerprint now) d = (.ok (some record), d) := by
  simp only [replay, exec_bind, Journal.idempotencyRecord, exec_read sound]
  cases h : d.db.idempotencyRecord key now with
  | none => exact .inl ⟨rfl, rfl⟩
  | some existing =>
    by_cases differs : existing.fingerprint ≠ fingerprint
    · refine .inr (.inl ⟨.idempotencyConflict
        s!"idempotency key {key} is already bound to a different canonical request", rfl, ?_⟩)
      simp only [if_pos differs, exec_throw, exec_bind]
    · have member : existing ∈ d.db.idempotency :=
        List.mem_of_find?_eq_some (Option.filter_eq_some_iff.mp h).1
      obtain ⟨record, found⟩ :=
        Db.mem_operationIds_iff.mp (d.db.idempotency_refs existing member)
      refine .inr (.inr ⟨record, ?_, ?_⟩)
      · exact Db.mem_operationIds_iff.mpr
          ⟨record, by rw [Db.readOperation_operationId found, found]⟩
      · simp only [if_neg differs, exec_pure, exec_bind, Journal.operation, exec_read sound, found]

theorem requireGeneration_error {kind : String} {expected : Option Nat} {view : MachineSnapshot}
    {e : Raised} (h : requireGeneration kind expected view = .error e) : e.isJournal = false := by
  unfold requireGeneration at h
  split at h
  · cases h
  · split_ifs at h
    cases h
    rfl

def Passes (expected : Option Nat) (check : MachineSnapshot → Except Raised Unit)
    (view : MachineSnapshot) : Prop :=
  expected.all (· = view.generation) ∧ check view = .ok ()

theorem requireGeneration_eq_ok_iff {kind : String} {expected : Option Nat}
    {view : MachineSnapshot} :
    requireGeneration kind expected view = .ok () ↔ expected.all (· = view.generation) := by
  cases expected with
  | none => simp [requireGeneration]
  | some g => by_cases h : g = view.generation <;> simp [requireGeneration, h]

theorem ensures_admission (activity kind : String) {caller : Caller} {expected : Option Nat}
    {check : MachineSnapshot → Except Raised Unit}
    {proceed : MachineSnapshot → DomainM OperationRecord} (healthy : caller.threat = none)
    (quiet_check : ∀ view e, check view = .error e → e.isJournal = false)
    (quiet_proceed : ∀ view, Ensures
      (fun d => d.Sound ∧ caller.idempotencyKey ∉ d.db.idempotency.map (·.key))
      (proceed view) Listed Quiet) :
    Ensures
      (fun d => d.Sound ∧ ∀ row ∈ d.db.idempotency, row.key = caller.idempotencyKey →
        row.liveAt caller.now = true ∨ ¬ Passes expected check d.machine)
      (admission activity kind caller expected check proceed)
      (fun a d => Listed a.record d) Quiet := by
  rintro d ⟨sound, free⟩
  have durable_view : requireDurable d.machine = .ok () := by
    rw [requireDurable, if_pos sound.available]
  simp only [admission, exec_bind, refreshDurability, healthy, exec_get, exec_pure, exec_ofExcept,
    durable_view]
  refine ensures_durable activity caller.now ?_ d (rfl : d = d)
  rintro _ rfl
  rw [exec_bind]
  rcases exec_replay sound caller.idempotencyKey caller.fingerprint caller.now with
    ⟨absent, replayed⟩ | ⟨e, quiet, replayed⟩ | ⟨record, listed, replayed⟩
  · rw [replayed]
    simp only [exec_bind, exec_ofExcept]
    cases hg : requireGeneration kind expected d.machine with
    | error e => exact ⟨requireGeneration_error hg, sound⟩
    | ok u =>
      cases hc : check d.machine with
      | error e => exact ⟨quiet_check _ e hc, sound⟩
      | ok v =>
        have unborne : caller.idempotencyKey ∉ d.db.idempotency.map (·.key) := by
          intro borne
          obtain ⟨row, member, key_eq⟩ := List.mem_map.mp borne
          rcases free row member key_eq with live | refused
          · rw [Db.idempotencyRecord_eq_none absent row member key_eq] at live
            cases live
          · exact refused ⟨requireGeneration_eq_ok_iff.mp hg, hc⟩
        have proceeded := quiet_proceed d.machine d ⟨sound, unborne⟩
        rcases hp : exec (proceed d.machine) d with ⟨e | record, t⟩
        all_goals
          rw [hp] at proceeded
          simp only [hp]
          exact proceeded
  · rw [replayed]
    exact ⟨quiet, sound⟩
  · rw [replayed]
    exact ⟨sound, listed⟩

theorem requireReady_error {intent : WorkerIntent} {view : MachineSnapshot} {e : Raised}
    (h : requireReady intent view = .error e) : e.isJournal = false := by
  unfold requireReady at h
  split_ifs at h
  · unfold requireSupported at h
    split at h
    · split at h
      · split_ifs at h
        cases h
        rfl
      · split_ifs at h <;> cases h <;> rfl
      · cases h
        rfl
      · cases h
        rfl
    · cases h
      rfl
  · cases h
    rfl

theorem ensures_current (operationId : OperationId) (now : Nat) :
    Ensures Sound (current operationId now)
      (fun r d => d.Sound ∧ r = d.db.readOperation operationId) Quiet := by
  intro d sound
  simp only [current, exec_tryCatch, Journal.operation, exec_read sound]
  exact ⟨sound, trivial⟩

theorem ensures_safeTransition (move : Move) (now : Nat) :
    Ensures (fun d => d.Sound ∧ move.operationId ∈ d.db.operationIds) (safeTransition move now)
      (fun _ d => d.Sound) Quiet := by
  have moved : Ensures (fun d => d.Sound ∧ move.operationId ∈ d.db.operationIds)
      (do let _ ← transition move now) (fun _ d => d.Sound) Quiet :=
    ensures_bind (ensures_transition move now) fun r => ensures_pure fun d h => h.1
  refine ensures_tryCatch moved fun e => ?_
  rintro d ⟨quiet, sound⟩
  cases e <;> first | exact ⟨quiet, sound⟩ | cases quiet

theorem ensures_settle (operationId : OperationId) (now : Nat)
    (choose : OperationRecord → Option Move)
    (own : ∀ r m, choose r = some m → m.operationId = r.operationId) :
    Ensures Sound
      (do
        match (← current operationId now).bind choose with
        | none => pure ()
        | some move => safeTransition move now)
      (fun _ d => d.Sound) Quiet := by
  refine ensures_bind (ensures_current operationId now) fun r => ?_
  cases hm : r.bind choose with
  | none => exact ensures_pure fun d h => h.1
  | some move =>
    refine (ensures_safeTransition move now).weaken ?_ (fun _ _ h => h) (fun _ _ h => h)
    rintro d ⟨sound, read⟩
    obtain ⟨record, rfl, chosen⟩ := Option.bind_eq_some_iff.mp hm
    refine ⟨sound, ?_⟩
    rw [own record move chosen, Db.readOperation_operationId read.symm]
    exact Db.mem_operationIds_iff.mpr ⟨record, read.symm⟩

theorem resolution_operationId (error : Failure) (r : OperationRecord) (m : Move)
    (h : resolution error r = some m) : m.operationId = r.operationId := by
  unfold resolution at h
  split_ifs at h
  cases h
  rfl

theorem completion_operationId (result : WorkerResult) (r : OperationRecord) (m : Move)
    (h : completion result r = some m) : m.operationId = r.operationId := by
  cases result with
  | status mode phase =>
    simp only [completion] at h
    split_ifs at h <;> cases h <;> rfl
  | completion c =>
    simp only [completion] at h
    split_ifs at h <;> cases h <;> rfl
  | other typeName =>
    simp only [completion] at h
    split_ifs at h
    cases h
    rfl

theorem ensures_resolve (operationId : OperationId) (error : Failure) (now : Nat) :
    Ensures Sound (resolve operationId error now) (fun _ d => d.Sound) Quiet :=
  ensures_settle operationId now _ (resolution_operationId error)

theorem ensures_complete (operationId : OperationId) (result : WorkerResult) (now : Nat) :
    Ensures Sound (complete operationId result now) (fun _ d => d.Sound) Quiet :=
  ensures_settle operationId now _ (completion_operationId result)

theorem translate_isJournal (error : Failure) : error.translate.isJournal = false := by
  cases error <;> rfl

theorem ensures_handOver (refusal : Option Failure) (now : Nat) (a : Admission) :
    Ensures (Listed a.record) (handOver refusal now a) (fun _ d => d.Sound) Quiet := by
  cases a with
  | replayed record => exact ensures_pure fun d h => h.1
  | admitted record =>
    cases refusal with
    | none => exact ensures_pure fun d h => h.1
    | some error =>
      refine ensures_bind ?_ fun u => ensures_throw fun d h => ⟨translate_isJournal error, h⟩
      exact (ensures_resolve record.operationId error now).weaken (fun d h => h.1)
        (fun _ _ h => h) (fun _ _ h => h)

end Domain

theorem intentFor_error {action : OperationAction} {body : RequestBody} {e : Raised}
    (h : intentFor action body = .error e) : e.isJournal = false := by
  have home : homeIntent body = .error e → e.isJournal = false := by
    unfold homeIntent
    intro h
    split at h <;> cases h <;> rfl
  have sort : sortIntent body = .error e → e.isJournal = false := by
    unfold sortIntent
    intro h
    split at h
    · split_ifs at h
      cases h
      rfl
    · cases h
      rfl
    · cases h
      rfl
  have feed : feedIntent body = .error e → e.isJournal = false := by
    unfold feedIntent
    intro h
    split at h <;> cases h <;> rfl
  cases action with
  | home => exact home h
  | feed => exact feed h
  | sort => exact sort h
  | configure => exact sort h
  | stop | connect | recover =>
    cases h
    rfl

theorem ConfigurationValues.make_error {value : Setting → Int} {e : Raised}
    (h : ConfigurationValues.make value = .error e) : e.isJournal = false := by
  unfold ConfigurationValues.make at h
  split at h
  · cases h
    rfl
  · cases h

theorem ConfigurationValues.withChanges_error {v : ConfigurationValues}
    {changes : List (String × Int)} {e : Raised} (h : v.withChanges changes = .error e) :
    e.isJournal = false := by
  unfold ConfigurationValues.withChanges at h
  split_ifs at h
  · cases h
    rfl
  · cases h
    rfl
  · exact ConfigurationValues.make_error h

theorem Domain.configurationOf_error {d : Domain}
    {applied : Option (List (String × Int) × Nat × Nat)} {e : Raised}
    (h : d.configurationOf applied = .error e) : e.isJournal = false := by
  cases applied with
  | none => cases h
  | some row =>
    simp only [Domain.configurationOf] at h
    cases hm : ConfigurationValues.fromMapping row.1 with
    | ok v =>
      rw [hm] at h
      cases h
    | error e' =>
      rw [hm] at h
      cases h
      unfold ConfigurationValues.fromMapping at hm
      split_ifs at hm
      · cases hm
        rfl
      · exact ConfigurationValues.make_error hm

end CaseSorter.Daemon
