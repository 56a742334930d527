import CaseSorter.Daemon.AdmittedOnce
import CaseSorter.Daemon.Generations

/-! Concurrent configuration changes. A change is computed from the values read before the
lock and applied only under the generation its caller has seen; every commit moves the
generation, so a change that is applied was computed from the values it replaces. -/

namespace CaseSorter.Daemon

open CaseSorter.Actions CaseSorter.Transactions CaseSorter.Runs

/-- No configuration is applied. -/
structure Holding (d t : Domain) : Prop where
  configurations : t.db.configurations = d.db.configurations
  values : t.configuration = d.configuration
  latched : t.machine.journalAvailable = true → d.machine.journalAvailable = true
  forward : d.machine.generation ≤ t.machine.generation
  closed : t.journal.closed = d.journal.closed

theorem holding_refl (d : Domain) : Holding d d := ⟨rfl, rfl, id, Nat.le_refl _, rfl⟩

theorem Holding.trans {d u t : Domain} (h : Holding d u) (h' : Holding u t) : Holding d t :=
  ⟨h'.configurations.trans h.configurations, h'.values.trans h.values,
    fun available => h.latched (h'.latched available), Nat.le_trans h.forward h'.forward,
    h'.closed.trans h.closed⟩

def Kept (d t : Domain) : Prop := Holding d t ∧ (d.journal.Settled → t.journal.Settled)

instance : Std.Refl Kept := ⟨fun d => ⟨holding_refl d, id⟩⟩

instance : IsTrans Domain Kept :=
  ⟨fun _ _ _ first second => ⟨first.1.trans second.1, second.2 ∘ first.2⟩⟩

theorem kept_of_leaves {d t : Domain} (left : d.journal.Leaves t.journal)
    (values : t.configuration = d.configuration)
    (latched : t.machine.journalAvailable = true → d.machine.journalAvailable = true)
    (forward : d.machine.generation ≤ t.machine.generation) : Kept d t :=
  ⟨⟨left.committed, values, latched, forward, left.closed⟩, left.settled⟩

theorem kept_beats : Domain.Beats Kept fun _ => True where
  read read d := kept_of_leaves (Journal.guard_leaves read d.journal) rfl id (Nat.le_refl _)
  supply d := kept_of_leaves (Journal.leaves_refl _) rfl id (Nat.le_refl _)
  fault reason now d := by
    refine kept_of_leaves (Journal.leaves_refl _) rfl (fun available => ?_)
      (Domain.recordJournalFault_generation reason _ now _)
    rw [Domain.exec_recordJournalFault, Domain.observe_machine,
      MachineSnapshot.recordJournalFault_journalAvailable] at available
    cases available
  enter operation reason key d :=
    kept_of_leaves (Journal.recordAdmission_leaves operation reason key d.journal) rfl
      id (Nat.le_refl _)
  write move now _ d := by
    have left := Journal.recordTransition_leaves ⟨move, d.machine.generation + 1, now⟩ d.journal
    rw [Domain.exec_writeTransition]
    rcases h : Journal.recordTransition ⟨move, d.machine.generation + 1, now⟩ d.journal with
      ⟨e | record, j⟩
    · rw [h] at left
      exact kept_of_leaves left rfl id (Nat.le_refl _)
    · rw [h] at left
      exact kept_of_leaves left rfl id (Nat.le_succ _)
  prune now d :=
    kept_of_leaves (Journal.pruneIdempotency_leaves now d.journal) rfl id (Nat.le_refl _)
  connection d state reason := by
    refine kept_of_leaves (Journal.leaves_refl _) rfl (fun available => ?_)
      (System.observeConnection_generation state reason _)
    simp only [MachineSnapshot.observeConnection] at available
    split_ifs at available <;> exact available
  profile d firmware readiness := by
    refine kept_of_leaves (Journal.leaves_refl _) rfl (fun available => ?_)
      (System.observeProfile_generation firmware readiness _)
    simp only [MachineSnapshot.observeProfile] at available
    split_ifs at available <;> exact available
  storage d engine := kept_of_leaves ⟨rfl, id, rfl⟩ rfl id (Nat.le_refl _)

/-- The candidate has been committed, at a generation that is new. -/
structure Applies (candidate : ConfigurationValues) (d t : Domain) : Prop where
  row : ∃ snapshot, t.db.configurations = d.db.configurations ++ [snapshot] ∧
    snapshot.payload = candidate.asMapping ∧ d.machine.generation < snapshot.generation ∧
    snapshot.generation ≤ t.machine.generation
  settled : t.journal.Settled
  latched : t.machine.journalAvailable = true → d.machine.journalAvailable = true
  closed : t.journal.closed = d.journal.closed

theorem Applies.kept {candidate : ConfigurationValues} {d t u : Domain} (h : Applies candidate d t)
    (kept : Kept t u) : Applies candidate d u := by
  obtain ⟨snapshot, row, payload, new, reached⟩ := h.row
  refine ⟨⟨snapshot, kept.1.configurations.trans row, payload, new,
    Nat.le_trans reached kept.1.forward⟩, kept.2 h.settled,
    fun available => h.latched (kept.1.latched available), kept.1.closed.trans h.closed⟩

theorem Applies.after {candidate : ConfigurationValues} {d t u : Domain} (kept : Kept d t)
    (h : Applies candidate t u) : Applies candidate d u := by
  obtain ⟨snapshot, row, payload, new, reached⟩ := h.row
  refine ⟨⟨snapshot, ?_, payload, Nat.lt_of_le_of_lt kept.1.forward new, reached⟩, h.settled,
    fun available => kept.1.latched (h.latched available), h.closed.trans kept.1.closed⟩
  rw [row, kept.1.configurations]

theorem Journal.write_uncommitted {α : Type} {script : Script Db Raised α} {j j' : Journal}
    {e : Raised} (h : write (.ok script) j = (.error e, j')) :
    j'.closed = j.closed ∧
      ((∀ p, j'.connection.pending = some p → j.connection.pending = some p) ∨
        ∃ m, e = .journalError m) := by
  have closes : ∀ (c : Connection Db) (x : Raised) p, (rollback c x).2.pending ≠ some p := by
    intro c x p
    rcases c with ⟨committed, _ | pending⟩ <;> simp [rollback, Connection.rollback]
  simp only [write, transaction] at h
  by_cases closed : j.closed = true
  · rw [if_pos closed] at h
    cases h
    exact ⟨rfl, .inl fun p => id⟩
  rw [if_neg closed] at h
  by_cases refused : j.engine.headD .ok ≠ .ok ∨ j.connection.pending.isSome
  · rw [if_pos refused] at h
    cases h
    exact ⟨rfl, .inl fun p pending => absurd pending (closes _ _ p)⟩
  rw [if_neg refused] at h
  rcases ran : script.run j.engine.tail j.connection.committed with ⟨a | x | inEngine, d, os⟩
  · simp only [ran] at h
    by_cases served : os.headD .ok = .ok
    · rw [if_pos served] at h
      cases h
    rw [if_neg served] at h
    cases h
    exact ⟨rfl, .inr ⟨_, rfl⟩⟩
  · simp only [ran] at h
    cases h
    exact ⟨rfl, .inl fun p pending => absurd pending (closes _ _ p)⟩
  · simp only [ran] at h
    cases h
    exact ⟨rfl, .inl fun p pending => absurd pending (closes _ _ p)⟩

theorem commits_cases {operation : OperationRecord} {values : ConfigurationValues}
    {caller : Caller} {d t : Domain} {r : Except Raised Unit}
    (h : exec (Domain.commitConfiguration operation values caller) d = (r, t)) :
    (r = .ok () ∧ Applies values d t) ∨
      ∃ e, r = .error e ∧ Holding d t ∧
        ((d.journal.Settled → t.journal.Settled) ∨ ∃ m, e = .journalError m) := by
  simp only [Domain.commitConfiguration, exec_bind, exec_get, Domain.exec_newOperationId,
    Domain.exec_onJournal] at h
  generalize snapshot_eq : ConfigurationSnapshot.mk d.nextId (d.machine.generation + 1)
    values.asMapping s!"{caller.actor.role}:{caller.actor.userId}" caller.now = snapshot at h
  rcases hj : Journal.recordConfiguration snapshot d.journal with ⟨e | u, j⟩
  · simp only [hj] at h
    cases h
    obtain ⟨same, -⟩ := Journal.write_error hj
    obtain ⟨closed, clean⟩ := Journal.write_uncommitted hj
    refine .inr
      ⟨e, rfl, ⟨congrArg Db.configurations same, rfl, id, Nat.le_refl _, closed⟩, ?_⟩
    rcases clean with clean | raised
    · refine .inl fun settled p pending => ?_
      rw [settled p (clean p pending), same]
    · exact .inr raised
  · simp only [hj] at h
    cases h
    obtain ⟨appended, clean, closed⟩ := Domain.recordConfiguration_eq_ok hj
    refine .inl ⟨rfl, ⟨⟨snapshot, appended, ?_, ?_, ?_⟩,
      fun p pending => ?_, id, closed⟩⟩
    · rw [← snapshot_eq]
    · rw [← snapshot_eq]
      exact Nat.lt_succ_self _
    · rw [← snapshot_eq]
      exact Nat.le_refl _
    · cases clean.symm.trans pending

section Changing

variable {changes : List (String × Int)} {candidate : ConfigurationValues} {window expected : Nat}
  {caller : Caller} {d t : Domain}

open Domain in
theorem change_cases {view : MachineSnapshot} {r : Except Raised OperationRecord}
    (h : exec ((Prepared.configure changes candidate window expected).proceed caller view) d =
      (r, t)) :
    Applies candidate d t ∨
      ∃ e, r = .error e ∧ Holding d t ∧
        ((d.journal.Settled → t.journal.Settled) ∨ ∃ m, e = .journalError m) := by
  simp only [Prepared.proceed, exec_bind, applyConfiguration_eq] at h
  rcases admitted : exec (admitOperation .configure caller view window
    "admitted as a daemon configuration change") d with ⟨e | accepted, d₁⟩
  · rw [admitted] at h
    cases h
    have kept := (kept_beats.admits (fun _ _ => trivial) _ _ _ _ _).of_exec admitted
    exact .inr ⟨e, rfl, kept.1, .inl kept.2⟩
  rw [admitted] at h
  have first := (kept_beats.admits (fun _ _ => trivial) _ _ _ _ _).of_exec admitted
  dsimp only at h
  rcases moved : exec (transition
      { operationId := accepted.operationId
        toState := .running
        reason := "applying the configuration change" } caller.now)
          d₁ with ⟨e | running, d₂⟩
  · rw [moved] at h
    cases h
    have kept := IsTrans.trans _ _ _ first ((kept_beats.moves trivial _).of_exec moved)
    exact .inr ⟨e, rfl, kept.1, .inl kept.2⟩
  rw [moved] at h
  have second := IsTrans.trans _ _ _ first ((kept_beats.moves trivial _).of_exec moved)
  dsimp only at h
  rcases committed : exec (commitConfiguration running candidate caller) d₂ with ⟨e | u, d₃⟩
  · rw [committed] at h
    cases h
    rcases commits_cases committed with ⟨returned, -⟩ | ⟨e', raised, holding, settled⟩
    · cases returned
    · cases raised
      refine .inr ⟨e, rfl, second.1.trans holding, settled.imp_left fun after => ?_⟩
      exact after ∘ second.2
  · rw [committed] at h
    dsimp only at h
    rcases commits_cases committed with ⟨-, applies⟩ | ⟨e', raised, -⟩
    · exact .inl ((applies.after second).kept ((kept_beats.moves trivial _).of_exec h))
    · cases raised

open Domain in
theorem configure_cases {r : Except Raised Admission}
    (h : exec ((Prepared.configure changes candidate window expected).admitSection caller) d =
      (r, t)) :
    (Holding d t ∧
      (t.machine.journalAvailable = true → d.journal.Settled → t.journal.Settled) ∧
        ((∃ e, r = .error e) ∨
          d.view.idempotencyRecord caller.idempotencyKey caller.now ≠ none)) ∨
      (d.machine.generation = expected ∧ d.machine.journalAvailable = true ∧
        d.view.idempotencyRecord caller.idempotencyKey caller.now = none ∧
        Applies candidate d t ∧
        ((∃ record, r = .ok (.admitted record)) ∨ ∃ e, r = .error e ∧
          e.isStorage = true)) := by
  rw [Prepared.admit_eq] at h
  have generation : ∀ {kind}, requireGeneration kind (some expected) d.machine = .ok () →
      d.machine.generation = expected := by
    intro kind current
    unfold requireGeneration at current
    simp only at current
    split_ifs at current with moved
    exact moved.symm
  cases admission_cases kept_beats.toIdles h with
  | unavailable still => exact .inl ⟨still.1, fun _ => still.2, .inl ⟨_, rfl⟩⟩
  | conflict still => exact .inl ⟨still.1, fun _ => still.2, .inl ⟨_, rfl⟩⟩
  | replayed still live =>
    refine .inl ⟨still.1, fun _ => still.2, .inr ?_⟩
    rw [live]
    simp
  | stale still => exact .inl ⟨still.1, fun _ => still.2, .inl ⟨_, rfl⟩⟩
  | unfit still => exact .inl ⟨still.1, fun _ => still.2, .inl ⟨_, rfl⟩⟩
  | admitted only still absent current passed made available =>
    rcases change_cases made with applies | ⟨e, raised, -⟩
    · exact .inr ⟨generation current, available, absent, applies.after still,
        .inl ⟨_, rfl⟩⟩
    · cases raised
  | failed only still absent current passed broke after storage latched available =>
    rename_i u v e x
    rcases change_cases broke with applies | ⟨x', raised, holding, settled⟩
    · refine .inr ⟨generation current, available, absent, (applies.after still).kept after,
        .inr ⟨e, rfl, storage ?_⟩⟩
      rcases Prepared.proceed_enters (Nat.le_of_eq (congrArg _ only.machine.symm)) broke with
        ⟨-, same⟩ | ⟨b, -, -, fails⟩
      · obtain ⟨snapshot, row, -⟩ := applies.row
        rw [same] at row
        simp at row
      · exact fails x rfl
    · cases raised
      refine .inl ⟨(still.1.trans holding).trans after.1, fun unlatched before => ?_,
        .inl ⟨e, rfl⟩⟩
      rcases settled with settled | ⟨m, rfl⟩
      · exact after.2 (settled (still.2 before))
      · rw [latched m rfl] at unlatched
        cases unlatched

end Changing

/-- The committed values are those, from snapshots no newer than the machine. -/
structure Book (v : ConfigurationValues) (d : Domain) : Prop where
  current : ∃ g at', d.configurationOf d.db.appliedConfiguration = .ok (v, g, at')
  behind : ∀ row ∈ d.db.configurations, row.generation ≤ d.machine.generation
  settled : d.machine.journalAvailable = true → d.journal.Settled
  opened : d.journal.closed = false

theorem configurationOf_eq {d t : Domain} {db : Db} (values : t.configuration = d.configuration)
    (rows : db.configurations = d.db.configurations) {v : ConfigurationValues}
    (current : ∃ g at', d.configurationOf d.db.appliedConfiguration = .ok (v, g, at')) :
    ∃ g at', t.configurationOf db.appliedConfiguration = .ok (v, g, at') := by
  obtain ⟨g, at', is⟩ := current
  have same : db.appliedConfiguration = d.db.appliedConfiguration := by
    rw [Db.appliedConfiguration, Db.latestConfiguration, rows]
    rfl
  rw [same]
  cases found : d.db.appliedConfiguration with
  | none =>
    rw [found, Domain.configurationOf] at is
    cases is
    exact ⟨t.configurationGeneration, t.configuredAt, by rw [Domain.configurationOf, values]⟩
  | some row =>
    rw [found] at is
    exact ⟨g, at', is⟩

theorem Book.holding {v : ConfigurationValues} {d t : Domain} (book : Book v d)
    (holding : Holding d t)
    (settled : t.machine.journalAvailable = true → d.journal.Settled → t.journal.Settled) :
    Book v t := by
  refine ⟨configurationOf_eq holding.values holding.configurations book.current,
    fun row member => ?_, fun available => ?_, holding.closed.trans book.opened⟩
  · rw [holding.configurations] at member
    exact Nat.le_trans (book.behind row member) holding.forward
  · exact settled available (book.settled (holding.latched available))

theorem Book.applies {v candidate : ConfigurationValues} {d t : Domain} (book : Book v d)
    (applies : Applies candidate d t) : Book candidate t := by
  obtain ⟨snapshot, appended, payload, new, reached⟩ := applies.row
  refine ⟨⟨snapshot.generation, snapshot.createdAt, ?_⟩, fun row member => ?_,
    fun _ => applies.settled, applies.closed.trans book.opened⟩
  · -- it is selected, for every earlier snapshot is behind the machine
    have latest : t.db.latestConfiguration = some snapshot := by
      rw [Db.latestConfiguration_insert appended]
      cases before : d.db.latestConfiguration with
      | none => rfl
      | some best =>
        have older := book.behind best (HistoryEvent.latestConfiguration_mem before)
        simp only [if_pos (Nat.le_of_lt (Nat.lt_of_le_of_lt older new))]
    rw [Db.appliedConfiguration, latest, Option.map_some, payload, Domain.configurationOf,
      ConfigurationValues.fromMapping_asMapping]
    rfl
  · rw [appended, List.mem_append, List.mem_singleton] at member
    rcases member with member | rfl
    · exact Nat.le_trans (book.behind row member)
        (Nat.le_trans (Nat.le_of_lt new) reached)
    · exact reached

theorem Journal.Settled.view {j : Journal} (settled : j.Settled) :
    j.connection.view.configurations = j.connection.committed.configurations := by
  rw [Connection.view]
  cases pending : j.connection.pending with
  | none => rfl
  | some p => exact settled p pending

theorem Book.visible {v : ConfigurationValues} {d : Domain} (book : Book v d)
    (trusted : d.machine.journalAvailable = true ∨ d.journal.connection.pending = none) :
    ∃ g at', d.configurationOf d.view.appliedConfiguration = .ok (v, g, at') := by
  have settled : d.journal.Settled := by
    rcases trusted with available | clean
    · exact book.settled available
    · exact fun p pending => by cases clean.symm.trans pending
  exact configurationOf_eq rfl settled.view book.current

theorem currentConfiguration_reads {d t : Domain} {r : ConfigurationValues × Nat × Nat}
    (h : exec Domain.currentConfiguration d = (.ok r, t)) :
    d.configurationOf d.view.appliedConfiguration = .ok r := by
  simp only [Domain.currentConfiguration, exec_bind_eq_ok] at h
  obtain ⟨row, u, read, _, _, got, decoded⟩ := h
  cases got
  obtain ⟨ok, -⟩ := Domain.ofExcept_eq_ok decoded
  obtain ⟨-, rfl⟩ := Domain.onlyRead_guard read
  rw [Domain.exec_onJournal] at read
  obtain ⟨-, rfl⟩ := Prod.mk.inj read
  exact ok

theorem currentConfiguration_served {d : Domain} (opened : d.journal.closed = false) :
    (exec Domain.currentConfiguration d.served).1 =
      d.configurationOf d.view.appliedConfiguration := by
  have read : exec (Domain.onJournal Journal.appliedConfiguration) d.served =
      (.ok d.view.appliedConfiguration, d.served) := by
    rw [Domain.exec_onJournal, Journal.appliedConfiguration, Journal.guard]
    simp only [Domain.served, opened]
    rfl
  simp only [Domain.currentConfiguration, exec_bind, read, exec_get, Domain.exec_ofExcept]
  rfl

namespace System

/-- The caller of a change has been shown the generation it gives. -/
def Seen (s : System) : SystemEvent → Prop
  | .call (.configure _ expected) _ => expected ≤ s.domain.machine.generation
  | _ => True

instance (s : System) : (e : SystemEvent) → Decidable (s.Seen e)
  | .call (.configure _ expected) _ =>
    inferInstanceAs (Decidable (expected ≤ s.domain.machine.generation))
  | .call (.submit _ _ _) _ | .call (.stop _) _ | .call (.connect _) _ | .call (.recover _) _
  | .api _ _ | .task _ | .thread _ | .dispatch _ | .failPreempted _ | .start | .startTimeout
  | .close | .refresh _ _ | .prune _ | .storage _ => .isTrue trivial

def committing (s t : System) : SystemEvent → List (List (String × Int))
  | .api k _ =>
    match s.api[k]? with
    | some (.admitting _ (.configure changes _ _ _)) =>
      if t.domain.db.configurations = s.domain.db.configurations then [] else [changes]
    | _ => []
  | _ => []

/-- The changes a run commits, in the order of their commits. -/
def committed (s : System) : List SystemEvent → List (List (String × Int))
  | [] => []
  | e :: es =>
    match s.step e with
    | none => []
    | some t => committing s t e ++ committed t es

def Computed (v : ConfigurationValues) (d : Domain) : ApiThread → Prop
  | .admitting _ (.configure changes candidate _ expected) =>
    expected ≤ d.machine.generation ∧
      (expected = d.machine.generation → d.machine.journalAvailable = true →
        v.withChanges changes = .ok candidate)
  | _ => True

theorem Steps.computed {s t : System} {e : SystemEvent} (steps : Steps s e t)
    (called : ∀ request caller, e ≠ .call request caller) {v : ConfigurationValues} {d : Domain}
    {a : ApiThread} (member : a ∈ t.api) : a ∈ s.api ∨ Computed v d a := by
  rcases steps.thread_new member with old | ⟨request, caller, p, d, call, -⟩ | past
  · exact .inl old
  · exact absurd call (called _ _)
  · right
    cases a with
    | admitting caller p => exact absurd rfl (past caller p)
    | _ => trivial

theorem Computed.holding {v : ConfigurationValues} {d t : Domain} {a : ApiThread}
    (h : Computed v d a) (holding : Holding d t) : Computed v t a := by
  unfold Computed at h ⊢
  split at h
  · refine ⟨Nat.le_trans h.1 holding.forward,
      fun same available => h.2 ?_ (holding.latched available)⟩
    exact Nat.le_antisymm h.1 (same ▸ holding.forward)
  · trivial

theorem Computed.applies {v w candidate : ConfigurationValues} {d t : Domain} {a : ApiThread}
    (h : Computed v d a) (applies : Applies candidate d t) : Computed w t a := by
  obtain ⟨snapshot, -, -, new, reached⟩ := applies.row
  unfold Computed at h ⊢
  split at h
  · refine ⟨?_, fun same => ?_⟩
    · omega
    · omega
  · trivial

/-- The values are the committed ones, and every change under way is one of them. -/
structure Sound (v : ConfigurationValues) (s : System) : Prop where
  book : Book v s.domain
  computed : ∀ a ∈ s.api, Computed v s.domain a

section Sections

variable {s t : System} {e : SystemEvent} {v : ConfigurationValues}

theorem Steps.kept (steps : Steps s e t)
    (other : ¬ ∃ k now caller changes candidate window expected, e = .api k now ∧
      s.api[k]? = some (.admitting caller (.configure changes candidate window expected))) :
    Kept s.domain t.domain := by
  refine steps.beats kept_beats (fun _ _ => trivial) fun i ends => ?_
  cases i with
  | some i => exact steps.settles ends kept_beats fun _ _ => trivial
  | none =>
    refine steps.configures ends fun k now caller p at_e at_k configures => ?_
    cases p with
    | configure changes candidate window expected =>
      exact absurd ⟨k, now, caller, changes, candidate, window, expected, at_e, at_k⟩ other
    | submit action intent window expected =>
      refine kept_beats.admitting ?_ _
      exact fun view => kept_beats.admits (fun _ _ => trivial) _ _ _ _ _
    | session action window expected =>
      refine kept_beats.admitting ?_ _
      exact fun view => kept_beats.admits (fun _ _ => trivial) _ _ _ _ _
    | stop window expected => cases configures

theorem prepare_computed {request : Request} {caller : Caller} {p : Prepared} {d : Domain}
    (book : Book v s.domain) (seen : s.Seen (.call request caller))
    (h : exec (request.prepare caller) s.domain = (.ok p, d)) :
    Computed v d (.admitting caller p) := by
  cases request with
  | configure changes expected =>
    simp only [Request.prepare, exec_bind_eq_ok] at h
    obtain ⟨window, d₁, checked, ⟨current, g, at'⟩, d₂, read, candidate, d₃, computed,
      returned⟩ := h
    obtain rfl := Domain.requireCaller_eq_ok checked
    have machine := (Domain.currentConfiguration_eq_ok read).machine
    obtain ⟨ok, rfl⟩ := Domain.ofExcept_eq_ok computed
    cases returned
    refine ⟨machine ▸ seen, fun _ available => ?_⟩
    obtain ⟨g', at'', visible⟩ := book.visible (.inl (machine ▸ available))
    rw [currentConfiguration_reads read] at visible
    cases visible
    exact ok
  | submit action body expected =>
    simp only [Request.prepare, exec_bind_eq_ok] at h
    obtain ⟨_, _, -, _, _, -, returned⟩ := h
    cases returned
    trivial
  | stop expected =>
    simp only [Request.prepare, exec_bind_eq_ok] at h
    obtain ⟨_, _, -, returned⟩ := h
    cases returned
    trivial
  | connect expected =>
    simp only [Request.prepare, exec_bind_eq_ok] at h
    obtain ⟨_, _, -, returned⟩ := h
    cases returned
    trivial
  | recover expected =>
    simp only [Request.prepare, exec_bind_eq_ok] at h
    obtain ⟨_, _, -, returned⟩ := h
    cases returned
    trivial

theorem Sound.kept (sound : Sound v s) (kept : Kept s.domain t.domain)
    (threads : ∀ a ∈ t.api, a ∈ s.api ∨ Computed v t.domain a) : Sound v t := by
  refine ⟨sound.book.holding kept.1 fun _ => kept.2, fun a member => ?_⟩
  rcases threads a member with old | new
  · exact (sound.computed a old).holding kept.1
  · exact new

section Changing

variable {k now : Nat} {caller : Caller} {changes : List (String × Int)}
  {candidate : ConfigurationValues} {window expected : Nat}

theorem configuring_step
    (at_k : s.api[k]? = some (.admitting caller (.configure changes candidate window expected)))
    (h : s.step (.api k now) = some t) :
    ∃ r d, exec ((Prepared.configure changes candidate window expected).admitSection caller)
      s.domain =
        (r, d) ∧
      t = answered k ⟨caller, r.map Domain.Admission.record⟩ { s with domain := d } := by
  simp only [step, at_k, Option.map_some, Option.some.injEq] at h
  rcases ran :
    exec ((Prepared.configure changes candidate window expected).admitSection caller) s.domain
    with ⟨r, d⟩
  refine ⟨r, d, rfl, ?_⟩
  simp only [apiStep, ran, Prepared.lane] at h
  rcases r with e | record | record <;> exact h.symm

theorem configuring_cases
    (at_k : s.api[k]? = some (.admitting caller (.configure changes candidate window expected)))
    (h : s.step (.api k now) = some t) :
    ∃ x, t.answers = ⟨caller, x⟩ :: s.answers ∧ t.api = s.api.eraseIdx k ∧
      ((committing s t (.api k now) = [] ∧ Holding s.domain t.domain ∧
          (t.domain.machine.journalAvailable = true → s.domain.journal.Settled →
            t.domain.journal.Settled) ∧
          ((∃ e, x = .error e) ∨ s.domain.view.idempotencyRecord caller.idempotencyKey
            caller.now ≠ none)) ∨
        (committing s t (.api k now) = [changes] ∧ s.domain.machine.generation = expected ∧
          s.domain.machine.journalAvailable = true ∧
          s.domain.view.idempotencyRecord caller.idempotencyKey caller.now = none ∧
          Applies candidate s.domain t.domain ∧
          ((∃ record, x = .ok record) ∨ ∃ e, x = .error e ∧ e.isStorage = true))) := by
  obtain ⟨r, d, ran, rfl⟩ := configuring_step at_k h
  refine ⟨_, rfl, rfl, ?_⟩
  have rows :
      (answered k ⟨caller, r.map Domain.Admission.record⟩ { s with domain := d }).domain = d :=
    rfl
  simp only [committing, at_k, rows]
  rcases configure_cases ran with ⟨holding, settled, answer⟩ |
    ⟨current, available, absent, applies, answer⟩
  · refine .inl ⟨if_pos holding.configurations, holding, settled, ?_⟩
    rcases answer with ⟨e, rfl⟩ | live
    · exact .inl ⟨e, rfl⟩
    · exact .inr live
  · obtain ⟨snapshot, appended, -⟩ := applies.row
    refine .inr ⟨if_neg ?_, current, available, absent, applies, ?_⟩
    · rw [appended]
      simp
    · rcases answer with ⟨record, rfl⟩ | ⟨e, rfl, storage⟩
      · exact .inl ⟨record, rfl⟩
      · exact .inr ⟨e, rfl, storage⟩

end Changing

theorem sound_step (sound : Sound v s) (seen : s.Seen e) (h : s.step e = some t) :
    ∃ w, (committing s t e).foldlM ConfigurationValues.withChanges v = .ok w ∧ Sound w t := by
  have steps := step_steps h
  by_cases change : ∃ k now caller changes candidate window expected, e = .api k now ∧
      s.api[k]? = some (.admitting caller (.configure changes candidate window expected))
  · obtain ⟨k, now, caller, changes, candidate, window, expected, rfl, at_k⟩ := change
    have computed := sound.computed _ (List.mem_of_getElem? at_k)
    obtain ⟨x, -, api, ⟨none', holding, settled, -⟩ | ⟨one, current, available, -,
      applies, -⟩⟩ :=
      configuring_cases at_k h
    · refine ⟨v, by rw [none']; rfl, sound.book.holding holding settled, fun a member => ?_⟩
      rw [api] at member
      exact (sound.computed a (List.mem_of_mem_eraseIdx member)).holding holding
    · refine ⟨candidate, ?_, sound.book.applies applies, fun a member => ?_⟩
      · rw [one, List.foldlM_cons, computed.2 current.symm available]
        rfl
      · rw [api] at member
        exact (sound.computed a (List.mem_of_mem_eraseIdx member)).applies applies
  · have kept := steps.kept change
    have none' : committing s t e = [] := by
      unfold committing
      split
      · split
        · rename_i at_k
          exact absurd ⟨_, _, _, _, _, _, _, rfl, at_k⟩ change
        · rfl
      · rfl
    refine ⟨v, by rw [none']; rfl, ?_⟩
    cases e with
    | call request caller =>
      cases steps with
      | asked passed =>
        refine sound.kept kept fun a member => ?_
        rcases List.mem_append.mp member with old | new
        · exact .inl old
        · cases List.mem_singleton.mp new
          exact .inr (prepare_computed sound.book seen passed)
      | unasked refused => exact sound.kept kept fun a member => .inl member
    | _ => exact sound.kept kept fun a member => steps.computed (fun _ _ is => by cases is) member

end Sections

/-- The call whose change the section makes is answered. A call of a key that is not bound
is answered with success only for a change that is committed, and one whose change is
committed is failed by nothing but storage. -/
structure Answered (s t : System) (e : SystemEvent) (caller : Caller)
    (changes : List (String × Int)) (x : Except Raised OperationRecord) : Prop where
  answers : t.answers = ⟨caller, x⟩ :: s.answers
  succeeded : ∀ record, x = .ok record →
    s.domain.view.idempotencyRecord caller.idempotencyKey caller.now = none →
      committing s t e = [changes]
  committed : committing s t e ≠ [] → committing s t e = [changes] ∧
    s.domain.view.idempotencyRecord caller.idempotencyKey caller.now = none ∧
    ((∃ record, x = .ok record) ∨ ∃ e, x = .error e ∧ e.isStorage = true)

theorem sound_run {s t : System} {es : List SystemEvent} {v : ConfigurationValues}
    (sound : Sound v s) (seen : Meets System.step Seen s es) (ran : run System.step s es = some t) :
    ∃ w, (committed s es).foldlM ConfigurationValues.withChanges v = .ok w ∧ Sound w t := by
  induction es generalizing s v with
  | nil =>
    cases ran
    exact ⟨v, rfl, sound⟩
  | cons e es ih =>
    obtain ⟨u, stepped, rest⟩ := run_cons_eq_some.mp ran
    obtain ⟨w, first, after⟩ := sound_step sound seen.1 stepped
    obtain ⟨w', then', last⟩ := ih after (seen.2 u stepped) rest
    refine ⟨w', ?_, last⟩
    rw [committed, stepped, List.foldlM_append, first]
    exact then'

/-- No change is lost: the values are those at the start with every committed change
applied, in the order of the commits, and the changes that are committed are those of the
calls that were answered with success, replays apart, or failed by storage past the commit. -/
theorem configuration_losesNoUpdate (policy : Policy) (db : Db) (nextId now : Nat)
    (history : List ConfigurationValues) (capacity attempts : Nat) (pos : 0 < capacity)
    (first : db.configurations = []) (es : List SystemEvent) (s : System)
    (seen : Meets System.step Seen (System.new policy db nextId now history capacity attempts pos)
      es)
    (reached : run System.step (System.new policy db nextId now history capacity attempts pos) es =
      some s) :
    (∃ v, (committed (System.new policy db nextId now history capacity attempts pos) es).foldlM
          ConfigurationValues.withChanges .default = .ok v ∧
        (s.domain.machine.journalAvailable = true ∨ s.domain.journal.connection.pending = none →
          ∃ g at', (exec Domain.currentConfiguration s.domain.served).1 = .ok (v, g, at'))) ∧
      ∀ k now t caller changes candidate window expected,
        s.api[k]? = some (.admitting caller (.configure changes candidate window expected)) →
        s.step (.api k now) = some t → ∃ x, Answered s t (.api k now) caller changes x := by
  have start : Sound .default (System.new policy db nextId now history capacity attempts pos) := by
    refine ⟨⟨⟨1, now, ?_⟩, fun row member => ?_, fun _ p pending => ?_, rfl⟩,
      fun a member => ?_⟩
    · show Domain.configurationOf _ (db.latestConfiguration.map _) = _
      rw [Db.latestConfiguration, first]
      rfl
    · change row ∈ db.configurations at member
      rw [first] at member
      cases member
    · cases pending
    · cases member
  obtain ⟨v, applied, sound⟩ := sound_run start seen reached
  refine ⟨⟨v, applied, fun trusted => ?_⟩, ?_⟩
  · rw [currentConfiguration_served sound.book.opened]
    exact sound.book.visible trusted
  · intro k moment t caller changes candidate window expected at_k stepped
    obtain ⟨x, answers, -, ⟨none', -, -, refused⟩ | ⟨one, -, -, absent, -, answer⟩⟩ :=
      configuring_cases at_k stepped
    · refine ⟨x, answers, fun record is absent => ?_, fun some' => absurd none' some'⟩
      rcases refused with ⟨e, raised⟩ | live
      · cases is.symm.trans raised
      · exact absurd absent live
    · exact ⟨x, answers, fun _ _ _ => one, fun _ => ⟨one, absent, answer⟩⟩

def heartbeatCall (key : String) (interval : Int) (expected now : Nat) : SystemEvent :=
  .call (.configure [("heartbeat_interval_ms", interval)] expected)
    ⟨⟨"administrator", "admin"⟩, key, key, 1000, now, none⟩

def twoCallers : List SystemEvent :=
  [heartbeatCall "a" 2000 1 0, heartbeatCall "b" 3000 1 0, .api 0 0, .api 0 0,
    heartbeatCall "b" 3000 5 1, .api 0 1]

theorem configuration_losesNoUpdate_twice :
    ∃ v g at', v.value .heartbeatIntervalMs = 3000 ∧
      (exec Domain.currentConfiguration
        (runD System.step firstDaemon twoCallers).domain.served).1 = .ok (v, g, at') := by
  have ran : run System.step firstDaemon twoCallers =
      some (runD System.step firstDaemon twoCallers) := run_eq_runD (by decide +kernel)
  have made : committed firstDaemon twoCallers =
      [[("heartbeat_interval_ms", 2000)], [("heartbeat_interval_ms", 3000)]] := by decide +kernel
  obtain ⟨⟨v, applied, reads⟩, -⟩ :=
    configuration_losesNoUpdate {} .empty 0 0 [] 1 1 (by decide) rfl
    twoCallers _ (by decide +kernel) ran
  obtain ⟨g, at', read⟩ := reads (by decide +kernel)
  refine ⟨v, g, at', ?_, read⟩
  have last : ((committed firstDaemon twoCallers).foldlM ConfigurationValues.withChanges
      .default).toOption.map (fun v => v.value .heartbeatIntervalMs) = some 3000 := by
    rw [made]
    decide +kernel
  rw [show (committed firstDaemon twoCallers).foldlM ConfigurationValues.withChanges .default =
    .ok v from applied] at last
  exact Option.some.inj last

def failsAfterCommit : List SystemEvent :=
  [heartbeatCall "a" 2000 1 0, .storage (List.replicate 21 .ok ++ [.fail]), .api 0 0]

/-- The only call has failed, and its value is read. -/
theorem configuration_keepsFailedChange :
    Meets System.step Seen firstDaemon failsAfterCommit ∧
      run System.step firstDaemon failsAfterCommit =
        some (runD System.step firstDaemon failsAfterCommit) ∧
      (runD System.step firstDaemon failsAfterCommit).api = [] ∧
      (runD System.step firstDaemon failsAfterCommit).answers.map (fun a => a.result.toBool) =
        [false] ∧
      (exec Domain.currentConfiguration
        (runD System.step firstDaemon failsAfterCommit).domain.served).1.toOption.map
          (fun read => read.1.value .heartbeatIntervalMs) = some 2000 ∧
      ConfigurationValues.default.value .heartbeatIntervalMs ≠ 2000 := by
  refine ⟨?_, run_eq_runD ?_, ?_, ?_, ?_, ?_⟩
  · decide +kernel
  · decide +kernel
  · decide +kernel
  · decide +kernel
  · decide +kernel
  · decide +kernel

end System

end CaseSorter.Daemon
