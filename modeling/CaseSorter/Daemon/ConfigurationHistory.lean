import CaseSorter.Lib.Runs
import CaseSorter.Daemon.History

/-! Reading back the applied configuration. The journal selects the snapshot with the
highest generation, and the generation starts again at one in every daemon life, so
what is read back is the last snapshot only while no earlier life got further. -/

namespace CaseSorter.Daemon

open CaseSorter.Actions CaseSorter.Transactions CaseSorter.Runs

namespace Journal

variable {α : Type}

def Settled (j : Journal) : Prop :=
  ∀ d, j.connection.pending = some d → d.configurations = j.connection.committed.configurations

/-- The snapshots are left alone, committed or pending. -/
structure Leaves (j j' : Journal) : Prop where
  committed : j'.connection.committed.configurations = j.connection.committed.configurations
  settled : j.Settled → j'.Settled
  closed : j'.closed = j.closed

theorem leaves_refl (j : Journal) : j.Leaves j := ⟨rfl, id, rfl⟩

theorem Leaves.trans {j k l : Journal} (h : j.Leaves k) (h' : k.Leaves l) : j.Leaves l :=
  ⟨h'.committed.trans h.committed, h'.settled ∘ h.settled, h'.closed.trans h.closed⟩

theorem leaves_closed_connection {j : Journal} (engine : List Outcome) :
    j.Leaves { j with connection := ⟨j.connection.committed, none⟩, engine := engine } :=
  ⟨rfl, fun _ _ h => (by cases h), rfl⟩

theorem transaction_leaves {body : Script Db Raised α} (h : body.Keeps Db.configurations)
    (j : Journal) : j.Leaves (transaction body j).2 := by
  have ran := Script.run_keeps h j.engine.tail j.connection.committed
  unfold transaction
  split_ifs with closed refused
  · exact leaves_refl j
  · cases hp : j.connection.pending <;>
      simp only [rollback, Connection.rollback, hp]
    · refine ⟨rfl, fun _ d hd => ?_, rfl⟩
      rw [hp] at hd
      cases hd
    · exact leaves_closed_connection _
  · simp only
    split
    · exact leaves_closed_connection _
    · rename_i rolledBack _
      cases rolledBack <;> exact leaves_closed_connection _
    · split_ifs with served
      · exact ⟨ran, fun _ _ h => (by cases h), rfl⟩
      · exact ⟨rfl, fun _ d h => Option.some.inj h ▸ ran, rfl⟩

theorem guard_leaves (read : Db → α) (j : Journal) : j.Leaves (guard read j).2 := by
  unfold guard
  split_ifs with closed served rolledBack
  · exact leaves_refl j
  · exact ⟨rfl, id, rfl⟩
  · exact leaves_closed_connection _
  · exact ⟨rfl, id, rfl⟩

theorem write_leaves {body : Except Raised (Script Db Raised α)}
    (h : ∀ script, body = .ok script → script.Keeps Db.configurations) (j : Journal) :
    j.Leaves (write body j).2 := by
  cases body with
  | error e => exact leaves_refl j
  | ok script => exact transaction_leaves (h script rfl) j

theorem admissionBody_keeps (operation : OperationRecord) (reason : String)
    (idempotency : Option IdempotencyRecord) :
    (admissionBody operation reason idempotency).Keeps Db.configurations := by
  refine ⟨fun d d' h => (Db.insertOperation_eq_some h).2.2.2.2, fun _ =>
    ⟨fun d d' h => (Db.appendTransition_eq_some h).2.2.2, fun _ => ?_⟩⟩
  cases idempotency with
  | none => trivial
  | some record =>
    exact ⟨fun d d' h => (Db.insertIdempotency_eq_some h).2.2.2.2, fun _ => trivial⟩

theorem recordAdmission_leaves (operation : OperationRecord) (reason : String)
    (idempotency : Option IdempotencyRecord) (j : Journal) :
    j.Leaves (recordAdmission operation reason idempotency j).2 := by
  refine write_leaves (fun script h => ?_) j
  rw [admissionScript_eq_ok h]
  exact admissionBody_keeps operation reason idempotency

theorem body_keeps (t : TransitionWrite)
    (trusted : t.trustedTerminal = true ↔ t.toState = .succeeded) :
    (t.body trusted).Keeps Db.configurations := by
  refine ⟨fun d d' h => by cases h; rfl, fun db => ?_⟩
  dsimp only
  split
  · trivial
  · split_ifs
    · trivial
    · trivial
    · split
      · trivial
      · exact ⟨fun d d' h => by cases h; rfl, fun _ =>
          ⟨fun d d' h => (Db.appendTransition_eq_some h).2.2.2, fun _ =>
            ⟨fun d d' h => by cases h; rfl, fun _ => trivial⟩⟩⟩

theorem recordTransition_leaves (t : TransitionWrite) (j : Journal) :
    j.Leaves (recordTransition t j).2 := by
  have written : j.Leaves (write (transitionScript t) j).2 := by
    refine write_leaves (fun script h => ?_) j
    obtain ⟨trusted, rfl⟩ := transitionScript_eq_ok h
    exact body_keeps t trusted
  unfold recordTransition
  split <;> rename_i h <;> rw [h] at written <;> exact written

theorem pruneIdempotency_leaves (moment : Nat) (j : Journal) :
    j.Leaves (pruneIdempotency moment j).2 := by
  refine write_leaves (fun script h => ?_) j
  cases h
  exact ⟨fun d d' h => by cases h; rfl, fun _ => trivial⟩

end Journal

namespace Domain

variable {α : Type}

/-- The snapshots and the configurations applied so far are left alone. -/
structure Leaves (d t : Domain) : Prop where
  journal : d.journal.Leaves t.journal
  history : t.appliedHistory = d.appliedHistory

instance : Std.Refl Leaves := ⟨fun d => ⟨Journal.leaves_refl d.journal, rfl⟩⟩

instance : IsTrans Domain Leaves :=
  ⟨fun _ _ _ h h' => ⟨h.journal.trans h'.journal, h'.history.trans h.history⟩⟩

theorem keeps_onJournal {f : Journal → Except Raised α × Journal}
    (h : ∀ j : Journal, j.Leaves (f j).2) :
      Keeps Leaves (onJournal f) := fun d => ⟨h d.journal, rfl⟩

theorem keeps_ofExcept (r : Except Raised α) : Keeps Leaves (Domain.ofExcept r) :=
  fun d => refl d

theorem keeps_recordJournalFault (reason : String) (now : Nat) :
    Keeps Leaves (recordJournalFault reason now) := fun d =>
      ⟨Journal.leaves_refl d.journal, rfl⟩

theorem keeps_transition (move : Move) (now : Nat) : Keeps Leaves (transition move now) := by
  refine keeps_tryCatch ?_ fun e => ?_
  · intro d
    have recorded :=
      Journal.recordTransition_leaves ⟨move, d.machine.generation + 1, now⟩ d.journal
    rw [exec_writeTransition]
    rcases h : Journal.recordTransition ⟨move, d.machine.generation + 1, now⟩ d.journal with
      ⟨e | record, j⟩
    all_goals
      rw [h] at recorded
      exact ⟨recorded, rfl⟩
  · cases e with
    | journalError m => exact keeps_bind (keeps_recordJournalFault _ _) fun _ => keeps_throw _
    | _ => exact keeps_throw _

theorem keeps_safeTransition (move : Move) (now : Nat) :
    Keeps Leaves (safeTransition move now) := by
  refine keeps_tryCatch (keeps_bind (keeps_transition move now) fun _ => keeps_pure _) fun e => ?_
  cases e with
  | journalError m => exact keeps_pure _
  | _ => exact keeps_throw _

theorem keeps_dispatch (operation : OperationRecord) (now : Nat) :
    Keeps Leaves (dispatch operation now) := by
  unfold dispatch
  split_ifs
  · exact keeps_bind (keeps_throw _) fun _ =>
      keeps_bind (keeps_transition _ _) fun _ => keeps_pure _
  · exact keeps_bind (keeps_transition _ _) fun _ => keeps_pure _

theorem keeps_admitOperation (action : OperationAction) (caller : Caller) (view : MachineSnapshot)
    (window : Nat) (reason : String) :
    Keeps Leaves (admitOperation action caller view window reason) := by
  refine keeps_bind (fun d => ⟨Journal.leaves_refl d.journal, rfl⟩) fun operationId => ?_
  refine keeps_bind (keeps_ofExcept _) fun operation => ?_
  refine keeps_bind keeps_get fun d => ?_
  refine keeps_bind (keeps_onJournal fun j => Journal.recordAdmission_leaves _ _ _ j) fun _ => ?_
  exact keeps_transition _ _

theorem keeps_requireCaller (caller : Caller) : Keeps Leaves (requireCaller caller) :=
  keeps_bind (keeps_ofExcept _) fun _ => keeps_bind keeps_get fun _ => keeps_ofExcept _

theorem keeps_replay (key fingerprint : String) (now : Nat) :
    Keeps Leaves (replay key fingerprint now) := by
  refine keeps_bind (keeps_onJournal fun j => Journal.guard_leaves _ j) fun existing => ?_
  cases existing with
  | none => exact keeps_pure _
  | some existing =>
    dsimp only
    split_ifs
    on_goal 1 => refine keeps_bind (keeps_throw _) fun _ => ?_
    all_goals
      refine keeps_bind (keeps_onJournal fun j => Journal.guard_leaves _ j) fun record => ?_
      cases record with
      | none => exact keeps_throw _
      | some record => exact keeps_pure _

theorem keeps_durable (activity : String) (now : Nat) {body : DomainM α}
    (h : Keeps Leaves body) : Keeps Leaves (durable activity now body) := by
  refine keeps_tryCatch h fun e => ?_
  cases e with
  | journalError m => exact keeps_bind (keeps_recordJournalFault _ _) fun _ => keeps_throw _
  | _ => exact keeps_throw _

theorem keeps_refreshDurability (threat : Option String) (now : Nat) :
    Keeps Leaves (refreshDurability threat now) := by
  refine keeps_bind keeps_get fun d => ?_
  cases threat with
  | none => exact keeps_pure _
  | some m =>
    dsimp only
    split_ifs
    · exact keeps_recordJournalFault _ _
    · exact keeps_pure _

theorem keeps_admission (activity kind : String) (caller : Caller) (expected : Option Nat)
    (check : MachineSnapshot → Except Raised Unit)
    {proceed : MachineSnapshot → DomainM OperationRecord}
    (h : ∀ view, Keeps Leaves (proceed view)) :
    Keeps Leaves (admission activity kind caller expected check proceed) := by
  refine keeps_bind (keeps_refreshDurability _ _) fun _ => ?_
  refine keeps_bind keeps_get fun d => ?_
  refine keeps_bind (keeps_ofExcept _) fun _ => keeps_durable _ _ ?_
  refine keeps_bind (keeps_replay _ _ _) fun replayed => ?_
  cases replayed with
  | some record => exact keeps_pure _
  | none =>
    refine keeps_bind (keeps_ofExcept _) fun _ => ?_
    refine keeps_bind (keeps_ofExcept _) fun _ => ?_
    exact keeps_bind (h d.machine) fun _ => keeps_pure _

theorem keeps_settle (operationId : OperationId) (now : Nat)
    (choose : OperationRecord → Option Move) :
    Keeps Leaves (do
      match (← current operationId now).bind choose with
      | none => pure ()
      | some move => safeTransition move now) := by
  have read : Keeps Leaves (current operationId now) := by
    refine keeps_tryCatch (keeps_onJournal fun j => Journal.guard_leaves _ j) fun e => ?_
    cases e with
    | journalError m => exact keeps_bind (keeps_recordJournalFault _ _) fun _ => keeps_pure _
    | _ => exact keeps_throw _
  refine keeps_bind read fun r => ?_
  cases r.bind choose with
  | none => exact keeps_pure _
  | some move => exact keeps_safeTransition move now

theorem keeps_handOver (refusal : Option Failure) (now : Nat) (a : Admission) :
    Keeps Leaves (handOver refusal now a) := by
  cases a with
  | replayed record => exact keeps_pure _
  | admitted record =>
    cases refusal with
    | none => exact keeps_pure _
    | some error => exact keeps_bind (keeps_settle _ _ _) fun _ => keeps_throw _

theorem keeps_admitSession (action : SessionAction) (caller : Caller) (expected : Nat) :
    Keeps Leaves (admitSession action caller expected) :=
  keeps_bind (keeps_requireCaller _) fun _ =>
    keeps_admission _ _ _ _ _ fun _ => keeps_admitOperation _ _ _ _ _

theorem transition_generation {move : Move} {now : Nat} {d t : Domain} {r : OperationRecord}
    (h : exec (transition move now) d = (.ok r, t)) :
    t.machine.generation = d.machine.generation + 1 := by
  obtain ⟨j, -, rfl⟩ := transition_eq_ok h
  rfl

theorem admit_generation {action : OperationAction} {caller : Caller} {view : MachineSnapshot}
    {window : Nat} {reason : String} {d t : Domain} {r : OperationRecord}
    (h : exec (admitOperation action caller view window reason) d = (.ok r, t)) :
    t.machine.generation = d.machine.generation + 1 := by
  simp only [admitOperation, exec_bind_eq_ok, exec_newOperationId, exec_ofExcept, exec_get,
    exec_onJournal] at h
  obtain ⟨_, _, supplied, _, _, made, _, _, got, _, _, recorded, moved⟩ := h
  cases supplied
  obtain ⟨-, rfl⟩ := Prod.mk.inj made
  cases got
  obtain ⟨-, rfl⟩ := Prod.mk.inj recorded
  have next := transition_generation moved
  exact next

theorem recordConfiguration_eq_ok {snapshot : ConfigurationSnapshot} {j j' : Journal} {u : Unit}
    (h : Journal.recordConfiguration snapshot j = (.ok u, j')) :
    j'.connection.committed.configurations =
        j.connection.committed.configurations ++ [snapshot] ∧
      j'.connection.pending = none ∧ j'.closed = j.closed := by
  change Journal.transaction (.execute (Db.insertConfiguration snapshot) fun _ => .done ()) j =
    (.ok u, j') at h
  obtain ⟨-, closed, db, ran, connection⟩ := Journal.transaction_eq_ok h
  rw [Script.run_execute_nil] at ran
  split at ran
  · rename_i db' inserted
    cases ran
    obtain ⟨-, -, -, configurations⟩ := Db.insertConfiguration_eq_some inserted
    rw [connection]
    exact ⟨configurations, rfl, closed⟩
  · cases ran

/-- An applied configuration is one more committed snapshot, at the next generation. -/
structure Applied (d t : Domain) (values : ConfigurationValues) (generation : Nat) : Prop where
  history : t.appliedHistory = values :: d.appliedHistory
  snapshot : ∃ row : ConfigurationSnapshot, row.generation = generation ∧
    row.payload = values.asMapping ∧ t.db.configurations = d.db.configurations ++ [row]
  settled : t.journal.Settled
  closed : t.journal.closed = d.journal.closed

theorem applyConfiguration_eq_ok {operation : OperationRecord} {values : ConfigurationValues}
    {caller : Caller} {d t : Domain} {r : OperationRecord}
    (h : exec (applyConfiguration operation values caller) d = (.ok r, t)) :
    Applied d t values (d.machine.generation + 1) := by
  simp only [applyConfiguration, exec_bind_eq_ok, exec_newOperationId, exec_get, exec_onJournal,
    exec_modify] at h
  obtain ⟨_, _, got, _, _, supplied, _, _, recorded, _, _, published, moved⟩ := h
  cases got
  cases supplied
  obtain ⟨returned, rfl⟩ := Prod.mk.inj recorded
  cases published
  obtain ⟨appended, clean, closed⟩ := recordConfiguration_eq_ok (Prod.ext returned rfl)
  have last := (keeps_transition _ _).of_exec moved
  refine ⟨last.history, ⟨_, rfl, rfl, last.journal.committed.trans appended⟩, ?_,
    last.journal.closed.trans closed⟩
  refine last.journal.settled fun db pending => ?_
  cases clean.symm.trans pending

/-- Nothing has happened but reads the engine has served. -/
structure OnlyRead (d u : Domain) : Prop where
  machine : u.machine = d.machine
  history : u.appliedHistory = d.appliedHistory
  connection : u.journal.connection = d.journal.connection
  closed : u.journal.closed = d.journal.closed

theorem OnlyRead.trans {d u v : Domain} (h : OnlyRead d u) (h' : OnlyRead u v) : OnlyRead d v :=
  ⟨h'.machine.trans h.machine, h'.history.trans h.history, h'.connection.trans h.connection,
    h'.closed.trans h.closed⟩

theorem OnlyRead.leaves {d u : Domain} (h : OnlyRead d u) : Leaves d u := by
  refine ⟨⟨by rw [h.connection], fun settled => ?_, h.closed⟩, h.history⟩
  rw [Journal.Settled, h.connection]
  exact settled

theorem onlyRead_guard {read : Db → α} {d u : Domain} {a : α}
    (h : exec (onJournal (Journal.guard read)) d = (.ok a, u)) :
    OnlyRead d u ∧ a = read d.journal.connection.view := by
  rw [exec_onJournal] at h
  obtain ⟨returned, rfl⟩ := Prod.mk.inj h
  obtain ⟨read_eq, connection, closed⟩ := Journal.guard_eq_ok (Prod.ext returned rfl)
  exact ⟨⟨rfl, rfl, connection, closed⟩, read_eq⟩

theorem ofExcept_eq_ok {r : Except Raised α} {d u : Domain} {a : α}
    (h : exec (Domain.ofExcept r) d = (.ok a, u)) : r = .ok a ∧ u = d := by
  rw [exec_ofExcept] at h
  obtain ⟨ok, same⟩ := Prod.mk.inj h
  exact ⟨ok, same.symm⟩

theorem requireCaller_eq_ok {caller : Caller} {d u : Domain} {window : Nat}
    (h : exec (requireCaller caller) d = (.ok window, u)) : u = d := by
  simp only [requireCaller, exec_bind_eq_ok] at h
  obtain ⟨_, _, keyed, _, _, got, deadline⟩ := h
  obtain ⟨-, rfl⟩ := ofExcept_eq_ok keyed
  cases got
  exact (ofExcept_eq_ok deadline).2

theorem currentConfiguration_eq_ok {d u : Domain} {r : ConfigurationValues × Nat × Nat}
    (h : exec currentConfiguration d = (.ok r, u)) : OnlyRead d u := by
  simp only [currentConfiguration, exec_bind_eq_ok] at h
  obtain ⟨_, _, read, _, _, got, decoded⟩ := h
  cases got
  obtain ⟨-, rfl⟩ := ofExcept_eq_ok decoded
  exact (onlyRead_guard read).1

theorem refreshDurability_eq_ok {threat : Option String} {now : Nat} {d u : Domain} {x y : Unit}
    (h : exec (refreshDurability threat now) d = (.ok x, u))
    (durable : requireDurable u.machine = .ok y) : u = d := by
  simp only [refreshDurability, exec_bind_eq_ok, exec_get] at h
  obtain ⟨_, _, got, h⟩ := h
  cases got
  cases threat with
  | none =>
    cases h
    rfl
  | some m =>
    dsimp only at h
    split_ifs at h with available
    · rw [exec_recordJournalFault] at h
      cases h
      simp [requireDurable] at durable
    · cases h
      rfl

theorem replay_none {key fingerprint : String} {now : Nat} {d u : Domain}
    (h : exec (replay key fingerprint now) d = (.ok none, u)) :
    OnlyRead d u ∧ d.journal.connection.view.idempotencyRecord key now = none := by
  rw [replay, exec_bind_eq_ok] at h
  obtain ⟨existing, v, read, rest⟩ := h
  obtain ⟨only, rfl⟩ := onlyRead_guard read
  cases hv : d.journal.connection.view.idempotencyRecord key now with
  | none =>
    rw [hv] at rest
    cases rest
    exact ⟨only, rfl⟩
  | some existing =>
    rw [hv] at rest
    dsimp only at rest
    split_ifs at rest
    · rw [exec_bind_eq_ok] at rest
      obtain ⟨_, _, raised, -⟩ := rest
      cases raised
    · rw [exec_bind_eq_ok] at rest
      obtain ⟨record, _, -, rest⟩ := rest
      cases record <;> cases rest

theorem admission_eq_ok {activity kind : String} {caller : Caller} {expected : Option Nat}
    {check : MachineSnapshot → Except Raised Unit}
    {proceed : MachineSnapshot → DomainM OperationRecord} {d t : Domain} {a : Admission}
    (h : exec (admission activity kind caller expected check proceed) d = (.ok a, t)) :
    Leaves d t ∨
      ∃ u record, OnlyRead d u ∧
        d.journal.connection.view.idempotencyRecord caller.idempotencyKey caller.now = none ∧
        exec (proceed d.machine) u = (.ok record, t) := by
  simp only [admission, exec_bind_eq_ok] at h
  obtain ⟨_, _, refreshed, _, _, got, _, _, durable_view, h⟩ := h
  cases got
  obtain ⟨available, rfl⟩ := ofExcept_eq_ok durable_view
  obtain rfl := refreshDurability_eq_ok refreshed available
  rw [durable_eq_ok, exec_bind_eq_ok] at h
  obtain ⟨replayed, v, looked, h⟩ := h
  cases replayed with
  | some record =>
    cases h
    exact .inl ((keeps_replay _ _ _).of_exec looked)
  | none =>
    obtain ⟨only, absent⟩ := replay_none looked
    simp only [exec_bind_eq_ok] at h
    obtain ⟨_, _, generation, _, _, checked, record, w, proceeded, h⟩ := h
    obtain ⟨-, rfl⟩ := ofExcept_eq_ok generation
    obtain ⟨-, rfl⟩ := ofExcept_eq_ok checked
    cases h
    exact .inr ⟨_, record, only, absent, proceeded⟩

end Domain

theorem Call.keeps_perform {c : Call}
    (other : ∀ changes expected, c.request ≠ .configure changes expected) :
    Keeps Domain.Leaves c.perform := by
  unfold Call.perform
  cases h : c.request with
  | submit action body expected =>
    refine keeps_bind ?_ fun r => Domain.keeps_handOver _ _ r.2
    refine keeps_bind (Domain.keeps_ofExcept _) fun intent => ?_
    refine keeps_bind (Domain.keeps_requireCaller _) fun window => ?_
    refine keeps_bind ?_ fun _ => keeps_pure _
    exact Domain.keeps_admission _ _ _ _ _ fun _ => Domain.keeps_admitOperation _ _ _ _ _
  | stop expected =>
    refine keeps_bind ?_ fun a => Domain.keeps_handOver _ _ a
    refine keeps_bind (Domain.keeps_requireCaller _) fun window => ?_
    refine Domain.keeps_admission _ _ _ _ _ fun view => ?_
    exact keeps_bind (Domain.keeps_admitOperation _ _ _ _ _) fun _ => Domain.keeps_transition _ _
  | connect expected =>
    exact keeps_bind (Domain.keeps_admitSession _ _ _) fun a => Domain.keeps_handOver _ _ a
  | recover expected =>
    exact keeps_bind (Domain.keeps_admitSession _ _ _) fun a => Domain.keeps_handOver _ _ a
  | configure changes expected => exact absurd h (other changes expected)

namespace Domain

theorem Applied.after {d u t : Domain} {values : ConfigurationValues} {generation : Nat}
    (h : Applied u t values generation) (before : Leaves d u) :
    Applied d t values generation := by
  obtain ⟨row, generation_eq, payload, appended⟩ := h.snapshot
  refine ⟨by rw [h.history, before.history], ⟨row, generation_eq, payload, ?_⟩, h.settled,
    h.closed.trans before.journal.closed⟩
  rw [appended]
  exact congrArg (· ++ [row]) before.journal.committed

theorem admitConfigure_eq_ok {changes : List (String × Int)} {caller : Caller} {expected : Nat}
    {d t : Domain} {a : Admission}
    (h : exec (admitConfigure changes caller expected) d = (.ok a, t)) :
    Leaves d t ∨
      d.journal.connection.view.idempotencyRecord caller.idempotencyKey caller.now = none ∧
        ∃ values, Applied d t values (d.machine.generation + 3) := by
  simp only [admitConfigure, exec_bind_eq_ok] at h
  obtain ⟨_, _, checked, _, u, read, candidate, _, changed, h⟩ := h
  rw [requireCaller_eq_ok checked] at read
  have only := currentConfiguration_eq_ok read
  obtain ⟨-, rfl⟩ := ofExcept_eq_ok changed
  rcases admission_eq_ok h with replayed | ⟨v, record, only', absent, proceeded⟩
  · exact .inl (IsTrans.trans _ _ _ only.leaves replayed)
  · refine .inr ⟨by rw [← only.connection]; exact absent, candidate, ?_⟩
    simp only [exec_bind_eq_ok] at proceeded
    obtain ⟨accepted, w, admitted, running, x, dispatched, applied⟩ := proceeded
    have generation : x.machine.generation + 1 = d.machine.generation + 3 := by
      rw [transition_generation dispatched, admit_generation admitted, only'.machine, only.machine]
    have before : Leaves d x := by
      refine IsTrans.trans _ _ _ (only.trans only').leaves ?_
      exact IsTrans.trans _ _ _ ((keeps_admitOperation _ _ _ _ _).of_exec admitted)
        ((keeps_transition _ _).of_exec dispatched)
    rw [← generation]
    exact (applyConfiguration_eq_ok applied).after before

end Domain

namespace HistoryEvent

open Domain

/-- A configuration change that is going to be committed is not behind any snapshot that
is stored already. -/
def Forward (d : Domain) : HistoryEvent → Prop
  | .call ⟨.configure _ _, caller, _⟩ =>
    d.journal.connection.view.idempotencyRecord caller.idempotencyKey caller.now = none →
      ∀ row ∈ d.db.configurations, row.generation ≤ d.machine.generation + 3
  | _ => True

/-- Every configuration change of the history succeeds. -/
def Successful (d : Domain) : HistoryEvent → Prop
  | .call ⟨.configure changes expected, caller, refusal⟩ =>
    (exec (Call.perform ⟨.configure changes expected, caller, refusal⟩) d).1.isOk = true
  | _ => True

instance (d : Domain) : (e : HistoryEvent) → Decidable (e.Forward d)
  | .call ⟨.configure _ _, caller, _⟩ =>
    inferInstanceAs (Decidable
      (d.journal.connection.view.idempotencyRecord caller.idempotencyKey caller.now = none →
        ∀ row ∈ d.db.configurations, row.generation ≤ d.machine.generation + 3))
  | .call ⟨.submit _ _ _, _, _⟩ | .call ⟨.stop _, _, _⟩ | .call ⟨.connect _, _, _⟩
  | .call ⟨.recover _, _, _⟩ | .observeConnection _ _ | .observeProfile _ _ | .dispatch _ _
  | .settle _ _ _ | .settleStop _ _ _ | .prune _ | .restart _ _ | .storage _ => .isTrue trivial

instance (d : Domain) : (e : HistoryEvent) → Decidable (e.Successful d)
  | .call ⟨.configure changes expected, caller, refusal⟩ =>
    inferInstanceAs (Decidable
      ((exec (Call.perform ⟨.configure changes expected, caller, refusal⟩) d).1.isOk = true))
  | .call ⟨.submit _ _ _, _, _⟩ | .call ⟨.stop _, _, _⟩ | .call ⟨.connect _, _, _⟩
  | .call ⟨.recover _, _, _⟩ | .observeConnection _ _ | .observeProfile _ _ | .dispatch _ _
  | .settle _ _ _ | .settleStop _ _ _ | .prune _ | .restart _ _ | .storage _ => .isTrue trivial

/-- The selected snapshot is the one applied last. -/
structure LastSelected (d : Domain) : Prop where
  opened : d.journal.closed = false
  settled : d.journal.Settled
  selected : ∀ v, d.appliedHistory.head? = some v →
    ∃ row, d.db.latestConfiguration = some row ∧ row.payload = v.asMapping

theorem LastSelected.leaves {d t : Domain} (h : LastSelected d) (left : Domain.Leaves d t) :
    LastSelected t := by
  refine ⟨left.journal.closed.trans h.opened, left.journal.settled h.settled, fun v last => ?_⟩
  rw [left.history] at last
  have same : t.db.latestConfiguration = d.db.latestConfiguration := by
    rw [Db.latestConfiguration, Db.latestConfiguration, Domain.db, left.journal.committed,
      Domain.db]
  rw [same]
  exact h.selected v last

theorem latestConfiguration_mem {db : Db} {row : ConfigurationSnapshot}
    (h : db.latestConfiguration = some row) : row ∈ db.configurations := by
  -- the fold only ever holds a row it has passed
  have held : ∀ (f : Option ConfigurationSnapshot → ConfigurationSnapshot →
        Option ConfigurationSnapshot), (∀ best row, f best row = some row ∨
          f best row = best) →
      ∀ (rows : List ConfigurationSnapshot) (start : Option ConfigurationSnapshot),
        rows.foldl f start = some row → row ∈ rows ∨ start = some row := by
    intro f passes rows
    induction rows with
    | nil => exact fun start found => .inr found
    | cons first rows ih =>
      intro start found
      rcases ih _ found with member | held
      · exact .inl (List.mem_cons_of_mem _ member)
      · rcases passes start first with taken | left
        · rw [taken] at held
          cases held
          exact .inl List.mem_cons_self
        · exact .inr (left ▸ held)
  rw [Db.latestConfiguration] at h
  refine (held _ (fun best row => ?_) db.configurations none h).elim id fun absurd_start => ?_
  · cases best with
    | none => exact .inl rfl
    | some b =>
      dsimp only
      split_ifs
      · exact .inl rfl
      · exact .inr rfl
  · cases absurd_start

theorem LastSelected.applied {d t : Domain} (h : LastSelected d) {values : ConfigurationValues}
    {generation : Nat} (applied : Domain.Applied d t values generation)
    (forward : ∀ row ∈ d.db.configurations, row.generation ≤ generation) :
      LastSelected t := by
  refine ⟨applied.closed.trans h.opened, applied.settled, fun v last => ?_⟩
  obtain ⟨row, generation_eq, payload, appended⟩ := applied.snapshot
  rw [applied.history, List.head?_cons, Option.some.injEq] at last
  subst last
  refine ⟨row, ?_, payload⟩
  rw [Db.latestConfiguration_insert appended]
  cases hb : d.db.latestConfiguration with
  | none => rfl
  | some best =>
    have ahead := forward best (latestConfiguration_mem hb)
    rw [← generation_eq] at ahead
    simp only [if_pos ahead]

theorem lastSelected_step {d t : Domain} {e : HistoryEvent} (h : LastSelected d)
    (ok : e.Successful d ∧ e.Forward d) (stepped : step d e = some t) : LastSelected t := by
  cases e with
  | call c =>
    obtain ⟨request, caller, refusal⟩ := c
    cases stepped
    cases request with
    | configure changes expected =>
      have succeeded :
          (exec (Call.perform ⟨.configure changes expected, caller, refusal⟩) d).1.isOk
            = true := ok.1
      rcases ran : exec (Call.perform ⟨.configure changes expected, caller, refusal⟩) d with
        ⟨e | r, t⟩
      · rw [ran] at succeeded
        cases succeeded
      · obtain ⟨a, u, admitted, returned⟩ := exec_bind_eq_ok.mp ran
        cases returned
        rcases admitConfigure_eq_ok admitted with left | ⟨absent, values, applied⟩
        · exact h.leaves left
        · exact h.applied applied (ok.2 absent)
    | _ =>
      refine h.leaves (Call.keeps_perform ?_ d)
      intro changes expected other
      cases other
  | observeConnection state reason =>
    cases stepped
    exact h.leaves ⟨Journal.leaves_refl d.journal, rfl⟩
  | observeProfile firmware readiness =>
    cases stepped
    exact h.leaves ⟨Journal.leaves_refl d.journal, rfl⟩
  | dispatch operationId now =>
    simp only [step, Option.map_eq_some_iff] at stepped
    obtain ⟨operation, -, rfl⟩ := stepped
    refine h.leaves (Domain.keeps_dispatch operation now d)
  | settle operationId result now =>
    cases result <;> cases stepped <;> exact h.leaves (keeps_settle _ _ _ d)
  | settleStop operationId failure now =>
    cases failure with
    | some failure =>
      cases stepped
      exact h.leaves (keeps_settle _ _ _ d)
    | none =>
      simp only [step, Option.map_eq_some_iff] at stepped
      obtain ⟨operation, -, rfl⟩ := stepped
      exact h.leaves (keeps_safeTransition _ _ d)
  | prune now =>
    cases stepped
    exact h.leaves (keeps_onJournal (fun j => Journal.pruneIdempotency_leaves now j) d)
  | restart policy now =>
    cases stepped
    exact ⟨rfl, fun _ pending => (by cases pending), h.selected⟩
  | storage engine =>
    cases stepped
    exact h.leaves ⟨⟨rfl, id, rfl⟩, rfl⟩

end HistoryEvent

/-- The domain with an engine that serves what it is asked next. -/
def Domain.served (d : Domain) : Domain := { d with journal := { d.journal with engine := [] } }

/-- Over every history of successful configuration changes, other operations and
restarts in which no change falls behind a stored snapshot, the configuration read is
the one committed last. -/
theorem configuration_readsOwnWrites (policy : Policy) (started : Nat)
    (history : List HistoryEvent) (d : Domain)
    (successful : Meets HistoryEvent.step HistoryEvent.Successful
      (Domain.new policy .empty 0 started []) history)
    (forward : Meets HistoryEvent.step HistoryEvent.Forward
      (Domain.new policy .empty 0 started []) history)
    (reached : run HistoryEvent.step (Domain.new policy .empty 0 started []) history = some d)
    (v : ConfigurationValues) (last : d.appliedHistory.head? = some v) :
    ∃ g t, (exec Domain.currentConfiguration d.served).1 = .ok (v, g, t) := by
  have start : HistoryEvent.LastSelected (Domain.new policy .empty 0 started []) :=
    ⟨rfl, fun _ pending => (by cases pending), fun _ first => (by cases first)⟩
  have inv := run_invariant (fun _ _ _ => HistoryEvent.lastSelected_step) start
    (meets_and successful forward) reached
  obtain ⟨row, selected, payload⟩ := inv.selected v last
  have seen : d.journal.connection.view.appliedConfiguration =
      some (v.asMapping, row.generation, row.createdAt) := by
    have same : d.journal.connection.view.configurations = d.db.configurations := by
      cases hp : d.journal.connection.pending with
      | none => simp [Connection.view, hp, Domain.db]
      | some db => simpa [Connection.view, hp, Domain.db] using inv.settled db hp
    rw [Db.appliedConfiguration, Db.latestConfiguration, same]
    change d.db.latestConfiguration.map _ = _
    rw [selected, ← payload]
    rfl
  refine ⟨row.generation, row.createdAt, ?_⟩
  have read : exec (Domain.onJournal Journal.appliedConfiguration) d.served =
      (.ok (some (v.asMapping, row.generation, row.createdAt)), d.served) := by
    rw [Domain.exec_onJournal, Journal.appliedConfiguration, Journal.guard]
    simp only [Domain.served, inv.opened, seen]
    rfl
  simp only [Domain.currentConfiguration, exec_bind, read, exec_get, Domain.exec_ofExcept,
    Domain.configurationOf, ConfigurationValues.fromMapping_asMapping]
  rfl

def setHeartbeat (key : String) (interval : Int) (expected now : Nat) : HistoryEvent :=
  .call
    { request := .configure [("heartbeat_interval_ms", interval)] expected
      caller := ⟨⟨"administrator", "admin"⟩, key, key, 1000, now, none⟩ }

def lifeAfter (history : List HistoryEvent) : Domain :=
  runD HistoryEvent.step (Domain.new {} .empty 0 0 []) history

def twoChanges : List HistoryEvent :=
  [setHeartbeat "a" 2000 1 0, .restart {} 1, setHeartbeat "b" 3000 1 2]

theorem configuration_readsOwnWrites_restart :
    ∃ v g t, v.value .heartbeatIntervalMs = 3000 ∧
      (exec Domain.currentConfiguration (lifeAfter twoChanges).served).1 = .ok (v, g, t) := by
  have ran : run HistoryEvent.step (Domain.new {} .empty 0 0 []) twoChanges =
      some (lifeAfter twoChanges) := run_eq_runD (by decide +kernel)
  have last : (lifeAfter twoChanges).appliedHistory.head?.map
      (fun v => v.value .heartbeatIntervalMs) = some 3000 := by decide +kernel
  obtain ⟨v, head, interval⟩ := Option.map_eq_some_iff.mp last
  obtain ⟨g, t, read⟩ := configuration_readsOwnWrites {} 0 twoChanges (lifeAfter twoChanges)
    (by decide +kernel) (by decide +kernel) ran v head
  exact ⟨v, g, t, interval, read⟩

def secondChangeBehind : List HistoryEvent :=
  [.observeConnection .connecting "opening", setHeartbeat "a" 2000 2 0, .restart {} 1,
    setHeartbeat "b" 3000 1 2]

theorem configuration_readsEarlierWrite :
    run HistoryEvent.step (Domain.new {} .empty 0 0 []) secondChangeBehind =
        some (lifeAfter secondChangeBehind) ∧
      Meets HistoryEvent.step HistoryEvent.Successful (Domain.new {} .empty 0 0 [])
        secondChangeBehind ∧
      (lifeAfter secondChangeBehind).appliedHistory.head?.map
        (fun v => v.value .heartbeatIntervalMs) = some 3000 ∧
      (exec Domain.currentConfiguration (lifeAfter secondChangeBehind).served).1.toOption.map
        (fun read => read.1.value .heartbeatIntervalMs) = some 2000 := by
  refine ⟨run_eq_runD ?_, ?_, ?_, ?_⟩
  · decide +kernel
  · decide +kernel
  · decide +kernel
  · decide +kernel

end CaseSorter.Daemon
