import CaseSorter.Daemon.Admissions
import CaseSorter.Daemon.StopAnswers

/-! What one step of the daemon can be, and what it may write. -/

namespace CaseSorter.Daemon

open CaseSorter.Actions CaseSorter.Transactions

def Settles (i : OperationId) (choose : OperationRecord → Option Move) (now : Nat) (db : Db) :
    JournalWrite → Prop
  | .transition t => t.operationId = i ∧ t.occurredAt = now ∧
      ∃ record, db.readOperation i = some record ∧ choose record = some t.toMove
  | _ => False

def Dispatches (operation : OperationRecord) (now : Nat) (_ : Db) : JournalWrite → Prop
  | .transition t => t.operationId = operation.operationId ∧ t.toState = .running ∧
      t.occurredAt = now ∧ operation.expiredAt now = false
  | _ => False

namespace Domain

theorem advances_settle {i : OperationId} {now : Nat} {choose : OperationRecord → Option Move}
    (own : ∀ r m, choose r = some m → m.operationId = r.operationId) (d : Domain) :
    Advances (Settles i choose now) d (exec (do
      match (← current i now).bind choose with
      | none => pure ()
      | some move => safeTransition move now) d).2 := by
  have read := advances_read (P := Settles i choose now) (Db.readOperation i) d
  have looked : Advances (Settles i choose now) d (exec (current i now) d).2 := by
    refine keeps_tryCatch (advances_read _) (fun e => ?_) d
    cases e with
    | journalError m =>
      exact keeps_bind (advances_recordJournalFault _ now) fun _ => keeps_pure none
    | _ => exact keeps_throw _
  refine looked.bind fun found t ran => ?_
  cases chosen : found.bind choose with
  | none => exact advances_refl t
  | some move =>
    obtain ⟨record, rfl, chosen⟩ := Option.bind_eq_some_iff.mp chosen
    -- a row that is returned was read, so nothing has moved
    have served : exec (onJournal (Journal.operation i)) d = (.ok (some record), t) := by
      rw [current, exec_tryCatch] at ran
      rcases h : exec (onJournal (Journal.operation i)) d with ⟨e | r, u⟩
      · rw [h] at ran
        cases e <;> cases ran
      · rw [h] at ran
        cases ran
        rfl
    obtain ⟨only, row⟩ := onlyRead_guard served
    refine advances_safeTransition fun clean db' changed => ?_
    have committed : t.db.readOperation i = some record := by
      rw [← only.connection, Connection.view, clean] at row
      exact row.symm
    have named := Db.readOperation_operationId committed
    exact ⟨(own record move chosen).trans named, rfl, record, committed, chosen⟩

theorem advances_dispatch (operation : OperationRecord) (now : Nat) (d : Domain) :
    Advances (Dispatches operation now) d (exec (Domain.dispatch operation now) d).2 := by
  unfold Domain.dispatch
  by_cases expired : operation.expiredAt now = true
  · simp only [if_pos expired]
    exact advances_refl d
  · simp only [if_neg expired]
    refine Advances.bind (advances_transition fun _ _ _ => ?_) fun _ t _ => advances_refl t
    exact ⟨rfl, rfl, rfl, by simpa using expired⟩

theorem dispatch_eq_ok {operation : OperationRecord} {now : Nat} {d t : Domain} {u : Unit}
    (h : exec (Domain.dispatch operation now) d = (.ok u, t)) :
    now < operation.deadlineAt ∧
      (∃ record, t.db.readOperation operation.operationId = some record ∧
        record.state = .running) ∧
      ∃ r ∈ t.db.transitions, r.operationId = operation.operationId ∧ r.toState = .running ∧
        r.occurredAt = now := by
  unfold Domain.dispatch at h
  by_cases expired : operation.expiredAt now = true
  · simp only [if_pos expired] at h
    cases h
  · simp only [if_neg expired, exec_bind_eq_ok] at h
    obtain ⟨record, t', moved, rest⟩ := h
    cases rest
    obtain ⟨-, row⟩ := transition_changes moved
    obtain ⟨state, entry⟩ := transition_left moved
    exact ⟨by simpa [OperationRecord.expiredAt] using expired, ⟨record, row, state⟩, entry⟩

end Domain

def Callback.choose (s : Settlement) : Callback → OperationRecord → Option Move
  | .settle _ =>
    match s with
    | .error e => Domain.resolution e
    | .ok (some result) => Domain.completion result
    | .ok none => Domain.completion (.other "NoneType")
  | .settleStop _ =>
    match s with
    | .error e => Domain.resolution e
    | .ok _ => fun record => some (Domain.stopped record.operationId)

theorem Callback.advances_run (c : Callback) (s : Settlement) (now : Nat) (d : Domain) :
    Domain.Advances (Settles c.operationId (c.choose s) now) d (exec (c.run s now) d).2 := by
  cases c with
  | settle i =>
    match s with
    | .error e => exact Domain.advances_settle (Domain.resolution_operationId e) d
    | .ok (some result) => exact Domain.advances_settle (Domain.completion_operationId result) d
    | .ok none =>
      exact Domain.advances_settle (Domain.completion_operationId (.other "NoneType")) d
  | settleStop i =>
    match s with
    | .error e => exact Domain.advances_settle (Domain.resolution_operationId e) d
    | .ok r =>
      refine Domain.advances_safeTransition fun _ db' changed => ?_
      obtain ⟨record, -, -, found, -⟩ := changes_transition changed
      refine ⟨rfl, rfl, record, found, ?_⟩
      show some (Domain.stopped record.operationId) = some (Domain.stopped i)
      rw [Db.readOperation_operationId found]
      rfl

open Domain in
theorem Request.advances_prepare (caller : Caller) (request : Request) :
    Keeps (Advances NoWrite) (request.prepare caller) := by
  have called : Keeps (Advances NoWrite) (requireCaller caller) := by
    refine keeps_bind (advances_ofExcept _) fun _ => ?_
    exact keeps_bind keeps_get fun d => advances_ofExcept _
  cases request with
  | submit action body expected =>
    refine keeps_bind (advances_ofExcept _) fun intent => ?_
    exact keeps_bind called fun window => keeps_pure _
  | stop expected => exact keeps_bind called fun window => keeps_pure _
  | connect expected => exact keeps_bind called fun window => keeps_pure _
  | recover expected => exact keeps_bind called fun window => keeps_pure _
  | configure changes expected =>
    refine keeps_bind called fun window => ?_
    refine keeps_bind ?_ fun current => ?_
    · refine keeps_bind (advances_read _) fun applied => ?_
      exact keeps_bind keeps_get fun d => advances_ofExcept _
    · exact keeps_bind (advances_ofExcept _) fun candidate => keeps_pure _

theorem Domain.advances_prune (now : Nat) (d : Domain) :
    Domain.Advances (fun _ w => w = .prune now) d
      (exec (Domain.onJournal (Journal.pruneIdempotency now)) d).2 := by
  refine Domain.advances_write (w := .prune now) (fun _ _ h => h) (fun _ _ => rfl)
    fun first db' changed before row member => ?_
  rw [(changes_prune changed).1] at member
  exact before row member

namespace System

inductive Steps (s : System) : SystemEvent → System → Prop
  | asked {request caller p d} (passed : exec (request.prepare caller) s.domain = (.ok p, d)) :
    Steps s (.call request caller) { s with domain := d, api := s.api ++ [.admitting caller p] }
  | unasked {request caller e d}
      (refused : exec (request.prepare caller) s.domain = (.error e, d)) :
    Steps s (.call request caller) { s with domain := d,
                                            answers := ⟨caller, .error e⟩ :: s.answers }
  | admitted {k now caller p record lane d} (at_k : s.api[k]? = some (.admitting caller p))
      (made : exec (p.admitSection caller) s.domain = (.ok (.admitted record), d))
      (handed : p.lane = some lane) :
    Steps s (.api k now) { s with domain := d, api := s.api.set k (.enqueuing caller record lane) }
  | applied {k now caller p record d} (at_k : s.api[k]? = some (.admitting caller p))
      (made : exec (p.admitSection caller) s.domain = (.ok (.admitted record), d))
      (unhanded : p.lane = none) :
    Steps s (.api k now) (answered k ⟨caller, .ok record⟩ { s with domain := d })
  | replayed {k now caller p record d} (at_k : s.api[k]? = some (.admitting caller p))
      (found : exec (p.admitSection caller) s.domain = (.ok (.replayed record), d)) :
    Steps s (.api k now) (answered k ⟨caller, .ok record⟩ { s with domain := d })
  | rejected {k now caller p e d} (at_k : s.api[k]? = some (.admitting caller p))
      (refused : exec (p.admitSection caller) s.domain = (.error e, d)) :
    Steps s (.api k now) (answered k ⟨caller, .error e⟩ { s with domain := d })
  | handed {k now caller operation lane f w}
      (at_k : s.api[k]? = some (.enqueuing caller operation lane))
      (taken : lane.enqueue operation s.worker = (.ok f, w)) :
    Steps s (.api k now) { s with
      worker := w
      api := s.api.set k (.attaching caller operation (lane.callback operation.operationId) f)
      handed := (operation.operationId, f) :: s.handed }
  | refused {k now caller operation lane e w}
      (at_k : s.api[k]? = some (.enqueuing caller operation lane))
      (full : lane.enqueue operation s.worker = (.error e, w)) :
    Steps s (.api k now)
      { s with worker := w, api := s.api.set k (.refused caller operation e) }
  | withdrawn {k now caller operation e x} (at_k : s.api[k]? = some (.refused caller operation e)) :
    Steps s (.api k now) (answered k ⟨caller, .error x⟩ { s with
      domain := (exec (Domain.resolve operation.operationId e now) s.domain).2 })
  | attached {k now caller operation callback f}
      (at_k : s.api[k]? = some (.attaching caller operation callback f))
      (pending : (s.worker.futures f).settlement = none) :
    Steps s (.api k now) (answered k ⟨caller, .ok operation⟩
      { s with callbacks := s.callbacks ++ [(f, callback)] })
  | late {k now caller operation callback f r}
      (at_k : s.api[k]? = some (.attaching caller operation callback f))
      (resolved : (s.worker.futures f).settlement = some r) :
    Steps s (.api k now)
      { s with api := s.api.set k (.settling f callback r (some ⟨caller, .ok operation⟩)) }
  | settled {k now f callback r answer}
      (at_k : s.api[k]? = some (.settling f callback r answer)) :
    Steps s (.api k now) { s with
      domain := (exec (callback.run r now) s.domain).2
      api := s.api.eraseIdx k
      answers := answer.toList ++ s.answers }
  | task {now task rest} (owed : s.tasks = task :: rest) :
    Steps s (.task now) { s with domain := s.taskStep now task, tasks := rest }
  | thread {i w} (done : s.tasks = []) (ungated : s.worker.todo ≠ [] ∨ gated s.worker = none)
      (moved : s.worker.threadStep i = some w) : Steps s (.thread i) (s.threadStepped w)
  | dispatched {now operation result d w} (done : s.tasks = []) (idle : s.worker.todo = [])
      (gate : gated s.worker = some operation)
      (asked : exec (Domain.dispatch operation now) s.domain = (result, d))
      (moved : s.worker.threadStep (.gated (refusal result)) = some w) :
    Steps s (.dispatch now) { s.threadStepped w with domain := d }
  | preempted {k w} (failed : s.worker.step (.failPreempted k) = some w) :
    Steps s (.failPreempted k) { s with
      worker := w
      api := s.api ++ (ripe s.worker w s.callbacks).map fun (f, c, r) => .settling f c r none }
  | started : Steps s .start { s with worker := s.worker.start }
  | timedOut : Steps s .startTimeout { s with worker := s.worker.startTimeout }
  | closed : Steps s .close { s with worker := s.worker.close }
  | refreshed {threat now} :
    Steps s (.refresh threat now)
      { s with domain := (exec (Domain.refreshDurability threat now) s.domain).2 }
  | pruned {now} :
    Steps s (.prune now)
      { s with domain := (exec (Domain.onJournal (Journal.pruneIdempotency now)) s.domain).2 }
  | stored {engine} :
    Steps s (.storage engine)
      { s with domain := { s.domain with journal := { s.domain.journal with engine := engine } } }

theorem apiStep_steps {s : System} {k now : Nat} {a : ApiThread} (at_k : s.api[k]? = some a) :
    Steps s (.api k now) (s.apiStep k now a) := by
  cases a with
  | admitting caller p =>
    simp only [apiStep]
    split
    · rename_i record d made
      split
      · rename_i lane handed
        exact .admitted at_k made handed
      · rename_i unhanded
        exact .applied at_k made unhanded
    · rename_i record d found
      exact .replayed at_k found
    · rename_i e d refused
      exact .rejected at_k refused
  | enqueuing caller operation lane =>
    simp only [apiStep]
    split
    · rename_i f w taken
      exact .handed at_k taken
    · rename_i e w full
      exact .refused at_k full
  | refused caller operation e =>
    simp only [apiStep]
    split
    · rename_i u d ran
      have same : d = (exec (Domain.resolve operation.operationId e now) s.domain).2 := by rw [ran]
      rw [same]
      exact .withdrawn at_k
    · rename_i x d ran
      have same : d = (exec (Domain.resolve operation.operationId e now) s.domain).2 := by rw [ran]
      rw [same]
      exact .withdrawn at_k
  | attaching caller operation callback f =>
    simp only [apiStep]
    split
    · rename_i pending
      exact .attached at_k pending
    · rename_i r resolved
      exact .late at_k resolved
  | settling f callback r answer => exact .settled at_k

theorem step_steps {s t : System} {e : SystemEvent} (h : s.step e = some t) : Steps s e t := by
  cases e with
  | call request caller =>
    simp only [step] at h
    split at h
    · rename_i p d passed
      cases h
      exact .asked passed
    · rename_i e d refused
      cases h
      exact .unasked refused
  | api k now =>
    obtain ⟨a, at_k, rfl⟩ := Option.map_eq_some_iff.mp h
    exact apiStep_steps at_k
  | task now =>
    simp only [step] at h
    split at h
    · cases h
    · rename_i task rest owed
      cases h
      exact .task owed
  | thread i =>
    simp only [step] at h
    split_ifs at h with ready
    obtain ⟨w, moved, rfl⟩ := Option.map_eq_some_iff.mp h
    exact .thread ready.1 ready.2 moved
  | dispatch now =>
    simp only [step] at h
    split_ifs at h with ready
    obtain ⟨operation, gate, h⟩ := Option.bind_eq_some_iff.mp h
    rcases asked : exec (Domain.dispatch operation now) s.domain with ⟨result, d⟩
    simp only [asked] at h
    obtain ⟨w, moved, rfl⟩ := Option.map_eq_some_iff.mp h
    exact .dispatched ready.1 ready.2 gate asked moved
  | failPreempted k =>
    obtain ⟨w, failed, rfl⟩ := Option.map_eq_some_iff.mp h
    exact .preempted failed
  | start =>
    cases h
    exact .started
  | startTimeout =>
    cases h
    exact .timedOut
  | close =>
    cases h
    exact .closed
  | refresh threat now =>
    cases h
    exact .refreshed
  | prune now =>
    cases h
    exact .pruned
  | storage engine =>
    cases h
    exact .stored

theorem Steps.thread_new {s t : System} {e : SystemEvent} (steps : Steps s e t) {a : ApiThread}
    (member : a ∈ t.api) :
    a ∈ s.api ∨
      (∃ request caller p d, e = .call request caller ∧ a = .admitting caller p ∧
        exec (request.prepare caller) s.domain = (.ok p, d)) ∨
      ∀ caller p, a ≠ .admitting caller p := by
  cases steps with
  | asked passed =>
    rcases List.mem_append.mp member with old | new
    · exact .inl old
    · cases List.mem_singleton.mp new
      exact .inr (.inl ⟨_, _, _, _, rfl, rfl, passed⟩)
  | unasked refused => exact .inl member
  | admitted at_k made handed =>
    rcases List.mem_or_eq_of_mem_set member with old | rfl
    · exact .inl old
    · exact .inr (.inr nofun)
  | applied at_k made unhanded => exact .inl (List.mem_of_mem_eraseIdx member)
  | replayed at_k found => exact .inl (List.mem_of_mem_eraseIdx member)
  | rejected at_k refused => exact .inl (List.mem_of_mem_eraseIdx member)
  | handed at_k taken =>
    rcases List.mem_or_eq_of_mem_set member with old | rfl
    · exact .inl old
    · exact .inr (.inr nofun)
  | refused at_k full =>
    rcases List.mem_or_eq_of_mem_set member with old | rfl
    · exact .inl old
    · exact .inr (.inr nofun)
  | withdrawn at_k => exact .inl (List.mem_of_mem_eraseIdx member)
  | attached at_k pending => exact .inl (List.mem_of_mem_eraseIdx member)
  | late at_k resolved =>
    rcases List.mem_or_eq_of_mem_set member with old | rfl
    · exact .inl old
    · exact .inr (.inr nofun)
  | settled at_k => exact .inl (List.mem_of_mem_eraseIdx member)
  | preempted failed =>
    rcases List.mem_append.mp member with old | new
    · exact .inl old
    · obtain ⟨_, -, rfl⟩ := List.mem_map.mp new
      exact .inr (.inr nofun)
  | _ => exact .inl member

def grants (s : System) : SystemEvent → Db → JournalWrite → Prop
  | .api k now =>
    match s.api[k]? with
    | some (.admitting caller p) => Admits s.domain.nextId caller p
    | some (.refused _ operation e) =>
      Settles operation.operationId (Domain.resolution e) now
    | some (.settling _ c r _) => Settles c.operationId (c.choose r) now
    | _ => Domain.NoWrite
  | .task now =>
    match s.tasks with
    | .callback _ c r :: _ => Settles c.operationId (c.choose r) now
    | _ => Domain.NoWrite
  | .dispatch now =>
    match gated s.worker with
    | some operation => Dispatches operation now
    | none => Domain.NoWrite
  | .prune now => fun _ w => w = .prune now
  | _ => Domain.NoWrite

def served (d : Domain) : SystemEvent → Domain
  | .storage engine => { d with journal := { d.journal with engine := engine } }
  | _ => d

theorem observeConnection_generation (state : ConnectionState) (reason : String)
    (m : MachineSnapshot) : m.generation ≤ (m.observeConnection state reason).generation := by
  unfold MachineSnapshot.observeConnection
  split_ifs
  · exact Nat.le_refl _
  · exact Nat.le_succ _

theorem observeProfile_generation (firmware : FirmwareProfile) (readiness : MachineReadiness)
    (m : MachineSnapshot) : m.generation ≤ (m.observeProfile firmware readiness).generation := by
  unfold MachineSnapshot.observeProfile
  split_ifs
  · exact Nat.le_refl _
  · exact Nat.le_succ _

theorem Steps.advances {s t : System} {e : SystemEvent} (steps : Steps s e t) :
    Domain.Advances (s.grants e) (served s.domain e) t.domain := by
  cases steps with
  | asked passed =>
    rename_i request caller p d
    exact (request.advances_prepare caller).of_exec passed
  | unasked refused =>
    rename_i request caller e d
    exact (request.advances_prepare caller).of_exec refused
  | admitted at_k made _ =>
    have went := Prepared.advances_admitting ‹_› ‹_› s.domain
    rw [made] at went
    simp only [grants, at_k]
    exact went
  | applied at_k made _ =>
    have went := Prepared.advances_admitting ‹_› ‹_› s.domain
    rw [made] at went
    simp only [grants, at_k]
    exact went
  | replayed at_k found =>
    have went := Prepared.advances_admitting ‹_› ‹_› s.domain
    rw [found] at went
    simp only [grants, at_k]
    exact went
  | rejected at_k refused =>
    have went := Prepared.advances_admitting ‹_› ‹_› s.domain
    rw [refused] at went
    simp only [grants, at_k]
    exact went
  | withdrawn at_k =>
    simp only [grants, at_k]
    exact Domain.advances_settle (Domain.resolution_operationId _) s.domain
  | settled at_k =>
    simp only [grants, at_k]
    exact Callback.advances_run _ _ _ s.domain
  | task owed =>
    rename_i now task rest
    simp only [grants, owed]
    cases task with
    | observeConnection session =>
      exact Domain.advances_of_journal rfl (Nat.le_refl _) (observeConnection_generation _ _ _)
    | observeProfile profile =>
      exact Domain.advances_of_journal rfl (Nat.le_refl _) (observeProfile_generation _ _ _)
    | callback f c r => exact Callback.advances_run c r now s.domain
  | dispatched done idle gate asked moved =>
    have went := Domain.advances_dispatch ‹_› ‹_› s.domain
    rw [asked] at went
    simp only [grants, gate]
    exact went
  | refreshed =>
    exact (Domain.advances_refreshDurability _ _) s.domain
  | pruned => exact Domain.advances_prune _ s.domain
  | _ => exact Domain.advances_refl _

def enqueued (operation : OperationRecord) : Lane → WorkerEvent
  | .normal intent => .submit intent (some operation)
  | .stop => .stop

theorem enqueue_step {lane : Lane} {operation : OperationRecord} {w v : Worker}
    {r : Except Failure FutureId} (h : lane.enqueue operation w = (r, v)) :
    w.step (enqueued operation lane) = some v := by
  cases lane <;> exact congrArg some (Prod.mk.inj h).2

theorem Steps.worker {s t : System} {e : SystemEvent} (steps : Steps s e t) :
    t.worker = s.worker ∨ ∃ we, s.worker.step we = some t.worker := by
  cases steps with
  | handed at_k taken => exact .inr ⟨_, enqueue_step taken⟩
  | refused at_k full => exact .inr ⟨_, enqueue_step full⟩
  | thread done ungated moved => exact .inr ⟨.thread _, moved⟩
  | dispatched done idle gate asked moved => exact .inr ⟨.thread _, moved⟩
  | preempted failed => exact .inr ⟨_, failed⟩
  | started => exact .inr ⟨.start, rfl⟩
  | timedOut => exact .inr ⟨.startTimeout, rfl⟩
  | closed => exact .inr ⟨.close, rfl⟩
  | _ => exact .inl rfl

end System
end CaseSorter.Daemon
