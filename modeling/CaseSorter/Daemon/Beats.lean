import CaseSorter.Daemon.SystemSteps

/-! The beats of the domain. Every section is put together from a few of them: a read, an
admission, a transition, a configuration, a pruning, a fault, a new identity. What each
beat keeps, every section of the daemon keeps, however storage answers. -/

namespace CaseSorter.Daemon

open CaseSorter.Actions CaseSorter.Transactions

namespace Domain

variable {α : Type}

/-- Commit the new values and publish the generation they carry. -/
def commitConfiguration (operation : OperationRecord) (values : ConfigurationValues)
    (caller : Caller) : DomainM Unit := do
  let version := (← get).machine.generation + 1
  let configId ← newOperationId
  onJournal (Journal.recordConfiguration
    { configId := configId
      generation := version
      payload := values.asMapping
      source := s!"{caller.actor.role}:{caller.actor.userId}"
      createdAt := caller.now })
  modify fun d => {
    d.publish (d.machine.transition (some operation.operationId) "configuration applied") with
    configuration := values
    configurationGeneration := version
    configuredAt := caller.now
    maxDeadlineMs := min d.maxDeadlineMs (values.value .maxDeadlineMs)
    appliedHistory := values :: d.appliedHistory }

theorem applyConfiguration_eq (operation : OperationRecord) (values : ConfigurationValues)
    (caller : Caller) :
    applyConfiguration operation values caller =
      (do
        commitConfiguration operation values caller
        transition
          { operationId := operation.operationId
            toState := .succeeded
            reason := "configuration committed"
            trustedTerminal := true
            outcome := some "applied"
            terminalFields := some (values.asMapping.map fun field => (field.1, toString field.2)) }
          caller.now) := by
  simp only [applyConfiguration, commitConfiguration, bind_assoc]

/-- The relation holds across each beat but the committing of a configuration; across a
transition where its move is allowed. -/
structure Beats (R : Domain → Domain → Prop)
    (Allowed : Move → Prop) : Prop extends Idles R where
  supply : Keeps R newOperationId
  enter :
    ∀ operation reason key, Keeps R (onJournal (Journal.recordAdmission operation reason key))
  write : ∀ move now, Allowed move → Keeps R (writeTransition move now)
  prune : ∀ now, Keeps R (onJournal (Journal.pruneIdempotency now))
  connection : ∀ d state reason, R d (d.observe (d.machine.observeConnection state reason))
  profile : ∀ d firmware readiness, R d (d.observe (d.machine.observeProfile firmware readiness))
  storage : ∀ d engine, R d { d with journal := { d.journal with engine := engine } }

section Beats

variable {R : Domain → Domain → Prop} {Allowed : Move → Prop} [Std.Refl R] [IsTrans Domain R]

omit [IsTrans Domain R] in
theorem keeps_given (r : Except Raised α) : Keeps R (Domain.ofExcept r) := fun d => refl d

theorem Beats.moves (beats : Beats R Allowed) {move : Move} (allowed : Allowed move) (now : Nat) :
    Keeps R (transition move now) := by
  refine keeps_tryCatch (beats.write move now allowed) fun e => ?_
  cases e with
  | journalError m => exact keeps_bind (beats.fault _ now) fun _ => keeps_throw _
  | _ => exact keeps_throw _

theorem Beats.safely (beats : Beats R Allowed) {move : Move} (allowed : Allowed move) (now : Nat) :
    Keeps R (safeTransition move now) := by
  refine keeps_tryCatch (keeps_bind (beats.moves allowed now) fun _ => keeps_pure _) fun e => ?_
  cases e with
  | journalError m => exact keeps_pure _
  | _ => exact keeps_throw _

theorem Beats.durably (beats : Beats R Allowed) (activity : String) (now : Nat) {body : DomainM α}
    (h : Keeps R body) : Keeps R (durable activity now body) := by
  refine keeps_tryCatch h fun e => ?_
  cases e with
  | journalError m => exact keeps_bind (beats.fault _ now) fun _ => keeps_throw _
  | _ => exact keeps_throw _

theorem Beats.replays (beats : Beats R Allowed) (key fingerprint : String) (now : Nat) :
    Keeps R (replay key fingerprint now) := by
  refine keeps_bind (beats.read _) fun existing => ?_
  cases existing with
  | none => exact keeps_pure none
  | some b =>
    dsimp only
    split_ifs
    on_goal 1 => refine keeps_bind (keeps_throw _) fun _ => ?_
    all_goals
      refine keeps_bind (beats.read _) fun row => ?_
      cases row with
      | none => exact keeps_throw _
      | some record => exact keeps_pure _

theorem Beats.admits (beats : Beats R Allowed)
    (accepts : ∀ m : Move, m.toState = .accepted → Allowed m) (action : OperationAction)
    (caller : Caller) (view : MachineSnapshot) (window : Nat) (reason : String) :
    Keeps R (admitOperation action caller view window reason) := by
  refine keeps_bind beats.supply fun i => keeps_bind (keeps_given _) fun operation => ?_
  refine keeps_bind keeps_get fun d => keeps_bind (beats.enter _ _ _) fun _ => ?_
  exact beats.moves (accepts _ rfl) _

theorem Beats.proceeds (beats : Beats R Allowed)
    (opens : ∀ m : Move, m.toState = .accepted ∨ m.toState = .running → Allowed m)
    (caller : Caller)
    {p : Prepared} (handed : p.action ≠ .configure) (view : MachineSnapshot) :
    Keeps R (p.proceed caller view) := by
  have accepts : ∀ m : Move, m.toState = .accepted → Allowed m := fun m is => opens m (.inl is)
  cases p with
  | submit action intent window expected => exact beats.admits accepts _ _ _ _ _
  | session action window expected => exact beats.admits accepts _ _ _ _ _
  | stop window expected =>
    exact keeps_bind (beats.admits accepts _ _ _ _ _) fun accepted =>
      beats.moves (opens _ (.inr rfl)) _
  | configure changes candidate window expected => exact absurd rfl handed

theorem Beats.admitting (beats : Beats R Allowed) {caller : Caller} {p : Prepared}
    (proceeds : ∀ view, Keeps R (p.proceed caller view)) : Keeps R (p.admitSection caller) := by
  rw [Prepared.admit_eq]
  refine keeps_bind (beats.toIdles.refresh _ _) fun _ => keeps_bind keeps_get fun d => ?_
  refine keeps_bind (keeps_given _) fun _ => beats.durably _ _ ?_
  refine keeps_bind (beats.replays _ _ _) fun replayed => ?_
  cases replayed with
  | some record => exact keeps_pure _
  | none =>
    refine keeps_bind (keeps_given _) fun _ => keeps_bind (keeps_given _) fun _ => ?_
    exact keeps_bind (proceeds d.machine) fun record => keeps_pure _

theorem current_eq_some {i : OperationId} {now : Nat} {d t : Domain} {record : OperationRecord}
    (h : exec (current i now) d = (.ok (some record), t)) : record.operationId = i := by
  rw [current, exec_tryCatch] at h
  rcases read : exec (onJournal (Journal.operation i)) d with ⟨e | r, u⟩
  · rw [read] at h
    cases e <;> cases h
  · rw [read] at h
    cases h
    exact Db.readOperation_operationId (onlyRead_guard read).2.symm

theorem Beats.settles (beats : Beats R Allowed) {i : OperationId} {now : Nat}
    {choose : OperationRecord → Option Move}
    (own : ∀ r m, choose r = some m → m.operationId = r.operationId)
    (allowed : ∀ m : Move, m.operationId = i → Allowed m) :
    Keeps R (do
      match (← current i now).bind choose with
      | none => pure ()
      | some move => safeTransition move now) := by
  intro d
  have looked : Keeps R (current i now) := by
    refine keeps_tryCatch (beats.read _) fun e => ?_
    cases e with
    | journalError m => exact keeps_bind (beats.fault _ now) fun _ => keeps_pure none
    | _ => exact keeps_throw _
  rw [exec_bind]
  rcases ran : exec (current i now) d with ⟨e | found, t⟩
  · exact looked.of_exec ran
  · refine IsTrans.trans _ _ _ (looked.of_exec ran) ?_
    dsimp only
    cases chosen : found.bind choose with
    | none => exact refl t
    | some move =>
      obtain ⟨record, rfl, chosen⟩ := Option.bind_eq_some_iff.mp chosen
      have named := (own record move chosen).trans (current_eq_some ran)
      exact beats.safely (allowed move named) now t

theorem Beats.runs (beats : Beats R Allowed) {c : Callback}
    (allowed : ∀ m : Move, m.operationId = c.operationId → Allowed m)
    (s : Settlement) (now : Nat) :
    Keeps R (c.run s now) := by
  cases c with
  | settle i =>
    match s with
    | .error e => exact beats.settles (resolution_operationId e) allowed
    | .ok (some result) => exact beats.settles (completion_operationId result) allowed
    | .ok none => exact beats.settles (completion_operationId (.other "NoneType")) allowed
  | settleStop i =>
    match s with
    | .error e => exact beats.settles (resolution_operationId e) allowed
    | .ok _ => exact beats.safely (allowed _ rfl) now

theorem Beats.dispatches (beats : Beats R Allowed)
    (opens : ∀ m : Move, m.toState = .accepted ∨ m.toState = .running → Allowed m)
    (operation : OperationRecord) (now : Nat) : Keeps R (Domain.dispatch operation now) := by
  unfold Domain.dispatch
  let move : Move :=
    { operationId := operation.operationId
      toState := .running
      reason := "dispatched to the controller" }
  have moved : Keeps R (Domain.transition move now >>= fun _ => pure ()) :=
    keeps_bind (beats.moves (opens move (.inr rfl)) now) fun _ => keeps_pure ()
  by_cases expired : operation.expiredAt now = true
  · simp only [if_pos expired]
    exact keeps_bind (keeps_throw _) fun _ => moved
  · simp only [if_neg expired]
    exact moved

theorem Beats.prepares (beats : Beats R Allowed) (caller : Caller) (request : Request) :
    Keeps R (request.prepare caller) := by
  have called : Keeps R (requireCaller caller) := by
    refine keeps_bind (keeps_given _) fun _ => ?_
    exact keeps_bind keeps_get fun d => keeps_given _
  cases request with
  | submit action body expected =>
    refine keeps_bind (keeps_given _) fun intent => ?_
    exact keeps_bind called fun window => keeps_pure _
  | stop expected => exact keeps_bind called fun window => keeps_pure _
  | connect expected => exact keeps_bind called fun window => keeps_pure _
  | recover expected => exact keeps_bind called fun window => keeps_pure _
  | configure changes expected =>
    refine keeps_bind called fun window => ?_
    refine keeps_bind ?_ fun current => ?_
    · refine keeps_bind (beats.read _) fun applied => ?_
      exact keeps_bind keeps_get fun d => keeps_given _
    · exact keeps_bind (keeps_given _) fun candidate => keeps_pure _

end Beats

end Domain

namespace System

variable {R : Domain → Domain → Prop} {Allowed : Move → Prop} [Std.Refl R] [IsTrans Domain R]

inductive Ends (s : System) : SystemEvent → Option OperationId → Prop
  | configured {k now caller p} (at_k : s.api[k]? = some (.admitting caller p))
      (configures : p.action = .configure) : Ends s (.api k now) none
  | withdrawn {k now caller operation e}
      (at_k : s.api[k]? = some (.refused caller operation e)) :
    Ends s (.api k now) (some operation.operationId)
  | settled {k now f c r answer} (at_k : s.api[k]? = some (.settling f c r answer)) :
    Ends s (.api k now) (some c.operationId)
  | task {now f c r rest} (owed : s.tasks = .callback f c r :: rest) :
    Ends s (.task now) (some c.operationId)

theorem Steps.beats {s t : System} {e : SystemEvent} (steps : Steps s e t)
    (beats : Domain.Beats R Allowed)
    (opens : ∀ m : Move, m.toState = .accepted ∨ m.toState = .running → Allowed m)
    (ends : ∀ i, Ends s e i → R s.domain t.domain) : R s.domain t.domain := by
  have admitting : ∀ {k now caller p r d}, e = .api k now →
      s.api[k]? = some (.admitting caller p) → exec (p.admitSection caller) s.domain = (r, d) →
      t.domain = d → R s.domain t.domain := by
    intro k now caller p r d rfl at_k ran same
    by_cases configures : p.action = .configure
    · exact ends none (.configured at_k configures)
    · rw [same]
      exact (beats.admitting (beats.proceeds opens caller configures)).of_exec ran
  cases steps with
  | asked passed => exact (beats.prepares _ _).of_exec passed
  | unasked refused => exact (beats.prepares _ _).of_exec refused
  | admitted at_k made _ => exact admitting rfl at_k made rfl
  | applied at_k made _ => exact admitting rfl at_k made rfl
  | replayed at_k found => exact admitting rfl at_k found rfl
  | rejected at_k refused => exact admitting rfl at_k refused rfl
  | withdrawn at_k => exact ends _ (.withdrawn at_k)
  | settled at_k => exact ends _ (.settled at_k)
  | task owed =>
    rename_i now task rest
    cases task with
    | observeConnection session => exact beats.connection _ _ _
    | observeProfile profile => exact beats.profile _ _ _
    | callback f c r => exact ends _ (.task owed)
  | dispatched done idle gate asked moved => exact (beats.dispatches opens _ _).of_exec asked
  | refreshed => exact beats.toIdles.refresh _ _ s.domain
  | pruned => exact beats.prune _ s.domain
  | stored => exact beats.storage _ _
  | _ => exact refl _

theorem Steps.settles {s t : System} {e : SystemEvent} {i : OperationId} (steps : Steps s e t)
    (ends : Ends s e (some i)) (beats : Domain.Beats R Allowed)
    (allowed : ∀ m : Move, m.operationId = i → Allowed m) : R s.domain t.domain := by
  cases ends with
  | withdrawn at_k =>
    cases steps with
    | withdrawn at_k' =>
      cases at_k.symm.trans at_k'
      exact beats.settles (Domain.resolution_operationId _) allowed s.domain
    | admitted at_k' | applied at_k' | replayed at_k' | rejected at_k' | handed at_k'
    | refused at_k'
    | attached at_k' | late at_k' | settled at_k' => cases at_k.symm.trans at_k'
  | settled at_k =>
    cases steps with
    | settled at_k' =>
      cases at_k.symm.trans at_k'
      exact beats.runs allowed _ _ s.domain
    | admitted at_k' | applied at_k' | replayed at_k' | rejected at_k' | handed at_k'
    | refused at_k'
    | attached at_k' | late at_k' | withdrawn at_k' => cases at_k.symm.trans at_k'
  | task owed =>
    cases steps with
    | task owed' =>
      cases owed.symm.trans owed'
      exact beats.runs allowed _ _ s.domain

omit [Std.Refl R] [IsTrans Domain R] in
theorem Steps.configures {s t : System} {e : SystemEvent} (steps : Steps s e t)
    (ends : Ends s e none) (admits : ∀ k now caller p, e = .api k now →
      s.api[k]? = some (.admitting caller p) → p.action = .configure →
        R s.domain (exec (p.admitSection caller) s.domain).2) : R s.domain t.domain := by
  cases ends with
  | configured at_k configures =>
    have went := admits _ _ _ _ rfl at_k configures
    cases steps with
    | admitted at_k' made _ =>
      cases at_k.symm.trans at_k'
      rw [made] at went
      exact went
    | applied at_k' made _ =>
      cases at_k.symm.trans at_k'
      rw [made] at went
      exact went
    | replayed at_k' found =>
      cases at_k.symm.trans at_k'
      rw [found] at went
      exact went
    | rejected at_k' refused =>
      cases at_k.symm.trans at_k'
      rw [refused] at went
      exact went
    | handed at_k' | refused at_k' | withdrawn at_k' | attached at_k' | late at_k'
    | settled at_k' =>
      cases at_k.symm.trans at_k'

end System
end CaseSorter.Daemon
