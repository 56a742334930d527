import CaseSorter.Daemon.Settlements

/-! One active operation. The gate records an operation running on the worker's thread; its
end is recorded by a callback, which another thread may still have to attach or to run when
the worker passes its next gate. Where it passes each gate with the ends of all that it has
finished recorded, one operation of the serial lane is recorded running at most. -/

namespace CaseSorter.Daemon

open CaseSorter.Actions CaseSorter.Transactions CaseSorter.Runs

def OperationAction.serial : OperationAction → Bool
  | .home | .sort | .connect | .recover => true
  | _ => false

namespace Db

/-- An operation of the serial lane is recorded running. -/
def Active (db : Db) (i : OperationId) : Prop :=
  ∃ row, db.readOperation i = some row ∧ row.action.serial = true ∧ row.state = .running

instance (db : Db) (i : OperationId) : Decidable (db.Active i) :=
  decidable_of_iff ((db.readOperation i).any fun row =>
      row.action.serial && decide (row.state = .running)) (by
    rw [Option.any_eq_true]
    simp only [Active, Bool.and_eq_true, decide_eq_true_eq])

variable {P : Db → JournalWrite → Prop} {db db' : Db} {i : OperationId}

theorem active_of_rows (same : db'.operations = db.operations) (active : db'.Active i) :
    db.Active i := by
  obtain ⟨row, found, rest⟩ := active
  exact ⟨row, by rw [Db.readOperation, ← same]; exact found, rest⟩

theorem active_changes {w : JournalWrite} (changed : w.Changes db db') (active : db'.Active i) :
    db.Active i ∨ ∃ t row, w = .transition t ∧ t.operationId = i ∧ t.toState = .running ∧
      db.readOperation i = some row ∧ row.action.serial = true := by
  cases w with
  | admission operation reason key =>
    obtain ⟨fresh, inserted, -⟩ := changes_admission changed
    obtain ⟨script, -, ok, -⟩ := changed
    have queued := admissionScript_queued ok
    obtain ⟨row, found, serial, runs⟩ := active
    cases old : db.readOperation i with
    | some row' =>
      cases (readOperation_insert inserted old).symm.trans found
      exact .inl ⟨row, old, serial, runs⟩
    | none =>
      rw [Db.readOperation, inserted, List.find?_append,
        show db.operations.find? _ = none from old, Option.none_or, List.find?_singleton] at found
      split_ifs at found
      cases found
      rw [queued] at runs
      cases runs
  | transition t =>
    obtain ⟨current, forward, trusted, read, -, replaced, -⟩ := changes_transition changed
    obtain ⟨row, found, serial, runs⟩ := active
    rw [readOperation_replace replaced] at found
    obtain ⟨before, was, moved⟩ := Option.map_eq_some_iff.mp found
    have named := Db.readOperation_operationId was
    split_ifs at moved with own
    · have current_id : current.operationId = t.operationId := Db.readOperation_operationId read
      have same : t.operationId = i := current_id.symm.trans (own.symm.trans named)
      subst same
      cases read.symm.trans was
      subst moved
      exact .inr ⟨t, current, rfl, rfl, runs, read, serial⟩
    · subst moved
      exact .inl ⟨before, was, serial, runs⟩
  | configuration snapshot => exact .inl (active_of_rows (changes_configuration changed).1 active)
  | prune moment => exact .inl (active_of_rows (changes_prune changed).1 active)

theorem active_commits (commits : Commits P db db')
    (idle : ∀ mid t, P mid (.transition t) → t.operationId = i → t.toState ≠ .running)
    (active : db'.Active i) : db.Active i := by
  induction commits with
  | refl => exact active
  | tail _ last ih =>
    obtain ⟨w, allowed, changed⟩ := last
    rcases active_changes changed active with before | ⟨t, -, rfl, own, runs, -⟩
    · exact ih before
    · exact absurd runs (idle _ t allowed own)

theorem active_admits {first : OperationId} {caller : Caller} {p : Prepared}
    (commits : Commits (Admits first caller p) db db')
    (supplied : ∀ i ∈ db.operationIds, i < first) (active : db'.Active i) : db.Active i := by
  have kept : (∀ i, db'.Active i → db.Active i) ∧
      ∀ i row, db'.readOperation i = some row → first ≤ i → row.action = p.action := by
    clear active
    induction commits with
    | refl =>
      refine ⟨fun i active => active, fun i row found new => ?_⟩
      exact absurd (supplied i (Db.mem_operationIds_iff.mpr ⟨row, found⟩)) (Nat.not_lt.mpr new)
    | @tail mid last' before last ih =>
      obtain ⟨w, allowed, changed⟩ := last
      obtain ⟨same, own⟩ := ih
      refine ⟨fun i active => ?_, fun i row found new => ?_⟩
      · rcases active_changes changed active with was | ⟨t, row, rfl, rfl, runs, found, serial⟩
        · exact same i was
        · cases allowed with
          | accepted _ state => cases state.symm.trans runs
          | applied _ state => cases state.symm.trans runs
          | running new state direct =>
            rw [own _ row found new] at serial
            cases p with
            | submit action intent window expected => exact absurd rfl (direct intent)
            | session action window expected => exact absurd rfl (direct (.session action))
            | stop window expected => cases serial
            | configure changes candidate window expected => cases serial
      · cases old : mid.readOperation i with
        | some row' =>
          obtain ⟨later', found', later⟩ := changed.later old
          cases found.symm.trans found'
          exact later.action.trans (own i row' old new)
        | none =>
          -- a row that was not there before is the one that is admitted
          have fresh : i ∉ mid.operationIds := fun member => by
            obtain ⟨row', found'⟩ := Db.mem_operationIds_iff.mp member
            cases old.symm.trans found'
          cases w with
          | admission operation reason key =>
            obtain ⟨-, inserted, -⟩ := changes_admission changed
            rw [Db.readOperation, inserted, List.find?_append,
              show mid.operations.find? _ = none from old, Option.none_or,
              List.find?_singleton] at found
            split_ifs at found
            cases found
            cases allowed with
            | admission _ action => exact action
          | transition t =>
            obtain ⟨current, forward, trusted, read, allowed', replaced, -⟩ :=
              changes_transition changed
            rw [readOperation_replace replaced, old] at found
            cases found
          | configuration snapshot =>
            rw [Db.readOperation, (changes_configuration changed).1] at found
            exact absurd (Db.mem_operationIds_iff.mpr ⟨row, found⟩) fresh
          | prune moment =>
            rw [Db.readOperation, (changes_prune changed).1] at found
            exact absurd (Db.mem_operationIds_iff.mpr ⟨row, found⟩) fresh
  exact kept.1 i active

theorem active_dispatches {operation : OperationRecord} {now : Nat}
    (commits : Commits (Dispatches operation now) db db') (active : db'.Active i) :
    db.Active i ∨ i = operation.operationId := by
  by_cases own : i = operation.operationId
  · exact .inr own
  · refine .inl (active_commits commits (fun mid t allowed named => ?_) active)
    exact absurd (named.symm.trans allowed.1) own

end Db

theorem Failure.classify_ends (e : Failure) (current : OperationState) :
    (e.classify current).1 ≠ .running := by
  have ends := (@unresolved_ends current _ (classify_unresolved e current)).1
  intro running
  rw [running] at ends
  cases ends

theorem Domain.resolution_ends {e : Failure} {row : OperationRecord} {move : Move}
    (chosen : Domain.resolution e row = some move) : move.toState ≠ .running := by
  unfold Domain.resolution at chosen
  split_ifs at chosen
  cases chosen
  exact e.classify_ends row.state

theorem Domain.completion_ends {result : WorkerResult} {row : OperationRecord} {move : Move}
    (chosen : Domain.completion result row = some move) : move.toState ≠ .running := by
  cases result <;> simp only [Domain.completion] at chosen <;> split_ifs at chosen <;>
    cases chosen <;> exact fun running => by cases running

theorem Callback.choose_ends (c : Callback) {r : Settlement} {row : OperationRecord} {move : Move}
    (chosen : c.choose r row = some move) : move.toState ≠ .running := by
  match c, r with
  | .settle i, .error e => exact Domain.resolution_ends chosen
  | .settle i, .ok (some result) => exact Domain.completion_ends chosen
  | .settle i, .ok none => exact @Domain.completion_ends (.other "NoneType") _ _ chosen
  | .settleStop i, .error e => exact Domain.resolution_ends chosen
  | .settleStop i, .ok x =>
    cases chosen
    exact fun running => by cases running

namespace System

variable {s t : System} {e : SystemEvent} {first i : OperationId}

theorem Steps.active (bound : s.Bound first) (steps : Steps s e t)
    (aside : ∀ now, e ≠ .dispatch now) (active : t.domain.db.Active i) :
      s.domain.db.Active i := by
  have commits := steps.commits
  have still (write : s.grants e = Domain.NoWrite) : s.domain.db.Active i := by
    rw [write] at commits
    exact Db.active_commits commits (fun _ _ allowed => allowed.elim) active
  have settled (j : OperationId) (choose : OperationRecord → Option Move) (now : Nat)
      (ends : ∀ row move, choose row = some move → move.toState ≠ .running)
      (write : s.grants e = Settles j choose now) : s.domain.db.Active i := by
    rw [write] at commits
    refine Db.active_commits commits (fun mid w allowed _ => ?_) active
    obtain ⟨-, -, row, -, chosen⟩ := allowed
    exact ends row w.toMove chosen
  cases e with
  | api k now =>
    cases at_k : s.api[k]? with
    | none => exact still (by simp only [grants, at_k])
    | some a =>
      cases a with
      | admitting caller p =>
        simp only [grants, at_k] at commits
        refine Db.active_admits commits (fun j known => ?_) active
        obtain ⟨row, member, rfl⟩ := List.mem_map.mp known
        exact (bound.current row member).1
      | refused caller operation e =>
        exact settled operation.operationId (Domain.resolution e) now
          (fun _ _ chosen => Domain.resolution_ends chosen)
          (by simp only [grants, at_k])
      | settling f c r answer =>
        exact settled c.operationId (c.choose r) now (fun _ _ chosen => c.choose_ends chosen)
          (by simp only [grants, at_k])
      | enqueuing caller operation lane => exact still (by simp only [grants, at_k])
      | attaching caller operation c f => exact still (by simp only [grants, at_k])
  | task now =>
    cases owed : s.tasks with
    | nil => exact still (by simp only [grants, owed])
    | cons task rest =>
      cases task with
      | callback f c r =>
        exact settled c.operationId (c.choose r) now (fun _ _ chosen => c.choose_ends chosen)
          (by simp only [grants, owed])
      | observeConnection session => exact still (by simp only [grants, owed])
      | observeProfile profile => exact still (by simp only [grants, owed])
  | dispatch now => exact absurd rfl (aside now)
  | prune now => exact Db.active_commits commits (fun _ _ allowed => by cases allowed) active
  | _ => exact still rfl

/-- When the worker passes a gate, the end of every operation it has finished is recorded. -/
def Prompt (s : System) : SystemEvent → Prop
  | .dispatch _ => ∀ p ∈ s.handed, (s.worker.futures p.2).settlement ≠ none →
      ¬ s.domain.db.Active p.1
  | _ => True

instance (s : System) : DecidablePred s.Prompt
  | .dispatch _ => inferInstanceAs (Decidable (∀ p ∈ s.handed, _ → _))
  | .call _ _ | .api _ _ | .task _ | .thread _ | .failPreempted _ | .start | .startTimeout | .close
  | .refresh _ _ | .prune _ | .storage _ => .isTrue trivial

/-- Every active operation is one that the worker has begun, and there is one at most. -/
structure Single (first : OperationId) (s : System) : Prop where
  bound : s.Bound first
  begun : ∀ i, s.domain.db.Active i → ∃ f, (i, f) ∈ s.handed ∧
    (s.worker.futures f = .running ∨ ∃ r, s.worker.futures f = .resolved r)
  one : ∀ i j, s.domain.db.Active i → s.domain.db.Active j → i = j

theorem Steps.stays_begun (accounted : s.worker.Accounted) (steps : Steps s e t)
    (begun : ∃ f, (i, f) ∈ s.handed ∧
      (s.worker.futures f = .running ∨ ∃ r, s.worker.futures f = .resolved r)) :
    ∃ f, (i, f) ∈ t.handed ∧
      (t.worker.futures f = .running ∨ ∃ r, t.worker.futures f = .resolved r) := by
  obtain ⟨f, given, state⟩ := begun
  refine ⟨f, steps.handed_kept given, ?_⟩
  rcases steps.worker with same | ⟨we, moved⟩
  · rw [same]
    exact state
  · rcases Worker.later_step accounted moved f with pending | same | ⟨-, r, resolved⟩
    · rw [pending] at state
      rcases state with running | ⟨r, resolved⟩
      · cases running
      · cases resolved
    · rw [same]
      exact state
    · exact .inr ⟨r, resolved⟩

theorem running_gate (accounted : s.worker.Accounted) {transport : TransportId} {item : WorkItem}
    (at_pc : s.worker.pc = .gate transport item) {f : FutureId}
    (running : s.worker.futures f = .running) : f = item.future := by
  have account := accounted.account
  have known : f < s.worker.nextFuture := by
    by_contra unborn
    have pending := account.unborn f (Nat.le_of_not_lt unborn)
    rw [running] at pending
    cases pending
  have held : f ∈ s.worker.idle ++ s.worker.pc.runs := by
    by_contra out
    have closed := account.rest f known out
    rw [running] at closed
    cases closed
  rcases List.mem_append.mp held with waits | runs
  · rcases account.waiting f waits with pending | cancelled
    · rw [running] at pending
      cases pending
    · rw [running] at cancelled
      cases cancelled
  · rw [at_pc] at runs
    exact List.mem_singleton.mp runs

theorem single_step (inv : s.Single first) (prompt : s.Prompt e) (steps : Steps s e t) :
    t.Single first := by
  have bound := bound_step inv.bound steps
  have accounted := inv.bound.lane.accounted
  by_cases gate : ∃ now, e = .dispatch now
  · obtain ⟨now, rfl⟩ := gate
    cases steps with
    | dispatched done idle gate asked moved =>
      rename_i operation result d w
      have steps : Steps s (.dispatch now) { s.threadStepped w with domain := d } :=
        .dispatched done idle gate asked moved
      obtain ⟨transport, item, at_pc, own⟩ : ∃ transport item,
          s.worker.pc = .gate transport item ∧ item.onDispatch = some operation := by
        unfold gated at gate
        split at gate
        · exact ⟨_, _, ‹_›, gate⟩
        · cases gate
      have admitted : s.worker.Admitted item := by
        refine Worker.admitted_of_fetched inv.bound.lane.items ?_
        rw [at_pc]
        exact List.mem_singleton_self item
      have given : (operation.operationId, item.future) ∈ s.handed := by
        obtain ⟨operation', own', given, -⟩ := inv.bound.items item admitted
        cases own.symm.trans own'
        exact given
      have running : s.worker.futures item.future = .running :=
        accounted.account.running _ (by rw [at_pc]; exact List.mem_singleton_self _)
      -- what was active before is the operation of the gate itself
      have before (i : OperationId) (active : s.domain.db.Active i) :
          i = operation.operationId := by
        obtain ⟨f, handed, state⟩ := inv.begun i active
        rcases state with runs | ⟨r, resolved⟩
        · obtain rfl := running_gate accounted at_pc runs
          rcases inv.bound.given i _ handed with stopped |
            ⟨item', operation', was, same, own', named⟩
          · exact absurd stopped (inv.bound.lane.kinds item admitted)
          · obtain rfl := inv.bound.lane.items.unique item' item was admitted same
            cases own.symm.trans own'
            exact named.symm
        · refine absurd active (prompt (i, f) handed ?_)
          rw [resolved]
          exact Option.some_ne_none r
      have commits := steps.commits
      simp only [grants, gate] at commits
      have after (i : OperationId) (active : d.db.Active i) : i = operation.operationId :=
        (Db.active_dispatches commits active).elim (before i) id
      refine ⟨bound, fun i active => ?_, fun i j left right => ?_⟩
      · rw [after i active]
        exact steps.stays_begun accounted ⟨item.future, given, .inl running⟩
      · rw [after i left, after j right]
  · have aside : ∀ now, e ≠ .dispatch now := fun now same => gate ⟨now, same⟩
    have before (i : OperationId) (active : t.domain.db.Active i) : s.domain.db.Active i :=
      steps.active inv.bound aside active
    exact ⟨bound, fun i active => steps.stays_begun accounted (inv.begun i (before i active)),
      fun i j left right => inv.one i j (before i left) (before j right)⟩

/-- In every run from a journal with no active operation that passes each gate with the end of
every finished operation recorded, one operation of the serial lane is recorded running at
most, whatever the engine fails. -/
theorem one_active (policy : Policy) (db : Db) (nextId started : Nat)
    (appliedHistory : List ConfigurationValues) (capacity attempts : Nat) (pos : 0 < capacity)
    (es : List SystemEvent) (s : System) (supplied : ∀ i ∈ db.operationIds, i < nextId)
    (idle : ∀ i, ¬ db.Active i)
    (prompt : Meets step Prompt
      (System.new policy db nextId started appliedHistory capacity attempts pos) es)
    (reached : run step (System.new policy db nextId started appliedHistory capacity attempts pos)
      es = some s)
    (i j : OperationId) (left : s.domain.db.Active i) (right : s.domain.db.Active j) : i = j := by
  have start : Single nextId
      (System.new policy db nextId started appliedHistory capacity attempts pos) :=
    ⟨bound_new policy started appliedHistory capacity attempts pos supplied,
      fun i active => absurd active (idle i), fun i _ active => absurd active (idle i)⟩
  have single := run_invariant (fun _ _ _ inv ok next => single_step inv ok (step_steps next)) start
    prompt reached
  exact single.one i j left right

/-- The first of two queued homes is done when the second comes to its gate. `attached` is what
their callers do before the first is taken, `owed` what follows its end on the worker's
thread. -/
def twoHomes (attached owed : List SystemEvent) : List SystemEvent :=
  broughtUp ++
    [.call (.submit .home [("axis", .text "feeder")] 6) homeCaller, .api 0 1, .api 0 1,
      .call (.submit .home [("axis", .text "feeder")] 7) { homeCaller with idempotencyKey := "l" },
      .api 1 1, .api 1 1] ++
    attached ++
    [.thread .go, .thread .go, .dispatch 2, .thread (.written 1), .thread .go,
      .thread (.response (.ofHost (doneWith "state"))), .thread .go, .thread .go] ++
    owed ++ [.thread (.profile idleProfile), .thread .go, .thread .go, .dispatch 3]

/-- Both callers have attached their callbacks, and the first has run: the second is the only
one recorded running. -/
theorem one_active_attached :
    (runD step emptyDaemon (twoHomes [.api 0 1, .api 0 1] [.task 2])).domain.db.Active 1 ∧
      ¬ (runD step emptyDaemon (twoHomes [.api 0 1, .api 0 1] [.task 2])).domain.db.Active 0 := by
  have second : (runD step emptyDaemon
      (twoHomes [.api 0 1, .api 0 1] [.task 2])).domain.db.Active 1 := by
    decide +kernel
  refine ⟨second, fun first => ?_⟩
  have same :=
    one_active {} .empty 0 0 [] 16 1 (by decide) (twoHomes [.api 0 1, .api 0 1] [.task 2])
    _ (fun i member => absurd member List.not_mem_nil)
    (fun i active => by obtain ⟨row, found, -⟩ := active; cases found)
    (by decide +kernel) (run_eq_runD (by decide +kernel)) 0 1 first second
  cases same

/-- The caller of the first has still to attach its callback: both are recorded running, and no
statement has failed. -/
theorem one_active_unattached :
    (run step emptyDaemon (twoHomes [] [])).isSome = true ∧
      (∀ e ∈ twoHomes [] [], Served e) ∧
      (runD step emptyDaemon (twoHomes [] [])).domain.db.Active 0 ∧
      (runD step emptyDaemon (twoHomes [] [])).domain.db.Active 1 := by
  refine ⟨?_, ?_, ?_, ?_⟩
  · decide +kernel
  · decide +kernel
  · decide +kernel
  · decide +kernel

end System
end CaseSorter.Daemon
