import CaseSorter.Daemon.SystemSteps

/-! Which future stands for which operation. An operation is handed over once, after it
has been recorded; a callback is about the operation its future stands for; an item that
was dispatched, and a stop that was accepted, have been recorded running in time. -/

namespace CaseSorter.Daemon

open CaseSorter.Actions CaseSorter.Transactions

namespace Worker

theorem admitted_iff {w v : Worker} {e : WorkerEvent} (h : w.step e = some v) (item : WorkItem) :
    v.Admitted item ↔ w.Admitted item ∨
      ∃ intent onDispatch, e = .submit intent onDispatch ∧ v.nextFuture = w.nextFuture + 1 ∧
        item = w.workItem intent onDispatch := by
  have same : ∀ {P : Prop}, ¬ P → (w.Admitted item ↔ w.Admitted item ∨ P) := fun none =>
    ⟨.inl, fun either => either.resolve_right none⟩
  rcases step_calls h with calls | ⟨i, rfl, moved⟩
  · cases calls with
    | admitted running ready unstopped =>
      rename_i intent onDispatch
      constructor
      · intro was
        rcases List.mem_cons.mp was with new | old
        · exact .inr ⟨intent, onDispatch, rfl, rfl, Entry.admitted.inj new⟩
        · exact .inl old
      · rintro (old | ⟨_, _, asked, -, rfl⟩)
        · exact List.mem_cons_of_mem _ old
        · cases asked
          exact List.mem_cons_self
    | stopJoined running requested =>
      rw [show (_ : Worker).Admitted item ↔ w.Admitted item by simp [Admitted]]
      exact same (by rintro ⟨_, _, ⟨⟩, _⟩)
    | stopAccepted running unstopped =>
      rw [show (_ : Worker).Admitted item ↔ w.Admitted item by simp [Admitted]]
      exact same (by rintro ⟨_, _, ⟨⟩, _⟩)
    | closing live =>
      rw [show (_ : Worker).Admitted item ↔ w.Admitted item by simp [Admitted]]
      exact same (by rintro ⟨_, _, ⟨⟩, _⟩)
    | preemptedFailed found =>
      rw [admitted_settlePending]
      exact same (by rintro ⟨_, _, ⟨⟩, _⟩)
    | refused =>
      apply same
      rintro ⟨_, _, _, next, _⟩
      exact Nat.succ_ne_self _ next.symm
    | _ => exact same (by rintro ⟨_, _, ⟨⟩, _⟩)
  · have none : ¬ ∃ intent onDispatch, WorkerEvent.thread i = .submit intent onDispatch ∧
        v.nextFuture = w.nextFuture + 1 ∧ item = w.workItem intent onDispatch := by
      rintro ⟨_, _, ⟨⟩, _⟩
    rcases threadStep_cases moved with ⟨f, s, rest, todo, rfl⟩ | ⟨todo, c, pc', m, rfl⟩
    · rw [admitted_settlePending]
      exact same none
    · exact (admitted_apply w c item).trans (same none)

theorem stopAccepted_iff {w v : Worker} {e : WorkerEvent} (h : w.step e = some v) (f : FutureId) :
    v.StopAccepted f ↔ w.StopAccepted f ∨
      (e = .stop ∧ v.nextFuture = w.nextFuture + 1 ∧ f = w.nextFuture) := by
  have same : ∀ {P : Prop}, ¬ P → (w.StopAccepted f ↔ w.StopAccepted f ∨ P) := fun none =>
    ⟨.inl, fun either => either.resolve_right none⟩
  rcases step_calls h with calls | ⟨i, rfl, moved⟩
  · cases calls with
    | stopJoined running requested =>
      simp only [StopAccepted, List.mem_cons, Entry.stopAccepted.injEq, true_and]
      exact Or.comm
    | stopAccepted running unstopped =>
      simp only [StopAccepted, List.mem_cons, Entry.stopAccepted.injEq, true_and]
      exact Or.comm
    | admitted running ready unstopped =>
      rw [show (_ : Worker).StopAccepted f ↔ w.StopAccepted f by simp [StopAccepted]]
      exact same fun asked => by cases asked.1
    | closing live =>
      rw [show (_ : Worker).StopAccepted f ↔ w.StopAccepted f by simp [StopAccepted]]
      exact same fun asked => by cases asked.1
    | preemptedFailed found =>
      rw [stopAccepted_settlePending]
      exact same fun asked => by cases asked.1
    | refused => exact same fun asked => Nat.succ_ne_self _ asked.2.1.symm
    | _ => exact same fun asked => by cases asked.1
  · have none : ¬ (WorkerEvent.thread i = .stop ∧ v.nextFuture = w.nextFuture + 1 ∧
        f = w.nextFuture) := fun asked => by cases asked.1
    rcases threadStep_cases moved with ⟨g, s, rest, todo, rfl⟩ | ⟨todo, c, pc', m, rfl⟩
    · rw [stopAccepted_settlePending]
      exact same none
    · exact (stopAccepted_apply w c f).trans (same none)

theorem did_aside {w v : Worker} {e : WorkerEvent} (h : w.step e = some v)
    (aside : ∀ i, e ≠ .thread i) (c : Cmd) : v.Did c ↔ w.Did c := by
  rcases step_cases h with ⟨-, -, rfl⟩ | ⟨i, same, -⟩ | same
  · exact Iff.rfl
  · exact absurd same (aside i)
  · exact same.did c

end Worker

theorem enqueue_error {lane : Lane} {operation : OperationRecord} {w v : Worker} {e : Failure}
    (h : lane.enqueue operation w = (.error e, v)) :
    v = w ∧ ∀ current, (e.classify current).1 = .cancelled := by
  cases lane with
  | normal intent =>
    simp only [Lane.enqueue, Worker.submit] at h
    split_ifs at h <;> obtain ⟨refusal, rfl⟩ := Prod.mk.inj h <;> cases refusal <;>
      exact ⟨rfl, fun current => rfl⟩
  | stop =>
    simp only [Lane.enqueue, Worker.submitPriorityStop] at h
    split_ifs at h <;> obtain ⟨refusal, rfl⟩ := Prod.mk.inj h <;> cases refusal
    exact ⟨rfl, fun current => rfl⟩

theorem enqueue_ok {lane : Lane} {operation : OperationRecord} {w v : Worker} {f : FutureId}
    (h : lane.enqueue operation w = (.ok f, v)) :
    f = w.nextFuture ∧ v.nextFuture = w.nextFuture + 1 := by
  cases lane with
  | normal intent =>
    simp only [Lane.enqueue, Worker.submit] at h
    split_ifs at h <;> obtain ⟨given, rfl⟩ := Prod.mk.inj h <;> cases given
    exact ⟨rfl, rfl⟩
  | stop =>
    simp only [Lane.enqueue, Worker.submitPriorityStop] at h
    split_ifs at h <;> obtain ⟨given, rfl⟩ := Prod.mk.inj h <;> cases given <;>
      exact ⟨rfl, rfl⟩

def Db.Knows (db : Db) (operation : OperationRecord) : Prop :=
  ∃ row, db.readOperation operation.operationId = some row ∧ row.action = operation.action ∧
    row.deadlineAt = operation.deadlineAt

/-- The operation has been recorded running, before its deadline. -/
def Db.Begun (db : Db) (i : OperationId) : Prop :=
  ∃ row r, db.readOperation i = some row ∧ 2 ≤ row.state.rank ∧ r ∈ db.transitions ∧
    r.operationId = i ∧ r.toState = .running ∧ r.occurredAt < row.deadlineAt

section Books

variable {P : Db → JournalWrite → Prop} {db db' : Db}

theorem Commits.knows (h : Commits P db db') {operation : OperationRecord}
    (knows : db.Knows operation) : db'.Knows operation := by
  obtain ⟨row, read, action, deadline⟩ := knows
  obtain ⟨row', read', later⟩ := h.later read
  exact ⟨row', read', later.action.trans action, later.deadlineAt.trans deadline⟩

theorem Commits.begun (h : Commits P db db') {i : OperationId} (begun : db.Begun i) :
    db'.Begun i := by
  obtain ⟨row, r, read, rank, member, named, running, early⟩ := begun
  obtain ⟨row', read', later⟩ := h.later read
  exact ⟨row', r, read', Nat.le_trans rank later.rank_le, h.kept member, named, running,
    later.deadlineAt ▸ early⟩

theorem Commits.operationIds (h : Commits P db db') {i : OperationId}
    (known : i ∈ db.operationIds) :
    i ∈ db'.operationIds := by
  obtain ⟨row, read⟩ := Db.mem_operationIds_iff.mp known
  obtain ⟨row', read', -⟩ := h.later read
  exact Db.mem_operationIds_iff.mpr ⟨row', read'⟩

end Books

def ApiThread.unhanded : ApiThread → Option OperationId
  | .enqueuing _ operation _ | .refused _ operation _ => some operation.operationId
  | _ => none

namespace System

def claimed (s : System) : List OperationId :=
  s.api.filterMap ApiThread.unhanded ++ s.handed.map Prod.fst

def Owns (s : System) (c : Callback) (f : FutureId) : Prop :=
  (c.operationId, f) ∈ s.handed ∧
    match c with
    | .settle _ => ∃ item, s.worker.Admitted item ∧ item.future = f
    | .settleStop _ => s.worker.StopAccepted f

def Supports (s : System) : ApiThread → Prop
  | .admitting _ _ => True
  | .enqueuing _ operation lane => s.domain.db.Knows operation ∧
      (lane = .stop → s.domain.db.Begun operation.operationId)
  | .refused _ _ _ => True
  | .attaching _ operation c f => s.Owns c f ∧ c.operationId = operation.operationId
  | .settling f c r _ => s.Owns c f ∧ s.worker.futures f = .resolved r

structure Bound (first : OperationId) (s : System) : Prop where
  lane : s.worker.StopLane
  current : s.domain.Current first
  supplied : first ≤ s.domain.nextId
  claims : ∀ i ∈ s.claimed, first ≤ i ∧ i ∈ s.domain.db.operationIds
  once : s.claimed.Nodup
  items : ∀ item, s.worker.Admitted item → ∃ operation, item.onDispatch = some operation ∧
    (operation.operationId, item.future) ∈ s.handed ∧ s.domain.db.Knows operation
  given : ∀ i f, (i, f) ∈ s.handed → s.worker.StopAccepted f ∨
    ∃ item operation, s.worker.Admitted item ∧ item.future = f ∧
      item.onDispatch = some operation ∧ operation.operationId = i
  threads : ∀ a ∈ s.api, s.Supports a
  callbacks : ∀ f c, (f, c) ∈ s.callbacks → s.Owns c f
  tasks : ∀ f c r, .callback f c r ∈ s.tasks → s.Owns c f ∧ s.worker.futures f = .resolved r
  dispatched : ∀ item operation, s.worker.Did (.dispatched item) →
    item.onDispatch = some operation → s.domain.db.Begun operation.operationId
  stops : ∀ i f, (i, f) ∈ s.handed → s.worker.StopAccepted f → s.domain.db.Begun i

theorem unhanded_erase {api : List ApiThread} {k : Nat} {a : ApiThread} (at_k : api[k]? = some a) :
    (api.filterMap ApiThread.unhanded).Perm
      (a.unhanded.toList ++ (api.eraseIdx k).filterMap ApiThread.unhanded) := by
  obtain ⟨bound, rfl⟩ := List.getElem?_eq_some_iff.mp at_k
  have split := (List.getElem_cons_eraseIdx_perm bound).symm.filterMap ApiThread.unhanded
  rw [List.filterMap_cons] at split
  cases h : (api[k]).unhanded <;> rw [h] at split <;> exact split

theorem unhanded_set {api : List ApiThread} {k : Nat} {a b : ApiThread} (at_k : api[k]? = some a) :
    ((api.set k b).filterMap ApiThread.unhanded).Perm
      (b.unhanded.toList ++ (api.eraseIdx k).filterMap ApiThread.unhanded) := by
  obtain ⟨bound, -⟩ := List.getElem?_eq_some_iff.mp at_k
  have split := (List.set_perm_cons_eraseIdx bound b).filterMap ApiThread.unhanded
  rw [List.filterMap_cons] at split
  cases h : b.unhanded <;> rw [h] at split <;> exact split

theorem served_db (d : Domain) (e : SystemEvent) : (served d e).db = d.db := by
  cases e <;> rfl

theorem Steps.commits {s t : System} {e : SystemEvent} (steps : Steps s e t) :
    Commits (s.grants e) s.domain.db t.domain.db :=
  served_db s.domain e ▸ steps.advances.commits

theorem Steps.supply {s t : System} {e : SystemEvent} (steps : Steps s e t) :
    s.domain.nextId ≤ t.domain.nextId := by
  have supply := steps.advances.supply
  cases e <;> exact supply

theorem Steps.stays {s t : System} {e : SystemEvent} (steps : Steps s e t) {first : OperationId}
    (current : s.domain.Current first) : t.domain.Current first := by
  refine steps.advances.current first ?_
  cases e <;> exact current

theorem Steps.admitted_kept {s t : System} {e : SystemEvent} (steps : Steps s e t) {item : WorkItem}
    (was : s.worker.Admitted item) : t.worker.Admitted item := by
  rcases steps.worker with same | ⟨we, moved⟩
  · rw [same]
    exact was
  · exact (Worker.admitted_iff moved item).mpr (.inl was)

theorem Steps.stopAccepted {s t : System} {e : SystemEvent} (steps : Steps s e t) {f : FutureId}
    (was : s.worker.StopAccepted f) : t.worker.StopAccepted f := by
  rcases steps.worker with same | ⟨we, moved⟩
  · rw [same]
    exact was
  · exact (Worker.stopAccepted_iff moved f).mpr (.inl was)

theorem Steps.resolved {s t : System} {e : SystemEvent} (steps : Steps s e t)
    (accounted : s.worker.Accounted) {f : FutureId} {r : Settlement}
    (was : s.worker.futures f = .resolved r) : t.worker.futures f = .resolved r := by
  rcases steps.worker with same | ⟨we, moved⟩
  · rw [same]
    exact was
  · rcases Worker.later_step accounted moved f with pending | same | ⟨running, -⟩
    · rw [was] at pending
      cases pending
    · rw [same]
      exact was
    · rw [was] at running
      cases running

theorem Steps.handed_kept {s t : System} {e : SystemEvent} (steps : Steps s e t)
    {p : OperationId × FutureId} (member : p ∈ s.handed) : p ∈ t.handed := by
  cases steps with
  | handed at_k taken => exact List.mem_cons_of_mem _ member
  | _ => exact member

theorem Steps.owns {s t : System} {e : SystemEvent} (steps : Steps s e t) {c : Callback}
    {f : FutureId} (owns : s.Owns c f) : t.Owns c f := by
  obtain ⟨given, kind⟩ := owns
  refine ⟨steps.handed_kept given, ?_⟩
  cases c with
  | settle i =>
    obtain ⟨item, was, same⟩ := kind
    exact ⟨item, steps.admitted_kept was, same⟩
  | settleStop i => exact steps.stopAccepted kind

theorem Steps.supports {s t : System} {e : SystemEvent} (steps : Steps s e t)
    (accounted : s.worker.Accounted) {a : ApiThread} (supports : s.Supports a) : t.Supports a := by
  cases a with
  | admitting caller p => trivial
  | enqueuing caller operation lane =>
    exact ⟨steps.commits.knows supports.1, fun stop => steps.commits.begun (supports.2 stop)⟩
  | refused caller operation e => trivial
  | attaching caller operation c f => exact ⟨steps.owns supports.1, supports.2⟩
  | settling f c r answer => exact ⟨steps.owns supports.1, steps.resolved accounted supports.2⟩

theorem Steps.intake {s t : System} {e : SystemEvent} (steps : Steps s e t) :
    ((∀ item, t.worker.Admitted item → s.worker.Admitted item) ∧
        (∀ f, t.worker.StopAccepted f → s.worker.StopAccepted f) ∧ t.handed = s.handed) ∨
      ∃ k now caller operation lane w, e = .api k now ∧
        s.api[k]? = some (.enqueuing caller operation lane) ∧
        lane.enqueue operation s.worker = (.ok s.worker.nextFuture, w) ∧ t.worker = w ∧
        t.handed = (operation.operationId, s.worker.nextFuture) :: s.handed := by
  have aside : ∀ we, s.worker.step we = some t.worker →
      (∀ intent gate, we ≠ .submit intent gate) → we ≠ .stop →
      (∀ item, t.worker.Admitted item → s.worker.Admitted item) ∧
        ∀ f, t.worker.StopAccepted f → s.worker.StopAccepted f := by
    intro we moved submit stop
    refine ⟨fun item was => ?_, fun f was => ?_⟩
    · exact ((Worker.admitted_iff moved item).mp was).resolve_right
        fun ⟨_, _, same, _⟩ => submit _ _ same
    · exact ((Worker.stopAccepted_iff moved f).mp was).resolve_right fun new => stop new.1
  cases steps with
  | handed at_k taken =>
    rename_i k now caller operation lane f w
    obtain ⟨rfl, -⟩ := enqueue_ok taken
    exact .inr ⟨k, now, caller, operation, lane, w, rfl, at_k, taken, rfl, rfl⟩
  | refused at_k full =>
    obtain ⟨rfl, -⟩ := enqueue_error full
    exact .inl ⟨fun _ => id, fun _ => id, rfl⟩
  | thread done ungated moved =>
    obtain ⟨items, stops⟩ := aside (.thread _) moved (fun _ _ => by simp) (by simp)
    exact .inl ⟨items, stops, rfl⟩
  | dispatched done idle gate asked moved =>
    obtain ⟨items, stops⟩ := aside (.thread _) moved (fun _ _ => by simp) (by simp)
    exact .inl ⟨items, stops, rfl⟩
  | preempted failed =>
    obtain ⟨items, stops⟩ := aside _ failed (fun _ _ => by simp) (by simp)
    exact .inl ⟨items, stops, rfl⟩
  | started =>
    obtain ⟨items, stops⟩ := aside .start rfl (fun _ _ => by simp) (by simp)
    exact .inl ⟨items, stops, rfl⟩
  | timedOut =>
    obtain ⟨items, stops⟩ := aside .startTimeout rfl (fun _ _ => by simp) (by simp)
    exact .inl ⟨items, stops, rfl⟩
  | closed =>
    obtain ⟨items, stops⟩ := aside .close rfl (fun _ _ => by simp) (by simp)
    exact .inl ⟨items, stops, rfl⟩
  | _ => exact .inl ⟨fun _ => id, fun _ => id, rfl⟩

theorem mem_ripe {before after : Worker} {callbacks : List (FutureId × Callback)} {f : FutureId}
    {c : Callback} {r : Settlement} (member : (f, c, r) ∈ ripe before after callbacks) :
    (f, c) ∈ callbacks ∧ after.futures f = .resolved r := by
  obtain ⟨⟨g, c'⟩, attached, found⟩ := List.mem_filterMap.mp member
  dsimp only at found
  split_ifs at found with pending
  obtain ⟨r', settled, same⟩ := Option.map_eq_some_iff.mp found
  cases same
  refine ⟨attached, ?_⟩
  cases state : after.futures f <;> rw [state] at settled <;> cases settled
  rfl

theorem settlement_eq {state : FutureState} {r : Settlement} (h : state.settlement = some r) :
    state = .resolved r := by
  cases state <;> cases h
  rfl

variable {first : OperationId} {s t : System} {e : SystemEvent}

theorem owns_handed {k : Nat} {caller : Caller} {operation : OperationRecord} {lane : Lane}
    {f : FutureId} {w : Worker} (taken : lane.enqueue operation s.worker = (.ok f, w)) :
    ({ s with
      worker := w
      api := s.api.set k (.attaching caller operation (lane.callback operation.operationId) f)
      handed := (operation.operationId, f) :: s.handed } : System).Owns
        (lane.callback operation.operationId) f := by
  obtain ⟨rfl, next⟩ := enqueue_ok taken
  have moved := enqueue_step taken
  cases lane with
  | normal intent =>
    refine ⟨List.mem_cons_self, s.worker.workItem intent (some operation), ?_, rfl⟩
    exact (Worker.admitted_iff moved _).mpr (.inr ⟨intent, some operation, rfl, next, rfl⟩)
  | stop =>
    exact ⟨List.mem_cons_self, (Worker.stopAccepted_iff moved _).mpr
      (.inr ⟨rfl, next, rfl⟩)⟩

theorem Steps.threads (inv : s.Bound first) (steps : Steps s e t) :
    ∀ a ∈ t.api, t.Supports a := by
  have old : ∀ a ∈ s.api, t.Supports a := fun a member =>
    steps.supports inv.lane.accounted (inv.threads a member)
  cases steps with
  | asked passed =>
    intro a member
    rcases List.mem_append.mp member with before | new
    · exact old a before
    · rw [List.mem_singleton.mp new]
      trivial
  | admitted at_k made handed =>
    intro a member
    rcases List.mem_or_eq_of_mem_set member with before | rfl
    · exact old a before
    · obtain ⟨m, -, stop⟩ := Prepared.admitted_made made handed
      refine ⟨⟨_, m.row, rfl, rfl⟩, fun same => ?_⟩
      obtain ⟨running, r, entered, named, state, moment⟩ := stop same
      refine ⟨_, r, m.row, ?_, entered, named, state, moment ▸ m.deadline⟩
      rw [running]
      exact Nat.le_refl 2
  | handed at_k taken =>
    intro a member
    rcases List.mem_or_eq_of_mem_set member with before | rfl
    · exact old a before
    · rename_i lane f w
      exact ⟨owns_handed taken, by cases lane <;> rfl⟩
  | refused at_k full =>
    intro a member
    rcases List.mem_or_eq_of_mem_set member with before | rfl
    · exact old a before
    · trivial
  | late at_k resolved =>
    intro a member
    rcases List.mem_or_eq_of_mem_set member with before | rfl
    · exact old a before
    · exact ⟨(inv.threads _ (List.mem_of_getElem? at_k)).1, settlement_eq resolved⟩
  | preempted failed =>
    intro a member
    rcases List.mem_append.mp member with before | new
    · exact old a before
    · obtain ⟨⟨f, c, r⟩, ripened, rfl⟩ := List.mem_map.mp new
      obtain ⟨attached, resolved⟩ := mem_ripe ripened
      exact ⟨(Steps.preempted failed).owns (inv.callbacks f c attached), resolved⟩
  | applied _ _ _ | replayed _ _ | rejected _ _ | withdrawn _ | attached _ _ | settled _ =>
    exact fun a member => old a (List.mem_of_mem_eraseIdx member)
  | _ => exact old

theorem Steps.attaches (inv : s.Bound first) (steps : Steps s e t) :
    ∀ f c, (f, c) ∈ t.callbacks → t.Owns c f := by
  intro f c member
  have old : (f, c) ∈ s.callbacks → t.Owns c f := fun before =>
    steps.owns (inv.callbacks f c before)
  cases steps with
  | attached at_k pending =>
    rcases List.mem_append.mp member with before | new
    · exact old before
    · cases List.mem_singleton.mp new
      exact (inv.threads _ (List.mem_of_getElem? at_k)).1
  | _ => exact old member

theorem owed_threadStepped {w : Worker} {f : FutureId} {c : Callback} {r : Settlement}
    (member : Task.callback f c r ∈ (s.threadStepped w).tasks) :
    (f, c) ∈ s.callbacks ∧ w.futures f = .resolved r := by
  rcases List.mem_append.mp member with observed | ripened
  · simp only [observations] at observed
    rcases List.mem_append.mp observed with session | profile
    · split_ifs at session
      · cases session
      · cases List.mem_singleton.mp session
    · split at profile
      · split_ifs at profile
        · cases profile
        · cases List.mem_singleton.mp profile
      · cases profile
  · obtain ⟨⟨g, c', r'⟩, ripe, same⟩ := List.mem_map.mp ripened
    cases same
    exact mem_ripe ripe

theorem Steps.owed (inv : s.Bound first) (steps : Steps s e t) :
    ∀ f c r, .callback f c r ∈ t.tasks → t.Owns c f ∧ t.worker.futures f = .resolved r := by
  intro f c r member
  have old : .callback f c r ∈ s.tasks → t.Owns c f ∧ t.worker.futures f = .resolved r :=
    fun before => ⟨steps.owns (inv.tasks f c r before).1,
      steps.resolved inv.lane.accounted (inv.tasks f c r before).2⟩
  have new : (f, c) ∈ s.callbacks → t.Owns c f := fun attached =>
    steps.owns (inv.callbacks f c attached)
  cases steps with
  | task owing =>
    refine old ?_
    rw [owing]
    exact List.mem_cons_of_mem _ member
  | thread done ungated moved =>
    obtain ⟨attached, resolved⟩ := owed_threadStepped member
    exact ⟨new attached, resolved⟩
  | dispatched done idle gate asked moved =>
    obtain ⟨attached, resolved⟩ := owed_threadStepped member
    exact ⟨new attached, resolved⟩
  | _ => exact old member

theorem claims_perm {api : List ApiThread} {handed : List (OperationId × FutureId)} {k : Nat}
    {a : ApiThread} (at_k : api[k]? = some a) :
    (api.filterMap ApiThread.unhanded ++ handed.map Prod.fst).Perm
      (a.unhanded.toList ++ ((api.eraseIdx k).filterMap ApiThread.unhanded ++
        handed.map Prod.fst)) := by
  rw [← List.append_assoc]
  exact (unhanded_erase at_k).append_right _

theorem claims_perm_set {api : List ApiThread} {handed : List (OperationId × FutureId)} {k : Nat}
    {a b : ApiThread} (at_k : api[k]? = some a) :
    ((api.set k b).filterMap ApiThread.unhanded ++ handed.map Prod.fst).Perm
      (b.unhanded.toList ++ ((api.eraseIdx k).filterMap ApiThread.unhanded ++
        handed.map Prod.fst)) := by
  rw [← List.append_assoc]
  exact (unhanded_set at_k).append_right _

theorem Steps.claims (steps : Steps s e t) :
    (∃ dropped, s.claimed.Perm (dropped ++ t.claimed)) ∨
      ∃ i, s.domain.nextId ≤ i ∧ i ∈ t.domain.db.operationIds ∧
      t.claimed.Perm (i :: s.claimed) := by
  have erased : ∀ {k a}, s.api[k]? = some a → ∃ dropped, s.claimed.Perm
      (dropped ++ ((s.api.eraseIdx k).filterMap ApiThread.unhanded ++ s.handed.map Prod.fst)) :=
    fun at_k => ⟨_, claims_perm at_k⟩
  have changed : ∀ {k a b}, s.api[k]? = some a → a.unhanded = b.unhanded → ∃ dropped,
      s.claimed.Perm (dropped ++ ((s.api.set k b).filterMap ApiThread.unhanded ++
        s.handed.map Prod.fst)) := by
    intro k a b at_k same
    refine ⟨[], (claims_perm at_k).trans ?_⟩
    rw [same]
    exact (claims_perm_set at_k).symm
  have extended : ∀ added : List ApiThread, (∀ a ∈ added, a.unhanded = none) → ∃ dropped,
      s.claimed.Perm (dropped ++ ((s.api ++ added).filterMap ApiThread.unhanded ++
        s.handed.map Prod.fst)) := by
    intro added none
    refine ⟨[], ?_⟩
    rw [List.filterMap_append, List.filterMap_eq_nil_iff.mpr none, List.append_nil]
    exact .refl _
  cases steps with
  | asked passed =>
    exact .inl (extended _ fun a member => by rw [List.mem_singleton.mp member]; rfl)
  | preempted failed =>
    refine .inl (extended _ fun a member => ?_)
    obtain ⟨⟨f, c, r⟩, -, rfl⟩ := List.mem_map.mp member
    rfl
  | admitted at_k made handed =>
    rename_i k now caller p record lane d
    obtain ⟨m, -⟩ := Prepared.admitted_made made handed
    refine .inr ⟨record.operationId, m.new, Db.mem_operationIds_iff.mpr ⟨_, m.row⟩, ?_⟩
    exact (claims_perm_set at_k).trans ((claims_perm at_k).symm.cons record.operationId)
  | handed at_k taken =>
    rename_i k now caller operation lane f w
    refine .inl ⟨[], (claims_perm at_k).trans ?_⟩
    -- the operation moves from those to be handed over to those that have been
    refine List.Perm.trans ?_ (claims_perm_set at_k).symm
    exact (@List.perm_middle _ _ ((s.api.eraseIdx k).filterMap ApiThread.unhanded) _).symm
  | refused at_k full => exact .inl (changed at_k rfl)
  | late at_k resolved => exact .inl (changed at_k rfl)
  | applied at_k _ _ => exact .inl (erased at_k)
  | replayed at_k _ => exact .inl (erased at_k)
  | rejected at_k _ => exact .inl (erased at_k)
  | withdrawn at_k => exact .inl (erased at_k)
  | attached at_k _ => exact .inl (erased at_k)
  | settled at_k => exact .inl (erased at_k)
  | _ => exact .inl ⟨[], .refl _⟩

theorem Steps.dispatched_gate (steps : Steps s e t) {item : WorkItem}
    {operation : OperationRecord} (did : t.worker.Did (.dispatched item))
    (gate : item.onDispatch = some operation) :
    s.worker.Did (.dispatched item) ∨
      ∃ now u d, e = .dispatch now ∧ exec (Domain.dispatch operation now)
        s.domain = (.ok u, d) ∧
        t.domain = d ∧ item ∈ s.worker.pc.fetched := by
  have moves : ∀ {i w}, s.worker.threadStep i = some w → w.Did (.dispatched item) →
      s.worker.Did (.dispatched item) ∨ ∃ transport,
        s.worker.todo = [] ∧ s.worker.pc = .gate transport item ∧ i = .gated none := by
    intro i w moved did
    rcases Worker.threadStep_cases moved with ⟨g, r, rest, todo, rfl⟩ |
      ⟨todo, c, pc', m, rfl⟩
    · exact .inl ((Worker.did_settlePending _ _ _ _).mp did)
    · rcases (Worker.did_apply _ c _).mp did with rfl | before
      · generalize at_pc : s.worker.pc = pc at m
        cases m
        exact .inr ⟨_, todo, rfl, rfl⟩
      · exact .inl before
  have aside : ∀ we, s.worker.step we = some t.worker → (∀ i, we ≠ .thread i) →
      s.worker.Did (.dispatched item) := fun we moved other =>
    (Worker.did_aside moved other _).mp did
  cases steps with
  | thread done ungated moved =>
    rcases moves moved did with before | ⟨transport, todo, at_pc, -⟩
    · exact .inl before
    · rcases ungated with owed | none
      · exact absurd todo owed
      · simp [gated, at_pc, gate] at none
  | dispatched done idle gate' asked moved =>
    rename_i now op result d w
    rcases moves moved did with before | ⟨transport, todo, at_pc, passed⟩
    · exact .inl before
    · right
      simp only [gated, at_pc, gate, Option.some.injEq] at gate'
      subst gate'
      cases result with
      | error x => cases passed
      | ok u =>
        refine ⟨now, u, d, rfl, asked, rfl, ?_⟩
        rw [at_pc]
        exact List.mem_singleton_self _
  | handed at_k taken =>
    exact .inl (aside _ (enqueue_step taken) fun i same => by cases ‹Lane› <;> cases same)
  | refused at_k full =>
    obtain ⟨rfl, -⟩ := enqueue_error full
    exact .inl did
  | preempted failed => exact .inl (aside _ failed fun i => by simp)
  | started => exact .inl (aside .start rfl fun i => by simp)
  | timedOut => exact .inl (aside .startTimeout rfl fun i => by simp)
  | closed => exact .inl (aside .close rfl fun i => by simp)
  | _ => exact .inl did

theorem bound_step (inv : s.Bound first) (steps : Steps s e t) : t.Bound first := by
  have known : ∀ {item operation}, s.worker.Admitted item → item.onDispatch = some operation →
      s.domain.db.Knows operation ∧ (operation.operationId, item.future) ∈ s.handed := by
    intro item operation was gate
    obtain ⟨operation', same, given, knows⟩ := inv.items item was
    rw [gate] at same
    cases same
    exact ⟨knows, given⟩
  have commits := steps.commits
  refine ⟨?_, steps.stays inv.current, Nat.le_trans inv.supplied steps.supply, ?_, ?_, ?_, ?_,
    steps.threads inv, steps.attaches inv, steps.owed inv, ?_, ?_⟩
  · rcases steps.worker with same | ⟨we, moved⟩
    · rw [same]
      exact inv.lane
    · exact Worker.stopLane_step inv.lane moved
  · intro i member
    rcases steps.claims with ⟨dropped, perm⟩ | ⟨new, fresh, entered, perm⟩
    · obtain ⟨mine, row⟩ := inv.claims i (perm.mem_iff.mpr (List.mem_append_right _ member))
      exact ⟨mine, commits.operationIds row⟩
    · rcases List.mem_cons.mp (perm.mem_iff.mp member) with rfl | old
      · exact ⟨Nat.le_trans inv.supplied fresh, entered⟩
      · exact ⟨(inv.claims i old).1, commits.operationIds (inv.claims i old).2⟩
  · rcases steps.claims with ⟨dropped, perm⟩ | ⟨new, fresh, -, perm⟩
    · exact (List.nodup_append.mp (perm.nodup_iff.mp inv.once)).2.1
    · refine perm.nodup_iff.mpr (List.nodup_cons.mpr ⟨fun member => ?_, inv.once⟩)
      obtain ⟨row, at', named⟩ := List.mem_map.mp (inv.claims new member).2
      have supplied := (inv.current row at').1
      rw [named] at supplied
      exact absurd (Nat.lt_of_lt_of_le supplied fresh) (Nat.lt_irrefl _)
  · intro item was
    rcases steps.intake with ⟨items, -, -⟩ |
      ⟨k, now, caller, operation, lane, w, -, at_k, taken, rfl, same⟩
    · obtain ⟨operation, gate, given, knows⟩ := inv.items item (items item was)
      exact ⟨operation, gate, steps.handed_kept given, commits.knows knows⟩
    · rcases (Worker.admitted_iff (enqueue_step taken) item).mp was with old |
        ⟨intent, gate, asked, -, rfl⟩
      · obtain ⟨operation, gate, given, knows⟩ := inv.items item old
        exact ⟨operation, gate, steps.handed_kept given, commits.knows knows⟩
      · cases lane with
        | stop => cases asked
        | normal intent =>
          cases asked
          refine ⟨operation, rfl, ?_, commits.knows
            (inv.threads _ (List.mem_of_getElem? at_k)).1⟩
          rw [same]
          exact List.mem_cons_self
  · intro i f member
    have old : (i, f) ∈ s.handed → t.worker.StopAccepted f ∨ ∃ item operation,
        t.worker.Admitted item ∧ item.future = f ∧ item.onDispatch = some operation ∧
          operation.operationId = i := fun before =>
      (inv.given i f before).imp steps.stopAccepted fun ⟨item, operation, was, rest⟩ =>
        ⟨item, operation, steps.admitted_kept was, rest⟩
    rcases steps.intake with ⟨-, -, same⟩ |
      ⟨k, now, caller, operation, lane, w, -, at_k, taken, rfl, same⟩
    · rw [same] at member
      exact old member
    · rw [same] at member
      rcases List.mem_cons.mp member with new | before
      · cases new
        obtain ⟨-, next⟩ := enqueue_ok taken
        have moved := enqueue_step taken
        cases lane with
        | stop => exact .inl ((Worker.stopAccepted_iff moved _).mpr (.inr ⟨rfl, next, rfl⟩))
        | normal intent =>
          refine .inr ⟨s.worker.workItem intent (some operation), operation, ?_, rfl, rfl, rfl⟩
          exact (Worker.admitted_iff moved _).mpr
            (.inr ⟨intent, some operation, rfl, next, rfl⟩)
      · exact old before
  · intro item operation did gate
    rcases steps.dispatched_gate did gate with before | ⟨now, u, d, -, passed, rfl, fetched⟩
    · exact commits.begun (inv.dispatched item operation before gate)
    · obtain ⟨early, ⟨row, read, running⟩, r, entered, named, state, moment⟩ :=
        Domain.dispatch_eq_ok passed
      have admitted := Worker.admitted_of_fetched inv.lane.items fetched
      obtain ⟨row', read', -, deadline⟩ := commits.knows (known admitted gate).1
      obtain rfl := Option.some.inj (read'.symm.trans read)
      refine ⟨row', r, read', ?_, entered, named, state, ?_⟩
      · rw [running]
        exact Nat.le_refl 2
      · rw [moment, deadline]
        exact early
  · intro i f member stopped
    rcases steps.intake with ⟨-, stops, same⟩ |
      ⟨k, now, caller, operation, lane, w, -, at_k, taken, rfl, same⟩
    · rw [same] at member
      exact commits.begun (inv.stops i f member (stops f stopped))
    · rw [same] at member
      have next : ∀ {g}, g = s.worker.nextFuture → s.worker.StopAccepted g →
        False := fun is was =>
        Nat.lt_irrefl _ (is ▸ inv.lane.bound _ was)
      rcases List.mem_cons.mp member with new | before
      · cases new
        rcases (Worker.stopAccepted_iff (enqueue_step taken) _).mp stopped with old | ⟨asked, -⟩
        · exact (next rfl old).elim
        · cases lane with
          | normal intent => cases asked
          | stop => exact commits.begun ((inv.threads _ (List.mem_of_getElem? at_k)).2 rfl)
      · rcases (Worker.stopAccepted_iff (enqueue_step taken) f).mp stopped with old |
          ⟨-, -, rfl⟩
        · exact commits.begun (inv.stops i f before old)
        · rcases inv.given i _ before with was | ⟨item, -, was, same, -⟩
          · exact (next rfl was).elim
          · exact absurd (inv.lane.items.bound item was) (by rw [same]; exact Nat.lt_irrefl _)

theorem bound_new (policy : Policy) {db : Db} {nextId : Nat} (now : Nat)
    (appliedHistory : List ConfigurationValues) (capacity attempts : Nat) (pos : 0 < capacity)
    (supplied : ∀ i ∈ db.operationIds, i < nextId) :
    (System.new policy db nextId now appliedHistory capacity attempts pos).Bound nextId := by
  refine ⟨Worker.stopLane_new capacity attempts pos, fun row member => ?_, Nat.le_refl _,
    fun i member => ?_, List.nodup_nil, fun item was => ?_, fun i f member => ?_,
    fun a member => ?_, fun f c member => ?_, fun f c r member => ?_, fun item operation did => ?_,
    fun i f member => ?_⟩
  · have less := supplied row.operationId (List.mem_map.mpr ⟨row, member, rfl⟩)
    exact ⟨less, fun mine => absurd less (Nat.not_lt.mpr mine)⟩
  all_goals exact absurd ‹_ ∈ _› List.not_mem_nil

end System
end CaseSorter.Daemon
