import CaseSorter.Daemon.WorkerFutures

/-! The items the worker has taken in. Each has a future of its own, shared with no stop,
and that future is resolved with a result only after the item has passed its gate. -/

namespace CaseSorter.Daemon

namespace Pc

def fetched : Pc → List WorkItem
  | .take _ item | .gate _ item => [item]
  | .perform _ next | .closeTransport _ next => next.fetched
  | _ => []

def executes : Pc → List WorkItem
  | .perform (.settle item (.ok _)) next => item :: next.executes
  | .perform _ next | .closeTransport _ next => next.executes
  | .openTransport p | .handshake p _ | .activate p _ => p.item.toList
  | .status _ _ item | .send _ item | .polling _ item _ _ | .reading _ item _ _
  | .finished _ item _ => [item]
  | _ => []

def Carries (pc : Pc) (items : List WorkItem) : Prop := pc.fetched = [] ∧ pc.executes = items

theorem carries_attempt (left : Nat) (fault : Fault) : (attempt left fault).Carries [] := by
  cases left <;> exact ⟨rfl, rfl⟩

theorem carries_connectFailed (fault : Fault) (p : Purpose) :
    (connectFailed fault p).Carries [] := by
  cases p with
  | reconnect left first => exact carries_attempt left first
  | _ => exact ⟨rfl, rfl⟩

theorem carries_unverified (t : TransportId) (p : Purpose) : (unverified t p).Carries [] := by
  cases p <;> exact ⟨rfl, rfl⟩

theorem carries_verified (t : TransportId) (p : Purpose) :
    (verified t p).Carries p.item.toList := by
  cases p <;> exact ⟨rfl, rfl⟩

theorem carries_await (t : TransportId) (item : WorkItem) (id : Nat)
    (responses : List Response) : (await t item id responses).Carries [item] := by
  unfold await
  split_ifs <;> exact ⟨rfl, rfl⟩

theorem carries_received (t : TransportId) (item : WorkItem) (id : Nat)
    (responses : List Response) (r : Response) :
    (Worker.received t item id responses r).Carries [item] := by
  unfold Worker.received
  by_cases terminal : r.terminal = true
  · rw [if_pos terminal]
    exact ⟨rfl, rfl⟩
  · rw [if_neg terminal]
    exact carries_await t item id _

theorem carries_begin (t : TransportId) (item : WorkItem) (w : Worker) :
    (w.begin t item).Carries [item] := by
  unfold Worker.begin
  split
  · split_ifs <;> exact ⟨rfl, rfl⟩
  all_goals exact ⟨rfl, rfl⟩

theorem carries_afterFault (t : TransportId) (fault : Fault) : (afterFault t fault).Carries [] := by
  unfold afterFault
  split_ifs <;> exact ⟨rfl, rfl⟩

theorem carries_afterResult (t : TransportId) (item : WorkItem) :
    (afterResult t item).Carries [] := by
  unfold afterResult
  split_ifs <;> exact ⟨rfl, rfl⟩

theorem carries_stopFailed (t : TransportId) (fault : Fault) (cause : StopCause) :
    (stopFailed t fault cause).Carries [] := by
  cases cause <;> exact ⟨rfl, rfl⟩

theorem carries_stopAcknowledged (t : TransportId) (cause : StopCause) :
    (stopAcknowledged t cause).Carries [] := by
  cases cause <;> exact ⟨rfl, rfl⟩

end Pc

namespace Worker

/-- The thread comes to hold an item from its queue, and to execute one from its gate. -/
structure HoldsFrom (w : Worker) (c : Cmd) (pc pc' : Pc) : Prop where
  fetched : ∀ item ∈ pc'.fetched, item ∈ pc.fetched ∨ item ∈ w.normal
  executes : ∀ item ∈ pc'.executes,
    item ∈ pc.executes ∨ (c = .dispatched item ∧ item ∈ pc.fetched)

theorem holdsFrom_carries {w : Worker} {c : Cmd} {pc pc' : Pc} {items : List WorkItem}
    (carries : pc'.Carries items) (held : ∀ item ∈ items, item ∈ pc.executes) :
    HoldsFrom w c pc pc' := by
  obtain ⟨fetched, executes⟩ := carries
  refine ⟨fun item member => ?_, fun item member => .inl (held item ?_)⟩
  · rw [fetched] at member
    cases member
  · rwa [executes] at member

theorem Moves.holdsFrom {w : Worker} {pc pc' : Pc} {i : Input} {c : Cmd}
    (m : Moves w pc i c pc') : HoldsFrom w c pc pc' := by
  have none : ∀ {pc : Pc} (item : WorkItem), item ∈ ([] : List WorkItem) →
    item ∈ pc.executes :=
    fun item member => by cases member
  have own : ∀ {pc : Pc} {items : List WorkItem}, pc.executes = items → ∀ item ∈ items,
      item ∈ pc.executes := fun same item member => same ▸ member
  cases m
  case perform o =>
    refine ⟨fun item member => .inl member, fun item member => .inl ?_⟩
    cases o with
    | settle other s =>
      cases s with
      | ok r => exact List.mem_cons_of_mem _ member
      | error e => exact member
    | _ => exact member
  case closed => exact ⟨fun item member => .inl member, fun item member => .inl member⟩
  case itemNext queue =>
    refine ⟨fun item member => .inr ?_, fun item member => by cases member⟩
    rw [queue, List.mem_singleton.mp member]
    exact List.mem_cons_self
  case taken => exact ⟨fun item member => .inl member, fun item member => by cases member⟩
  case dispatched t item =>
    obtain ⟨fetched, executes⟩ := Pc.carries_begin t item w
    refine ⟨fun other member => ?_, fun other member => .inr ?_⟩
    · rw [fetched] at member
      cases member
    · rw [executes, List.mem_singleton] at member
      rw [member]
      exact ⟨rfl, List.mem_singleton_self item⟩
  case openedClosing => exact holdsFrom_carries (Pc.carries_unverified _ _) none
  case openFailed => exact holdsFrom_carries (Pc.carries_connectFailed _ _) none
  case handshakeFailed => exact holdsFrom_carries (Pc.carries_connectFailed _ _) none
  case activateFailed => exact holdsFrom_carries (Pc.carries_connectFailed _ _) none
  case activated => exact holdsFrom_carries (Pc.carries_verified _ _) (own rfl)
  case reactivateFailed => exact holdsFrom_carries (Pc.carries_attempt _ _) none
  case reconnect => exact holdsFrom_carries (Pc.carries_attempt _ _) none
  case sent => exact holdsFrom_carries (Pc.carries_await _ _ _ _) (own rfl)
  case readNothing => exact holdsFrom_carries (Pc.carries_await _ _ _ _) (own rfl)
  case readResponse => exact holdsFrom_carries (Pc.carries_received _ _ _ _ _) (own rfl)
  case faulted => exact holdsFrom_carries (Pc.carries_afterFault _ _) none
  case finished =>
    obtain ⟨fetched, executes⟩ := Pc.carries_afterResult _ _
    exact holdsFrom_carries ⟨fetched, congrArg (List.cons _) executes⟩ (own rfl)
  case refreshFailed => exact holdsFrom_carries (Pc.carries_afterFault _ _) none
  case stopUnsent => exact holdsFrom_carries (Pc.carries_stopFailed _ _ _) none
  case stopUnanswered => exact holdsFrom_carries (Pc.carries_stopFailed _ _ _) none
  case stopAcknowledged => exact holdsFrom_carries (Pc.carries_stopAcknowledged _ _) none
  all_goals first
    | exact holdsFrom_carries ⟨rfl, rfl⟩ none
    | exact holdsFrom_carries ⟨rfl, rfl⟩ (own rfl)

/-- The worker has admitted this item. -/
def Admitted (w : Worker) (item : WorkItem) : Prop := .admitted item ∈ w.log

instance (w : Worker) (item : WorkItem) : Decidable (w.Admitted item) :=
  inferInstanceAs (Decidable (_ ∈ w.log))

theorem admitted_apply (w : Worker) (c : Cmd) (item : WorkItem) :
    (w.apply c).Admitted item ↔ w.Admitted item := by
  simp only [Admitted, log_apply]
  split
  · split_ifs <;> simp
  · simp

theorem admitted_settlePending (f : FutureId) (s : Settlement) (w : Worker) (item : WorkItem) :
    (settlePending f s w).Admitted item ↔ w.Admitted item := by
  simp only [Admitted, settlePending]
  split <;> simp

theorem mem_normal_apply {w : Worker} {c : Cmd} {item : WorkItem}
    (member : item ∈ (w.apply c).normal) : item ∈ w.normal := by
  rw [normal_apply] at member
  split at member
  · cases member
  · cases member
  · exact List.mem_of_mem_tail member
  · exact member

/-- Every item the worker holds was admitted under a future of its own, and a result is
given only to an item that was dispatched. -/
structure Items (w : Worker) : Prop where
  known : ∀ item ∈ w.normal ++ (w.pc.fetched ++ w.pc.executes), w.Admitted item
  bound : ∀ item, w.Admitted item → item.future < w.nextFuture
  unique : ∀ a b, w.Admitted a → w.Admitted b → a.future = b.future → a = b
  lane : ∀ item, w.Admitted item → item.future ∉ w.stopWaiters ∧
    ∀ r, (item.future, .ok r) ∉ w.todo
  dispatched : ∀ item ∈ w.pc.executes, w.Did (.dispatched item)
  results : ∀ item r, w.Admitted item → w.futures item.future = .resolved (.ok r) →
    w.Did (.dispatched item)

theorem resolved_apply {w : Worker} {c : Cmd} {f : FutureId} {s : Settlement}
    (resolved : (w.apply c).futures f = .resolved s) :
    w.futures f = .resolved s ∨ ∃ item, c = .op (.settle item s) ∧ item.future = f := by
  rw [futures_apply] at resolved
  split at resolved
  · rename_i item r
    split_ifs at resolved with pending
    · by_cases same : f = item.future
      · rw [same, Function.update_self] at resolved
        cases resolved
        exact .inr ⟨item, rfl, same.symm⟩
      · rw [Function.update_of_ne same] at resolved
        exact .inl resolved
    · exact .inl resolved
  · rename_i item
    by_cases same : f = item.future
    · rw [same, Function.update_self] at resolved
      cases resolved
    · rw [Function.update_of_ne same] at resolved
      exact .inl resolved
  · exact .inl resolved

theorem resolved_settlePending {w : Worker} {f g : FutureId} {s r : Settlement}
    (resolved : (settlePending f s w).futures g = .resolved r) :
    w.futures g = .resolved r ∨ (g = f ∧ s = r ∧ w.futures f = .pending) := by
  simp only [settlePending] at resolved
  split_ifs at resolved with pending
  · by_cases same : g = f
    · rw [same, Function.update_self] at resolved
      cases resolved
      exact .inr ⟨same, rfl, pending⟩
    · rw [Function.update_of_ne same] at resolved
      exact .inl resolved
  · exact .inl resolved

theorem Moves.settles {w : Worker} {pc pc' : Pc} {i : Input} {item : WorkItem}
    {r : Option WorkerResult} (m : Moves w pc i (.op (.settle item (.ok r))) pc') :
    item ∈ pc.executes := by
  cases m
  exact List.mem_cons_self

theorem items_move {w : Worker} {i : Input} {c : Cmd} {pc' : Pc} (items : w.Items)
    (todo : w.todo = []) (m : Moves w w.pc i c pc') :
    ({ w.apply c with pc := pc' } : Worker).Items := by
  obtain ⟨fetched, executes⟩ := m.holdsFrom
  have queue : ∀ item ∈ w.normal, w.Admitted item := fun item member =>
    items.known item (List.mem_append_left _ member)
  have held : ∀ item ∈ w.pc.fetched, w.Admitted item := fun item member =>
    items.known item (List.mem_append_right _ (List.mem_append_left _ member))
  have active : ∀ item ∈ w.pc.executes, w.Admitted item := fun item member =>
    items.known item (List.mem_append_right _ (List.mem_append_right _ member))
  refine ⟨fun item member => (admitted_apply w c item).mpr ?_, fun item admitted => ?_,
    fun a b admitted other => ?_, fun item admitted => ?_, fun item member => ?_,
    fun item r admitted resolved => ?_⟩
  · rcases List.mem_append.mp member with member | member
    · exact queue item (mem_normal_apply member)
    · rcases List.mem_append.mp member with member | member
      · exact (fetched item member).elim (held item) (queue item)
      · exact (executes item member).elim (active item) fun gate => held item gate.2
  · exact (nextFuture_apply c w).symm ▸ items.bound item ((admitted_apply w c item).mp admitted)
  · exact items.unique a b ((admitted_apply w c a).mp admitted) ((admitted_apply w c b).mp other)
  · have own := (items.lane item ((admitted_apply w c item).mp admitted)).1
    refine ⟨fun member => own ?_, fun r member => own ?_⟩
    · change item.future ∈ (w.apply c).stopWaiters at member
      rw [stopWaiters_apply] at member
      split at member
      · cases member
      · cases member
      · exact member
    · -- only a stop's acknowledgement hands out results here, to the waiters of the stop
      change (item.future, .ok r) ∈ (w.apply c).todo at member
      rw [todo_apply] at member
      split at member
      · obtain ⟨f, waits, same⟩ := List.mem_map.mp member
        rw [← (Prod.mk.inj same).1]
        exact waits
      · obtain ⟨other, -, same⟩ := List.mem_map.mp member
        cases (Prod.mk.inj same).2
      · obtain ⟨f, -, same⟩ := List.mem_map.mp member
        cases (Prod.mk.inj same).2
      · rw [todo] at member
        cases member
  · refine (did_apply w c _).mpr ?_
    rcases executes item member with before | ⟨rfl, -⟩
    · exact .inr (items.dispatched item before)
    · exact .inl rfl
  · refine (did_apply w c _).mpr (.inr ?_)
    have before := (admitted_apply w c item).mp admitted
    rcases resolved_apply resolved with earlier | ⟨other, rfl, same⟩
    · exact items.results item r before earlier
    · have member := m.settles
      rw [items.unique item other before (active other member) same.symm]
      exact items.dispatched other member

theorem items_todo {w : Worker} {f : FutureId} {s : Settlement}
    {rest : List (FutureId × Settlement)} (items : w.Items) (todo : w.todo = (f, s) :: rest) :
    (settlePending f s { w with todo := rest }).Items := by
  have admitted := admitted_settlePending f s { w with todo := rest }
  have did := did_settlePending f s { w with todo := rest }
  refine ⟨fun item member => (admitted item).mpr (items.known item member),
    fun item was => items.bound item ((admitted item).mp was),
    fun a b was other => items.unique a b ((admitted a).mp was) ((admitted b).mp other),
    fun item was => ?_, fun item member => (did _).mpr (items.dispatched item member),
    fun item r was resolved => (did _).mpr ?_⟩
  · obtain ⟨waiters, results⟩ := items.lane item ((admitted item).mp was)
    exact ⟨waiters, fun r member => results r (todo ▸ List.mem_cons_of_mem _ member)⟩
  · rcases resolved_settlePending resolved with earlier | ⟨same, rfl, -⟩
    · exact items.results item r ((admitted item).mp was) earlier
    · have := (items.lane item ((admitted item).mp was)).2 r
      rw [same, todo] at this
      exact absurd List.mem_cons_self this

theorem items_caller {w v : Worker} (items : w.Items) (same : SameThread w v)
    (queue : ∀ item ∈ v.normal, item ∈ w.normal)
    (admitted : ∀ item, v.Admitted item ↔ w.Admitted item)
    (next : w.nextFuture ≤ v.nextFuture)
    (waiters : ∀ f ∈ v.stopWaiters, f ∈ w.stopWaiters ∨ w.nextFuture ≤ f)
    (results : ∀ f r, v.futures f = .resolved (.ok r) → w.futures f = .resolved (.ok r)) :
    v.Items := by
  refine ⟨fun item member => (admitted item).mpr ?_,
    fun item was => Nat.lt_of_lt_of_le (items.bound item ((admitted item).mp was)) next,
    fun a b was other => items.unique a b ((admitted a).mp was) ((admitted b).mp other),
    fun item was => ?_, fun item member => (same.did _).mpr ?_,
    fun item r was resolved => (same.did _).mpr ?_⟩
  · rw [same.pc] at member
    rcases List.mem_append.mp member with member | member
    · exact items.known item (List.mem_append_left _ (queue item member))
    · exact items.known item (List.mem_append_right _ member)
  · have before := (admitted item).mp was
    obtain ⟨lane, todo⟩ := items.lane item before
    refine ⟨fun member => ?_, by rw [same.todo]; exact todo⟩
    rcases waiters _ member with waits | fresh
    · exact lane waits
    · exact Nat.lt_irrefl _ (Nat.lt_of_lt_of_le (items.bound item before) fresh)
  · rw [same.pc] at member
    exact items.dispatched item member
  · exact items.results item r ((admitted item).mp was) (results _ r resolved)

theorem items_admitted {w : Worker} {item : WorkItem} (items : w.Items)
    (accounted : w.Accounted) (named : item.future = w.nextFuture) :
    ({ w with
      normal := w.normal ++ [item]
      nextFuture := w.nextFuture + 1
      log := .admitted item :: w.log } : Worker).Items := by
  have old : ∀ other, w.Admitted other → other.future ≠ item.future := fun other was same =>
    Nat.lt_irrefl _ (named ▸ same ▸ items.bound other was)
  have idle : w.nextFuture ∉ w.idle := fun member =>
    Nat.lt_irrefl _ (accounted.account.known _ (List.mem_append_left _ member))
  refine ⟨fun other member => ?_, fun other was => ?_, fun a b was other same => ?_,
    fun other was => ?_, fun other member => List.mem_cons_of_mem _ (items.dispatched other member),
    fun other r was resolved => List.mem_cons_of_mem _ ?_⟩
  · rcases List.mem_append.mp member with member | member
    · rcases List.mem_append.mp member with before | added
      · exact List.mem_cons_of_mem _ (items.known other (List.mem_append_left _ before))
      · rw [List.mem_singleton.mp added]
        exact List.mem_cons_self
    · exact List.mem_cons_of_mem _ (items.known other (List.mem_append_right _ member))
  · rcases List.mem_cons.mp was with added | before
    · cases added
      exact named ▸ Nat.lt_succ_self _
    · exact Nat.lt_succ_of_lt (items.bound other before)
  · rcases List.mem_cons.mp was with added | before
    · cases added
      rcases List.mem_cons.mp other with added | earlier
      · cases added
        rfl
      · exact absurd same.symm (old b earlier)
    · rcases List.mem_cons.mp other with added | earlier
      · cases added
        exact absurd same (old a before)
      · exact items.unique a b before earlier same
  · rcases List.mem_cons.mp was with added | before
    · cases added
      rw [named]
      refine ⟨fun member => idle ?_, fun r member => idle ?_⟩
      · simp only [Worker.idle, List.mem_append]
        exact .inr (.inl member)
      · simp only [Worker.idle, List.mem_append]
        exact .inr (.inr (.inr (.inl (List.mem_map.mpr ⟨_, member, rfl⟩))))
    · exact items.lane other before
  · rcases List.mem_cons.mp was with added | before
    · cases added
      have unborn := accounted.account.unborn w.nextFuture (Nat.le_refl _)
      rw [← named] at unborn
      exact absurd (unborn.symm.trans resolved) (by simp)
    · exact items.results other r before resolved

theorem items_calls {w v : Worker} {e : WorkerEvent} (items : w.Items)
    (accounted : w.Accounted) (calls : Calls w e v) : v.Items := by
  rcases calls.sameThread with ⟨rfl, new, rfl⟩ | same
  · have fresh := accounted.fresh new
    refine ⟨fun item member => items.known item ?_, items.bound, items.unique, items.lane,
      fun item member => ?_, items.results⟩
    · rw [fresh.1]
      exact member
    · cases member
  · have nothing : ∀ item, w.Admitted item ↔ w.Admitted item := fun item => Iff.rfl
    have queue : ∀ item ∈ w.normal, item ∈ w.normal := fun item member => member
    have waiters : ∀ f ∈ w.stopWaiters, f ∈ w.stopWaiters ∨
      w.nextFuture ≤ f := fun f member =>
      .inl member
    have joined : ∀ f ∈ w.stopWaiters ++ [w.nextFuture], f ∈ w.stopWaiters ∨
      w.nextFuture ≤ f := by
      intro f member
      rcases List.mem_append.mp member with before | added
      · exact .inl before
      · exact .inr (Nat.le_of_eq (List.mem_singleton.mp added).symm)
    cases calls with
    | refused => exact items
    | started new =>
      exact items_caller items same queue nothing (Nat.le_refl _) waiters
        fun f r resolved => resolved
    | timedOut starting =>
      exact items_caller items same queue nothing (Nat.le_refl _) waiters
        fun f r resolved => resolved
    | closedNew new =>
      exact items_caller items same queue nothing (Nat.le_refl _) waiters
        fun f r resolved => resolved
    | admitted running ready unstopped => exact items_admitted items accounted rfl
    | stopJoined running requested =>
      exact items_caller items same queue (fun item => by simp [Admitted]) (Nat.le_succ _) joined
        fun f r resolved => resolved
    | stopAccepted running unstopped =>
      exact items_caller items same (fun item member => by cases member)
        (fun item => by simp [Admitted]) (Nat.le_succ _) joined fun f r resolved => resolved
    | closing live =>
      exact items_caller items same (fun item member => by cases member)
        (fun item => by simp [Admitted]) (Nat.le_refl _) waiters fun f r resolved => resolved
    | cancelled known pending =>
      rename_i f
      refine items_caller items same queue nothing (Nat.le_refl _) waiters fun g r resolved => ?_
      by_cases other : g = f
      · rw [other] at resolved
        exact absurd ((Function.update_self f _ w.futures).symm.trans resolved) (by simp)
      · exact (Function.update_of_ne other _ w.futures).symm.trans resolved
    | preemptedFailed found =>
      refine items_caller items same queue (admitted_settlePending _ _ _) (Nat.le_refl _) waiters
        fun g r resolved => ?_
      rcases resolved_settlePending resolved with earlier | ⟨-, error, -⟩
      · exact earlier
      · cases error

theorem items_step {w v : Worker} {e : WorkerEvent} (items : w.Items) (accounted : w.Accounted)
    (h : w.step e = some v) : v.Items := by
  rcases step_calls h with calls | ⟨i, rfl, moved⟩
  · exact items_calls items accounted calls
  · rcases threadStep_cases moved with ⟨f, s, rest, todo, rfl⟩ | ⟨todo, c, pc', m, rfl⟩
    · exact items_todo items todo
    · exact items_move items todo m

theorem items_new (capacity attempts : Nat) (pos : 0 < capacity) :
    (Worker.new capacity attempts pos).Items := by
  refine ⟨fun item member => ?_, fun item was => ?_, fun a b was => ?_, fun item was => ?_,
    fun item member => ?_, fun item r was => ?_⟩
  · cases member
  · cases was
  · cases was
  · cases was
  · cases member
  · cases was

end Worker
end CaseSorter.Daemon
