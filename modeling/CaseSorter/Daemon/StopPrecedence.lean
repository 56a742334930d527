import CaseSorter.Daemon.WorkerFutures

/-! Precedence of an accepted stop over normal work. The queue is empty while a stop is
pending; what escapes is the item the thread has already popped and not yet written, and
the submission that slips in while the waiters of a stop are being answered. -/

namespace CaseSorter.Daemon

open CaseSorter.Runs

namespace Pc

def toSend : Pc → Option WorkItem
  | .take _ item | .gate _ item | .send _ item | .status _ _ item => some item
  | .openTransport p | .handshake p _ | .activate p _ => p.item
  | .perform _ next | .closeTransport _ next => next.toSend
  | _ => none

def sent : Pc → Option WorkItem
  | .polling _ item _ _ | .reading _ item _ _ => some item
  | .perform _ next | .closeTransport _ next => next.sent
  | _ => none

def Silent (pc : Pc) : Prop := pc.toSend = none ∧ pc.sent = none

theorem silent_attempt (left : Nat) (fault : Fault) : (attempt left fault).Silent := by
  cases left <;> exact ⟨rfl, rfl⟩

theorem silent_connectFailed (fault : Fault) (p : Purpose) : (connectFailed fault p).Silent := by
  cases p with
  | reconnect left first => exact silent_attempt left first
  | _ => exact ⟨rfl, rfl⟩

theorem silent_unverified (t : TransportId) (p : Purpose) : (unverified t p).Silent := by
  cases p <;> exact ⟨rfl, rfl⟩

theorem verified_sending (t : TransportId) (p : Purpose) :
    (verified t p).toSend = p.item ∧ (verified t p).sent = none := by
  cases p <;> exact ⟨rfl, rfl⟩

theorem await_sending (t : TransportId) (item : WorkItem) (id : Nat) (responses : List Response) :
    (await t item id responses).toSend = none ∧ (await t item id responses).sent = some item := by
  unfold await
  split_ifs <;> exact ⟨rfl, rfl⟩

theorem received_sending (t : TransportId) (item : WorkItem) (id : Nat)
    (responses : List Response) (r : Response) :
    (Worker.received t item id responses r).toSend = none ∧
      ((Worker.received t item id responses r).sent = none ∨
        (Worker.received t item id responses r).sent = some item) := by
  unfold Worker.received
  by_cases terminal : r.terminal = true
  · rw [if_pos terminal]
    exact ⟨rfl, .inl rfl⟩
  · rw [if_neg terminal]
    obtain ⟨idle, sent⟩ := await_sending t item id (responses ++ [r])
    exact ⟨idle, .inr sent⟩

theorem begin_sending (t : TransportId) (item : WorkItem) (w : Worker) :
    (w.begin t item).toSend = some item ∧ (w.begin t item).sent = none := by
  unfold Worker.begin
  split
  · split_ifs <;> exact ⟨rfl, rfl⟩
  all_goals exact ⟨rfl, rfl⟩

theorem silent_afterFault (t : TransportId) (fault : Fault) : (afterFault t fault).Silent := by
  unfold afterFault
  split_ifs <;> exact ⟨rfl, rfl⟩

theorem silent_afterResult (t : TransportId) (item : WorkItem) : (afterResult t item).Silent := by
  unfold afterResult
  split_ifs <;> exact ⟨rfl, rfl⟩

theorem silent_stopFailed (t : TransportId) (fault : Fault) (cause : StopCause) :
    (stopFailed t fault cause).Silent := by
  cases cause <;> exact ⟨rfl, rfl⟩

theorem silent_stopAcknowledged (t : TransportId) (cause : StopCause) :
    (stopAcknowledged t cause).Silent := by
  cases cause <;> exact ⟨rfl, rfl⟩

end Pc

/-- The command writes bytes for `item`, or may have before it failed. -/
def Cmd.writes (item : WorkItem) : Cmd → Bool
  | .transmitted i _ | .exchangeFailed i _ => i = some item
  | _ => false

namespace Worker

/-- Bytes may have been written for `item`. -/
def wrote (w : Worker) (item : WorkItem) : Bool :=
  w.log.any fun
    | .thread c => c.writes item
    | _ => false

theorem wrote_apply (w : Worker) (c : Cmd) (item : WorkItem) :
    (w.apply c).wrote item = (c.writes item || w.wrote item) := by
  simp only [wrote, log_apply]
  split
  · split_ifs <;> simp [Cmd.writes]
  · simp

theorem wrote_settlePending (f : FutureId) (s : Settlement) (w : Worker) (item : WorkItem) :
    (settlePending f s w).wrote item = w.wrote item := by
  simp only [wrote, settlePending]
  split <;> simp

/-- How a move changes what is written and what is about to be. -/
structure Sending (w : Worker) (c : Cmd) (pc pc' : Pc) : Prop where
  writes : ∀ item, c.writes item = true → pc.toSend = some item ∨ pc.sent = some item
  toSend : ∀ item, pc'.toSend = some item →
    pc.toSend = some item ∨ (w.stopRequested = false ∧ c = .takeItem)
  sent : ∀ item, pc'.sent = some item → pc.sent = some item ∨ c.writes item = true

theorem Sending.silent {w : Worker} {c : Cmd} {pc pc' : Pc} (silent : pc'.Silent)
    (writes : ∀ item, c.writes item = true → pc.toSend = some item ∨ pc.sent = some item) :
    Sending w c pc pc' := by
  refine ⟨writes, fun item next => ?_, fun item next => ?_⟩
  · rw [silent.1] at next
    cases next
  · rw [silent.2] at next
    cases next

theorem Sending.quiet {w : Worker} {c : Cmd} {pc pc' : Pc}
    (writes : ∀ item, c.writes item = false) (toSend : pc'.toSend = pc.toSend)
    (sent : pc'.sent = pc.sent) : Sending w c pc pc' := by
  refine ⟨fun item wrote => ?_, fun item next => .inl (toSend ▸ next),
    fun item next => .inl (sent ▸ next)⟩
  rw [writes item] at wrote
  cases wrote

theorem Moves.sending {w : Worker} {pc pc' : Pc} {i : Input} {c : Cmd} (m : Moves w pc i c pc') :
    Sending w c pc pc' := by
  cases m
  case itemNext stop live queue =>
    refine ⟨fun item wrote => ?_, fun item _ => .inr ⟨stop, rfl⟩, fun item next => ?_⟩
    · cases wrote
    · cases next
  case openedClosing => exact .silent (Pc.silent_unverified _ _) (by simp [Cmd.writes])
  case openFailed => exact .silent (Pc.silent_connectFailed _ _) (by simp [Cmd.writes])
  case handshakeFailed =>
    exact .silent (Pc.silent_connectFailed _ _) fun item wrote => .inl (of_decide_eq_true wrote)
  case activateFailed =>
    exact .silent (Pc.silent_connectFailed _ _) fun item wrote => .inl (of_decide_eq_true wrote)
  case verified =>
    refine ⟨fun item wrote => .inl (of_decide_eq_true wrote), fun item next => .inl next,
      fun item next => ?_⟩
    cases next
  case activated p t profile =>
    obtain ⟨toSend, sent⟩ := Pc.verified_sending t p
    exact .quiet (fun _ => rfl) toSend sent
  case reactivateFailed => exact .silent (Pc.silent_attempt _ _) (by simp [Cmd.writes])
  case reconnect => exact .silent (Pc.silent_attempt _ _) (by simp [Cmd.writes])
  case dispatched t item =>
    obtain ⟨toSend, sent⟩ := Pc.begin_sending t item w
    exact .quiet (fun _ => rfl) toSend sent
  case status => exact .silent ⟨rfl, rfl⟩ (by simp [Cmd.writes, Pc.toSend])
  case statusFailed => exact .silent ⟨rfl, rfl⟩ (by simp [Cmd.writes, Pc.toSend])
  case sent t item id =>
    obtain ⟨toSend, sent⟩ := Pc.await_sending t item id []
    refine ⟨by simp [Cmd.writes, Pc.toSend], fun item next => ?_, fun item next => ?_⟩
    · rw [toSend] at next
      cases next
    · rw [sent] at next
      exact .inr (by simpa [Cmd.writes] using next)
  case sendFailed => exact .silent ⟨rfl, rfl⟩ (by simp [Cmd.writes, Pc.toSend])
  case pollFailed => exact .silent ⟨rfl, rfl⟩ (by simp [Cmd.writes, Pc.sent])
  case readFailed => exact .silent ⟨rfl, rfl⟩ (by simp [Cmd.writes, Pc.sent])
  case readNothing t item id responses =>
    obtain ⟨toSend, sent⟩ := Pc.await_sending t item id responses
    exact .quiet (fun _ => rfl) toSend sent
  case readResponse t item id responses r same movement =>
    obtain ⟨toSend, sent⟩ := Pc.received_sending t item id responses r
    refine ⟨by simp [Cmd.writes], fun other next => ?_, fun other next => .inl ?_⟩
    · rw [toSend] at next
      cases next
    · rcases sent with sent | sent
      · rw [sent] at next
        cases next
      · exact sent.symm.trans next
  case faulted => exact .silent (Pc.silent_afterFault _ _) (by simp [Cmd.writes])
  case finished => exact .silent (Pc.silent_afterResult _ _) (by simp [Cmd.writes])
  case refreshFailed => exact .silent (Pc.silent_afterFault _ _) (by simp [Cmd.writes])
  case stopUnsent => exact .silent (Pc.silent_stopFailed _ _ _) (by simp [Cmd.writes])
  case stopUnanswered => exact .silent (Pc.silent_stopFailed _ _ _) (by simp [Cmd.writes])
  case stopAcknowledged => exact .silent (Pc.silent_stopAcknowledged _ _) (by simp [Cmd.writes])
  all_goals first
    | exact .quiet (fun _ => rfl) rfl rfl
    | exact .silent ⟨rfl, rfl⟩ (by simp [Cmd.writes])

/-- A stop has been accepted whose future is not resolved. -/
def StopPending (w : Worker) : Prop :=
  ∃ f, .stopAccepted f ∈ w.log ∧ (w.futures f).isOpen = true

def answering (w : Worker) : Bool :=
  w.todo.any fun entry => .stopAccepted entry.1 ∈ w.log && (w.futures entry.1).isOpen

def holdsUnwritten (w : Worker) : Bool :=
  w.pc.toSend.any fun item => !w.wrote item

/-- No stop is accepted while the thread holds an unwritten item, and nothing is submitted
while it answers the waiters of a stop. -/
def stopGuarded (w : Worker) : WorkerEvent → Bool
  | .stop => !w.holdsUnwritten
  | .submit _ _ => !w.answering
  | _ => true

/-- Where the accepted stops are, and what their acceptance keeps away. -/
structure Precedes (w : Worker) : Prop where
  accounted : w.Accounted
  drained : w.Drained
  located : ∀ f, .stopAccepted f ∈ w.log → (w.futures f).isOpen = true →
    f ∈ w.stopWaiters ∨ f ∈ w.todo.map Prod.fst ∨ (f ∈ w.pc.waits ∧ w.pc.Over)
  requested : w.stopWaiters ≠ [] → w.stopRequested = true
  queue : w.stopRequested = true → w.normal = []
  answered : w.answering = true → w.normal = []
  unwritten : ∀ item, w.pc.toSend = some item → w.wrote item = false → w.stopWaiters = []
  written : ∀ item, w.pc.sent = some item → w.wrote item = true

theorem normal_of_pending {w : Worker} (inv : w.Precedes) (pending : w.StopPending) :
    w.normal = [] := by
  obtain ⟨f, accepted, isOpen⟩ := pending
  rcases inv.located f accepted isOpen with waiting | taken | ⟨-, past⟩
  · exact inv.queue (inv.requested (List.ne_nil_of_mem waiting))
  · refine inv.answered (List.any_eq_true.mpr ?_)
    obtain ⟨entry, member, rfl⟩ := List.mem_map.mp taken
    exact ⟨entry, member, by simp [accepted, isOpen]⟩
  · exact (inv.drained past).1

theorem accepted_apply (w : Worker) (c : Cmd) (f : FutureId) :
    .stopAccepted f ∈ (w.apply c).log ↔ .stopAccepted f ∈ w.log := by
  simp only [log_apply]
  split
  · split_ifs <;> simp
  · simp

theorem accepted_settlePending (f g : FutureId) (s : Settlement) (w : Worker) :
    .stopAccepted g ∈ (settlePending f s w).log ↔ .stopAccepted g ∈ w.log := by
  simp only [settlePending]
  split <;> simp

theorem isOpen_of_later {a b : FutureState} (later : a.Later b) (isOpen : b.isOpen = true) :
    a.isOpen = true := by
  rcases later with rfl | rfl | ⟨rfl, -⟩
  · rfl
  · exact isOpen
  · rfl

theorem Moves.of_over {w : Worker} {pc pc' : Pc} {i : Input} {c : Cmd} (m : Moves w pc i c pc')
    (past : pc.Over) : pc'.Over ∧ ((∃ o, c = .op o ∧ pc = .perform o pc') ∨
      ∃ t failure, c = .close t failure ∧ pc'.waits = pc.waits) := by
  cases m
  case perform => exact ⟨past, .inl ⟨_, rfl, rfl⟩⟩
  case closed => exact ⟨past, .inr ⟨_, _, rfl, rfl⟩⟩
  all_goals exact past.elim

theorem located_move {w : Worker} {i : Input} {c : Cmd} {pc' : Pc} (inv : w.Precedes)
    (m : Moves w w.pc i c pc') {f : FutureId} (accepted : .stopAccepted f ∈ w.log)
    (isOpen : (w.futures f).isOpen = true) (todo : w.todo = []) :
    f ∈ (w.apply c).stopWaiters ∨ f ∈ (w.apply c).todo.map Prod.fst ∨
      (f ∈ pc'.waits ∧ pc'.Over) := by
  rcases inv.located f accepted isOpen with waiting | taken | ⟨held, past⟩
  · rw [stopWaiters_apply, todo_apply]
    by_cases finish : c = .finish
    · subst finish
      generalize w.pc = pc at m
      cases m
      exact .inr (.inr ⟨by simp [Pc.waits, waiting], trivial⟩)
    · by_cases resolve : ∃ error, c = .op (.resolveStop error)
      · obtain ⟨error, rfl⟩ := resolve
        exact .inr (.inl (by simpa using waiting))
      · left
        split
        · exact absurd ⟨_, rfl⟩ resolve
        · exact absurd rfl finish
        · exact waiting
  · rw [todo] at taken
    cases taken
  · obtain ⟨past', ⟨o, rfl, at_pc⟩ | ⟨t, failure, rfl, same⟩⟩ := m.of_over past
    · rw [at_pc] at held
      rw [todo_apply]
      cases o with
      | release futures error =>
        rcases List.mem_append.mp held with released | later
        · exact .inr (.inl (by simpa using released))
        · exact .inr (.inr ⟨later, past'⟩)
      | _ => exact .inr (.inr ⟨held, past'⟩)
    · exact .inr (.inr ⟨same ▸ held, past'⟩)

theorem normal_apply_nil {w : Worker} (c : Cmd) (empty : w.normal = []) :
    (w.apply c).normal = [] := by
  rw [normal_apply]
  split
  · rfl
  · rfl
  · rw [empty]
    rfl
  · exact empty

theorem precedes_move {w : Worker} {i : Input} {c : Cmd} {pc' : Pc} (inv : w.Precedes)
    (m : Moves w w.pc i c pc') (todo : w.todo = [])
    (accounted : ({ w.apply c with pc := pc' } : Worker).Accounted) :
    ({ w.apply c with pc := pc' } : Worker).Precedes := by
  have sending := m.sending
  have later := later_move inv.accounted m
  refine ⟨accounted, drained_move inv.drained m, fun f accepted isOpen => ?_, fun waiting => ?_,
    fun requested => ?_, fun answering => ?_, fun item next unwritten => ?_, fun item next => ?_⟩
  · exact located_move inv m ((accepted_apply w c f).mp accepted)
      (isOpen_of_later (later f) isOpen) todo
  · change (w.apply c).stopWaiters ≠ [] at waiting
    change (w.apply c).stopRequested = true
    rw [stopWaiters_apply] at waiting
    rw [stopRequested_apply]
    split at waiting
    · exact absurd rfl waiting
    · exact absurd rfl waiting
    · exact inv.requested waiting
  · change (w.apply c).stopRequested = true at requested
    refine normal_apply_nil c (inv.queue ?_)
    rw [stopRequested_apply] at requested
    split at requested
    · cases requested
    · cases requested
    · exact requested
  · obtain ⟨entry, member, stop⟩ := List.any_eq_true.mp answering
    simp only [Bool.and_eq_true, decide_eq_true_eq] at stop
    refine normal_apply_nil c (normal_of_pending inv ⟨entry.1, ?_, ?_⟩)
    · exact (accepted_apply w c _).mp stop.1
    · exact isOpen_of_later (later entry.1) stop.2
  · change (w.apply c).wrote item = false at unwritten
    change (w.apply c).stopWaiters = []
    have none_waits : w.stopWaiters = [] := by
      rw [wrote_apply, Bool.or_eq_false_iff] at unwritten
      rcases sending.toSend item next with before | ⟨unstopped, -⟩
      · exact inv.unwritten item before unwritten.2
      · by_contra waiting
        rw [inv.requested waiting] at unstopped
        cases unstopped
    rw [stopWaiters_apply]
    split
    · rfl
    · rfl
    · exact none_waits
  · change (w.apply c).wrote item = true
    rw [wrote_apply]
    rcases sending.sent item next with before | writes
    · rw [inv.written item before, Bool.or_true]
    · rw [writes, Bool.true_or]

theorem precedes_less {w v : Worker} (inv : w.Precedes) (accounted : v.Accounted)
    (drained : v.Drained) (pc : v.pc = w.pc) (waiters : v.stopWaiters = w.stopWaiters)
    (log : ∀ f, .stopAccepted f ∈ v.log → .stopAccepted f ∈ w.log)
    (later : ∀ f, (w.futures f).Later (v.futures f))
    (todo : ∀ f, (v.futures f).isOpen = true → f ∈ w.todo.map Prod.fst →
      f ∈ v.todo.map Prod.fst)
    (taken : ∀ entry ∈ v.todo, entry ∈ w.todo)
    (requested : w.stopRequested = true → v.stopRequested = true)
    (normal : v.normal = [] ∨ (v.normal = w.normal ∧ v.stopRequested = w.stopRequested))
    (wrote : ∀ item, v.wrote item = w.wrote item) : v.Precedes := by
  refine ⟨accounted, drained, fun f accepted isOpen => ?_, fun waiting => ?_, fun stop => ?_,
    fun answering => ?_, fun item next unwritten => ?_, fun item next => ?_⟩
  · rw [pc, waiters]
    rcases inv.located f (log f accepted) (isOpen_of_later (later f) isOpen) with h | h | h
    · exact .inl h
    · exact .inr (.inl (todo f isOpen h))
    · exact .inr (.inr h)
  · rw [waiters] at waiting
    exact requested (inv.requested waiting)
  · rcases normal with empty | ⟨same, unchanged⟩
    · exact empty
    · rw [same]
      exact inv.queue (unchanged ▸ stop)
  · rcases normal with empty | ⟨same, -⟩
    · exact empty
    · obtain ⟨entry, member, stop⟩ := List.any_eq_true.mp answering
      simp only [Bool.and_eq_true, decide_eq_true_eq] at stop
      rw [same]
      refine inv.answered (List.any_eq_true.mpr ⟨entry, taken entry member, ?_⟩)
      simp [log entry.1 stop.1, isOpen_of_later (later entry.1) stop.2]
  · rw [pc] at next
    rw [wrote item] at unwritten
    rw [waiters]
    exact inv.unwritten item next unwritten
  · rw [pc] at next
    rw [wrote item]
    exact inv.written item next

theorem precedes_accept {w v : Worker} (inv : w.Precedes) (guarded : w.holdsUnwritten = false)
    (accounted : v.Accounted) (drained : v.Drained) (pc : v.pc = w.pc) (todo : v.todo = w.todo)
    (futures : v.futures = w.futures) (waiters : v.stopWaiters = w.stopWaiters ++ [w.nextFuture])
    (log : v.log = .stopAccepted w.nextFuture :: w.log) (requested : v.stopRequested = true)
    (normal : v.normal = []) : v.Precedes := by
  have wrote : ∀ item, v.wrote item = w.wrote item := by
    intro item
    simp [Worker.wrote, log]
  refine ⟨accounted, drained, fun f accepted isOpen => ?_, fun _ => requested, fun _ => normal,
    fun _ => normal, fun item next unwritten => ?_, fun item next => ?_⟩
  · rw [pc, waiters, todo]
    rw [log] at accepted
    rw [futures] at isOpen
    rcases List.mem_cons.mp accepted with new | before
    · cases new
      exact .inl (List.mem_append_right _ List.mem_cons_self)
    · rcases inv.located f before isOpen with h | h | h
      · exact .inl (List.mem_append_left _ h)
      · exact .inr (.inl h)
      · exact .inr (.inr h)
  · rw [pc] at next
    rw [wrote item] at unwritten
    simp [holdsUnwritten, next, unwritten] at guarded
  · rw [pc] at next
    rw [wrote item]
    exact inv.written item next

theorem precedes_calls {w v : Worker} {e : WorkerEvent} (inv : w.Precedes)
    (guarded : w.stopGuarded e = true) (h : w.step e = some v) (calls : Calls w e v) :
    v.Precedes := by
  have accounted := accounted_step inv.accounted h
  have drained := drained_step inv.drained h
  have later := later_step inv.accounted h
  cases calls with
  | refused => exact inv
  | started new =>
    have at_start := inv.accounted.fresh new
    refine ⟨accounted, drained, fun f accepted isOpen => ?_, inv.requested, inv.queue,
      inv.answered, fun item next => ?_, fun item next => ?_⟩
    · have located := inv.located f accepted isOpen
      simp only [at_start, Pc.waits, List.map_nil, List.not_mem_nil, false_and, or_false] at located
    · cases next
    · cases next
  | admitted running ready unstopped =>
    have idle : w.answering = false := by simpa [stopGuarded] using guarded
    refine ⟨accounted, drained, fun f accepted isOpen => ?_, inv.requested, fun stop => ?_,
      fun answers => ?_, fun item next unwritten => ?_, fun item next => ?_⟩
    · exact inv.located f (by simpa using accepted) isOpen
    · exact absurd stop (by simp [unstopped])
    · have still : w.answering = true := by simpa [Worker.answering] using answers
      rw [idle] at still
      cases still
    · exact inv.unwritten item next (by simpa [Worker.wrote] using unwritten)
    · simpa [Worker.wrote] using inv.written item next
  | stopJoined running requested =>
    have held : w.holdsUnwritten = false := by simpa [stopGuarded] using guarded
    exact precedes_accept inv held accounted drained rfl rfl rfl rfl rfl requested
      (inv.queue requested)
  | stopAccepted running unstopped =>
    have held : w.holdsUnwritten = false := by simpa [stopGuarded] using guarded
    exact precedes_accept inv held accounted drained rfl rfl rfl rfl rfl rfl rfl
  | timedOut starting =>
    exact precedes_less inv accounted drained rfl rfl (fun _ h => h) later (fun _ _ h => h)
      (fun _ h => h) id (.inr ⟨rfl, rfl⟩) fun _ => rfl
  | closedNew new =>
    exact precedes_less inv accounted drained rfl rfl (fun _ h => h) later (fun _ _ h => h)
      (fun _ h => h) id (.inr ⟨rfl, rfl⟩) fun _ => rfl
  | closing live =>
    refine precedes_less inv accounted drained rfl rfl (fun _ h => by simpa using h) later
      (fun _ _ h => h) (fun _ h => h) (fun stop => by simp [stop]) (.inl rfl) fun item => ?_
    simp [Worker.wrote]
  | cancelled known pending =>
    exact precedes_less inv accounted drained rfl rfl (fun _ h => h) later (fun _ _ h => h)
      (fun _ h => h) id (.inr ⟨rfl, rfl⟩) fun _ => rfl
  | preemptedFailed found =>
    exact precedes_less inv accounted drained rfl rfl
      (fun g h => (accepted_settlePending _ g _ _).mp h) later (fun _ _ h => h)
      (fun _ h => h) id (.inr ⟨rfl, rfl⟩) fun item => wrote_settlePending _ _ _ item

theorem precedes_step {w v : Worker} {e : WorkerEvent} (inv : w.Precedes)
    (guarded : w.stopGuarded e = true) (h : w.step e = some v) : v.Precedes := by
  rcases step_calls h with calls | ⟨i, rfl, moved⟩
  · exact precedes_calls inv guarded h calls
  · rcases threadStep_cases moved with ⟨f, s, rest, todo, rfl⟩ | ⟨todo, c, pc', m, rfl⟩
    · refine precedes_less inv (accounted_step inv.accounted h) (drained_step inv.drained h) rfl
        rfl (fun g accepted => (accepted_settlePending f g s _).mp accepted)
        (later_step inv.accounted h) (fun g isOpen member => ?_) (fun entry member => ?_) id
        (.inr ⟨rfl, rfl⟩) fun item => wrote_settlePending f s _ item
      · -- the future that has just been answered is not open any more
        rw [todo] at member
        rcases List.mem_cons.mp member with rfl | later
        · exfalso
          have waiting := inv.accounted.account.waiting g (by simp [idle, todo])
          simp only [settlePending] at isOpen
          rcases waiting with pending | cancelled
          · simp [pending, FutureState.isOpen] at isOpen
          · simp [cancelled, FutureState.isOpen] at isOpen
        · exact later
      · rw [todo]
        exact List.mem_cons_of_mem _ member
    · exact precedes_move inv m todo (accounted_step inv.accounted h)

theorem precedes_new (capacity attempts : Nat) (pos : 0 < capacity) :
    (Worker.new capacity attempts pos).Precedes := by
  refine ⟨accounted_new capacity attempts pos,
    fun _ => ⟨rfl, rfl, by simp [Worker.new]⟩, ?_, ?_,
    fun _ => rfl, fun _ => rfl, ?_, ?_⟩
  · exact fun f accepted => absurd accepted List.not_mem_nil
  · exact fun waiting => absurd rfl waiting
  · intro item next
    cases next
  · intro item next
    cases next

theorem pending_step {w v : Worker} {e : WorkerEvent} (inv : w.Precedes)
    (guarded : w.stopGuarded e = true) (pending : w.StopPending) (h : w.step e = some v) :
    (∀ item, .admitted item ∈ v.log → .admitted item ∈ w.log) ∧
      ∀ item, v.wrote item = true → w.wrote item = true := by
  obtain ⟨f, accepted, isOpen⟩ := pending
  have located := inv.located f accepted isOpen
  rcases step_calls h with calls | ⟨i, rfl, moved⟩
  · cases calls with
    | admitted running ready unstopped =>
      exfalso
      rcases located with waiting | taken | ⟨-, past⟩
      · rw [inv.requested (List.ne_nil_of_mem waiting)] at unstopped
        cases unstopped
      · have answering : w.answering = true := by
          obtain ⟨entry, member, rfl⟩ := List.mem_map.mp taken
          exact List.any_eq_true.mpr ⟨entry, member, by simp [accepted, isOpen]⟩
        simp [stopGuarded, answering] at guarded
      · exact (inv.drained past).2.2 running
    | preemptedFailed found =>
      refine ⟨fun item admitted => ?_, fun item wrote => ?_⟩
      · simp only [settlePending] at admitted
        split at admitted <;> simpa using admitted
      · rwa [wrote_settlePending] at wrote
    | _ =>
      refine ⟨fun item admitted => by simpa using admitted, fun item wrote => ?_⟩
      simpa [Worker.wrote] using wrote
  · rcases threadStep_cases moved with ⟨g, s, rest, -, rfl⟩ | ⟨todo, c, pc', m, rfl⟩
    · refine ⟨fun item admitted => ?_, fun item wrote => ?_⟩
      · simp only [settlePending] at admitted
        split at admitted <;> simpa using admitted
      · rwa [wrote_settlePending] at wrote
    · refine ⟨fun item admitted => ?_, fun item wrote => ?_⟩
      · simp only [log_apply] at admitted
        split at admitted
        · split_ifs at admitted <;> simpa using admitted
        · simpa using admitted
      · by_contra unwritten
        rw [Bool.not_eq_true] at unwritten
        change (w.apply c).wrote item = true at wrote
        rw [wrote_apply, unwritten, Bool.or_false] at wrote
        rcases m.sending.writes item wrote with next | sent
        · rcases located with waiting | taken | ⟨-, past⟩
          · rw [inv.unwritten item next unwritten] at waiting
            cases waiting
          · rw [todo] at taken
            cases taken
          · obtain ⟨-, ⟨o, rfl, -⟩ | ⟨t, failure, rfl, -⟩⟩ := m.of_over
              past <;> cases wrote
        · rw [inv.written item sent] at unwritten
          cases unwritten

/-- The item with this future has been taken from the queue to be failed with `error`. -/
structure Taken (f : FutureId) (error : Failure) (w : Worker) : Prop where
  accounted : w.Accounted
  failing : (f, error) ∈ w.preempted ∨ w.futures f = .resolved (.error error) ∨
    w.futures f = .cancelled
  never : ∀ item : WorkItem, item.future = f → ¬ w.Did (.dispatched item) ∧
    w.wrote item = false

theorem Taken.not_running {f : FutureId} {error : Failure} {w : Worker} (taken : Taken f error w) :
    f ∉ w.pc.runs := by
  intro runs
  have running := taken.accounted.account.running f runs
  rcases taken.failing with preempted | resolved | cancelled
  · have idle : f ∈ w.idle := by
      have := List.mem_map_of_mem (f := Prod.fst) preempted
      simp only [Worker.idle, List.mem_append]
      exact .inr (.inr (.inl this))
    rcases taken.accounted.account.waiting f idle with waiting | waiting <;>
      · rw [running] at waiting
        cases waiting
  · rw [running] at resolved
    cases resolved
  · rw [running] at cancelled
    cases cancelled

theorem Moves.active {w : Worker} {pc pc' : Pc} {i : Input} {c : Cmd} (m : Moves w pc i c pc')
    (item : WorkItem) (acts : c = .dispatched item ∨ c.writes item = true) :
    item.future ∈ pc.runs := by
  have of_purpose : ∀ p : Purpose, p.item = some item → item.future ∈ p.futures := by
    intro p held
    cases p <;> cases held
    exact List.mem_cons_self
  cases m
  case verified => exact of_purpose _ (by simpa [Cmd.writes] using acts)
  case handshakeFailed => exact of_purpose _ (by simpa [Cmd.writes] using acts)
  case activateFailed => exact of_purpose _ (by simpa [Cmd.writes] using acts)
  all_goals
    simp only [Cmd.writes, Cmd.dispatched.injEq, reduceCtorEq, Option.some.injEq, decide_eq_true_eq,
      false_or, or_false, Bool.false_eq_true] at acts
  all_goals
    subst acts
    exact List.mem_cons_self

theorem taken_step {f : FutureId} {error : Failure} {w v : Worker} {e : WorkerEvent}
    (taken : Taken f error w) (h : w.step e = some v) : Taken f error v := by
  have accounted := accounted_step taken.accounted h
  have kept : (∀ s, w.futures f = .resolved s → v.futures f = .resolved s) ∧
      (w.futures f = .cancelled → v.futures f = .cancelled) := by
    have later := later_step taken.accounted h f
    refine ⟨fun s resolved => ?_, fun cancelled => ?_⟩
    · rw [resolved] at later
      simpa [FutureState.Later] using later
    · rw [cancelled] at later
      simpa [FutureState.Later] using later
  have settled : w.futures f = .resolved (.error error) ∨ w.futures f = .cancelled →
      (f, error) ∈ v.preempted ∨ v.futures f = .resolved (.error error) ∨
        v.futures f = .cancelled :=
    fun done => .inr (done.imp (kept.1 _) kept.2)
  rcases step_calls h with calls | ⟨i, -, moved⟩
  · have never : ∀ item : WorkItem, item.future = f →
        ¬ v.Did (.dispatched item) ∧ v.wrote item = false := by
      intro item same
      have := taken.never item same
      cases calls with
      | preemptedFailed found =>
        rw [did_settlePending, wrote_settlePending]
        exact this
      | _ => simpa [Did, Worker.wrote] using this
    refine ⟨accounted, ?_, never⟩
    rcases taken.failing with preempted | done
    · cases calls with
      | stopAccepted running unstopped => exact .inl (List.mem_append_left _ preempted)
      | closing live => exact .inl (List.mem_append_left _ preempted)
      | preemptedFailed found =>
        rename_i k g failure
        by_cases same : (g, failure) = (f, error)
        · cases same
          have waiting := taken.accounted.account.waiting f (by
            have := List.mem_map_of_mem (f := Prod.fst) preempted
            simp only [idle, List.mem_append]
            exact .inr (.inr (.inl this)))
          right
          rcases waiting with pending | cancelled
          · exact .inl (by simp [settlePending, pending])
          · exact .inr (by simp [settlePending, cancelled])
        · refine .inl ?_
          obtain ⟨bound, at_k⟩ := List.getElem?_eq_some_iff.mp found
          have moved := (List.getElem_cons_eraseIdx_perm bound).mem_iff.mpr preempted
          rcases List.mem_cons.mp moved with first | later
          · rw [at_k] at first
            exact absurd first.symm same
          · exact later
      | _ => exact .inl preempted
    · exact settled done
  · rcases threadStep_cases moved with ⟨g, s, rest, -, rfl⟩ | ⟨todo, c, pc', m, rfl⟩
    · refine ⟨accounted, ?_, fun item same => ?_⟩
      · rcases taken.failing with preempted | done
        · exact .inl preempted
        · exact settled done
      · rw [did_settlePending, wrote_settlePending]
        exact taken.never item same
    · refine ⟨accounted, ?_, fun item same => ?_⟩
      · rcases taken.failing with preempted | done
        · exact .inl (by rw [← preempted_apply c w] at preempted; exact preempted)
        · exact settled done
      · have idle : ¬ (c = .dispatched item ∨ c.writes item = true) := fun acts =>
          taken.not_running (same ▸ m.active item acts)
        rw [not_or, Bool.not_eq_true] at idle
        have before := taken.never item same
        refine ⟨fun did => ?_, ?_⟩
        · rcases (did_apply w c _).mp did with now | earlier
          · exact idle.1 now.symm
          · exact before.1 earlier
        · change (w.apply c).wrote item = false
          rw [wrote_apply, idle.2, before.2]
          rfl

def StartedOnly (w : Worker) : Prop :=
  ∀ item : WorkItem, (w.Did (.dispatched item) ∨ w.wrote item = true) →
    w.futures item.future = .running ∨ ∃ s, w.futures item.future = .resolved s

theorem startedOnly_step {w v : Worker} {e : WorkerEvent} (accounted : w.Accounted)
    (started : w.StartedOnly) (h : w.step e = some v) : v.StartedOnly := by
  intro item acts
  have onwards : w.futures item.future = .running ∨
    (∃ s, w.futures item.future = .resolved s) →
      v.futures item.future = .running ∨ ∃ s, v.futures item.future = .resolved s := by
    intro now
    rcases later_step accounted h item.future with pending | same | ⟨-, s, resolved⟩
    · rw [pending] at now
      rcases now with now | ⟨s, now⟩ <;> cases now
    · rw [same]
      exact now
    · exact .inr ⟨s, resolved⟩
  refine onwards ?_
  rcases step_calls h with calls | ⟨i, -, moved⟩
  · refine started item ?_
    cases calls with
    | preemptedFailed found => rwa [did_settlePending, wrote_settlePending] at acts
    | _ => simpa [Did, Worker.wrote] using acts
  · rcases threadStep_cases moved with ⟨f, s, rest, -, rfl⟩ | ⟨-, c, pc', m, rfl⟩
    · refine started item ?_
      rwa [did_settlePending, wrote_settlePending] at acts
    · change (w.apply c).Did (.dispatched item) ∨ (w.apply c).wrote item = true at acts
      rw [did_apply, wrote_apply, Bool.or_eq_true] at acts
      by_cases now : c = .dispatched item ∨ c.writes item = true
      · exact .inl (accounted.account.running _ (m.active item now))
      · refine started item ?_
        rw [not_or] at now
        rcases acts with (same | did) | (writes | wrote)
        · exact absurd same.symm now.1
        · exact .inl did
        · exact absurd writes now.2
        · exact .inr wrote

theorem taken_of_stop {w v : Worker} (accounted : w.Accounted) (started : w.StartedOnly)
    (running : w.state = .running) (unstopped : w.stopRequested = false)
    (h : w.step .stop = some v) {item : WorkItem} (queued : item ∈ w.normal) :
    Taken item.future (.preemptedByStop "queued work invalidated by priority stop") v := by
  have never : ∀ other : WorkItem, other.future = item.future →
      ¬ (w.Did (.dispatched other) ∨ w.wrote other = true) := by
    intro other same acts
    have waiting := accounted.account.waiting item.future
      (List.mem_append_left _ (List.mem_map_of_mem queued))
    rcases started other acts with now | ⟨s, now⟩ <;> rw [same] at now <;>
      rw [now] at waiting <;>
      rcases waiting with waiting | waiting <;> cases waiting
  have taken := accounted_step accounted h
  cases h
  rcases submitPriorityStop_cases w with ⟨stopped, -⟩ | ⟨-, requested, -⟩ |
    ⟨-, -, accepted⟩
  · exact absurd running stopped
  · rw [requested] at unstopped
    cases unstopped
  · rw [accepted] at taken ⊢
    refine ⟨taken, .inl (List.mem_append_right _ ?_), fun other same => ?_⟩
    · exact List.mem_map_of_mem queued
    · have := never other same
      rw [not_or, Bool.not_eq_true] at this
      simpa [Did, Worker.wrote] using this

end Worker

/-- In every run in which no stop is accepted while the thread holds an unwritten item and
nothing is submitted while the waiters of a stop are answered: while a stop is pending the
queue is empty, nothing is admitted and no item's first byte is written; and what a stop
takes from the queue is failed, and never dispatched or written. -/
theorem priorityStop_precedes (capacity attempts : Nat) (pos : 0 < capacity)
    (es : List WorkerEvent) (w : Worker)
    (guarded : Meets Worker.step (fun w e => w.stopGuarded e = true)
      (Worker.new capacity attempts pos) es)
    (reached : run Worker.step (Worker.new capacity attempts pos) es = some w) :
    (w.StopPending → w.normal = [] ∧ ∀ e v, w.stopGuarded e = true → w.step e = some v →
      (∀ item, .admitted item ∈ v.log → .admitted item ∈ w.log) ∧
        ∀ item, v.wrote item = true → w.wrote item = true) ∧
      (∀ v, w.state = .running → w.step .stop = some v → ∀ item ∈ w.normal, ∀ later u,
        run Worker.step v later = some u →
          ¬ u.Did (.dispatched item) ∧ u.wrote item = false ∧
            ((item.future, .preemptedByStop "queued work invalidated by priority stop") ∈
                u.preempted ∨
              u.futures item.future = .resolved
                (.error (.preemptedByStop "queued work invalidated by priority stop")) ∨
              u.futures item.future = .cancelled)) := by
  have start : (Worker.new capacity attempts pos).Precedes ∧
      (Worker.new capacity attempts pos).StartedOnly := by
    refine ⟨Worker.precedes_new capacity attempts pos, fun item acts => ?_⟩
    rcases acts with did | wrote
    · cases did
    · cases wrote
  have step : ∀ w e v, w.Precedes ∧ w.StartedOnly → w.stopGuarded e = true →
      Worker.step w e = some v → v.Precedes ∧ v.StartedOnly := fun w e v inv ok h =>
    ⟨Worker.precedes_step inv.1 ok h, Worker.startedOnly_step inv.1.accounted inv.2 h⟩
  obtain ⟨inv, started⟩ := run_invariant step start guarded reached
  refine ⟨fun pending => ⟨Worker.normal_of_pending inv pending, fun e v ok h =>
    Worker.pending_step inv ok pending h⟩, fun v running h item queued later u ran => ?_⟩
  have unstopped : w.stopRequested = false := by
    by_contra requested
    rw [Bool.not_eq_false] at requested
    rw [inv.queue requested] at queued
    cases queued
  have taken := Worker.taken_of_stop inv.accounted started running unstopped h queued
  have finally_taken := run_invariant
    (fun _ _ _ taken (_ : True) => Worker.taken_step taken) taken
      (meets_of_forall (fun _ _ _ => trivial) _)
    ran
  have never := finally_taken.never item rfl
  exact ⟨never.1, never.2, finally_taken.failing⟩

def stopDuringHome : List WorkerEvent :=
  [.submit (.home .both) none, .thread .go, .thread .go, .thread (.gated none),
    .thread (.written 1), .submit (.sort slotThree) none, .stop]

theorem priorityStop_precedes_home :
    (runD Worker.step daemonWorker (bringUp ++ stopDuringHome)).StopPending ∧
      (runD Worker.step daemonWorker (bringUp ++ stopDuringHome)).normal = [] := by
  have ran : run Worker.step daemonWorker (bringUp ++ stopDuringHome) =
      some (runD Worker.step daemonWorker (bringUp ++ stopDuringHome)) :=
    run_eq_runD (by decide +kernel)
  have pending : (runD Worker.step daemonWorker (bringUp ++ stopDuringHome)).StopPending :=
    ⟨2, by decide +kernel⟩
  exact ⟨pending, ((priorityStop_precedes 16 1 (by decide) _ _ (by decide +kernel) ran).1
    pending).1⟩

def stopBeforeWrite : List WorkerEvent :=
  [.submit (.sort slotThree) none, .thread .go, .thread .go, .thread (.gated none), .stop]

/-- The sort that has been popped is written although the stop is pending. -/
theorem priorityStop_overtaken :
    ∃ w v item, run Worker.step daemonWorker (bringUp ++ stopBeforeWrite) = some w ∧
      w.StopPending ∧ w.step (.thread (.written 1)) = some v ∧ v.StopPending ∧
      v.wrote item = true ∧ w.wrote item = false := by
  refine ⟨runD Worker.step daemonWorker (bringUp ++ stopBeforeWrite),
    runD Worker.step daemonWorker (bringUp ++ stopBeforeWrite ++ [.thread (.written 1)]),
    ⟨0, .sort 3, none, some 5⟩, run_eq_runD ?_, ⟨1, ?_⟩, ?_, ⟨1, ?_⟩, ?_⟩
  · decide +kernel
  · decide +kernel
  · exact step_runD (by decide +kernel)
  · decide +kernel
  · decide +kernel

end CaseSorter.Daemon
