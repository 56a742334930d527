import CaseSorter.Daemon.UnsafeStop
import CaseSorter.Daemon.WorkerItems

/-! Work across a session break. A fault recovers after it has drained the queue; the
operator's session intent does not drain it, so an item admitted in the session it tears
down is dispatched in the next one. -/

namespace CaseSorter.Daemon

open CaseSorter.Runs

namespace Pc

def Online : Pc → Prop
  | .perform (.publish state _) next =>
    (state = .ready ∧ next.Online) ∨
      (state = .recovering ∧ ∃ e n, next = .perform (.drain e) n) ∨
      (state = .uncertain ∧ next.Sinks ∧ next.Fails) ∨
      (state = .disconnected ∧ ∃ action item, next = connect (.session action item))
  | .perform .publishStopped next => next.Over
  | .perform _ next | .closeTransport _ next => next.Online
  | .unstarted | .openTransport _ | .handshake _ _ | .activate _ _ | .reactivate _
  | .reconnecting _ _ | .recovering _ _ => False
  | _ => True

def PublishesOnline : Pc → Prop
  | .perform (.publish .ready _) next => next.Online ∧ next.PublishesOnline
  | .perform _ next | .closeTransport _ next => next.PublishesOnline
  | _ => True

def Plain : Pc → Prop
  | .take _ _ | .gate _ _ => False
  | .perform _ next | .closeTransport _ next => next.Plain
  | _ => True

def Tidy : Pc → Prop
  | .perform _ next | .closeTransport _ next => next.Plain
  | _ => True

theorem Plain.tidy {pc : Pc} (plain : pc.Plain) : pc.Tidy := by
  cases pc <;> first | exact plain | trivial

theorem online_failSession (fault : Fault) (reason : String) (t : TransportId) :
    (failSession fault reason (.loop t)).Online :=
  .inr (.inr (.inl ⟨rfl, trivial, trivial⟩))

theorem online_sessionFailed (action : SessionAction) (item : WorkItem) (fault : Fault) :
    (sessionFailed action item fault).Online := .inr (.inr (.inl ⟨rfl, trivial, trivial⟩))

theorem online_verified (t : TransportId) (p : Purpose) :
    (verified t p).Online ∧ (verified t p).PublishesOnline := by
  cases p <;> exact ⟨trivial, trivial⟩

theorem online_await (t : TransportId) (item : WorkItem) (id : Nat) (responses : List Response) :
    (await t item id responses).Online ∧ (await t item id responses).PublishesOnline := by
  unfold await
  split_ifs <;> exact ⟨trivial, trivial⟩

theorem online_received (t : TransportId) (item : WorkItem) (id : Nat)
    (responses : List Response) (r : Response) :
    (Worker.received t item id responses r).Online ∧
      (Worker.received t item id responses r).PublishesOnline := by
  unfold Worker.received
  by_cases terminal : r.terminal = true
  · rw [if_pos terminal]
    exact ⟨trivial, trivial⟩
  · rw [if_neg terminal]
    exact online_await t item id _

theorem online_begin (t : TransportId) (item : WorkItem) (w : Worker) :
    (w.begin t item).Online ∧ (w.begin t item).PublishesOnline := by
  unfold Worker.begin
  split
  · split_ifs
    · exact ⟨.inr (.inr (.inr ⟨rfl, _, _, rfl⟩)), trivial⟩
    · exact ⟨trivial, trivial⟩
  all_goals exact ⟨trivial, trivial⟩

theorem online_afterFault (t : TransportId) (fault : Fault) :
    (afterFault t fault).Online ∧ (afterFault t fault).PublishesOnline := by
  unfold afterFault
  split_ifs
  · exact ⟨.inr (.inl ⟨rfl, _, _, rfl⟩), trivial⟩
  · exact ⟨trivial, trivial⟩

theorem online_afterResult (t : TransportId) (item : WorkItem) :
    (afterResult t item).Online ∧ (afterResult t item).PublishesOnline := by
  unfold afterResult
  split_ifs <;> exact ⟨trivial, trivial⟩

theorem online_stopFailed (t : TransportId) (fault : Fault) (cause : StopCause) :
    (stopFailed t fault cause).Online ∧ (stopFailed t fault cause).PublishesOnline := by
  cases cause
  · exact ⟨online_failSession fault "priority stop was unsafe" t, trivial⟩
  · exact ⟨trivial, trivial⟩
  · exact ⟨online_failSession fault "priority stop was unsafe" t, trivial⟩

theorem online_stopAcknowledged (t : TransportId) (cause : StopCause) :
    (stopAcknowledged t cause).Online ∧ (stopAcknowledged t cause).PublishesOnline := by
  cases cause <;> exact ⟨trivial, trivial⟩

theorem plain_attempt (left : Nat) (fault : Fault) : (attempt left fault).Plain := by
  cases left <;> trivial

theorem plain_connectFailed (fault : Fault) (p : Purpose) : (connectFailed fault p).Plain := by
  cases p with
  | reconnect left first => exact plain_attempt left first
  | _ => trivial

theorem plain_unverified (t : TransportId) (p : Purpose) : (unverified t p).Plain := by
  cases p <;> trivial

theorem plain_verified (t : TransportId) (p : Purpose) : (verified t p).Plain := by
  cases p <;> trivial

theorem plain_await (t : TransportId) (item : WorkItem) (id : Nat) (responses : List Response) :
    (await t item id responses).Plain := by
  unfold await
  split_ifs <;> trivial

theorem plain_received (t : TransportId) (item : WorkItem) (id : Nat)
    (responses : List Response) (r : Response) :
    (Worker.received t item id responses r).Plain := by
  unfold Worker.received
  by_cases terminal : r.terminal = true
  · rw [if_pos terminal]
    trivial
  · rw [if_neg terminal]
    exact plain_await t item id _

theorem plain_begin (t : TransportId) (item : WorkItem) (w : Worker) :
    (w.begin t item).Plain := by
  unfold Worker.begin
  split
  · split_ifs <;> trivial
  all_goals trivial

theorem plain_afterFault (t : TransportId) (fault : Fault) : (afterFault t fault).Plain := by
  unfold afterFault
  split_ifs <;> trivial

theorem plain_afterResult (t : TransportId) (item : WorkItem) : (afterResult t item).Plain := by
  unfold afterResult
  split_ifs <;> trivial

theorem plain_stopFailed (t : TransportId) (fault : Fault) (cause : StopCause) :
    (stopFailed t fault cause).Plain := by
  cases cause <;> trivial

theorem plain_stopAcknowledged (t : TransportId) (cause : StopCause) :
    (stopAcknowledged t cause).Plain := by
  cases cause <;> trivial

theorem publishesOnline_attempt (left : Nat) (fault : Fault) :
    (attempt left fault).PublishesOnline := by
  cases left <;> trivial

theorem publishesOnline_connectFailed (fault : Fault) (p : Purpose) :
    (connectFailed fault p).PublishesOnline := by
  cases p with
  | reconnect left first => exact publishesOnline_attempt left first
  | _ => trivial

theorem publishesOnline_unverified (t : TransportId) (p : Purpose) :
    (unverified t p).PublishesOnline := by
  cases p <;> trivial

end Pc

namespace Worker

theorem Moves.publishesOnline {w : Worker} {pc pc' : Pc} {i : Input} {c : Cmd}
    (m : Moves w pc i c pc') (online : pc.PublishesOnline) : pc'.PublishesOnline := by
  cases m
  case perform o =>
    cases o with
    | publish state reason =>
      cases state with
      | ready => exact online.2
      | _ => exact online
    | _ => exact online
  case closed => exact online
  case openedClosing => exact Pc.publishesOnline_unverified _ _
  case openFailed => exact Pc.publishesOnline_connectFailed _ _
  case handshakeFailed => exact Pc.publishesOnline_connectFailed _ _
  case activateFailed => exact Pc.publishesOnline_connectFailed _ _
  case activated => exact Pc.online_verified _ _
  case reactivated => exact ⟨trivial, trivial⟩
  case reactivateFailed => exact Pc.publishesOnline_attempt _ _
  case reconnect => exact Pc.publishesOnline_attempt _ _
  case dispatched => exact (Pc.online_begin _ _ _).2
  case sent => exact (Pc.online_await _ _ _ _).2
  case readNothing => exact (Pc.online_await _ _ _ _).2
  case readResponse => exact (Pc.online_received _ _ _ _ _).2
  case faulted => exact (Pc.online_afterFault _ _).2
  case finished => exact (Pc.online_afterResult _ _).2
  case refreshFailed => exact (Pc.online_afterFault _ _).2
  case stopUnsent => exact (Pc.online_stopFailed _ _ _).2
  case stopUnanswered => exact (Pc.online_stopFailed _ _ _).2
  case stopAcknowledged => exact (Pc.online_stopAcknowledged _ _).2
  all_goals trivial

theorem Moves.online {w : Worker} {pc pc' : Pc} {i : Input} {c : Cmd} (m : Moves w pc i c pc')
    (online : pc.Online) (quiet : ∀ state reason, c ≠ .op (.publish state reason))
    (live : c ≠ .op .publishStopped) : pc'.Online := by
  cases m
  case perform o =>
    cases o with
    | publish state reason => exact absurd rfl (quiet state reason)
    | publishStopped => exact absurd rfl live
    | _ => exact online
  case closed => exact online
  case dispatched => exact (Pc.online_begin _ _ _).1
  case statusFailed => exact Pc.online_sessionFailed _ _ _
  case sent => exact (Pc.online_await _ _ _ _).1
  case readNothing => exact (Pc.online_await _ _ _ _).1
  case readResponse => exact (Pc.online_received _ _ _ _ _).1
  case faulted => exact (Pc.online_afterFault _ _).1
  case finished => exact (Pc.online_afterResult _ _).1
  case refreshFailed => exact (Pc.online_afterFault _ _).1
  case stopUnsent => exact (Pc.online_stopFailed _ _ _).1
  case stopUnanswered => exact (Pc.online_stopFailed _ _ _).1
  case stopAcknowledged => exact (Pc.online_stopAcknowledged _ _).1
  all_goals trivial

theorem Moves.plain {w : Worker} {pc pc' : Pc} {i : Input} {c : Cmd} (m : Moves w pc i c pc')
    (tidy : pc.Tidy) : pc'.Plain ∨ (∃ t item rest, pc = .loop t ∧ pc' = .take t item ∧
        w.normal = item :: rest ∧ ¬ (w.state = .closing ∨ w.state = .failed)) ∨
      ∃ t item, pc = .take t item ∧ pc' = .gate t item ∧ c = .setRunning item := by
  cases m
  case itemNext stop live queue => exact .inr (.inl ⟨_, _, _, rfl, rfl, queue, live⟩)
  case taken => exact .inr (.inr ⟨_, _, rfl, rfl, rfl⟩)
  all_goals left
  case perform => exact tidy
  case closed => exact tidy
  case openedClosing => exact Pc.plain_unverified _ _
  case openFailed => exact Pc.plain_connectFailed _ _
  case handshakeFailed => exact Pc.plain_connectFailed _ _
  case activateFailed => exact Pc.plain_connectFailed _ _
  case activated => exact Pc.plain_verified _ _
  case reactivateFailed => exact Pc.plain_attempt _ _
  case reconnect => exact Pc.plain_attempt _ _
  case dispatched => exact Pc.plain_begin _ _ _
  case sent => exact Pc.plain_await _ _ _ _
  case readNothing => exact Pc.plain_await _ _ _ _
  case readResponse => exact Pc.plain_received _ _ _ _ _
  case faulted => exact Pc.plain_afterFault _ _
  case finished => exact Pc.plain_afterResult _ _
  case refreshFailed => exact Pc.plain_afterFault _ _
  case stopUnsent => exact Pc.plain_stopFailed _ _ _
  case stopUnanswered => exact Pc.plain_stopFailed _ _ _
  case stopAcknowledged => exact Pc.plain_stopAcknowledged _ _
  all_goals trivial

/-- The verified session with this generation is the current one. -/
def Current (w : Worker) (g : Nat) : Prop := w.session.state = .ready ∧ w.session.generation = g

/-- A session intent tears its session down only when nothing admitted in it is queued. -/
def tearsDownEmpty (w : Worker) (e : WorkerEvent) : Bool :=
  match w.pc, e with
  | .perform (.publish .disconnected _) (.perform (.publish .connecting _)
      (.openTransport (.session _ _))), .thread .go =>
    w.normal.all fun item => item.admittedIn ≠ some w.session.generation
  | _, _ => true

/-- Where an item admitted in a session that is gone may be. -/
structure Sessions (w : Worker) : Prop where
  accounted : w.Accounted
  drained : w.Drained
  past : w.ClosedOver
  publishes : w.pc.PublishesOnline
  tidy : w.pc.Tidy
  online : w.session.state = .ready → w.pc.Online
  queued : ∀ item ∈ w.normal, ∀ g, item.admittedIn = some g →
    w.Current g ∨ (∃ e next, w.pc = .perform (.drain e) next) ∨ w.GivenUp
  held : ∀ t item, w.pc = .take t item ∨ w.pc = .gate t item →
    ∀ g, item.admittedIn = some g →
    w.Current g

theorem queued_publish {w : Worker} {state : ConnectionState} {reason : String} {next : Pc}
    (inv : w.Sessions) (at_pc : w.pc = .perform (.publish state reason) next)
    (guarded : w.tearsDownEmpty (.thread .go) = true) {item : WorkItem} (queued : item ∈ w.normal)
    {g : Nat} (admitted : item.admittedIn = some g) (current : w.Current g) :
    ({ w.apply (.op (.publish state reason)) with pc := next } : Worker).Current g ∨
      (∃ e n, next = .perform (.drain e) n) ∨
      ({ w.apply (.op (.publish state reason)) with pc := next } : Worker).GivenUp := by
  have online := inv.online current.1
  rw [at_pc] at online
  rcases online with ⟨rfl, -⟩ | ⟨rfl, e, n, rfl⟩ | ⟨rfl, sinks, fails⟩ |
    ⟨rfl, action, intent, rfl⟩
  · have same : w.session.transition .ready reason = w.session := if_pos current.1.symm
    left
    refine ⟨?_, ?_⟩
    · exact (congrArg SessionSnapshot.state same).trans current.1
    · exact (congrArg SessionSnapshot.generation same).trans current.2
  · exact .inr (.inl ⟨e, n, rfl⟩)
  · right; right
    refine ⟨sinks, .inl (transition_uncertain reason _), .inr ⟨fun closed => ?_, fails⟩⟩
    rw [(inv.drained (inv.past closed)).1] at queued
    cases queued
  · simp only [tearsDownEmpty, at_pc, Pc.connect, List.all_eq_true, decide_eq_true_eq] at guarded
    have other := guarded item queued
    rw [admitted, current.2] at other
    exact absurd rfl other

theorem session_quiet {w : Worker} {c : Cmd}
    (quiet : ∀ state reason, c ≠ .op (.publish state reason))
    (live : c ≠ .op .publishStopped) : (w.apply c).session = w.session := by
  rw [session_apply]
  split
  · exact absurd rfl (quiet _ _)
  · exact absurd rfl live
  · rfl

theorem online_move {w : Worker} {i : Input} {c : Cmd} {pc' : Pc} (inv : w.Sessions)
    (m : Moves w w.pc i c pc') (ready : (w.apply c).session.state = .ready) : pc'.Online := by
  by_cases publishes : ∃ state reason, c = .op (.publish state reason)
  · obtain ⟨state, reason, rfl⟩ := publishes
    have state_ready : state = .ready := by
      rw [session_apply] at ready
      simp only [SessionSnapshot.transition] at ready
      split_ifs at ready with same
      · exact same.trans ready
      · exact ready
    subst state_ready
    have wellFormed := inv.publishes
    generalize w.pc = pc at m wellFormed
    cases m
    exact wellFormed.1
  · by_cases stopped : c = .op .publishStopped
    · subst stopped
      exfalso
      rw [session_apply] at ready
      simp only [SessionSnapshot.transition] at ready
      split_ifs at ready with uncertain disconnected
      · rw [uncertain] at ready
        cases ready
      · rw [← disconnected] at ready
        cases ready
    · have quiet : ∀ state reason, c ≠ .op (.publish state reason) := fun state reason same =>
        publishes ⟨state, reason, same⟩
      rw [session_quiet quiet stopped] at ready
      exact m.online (inv.online ready) quiet stopped

theorem queued_move {w : Worker} {i : Input} {c : Cmd} {pc' : Pc} (inv : w.Sessions)
    (guarded : w.tearsDownEmpty (.thread i) = true) (m : Moves w w.pc i c pc') {item : WorkItem}
    (member : item ∈ (w.apply c).normal) {g : Nat} (admitted : item.admittedIn = some g) :
    ({ w.apply c with pc := pc' } : Worker).Current g ∨
      (∃ e next, pc' = .perform (.drain e) next) ∨
      ({ w.apply c with pc := pc' } : Worker).GivenUp := by
  have queued := mem_normal_apply member
  rcases inv.queued item queued g admitted with current | ⟨e, next, at_pc⟩ | given
  · by_cases publishes : ∃ state reason, c = .op (.publish state reason)
    · obtain ⟨state, reason, rfl⟩ := publishes
      generalize at_pc : w.pc = pc at m
      cases m
      exact queued_publish inv at_pc guarded queued admitted current
    · by_cases stopped : c = .op .publishStopped
      · subst stopped
        exfalso
        generalize at_pc : w.pc = pc at m
        cases m
        have past := inv.online current.1
        rw [at_pc] at past
        have gone := inv.drained (by rw [at_pc]; exact past)
        rw [gone.1] at queued
        cases queued
      · left
        have same :=
          session_quiet (w := w) (fun state reason same => publishes ⟨state, reason, same⟩)
          stopped
        exact ⟨(congrArg SessionSnapshot.state same).trans current.1,
          (congrArg SessionSnapshot.generation same).trans current.2⟩
  · rw [at_pc] at m
    cases m
    cases member
  · exact .inr (.inr (givenUp_move given m))

theorem sessions_move {w : Worker} {i : Input} {c : Cmd} {pc' : Pc} (inv : w.Sessions)
    (guarded : w.tearsDownEmpty (.thread i) = true) (m : Moves w w.pc i c pc')
    (accounted : ({ w.apply c with pc := pc' } : Worker).Accounted) :
    ({ w.apply c with pc := pc' } : Worker).Sessions := by
  have plain := m.plain inv.tidy
  refine ⟨accounted, drained_move inv.drained m, closedOver_move inv.past m,
    m.publishesOnline inv.publishes, ?_, fun ready => online_move inv m ready,
    fun item member g admitted => queued_move inv guarded m member admitted,
    fun t item holds g admitted => ?_⟩
  · rcases plain with plain | ⟨t, item, rest, -, rfl, -⟩ | ⟨t, item, -, rfl, -⟩
    · exact plain.tidy
    · trivial
    · trivial
  · rcases plain with plain | ⟨t', item', rest, at_loop, rfl, queue, live⟩ |
      ⟨t', item', at_take, rfl, rfl⟩
    · change pc' = _ ∨ pc' = _ at holds
      rcases holds with rfl | rfl <;> exact plain.elim
    · -- the item comes from the queue of the current session
      have same : item' = item := by
        rcases holds with holds | holds <;> cases holds
        rfl
      subst same
      rw [at_loop] at m
      cases m
      rcases inv.queued item' (by rw [queue]; exact List.mem_cons_self) g admitted with
        current | ⟨e, next, at_pc⟩ | given
      · exact current
      · rw [at_loop] at at_pc
        cases at_pc
      · rcases given.failed with failed | ⟨-, fails⟩
        · exact absurd (.inr failed) live
        · rw [at_loop] at fails
          exact fails.elim
    · have same : item' = item := by
        rcases holds with holds | holds <;> cases holds
        rfl
      subst same
      exact inv.held t' item' (.inl at_take) g admitted

theorem sessions_caller {w v : Worker} (inv : w.Sessions) (same : SameThread w v)
    (accounted : v.Accounted) (drained : v.Drained) (past : v.ClosedOver)
    (queue : ∀ item ∈ v.normal, item ∈ w.normal ∨
      ∀ g, item.admittedIn = some g → w.Current g) : v.Sessions := by
  have current : ∀ g, v.Current g ↔ w.Current g := fun g => by
    simp only [Current, same.session]
  refine ⟨accounted, drained, past, by rw [same.pc]; exact inv.publishes,
    by rw [same.pc]; exact inv.tidy, ?_, fun item member g admitted => ?_,
    fun t item holds g admitted => ?_⟩
  · rw [same.session, same.pc]
    exact inv.online
  · rcases queue item member with before | added
    · rw [current, same.pc]
      refine (inv.queued item before g admitted).imp_right fun rest =>
        rest.imp_right fun given => ?_
      exact givenUp_caller inv.accounted.fresh given same
    · exact .inl ((current g).mpr (added g admitted))
  · rw [same.pc] at holds
    exact (current g).mpr (inv.held t item holds g admitted)

theorem current_workItem {w : Worker} {intent : WorkerIntent}
    {onDispatch : Option OperationRecord} {g : Nat}
    (admitted : (w.workItem intent onDispatch).admittedIn = some g) : w.Current g := by
  simp only [workItem] at admitted
  split_ifs at admitted with ready
  exact ⟨ready, Option.some.inj admitted⟩

theorem sessions_calls {w v : Worker} {e : WorkerEvent} (inv : w.Sessions) (calls : Calls w e v)
    (same : SameThread w v) (accounted : v.Accounted) (drained : v.Drained)
    (past : v.ClosedOver) : v.Sessions := by
  refine sessions_caller inv same accounted drained past fun item member => ?_
  cases calls with
  | admitted running ready unstopped =>
    rcases List.mem_append.mp member with before | added
    · exact .inl before
    · rw [List.mem_singleton.mp added]
      exact .inr fun g admitted => current_workItem admitted
  | stopAccepted running unstopped => cases member
  | closing live => cases member
  | _ => exact .inl member

theorem sessions_step {w v : Worker} {e : WorkerEvent} (inv : w.Sessions)
    (guarded : w.tearsDownEmpty e = true) (h : w.step e = some v) : v.Sessions := by
  have accounted := accounted_step inv.accounted h
  have drained := drained_step inv.drained h
  have past := closedOver_step inv.accounted.fresh inv.past h
  rcases step_calls h with calls | ⟨i, rfl, moved⟩
  · rcases calls.sameThread with ⟨rfl, new, rfl⟩ | same
    · have fresh := inv.accounted.fresh new
      have offline : w.session.state ≠ .ready := fun ready => by
        have online := inv.online ready
        rw [fresh.1] at online
        exact online
      refine ⟨accounted, drained, past, trivial, trivial, fun ready => absurd ready offline,
        fun item member => ?_, fun t item holds => ?_⟩
      · rw [show ({ w with state := .starting, pc := Pc.connect .startup } : Worker).normal = []
          from fresh.2.2.1] at member
        cases member
      · rcases holds with holds | holds <;> cases holds
    · exact sessions_calls inv calls same accounted drained past
  · rcases threadStep_cases moved with ⟨f, s, rest, -, rfl⟩ | ⟨-, c, pc', m, rfl⟩
    · refine ⟨accounted, drained, past, inv.publishes, inv.tidy, inv.online,
        fun item member g admitted => ?_, inv.held⟩
      refine (inv.queued item member g admitted).imp_right fun rest =>
        rest.imp_right fun given => ?_
      exact ⟨given.sinks, given.uncertain, given.failed⟩
    · exact sessions_move inv guarded m accounted

theorem sessions_new (capacity attempts : Nat) (pos : 0 < capacity) :
    (Worker.new capacity attempts pos).Sessions := by
  refine ⟨accounted_new capacity attempts pos, fun _ => ⟨rfl, rfl, by simp [Worker.new]⟩,
    fun closed => ?_, trivial, trivial, fun ready => ?_, fun item member => ?_,
    fun t item holds => ?_⟩
  · cases closed
  · cases ready
  · cases member
  · rcases holds with holds | holds <;> cases holds

theorem generation_transition (state : ConnectionState) (reason : String) (s : SessionSnapshot) :
    s.transition state reason = s ∨
      s.generation < (s.transition state reason).generation := by
  unfold SessionSnapshot.transition
  split_ifs
  · exact .inl rfl
  · exact .inr (Nat.lt_succ_self _)

theorem generation_apply (c : Cmd) (w : Worker) :
    (w.apply c).session = w.session ∨ w.session.generation < (w.apply c).session.generation := by
  rw [session_apply]
  split
  · exact generation_transition _ _ _
  · split_ifs
    · exact .inl rfl
    · exact generation_transition _ _ _
  · exact .inl rfl

theorem generation_step {w v : Worker} {e : WorkerEvent} (h : w.step e = some v) :
    v.session = w.session ∨ w.session.generation < v.session.generation := by
  rcases step_cases h with ⟨-, -, rfl⟩ | ⟨i, rfl, moved⟩ | same
  · exact .inl rfl
  · rcases threadStep_cases moved with ⟨f, s, rest, -, rfl⟩ | ⟨-, c, pc', m, rfl⟩
    · exact .inl rfl
    · exact generation_apply c w
  · exact .inl same.session

def Aged (w : Worker) : Prop :=
  ∀ item g, w.Admitted item → item.admittedIn = some g → w.Current g ∨
    g < w.session.generation

theorem admitted_step {w v : Worker} {e : WorkerEvent} (h : w.step e = some v) {item : WorkItem}
    (admitted : v.Admitted item) :
    w.Admitted item ∨
      (v.session = w.session ∧ ∃ intent gate, item = w.workItem intent gate) := by
  rcases step_calls h with calls | ⟨i, rfl, moved⟩
  · cases calls with
    | admitted running ready unstopped =>
      rcases List.mem_cons.mp admitted with added | before
      · cases added
        exact .inr ⟨rfl, _, _, rfl⟩
      · exact .inl before
    | preemptedFailed found => exact .inl ((admitted_settlePending _ _ _ item).mp admitted)
    | stopJoined running requested => exact .inl (by simpa [Admitted] using admitted)
    | stopAccepted running unstopped => exact .inl (by simpa [Admitted] using admitted)
    | closing live => exact .inl (by simpa [Admitted] using admitted)
    | _ => exact .inl admitted
  · rcases threadStep_cases moved with ⟨f, s, rest, -, rfl⟩ | ⟨-, c, pc', m, rfl⟩
    · exact .inl ((admitted_settlePending f s _ item).mp admitted)
    · exact .inl ((admitted_apply w c item).mp admitted)

theorem aged_step {w v : Worker} {e : WorkerEvent} (aged : w.Aged) (h : w.step e = some v) :
    v.Aged := by
  intro item g admitted session
  rcases admitted_step h admitted with before | ⟨same, intent, gate, rfl⟩
  · rcases aged item g before session with current | left
    · rcases generation_step h with same | newer
      · left
        rw [Current, same]
        exact current
      · exact .inr (current.2 ▸ newer)
    · right
      rcases generation_step h with same | newer
      · rw [same]
        exact left
      · exact Nat.lt_trans left newer
  · left
    rw [Current, same]
    exact current_workItem session

theorem left_step {w v : Worker} {e : WorkerEvent} {g : Nat} (left : g < w.session.generation)
    (h : w.step e = some v) : g < v.session.generation := by
  rcases generation_step h with same | newer
  · rw [same]
    exact left
  · exact Nat.lt_trans left newer

theorem Moves.gate {w : Worker} {pc pc' : Pc} {i : Input} {item : WorkItem}
    (m : Moves w pc i (.dispatched item) pc') : ∃ t, pc = .gate t item := by
  cases m
  exact ⟨_, rfl⟩

theorem gate_of_dispatched {w v : Worker} {e : WorkerEvent} {item : WorkItem}
    (h : w.step e = some v) (did : v.Did (.dispatched item)) :
    w.Did (.dispatched item) ∨ ∃ t, w.pc = .gate t item := by
  rcases step_cases h with ⟨-, -, rfl⟩ | ⟨i, rfl, moved⟩ | same
  · exact .inl did
  · rcases threadStep_cases moved with ⟨f, s, rest, -, rfl⟩ | ⟨-, c, pc', m, rfl⟩
    · exact .inl ((did_settlePending f s _ _).mp did)
    · rcases (did_apply w c _).mp did with rfl | before
      · exact .inr m.gate
      · exact .inl before
  · exact .inl ((same.did _).mp did)

/-- An item whose session has been left has not been dispatched. -/
structure LeftBehind (item : WorkItem) (g : Nat) (w : Worker) : Prop where
  sessions : w.Sessions
  items : w.Items
  admitted : w.Admitted item
  left : g < w.session.generation
  undispatched : ¬ w.Did (.dispatched item)

theorem not_gate_of_left {w : Worker} {item : WorkItem} {g : Nat} (inv : w.Sessions)
    (session : item.admittedIn = some g) (left : g < w.session.generation) (t : TransportId) :
    w.pc ≠ .gate t item := by
  intro at_gate
  have current := inv.held t item (.inr at_gate) g session
  exact Nat.lt_irrefl _ (current.2 ▸ left)

theorem admitted_kept {w v : Worker} {e : WorkerEvent} (h : w.step e = some v) {item : WorkItem}
    (admitted : w.Admitted item) : v.Admitted item := by
  rcases step_calls h with calls | ⟨i, rfl, moved⟩
  · cases calls with
    | preemptedFailed found => exact (admitted_settlePending _ _ _ item).mpr admitted
    | admitted running ready unstopped => exact List.mem_cons_of_mem _ admitted
    | stopJoined running requested => exact List.mem_cons_of_mem _ admitted
    | stopAccepted running unstopped => exact List.mem_cons_of_mem _ admitted
    | closing live => exact List.mem_cons_of_mem _ admitted
    | _ => exact admitted
  · rcases threadStep_cases moved with ⟨f, s, rest, -, rfl⟩ | ⟨-, c, pc', m, rfl⟩
    · exact (admitted_settlePending f s _ item).mpr admitted
    · exact (admitted_apply w c item).mpr admitted

theorem leftBehind_step {w v : Worker} {e : WorkerEvent} {item : WorkItem} {g : Nat}
    (session : item.admittedIn = some g) (inv : w.LeftBehind item g)
    (guarded : w.tearsDownEmpty e = true) (h : w.step e = some v) : v.LeftBehind item g := by
  refine ⟨sessions_step inv.sessions guarded h, items_step inv.items inv.sessions.accounted h,
    admitted_kept h inv.admitted, left_step inv.left h, fun did => ?_⟩
  rcases gate_of_dispatched h did with before | ⟨t, at_gate⟩
  · exact inv.undispatched before
  · exact not_gate_of_left inv.sessions session inv.left t at_gate

end Worker

/-- In every run in which no session intent tears a session down with work admitted in it
still queued: an item whose session is no longer current is never dispatched from then on,
and if it had not been, it is given no result and has failed when the thread has ended. -/
theorem work_notCarriedOver (capacity attempts : Nat) (pos : 0 < capacity)
    (es later : List WorkerEvent) (w v : Worker) (item : WorkItem) (g : Nat)
    (guarded : Meets Worker.step (fun w e => w.tearsDownEmpty e = true)
      (Worker.new capacity attempts pos) (es ++ later))
    (reached : run Worker.step (Worker.new capacity attempts pos) es = some w)
    (admitted : w.Admitted item) (session : item.admittedIn = some g) (broken : ¬ w.Current g)
    (continued : run Worker.step w later = some v) :
    (∀ i next, v.control v.pc i ≠ some (.dispatched item, next)) ∧
      (¬ w.Did (.dispatched item) →
        ¬ v.Did (.dispatched item) ∧ (∀ r, v.futures item.future ≠ .resolved (.ok r)) ∧
          (v.pc = .ended → v.todo = [] → v.preempted = [] →
            v.futures item.future = .cancelled ∨
              ∃ e, v.futures item.future = .resolved (.error e))) := by
  have start : (Worker.new capacity attempts pos).Sessions ∧
      (Worker.new capacity attempts pos).Items ∧ (Worker.new capacity attempts pos).Aged :=
    ⟨Worker.sessions_new capacity attempts pos, Worker.items_new capacity attempts pos,
      fun item g was => by cases was⟩
  have step : ∀ w e v, w.Sessions ∧ w.Items ∧ w.Aged → w.tearsDownEmpty e = true →
      Worker.step w e = some v → v.Sessions ∧ v.Items ∧ v.Aged := fun w e v inv ok h =>
    ⟨Worker.sessions_step inv.1 ok h, Worker.items_step inv.2.1 inv.1.accounted h,
      Worker.aged_step inv.2.2 h⟩
  obtain ⟨sessions, items, aged⟩ := run_invariant step start (meets_append guarded) reached
  have left := (aged item g admitted session).resolve_left broken
  have rest := Meets.rest guarded reached
  have final : v.Sessions ∧ v.Items ∧ v.Aged :=
    run_invariant step ⟨sessions, items, aged⟩ rest
    continued
  have leftAtEnd := run_invariant (motive := fun w => g < w.session.generation)
    (fun _ _ _ left _ => Worker.left_step left) left rest continued
  refine ⟨fun i next dispatches => ?_, fun undispatched => ?_⟩
  · obtain ⟨t, at_gate⟩ := (Worker.control_moves dispatches).gate
    exact Worker.not_gate_of_left final.1 session leftAtEnd t at_gate
  · have behind := run_invariant (fun _ _ _ => Worker.leftBehind_step session)
      (⟨sessions, items, admitted, left, undispatched⟩ : w.LeftBehind item g) rest continued
    have noResult : ∀ r, v.futures item.future ≠ .resolved (.ok r) := fun r resolved =>
      behind.undispatched (behind.items.results item r behind.admitted resolved)
    refine ⟨behind.undispatched, noResult, fun ended todo preempted => ?_⟩
    have closed := Worker.closed_of_ended behind.sessions.accounted behind.sessions.drained ended
      todo preempted item.future (behind.items.bound item behind.admitted)
    cases future : v.futures item.future with
    | pending =>
      rw [future] at closed
      cases closed
    | running =>
      rw [future] at closed
      cases closed
    | cancelled => exact .inl rfl
    | resolved s =>
      cases s with
      | ok r => exact absurd future (noResult r)
      | error e => exact .inr ⟨e, rfl⟩

def queryFaults : List WorkerEvent :=
  [.submit (.query .status) none, .submit (.sort slotThree) none, .thread .go, .thread .go,
    .thread (.gated none), .thread (.fault (.recovery "status timed out; v1 recovered" true true))]
    ++ goes 3

def recoverAndClose : List WorkerEvent :=
  goes 5 ++ [.thread (.profile idleProfile), .thread .go] ++ shutDown

def queuedSort : WorkItem := ⟨1, .sort slotThree, none, some 5⟩

theorem work_notCarriedOver_recovered :
    (runD Worker.step (runD Worker.step daemonWorker (bringUp ++ queryFaults))
      recoverAndClose).pc = .ended ∧
      ∃ e, (runD Worker.step (runD Worker.step daemonWorker (bringUp ++ queryFaults))
        recoverAndClose).futures 1 = .resolved (.error e) := by
  have ran : run Worker.step daemonWorker (bringUp ++ queryFaults) =
      some (runD Worker.step daemonWorker (bringUp ++ queryFaults)) :=
    run_eq_runD (by decide +kernel)
  have went : run Worker.step (runD Worker.step daemonWorker (bringUp ++ queryFaults))
      recoverAndClose = some (runD Worker.step
        (runD Worker.step daemonWorker (bringUp ++ queryFaults)) recoverAndClose) :=
    run_eq_runD (by decide +kernel)
  have ended : (runD Worker.step (runD Worker.step daemonWorker (bringUp ++ queryFaults))
      recoverAndClose).pc = .ended := by decide +kernel
  refine ⟨ended, ?_⟩
  have failed := (work_notCarriedOver 16 1 (by decide) (bringUp ++ queryFaults) recoverAndClose _ _
    queuedSort 5 (by decide +kernel) ran (by decide +kernel) rfl (fun current => ?_) went).2
    (by decide +kernel)
  · exact (failed.2.2 ended (by decide +kernel) (by decide +kernel)).resolve_left
      (by decide +kernel)
  · exact absurd current.1 (by decide +kernel)

def recoverRequested : List WorkerEvent :=
  [.submit (.session .recover) none, .submit (.sort slotThree) none, .thread .go, .thread .go,
    .thread (.gated none), .thread (.closed none), .thread .go]

def nextSession : List WorkerEvent :=
  [.thread .go, .thread .opened, .thread .go, .thread .verified, .thread .go,
    .thread (.profile idleProfile), .thread .go, .thread (.answer (.status "v2" "idle")),
    .thread .go, .thread .go, .thread .go, .thread (.gated none)]

/-- The sort is dispatched in the session after the one it was admitted in. -/
theorem work_carriedOver :
    ∃ w v, run Worker.step daemonWorker (bringUp ++ recoverRequested) = some w ∧
      run Worker.step w nextSession = some v ∧ w.Admitted queuedSort ∧ ¬ w.Current 5 ∧
      ¬ w.Did (.dispatched queuedSort) ∧ v.Did (.dispatched queuedSort) ∧ v.Current 10 := by
  refine ⟨runD Worker.step daemonWorker (bringUp ++ recoverRequested),
    runD Worker.step (runD Worker.step daemonWorker (bringUp ++ recoverRequested)) nextSession,
    run_eq_runD ?_, run_eq_runD ?_, ?_, fun current => absurd current.1 ?_, ?_, ?_, ?_, ?_⟩
  all_goals decide +kernel

end CaseSorter.Daemon
