import CaseSorter.Daemon.WorkerItems
import CaseSorter.Daemon.WorkerTransports

/-! What the answer to a priority stop means. A success always stands for a stop line that
was written and acknowledged; an error may stem from an exchange that has nothing to do
with the stop, on a link that could still have carried it. -/

namespace CaseSorter.Daemon

open CaseSorter.Runs

namespace Entry

def normalBytes : Entry → Bool
  | .thread (.transmitted _ _) | .thread (.exchangeFailed _ _) | .thread (.observe _) => true
  | _ => false

def writesStop : Entry → Bool
  | .thread .stopWritten => true
  | .thread (.exchangeFailed _ fault) | .thread (.stopUnsent fault)
  | .thread (.stopFailed fault) => fault.rawStop
  | _ => false

def linkFails : Entry → Bool
  | .thread (.stopUnsent _) => true
  | .thread (.exchangeFailed _ fault) | .thread (.stopFailed fault) => fault.transportFailed
  | _ => false

def closesLink : Entry → Bool
  | .thread (.close _ _) => true
  | _ => false

def exchange : Entry → Bool
  | .thread (.transmitted _ _) | .thread (.exchangeFailed _ _) | .thread (.observe _)
  | .thread .stopWritten | .thread (.stopUnsent _) | .thread .stopAcknowledged
  | .thread (.stopFailed _) => true
  | _ => false

def excuses (x : Entry) : Bool := x.writesStop || x.linkFails || x.closesLink

end Entry

def stopWritten : List Entry → Bool
  | [] => false
  | .thread .stopWritten :: _ => true
  | x :: older => !x.normalBytes && stopWritten older

/-- Going back in the record, a stop line was acknowledged before any normal command. -/
def stopAnswered : List Entry → Bool
  | [] => false
  | .thread .stopAcknowledged :: older => stopWritten older
  | x :: older => !x.normalBytes && stopAnswered older

theorem stopWritten_cons {x : Entry} {older : List Entry} (quiet : x.normalBytes = false)
    (written : stopWritten older = true) : stopWritten (x :: older) = true := by
  unfold stopWritten
  split
  · rename_i same
    cases same
  · rfl
  · rename_i same
    cases same
    simp [quiet, written]

theorem stopAnswered_cons {x : Entry} {older : List Entry} (quiet : x.normalBytes = false)
    (other : x ≠ .thread .stopAcknowledged) (answered : stopAnswered older = true) :
    stopAnswered (x :: older) = true := by
  unfold stopAnswered
  split
  · rename_i same
    cases same
  · rename_i same
    cases same
    exact absurd rfl other
  · rename_i same
    cases same
    simp [quiet, answered]

namespace Pc

def condemns : Pc → Bool
  | .faulted _ _ _ | .finish | .perform (.resolveStop (some _)) _ => true
  | .perform _ next => next.condemns
  | _ => false

def acknowledges : Pc → Bool
  | .perform (.resolveStop none) _ => true
  | .perform _ next | .closeTransport _ next => next.acknowledges
  | _ => false

def awaits : Pc → Bool
  | .awaitStop _ _ => true
  | .perform _ next | .closeTransport _ next => next.awaits
  | _ => false

def Mute (pc : Pc) : Prop := pc.acknowledges = false ∧ pc.awaits = false

def Clear (pc : Pc) : Prop := pc.condemns = false ∧ pc.Mute

theorem mute_attempt (left : Nat) (fault : Fault) : (attempt left fault).Mute := by
  cases left <;> exact ⟨rfl, rfl⟩

theorem mute_connectFailed (fault : Fault) (p : Purpose) : (connectFailed fault p).Mute := by
  cases p with
  | reconnect left first => exact mute_attempt left first
  | _ => exact ⟨rfl, rfl⟩

theorem mute_unverified (t : TransportId) (p : Purpose) : (unverified t p).Mute := by
  cases p <;> exact ⟨rfl, rfl⟩

theorem mute_stopFailed (t : TransportId) (fault : Fault) (cause : StopCause) :
    (stopFailed t fault cause).Mute := by
  cases cause <;> exact ⟨rfl, rfl⟩

theorem clear_verified (t : TransportId) (p : Purpose) : (verified t p).Clear := by
  cases p <;> exact ⟨rfl, rfl, rfl⟩

theorem clear_await (t : TransportId) (item : WorkItem) (id : Nat) (responses : List Response) :
    (await t item id responses).Clear := by
  unfold await
  split_ifs <;> exact ⟨rfl, rfl, rfl⟩

theorem clear_received (t : TransportId) (item : WorkItem) (id : Nat)
    (responses : List Response) (r : Response) :
    (Worker.received t item id responses r).Clear := by
  unfold Worker.received
  by_cases terminal : r.terminal = true
  · rw [if_pos terminal]
    exact ⟨rfl, rfl, rfl⟩
  · rw [if_neg terminal]
    exact clear_await t item id _

theorem clear_begin (t : TransportId) (item : WorkItem) (w : Worker) :
    (w.begin t item).Clear := by
  unfold Worker.begin
  split
  · split_ifs <;> exact ⟨rfl, rfl, rfl⟩
  all_goals exact ⟨rfl, rfl, rfl⟩

theorem clear_afterFault (t : TransportId) (fault : Fault) : (afterFault t fault).Clear := by
  unfold afterFault
  split_ifs <;> exact ⟨rfl, rfl, rfl⟩

theorem clear_afterResult (t : TransportId) (item : WorkItem) : (afterResult t item).Clear := by
  unfold afterResult
  split_ifs <;> exact ⟨rfl, rfl, rfl⟩

theorem awaits_stopAcknowledged (t : TransportId) (cause : StopCause) :
    (stopAcknowledged t cause).condemns = false ∧ (stopAcknowledged t cause).awaits = false := by
  cases cause <;> exact ⟨rfl, rfl⟩

end Pc

namespace Worker

def StopAccepted (w : Worker) (f : FutureId) : Prop := .stopAccepted f ∈ w.log

instance (w : Worker) (f : FutureId) : Decidable (w.StopAccepted f) :=
  inferInstanceAs (Decidable (_ ∈ w.log))

def since (w : Worker) (f : FutureId) : List Entry :=
  w.log.takeWhile fun x => decide (x ≠ .stopAccepted f)

def linkLost (w : Worker) : Bool :=
  (List.range w.obtained).all (fun t => decide (t ∈ w.closedTransports)) ||
    (w.log.find? Entry.exchange).any Entry.linkFails

/-- Since its acceptance a stop line was written, the write or the transport failed or was
closed; or there is no link any more. -/
def Excused (w : Worker) (f : FutureId) : Prop :=
  (w.since f).any Entry.excuses = true ∨ w.linkLost = true

/-- No stop is accepted once the thread is bound to fail it on a link that works, and none
is pending when an item is refused, or fails without a stop line on a link that works, or
leaves its new transport behind for a shutdown. -/
def stopExcusable (w : Worker) (e : WorkerEvent) : Bool :=
  match w.pc, e with
  | pc, .stop => !pc.condemns || w.linkLost || w.state ≠ .running
  | .send _ _, .thread (.refused _) => w.stopWaiters.isEmpty
  | .send _ _, .thread (.fault fault) | .polling _ _ _ _, .thread (.fault fault)
  | .reading _ _ _ _, .thread (.fault fault) | .status _ _ _, .thread (.fault fault) =>
    w.stopWaiters.isEmpty || fault.rawStop || fault.transportFailed
  | .openTransport (.session _ _), .thread .opened =>
    w.state ≠ .closing || w.stopWaiters.isEmpty
  | _, _ => true

/-- A move reports the success of a stop only after its acknowledgement. -/
structure Reports (c : Cmd) (pc pc' : Pc) : Prop where
  awaits : pc'.awaits = true → c = .stopWritten ∨
    (pc.awaits = true ∧ (Entry.thread c).normalBytes = false)
  acknowledges : pc'.acknowledges = true → (c = .stopAcknowledged ∧ pc.awaits = true) ∨
    (pc.acknowledges = true ∧ (Entry.thread c).normalBytes = false ∧ c ≠ .stopAcknowledged)

theorem reports_mute {c : Cmd} {pc pc' : Pc} (mute : pc'.Mute) : Reports c pc pc' := by
  obtain ⟨acknowledges, awaits⟩ := mute
  refine ⟨fun waits => ?_, fun acks => ?_⟩
  · rw [awaits] at waits
    cases waits
  · rw [acknowledges] at acks
    cases acks

theorem Moves.reports {w : Worker} {pc pc' : Pc} {i : Input} {c : Cmd}
    (m : Moves w pc i c pc') : Reports c pc pc' := by
  cases m
  case perform o =>
    refine ⟨fun waits => .inr ⟨waits, rfl⟩, fun acks => .inr ⟨?_, rfl, by simp⟩⟩
    cases o with
    | resolveStop error => cases error <;> first | rfl | exact acks
    | _ => exact acks
  case closed =>
    exact ⟨fun waits => .inr ⟨waits, rfl⟩, fun acks => .inr ⟨acks, rfl, by simp⟩⟩
  case stopSent => exact ⟨fun _ => .inl rfl, fun acks => by cases acks⟩
  case stopAcknowledged cause t =>
    refine ⟨fun waits => ?_, fun _ => .inl ⟨rfl, rfl⟩⟩
    rw [(Pc.awaits_stopAcknowledged t cause).2] at waits
    cases waits
  case openedClosing => exact reports_mute (Pc.mute_unverified _ _)
  case openFailed => exact reports_mute (Pc.mute_connectFailed _ _)
  case handshakeFailed => exact reports_mute (Pc.mute_connectFailed _ _)
  case activateFailed => exact reports_mute (Pc.mute_connectFailed _ _)
  case activated => exact reports_mute (Pc.clear_verified _ _).2
  case reactivateFailed => exact reports_mute (Pc.mute_attempt _ _)
  case reconnect => exact reports_mute (Pc.mute_attempt _ _)
  case dispatched => exact reports_mute (Pc.clear_begin _ _ _).2
  case sent => exact reports_mute (Pc.clear_await _ _ _ _).2
  case readNothing => exact reports_mute (Pc.clear_await _ _ _ _).2
  case readResponse => exact reports_mute (Pc.clear_received _ _ _ _ _).2
  case faulted => exact reports_mute (Pc.clear_afterFault _ _).2
  case finished => exact reports_mute (Pc.clear_afterResult _ _).2
  case refreshFailed => exact reports_mute (Pc.clear_afterFault _ _).2
  case stopUnsent => exact reports_mute (Pc.mute_stopFailed _ _ _)
  case stopUnanswered => exact reports_mute (Pc.mute_stopFailed _ _ _)
  all_goals exact reports_mute ⟨rfl, rfl⟩

/-- Where the thread reports the success of a stop, the stop was written and answered. -/
structure Answers (w : Worker) : Prop where
  awaiting : w.pc.awaits = true → stopWritten w.log = true
  acknowledged : w.pc.acknowledges = true → stopAnswered w.log = true
  succeeding : ∀ f r, (f, .ok r) ∈ w.todo → stopAnswered w.log = true

theorem log_cons_apply (c : Cmd) (w : Worker) :
    (w.apply c).log = .thread c :: w.log ∨
      ∃ x, x.normalBytes = false ∧ x ≠ .thread .stopAcknowledged ∧
        (w.apply c).log = x :: .thread c :: w.log := by
  rw [log_apply]
  split
  · right
    split_ifs <;> exact ⟨_, rfl, by simp, rfl⟩
  · exact .inl rfl

theorem stopWritten_apply {w : Worker} {c : Cmd}
    (written : c = .stopWritten ∨
      ((Entry.thread c).normalBytes = false ∧ stopWritten w.log = true)) :
    stopWritten (w.apply c).log = true := by
  have head : stopWritten (.thread c :: w.log) = true := by
    rcases written with rfl | ⟨quiet, before⟩
    · rfl
    · exact stopWritten_cons quiet before
  rcases log_cons_apply c w with same | ⟨x, quiet, -, same⟩
  · rw [same]
    exact head
  · rw [same]
    exact stopWritten_cons quiet head

theorem stopAnswered_apply {w : Worker} {c : Cmd}
    (answered : (c = .stopAcknowledged ∧ stopWritten w.log = true) ∨
      ((Entry.thread c).normalBytes = false ∧ c ≠ .stopAcknowledged ∧
        stopAnswered w.log = true)) :
    stopAnswered (w.apply c).log = true := by
  have head : stopAnswered (.thread c :: w.log) = true := by
    rcases answered with ⟨rfl, written⟩ | ⟨quiet, other, before⟩
    · exact written
    · exact stopAnswered_cons quiet (by simpa using other) before
  rcases log_cons_apply c w with same | ⟨x, quiet, other, same⟩
  · rw [same]
    exact head
  · rw [same]
    exact stopAnswered_cons quiet other head

theorem answers_move {w : Worker} {i : Input} {c : Cmd} {pc' : Pc} (answers : w.Answers)
    (todo : w.todo = []) (m : Moves w w.pc i c pc') :
    ({ w.apply c with pc := pc' } : Worker).Answers := by
  obtain ⟨awaits, acknowledges⟩ := m.reports
  refine ⟨fun waits => stopWritten_apply ?_, fun acks => stopAnswered_apply ?_,
    fun f r member => ?_⟩
  · exact (awaits waits).imp_right fun before => ⟨before.2, answers.awaiting before.1⟩
  · rcases acknowledges acks with ⟨rfl, waits⟩ | ⟨before, quiet, other⟩
    · exact .inl ⟨rfl, answers.awaiting waits⟩
    · exact .inr ⟨quiet, other, answers.acknowledged before⟩
  · change (f, .ok r) ∈ (w.apply c).todo at member
    rw [todo_apply] at member
    split at member
    · rename_i error
      obtain ⟨g, -, same⟩ := List.mem_map.mp member
      cases error with
      | none =>
        -- the waiters of the stop are taken by the code that reports its success
        have acks : w.pc.acknowledges = true := by
          generalize w.pc = pc at m
          cases m
          rfl
        exact stopAnswered_apply (.inr ⟨rfl, by simp, answers.acknowledged acks⟩)
      | some fault => cases (Prod.mk.inj same).2
    · obtain ⟨other, -, same⟩ := List.mem_map.mp member
      cases (Prod.mk.inj same).2
    · obtain ⟨g, -, same⟩ := List.mem_map.mp member
      cases (Prod.mk.inj same).2
    · rw [todo] at member
      cases member

def Entry.Aside (x : Entry) : Prop := ∀ c, x ≠ .thread c

theorem log_settlePending (f : FutureId) (s : Settlement) (w : Worker) :
    (settlePending f s w).log = w.log ∨ ∃ x, Entry.Aside x ∧
      (∀ g, x ≠ .stopAccepted g) ∧
      (settlePending f s w).log = x :: w.log := by
  simp only [settlePending]
  split
  · exact .inr ⟨_, fun c => by simp, fun g => by simp, rfl⟩
  · exact .inl rfl
  · exact .inr ⟨_, fun c => by simp, fun g => by simp, rfl⟩
  · exact .inr ⟨_, fun c => by simp, fun g => by simp, rfl⟩

theorem Calls.log {w v : Worker} {e : WorkerEvent} (calls : Calls w e v) :
    v.log = w.log ∨ ∃ x, Entry.Aside x ∧ (∀ g, x = .stopAccepted g → g = w.nextFuture) ∧
      v.log = x :: w.log := by
  cases calls with
  | admitted running ready unstopped => exact .inr ⟨_, fun c => by simp, fun g => by simp, rfl⟩
  | stopJoined running requested =>
    exact .inr ⟨_, fun c => by simp, fun g same => by cases same; rfl, rfl⟩
  | stopAccepted running unstopped =>
    exact .inr ⟨_, fun c => by simp, fun g same => by cases same; rfl, rfl⟩
  | closing live => exact .inr ⟨_, fun c => by simp, fun g => by simp, rfl⟩
  | preemptedFailed found =>
    refine (log_settlePending _ _ _).imp_right fun ⟨x, aside, other, same⟩ => ?_
    exact ⟨x, aside, fun g accepted => absurd accepted (other g), same⟩
  | _ => exact .inl rfl

theorem normalBytes_aside {x : Entry} (aside : Entry.Aside x) : x.normalBytes = false := by
  cases x with
  | thread c => exact absurd rfl (aside c)
  | _ => rfl

theorem answers_aside {w v : Worker} (answers : w.Answers) (pc : v.pc = w.pc)
    (todo : ∀ p ∈ v.todo, p ∈ w.todo)
    (log : v.log = w.log ∨ ∃ x, Entry.Aside x ∧ v.log = x :: w.log) : v.Answers := by
  have written : stopWritten w.log = true → stopWritten v.log = true := fun before => by
    rcases log with same | ⟨x, aside, same⟩
    · rw [same]
      exact before
    · rw [same]
      exact stopWritten_cons (normalBytes_aside aside) before
  have answered : stopAnswered w.log = true → stopAnswered v.log = true := fun before => by
    rcases log with same | ⟨x, aside, same⟩
    · rw [same]
      exact before
    · rw [same]
      exact stopAnswered_cons (normalBytes_aside aside) (aside _) before
  exact ⟨fun waits => written (answers.awaiting (pc ▸ waits)),
    fun acks => answered (answers.acknowledged (pc ▸ acks)),
    fun f r member => answered (answers.succeeding f r (todo _ member))⟩

theorem answers_step {w v : Worker} {e : WorkerEvent} (answers : w.Answers)
    (h : w.step e = some v) : v.Answers := by
  rcases step_calls h with calls | ⟨i, rfl, moved⟩
  · rcases calls.sameThread with ⟨rfl, new, rfl⟩ | same
    · refine ⟨fun waits => ?_, fun acks => ?_, answers.succeeding⟩
      · cases waits
      · cases acks
    · refine answers_aside answers same.pc (fun p member => same.todo ▸ member) ?_
      exact calls.log.imp_right fun ⟨x, aside, _, added⟩ => ⟨x, aside, added⟩
  · rcases threadStep_cases moved with ⟨f, s, rest, todo, rfl⟩ | ⟨todo, c, pc', m, rfl⟩
    · refine answers_aside answers rfl (fun p member => todo ▸ List.mem_cons_of_mem _ member) ?_
      exact (log_settlePending f s _).imp_right fun ⟨x, aside, _, added⟩ =>
        ⟨x, aside, added⟩
    · exact answers_move answers todo m

/-- No future of a stop is resolved as the future of an item. -/
structure StopLane (w : Worker) : Prop where
  items : w.Items
  accounted : w.Accounted
  bound : ∀ f, w.StopAccepted f → f < w.nextFuture
  kinds : ∀ item, w.Admitted item → ¬ w.StopAccepted item.future
  runs : ∀ f ∈ w.pc.runs, ¬ w.StopAccepted f
  preempted : ∀ p ∈ w.preempted, ¬ w.StopAccepted p.1

theorem stopAccepted_apply (w : Worker) (c : Cmd) (f : FutureId) :
    (w.apply c).StopAccepted f ↔ w.StopAccepted f := by
  simp only [StopAccepted, log_apply]
  split
  · split_ifs <;> simp
  · simp

theorem stopAccepted_settlePending (f g : FutureId) (s : Settlement) (w : Worker) :
    (settlePending f s w).StopAccepted g ↔ w.StopAccepted g := by
  simp only [StopAccepted, settlePending]
  split <;> simp

theorem runs_fetched {w : Worker} {pc pc' : Pc} {i : Input} {c : Cmd} (m : Moves w pc i c pc')
    {f : FutureId} (member : f ∈ pc'.runs) :
    f ∈ pc.runs ∨ ∃ item ∈ pc.fetched, f = item.future := by
  have handsOn := m.handsOn
  cases handsOn with
  | same neutral holds => exact .inl (holds.2 ▸ member)
  | settle waits runs =>
    rw [runs]
    exact .inl (List.mem_cons_of_mem _ member)
  | release waits runs => exact .inl (runs ▸ member)
  | take queue before after =>
    rw [after.2] at member
    cases member
  | run live before after =>
    rename_i item
    rw [after.2, List.mem_singleton] at member
    cases m
    exact .inr ⟨item, List.mem_singleton_self item, member⟩
  | forget cancelled before after =>
    rw [after.2] at member
    cases member
  | finish before after =>
    rw [after.2] at member
    cases member

theorem admitted_of_fetched {w : Worker} (items : w.Items) {item : WorkItem}
    (member : item ∈ w.pc.fetched) : w.Admitted item :=
  items.known item (List.mem_append_right _ (List.mem_append_left _ member))

theorem stopLane_move {w : Worker} {i : Input} {c : Cmd} {pc' : Pc} (lane : w.StopLane)
    (m : Moves w w.pc i c pc') (items : ({ w.apply c with pc := pc' } : Worker).Items)
    (accounted : ({ w.apply c with pc := pc' } : Worker).Accounted) :
    ({ w.apply c with pc := pc' } : Worker).StopLane := by
  have accepted := stopAccepted_apply w c
  refine ⟨items, accounted, fun f was => ?_, fun item was stopped => ?_,
    fun f member stopped => ?_, fun p member stopped => ?_⟩
  · exact (nextFuture_apply c w).symm ▸ lane.bound f ((accepted f).mp was)
  · exact lane.kinds item ((admitted_apply w c item).mp was) ((accepted _).mp stopped)
  · rcases runs_fetched m member with before | ⟨item, fetched, rfl⟩
    · exact lane.runs f before ((accepted f).mp stopped)
    · exact lane.kinds item (admitted_of_fetched lane.items fetched) ((accepted _).mp stopped)
  · have member : p ∈ (w.apply c).preempted := member
    rw [preempted_apply] at member
    exact lane.preempted p member ((accepted _).mp stopped)

theorem stopLane_calls {w v : Worker} {e : WorkerEvent} (lane : w.StopLane) (calls : Calls w e v)
    (items : v.Items) (accounted : v.Accounted) : v.StopLane := by
  have queue : ∀ message, ∀ p ∈ preempt message w.normal, ¬ w.StopAccepted p.1 := by
    intro message p member
    obtain ⟨item, queued, rfl⟩ := List.mem_map.mp member
    exact lane.kinds item (lane.items.known item (List.mem_append_left _ queued))
  -- what a stop adds is the next future, which no item has
  have fresh : ∀ f, f < w.nextFuture → .stopAccepted f ∈
    (.stopAccepted w.nextFuture :: w.log) →
      w.StopAccepted f := by
    intro f known member
    rcases List.mem_cons.mp member with same | before
    · cases same
      exact absurd known (Nat.lt_irrefl _)
    · exact before
  have bound : ∀ f, .stopAccepted f ∈ (.stopAccepted w.nextFuture :: w.log) →
      f < w.nextFuture + 1 := by
    intro f member
    rcases List.mem_cons.mp member with same | before
    · cases same
      exact Nat.lt_succ_self _
    · exact Nat.lt_succ_of_lt (lane.bound f before)
  have running : ∀ f ∈ w.pc.runs, f < w.nextFuture := fun f member =>
    lane.accounted.account.known f (List.mem_append_right _ member)
  have taken : ∀ p ∈ w.preempted, p.1 < w.nextFuture := by
    intro p member
    refine lane.accounted.account.known p.1 (List.mem_append_left _ ?_)
    simp only [idle, List.mem_append]
    exact .inr (.inr (.inl (List.mem_map.mpr ⟨p, member, rfl⟩)))
  have queued : ∀ message, ∀ p ∈ preempt message w.normal, p.1 < w.nextFuture := by
    intro message p member
    obtain ⟨item, queued, rfl⟩ := List.mem_map.mp member
    exact lane.items.bound item (lane.items.known item (List.mem_append_left _ queued))
  cases calls with
  | refused => exact lane
  | started new =>
    refine ⟨items, accounted, lane.bound, lane.kinds, fun f member => ?_, lane.preempted⟩
    cases member
  | timedOut starting =>
    exact ⟨items, accounted, lane.bound, lane.kinds, lane.runs, lane.preempted⟩
  | closedNew new => exact ⟨items, accounted, lane.bound, lane.kinds, lane.runs, lane.preempted⟩
  | cancelled known pending =>
    exact ⟨items, accounted, lane.bound, lane.kinds, lane.runs, lane.preempted⟩
  | admitted isRunning ready unstopped =>
    rename_i intent gate
    have before : ∀ f, .stopAccepted f ∈ (.admitted (w.workItem intent gate) :: w.log) →
        w.StopAccepted f := by
      intro f member
      exact (List.mem_cons.mp member).resolve_left (by simp)
    refine ⟨items, accounted, fun f was => Nat.lt_succ_of_lt (lane.bound f (before f was)),
      fun item was stopped => ?_, fun f member stopped => lane.runs f member (before f stopped),
      fun p member stopped => lane.preempted p member (before _ stopped)⟩
    rcases List.mem_cons.mp was with added | earlier
    · cases added
      exact Nat.lt_irrefl _ (lane.bound _ (before _ stopped))
    · exact lane.kinds item earlier (before _ stopped)
  | stopJoined isRunning requested =>
    refine ⟨items, accounted, bound, fun item was stopped => ?_,
      fun f member stopped => lane.runs f member (fresh f (running f member) stopped),
      fun p member stopped => lane.preempted p member (fresh _ (taken p member) stopped)⟩
    have earlier : w.Admitted item := (List.mem_cons.mp was).resolve_left (by simp)
    exact lane.kinds item earlier (fresh _ (lane.items.bound item earlier) stopped)
  | stopAccepted isRunning unstopped =>
    refine ⟨items, accounted, bound, fun item was stopped => ?_,
      fun f member stopped => lane.runs f member (fresh f (running f member) stopped),
      fun p member stopped => ?_⟩
    · have earlier : w.Admitted item := (List.mem_cons.mp was).resolve_left (by simp)
      exact lane.kinds item earlier (fresh _ (lane.items.bound item earlier) stopped)
    · rcases List.mem_append.mp member with before | added
      · exact lane.preempted p before (fresh _ (taken p before) stopped)
      · exact queue _ p added (fresh _ (queued _ p added) stopped)
  | closing live =>
    have before : ∀ f, .stopAccepted f ∈ (.closeRequested :: w.log) → w.StopAccepted f := by
      intro f member
      exact (List.mem_cons.mp member).resolve_left (by simp)
    refine ⟨items, accounted, fun f was => lane.bound f (before f was),
      fun item was stopped => ?_,
      fun f member stopped => lane.runs f member (before f stopped), fun p member stopped => ?_⟩
    · exact lane.kinds item ((List.mem_cons.mp was).resolve_left (by simp)) (before _ stopped)
    · rcases List.mem_append.mp member with earlier | added
      · exact lane.preempted p earlier (before _ stopped)
      · exact queue _ p added (before _ stopped)
  | preemptedFailed found =>
    rename_i k g e
    have accepted := fun f => stopAccepted_settlePending g f (.error e)
      { w with preempted := w.preempted.eraseIdx k }
    refine ⟨items, accounted, fun f was => lane.bound f ((accepted f).mp was),
      fun item was stopped => ?_, fun f member stopped =>
        lane.runs f member ((accepted f).mp stopped),
      fun p member stopped => ?_⟩
    · exact lane.kinds item ((admitted_settlePending _ _ _ item).mp was) ((accepted _).mp stopped)
    · exact lane.preempted p (List.mem_of_mem_eraseIdx member) ((accepted _).mp stopped)

theorem stopLane_step {w v : Worker} {e : WorkerEvent} (lane : w.StopLane)
    (h : w.step e = some v) : v.StopLane := by
  have items := items_step lane.items lane.accounted h
  have accounted := accounted_step lane.accounted h
  rcases step_calls h with calls | ⟨i, rfl, moved⟩
  · exact stopLane_calls lane calls items accounted
  · rcases threadStep_cases moved with ⟨f, s, rest, todo, rfl⟩ | ⟨todo, c, pc', m, rfl⟩
    · have accepted := fun g => stopAccepted_settlePending f g s { w with todo := rest }
      exact ⟨items, accounted, fun f was => lane.bound f ((accepted f).mp was),
        fun item was stopped => lane.kinds item ((admitted_settlePending _ _ _ item).mp was)
          ((accepted _).mp stopped),
        fun f member stopped => lane.runs f member ((accepted f).mp stopped),
        fun p member stopped => lane.preempted p member ((accepted _).mp stopped)⟩
    · exact stopLane_move lane m items accounted

theorem todo_of_resolved {w v : Worker} {e : WorkerEvent} {f : FutureId} {s : Settlement}
    (lane : w.StopLane) (stopped : w.StopAccepted f) (h : w.step e = some v)
    (unresolved : w.futures f ≠ .resolved s) (resolved : v.futures f = .resolved s) :
    (f, s) ∈ w.todo := by
  have popped : ∀ {g : FutureId} {r : Settlement} {u : Worker}, u.futures = w.futures →
      (settlePending g r u).futures f = .resolved s → g = f ∧ r = s := by
    intro g r u same became
    simp only [settlePending] at became
    rw [same] at became
    split_ifs at became with pending
    · by_cases equal : f = g
      · rw [equal, Function.update_self] at became
        cases became
        exact ⟨equal.symm, rfl⟩
      · rw [Function.update_of_ne equal] at became
        exact absurd became unresolved
    · exact absurd became unresolved
  rcases step_calls h with calls | ⟨i, rfl, moved⟩
  · exfalso
    cases calls with
    | cancelled known pending =>
      rename_i g
      by_cases same : f = g
      · rw [same] at resolved
        exact absurd ((Function.update_self g _ w.futures).symm.trans resolved) (by simp)
      · exact unresolved ((Function.update_of_ne same _ w.futures).symm.trans resolved)
    | preemptedFailed found =>
      obtain ⟨rfl, -⟩ := popped rfl resolved
      exact lane.preempted _ (List.mem_of_getElem? found) stopped
    | _ => exact unresolved resolved
  · rcases threadStep_cases moved with ⟨g, r, rest, todo, rfl⟩ | ⟨todo, c, pc', m, rfl⟩
    · obtain ⟨rfl, rfl⟩ := popped rfl resolved
      rw [todo]
      exact List.mem_cons_self
    · exfalso
      change (w.apply c).futures f = _ at resolved
      rw [futures_apply] at resolved
      split at resolved
      · rename_i item r
        split_ifs at resolved with isOpen
        · by_cases same : f = item.future
          · refine lane.runs f ?_ stopped
            generalize w.pc = pc at m
            cases m
            rw [same]
            exact List.mem_cons_self
          · rw [Function.update_of_ne same] at resolved
            exact unresolved resolved
        · exact unresolved resolved
      · rename_i item
        by_cases same : f = item.future
        · rw [same, Function.update_self] at resolved
          cases resolved
        · rw [Function.update_of_ne same] at resolved
          exact unresolved resolved
      · exact unresolved resolved

theorem since_cons {w v : Worker} {x : Entry} {f : FutureId} (log : v.log = x :: w.log)
    (other : x ≠ .stopAccepted f) : v.since f = x :: w.since f := by
  simp [since, log, other]

theorem linkLost_of_none {w : Worker} (none : ∀ t, ¬ w.Open t) : w.linkLost = true := by
  simp only [linkLost, Bool.or_eq_true, List.all_eq_true, List.mem_range, decide_eq_true_eq]
  refine .inl fun t bound => ?_
  by_contra unclosed
  exact none t ⟨bound, unclosed⟩

theorem exchange_aside {x : Entry} (aside : Entry.Aside x) : x.exchange = false := by
  cases x with
  | thread c => exact absurd rfl (aside c)
  | _ => rfl

theorem linkLost_cons {w v : Worker} {x : Entry} (lost : w.linkLost = true)
    (log : v.log = w.log ∨ v.log = x :: w.log) (quiet : x.exchange = false)
    (obtained : v.obtained = w.obtained)
    (closed : ∀ t ∈ w.closedTransports, t ∈ v.closedTransports) : v.linkLost = true := by
  simp only [linkLost, Bool.or_eq_true, List.all_eq_true, decide_eq_true_eq] at lost ⊢
  rw [obtained]
  refine lost.imp (fun none t bound => closed t (none t bound)) fun failed => ?_
  rcases log with same | same
  · rw [same]
    exact failed
  · rw [same, List.find?_cons_of_neg (by simp [quiet])]
    exact failed

theorem excused_cons {w v : Worker} {x : Entry} {f : FutureId} (excused : w.Excused f)
    (log : v.log = w.log ∨ v.log = x :: w.log) (quiet : x.exchange = false)
    (other : x ≠ .stopAccepted f) (obtained : v.obtained = w.obtained)
    (closed : ∀ t ∈ w.closedTransports, t ∈ v.closedTransports) : v.Excused f := by
  refine excused.imp (fun some => ?_) fun lost => linkLost_cons lost log quiet obtained closed
  rcases log with same | same
  · simpa only [since, same] using some
  · rw [since_cons same other, List.any_cons, some, Bool.or_true]

def Cmd.Idle (c : Cmd) : Prop := (Entry.thread c).exchange = false ∧ c ≠ .acquire

theorem mem_closed_apply {w : Worker} {c : Cmd} {t : TransportId}
    (closed : t ∈ w.closedTransports) : t ∈ (w.apply c).closedTransports := by
  rw [closedTransports_apply]
  split
  · exact List.mem_cons_of_mem _ closed
  · exact closed

theorem excused_apply {w : Worker} {c : Cmd} {pc' : Pc} {f : FutureId}
    (recorded : ({ w with log := .thread c :: w.log
                          obtained := (w.apply c).obtained
                          closedTransports := (w.apply c).closedTransports } : Worker).Excused f) :
    ({ w.apply c with pc := pc' } : Worker).Excused f := by
  have log := log_apply c w
  split at log
  · refine excused_cons recorded (.inr log) ?_ ?_ rfl fun t closed => closed
    · split_ifs <;> rfl
    · split_ifs <;> simp
  · exact excused_cons (x := .closeRequested) recorded (.inl log) rfl (by simp) rfl
      fun t closed => closed

theorem excused_idle {w : Worker} {c : Cmd} {pc' : Pc} {f : FutureId} (excused : w.Excused f)
    (idle : Cmd.Idle c) : ({ w.apply c with pc := pc' } : Worker).Excused f := by
  refine excused_apply (excused_cons excused (.inr rfl) idle.1 (by simp) ?_ fun t closed => ?_)
  · rw [obtained_apply, if_neg idle.2]
  · exact mem_closed_apply closed

theorem excused_now {w : Worker} {c : Cmd} {pc' : Pc} {f : FutureId}
    (excuses : (Entry.thread c).excuses = true) :
    ({ w.apply c with pc := pc' } : Worker).Excused f := by
  refine excused_apply (.inl ?_)
  have other : Entry.thread c ≠ .stopAccepted f := by simp
  rw [since_cons (w := w) rfl other, List.any_cons, excuses, Bool.true_or]

theorem excused_lost {w : Worker} {c : Cmd} {pc' : Pc} {f : FutureId} (none : ∀ t, ¬ w.Open t)
    (idle : Cmd.Idle c) : ({ w.apply c with pc := pc' } : Worker).Excused f :=
  excused_idle (.inr (linkLost_of_none none)) idle

inductive Condemns (w : Worker) (c : Cmd) : Prop
  | already (before : w.pc.condemns = true) (idle : Cmd.Idle c)
  | excused (excuses : (Entry.thread c).excuses = true)
  | lost (unlinked : w.pc.link = none) (live : ¬ w.pc.Doomed) (idle : Cmd.Idle c)
  | unawaited (none : w.stopWaiters = [])

theorem not_condemns {w : Worker} {c : Cmd} {pc : Pc} (clear : pc.condemns = false)
    (condemns : pc.condemns = true) : Condemns w c := by
  rw [clear] at condemns
  cases condemns

theorem condemns_failed {w : Worker} {item : Option WorkItem} {fault : Fault}
    (ok : (w.stopWaiters.isEmpty || fault.rawStop || fault.transportFailed) = true) :
    Condemns w (.exchangeFailed item fault) := by
  simp only [Bool.or_eq_true, List.isEmpty_iff] at ok
  rcases ok with (none | rawStop) | failed
  · exact .unawaited none
  · exact .excused (by simp [Entry.excuses, Entry.writesStop, rawStop])
  · exact .excused (by simp [Entry.excuses, Entry.linkFails, failed])

theorem Moves.condemns {w : Worker} {i : Input} {c : Cmd} {pc' : Pc} (m : Moves w w.pc i c pc')
    (ok : w.stopExcusable (.thread i) = true) (condemns : pc'.condemns = true) :
    Condemns w c := by
  generalize at_pc : w.pc = pc at m
  cases m
  case perform o =>
    refine .already ?_ ⟨rfl, by simp⟩
    rw [at_pc]
    cases o with
    | resolveStop error => cases error <;> first | rfl | exact condemns
    | _ => exact condemns
  case closed => exact .excused rfl
  case openedClosing p closing =>
    cases p with
    | session action item =>
      refine .unawaited ?_
      simpa [stopExcusable, at_pc, closing] using ok
    | _ => cases condemns
  case openFailed => exact .lost (by rw [at_pc]; rfl) (by rw [at_pc]; exact id) ⟨rfl, by simp⟩
  case reconnectClosing =>
    exact .lost (by rw [at_pc]; rfl) (by rw [at_pc]; exact id) ⟨rfl, by simp⟩
  case statusFailed => exact condemns_failed (by simpa [stopExcusable, at_pc] using ok)
  case sendFailed => exact condemns_failed (by simpa [stopExcusable, at_pc] using ok)
  case pollFailed => exact condemns_failed (by simpa [stopExcusable, at_pc] using ok)
  case readFailed => exact condemns_failed (by simpa [stopExcusable, at_pc] using ok)
  case sendRefused => exact .unawaited (by simpa [stopExcusable, at_pc] using ok)
  case stopUnsent => exact .excused (by simp [Entry.excuses, Entry.linkFails])
  case stopUnanswered cause t fault recovery =>
    cases fault with
    | recovery message recovered written => cases written <;> exact .excused rfl
    | _ => cases recovery
  case faulted => exact .already (by rw [at_pc]; rfl) ⟨rfl, by simp⟩
  case faultedStop => exact .already (by rw [at_pc]; rfl) ⟨rfl, by simp⟩
  case activated => exact not_condemns (Pc.clear_verified _ _).1 condemns
  case dispatched => exact not_condemns (Pc.clear_begin _ _ _).1 condemns
  case sent => exact not_condemns (Pc.clear_await _ _ _ _).1 condemns
  case readNothing => exact not_condemns (Pc.clear_await _ _ _ _).1 condemns
  case readResponse => exact not_condemns (Pc.clear_received _ _ _ _ _).1 condemns
  case finished => exact not_condemns (Pc.clear_afterResult _ _).1 condemns
  case refreshFailed => exact not_condemns (Pc.clear_afterFault _ _).1 condemns
  case stopAcknowledged => exact not_condemns (Pc.awaits_stopAcknowledged _ _).1 condemns
  all_goals exact not_condemns rfl condemns

/-- Whoever is going to fail a stop has an excuse for it. -/
structure Excusing (w : Worker) : Prop where
  lane : w.StopLane
  owned : w.Owned
  condemned : w.pc.condemns = true → ∀ f ∈ w.stopWaiters, w.Excused f
  failing : ∀ f e, (f, .error e) ∈ w.todo → w.StopAccepted f → w.Excused f
  waiting : ∀ f ∈ w.pc.waits, w.StopAccepted f → w.Excused f

theorem Moves.idle_of_waits {w : Worker} {pc pc' : Pc} {i : Input} {c : Cmd}
    (m : Moves w pc i c pc') {f : FutureId} (member : f ∈ pc.waits) : Cmd.Idle c := by
  cases m
  case perform => exact ⟨rfl, by simp⟩
  case closed => exact ⟨rfl, by simp⟩
  case takenCancelled => exact ⟨rfl, by simp⟩
  case taken => exact ⟨rfl, by simp⟩
  all_goals cases member

theorem mem_stopWaiters_apply {w : Worker} {c : Cmd} {f : FutureId}
    (member : f ∈ (w.apply c).stopWaiters) : f ∈ w.stopWaiters := by
  rw [stopWaiters_apply] at member
  split at member
  · cases member
  · cases member
  · exact member

theorem excusing_condemned {w : Worker} {i : Input} {c : Cmd} {pc' : Pc} (inv : w.Excusing)
    (ok : w.stopExcusable (.thread i) = true) (m : Moves w w.pc i c pc')
    (condemns : pc'.condemns = true) {f : FutureId} (member : f ∈ (w.apply c).stopWaiters) :
    ({ w.apply c with pc := pc' } : Worker).Excused f := by
  have waits := mem_stopWaiters_apply member
  cases m.condemns ok condemns with
  | already before idle => exact excused_idle (inv.condemned before f waits) idle
  | excused excuses => exact excused_now excuses
  | lost unlinked live idle =>
    refine excused_lost (fun t isOpen => ?_) idle
    rcases inv.owned.held t isOpen with linked | doomed
    · rw [unlinked] at linked
      cases linked
    · exact live doomed
  | unawaited none =>
    rw [none] at waits
    cases waits

theorem excusing_waiting {w : Worker} {i : Input} {c : Cmd} {pc' : Pc} (inv : w.Excusing)
    (m : Moves w w.pc i c pc') {f : FutureId} (member : f ∈ pc'.waits)
    (stopped : w.StopAccepted f) : ({ w.apply c with pc := pc' } : Worker).Excused f := by
  have kept : f ∈ w.pc.waits → ({ w.apply c with pc := pc' } : Worker).Excused f :=
    fun before =>
    excused_idle (inv.waiting f before stopped) (m.idle_of_waits before)
  have queue : ∀ item ∈ w.normal, f ≠ item.future := by
    rintro item queued rfl
    exact inv.lane.kinds item (inv.lane.items.known item (List.mem_append_left _ queued)) stopped
  have handsOn := m.handsOn
  generalize at_pc : w.pc = pc at handsOn
  subst at_pc
  cases handsOn with
  | same neutral holds => exact kept (holds.1 ▸ member)
  | settle waits runs => exact kept (waits ▸ member)
  | release waits runs =>
    rw [waits] at kept
    exact kept (List.mem_append_right _ member)
  | take queued before after =>
    rename_i item rest
    rw [after.1, List.mem_singleton] at member
    exact absurd member (queue item (by rw [queued]; exact List.mem_cons_self))
  | run live before after =>
    rw [after.1] at member
    cases member
  | forget cancelled before after =>
    rw [after.1] at member
    cases member
  | finish before after =>
    rw [after.1] at member
    rcases List.mem_append.mp member with queued | waits
    · obtain ⟨item, queued, same⟩ := List.mem_map.mp queued
      exact absurd same.symm (queue item queued)
    · -- the thread ends: its code is bound to fail the waiters
      have condemns : w.pc.condemns = true := by
        generalize w.pc = pc at m
        cases m
        rfl
      exact excused_idle (inv.condemned condemns f waits) ⟨rfl, by simp⟩

theorem excusing_failing {w : Worker} {i : Input} {c : Cmd} {pc' : Pc} (inv : w.Excusing)
    (todo : w.todo = []) (m : Moves w w.pc i c pc') {f : FutureId} {e : Failure}
    (member : (f, .error e) ∈ (w.apply c).todo) (stopped : w.StopAccepted f) :
    ({ w.apply c with pc := pc' } : Worker).Excused f := by
  rw [todo_apply] at member
  split at member
  · rename_i error
    obtain ⟨g, waits, same⟩ := List.mem_map.mp member
    obtain ⟨rfl, same⟩ := Prod.mk.inj same
    cases error with
    | none => cases same
    | some fault =>
      have condemns : w.pc.condemns = true := by
        generalize w.pc = pc at m
        cases m
        rfl
      exact excused_idle (inv.condemned condemns g waits) ⟨rfl, by simp⟩
  · obtain ⟨item, queued, same⟩ := List.mem_map.mp member
    obtain ⟨rfl, -⟩ := Prod.mk.inj same
    exact absurd stopped
      (inv.lane.kinds item (inv.lane.items.known item (List.mem_append_left _ queued)))
  · obtain ⟨g, released, same⟩ := List.mem_map.mp member
    obtain ⟨rfl, -⟩ := Prod.mk.inj same
    have before : g ∈ w.pc.waits := by
      generalize w.pc = pc at m
      cases m
      exact List.mem_append_left _ released
    exact excused_idle (inv.waiting g before stopped) ⟨rfl, by simp⟩
  · rw [todo] at member
    cases member

theorem excusing_move {w : Worker} {i : Input} {c : Cmd} {pc' : Pc} (inv : w.Excusing)
    (ok : w.stopExcusable (.thread i) = true) (todo : w.todo = []) (m : Moves w w.pc i c pc')
    (lane : ({ w.apply c with pc := pc' } : Worker).StopLane) :
    ({ w.apply c with pc := pc' } : Worker).Excusing := by
  have accepted := stopAccepted_apply w c
  exact ⟨lane, owned_move inv.owned m,
    fun condemns f member => excusing_condemned inv ok m condemns member,
    fun f e member stopped => excusing_failing inv todo m member ((accepted f).mp stopped),
    fun f member stopped => excusing_waiting inv m member ((accepted f).mp stopped)⟩

theorem Calls.waiters {w v : Worker} {e : WorkerEvent} (calls : Calls w e v) :
    ∀ f ∈ v.stopWaiters, f ∈ w.stopWaiters ∨
      (e = .stop ∧ w.state = .running ∧ f = w.nextFuture) := by
  cases calls with
  | stopJoined running requested =>
    intro f member
    rcases List.mem_append.mp member with before | added
    · exact .inl before
    · exact .inr ⟨rfl, running, List.mem_singleton.mp added⟩
  | stopAccepted running unstopped =>
    intro f member
    rcases List.mem_append.mp member with before | added
    · exact .inl before
    · exact .inr ⟨rfl, running, List.mem_singleton.mp added⟩
  | _ => exact fun f member => .inl member

theorem excusing_calls {w v : Worker} {e : WorkerEvent} (inv : w.Excusing)
    (ok : w.stopExcusable e = true) (calls : Calls w e v) (same : SameThread w v)
    (lane : v.StopLane) : v.Excusing := by
  have closed : ∀ t ∈ w.closedTransports, t ∈ v.closedTransports := fun t member => by
    rw [same.closedTransports]
    exact member
  have known : ∀ f ∈ w.idle, f < w.nextFuture := fun f member =>
    inv.lane.accounted.account.known f (List.mem_append_left _ member)
  have kept : ∀ f, f < w.nextFuture → w.Excused f → v.Excused f := by
    intro f bound excused
    rcases calls.log with unchanged | ⟨x, aside, fresh, added⟩
    · exact excused_cons (x := .closeRequested) excused (.inl unchanged) rfl (by simp)
        same.obtained closed
    · refine excused_cons excused (.inr added) (exchange_aside aside) (fun accepted => ?_)
        same.obtained closed
      exact Nat.lt_irrefl _ (fresh f accepted ▸ bound)
  have accepted : ∀ f, f < w.nextFuture → v.StopAccepted f → w.StopAccepted f := by
    intro f bound was
    rcases calls.log with unchanged | ⟨x, -, fresh, added⟩
    · rwa [StopAccepted, unchanged] at was
    · rw [StopAccepted, added] at was
      rcases List.mem_cons.mp was with now | before
      · exact absurd bound (fresh f now.symm ▸ Nat.lt_irrefl _)
      · exact before
  have waiters : ∀ f ∈ w.stopWaiters, f < w.nextFuture := fun f member =>
    known f (by simp only [idle, List.mem_append]; exact .inr (.inl member))
  refine ⟨lane, ?_, fun condemns f member => ?_, fun f error member was => ?_,
    fun f member was => ?_⟩
  · refine ⟨fun t u ht hu => ?_, fun t ht => ?_⟩
    · exact inv.owned.single t u ((open_of_same same t).mp ht) ((open_of_same same u).mp hu)
    · rw [same.pc]
      exact inv.owned.held t ((open_of_same same t).mp ht)
  · rw [same.pc] at condemns
    rcases calls.waiters f member with before | ⟨rfl, running, -⟩
    · exact kept f (waiters f before) (inv.condemned condemns f before)
    · -- accepted by code that is bound to fail it: the link is lost
      have lost : w.linkLost = true := by
        simpa [stopExcusable, condemns, running] using ok
      rcases calls.log with unchanged | ⟨x, aside, -, added⟩
      · exact .inr (linkLost_cons (x := .closeRequested) lost (.inl unchanged) rfl same.obtained
          closed)
      · exact .inr (linkLost_cons lost (.inr added) (exchange_aside aside) same.obtained closed)
  · rw [same.todo] at member
    have bound : f < w.nextFuture := known f (by
      simp only [idle, List.mem_append]
      exact .inr (.inr (.inr (.inl (List.mem_map.mpr ⟨_, member, rfl⟩)))))
    exact kept f bound (inv.failing f error member (accepted f bound was))
  · rw [same.pc] at member
    have bound : f < w.nextFuture := known f (by
      simp only [idle, List.mem_append]
      exact .inr (.inr (.inr (.inr member))))
    exact kept f bound (inv.waiting f member (accepted f bound was))

theorem excusing_step {w v : Worker} {e : WorkerEvent} (inv : w.Excusing)
    (ok : w.stopExcusable e = true) (h : w.step e = some v) : v.Excusing := by
  have lane := stopLane_step inv.lane h
  rcases step_calls h with calls | ⟨i, rfl, moved⟩
  · rcases calls.sameThread with ⟨rfl, new, rfl⟩ | same
    · have owned := owned_step ⟨inv.lane.accounted.fresh, inv.owned⟩ h
      refine ⟨lane, owned.2, fun condemns => ?_, inv.failing, fun f member => ?_⟩
      · cases condemns
      · cases member
    · exact excusing_calls inv ok calls same lane
  · rcases threadStep_cases moved with ⟨f, s, rest, todo, rfl⟩ | ⟨todo, c, pc', m, rfl⟩
    · have kept :
          ∀ g, w.Excused g → (settlePending f s { w with todo := rest }).Excused g := by
        intro g excused
        rcases log_settlePending f s { w with todo := rest } with same |
          ⟨x, aside, other, added⟩
        · exact excused_cons (x := .closeRequested) excused (.inl same) rfl (by simp) rfl
            fun t closed => closed
        · exact excused_cons excused (.inr added) (exchange_aside aside) (other g) rfl
            fun t closed => closed
      have accepted := fun g => stopAccepted_settlePending f g s { w with todo := rest }
      refine ⟨lane, ⟨inv.owned.single, inv.owned.held⟩,
        fun condemns g member => kept g (inv.condemned condemns g member),
        fun g error member was => kept g (inv.failing g error ?_ ((accepted g).mp was)),
        fun g member was => kept g (inv.waiting g member ((accepted g).mp was))⟩
      rw [todo]
      exact List.mem_cons_of_mem _ member
    · exact excusing_move inv ok todo m lane

theorem stopLane_new (capacity attempts : Nat) (pos : 0 < capacity) :
    (Worker.new capacity attempts pos).StopLane := by
  refine ⟨items_new capacity attempts pos, accounted_new capacity attempts pos,
    fun f was => ?_, fun item was => ?_, fun f member => ?_, fun p member => ?_⟩
  · cases was
  · cases was
  · cases member
  · cases member

theorem excusing_new (capacity attempts : Nat) (pos : 0 < capacity) :
    (Worker.new capacity attempts pos).Excusing := by
  have none : ∀ t, ¬ (Worker.new capacity attempts pos).Open t :=
    fun t isOpen => Nat.not_lt_zero t isOpen.1
  refine ⟨stopLane_new capacity attempts pos,
    ⟨fun t u ht => absurd ht (none t), fun t ht => absurd ht (none t)⟩, fun condemns => ?_,
    fun f e member => ?_, fun f member => ?_⟩
  · cases condemns
  · cases member
  · cases member

end Worker

/-- In every run a stop that succeeds was written and acknowledged with no normal command
since, and in every run whose steps meet the condition a stop that fails has an excuse. -/
theorem priorityStop_answered (capacity attempts : Nat) (pos : 0 < capacity)
    (es : List WorkerEvent) (e : WorkerEvent) (w v : Worker) (f : FutureId) (s : Settlement)
    (reached : run Worker.step (Worker.new capacity attempts pos) es = some w)
    (h : w.step e = some v) (stopped : w.StopAccepted f)
    (unresolved : w.futures f ≠ .resolved s) (resolved : v.futures f = .resolved s) :
    (∀ r, s = .ok r → stopAnswered w.log = true) ∧
      (Meets Worker.step (fun w e => w.stopExcusable e = true) (Worker.new capacity attempts pos)
          es →
        ∀ error, s = .error error → w.Excused f) := by
  have start : (Worker.new capacity attempts pos).StopLane ∧
      (Worker.new capacity attempts pos).Answers := by
    refine ⟨Worker.stopLane_new capacity attempts pos, fun waits => ?_, fun acks => ?_,
      fun f r member => ?_⟩
    · cases waits
    · cases acks
    · cases member
  have step : ∀ w e v, w.StopLane ∧ w.Answers → True → Worker.step w e = some v →
      v.StopLane ∧ v.Answers := fun w e v inv _ h =>
    ⟨Worker.stopLane_step inv.1 h, Worker.answers_step inv.2 h⟩
  obtain ⟨lane, answers⟩ := run_invariant step start (meets_of_forall (fun _ _ _ => trivial) _)
    reached
  have taken := Worker.todo_of_resolved lane stopped h unresolved resolved
  refine ⟨fun r success => ?_, fun excusable error failure => ?_⟩
  · exact answers.succeeding f r (success ▸ taken)
  · have inv := run_invariant (fun _ _ _ => Worker.excusing_step)
      (Worker.excusing_new capacity attempts pos) excusable reached
    exact inv.failing f error (failure ▸ taken) stopped

def stopDuringSort : List WorkerEvent :=
  [.submit (.sort slotThree) none, .thread .go, .thread .go, .thread (.gated none),
    .thread (.written 1), .stop, .thread .go, .thread .stopWritten, .thread .stopped] ++ goes 2

theorem priorityStop_answered_sort :
    stopAnswered (runD Worker.step daemonWorker (bringUp ++ stopDuringSort)).log = true := by
  have ran : run Worker.step daemonWorker (bringUp ++ stopDuringSort) =
      some (runD Worker.step daemonWorker (bringUp ++ stopDuringSort)) :=
    run_eq_runD (by decide +kernel)
  have last : (runD Worker.step daemonWorker (bringUp ++ stopDuringSort)).step (.thread .go) =
      some (runD Worker.step daemonWorker (bringUp ++ stopDuringSort ++ [.thread .go])) :=
    step_runD (by decide +kernel)
  exact (priorityStop_answered 16 1 (by decide) (bringUp ++ stopDuringSort) (.thread .go) _ _ 1
    (.ok none) ran last (by decide +kernel) (by decide +kernel) (by decide +kernel)).1 none rfl

def queryRefused : List WorkerEvent :=
  [.submit (.query .status) none, .thread .go, .thread .go, .thread (.gated none),
    .thread (.written 1), .stop, .thread (.fault (.protocol "ProtocolError" "status failed"))] ++
    goes 3

/-- The stop fails with the query's error: no stop line was written since it was accepted,
and the transport is open and has not failed. -/
theorem priorityStop_unsent :
    ∃ w v, run Worker.step daemonWorker (bringUp ++ queryRefused) = some w ∧
      w.step (.thread .go) = some v ∧ w.StopAccepted 1 ∧ w.futures 1 = .pending ∧
      v.futures 1 = .resolved (.error (.other "ProtocolError" "status failed")) ∧
      ¬ w.Excused 1 := by
  refine ⟨runD Worker.step daemonWorker (bringUp ++ queryRefused),
    runD Worker.step daemonWorker (bringUp ++ queryRefused ++ [.thread .go]), run_eq_runD ?_, ?_,
    ?_, ?_, ?_, fun excused => ?_⟩
  · decide +kernel
  · exact step_runD (by decide +kernel)
  · decide +kernel
  · decide +kernel
  · decide +kernel
  · rcases excused with some | lost
    · exact absurd some (by decide +kernel)
    · exact absurd lost (by decide +kernel)

end CaseSorter.Daemon
