import CaseSorter.Daemon.Worker

/-! What one step of the serial worker can be: the table of the thread's moves, and the
callers' sections as they change the state. Every invariant of the worker is proved from
these inversions. -/

namespace CaseSorter.Daemon

namespace Worker

inductive Moves (w : Worker) : Pc → Input → Cmd → Pc → Prop
  | perform {o next} : Moves w (.perform o next) .go (.op o) next
  | openedClosing {p} (closing : w.state = .closing) :
    Moves w (.openTransport p) .opened .acquire (Pc.unverified w.obtained p)
  | opened {p} (live : w.state ≠ .closing) :
    Moves w (.openTransport p) .opened .acquire
      (.perform (.publish .verifyingV1 "verifying legacy v1 barrier")
        (.handshake p w.obtained))
  | openFailed {p fault} :
    Moves w (.openTransport p) (.fault fault) .skip (Pc.connectFailed fault p)
  | verified {p t} :
    Moves w (.handshake p t) .verified (.transmitted p.item none)
      (.perform (.publish .activatingV2 "negotiating protocol v2") (.activate p t))
  | handshakeFailed {p t fault} :
    Moves w (.handshake p t) (.fault fault) (.exchangeFailed p.item fault)
      (.closeTransport t (Pc.connectFailed fault p))
  | activated {p t profile} :
    Moves w (.activate p t) (.profile profile) (.observe profile)
      (.perform (.publish .ready "verified v2 session") (Pc.verified t p))
  | activateFailed {p t fault} :
    Moves w (.activate p t) (.fault fault) (.exchangeFailed p.item fault)
      (.closeTransport t (Pc.connectFailed fault p))
  | reactivated {t profile} :
    Moves w (.reactivate t) (.profile profile) (.observe profile)
      (.perform (.publish .ready "verified v2 session") (.loop t))
  | reactivateFailed {t fault} :
    Moves w (.reactivate t) (.fault fault) (.exchangeFailed none fault)
      (Pc.reconnect w.maxReconnectAttempts t fault)
  | closed {t next failure} :
    Moves w (.closeTransport t next) (.closed failure) (.close t failure) next
  | startedClosing {t} (closing : w.state = .closing) :
    Moves w (.started t) .go .skip (.closeTransport t .finish)
  | started {t} (live : w.state ≠ .closing) : Moves w (.started t) .go .becomeRunning (.loop t)
  | reconnectClosing {left fault} (closing : w.state = .closing) :
    Moves w (.reconnecting left fault) .go .skip .finish
  | reconnecting {left fault} (live : w.state ≠ .closing) :
    Moves w (.reconnecting left fault) .go .skip (Pc.connect (.reconnect left fault))
  | stopNext {t} (stop : w.stopRequested = true) :
    Moves w (.loop t) .go .skip (.sendStop .idle t)
  | endNext {t} (stop : w.stopRequested = false)
      (ending : w.state = .closing ∨ w.state = .failed) :
    Moves w (.loop t) .go .skip (.closeTransport t .finish)
  | itemNext {t item rest} (stop : w.stopRequested = false)
      (live : ¬ (w.state = .closing ∨ w.state = .failed)) (queue : w.normal = item :: rest) :
    Moves w (.loop t) .go .takeItem (.take t item)
  | takenCancelled {t item} (cancelled : w.futures item.future = .cancelled) :
    Moves w (.take t item) .go .skip (.loop t)
  | taken {t item} (live : w.futures item.future ≠ .cancelled) :
    Moves w (.take t item) .go (.setRunning item) (.gate t item)
  | dispatched {t item} :
    Moves w (.gate t item) (.gated none) (.dispatched item) (w.begin t item)
  | withdrawn {t item e} (gate : item.onDispatch.isSome = true) :
    Moves w (.gate t item) (.gated (some e)) .skip
      (.perform (.settle item (.error e)) (.loop t))
  | status {t action item mode phase} :
    Moves w (.status t action item) (.answer (.status mode phase))
      (.transmitted (some item) none)
      (.perform (.settle item (.ok (some (.status mode phase)))) (.loop t))
  | statusFailed {t action item fault} :
    Moves w (.status t action item) (.fault fault) (.exchangeFailed (some item) fault)
      (Pc.sessionFailed action item fault)
  | sent {t item id} :
    Moves w (.send t item) (.written id) (.transmitted (some item) (some id))
      (Pc.await t item id [])
  | sendFailed {t item fault} :
    Moves w (.send t item) (.fault fault) (.exchangeFailed (some item) fault)
      (.faulted t item fault)
  | sendRefused {t item fault} :
    Moves w (.send t item) (.refused fault) .skip (.faulted t item fault)
  | pollStop {t item id responses} (stop : w.stopRequested = true) :
    Moves w (.polling t item id responses) .go .skip (.sendStop (.interrupt item) t)
  | poll {t item id responses} (stop : w.stopRequested = false) :
    Moves w (.polling t item id responses) .go .skip (.reading t item id responses)
  | pollFailed {t item id responses fault} :
    Moves w (.polling t item id responses) (.fault fault) (.exchangeFailed (some item) fault)
      (.faulted t item fault)
  | readNothing {t item id responses} :
    Moves w (.reading t item id responses) .nothing .skip (Pc.await t item id responses)
  | readResponse {t item id responses r} (same : r.requestId = id)
      (movement : r.terminal → item.intent.isMovement) :
    Moves w (.reading t item id responses) (.response r) .skip (received t item id responses r)
  | readAnswer {t item id responses r} (query : item.intent.isMovement = false) :
    Moves w (.reading t item id responses) (.answer r) .skip (.finished t item r)
  | readFailed {t item id responses fault} :
    Moves w (.reading t item id responses) (.fault fault) (.exchangeFailed (some item) fault)
      (.faulted t item fault)
  | faultedStop {t item fault} (stop : w.stopRequested = true) :
    Moves w (.faulted t item fault) .go .skip
      (.perform (.settle item
        (.error (.workerUncertain "active work became uncertain during priority stop")))
        (.perform (.resolveStop (some fault)) (.perform (.markFailed fault) (.loop t))))
  | faulted {t item fault} (stop : w.stopRequested = false) :
    Moves w (.faulted t item fault) .go .skip
      (.perform (.settle item (.error fault.failure)) (Pc.afterFault t fault))
  | finishedStop {t item result} (stop : w.stopRequested = true) :
    Moves w (.finished t item result) .go .skip (.sendStop (.late item) t)
  | finished {t item result} (stop : w.stopRequested = false) :
    Moves w (.finished t item result) .go .skip
      (.perform (.settle item (.ok (some result))) (Pc.afterResult t item))
  | refreshed {t profile} : Moves w (.refresh t) (.profile profile) (.observe profile) (.loop t)
  | refreshFailed {t fault} :
    Moves w (.refresh t) (.fault fault) (.exchangeFailed none fault) (Pc.afterFault t fault)
  | stopSent {cause t} :
    Moves w (.sendStop cause t) .stopWritten .stopWritten (.awaitStop cause t)
  | stopUnsent {cause t fault} (recovery : fault.isRecovery = true) :
    Moves w (.sendStop cause t) (.fault fault) (.stopUnsent fault) (Pc.stopFailed t fault cause)
  | stopAcknowledged {cause t} :
    Moves w (.awaitStop cause t) .stopped .stopAcknowledged (Pc.stopAcknowledged t cause)
  | stopUnanswered {cause t fault} (recovery : fault.isRecovery = true) :
    Moves w (.awaitStop cause t) (.fault fault) (.stopFailed fault) (Pc.stopFailed t fault cause)
  | recoverClosing {t fault} (closing : w.state = .closing) :
    Moves w (.recovering t fault) .go .skip (.closeTransport t .finish)
  | recovered {t fault} (live : w.state ≠ .closing) (verified : fault.recovered = true) :
    Moves w (.recovering t fault) .go .skip
      (.perform (.publish .verifyingV1 "v1 verified by protocol library recovery")
        (.perform (.publish .activatingV2 "negotiating protocol v2") (.reactivate t)))
  | reconnect {t fault} (live : w.state ≠ .closing) (lost : fault.recovered = false) :
    Moves w (.recovering t fault) .go .skip (Pc.reconnect w.maxReconnectAttempts t fault)
  | finish :
    Moves w .finish .go .finish (.perform .publishStopped (.perform
      (.release (w.normal.map WorkItem.future ++ w.stopWaiters) w.terminalError) .ended))

theorem control_moves {w : Worker} {pc pc' : Pc} {i : Input} {c : Cmd}
    (h : w.control pc i = some (c, pc')) : Moves w pc i c pc' := by
  unfold control at h
  split at h
  all_goals try split_ifs at h
  all_goals try split at h
  all_goals cases h
  all_goals constructor <;> first | assumption | simp_all

section Fields

variable (c : Cmd) (w : Worker)

theorem state_apply : (w.apply c).state =
    match c with
    | .op (.markFailed _) | .close _ (some _) => if w.state = .closed then .closed else .failed
    | .becomeRunning => .running
    | .finish => if w.state = .failed then .failed else .closed
    | _ => w.state := by
  cases c with
  | op o => cases o <;> rfl
  | close t failure => cases failure <;> rfl
  | _ => rfl

theorem session_apply : (w.apply c).session =
    match c with
    | .op (.publish state reason) => w.session.transition state reason
    | .op .publishStopped => if w.session.state = .uncertain then w.session
        else w.session.transition .disconnected "serial worker stopped"
    | _ => w.session := by
  cases c with
  | op o => cases o <;> rfl
  | close t failure => cases failure <;> rfl
  | _ => rfl

theorem normal_apply : (w.apply c).normal =
    match c with
    | .op (.drain _) | .finish => []
    | .takeItem => w.normal.tail
    | _ => w.normal := by
  cases c with
  | op o => cases o <;> rfl
  | close t failure => cases failure <;> rfl
  | _ => rfl

theorem stopRequested_apply : (w.apply c).stopRequested =
    match c with
    | .op (.resolveStop _) | .finish => false
    | _ => w.stopRequested := by
  cases c with
  | op o => cases o <;> rfl
  | close t failure => cases failure <;> rfl
  | _ => rfl

theorem stopWaiters_apply : (w.apply c).stopWaiters =
    match c with
    | .op (.resolveStop _) | .finish => []
    | _ => w.stopWaiters := by
  cases c with
  | op o => cases o <;> rfl
  | close t failure => cases failure <;> rfl
  | _ => rfl

theorem todo_apply : (w.apply c).todo =
    match c with
    | .op (.resolveStop error) => w.stopWaiters.map fun f => (f, stopSettlement error)
    | .op (.drain error) => w.normal.map fun item => (item.future, .error error)
    | .op (.release futures error) => futures.map fun f => (f, .error error)
    | _ => w.todo := by
  cases c with
  | op o => cases o <;> rfl
  | close t failure => cases failure <;> rfl
  | _ => rfl

theorem futures_apply : (w.apply c).futures =
    match c with
    | .op (.settle item s) =>
      if (w.futures item.future).isOpen then Function.update w.futures item.future (.resolved s)
      else w.futures
    | .setRunning item => Function.update w.futures item.future .running
    | _ => w.futures := by
  cases c with
  | op o => cases o <;> rfl
  | close t failure => cases failure <;> rfl
  | _ => rfl

theorem log_apply : (w.apply c).log =
    match c with
    | .op (.settle item s) =>
      (if (w.futures item.future).isOpen then .resolved item.future s
        else .invalidState item.future) :: .thread c :: w.log
    | _ => .thread c :: w.log := by
  cases c with
  | op o => cases o <;> rfl
  | close t failure => cases failure <;> rfl
  | _ => rfl

theorem profile_apply : (w.apply c).profile =
    match c with
    | .observe profile => some profile
    | _ => w.profile := by
  cases c with
  | op o => cases o <;> rfl
  | close t failure => cases failure <;> rfl
  | _ => rfl

theorem obtained_apply :
    (w.apply c).obtained = if c = .acquire then w.obtained + 1 else w.obtained := by
  cases c with
  | op o => cases o <;> rfl
  | close t failure => cases failure <;> rfl
  | _ => rfl

theorem closedTransports_apply : (w.apply c).closedTransports =
    match c with
    | .close t _ => t :: w.closedTransports
    | _ => w.closedTransports := by
  cases c with
  | op o => cases o <;> rfl
  | close t failure => cases failure <;> rfl
  | _ => rfl

@[simp] theorem nextFuture_apply : (w.apply c).nextFuture = w.nextFuture := by
  cases c with
  | op o => cases o <;> rfl
  | close t failure => cases failure <;> rfl
  | _ => rfl

@[simp] theorem preempted_apply : (w.apply c).preempted = w.preempted := by
  cases c with
  | op o => cases o <;> rfl
  | close t failure => cases failure <;> rfl
  | _ => rfl

end Fields

theorem threadStep_cases {w v : Worker} {i : Input} (h : w.threadStep i = some v) :
    (∃ f s rest, w.todo = (f, s) :: rest ∧ v = settlePending f s { w with todo := rest }) ∨
      (w.todo = [] ∧ ∃ c pc', Moves w w.pc i c pc' ∧ v = { w.apply c with pc := pc' }) := by
  unfold threadStep at h
  split at h
  · rename_i f s rest todo
    split_ifs at h
    cases h
    exact .inl ⟨f, s, rest, todo, rfl⟩
  · rename_i todo
    obtain ⟨⟨c, pc'⟩, moved, rfl⟩ := Option.map_eq_some_iff.mp h
    exact .inr ⟨todo, c, pc', control_moves moved, rfl⟩

theorem submit_cases (intent : WorkerIntent) (onDispatch : Option OperationRecord) (w : Worker) :
    (w.submit intent onDispatch).2 = w ∨
      (w.state = .running ∧ (w.session.state = .ready ∨ intent.isSession = true) ∧
        w.stopRequested = false ∧
        (w.submit intent onDispatch).2 = { w with
          normal := w.normal ++ [w.workItem intent onDispatch]
          nextFuture := w.nextFuture + 1
          log := .admitted (w.workItem intent onDispatch) :: w.log }) := by
  unfold submit
  split_ifs with stopped unready stopping full
  · exact .inl rfl
  · exact .inl rfl
  · exact .inl rfl
  · exact .inl rfl
  · refine .inr ⟨not_not.mp stopped, ?_, by simpa using stopping, rfl⟩
    by_cases ready : w.session.state = .ready
    · exact .inl ready
    · right
      simpa [SessionSnapshot.admitsWork, ready] using unready

theorem submitPriorityStop_cases (w : Worker) :
    (w.state ≠ .running ∧ w.submitPriorityStop.2 = w) ∨
      (w.state = .running ∧ w.stopRequested = true ∧
        w.submitPriorityStop.2 = { w with
          stopWaiters := w.stopWaiters ++ [w.nextFuture]
          nextFuture := w.nextFuture + 1
          log := .stopAccepted w.nextFuture :: w.log }) ∨
      (w.state = .running ∧ w.stopRequested = false ∧
        w.submitPriorityStop.2 = { w with
          stopWaiters := w.stopWaiters ++ [w.nextFuture]
          nextFuture := w.nextFuture + 1
          log := .stopAccepted w.nextFuture :: w.log
          stopRequested := true
          normal := []
          preempted := w.preempted ++
            preempt "queued work invalidated by priority stop" w.normal }) := by
  unfold submitPriorityStop
  dsimp only
  split_ifs with stopped requested
  · exact .inl ⟨stopped, rfl⟩
  · exact .inr (.inl ⟨not_not.mp stopped, requested, rfl⟩)
  · exact .inr (.inr ⟨not_not.mp stopped, by simpa using requested, rfl⟩)

theorem close_cases (w : Worker) :
    w.close = w ∨ (w.state = .new ∧ w.close = { w with state := .closed }) ∨
      ((w.state = .starting ∨ w.state = .running) ∧ w.close = { w with
        state := .closing
        stopRequested := w.stopRequested || w.state = .running
        normal := []
        preempted := w.preempted ++
          preempt "queued work invalidated by worker shutdown" w.normal
        log := .closeRequested :: w.log }) := by
  unfold close
  split
  · exact .inr (.inl ⟨‹_›, rfl⟩)
  · exact .inr (.inr ⟨.inl ‹_›, rfl⟩)
  · exact .inr (.inr ⟨.inr ‹_›, rfl⟩)
  · exact .inl rfl
  · exact .inl rfl
  · exact .inl rfl

/-- The thread has done this. -/
def Did (w : Worker) (c : Cmd) : Prop := .thread c ∈ w.log

instance (w : Worker) (c : Cmd) : Decidable (w.Did c) := inferInstanceAs (Decidable (_ ∈ w.log))

theorem did_apply (w : Worker) (c d : Cmd) : (w.apply c).Did d ↔ d = c ∨ w.Did d := by
  simp only [Did, log_apply]
  split
  · split_ifs <;> simp
  · simp

theorem did_settlePending (f : FutureId) (s : Settlement) (w : Worker) (d : Cmd) :
    (settlePending f s w).Did d ↔ w.Did d := by
  simp only [Did, settlePending]
  split <;> simp

inductive Calls (w : Worker) : WorkerEvent → Worker → Prop
  | refused {e} : Calls w e w
  | started (new : w.state = .new) :
    Calls w .start { w with state := .starting, pc := Pc.connect .startup }
  | timedOut (starting : w.state = .starting) : Calls w .startTimeout { w with state := .closing }
  | admitted {intent onDispatch} (running : w.state = .running)
      (ready : w.session.state = .ready ∨ intent.isSession = true)
      (unstopped : w.stopRequested = false) :
    Calls w (.submit intent onDispatch) { w with
      normal := w.normal ++ [w.workItem intent onDispatch]
      nextFuture := w.nextFuture + 1
      log := .admitted (w.workItem intent onDispatch) :: w.log }
  | stopJoined (running : w.state = .running) (requested : w.stopRequested = true) :
    Calls w .stop { w with
      stopWaiters := w.stopWaiters ++ [w.nextFuture]
      nextFuture := w.nextFuture + 1
      log := .stopAccepted w.nextFuture :: w.log }
  | stopAccepted (running : w.state = .running) (unstopped : w.stopRequested = false) :
    Calls w .stop { w with
      stopWaiters := w.stopWaiters ++ [w.nextFuture]
      nextFuture := w.nextFuture + 1
      log := .stopAccepted w.nextFuture :: w.log
      stopRequested := true
      normal := []
      preempted := w.preempted ++
        preempt "queued work invalidated by priority stop" w.normal }
  | closedNew (new : w.state = .new) : Calls w .close { w with state := .closed }
  | closing (live : w.state = .starting ∨ w.state = .running) :
    Calls w .close { w with
      state := .closing
      stopRequested := w.stopRequested || w.state = .running
      normal := []
      preempted := w.preempted ++
        preempt "queued work invalidated by worker shutdown" w.normal
      log := .closeRequested :: w.log }
  | cancelled {f} (known : f < w.nextFuture) (pending : w.futures f = .pending) :
    Calls w (.cancel f) { w with futures := Function.update w.futures f .cancelled }
  | preemptedFailed {k f e} (found : w.preempted[k]? = some (f, e)) :
    Calls w (.failPreempted k)
      (settlePending f (.error e) { w with preempted := w.preempted.eraseIdx k })

theorem step_calls {w v : Worker} {e : WorkerEvent} (h : w.step e = some v) :
    Calls w e v ∨ ∃ i, e = .thread i ∧ w.threadStep i = some v := by
  cases e with
  | start =>
    cases h
    unfold start
    split_ifs with new
    · exact .inl (.started new)
    · exact .inl .refused
  | startTimeout =>
    cases h
    unfold startTimeout
    split_ifs with starting
    · exact .inl (.timedOut starting)
    · exact .inl .refused
  | submit intent onDispatch =>
    cases h
    rcases submit_cases intent onDispatch w with same | ⟨running, ready, unstopped, admitted⟩
    · rw [same]
      exact .inl .refused
    · rw [admitted]
      exact .inl (.admitted running ready unstopped)
  | stop =>
    cases h
    rcases submitPriorityStop_cases w with ⟨-, same⟩ | ⟨running, requested, accepted⟩ |
      ⟨running, unstopped, accepted⟩
    · rw [same]
      exact .inl .refused
    · rw [accepted]
      exact .inl (.stopJoined running requested)
    · rw [accepted]
      exact .inl (.stopAccepted running unstopped)
  | close =>
    cases h
    rcases close_cases w with same | ⟨new, closed⟩ | ⟨live, closing⟩
    · rw [same]
      exact .inl .refused
    · rw [closed]
      exact .inl (.closedNew new)
    · rw [closing]
      exact .inl (.closing live)
  | cancel f =>
    cases h
    unfold cancel
    split_ifs with pending
    · exact .inl (.cancelled pending.1 pending.2)
    · exact .inl .refused
  | failPreempted k =>
    simp only [step] at h
    split at h
    · cases h
    · rename_i f e found
      cases h
      exact .inl (.preemptedFailed found)
  | thread i => exact .inr ⟨i, rfl, h⟩

/-- What a caller's section leaves alone, and how it moves the worker's state. -/
structure SameThread (w v : Worker) : Prop where
  state : v.state = w.state ∨ (w.state = .new ∧ v.state = .closed) ∨
    ((w.state = .starting ∨ w.state = .running) ∧ v.state = .closing)
  pc : v.pc = w.pc
  did : ∀ c, v.Did c ↔ w.Did c
  session : v.session = w.session
  profile : v.profile = w.profile
  todo : v.todo = w.todo
  obtained : v.obtained = w.obtained
  closedTransports : v.closedTransports = w.closedTransports

theorem Calls.sameThread {w v : Worker} {e : WorkerEvent} (calls : Calls w e v) :
    (e = .start ∧ w.state = .new ∧
        v = { w with state := .starting, pc := Pc.connect .startup }) ∨ SameThread w v := by
  cases calls with
  | started new => exact .inl ⟨rfl, new, rfl⟩
  | refused => exact .inr ⟨.inl rfl, rfl, fun _ => Iff.rfl, rfl, rfl, rfl, rfl, rfl⟩
  | timedOut starting =>
    exact .inr ⟨.inr (.inr ⟨.inl starting, rfl⟩), rfl,
      fun _ => Iff.rfl, rfl, rfl, rfl, rfl, rfl⟩
  | closedNew new =>
    exact .inr ⟨.inr (.inl ⟨new, rfl⟩), rfl, fun _ => Iff.rfl, rfl, rfl, rfl, rfl, rfl⟩
  | closing live =>
    exact .inr ⟨.inr (.inr ⟨live, rfl⟩), rfl,
      fun _ => by simp [Did], rfl, rfl, rfl, rfl, rfl⟩
  | preemptedFailed found =>
    exact .inr ⟨.inl rfl, rfl, did_settlePending _ _ _, rfl, rfl, rfl, rfl, rfl⟩
  | _ => exact .inr ⟨.inl rfl, rfl, fun _ => by simp [Did], rfl, rfl, rfl, rfl, rfl⟩

theorem step_cases {w v : Worker} {e : WorkerEvent} (h : w.step e = some v) :
    (e = .start ∧ w.state = .new ∧
        v = { w with state := .starting, pc := Pc.connect .startup }) ∨
      (∃ i, e = .thread i ∧ w.threadStep i = some v) ∨ SameThread w v := by
  rcases step_calls h with calls | moved
  · exact calls.sameThread.imp_right .inr
  · exact .inr (.inl moved)

end Worker

def Pc.Over : Pc → Prop
  | .unstarted | .ended => True
  | .perform _ next | .closeTransport _ next => next.Over
  | _ => False

namespace Pc

theorem not_over_attempt (left : Nat) (fault : Fault) : ¬ (attempt left fault).Over := by
  cases left <;> exact id

theorem not_over_connectFailed (fault : Fault) (p : Purpose) : ¬ (connectFailed fault p).Over := by
  cases p with
  | reconnect left first => exact not_over_attempt left first
  | _ => exact id

theorem not_over_unverified (t : TransportId) (p : Purpose) : ¬ (unverified t p).Over := by
  cases p <;> exact id

theorem not_over_verified (t : TransportId) (p : Purpose) : ¬ (verified t p).Over := by
  cases p <;> exact id

theorem not_over_await (t : TransportId) (item : WorkItem) (id : Nat)
    (responses : List Response) : ¬ (await t item id responses).Over := by
  unfold await
  split_ifs <;> exact fun past => past

theorem not_over_received (t : TransportId) (item : WorkItem) (id : Nat)
    (responses : List Response) (r : Response) :
    ¬ (Worker.received t item id responses r).Over := by
  unfold Worker.received
  by_cases terminal : r.terminal = true
  · rw [if_pos terminal]
    exact fun past => past
  · rw [if_neg terminal]
    exact not_over_await t item id _

theorem not_over_begin (t : TransportId) (item : WorkItem) (w : Worker) :
    ¬ (w.begin t item).Over := by
  unfold Worker.begin
  split
  · split_ifs <;> exact id
  all_goals exact id

theorem not_over_afterFault (t : TransportId) (fault : Fault) : ¬ (afterFault t fault).Over := by
  unfold afterFault
  split_ifs <;> exact id

theorem not_over_afterResult (t : TransportId) (item : WorkItem) :
    ¬ (afterResult t item).Over := by
  unfold afterResult
  split_ifs <;> exact id

theorem not_over_stopFailed (t : TransportId) (fault : Fault) (cause : StopCause) :
    ¬ (stopFailed t fault cause).Over := by
  cases cause <;> exact id

theorem not_over_stopAcknowledged (t : TransportId) (cause : StopCause) :
    ¬ (stopAcknowledged t cause).Over := by
  cases cause <;> exact id

end Pc

namespace Worker

theorem Moves.past {w : Worker} {pc pc' : Pc} {i : Input} {c : Cmd} (m : Moves w pc i c pc')
    (past : pc'.Over) :
    c = .finish ∨ (pc.Over ∧ ((∃ o, c = .op o) ∨ ∃ t failure, c = .close t failure)) := by
  cases m
  case perform => exact .inr ⟨past, .inl ⟨_, rfl⟩⟩
  case closed => exact .inr ⟨past, .inr ⟨_, _, rfl⟩⟩
  case finish => exact .inl rfl
  case openedClosing => exact absurd past (Pc.not_over_unverified _ _)
  case openFailed => exact absurd past (Pc.not_over_connectFailed _ _)
  case handshakeFailed => exact absurd past (Pc.not_over_connectFailed _ _)
  case activateFailed => exact absurd past (Pc.not_over_connectFailed _ _)
  case activated => exact absurd past (Pc.not_over_verified _ _)
  case reactivateFailed => exact absurd past (Pc.not_over_attempt _ _)
  case reconnect => exact absurd past (Pc.not_over_attempt _ _)
  case dispatched => exact absurd past (Pc.not_over_begin _ _ _)
  case sent => exact absurd past (Pc.not_over_await _ _ _ _)
  case readNothing => exact absurd past (Pc.not_over_await _ _ _ _)
  case readResponse => exact absurd past (Pc.not_over_received _ _ _ _ _)
  case faulted => exact absurd past (Pc.not_over_afterFault _ _)
  case finished => exact absurd past (Pc.not_over_afterResult _ _)
  case refreshFailed => exact absurd past (Pc.not_over_afterFault _ _)
  case stopUnsent => exact absurd past (Pc.not_over_stopFailed _ _ _)
  case stopUnanswered => exact absurd past (Pc.not_over_stopFailed _ _ _)
  case stopAcknowledged => exact absurd past (Pc.not_over_stopAcknowledged _ _)
  all_goals exact past.elim

def Fresh (w : Worker) : Prop :=
  w.state = .new → w.pc = .unstarted ∧ w.obtained = 0 ∧ w.normal = [] ∧
    w.stopWaiters = [] ∧
    w.preempted = [] ∧ w.todo = [] ∧ w.nextFuture = 0 ∧ w.stopRequested = false

theorem fresh_new (capacity attempts : Nat) (pos : 0 < capacity) :
    (Worker.new capacity attempts pos).Fresh :=
  fun _ => ⟨rfl, rfl, rfl, rfl, rfl, rfl, rfl, rfl⟩

theorem fresh_threadStep {w v : Worker} {i : Input} (fresh : w.Fresh)
    (h : w.threadStep i = some v) : v.Fresh := by
  intro new
  rcases threadStep_cases h with ⟨f, s, rest, todo, rfl⟩ | ⟨-, c, pc', moved, rfl⟩
  · have := (fresh new).2.2.2.2.2.1
    rw [todo] at this
    cases this
  · -- the thread of a new worker has no move, and no move makes a worker new
    have notNew : w.state ≠ .new := by
      intro new
      rw [(fresh new).1] at moved
      cases moved
    have state : (w.apply c).state = .new := new
    rw [state_apply] at state
    split at state
    · split_ifs at state
    · split_ifs at state
    · cases state
    · split_ifs at state
    · exact absurd state notNew

theorem fresh_step {w v : Worker} {e : WorkerEvent} (fresh : w.Fresh) (h : w.step e = some v) :
    v.Fresh := by
  rcases step_calls h with calls | ⟨i, -, moved⟩
  · intro new
    cases calls with
    | refused => exact fresh new
    | cancelled known pending =>
      have := (fresh new).2.2.2.2.2.2.1
      rw [this] at known
      exact absurd known (Nat.not_lt_zero _)
    | preemptedFailed found =>
      rw [(fresh new).2.2.2.2.1] at found
      cases found
    | admitted running ready unstopped =>
      rw [running] at new
      cases new
    | stopJoined running requested =>
      rw [running] at new
      cases new
    | stopAccepted running unstopped =>
      rw [running] at new
      cases new
    | _ => cases new
  · exact fresh_threadStep fresh moved

def ClosedOver (w : Worker) : Prop := w.state = .closed → w.pc.Over

theorem closedOver_move {w : Worker} {i : Input} {c : Cmd} {pc' : Pc} (past : w.ClosedOver)
    (m : Moves w w.pc i c pc') : ({ w.apply c with pc := pc' } : Worker).ClosedOver := by
  intro closed
  have state : (w.apply c).state = .closed := closed
  rw [state_apply] at state
  generalize at_pc : w.pc = pc at m
  have past : w.state = .closed → pc.Over := at_pc ▸ past
  cases m
  case perform => exact past (by split at state <;> simp_all)
  case finish => trivial
  case started => cases state
  case closed =>
    rename_i failure
    cases failure with
    | none => exact past state
    | some fault =>
      dsimp only at state
      split_ifs at state with closed
      exact past closed
  all_goals exact (past state).elim

theorem closedOver_step {w v : Worker} {e : WorkerEvent} (fresh : w.Fresh) (past : w.ClosedOver)
    (h : w.step e = some v) : v.ClosedOver := by
  rcases step_cases h with ⟨-, -, rfl⟩ | ⟨i, -, moved⟩ | same
  · intro closed
    cases closed
  · rcases threadStep_cases moved with ⟨f, s, rest, -, rfl⟩ | ⟨-, c, pc', m, rfl⟩
    · exact past
    · exact closedOver_move past m
  · intro closed
    rw [same.pc]
    rcases same.state with unchanged | ⟨new, -⟩ | ⟨-, closing⟩
    · exact past (unchanged.symm.trans closed)
    · rw [(fresh new).1]
      trivial
    · rw [closed] at closing
      cases closing

end Worker

def idleProfile : SessionProfile :=
  ⟨⟨2, 7, 8, 2, true, true, true⟩, ⟨false, false, 0, "recovering", "idle"⟩⟩

def goes (n : Nat) : List WorkerEvent := List.replicate n (.thread .go)

def bringUp : List WorkerEvent :=
  [.start, .thread .go, .thread .opened, .thread .go, .thread .verified, .thread .go,
    .thread (.profile idleProfile), .thread .go, .thread .go]

theorem sixteen_pos : 0 < 16 := by decide

def daemonWorker : Worker := Worker.new 16 1 sixteen_pos

def slotThree : Fin 103 := 3

def shutDown : List WorkerEvent :=
  [.close, .thread .go, .thread .stopWritten, .thread .stopped, .thread .go, .thread .go,
    .thread (.closed none), .thread .go, .thread .go, .thread .go]

end CaseSorter.Daemon
