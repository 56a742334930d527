import CaseSorter.Daemon.WorkerOutcomes

/-! What the answer to a stop rests on: a success on the acknowledgement of a stop line, an
error after a line has gone out on nothing that is known of the controller. -/

namespace CaseSorter.Daemon

def Entry.sendsStop : Entry → Bool
  | .thread .stopWritten | .thread (.stopUnsent _) => true
  | _ => false

def Pc.concludes : Pc → Bool
  | .awaitStop _ _ | .faulted _ _ _ | .perform (.resolveStop _) _ => true
  | .perform _ next | .closeTransport _ next => next.concludes
  | _ => false

namespace Worker

def LineSent (w : Worker) (f : FutureId) : Prop :=
  ∃ newer x older, w.log = newer ++ x :: older ∧ x.sendsStop = true ∧
    .stopAccepted f ∈ older ∧ ∀ s, .resolved f s ∉ older

def StopGrounded (w : Worker) (f : FutureId) : Settlement → Prop
  | .ok r => ∃ newer older, w.log = newer ++ .resolved f (.ok r) :: older ∧
      stopAnswered older = true
  | .error e => w.LineSent f → e.Unproven

theorem lineSent_cons {w v : Worker} {x : Entry} (log : v.log = x :: w.log) (f : FutureId) :
    v.LineSent f ↔ w.LineSent f ∨
      (x.sendsStop = true ∧ w.StopAccepted f ∧ ∀ s, .resolved f s ∉ w.log) := by
  constructor
  · rintro ⟨newer, y, older, split, sends, accepted, unresolved⟩
    rw [log] at split
    cases newer with
    | nil =>
      obtain ⟨rfl, rfl⟩ := List.cons.inj split
      exact .inr ⟨sends, accepted, unresolved⟩
    | cons z newer =>
      obtain ⟨-, split⟩ := List.cons.inj split
      exact .inl ⟨newer, y, older, split, sends, accepted, unresolved⟩
  · rintro (⟨newer, y, older, split, rest⟩ | ⟨sends, accepted, unresolved⟩)
    · exact ⟨x :: newer, y, older, by rw [log, split]; rfl, rest⟩
    · exact ⟨[], x, w.log, log, sends, accepted, unresolved⟩

theorem lineSent_quiet {w v : Worker} {x : Entry} (log : v.log = x :: w.log)
    (quiet : x.sendsStop = false) (f : FutureId) : v.LineSent f ↔ w.LineSent f := by
  rw [lineSent_cons log, quiet]
  simp

theorem lineSent_same {w v : Worker} (log : v.log = w.log) (f : FutureId) :
    v.LineSent f ↔ w.LineSent f := by
  rw [LineSent, LineSent, log]

theorem sendsStop_aside {x : Entry} (aside : Entry.Aside x) : x.sendsStop = false := by
  cases x with
  | thread c => exact absurd rfl (aside c)
  | _ => rfl

theorem lineSent_aside {w v : Worker}
    (log : v.log = w.log ∨ ∃ x, Entry.Aside x ∧ v.log = x :: w.log) (f : FutureId) :
    v.LineSent f ↔ w.LineSent f := by
  rcases log with same | ⟨x, aside, added⟩
  · exact lineSent_same same f
  · exact lineSent_quiet added (sendsStop_aside aside) f

theorem lineSent_apply (w : Worker) (c : Cmd) (f : FutureId) :
    (w.apply c).LineSent f ↔ w.LineSent f ∨
      ((Entry.thread c).sendsStop = true ∧ w.StopAccepted f ∧
        ∀ s, .resolved f s ∉ w.log) := by
  have first : (w.record (.thread c)).log = .thread c :: w.log := rfl
  rw [← lineSent_cons first]
  have log := log_apply c w
  split at log
  · split_ifs at log
    · exact lineSent_quiet (w := w.record (.thread _)) log rfl f
    · exact lineSent_quiet (w := w.record (.thread _)) log rfl f
  · exact lineSent_same (w := w.record (.thread _)) log f

theorem StopGrounded.later {w v : Worker} {f : FutureId} {s : Settlement}
    (grounded : w.StopGrounded f s) (log : ∃ added, v.log = added ++ w.log)
    (lines : v.LineSent f → w.LineSent f) : v.StopGrounded f s := by
  cases s with
  | ok r =>
    obtain ⟨newer, older, split, answered⟩ := grounded
    obtain ⟨added, log⟩ := log
    exact ⟨added ++ newer, older, by rw [log, split, List.append_assoc], answered⟩
  | error e => exact fun sent => grounded (lines sent)

end Worker

namespace Pc

theorem concludes_stopFailed (t : TransportId) (fault : Fault) (cause : StopCause) :
    (stopFailed t fault cause).concludes = true := by
  cases cause <;> rfl

theorem concludes_stopAcknowledged (t : TransportId) (cause : StopCause) :
    (stopAcknowledged t cause).concludes = true := by
  cases cause <;> rfl

end Pc

namespace Worker

theorem Moves.concludes {w : Worker} {pc pc' : Pc} {i : Input} {c : Cmd} (m : Moves w pc i c pc')
    (line : pc.concludes = true ∨ (Entry.thread c).sendsStop = true) :
    pc'.concludes = true ∨ (∃ error, c = .op (.resolveStop error)) ∨
      w.stopRequested = false := by
  cases m
  case perform o =>
    cases o with
    | resolveStop error => exact .inr (.inl ⟨error, rfl⟩)
    | _ => exact .inl (line.resolve_right (by simp [Entry.sendsStop]))
  case closed => exact .inl (line.resolve_right (by simp [Entry.sendsStop]))
  case faultedStop => exact .inl rfl
  case faulted stop => exact .inr (.inr stop)
  case stopSent => exact .inl rfl
  case stopUnsent => exact .inl (Pc.concludes_stopFailed _ _ _)
  case stopUnanswered => exact .inl (Pc.concludes_stopFailed _ _ _)
  case stopAcknowledged => exact .inl (Pc.concludes_stopAcknowledged _ _)
  all_goals simp [Pc.concludes, Entry.sendsStop] at line

theorem Moves.waits_of_sends {w : Worker} {pc pc' : Pc} {i : Input} {c : Cmd}
    (m : Moves w pc i c pc') (sends : (Entry.thread c).sendsStop = true) :
    pc.waits = [] ∧ pc'.waits = [] := by
  cases m
  case stopSent => exact ⟨rfl, rfl⟩
  case stopUnsent => exact ⟨rfl, (Pc.holds_stopFailed _ _ _).1⟩
  all_goals simp [Entry.sendsStop] at sends

theorem Moves.waits {w : Worker} {pc pc' : Pc} {i : Input} {c : Cmd} (m : Moves w pc i c pc')
    {f : FutureId} (waits : f ∈ pc'.waits) :
    f ∈ pc.waits ∨ (∃ item ∈ w.normal, item.future = f) ∨
      (pc = .finish ∧ f ∈ w.stopWaiters) := by
  cases m.handsOn with
  | same neutral holds => exact .inl (holds.1 ▸ waits)
  | settle same runs => exact .inl (same ▸ waits)
  | release same runs => exact .inl (same ▸ List.mem_append_right _ waits)
  | take queue before after =>
    rename_i item rest
    rw [after.1, List.mem_singleton] at waits
    refine .inr (.inl ⟨item, ?_, waits.symm⟩)
    rw [queue]
    exact List.mem_cons_self
  | run live before after =>
    rw [after.1] at waits
    cases waits
  | forget cancelled before after =>
    rw [after.1] at waits
    cases waits
  | finish before after =>
    rw [after.1] at waits
    rcases List.mem_append.mp waits with queued | waiting
    · exact .inr (.inl (List.mem_map.mp queued))
    · cases m
      exact .inr (.inr ⟨rfl, waiting⟩)

/-- The outcomes that stops have been given are grounded, and those to come will be. -/
structure StopOutcomes (w : Worker) : Prop where
  lane : w.StopLane
  answers : w.Answers
  requested : w.stopWaiters ≠ [] → w.stopRequested = true
  recorded : ∀ f s, w.futures f = .resolved s → .resolved f s ∈ w.log
  lined : ∀ f ∈ w.stopWaiters, w.LineSent f → w.pc.concludes = true
  released : ∀ f ∈ w.pc.waits, w.StopAccepted f → ¬ w.LineSent f
  failing : ∀ f e, (f, .error e) ∈ w.todo → w.StopAccepted f → w.LineSent f → e.Unproven
  settled : ∀ f s, w.StopAccepted f → w.futures f = .resolved s → w.StopGrounded f s

theorem LineSent.accepted {w : Worker} {f : FutureId} (sent : w.LineSent f) : w.StopAccepted f := by
  obtain ⟨newer, x, older, split, -, accepted, -⟩ := sent
  rw [StopAccepted, split]
  exact List.mem_append_right _ (List.mem_cons_of_mem _ accepted)

theorem lineSent_resolved {w : Worker} {c : Cmd} {f : FutureId} {s : Settlement}
    (recorded : .resolved f s ∈ w.log) (sent : (w.apply c).LineSent f) : w.LineSent f := by
  rcases (lineSent_apply w c f).mp sent with before | ⟨-, -, unresolved⟩
  · exact before
  · exact absurd recorded (unresolved s)

theorem recorded_apply {w : Worker} {c : Cmd}
    (recorded : ∀ f s, w.futures f = .resolved s → .resolved f s ∈ w.log) {f : FutureId}
    {s : Settlement} (resolved : (w.apply c).futures f = .resolved s) :
    .resolved f s ∈ (w.apply c).log := by
  have kept : w.futures f = .resolved s → .resolved f s ∈ (w.apply c).log := fun before => by
    obtain ⟨added, log⟩ := log_extends c w
    rw [log]
    exact List.mem_append_right _ (recorded f s before)
  rcases resolved_apply resolved with before | ⟨item, rfl, rfl⟩
  · exact kept before
  · by_cases isOpen : (w.futures item.future).isOpen = true
    · rw [log_apply]
      simp [isOpen]
    · rw [futures_apply] at resolved
      simp only [isOpen, Bool.false_eq_true, if_false] at resolved
      exact kept resolved

theorem stopOutcomes_move {w : Worker} {i : Input} {c : Cmd} {pc' : Pc} (inv : w.StopOutcomes)
    (todo : w.todo = []) (m : Moves w w.pc i c pc')
    (lane : ({ w.apply c with pc := pc' } : Worker).StopLane) :
    ({ w.apply c with pc := pc' } : Worker).StopOutcomes := by
  have accepted := stopAccepted_apply w c
  have queued : ∀ item ∈ w.normal, ¬ w.StopAccepted item.future := fun item member =>
    inv.lane.kinds item (inv.lane.items.known item (List.mem_append_left _ member))
  have line : ∀ {f}, w.LineSent f ∨ (Entry.thread c).sendsStop = true →
    f ∈ w.stopWaiters →
      pc'.concludes = true ∨ ∃ error, c = .op (.resolveStop error) := by
    intro f sent member
    refine (m.concludes (sent.imp_left (inv.lined f member))).imp_right fun other =>
      other.resolve_right fun unstopped => ?_
    rw [inv.requested (List.ne_nil_of_mem member)] at unstopped
    cases unstopped
  refine ⟨lane, answers_move inv.answers todo m, fun waiting => ?_,
    fun f s resolved => recorded_apply inv.recorded resolved, fun f member sent => ?_,
    fun f waits stopped sent => ?_, fun f e member stopped sent => ?_,
    fun f s stopped resolved => ?_⟩
  · change (w.apply c).stopWaiters ≠ [] at waiting
    change (w.apply c).stopRequested = true
    rw [stopWaiters_apply] at waiting
    rw [stopRequested_apply]
    split at waiting
    · exact absurd rfl waiting
    · exact absurd rfl waiting
    · exact inv.requested waiting
  · have sent := (lineSent_apply w c f).mp sent
    rcases line (sent.imp_right And.left) (mem_stopWaiters_apply member) with concludes |
      ⟨error, rfl⟩
    · exact concludes
    · cases member
  · have quiet : (Entry.thread c).sendsStop = false := by
      by_contra sends
      rw [Bool.not_eq_false] at sends
      rw [(m.waits_of_sends sends).2] at waits
      cases waits
    have before : w.LineSent f :=
      ((lineSent_apply w c f).mp sent).resolve_right fun now => by
        rw [quiet] at now
        cases now.1
    rcases m.waits waits with held | ⟨item, member, rfl⟩ | ⟨finish, member⟩
    · exact inv.released f held ((accepted f).mp stopped) before
    · exact queued item member ((accepted _).mp stopped)
    · have concludes := inv.lined f member before
      rw [finish] at concludes
      cases concludes
  · change (f, .error e) ∈ (w.apply c).todo at member
    rw [todo_apply] at member
    split at member
    · rename_i error
      obtain ⟨g, -, same⟩ := List.mem_map.mp member
      cases error with
      | none => cases (Prod.mk.inj same).2
      | some fault =>
        cases (Prod.mk.inj same).2
        exact fault.failure_unproven
    · obtain ⟨item, was, same⟩ := List.mem_map.mp member
      obtain ⟨rfl, -⟩ := Prod.mk.inj same
      exact absurd ((accepted _).mp stopped) (queued item was)
    · rename_i futures error
      obtain ⟨g, was, same⟩ := List.mem_map.mp member
      obtain ⟨rfl, -⟩ := Prod.mk.inj same
      have before : w.LineSent g :=
        ((lineSent_apply w _ g).mp sent).resolve_right fun now => by cases now.1
      refine absurd before (inv.released g ?_ ((accepted _).mp stopped))
      generalize w.pc = pc at m
      cases m
      exact List.mem_append_left _ was
    · rw [todo] at member
      cases member
  · have was := (accepted f).mp stopped
    rcases resolved_apply resolved with before | ⟨item, rfl, rfl⟩
    · exact (inv.settled f s was before).later (log_extends c w)
        (lineSent_resolved (inv.recorded f s before))
    · refine absurd was (inv.lane.runs _ ?_)
      generalize w.pc = pc at m
      cases m
      exact List.mem_cons_self

theorem stopOutcomes_aside {w v : Worker} (inv : w.StopOutcomes) (lane : v.StopLane)
    (answers : v.Answers) (pc : v.pc = w.pc)
    (log : v.log = w.log ∨ ∃ x, Entry.Aside x ∧ v.log = x :: w.log)
    (requested : v.stopWaiters ≠ [] → v.stopRequested = true)
    (recorded : ∀ f s, v.futures f = .resolved s → .resolved f s ∈ v.log)
    (waiters : ∀ f ∈ v.stopWaiters, f ∈ w.stopWaiters ∨ ¬ w.LineSent f)
    (todo : ∀ p ∈ v.todo, p ∈ w.todo)
    (settled : ∀ f s, v.StopAccepted f → v.futures f = .resolved s →
      (w.StopAccepted f ∧ w.futures f = .resolved s) ∨ v.StopGrounded f s) :
        v.StopOutcomes := by
  have sent := fun f => lineSent_aside log f
  refine ⟨lane, answers, requested, recorded, fun f member line => ?_, fun f waits _ line => ?_,
    fun f e member _ line => ?_, fun f s stopped resolved => ?_⟩
  · rw [pc]
    have line := (sent f).mp line
    exact inv.lined f ((waiters f member).resolve_right (not_not.mpr line)) line
  · rw [pc] at waits
    have line := (sent f).mp line
    exact inv.released f waits line.accepted line
  · have line := (sent f).mp line
    exact inv.failing f e (todo _ member) line.accepted line
  · rcases settled f s stopped resolved with ⟨was, before⟩ | now
    · refine (inv.settled f s was before).later ?_ (sent f).mp
      rcases log with same | ⟨x, -, added⟩
      · exact ⟨[], same⟩
      · exact ⟨[x], added⟩
    · exact now

theorem Calls.resolves {w v : Worker} {e : WorkerEvent} (calls : Calls w e v) (lane : w.StopLane)
    {f : FutureId} {s : Settlement} (resolved : v.futures f = .resolved s) :
    w.futures f = .resolved s ∨ (.resolved f s ∈ v.log ∧ ¬ v.StopAccepted f) := by
  cases calls with
  | cancelled known pending =>
    rename_i g
    by_cases same : f = g
    · rw [same] at resolved
      exact absurd ((Function.update_self g _ w.futures).symm.trans resolved) nofun
    · exact .inl ((Function.update_of_ne same _ w.futures).symm.trans resolved)
  | preemptedFailed found =>
    rename_i k g e
    rcases resolved_settlePending resolved with earlier | ⟨rfl, rfl, pending⟩
    · exact .inl earlier
    · refine .inr ⟨?_, fun stopped => ?_⟩
      · have waiting : w.futures f = .pending := pending
        simp [settlePending, waiting]
      · rw [stopAccepted_settlePending] at stopped
        exact lane.preempted _ (List.mem_of_getElem? found) stopped
  | _ => exact .inl resolved

theorem Calls.requested {w v : Worker} {e : WorkerEvent} (calls : Calls w e v)
    (requested : w.stopWaiters ≠ [] → w.stopRequested = true) (waiting : v.stopWaiters ≠ []) :
    v.stopRequested = true := by
  cases calls with
  | stopJoined running requested => exact requested
  | stopAccepted running unstopped => rfl
  | closing live =>
    show (w.stopRequested || _) = true
    rw [requested waiting, Bool.true_or]
  | _ => exact requested waiting

theorem stopOutcomes_calls {w v : Worker} {e : WorkerEvent} (inv : w.StopOutcomes)
    (calls : Calls w e v) (same : SameThread w v) (lane : v.StopLane) (answers : v.Answers) :
    v.StopOutcomes := by
  have log : v.log = w.log ∨ ∃ x, Entry.Aside x ∧ v.log = x :: w.log := by
    rcases calls.log with same | ⟨x, aside, -, added⟩
    · exact .inl same
    · exact .inr ⟨x, aside, added⟩
  refine stopOutcomes_aside inv lane answers same.pc log (calls.requested inv.requested)
    (fun f s resolved => ?_) (fun f member => ?_) (fun p member => same.todo ▸ member)
    fun f s stopped resolved => ?_
  · rcases calls.resolves inv.lane resolved with before | ⟨now, -⟩
    · rcases log with same | ⟨x, -, added⟩
      · rw [same]
        exact inv.recorded f s before
      · rw [added]
        exact List.mem_cons_of_mem _ (inv.recorded f s before)
    · exact now
  · refine (calls.waiters f member).imp_right ?_
    rintro ⟨_, _, fresh⟩ sent
    exact Nat.lt_irrefl _ (fresh ▸ inv.lane.bound f sent.accepted)
  · refine .inl ?_
    have before := (calls.resolves inv.lane resolved).resolve_right fun now => now.2 stopped
    refine ⟨?_, before⟩
    rcases calls.log with same | ⟨x, -, fresh, added⟩
    · rwa [StopAccepted, same] at stopped
    · rw [StopAccepted, added] at stopped
      rcases List.mem_cons.mp stopped with now | was
      · have unborn := inv.lane.accounted.account.unborn f (Nat.le_of_eq (fresh f now.symm).symm)
        cases unborn.symm.trans before
      · exact was

theorem stopOutcomes_todo {w : Worker} {f : FutureId} {s : Settlement}
    {rest : List (FutureId × Settlement)} (inv : w.StopOutcomes) (todo : w.todo = (f, s) :: rest)
    (lane : (settlePending f s { w with todo := rest }).StopLane)
    (answers : (settlePending f s { w with todo := rest }).Answers) :
    (settlePending f s { w with todo := rest }).StopOutcomes := by
  have log := log_settlePending f s { w with todo := rest }
  have recorded : w.futures f = .pending →
      (settlePending f s { w with todo := rest }).log = .resolved f s :: w.log := fun pending => by
    simp [settlePending, pending]
  have aside : (settlePending f s { w with todo := rest }).log = w.log ∨
      ∃ x, Entry.Aside x ∧ (settlePending f s { w with todo := rest }).log = x :: w.log := by
    rcases log with same | ⟨x, aside, -, added⟩
    · exact .inl same
    · exact .inr ⟨x, aside, added⟩
  refine stopOutcomes_aside inv lane answers rfl aside inv.requested
    (fun g r resolved => ?_) (fun g member => .inl member)
    (fun p member => todo ▸ List.mem_cons_of_mem _ member) fun g r stopped resolved => ?_
  · rcases resolved_settlePending resolved with earlier | ⟨rfl, rfl, pending⟩
    · rcases log with same | ⟨x, -, -, added⟩
      · rw [same]
        exact inv.recorded g r earlier
      · rw [added]
        exact List.mem_cons_of_mem _ (inv.recorded g r earlier)
    · rw [recorded pending]
      exact List.mem_cons_self
  · have was := (stopAccepted_settlePending f g s { w with todo := rest }).mp stopped
    rcases resolved_settlePending resolved with earlier | ⟨rfl, rfl, pending⟩
    · exact .inl ⟨was, earlier⟩
    · refine .inr ?_
      have taken : (g, s) ∈ w.todo := todo ▸ List.mem_cons_self
      cases s with
      | ok r => exact ⟨[], w.log, recorded pending, inv.answers.succeeding g r taken⟩
      | error e =>
        intro sent
        exact inv.failing g e taken was ((lineSent_quiet (recorded pending) rfl g).mp sent)

theorem stopOutcomes_step {w v : Worker} {e : WorkerEvent} (inv : w.StopOutcomes)
    (h : w.step e = some v) : v.StopOutcomes := by
  have lane := stopLane_step inv.lane h
  have answers := answers_step inv.answers h
  rcases step_calls h with calls | ⟨i, rfl, moved⟩
  · rcases calls.sameThread with ⟨rfl, new, rfl⟩ | same
    · refine ⟨lane, answers, inv.requested, inv.recorded, fun f member => ?_, fun f waits => ?_,
        inv.failing, inv.settled⟩
      · have none := (inv.lane.accounted.fresh new).2.2.2.1
        change f ∈ w.stopWaiters at member
        rw [none] at member
        cases member
      · cases waits
    · exact stopOutcomes_calls inv calls same lane answers
  · rcases threadStep_cases moved with ⟨f, s, rest, todo, rfl⟩ | ⟨todo, c, pc', m, rfl⟩
    · exact stopOutcomes_todo inv todo lane answers
    · exact stopOutcomes_move inv todo m lane

theorem LineSent.accepted_before {w v : Worker} {e : WorkerEvent} (h : w.step e = some v)
    {f : FutureId} (sent : v.LineSent f) : w.StopAccepted f := by
  rcases step_calls h with calls | ⟨i, -, moved⟩
  · refine LineSent.accepted ((lineSent_aside ?_ f).mp sent)
    exact calls.log.imp_right fun ⟨x, aside, _, added⟩ => ⟨x, aside, added⟩
  · rcases threadStep_cases moved with ⟨g, s, rest, -, rfl⟩ | ⟨-, c, pc', m, rfl⟩
    · refine LineSent.accepted ((lineSent_aside ?_ f).mp sent)
      have log := log_settlePending g s { w with todo := rest }
      exact log.imp_right fun ⟨x, aside, _, added⟩ => ⟨x, aside, added⟩
    · rcases (lineSent_apply w c f).mp ((lineSent_same rfl f).mp sent) with before |
        ⟨-, accepted, -⟩
      · exact before.accepted
      · exact accepted

theorem stopOutcomes_new (capacity attempts : Nat) (pos : 0 < capacity) :
    (Worker.new capacity attempts pos).StopOutcomes := by
  refine ⟨stopLane_new capacity attempts pos, ⟨nofun, nofun, fun f r member => ?_⟩, ?_, ?_,
    fun f member => ?_, fun f waits => ?_, fun f e member => ?_, fun f s stopped => ?_⟩
  · cases member
  · exact fun waiting => absurd rfl waiting
  · exact fun f s resolved => nomatch resolved
  · cases member
  · cases waits
  · cases member
  · cases stopped

end Worker
end CaseSorter.Daemon
