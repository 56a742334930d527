import CaseSorter.Lib.Runs
import CaseSorter.Daemon.WorkerSteps

/-! A priority stop without its acknowledgement. The idle stop and the stop after a
result give the session up as uncertain; the stop that interrupts an active request only
fails the worker, and the thread then reports a plain disconnect. -/

namespace CaseSorter.Daemon

open CaseSorter.Runs

namespace Pc

def Sinks : Pc → Prop
  | .perform (.publish state _) next => state = .uncertain ∧ next.Sinks
  | .perform _ next => next.Sinks
  | .closeTransport _ next => next.Sinks
  | .loop _ | .sendStop .idle _ | .awaitStop .idle _ | .finish | .ended => True
  | _ => False

def GivesUp : Pc → Prop
  | .perform (.publish state _) next => state = .uncertain ∨ next.GivesUp
  | .perform _ next => next.GivesUp
  | _ => False

def Fails : Pc → Prop
  | .perform (.markFailed _) _ => True
  | .perform _ next => next.Fails
  | _ => False

end Pc

namespace Worker

/-- The session has been given up, or is about to be, and the worker takes no more work. -/
structure GivenUp (w : Worker) : Prop where
  sinks : w.pc.Sinks
  uncertain : w.session.state = .uncertain ∨ w.pc.GivesUp
  failed : w.state = .failed ∨ (w.state ≠ .closed ∧ w.pc.Fails)

theorem transition_uncertain (reason : String) (s : SessionSnapshot) :
    (s.transition .uncertain reason).state = .uncertain := by
  unfold SessionSnapshot.transition
  split_ifs with same
  · exact same.symm
  · rfl

theorem givenUp_perform {w : Worker} {o : Op} {next : Pc} (sinks : (Pc.perform o next).Sinks)
    (uncertain : w.session.state = .uncertain ∨ (Pc.perform o next).GivesUp)
    (failed : w.state = .failed ∨ (w.state ≠ .closed ∧ (Pc.perform o next).Fails)) :
    ({ w.apply (.op o) with pc := next } : Worker).GivenUp := by
  cases o with
  | publish state reason =>
    obtain ⟨rfl, sinks⟩ := sinks
    exact ⟨sinks, .inl (transition_uncertain reason _), failed⟩
  | publishStopped =>
    refine ⟨sinks, uncertain.imp_left fun given => ?_, failed⟩
    have kept : (w.apply (.op .publishStopped)).session = w.session := by
      rw [session_apply]
      exact if_pos given
    exact (congrArg SessionSnapshot.state kept).trans given
  | markFailed fault =>
    have live : w.state ≠ .closed := by
      rcases failed with failed | ⟨live, -⟩
      · rw [failed]
        decide
      · exact live
    exact ⟨sinks, uncertain, .inl (if_neg live)⟩
  | settle item s => exact ⟨sinks, uncertain, failed⟩
  | resolveStop error => exact ⟨sinks, uncertain, failed⟩
  | drain error => exact ⟨sinks, uncertain, failed⟩
  | release futures error => exact ⟨sinks, uncertain, failed⟩

theorem givenUp_stopFailed {w : Worker} {t : TransportId} {fault : Fault} {cause : StopCause}
    (live : w.state ≠ .closed) (own : ∀ item, cause ≠ .interrupt item) :
    ({ w with pc := Pc.stopFailed t fault cause } : Worker).GivenUp := by
  cases cause with
  | idle => exact ⟨⟨rfl, trivial⟩, .inr (.inl rfl), .inr ⟨live, trivial⟩⟩
  | interrupt item => exact absurd rfl (own item)
  | late item => exact ⟨⟨rfl, trivial⟩, .inr (.inl rfl), .inr ⟨live, trivial⟩⟩

theorem givenUp_move {w : Worker} {i : Input} {c : Cmd} {pc' : Pc} (given : w.GivenUp)
    (m : Moves w w.pc i c pc') : ({ w.apply c with pc := pc' } : Worker).GivenUp := by
  obtain ⟨sinks, uncertain, failed⟩ := given
  generalize w.pc = pc at m sinks uncertain failed
  cases m
  case perform => exact givenUp_perform sinks uncertain failed
  case closed =>
    rename_i failure
    have kept : w.session.state = .uncertain := uncertain.resolve_right id
    have stays : w.state = .failed := failed.resolve_right fun fails => fails.2
    cases failure with
    | none => exact ⟨sinks, .inl kept, .inl stays⟩
    | some fault => exact ⟨sinks, .inl kept, .inl (if_neg (by simp [record, stays]))⟩
  case itemNext stop live queue =>
    exact absurd (.inr (failed.resolve_right fun fails => fails.2)) live
  case stopNext => exact ⟨trivial, uncertain, failed⟩
  case endNext => exact ⟨trivial, uncertain, failed⟩
  case stopSent cause t =>
    cases cause with
    | idle => exact ⟨trivial, uncertain, failed⟩
    | _ => exact sinks.elim
  case stopAcknowledged cause t =>
    cases cause with
    | idle =>
      exact ⟨trivial, uncertain.imp_right False.elim,
        failed.imp_right fun fails => fails.2.elim⟩
    | _ => exact sinks.elim
  case stopUnsent cause t fault recovery =>
    have live : w.state ≠ .closed := by
      rw [failed.resolve_right fun fails => fails.2]
      decide
    cases cause with
    | idle => exact givenUp_stopFailed (w := w.apply (.stopUnsent fault)) live (by simp)
    | _ => exact sinks.elim
  case stopUnanswered cause t fault recovery =>
    have live : w.state ≠ .closed := by
      rw [failed.resolve_right fun fails => fails.2]
      decide
    cases cause with
    | idle => exact givenUp_stopFailed (w := w.apply (.stopFailed fault)) live (by simp)
    | _ => exact sinks.elim
  case finish =>
    have stays : w.state = .failed := failed.resolve_right fun fails => fails.2
    exact ⟨trivial, uncertain.imp_right False.elim, .inl (if_pos stays)⟩
  all_goals exact sinks.elim

theorem givenUp_caller {w v : Worker} (fresh : w.Fresh) (given : w.GivenUp)
    (same : SameThread w v) : v.GivenUp := by
  obtain ⟨sinks, uncertain, failed⟩ := given
  have notNew : w.state ≠ .new := by
    intro new
    rw [(fresh new).1] at sinks
    exact sinks
  refine ⟨by rw [same.pc]; exact sinks, by rw [same.session, same.pc]; exact uncertain, ?_⟩
  rw [same.pc]
  rcases same.state with unchanged | ⟨new, -⟩ | ⟨live, closing⟩
  · rw [unchanged]
    exact failed
  · exact absurd new notNew
  · right
    rcases failed with failed | ⟨-, fails⟩
    · rw [failed] at live
      rcases live with live | live <;> cases live
    · exact ⟨by rw [closing]; decide, fails⟩

/-- No stop that interrupts an active request is left without its acknowledgement. -/
def interruptAnswered (w : Worker) (e : WorkerEvent) : Bool :=
  match w.pc, e with
  | .awaitStop (.interrupt _) _, .thread (.fault _) => false
  | _, _ => true

/-- A stop was written, and its acknowledgement did not come. -/
def Unanswered (w : Worker) : Prop := ∃ fault, w.Did (.stopFailed fault)

structure StopAccounted (w : Worker) : Prop where
  fresh : w.Fresh
  past : w.ClosedOver
  given : w.Unanswered → w.GivenUp

theorem stopAccounted_move {w : Worker} {i : Input} {c : Cmd} {pc' : Pc} (inv : w.StopAccounted)
    (answered : w.interruptAnswered (.thread i) = true) (m : Moves w w.pc i c pc')
    (unanswered : ({ w.apply c with pc := pc' } : Worker).Unanswered) :
    ({ w.apply c with pc := pc' } : Worker).GivenUp := by
  obtain ⟨fault, did⟩ := unanswered
  rcases (did_apply w c _).mp did with rfl | before
  · -- the stop fails now: it is answered for by the cause it was sent for
    generalize at_pc : w.pc = pc at m
    cases m
    rename_i cause t
    have live : w.state ≠ .closed := by
      intro closed
      have := inv.past closed
      rw [at_pc] at this
      exact this
    refine givenUp_stopFailed (w := w.apply (.stopFailed fault)) live fun item => ?_
    rintro rfl
    simp [interruptAnswered, at_pc] at answered
  · exact givenUp_move (inv.given ⟨fault, before⟩) m

theorem stopAccounted_step {w v : Worker} {e : WorkerEvent} (inv : w.StopAccounted)
    (answered : w.interruptAnswered e = true) (h : w.step e = some v) : v.StopAccounted := by
  refine ⟨fresh_step inv.fresh h, closedOver_step inv.fresh inv.past h, fun unanswered => ?_⟩
  rcases step_cases h with ⟨-, new, rfl⟩ | ⟨i, rfl, moved⟩ | same
  · have given := inv.given unanswered
    have sinks := given.sinks
    rw [(inv.fresh new).1] at sinks
    exact sinks.elim
  · rcases threadStep_cases moved with ⟨f, s, rest, -, rfl⟩ | ⟨-, c, pc', m, rfl⟩
    · obtain ⟨fault, did⟩ := unanswered
      have given := inv.given ⟨fault, (did_settlePending f s _ _).mp did⟩
      exact ⟨given.sinks, given.uncertain, given.failed⟩
    · exact stopAccounted_move inv answered m unanswered
  · obtain ⟨fault, did⟩ := unanswered
    exact givenUp_caller inv.fresh (inv.given ⟨fault, (same.did _).mp did⟩) same

end Worker

/-- Whichever path carried it, an unanswered stop leaves the session uncertain when the
thread has ended, in every run whose interrupting stops are all acknowledged. -/
theorem unansweredStop_uncertain (capacity attempts : Nat) (pos : 0 < capacity)
    (es : List WorkerEvent) (w : Worker)
    (answered : Meets Worker.step (fun w e => w.interruptAnswered e = true)
      (Worker.new capacity attempts pos) es)
    (reached : run Worker.step (Worker.new capacity attempts pos) es = some w)
    (unanswered : w.Unanswered) (ended : w.pc = .ended) : w.session.state = .uncertain := by
  have start : (Worker.new capacity attempts pos).StopAccounted := by
    refine ⟨Worker.fresh_new capacity attempts pos, fun closed => ?_, fun unanswered => ?_⟩
    · cases closed
    · obtain ⟨fault, did⟩ := unanswered
      cases did
  have inv := run_invariant (fun _ _ _ => Worker.stopAccounted_step) start answered reached
  have given := (inv.given unanswered).uncertain
  rw [ended] at given
  exact given.resolve_right id

def idleStopUnanswered : List WorkerEvent :=
  [.stop, .thread .go, .thread .stopWritten,
    .thread (.fault (.recovery "out-of-band stop was unsafe; v1 recovery failed" false true))] ++
    goes 5 ++ [.thread (.closed none)] ++ goes 3

theorem unansweredStop_uncertain_idle :
    (runD Worker.step daemonWorker (bringUp ++ idleStopUnanswered)).session.state = .uncertain := by
  have ran : run Worker.step daemonWorker (bringUp ++ idleStopUnanswered) =
      some (runD Worker.step daemonWorker (bringUp ++ idleStopUnanswered)) :=
    run_eq_runD (by decide +kernel)
  exact unansweredStop_uncertain 16 1 (by decide) _ _ (by decide +kernel) ran
    ⟨.recovery "out-of-band stop was unsafe; v1 recovery failed" false true, by decide +kernel⟩
    (by decide +kernel)

def interruptUnanswered : List WorkerEvent :=
  [.submit (.sort slotThree) none, .thread .go, .thread .go, .thread (.gated none),
    .thread (.written 1), .stop, .thread .go, .thread .stopWritten,
    .thread (.fault (.recovery "out-of-band stop was unsafe; v1 recovery failed" false true))] ++
    goes 6 ++ [.thread (.closed none)] ++ goes 3

theorem unansweredStop_disconnected :
    ∃ w, run Worker.step daemonWorker (bringUp ++ interruptUnanswered) = some w ∧
      w.Unanswered ∧ w.pc = .ended ∧ w.todo = [] ∧ w.session.state = .disconnected := by
  refine ⟨runD Worker.step daemonWorker (bringUp ++ interruptUnanswered), run_eq_runD ?_,
    ⟨.recovery "out-of-band stop was unsafe; v1 recovery failed" false true, ?_⟩, ?_⟩
  · decide +kernel
  · decide +kernel
  · decide +kernel

end CaseSorter.Daemon
