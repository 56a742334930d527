import CaseSorter.Lib.Runs
import CaseSorter.Daemon.WorkerSteps

/-! Who owns the transports the worker has obtained: at every point of the thread the
open transport is the one its code holds, until a session intent fails after it has
opened one. -/

namespace CaseSorter.Daemon

open CaseSorter.Runs

def Pc.link : Pc → Option TransportId
  | .unstarted | .openTransport _ | .reconnecting _ _ | .finish | .ended => none
  | .perform _ next => next.link
  | .handshake _ t | .activate _ t | .reactivate t | .closeTransport t _ | .started t | .loop t
  | .take t _ | .gate t _ | .status t _ _ | .send t _ | .polling t _ _ _ | .reading t _ _ _
  | .faulted t _ _ | .finished t _ _ | .refresh t | .sendStop _ t | .awaitStop _ t
  | .recovering t _ => some t

def Pc.Doomed : Pc → Prop
  | .finish | .ended => True
  | .perform _ next => next.Doomed
  | _ => False

namespace Pc

@[simp] theorem link_failSession (fault : Fault) (reason : String) (next : Pc) :
    (failSession fault reason next).link = next.link := rfl

@[simp] theorem doomed_failSession (fault : Fault) (reason : String) (next : Pc) :
    (failSession fault reason next).Doomed ↔ next.Doomed := Iff.rfl

@[simp] theorem doomed_sessionFailed (action : SessionAction) (item : WorkItem) (fault : Fault) :
    (sessionFailed action item fault).Doomed := trivial

@[simp] theorem link_attempt (left : Nat) (fault : Fault) : (attempt left fault).link = none := by
  cases left <;> rfl

@[simp] theorem link_connectFailed (fault : Fault) (p : Purpose) :
    (connectFailed fault p).link = none := by
  cases p with
  | startup => rfl
  | reconnect left first => exact link_attempt left first
  | session action item => rfl

@[simp] theorem link_verified (t : TransportId) (p : Purpose) : (verified t p).link = some t := by
  cases p <;> rfl

@[simp] theorem link_await (t : TransportId) (item : WorkItem) (id : Nat)
    (responses : List Response) : (await t item id responses).link = some t := by
  unfold await
  split_ifs <;> rfl

@[simp] theorem link_received (t : TransportId) (item : WorkItem) (id : Nat)
    (responses : List Response) (r : Response) :
    (Worker.received t item id responses r).link = some t := by
  unfold Worker.received
  by_cases terminal : r.terminal = true
  · rw [if_pos terminal]
    rfl
  · rw [if_neg terminal]
    exact link_await _ _ _ _

@[simp] theorem link_begin (t : TransportId) (item : WorkItem) (w : Worker) :
    (w.begin t item).link = some t := by
  unfold Worker.begin
  split
  · split_ifs <;> rfl
  all_goals rfl

@[simp] theorem link_recover (t : TransportId) (fault : Fault) : (recover t fault).link = some t :=
  rfl

@[simp] theorem link_afterFault (t : TransportId) (fault : Fault) :
    (afterFault t fault).link = some t := by
  unfold afterFault
  split_ifs <;> rfl

@[simp] theorem link_afterResult (t : TransportId) (item : WorkItem) :
    (afterResult t item).link = some t := by
  unfold afterResult
  split_ifs <;> rfl

@[simp] theorem link_stopFailed (t : TransportId) (fault : Fault) (cause : StopCause) :
    (stopFailed t fault cause).link = some t := by
  cases cause <;> rfl

@[simp] theorem link_stopAcknowledged (t : TransportId) (cause : StopCause) :
    (stopAcknowledged t cause).link = some t := by
  cases cause <;> rfl

end Pc

namespace Worker

/-- Obtained from the factory, and `close` has not been called on it. -/
def Open (w : Worker) (t : TransportId) : Prop := t < w.obtained ∧ t ∉ w.closedTransports

theorem Moves.link {w : Worker} {pc pc' : Pc} {i : Input} {c : Cmd} (m : Moves w pc i c pc') :
    (c = .acquire ∧ pc.link = none ∧ ¬ pc.Doomed ∧
      (pc'.link = some w.obtained ∨ pc'.Doomed)) ∨
      (∃ t failure, c = .close t failure ∧ pc.link = some t ∧ ¬ pc.Doomed) ∨
      ((∀ t failure, c ≠ .close t failure) ∧ c ≠ .acquire ∧
        (pc'.link = pc.link ∨ pc'.Doomed) ∧ (pc.Doomed → pc'.Doomed)) := by
  cases m
  case openedClosing p closing =>
    refine .inl ⟨rfl, rfl, id, ?_⟩
    cases p
    · exact .inl rfl
    · exact .inl rfl
    · exact .inr trivial
  case opened => exact .inl ⟨rfl, rfl, id, .inl rfl⟩
  case closed => exact .inr (.inl ⟨_, _, rfl, rfl, id⟩)
  case statusFailed =>
    exact .inr (.inr ⟨fun _ _ => by simp, by simp, .inr trivial, fun doomed => doomed.elim⟩)
  all_goals
    refine .inr (.inr ⟨fun _ _ => by simp, by simp, .inl ?_, fun doomed => ?_⟩)
  all_goals first
    | simp [Pc.link, Pc.reconnect, Pc.connect]; done
    | exact doomed
    | exact doomed.elim

/-- Where the open transport is. -/
structure Owned (w : Worker) : Prop where
  single : ∀ t u, w.Open t → w.Open u → t = u
  held : ∀ t, w.Open t → w.pc.link = some t ∨ w.pc.Doomed

theorem open_apply_of_ne {w : Worker} {c : Cmd} {pc : Pc} (notClose : ∀ t f, c ≠ .close t f)
    (notAcquire : c ≠ .acquire) (t : TransportId) :
    ({ w.apply c with pc := pc } : Worker).Open t ↔ w.Open t := by
  have closed : (w.apply c).closedTransports = w.closedTransports := by
    rw [closedTransports_apply]
    split
    · exact absurd rfl (notClose _ _)
    · rfl
  simp only [Open, obtained_apply, if_neg notAcquire, closed]

theorem open_acquire {w : Worker} {pc : Pc} (t : TransportId)
    (h : ({ w.apply .acquire with pc := pc } : Worker).Open t) : t = w.obtained ∨ w.Open t := by
  obtain ⟨bound, notClosed⟩ := h
  have bound : t < w.obtained + 1 := bound
  rcases Nat.lt_succ_iff_lt_or_eq.mp bound with before | rfl
  · exact .inr ⟨before, notClosed⟩
  · exact .inl rfl

theorem open_close {w : Worker} {u : TransportId} {failure : Option Fault} {pc : Pc}
    (t : TransportId) (h : ({ w.apply (.close u failure) with pc := pc } : Worker).Open t) :
    t ≠ u ∧ w.Open t := by
  obtain ⟨bound, notClosed⟩ := h
  have notClosed : t ∉ (w.apply (.close u failure)).closedTransports := notClosed
  have bound : t < (w.apply (.close u failure)).obtained := bound
  rw [closedTransports_apply] at notClosed
  rw [obtained_apply, if_neg (by simp)] at bound
  exact ⟨fun same => notClosed (same ▸ List.mem_cons_self), bound,
    fun closed => notClosed (List.mem_cons_of_mem _ closed)⟩

theorem owned_move {w : Worker} {i : Input} {c : Cmd} {pc' : Pc} (owned : w.Owned)
    (m : Moves w w.pc i c pc') : ({ w.apply c with pc := pc' } : Worker).Owned := by
  rcases m.link with ⟨rfl, unlinked, live, next⟩ | ⟨u, failure, rfl, linked, live⟩ |
    ⟨notClose, notAcquire, next, stays⟩
  · have closed : ∀ t, ¬ w.Open t := by
      intro t isOpen
      rcases owned.held t isOpen with linked | doomed
      · rw [unlinked] at linked
        cases linked
      · exact live doomed
    have fresh : ∀ t, ({ w.apply .acquire with pc := pc' } : Worker).Open t → t = w.obtained :=
      fun t h => (open_acquire t h).resolve_right (closed t)
    refine ⟨fun t u ht hu => (fresh t ht).trans (fresh u hu).symm, fun t ht => ?_⟩
    rw [fresh t ht]
    exact next
  · have closed : ∀ t, ¬ ({ w.apply (.close u failure) with pc := pc' } : Worker).Open t := by
      intro t isOpen
      obtain ⟨other, before⟩ := open_close t isOpen
      rcases owned.held t before with held | doomed
      · rw [linked] at held
        exact other (Option.some.inj held).symm
      · exact live doomed
    exact ⟨fun t u ht _ => absurd ht (closed t), fun t ht => absurd ht (closed t)⟩
  · refine ⟨fun t u ht hu => ?_, fun t ht => ?_⟩
    · rw [open_apply_of_ne notClose notAcquire] at ht hu
      exact owned.single t u ht hu
    · rw [open_apply_of_ne notClose notAcquire] at ht
      rcases owned.held t ht with held | doomed
      · rcases next with same | doomed'
        · exact .inl (same.trans held)
        · exact .inr doomed'
      · exact .inr (stays doomed)

theorem open_of_same {w v : Worker} (same : SameThread w v) (t : TransportId) :
    v.Open t ↔ w.Open t := by
  rw [Open, Open, same.obtained, same.closedTransports]

theorem owned_step {w v : Worker} {e : WorkerEvent} (inv : w.Fresh ∧ w.Owned)
    (h : w.step e = some v) : v.Fresh ∧ v.Owned := by
  refine ⟨fresh_step inv.1 h, ?_⟩
  rcases step_cases h with ⟨-, new, rfl⟩ | ⟨i, -, moved⟩ | same
  · have none_open : ∀ t, ¬ w.Open t := by
      intro t isOpen
      rw [Open, (inv.1 new).2.1] at isOpen
      exact Nat.not_lt_zero t isOpen.1
    exact ⟨fun t u ht _ => absurd ht (none_open t), fun t ht => absurd ht (none_open t)⟩
  · rcases threadStep_cases moved with ⟨f, s, rest, -, rfl⟩ | ⟨-, c, pc', m, rfl⟩
    · exact ⟨inv.2.single, inv.2.held⟩
    · exact owned_move inv.2 m
  · refine ⟨fun t u ht hu => ?_, fun t ht => ?_⟩
    · rw [open_of_same same] at ht hu
      exact inv.2.single t u ht hu
    · rw [open_of_same same] at ht
      rw [same.pc]
      exact inv.2.held t ht

/-- No session intent fails with an open transport: its status request is answered, and
it does not come upon a shutdown right after it has opened a new one. -/
def keepsLink (w : Worker) (e : WorkerEvent) : Bool :=
  match w.pc, e with
  | .status _ _ _, .thread (.fault _) => false
  | .openTransport (.session _ _), .thread .opened => w.state ≠ .closing
  | _, _ => true

theorem Moves.keeps_link {w : Worker} {i : Input} {c : Cmd} {pc' : Pc}
    (m : Moves w w.pc i c pc') (ok : w.keepsLink (.thread i) = true) :
    (c = .acquire ∧ w.pc.link = none ∧ pc'.link = some w.obtained) ∨
      (∃ t failure, c = .close t failure ∧ w.pc.link = some t) ∨
      ((∀ t failure, c ≠ .close t failure) ∧ c ≠ .acquire ∧ pc'.link = w.pc.link) := by
  generalize at_pc : w.pc = pc at m
  cases m
  case openedClosing p closing =>
    cases p with
    | session action item => simp [keepsLink, at_pc, closing] at ok
    | _ => exact .inl ⟨rfl, rfl, rfl⟩
  case opened => exact .inl ⟨rfl, rfl, rfl⟩
  case closed => exact .inr (.inl ⟨_, _, rfl, rfl⟩)
  case statusFailed => simp [keepsLink, at_pc] at ok
  all_goals
    refine .inr (.inr ⟨fun _ _ => by simp, by simp, ?_⟩)
    simp [Pc.link, Pc.reconnect, Pc.connect]

def Held (w : Worker) : Prop := ∀ t, w.Open t → w.pc.link = some t

theorem held_step {w v : Worker} {e : WorkerEvent} (inv : w.Fresh ∧ w.Held)
    (ok : w.keepsLink e = true) (h : w.step e = some v) : v.Fresh ∧ v.Held := by
  refine ⟨fresh_step inv.1 h, fun t ht => ?_⟩
  rcases step_cases h with ⟨-, new, rfl⟩ | ⟨i, rfl, moved⟩ | same
  · rw [Open, (inv.1 new).2.1] at ht
    exact absurd ht.1 (Nat.not_lt_zero t)
  · rcases threadStep_cases moved with ⟨f, s, rest, -, rfl⟩ | ⟨-, c, pc', m, rfl⟩
    · exact inv.2 t ht
    · rcases m.keeps_link ok with ⟨rfl, unlinked, linked⟩ | ⟨u, failure, rfl, linked⟩ |
        ⟨notClose, notAcquire, same⟩
      · rcases open_acquire t ht with rfl | before
        · exact linked
        · have := inv.2 t before
          rw [unlinked] at this
          cases this
      · obtain ⟨other, before⟩ := open_close t ht
        have := inv.2 t before
        rw [linked] at this
        exact absurd (Option.some.inj this).symm other
      · rw [open_apply_of_ne notClose notAcquire] at ht
        exact same.trans (inv.2 t ht)
  · rw [open_of_same same] at ht
    rw [same.pc]
    exact inv.2 t ht

end Worker

/-- In every run at most one transport is open, and where no session intent fails with an
open transport, every transport has been closed when the thread has ended. -/
theorem transports_singleOwner (capacity attempts : Nat) (pos : 0 < capacity)
    (es : List WorkerEvent) (w : Worker)
    (reached : run Worker.step (Worker.new capacity attempts pos) es = some w) :
    (∀ t u, w.Open t → w.Open u → t = u) ∧
      (Meets Worker.step (fun w e => w.keepsLink e = true) (Worker.new capacity attempts pos) es →
        w.pc = .ended → ∀ t < w.obtained, t ∈ w.closedTransports) := by
  have fresh := Worker.fresh_new capacity attempts pos
  have none_open : ∀ t, ¬ (Worker.new capacity attempts pos).Open t :=
    fun t isOpen => Nat.not_lt_zero t isOpen.1
  have owned := run_invariant (fun _ _ _ inv _ => Worker.owned_step inv)
    (⟨fresh, fun t _ ht _ => absurd ht (none_open t), fun t ht => absurd ht (none_open t)⟩ :
      (Worker.new capacity attempts pos).Fresh ∧ (Worker.new capacity attempts pos).Owned)
    (meets_of_forall (fun _ _ _ => trivial) _ : Meets Worker.step (fun _ _ => True) _ es) reached
  refine ⟨owned.2.single, fun keeps ended t obtained => ?_⟩
  have held := run_invariant (fun _ _ _ inv ok => Worker.held_step inv ok)
    (⟨fresh, fun t ht => absurd ht (none_open t)⟩ :
      (Worker.new capacity attempts pos).Fresh ∧ (Worker.new capacity attempts pos).Held)
    keeps reached
  by_contra unclosed
  have linked := held.2 t ⟨obtained, unclosed⟩
  rw [ended] at linked
  cases linked

theorem transports_singleOwner_shutdown :
    (runD Worker.step daemonWorker (bringUp ++ shutDown)).pc = .ended ∧
      0 ∈ (runD Worker.step daemonWorker (bringUp ++ shutDown)).closedTransports := by
  have ran : run Worker.step daemonWorker (bringUp ++ shutDown) =
      some (runD Worker.step daemonWorker (bringUp ++ shutDown)) := run_eq_runD (by decide +kernel)
  have ended : (runD Worker.step daemonWorker (bringUp ++ shutDown)).pc = .ended := by
    decide +kernel
  have opened : (runD Worker.step daemonWorker (bringUp ++ shutDown)).obtained = 1 := by
    decide +kernel
  refine ⟨ended, ?_⟩
  exact (transports_singleOwner 16 1 (by decide) (bringUp ++ shutDown) _ ran).2
    (by decide +kernel) ended 0 (by rw [opened]; decide)

def statusRefused : List WorkerEvent :=
  [.submit (.session .connect) none, .thread .go, .thread .go, .thread (.gated none),
    .thread (.fault (.protocol "ProtocolError" "status failed"))] ++ goes 6

theorem transports_leaked :
    ∃ w, run Worker.step daemonWorker (bringUp ++ statusRefused) = some w ∧
      w.pc = .ended ∧ w.todo = [] ∧ w.obtained = 1 ∧ w.closedTransports = [] := by
  refine ⟨runD Worker.step daemonWorker (bringUp ++ statusRefused), run_eq_runD ?_, ?_⟩
  · decide +kernel
  · decide +kernel

end CaseSorter.Daemon
