import Mathlib.Data.List.Perm.Basic
import CaseSorter.Lib.Runs
import CaseSorter.Daemon.WorkerSteps

/-! Who is going to resolve each future. A future that is not resolved is in exactly one
place: in the queue, among the stop waiters, with a caller that has preempted it, or with
the thread; every step hands it on or resolves it. -/

namespace CaseSorter.Daemon

open CaseSorter.Runs

/-- The futures that wait in one of `idle`, those the thread runs in `active`; every other
future that has been handed out is resolved. -/
structure Account (idle active : List FutureId) (futures : FutureId → FutureState)
    (next : FutureId) : Prop where
  nodup : (idle ++ active).Nodup
  known : ∀ f ∈ idle ++ active, f < next
  waiting : ∀ f ∈ idle, futures f = .pending ∨ futures f = .cancelled
  running : ∀ f ∈ active, futures f = .running
  rest : ∀ f < next, f ∉ idle ++ active → (futures f).isOpen = false
  unborn : ∀ f, next ≤ f → futures f = .pending

namespace Account

variable {idle idle' active : List FutureId} {futures : FutureId → FutureState}
  {next f : FutureId}

theorem perm (a : Account idle active futures next) (p : idle.Perm idle') :
    Account idle' active futures next := by
  have p' : (idle ++ active).Perm (idle' ++ active) := p.append_right active
  refine ⟨p'.nodup_iff.mp a.nodup, fun f hf => a.known f (p'.mem_iff.mpr hf),
    fun f hf => a.waiting f (p.mem_iff.mpr hf), a.running, fun f hf out => ?_, a.unborn⟩
  exact a.rest f hf fun member => out (p'.mem_iff.mp member)

theorem admitted (a : Account idle active futures next) :
    Account (next :: idle) active futures (next + 1) := by
  have fresh : next ∉ idle ++ active := fun member => Nat.lt_irrefl _ (a.known next member)
  refine ⟨List.nodup_cons.mpr ⟨fresh, a.nodup⟩, fun f hf => ?_, fun f hf => ?_, a.running,
    fun f hf out => ?_, fun f hf => a.unborn f (Nat.le_of_succ_le hf)⟩
  · rcases List.mem_cons.mp hf with rfl | member
    · exact Nat.lt_succ_self f
    · exact Nat.lt_succ_of_lt (a.known f member)
  · rcases List.mem_cons.mp hf with rfl | member
    · exact .inl (a.unborn f (Nat.le_refl f))
    · exact a.waiting f member
  · have other : f ≠ next := fun same => out (same ▸ List.mem_cons_self)
    exact a.rest f (Nat.lt_of_le_of_ne (Nat.le_of_lt_succ hf) other)
      fun member => out (List.mem_cons_of_mem _ member)

theorem leave {s : Settlement} (a : Account (f :: idle) active futures next) :
    Account idle active
      (if futures f = .pending then Function.update futures f (.resolved s) else futures) next := by
  have split := List.nodup_cons.mp a.nodup
  have others : ∀ g, g ∈ idle ++ active → g ≠ f := fun g member same =>
    split.1 (same ▸ member)
  have kept : ∀ g, g ≠ f →
      (if futures f = .pending then Function.update futures f (.resolved s) else futures) g =
        futures g := by
    intro g other
    split_ifs
    · exact Function.update_of_ne other _ _
    · rfl
  have bound : f < next := a.known f List.mem_cons_self
  refine ⟨split.2, fun g hg => a.known g (List.mem_cons_of_mem _ hg), fun g hg => ?_,
    fun g hg => ?_, fun g hg out => ?_, fun g hg => ?_⟩
  · rw [kept g (others g (List.mem_append_left _ hg))]
    exact a.waiting g (List.mem_cons_of_mem _ hg)
  · rw [kept g (others g (List.mem_append_right _ hg))]
    exact a.running g hg
  · by_cases same : g = f
    · subst same
      rcases a.waiting g List.mem_cons_self with pending | cancelled
      · rw [if_pos pending, Function.update_self]
        rfl
      · rw [if_neg (by rw [cancelled]; simp), cancelled]
        rfl
    · rw [kept g same]
      refine a.rest g hg fun member => ?_
      rcases List.mem_cons.mp member with same' | member
      · exact same same'
      · exact out member
  · rw [kept g (Nat.ne_of_gt (Nat.lt_of_lt_of_le bound hg))]
    exact a.unborn g hg

theorem run (a : Account (f :: idle) [] futures next) :
    Account idle [f] (Function.update futures f .running) next := by
  have nodup : (f :: idle).Nodup := by simpa using a.nodup
  have split := List.nodup_cons.mp nodup
  have others : ∀ g ∈ idle, g ≠ f := fun g member same => split.1 (same ▸ member)
  have bound : f < next := a.known f List.mem_cons_self
  refine ⟨?_, fun g hg => ?_, fun g hg => ?_, fun g hg => ?_, fun g hg out => ?_,
    fun g hg => ?_⟩
  · exact (List.perm_append_singleton f idle).nodup_iff.mpr nodup
  · rcases List.mem_append.mp hg with member | member
    · exact a.known g (List.mem_cons_of_mem _ (List.mem_append_left _ member))
    · rw [List.mem_singleton.mp member]
      exact bound
  · rw [Function.update_of_ne (others g hg)]
    exact a.waiting g (List.mem_cons_of_mem _ hg)
  · rw [List.mem_singleton.mp hg, Function.update_self]
  · have other : g ≠ f := fun same =>
      out (List.mem_append_right _ (List.mem_singleton.mpr same))
    rw [Function.update_of_ne other]
    refine a.rest g hg fun member => ?_
    rcases List.mem_cons.mp member with same | member
    · exact other same
    · exact out (List.mem_append_left _ (by simpa using member))
  · rw [Function.update_of_ne (Nat.ne_of_gt (Nat.lt_of_lt_of_le bound hg))]
    exact a.unborn g hg

theorem settle {s : Settlement} (a : Account idle (f :: active) futures next) :
    Account idle active (Function.update futures f (.resolved s)) next := by
  have moved : (idle ++ f :: active).Perm (f :: (idle ++ active)) := List.perm_middle
  have split := List.nodup_cons.mp (moved.nodup_iff.mp a.nodup)
  have others : ∀ g, g ∈ idle ++ active → g ≠ f := fun g member same =>
    split.1 (same ▸ member)
  have bound : f < next := a.known f (moved.mem_iff.mpr List.mem_cons_self)
  refine ⟨split.2, fun g hg => a.known g (moved.mem_iff.mpr (List.mem_cons_of_mem _ hg)),
    fun g hg => ?_, fun g hg => ?_, fun g hg out => ?_, fun g hg => ?_⟩
  · rw [Function.update_of_ne (others g (List.mem_append_left _ hg))]
    exact a.waiting g hg
  · rw [Function.update_of_ne (others g (List.mem_append_right _ hg))]
    exact a.running g (List.mem_cons_of_mem _ hg)
  · by_cases same : g = f
    · rw [same, Function.update_self]
      rfl
    · rw [Function.update_of_ne same]
      refine a.rest g hg fun member => ?_
      rcases List.mem_cons.mp (moved.mem_iff.mp member) with same' | member
      · exact same same'
      · exact out member
  · rw [Function.update_of_ne (Nat.ne_of_gt (Nat.lt_of_lt_of_le bound hg))]
    exact a.unborn g hg

theorem cancel (a : Account idle active futures next) (bound : f < next)
    (pending : futures f = .pending) :
    Account idle active (Function.update futures f .cancelled) next := by
  refine ⟨a.nodup, a.known, fun g hg => ?_, fun g hg => ?_, fun g hg out => ?_, fun g hg => ?_⟩
  · by_cases same : g = f
    · rw [same, Function.update_self]
      exact .inr rfl
    · rw [Function.update_of_ne same]
      exact a.waiting g hg
  · have other : g ≠ f := by
      rintro rfl
      rw [a.running g hg] at pending
      cases pending
    rw [Function.update_of_ne other]
    exact a.running g hg
  · have other : g ≠ f := by
      rintro rfl
      have := a.rest g hg out
      rw [pending] at this
      cases this
    rw [Function.update_of_ne other]
    exact a.rest g hg out
  · rw [Function.update_of_ne (Nat.ne_of_gt (Nat.lt_of_lt_of_le bound hg))]
    exact a.unborn g hg

end Account

def Purpose.futures : Purpose → List FutureId
  | .session _ item => [item.future]
  | _ => []

def StopCause.futures : StopCause → List FutureId
  | .idle => []
  | .interrupt item | .late item => [item.future]

namespace Pc

def waits : Pc → List FutureId
  | .take _ item => [item.future]
  | .perform (.release futures _) next => futures ++ next.waits
  | .perform _ next | .closeTransport _ next => next.waits
  | _ => []

def runs : Pc → List FutureId
  | .perform (.settle item _) next => item.future :: next.runs
  | .perform _ next | .closeTransport _ next => next.runs
  | .openTransport p | .handshake p _ | .activate p _ => p.futures
  | .gate _ item | .status _ _ item | .send _ item | .polling _ item _ _ | .reading _ item _ _
  | .faulted _ item _ | .finished _ item _ => [item.future]
  | .sendStop cause _ | .awaitStop cause _ => cause.futures
  | _ => []

def Holds (pc : Pc) (idle active : List FutureId) : Prop := pc.waits = idle ∧ pc.runs = active

theorem holds_attempt (left : Nat) (fault : Fault) : (attempt left fault).Holds [] [] := by
  cases left <;> exact ⟨rfl, rfl⟩

theorem holds_connectFailed (fault : Fault) (p : Purpose) :
    (connectFailed fault p).Holds [] p.futures := by
  cases p with
  | startup => exact ⟨rfl, rfl⟩
  | reconnect left first => exact holds_attempt left first
  | session action item => exact ⟨rfl, rfl⟩

theorem holds_unverified (t : TransportId) (p : Purpose) :
    (unverified t p).Holds [] p.futures := by
  cases p <;> exact ⟨rfl, rfl⟩

theorem holds_verified (t : TransportId) (p : Purpose) : (verified t p).Holds [] p.futures := by
  cases p <;> exact ⟨rfl, rfl⟩

theorem holds_await (t : TransportId) (item : WorkItem) (id : Nat) (responses : List Response) :
    (await t item id responses).Holds [] [item.future] := by
  unfold await
  split_ifs <;> exact ⟨rfl, rfl⟩

theorem holds_received (t : TransportId) (item : WorkItem) (id : Nat)
    (responses : List Response) (r : Response) :
    (Worker.received t item id responses r).Holds [] [item.future] := by
  unfold Worker.received
  by_cases terminal : r.terminal = true
  · rw [if_pos terminal]
    exact ⟨rfl, rfl⟩
  · rw [if_neg terminal]
    exact holds_await t item id _

theorem holds_begin (t : TransportId) (item : WorkItem) (w : Worker) :
    (w.begin t item).Holds [] [item.future] := by
  unfold Worker.begin
  split
  · split_ifs <;> exact ⟨rfl, rfl⟩
  all_goals exact ⟨rfl, rfl⟩

theorem holds_afterFault (t : TransportId) (fault : Fault) : (afterFault t fault).Holds [] [] := by
  unfold afterFault
  split_ifs <;> exact ⟨rfl, rfl⟩

theorem holds_afterResult (t : TransportId) (item : WorkItem) :
    (afterResult t item).Holds [] [] := by
  unfold afterResult
  split_ifs <;> exact ⟨rfl, rfl⟩

theorem holds_stopFailed (t : TransportId) (fault : Fault) (cause : StopCause) :
    (stopFailed t fault cause).Holds [] cause.futures := by
  cases cause <;> exact ⟨rfl, rfl⟩

theorem holds_stopAcknowledged (t : TransportId) (cause : StopCause) :
    (stopAcknowledged t cause).Holds [] cause.futures := by
  cases cause <;> exact ⟨rfl, rfl⟩

end Pc

namespace Worker

def Cmd.Neutral : Cmd → Prop
  | .op (.settle _ _) | .op (.release _ _) | .takeItem | .setRunning _ | .finish => False
  | _ => True

inductive HandsOn (w : Worker) : Cmd → Pc → Pc → Prop
  | same {c pc pc'} (neutral : Cmd.Neutral c) (holds : pc'.Holds pc.waits pc.runs) :
    HandsOn w c pc pc'
  | settle {item s pc pc'} (waits : pc'.waits = pc.waits)
      (runs : pc.runs = item.future :: pc'.runs) : HandsOn w (.op (.settle item s)) pc pc'
  | release {futures error pc pc'} (waits : pc.waits = futures ++ pc'.waits)
      (runs : pc'.runs = pc.runs) : HandsOn w (.op (.release futures error)) pc pc'
  | take {item rest pc pc'} (queue : w.normal = item :: rest) (before : pc.Holds [] [])
      (after : pc'.Holds [item.future] []) : HandsOn w .takeItem pc pc'
  | run {item pc pc'} (live : w.futures item.future ≠ .cancelled)
      (before : pc.Holds [item.future] []) (after : pc'.Holds [] [item.future]) :
    HandsOn w (.setRunning item) pc pc'
  | forget {item : WorkItem} {pc pc'} (cancelled : w.futures item.future = .cancelled)
      (before : pc.Holds [item.future] []) (after : pc'.Holds [] []) : HandsOn w .skip pc pc'
  | finish {pc pc'} (before : pc.Holds [] [])
      (after : pc'.Holds (w.normal.map WorkItem.future ++ w.stopWaiters) []) :
    HandsOn w .finish pc pc'

theorem Moves.handsOn {w : Worker} {pc pc' : Pc} {i : Input} {c : Cmd}
    (m : Moves w pc i c pc') : HandsOn w c pc pc' := by
  cases m
  case perform o =>
    cases o
    case settle => exact .settle rfl rfl
    case release => exact .release rfl rfl
    all_goals exact .same trivial ⟨rfl, rfl⟩
  case itemNext queue => exact .take queue ⟨rfl, rfl⟩ ⟨rfl, rfl⟩
  case takenCancelled cancelled => exact .forget cancelled ⟨rfl, rfl⟩ ⟨rfl, rfl⟩
  case taken live => exact .run live ⟨rfl, rfl⟩ ⟨rfl, rfl⟩
  case finish => exact .finish ⟨rfl, rfl⟩ ⟨List.append_nil _, rfl⟩
  case openedClosing => exact .same trivial (Pc.holds_unverified _ _)
  case openFailed => exact .same trivial (Pc.holds_connectFailed _ _)
  case handshakeFailed => exact .same trivial (Pc.holds_connectFailed _ _)
  case activateFailed => exact .same trivial (Pc.holds_connectFailed _ _)
  case activated => exact .same trivial (Pc.holds_verified _ _)
  case reactivateFailed => exact .same trivial (Pc.holds_attempt _ _)
  case reconnect => exact .same trivial (Pc.holds_attempt _ _)
  case dispatched => exact .same trivial (Pc.holds_begin _ _ _)
  case sent => exact .same trivial (Pc.holds_await _ _ _ _)
  case readNothing => exact .same trivial (Pc.holds_await _ _ _ _)
  case readResponse => exact .same trivial (Pc.holds_received _ _ _ _ _)
  case faulted =>
    obtain ⟨waits, runs⟩ := Pc.holds_afterFault _ _
    exact .same trivial ⟨waits, congrArg (List.cons _) runs⟩
  case finished =>
    obtain ⟨waits, runs⟩ := Pc.holds_afterResult _ _
    exact .same trivial ⟨waits, congrArg (List.cons _) runs⟩
  case refreshFailed => exact .same trivial (Pc.holds_afterFault _ _)
  case stopUnsent => exact .same trivial (Pc.holds_stopFailed _ _ _)
  case stopUnanswered => exact .same trivial (Pc.holds_stopFailed _ _ _)
  case stopAcknowledged => exact .same trivial (Pc.holds_stopAcknowledged _ _)
  all_goals exact .same trivial ⟨rfl, rfl⟩

def idle (w : Worker) : List FutureId :=
  w.normal.map WorkItem.future ++ (w.stopWaiters ++
    (w.preempted.map Prod.fst ++ (w.todo.map Prod.fst ++ w.pc.waits)))

/-- Every future is accounted for, and none has been resolved twice. -/
structure Accounted (w : Worker) : Prop where
  fresh : w.Fresh
  account : Account w.idle w.pc.runs w.futures w.nextFuture
  valid : ∀ f, .invalidState f ∉ w.log

theorem futures_neutral {c : Cmd} (neutral : Cmd.Neutral c) (w : Worker) :
    (w.apply c).futures = w.futures := by
  cases c with
  | op o => cases o <;> first | rfl | exact neutral.elim
  | close t failure => cases failure <;> rfl
  | takeItem => exact neutral.elim
  | setRunning item => exact neutral.elim
  | finish => exact neutral.elim
  | _ => rfl

theorem valid_apply {c : Cmd} {w : Worker} (valid : ∀ f, .invalidState f ∉ w.log)
    (settles : ∀ item s, c = .op (.settle item s) → (w.futures item.future).isOpen = true) :
    ∀ f, .invalidState f ∉ (w.apply c).log := by
  intro f
  rw [log_apply]
  split
  · rename_i item s
    simpa [settles item s rfl] using valid f
  · simpa using valid f

theorem idle_neutral {c : Cmd} (neutral : Cmd.Neutral c) {w : Worker} (todo : w.todo = [])
    {pc : Pc} (waits : pc.waits = w.pc.waits) :
    w.idle.Perm ({ w.apply c with pc := pc } : Worker).idle := by
  rw [List.perm_iff_count]
  intro f
  simp only [idle, normal_apply, stopWaiters_apply, todo_apply, preempted_apply, waits, todo]
  cases c with
  | op o =>
    cases o
    case settle => exact neutral.elim
    case release => exact neutral.elim
    case resolveStop =>
      simp only [List.count_append, List.map_map, Function.comp_def, List.map_id', List.map_nil,
        List.count_nil]
      omega
    case drain =>
      have same : (w.normal.map fun item => item.future) = w.normal.map WorkItem.future := rfl
      simp only [List.count_append, List.map_map, Function.comp_def, List.map_nil,
        List.count_nil, same]
      omega
    all_goals simp only
  | takeItem => exact neutral.elim
  | finish => exact neutral.elim
  | _ => simp only

theorem accounted_move {w : Worker} {i : Input} {c : Cmd} {pc' : Pc} (inv : w.Accounted)
    (todo : w.todo = []) (m : Moves w w.pc i c pc')
    (fresh : ({ w.apply c with pc := pc' } : Worker).Fresh) :
    ({ w.apply c with pc := pc' } : Worker).Accounted := by
  have account := inv.account
  suffices moved : Account ({ w.apply c with pc := pc' } : Worker).idle pc'.runs
      (w.apply c).futures w.nextFuture ∧
        ∀ item s, c = .op (.settle item s) → (w.futures item.future).isOpen = true by
    refine ⟨fresh, ?_, valid_apply inv.valid moved.2⟩
    change Account _ pc'.runs (w.apply c).futures (w.apply c).nextFuture
    rw [nextFuture_apply]
    exact moved.1
  have handsOn := m.handsOn
  generalize at_pc : w.pc = pc at handsOn
  subst at_pc
  cases handsOn with
  | same neutral holds =>
    rw [holds.2, futures_neutral neutral]
    refine ⟨account.perm (idle_neutral neutral todo holds.1), ?_⟩
    rintro item s rfl
    exact neutral.elim
  | settle waits runs =>
    rename_i item s
    rw [runs] at account
    have isOpen : (w.futures item.future).isOpen = true := by
      rw [account.running _ List.mem_cons_self]
      rfl
    refine ⟨?_, fun item' s' same => by cases same; exact isOpen⟩
    have same : ({ w.apply (.op (.settle item s)) with pc := pc' } : Worker).idle = w.idle := by
      simp [idle, waits, normal_apply, stopWaiters_apply, todo_apply]
    rw [futures_apply, same]
    simp only [isOpen, if_true]
    exact account.settle
  | release waits runs =>
    refine ⟨?_, by simp⟩
    rw [futures_apply, runs]
    refine account.perm (List.perm_iff_count.mpr fun f => ?_)
    simp [idle, waits, normal_apply, stopWaiters_apply, todo_apply, todo, Function.comp_def]
  | take queue before after =>
    refine ⟨?_, by simp⟩
    rw [before.2] at account
    rw [futures_apply, after.2]
    refine account.perm (List.perm_iff_count.mpr fun f => ?_)
    simp only [idle, before.1, after.1, normal_apply, stopWaiters_apply, todo_apply, todo, queue,
      preempted_apply, List.tail_cons, List.map_cons, List.count_append, List.count_cons,
      List.count_nil, List.map_nil]
    omega
  | run live before after =>
    rename_i item
    refine ⟨?_, by simp⟩
    rw [before.2] at account
    rw [futures_apply, after.2]
    refine (account.perm (List.perm_iff_count.mpr fun f => ?_)).run
    simp only [idle, before.1, after.1, normal_apply, stopWaiters_apply, todo_apply, todo,
      preempted_apply, List.count_append, List.count_cons, List.count_nil, List.map_nil]
    omega
  | forget cancelled before after =>
    rename_i item
    refine ⟨?_, by simp⟩
    rw [before.2] at account
    have moved : w.idle.Perm (item.future :: ({ w.apply .skip with pc := pc' } : Worker).idle) := by
      refine List.perm_iff_count.mpr fun f => ?_
      simp only [idle, before.1, after.1, normal_apply, stopWaiters_apply, todo_apply, todo,
        preempted_apply, List.count_append, List.count_cons, List.count_nil, List.map_nil]
      omega
    have left := (account.perm moved).leave (s := .ok none)
    rw [if_neg (by rw [cancelled]; simp)] at left
    rw [futures_apply, after.2]
    exact left
  | finish before after =>
    refine ⟨?_, by simp⟩
    rw [before.2] at account
    rw [futures_apply, after.2]
    refine account.perm (List.perm_iff_count.mpr fun f => ?_)
    simp only [idle, before.1, after.1, normal_apply, stopWaiters_apply, todo_apply, todo,
      preempted_apply, List.count_append, List.count_nil, List.map_nil]
    omega

theorem valid_settlePending {w : Worker} {f : FutureId} {s : Settlement}
    (valid : ∀ f, .invalidState f ∉ w.log)
    (waiting : w.futures f = .pending ∨ w.futures f = .cancelled) :
    ∀ g, .invalidState g ∉ (settlePending f s w).log := by
  intro g
  rcases waiting with pending | cancelled
  · simpa [settlePending, pending] using valid g
  · simpa [settlePending, cancelled] using valid g

theorem accounted_todo {w : Worker} {f : FutureId} {s : Settlement}
    {rest : List (FutureId × Settlement)} (inv : w.Accounted) (todo : w.todo = (f, s) :: rest)
    (fresh : (settlePending f s { w with todo := rest }).Fresh) :
    (settlePending f s { w with todo := rest }).Accounted := by
  have moved : w.idle.Perm (f :: (settlePending f s { w with todo := rest }).idle) := by
    refine List.perm_iff_count.mpr fun g => ?_
    simp only [idle, settlePending, todo, List.map_cons, List.count_append, List.count_cons]
    omega
  have account := inv.account.perm moved
  exact ⟨fresh, account.leave,
    valid_settlePending (w := { w with todo := rest }) inv.valid
      (account.waiting f List.mem_cons_self)⟩

theorem accounted_preempted {w : Worker} {k : Nat} {f : FutureId} {e : Failure} (inv : w.Accounted)
    (found : w.preempted[k]? = some (f, e))
    (fresh : (settlePending f (.error e) { w with preempted := w.preempted.eraseIdx k }).Fresh) :
    (settlePending f (.error e) { w with preempted := w.preempted.eraseIdx k }).Accounted := by
  have taken : w.preempted.Perm ((f, e) :: w.preempted.eraseIdx k) := by
    obtain ⟨bound, at_k⟩ := List.getElem?_eq_some_iff.mp found
    rw [← at_k]
    exact (List.getElem_cons_eraseIdx_perm bound).symm
  have moved : w.idle.Perm
      (f :: (settlePending f (.error e) { w with preempted := w.preempted.eraseIdx k }).idle) := by
    refine List.perm_iff_count.mpr fun g => ?_
    have counted := List.perm_iff_count.mp (taken.map Prod.fst) g
    simp only [List.map_cons, List.count_cons] at counted
    simp only [idle, settlePending, List.count_append, List.count_cons]
    omega
  have account := inv.account.perm moved
  exact ⟨fresh, account.leave,
    valid_settlePending (w := { w with preempted := w.preempted.eraseIdx k }) inv.valid
      (account.waiting f List.mem_cons_self)⟩

theorem count_preempt (message : String) (items : List WorkItem) :
    (preempt message items).map Prod.fst = items.map WorkItem.future := by
  rw [preempt, List.map_map]
  rfl

theorem accounted_admitted {w v : Worker} (inv : w.Accounted) (fresh : v.Fresh)
    (moved : (w.nextFuture :: w.idle).Perm v.idle) (runs : v.pc.runs = w.pc.runs)
    (futures : v.futures = w.futures) (next : v.nextFuture = w.nextFuture + 1)
    (valid : ∀ f, .invalidState f ∉ v.log) : v.Accounted := by
  refine ⟨fresh, ?_, valid⟩
  rw [runs, futures, next]
  exact inv.account.admitted.perm moved

theorem accounted_step {w v : Worker} {e : WorkerEvent} (inv : w.Accounted)
    (h : w.step e = some v) : v.Accounted := by
  have fresh := fresh_step inv.fresh h
  rcases step_calls h with calls | ⟨i, -, moved⟩
  · cases calls with
    | refused => exact inv
    | started new =>
      have account := inv.account
      have at_start := inv.fresh new
      simp only [idle, at_start] at account
      refine ⟨fresh, ?_, inv.valid⟩
      simp only [idle, at_start]
      exact account
    | timedOut starting => exact ⟨fresh, inv.account, inv.valid⟩
    | admitted running ready unstopped =>
      refine accounted_admitted inv fresh (List.perm_iff_count.mpr fun f => ?_) rfl
        rfl rfl fun f => ?_
      · simp only [idle, workItem, List.map_append, List.map_cons, List.map_nil,
          List.count_append, List.count_cons, List.count_nil]
        omega
      · simpa using inv.valid f
    | stopJoined running requested =>
      refine accounted_admitted inv fresh (List.perm_iff_count.mpr fun f => ?_) rfl
        rfl rfl fun f => ?_
      · simp only [idle, List.count_append, List.count_cons, List.count_nil]
        omega
      · simpa using inv.valid f
    | stopAccepted running unstopped =>
      refine accounted_admitted inv fresh (List.perm_iff_count.mpr fun f => ?_) rfl
        rfl rfl fun f => ?_
      · simp only [idle, List.map_append, count_preempt, List.map_nil, List.count_append,
          List.count_cons, List.count_nil]
        omega
      · simpa using inv.valid f
    | closedNew new => exact ⟨fresh, inv.account, inv.valid⟩
    | closing live =>
      refine ⟨fresh, inv.account.perm (List.perm_iff_count.mpr fun f => ?_), fun f => ?_⟩
      · simp only [idle, List.map_append, count_preempt, List.map_nil, List.count_append,
          List.count_nil]
        omega
      · simpa using inv.valid f
    | cancelled known pending => exact ⟨fresh, inv.account.cancel known pending, inv.valid⟩
    | preemptedFailed found => exact accounted_preempted inv found fresh
  · rcases threadStep_cases moved with ⟨f, s, rest, todo, rfl⟩ | ⟨todo, c, pc', m, rfl⟩
    · exact accounted_todo inv todo fresh
    · exact accounted_move inv todo m fresh

theorem accounted_new (capacity attempts : Nat) (pos : 0 < capacity) :
    (Worker.new capacity attempts pos).Accounted := by
  refine ⟨fresh_new capacity attempts pos, ⟨List.nodup_nil, ?_, ?_, ?_, ?_, ?_⟩, ?_⟩
  · exact fun f member => absurd member List.not_mem_nil
  · exact fun f member => absurd member List.not_mem_nil
  · exact fun f member => absurd member List.not_mem_nil
  · exact fun f bound => absurd bound (Nat.not_lt_zero f)
  · exact fun f _ => rfl
  · exact fun f => List.not_mem_nil

end Worker

def FutureState.Later (a b : FutureState) : Prop :=
  a = .pending ∨ b = a ∨ (a = .running ∧ ∃ s, b = .resolved s)

namespace Worker

theorem later_settlePending (f g : FutureId) (s : Settlement) (w : Worker) :
    (w.futures g).Later ((settlePending f s w).futures g) := by
  simp only [settlePending]
  split_ifs with pending
  · by_cases same : g = f
    · exact .inl (same ▸ pending)
    · exact .inr (.inl (Function.update_of_ne same _ _))
  · exact .inr (.inl rfl)

theorem later_move {w : Worker} {i : Input} {c : Cmd} {pc' : Pc} (inv : w.Accounted)
    (m : Moves w w.pc i c pc') (g : FutureId) : (w.futures g).Later ((w.apply c).futures g) := by
  have account := inv.account
  have handsOn := m.handsOn
  generalize at_pc : w.pc = pc at handsOn
  subst at_pc
  cases handsOn with
  | same neutral holds =>
    rw [futures_neutral neutral]
    exact .inr (.inl rfl)
  | settle waits runs =>
    rename_i item s
    have running := account.running item.future (by rw [runs]; exact List.mem_cons_self)
    rw [futures_apply]
    simp only [running, FutureState.isOpen, if_true]
    by_cases same : g = item.future
    · rw [same, Function.update_self]
      exact .inr (.inr ⟨running, s, rfl⟩)
    · exact .inr (.inl (Function.update_of_ne same _ _))
  | run live before after =>
    rename_i item
    have waiting : w.futures item.future = .pending := by
      refine (account.waiting item.future ?_).resolve_right live
      simp [idle, before.1]
    rw [futures_apply]
    by_cases same : g = item.future
    · exact .inl (same ▸ waiting)
    · exact .inr (.inl (Function.update_of_ne same _ _))
  | _ =>
    rw [futures_apply]
    exact .inr (.inl rfl)

theorem later_step {w v : Worker} {e : WorkerEvent} (inv : w.Accounted)
    (h : w.step e = some v) (g : FutureId) : (w.futures g).Later (v.futures g) := by
  rcases step_calls h with calls | ⟨i, -, moved⟩
  · cases calls with
    | cancelled known pending =>
      rename_i f
      by_cases same : g = f
      · exact .inl (same ▸ pending)
      · exact .inr (.inl (Function.update_of_ne same _ _))
    | preemptedFailed found => exact later_settlePending _ g _ { w with preempted := _ }
    | _ => exact .inr (.inl rfl)
  · rcases threadStep_cases moved with ⟨f, s, rest, todo, rfl⟩ | ⟨todo, c, pc', m, rfl⟩
    · exact later_settlePending f g s { w with todo := rest }
    · exact later_move inv m g

def Drained (w : Worker) : Prop :=
  w.pc.Over → w.normal = [] ∧ w.stopWaiters = [] ∧ w.state ≠ .running

theorem drained_move {w : Worker} {i : Input} {c : Cmd} {pc' : Pc} (drained : w.Drained)
    (m : Moves w w.pc i c pc') : ({ w.apply c with pc := pc' } : Worker).Drained := by
  intro past
  have notFinished : ∀ s : WorkerState, (if s = .failed then WorkerState.failed else .closed) ≠
      .running := by
    intro s
    split_ifs <;> decide
  have notRevived : ∀ s : WorkerState, (if s = .closed then WorkerState.closed else .failed) ≠
      .running := by
    intro s
    split_ifs <;> decide
  rcases m.past past with rfl | ⟨past, kind⟩
  · exact ⟨rfl, rfl, notFinished w.state⟩
  · obtain ⟨normal, waiters, state⟩ := drained past
    rcases kind with ⟨o, rfl⟩ | ⟨t, failure, rfl⟩
    · cases o with
      | resolveStop error => exact ⟨normal, rfl, state⟩
      | drain error => exact ⟨rfl, waiters, state⟩
      | markFailed fault => exact ⟨normal, waiters, notRevived w.state⟩
      | _ => exact ⟨normal, waiters, state⟩
    · cases failure with
      | none => exact ⟨normal, waiters, state⟩
      | some fault => exact ⟨normal, waiters, notRevived w.state⟩

theorem drained_step {w v : Worker} {e : WorkerEvent} (drained : w.Drained)
    (h : w.step e = some v) : v.Drained := by
  rcases step_calls h with calls | ⟨i, -, moved⟩
  · intro past
    cases calls with
    | started new => exact past.elim
    | admitted running ready unstopped => exact absurd running (drained past).2.2
    | stopJoined running requested => exact absurd running (drained past).2.2
    | stopAccepted running unstopped => exact absurd running (drained past).2.2
    | timedOut starting => exact ⟨(drained past).1, (drained past).2.1, by simp⟩
    | closedNew new => exact ⟨(drained past).1, (drained past).2.1, by simp⟩
    | closing live => exact ⟨rfl, (drained past).2.1, by simp⟩
    | _ => exact drained past
  · rcases threadStep_cases moved with ⟨f, s, rest, todo, rfl⟩ | ⟨todo, c, pc', m, rfl⟩
    · exact drained
    · exact drained_move drained m

theorem closed_of_ended {w : Worker} (accounted : w.Accounted) (drained : w.Drained)
    (ended : w.pc = .ended) (todo : w.todo = []) (preempted : w.preempted = []) (f : FutureId)
    (handedOut : f < w.nextFuture) : (w.futures f).isOpen = false := by
  have past : w.pc.Over := by
    rw [ended]
    trivial
  obtain ⟨normal, waiters, -⟩ := drained past
  refine accounted.account.rest f handedOut ?_
  simp [idle, ended, todo, preempted, normal, waiters, Pc.waits, Pc.runs]

end Worker

/-- In every run no future is resolved twice, and when the thread has ended and the
callers that took items from the queue have failed them, every future is resolved. -/
theorem futures_resolvedOnce (capacity attempts : Nat) (pos : 0 < capacity)
    (es : List WorkerEvent) (w : Worker)
    (reached : run Worker.step (Worker.new capacity attempts pos) es = some w) :
    (∀ f, .invalidState f ∉ w.log) ∧
      (w.pc = .ended → w.todo = [] → w.preempted = [] →
        ∀ f < w.nextFuture, (w.futures f).isOpen = false) := by
  have start : (Worker.new capacity attempts pos).Accounted ∧
      (Worker.new capacity attempts pos).Drained :=
    ⟨Worker.accounted_new capacity attempts pos, fun _ => ⟨rfl, rfl, by simp [Worker.new]⟩⟩
  have step : ∀ w e v, w.Accounted ∧ w.Drained → True → Worker.step w e = some v →
      v.Accounted ∧ v.Drained := fun w e v inv _ h =>
    ⟨Worker.accounted_step inv.1 h, Worker.drained_step inv.2 h⟩
  obtain ⟨accounted, drained⟩ := run_invariant step start
    (meets_of_forall (fun _ _ _ => trivial) _) reached
  exact ⟨accounted.valid, fun ended todo preempted =>
    Worker.closed_of_ended accounted drained ended todo preempted⟩

def stopAndClose : List WorkerEvent :=
  [.submit (.sort slotThree) none, .stop, .thread .go, .thread .stopWritten, .thread .stopped,
    .thread .go, .thread .go] ++ shutDown

theorem futures_resolvedOnce_preempted :
    ((runD Worker.step daemonWorker
        (bringUp ++ stopAndClose ++ [.failPreempted 0])).futures 0).isOpen = false ∧
      ((runD Worker.step daemonWorker
        (bringUp ++ stopAndClose ++ [.failPreempted 0])).futures 1).isOpen = false := by
  have ran : run Worker.step daemonWorker (bringUp ++ stopAndClose ++ [.failPreempted 0]) =
      some (runD Worker.step daemonWorker (bringUp ++ stopAndClose ++ [.failPreempted 0])) :=
    run_eq_runD (by decide +kernel)
  have count : (runD Worker.step daemonWorker
      (bringUp ++ stopAndClose ++ [.failPreempted 0])).nextFuture = 2 := by decide +kernel
  have resolved := (futures_resolvedOnce 16 1 (by decide) _ _ ran).2 (by decide +kernel)
    (by decide +kernel) (by decide +kernel)
  exact ⟨resolved 0 (by rw [count]; decide), resolved 1 (by rw [count]; decide)⟩

/-- The thread has ended before the caller of the stop has failed the sort it took. -/
theorem futures_unresolvedAtEnd :
    ∃ w, run Worker.step daemonWorker (bringUp ++ stopAndClose) = some w ∧
      w.pc = .ended ∧ w.todo = [] ∧ w.nextFuture = 2 ∧ (w.futures 0).isOpen = true := by
  refine ⟨runD Worker.step daemonWorker (bringUp ++ stopAndClose), run_eq_runD ?_, ?_⟩
  · decide +kernel
  · decide +kernel

end CaseSorter.Daemon
