import CaseSorter.Daemon.Admissions

/-! Moves that nothing but storage can fail: the journal takes the move of an operation
that may make it, when what it records passes the journal's checks. -/

namespace CaseSorter.Daemon

open CaseSorter.Actions CaseSorter.Transactions

/-- What the move records passes the journal's checks. -/
structure Move.Fit (m : Move) : Prop where
  reason : requireReason m.reason = .ok ()
  trusted : m.trustedTerminal = true ↔ m.toState = .succeeded
  fields : ∀ fields, m.terminalFields = some fields → requireTerminalFields fields = .ok ()

namespace Journal

variable {α : Type}

theorem write_raises {script : Script Db Raised α} {j j' : Journal} {e : Raised}
    (h : write (.ok script) j = (.error e, j')) :
    e.isStorage = true ∨ ∃ d, script.run [] j.connection.committed = (.raised e, d, []) := by
  have rolledBack : ∀ (c : Connection Db) (m : String),
      (rollback c (.journalError m)).1.isStorage = true := by
    intro c m
    rcases c with ⟨committed, _ | pending⟩ <;> rfl
  simp only [write, transaction] at h
  by_cases closed : j.closed = true
  · rw [if_pos closed] at h
    cases h
    exact .inl rfl
  rw [if_neg closed] at h
  by_cases refused : j.engine.headD .ok ≠ .ok ∨ j.connection.pending.isSome
  · rw [if_pos refused] at h
    cases h
    exact .inl (rolledBack _ _)
  rw [if_neg refused] at h
  rcases ran : script.run j.engine.tail j.connection.committed with ⟨a | x | inEngine, d, os⟩
  · simp only [ran] at h
    by_cases served : os.headD .ok = .ok
    · rw [if_pos served] at h
      cases h
    rw [if_neg served] at h
    cases h
    exact .inl rfl
  · simp only [ran] at h
    cases h
    exact .inr ⟨d, Script.run_raised ran⟩
  · simp only [ran] at h
    cases h
    exact .inl (rolledBack _ _)

end Journal

theorem transitionScript_said {t : TransitionWrite} (said : requireReason t.reason = .ok ())
    (trusted : t.trustedTerminal = true ↔ t.toState = .succeeded) :
    transitionScript t = .ok (t.body trusted) := by
  simp only [transitionScript, said, bind, Except.bind]
  rw [dif_neg, dif_neg]
  · rfl
  · rintro ⟨trusted', other⟩
    exact other (trusted.mp trusted')
  · rintro ⟨succeeded, untrusted⟩
    rw [trusted.mpr succeeded] at untrusted
    cases untrusted

def Domain.Allows (d : Domain) (move : Move) : Prop :=
  ∃ current, d.db.readOperation move.operationId = some current ∧
    canTransition current.state move.toState = true ∧
    current.generation ≤ d.machine.generation + 1

theorem TransitionWrite.body_allowed {t : TransitionWrite}
    (trusted : t.trustedTerminal = true ↔ t.toState = .succeeded) {db : Db}
    {current : OperationRecord} (found : db.readOperation t.operationId = some current)
    (allowed : canTransition current.state t.toState = true)
    (forward : current.generation ≤ t.generation) :
    (t.requireFields = .ok () ∧ ∃ record, ((t.body trusted).run [] db).1 =
      .returned (some record)) ∨
      ∃ e, t.requireFields = .error e ∧ ((t.body trusted).run [] db).1 = .raised e := by
  have known : t.operationId ∈ db.operationIds := Db.mem_operationIds_iff.mpr ⟨current, found⟩
  simp only [TransitionWrite.body, Script.run_execute_nil, found, allowed, Bool.true_eq_false,
    if_false, dif_neg (Nat.not_lt.mpr forward)]
  cases fields : t.requireFields with
  | error e => exact .inr ⟨e, rfl, rfl⟩
  | ok u =>
    obtain ⟨d₁, updated, ids₁⟩ :=
      Db.updateOperation_known (t.move current forward trusted) db
    obtain ⟨d₂, appended, ids₂⟩ := Db.appendTransition_known (some current.state) t.toState
      t.generation t.occurredAt t.reason (ids₁ ▸ known)
    have still : t.operationId ∈ d₂.operationIds := by
      rw [ids₂, ids₁]
      exact known
    obtain ⟨record, read⟩ := Db.mem_operationIds_iff.mp still
    simp only [Script.run_execute_nil, updated, appended, Script.run_done, read]
    exact .inl ⟨trivial, record, rfl⟩

namespace Domain

variable {d t : Domain} {move : Move} {now : Nat} {e : Raised}

theorem requireFields_fit (fit : move.Fit) : (d.writeOf move now).requireFields = .ok () := by
  unfold TransitionWrite.requireFields
  cases given : move.terminalFields with
  | none => rw [show (d.writeOf move now).terminalFields = _ from given]
  | some fields =>
    rw [show (d.writeOf move now).terminalFields = _ from given]
    exact fit.fields fields given

theorem transition_raises (allows : d.Allows move) (fit : move.Fit)
    (h : exec (transition move now) d = (.error e, t)) : e.isStorage = true := by
  have raised : ∃ x u, exec (writeTransition move now) d = (.error x, u) ∧
      (x.isStorage = true → e.isStorage = true) := by
    rw [transition, exec_tryCatch] at h
    rcases hw : exec (writeTransition move now) d with ⟨x | record, u⟩
    · rw [hw] at h
      cases x with
      | journalError m =>
        cases h
        exact ⟨_, u, rfl, id⟩
      | _ =>
        cases h
        exact ⟨_, _, rfl, id⟩
    · rw [hw] at h
      cases h
  obtain ⟨x, u, failed, storage⟩ := raised
  refine storage ?_
  rw [exec_writeTransition] at failed
  rcases hr : Journal.recordTransition ⟨move, d.machine.generation + 1, now⟩ d.journal with
    ⟨y | record, j⟩
  · rw [hr] at failed
    cases failed
    have trusted := fit.trusted
    have script := transitionScript_said (t := d.writeOf move now) fit.reason trusted
    have written := Journal.recordTransition_error hr
    rw [show transitionScript ⟨move, d.machine.generation + 1, now⟩ = _ from script] at written
    rcases Journal.write_raises written with done | ⟨db', ran⟩
    · exact done
    · obtain ⟨current, found, allowed, forward⟩ := allows
      rcases TransitionWrite.body_allowed (t := d.writeOf move now) trusted found
        allowed forward with
        ⟨-, row, returned⟩ | ⟨e', refused, -⟩
      · rw [show d.journal.connection.committed = d.db from rfl] at ran
        rw [ran] at returned
        cases returned
      · rw [requireFields_fit fit] at refused
        cases refused
  · rw [hr] at failed
    cases failed

end Domain
end CaseSorter.Daemon
