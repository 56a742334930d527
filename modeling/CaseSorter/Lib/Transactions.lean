import Mathlib.Data.List.Basic

/-! A database connection with one open transaction at most. Every statement is
answered by an engine that may fail it, and may roll the transaction back on its
own when it does. The body of a transaction is a script of statements; the point
at which the engine fails it is read off the script and the engine's answers. -/

namespace CaseSorter.Transactions

variable {δ ε α : Type*}

inductive Outcome
  | ok
  | fail
  | failRolledBack
  deriving DecidableEq, Repr

/-- `pending` is the working copy of the transaction that is open, if one is. -/
structure Connection (δ : Type*) where
  committed : δ
  pending : Option δ
  deriving DecidableEq, Repr

namespace Connection

def view (c : Connection δ) : δ := c.pending.getD c.committed

@[simp] theorem view_closed (d : δ) : (Connection.mk d none).view = d := rfl

@[simp] theorem view_pending (d e : δ) : (Connection.mk d (some e)).view = e := rfl

def rollback (c : Connection δ) : Option (Connection δ) :=
  match c.pending with
  | none => none
  | some _ => some { c with pending := none }

end Connection

/-- The statements of one transaction. A statement the data refuses is `none`;
`next` is given the data the statement ran on, so a query is `execute some`. -/
inductive Script (δ ε α : Type*)
  | done (a : α)
  | raise (e : ε)
  | execute (statement : δ → Option δ) (next : δ → Script δ ε α)

inductive Ending (ε α : Type*)
  | returned (a : α)
  | raised (e : ε)
  | refused (rolledBack : Bool)
  deriving DecidableEq, Repr

namespace Script

def run : Script δ ε α → List Outcome → δ → Ending ε α × δ × List Outcome
  | .done a, os, d => (.returned a, d, os)
  | .raise e, os, d => (.raised e, d, os)
  | .execute statement next, os, d =>
    match os.headD .ok, statement d with
    | .ok, some d' => (next d).run os.tail d'
    | .ok, none => (.refused false, d, os.tail)
    | .fail, _ => (.refused false, d, os.tail)
    | .failRolledBack, _ => (.refused true, d, os.tail)

attribute [grind =] run

@[simp] theorem run_done (a : α) (os : List Outcome) (d : δ) :
    (done a : Script δ ε α).run os d = (.returned a, d, os) := rfl

@[simp] theorem run_raise (e : ε) (os : List Outcome) (d : δ) :
    (raise e : Script δ ε α).run os d = (.raised e, d, os) := rfl

@[simp] theorem run_execute_nil (statement : δ → Option δ)
    (next : δ → Script δ ε α) (d : δ) :
    (execute statement next).run [] d =
      match statement d with
      | some d' => (next d).run [] d'
      | none => (.refused false, d, []) := by
  simp only [run, List.headD_nil, List.tail_nil]
  cases statement d <;> rfl

theorem run_returned {s : Script δ ε α} {os os' : List Outcome} {d d' : δ} {a : α}
    (h : s.run os d = (.returned a, d', os')) : s.run [] d = (.returned a, d', []) := by
  induction s generalizing os d with
  | done b =>
    simp only [run, Prod.mk.injEq, Ending.returned.injEq] at h
    simp [run, h.1, h.2.1]
  | raise e => simp [run] at h
  | execute statement next ih =>
    simp only [run, List.headD_nil, List.tail_nil] at h ⊢
    split at h
    · rename_i d'' _ hd
      rw [hd]
      exact ih d h
    all_goals simp at h

theorem run_raised {s : Script δ ε α} {os os' : List Outcome} {d d' : δ} {e : ε}
    (h : s.run os d = (.raised e, d', os')) : s.run [] d = (.raised e, d', []) := by
  induction s generalizing os d with
  | done b => simp [run] at h
  | raise x =>
    simp only [run, Prod.mk.injEq, Ending.raised.injEq] at h
    simp [run, h.1, h.2.1]
  | execute statement next ih =>
    simp only [run, List.headD_nil, List.tail_nil] at h ⊢
    split at h
    · rename_i d'' _ hd
      rw [hd]
      exact ih d h
    all_goals simp at h

theorem run_nil_answers (s : Script δ ε α) (d : δ) : (s.run [] d).2.2 = [] := by
  induction s generalizing d with
  | done a => rfl
  | raise e => rfl
  | execute statement next ih =>
    simp only [run, List.headD_nil, List.tail_nil]
    split
    · exact ih d _
    all_goals rfl

theorem run_nil_eq {s : Script δ ε α} {d : δ} {ending : Ending ε α}
    (h : (s.run [] d).1 = ending) : s.run [] d = (ending, (s.run [] d).2.1, []) := by
  rw [← h]
  exact Prod.ext rfl (Prod.ext rfl (run_nil_answers s d))

/-- No statement of the script changes `f` of the data. -/
def Keeps {β : Type*} (f : δ → β) : Script δ ε α → Prop
  | .done _ => True
  | .raise _ => True
  | .execute statement next =>
    (∀ d d', statement d = some d' → f d' = f d) ∧ ∀ d, (next d).Keeps f

theorem run_keeps {β : Type*} {f : δ → β} {s : Script δ ε α} (h : s.Keeps f)
    (os : List Outcome) (d : δ) : f (s.run os d).2.1 = f d := by
  induction s generalizing os d with
  | done a => rfl
  | raise e => rfl
  | execute statement next ih =>
    simp only [run]
    split
    · rename_i d' _ hd
      exact (ih d (h.2 d) os.tail d').trans (h.1 d d' hd)
    all_goals rfl

end Script

/-- Where the engine failed a transaction: at its start, at a statement of its body
(and then whether it rolled the transaction back by itself), or at its commit. -/
inductive FailurePoint
  | begin
  | statement (rolledBack : Bool)
  | commit
  deriving DecidableEq, Repr

/-- The engine's failure in running `s` as a transaction on `c`, if there is one. A
transaction cannot start inside another. -/
def failurePoint (s : Script δ ε α) (os : List Outcome) (c : Connection δ) :
    Option FailurePoint :=
  if os.headD .ok ≠ .ok ∨ c.pending.isSome then
    some .begin
  else
    match s.run os.tail c.committed with
    | (.refused rolledBack, _, _) => some (.statement rolledBack)
    | (.raised _, _, _) => none
    | (.returned _, _, os') => if os'.headD .ok = .ok then none else some .commit

section FailurePoint

variable {s : Script δ ε α} {os : List Outcome} {c : Connection δ}

theorem failurePoint_begin (h : failurePoint s os c = some .begin) :
    os.headD .ok ≠ .ok ∨ c.pending.isSome := by
  by_contra served
  rw [failurePoint, if_neg served] at h
  split at h
  · simp at h
  · simp at h
  · split_ifs at h
    simp at h

theorem failurePoint_started {p : FailurePoint} (h : failurePoint s os c = some p)
    (started : p ≠ .begin) :
    ¬ (os.headD .ok ≠ .ok ∨ c.pending.isSome) ∧ c.pending = none := by
  unfold failurePoint at h
  split_ifs at h with refused
  · exact absurd (Option.some.inj h).symm started
  · refine ⟨refused, ?_⟩
    simpa using (not_or.mp refused).2

theorem failurePoint_statement {rolledBack : Bool}
    (h : failurePoint s os c = some (.statement rolledBack)) :
    (s.run os.tail c.committed).1 = .refused rolledBack := by
  unfold failurePoint at h
  split_ifs at h with refused
  · simp at h
  · split at h
    · rename_i r d os' hrun
      simpa [hrun] using h
    · simp at h
    · split_ifs at h
      simp at h

theorem failurePoint_commit (h : failurePoint s os c = some .commit) :
    ∃ a d os', s.run os.tail c.committed = (.returned a, d, os') ∧ os'.headD .ok ≠ .ok := by
  unfold failurePoint at h
  split_ifs at h with refused
  · simp at h
  · split at h
    · simp at h
    · simp at h
    · rename_i a d os' hrun
      split_ifs at h with served
      exact ⟨a, d, os', hrun, served⟩

end FailurePoint

end CaseSorter.Transactions
