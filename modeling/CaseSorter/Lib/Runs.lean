import Mathlib.Data.List.Basic

/-! Runs of a partial, labelled step function. A label carries every choice the
environment makes in its step, so a run is a list of labels and every run is one
evaluation. Safety along runs is proved from what one step preserves, possibly
only for the steps whose starting state meets a side condition. -/

namespace CaseSorter.Runs

variable {σ ε : Type*}

/-- The state a run ends in; `none` when one of its steps is not enabled. -/
def run (step : σ → ε → Option σ) : σ → List ε → Option σ
  | s, [] => some s
  | s, e :: es => (step s e).bind fun t => run step t es

def runD (step : σ → ε → Option σ) (s : σ) (es : List ε) : σ := (run step s es).getD s

/-- Every step the run takes starts in a state and with a label that meet `ok`. -/
def Meets (step : σ → ε → Option σ) (ok : σ → ε → Prop) : σ → List ε → Prop
  | _, [] => True
  | s, e :: es => ok s e ∧ ∀ t, step s e = some t → Meets step ok t es

@[simp] theorem run_nil (step : σ → ε → Option σ) (s : σ) : run step s [] = some s := rfl

theorem run_cons_eq_some {step : σ → ε → Option σ} {s t : σ} {e : ε} {es : List ε} :
    run step s (e :: es) = some t ↔ ∃ u, step s e = some u ∧ run step u es = some t := by
  simp [run, Option.bind_eq_some_iff]

theorem run_eq_runD {step : σ → ε → Option σ} {s : σ} {es : List ε}
    (enabled : (run step s es).isSome = true) : run step s es = some (runD step s es) := by
  obtain ⟨t, ran⟩ := Option.isSome_iff_exists.mp enabled
  rw [runD, ran, Option.getD_some]

theorem run_append {step : σ → ε → Option σ} (s : σ) (es fs : List ε) :
    run step s (es ++ fs) = (run step s es).bind fun t => run step t fs := by
  induction es generalizing s with
  | nil => rfl
  | cons e es ih =>
    simp only [List.cons_append, run, Option.bind_assoc]
    congr 1
    funext t
    exact ih t

theorem run_append_eq_some {step : σ → ε → Option σ} {s t : σ} {es fs : List ε} :
    run step s (es ++ fs) = some t ↔ ∃ u, run step s es = some u ∧
      run step u fs = some t := by
  rw [run_append, Option.bind_eq_some_iff]

theorem step_runD {step : σ → ε → Option σ} {s : σ} {es : List ε} {e : ε}
    (enabled : (run step s (es ++ [e])).isSome = true) :
    step (runD step s es) e = some (runD step s (es ++ [e])) := by
  obtain ⟨t, before, after⟩ := run_append_eq_some.mp (run_eq_runD enabled)
  obtain ⟨u, last, done⟩ := run_cons_eq_some.mp after
  cases done
  rw [runD, before]
  exact last

theorem run_total (f : σ → ε → σ) (s : σ) (es : List ε) :
    run (fun s e => some (f s e)) s es = some (es.foldl f s) := by
  induction es generalizing s with
  | nil => rfl
  | cons e es ih => simpa [run] using ih (f s e)

theorem meets_append {step : σ → ε → Option σ} {ok : σ → ε → Prop} {s : σ}
    {es fs : List ε}
    (h : Meets step ok s (es ++ fs)) : Meets step ok s es := by
  induction es generalizing s with
  | nil => trivial
  | cons e es ih => exact ⟨h.1, fun t ht => ih (h.2 t ht)⟩

theorem Meets.rest {step : σ → ε → Option σ} {ok : σ → ε → Prop} {s t : σ}
    {es fs : List ε}
    (h : Meets step ok s (es ++ fs)) (ran : run step s es = some t) : Meets step ok t fs := by
  induction es generalizing s with
  | nil =>
    cases ran
    exact h
  | cons e es ih =>
    obtain ⟨u, hu, rest⟩ := run_cons_eq_some.mp ran
    exact ih (h.2 u hu) rest

theorem Meets.append {step : σ → ε → Option σ} {ok : σ → ε → Prop} {s : σ}
    {es fs : List ε}
    (h : Meets step ok s es) (rest : ∀ t, run step s es = some t → Meets step ok t fs) :
    Meets step ok s (es ++ fs) := by
  induction es generalizing s with
  | nil => exact rest s rfl
  | cons e es ih =>
    refine ⟨h.1, fun t ht => ih (h.2 t ht) fun u hu => rest u ?_⟩
    exact run_cons_eq_some.mpr ⟨t, ht, hu⟩

instance Meets.decidable {step : σ → ε → Option σ} {ok : σ → ε → Prop}
    [∀ s e, Decidable (ok s e)] : ∀ s es, Decidable (Meets step ok s es)
  | _, [] => .isTrue trivial
  | s, e :: es =>
    match h : step s e with
    | none => decidable_of_iff (ok s e) ⟨fun ok => ⟨ok, by simp [h]⟩, And.left⟩
    | some t =>
      have : Decidable (Meets step ok t es) := Meets.decidable t es
      decidable_of_iff (ok s e ∧ Meets step ok t es)
        ⟨fun both => ⟨both.1, by simpa [h] using both.2⟩, fun both =>
          ⟨both.1, both.2 t h⟩⟩

theorem meets_of_forall {step : σ → ε → Option σ} {ok : σ → ε → Prop} {es : List ε}
    (h : ∀ s, ∀ e ∈ es, ok s e) (s : σ) : Meets step ok s es := by
  induction es generalizing s with
  | nil => trivial
  | cons e es ih =>
    refine ⟨h s e List.mem_cons_self, fun t _ => ih (fun s e he => h s e ?_) t⟩
    exact List.mem_cons_of_mem _ he

theorem Meets.imp {step : σ → ε → Option σ} {ok weaker : σ → ε → Prop}
    {s : σ} {es : List ε}
    (h : Meets step ok s es) (imp : ∀ s e, ok s e → weaker s e) : Meets step weaker s es := by
  induction es generalizing s with
  | nil => trivial
  | cons e es ih => exact ⟨imp s e h.1, fun t ht => ih (h.2 t ht)⟩

theorem meets_and {step : σ → ε → Option σ} {ok also : σ → ε → Prop}
    {s : σ} {es : List ε}
    (h : Meets step ok s es) (h' : Meets step also s es) :
    Meets step (fun s e => ok s e ∧ also s e) s es := by
  induction es generalizing s with
  | nil => trivial
  | cons e es ih => exact ⟨⟨h.1, h'.1⟩, fun t ht => ih (h.2 t ht) (h'.2 t ht)⟩

theorem run_invariant {step : σ → ε → Option σ} {ok : σ → ε → Prop}
    {motive : σ → Prop}
    (preserve : ∀ s e t, motive s → ok s e → step s e = some t → motive t)
    {s t : σ} {es : List ε} (start : motive s) (meets : Meets step ok s es)
    (ran : run step s es = some t) : motive t := by
  induction es generalizing s with
  | nil =>
    cases ran
    exact start
  | cons e es ih =>
    obtain ⟨u, hu, rest⟩ := run_cons_eq_some.mp ran
    exact ih (preserve s e u start meets.1 hu) (meets.2 u hu) rest

end CaseSorter.Runs
