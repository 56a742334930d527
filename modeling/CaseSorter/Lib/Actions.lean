import Mathlib.Order.Defs.Unbundled

/-! Computations on a state that return or raise and keep the state they reached
either way: what an exception leaves behind is part of their meaning. -/

namespace CaseSorter.Actions

abbrev Action (σ ε : Type) := ExceptT ε (StateM σ)

variable {σ ε α β : Type}

theorem bind_eq_ok {x : Except ε α} {f : α → Except ε β} {b : β} (h : x >>= f = .ok b) :
    ∃ a, x = .ok a ∧ f a = .ok b := by
  cases x with
  | error e => cases h
  | ok a => exact ⟨a, rfl, h⟩

theorem map_eq_ok {x : Except ε α} {f : α → β} {b : β} (h : x.map f = .ok b) :
    ∃ a, x = .ok a ∧ f a = b := by
  cases x with
  | error e => cases h
  | ok a => exact ⟨a, rfl, Except.ok.inj h⟩

/-- What the action returns or raises, and the state it leaves. -/
def exec (x : Action σ ε α) (s : σ) : Except ε α × σ := (ExceptT.run x).run s

def ofEffect (f : σ → Except ε α × σ) : Action σ ε α := ExceptT.mk f

@[simp] theorem exec_ofEffect (f : σ → Except ε α × σ) (s : σ) :
    exec (ofEffect f) s = f s := rfl

@[simp] theorem exec_pure (a : α) (s : σ) : exec (pure a : Action σ ε α) s = (.ok a, s) := rfl

@[simp] theorem exec_throw (e : ε) (s : σ) :
    exec (throw e : Action σ ε α) s = (.error e, s) := rfl

@[simp] theorem exec_get (s : σ) : exec (get : Action σ ε σ) s = (.ok s, s) := rfl

@[simp] theorem exec_modify (f : σ → σ) (s : σ) :
    exec (modify f : Action σ ε PUnit) s = (.ok ⟨⟩, f s) := rfl

theorem exec_bind (x : Action σ ε α) (f : α → Action σ ε β) (s : σ) :
    exec (x >>= f) s =
      match exec x s with
      | (.ok a, t) => exec (f a) t
      | (.error e, t) => (.error e, t) := by
  rcases h : exec x s with ⟨_ | a, t⟩
  all_goals
    change (ExceptT.bindCont (fun a => f a) (exec x s).1).run (exec x s).2 = _
    rw [h]
    rfl

theorem exec_tryCatch (x : Action σ ε α) (handler : ε → Action σ ε α) (s : σ) :
    exec (tryCatch x handler) s =
      match exec x s with
      | (.ok a, t) => (.ok a, t)
      | (.error e, t) => exec (handler e) t := by
  rcases h : exec x s with ⟨_ | a, t⟩
  all_goals
    change (match (exec x s).1 with
      | .ok a => pure (.ok a)
      | .error e => handler e : StateM σ (Except ε α)) (exec x s).2 = _
    rw [h]
    rfl

theorem exec_bind_eq_ok {x : Action σ ε α} {f : α → Action σ ε β} {s t : σ} {b : β} :
    exec (x >>= f) s = (.ok b, t) ↔
      ∃ a u, exec x s = (.ok a, u) ∧ exec (f a) u = (.ok b, t) := by
  rw [exec_bind]
  rcases h : exec x s with ⟨e | a, u⟩
  · simp
  · constructor
    · intro returned
      exact ⟨a, u, rfl, returned⟩
    · rintro ⟨a', u', first, returned⟩
      cases first
      exact returned

theorem exec_tryCatch_eq_ok {x : Action σ ε α} {handler : ε → Action σ ε α}
    {s t : σ} {a : α}
    (raises : ∀ e u, (exec (handler e) u).1 ≠ .ok a) :
    exec (tryCatch x handler) s = (.ok a, t) ↔ exec x s = (.ok a, t) := by
  rw [exec_tryCatch]
  rcases h : exec x s with ⟨e | b, u⟩
  · simp only [Prod.mk.injEq, reduceCtorEq, false_and, iff_false]
    intro handled
    exact raises e u (congrArg Prod.fst handled)
  · rfl

/-- From a state in `P` the action returns into `Q` or raises into `E`. -/
def Ensures (P : σ → Prop) (x : Action σ ε α) (Q : α → σ → Prop)
    (E : ε → σ → Prop) : Prop :=
  ∀ s, P s → match exec x s with
    | (.ok a, t) => Q a t
    | (.error e, t) => E e t

section Ensures

variable {P : σ → Prop} {Q : α → σ → Prop} {E : ε → σ → Prop}

theorem ensures_pure {a : α} (h : ∀ s, P s → Q a s) :
    Ensures P (pure a : Action σ ε α) Q E := h

theorem ensures_throw {e : ε} (h : ∀ s, P s → E e s) :
    Ensures P (throw e : Action σ ε α) Q E := h

theorem ensures_modify {f : σ → σ} {S : PUnit → σ → Prop}
    (h : ∀ s, P s → S ⟨⟩ (f s)) :
    Ensures P (modify f : Action σ ε PUnit) S E := h

theorem ensures_bind {R : β → σ → Prop} {x : Action σ ε β} {f : β → Action σ ε α}
    (hx : Ensures P x R E) (hf : ∀ b, Ensures (R b) (f b) Q E) : Ensures P (x >>= f) Q E := by
  intro s hs
  have first := hx s hs
  rw [exec_bind]
  rcases h : exec x s with ⟨e | b, t⟩
  · simpa [h] using first
  · rw [h] at first
    exact hf b t first

theorem ensures_tryCatch {F : ε → σ → Prop} {x : Action σ ε α}
    {handler : ε → Action σ ε α}
    (hx : Ensures P x Q F) (hf : ∀ e, Ensures (F e) (handler e) Q E) :
    Ensures P (tryCatch x handler) Q E := by
  intro s hs
  have first := hx s hs
  rw [exec_tryCatch]
  rcases h : exec x s with ⟨e | a, t⟩
  · rw [h] at first
    exact hf e t first
  · simpa [h] using first

theorem Ensures.weaken {P' : σ → Prop} {Q' : α → σ → Prop} {E' : ε → σ → Prop}
    {x : Action σ ε α} (h : Ensures P x Q E) (hp : ∀ s, P' s → P s)
    (hq : ∀ a s, Q a s → Q' a s) (he : ∀ e s, E e s → E' e s) : Ensures P' x Q' E' := by
  intro s hs
  have held := h s (hp s hs)
  rcases hx : exec x s with ⟨e | a, t⟩
  · rw [hx] at held
    exact he e t held
  · rw [hx] at held
    exact hq a t held

end Ensures

/-- The action moves the state only along `R`, whether it returns or raises. -/
def Keeps (R : σ → σ → Prop) (x : Action σ ε α) : Prop := ∀ s, R s (exec x s).2

section Keeps

variable {R : σ → σ → Prop}

theorem Keeps.of_exec {x : Action σ ε α} (h : Keeps R x) {s t : σ} {r : Except ε α}
    (ran : exec x s = (r, t)) : R s t := by
  have moved := h s
  rw [ran] at moved
  exact moved

theorem keeps_pure [Std.Refl R] (a : α) : Keeps R (pure a : Action σ ε α) := fun s => refl s

theorem keeps_throw [Std.Refl R] (e : ε) : Keeps R (throw e : Action σ ε α) := fun s => refl s

theorem keeps_get [Std.Refl R] : Keeps R (get : Action σ ε σ) := fun s => refl s

theorem keeps_bind [IsTrans σ R] {x : Action σ ε α} {f : α → Action σ ε β}
    (hx : Keeps R x) (hf : ∀ a, Keeps R (f a)) : Keeps R (x >>= f) := by
  intro s
  have first := hx s
  rw [exec_bind]
  rcases h : exec x s with ⟨_ | a, t⟩
  · simpa [h] using first
  · rw [h] at first
    exact IsTrans.trans _ _ _ first (hf a t)

theorem keeps_tryCatch [IsTrans σ R] {x : Action σ ε α} {handler : ε → Action σ ε α}
    (hx : Keeps R x) (hf : ∀ e, Keeps R (handler e)) : Keeps R (tryCatch x handler) := by
  intro s
  have first := hx s
  rw [exec_tryCatch]
  rcases h : exec x s with ⟨e | _, t⟩
  · rw [h] at first
    exact IsTrans.trans _ _ _ first (hf e t)
  · simpa [h] using first

theorem Keeps.ensures {x : Action σ ε α} (h : Keeps R x) {P : σ → Prop}
    (preserve : ∀ s t, R s t → P s → P t) : Ensures P x (fun _ => P) (fun _ => P) := by
  intro s hs
  have moved := preserve s _ (h s) hs
  rcases hx : exec x s with ⟨e | a, t⟩
  · rwa [hx] at moved
  · rwa [hx] at moved

end Keeps

end CaseSorter.Actions
