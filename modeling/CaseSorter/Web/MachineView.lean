import CaseSorter.Lib.Runs

/-! What a browser shows of the machine: `MachineView` of machine-view.svelte.ts, driven by
the messages of the stream and the ends of its reads in any order. A read runs from the
call of `readSnapshot` to its resolution, to a snapshot or to null, or its rejection. -/

namespace CaseSorter.Web

open CaseSorter.Runs

/-- All the view needs of a snapshot or an event: the generation it describes. -/
class Generational (α : Type) where
  generation : α → Nat

open Generational

variable {S E : Type} [Generational S] [Generational E]

structure MachineView (S : Type) where
  snapshot : Option S
  refreshing : Bool
  unavailable : Option String
  stale : Bool
  reading : Bool
  again : Bool
  deriving DecidableEq, Repr

namespace MachineView

def new (initial : Option S) : MachineView S := ⟨initial, false, none, false, false, false⟩

/-- `#refresh` up to its first wait: a read begins, unless one is in flight. -/
def refresh (v : MachineView S) : MachineView S :=
  if v.reading then { v with again := true }
  else { v with reading := true, refreshing := true, again := false }

def covers (v : MachineView S) (event : E) : Bool :=
  v.snapshot.any fun s => generation event ≤ generation s

def received (v : MachineView S) (event : E) : MachineView S :=
  if v.covers event then v else v.refresh

def resynchronise (v : MachineView S) : MachineView S := { v with stale := true }.refresh

def disconnected (v : MachineView S) (message : String) : MachineView S :=
  { v with unavailable := some message, stale := true }

def shown (v : MachineView S) : Option S → MachineView S
  | some snapshot => { v with snapshot := some snapshot, unavailable := none, stale := false }
  | none => v

def resolved (v : MachineView S) (result : Option S) : MachineView S :=
  if v.again then { v.shown result with again := false }
  else { v.shown result with reading := false, refreshing := false }

def rejected (v : MachineView S) : MachineView S := { v with reading := false, refreshing := false }

end MachineView

/-- A view with what has reached it: the generations of the events and whether a resync has
come, since the read in flight began and since the read of the snapshot shown began. The read
in flight `repeats` if it was begun because one that got a snapshot was overtaken. -/
structure Watched (S : Type) where
  view : MachineView S
  repeats : Bool
  arrived : List Nat
  resyncArrived : Bool
  seen : List Nat
  resynced : Bool
  deriving DecidableEq, Repr

inductive ViewEvent (S E : Type)
  | received (event : E)
  | resynchronise
  | disconnected (message : String)
  | resolved (result : Option S)
  | rejected
  deriving DecidableEq, Repr

namespace Watched

def start (initial : Option S) : Watched S := ⟨.new initial, false, [], false, [], false⟩

def since (w : Watched S) (after : MachineView S) (arrived : List Nat) (resync : Bool) :
    Watched S :=
  if w.view.reading then { w with view := after, arrived := arrived, resyncArrived := resync }
  else { w with view := after, repeats := false, arrived := [], resyncArrived := false }

def step (w : Watched S) : ViewEvent S E → Option (Watched S)
  | .received event =>
    some { w.since (w.view.received event) (generation event :: w.arrived) w.resyncArrived with
      seen := generation event :: w.seen }
  | .resynchronise =>
    some { w.since w.view.resynchronise w.arrived true with resynced := true }
  | .disconnected message => some { w with view := w.view.disconnected message }
  | .resolved result =>
    if w.view.reading then
      some
        { view := w.view.resolved result
          repeats := result.isSome || w.repeats
          arrived := []
          resyncArrived := false
          seen := if result.isSome then w.arrived else w.seen
          resynced := if result.isSome then w.resyncArrived else w.resynced }
    else none
  | .rejected => if w.view.reading then some { w with view := w.view.rejected } else none

def behind (w : Watched S) : Bool :=
  (w.view.snapshot.any fun s => w.seen.any fun g => generation s < g) || w.resynced

/-- With no read in flight, a view that is behind says so. -/
def honest (w : Watched S) : Bool := w.view.reading || !w.behind || w.view.stale

def retries (w : Watched S) : ViewEvent S E → Bool
  | .received event =>
    !w.view.stale || w.view.reading || (w.view.received event).reading
  | _ => true

/-- The step starts a read where one is due, and leaves an honest view. -/
def Right (w : Watched S) (e : ViewEvent S E) : Prop :=
  w.retries e = true ∧ ∀ t, w.step e = some t → t.honest = true

def harmless (w : Watched S) : Bool :=
  w.view.stale || w.view.snapshot.isNone || (w.repeats && !w.behind)

/-- Events of an idle stale view are beyond the snapshot shown; a read that resolves to a
snapshot, with no other one asked for, covers every event since it began; one that ends
without a snapshot, with no other one to follow, is harmless. -/
def ok (w : Watched S) : ViewEvent S E → Bool
  | .received event => !w.view.stale || w.view.reading || !w.view.covers event
  | .resynchronise | .disconnected _ => true
  | .resolved (some snapshot) =>
    !w.view.reading || w.view.again || w.arrived.all fun g => g ≤ generation snapshot
  | .resolved none => !w.view.reading || w.view.again || w.harmless
  | .rejected => !w.view.reading || w.harmless

def Asked (w : Watched S) : Prop :=
  w.view.reading = true → w.resyncArrived = true → w.view.again = true

/-- A read that is no repetition was begun by a resync or by an event beyond the snapshot shown,
and a resync has been heeded or marks the view. -/
structure Begun (w : Watched S) : Prop where
  behind : w.view.reading = true → w.view.stale = false → w.repeats = false →
    w.view.snapshot.isSome = true → w.behind = true
  owed : w.resynced = true → w.view.stale = true ∨ w.view.snapshot.isSome = true

theorem asked_step {w t : Watched S} {e : ViewEvent S E} (h : w.Asked)
    (stepped : w.step e = some t) :
    t.Asked := by
  cases e with
  | received event =>
    cases stepped
    intro reading resync
    by_cases before : w.view.reading = true
    · simp only [since, if_pos before] at reading resync ⊢
      have again := h before resync
      unfold MachineView.received MachineView.refresh
      split_ifs
      · exact again
      · rfl
    · simp only [since, if_neg before] at resync
      cases resync
  | resynchronise =>
    cases stepped
    intro reading resync
    by_cases before : w.view.reading = true
    · simp only [since, if_pos before, MachineView.resynchronise, MachineView.refresh]
    · simp only [since, if_neg before] at resync
      cases resync
  | disconnected message =>
    cases stepped
    exact h
  | resolved result =>
    simp only [step, Option.ite_none_right_eq_some, Option.some.injEq] at stepped
    obtain ⟨-, rfl⟩ := stepped
    intro _ resync
    cases resync
  | rejected =>
    simp only [step] at stepped
    split_ifs at stepped
    cases stepped
    intro reading
    cases reading

omit [Generational S] in
theorem refresh_reading (v : MachineView S) : v.refresh.reading = true := by
  unfold MachineView.refresh
  split_ifs with reading
  · exact reading
  · rfl

omit [Generational S] in
theorem refresh_shows (v : MachineView S) :
    v.refresh.snapshot = v.snapshot ∧ v.refresh.stale = v.stale := by
  unfold MachineView.refresh
  split_ifs <;> exact ⟨rfl, rfl⟩

theorem received_shows (v : MachineView S) (event : E) :
    (v.received event).snapshot = v.snapshot ∧ (v.received event).stale = v.stale := by
  unfold MachineView.received
  split_ifs
  · exact ⟨rfl, rfl⟩
  · exact refresh_shows v

theorem begun_received {w : Watched S} (h : w.Begun) (event : E) :
    Begun { w.since (w.view.received event) (generation event :: w.arrived) w.resyncArrived with
      seen := generation event :: w.seen } := by
  obtain ⟨shown, marked⟩ := received_shows w.view event
  by_cases before : w.view.reading = true
  · rw [since, if_pos before]
    refine ⟨fun _ stale first some => ?_, fun owed => ?_⟩
    · have behind := h.behind before (marked ▸ stale) first (shown ▸ some)
      simp only [Watched.behind, shown, Bool.or_eq_true, Option.any_eq_true,
        List.any_cons] at behind ⊢
      exact behind.imp_left fun ⟨s, own, later⟩ => ⟨s, own, .inr later⟩
    · simpa only [shown, marked] using h.owed owed
  · rw [since, if_neg before]
    refine ⟨fun reading _ _ some => ?_, fun owed => ?_⟩
    · replace some : (w.view.received event).snapshot.isSome = true := some
      replace reading : (w.view.received event).reading = true := reading
      rw [shown] at some
      obtain ⟨s, own⟩ := Option.isSome_iff_exists.mp some
      -- the event has begun the read, so the snapshot shown does not cover it
      have beyond : generation s < generation event := by
        by_contra within
        have covered : w.view.covers event = true := by
          simpa [MachineView.covers, own] using within
        simp [MachineView.received, covered, before] at reading
      simp [Watched.behind, shown, own, beyond]
    · simpa only [shown, marked] using h.owed owed

theorem begun_step {w t : Watched S} {e : ViewEvent S E} (h : w.Begun)
    (stepped : w.step e = some t) :
    t.Begun := by
  cases e with
  | received event =>
    cases stepped
    exact begun_received h event
  | resynchronise =>
    cases stepped
    have marked : w.view.resynchronise.stale = true := (refresh_shows _).2
    have same : (w.since w.view.resynchronise w.arrived true).view = w.view.resynchronise := by
      unfold since
      split_ifs <;> rfl
    refine ⟨fun _ stale => ?_, fun _ => .inl ?_⟩
    · simp only [same, marked, Bool.true_eq_false] at stale
    · rw [same, marked]
  | disconnected message =>
    cases stepped
    exact ⟨fun _ stale => (by cases stale), fun _ => .inl rfl⟩
  | resolved result =>
    simp only [step, Option.ite_none_right_eq_some, Option.some.injEq] at stepped
    obtain ⟨reading, rfl⟩ := stepped
    cases result with
    | some snapshot =>
      refine ⟨fun _ _ first => (by cases first), fun _ => .inr ?_⟩
      rw [MachineView.resolved]
      split_ifs <;> rfl
    | none =>
      simp only [Option.isSome_none, Bool.false_eq_true, if_false, Bool.false_or]
      rw [MachineView.resolved]
      split_ifs
      · exact ⟨fun _ stale first some => h.behind reading stale first some, h.owed⟩
      · exact ⟨fun impossible => (by cases impossible), h.owed⟩
  | rejected =>
    simp only [step] at stepped
    split_ifs at stepped
    cases stepped
    exact ⟨fun reading => (by cases reading), h.owed⟩

theorem harmless_iff {w : Watched S} (h : w.Begun) (reading : w.view.reading = true) :
    (w.view.stale || !w.behind) = w.harmless := by
  cases stale : w.view.stale with
  | true => simp [harmless, stale]
  | false =>
    cases shown : w.view.snapshot with
    | none =>
      have quiet : w.resynced = false := by
        by_contra owed
        simpa [stale, shown] using h.owed (by simpa using owed)
      simp [harmless, behind, shown, quiet]
    | some s =>
      cases first : w.repeats with
      | true => simp [harmless, stale, shown, first]
      | false =>
        simp [harmless, stale, shown, first, h.behind reading stale first (by simp [shown])]

theorem honest_reading {w : Watched S} (reading : w.view.reading = true) : w.honest = true := by
  rw [honest, reading]
  rfl

section Steps

variable {w : Watched S}

theorem honest_covered (honest : w.honest = true) {event : E} (covered : w.view.covers event = true)
    {t : Watched S} (stepped : w.step (.received event : ViewEvent S E) = some t) :
    t.honest = true := by
  obtain ⟨s, shown, within⟩ : ∃ s, w.view.snapshot = some s ∧
    generation event ≤ generation s := by
    rw [MachineView.covers, Option.any_eq_true] at covered
    simpa using covered
  cases stepped
  have view :
      (w.since (w.view.received event) (generation event :: w.arrived) w.resyncArrived).view =
        w.view := by
    unfold since
    rw [MachineView.received, if_pos covered]
    split_ifs <;> rfl
  have resynced : (w.since (w.view.received event) (generation event :: w.arrived)
      w.resyncArrived).resynced = w.resynced := by
    unfold since
    split_ifs <;> rfl
  simp only [Watched.honest, behind, view, resynced, shown, Option.any_some, List.any_cons,
    decide_eq_false (Nat.not_lt.mpr within), Bool.false_or] at honest ⊢
  exact honest

theorem right_received (honest : w.honest = true) (event : E) :
    w.Right (.received event : ViewEvent S E) ↔
      w.ok (.received event : ViewEvent S E) = true := by
  by_cases covered : w.view.covers event = true
  · have idle : (w.view.received event).reading = w.view.reading := by
      rw [MachineView.received, if_pos covered]
    simp only [Right, retries, ok, idle, covered, Bool.not_true, Bool.or_false]
    refine ⟨fun right => ?_, fun fit => ⟨?_,
      fun t stepped => honest_covered honest covered stepped⟩⟩
    · rcases Bool.eq_false_or_eq_true w.view.reading with reading | idle'
      · simp [reading]
      · simpa [idle'] using right.1
    · rw [fit]
      rfl
  · have begun : (w.view.received event).reading = true := by
      rw [MachineView.received, if_neg covered]
      exact refresh_reading _
    refine ⟨fun _ => ?_, fun _ => ⟨?_, fun t stepped => ?_⟩⟩
    · simp [ok, covered]
    · simp [retries, begun]
    · cases stepped
      refine honest_reading ?_
      show (w.since (w.view.received event) _ _).view.reading = true
      unfold since
      split_ifs <;> exact begun

theorem right_resolved (asked : w.Asked) (begun : w.Begun) (result : Option S) :
    w.Right (.resolved result : ViewEvent S E) ↔
      w.ok (.resolved result : ViewEvent S E) = true := by
  by_cases reading : w.view.reading = true
  · by_cases again : w.view.again = true
    · refine ⟨fun _ => ?_, fun _ => ⟨rfl, fun t stepped => ?_⟩⟩
      · cases result <;> simp [ok, again]
      · simp only [step, if_pos reading, Option.some.injEq] at stepped
        subst stepped
        refine honest_reading ?_
        rw [MachineView.resolved, if_pos again]
        cases result <;> exact reading
    · have ends : w.step (.resolved result : ViewEvent S E) = some _ := if_pos reading
      rw [Right, ends]
      simp only [retries, true_and, Option.some.injEq, forall_eq']
      rw [MachineView.resolved, if_neg again]
      cases result with
      | none =>
        have fit : w.ok (.resolved none : ViewEvent S E) = (w.view.stale || !w.behind) := by
          rw [harmless_iff begun reading]
          simp [ok, reading, again]
        rw [fit, Bool.or_comm w.view.stale]
        exact Iff.rfl
      | some snapshot =>
        have quiet : w.resyncArrived = false := by
          rw [← Bool.not_eq_true]
          exact fun resync => again (asked reading resync)
        simp [Watched.honest, behind, ok, MachineView.shown, reading, again, quiet]
  · refine ⟨fun _ => ?_, fun _ => ⟨rfl, fun t stepped => ?_⟩⟩
    · cases result <;> simp [ok, reading]
    · simp [step, reading] at stepped

theorem right_rejected (begun : w.Begun) :
    w.Right (.rejected : ViewEvent S E) ↔ w.ok (.rejected : ViewEvent S E) = true := by
  by_cases reading : w.view.reading = true
  · have goes : w.step (.rejected : ViewEvent S E) = some { w with view := w.view.rejected } :=
      if_pos reading
    rw [Right, goes]
    simp only [retries, true_and, Option.some.injEq, forall_eq']
    have fit : w.ok (.rejected : ViewEvent S E) = (w.view.stale || !w.behind) := by
      rw [harmless_iff begun reading]
      simp [ok, reading]
    rw [fit, Bool.or_comm w.view.stale]
    exact Iff.rfl
  · refine ⟨fun _ => ?_, fun _ => ⟨rfl, fun t stepped => ?_⟩⟩
    · simp [ok, reading]
    · simp [step, reading] at stepped

theorem right_iff (asked : w.Asked) (begun : w.Begun) (honest : w.honest = true)
    (e : ViewEvent S E) :
    w.Right e ↔ w.ok e = true := by
  cases e with
  | received event => exact right_received honest event
  | resynchronise =>
    refine ⟨fun _ => rfl, fun _ => ⟨rfl, fun t stepped => ?_⟩⟩
    cases stepped
    refine honest_reading ?_
    show (w.since w.view.resynchronise _ _).view.reading = true
    unfold since
    split_ifs <;> exact refresh_reading _
  | disconnected message =>
    refine ⟨fun _ => rfl, fun _ => ⟨rfl, fun t stepped => ?_⟩⟩
    cases stepped
    simp [Watched.honest, MachineView.disconnected]
  | resolved result => exact right_resolved asked begun result
  | rejected => exact right_rejected begun

end Steps

theorem meets_right_iff {w : Watched S} (asked : w.Asked) (begun : w.Begun)
    (honest : w.honest = true) (es : List (ViewEvent S E)) :
    Meets step Right w es ↔ Meets step (fun w e => w.ok e = true) w es := by
  induction es generalizing w with
  | nil => exact Iff.rfl
  | cons e es ih =>
    refine ⟨fun h => ?_, fun h => ?_⟩
    · refine ⟨(right_iff asked begun honest e).mp h.1, fun t stepped => ?_⟩
      exact (ih (asked_step asked stepped) (begun_step begun stepped) (h.1.2 t stepped)).mp
        (h.2 t stepped)
    · have right := (right_iff asked begun honest e).mpr h.1
      refine ⟨right, fun t stepped => ?_⟩
      exact (ih (asked_step asked stepped) (begun_step begun stepped) (right.2 t stepped)).mpr
        (h.2 t stepped)

/-- The view is never quietly wrong, and never rests on a stale picture past an event, in
the runs whose steps are all fit, and in no other. -/
theorem view_honest_iff (initial : Option S) (es : List (ViewEvent S E)) :
    Watched.honest (.start initial : Watched S) = true ∧
      (Meets step Right (.start initial) es ↔
        Meets step (fun w e => w.ok e = true) (.start initial) es) := by
  have honest : Watched.honest (.start initial : Watched S) = true := by
    simp [Watched.honest, behind, start, MachineView.new]
  refine ⟨honest, meets_right_iff (fun reading => ?_) ⟨fun reading => ?_,
    fun owed => ?_⟩ honest es⟩
  · cases reading
  · cases reading
  · cases owed

instance : Generational Nat := ⟨id⟩

def failedRead : List (ViewEvent Nat Nat) := [.received 6, .rejected]

def servedRead : List (ViewEvent Nat Nat) := [.received 6, .resolved (some 6), .received 6]

def restarted : List (ViewEvent Nat Nat) := [.resynchronise, .rejected, .received 2]

example : Meets step (fun (w : Watched Nat) e => w.ok e = true) (.start (some 5)) servedRead := by
  decide

/-- The view shows generation 5 after an event of generation 6, and is not stale; and an
event that comes to an idle stale view starts no read. -/
theorem view_quietlyWrong :
    (run step (.start (some 5)) failedRead).map
        (fun w : Watched Nat => (w.view.snapshot, w.view.reading, w.behind, w.view.stale)) =
      some (some 5, false, true, false) ∧
    (run step (.start (some 5)) restarted).map
        (fun w : Watched Nat => (w.view.snapshot, w.view.reading, w.view.stale)) =
      some (some 5, false, true) := ⟨rfl, rfl⟩

end Watched

end CaseSorter.Web
