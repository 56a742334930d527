import CaseSorter.Web.Broadcast

/-! What a browser that resumes is given. The window of the broadcast, the frames on their
way to it and the backlogs of the browsers hold one stretch of the ring of one life, cut
only by resyncs; a browser that is found in the window is level with it. -/

namespace CaseSorter.Web

open CaseSorter.Daemon CaseSorter.Runs

def stretch (life first count : Nat) : List (Nat × Nat) :=
  (List.range' first count).map fun i => (life, i)

theorem stretch_append (life first m n : Nat) :
    stretch life first (m + n) = stretch life first m ++ stretch life (first + m) n := by
  rw [stretch, stretch, stretch, ← List.map_append, List.range'_append_1]

theorem stretch_concat (life first n : Nat) :
    stretch life first (n + 1) = stretch life first n ++ [(life, first + n)] := by
  rw [stretch_append]
  rfl

theorem stretch_eq_append {life first n : Nat} {xs ys : List (Nat × Nat)}
    (h : stretch life first n = xs ++ ys) :
    xs = stretch life first xs.length ∧ ys = stretch life (first + xs.length) ys.length ∧
      n = xs.length + ys.length := by
  have length : n = xs.length + ys.length := by
    have := congrArg List.length h
    simpa [stretch] using this
  rw [length, stretch_append] at h
  have parts := List.append_inj h (by simp [stretch])
  exact ⟨parts.1.symm, parts.2.symm, length⟩

def marks (entries : List Entry) : List (Nat × Nat) :=
  entries.filterMap fun e => if e.ring then some (e.life, e.source.eventId) else none

theorem marks_append (xs ys : List Entry) : marks (xs ++ ys) = marks xs ++ marks ys :=
  List.filterMap_append

theorem marks_ring {e : Entry} (ring : e.ring = true) :
    marks [e] = [(e.life, e.source.eventId)] := by
  simp [marks, ring]

theorem marks_other {e : Entry} (other : e.ring = false) : marks [e] = [] := by
  simp [marks, other]

theorem ringEvents_append (xs ys : List BrowserMessage) :
    Site.ringEvents (xs ++ ys) = Site.ringEvents xs ++ Site.ringEvents ys :=
  List.filterMap_append

theorem ringEvents_entries (entries : List Entry) :
    Site.ringEvents (entries.map .event) = marks entries := by
  rw [Site.ringEvents, List.filterMap_map]
  rfl

/-- Whether there is a resync among the messages. -/
def resynced (messages : List BrowserMessage) : Bool := messages.any BrowserMessage.isResync

theorem beforeResync_append (xs ys : List BrowserMessage) :
    Site.beforeResync (xs ++ ys) =
      if resynced xs then Site.beforeResync xs else xs ++ Site.beforeResync ys := by
  induction xs with
  | nil => rfl
  | cons m xs ih =>
    unfold Site.beforeResync resynced at ih ⊢
    simp only [List.cons_append, List.takeWhile_cons, List.any_cons, ih]
    cases m.isResync with
    | true => rfl
    | false =>
      simp only [Bool.not_false, if_true, Bool.false_or]
      split_ifs <;> rfl

theorem beforeResync_clean {xs : List BrowserMessage} (clean : resynced xs = false) :
    Site.beforeResync xs = xs := by
  have split := beforeResync_append xs []
  rw [List.append_nil, clean, if_neg (by simp)] at split
  exact split.trans (List.append_nil xs)

theorem resynced_append (xs ys : List BrowserMessage) :
    resynced (xs ++ ys) = (resynced xs || resynced ys) := List.any_append

namespace Site

def Window (tip : Option (Nat × Nat)) (replay : List Entry) : Prop :=
  match tip with
  | none => marks replay = []
  | some t => ∃ n, n ≤ t.2 ∧ marks replay = stretch t.1 (t.2 - n) n

theorem window_nil (tip : Option (Nat × Nat)) : Window tip [] := by
  cases tip with
  | none => rfl
  | some t => exact ⟨0, Nat.zero_le _, rfl⟩

theorem Window.drop {tip : Option (Nat × Nat)} {replay : List Entry} (h : Window tip replay)
    (k : Nat) : Window tip (replay.drop k) := by
  have split := marks_append (replay.take k) (replay.drop k)
  rw [List.take_append_drop] at split
  cases tip with
  | none =>
    have all : marks replay = [] := h
    rw [all] at split
    exact (List.append_eq_nil_iff.mp split.symm).2
  | some t =>
    obtain ⟨n, few, is⟩ := h
    obtain ⟨-, rest, length⟩ := stretch_eq_append (is.symm.trans split)
    refine ⟨(marks (replay.drop k)).length, by omega, ?_⟩
    rw [show t.2 - (marks (replay.drop k)).length =
      t.2 - n + (marks (replay.take k)).length by omega]
    exact rest

theorem Window.retain {s : Site} (h : Window s.tip s.replay) {e : Entry}
    (next : e.ring = true → ∀ t, s.tip = some t → t = (e.life, e.source.eventId)) :
    Window (s.retain e).tip (s.retain e).replay := by
  refine Window.drop ?_ _
  cases ring : e.ring with
  | false =>
    simp only [Site.retain, ring, Bool.false_eq_true, if_false]
    unfold Window at h ⊢
    rw [marks_append, marks_other ring, List.append_nil]
    exact h
  | true =>
    simp only [Site.retain, ring, if_true]
    show ∃ n, n ≤ e.source.eventId + 1 ∧ _
    rw [marks_append, marks_ring ring]
    cases tip : s.tip with
    | none =>
      rw [tip] at h
      refine ⟨1, Nat.le_add_left _ _, ?_⟩
      rw [show marks s.replay = [] from h, Nat.add_sub_cancel]
      rfl
    | some t =>
      rw [tip] at h
      cases next ring t tip
      obtain ⟨n, few, is⟩ := h
      refine ⟨n + 1, Nat.succ_le_succ few, ?_⟩
      rw [is, stretch_concat, Nat.succ_sub_succ, Nat.sub_add_cancel few]

theorem Window.suffix {tip : Option (Nat × Nat)} {before missed : List Entry} {e : Entry}
    (h : Window tip (before ++ e :: missed)) (ring : e.ring = true) :
    marks missed = stretch e.life (e.source.eventId + 1) (marks missed).length ∧
      tip = some (e.life, e.source.eventId + 1 + (marks missed).length) := by
  have split : marks (before ++ e :: missed) =
      marks before ++ ((e.life, e.source.eventId) :: marks missed) := by
    rw [marks_append, ← List.singleton_append, marks_append, marks_ring ring]
    rfl
  cases tip with
  | none =>
    have all : marks (before ++ e :: missed) = [] := h
    rw [split] at all
    simp at all
  | some t =>
    obtain ⟨n, few, is⟩ := h
    obtain ⟨-, rest, length⟩ := stretch_eq_append (is.symm.trans split)
    rw [List.length_cons] at rest length
    rw [stretch, List.range'_succ, List.map_cons, List.cons.injEq] at rest
    obtain ⟨at_e, after⟩ := rest
    obtain ⟨life, id⟩ := Prod.mk.inj at_e
    rw [life, id]
    refine ⟨after, ?_⟩
    rw [show t.2 - n + (marks before).length + 1 + (marks missed).length = t.2 by omega]

theorem Window.last {tip : Option (Nat × Nat)} {replay : List Entry} (h : Window tip replay)
    {e : Entry} (last : replay.getLast? = some e) (ring : e.ring = true) :
    tip = some (e.life, e.source.eventId + 1) := by
  obtain ⟨before, rfl⟩ := List.getLast?_eq_some_iff.mp last
  exact (Window.suffix h ring).2

end Site

namespace Browser

/-- Everything a stream has been given or holds. -/
def stream (b : Browser) : List BrowserMessage := b.given ++ b.backlog.queue

def Resumes (tip : Option (Nat × Nat)) (b : Browser) : Prop :=
  ∀ e, b.resumed = some e →
    ∃ n, Site.ringEvents (Site.beforeResync b.stream) =
      stretch e.life (e.source.eventId + 1) n ∧
      (b.attached = true → b.backlog.closed = false → resynced b.stream = false →
        tip = some (e.life, e.source.eventId + 1 + n))

variable {tip : Option (Nat × Nat)} {b : Browser}

theorem Resumes.left {c : Browser} (h : b.Resumes tip) (resumed : c.resumed = b.resumed)
    (stream : c.stream = b.stream) (past : c.attached = false ∨ c.backlog.closed = true)
    (tip' : Option (Nat × Nat)) : c.Resumes tip' := by
  intro e is
  obtain ⟨n, run, -⟩ := h e (resumed ▸ is)
  refine ⟨n, stream ▸ run, fun attached lives => ?_⟩
  rcases past with left | closed
  · rw [left] at attached
    cases attached
  · rw [closed] at lives
    cases lives

def Moves (tip : Option (Nat × Nat)) (message : BrowserMessage)
    (tip' : Option (Nat × Nat)) : Prop :=
  message.isResync = false → ∀ t, tip = some t →
    Site.ringEvents [message] = [] ∧ tip' = some t ∨
      Site.ringEvents [message] = [t] ∧ tip' = some (t.1, t.2 + 1)

theorem offer_cases (b : Browser) (message : BrowserMessage) :
    (b.offer message = b ∧ (b.attached = false ∨ b.backlog.closed = true)) ∨
      (b.attached = true ∧ b.backlog.closed = false ∧ b.offer message =
        { b with backlog := { b.backlog with queue := b.backlog.queue ++ [message] } }) ∨
      b.offer message =
        { b with backlog := { b.backlog with queue := [.resync .overflow] } } := by
  unfold Browser.offer
  split_ifs with attached
  · unfold Backlog.offer
    split_ifs with closed full
    · exact .inl ⟨rfl, .inr closed⟩
    · exact .inr (.inr rfl)
    · exact .inr (.inl ⟨attached, by simpa using closed, rfl⟩)
  · exact .inl ⟨rfl, .inl (by simpa using attached)⟩

theorem stretch_front {xs ys : List BrowserMessage} {life first n : Nat}
    (run : Site.ringEvents (Site.beforeResync (xs ++ ys)) = stretch life first n) :
    ∃ m, Site.ringEvents (Site.beforeResync xs) = stretch life first m := by
  rw [beforeResync_append] at run
  split_ifs at run with cut
  · exact ⟨n, run⟩
  · rw [ringEvents_append] at run
    rw [beforeResync_clean (by simpa using cut)]
    exact ⟨_, (stretch_eq_append run.symm).1⟩

theorem Resumes.offer {message : BrowserMessage} {tip' : Option (Nat × Nat)} (h : b.Resumes tip)
    (moves : Moves tip message tip') : (b.offer message).Resumes tip' := by
  rcases offer_cases b message with ⟨same, past⟩ | ⟨attached, lives, pushed⟩ | replaced
  · rw [same]
    exact h.left rfl rfl past tip'
  · rw [pushed]
    intro e is
    obtain ⟨n, run, level⟩ := h e is
    have grown : Browser.stream
        { b with backlog := { b.backlog with queue := b.backlog.queue ++ [message] } } =
          b.stream ++ [message] := (List.append_assoc _ _ _).symm
    rw [grown, beforeResync_append, resynced_append]
    cases cut : resynced b.stream with
    | true => exact ⟨n, run, fun _ _ clean => absurd clean (by simp)⟩
    | false =>
    rw [beforeResync_clean cut] at run
    rw [if_neg (by decide)]
    cases resync : message.isResync with
    | true =>
      refine ⟨n, ?_, fun _ _ clean => absurd clean (by simp [resynced, resync])⟩
      simp [Site.beforeResync, resync, run]
    | false =>
      rw [beforeResync_clean (by simp [resynced, resync]), ringEvents_append, run]
      rcases moves resync _ (level attached lives cut) with ⟨silent, stays⟩ | ⟨next, on⟩
      · rw [silent, List.append_nil]
        exact ⟨n, rfl, fun _ _ _ => stays⟩
      · rw [next, ← stretch_concat]
        exact ⟨n + 1, rfl, fun _ _ _ => on⟩
  · rw [replaced]
    intro e is
    obtain ⟨n, run, -⟩ := h e is
    obtain ⟨m, front⟩ := stretch_front run
    have cut : resynced (b.given ++ [.resync .overflow]) = true := by
      rw [resynced_append]
      exact Bool.or_true _
    refine ⟨m, ?_, fun _ _ clean => absurd (cut.symm.trans clean) (by decide)⟩
    show Site.ringEvents (Site.beforeResync (b.given ++ [.resync .overflow])) = _
    rw [← front, beforeResync_append]
    split_ifs with clean
    · rfl
    · have whole : Site.beforeResync b.given = b.given := beforeResync_clean (by simpa using clean)
      rw [whole]
      exact congrArg Site.ringEvents (List.append_nil _)

theorem Resumes.take {c : Browser} (h : b.Resumes tip) (taken : b.take = some c) :
    c.Resumes tip := by
  unfold Browser.take at taken
  cases queue : b.backlog.queue with
  | nil => simp [queue] at taken
  | cons message rest =>
    simp only [queue, Option.some.injEq] at taken
    have same : c.stream = b.stream := by
      rw [← taken, Browser.stream, Browser.stream, queue, List.append_assoc]
      rfl
    intro e is
    have resumed : b.resumed = some e := by
      rw [← is, ← taken]
    obtain ⟨n, run, level⟩ := h e resumed
    refine ⟨n, same ▸ run, fun attached lives clean => ?_⟩
    refine level ?_ ?_ (same ▸ clean)
    · rw [← attached, ← taken]
    · rw [← lives, ← taken]

theorem take_keeps {c : Browser} (taken : b.take = some c) :
    c.attached = b.attached ∧ c.backlog.closed = b.backlog.closed := by
  unfold Browser.take at taken
  cases queue : b.backlog.queue with
  | nil => simp [queue] at taken
  | cons message rest =>
    simp only [queue, Option.some.injEq] at taken
    rw [← taken]
    exact ⟨rfl, rfl⟩

theorem close_resumed (b : Browser) : b.close.resumed = b.resumed := by
  unfold close
  split_ifs <;> rfl

theorem close_stream (b : Browser) : b.close.stream = b.stream := by
  unfold close
  split_ifs <;> rfl

theorem close_over (b : Browser) : b.close.attached = false ∨ b.close.backlog.closed = true := by
  unfold close
  split_ifs with attached
  · exact .inr rfl
  · exact .inl (by simpa using attached)

end Browser

def Link.ids (link : Link) : List Nat := (link.frames.map DaemonEvent.eventId).filter (0 < ·)

/-- The frames carry the stretch of `m` ring events from `q`. It follows the window, and what
its subscriber is to drain next follows it, as long as that one is not lost. -/
structure Link.Carries (tip : Option (Nat × Nat)) (attached : List Attached) (link : Link)
    (q m : Nat) : Prop where
  ids : link.ids = List.range' q m
  ahead : 0 < m → ∀ t, tip = some t → t = (link.life, q)
  served : link.served = true → ∃ a, attached[link.subscriber]? = some a ∧
    (a.subscriber.overflowed = false → 0 < a.first ∧ q + m = a.first + a.drained.length ∧
      ∀ t, tip = some t → t = (link.life, q))

theorem drain_follows {nextId : Nat} {owed : List Nat} {a : Attached} (h : a.Fed nextId owed) :
    a.subscriber.drain.1.map DaemonEvent.eventId =
      List.range' (a.first + a.drained.length) a.subscriber.drain.1.length := by
  have whole := h.taken.run
  rw [Attached.ids, Attached.drain, List.map_append, List.length_append,
    ← List.range'_append_1] at whole
  exact (List.append_inj whole (by simp)).2

theorem drain_nothing {a : Attached} (nothing : a.subscriber.drain.1 = []) : a.drain = a := by
  rw [Attached.drain, nothing, List.append_nil]
  unfold Subscriber.drain at nothing ⊢
  split_ifs at nothing ⊢
  · rfl
  · obtain ⟨⟨capacity, pending, overflowed, closed⟩, after, attachedAt, drained⟩ := a
    cases nothing
    rfl

namespace Link.Carries

variable {tip : Option (Nat × Nat)} {attached : List Attached} {link : Link} {q m : Nat}

theorem forget (h : link.Carries tip attached q m) : link.Carries none attached q m := by
  refine ⟨h.ids, fun _ t is => ?_, fun served => ?_⟩
  · cases is
  · obtain ⟨a, at_a, follows⟩ := h.served served
    refine ⟨a, at_a, fun kept => ⟨(follows kept).1, (follows kept).2.1, fun t is => ?_⟩⟩
    cases is

theorem abandoned {later : Link} {others : List Attached} (h : link.Carries tip attached q m)
    (frames : later.ids = link.ids) (life : later.life = link.life)
    (gone : later.served = false) : later.Carries tip others q m := by
  refine ⟨frames.trans h.ids, fun some t is => ?_, fun served => ?_⟩
  · rw [life]
    exact h.ahead some t is
  · rw [gone] at served
    cases served

theorem foreign {bus bus' : EventBus} {e : BusEvent} (h : link.Carries tip bus.attached q m)
    (other : link.served = true → e ≠ .drain link.subscriber)
    (stepped : bus.step e = some bus') : link.Carries tip bus'.attached q m := by
  refine ⟨h.ids, h.ahead, fun served => ?_⟩
  obtain ⟨a, at_a, follows⟩ := h.served served
  obtain ⟨b, at_b, first, lost, drained⟩ := EventBus.kept_step at_a stepped
  refine ⟨b, at_b, fun kept => ?_⟩
  rw [first, drained (.inl (other served))]
  refine follows ?_
  cases overflowed : a.subscriber.overflowed with
  | false => rfl
  | true => exact absurd (lost overflowed) (by simp [kept])

theorem read_other {event : DaemonEvent} {rest : List DaemonEvent}
    (h : link.Carries tip attached q m) (frames : link.frames = event :: rest)
    (other : event.eventId = 0) : Carries tip attached { link with frames := rest } q m := by
  refine ⟨?_, h.ahead, h.served⟩
  rw [← h.ids, Link.ids, Link.ids, frames, List.map_cons,
    List.filter_cons_of_neg (by simp [other])]

theorem read_ring {event : DaemonEvent} {rest : List DaemonEvent}
    (h : link.Carries tip attached q m) (frames : link.frames = event :: rest)
    (ring : 0 < event.eventId) :
    event.eventId = q ∧ (∀ t, tip = some t → t = (link.life, q)) ∧
      Carries (some (link.life, q + 1)) attached { link with frames := rest } (q + 1) (m - 1) := by
  have ids := h.ids
  rw [Link.ids, frames, List.map_cons, List.filter_cons_of_pos (by simpa using ring)] at ids
  obtain ⟨k, rfl⟩ : ∃ k, m = k + 1 := by
    cases m with
    | zero => simp at ids
    | succ k => exact ⟨k, rfl⟩
  rw [List.range'_succ, List.cons.injEq] at ids
  obtain ⟨head, tail⟩ := ids
  refine ⟨head, h.ahead (Nat.succ_pos k), tail, fun _ t is => (Option.some.inj is).symm,
    fun served => ?_⟩
  obtain ⟨a, at_a, follows⟩ := h.served served
  refine ⟨a, at_a, fun kept => ?_⟩
  obtain ⟨begun, level, -⟩ := follows kept
  exact ⟨begun, by omega, fun t is => (Option.some.inj is).symm⟩

theorem wrote_other {a : Attached} {event : DaemonEvent} {goesOn : Bool}
    (h : link.Carries tip attached q m) (served : link.served = true)
    (at_a : attached[link.subscriber]? = some a) (nothing : goesOn = true → a.drain = a)
    (other : event.eventId = 0) :
    Carries tip (attached.set link.subscriber a.drain)
      { link with frames := link.frames ++ [event], served := goesOn } q m := by
  refine ⟨?_, h.ahead, fun on => ?_⟩
  · rw [← h.ids, Link.ids, Link.ids, List.map_append, List.filter_append]
    simp [other]
  · obtain ⟨b, at_b, follows⟩ := h.served served
    cases at_a.symm.trans at_b
    refine ⟨a, ?_, follows⟩
    obtain ⟨bound, -⟩ := List.getElem?_eq_some_iff.mp at_a
    rw [nothing on]
    exact List.getElem?_set_self bound

theorem wrote_ring {nextId : Nat} {owed : List Nat} {a : Attached}
    (h : link.Carries tip attached q m) (served : link.served = true)
    (at_a : attached[link.subscriber]? = some a) (fed : a.Fed nextId owed)
    (kept : a.subscriber.overflowed = false) :
    Carries tip (attached.set link.subscriber a.drain)
      { link with frames := link.frames ++ a.subscriber.drain.1 } q
      (m + a.subscriber.drain.1.length) := by
  obtain ⟨b, at_b, follows⟩ := h.served served
  cases at_a.symm.trans at_b
  obtain ⟨begun, level, next⟩ := follows kept
  refine ⟨?_, fun _ => next, fun _ => ⟨a.drain, ?_, fun _ => ⟨begun, ?_, next⟩⟩⟩
  · have ring : ((a.subscriber.drain.1.map DaemonEvent.eventId).filter (0 < ·)) =
        List.range' (q + m) a.subscriber.drain.1.length := by
      rw [drain_follows fed, level, List.filter_eq_self]
      intro i member
      rw [List.mem_range'_1] at member
      exact decide_eq_true (by omega)
    have before := h.ids
    rw [Link.ids] at before ⊢
    rw [List.map_append, List.filter_append, before, ring, List.range'_append_1]
  · obtain ⟨bound, -⟩ := List.getElem?_eq_some_iff.mp at_a
    rw [List.getElem?_set_self bound]
  · rw [Attached.drain, List.length_append, ← Nat.add_assoc, level, Nat.add_assoc]
    rfl

end Link.Carries

namespace Site

def Continues (s : Site) (p : Pump) : Prop :=
  match p.link with
  | some link => ∃ q m, link.Carries s.tip s.bus.attached q m
  | none =>
    (p.upstream.firstConnection = true →
      p.upstream.cursor = s.replay.getLast?.map Entry.eventId ∧
        (s.replay = [] → s.tip = none)) ∧
      (p.upstream.firstConnection = false → p.announced = true → s.tip = none)

/-- The window, the pump and the browsers are level with one another. -/
structure Sound (s : Site) : Prop where
  bus : s.bus.Delivers
  window : Window s.tip s.replay
  pump : ∀ p, s.pump = some p → s.Continues p
  browsers : ∀ b ∈ s.browsers, b.Resumes s.tip
  idle : s.pump = none → ∀ b ∈ s.browsers, b.attached = true → b.backlog.closed = true

theorem sound_new (retention capacity : Nat) (retention_pos : 0 < retention)
    (capacity_pos : 0 < capacity) (replayCapacity backlogLimit : Nat) :
    (new retention capacity retention_pos capacity_pos replayCapacity backlogLimit).Sound := by
  refine ⟨EventBus.delivers_new _ _ _ _, rfl, fun p is => ?_, fun b member => ?_,
    fun _ b member => ?_⟩
  · cases is
  · cases member
  · cases member

variable {s t : Site}

theorem sound_bus {e : BusEvent} (h : s.Sound) (ordered : s.bus.Ordered e)
    (stepped : s.step (.bus e) = some t) : t.Sound := by
  simp only [step] at stepped
  split_ifs at stepped with foreign
  obtain ⟨bus, next, rfl⟩ := Option.map_eq_some_iff.mp stepped
  refine ⟨EventBus.delivers_step h.bus ordered next, h.window,
    fun p is => ?_, h.browsers, h.idle⟩
  have continues := h.pump p is
  unfold Continues at continues ⊢
  cases connected : p.link with
  | none =>
    rw [connected] at continues
    exact continues
  | some link =>
    rw [connected] at continues
    obtain ⟨q, m, carries⟩ := continues
    refine ⟨q, m, carries.foreign (fun served drains => ?_) next⟩
    subst drains
    have is_pump : s.pump = some p := is
    simp [Site.foreign, is_pump, connected, served] at foreign

theorem sound_restart (h : s.Sound) (stepped : s.step .restart = some t) : t.Sound := by
  cases stepped
  refine ⟨EventBus.delivers_new _ _ _ _, h.window, fun p is => ?_, h.browsers, fun idle => ?_⟩
  · obtain ⟨before, was, rfl⟩ := Option.map_eq_some_iff.mp is
    have continues := h.pump before was
    unfold Continues at continues ⊢
    cases connected : before.link with
    | none =>
      rw [connected] at continues
      exact continues
    | some link =>
      rw [connected] at continues
      obtain ⟨q, m, carries⟩ := continues
      exact ⟨q, m, carries.abandoned rfl rfl rfl⟩
  · exact h.idle (Option.map_eq_none_iff.mp idle)

theorem sound_turn {generation now : Nat} {lostSince : Bool} (h : s.Sound)
    (stepped : s.step (.turn generation now lostSince) = some t) : t.Sound := by
  simp only [step, Option.bind_eq_some_iff] at stepped
  obtain ⟨p, is_pump, link, connected, stepped⟩ := stepped
  split_ifs at stepped with served
  obtain ⟨a, at_a, rfl⟩ := Option.map_eq_some_iff.mp stepped
  have drains : s.bus.step (.drain link.subscriber) =
      some { s.bus with attached := s.bus.attached.set link.subscriber a.drain } := by
    simp [EventBus.step, at_a]
  have delivers := EventBus.delivers_step (e := .drain link.subscriber) h.bus trivial drains
  refine ⟨delivers, h.window, fun p' is => ?_, h.browsers, fun idle => ?_⟩
  · cases is
    have continues := h.pump p is_pump
    rw [Continues, connected] at continues
    obtain ⟨q, m, carries⟩ := continues
    show ∃ q m, Link.Carries s.tip (s.bus.attached.set link.subscriber a.drain)
      { link with
        frames := link.frames ++ (streamTurn generation now a.subscriber lostSince).1
        served := !(streamTurn generation now a.subscriber lostSince).2 } q m
    unfold streamTurn
    split_ifs with lost quiet
    · exact ⟨q, m, carries.wrote_other served at_a (fun on => by cases on) rfl⟩
    · refine ⟨q, m, carries.wrote_other served at_a (fun _ => ?_) rfl⟩
      exact drain_nothing quiet
    · have kept : a.subscriber.overflowed = false := by
        simp only [Bool.or_eq_true, not_or, Bool.not_eq_true] at lost
        exact lost.1
      have wrote := carries.wrote_ring served at_a (h.bus.fed _ a at_a) kept
      rw [show (!false) = link.served from served.symm]
      exact ⟨q, _, wrote⟩
  · cases idle

theorem resumes_offer {tip tip' : Option (Nat × Nat)} {browsers : List Browser}
    {message : BrowserMessage} (h : ∀ b ∈ browsers, b.Resumes tip)
    (moves : Browser.Moves tip message tip') :
    ∀ b ∈ browsers.map fun b => b.offer message, b.Resumes tip' := by
  intro b member
  obtain ⟨before, was, rfl⟩ := List.mem_map.mp member
  exact (h before was).offer moves

theorem moves_resync (tip tip' : Option (Nat × Nat)) (reason : ResyncReason) :
    Browser.Moves tip (.resync reason) tip' := by
  intro incremental
  cases incremental

theorem moves_unavailable (tip : Option (Nat × Nat)) : Browser.Moves tip .unavailable tip :=
  fun _ _ is => .inl ⟨rfl, is⟩

theorem moves_event {e : Entry}
    (next : e.ring = true → ∀ t, s.tip = some t → t = (e.life, e.source.eventId)) :
    Browser.Moves s.tip (.event e) (s.retain e).tip := by
  intro _ t is
  cases ring : e.ring with
  | false =>
    refine .inl ⟨?_, ?_⟩
    · simp [ringEvents, ring]
    · simpa [retain, ring] using is
  | true =>
    cases next ring t is
    refine .inr ⟨?_, ?_⟩
    · simp [ringEvents, ring]
    · simp [retain, ring]

theorem sound_read (h : s.Sound) (stepped : s.step .read = some t) : t.Sound := by
  simp only [step, Option.bind_eq_some_iff] at stepped
  obtain ⟨p, is_pump, link, connected, stepped⟩ := stepped
  cases frames : link.frames with
  | nil => simp [frames] at stepped
  | cons event rest =>
  simp only [frames, Option.some.injEq] at stepped
  subst stepped
  have continues := h.pump p is_pump
  rw [Continues, connected] at continues
  obtain ⟨q, m, carries⟩ := continues
  unfold heard Upstream.received
  split_ifs with resync
  · refine ⟨h.bus, window_nil _, fun p' is => ?_, resumes_offer h.browsers (moves_resync _ _ _),
      fun idle => ?_⟩
    · cases is
      rcases Nat.eq_zero_or_pos event.eventId with other | ring
      · exact ⟨q, m, (carries.read_other frames other).forget⟩
      · exact ⟨_, _, (carries.read_ring frames ring).2.2.forget⟩
    · cases idle
  · have next : Entry.ring ⟨event, link.life⟩ = true → ∀ t, s.tip = some t →
        t = (link.life, event.eventId) := by
      intro ring t is
      obtain ⟨here, level, -⟩ := carries.read_ring frames
        (Nat.pos_of_ne_zero (by simpa [Entry.ring] using ring))
      rw [here]
      exact level t is
    refine ⟨h.bus, h.window.retain next, fun p' is => ?_,
      resumes_offer h.browsers (moves_event next), fun idle => ?_⟩
    · cases is
      rcases Nat.eq_zero_or_pos event.eventId with other | ring
      · have tip : (s.retain ⟨event, link.life⟩).tip = s.tip := by
          simp [retain, Entry.ring, other]
        refine ⟨q, m, ?_⟩
        show Link.Carries (s.retain ⟨event, link.life⟩).tip _ _ q m
        rw [tip]
        exact carries.read_other frames other
      · obtain ⟨here, -, after⟩ := carries.read_ring frames ring
        have tip : (s.retain ⟨event, link.life⟩).tip = some (link.life, q + 1) := by
          have rings : Entry.ring ⟨event, link.life⟩ = true :=
            decide_eq_true (Nat.ne_of_gt ring)
          simp only [retain, rings, if_true, here]
        refine ⟨q + 1, m - 1, ?_⟩
        show Link.Carries (s.retain ⟨event, link.life⟩).tip _ _ (q + 1) (m - 1)
        rw [tip]
        exact after
    · cases idle

theorem sound_announce (h : s.Sound) (stepped : s.step .announce = some t) : t.Sound := by
  simp only [step, Option.bind_eq_some_iff] at stepped
  obtain ⟨p, is_pump, stepped⟩ := stepped
  split_ifs at stepped with ready
  cases stepped
  simp only [Bool.and_eq_true, Option.isNone_iff_eq_none, Bool.not_eq_true'] at ready
  refine ⟨h.bus, window_nil _, fun p' is => ?_, resumes_offer h.browsers (moves_resync _ _ _),
    fun idle => ?_⟩
  · cases is
    rw [Continues, show Pump.link { p with announced := true } = none from ready.1.1]
    refine ⟨fun first => ?_, fun _ _ => rfl⟩
    exact absurd (ready.1.2.symm.trans first) (by decide)
  · cases idle

theorem sound_connectFails (h : s.Sound) (stepped : s.step .connectFails = some t) :
    t.Sound := by
  simp only [step, Option.bind_eq_some_iff] at stepped
  obtain ⟨p, is_pump, stepped⟩ := stepped
  split_ifs at stepped with ready
  cases stepped
  refine ⟨h.bus, h.window, fun p' is => ?_, resumes_offer h.browsers (moves_unavailable _),
    fun idle => ?_⟩
  · cases is
    refine ⟨fun first => ?_, fun _ announced => ?_⟩
    · cases first
    · cases announced
  · cases idle

theorem sound_hangUp {failed : Bool} (h : s.Sound) (stepped : s.step (.hangUp failed) = some t) :
    t.Sound := by
  simp only [step, Option.bind_eq_some_iff, Option.map_eq_some_iff] at stepped
  obtain ⟨p, is_pump, link, connected, rfl⟩ := stepped
  have ended : Continues s ⟨p.upstream.ended, false, none⟩ := by
    refine ⟨fun first => ?_, fun _ announced => ?_⟩
    · cases first
    · cases announced
  cases failed with
  | false =>
    refine ⟨h.bus, h.window, fun p' is => ?_, h.browsers, fun idle => ?_⟩
    · cases is
      exact ended
    · cases idle
  | true =>
    refine ⟨h.bus, h.window, fun p' is => ?_, resumes_offer h.browsers (moves_unavailable _),
      fun idle => ?_⟩
    · cases is
      exact ended
    · cases idle

theorem connect_level {p : Pump} (h : s.Sound) (is_pump : s.pump = some p)
    (connected : p.link = none)
    (ready : p.upstream.firstConnection = true ∨ p.announced = true)
    (fits : s.connectFits = true) :
    (s.bus.ring.subscriberFor p.upstream.cursor).overflowed = true ∨
      ∀ t, s.tip = some t → ∃ cursor, p.upstream.cursor = some cursor ∧
        t = (s.life, cursor + 1) := by
  have continues := h.pump p is_pump
  rw [Continues, connected] at continues
  cases first : p.upstream.firstConnection with
  | false =>
    right
    intro t is
    cases (continues.2 first (by simpa [first] using ready)).symm.trans is
  | true =>
    obtain ⟨cursor_is, empty⟩ := continues.1 first
    cases last : s.replay.getLast? with
    | none =>
      right
      intro t is
      cases (empty (List.getLast?_eq_none_iff.mp last)).symm.trans is
    | some e =>
      rw [last, Option.map_some] at cursor_is
      simp only [connectFits, is_pump, Option.all_some, first, cursor_is, Bool.not_true,
        Bool.false_or, last, Option.any_some, Bool.or_eq_true, Bool.and_eq_true,
        decide_eq_true_eq] at fits
      rcases fits with refused | ⟨ring, life⟩
      · exact .inl (by rw [cursor_is]; exact refused)
      · right
        intro t is
        cases (h.window.last last ring).symm.trans is
        have id : e.eventId = e.source.eventId :=
          Nat.max_eq_left (Nat.pos_of_ne_zero (by simpa [Entry.ring] using ring))
        exact ⟨e.eventId, cursor_is, by rw [id, life]⟩

theorem sound_connect (h : s.Sound) (fits : s.connectFits = true)
    (stepped : s.step .connect = some t) : t.Sound := by
  simp only [step, Option.bind_eq_some_iff] at stepped
  obtain ⟨p, is_pump, stepped⟩ := stepped
  split_ifs at stepped with ready
  simp only [Bool.and_eq_true, Option.isNone_iff_eq_none, Bool.or_eq_true] at ready
  obtain ⟨bus, subscribed, rfl⟩ := Option.map_eq_some_iff.mp stepped
  have delivers := EventBus.delivers_step (e := .subscribe p.upstream.cursor) h.bus trivial
    subscribed
  refine ⟨delivers, h.window, fun p' is => ?_, h.browsers, fun idle => ?_⟩
  · cases is
    cases subscribed
    let a : Attached := ⟨s.bus.ring.subscriberFor p.upstream.cursor, p.upstream.cursor,
      s.bus.ring.nextId, []⟩
    have begun : 0 < a.first := by
      cases cursor : p.upstream.cursor with
      | none =>
        have positive := Nat.zero_lt_of_lt h.bus.window.1
        simpa [a, Attached.first, cursor] using positive
      | some c => simp [a, Attached.first, cursor]
    refine ⟨a.first, 0, rfl, fun some => absurd some (Nat.lt_irrefl 0),
      fun _ => ⟨a, ?_, ?_⟩⟩
    · exact List.getElem?_concat_length
    · intro kept
      refine ⟨begun, rfl, fun t is => ?_⟩
      rcases connect_level h is_pump ready.1 ready.2 fits with refused | level
      · exact absurd (refused.symm.trans kept) (by decide)
      · obtain ⟨cursor, cursor_is, rfl⟩ := level t is
        simp [a, Attached.first, cursor_is]
  · cases idle

theorem sound_sourceFails (h : s.Sound) (stepped : s.step .sourceFails = some t) : t.Sound := by
  simp only [step, Option.map_eq_some_iff] at stepped
  obtain ⟨p, -, rfl⟩ := stepped
  have offered := resumes_offer h.browsers (moves_unavailable s.tip)
  refine ⟨h.bus, h.window, fun p' is => ?_, fun b member => ?_, fun _ b member => ?_⟩
  · cases is
  · obtain ⟨before, was, rfl⟩ := List.mem_map.mp member
    exact (offered before was).left before.close_resumed before.close_stream before.close_over _
  · obtain ⟨before, was, rfl⟩ := List.mem_map.mp member
    intro attached
    exact before.close_over.resolve_left (by rw [attached]; decide)

theorem offer_all {limit : Nat} {messages queue : List BrowserMessage}
    (fits : queue.length + messages.length ≤ limit) :
    messages.foldl Backlog.offer ⟨limit, queue, false⟩ =
      ⟨limit, queue ++ messages, false⟩ := by
  induction messages generalizing queue with
  | nil => rw [List.foldl_nil, List.append_nil]
  | cons m ms ih =>
    rw [List.length_cons] at fits
    have queued : Backlog.offer ⟨limit, queue, false⟩ m = ⟨limit, queue ++ [m], false⟩ := by
      simp only [Backlog.offer, Bool.false_eq_true, if_false]
      rw [if_neg (by omega)]
    rw [List.foldl_cons, queued, ih (by rw [List.length_append, List.length_singleton]; omega),
      List.append_assoc]
    rfl

theorem after_eq_some {replay missed : List Entry} {id : Nat}
    (found : after replay id = some missed) :
    ∃ before e, replay = before ++ e :: missed ∧
      replay.find? (fun x => x.eventId = id) = some e := by
  unfold after at found
  induction replay with
  | nil => simp at found
  | cons e rest ih =>
    by_cases here : e.eventId = id
    · simp only [List.dropWhile_cons, here, ne_eq, not_true_eq_false, decide_false,
        Bool.false_eq_true, if_false, Option.some.injEq] at found
      exact ⟨[], e, by rw [found, List.nil_append], by simp [here]⟩
    · simp only [List.dropWhile_cons, here, ne_eq, not_false_eq_true, decide_true,
        if_true] at found
      obtain ⟨before, x, split, first⟩ := ih found
      refine ⟨e :: before, x, by rw [split, List.cons_append], ?_⟩
      rw [List.find?_cons_of_neg (by simpa using here)]
      exact first

theorem opened_cases (s : Site) (e : Entry) :
    (∃ reason, (s.opened (some e)).stream = [.resync reason]) ∨
      ∃ missed, after s.replay e.eventId = some missed ∧
        (s.opened (some e)).stream = missed.map .event := by
  have refused (opening : s.opening (some e.eventId) = [.resync .cursorTooOld]) :
      ∃ reason, (s.opened (some e)).stream = [.resync reason] := by
    simp only [Browser.stream, opened, Option.map_some, opening, List.foldl_cons, List.foldl_nil,
      Backlog.offer, Bool.false_eq_true, if_false]
    split_ifs
    · exact ⟨.overflow, rfl⟩
    · exact ⟨.cursorTooOld, rfl⟩
  cases found : after s.replay e.eventId with
  | none =>
    exact .inl (refused (by simp [opening, found]))
  | some missed =>
    by_cases many : s.backlogLimit < missed.length
    · exact .inl (refused (by simp [opening, found, many]))
    · right
      have opening : s.opening (some e.eventId) = missed.map .event := by
        simp [opening, found, many]
      refine ⟨missed, rfl, ?_⟩
      rw [opened, Option.map_some, opening, Browser.stream,
        offer_all (by rw [List.length_nil, List.length_map]; omega)]
      rfl

theorem opened_resumes (window : Window s.tip s.replay) {last : Option Entry}
    (fits : last.all fun e =>
      (s.replay.find? fun x => x.eventId = e.eventId).all fun found => found = e && e.ring) :
    (s.opened last).Resumes (if s.replay = [] then none else s.tip) := by
  intro e is
  cases (show last = some e from is)
  rcases opened_cases s e with ⟨reason, stream⟩ | ⟨missed, found, stream⟩
  · rw [stream]
    exact ⟨0, rfl, fun _ _ clean => by cases clean⟩
  · rw [stream]
    obtain ⟨before, x, split, first⟩ := after_eq_some found
    simp only [Option.all_some, first, Bool.and_eq_true, decide_eq_true_eq] at fits
    obtain ⟨rfl, ring⟩ := fits
    rw [split] at window
    obtain ⟨rest, tip⟩ := window.suffix ring
    have clean : resynced (missed.map .event) = false := by
      simp [resynced, BrowserMessage.isResync]
    refine ⟨(marks missed).length, ?_, fun _ _ _ => ?_⟩
    · rw [beforeResync_clean clean, ringEvents_entries]
      exact rest
    · rw [if_neg (by simp [split])]
      exact tip

theorem sound_subscribe {last : Option Entry} (h : s.Sound)
    (fits : last.all fun e =>
      (s.replay.find? fun x => x.eventId = e.eventId).all fun found => found = e && e.ring) :
    (s.subscribe last).Sound := by
  have new := opened_resumes h.window fits
  unfold subscribe attach
  cases pump : s.pump with
  | some p =>
    refine ⟨h.bus, h.window, fun p' is => ?_, fun b member => ?_, fun idle => ?_⟩
    · cases is
      exact h.pump p pump
    · rcases List.mem_append.mp member with old | opened
      · exact h.browsers b old
      · cases List.mem_singleton.mp opened
        intro e is
        obtain ⟨n, run, level⟩ := new e is
        refine ⟨n, run, fun attached lives clean => ?_⟩
        have at_tip := level attached lives clean
        split_ifs at at_tip
        exact at_tip
    · cases idle
  | none =>
    refine ⟨h.bus, ?_, fun p is => ?_, fun b member => ?_, fun idle => ?_⟩
    · show Window (if s.replay = [] then none else s.tip) s.replay
      split_ifs with empty
      · rw [empty]
        exact window_nil _
      · exact h.window
    · cases is
      refine ⟨fun _ => ⟨rfl, fun empty => if_pos empty⟩, fun first => ?_⟩
      cases first
    · rcases List.mem_append.mp member with old | opened
      · have past : b.attached = false ∨ b.backlog.closed = true := by
          cases attached : b.attached with
          | false => exact .inl rfl
          | true => exact .inr (h.idle pump b old attached)
        exact (h.browsers b old).left rfl rfl past _
      · cases List.mem_singleton.mp opened
        exact new
    · cases idle

theorem sound_take {k : Nat} (h : s.Sound) (stepped : s.step (.take k) = some t) : t.Sound := by
  simp only [step, Option.bind_eq_some_iff, Option.map_eq_some_iff] at stepped
  obtain ⟨b, at_b, c, taken, rfl⟩ := stepped
  have member_b := List.mem_of_getElem? at_b
  refine ⟨h.bus, h.window, h.pump, fun b' member => ?_, fun idle b' member => ?_⟩
  · rcases List.mem_or_eq_of_mem_set member with old | rfl
    · exact h.browsers b' old
    · exact (h.browsers b member_b).take taken
  · rcases List.mem_or_eq_of_mem_set member with old | rfl
    · exact h.idle idle b' old
    · obtain ⟨attached, closed⟩ := Browser.take_keeps taken
      rw [attached, closed]
      exact h.idle idle b member_b

theorem sound_leave {k : Nat} (h : s.Sound) (stepped : s.step (.leave k) = some t) :
    t.Sound := by
  simp only [step, Option.map_eq_some_iff] at stepped
  obtain ⟨b, at_b, rfl⟩ := stepped
  have browsers : ∀ c ∈ s.browsers.set k b.leave, c.Resumes s.tip := by
    intro c member
    rcases List.mem_or_eq_of_mem_set member with old | rfl
    · exact h.browsers c old
    · exact (h.browsers b (List.mem_of_getElem? at_b)).left (c := b.leave) rfl rfl (.inl rfl) _
  unfold detachIfIdle
  split_ifs with watched
  · refine ⟨h.bus, h.window, h.pump, browsers, fun idle c member => ?_⟩
    rcases List.mem_or_eq_of_mem_set member with old | rfl
    · exact h.idle idle c old
    · exact fun _ => rfl
  · refine ⟨h.bus, h.window, fun p is => ?_, browsers, fun _ c member attached => ?_⟩
    · cases is
    · exact absurd (List.any_eq_true.mpr ⟨c, member, attached⟩) watched

theorem sound_shutdown (h : s.Sound) (stepped : s.step .shutdown = some t) : t.Sound := by
  cases stepped
  refine ⟨h.bus, rfl, fun p is => ?_, fun b member => ?_, fun _ b member => ?_⟩
  · cases is
  · obtain ⟨before, was, rfl⟩ := List.mem_map.mp member
    exact (h.browsers before was).left (c := before.leave) rfl rfl (.inl rfl) _
  · obtain ⟨before, was, rfl⟩ := List.mem_map.mp member
    exact fun _ => rfl

theorem sound_step {e : SiteEvent} (h : s.Sound) (fit : s.Fit e) (stepped : s.step e = some t) :
    t.Sound := by
  cases e with
  | bus e => exact sound_bus h fit stepped
  | restart => exact sound_restart h stepped
  | announce => exact sound_announce h stepped
  | connect => exact sound_connect h fit stepped
  | connectFails => exact sound_connectFails h stepped
  | turn generation now lostSince => exact sound_turn h stepped
  | read => exact sound_read h stepped
  | hangUp failed => exact sound_hangUp h stepped
  | sourceFails => exact sound_sourceFails h stepped
  | subscribe =>
    cases stepped
    exact sound_subscribe h rfl
  | resume k =>
    simp only [step, Option.map_eq_some_iff] at stepped
    obtain ⟨b, at_b, rfl⟩ := stepped
    refine sound_subscribe h ?_
    have fits : s.resumeFits k = true := fit
    rw [resumeFits, at_b, Option.all_some] at fits
    exact fits
  | take k => exact sound_take h stepped
  | leave k => exact sound_leave h stepped
  | shutdown => exact sound_shutdown h stepped

/-- In every run whose resumes find the event they name, whose first connections find the
life they continue, and whose publications are offered in turn, a stream that resumed is
given the ring events after that event, in order and once each, up to the first resync; and
while it is offered events and there is no resync, what it has been given and what it holds
reach to the tip of the window, so that no event of the pump is missing. -/
theorem resume_continues (retention capacity : Nat) (retention_pos : 0 < retention)
    (capacity_pos : 0 < capacity) (replayCapacity backlogLimit : Nat) (es : List SiteEvent)
    (s : Site)
    (fit : Meets step Fit
      (new retention capacity retention_pos capacity_pos replayCapacity backlogLimit) es)
    (reached : run step
      (new retention capacity retention_pos capacity_pos replayCapacity backlogLimit) es = some s)
    (b : Browser) (member : b ∈ s.browsers) (e : Entry) (resumed : b.resumed = some e) :
    ∃ m n, ringEvents (beforeResync b.given) = following e.life e.source.eventId m ∧
      ringEvents (beforeResync b.stream) = following e.life e.source.eventId n ∧
      (b.attached = true → b.backlog.closed = false → resynced b.stream = false →
        s.tip = some (e.life, e.source.eventId + 1 + n)) := by
  have sound := run_invariant (fun _ _ _ => sound_step)
    (sound_new retention capacity retention_pos capacity_pos replayCapacity backlogLimit) fit
      reached
  obtain ⟨n, run, level⟩ := sound.browsers b member e resumed
  obtain ⟨m, front⟩ := Browser.stretch_front run
  exact ⟨m, n, front, run, level⟩

def watchedSite : List SiteEvent → Site := runD step (new 8 8 (by decide) (by decide) 8 8)

def publishes : List SiteEvent := [.bus (EventBus.accepted 1), .bus (.offer 0)]

def blinked : List SiteEvent :=
  [.subscribe, .subscribe, .connect] ++ publishes ++
    [.turn 1 0 false, .read, .take 0, .take 0, .leave 0] ++ publishes ++
    [.turn 1 0 false, .read, .resume 0, .take 2]

theorem resume_continues_blinked :
    ∃ b ∈ (watchedSite blinked).browsers, ∃ m n,
      b.resumed.map (fun e => e.source.eventId) = some 1 ∧ b.given.length = 1 ∧
        ringEvents (beforeResync b.given) = following 0 1 m ∧
        ringEvents (beforeResync b.stream) = following 0 1 n ∧
        (watchedSite blinked).tip = some (0, 1 + 1 + n) := by
  have ran : run step (new 8 8 (by decide) (by decide) 8 8) blinked = some (watchedSite blinked) :=
    run_eq_runD (by decide +kernel)
  obtain ⟨b, third⟩ : ∃ b, (watchedSite blinked).browsers[2]? = some b :=
    Option.isSome_iff_exists.mp (by decide +kernel)
  have shape : ((watchedSite blinked).browsers[2]?).map
      (fun b => (b.resumed.map fun e => (e.life, e.source.eventId), b.given.length, b.attached,
        b.backlog.closed, resynced b.stream)) = some (some (0, 1), 1, true, false, false) := by
    decide +kernel
  simp only [third, Option.map_some, Option.some.injEq, Prod.mk.injEq,
    Option.map_eq_some_iff] at shape
  obtain ⟨⟨e, resumed, life, id⟩, given, attached, lives, clean⟩ := shape
  have member := List.mem_of_getElem? third
  obtain ⟨m, n, front, held, level⟩ :=
    resume_continues 8 8 (by decide) (by decide) 8 8 blinked _
    (by decide +kernel) ran b member e resumed
  rw [life, id] at front held level
  exact ⟨b, member, m, n, by rw [resumed, Option.map_some, id], given, front, held,
    level attached lives clean⟩

def idled : List SiteEvent :=
  [.subscribe, .connect] ++ publishes ++ publishes ++
    [.turn 1 0 false, .read, .read, .take 0, .take 0, .take 0, .turn 1 15 false, .read, .leave 0,
      .resume 0, .connect, .turn 1 20 false, .read, .take 1, .take 1]

/-- The browser is given the second event again, and no resync. -/
theorem resume_replays :
    run step (new 8 8 (by decide) (by decide) 8 8) idled = some (watchedSite idled) ∧
      (watchedSite idled).browsers.map
          (fun b => b.resumed.map fun e => (e.life, e.source.eventId)) = [none, some (0, 2)] ∧
      (watchedSite idled).browsers.map (fun b => ringEvents (beforeResync b.given)) =
        [[], [(0, 2)]] ∧
      (watchedSite idled).browsers.map (fun b => b.given.map BrowserMessage.isResync) =
        [[true, false, false], [false, false]] := by
  refine ⟨run_eq_runD ?_, ?_, ?_, ?_⟩
  · decide +kernel
  · decide +kernel
  · decide +kernel
  · decide +kernel

end Site

end CaseSorter.Web
