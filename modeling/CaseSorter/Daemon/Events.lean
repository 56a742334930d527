import CaseSorter.Lib.Runs

/-! The bounded event ring of the daemon and its subscribers. A publication has two
sections: under the lock of the ring it takes the next id, is retained and takes the
subscribers of that moment; then it is offered to each of them. Publications, new
subscribers, drains and closings of different threads may come in any order. -/

namespace CaseSorter.Daemon

open CaseSorter.Runs

structure DaemonEvent where
  eventId : Nat
  type : String
  occurredAt : Nat
  generation : Nat
  operationId : Option Nat := none
  data : List (String × String) := []
  deriving DecidableEq, Repr

/-- What is published: an event without its id. -/
structure Publication where
  type : String
  generation : Nat
  occurredAt : Nat
  operationId : Option Nat := none
  data : List (String × String) := []
  deriving DecidableEq, Repr

/-- One bounded, non-blocking view of the ring. -/
structure Subscriber where
  capacity : Nat
  pending : List DaemonEvent
  overflowed : Bool
  closed : Bool
  deriving DecidableEq, Repr

namespace Subscriber

def new (capacity : Nat) : Subscriber := ⟨capacity, [], false, false⟩

def offer (s : Subscriber) (event : DaemonEvent) : Subscriber :=
  if s.closed then s
  else if s.capacity ≤ s.pending.length then { s with pending := [], overflowed := true }
  else { s with pending := s.pending ++ [event] }

def prime (s : Subscriber) (events : List DaemonEvent) : Subscriber :=
  if s.capacity < events.length then { s with overflowed := true }
  else { s with pending := s.pending ++ events }

def markOverflowed (s : Subscriber) : Subscriber := { s with overflowed := true, pending := [] }

def close (s : Subscriber) : Subscriber := { s with closed := true }

def drain (s : Subscriber) : List DaemonEvent × Subscriber :=
  if s.overflowed || s.closed then ([], s) else (s.pending, { s with pending := [] })

def live (s : Subscriber) : Bool := !s.closed && !s.overflowed

theorem offer_live {s : Subscriber} {event : DaemonEvent} (h : (s.offer event).live = true) :
    s.live = true := by
  unfold offer at h
  split_ifs at h
  · exact h
  · simp [live] at h
  · exact h

theorem offer_lost {s : Subscriber} (event : DaemonEvent) (lost : s.overflowed = true) :
    (s.offer event).overflowed = true := by
  unfold offer
  split_ifs
  · exact lost
  · rfl
  · exact lost

end Subscriber

structure EventRing where
  retention : Nat
  subscriberCapacity : Nat
  retained : List DaemonEvent
  subscribers : List Nat
  nextId : Nat
  retention_pos : 0 < retention
  capacity_pos : 0 < subscriberCapacity

namespace EventRing

def new (retention capacity : Nat) (retention_pos : 0 < retention) (capacity_pos : 0 < capacity) :
    EventRing where
  retention := retention
  subscriberCapacity := capacity
  retained := []
  subscribers := []
  nextId := 1
  retention_pos := retention_pos
  capacity_pos := capacity_pos

def eventOf (r : EventRing) (p : Publication) : DaemonEvent :=
  ⟨r.nextId, p.type, p.occurredAt, p.generation, p.operationId, p.data⟩

/-- The first section of `publish`. A full window gives up its oldest event. -/
def assign (r : EventRing) (p : Publication) : EventRing :=
  { r with
    nextId := r.nextId + 1
    retained := (r.retained ++ [r.eventOf p]).drop (r.retained.length + 1 - r.retention) }

def oldest (r : EventRing) : Nat := (r.retained.head?.map DaemonEvent.eventId).getD r.nextId

/-- The subscriber that `subscribe` makes, lost from the start where its cursor is not
in the window. -/
def subscriberFor (r : EventRing) (after : Option Nat) : Subscriber :=
  let subscriber := Subscriber.new r.subscriberCapacity
  match after with
  | none => subscriber
  | some cursor =>
    if r.nextId ≤ cursor ∨ cursor + 1 < r.oldest then subscriber.markOverflowed
    else subscriber.prime (r.retained.filter fun event => cursor < event.eventId)

end EventRing

/-- A subscriber with the cursor it came with, the id next to be assigned then, and what
it has drained. -/
structure Attached where
  subscriber : Subscriber
  after : Option Nat
  attachedAt : Nat
  drained : List DaemonEvent
  deriving DecidableEq, Repr

namespace Attached

/-- The id its stream is to begin with. -/
def first (a : Attached) : Nat :=
  match a.after with
  | some cursor => cursor + 1
  | none => a.attachedAt

def ids (a : Attached) : List Nat := a.drained.map DaemonEvent.eventId

def offer (a : Attached) (event : DaemonEvent) : Attached :=
  { a with subscriber := a.subscriber.offer event }

def drain (a : Attached) : Attached :=
  { a with subscriber := a.subscriber.drain.2, drained := a.drained ++ a.subscriber.drain.1 }

def close (a : Attached) : Attached := { a with subscriber := a.subscriber.close }

end Attached

/-- The ring, everyone who has ever subscribed, and the publications between their two
sections with the subscribers they have taken, oldest first. -/
structure EventBus where
  ring : EventRing
  attached : List Attached
  offering : List (DaemonEvent × List Nat)

/-- `close` leaves the ring in a section of its own, `unsubscribe`. -/
inductive BusEvent
  | publish (p : Publication)
  | offer (k : Nat)
  | subscribe (after : Option Nat)
  | drain (i : Nat)
  | close (i : Nat)
  | unsubscribe (i : Nat)
  deriving DecidableEq, Repr

namespace EventBus

def new (retention capacity : Nat) (retention_pos : 0 < retention) (capacity_pos : 0 < capacity) :
    EventBus := ⟨.new retention capacity retention_pos capacity_pos, [], []⟩

def offered (s : EventBus) (event : DaemonEvent) (subscribers : List Nat) : List Attached :=
  s.attached.mapIdx fun i a => if i ∈ subscribers then a.offer event else a

def step (s : EventBus) : BusEvent → Option EventBus
  | .publish p => some { s with
      ring := s.ring.assign p
      offering := s.offering ++ [(s.ring.eventOf p, s.ring.subscribers)] }
  | .offer k =>
    (s.offering[k]?).map fun (event, subscribers) => { s with
      attached := s.offered event subscribers
      offering := s.offering.eraseIdx k }
  | .subscribe after => some { s with
      ring := { s.ring with subscribers := s.ring.subscribers ++ [s.attached.length] }
      attached := s.attached ++ [⟨s.ring.subscriberFor after, after, s.ring.nextId, []⟩] }
  | .drain i => (s.attached[i]?).map fun a => { s with attached := s.attached.set i a.drain }
  | .close i => (s.attached[i]?).map fun a => { s with attached := s.attached.set i a.close }
  | .unsubscribe i =>
    (s.attached[i]?).bind fun a =>
      if a.subscriber.closed then
        some { s with ring := { s.ring with subscribers := s.ring.subscribers.filter (· ≠ i) } }
      else none

def overtakes (s : EventBus) (earlier later : DaemonEvent × List Nat) : Bool :=
  later.2.any fun i => earlier.2.contains i && (s.attached[i]?).any fun a => a.subscriber.live

/-- No publication is offered past an earlier one to a subscriber of both. -/
def Ordered (s : EventBus) : BusEvent → Prop
  | .offer k => ∀ later, s.offering[k]? = some later →
      ∀ earlier ∈ s.offering.take k, s.overtakes earlier later = false
  | _ => True

instance (s : EventBus) : (e : BusEvent) → Decidable (s.Ordered e)
  | .offer k =>
    match h : s.offering[k]? with
    | none => .isTrue (by simp [Ordered, h])
    | some later =>
      decidable_of_iff (∀ earlier ∈ s.offering.take k, s.overtakes earlier later = false)
        (by simp [Ordered, h])
  | .publish _ | .subscribe _ | .drain _ | .close _ | .unsubscribe _ => .isTrue trivial

def owed (s : EventBus) (i : Nat) : List Nat :=
  (s.offering.filter fun p => p.2.contains i).map fun p => p.1.eventId

end EventBus

namespace EventRing

def Window (r : EventRing) : Prop :=
  r.retained.length < r.nextId ∧
    r.retained.map DaemonEvent.eventId =
      List.range' (r.nextId - r.retained.length) r.retained.length

theorem Window.assign {r : EventRing} (h : r.Window) (p : Publication) : (r.assign p).Window := by
  obtain ⟨few, ids⟩ := h
  have all : (r.retained ++ [r.eventOf p]).map DaemonEvent.eventId =
      List.range' (r.nextId - r.retained.length) (r.retained.length + 1) := by
    rw [List.map_append, ids, List.range'_concat, Nat.one_mul]
    simp only [List.map_cons, List.map_nil, eventOf]
    congr 2
    omega
  refine ⟨?_, ?_⟩
  · simp only [EventRing.assign, List.length_drop, List.length_append, List.length_singleton]
    omega
  · simp only [EventRing.assign, List.map_drop, all, List.length_drop, List.length_append,
      List.length_singleton, List.drop_range']
    congr 1
    · omega

theorem Window.backlog {r : EventRing} (h : r.Window) {cursor : Nat} (current : cursor < r.nextId)
    (kept : r.oldest ≤ cursor + 1) :
    (r.retained.filter fun event => cursor < event.eventId).map DaemonEvent.eventId =
      List.range' (cursor + 1) (r.nextId - (cursor + 1)) := by
  obtain ⟨few, ids⟩ := h
  have begins : r.nextId - r.retained.length ≤ cursor + 1 := by
    cases held : r.retained with
    | nil =>
      simp only [oldest, held, List.head?_nil, Option.map_none, Option.getD_none] at kept
      omega
    | cons event rest =>
      rw [held, List.length_cons, List.range'_succ, List.map_cons, List.cons.injEq] at ids
      simp only [oldest, held, List.head?_cons, Option.map_some, Option.getD_some, ids.1] at kept
      simpa using kept
  have split : r.retained.map DaemonEvent.eventId =
      List.range' (r.nextId - r.retained.length) (cursor + 1 - (r.nextId - r.retained.length)) ++
        List.range' (cursor + 1) (r.nextId - (cursor + 1)) := by
    rw [ids, show r.retained.length = (cursor + 1 - (r.nextId - r.retained.length)) +
      (r.nextId - (cursor + 1)) by omega, ← List.range'_append]
    congr 2 <;> omega
  have filtered : (r.retained.filter fun event => cursor < event.eventId).map DaemonEvent.eventId =
      (r.retained.map DaemonEvent.eventId).filter (cursor < ·) := by
    rw [List.filter_map]
    rfl
  rw [filtered, split, List.filter_append, List.filter_eq_nil_iff.mpr, List.nil_append,
    List.filter_eq_self.mpr]
  · intro n member
    rw [List.mem_range'_1] at member
    exact decide_eq_true member.1
  · intro n member
    rw [List.mem_range'_1] at member
    simp only [decide_eq_true_eq, Nat.not_lt]
    omega

end EventRing

/-- What it has drained is a run from its first id; what waits for it and what it is owed
follow without a gap, as long as it is live. -/
structure Attached.Fed (nextId : Nat) (owed : List Nat) (a : Attached) : Prop where
  run : a.ids = List.range' a.first a.drained.length
  live : a.subscriber.live = true → a.first ≤ nextId ∧
    a.ids ++ a.subscriber.pending.map DaemonEvent.eventId ++ owed =
      List.range' a.first (nextId - a.first)

namespace Attached

variable {nextId : Nat} {owed : List Nat} {a : Attached}

theorem Fed.lost {b : Attached} (h : a.Fed nextId owed) (first : b.first = a.first)
    (drained : b.drained = a.drained) (lost : b.subscriber.live = false) {nextId' : Nat}
    {owed' : List Nat} : b.Fed nextId' owed' := by
  refine ⟨?_, fun live => ?_⟩
  · rw [ids, drained, first]
    exact h.run
  · rw [lost] at live
    cases live

theorem Fed.assigned (h : a.Fed nextId owed) : a.Fed (nextId + 1) (owed ++ [nextId]) := by
  refine ⟨h.run, fun live => ?_⟩
  obtain ⟨begun, complete⟩ := h.live live
  refine ⟨Nat.le_succ_of_le begun, ?_⟩
  rw [← List.append_assoc, complete, show nextId + 1 - a.first = nextId - a.first + 1 by omega,
    List.range'_concat, Nat.one_mul]
  congr 2
  omega

theorem Fed.offered {event : DaemonEvent} (h : a.Fed nextId (event.eventId :: owed)) :
    (a.offer event).Fed nextId owed := by
  by_cases closed : a.subscriber.closed = true
  · refine Fed.lost (b := a.offer event) h rfl rfl ?_
    simp [Attached.offer, Subscriber.offer, closed, Subscriber.live]
  by_cases full : a.subscriber.capacity ≤ a.subscriber.pending.length
  · refine Fed.lost (b := a.offer event) h rfl rfl ?_
    simp [Attached.offer, Subscriber.offer, closed, full, Subscriber.live]
  refine ⟨h.run, fun live => ?_⟩
  have kept : (a.offer event).subscriber =
      { a.subscriber with pending := a.subscriber.pending ++ [event] } := by
    simp [Attached.offer, Subscriber.offer, closed, full]
  rw [kept] at live ⊢
  obtain ⟨begun, complete⟩ := h.live live
  refine ⟨begun, ?_⟩
  have same : (a.offer event).ids = a.ids := rfl
  rw [same, List.map_append, List.map_singleton, List.append_assoc, List.append_assoc,
    List.singleton_append, ← List.append_assoc]
  exact complete

theorem Fed.taken (h : a.Fed nextId owed) : a.drain.Fed nextId owed := by
  by_cases live : a.subscriber.live = true
  · obtain ⟨begun, complete⟩ := h.live live
    have given :
        a.subscriber.drain = (a.subscriber.pending, { a.subscriber with pending := [] }) := by
      simp only [Subscriber.live, Bool.and_eq_true, Bool.not_eq_true'] at live
      simp [Subscriber.drain, live]
    have ids : a.drain.ids = a.ids ++ a.subscriber.pending.map DaemonEvent.eventId := by
      rw [Attached.ids, Attached.drain, given, List.map_append]
      rfl
    refine ⟨?_, fun _ => ⟨begun, ?_⟩⟩
    · obtain ⟨n, -, front, -⟩ := List.range'_eq_append_iff.mp complete.symm
      have length : a.drain.drained.length = n := by
        rw [← List.length_map DaemonEvent.eventId,
          show a.drain.drained.map _ = a.drain.ids from rfl, ids, front, List.length_range']
      rw [length, ids, front]
      rfl
    · have rest : a.drain.subscriber.pending = [] := by rw [Attached.drain, given]
      rw [rest, List.map_nil, List.append_nil, ids]
      exact complete
  · have nothing : a.subscriber.drain = ([], a.subscriber) := by
      simp only [Subscriber.live, Bool.and_eq_true, Bool.not_eq_true', not_and, Bool.not_eq_false]
        at live
      simp only [Subscriber.drain, Bool.or_eq_true]
      rw [if_pos]
      by_cases closed : a.subscriber.closed = true
      · exact .inr closed
      · exact .inl (live (by simpa using closed))
    have same : a.drain = a := by
      rw [Attached.drain, nothing, List.append_nil]
    rw [same]
    exact h

theorem fed_new {r : EventRing} (window : r.Window) (after : Option Nat) :
    Attached.Fed r.nextId [] ⟨r.subscriberFor after, after, r.nextId, []⟩ := by
  refine ⟨rfl, fun live => ?_⟩
  cases after with
  | none =>
    refine ⟨Nat.le_refl _, ?_⟩
    simp [Attached.ids, EventRing.subscriberFor, Subscriber.new, Attached.first]
  | some cursor =>
    simp only [EventRing.subscriberFor] at live ⊢
    by_cases outside : r.nextId ≤ cursor ∨ cursor + 1 < r.oldest
    · simp [if_pos outside, Subscriber.markOverflowed, Subscriber.live] at live
    rw [if_neg outside] at live ⊢
    by_cases many : r.subscriberCapacity <
        (r.retained.filter fun event => cursor < event.eventId).length
    · simp [Subscriber.prime, Subscriber.new, Subscriber.live, many] at live
    have inside : cursor < r.nextId ∧ r.oldest ≤ cursor + 1 := by omega
    refine ⟨inside.1, ?_⟩
    have primed : ((Subscriber.new r.subscriberCapacity).prime
        (r.retained.filter fun event => cursor < event.eventId)).pending =
          r.retained.filter fun event => cursor < event.eventId := by
      rw [Subscriber.prime, Subscriber.new, if_neg many, List.nil_append]
    rw [primed, List.append_nil]
    exact window.backlog inside.1 inside.2

end Attached

structure EventBus.Delivers (s : EventBus) : Prop where
  window : s.ring.Window
  fed : ∀ (i : Nat) (a : Attached), s.attached[i]? = some a → a.Fed s.ring.nextId (s.owed i)
  joined : ∀ (i : Nat) (a : Attached), s.attached[i]? = some a → a.subscriber.live = true →
    i ∈ s.ring.subscribers
  known : ∀ i ∈ s.ring.subscribers, i < s.attached.length
  taken : ∀ p ∈ s.offering, ∀ i ∈ p.2, i < s.attached.length

namespace EventBus

variable {s t : EventBus}

theorem owed_eraseIdx {k i : Nat} {p : DaemonEvent × List Nat} (at_k : s.offering[k]? = some p)
    (first : i ∈ p.2 → ∀ earlier ∈ s.offering.take k, i ∉ earlier.2) :
    s.owed i = (if i ∈ p.2 then [p.1.eventId] else []) ++
      ((s.offering.eraseIdx k).filter fun q => q.2.contains i).map fun q => q.1.eventId := by
  obtain ⟨bound, value⟩ := List.getElem?_eq_some_iff.mp at_k
  have split : s.offering = s.offering.take k ++ p :: s.offering.drop (k + 1) := by
    rw [← value, ← List.drop_eq_getElem_cons bound, List.take_append_drop]
  rw [owed, List.eraseIdx_eq_take_drop_succ]
  conv_lhs => rw [split]
  rw [List.filter_append, List.filter_append, List.map_append, List.map_append]
  by_cases member : i ∈ p.2
  · have none' : (s.offering.take k).filter (fun q => q.2.contains i) = [] := by
      rw [List.filter_eq_nil_iff]
      intro q before
      simpa using first member q before
    rw [none', if_pos member, List.filter_cons_of_pos (by simpa using member)]
    rfl
  · rw [if_neg member, List.filter_cons_of_neg (by simpa using member)]
    rfl

theorem delivers_publish (h : s.Delivers) {p : Publication}
    (stepped : s.step (.publish p) = some t) :
    t.Delivers := by
  cases stepped
  have owes : ∀ i, EventBus.owed { s with
      ring := s.ring.assign p
      offering := s.offering ++ [(s.ring.eventOf p, s.ring.subscribers)] } i =
        s.owed i ++ if i ∈ s.ring.subscribers then [s.ring.nextId] else [] := by
    intro i
    simp only [EventBus.owed, List.filter_append, List.map_append]
    by_cases member : i ∈ s.ring.subscribers
    · rw [List.filter_cons_of_pos (by simpa using member), if_pos member]
      rfl
    · rw [List.filter_cons_of_neg (by simpa using member), if_neg member]
      rfl
  refine ⟨h.window.assign p, fun i a at_i => ?_, h.joined, h.known, fun q member => ?_⟩
  · rw [owes i]
    by_cases live : a.subscriber.live = true
    · rw [if_pos (h.joined i a at_i live)]
      exact (h.fed i a at_i).assigned
    · exact (h.fed i a at_i).lost rfl rfl (by simpa using live)
  · rcases List.mem_append.mp member with old | new
    · exact h.taken q old
    · cases List.mem_singleton.mp new
      exact h.known

theorem delivers_offer (h : s.Delivers) {k : Nat} (ordered : s.Ordered (.offer k))
    (stepped : s.step (.offer k) = some t) : t.Delivers := by
  simp only [step, Option.map_eq_some_iff] at stepped
  obtain ⟨⟨event, subscribers⟩, at_k, rfl⟩ := stepped
  have length : (s.offered event subscribers).length = s.attached.length := List.length_mapIdx
  have at_i : ∀ (i : Nat) (b : Attached), (s.offered event subscribers)[i]? = some b →
      ∃ a, s.attached[i]? = some a ∧ b = if i ∈ subscribers then a.offer event else a := by
    intro i b found
    rw [offered, List.getElem?_mapIdx, Option.map_eq_some_iff] at found
    obtain ⟨a, at_i, rfl⟩ := found
    exact ⟨a, at_i, rfl⟩
  refine ⟨h.window, fun i b found => ?_, fun i b found live => ?_, fun i member => ?_,
    fun q member i into => ?_⟩
  · obtain ⟨a, at_i, rfl⟩ := at_i i b found
    have fed := h.fed i a at_i
    by_cases live : a.subscriber.live = true
    · have owes := owed_eraseIdx (i := i) at_k fun member earlier before into => by
        have order := ordered (event, subscribers) at_k earlier before
        rw [overtakes, List.any_eq_false] at order
        have overtaken := order i member
        simp [into, at_i, live] at overtaken
      rw [owes] at fed
      by_cases member : i ∈ subscribers
      · rw [if_pos member] at fed ⊢
        exact fed.offered
      · rw [if_neg member] at fed ⊢
        exact fed
    · refine fed.lost ?_ ?_ ?_
      · split_ifs <;> rfl
      · split_ifs <;> rfl
      · split_ifs
        · exact Bool.eq_false_iff.mpr fun alive => live (Subscriber.offer_live alive)
        · simpa using live
  · obtain ⟨a, at_i, rfl⟩ := at_i i b found
    refine h.joined i a at_i ?_
    split_ifs at live
    · exact Subscriber.offer_live live
    · exact live
  · rw [length]
    exact h.known i member
  · rw [length]
    exact h.taken q (List.mem_of_mem_eraseIdx member) i into

theorem delivers_subscribe (h : s.Delivers) {after : Option Nat}
    (stepped : s.step (.subscribe after) = some t) : t.Delivers := by
  cases stepped
  have unowed : s.owed s.attached.length = [] := by
    rw [owed, List.filter_eq_nil_iff.mpr, List.map_nil]
    intro q member
    simp only [List.contains_iff_mem]
    exact fun into => Nat.lt_irrefl _ (h.taken q member _ into)
  refine ⟨h.window, fun i a found => ?_, fun i a found live => ?_, fun i member => ?_,
    fun q member i into => ?_⟩
  · rw [List.getElem?_append] at found
    split_ifs at found with old
    · exact h.fed i a found
    · obtain ⟨bound, rfl⟩ := List.getElem?_eq_some_iff.mp found
      rw [List.length_singleton] at bound
      have last : i = s.attached.length := by omega
      subst last
      rw [List.getElem_singleton]
      show Attached.Fed s.ring.nextId (s.owed s.attached.length) _
      rw [unowed]
      exact Attached.fed_new h.window after
  · rw [List.getElem?_append] at found
    split_ifs at found with old
    · exact List.mem_append_left _ (h.joined i a found live)
    · obtain ⟨bound, -⟩ := List.getElem?_eq_some_iff.mp found
      rw [List.length_singleton] at bound
      have last : i = s.attached.length := by omega
      exact List.mem_append_right _ (List.mem_singleton.mpr last)
  · rw [List.length_append, List.length_singleton]
    rcases List.mem_append.mp member with old | new
    · exact Nat.lt_succ_of_lt (h.known i old)
    · rw [List.mem_singleton.mp new]
      exact Nat.lt_succ_self _
  · rw [List.length_append, List.length_singleton]
    exact Nat.lt_succ_of_lt (h.taken q member i into)

theorem delivers_new (retention capacity : Nat) (retention_pos : 0 < retention)
    (capacity_pos : 0 < capacity) :
    (new retention capacity retention_pos capacity_pos).Delivers := by
  refine ⟨⟨Nat.zero_lt_one, rfl⟩, fun i a found => ?_, fun i a found => ?_,
    fun i member => ?_, fun q member => ?_⟩
  · cases found
  · cases found
  · cases member
  · cases member

theorem delivers_set (h : s.Delivers) {i : Nat} {a b : Attached} (at_i : s.attached[i]? = some a)
    (fed : b.Fed s.ring.nextId (s.owed i))
    (live : b.subscriber.live = true → a.subscriber.live = true) :
    EventBus.Delivers { s with attached := s.attached.set i b } := by
  have found : ∀ (j : Nat) (c : Attached), (s.attached.set i b)[j]? = some c →
      (j = i ∧ c = b) ∨ s.attached[j]? = some c := by
    intro j c is
    rw [List.getElem?_set] at is
    split_ifs at is with same bound
    · exact .inl ⟨same.symm, (Option.some.inj is).symm⟩
    · exact .inr is
  refine ⟨h.window, fun j c is => ?_, fun j c is alive => ?_, fun j member => ?_,
    fun q member j into => ?_⟩
  · rcases found j c is with ⟨rfl, rfl⟩ | old
    · exact fed
    · exact h.fed j c old
  · rcases found j c is with ⟨rfl, rfl⟩ | old
    · exact h.joined j a at_i (live alive)
    · exact h.joined j c old alive
  · rw [List.length_set]
    exact h.known j member
  · rw [List.length_set]
    exact h.taken q member j into

theorem delivers_step {e : BusEvent} (h : s.Delivers) (ordered : s.Ordered e)
    (stepped : s.step e = some t) : t.Delivers := by
  cases e with
  | publish p => exact delivers_publish h stepped
  | offer k => exact delivers_offer h ordered stepped
  | subscribe after => exact delivers_subscribe h stepped
  | drain i =>
    simp only [step, Option.map_eq_some_iff] at stepped
    obtain ⟨a, at_i, rfl⟩ := stepped
    refine delivers_set h at_i (h.fed i a at_i).taken fun live => ?_
    simp only [Attached.drain, Subscriber.drain] at live
    split_ifs at live <;> exact live
  | close i =>
    simp only [step, Option.map_eq_some_iff] at stepped
    obtain ⟨a, at_i, rfl⟩ := stepped
    refine delivers_set h at_i ((h.fed i a at_i).lost (b := a.close) rfl rfl rfl) fun live => ?_
    cases live
  | unsubscribe i =>
    simp only [step, Option.bind_eq_some_iff] at stepped
    obtain ⟨a, at_i, left⟩ := stepped
    split_ifs at left with closed
    cases left
    refine ⟨h.window, h.fed, fun j c is live => ?_, fun j member => ?_, h.taken⟩
    · refine List.mem_filter.mpr ⟨h.joined j c is live, ?_⟩
      simp only [decide_eq_true_eq, ne_eq]
      rintro rfl
      cases at_i.symm.trans is
      simp [Subscriber.live, closed] at live
    · exact h.known j (List.mem_filter.mp member).1

theorem kept_step {e : BusEvent} {i : Nat} {a : Attached} (at_i : s.attached[i]? = some a)
    (stepped : s.step e = some t) :
    ∃ b, t.attached[i]? = some b ∧ b.first = a.first ∧
      (a.subscriber.overflowed = true → b.subscriber.overflowed = true) ∧
      (e ≠ .drain i ∨ a.subscriber.overflowed = true → b.drained = a.drained) := by
  obtain ⟨bound, -⟩ := List.getElem?_eq_some_iff.mp at_i
  have set : ∀ (j : Nat) (c b : Attached), s.attached[j]? = some c →
      (j = i → b.first = a.first ∧
        (a.subscriber.overflowed = true → b.subscriber.overflowed = true) ∧
        (e ≠ .drain i ∨ a.subscriber.overflowed = true → b.drained = a.drained)) →
      ∃ b', (s.attached.set j b)[i]? = some b' ∧ b'.first = a.first ∧
        (a.subscriber.overflowed = true → b'.subscriber.overflowed = true) ∧
        (e ≠ .drain i ∨ a.subscriber.overflowed = true → b'.drained = a.drained) := by
    intro j c b at_j kept
    rw [List.getElem?_set]
    by_cases same : j = i
    · rw [if_pos same, if_pos (same ▸ bound)]
      exact ⟨b, rfl, kept same⟩
    · rw [if_neg same]
      exact ⟨a, at_i, rfl, id, fun _ => rfl⟩
  cases e with
  | publish p =>
    cases stepped
    exact ⟨a, at_i, rfl, id, fun _ => rfl⟩
  | offer k =>
    simp only [step, Option.map_eq_some_iff] at stepped
    obtain ⟨⟨event, subscribers⟩, -, rfl⟩ := stepped
    refine ⟨if i ∈ subscribers then a.offer event else a, ?_, ?_, fun lost => ?_, fun _ => ?_⟩
    · show (s.offered event subscribers)[i]? = _
      rw [offered, List.getElem?_mapIdx, at_i]
      rfl
    · split_ifs <;> rfl
    · split_ifs
      · exact Subscriber.offer_lost event lost
      · exact lost
    · split_ifs <;> rfl
  | subscribe after =>
    cases stepped
    refine ⟨a, ?_, rfl, id, fun _ => rfl⟩
    show (s.attached ++ _)[i]? = _
    rw [List.getElem?_append_left bound]
    exact at_i
  | drain j =>
    simp only [step, Option.map_eq_some_iff] at stepped
    obtain ⟨c, at_j, rfl⟩ := stepped
    refine set j c c.drain at_j ?_
    rintro rfl
    cases at_i.symm.trans at_j
    refine ⟨rfl, fun lost => ?_, fun drains => ?_⟩
    · simp [Attached.drain, Subscriber.drain, lost]
    · have lost := drains.resolve_left fun other => other rfl
      simp [Attached.drain, Subscriber.drain, lost]
  | close j =>
    simp only [step, Option.map_eq_some_iff] at stepped
    obtain ⟨c, at_j, rfl⟩ := stepped
    refine set j c c.close at_j ?_
    rintro rfl
    cases at_i.symm.trans at_j
    exact ⟨rfl, id, fun _ => rfl⟩
  | unsubscribe j =>
    simp only [step, Option.bind_eq_some_iff] at stepped
    obtain ⟨c, -, left⟩ := stepped
    split_ifs at left
    cases left
    exact ⟨a, at_i, rfl, id, fun _ => rfl⟩

theorem lost_step {e : BusEvent} {i : Nat} {a : Attached} (at_i : s.attached[i]? = some a)
    (lost : a.subscriber.overflowed = true) (stepped : s.step e = some t) :
    ∃ b, t.attached[i]? = some b ∧ b.subscriber.overflowed = true ∧
      b.drained = a.drained := by
  obtain ⟨b, at_t, -, still, same⟩ := kept_step at_i stepped
  exact ⟨b, at_t, still lost, same (.inr lost)⟩

theorem lost_run {es : List BusEvent} {i : Nat} {a : Attached} (at_i : s.attached[i]? = some a)
    (lost : a.subscriber.overflowed = true) (ran : run step s es = some t) :
    ∃ b, t.attached[i]? = some b ∧ b.subscriber.overflowed = true ∧
      b.drained = a.drained := by
  induction es generalizing s a with
  | nil =>
    cases ran
    exact ⟨a, at_i, lost, rfl⟩
  | cons e es ih =>
    obtain ⟨u, stepped, rest⟩ := run_cons_eq_some.mp ran
    obtain ⟨b, at_u, still, same⟩ := lost_step at_i lost stepped
    obtain ⟨c, at_t, end', whole⟩ := ih at_u still rest
    exact ⟨c, at_t, end', whole.trans same⟩

/-- While no publication is offered past an earlier one, what a subscriber drains is a run
of ids without a gap from the one after its cursor, or the first assigned since it came;
once it has overflowed it drains nothing more and says so. -/
theorem subscriber_drainsRun (retention capacity : Nat) (retention_pos : 0 < retention)
    (capacity_pos : 0 < capacity) (es : List BusEvent) (s : EventBus)
    (ordered : Meets step Ordered (new retention capacity retention_pos capacity_pos) es)
    (reached : run step (new retention capacity retention_pos capacity_pos) es = some s)
    (i : Nat) (a : Attached) (at_i : s.attached[i]? = some a) :
    a.ids = List.range' a.first a.drained.length ∧
      (a.subscriber.overflowed = true → ∀ rest t, run step s rest = some t →
        ∃ b, t.attached[i]? = some b ∧ b.subscriber.overflowed = true ∧
          b.drained = a.drained) := by
  have delivers := run_invariant (fun _ _ _ => delivers_step)
    (delivers_new retention capacity retention_pos capacity_pos) ordered reached
  exact ⟨(delivers.fed i a at_i).run, fun lost rest t ran => lost_run at_i lost ran⟩

def subscribedBus : List BusEvent → EventBus :=
  runD step (new 2 2 (by decide) (by decide))

def accepted (generation : Nat) : BusEvent :=
  .publish ⟨"operation.accepted", generation, 0, none, []⟩

def inTurn : List BusEvent :=
  [.subscribe none, accepted 2, accepted 3, .offer 0, .offer 0, .drain 0,
    .subscribe (some 1), .drain 1]

theorem subscriber_drainsRun_inTurn :
    ∃ a b, (subscribedBus inTurn).attached = [a, b] ∧ a.ids = [1, 2] ∧ b.ids = [2] := by
  have ran : run step (new 2 2 (by decide) (by decide)) inTurn = some (subscribedBus inTurn) :=
    run_eq_runD (by decide +kernel)
  have both : (subscribedBus inTurn).attached.length = 2 := by decide +kernel
  obtain ⟨a, b, is⟩ := List.length_eq_two.mp both
  have first := (subscriber_drainsRun 2 2 (by decide) (by decide) inTurn _ (by decide +kernel) ran
    0 a (by rw [is]; rfl)).1
  have second := (subscriber_drainsRun 2 2 (by decide) (by decide) inTurn _ (by decide +kernel) ran
    1 b (by rw [is]; rfl)).1
  have shape : (subscribedBus inTurn).attached.map (fun a => (a.first, a.drained.length)) =
      [(1, 2), (2, 1)] := by decide +kernel
  rw [is] at shape
  simp only [List.map_cons, List.map_nil, List.cons.injEq, Prod.mk.injEq, and_true] at shape
  obtain ⟨⟨from_a, count_a⟩, from_b, count_b⟩ := shape
  rw [from_a, count_a] at first
  rw [from_b, count_b] at second
  exact ⟨a, b, is, first, second⟩

def overtaken : List BusEvent :=
  [.subscribe none, accepted 2, accepted 3, .offer 1, .offer 0, .drain 0]

theorem subscriber_drainsBackwards :
    run step (new 2 2 (by decide) (by decide)) overtaken = some (subscribedBus overtaken) ∧
      (subscribedBus overtaken).attached.map Attached.ids = [[2, 1]] ∧
      (subscribedBus overtaken).attached.map (fun a => a.subscriber.overflowed) = [false] := by
  refine ⟨run_eq_runD ?_, ?_, ?_⟩
  · decide +kernel
  · decide +kernel
  · decide +kernel

end EventBus

end CaseSorter.Daemon
