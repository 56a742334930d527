import CaseSorter.Web.Broadcast

/-! One browser's backlog and the generator that drains it. Beside what is delivered stands
where it comes from: the place of an offered message, or nothing for an overflow resync of the
backlog's own. The places count up, and where they jump a resync fills the gap. -/

namespace CaseSorter.Web

open CaseSorter.Runs

/-- Where the generator of `drain` stands: before the next turn of its loop, at the promise of its
`#wake`, resolved or not, or past its end. -/
inductive DrainPoint
  | yielded
  | waiting (woken : Bool)
  | done
  deriving DecidableEq, Repr

/-- The backlog and its generator; what was offered before the close and what has been delivered,
and from which place each queued and each delivered message comes. -/
structure Drain where
  backlog : Backlog
  point : DrainPoint
  offered : List BrowserMessage
  delivered : List BrowserMessage
  queued : List (Option Nat)
  given : List (Option Nat)
  deriving DecidableEq, Repr

namespace Drain

def new (limit : Nat) : Drain := ⟨⟨limit, [], false⟩, .yielded, [], [], [], []⟩

/-- `#signal`. -/
def signal (d : Drain) : Drain :=
  { d with point := if d.point = .waiting false then .waiting true else d.point }

def offer (d : Drain) (message : BrowserMessage) : Drain :=
  if d.backlog.closed then d
  else
    { d with
      backlog := d.backlog.offer message
      offered := d.offered ++ [message]
      queued := if d.backlog.limit ≤ d.backlog.queue.length then [none]
        else d.queued ++ [some d.offered.length] }.signal

def close (d : Drain) : Drain := { d with backlog := d.backlog.close }.signal

/-- The loop of `drain` up to its next `yield` or `await`, or to its end. -/
def turn (d : Drain) : Drain :=
  match d.backlog.queue with
  | message :: rest =>
    { d with
      backlog := { d.backlog with queue := rest }
      point := .yielded
      delivered := d.delivered ++ [message]
      queued := d.queued.tail
      given := d.given ++ d.queued.take 1 }
  | [] => { d with point := if d.backlog.closed then .done else .waiting false }

end Drain

/-- `next` is the consumer's, `resume` the continuation of a resolved promise; `leave` ends the
generator at its `yield` and closes the subscriber, as `subscribe` does. -/
inductive DrainEvent
  | offer (message : BrowserMessage)
  | close
  | next
  | resume
  | leave
  deriving DecidableEq, Repr

def Drain.step (d : Drain) : DrainEvent → Option Drain
  | .offer message => some (d.offer message)
  | .close => some d.close
  | .next => if d.point = .yielded then some d.turn else none
  | .resume => if d.point = .waiting true then some d.turn else none
  | .leave => if d.point = .yielded then some { d.close with point := .done } else none

/-- The places account for those from `first` to before `last`: each once and in order, with a
resync for each gap. -/
def Accounts (first : Nat) : List (Option Nat) → Nat → Prop
  | [], last => first = last
  | some k :: places, last => k = first ∧ Accounts (first + 1) places last
  | none :: places, last => ∃ next, first < next ∧ Accounts next places last

theorem accounts_le {places : List (Option Nat)} {first last : Nat}
    (h : Accounts first places last) : first ≤ last := by
  induction places generalizing first with
  | nil => exact Nat.le_of_eq h
  | cons place places ih =>
    cases place with
    | none =>
      obtain ⟨next, later, rest⟩ := h
      exact Nat.le_trans (Nat.le_of_lt later) (ih rest)
    | some k => exact Nat.le_of_succ_le (ih h.2)

theorem accounts_append {places more : List (Option Nat)} {first middle last : Nat}
    (h : Accounts first places middle) (h' : Accounts middle more last) :
    Accounts first (places ++ more) last := by
  induction places generalizing first with
  | nil =>
    cases h
    exact h'
  | cons place places ih =>
    cases place with
    | none =>
      obtain ⟨next, later, rest⟩ := h
      exact ⟨next, later, ih rest⟩
    | some k => exact ⟨h.1, ih h.2⟩

theorem accounts_bounds {places : List (Option Nat)} {first last : Nat}
    (h : Accounts first places last) {k : Nat} (member : some k ∈ places) :
    first ≤ k ∧ k < last := by
  induction places generalizing first with
  | nil => cases member
  | cons place places ih =>
    cases place with
    | none =>
      obtain ⟨next, later, rest⟩ := h
      have bounds := ih rest (by simpa using member)
      omega
    | some j =>
      obtain ⟨rfl, rest⟩ := h
      rcases List.mem_cons.mp member with same | member
      · cases same
        exact ⟨Nat.le_refl _, accounts_le rest⟩
      · have bounds := ih rest member
        omega

theorem accounts_sorted {places : List (Option Nat)} {first last : Nat}
    (h : Accounts first places last) : (places.filterMap id : List Nat).Pairwise (· < ·) := by
  induction places generalizing first with
  | nil => exact .nil
  | cons place places ih =>
    cases place with
    | none =>
      obtain ⟨next, -, rest⟩ := h
      exact ih rest
    | some k =>
      obtain ⟨rfl, rest⟩ := h
      refine List.Pairwise.cons (fun j member => ?_) (ih rest)
      obtain ⟨place, member, same⟩ := List.mem_filterMap.mp member
      have same : place = some j := same
      exact (accounts_bounds rest (same ▸ member)).1

theorem accounts_gap {places : List (Option Nat)} {first last : Nat}
    (h : Accounts first places last) {k : Nat} (above : first ≤ k) (below : k < last)
    (missing : some k ∉ places) :
    ∃ i : Nat, places[i]? = some none ∧ ∀ j m : Nat, places[j]? = some (some m) →
      (m < k → j < i) ∧ (k < m → i < j) := by
  induction places generalizing first with
  | nil =>
    cases h
    omega
  | cons place places ih =>
    -- what follows of a resync found further on
    have shift :
        (∃ i : Nat, places[i]? = some none ∧ ∀ j m : Nat, places[j]? = some (some m) →
            (m < k → j < i) ∧ (k < m → i < j)) → (∀ m, place = some m → m < k) →
          ∃ i : Nat, (place :: places)[i]? = some none ∧
            ∀ j m : Nat, (place :: places)[j]? = some (some m) →
              (m < k → j < i) ∧ (k < m → i < j) := by
      rintro ⟨i, resync, between⟩ smaller
      refine ⟨i + 1, by simpa using resync, fun j m found => ?_⟩
      cases j with
      | zero =>
        have less := smaller m (by simpa using found)
        omega
      | succ j =>
        have inner := between j m (by simpa using found)
        omega
    have rest_missing : some k ∉ places := fun member => missing (List.mem_cons_of_mem _ member)
    cases place with
    | some m =>
      obtain ⟨rfl, rest⟩ := h
      have other : m ≠ k := fun same => missing (by simp [same])
      refine shift (ih rest (by omega) rest_missing) fun m' same => ?_
      cases same
      omega
    | none =>
      obtain ⟨next, later, rest⟩ := h
      by_cases inGap : k < next
      · refine ⟨0, rfl, fun j m found => ?_⟩
        cases j with
        | zero => simp at found
        | succ j =>
          have member : some m ∈ places := List.mem_of_getElem? (by simpa using found)
          have bounds := accounts_bounds rest member
          omega
      · exact shift (ih rest (by omega) rest_missing) fun m same => (by cases same)

/-- What the message of a place is. -/
def placed (offered : List BrowserMessage) : Option Nat → Option BrowserMessage
  | none => some (.resync .overflow)
  | some k => offered[k]?

theorem placed_append {offered more : List BrowserMessage} {place : Option Nat}
    (within : ∀ k, place = some k → k < offered.length) :
    placed (offered ++ more) place = placed offered place := by
  cases place with
  | none => rfl
  | some k => exact List.getElem?_append_left (within k rfl)

theorem map_placed_append {offered more : List BrowserMessage} {places : List (Option Nat)}
    (within : ∀ k, some k ∈ places → k < offered.length) :
    places.map (placed (offered ++ more)) = places.map (placed offered) := by
  refine List.map_congr_left fun place member => placed_append fun k same => ?_
  exact within k (same ▸ member)

structure Drained (n : Nat) (d : Drain) : Prop where
  limit : d.backlog.limit = n
  room : d.backlog.queue.length ≤ n
  queue : d.backlog.queue.map some = d.queued.map (placed d.offered)
  delivered : d.delivered.map some = d.given.map (placed d.offered)
  accounts : ∃ middle, Accounts 0 d.given middle ∧ Accounts middle d.queued d.offered.length
  sleeps : d.point = .waiting false → d.backlog.queue = [] ∧ d.backlog.closed = false

namespace Drained

variable {n : Nat} {d : Drain}

theorem new (n : Nat) : Drained n (.new n) :=
  ⟨rfl, Nat.zero_le _, rfl, rfl, ⟨0, rfl, rfl⟩, fun asleep => (by cases asleep)⟩

theorem signal_awake (d : Drain) : d.signal.point ≠ .waiting false := by
  unfold Drain.signal
  dsimp only
  split_ifs with asleep
  · decide
  · exact asleep

theorem offer (h : Drained n d) (pos : 1 ≤ n) (message : BrowserMessage) :
    Drained n (d.offer message) := by
  obtain ⟨middle, given, queued⟩ := h.accounts
  have inGiven : ∀ k, some k ∈ d.given → k < d.offered.length := fun k member =>
    Nat.lt_of_lt_of_le (accounts_bounds given member).2 (accounts_le queued)
  have inQueued : ∀ k, some k ∈ d.queued → k < d.offered.length := fun k member =>
    (accounts_bounds queued member).2
  have delivered : d.delivered.map some = d.given.map (placed (d.offered ++ [message])) :=
    h.delivered.trans (map_placed_append inGiven).symm
  have lengths : (d.offered ++ [message]).length = d.offered.length + 1 := by simp
  unfold Drain.offer
  split_ifs with closed full
  · exact h
  · -- the backlog and the message are one gap
    have backlog : d.backlog.offer message = { d.backlog with queue := [.resync .overflow] } := by
      simp [Backlog.offer, closed, full]
    refine ⟨?_, ?_, ?_, delivered, ⟨middle, given, ?_⟩,
      fun asleep => absurd asleep (signal_awake _)⟩
    · simpa [backlog, Drain.signal] using h.limit
    · simpa [backlog, Drain.signal] using pos
    · simp [backlog, Drain.signal, placed]
    · exact ⟨_, Nat.lt_succ_of_le (accounts_le queued), lengths.symm⟩
  · have backlog : d.backlog.offer message =
        { d.backlog with queue := d.backlog.queue ++ [message] } := by
      simp [Backlog.offer, closed, full]
    refine ⟨?_, ?_, ?_, delivered, ⟨middle, given, ?_⟩,
      fun asleep => absurd asleep (signal_awake _)⟩
    · simpa [backlog, Drain.signal] using h.limit
    · have room : d.backlog.queue.length < n := h.limit ▸ Nat.lt_of_not_le full
      simpa [backlog, Drain.signal] using Nat.succ_le_of_lt room
    · simp [backlog, Drain.signal, h.queue, map_placed_append inQueued, placed]
    · exact accounts_append queued ⟨rfl, lengths.symm⟩

theorem close (h : Drained n d) : Drained n d.close :=
  ⟨h.limit, h.room, h.queue, h.delivered, h.accounts,
    fun asleep => absurd asleep (signal_awake _)⟩

theorem turn (h : Drained n d) : Drained n d.turn := by
  unfold Drain.turn
  have same := h.queue
  have room := h.room
  cases queue : d.backlog.queue with
  | nil =>
    refine ⟨h.limit, h.room, h.queue, h.delivered, h.accounts, fun asleep => ⟨queue, ?_⟩⟩
    dsimp only at asleep
    split_ifs at asleep with closed
    exact Bool.eq_false_iff.mpr closed
  | cons message rest =>
    rw [queue] at same room
    obtain ⟨middle, given, queued⟩ := h.accounts
    cases places : d.queued with
    | nil =>
      rw [places] at same
      cases same
    | cons place places' =>
      rw [places] at same queued
      obtain ⟨first, others⟩ := List.cons.inj same
      obtain ⟨next, head, tail⟩ : ∃ next, Accounts middle [place] next ∧
          Accounts next places' d.offered.length := by
        cases place with
        | none =>
          obtain ⟨next, later, tail⟩ := queued
          exact ⟨next, ⟨next, later, rfl⟩, tail⟩
        | some k => exact ⟨middle + 1, ⟨queued.1, rfl⟩, queued.2⟩
      refine ⟨h.limit, ?_, ?_, ?_, ⟨next, ?_, ?_⟩, fun asleep => (by cases asleep)⟩
      · exact Nat.le_trans (Nat.le_succ _) room
      · simpa [places] using others
      · simp [h.delivered, first]
      · simpa [places] using accounts_append given head
      · simpa [places] using tail

theorem step (h : Drained n d) (pos : 1 ≤ n) {e : DrainEvent} {t : Drain}
    (stepped : d.step e = some t) : Drained n t := by
  cases e with
  | offer message =>
    cases stepped
    exact h.offer pos message
  | close =>
    cases stepped
    exact h.close
  | next =>
    simp only [Drain.step] at stepped
    split_ifs at stepped
    cases stepped
    exact h.turn
  | resume =>
    simp only [Drain.step] at stepped
    split_ifs at stepped
    cases stepped
    exact h.turn
  | leave =>
    simp only [Drain.step] at stepped
    split_ifs at stepped
    cases stepped
    exact ⟨h.limit, h.room, h.queue, h.delivered, h.accounts, fun asleep => (by cases asleep)⟩

end Drained

/-- In every order of offers and turns the queue keeps to its limit, what is delivered was offered
in this order, and once the queue is empty every offered message that was not delivered lies where
an overflow resync was; a generator that sleeps has nothing to deliver. -/
theorem drain_noSilentGap (n : Nat) (pos : 1 ≤ n) (events : List DrainEvent) (d : Drain)
    (ran : run Drain.step (.new n) events = some d) :
    d.backlog.queue.length ≤ n ∧
      d.delivered.map some = d.given.map (placed d.offered) ∧
      (d.given.filterMap id : List Nat).Pairwise (· < ·) ∧
      (d.backlog.queue = [] → ∀ k < d.offered.length, some k ∉ d.given →
        ∃ i : Nat, d.given[i]? = some none ∧ ∀ j m : Nat, d.given[j]? = some (some m) →
          (m < k → j < i) ∧ (k < m → i < j)) ∧
      (d.point = .waiting false → d.backlog.queue = [] ∧ d.backlog.closed = false) := by
  have h : Drained n d := by
    have always : Meets Drain.step (fun _ _ => True) (.new n) events :=
      meets_of_forall (fun _ _ _ => trivial) _
    exact run_invariant (fun s e t inv _ stepped => inv.step pos stepped) (Drained.new n) always ran
  obtain ⟨middle, given, queued⟩ := h.accounts
  refine ⟨h.room, h.delivered, accounts_sorted given,
    fun drained k below missing => ?_, h.sleeps⟩
  have empty : d.queued = [] := by
    have same := h.queue
    rw [drained] at same
    exact List.map_eq_nil_iff.mp same.symm
  rw [empty] at queued
  have complete : middle = d.offered.length := queued
  exact accounts_gap given (Nat.zero_le k) (complete ▸ below) missing

def burst : List DrainEvent :=
  [.next, .offer (.resync .streamOpened), .resume, .offer .unavailable, .offer .unavailable,
    .offer .unavailable, .offer (.resync .reconnected), .next, .next]

theorem drain_noSilentGap_burst :
    ∃ d, run Drain.step (.new 2) burst = some d ∧
      d.delivered = [.resync .streamOpened, .resync .overflow, .resync .reconnected] ∧
      d.given = [some 0, none, some 4] ∧
      ∃ i : Nat, d.given[i]? = some none ∧ ∀ j m : Nat, d.given[j]? = some (some m) →
        (m < 2 → j < i) ∧ (2 < m → i < j) := by
  have ran : run Drain.step (.new 2) burst = some (runD Drain.step (.new 2) burst) :=
    run_eq_runD (by decide)
  have result := drain_noSilentGap 2 (by decide) burst _ ran
  exact ⟨_, ran, by decide, by decide, result.2.2.2.1 (by decide) 2 (by decide) (by decide)⟩

end CaseSorter.Web
