import CaseSorter.Lib.Runs
import CaseSorter.Vision.Autonomy

/-! The sorts of one captured frame. The camera fills a buffer, the suggestion loop stores
a row for the newest frame at every tick, and the autonomy loop submits the newest row
under a key that names the row. A frame that is suggested again after it has been sorted
has a row of its own, which no attempt and no key covers. -/

namespace CaseSorter.Vision

open CaseSorter.Runs

/-- The last captured frames, by the number of their capture, oldest first. -/
structure FrameBuffer where
  capacity : Nat
  frames : List Nat
  positive : 0 < capacity
  bounded : frames.length ≤ capacity

namespace FrameBuffer

def new (capacity : Nat) (positive : 0 < capacity) : FrameBuffer :=
  ⟨capacity, [], positive, Nat.zero_le _⟩

def add (buffer : FrameBuffer) (frame : Nat) : FrameBuffer where
  capacity := buffer.capacity
  frames := (buffer.frames ++ [frame]).drop (buffer.frames.length + 1 - buffer.capacity)
  positive := buffer.positive
  bounded := by
    rw [List.length_drop, List.length_append, List.length_singleton]
    omega

def latest (buffer : FrameBuffer) : Option Nat := buffer.frames.getLast?

end FrameBuffer

/-- An autonomous sort the daemon has admitted, and when its deduplication entry expires. -/
structure SortOperation where
  operationId : Nat
  call : SortCall
  expiresAt : Nat
  deriving Repr, DecidableEq

inductive Verdict
  | unavailable
  | refuses
  | admits
  deriving Repr, DecidableEq

/-- The operations of the daemon, and how long a key stays bound to one. -/
structure Ledger where
  timeToLive : Nat
  operations : List SortOperation
  deriving Repr, DecidableEq

namespace Ledger

def bound (ledger : Ledger) (key : String) (now : Nat) : Option SortOperation :=
  ledger.operations.find? fun operation =>
    operation.call.idempotencyKey = key ∧ now < operation.expiresAt

def stored (ledger : Ledger) (key : String) : Bool :=
  ledger.operations.any fun operation => operation.call.idempotencyKey = key

/-- `POST /v1/operations/sort`: a live key replays its operation, or conflicts with it. -/
def submit (ledger : Ledger) (call : SortCall) (now : Nat) (verdict : Verdict) :
    Option Nat × Ledger :=
  if verdict = .unavailable then (none, ledger)
  else
    match ledger.bound call.idempotencyKey now with
    | some operation =>
      (if operation.call.slot = call.slot then some operation.operationId else none, ledger)
    | none =>
      -- the entry of a key is its row by primary key: beside an expired one the INSERT fails,
      -- nothing is admitted, and storage is unavailable from there on
      if verdict = .refuses || ledger.stored call.idempotencyKey then (none, ledger)
      else
        (some ledger.operations.length,
          { ledger with operations := ledger.operations ++
              [⟨ledger.operations.length, call, now + ledger.timeToLive⟩] })

end Ledger

variable {C : Type} [LinearOrder C]

/-- The `submit_sort` call that a tick of the autonomist makes. -/
def Service.proposal (thresholds : Thresholds C) (service : Service C) (generation : Option Int) :
    Option SortCall :=
  match service.latestSuggestion, generation with
  | some record, some generation =>
    if !service.autonomousAttemptExists record.suggestionId &&
        mayAutonomouslySort ⟨record.suggestedSlot, record.confidence, record.primerPresent⟩
          thresholds then
      some ⟨record.suggestedSlot, generation, idempotencyKey record.suggestionId⟩
    else none
  | _, _ => none

/-- The camera, the two loops and the daemon. `frameOf` has the frame of each stored row,
its `frame_captured_at`. -/
structure Loops (C : Type) where
  service : Service C
  buffer : FrameBuffer
  captured : Nat
  frameOf : List (Nat × Nat)
  ledger : Ledger

/-- One step of the camera, of a loop or of the operator's routing. A reply of the daemon
may be lost, and the attempt's row may fail to commit. -/
inductive LoopEvent (C : Type) where
  | startRouting (profile : RoutingProfile)
  | stopRouting
  | capture
  | suggest (classified : Option (Suggestion C))
  | attempt (generation : Option Int) (now : Nat) (verdict : Verdict) (lost stored : Bool)

namespace Loops

def new (capacity : Nat) (positive : 0 < capacity) (timeToLive : Nat) : Loops C :=
  ⟨Service.new, .new capacity positive, 0, [], ⟨timeToLive, []⟩⟩

/-- `suggest_once` on the newest frame; a row is stored with the frame it is about. -/
def suggestFrame (loops : Loops C) (frame : Nat) (classified : Option (Suggestion C)) : Loops C :=
  let service := loops.service.suggestOnce classified
  { loops with
    service := service
    frameOf :=
      if service.suggestions.length = loops.service.suggestions.length then loops.frameOf
      else loops.frameOf ++ [(loops.service.nextSuggestionId, frame)] }

def attemptAt (thresholds : Thresholds C) (loops : Loops C) (generation : Option Int) (now : Nat)
    (verdict : Verdict) (lost stored : Bool) : Loops C :=
  match loops.service.proposal thresholds generation with
  | none =>
    { loops with service := loops.service.attemptOnce thresholds ⟨generation, none, stored⟩ }
  | some call =>
    let (operation, ledger) := loops.ledger.submit call now verdict
    let reply := if lost then none else operation.map toString
    { loops with
      service := loops.service.attemptOnce thresholds ⟨generation, reply, stored⟩
      ledger := ledger }

def step (thresholds : Thresholds C) (loops : Loops C) : LoopEvent C → Option (Loops C)
  | .startRouting profile =>
    some { loops with service := loops.service.step thresholds (.startRouting profile) }
  | .stopRouting => some { loops with service := loops.service.step thresholds .stopRouting }
  | .capture => some { loops with
      buffer := loops.buffer.add loops.captured
      captured := loops.captured + 1 }
  | .suggest classified =>
    match loops.buffer.latest with
    | none => some loops
    | some frame => some (loops.suggestFrame frame classified)
  | .attempt generation now verdict lost stored =>
    some (loops.attemptAt thresholds generation now verdict lost stored)

def Sorts (loops : Loops C) (operation : SortOperation) (frame : Nat) : Prop :=
  ∃ n, operation.call.idempotencyKey = idempotencyKey n ∧ (n, frame) ∈ loops.frameOf

instance (loops : Loops C) (operation : SortOperation) (frame : Nat) :
    Decidable (loops.Sorts operation frame) :=
  decidable_of_iff (∃ row ∈ loops.frameOf,
      operation.call.idempotencyKey = idempotencyKey row.1 ∧ row.2 = frame)
    ⟨fun ⟨row, member, key, about⟩ => ⟨row.1, key, about ▸ member⟩,
      fun ⟨n, key, about⟩ => ⟨(n, frame), about, key, rfl⟩⟩

/-- No two operations are for the same frame. -/
def OneSortPerFrame (loops : Loops C) : Prop :=
  loops.ledger.operations.Pairwise fun operation other =>
    ∀ frame, ¬ (loops.Sorts operation frame ∧ loops.Sorts other frame)

/-- A suggestion tick stores no row that may sort for a frame that has been sorted. -/
def Fresh (thresholds : Thresholds C) (loops : Loops C) : LoopEvent C → Prop
  | .suggest classified =>
    ∀ frame suggestion slot, loops.buffer.latest = some frame → classified = some suggestion →
      (loops.service.routing.route suggestion.slot).1 = .ok slot →
      mayAutonomouslySort ⟨slot, suggestion.confidence, suggestion.primerPresent⟩
        thresholds = true →
      ∀ operation ∈ loops.ledger.operations, ¬ loops.Sorts operation frame
  | _ => True

theorem proposal_eq_some {thresholds : Thresholds C} {service : Service C}
    {generation : Option Int} {call : SortCall}
    (h : service.proposal thresholds generation = some call) :
    ∃ record, service.latestSuggestion = some record ∧
      mayAutonomouslySort ⟨record.suggestedSlot, record.confidence, record.primerPresent⟩
        thresholds = true ∧
      call.idempotencyKey = idempotencyKey record.suggestionId := by
  unfold Service.proposal at h
  split at h
  · rename_i record g latest
    split_ifs at h with open'
    cases h
    rw [Bool.and_eq_true, Bool.not_eq_true'] at open'
    exact ⟨record, latest, open'.2, rfl⟩
  · cases h

theorem submit_cases (ledger : Ledger) (call : SortCall) (now : Nat) (verdict : Verdict) :
    (ledger.submit call now verdict).2 = ledger ∨
      ledger.stored call.idempotencyKey = false ∧
        ∃ operation : SortOperation, operation.call = call ∧
          (ledger.submit call now verdict).2 =
            { ledger with operations := ledger.operations ++ [operation] } := by
  unfold Ledger.submit
  by_cases unavailable : verdict = .unavailable
  · exact .inl (by rw [if_pos unavailable])
  · rw [if_neg unavailable]
    cases ledger.bound call.idempotencyKey now with
    | some operation => exact .inl rfl
    | none =>
      by_cases closed : (verdict = .refuses || ledger.stored call.idempotencyKey) = true
      · exact .inl (by simp only [if_pos closed])
      · have free : ledger.stored call.idempotencyKey = false := by simp_all
        refine .inr
          ⟨free, ⟨ledger.operations.length, call, now + ledger.timeToLive⟩, rfl, ?_⟩
        simp only [if_neg closed]

/-- Rows are numbered upwards, each has its frame, every operation is for one of them, and
no row that may sort is about a frame that an operation of an older row has sorted. -/
structure Kept (thresholds : Thresholds C) (loops : Loops C) : Prop where
  ids : loops.frameOf.map Prod.fst = loops.service.suggestions.map (·.suggestionId)
  ordered : (loops.frameOf.map Prod.fst).Pairwise (· < ·)
  given : ∀ n ∈ loops.frameOf.map Prod.fst, n < loops.service.nextSuggestionId
  keyed : ∀ operation ∈ loops.ledger.operations,
    ∃ n ∈ loops.frameOf.map Prod.fst, operation.call.idempotencyKey = idempotencyKey n
  spent : ∀ operation ∈ loops.ledger.operations, ∀ n frame,
    operation.call.idempotencyKey = idempotencyKey n → (n, frame) ∈ loops.frameOf →
      ∀ record ∈ loops.service.suggestions, n < record.suggestionId →
        (record.suggestionId, frame) ∈ loops.frameOf →
          mayAutonomouslySort ⟨record.suggestedSlot, record.confidence, record.primerPresent⟩
            thresholds = false
  apart : loops.OneSortPerFrame

variable {thresholds : Thresholds C}

omit [LinearOrder C] in
theorem id_mem {loops : Loops C} {n frame : Nat} (member : (n, frame) ∈ loops.frameOf) :
    n ∈ loops.frameOf.map Prod.fst := List.mem_map_of_mem member

theorem Kept.le_latest {loops : Loops C} (h : Kept thresholds loops)
    {record : SuggestionRecord C} (latest : loops.service.latestSuggestion = some record) {n : Nat}
    (member : n ∈ loops.frameOf.map Prod.fst) : n ≤ record.suggestionId := by
  obtain ⟨older, rows⟩ := List.getLast?_eq_some_iff.mp latest
  have ordered := h.ordered
  rw [h.ids, rows, List.map_append, List.map_singleton] at ordered member
  rcases List.mem_append.mp member with old | new
  · exact Nat.le_of_lt ((List.pairwise_append.mp ordered).2.2 n old _ (List.mem_singleton_self _))
  · exact Nat.le_of_eq (List.mem_singleton.mp new)

theorem Kept.same {loops later : Loops C} (h : Kept thresholds loops)
    (rows : later.service.suggestions = loops.service.suggestions)
    (next : later.service.nextSuggestionId = loops.service.nextSuggestionId)
    (frames : later.frameOf = loops.frameOf)
    (operations : later.ledger.operations = loops.ledger.operations) : Kept thresholds later where
  ids := by rw [frames, rows, h.ids]
  ordered := by rw [frames]; exact h.ordered
  given := by rw [frames, next]; exact h.given
  keyed := by rw [frames, operations]; exact h.keyed
  spent := by rw [frames, operations, rows]; exact h.spent
  apart := by
    unfold OneSortPerFrame Sorts
    rw [frames, operations]
    exact h.apart

theorem Kept.suggested {loops : Loops C} (h : Kept thresholds loops) {frame : Nat} {slot : Int}
    {suggestion : Suggestion C} {later : Loops C}
    (rows : later.service.suggestions = loops.service.suggestions ++
      [⟨loops.service.nextSuggestionId, slot, suggestion.confidence, suggestion.primerPresent⟩])
    (next : later.service.nextSuggestionId = loops.service.nextSuggestionId + 1)
    (frames : later.frameOf = loops.frameOf ++ [(loops.service.nextSuggestionId, frame)])
    (operations : later.ledger.operations = loops.ledger.operations)
    (fresh : mayAutonomouslySort ⟨slot, suggestion.confidence, suggestion.primerPresent⟩
      thresholds = true → ∀ operation ∈ loops.ledger.operations,
        ¬ loops.Sorts operation frame) :
    Kept thresholds later := by
  -- an operation is for an old row, whose frame has not changed
  have old : ∀ operation ∈ loops.ledger.operations, ∀ n f,
      operation.call.idempotencyKey = idempotencyKey n → (n, f) ∈ later.frameOf →
        (n, f) ∈ loops.frameOf := by
    intro operation member n f key about
    obtain ⟨m, numbered, own⟩ := h.keyed operation member
    obtain rfl := idempotencyKey_inj (own.symm.trans key)
    rw [frames] at about
    rcases List.mem_append.mp about with before | new
    · exact before
    · cases List.mem_singleton.mp new
      exact absurd (h.given _ numbered) (Nat.lt_irrefl _)
  refine ⟨?_, ?_, ?_, ?_, ?_, ?_⟩
  · rw [frames, rows, List.map_append, List.map_append, h.ids]
    rfl
  · rw [frames, List.map_append, List.map_singleton, List.pairwise_append]
    refine ⟨h.ordered, List.pairwise_singleton _ _, fun n before m new => ?_⟩
    rw [List.mem_singleton.mp new]
    exact h.given n before
  · rw [frames, next, List.map_append, List.map_singleton]
    intro n member
    rcases List.mem_append.mp member with before | new
    · exact Nat.lt_succ_of_lt (h.given n before)
    · rw [List.mem_singleton.mp new]
      exact Nat.lt_succ_self _
  · rw [frames, operations, List.map_append]
    intro operation member
    obtain ⟨n, numbered, key⟩ := h.keyed operation member
    exact ⟨n, List.mem_append_left _ numbered, key⟩
  · rw [operations, rows]
    intro operation member n f key about record among after later'
    have before := old operation member n f key about
    rcases List.mem_append.mp among with row | new
    · refine h.spent operation member n f key before record row after ?_
      rw [frames] at later'
      rcases List.mem_append.mp later' with there | new
      · exact there
      · have last : record.suggestionId = loops.service.nextSuggestionId :=
          congrArg Prod.fst (List.mem_singleton.mp new)
        have numbered := h.given record.suggestionId (h.ids ▸ List.mem_map_of_mem row)
        omega
    · cases List.mem_singleton.mp new
      by_contra may
      rw [Bool.not_eq_false] at may
      rw [frames] at later'
      have same : f = frame := by
        rcases List.mem_append.mp later' with there | new
        · exact absurd (h.given _ (id_mem there)) (Nat.lt_irrefl _)
        · exact congrArg Prod.snd (List.mem_singleton.mp new)
      exact fresh may operation member ⟨n, key, same ▸ before⟩
  · unfold OneSortPerFrame
    rw [operations]
    refine h.apart.imp_of_mem fun {a b} first second distinct f both => distinct f ?_
    obtain ⟨⟨n, key, about⟩, m, key', about'⟩ := both
    exact ⟨⟨n, key, old a first n f key about⟩, m, key', old b second m f key' about'⟩

theorem Kept.attempted {loops : Loops C} (h : Kept thresholds loops) {later : Loops C}
    {record : SuggestionRecord C} {operation : SortOperation}
    (latest : loops.service.latestSuggestion = some record)
    (may : mayAutonomouslySort ⟨record.suggestedSlot, record.confidence, record.primerPresent⟩
      thresholds = true)
    (key : operation.call.idempotencyKey = idempotencyKey record.suggestionId)
    (free : ∀ other ∈ loops.ledger.operations,
      other.call.idempotencyKey ≠ idempotencyKey record.suggestionId)
    (rows : later.service.suggestions = loops.service.suggestions)
    (next : later.service.nextSuggestionId = loops.service.nextSuggestionId)
    (frames : later.frameOf = loops.frameOf)
    (operations : later.ledger.operations = loops.ledger.operations ++ [operation]) :
    Kept thresholds later := by
  have stored : record ∈ loops.service.suggestions := List.mem_of_getLast? latest
  have numbered : record.suggestionId ∈ loops.frameOf.map Prod.fst :=
    h.ids ▸ List.mem_map_of_mem stored
  refine ⟨?_, ?_, ?_, ?_, ?_, ?_⟩
  · rw [frames, rows, h.ids]
  · rw [frames]
    exact h.ordered
  · rw [frames, next]
    exact h.given
  · rw [frames, operations]
    intro other member
    rcases List.mem_append.mp member with before | new
    · exact h.keyed other before
    · rw [List.mem_singleton.mp new]
      exact ⟨record.suggestionId, numbered, key⟩
  · rw [frames, operations, rows]
    intro other member n frame own about row among after
    rcases List.mem_append.mp member with before | new
    · exact h.spent other before n frame own about row among after
    · -- no row is newer than the newest
      rw [List.mem_singleton.mp new] at own
      obtain rfl := idempotencyKey_inj (key.symm.trans own)
      have bound := h.le_latest latest (h.ids ▸ List.mem_map_of_mem among)
      omega
  · unfold OneSortPerFrame Sorts
    rw [frames, operations, List.pairwise_append]
    refine ⟨h.apart, List.pairwise_singleton _ _, fun other before new member frame both => ?_⟩
    rw [List.mem_singleton.mp member] at both
    obtain ⟨⟨n, own, about⟩, m, key', about'⟩ := both
    obtain rfl := idempotencyKey_inj (key.symm.trans key')
    have older : n < record.suggestionId := by
      refine Nat.lt_of_le_of_ne (h.le_latest latest (id_mem about)) fun same => ?_
      exact free other before (same ▸ own)
    rw [h.spent other before n frame own about record stored older about'] at may
    cases may

theorem kept_new (capacity : Nat) (positive : 0 < capacity) (timeToLive : Nat) :
    Kept thresholds (new capacity positive timeToLive) where
  ids := rfl
  ordered := List.Pairwise.nil
  given := fun _ member => absurd member List.not_mem_nil
  keyed := fun _ member => absurd member List.not_mem_nil
  spent := fun _ member => absurd member List.not_mem_nil
  apart := List.Pairwise.nil

theorem attemptOnce_rows (thresholds : Thresholds C) (service : Service C) (answers : Answers) :
    (service.attemptOnce thresholds answers).suggestions = service.suggestions ∧
      (service.attemptOnce thresholds answers).nextSuggestionId = service.nextSuggestionId := by
  unfold Service.attemptOnce
  repeat' split
  all_goals exact ⟨rfl, rfl⟩

theorem kept_attemptAt {loops : Loops C} (h : Kept thresholds loops) {generation : Option Int}
    {now : Nat} {verdict : Verdict} {lost stored : Bool} :
    Kept thresholds (loops.attemptAt thresholds generation now verdict lost stored) := by
  unfold attemptAt
  split
  · obtain ⟨rows, next⟩ :=
      attemptOnce_rows thresholds loops.service ⟨generation, none, stored⟩
    exact h.same rows next rfl rfl
  · rename_i call proposed
    obtain ⟨record, latest, may, key⟩ := proposal_eq_some proposed
    obtain ⟨rows, next⟩ := attemptOnce_rows thresholds loops.service ⟨generation,
      if lost then none else (loops.ledger.submit call now verdict).1.map toString, stored⟩
    rcases submit_cases loops.ledger call now verdict with unchanged |
      ⟨free, operation, own, new⟩
    · exact h.same rows next rfl (congrArg Ledger.operations unchanged)
    · refine h.attempted latest may (own ▸ key) (fun other member same => ?_) rows next rfl
        (congrArg Ledger.operations new)
      -- an operation for the newest row has left its entry, so the call was not new
      refine List.any_eq_false.mp free other member ?_
      simp [same, key]

theorem kept_suggestFrame {loops : Loops C} (h : Kept thresholds loops) {frame : Nat}
    {classified : Option (Suggestion C)} (latest : loops.buffer.latest = some frame)
    (fresh : Fresh thresholds loops (.suggest classified)) :
    Kept thresholds (loops.suggestFrame frame classified) := by
  cases classified with
  | none => exact h.same rfl rfl (if_pos rfl) rfl
  | some suggestion =>
    cases routed : (loops.service.routing.route suggestion.slot).1 with
    | error fault =>
      have kept : loops.service.suggestOnce (some suggestion) =
          { loops.service with
            routing := (loops.service.routing.route suggestion.slot).2 } := by
        simp only [Service.suggestOnce]
        split
        · rename_i equal
          rw [equal]
        · rename_i equal
          rw [equal] at routed
          cases routed
      unfold suggestFrame
      rw [kept]
      exact h.same rfl rfl (if_pos rfl) rfl
    | ok slot =>
      have stored : loops.service.suggestOnce (some suggestion) =
          ({ loops.service with
            routing := (loops.service.routing.route suggestion.slot).2 }).recordSuggestion slot
              suggestion := by
        simp only [Service.suggestOnce]
        split
        · rename_i equal
          rw [equal] at routed
          cases routed
        · rename_i equal
          rw [equal] at routed ⊢
          cases routed
          rfl
      unfold suggestFrame
      rw [stored]
      refine @Kept.suggested _ _ _ _ h frame slot suggestion _ rfl rfl (if_neg ?_) rfl
        fun may operation member => ?_
      · simp [Service.recordSuggestion]
      · exact fresh frame suggestion slot latest rfl routed may operation member

theorem kept_step {loops later : Loops C} {event : LoopEvent C} (h : Kept thresholds loops)
    (fresh : Fresh thresholds loops event) (stepped : loops.step thresholds event = some later) :
    Kept thresholds later := by
  cases event with
  | startRouting profile => cases stepped; exact h.same rfl rfl rfl rfl
  | stopRouting => cases stepped; exact h.same rfl rfl rfl rfl
  | capture => cases stepped; exact h.same rfl rfl rfl rfl
  | suggest classified =>
    simp only [step] at stepped
    split at stepped
    · cases stepped; exact h
    · rename_i frame latest
      cases stepped
      exact kept_suggestFrame h latest fresh
  | attempt generation now verdict lost stored =>
    cases stepped
    exact kept_attemptAt h

/-- No captured frame is sorted twice while every row that may sort is stored before its
frame has been sorted. -/
theorem oneSort_perFrame (thresholds : Thresholds C) (capacity : Nat) (positive : 0 < capacity)
    (timeToLive : Nat) (events : List (LoopEvent C)) (loops : Loops C)
    (fresh : Meets (step thresholds) (Fresh thresholds) (new capacity positive timeToLive) events)
    (ran : run (step thresholds) (new capacity positive timeToLive) events = some loops) :
    loops.OneSortPerFrame :=
  (run_invariant (motive := Kept thresholds) (fun _ _ _ kept ok stepped =>
    kept_step kept ok stepped)
    (kept_new capacity positive timeToLive) fresh ran).apart

def round : List (LoopEvent Nat) :=
  [.capture, .suggest (some ⟨1, 7, some false⟩), .attempt (some 1) 0 .admits false true]

theorem oneSort_perFrame_twoFrames :
    Meets (step [(1, 5)]) (Fresh [(1, 5)]) (new 4 (by decide) 60) (round ++ round) ∧
      (runD (step [(1, 5)]) (new 4 (by decide) 60) (round ++ round)).ledger.operations.length =
        2 ∧
      (runD (step [(1, 5)]) (new 4 (by decide) 60) (round ++ round)).OneSortPerFrame := by
  have fresh : Meets (step [(1, 5)]) (Fresh [(1, 5)]) (new 4 (by decide) 60) (round ++ round) := by
    refine ⟨trivial, fun t ht => ?_⟩
    cases ht
    refine ⟨fun _ _ _ _ _ _ _ operation member => absurd member List.not_mem_nil,
      fun t ht => ?_⟩
    cases ht
    refine ⟨trivial, fun t ht => ?_⟩
    cases ht
    refine ⟨trivial, fun t ht => ?_⟩
    cases ht
    refine ⟨?_, fun t ht => ?_⟩
    · intro frame suggestion slot latest _ _ _
      rw [← Option.some.inj latest]
      decide +kernel
    cases ht
    refine ⟨trivial, fun t ht => ?_⟩
    cases ht
    trivial
  refine ⟨fresh, by decide +kernel, ?_⟩
  exact oneSort_perFrame [(1, 5)] 4 (by decide) 60 (round ++ round) _ fresh
    (run_eq_runD (by decide +kernel))

def frameTwice : List (LoopEvent Nat) := round ++ round.tail

theorem not_oneSort_perFrame :
    ¬ ∀ (events : List (LoopEvent Nat)) (loops : Loops Nat),
      run (step [(1, 5)]) (new 4 (by decide) 60) events = some loops → loops.OneSortPerFrame := by
  intro claim
  have one := claim frameTwice _ (run_eq_runD (by decide +kernel))
  have sorted : (runD (step [(1, 5)]) (new 4 (by decide) 60) frameTwice).ledger.operations =
      [⟨0, ⟨1, 1, idempotencyKey 1⟩, 60⟩, ⟨1, ⟨1, 1, idempotencyKey 2⟩, 60⟩] :=
        by decide +kernel
  have frames : (runD (step [(1, 5)]) (new 4 (by decide) 60) frameTwice).frameOf =
      [(1, 0), (2, 0)] := by decide +kernel
  unfold OneSortPerFrame Sorts at one
  rw [sorted, frames, List.pairwise_pair] at one
  exact one 0 ⟨⟨1, rfl, by decide⟩, 2, rfl, by decide⟩

end Loops
end CaseSorter.Vision
