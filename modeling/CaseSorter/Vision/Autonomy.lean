import Mathlib
import CaseSorter.Vision.Routing

/-! Confidence-gated autonomous sorting. A classification is routed to a chute and
stored as a suggestion; the autonomist reads the newest suggestion back and submits
a sort when the primer axis is clear and the confidence reaches a threshold. The
threshold table is documented per class, and the stored suggestion only knows the
chute: the main result says for which tables and routes the two agree. -/

namespace CaseSorter.Vision

/-- What one classification says; an unknown primer reading is `none`. -/
structure Suggestion (C : Type) where
  slot : Int
  confidence : C
  primerPresent : Option Bool
  deriving Repr, DecidableEq

structure SuggestionRecord (C : Type) where
  suggestionId : Nat
  suggestedSlot : Int
  confidence : C
  primerPresent : Option Bool
  deriving Repr, DecidableEq

structure AutonomousAttempt where
  suggestionId : Nat
  operationId : String
  slot : Int
  deriving Repr, DecidableEq

/-- The arguments of one `submit_sort` call. -/
structure SortCall where
  slot : Int
  generation : Int
  idempotencyKey : String
  deriving Repr, DecidableEq

def requiresOperatorConfirmation (primerPresent : Option Bool) : Bool :=
  primerPresent != some false

def idempotencyKey (suggestionId : Nat) : String := s!"autonomous-sort-{suggestionId}"

theorem idempotencyKey_inj {m n : Nat} (same : idempotencyKey m = idempotencyKey n) : m = n := by
  simp only [idempotencyKey, ToString.toString] at same
  exact Nat.repr_inj.mp (by simpa using same)

/-- The table of thresholds, by the number the suggestion carries. -/
abbrev Thresholds (C : Type) := List (Int × C)

section

variable {C : Type} [LinearOrder C]

def mayAutonomouslySort (suggestion : Suggestion C) (thresholds : Thresholds C) : Bool :=
  if requiresOperatorConfirmation suggestion.primerPresent then false
  else
    match thresholds.lookup suggestion.slot with
    | none => false
    | some threshold => threshold ≤ suggestion.confidence

def classifyFrame (probabilities : List (Int × C)) : Option (Suggestion C) :=
  (probabilities.argmax Prod.snd).map fun best => ⟨best.1, best.2, none⟩

/-- The routing session, the two tables of the dataset store the loops share, and
the `submit_sort` calls made so far. -/
structure Service (C : Type) where
  routing : RoutingSession
  nextSuggestionId : Nat
  suggestions : List (SuggestionRecord C)
  attempts : List AutonomousAttempt
  submitted : List SortCall

/-- What the daemon and the database answer during one tick of the autonomist:
`none` is a `DaemonClientError`, and `stored` says that the attempt's row commits. -/
structure Answers where
  generation : Option Int
  operationId : Option String
  stored : Bool

namespace Service

def new : Service C := ⟨RoutingSession.new, 1, [], [], []⟩

def recordSuggestion (service : Service C) (slot : Int) (suggestion : Suggestion C) : Service C :=
  { service with
    nextSuggestionId := service.nextSuggestionId + 1
    suggestions := service.suggestions ++
      [⟨service.nextSuggestionId, slot, suggestion.confidence, suggestion.primerPresent⟩] }

/-- `suggest_once`: `none` where there is no model, no frame, or no classification. -/
def suggestOnce (service : Service C) : Option (Suggestion C) → Service C
  | none => service
  | some suggestion =>
    match service.routing.route suggestion.slot with
    | (.error _, routing) => { service with routing := routing }
    | (.ok slot, routing) => { service with routing := routing }.recordSuggestion slot suggestion

def latestSuggestion (service : Service C) : Option (SuggestionRecord C) :=
  service.suggestions.getLast?

def autonomousAttemptExists (service : Service C) (suggestionId : Nat) : Bool :=
  service.attempts.any (·.suggestionId == suggestionId)

def submitSort (service : Service C) (call : SortCall) : Service C :=
  { service with submitted := service.submitted ++ [call] }

def recordAutonomousAttempt (service : Service C) (attempt : AutonomousAttempt) : Service C :=
  { service with attempts := service.attempts ++ [attempt] }

def attemptOnce (thresholds : Thresholds C) (service : Service C) (answers : Answers) :
    Service C :=
  match service.latestSuggestion with
  | none => service
  | some record =>
    if service.autonomousAttemptExists record.suggestionId then service
    else if mayAutonomouslySort
        ⟨record.suggestedSlot, record.confidence, record.primerPresent⟩ thresholds then
      match answers.generation with
      | none => service
      | some generation =>
        let called := service.submitSort
          ⟨record.suggestedSlot, generation, idempotencyKey record.suggestionId⟩
        match answers.operationId with
        | none => called
        | some operationId =>
          if answers.stored then
            called.recordAutonomousAttempt
              ⟨record.suggestionId, operationId, record.suggestedSlot⟩
          else called
    else service

end Service

/-- One step of any of the service's threads. -/
inductive ServiceEvent (C : Type) where
  | startRouting (profile : RoutingProfile)
  | stopRouting
  | suggest (classified : Option (Suggestion C))
  | attempt (answers : Answers)

namespace Service

def step (thresholds : Thresholds C) (service : Service C) : ServiceEvent C → Service C
  | .startRouting profile => { service with routing := (service.routing.start profile).2 }
  | .stopRouting => { service with routing := service.routing.stop }
  | .suggest classified => service.suggestOnce classified
  | .attempt answers => service.attemptOnce thresholds answers

def run (thresholds : Thresholds C) (service : Service C) (events : List (ServiceEvent C)) :
    Service C :=
  events.foldl (step thresholds) service

inductive Moves (thresholds : Thresholds C) (before after : Service C) : Prop where
  | kept (next : after.nextSuggestionId = before.nextSuggestionId)
      (suggestions : after.suggestions = before.suggestions)
      (attempts : after.attempts = before.attempts)
      (submitted : after.submitted = before.submitted)
  | recorded (slot : Int) (suggestion : Suggestion C)
      (next : after.nextSuggestionId = before.nextSuggestionId + 1)
      (suggestions : after.suggestions = before.suggestions ++
        [⟨before.nextSuggestionId, slot, suggestion.confidence, suggestion.primerPresent⟩])
      (attempts : after.attempts = before.attempts)
      (submitted : after.submitted = before.submitted)
  | called (record : SuggestionRecord C) (generation : Int)
      (latest : before.latestSuggestion = some record)
      (allowed : mayAutonomouslySort
        ⟨record.suggestedSlot, record.confidence, record.primerPresent⟩ thresholds = true)
      (next : after.nextSuggestionId = before.nextSuggestionId)
      (suggestions : after.suggestions = before.suggestions)
      (attempts : after.attempts = before.attempts ∨ ∃ attempt : AutonomousAttempt,
        attempt.suggestionId = record.suggestionId ∧
        after.attempts = before.attempts ++ [attempt])
      (submitted : after.submitted = before.submitted ++
        [⟨record.suggestedSlot, generation, idempotencyKey record.suggestionId⟩])

theorem suggestOnce_moves (thresholds : Thresholds C) (service : Service C)
    (classified : Option (Suggestion C)) :
    Moves thresholds service (service.suggestOnce classified) := by
  cases classified with
  | none => exact .kept rfl rfl rfl rfl
  | some suggestion =>
    simp only [suggestOnce]
    split
    · exact .kept rfl rfl rfl rfl
    · exact .recorded _ suggestion rfl rfl rfl rfl

theorem attemptOnce_moves (thresholds : Thresholds C) (service : Service C) (answers : Answers) :
    Moves thresholds service (service.attemptOnce thresholds answers) := by
  unfold attemptOnce
  split
  · exact .kept rfl rfl rfl rfl
  · rename_i record latest
    split_ifs with attempted allowed stored
    · exact .kept rfl rfl rfl rfl
    · cases answers.generation with
      | none => exact .kept rfl rfl rfl rfl
      | some generation =>
        cases answers.operationId with
        | none => exact .called record generation latest allowed rfl rfl (.inl rfl) rfl
        | some operationId =>
          refine .called record generation latest allowed rfl rfl (.inr ?_) rfl
          exact ⟨⟨record.suggestionId, operationId, record.suggestedSlot⟩, rfl, rfl⟩
    · cases answers.generation with
      | none => exact .kept rfl rfl rfl rfl
      | some generation =>
        cases answers.operationId with
        | none => exact .called record generation latest allowed rfl rfl (.inl rfl) rfl
        | some operationId => exact .called record generation latest allowed rfl rfl (.inl rfl) rfl
    · exact .kept rfl rfl rfl rfl

theorem step_moves (thresholds : Thresholds C) (service : Service C) (event : ServiceEvent C) :
    Moves thresholds service (service.step thresholds event) := by
  cases event with
  | startRouting profile => exact .kept rfl rfl rfl rfl
  | stopRouting => exact .kept rfl rfl rfl rfl
  | suggest classified => exact suggestOnce_moves thresholds service classified
  | attempt answers => exact attemptOnce_moves thresholds service answers

/-- Rows and calls only ever carry numbers the sequence has already given out. -/
structure Numbered (service : Service C) : Prop where
  records : ∀ record ∈ service.suggestions, record.suggestionId < service.nextSuggestionId
  attempts : ∀ attempt ∈ service.attempts, attempt.suggestionId < service.nextSuggestionId
  calls : ∀ call ∈ service.submitted,
    ∃ n < service.nextSuggestionId, call.idempotencyKey = idempotencyKey n

omit [LinearOrder C] in
theorem numbered_new : Numbered (new : Service C) :=
  ⟨by simp [new], by simp [new], by simp [new]⟩

theorem numbered_step {thresholds : Thresholds C} {before after : Service C}
    (moved : Moves thresholds before after) (numbered : Numbered before) : Numbered after := by
  cases moved with
  | kept next suggestions attempts submitted =>
    refine ⟨?_, ?_, ?_⟩
    · rw [suggestions, next]; exact numbered.records
    · rw [attempts, next]; exact numbered.attempts
    · rw [submitted, next]; exact numbered.calls
  | recorded slot suggestion next suggestions attempts submitted =>
    refine ⟨?_, ?_, ?_⟩
    · intro record mem
      rw [suggestions, List.mem_append, List.mem_singleton] at mem
      rw [next]
      obtain mem | rfl := mem
      · exact Nat.lt_succ_of_lt (numbered.records record mem)
      · exact Nat.lt_succ_self _
    · intro attempt mem
      rw [attempts] at mem
      rw [next]
      exact Nat.lt_succ_of_lt (numbered.attempts attempt mem)
    · intro call mem
      rw [submitted] at mem
      rw [next]
      obtain ⟨n, below, key⟩ := numbered.calls call mem
      exact ⟨n, Nat.lt_succ_of_lt below, key⟩
  | called record generation latest allowed next suggestions attempts submitted =>
    have known := numbered.records record (List.mem_of_getLast? latest)
    refine ⟨?_, ?_, ?_⟩
    · rw [suggestions, next]; exact numbered.records
    · rw [next]
      obtain same | ⟨attempt, named, more⟩ := attempts
      · rw [same]; exact numbered.attempts
      · intro other mem
        rw [more, List.mem_append, List.mem_singleton] at mem
        obtain mem | rfl := mem
        · exact numbered.attempts other mem
        · rw [named]; exact known
    · intro call mem
      rw [submitted, List.mem_append, List.mem_singleton] at mem
      rw [next]
      obtain mem | rfl := mem
      · exact numbered.calls call mem
      · exact ⟨record.suggestionId, known, rfl⟩

theorem numbered_run (thresholds : Thresholds C) {service : Service C}
    (events : List (ServiceEvent C))
    (numbered : Numbered service) : Numbered (service.run thresholds events) := by
  induction events generalizing service with
  | nil => exact numbered
  | cons event events ih => exact ih (numbered_step (step_moves thresholds service event) numbered)

/-- The gate refuses the row `record`, which is the only one of its number, and no
call has been made for it. -/
structure Refused (thresholds : Thresholds C) (record : SuggestionRecord C) (service : Service C) :
    Prop where
  refused : mayAutonomouslySort
    ⟨record.suggestedSlot, record.confidence, record.primerPresent⟩ thresholds = false
  given : record.suggestionId < service.nextSuggestionId
  only : ∀ other ∈ service.suggestions,
    other.suggestionId = record.suggestionId → other = record
  uncalled : ∀ call ∈ service.submitted,
    call.idempotencyKey ≠ idempotencyKey record.suggestionId

theorem refused_step {thresholds : Thresholds C} {record : SuggestionRecord C}
    {before after : Service C} (moved : Moves thresholds before after)
    (refused : Refused thresholds record before) : Refused thresholds record after := by
  cases moved with
  | kept next suggestions attempts submitted =>
    refine ⟨refused.refused, ?_, ?_, ?_⟩
    · rw [next]; exact refused.given
    · rw [suggestions]; exact refused.only
    · rw [submitted]; exact refused.uncalled
  | recorded slot suggestion next suggestions attempts submitted =>
    refine ⟨refused.refused, ?_, ?_, ?_⟩
    · rw [next]; exact Nat.lt_succ_of_lt refused.given
    · intro other mem same
      rw [suggestions, List.mem_append, List.mem_singleton] at mem
      obtain mem | rfl := mem
      · exact refused.only other mem same
      · exact absurd same (Nat.ne_of_gt refused.given)
    · rw [submitted]; exact refused.uncalled
  | called latestRecord generation latest allowed next suggestions attempts submitted =>
    refine ⟨refused.refused, ?_, ?_, ?_⟩
    · rw [next]; exact refused.given
    · rw [suggestions]; exact refused.only
    · intro call mem same
      rw [submitted, List.mem_append, List.mem_singleton] at mem
      obtain mem | rfl := mem
      · exact refused.uncalled call mem same
      · -- the call names this row, so the gate has let this row through
        have it := refused.only latestRecord (List.mem_of_getLast? latest)
          (idempotencyKey_inj same)
        rw [it, refused.refused] at allowed
        cases allowed

theorem refused_run {thresholds : Thresholds C} {record : SuggestionRecord C} {service : Service C}
    (events : List (ServiceEvent C)) (refused : Refused thresholds record service) :
    Refused thresholds record (service.run thresholds events) := by
  induction events generalizing service with
  | nil => exact refused
  | cons event events ih => exact ih (refused_step (step_moves thresholds service event) refused)

omit [LinearOrder C] in
theorem suggestOnce_routed {service : Service C} {suggestion : Suggestion C} {slot : Int}
    (routed : (service.routing.route suggestion.slot).1 = .ok slot) :
    service.suggestOnce (some suggestion) =
      { service with routing := (service.routing.route suggestion.slot).2 }.recordSuggestion
        slot suggestion := by
  rw [suggestOnce]
  generalize service.routing.route suggestion.slot = result at routed ⊢
  obtain ⟨answer, routing⟩ := result
  cases routed
  rfl

end Service

/-- The per-class gate: the class has an entry, and the confidence reaches it. -/
def ClassMaySort (thresholds : Thresholds C) (classId : Int) (confidence : C) : Prop :=
  ∃ threshold, thresholds.lookup classId = some threshold ∧ threshold ≤ confidence

/-- The chute's entry is no easier to reach than the entry of the class sent there. -/
def ChuteNoEasier (thresholds : Thresholds C) (classId slot : Int) : Prop :=
  ∀ chute, thresholds.lookup slot = some chute →
    ∃ threshold, thresholds.lookup classId = some threshold ∧ threshold ≤ chute

theorem mayAutonomouslySort_clear {thresholds : Thresholds C} {slot : Int} {confidence : C} :
    mayAutonomouslySort ⟨slot, confidence, some false⟩ thresholds = true ↔
      ClassMaySort thresholds slot confidence := by
  simp only [mayAutonomouslySort, requiresOperatorConfirmation, bne_self_eq_false,
    Bool.false_eq_true, if_false, ClassMaySort]
  cases thresholds.lookup slot with
  | none => simp
  | some threshold => simp

theorem ChuteNoEasier.refuses {thresholds : Thresholds C} {classId slot : Int} {confidence : C}
    (noEasier : ChuteNoEasier thresholds classId slot)
    (barred : ¬ ClassMaySort thresholds classId confidence) :
    mayAutonomouslySort ⟨slot, confidence, some false⟩ thresholds = false := by
  rw [Bool.eq_false_iff]
  intro allowed
  obtain ⟨chute, found, reached⟩ := mayAutonomouslySort_clear.mp allowed
  obtain ⟨threshold, entry, below⟩ := noEasier chute found
  exact barred ⟨threshold, entry, below.trans reached⟩

theorem classifyFrame_waits {probabilities : List (Int × C)} {suggestion : Suggestion C}
    (classified : classifyFrame probabilities = some suggestion) (thresholds : Thresholds C) :
    mayAutonomouslySort suggestion thresholds = false := by
  rw [classifyFrame, Option.map_eq_some_iff] at classified
  obtain ⟨best, _, rfl⟩ := classified
  simp [mayAutonomouslySort, requiresOperatorConfirmation]

/-- Whether the gate by chute keeps the gate by class, for a class the suggester
records from any state of the service: exactly when the entry of the chute it is
routed to is no easier to reach than its own. -/
theorem classGate_kept_iff (thresholds : Thresholds C) (events : List (ServiceEvent C))
    (classId slot : Int)
    (routed : (((Service.new : Service C).run thresholds events).routing.route classId).1
      = .ok slot) :
    (∀ confidence, ¬ ClassMaySort thresholds classId confidence → ∀ later,
      ∀ call ∈ (((Service.new : Service C).run thresholds events).run thresholds
          (.suggest (some ⟨classId, confidence, some false⟩) :: later)).submitted,
        call.idempotencyKey ≠
          idempotencyKey ((Service.new : Service C).run thresholds events).nextSuggestionId) ↔
      ChuteNoEasier thresholds classId slot := by
  have numbered := Service.numbered_run thresholds events Service.numbered_new
  generalize (Service.new : Service C).run thresholds events = service at routed numbered ⊢
  have records (confidence : C) :=
    @Service.suggestOnce_routed _ service ⟨classId, confidence, some false⟩ _ routed
  constructor
  · intro silent chute found
    by_contra easier
    have barred : ¬ ClassMaySort thresholds classId chute := by
      rintro ⟨threshold, entry, reached⟩
      exact easier ⟨threshold, entry, reached⟩
    -- one tick of the autonomist right after the row is written makes the call
    have fresh : service.autonomousAttemptExists service.nextSuggestionId = false := by
      rw [Service.autonomousAttemptExists, List.any_eq_false]
      intro attempt mem
      simpa using (numbered.attempts attempt mem).ne
    have allowed : mayAutonomouslySort ⟨slot, chute, some false⟩ thresholds = true :=
      mayAutonomouslySort_clear.mpr ⟨chute, found, le_rfl⟩
    refine silent chute barred [.attempt ⟨some 0, none, false⟩]
      ⟨slot, 0, idempotencyKey service.nextSuggestionId⟩ ?_ rfl
    simp only [Service.run, List.foldl_cons, List.foldl_nil, Service.step, records,
      Service.attemptOnce, Service.latestSuggestion, Service.recordSuggestion,
      List.getLast?_append, List.getLast?_singleton]
    simp only [Service.autonomousAttemptExists] at fresh ⊢
    simp [fresh, allowed, Service.submitSort]
  · intro noEasier confidence barred later
    have refused : Service.Refused thresholds
        ⟨service.nextSuggestionId, slot, confidence, some false⟩
        (service.step thresholds (.suggest (some ⟨classId, confidence, some false⟩))) := by
      simp only [Service.step, records, Service.recordSuggestion]
      refine ⟨noEasier.refuses barred, Nat.lt_succ_self _, ?_, ?_⟩
      · intro other mem same
        simp only [List.mem_append, List.mem_singleton] at mem
        obtain mem | rfl := mem
        · exact absurd same (numbered.records other mem).ne
        · rfl
      · intro call mem same
        obtain ⟨n, below, key⟩ := numbered.calls call mem
        exact below.ne (idempotencyKey_inj (key.symm.trans same))
    exact (Service.refused_run later refused).uncalled

end

def fifthToFirst : RoutingProfile := .fixed ⟨[(5, 1)], 2⟩

theorem classGate_kept_fifthToFirst :
    ((Service.new.run [((1 : Int), (3/4 : ℚ)), (5, 1/2)]
      [.startRouting fifthToFirst]).routing.route 5).1 = .ok 1 ∧
    ∀ confidence, ¬ ClassMaySort [(1, (3/4 : ℚ)), (5, 1/2)] 5 confidence → ∀ later,
      ∀ call ∈ ((Service.new.run [(1, (3/4 : ℚ)), (5, 1/2)] [.startRouting fifthToFirst]).run
          [(1, (3/4 : ℚ)), (5, 1/2)]
          (.suggest (some ⟨5, confidence, some false⟩) :: later)).submitted,
        call.idempotencyKey ≠ idempotencyKey 1 := by
  refine ⟨by decide +kernel, ?_⟩
  refine (classGate_kept_iff [(1, (3/4 : ℚ)), (5, 1/2)] [.startRouting fifthToFirst] 5 1
    (by decide +kernel)).mpr ?_
  intro chute found
  cases found
  exact ⟨1/2, by decide +kernel, by norm_num⟩

/-- Class 5 has no entry, is routed to chute 1, and is sorted on the entry of class 1. -/
theorem classGate_lost :
    ¬ ∀ (thresholds : Thresholds ℚ) (events : List (ServiceEvent ℚ)) (classId slot : Int),
      ((Service.new.run thresholds events).routing.route classId).1 = .ok slot →
      ∀ confidence, ¬ ClassMaySort thresholds classId confidence → ∀ later,
        ∀ call ∈ ((Service.new.run thresholds events).run thresholds
            (.suggest (some ⟨classId, confidence, some false⟩) :: later)).submitted,
          call.idempotencyKey ≠
            idempotencyKey (Service.new.run thresholds events).nextSuggestionId := by
  intro claim
  have barred : ¬ ClassMaySort [((1 : Int), (1/2 : ℚ))] 5 (3/5) := by
    rintro ⟨threshold, found, _⟩
    cases found
  exact claim [(1, 1/2)] [.startRouting fifthToFirst] 5 1 (by decide +kernel) (3/5) barred
    [.attempt ⟨some 4, some "operation", true⟩] ⟨1, 4, "autonomous-sort-1"⟩
    (by decide +kernel) (by decide +kernel)

end CaseSorter.Vision
